import TransactSql.Decimal.Rounding
import TransactSql.Json.Parser
import TransactSql.Toml.Basic

/-!
# Numbers, dates and times in TOML

What stands in a document without quotes: truth values, whole numbers in four bases, numbers with
a fraction, dates and times.
-/

namespace TransactSql.Toml

/-- The digits of a run; single underscores may stand between them. -/
def digits? (isDigit : Char → Bool) : List Char → Option (List Char)
  | [] => none
  | [c] => if isDigit c then some [c] else none
  | c :: d :: rest =>
    if !isDigit c then none
    else if d = '_' then (digits? isDigit rest).map (c :: ·)
    else (digits? isDigit (d :: rest)).map (c :: ·)

/-- The value of digits in a base. -/
def valueOf (base : Nat) (digits : List Char) : Nat :=
  digits.foldl (fun n c => n * base + (Json.hexDigit? c).getD 0) 0

/-- The digits of a number in base ten, which has no leading zeros. -/
def decimalDigits? (cs : List Char) : Option (List Char) :=
  match digits? Char.isDigit cs with
  | some ('0' :: _ :: _) => none
  | digits => digits

/-- Splits off a sign. -/
def takeSign : List Char → Bool × List Char
  | '-' :: rest => (true, rest)
  | '+' :: rest => (false, rest)
  | cs => (false, cs)

/-- A number in base ten with its sign. -/
def decimal? (cs : List Char) : Option Int :=
  let (negative, cs) := takeSign cs
  (decimalDigits? cs).map fun digits =>
    if negative then -(valueOf 10 digits : Int) else valueOf 10 digits

/-- A whole number. Those in another base have no sign, and none has more than 128 bits. -/
def integer? (cs : List Char) : Option Toml :=
  let n : Option Int :=
    match cs with
    | '0' :: 'x' :: rest =>
      (digits? (fun c => (Json.hexDigit? c).isSome) rest).map (valueOf 16 ·)
    | '0' :: 'o' :: rest => (digits? (fun c => '0' ≤ c && c ≤ '7') rest).map (valueOf 8 ·)
    | '0' :: 'b' :: rest => (digits? (fun c => c == '0' || c == '1') rest).map (valueOf 2 ·)
    | cs => decimal? cs
  n.bind fun n =>
    if -(Decimal.twoTo 127 : Int) ≤ n && n < Decimal.twoTo 128 then some (.integer n) else none

/-- Whether a character starts an exponent. -/
def isExponentMark (c : Char) : Bool :=
  c == 'e' || c == 'E'

/-- The number that an exponent writes; it may have leading zeros. -/
def exponent? (cs : List Char) : Option Int :=
  let (negative, cs) := takeSign cs
  (digits? Char.isDigit cs).map fun digits =>
    if negative then -(valueOf 10 digits : Int) else valueOf 10 digits

/-- A number with a fraction, an exponent or both, or one that is not finite. One that is too
large to hold is refused. -/
def float? (cs : List Char) : Option Toml := do
  let (negative, cs) := takeSign cs
  if cs = ['i', 'n', 'f'] then return .float (.infinity negative)
  else if cs = ['n', 'a', 'n'] then
    return .float ⟨if negative then 0xFFF8000000000000 else 0x7FF8000000000000⟩
  else
    let mantissa := cs.takeWhile (!isExponentMark ·)
    let exponent ←
      match cs.dropWhile (!isExponentMark ·) with
      | [] => some none
      | _ :: rest => (exponent? rest).map some
    let whole ← decimalDigits? (mantissa.takeWhile (· != '.'))
    let fraction ←
      match mantissa.dropWhile (· != '.') with
      | [] => some none
      | _ :: rest => (digits? Char.isDigit rest).map some
    if fraction.isNone && exponent.isNone then none
    else
      let fraction := fraction.getD []
      let x := Binary64.ofDecimal negative (valueOf 10 (whole ++ fraction))
        (exponent.getD 0 - fraction.length)
      if x.isFinite then return .float x else none

/-- The number of two digits. -/
def pair? (a b : Char) : Option Nat :=
  if a.isDigit && b.isDigit then some (valueOf 10 [a, b]) else none

/-- The days of a month. -/
def daysIn (year month : Nat) : Nat :=
  if month = 2 then
    if year % 4 = 0 && (year % 100 != 0 || year % 400 = 0) then 29 else 28
  else if month = 4 || month = 6 || month = 9 || month = 11 then 30
  else 31

/-- The text after a date. -/
def afterDate? : List Char → Option (List Char)
  | a :: b :: c :: d :: '-' :: e :: f :: '-' :: g :: h :: rest => do
    let century ← pair? a b
    let year ← pair? c d
    let month ← pair? e f
    let day ← pair? g h
    if 1 ≤ month && month ≤ 12 && 1 ≤ day && day ≤ daysIn (century * 100 + year) month then
      some rest
    else none
  | _ => none

/-- The text after the seconds of a time, which may be left out and may have a fraction. -/
def afterSeconds? : List Char → Option (List Char)
  | ':' :: a :: b :: rest => do
    let second ← pair? a b
    if 60 < second then none
    else
      match rest with
      | '.' :: c :: rest => if c.isDigit then some (rest.dropWhile Char.isDigit) else none
      | rest => some rest
  | ':' :: _ => none
  | rest => some rest

/-- The text after a time of day. -/
def afterTime? : List Char → Option (List Char)
  | a :: b :: ':' :: c :: d :: rest => do
    let hour ← pair? a b
    let minute ← pair? c d
    if hour ≤ 23 && minute ≤ 59 then afterSeconds? rest else none
  | _ => none

/-- Whether a text is the distance of a time zone, or nothing. -/
def isZone : List Char → Bool
  | [] => true
  | [c] => c == 'Z' || c == 'z'
  | [sign, a, b, ':', c, d] =>
    (sign == '+' || sign == '-') && (pair? a b).any (· ≤ 23) && (pair? c d).any (· ≤ 59)
  | _ => false

/-- Whether a text is a date, a time of day, or a date with a time of day and perhaps a zone. -/
def isMoment (cs : List Char) : Bool :=
  afterTime? cs == some [] ||
    (match afterDate? cs with
    | some [] => true
    | some (c :: rest) =>
      (c == 'T' || c == 't' || c == ' ') && (afterTime? rest).any isZone
    | none => false)

/-- Whether a character can stand in a value without quotes. -/
def isScalarCharacter (c : Char) : Bool :=
  c.isAlphanum || c == '_' || c == '+' || c == '-' || c == '.' || c == ':'

/-- Splits off a value without quotes. A blank belongs to it between a date and a time. -/
def takeScalar (cs : List Char) : List Char × List Char :=
  let first := cs.takeWhile isScalarCharacter
  let rest := cs.dropWhile isScalarCharacter
  match afterDate? first, rest with
  | some [], ' ' :: d :: more =>
    if d.isDigit then
      (first ++ ' ' :: (d :: more).takeWhile isScalarCharacter,
        (d :: more).dropWhile isScalarCharacter)
    else (first, rest)
  | _, _ => (first, rest)

/-- A value without quotes. -/
def scalar? (cs : List Char) : Option Toml :=
  if cs = ['t', 'r', 'u', 'e'] then some (.bool true)
  else if cs = ['f', 'a', 'l', 's', 'e'] then some (.bool false)
  else
    match integer? cs with
    | some n => some n
    | none =>
      match float? cs with
      | some x => some x
      | none => if isMoment cs then some (.moment (String.ofList cs)) else none

end TransactSql.Toml
