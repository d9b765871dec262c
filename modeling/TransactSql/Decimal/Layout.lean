import TransactSql.Decimal.Shortest

/-!
# Layouts of decimals

The digits of a number are the same everywhere; a layout decides how they are written: for which
exponents in plain notation, whether a whole number keeps a fraction, and how an exponent looks.
-/

namespace TransactSql.Decimal

/-- The decisions of one way to write a number. -/
structure Layout where
  /-- The exponents of the first digit for which plain notation is used. -/
  plain : Int → Bool
  /-- Whether a whole number in plain notation ends in `.0`. -/
  keepPoint : Bool
  /-- Whether a positive exponent carries a plus sign. -/
  plusSign : Bool

/-- The digits after the point, with the point in front of them. -/
def fractionText (layout : Layout) (digits : List Char) : List Char :=
  if digits.isEmpty then if layout.keepPoint then ['.', '0'] else []
  else '.' :: digits

/-- A decimal in plain notation. -/
def plainText (layout : Layout) (d : Digits) : List Char :=
  if d.exponent < 0 then
    '0' :: '.' :: List.replicate (-d.exponent - 1).toNat '0' ++ d.digits
  else
    let whole := d.exponent.toNat + 1
    d.digits.take whole ++ List.replicate (whole - d.digits.length) '0'
      ++ fractionText layout (d.digits.drop whole)

/-- A decimal with an exponent. -/
def scientificText (layout : Layout) (d : Digits) : List Char :=
  let mantissa :=
    match d.digits with
    | first :: second :: rest => first :: '.' :: second :: rest
    | short => short
  let sign := if d.exponent < 0 then ['-'] else if layout.plusSign then ['+'] else []
  mantissa ++ 'e' :: sign ++ Nat.toDigits 10 d.exponent.natAbs

/-- A finite number in a layout. -/
def Layout.render (layout : Layout) (x : Binary64) : String :=
  let sign := if x.negative then ['-'] else []
  let magnitude :=
    if x.isZero then '0' :: fractionText layout []
    else
      let d := shortest x
      if layout.plain d.exponent then plainText layout d else scientificText layout d
  String.ofList (sign ++ magnitude)

/-- A number as it is shown to people: in plain notation whatever its size, whole numbers without
a point, and words for what is not finite. -/
def shown (x : Binary64) : String :=
  if x.isFinite then Layout.render ⟨fun _ => true, false, false⟩ x
  else if x.isNaN then "NaN"
  else if x.negative then "-inf" else "inf"

end TransactSql.Decimal
