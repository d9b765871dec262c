import TransactSql.Decimal.Binary64

/-!
# JSON values

A JSON value as it is read: the members of an object keep their order, and a name that occurs
twice stands twice. `Json.member?` takes the last of them, and `Json.settled` gives the form in
which every object holds each name once, by ascending name.
-/

namespace TransactSql

/-- A number in JSON: a whole number, or one with a fraction or an exponent. -/
inductive Json.Number where
  | whole (n : Int)
  | float (x : Binary64)
deriving DecidableEq, Repr, Inhabited

/-- A JSON value. -/
inductive Json where
  | null
  | bool (b : Bool)
  | number (n : Json.Number)
  | string (s : String)
  | array (items : List Json)
  | object (members : List (String × Json))
deriving Repr, Inhabited

namespace Json

/-- A whole number. -/
def ofInt (n : Int) : Json :=
  .number (.whole n)

/-- A number of things. -/
def ofNat (n : Nat) : Json :=
  .ofInt n

/-- The value, or null where there is none. -/
def ofOption {α : Type} (f : α → Json) : Option α → Json
  | some a => f a
  | none => .null

/-- A text, or null where there is none. -/
def ofString? : Option String → Json :=
  ofOption .string

/-- The last member of a name. -/
def memberOf? (members : List (String × Json)) (name : String) : Option Json :=
  members.reverse.lookup name

/-- The member of a name, in an object. -/
def member? : Json → String → Option Json
  | .object members, name => memberOf? members name
  | _, _ => none

mutual

/-- How many arrays and objects stand inside one another. -/
def depth : Json → Nat
  | .array items => depthOfItems items + 1
  | .object members => depthOfMembers members + 1
  | _ => 0

/-- The greatest depth of the items of an array. -/
def depthOfItems : List Json → Nat
  | [] => 0
  | item :: rest => max (depth item) (depthOfItems rest)

/-- The greatest depth of the members of an object. -/
def depthOfMembers : List (String × Json) → Nat
  | [] => 0
  | (_, value) :: rest => max (depth value) (depthOfMembers rest)

end

/-- Puts a member in its place by name, over one of the same name. -/
def placeMember (name : String) (value : Json) : List (String × Json) → List (String × Json)
  | [] => [(name, value)]
  | member :: rest =>
    if name < member.1 then (name, value) :: member :: rest
    else if name = member.1 then (name, value) :: rest
    else member :: placeMember name value rest

mutual

/-- The value with each object's members by ascending name and the last of equal names kept;
none where a number is too large to hold. -/
def settled : Json → Option Json
  | .number (.float x) => if x.isFinite then some (.number (.float x)) else none
  | .array items => (settledItems items).map .array
  | .object members => (settledMembers members []).map .object
  | other => some other

/-- `settled` for the items of an array. -/
def settledItems : List Json → Option (List Json)
  | [] => some []
  | item :: rest =>
    match settled item, settledItems rest with
    | some item, some rest => some (item :: rest)
    | _, _ => none

/-- `settled` for the members of an object, placed one after the other into `done`. -/
def settledMembers : List (String × Json) → List (String × Json) → Option (List (String × Json))
  | [], done => some done
  | (name, value) :: rest, done =>
    match settled value with
    | some value => settledMembers rest (placeMember name value done)
    | none => none

end

end Json

end TransactSql
