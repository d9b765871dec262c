import TransactSql.Json.Parser
import TransactSql.Json.Record
import TransactSql.Worker.Error

/-!
# Replies of the worker

A reply carries the number of its request, and either a result or an error. What else it carries
is passed over when the reply is read. The results of the calls are records of their own.
-/

namespace TransactSql

/-- An error in a reply. -/
structure Failure where
  code : String
  message : String
deriving DecidableEq, Repr, Inhabited

/-- Reads an error. -/
def Failure.ofJson? (value : Json) : Option Failure := do
  let members ← value.record? ["code", "message"]
  return ⟨← Json.required members "code" Json.string?,
    ← Json.required members "message" Json.string?⟩

/-- Takes an error off the front of a text. -/
def Failure.read : Nat → Json.Reader :=
  Json.readRecord fun depth => [("code", Json.readValue depth), ("message", Json.readValue depth)]

/-- What the worker replies to a request. -/
structure Reply where
  id : String
  success : Bool
  result : Option Json
  failure : Option Failure
deriving Inhabited

namespace Reply

/-- Reads a reply. -/
def ofJson? (value : Json) : Option Reply := do
  let members ← value.record? ["id", "success", "result", "error"]
  return {
    id := ← Json.required members "id" Json.string?
    success := ← Json.required members "success" Json.bool?
    result := ← Json.optional members "result" Json.settled
    failure := ← Json.optional members "error" Failure.ofJson? }

/-- Takes a reply off the front of a text. -/
def read : Nat → Json.Reader :=
  Json.readRecord fun depth => [("id", Json.readValue depth), ("success", Json.readValue depth),
    ("result", Json.readValue depth), ("error", Failure.read depth)]

/-- The reply that a line holds. -/
def parse? (line : String) : Option Reply :=
  (Json.parseBy? (read Json.maxDepth) line).bind ofJson?

/-- What a request gets when the worker ends before it replies. -/
def ofExit (id : String) : Reply :=
  ⟨id, false, none, some ⟨"WORKER_EXITED", "Worker process exited unexpectedly"⟩⟩

/-- The result of a reply, null where there is none, or its error. -/
def outcome (r : Reply) : Except WorkerError Json :=
  if r.success then .ok (r.result.getD .null)
  else
    match r.failure with
    | some failure => .error (.ofCode failure.code failure.message)
    | none => .error (.ofCode "UNKNOWN" "Unknown error")

end Reply

/-- A result read as what a call asks for. -/
def WorkerError.readAs {α : Type} (read : Json → Option α) :
    Except WorkerError Json → Except WorkerError α
  | .ok value =>
    match read value with
    | some a => .ok a
    | none => .error .unreadable
  | .error e => .error e

/-- A table that the worker found. -/
structure TableInfo where
  schema : String
  name : String
  kind : String
deriving DecidableEq, Repr, Inhabited

namespace TableInfo

/-- Reads a table. -/
def ofJson? (value : Json) : Option TableInfo := do
  let members ← value.record? ["schema", "name", "type"]
  return ⟨← Json.required members "schema" Json.string?,
    ← Json.required members "name" Json.string?, ← Json.required members "type" Json.string?⟩

/-- Reads the tables of a result. -/
def listOfJson? (value : Json) : Option (List TableInfo) := do
  let members ← value.record? ["tables"]
  Json.required members "tables" (Json.listOf? ofJson?)

end TableInfo

/-- A column that the worker found. -/
structure ColumnInfo where
  name : String
  position : Int32
  dataType : String
  nullable : Bool
  precision : Option Int32
  scale : Option Int32
deriving DecidableEq, Repr, Inhabited

namespace ColumnInfo

/-- Reads a column. -/
def ofJson? (value : Json) : Option ColumnInfo := do
  let members ← value.record?
    ["name", "position", "data_type", "is_nullable", "numeric_precision", "numeric_scale"]
  return {
    name := ← Json.required members "name" Json.string?
    position := ← Json.required members "position" Json.int32?
    dataType := ← Json.required members "data_type" Json.string?
    nullable := ← Json.required members "is_nullable" Json.bool?
    precision := ← Json.optional members "numeric_precision" Json.int32?
    scale := ← Json.optional members "numeric_scale" Json.int32? }

/-- Reads the columns of a result. -/
def listOfJson? (value : Json) : Option (List ColumnInfo) := do
  let members ← value.record? ["columns"]
  Json.required members "columns" (Json.listOf? ofJson?)

end ColumnInfo

/-- A column of a result with rows. -/
structure ResultColumn where
  name : String
  dataType : String
deriving DecidableEq, Repr, Inhabited

/-- Reads a column of a result. -/
def ResultColumn.ofJson? (value : Json) : Option ResultColumn := do
  let members ← value.record? ["name", "data_type"]
  return ⟨← Json.required members "name" Json.string?,
    ← Json.required members "data_type" Json.string?⟩

/-- The rows that a statement returned. -/
structure ResultRows where
  columns : List ResultColumn
  rows : List (List Json)
  rowCount : Int32
deriving Inhabited

/-- Reads rows. -/
def ResultRows.ofJson? (value : Json) : Option ResultRows := do
  let members ← value.record? ["columns", "rows", "row_count"]
  return {
    columns := ← Json.required members "columns" (Json.listOf? ResultColumn.ofJson?)
    rows := ← Json.required members "rows" (Json.listOf? (Json.listOf? Json.settled))
    rowCount := ← Json.required members "row_count" Json.int32? }

end TransactSql
