import Shipyard.Decimal.Shortest
import Shipyard.Text.Blank

/-!
# Values of documents

What a JSON or TOML document holds. The getters read one key of a table and answer `none` for a
value of any other kind, so a reader of a document never has to tell a missing key from a wrong one.
A text is stripped, and a blank text counts as missing.
-/

namespace Shipyard

/-- A value of a document. -/
inductive Value where
  /-- no value -/
  | null
  /-- a truth value -/
  | bool (b : Bool)
  /-- an integer of any size -/
  | int (n : Int)
  /-- a binary number -/
  | float (x : Binary64)
  /-- a text -/
  | text (s : String)
  /-- a list -/
  | list (items : List Value)
  /-- a table; its keys are texts, each once, in the order of their first appearance -/
  | table (fields : List (String × Value))
  /-- a table with some key that is no text; only the fields with a text as their key are kept -/
  | mixed (fields : List (String × Value))
  /-- a date or a time -/
  | moment

/-- The fields of a table, each key once. -/
abbrev Table := List (String × Value)

namespace Table

/-- The value of a key. -/
def find? (t : Table) (key : String) : Option Value := List.lookup key t

/-- A table in which a key has a given value: in its old place, or at the end if it is new. -/
def insert : Table → String → Value → Table
  | [], key, value => [(key, value)]
  | field :: rest, key, value =>
    if field.1 = key then (key, value) :: rest else field :: insert rest key value

/-- A table from its fields; of fields with the same key the last one counts. -/
def ofFields (fields : List (String × Value)) : Table :=
  fields.foldl (fun t field => insert t field.1 field.2) []

end Table

namespace Value

/-- The value as a table whose keys are texts. -/
def asTable? : Value → Option Table
  | table fields => some fields
  | _ => none

/-- Whether the value is a table whose keys are texts. -/
def isTable (v : Value) : Bool := v.asTable?.isSome

/-- The value as a list. -/
def asList? : Value → Option (List Value)
  | list items => some items
  | _ => none

/-- The value as a text without blanks at its ends; a blank text is none. -/
def asText? : Value → Option String
  | text s => let stripped := Text.strip s; if stripped = "" then none else some stripped
  | _ => none

/-- The value as a truth value. -/
def asBool? : Value → Option Bool
  | bool b => some b
  | _ => none

/-- The value as an integer; a truth value is none. -/
def asInt? : Value → Option Int
  | int n => some n
  | _ => none

end Value

namespace Table

/-- The stripped text of a key. -/
def text? (t : Table) (key : String) : Option String := (t.find? key).bind Value.asText?

/-- The truth value of a key. -/
def bool? (t : Table) (key : String) : Option Bool := (t.find? key).bind Value.asBool?

/-- The integer of a key. -/
def int? (t : Table) (key : String) : Option Int := (t.find? key).bind Value.asInt?

/-- The table of a key. -/
def table? (t : Table) (key : String) : Option Table := (t.find? key).bind Value.asTable?

/-- The list of a key. -/
def list? (t : Table) (key : String) : Option (List Value) := (t.find? key).bind Value.asList?

end Table

end Shipyard
