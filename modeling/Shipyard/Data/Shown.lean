import Shipyard.Data.Value
import Shipyard.Text.Quoted

/-!
# Values shown in messages

`Value.shown` writes a value on one line: texts quoted, lists in brackets, tables in braces, and the
words `None`, `True` and `False`. `Wrapped` marks a value as a result or a failure.
-/

namespace Shipyard

/-- An integer in decimal. -/
def Value.shownInt (n : Int) : String := toString n

/-- Texts with a comma and a space between two. -/
def commaSeparated (parts : List String) : String := String.intercalate ", " parts

mutual

/-- A value on one line. -/
def Value.shown : Value → String
  | .null => "None"
  | .bool b => if b then "True" else "False"
  | .int n => Value.shownInt n
  | .float x => x.text
  | .text s => Text.quoted s
  | .list items => "[" ++ commaSeparated (Value.shownItems items) ++ "]"
  | .table fields => "\x7b" ++ commaSeparated (Value.shownFields fields) ++ "\x7d"
  | .mixed fields => "\x7b" ++ commaSeparated (Value.shownFields fields) ++ "\x7d"
  | .moment => "moment"

/-- The items of a list. -/
def Value.shownItems : List Value → List String
  | [] => []
  | v :: rest => v.shown :: Value.shownItems rest

/-- The fields of a table, each a quoted key, a colon and the value. -/
def Value.shownFields : List (String × Value) → List String
  | [] => []
  | (key, v) :: rest => (Text.quoted key ++ ": " ++ v.shown) :: Value.shownFields rest

end

/-- A value inside any number of marks for a result or a failure. -/
inductive Wrapped where
  /-- the value -/
  | value (v : Value)
  /-- a result -/
  | ok (inner : Wrapped)
  /-- a failure -/
  | err (inner : Wrapped)

/-- A wrapped value on one line. -/
def Wrapped.shown : Wrapped → String
  | value v => v.shown
  | ok inner => "Ok(" ++ inner.shown ++ ")"
  | err inner => "Err(" ++ inner.shown ++ ")"

end Shipyard
