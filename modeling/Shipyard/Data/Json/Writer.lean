import Shipyard.Data.Value
import Shipyard.Text.CharClass

/-!
# Writing JSON

`Json.write` is the inverse of reading: it writes a value on one line, with the characters that a
string may not hold as escapes.
-/

namespace Shipyard.Json

/-- How a character is written between the quotes of a string. -/
def stringChar (c : Char) : List Char :=
  if c = '"' then ['\\', '"']
  else if c = '\\' then ['\\', '\\']
  else if c.toNat < 0x20 || c.toNat = 0x7F then '\\' :: 'u' :: Text.hexPadded 4 c.toNat
  else [c]

/-- A string between quotes. -/
def writeString (s : String) : String :=
  "\"" ++ String.ofList (s.toList.flatMap stringChar) ++ "\""

/-- A binary number; the three that are no finite numbers have words of their own. -/
def writeFloat : Binary64 → String
  | .nan => "NaN"
  | .infinite negative => if negative then "-Infinity" else "Infinity"
  | x => x.text

mutual

/-- A value on one line. -/
def write : Value → String
  | .null => "null"
  | .bool b => if b then "true" else "false"
  | .int n => toString n
  | .float x => writeFloat x
  | .text s => writeString s
  | .list items => "[" ++ String.intercalate "," (writeItems items) ++ "]"
  | .table fields => "\x7b" ++ String.intercalate "," (writeFields fields) ++ "\x7d"
  | .mixed fields => "\x7b" ++ String.intercalate "," (writeFields fields) ++ "\x7d"
  | .moment => "null"

/-- The items of a list. -/
def writeItems : List Value → List String
  | [] => []
  | v :: rest => write v :: writeItems rest

/-- The fields of a table, each a string, a colon and the value. -/
def writeFields : List (String × Value) → List String
  | [] => []
  | (key, v) :: rest => (writeString key ++ ":" ++ write v) :: writeFields rest

end

end Shipyard.Json
