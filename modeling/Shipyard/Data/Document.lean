import Shipyard.Data.Toml.Document
import Shipyard.Fault

/-!
# Documents that may be broken

A document that is no JSON or no TOML is expected, and its reader gets a message in place of the
value. What the readers refuse for other reasons, a huge integer or a deep nesting, is a fault.
-/

namespace Shipyard

/-- The value of a JSON text, or what is wrong with the text. -/
def Value.ofJson (s : String) : Except Fault (Except String Value) :=
  match Json.read s with
  | .ok v => .ok (.ok v)
  | .error (.malformed reason position) => .ok (.error (Json.describe s reason position))
  | .error (.hugeInteger digits) => .error (.refused (.hugeInteger digits))
  | .error (.tooDeep innermost) => .error (.tooDeep (Json.tooDeepMessage innermost))

/-- What is wrong with a text that is no TOML. -/
def Table.noToml : String := "this is no TOML document"

/-- The table of a TOML text, or what is wrong with the text. -/
def Table.ofToml (s : String) : Except Fault (Except String Table) :=
  match Toml.read s with
  | .ok t => .ok (.ok t)
  | .error .malformed => .ok (.error noToml)
  | .error (.hugeInteger digits) => .error (.refused (.hugeInteger digits))
  | .error .tooDeep => .error (.tooDeep "")

end Shipyard
