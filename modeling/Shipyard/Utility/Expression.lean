import Shipyard.Regex.Reader
import Shipyard.Utility.Basic

/-!
# Expressions of arguments

Every argument is an operand or an operator of an expression, whose value is written. Operands that
do not matter for the value are read but not worked out.
-/

namespace Shipyard.Utility

open Unix (Program)

namespace Expression

/-- A value. -/
inductive Value where
  /-- a whole number -/
  | number (n : Int)
  /-- a text -/
  | text (t : String)
  deriving DecidableEq, Repr

namespace Value

/-- A value as a text. -/
def asText : Value → String
  | number n => toString n
  | text t => t

/-- A value as a whole number. -/
def asNumber? : Value → Option Int
  | number n => some n
  | text t =>
    let (negative, digits) := match t.toList with
      | '-' :: rest => (true, rest)
      | cs => (false, cs)
    if digits = [] || !digits.all Char.isDigit then none
    else
      let n : Int := (digitsOf digits : Nat)
      some (if negative then -n else n)

/-- Whether a value is empty or zero. -/
def isNull : Value → Bool
  | number n => n = 0
  | text t =>
    let digits := match t.toList with
      | '-' :: rest => rest
      | cs => cs
    t = "" || (digits ≠ [] && digits.all (· = '0'))

/-- The value of a condition. -/
def ofBool (b : Bool) : Value := number (if b then 1 else 0)

end Value

/-- Where the reading of arguments stands. -/
structure Place where
  /-- the arguments that were read, the latest first -/
  before : List String
  /-- the arguments that are left -/
  rest : List String
  deriving DecidableEq, Repr

/-- A result, or what is wrong with the expression. -/
abbrev Checked := Except String

/-- What is wrong with the arguments. -/
def malformed {α : Type} (message : String) : Checked α := .error ("syntax error: " ++ message)

namespace Place

/-- Behind an argument that is one of some, with that argument. -/
def take? (p : Place) (words : List String) : Option (String × Place) :=
  match p.rest with
  | word :: rest => if words.contains word then some (word, ⟨word :: p.before, rest⟩) else none
  | [] => none

/-- Behind any argument, with that argument. -/
def next (p : Place) : Checked (String × Place) :=
  match p.rest with
  | word :: rest => .ok (word, ⟨word :: p.before, rest⟩)
  | [] => malformed ("missing argument after " ++ quotedText (p.before.headD ""))

end Place

/-- The number of a value. -/
def numberOf (v : Value) : Checked Int :=
  match v.asNumber? with
  | some n => .ok n
  | none => .error "non-integer argument"

/-- Compares a text with a regular expression, which begins where the text begins. -/
def matched (text pattern : String) : Checked Value := do
  let (regex, groups) ← Regex.read ⟨false, false, false⟩ pattern.toList
  let subject : Regex.Subject := ⟨text.toList.toArray, false, false⟩
  match regex.matchAt? subject (fun _ _ => true) 0 with
  | some m =>
    if 0 < groups then return .text (String.ofList ((subject.groupText? m 1).getD []))
    else return .number (m.stop : Nat)
  | none => return if 0 < groups then .text "" else .number 0

/-- A part of a text. -/
def partOf (text : String) (first length : Value) : Value :=
  match first.asNumber?, length.asNumber? with
  | some n, some count =>
    if n ≤ 0 || count ≤ 0 then .text ""
    else .text (String.ofList ((text.toList.drop (n.toNat - 1)).take count.toNat))
  | _, _ => .text ""

/-- The first place of one of some characters in a text. -/
def placeOf (text characters : String) : Value :=
  match text.toList.findIdx? characters.toList.contains with
  | some n => .number (n + 1 : Nat)
  | none => .number 0

/-- Compares two values: as numbers if both are. -/
def compared (operator : String) (a b : Value) : Value :=
  let order := match a.asNumber?, b.asNumber? with
    | some m, some n => compare m n
    | _, _ => compare a.asText b.asText
  .ofBool (match operator with
    | "<" => order = .lt
    | "<=" => order ≠ .gt
    | ">" => order = .gt
    | ">=" => order ≠ .lt
    | "!=" => order ≠ .eq
    | _ => order = .eq)

/-- Calculates with two values. -/
def calculated (operator : String) (a b : Value) : Checked Value := do
  let m ← numberOf a
  let n ← numberOf b
  match operator with
  | "+" => return .number (m + n)
  | "-" => return .number (m - n)
  | "*" => return .number (m * n)
  | _ =>
    if n = 0 then .error "division by zero"
    else return .number (if operator = "/" then m.tdiv n else m.tmod n)

mutual

/-- The first one of two values that is not empty. The fuel of this and the following bounds how
many arguments there are; `needed` tells whether the value matters. -/
def readOr : Nat → Bool → Place → Checked (Value × Place)
  | 0, _, _ => malformed "too deep"
  | fuel + 1, needed, p => do
    let (first, p) ← readAnd fuel needed p
    moreOr fuel needed first p

/-- What stands behind a value, where one of several counts. -/
def moreOr : Nat → Bool → Value → Place → Checked (Value × Place)
  | 0, _, _, _ => malformed "too deep"
  | fuel + 1, needed, first, p => do
    match p.take? ["|"] with
    | none => return (first, p)
    | some (_, p) =>
      let (second, p) ← readAnd fuel (needed && first.isNull) p
      let value := if !first.isNull then first else if second.isNull then .number 0 else second
      moreOr fuel needed value p

/-- The first one of two values if none of them is empty. -/
def readAnd : Nat → Bool → Place → Checked (Value × Place)
  | 0, _, _ => malformed "too deep"
  | fuel + 1, needed, p => do
    let (first, p) ← readComparison fuel needed p
    moreAnd fuel needed first p

/-- What stands behind a value, where all of them count. -/
def moreAnd : Nat → Bool → Value → Place → Checked (Value × Place)
  | 0, _, _, _ => malformed "too deep"
  | fuel + 1, needed, first, p => do
    match p.take? ["&"] with
    | none => return (first, p)
    | some (_, p) =>
      let (second, p) ← readComparison fuel (needed && !first.isNull) p
      moreAnd fuel needed (if first.isNull || second.isNull then .number 0 else first) p

/-- Comparisons. -/
def readComparison : Nat → Bool → Place → Checked (Value × Place)
  | 0, _, _ => malformed "too deep"
  | fuel + 1, needed, p => do
    let (first, p) ← readTerms fuel needed p
    moreComparison fuel needed first p

/-- What a value is compared with. -/
def moreComparison : Nat → Bool → Value → Place → Checked (Value × Place)
  | 0, _, _, _ => malformed "too deep"
  | fuel + 1, needed, first, p => do
    match p.take? ["<", "<=", "=", "==", "!=", ">=", ">"] with
    | none => return (first, p)
    | some (operator, p) =>
      let (second, p) ← readTerms fuel needed p
      moreComparison fuel needed (if needed then compared operator first second else first) p

/-- Sums and differences. -/
def readTerms : Nat → Bool → Place → Checked (Value × Place)
  | 0, _, _ => malformed "too deep"
  | fuel + 1, needed, p => do
    let (first, p) ← readFactors fuel needed p
    moreTerms fuel needed first p

/-- What is added to a value or taken from it. -/
def moreTerms : Nat → Bool → Value → Place → Checked (Value × Place)
  | 0, _, _, _ => malformed "too deep"
  | fuel + 1, needed, first, p => do
    match p.take? ["+", "-"] with
    | none => return (first, p)
    | some (operator, p) =>
      let (second, p) ← readFactors fuel needed p
      let value ← if needed then calculated operator first second else pure first
      moreTerms fuel needed value p

/-- Products, quotients and remainders. -/
def readFactors : Nat → Bool → Place → Checked (Value × Place)
  | 0, _, _ => malformed "too deep"
  | fuel + 1, needed, p => do
    let (first, p) ← readMatch fuel needed p
    moreFactors fuel needed first p

/-- What a value is multiplied with or divided by. -/
def moreFactors : Nat → Bool → Value → Place → Checked (Value × Place)
  | 0, _, _, _ => malformed "too deep"
  | fuel + 1, needed, first, p => do
    match p.take? ["*", "/", "%"] with
    | none => return (first, p)
    | some (operator, p) =>
      let (second, p) ← readMatch fuel needed p
      let value ← if needed then calculated operator first second else pure first
      moreFactors fuel needed value p

/-- Comparisons with regular expressions. -/
def readMatch : Nat → Bool → Place → Checked (Value × Place)
  | 0, _, _ => malformed "too deep"
  | fuel + 1, needed, p => do
    let (first, p) ← readNamed fuel needed p
    moreMatch fuel needed first p

/-- The regular expressions that a value is compared with. -/
def moreMatch : Nat → Bool → Value → Place → Checked (Value × Place)
  | 0, _, _, _ => malformed "too deep"
  | fuel + 1, needed, first, p => do
    match p.take? [":"] with
    | none => return (first, p)
    | some (_, p) =>
      let (second, p) ← readNamed fuel needed p
      let value ← if needed then matched first.asText second.asText else pure first
      moreMatch fuel needed value p

/-- Operations with names. -/
def readNamed : Nat → Bool → Place → Checked (Value × Place)
  | 0, _, _ => malformed "too deep"
  | fuel + 1, needed, p => do
    match p.take? ["+", "length", "match", "index", "substr"] with
    | some ("+", p) =>
      let (word, p) ← p.next
      return (.text word, p)
    | some ("length", p) =>
      let (v, p) ← readNamed fuel needed p
      return (.number (v.asText.length : Nat), p)
    | some ("substr", p) =>
      let (v, p) ← readNamed fuel needed p
      let (first, p) ← readNamed fuel needed p
      let (length, p) ← readNamed fuel needed p
      return (partOf v.asText first length, p)
    | some (name, p) =>
      let (a, p) ← readNamed fuel needed p
      let (b, p) ← readNamed fuel needed p
      if name = "index" then return (placeOf a.asText b.asText, p)
      else if needed then return (← matched a.asText b.asText, p)
      else return (a, p)
    | none => readOperand fuel needed p

/-- Operands. -/
def readOperand : Nat → Bool → Place → Checked (Value × Place)
  | 0, _, _ => malformed "too deep"
  | fuel + 1, needed, p => do
    let (word, p) ← p.next
    if word = "(" then
      let (v, p) ← readOr fuel needed p
      match p.rest with
      | ")" :: rest => return (v, ⟨")" :: p.before, rest⟩)
      | [] => malformed ("expecting ')' after " ++ quotedText (p.before.headD ""))
      | other :: _ => malformed ("expecting ')' instead of " ++ quotedText other)
    else if word = ")" then malformed "unexpected ')'"
    else return (.text word, p)

end

/-- The value of an expression. -/
def value (words : List String) : Checked Value := do
  let (v, p) ← readOr (16 * words.length + 16) true ⟨[], words⟩
  match p.rest with
  | [] => return v
  | word :: _ => malformed ("unexpected argument " ++ quotedText word)

end Expression

/-- Works out an expression. -/
def expr : Utility := fun c => do
  let words := match c.arguments with
    | "--" :: rest => rest
    | all => all
  if words = [] then misused c "missing operand" 2
  else
    match Expression.value words with
    | .error message => failing c message 2
    | .ok v =>
      putLine c v.asText
      return if v.isNull then 1 else 0

end Shipyard.Utility
