import Shipyard.Shell.Arithmetic
import Shipyard.Shell.Pattern
import Shipyard.Shell.State

/-!
# Expansion of words

How a word becomes fields. Its parts become pieces, that is letters which know whether they are
quoted and whether a field may end at them; the pieces are cut into fields; and a field that is a
pattern becomes the names of the files that fit it. The output of a command inside a word is asked
from `Capture`.
-/

namespace Shipyard.Shell

/-- What gives the output of a command. -/
abbrev Capture := Option Statement → Effect String

/-- A piece of an expanded word. -/
inductive Piece where
  /-- a letter, and whether a field may end at it -/
  | letter (l : Letter) (splits : Bool)
  /-- there is a field here even if it is empty -/
  | mark
  /-- a field ends here -/
  | cut
  deriving DecidableEq, Repr

/-- Where a tilde stands for the home of a user. -/
inductive Tildes where
  /-- nowhere -/
  | nowhere
  /-- at the beginning -/
  | first
  /-- at the beginning and behind every colon -/
  | afterColons
  deriving DecidableEq, Repr

/-- How a word is expanded. -/
structure Manner where
  /-- whether it becomes several fields -/
  isFull : Bool
  /-- whether it stands in quotes -/
  isQuoted : Bool
  /-- whether fields may end at its own letters -/
  splitsLetters : Bool
  /-- where tildes are replaced -/
  tildes : Tildes
  deriving DecidableEq, Repr

namespace Manner

/-- As fields. -/
def fields : Manner := ⟨true, false, false, .first⟩

/-- As one text. -/
def text : Manner := ⟨false, false, false, .first⟩

/-- As the value of a variable. -/
def value : Manner := ⟨false, false, false, .afterColons⟩

/-- As a text that follows. -/
def document : Manner := ⟨false, true, false, .nowhere⟩

/-- As an expression. -/
def expression : Manner := ⟨false, false, false, .nowhere⟩

end Manner

/-! ## Tildes and quotation marks -/

/-- A part with whether it stands in quotes. -/
abbrev Placed := Part × Bool

/-- The parts of a word with whether they stand in quotes. All arguments that are quoted on their
own need no marks. -/
def placeParts : Bool → List Part → List Placed
  | inQuotes, .mark :: .parameter "@" .value colon operand :: .mark :: rest =>
    if inQuotes then
      (.mark, true) :: (.parameter "@" .value colon operand, false) ::
        placeParts false (.mark :: rest)
    else (.parameter "@" .value colon operand, true) :: placeParts false rest
  | inQuotes, .mark :: rest => (.mark, inQuotes) :: placeParts (!inQuotes) rest
  | inQuotes, part :: rest => (part, inQuotes) :: placeParts inQuotes rest
  | _, [] => []

/-- The home of a user; without a name it is that of the user of the shell. -/
def State.home? (s : State) (name : String) : Option String :=
  if name = "" then s.value? "HOME" else if name = "root" then some "/root" else none

/-- The name behind a tilde, and the parts behind it, if the name has no quotes. -/
def nameAfterTilde? (stopsAtColon : Bool) : List Placed → Option (List Char × List Placed)
  | [] => some ([], [])
  | (.letter c false, false) :: rest =>
    if c = '/' || (stopsAtColon && c = ':') then some ([], (.letter c false, false) :: rest)
    else (nameAfterTilde? stopsAtColon rest).map fun (name, after) => (c :: name, after)
  | (.mark, _) :: _ => none
  | (.letter _ true, _) :: _ => none
  | _ => none

/-- The parts with homes for tildes. The fuel bounds how many parts there are. -/
def State.withHomes (s : State) (tildes : Tildes) : Nat → Bool → List Placed → List Placed
  | 0, _, parts => parts
  | _ + 1, _, [] => []
  | fuel + 1, mayBegin, (part, inQuotes) :: rest =>
    let behind := fun (next : Bool) => (part, inQuotes) :: s.withHomes tildes fuel next rest
    match part, inQuotes, mayBegin with
    | .letter '~' false, false, true =>
      match nameAfterTilde? (tildes = .afterColons) rest with
      | some (name, after) =>
        match s.home? (String.ofList name) with
        | some home =>
          home.toList.map (fun c => (Part.letter c true, false)) ++
            s.withHomes tildes fuel false after
        | none => behind false
      | none => behind false
    | .letter ':' false, false, _ => behind (tildes = .afterColons)
    | _, _, _ => if tildes = .afterColons then behind false else (part, inQuotes) :: rest

/-! ## Parameters -/

/-- The pieces of a value. -/
def valuePieces (isQuoted : Bool) (value : String) : List Piece :=
  value.toList.map fun c => .letter ⟨c, isQuoted⟩ (!isQuoted)

/-- The pieces of all arguments, each a field of its own. -/
def argumentPieces (isQuoted : Bool) (arguments : List String) : List Piece :=
  let pieces := arguments.map fun argument =>
    if isQuoted then .mark :: valuePieces true argument else valuePieces false argument
  (pieces.intersperse [.cut]).flatten

/-- All arguments in one text. -/
def State.joinedArguments (s : State) : String :=
  String.intercalate (String.ofList (s.separators.take 1)) s.arguments

/-- The pieces of the value of a parameter. -/
def State.parameterPieces (s : State) (m : Manner) (name : String) : List Piece :=
  if isAllArguments name then
    if m.isFull && (name = "@" || !m.isQuoted) then argumentPieces m.isQuoted s.arguments
    else valuePieces m.isQuoted s.joinedArguments
  else valuePieces m.isQuoted ((s.parameter? name).getD "")

/-- The text of a parameter, if it has a value. -/
def State.parameterText? (s : State) (name : String) : Option String :=
  if isAllArguments name then some s.joinedArguments else s.parameter? name

/-- Refuses a parameter without a value where that is an error. -/
def demand (name : String) : Effect Unit := do
  let s ← get
  if s.hasOption 'u' && (s.parameterText? name).isNone then
    abort (name ++ ": parameter not set")
  else return ()

/-! ## Texts -/

/-- The letters of pieces, with a blank where a field ends. -/
def piecesLetters (pieces : List Piece) : List Letter :=
  pieces.filterMap fun
    | .letter l _ => some l
    | .mark => none
    | .cut => some ⟨' ', true⟩

/-- The text of pieces. -/
def piecesText (pieces : List Piece) : String := String.ofList (lettersText (piecesLetters pieces))

/-- A text without the ends of lines at its end. -/
def withoutLastLines (s : String) : String :=
  String.ofList (s.toList.reverse.dropWhile (· = '\n')).reverse

/-- The value of an expression, as text. -/
def arithmeticText (expression : String) : Effect String := do
  let s ← get
  let lookup := fun (name : String) =>
    match s.parameter? name with
    | some value => some value
    | none => if s.hasOption 'u' then none else some ""
  let result := do
    let e ← Expression.read expression.toList
    e.evaluate lookup []
  match result with
  | .ok (value, given) =>
    given.reverse.forM fun (name, text) => assign name text
    return toString value.toInt
  | .error fault => abort (fault.message expression)

/-- The words in front of braces that say nothing. -/
def badSubstitution : String := "Bad substitution"

/-- Gives a parameter a value, which has to be a variable. -/
def assignParameter (name value : String) : Effect Unit := do
  if isName name.toList then assign name value else abort (name ++ ": bad variable name")

mutual

/-- The pieces of the parts of a word. -/
def expandParts (capture : Capture) : Nat → Manner → Word → Effect (List Piece)
  | 0, _, _ => diverge
  | fuel + 1, m, parts => do
    let placed := placeParts false parts
    let s ← get
    let placed := if m.tildes = .nowhere || m.isQuoted then placed
      else s.withHomes m.tildes (placed.length + 1) true placed
    let pieces ← placed.mapM fun (part, inQuotes) =>
      expandPart capture fuel { m with isQuoted := m.isQuoted || inQuotes } part
    return pieces.flatten

/-- The pieces of a part of a word. -/
def expandPart (capture : Capture) : Nat → Manner → Part → Effect (List Piece)
  | 0, _, _ => diverge
  | fuel + 1, m, part => do
    match part with
    | .mark => return [.mark]
    | .letter c isEscaped =>
      return [.letter ⟨c, isEscaped || m.isQuoted⟩ (m.splitsLetters && !isEscaped && !m.isQuoted)]
    | .script body =>
      let output ← capture body
      return valuePieces m.isQuoted (withoutLastLines output)
    | .arithmetic expression =>
      let pieces ← expandParts capture fuel .expression expression
      return valuePieces m.isQuoted (← arithmeticText (piecesText pieces))
    | .parameter name op colon operand =>
      let s ← get
      let text? := s.parameterText? name
      let hasValue := text?.isSome && !(colon && text? = some "")
      let word := { m with splitsLetters := !m.isQuoted, tildes := .first }
      match op with
      | .none => abort badSubstitution
      | .value =>
        demand name
        return s.parameterPieces m name
      | .length =>
        demand name
        return valuePieces m.isQuoted (toString (text?.getD "").length)
      | .orWord =>
        if hasValue then return s.parameterPieces m name else expandParts capture fuel word operand
      | .thenWord =>
        if hasValue then expandParts capture fuel word operand else return []
      | .orAssign =>
        if hasValue then return s.parameterPieces m name
        else
          let value := piecesText (← expandParts capture fuel .text operand)
          assignParameter name value
          return (← get).parameterPieces m name
      | .orFail =>
        if hasValue then return s.parameterPieces m name
        else
          match operand with
          | [] => abort (name ++ ": parameter not set" ++ (if colon then " or null" else ""))
          | _ =>
            let message := piecesText (← expandParts capture fuel .text operand)
            abort (name ++ ": " ++ message)
      | .cut atEnd longest =>
        demand name
        match text? with
        | none => return []
        | some text =>
          let pieces ← expandParts capture fuel .text operand
          let pattern := Pattern.ofLetters (piecesLetters pieces)
          let cs := text.toList
          let rest := if atEnd then pattern.cutBack longest cs else pattern.cutFront longest cs
          return valuePieces m.isQuoted (String.ofList rest)

end

/-- How deeply words are expanded. -/
def expansionDepth : Nat := 1000

/-- The pieces of a word. -/
def expandWord (capture : Capture) (m : Manner) (word : Word) : Effect (List Piece) :=
  expandParts capture expansionDepth m word

/-- A word as one text. -/
def expandText (capture : Capture) (m : Manner) (word : Word) : Effect String :=
  return piecesText (← expandWord capture m word)

/-- A word as one pattern. -/
def expandPattern (capture : Capture) (word : Word) : Effect Pattern :=
  return Pattern.ofLetters (piecesLetters (← expandWord capture .text word))

/-! ## Fields -/

/-- The fields of pieces, with the field under way, which is reversed, if there is one, and whether
blanks came right before. A separator that is no blank ends a field even if it is empty. -/
def cutFields (separators : List Char) (current : Option (List Letter)) (afterBlank : Bool) :
    List Piece → List (List Letter)
  | [] => (current.map List.reverse).toList
  | .mark :: rest => cutFields separators (some (current.getD [])) false rest
  | .cut :: rest => (current.map List.reverse).toList ++ cutFields separators none false rest
  | .letter l splits :: rest =>
    if splits && separators.contains l.char then
      if isSpace l.char then
        (current.map List.reverse).toList ++
          cutFields separators none (afterBlank || current.isSome) rest
      else if current.isNone && afterBlank then cutFields separators none false rest
      else (current.getD []).reverse :: cutFields separators none false rest
    else cutFields separators (some (l :: current.getD [])) false rest

/-! ## Names of files -/

/-- The parts of letters between slashes. -/
def splitAtSlashes (letters : List Letter) : List (List Letter) :=
  letters.foldr (fun l parts => match parts with
    | part :: others => if l.char = '/' then [] :: part :: others else (l :: part) :: others
    | [] => [[l]]) [[]]

/-- The names that fit a pattern; one that begins with a dot must be asked for. -/
def fittingNames (letters : List Letter) (names : List String) : List String :=
  let pattern := Pattern.ofLetters letters
  let dotted := (letters.head?.map (·.char)) = some '.'
  let names := if dotted then "." :: ".." :: names else names
  let fitting := names.filter fun name =>
    (dotted || !name.startsWith ".") && pattern.accepts name.toList
  fitting.mergeSort fun a b => a ≤ b

/-- Whether a path leads to a directory. -/
def isDirectory (path : String) : Effect Bool := do
  match ← ask (Unix.statusAt path true) with
  | .ok status => return status.kind = .directory
  | .error _ => return false

/-- Whether a path leads to anything. -/
def isThere (path : String) : Effect Bool := return (← ask (Unix.statusAt path false)).isOk

/-- The text of letters in which a backslash escapes what follows. -/
def unescapedText : List Letter → List Char
  | ⟨'\\', false⟩ :: next :: rest => next.char :: unescapedText rest
  | l :: rest => l.char :: unescapedText rest
  | [] => []

/-- The texts of the files that fit the parts of a path, seen from some beginnings. -/
def fitting (beginnings : List String) : List (List Letter) → Effect (List String)
  | [] => return beginnings
  | letters :: rest => do
    let slash := if rest = [] then "" else "/"
    let next ← beginnings.mapM fun beginning => do
      if hasPattern letters then
        let names ← askD [] (Unix.namesIn (if beginning = "" then "." else beginning))
        let names := fittingNames letters names
        let kept ← names.filterM fun name => do
          if rest = [] then return true else isDirectory (beginning ++ name)
        return kept.map fun name => beginning ++ name ++ slash
      else return [beginning ++ String.ofList (unescapedText letters) ++ slash]
    fitting next.flatten rest

/-- The texts that a field stands for. -/
def filesOf (letters : List Letter) : Effect (List String) := do
  let text := String.ofList (lettersText letters)
  if (← get).hasOption 'f' || !hasPattern letters then return [text]
  else
    let found ← (← fitting [""] (splitAtSlashes letters)).filterM isThere
    return if found = [] then [text] else found

/-- The fields that a word stands for. -/
def expandFields (capture : Capture) (word : Word) : Effect (List String) := do
  let pieces ← expandWord capture .fields word
  let fields := cutFields (← get).separators none false pieces
  return (← fields.mapM filesOf).flatten

end Shipyard.Shell
