import Shipyard.Utility.Editing.Script
import Shipyard.Utility.Files

/-!
# The stream editor

The commands of a script are done for every line of the input. Lines are read one ahead, so that it
is known which one is the last.
-/

namespace Shipyard.Utility

open Unix (Program)

namespace Editing

/-- What a range of lines stands at. -/
inductive RangePlace where
  /-- it has not begun -/
  | outside
  /-- it has begun and ends with the end that was asked for -/
  | inside
  /-- it has begun and ends with a line -/
  | upTo (n : Nat)
  deriving DecidableEq, Repr

/-- The lines that are still to be read. -/
structure Input where
  /-- lines that were read, and whether they had ends -/
  ahead : List (String × Bool)
  /-- the beginning of a line whose end is not read yet -/
  partLine : String
  /-- the file that is being read -/
  current : Option (Nat × String)
  /-- the files behind it -/
  files : List String
  /-- whether a file could not be read -/
  hasFailed : Bool

/-- What comes behind a line. -/
inductive Later where
  /-- a text -/
  | text (t : String)
  /-- a file -/
  | file (path : String)
  deriving DecidableEq, Repr

/-- How an editor works. -/
structure Editor where
  /-- the commands -/
  commands : Array Command
  /-- whether lines are only written on demand -/
  isQuiet : Bool
  /-- the end of a line -/
  stop : Char
  /-- the files that are written, with their descriptors -/
  targets : List (String × Nat)
  /-- whether what is written is kept for the file that is edited -/
  keepsOutput : Bool

/-- Where an editor stands. -/
structure State where
  /-- the line -/
  line : String
  /-- whether it has an end -/
  hasEnd : Bool
  /-- the kept text -/
  kept : String
  /-- the number of the line -/
  number : Nat
  /-- the name of its file -/
  name : String
  /-- whether something was replaced -/
  hasReplaced : Bool
  /-- what comes behind the line, the latest first -/
  later : List Later
  /-- the places of ranges, by the places of commands -/
  ranges : Array RangePlace
  /-- the expression that was used last -/
  recent : Option ScriptRegex
  /-- what is written, the latest first -/
  output : List String
  /-- whether what was written last lacks the end of its line -/
  lacksEnd : Bool
  /-- the lines that are still to be read -/
  input : Input

/-! ## Lines -/

/-- Writes what is to be written. -/
def flush (c : Call) (e : Editor) (s : State) : Program State := do
  if e.keepsOutput || s.output = [] then return s
  else
    put c (String.join s.output.reverse)
    return { s with output := [] }

/-- Reads on until there is a line, or nothing more to read. The fuel bounds how often something is
read. -/
def fill (c : Call) (stop : Char) : Nat → Input → Program Input
  | 0, i => return i
  | fuel + 1, i => do
    if i.ahead ≠ [] then return i
    match i.current, i.files with
    | none, [] => return i
    | none, path :: rest =>
      match ← openToRead path with
      | .ok descriptor =>
        fill c stop fuel { i with current := some (descriptor, path), files := rest }
      | .error errno =>
        complain c ("can't read " ++ path ++ ": " ++ errno.words)
        fill c stop fuel { i with files := rest, hasFailed := true }
    | some (descriptor, path), _ =>
      match ← Program.ask (Unix.read descriptor 32768) with
      | .error .interrupted => fill c stop fuel i
      | .error errno =>
        complain c ("read error on " ++ path ++ ": " ++ errno.words)
        Program.exit 4
      | .ok "" =>
        closeRead path descriptor
        let ahead := if i.partLine = "" then [] else [(i.partLine, false)]
        fill c stop fuel { i with ahead, partLine := "", current := none }
      | .ok text =>
        let lines := (Text.splitAt stop (i.partLine ++ text).toList).map String.ofList
        let ahead := lines.dropLast.map fun line => (line, true)
        fill c stop fuel { i with ahead, partLine := lines.getLast?.getD "" }

/-- Whether a line is the last one. -/
def State.isLast (s : State) : Bool := s.input.ahead = []

/-- The next line, which `join` puts behind the one that is there. -/
def nextLine (c : Call) (e : Editor) (s : State) (join : String → String → String) :
    Program (Option State) := do
  match s.input.ahead with
  | [] => return none
  | (line, hasEnd) :: ahead =>
    let name := (s.input.current.map (·.2)).getD s.name
    let s ← if ahead = [] then flush c e s else pure s
    let input ← fill c e.stop Program.patience { s.input with ahead }
    return some { s with line := join s.line line, hasEnd, number := s.number + 1, name, input }

/-! ## Writing -/

/-- Writes a text, behind the end of the line before if that has none. -/
def State.emit (s : State) (text : String) : State :=
  let text := if s.lacksEnd then "\n" ++ text else text
  { s with output := text :: s.output, lacksEnd := false }

/-- Writes a line as it is. -/
def State.emitLine (s : State) (stop : Char) (line : String) : State :=
  let s := s.emit (if s.hasEnd then line.push stop else line)
  { s with lacksEnd := !s.hasEnd }

/-- Writes what comes behind a line. -/
def emitLater (s : State) : Program State := do
  let s ← s.later.reverse.foldlM (fun s later => do
    match later with
    | .text text => return s.emit text
    | .file path =>
      match ← contentOf (if path = "/dev/stdin" then "-" else path) with
      | .ok "" => return s
      | .ok text => return s.emit text
      | .error _ => return s) s
  return { s with later := [] }

/-- Writes a line to a file. -/
def emitTo (c : Call) (e : Editor) (s : State) (path : String) : Program State := do
  if path = "/dev/stdout" then return s.emitLine e.stop s.line
  else
    match e.targets.lookup path with
    | some descriptor =>
      let text := if s.hasEnd then s.line.push e.stop else s.line
      match ← Program.write descriptor text with
      | .ok () => return s
      | .error errno =>
        complain c ("couldn't write " ++ toString text.length ++ " items to " ++ path ++ ": " ++
          errno.words)
        Program.exit 4
    | none => return s

/-- A line so that everything in it can be seen, in pieces. -/
def listedPieces (line : String) : List String :=
  line.toList.map fun c =>
    if c = '\\' then "\\\\"
    else if isPrinted c then String.ofList [c]
    else escapeText c

/-- Pieces in lines of limited width. -/
def wrapPieces (most : Nat) : Nat → List String → String
  | _, [] => "$\n"
  | width, piece :: rest =>
    if most < width + piece.length then "\\\n" ++ piece ++ wrapPieces most piece.length rest
    else piece ++ wrapPieces most (width + piece.length) rest

/-! ## Choosing lines -/

/-- An expression, where none stands for the last one that was used; the program ends if there is
none. -/
def resolve (c : Call) (s : State) (r : ScriptRegex) : Program (Regex × ScriptRegex × State) := do
  let found? := if r.regex?.isSome then some r else s.recent
  match found?, found?.bind (·.regex?) with
  | some found, some regex => return (regex, found, { s with recent := some found })
  | _, _ =>
    complain c "-e expression #1, char 0: no previous regular expression"
    Program.exit 1

/-- The text in which an expression is looked for. -/
def subjectOf (r : ScriptRegex) (line : String) : Regex.Subject :=
  ⟨line.toList.toArray, r.folds, r.hasLines⟩

/-- Whether a line fits an expression. -/
def lineFits (c : Call) (s : State) (r : ScriptRegex) : Program (Bool × State) := do
  let (regex, found, s) ← resolve c s r
  return ((regex.find? (subjectOf found s.line) 0).isSome, s)

/-- Whether a line is the one of an address. -/
def isAddressed (c : Call) (s : State) : Address → Program (Bool × State)
  | .line n => return (s.number = n, s)
  | .every first step =>
    return (if step = 0 then s.number = first
      else first ≤ s.number && (s.number - first) % step = 0, s)
  | .last => return (s.isLast, s)
  | .fits r => lineFits c s r

/-- Whether a line is the end of a range that has begun, and whether it still belongs to it. -/
def endsRange (c : Call) (s : State) (place : RangePlace) :
    AddressEnd → Program ((Bool × Bool) × State)
  | .line n => return ((n ≤ s.number, s.number ≤ n), s)
  | .last => return ((s.isLast, true), s)
  | .fits r => do
    let (fits, s) ← lineFits c s r
    return ((fits, true), s)
  | _ =>
    match place with
    | .upTo n => return ((n ≤ s.number, s.number ≤ n), s)
    | _ => return ((true, true), s)

/-- What a range stands at behind its first line. -/
def rangeBegun (s : State) : AddressEnd → RangePlace
  | .line n => if n ≤ s.number then .outside else .inside
  | .count n => if n = 0 then .outside else .upTo (s.number + n)
  | .multiple n =>
    if n = 0 || s.number % n = 0 then .outside else .upTo (s.number + n - s.number % n)
  | .last => if s.isLast then .outside else .inside
  | .fits _ => .inside

/-- Whether a command is meant for a line. -/
def isSelected (c : Call) (s : State) (index : Nat) (selector : Selector) :
    Program (Bool × State) := do
  let (chosen, s) ← match selector.first, selector.stop with
    | none, _ => pure (true, s)
    | some first, none => isAddressed c s first
    | some first, some stop =>
      match s.ranges.getD index .outside with
      | .outside =>
        let (begins, s) ← isAddressed c s first
        if begins then
          pure (true, { s with ranges := s.ranges.setIfInBounds index (rangeBegun s stop) })
        else pure (false, s)
      | place =>
        let ((isOver, belongs), s) ← endsRange c s place stop
        let ranges := if isOver then s.ranges.setIfInBounds index .outside else s.ranges
        pure (belongs, { s with ranges })
  return (chosen != selector.negated, s)

/-! ## Replacing -/

/-- How letters are changed: until further notice, and for the next one. -/
abbrev Casing := LetterCase × Option LetterCase

/-- A text with its letters changed. -/
def casedText : Casing → List Char → List Char × Casing
  | casing, [] => ([], casing)
  | (how, once), c :: rest =>
    let own := match once, how with
      | some .upperOnce, _ => c.toUpper
      | some .lowerOnce, _ => c.toLower
      | _, .upper => c.toUpper
      | _, .lower => c.toLower
      | _, _ => c
    let (others, casing) := casedText (how, none) rest
    (own :: others, casing)

/-- A replacement for a match. -/
def replacementText (text : Regex.Subject) (m : Regex.Match) :
    Casing → List ReplacePart → List Char
  | _, [] => []
  | casing, part :: rest =>
    match part with
    | .letters .upperOnce => replacementText text m (casing.1, some .upperOnce) rest
    | .letters .lowerOnce => replacementText text m (casing.1, some .lowerOnce) rest
    | .letters how => replacementText text m (how, none) rest
    | .text cs =>
      let (own, casing) := casedText casing cs
      own ++ replacementText text m casing rest
    | .group n =>
      let (own, casing) := casedText casing ((text.groupText? m n).getD [])
      own ++ replacementText text m casing rest

/-- A text with its matches replaced, and whether there were any. `count` is how many there were,
and `before` where the last one ended. The fuel is how long the text is. -/
def replaceMatches (sub : Substitution) (regex : Regex) (text : Regex.Subject) :
    Nat → Nat → Option Nat → Nat → List Char × Bool
  | 0, _, _, place => (text.part place text.chars.size, false)
  | fuel + 1, count, before, place =>
    if text.chars.size < place then ([], false)
    else
      match regex.find? text place with
      | none => (text.part place text.chars.size, false)
      | some m =>
        let front := text.part place m.first
        let isEmpty := m.first = m.stop
        let behind := if isEmpty then text.part m.stop (m.stop + 1) else []
        let next := if isEmpty then m.stop + 1 else m.stop
        let goOn := fun (count : Nat) =>
          replaceMatches sub regex text fuel count (some m.stop) next
        if isEmpty && before = some m.first then
          let (rest, replaced) := goOn count
          (front ++ behind ++ rest, replaced)
        else if count + 1 < sub.nth then
          let (rest, replaced) := goOn (count + 1)
          (front ++ text.part m.first m.stop ++ behind ++ rest, replaced)
        else
          let own := replacementText text m (.asWritten, none) sub.parts
          if sub.isGlobal then
            (front ++ own ++ behind ++ (goOn (count + 1)).1, true)
          else (front ++ own ++ text.part m.stop text.chars.size, true)

/-! ## Commands -/

/-- How a command ends. -/
inductive Flow where
  /-- the next command is done -/
  | goOn
  /-- the command at a place is done -/
  | goTo (place : Nat)
  /-- the line is done -/
  | done
  /-- the line is done and not written -/
  | dropped
  /-- the commands begin again with the same line -/
  | again
  /-- nothing more is done, with a code, and whether the line is written -/
  | quit (code : Nat) (prints : Bool)
  deriving DecidableEq, Repr

/-- Does a command. -/
def perform (c : Call) (e : Editor) (s : State) (index : Nat) (command : Command) :
    Program (Flow × State) := do
  match command.action with
  | .idle => return (.goOn, s)
  | .opening _ => return (.goOn, s)
  | .closing => return (.goOn, s)
  | .label _ => return (.goOn, s)
  | .jump condition name =>
    let jumps := match condition with
      | .always => true
      | .ifReplaced => s.hasReplaced
      | .unlessReplaced => !s.hasReplaced
    let s := if condition = .always then s else { s with hasReplaced := false }
    if !jumps then return (.goOn, s)
    else if name = "" then return (.done, s)
    else return (.goTo ((labelPlace? e.commands.toList name).getD e.commands.size), s)
  | .append text => return (.goOn, { s with later := .text text :: s.later })
  | .insert text => return (.goOn, s.emit text)
  | .change text =>
    -- For a range, the text stands once, in the place of its last line.
    let isWithin := s.ranges.getD index .outside ≠ .outside
    return (.dropped, if isWithin && !command.selector.negated then s else s.emit text)
  | .delete => return (.dropped, s)
  | .deleteFirst =>
    let cs := s.line.toList
    let first := cs.takeWhile (· ≠ '\n')
    if first.length = cs.length then return (.dropped, s)
    else return (.again, { s with line := String.ofList (cs.drop (first.length + 1)) })
  | .number => return (.goOn, s.emit (toString s.number ++ "\n"))
  | .fetch => return (.goOn, { s with line := s.kept })
  | .fetchMore => return (.goOn, { s with line := s.line ++ "\n" ++ s.kept })
  | .keep => return (.goOn, { s with kept := s.line })
  | .keepMore => return (.goOn, { s with kept := s.kept ++ "\n" ++ s.line })
  | .exchange => return (.goOn, { s with line := s.kept, kept := s.line })
  | .list => return (.goOn, s.emit (wrapPieces 69 0 (listedPieces s.line)))
  | .next =>
    if s.isLast then return (.quit 0 true, s)
    else
      let s := if e.isQuiet then s else s.emitLine e.stop s.line
      let s ← emitLater s
      return (.goOn, (← nextLine c e s fun _ line => line).getD s)
  | .nextMore =>
    if s.isLast then return (.quit 0 true, s)
    else
      let s ← emitLater s
      return (.goOn, (← nextLine c e s fun old line => old ++ "\n" ++ line).getD s)
  | .print => return (.goOn, s.emitLine e.stop s.line)
  | .printFirst =>
    let first := s.line.toList.takeWhile (· ≠ '\n')
    return (.goOn, s.emit (String.ofList first ++ "\n"))
  | .quit code prints => return (.quit code prints, s)
  | .readFile path => return (.goOn, { s with later := .file path :: s.later })
  | .writeFile path => return (.goOn, ← emitTo c e s path)
  | .substitute sub =>
    let (regex, found, s) ← resolve c s sub.pattern
    let text := subjectOf found s.line
    let (line, replaced) := replaceMatches sub regex text (text.chars.size + 2) 0 none 0
    if !replaced then return (.goOn, s)
    else
      let s := { s with line := String.ofList line, hasReplaced := true }
      let s := if sub.prints then s.emitLine e.stop s.line else s
      match sub.file with
      | some path => return (.goOn, ← emitTo c e s path)
      | none => return (.goOn, s)
  | .transliterate pairs =>
    let line := s.line.toList.map fun c => (pairs.lookup c).getD c
    return (.goOn, { s with line := String.ofList line })
  | .clear => return (.goOn, { s with line := "" })
  | .fileName => return (.goOn, s.emit (s.name ++ "\n"))

/-- Does the commands from a place on. The fuel bounds how many there are; jumps may go on for ever.
-/
def performFrom (c : Call) (e : Editor) : Nat → Nat → State → Program (Flow × State)
  | 0, _, _ => Program.diverge
  | fuel + 1, place, s => do
    match e.commands[place]? with
    | none => return (.done, s)
    | some command =>
      let (chosen, s) ← isSelected c s place command.selector
      if !chosen then
        match command.action with
        | .opening stop => performFrom c e fuel (stop + 1) s
        | _ => performFrom c e fuel (place + 1) s
      else
        match ← perform c e s place command with
        | (.goOn, s) => performFrom c e fuel (place + 1) s
        | (.goTo place, s) => performFrom c e fuel place s
        | (flow, s) => return (flow, s)

/-- Edits all lines, and gives the code if the program ends. The fuel bounds how many there are. -/
def editLines (c : Call) (e : Editor) : Nat → Bool → State → Program (Option Nat × State)
  | 0, _, _ => Program.diverge
  | fuel + 1, again, s => do
    let s? ← if again then pure (some s) else nextLine c e s fun _ line => line
    match s? with
    | none => return (none, s)
    | some s =>
      -- Only a cycle that begins again on the same line remembers that it has replaced something.
      let s := { s with hasReplaced := again && s.hasReplaced }
      let (flow, s) ← performFrom c e Program.patience 0 s
      let prints := match flow with
        | .dropped => false
        | .again => false
        | .quit _ prints => prints
        | _ => true
      let s := if prints && !e.isQuiet then s.emitLine e.stop s.line else s
      let s ← if flow = .quit 0 false then pure s else emitLater s
      match flow with
      | .quit code _ => return (some code, s)
      | .again => editLines c e fuel true s
      | _ => editLines c e fuel false s

/-! ## Files -/

/-- Where ranges stand in front of the first line. -/
def firstRanges (commands : Array Command) : Array RangePlace :=
  commands.map fun command => match command.selector.first, command.selector.stop with
    | some (.line 0), some (.fits _) => .inside
    | _, _ => .outside

/-- An editor in front of the first line of files. -/
def start (e : Editor) (kept : String) (files : List String) : State :=
  ⟨"", true, kept, 0, "-", false, [], firstRanges e.commands, none, [], false,
    ⟨[], "", none, files, false⟩⟩

/-- Edits files one behind the other, as one text. -/
def editTogether (c : Call) (e : Editor) (kept : String) (files : List String) :
    Program (Option Nat × State) := do
  let s := start e kept files
  let input ← fill c e.stop Program.patience s.input
  let (code?, s) ← editLines c e Program.patience false { s with input }
  return (code?, ← flush c e s)

/-- Edits a file, and writes the result in its place. -/
def editInPlace (c : Call) (e : Editor) (suffix kept path : String) :
    Program (Option Nat × State) := do
  let (code?, s) ← editTogether c { e with keepsOutput := true } kept [path]
  let status ← Program.ask (Unix.statusAt path true)
  if suffix ≠ "" then
    let goal := if suffix.toList.contains '*' then suffix.replace "*" path else path ++ suffix
    Program.request (Unix.rename path goal)
  else Program.request (Unix.removeName path)
  match ← writeFile path (String.join s.output.reverse) false with
  | .ok () =>
    if let .ok status := status then Program.request (Unix.setMode path status.mode)
    return (code?, { s with output := [] })
  | .error errno =>
    complain c ("couldn't open file " ++ path ++ ": " ++ errno.words)
    Program.exit 4

/-- Edits files one by one. -/
def editSeparately (c : Call) (e : Editor) (suffix? : Option String) :
    Bool → String → List String → Program Nat
  | failed, _, [] => return if failed then 2 else 0
  | failed, kept, path :: rest => do
    let kind? ← if path = "-" then pure none
      else pure ((← statusOf path true).map (·.kind))
    let isFile := kind? = some .regular
    match suffix? with
    | some suffix =>
      if kind?.isNone then
        complain c ("can't read " ++ path ++ ": " ++ Errno.words .noEntry)
        editSeparately c e suffix? true kept rest
      else if !isFile then failing c ("couldn't edit " ++ path ++ ": not a regular file") 4
      else
        let (code?, s) ← editInPlace c e suffix kept path
        match code? with
        | some code => return code
        | none => editSeparately c e suffix? (failed || s.input.hasFailed) s.kept rest
    | none =>
      let (code?, s) ← editTogether c e kept [path]
      match code? with
      | some code => return code
      | none => editSeparately c e suffix? (failed || s.input.hasFailed) s.kept rest

/-- The files that commands write. -/
def writtenFiles (commands : List Command) : List String :=
  (commands.filterMap fun command => match command.action with
    | .writeFile path => some path
    | .substitute sub => sub.file
    | _ => none).eraseDups

end Editing

/-- The options of the stream editor. -/
def sedOptions : List OptionSpec :=
  [valued 'e' ["expression"], valued 'f' ["file"], flag 'n' ["quiet", "silent"],
    flag 'E' ["regexp-extended"], flag 'r' [], flag 's' ["separate"], flag 'u' ["unbuffered"],
    flag 'z' ["null-data"], valued 'l' ["line-length"], ⟨'i', ["in-place"], .optional, true⟩,
    named 'p' ["posix"] .without]

/-- The texts of a script in the order of options, each with the file it is from. -/
def scriptTexts (c : Call) : Options → Program (List (String × Option String))
  | [] => return []
  | (letter, value) :: rest => do
    let text := value.getD ""
    let own ← if letter = 'e' then pure [(text, none)]
      else if letter = 'f' then
        match ← contentOf text with
        | .ok content => pure [((content.dropSuffix "\n").toString, some text)]
        | .error errno =>
          complain c ("couldn't open file " ++ text ++ ": " ++ errno.words)
          Program.exit 4
      else pure []
    return own ++ (← scriptTexts c rest)

/-- Edits a stream. -/
def sed : Utility := fun c => do
  let usage := "Usage: " ++ c.name ++
    " [OPTION]... \x7bscript-only-if-no-other-script\x7d [input-file]...\n"
  match (OptionTable.mk sedOptions true).read c.arguments with
  | .error message =>
    complain c message
    say usage
    return 1
  | .ok (o, rest) =>
    let given ← scriptTexts c o
    match o.hasAny ['e', 'f'], rest with
    | false, [] =>
      say usage
      return 1
    | hasScript, _ =>
      let texts := if hasScript then given else [(rest.headD "", none)]
      let files := if hasScript then rest else rest.drop 1
      let place := fun (n : Nat) (cs : List Char) (left : Nat) =>
        match (texts[n]?).bind (·.2) with
        | some path =>
          let front := cs.take (cs.length - left)
          "file " ++ path ++ " line " ++ toString (front.filter (· = '\n')).length.succ ++ ": "
        | none =>
          "-e expression #" ++ toString (n + 1) ++ ", char " ++ toString (cs.length - left) ++ ": "
      match Editing.readScript (o.hasAny ['E', 'r']) place (texts.map (·.1)) with
      | .error message => failing c message 1
      | .ok commands =>
        if let some name := Editing.missingLabel? commands then
          return ← failing c ("can't find label for jump to \x60" ++ name ++ "'") 4
        let paths := (Editing.writtenFiles commands).filter (· ≠ "/dev/stdout")
        let targets ← paths.mapM fun path => do
          if path = "/dev/stderr" then return (path, 2)
          else
            match ← Program.ask (Unix.openFile path .forWriting) with
            | .ok descriptor => return (path, descriptor)
            | .error errno =>
              complain c ("couldn't open file " ++ path ++ ": " ++ errno.words)
              Program.exit 4
        let firstLine := (((texts.head?.map (·.1)).getD "").splitOn "\n").headD ""
        let isQuiet := o.has 'n' || firstLine = "#n"
        let e : Editing.Editor := ⟨commands.toArray, isQuiet, if o.has 'z' then '\x00' else '\n',
          targets, false⟩
        if o.has 'i' then
          if files = [] then failing c "no input files" 4
          else Editing.editSeparately c e (some ((o.value? 'i').getD "")) false "" files
        else if o.has 's' then Editing.editSeparately c e none false "" (inputsOf files)
        else
          let (code?, s) ← Editing.editTogether c e "" (inputsOf files)
          return code?.getD (if s.input.hasFailed then 2 else 0)

end Shipyard.Utility
