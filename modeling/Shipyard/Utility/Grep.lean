import Shipyard.Regex.Reader
import Shipyard.Utility.Listing

/-!
# Looking for lines

Lines that fit regular expressions are written, counted or only noticed. Files are read block by
block, so that what has no end need not be read to its end.
-/

namespace Shipyard.Utility

open Unix (Program)

/-- What is looked for, and how it is told. -/
structure LineSearch where
  /-- the expression -/
  pattern : Regex
  /-- the options -/
  options : Options
  /-- how many lines are selected at most -/
  most : Option Nat
  /-- how many lines are told in front of a selected one -/
  before : Nat
  /-- how many lines are told behind a selected one -/
  behind : Nat
  /-- whether names of files are told -/
  withNames : Bool
  /-- the end of a line -/
  stop : Char

/-- Where a search stands. -/
structure LineScan where
  /-- the beginning of the line whose end is not read yet -/
  rest : String
  /-- how many lines there were -/
  number : Nat
  /-- how many bytes there were -/
  offset : Nat
  /-- how many lines were selected -/
  selected : Nat
  /-- the lines that could be told in front of a selected one, the latest one first -/
  earlier : List (Nat × Nat × String)
  /-- how many more lines are told -/
  awaited : Nat
  /-- the line that was told last -/
  told : Option Nat
  /-- whether there is something in the file that is not text -/
  isBinary : Bool

namespace LineSearch

/-- Whether a part of a line may be a match. -/
def fits (s : LineSearch) (line : Regex.Subject) (first stop : Nat) : Bool :=
  (!s.options.has 'x' || (first = 0 && stop = line.chars.size)) &&
    (!s.options.has 'w' || (!(0 < first && line.isWordAt (first - 1)) && !line.isWordAt stop))

/-- A line as a text in which something is looked for. -/
def subject (s : LineSearch) (line : String) : Regex.Subject :=
  ⟨line.toList.toArray, s.options.hasAny ['i', 'y'], false⟩

/-- Whether a line is selected. -/
def selects (s : LineSearch) (line : String) : Bool :=
  let text := s.subject line
  (s.pattern.findFitting? text (s.fits text) 0).isSome != s.options.has 'v'

/-- The parts of a line that fit, with their places. The fuel is how long the line is. -/
def parts (s : LineSearch) (text : Regex.Subject) : Nat → Nat → List (Nat × String)
  | 0, _ => []
  | fuel + 1, place =>
    match s.pattern.findFitting? text (s.fits text) place with
    | none => []
    | some m =>
      if m.stop = m.first then parts s text fuel (m.first + 1)
      else (m.first, String.ofList (text.part m.first m.stop)) :: parts s text fuel m.stop

/-- A line as it is told. The mark tells whether it is a selected one. -/
def lineText (s : LineSearch) (name : String) (mark : String) (number offset : Nat)
    (line : String) : String :=
  (if s.withNames then name ++ mark else "") ++
    (if s.options.has 'n' then toString number ++ mark else "") ++
    (if s.options.has 'b' then toString offset ++ mark else "") ++ (line.push s.stop)

/-- Whether lines are told at all. -/
def isTold (s : LineSearch) : Bool := !s.options.hasAny ['c', 'l', 'L', 'q']

/-- Whether nothing more needs to be read. -/
def isOver (s : LineSearch) (scan : LineScan) : Bool :=
  let enough := s.most.any (· ≤ scan.selected) && (scan.awaited = 0 || !s.isTold)
  enough || (s.options.hasAny ['q', 'l', 'L'] && 0 < scan.selected)

/-- What is told of a selected line. -/
def selectedText (s : LineSearch) (name : String) (scan : LineScan) (line : String) : String :=
  let number := scan.number + 1
  if s.options.has 'o' then
    if s.options.has 'v' then ""
    else
      let text := s.subject line
      String.join ((s.parts text (line.length + 1) 0).map fun (place, part) =>
        s.lineText name ":" number (scan.offset + place) part)
  else
    let isApart := match scan.told, scan.earlier.getLast? with
      | some told, some (first, _) => told + 1 < first
      | some told, none => told + 1 < number
      | none, _ => false
    let gap := if isApart && (0 < s.before || 0 < s.behind) then "--\n" else ""
    gap ++ String.join (scan.earlier.reverse.map fun (n, offset, text) =>
      s.lineText name "-" n offset text) ++ s.lineText name ":" number scan.offset line

/-- Goes on by a line, and gives what is told of it. -/
def step (s : LineSearch) (name : String) (scan : LineScan) (line : String) : LineScan × String :=
  let number := scan.number + 1
  let next := { scan with number, offset := scan.offset + line.length + 1 }
  if s.isOver scan then (scan, "")
  else if !s.most.any (· ≤ scan.selected) && s.selects line then
    let text := if s.isTold && !scan.isBinary then s.selectedText name scan line else ""
    let selected := scan.selected + 1
    ({ next with selected, earlier := [], awaited := s.behind, told := some number }, text)
  else if 0 < scan.awaited then
    let text := if s.isTold && !scan.isBinary && !s.options.has 'o' then
        s.lineText name "-" number scan.offset line
      else ""
    ({ next with awaited := scan.awaited - 1, told := some number }, text)
  else
    ({ next with earlier := ((number, scan.offset, line) :: scan.earlier).take s.before }, "")

/-- Goes on by several lines. -/
def steps (s : LineSearch) (name : String) :
    LineScan → List String → List String → LineScan × List String
  | scan, texts, [] => (scan, texts)
  | scan, texts, line :: rest =>
    let (scan, text) := s.step name scan line
    steps s name scan (if text = "" then texts else text :: texts) rest

/-- Looks for lines in what a descriptor leads to. -/
def scanAll (s : LineSearch) (c : Call) (name : String) (descriptor : Nat) :
    Program (Except Errno LineScan) := do
  let result ← Program.readBlocks descriptor 32768 (fun scan block => do
    let isBinary := scan.isBinary ||
      (!s.options.hasAny ['a', 'z'] && block.toList.contains '\x00')
    let lines := (Text.splitAt s.stop (scan.rest ++ block).toList).map String.ofList
    let (scan, texts) := s.steps name { scan with isBinary } [] lines.dropLast
    put c (String.join texts.reverse)
    return ({ scan with rest := lines.getLast?.getD "" }, !s.isOver scan)) Program.patience
    ⟨"", 0, 0, 0, [], 0, none, false⟩
  match result with
  | .error errno => return .error errno
  | .ok scan =>
    if scan.rest = "" then return .ok scan
    else
      let (scan, text) := s.step name scan scan.rest
      put c text
      return .ok scan

/-- What is told of a file when it was read, and whether lines were selected. -/
def conclude (s : LineSearch) (c : Call) (name : String) (scan : LineScan) : Program Bool := do
  let o := s.options
  if o.has 'q' then return 0 < scan.selected
  else
    if o.hasAny ['l', 'L'] then
      if o.has 'l' = (0 < scan.selected : Bool) then putLine c name
    else if o.has 'c' then
      putLine c ((if s.withNames then name ++ ":" else "") ++ toString scan.selected)
    else if scan.isBinary && 0 < scan.selected then
      complain c (name ++ ": binary file matches")
    return if o.has 'L' then scan.selected = 0 else 0 < scan.selected

/-- Looks for lines in a file, and tells whether lines were selected and whether something was
wrong. -/
def searchFile (s : LineSearch) (c : Call) (path : String) : Program (Bool × Bool) := do
  let name := if path = "-" then "(standard input)" else path
  let wrong := fun (errno : Errno) => do
    if !s.options.has 's' then complain c (name ++ ": " ++ errno.words)
    pure (false, true)
  match ← openToRead path with
  | .error errno => wrong errno
  | .ok descriptor =>
    let result ← s.scanAll c name descriptor
    closeRead path descriptor
    match result with
    | .error errno =>
      let (_, failed) ← wrong errno
      return (← s.conclude c name ⟨"", 0, 0, 0, [], 0, none, false⟩, failed)
    | .ok scan => return (← s.conclude c name scan, false)

/-- Looks for lines in files one after the other. -/
def searchFiles (s : LineSearch) (c : Call) : Bool → Bool → List String → Program (Bool × Bool)
  | found, wrong, [] => return (found, wrong)
  | found, wrong, path :: rest => do
    let (own, ownWrong) ← s.searchFile c path
    if own && s.options.has 'q' then return (true, wrong || ownWrong)
    else searchFiles s c (found || own) (wrong || ownWrong) rest

end LineSearch

/-- The files below a directory. The fuel bounds how deeply directories are nested. -/
def filesBelow : Nat → List String → Program (List String)
  | 0, _ => return []
  | _ + 1, [] => return []
  | fuel + 1, path :: rest => do
    let own ← match ← statusOf path false with
      | some status =>
        if status.kind = .directory then
          match ← namesIn path with
          | .ok names => filesBelow fuel (names.map (inDirectory path))
          | .error _ => pure [path]
        else if status.kind = .regular then pure [path]
        else pure []
      | none => pure []
    return own ++ (← filesBelow fuel rest)

/-- The options of a search for lines. -/
def grepOptions : List OptionSpec :=
  flags "EFGPinvclLoqswxhHrRabyzTUuI" ++
    [valued 'e' ["regexp"], valued 'f' ["file"], valued 'm' ["max-count"],
      valued 'A' ["after-context"], valued 'B' ["before-context"], valued 'C' ["context"],
      named 'E' ["extended-regexp"] .without, named 'F' ["fixed-strings"] .without,
      named 'G' ["basic-regexp"] .without, named 'P' ["perl-regexp"] .without,
      named 'i' ["ignore-case"] .without, named 'v' ["invert-match"] .without,
      named 'n' ["line-number"] .without, named '1' ["color", "colour"] .optional,
      named 'c' ["count"] .without,
      named 'l' ["files-with-matches"] .without, named 'L' ["files-without-match"] .without,
      named 'o' ["only-matching"] .without, named 'q' ["quiet", "silent"] .without,
      named 's' ["no-messages"] .without, named 'w' ["word-regexp"] .without,
      named 'x' ["line-regexp"] .without, named 'h' ["no-filename"] .without,
      named 'H' ["with-filename"] .without, named 'r' ["recursive"] .without,
      named 'R' ["dereference-recursive"] .without, named 'a' ["text"] .without,
      named 'b' ["byte-offset"] .without, named 'z' ["null-data"] .without,
      named '2' ["include"] .required,
      named '3' ["exclude"] .required, named '4' ["exclude-dir"] .required,
      named '5' ["line-buffered"] .without]

/-- The expression for several ones, each of them on a line of its own, or what is wrong with them.
-/
def patternOf (o : Options) (texts : List String) : Except String Regex := do
  let lines := texts.flatMap fun text => Text.splitAt '\n' text.toList
  let kind := (o.last? ['E', 'F', 'G', 'P']).getD 'G'
  let patterns ← lines.mapM fun line =>
    if kind = 'F' then .ok (Regex.ofText line)
    else (Regex.read ⟨kind = 'E' || kind = 'P', false, true⟩ line).map (·.1)
  match patterns.reverse with
  | [] => return .one false []
  | last :: others => return others.foldl (fun all r => .either r all) last

/-- A number of lines that are told beside selected ones, or what is wrong with it. -/
def contextOf (o : Options) (letter : Char) : Except String Nat :=
  match o.last? [letter, 'C'] with
  | none => .ok 0
  | some given =>
    let text := ((o.filter fun entry => entry.1 = given).getLast?.bind (·.2)).getD ""
    let own := if o.has letter then (o.value? letter).getD "" else text
    match own.toNat? with
    | some n => .ok n
    | none => .error (own ++ ": invalid context length argument")

/-- What is asked for by options, with the expressions and how many files there are, or what is
wrong. -/
def lineSearchOf (o : Options) (texts : List String) (files : Nat) : Except String LineSearch := do
  let most ← match o.value? 'm' with
    | none => .ok none
    | some text =>
      match text.toNat? with
      | some n => .ok (some n)
      | none => if text.startsWith "-" then .ok none else .error "invalid max count"
  let before ← contextOf o 'B'
  let behind ← contextOf o 'A'
  let pattern ← patternOf o texts
  return {
    pattern, most, before, behind
    options := o
    withNames := match o.last? ['h', 'H'] with
      | some letter => letter = 'H'
      | none => 1 < files || o.hasAny ['r', 'R']
    stop := if o.has 'z' then '\x00' else '\n' }

/-- Says how a search for lines is called. -/
def sayLineUsage (c : Call) : Program Nat := do
  say ("Usage: " ++ c.name ++ " [OPTION]... PATTERNS [FILE]...\n" ++ c.helpHint ++ "\n")
  return 2

/-- Looks for lines. -/
def grep : Utility := fun c => do
  let arguments := c.arguments.flatMap fun argument =>
    match argument.toList with
    | '-' :: d :: more =>
      if d.isDigit && more.all Char.isDigit then ["-C", String.ofList (d :: more)] else [argument]
    | _ => [argument]
  match (OptionTable.mk grepOptions true).read arguments with
  | .error message =>
    complain c message
    sayLineUsage c
  | .ok (o, rest) =>
    let lists ← (o.values 'f').mapM fun path => do
      match ← contentOf path with
      | .ok text => return (linesOf '\n' text).1
      | .error errno =>
        complain c (path ++ ": " ++ errno.words)
        Program.exit 2
    let given := o.values 'e' ++ lists.flatten
    let (texts?, paths) := match o.hasAny ['e', 'f'], rest with
      | true, _ => (some given, rest)
      | false, text :: paths => (some [text], paths)
      | false, [] => (none, [])
    match texts? with
    | none => sayLineUsage c
    | some texts =>
      match lineSearchOf o texts paths.length with
      | .error message => failing c message 2
      | .ok s =>
        let isDeep := o.hasAny ['r', 'R']
        let paths ← if isDeep then
            if paths = [] then do
              let below ← filesBelow depthLimit ["."]
              pure (below.map fun path => (path.drop 2).toString)
            else filesBelow depthLimit paths
          else pure (inputsOf paths)
        let wanted := paths.filter fun path =>
          let name := (path.splitOn "/").getLast?.getD ""
          let fits := fun (letter : Char) =>
            (o.values letter).any fun text => fitsGlob text false name
          !isDeep || ((!o.has '2' || fits '2') && !fits '3')
        let isVain := s.most = some 0 || (texts = [""] && o.has 'v' && !o.hasAny ['w', 'x'])
        if isVain && !o.has 'L' then return 1
        let (found, wrong) ← s.searchFiles c false false wanted
        return if found && (!wrong || o.has 'q') then 0 else if wrong then 2 else 1

/-- Looks for lines with expressions whose operators have no backslashes. -/
def egrep : Utility := fun c => grep { c with arguments := "-E" :: c.arguments }

/-- Looks for lines with texts. -/
def fgrep : Utility := fun c => grep { c with arguments := "-F" :: c.arguments }

end Shipyard.Utility
