import Shipyard.Utility.Stream

/-!
# Programs on columns and characters

Programs that choose parts of lines, put lines side by side, break them, and replace characters.
-/

namespace Shipyard.Utility

open Unix (Program)

/-! ## Parts of lines -/

/-- The places between two, which count from one; without an end they go on. -/
structure Span where
  /-- the first place -/
  first : Nat
  /-- the last place -/
  last : Option Nat
  deriving DecidableEq, Repr

namespace Span

/-- Whether a place lies in a span. -/
def has (s : Span) (place : Nat) : Bool := s.first ≤ place && s.last.all (place ≤ ·)

end Span

/-- Where the reading of a list of places stands. -/
structure SpanReader where
  /-- whether a dash was read -/
  dashed : Bool
  /-- the number in front of the dash -/
  left : Option Nat
  /-- the number that is being read -/
  current : Option Nat
  deriving DecidableEq, Repr

/-- The span that was read, or what is wrong with it. -/
def SpanReader.span (r : SpanReader) (zeroFault : String) : Except String Span :=
  if r.dashed then
    match r.left, r.current with
    | none, none => .error "invalid range with no endpoint: -"
    | left, none => .ok ⟨left.getD 1, none⟩
    | left, some last =>
      if last < left.getD 1 then .error "invalid decreasing range" else .ok ⟨left.getD 1, last⟩
  else
    match r.current with
    | some n => if n = 0 then .error zeroFault else .ok ⟨n, some n⟩
    | none => .error zeroFault

/-- The spans of a list. The faults are those of fields or of characters. -/
def readSpans (onFields : Bool) : SpanReader → List Char → Except String (List Span)
  | r, [] => do return [← r.span (zeroFault onFields)]
  | r, c :: rest => do
    if c = ',' || c = ' ' || c = '\t' then
      let span ← r.span (zeroFault onFields)
      return span :: (← readSpans onFields ⟨false, none, none⟩ rest)
    else if c = '-' then
      if r.dashed then
        .error (if onFields then "invalid field range" else "invalid byte or character range")
      else if r.current = some 0 then .error (zeroFault onFields)
      else readSpans onFields ⟨true, r.current, none⟩ rest
    else if c.isDigit then
      let n := 10 * r.current.getD 0 + (c.toNat - 48)
      readSpans onFields { r with current := some n } rest
    else
      .error ((if onFields then "invalid field value " else "invalid byte/character position ") ++
        quotedText (String.ofList (c :: rest)))
where
  /-- What is wrong with a place that is zero. -/
  zeroFault (onFields : Bool) : String :=
    if onFields then "fields are numbered from 1"
    else "byte/character positions are numbered from 1"

/-- The places that spans have, in runs: a run ends where a place is missing or where a span begins
that does not touch the one before. -/
def chosenRuns (chosen begins : Nat → Bool) : Nat → List Char → List (List Char)
  | _, [] => []
  | place, c :: rest =>
    let others := chosenRuns chosen begins (place + 1) rest
    if !chosen place then [] :: others
    else
      match others with
      | run :: more =>
        if begins (place + 1) then [c] :: run :: more else (c :: run) :: more
      | [] => [[c]]

/-- The chosen characters of a line. -/
def chosenCharacters (spans : List Span) (inverse : Bool) (separator : String) (line : String) :
    String :=
  let chosen := fun place => (spans.any fun s => s.has place) != inverse
  let begins := fun place => !inverse && spans.any fun s =>
    s.first = place && !spans.any fun other => other.first < place && other.has place
  let runs := (chosenRuns chosen begins 1 line.toList).filter (· ≠ [])
  String.intercalate separator (runs.map String.ofList)

/-- The chosen fields of a line, unless it has only one and such lines are left out. -/
def chosenFields (spans : List Span) (inverse skips : Bool) (delimiter : Char)
    (separator : String) (line : String) : Option String :=
  let fields := (Text.splitAt delimiter line.toList).map String.ofList
  if fields.length ≤ 1 then if skips then none else some line
  else
    let numbered := (List.range fields.length).zip fields
    let chosen := numbered.filter fun (place, _) =>
      (spans.any fun s => s.has (place + 1)) != inverse
    some (String.intercalate separator (chosen.map (·.2)))

/-- Chooses parts of lines. -/
def cut : Utility :=
  withOptions [valued 'b' ["bytes"], valued 'c' ["characters"], valued 'f' ["fields"],
    valued 'd' ["delimiter"], flag 'n' [], flag 's' ["only-delimited"],
    flag 'z' ["zero-terminated"], named 'C' ["complement"] .without,
    named 'o' ["output-delimiter"] .required] 1 fun c o paths => do
    let lists := o.filter fun entry => ['b', 'c', 'f'].contains entry.1
    let onFields := o.has 'f'
    let delimiter := (o.value? 'd').map String.toList
    if 1 < ((o.value? 'd').getD "").length then
      misused c "the delimiter must be a single character" 1
    else
      match lists with
      | [] => misused c "you must specify a list of bytes, characters, or fields" 1
      | _ :: _ :: _ => misused c "only one list may be specified" 1
      | [(_, list)] =>
        if !onFields && delimiter.isSome then
          misused c "an input delimiter may be specified only when operating on fields" 1
        else if !onFields && o.has 's' then
          misused c ("suppressing non-delimited lines makes sense\n" ++
            "\tonly when operating on fields") 1
        else
          match readSpans onFields ⟨false, none, none⟩ (list.getD "").toList with
          | .error message => misused c message 1
          | .ok spans =>
            let stop := if o.has 'z' then '\x00' else '\n'
            let mark := match delimiter with
              | some (d :: _) => d
              | some [] => '\x00'
              | none => '\t'
            let inverse := o.has 'C'
            let convert := fun line =>
              if onFields then
                let separator := (o.value? 'o').getD (String.ofList [mark])
                chosenFields spans inverse (o.has 's') mark separator line
              else some (chosenCharacters spans inverse ((o.value? 'o').getD "") line)
            let done ← forContents c fileFault
              (fun _ text => put c (unlines stop ((linesOf stop text).1.filterMap convert)))
              (inputsOf paths)
            return if done then 0 else 1

/-! ## Lines side by side -/

/-- The characters of a list of separators; one of them may stand for nothing. -/
def separatorsOf : List Char → List String
  | '\\' :: 'n' :: rest => "\n" :: separatorsOf rest
  | '\\' :: 't' :: rest => "\t" :: separatorsOf rest
  | '\\' :: '0' :: rest => "" :: separatorsOf rest
  | '\\' :: '\\' :: rest => "\\" :: separatorsOf rest
  | c :: rest => String.ofList [c] :: separatorsOf rest
  | [] => []

/-- Texts with separators between them, which are taken one after the other. -/
def joinWith (separators : List String) : Nat → List String → String
  | _, [] => ""
  | _, [text] => text
  | place, text :: rest =>
    text ++ (separators[place % separators.length]?).getD "" ++ joinWith separators (place + 1) rest

/-- The rows of columns; the fuel is how many rows there are. -/
def rowsOf (separators : List String) : Nat → List (List String) → List String
  | 0, _ => []
  | n + 1, columns =>
    joinWith separators 0 (columns.map fun column => column.headD "") ::
      rowsOf separators n (columns.map (·.drop 1))

/-- Every one of several lines, beginning with some line. The fuel is how many lines there are. -/
def everyNth (step : Nat) : Nat → List String → List String
  | 0, _ => []
  | _ + 1, [] => []
  | fuel + 1, line :: rest => line :: everyNth step fuel (rest.drop (step - 1))

/-- The columns that paths stand for. Where the input is named several times, its lines are dealt
out one after the other. -/
def columnsOf (contents : List (String × List String)) : List (List String) :=
  let shared := ((contents.find? (·.1 = "-")).map (·.2)).getD []
  let step := (contents.filter (·.1 = "-")).length
  let places := contents.foldl (fun (done, n) (path, _) =>
    if path = "-" then (done ++ [n], n + 1) else (done ++ [0], n)) (([] : List Nat), 0)
  (contents.zip places.1).map fun ((path, lines), n) =>
    if path = "-" then everyNth step shared.length (shared.drop n) else lines

/-- Reads the lines of files. The input is read once. -/
def linesOfFiles (c : Call) (stop : Char) :
    Bool → List String → Program (Option (List (String × List String)))
  | _, [] => return some []
  | seen, path :: rest => do
    if path = "-" && seen then
      return (← linesOfFiles c stop true rest).map (("-", []) :: ·)
    else
      match ← contentOf path with
      | .ok text =>
        return (← linesOfFiles c stop (seen || path = "-") rest).map
          ((path, (linesOf stop text).1) :: ·)
      | .error errno =>
        complain c (fileFault path errno)
        return none

/-- Puts the lines of files side by side. -/
def paste : Utility :=
  withOptions [valued 'd' ["delimiters"], flag 's' ["serial"], flag 'z' ["zero-terminated"]] 1
    fun c o paths => do
    let stop := if o.has 'z' then '\x00' else '\n'
    let separators := match separatorsOf ((o.value? 'd').getD "\t").toList with
      | [] => [""]
      | found => found
    match ← linesOfFiles c stop false (inputsOf paths) with
    | none => return 1
    | some contents =>
      if o.has 's' then
        put c (unlines stop (contents.map fun (_, lines) => joinWith separators 0 lines))
      else
        let columns := columnsOf contents
        let height := columns.foldl (fun n column => max n column.length) 0
        put c (unlines stop (rowsOf separators height columns))
      return 0

/-! ## Breaking lines -/

/-- The column behind a character. -/
def columnAfter (inBytes : Bool) (column : Nat) (c : Char) : Nat :=
  if inBytes then column + 1
  else if c = '\x08' then column - 1
  else if c = '\r' then 0
  else if c = '\t' then column + 8 - column % 8
  else column + 1

/-- The column behind a text. -/
def columnsUsed (inBytes : Bool) (cs : List Char) : Nat := cs.foldl (columnAfter inBytes) 0

/-- Breaks a line. `done` is the part of it that is not written yet, the latest character first, and
`column` is where that ends. -/
def foldLine (inBytes atBlanks : Bool) (width : Nat) : Nat → List Char → List Char → List String
  | _, done, [] => [String.ofList done.reverse]
  | column, done, c :: rest =>
    let next := columnAfter inBytes column c
    if done ≠ [] && width < next then
      let first := columnAfter inBytes 0 c
      let behind := done.takeWhile fun d => d ≠ ' ' && d ≠ '\t'
      if atBlanks && behind.length < done.length then
        let kept := behind.reverse
        let front := String.ofList (done.drop behind.length).reverse
        let next := columnAfter inBytes (columnsUsed inBytes kept) c
        if kept ≠ [] && width < next then
          front :: String.ofList kept :: foldLine inBytes atBlanks width first [c] rest
        else front :: foldLine inBytes atBlanks width next (c :: behind) rest
      else String.ofList done.reverse :: foldLine inBytes atBlanks width first [c] rest
    else foldLine inBytes atBlanks width next (c :: done) rest

/-- Breaks lines that are too long. -/
def fold : Utility := fun c =>
  let arguments := c.arguments.flatMap fun argument =>
    match argument.toList with
    | '-' :: d :: more =>
      if d.isDigit && more.all Char.isDigit then ["-w", String.ofList (d :: more)] else [argument]
    | _ => [argument]
  withOptions [flag 'b' ["bytes"], flag 's' ["spaces"], valued 'w' ["width"]] 1 (fun c o paths => do
    let text := (o.value? 'w').getD "80"
    match text.toNat? with
    | none | some 0 => failing c ("invalid number of columns: " ++ quotedText text) 1
    | some width =>
      let done ← forContents c fileFault (fun _ text => do
        let (lines, hasEnd) := linesOf '\n' text
        let broken := lines.map fun line =>
          String.intercalate "\n" (foldLine (o.has 'b') (o.has 's') width 0 [] line.toList)
        put c (String.intercalate "\n" broken ++ (if hasEnd && lines ≠ [] then "\n" else "")))
        (inputsOf paths)
      return if done then 0 else 1) { c with arguments }

/-- The column of the next tabulator stop. -/
def nextStop (stops : List Nat) (column : Nat) : Nat :=
  match stops with
  | [size] => column + size - column % size
  | _ => (stops.find? (column < ·)).getD (column + 1)

/-- A line with blanks for its tabulators. -/
def expandLine (stops : List Nat) (onlyFront : Bool) : Nat → Bool → List Char → List Char
  | _, _, [] => []
  | column, active, c :: rest =>
    if c = '\t' && active then
      let next := nextStop stops column
      List.replicate (next - column) ' ' ++ expandLine stops onlyFront next true rest
    else
      let active := active && (!onlyFront || c = ' ')
      let column := if c = '\x08' then column - 1 else column + 1
      c :: expandLine stops onlyFront column active rest

/-- Writes blanks for tabulators. -/
def expand : Utility :=
  withOptions [flag 'i' ["initial"], valued 't' ["tabs"]] 1 fun c o paths => do
    let list := String.intercalate "," (o.values 't')
    let parts := if list = "" then ["8"] else
      ((Text.splitAt ',' list.toList).map String.ofList).filter (· ≠ "")
    match parts.find? fun part => part.toNat?.isNone, parts.filterMap String.toNat? with
    | some wrong, _ => failing c ("tab size contains invalid character(s): " ++ quotedText wrong) 1
    | none, stops =>
      if stops.contains 0 then failing c "tab size cannot be 0" 1
      else
        let done ← forContents c fileFault (fun _ text =>
          let (lines, hasEnd) := linesOf '\n' text
          let shown := lines.map fun line =>
            String.ofList (expandLine stops (o.has 'i') 0 true line.toList)
          put c (String.intercalate "\n" shown ++ (if hasEnd && lines ≠ [] then "\n" else "")))
          (inputsOf paths)
        return if done then 0 else 1

end Shipyard.Utility
