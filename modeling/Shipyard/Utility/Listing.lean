import Shipyard.Archive.Calendar
import Shipyard.Shell.Pattern
import Shipyard.Utility.Files

/-!
# Programs that list files

Programs that write the names of files and what is known of them, in a directory or in all that it
holds.
-/

namespace Shipyard.Utility

open Unix (Program Status Kind)

/-! ## Directories -/

/-- A file of a listing. -/
structure Entry where
  /-- its name -/
  name : String
  /-- its path -/
  path : String
  /-- what is known of it -/
  status : Status

/-- How files are listed. -/
structure Listing where
  /-- the options -/
  options : Options
  deriving Repr

namespace Listing

/-- Whether a name is listed. -/
def shows (l : Listing) (name : String) : Bool :=
  !name.startsWith "." || l.options.hasAny ['a', 'A', 'f']

/-- Files in the order in which they are listed. -/
def ordered (l : Listing) (entries : List Entry) : List Entry :=
  let byName := entries.mergeSort fun a b => a.name ≤ b.name
  let result := match l.options.last? ['t', 'S', 'U', 'f'] with
    | some 't' => byName.mergeSort fun a b => b.status.modified ≤ a.status.modified
    | some 'S' => byName.mergeSort fun a b => b.status.size ≤ a.status.size
    | some _ => entries
    | none => byName
  if l.options.has 'r' then result.reverse else result

/-- The mark behind the name of a file. -/
def mark (l : Listing) (e : Entry) : String :=
  let full := l.options.has 'F'
  match e.status.kind with
  | .directory => if full || l.options.has 'p' then "/" else ""
  | .link => if full && !l.options.has 'l' then "@" else ""
  | .pipe => if full then "|" else ""
  | .regular => if full && e.status.mode &&& 0o111 ≠ 0 then "*" else ""
  | .device => ""

/-- The letter of a kind of files. -/
def kindLetter : Kind → String
  | .directory => "d"
  | .link => "l"
  | .pipe => "p"
  | .device => "c"
  | .regular => "-"

/-- The names of the months. -/
def months : List String :=
  ["Jan", "Feb", "Mar", "Apr", "May", "Jun", "Jul", "Aug", "Sep", "Oct", "Nov", "Dec"]

/-- A time as it is listed, as seen from a time. -/
def timeText (now time : Int) : String :=
  let seconds := time.fdiv (Unix.second : Int)
  let m := Moment.ofSeconds seconds
  let two := fun (n : Nat) => (if n < 10 then "0" else "") ++ toString n
  let age := now.fdiv (Unix.second : Int) - seconds
  let isRecent := 0 ≤ age && age < 15778476
  months.getD (m.month - 1) "" ++ " " ++ padFront 2 (toString m.day) ++ " " ++
    (if isRecent then two m.hour ++ ":" ++ two m.minute else padFront 5 (toString m.year))

/-- How many blocks a file has. -/
def blocks (e : Entry) : Nat :=
  match e.status.kind with
  | .link => 0
  | .device => 0
  | _ => (e.status.size + 4095) / 4096 * 4

/-- The lines of files. -/
def lines (l : Listing) (now : Int) (entries : List Entry) (targets : List (String × String)) :
    List String :=
  let width := fun (f : Entry → String) => (entries.map fun e => (f e).length).foldl max 0
  let number := fun (e : Entry) => toString e.status.number
  let links := fun (e : Entry) => toString e.status.links
  let size := fun (e : Entry) => toString e.status.size
  let blockText := fun (e : Entry) => toString (blocks e)
  let (numberWidth, linkWidth, sizeWidth, blockWidth) :=
    (width number, width links, width size, width blockText)
  entries.map fun e =>
    let front := (if l.options.has 'i' then padFront numberWidth (number e) ++ " " else "") ++
      (if l.options.has 's' then padFront blockWidth (blockText e) ++ " " else "")
    let behind := match targets.lookup e.path with
      | some target => if l.options.has 'l' then " -> " ++ target else ""
      | none => ""
    let name := if l.options.has 'Q' then "\"" ++ e.name ++ "\"" else e.name
    let owner := if l.options.has 'n' then "0 0" else "root root"
    if l.options.hasAny ['l', 'n'] then
      front ++ kindLetter e.status.kind ++ Unix.modeText e.status.mode ++ " " ++
        padFront linkWidth (links e) ++ " " ++ owner ++ " " ++ padFront sizeWidth (size e) ++ " " ++
        timeText now e.status.modified ++ " " ++ name ++ l.mark e ++ behind
    else front ++ (if l.options.has 'Z' then "? " else "") ++ name ++ l.mark e

/-- Names in columns, which are filled row by row or column by column, and the width of the columns
where they lie in so many. -/
def gridOf (acrossRows : Bool) (columns : Nat) (names : List String) :
    List (List String) × List Nat :=
  let rows := (names.length + columns - 1) / columns
  let at? := fun (row column : Nat) =>
    names[if acrossRows then row * columns + column else column * rows + row]?
  let grid := (List.range rows).map fun row => (List.range columns).filterMap fun column =>
    if acrossRows || column * rows + row < names.length then at? row column else none
  let widths := (List.range columns).map fun column =>
    ((grid.filterMap fun row => row[column]?).map String.length).foldl max 0
  (grid, widths)

/-- The lines of names that lie in as many columns as fit. -/
def gridLines (acrossRows : Bool) (names : List String) : List String :=
  let width := fun (widths : List Nat) => (widths.map (· + 2)).foldl (· + ·) 0
  let fits := fun (columns : Nat) => width (gridOf acrossRows columns names).2 ≤ 80 + 2
  let columns := (((List.range (min names.length 27)).reverse.map (· + 1)).find? fits).getD 1
  let (grid, widths) := gridOf acrossRows columns names
  grid.map fun row =>
    let padded := (row.zip widths).map fun (name, width) =>
      name ++ String.ofList (List.replicate (width + 2 - name.length) ' ')
    String.join (padded.dropLast ++ row.getLast?.toList)

/-- Writes files. -/
def write (l : Listing) (c : Call) (entries : List Entry) : Program Unit := do
  let now ← Program.askD 0 Unix.timeNow
  let targets ← entries.mapM fun e => do
    if e.status.kind = .link then return (e.path, ← Program.askD "" (Unix.targetOf e.path))
    else return (e.path, "")
  let targets := targets.filter (·.2 ≠ "")
  let lines := l.lines now (l.ordered entries) targets
  if l.options.has 'm' then
    if lines ≠ [] then putLine c (String.intercalate ", " lines)
  else if l.options.last? ['l', 'n', '1', 'C', 'x'] = some 'C' then
    put c (unlines '\n' (gridLines false lines))
  else if l.options.last? ['l', 'n', '1', 'C', 'x'] = some 'x' then
    put c (unlines '\n' (gridLines true lines))
  else put c (unlines '\n' lines)

/-- The files in a directory. -/
def entriesOf (l : Listing) (path : String) : Program (Except Errno (List Entry)) := do
  match ← namesIn path with
  | .error errno => return .error errno
  | .ok names =>
    let names := if l.options.hasAny ['a', 'f'] then "." :: ".." :: names else names
    let entries ← (names.filter l.shows).mapM fun name => do
      let place := inDirectory path name
      return (← statusOf place (l.options.has 'L')).map fun status => ⟨name, place, status⟩
    return .ok (entries.filterMap id)

/-- Writes directories, with those in them if that is asked for, and tells whether everything was
possible. The fuel bounds how deeply they are nested. -/
def writeDirectories (l : Listing) (c : Call) (withNames : Bool) :
    Nat → Bool → List String → Program (Bool × Bool)
  | 0, isFirst, _ => return (isFirst, true)
  | _ + 1, isFirst, [] => return (isFirst, true)
  | fuel + 1, isFirst, path :: rest => do
    match ← l.entriesOf path with
    | .error errno =>
      complain c ("cannot open directory " ++ quotedAlways path ++ ": " ++ errno.words)
      let (isFirst, _) ← writeDirectories l c withNames fuel isFirst rest
      return (isFirst, false)
    | .ok entries =>
      if withNames then put c ((if isFirst then "" else "\n") ++ quotedName path ++ ":\n")
      if l.options.hasAny ['l', 's', 'n'] then
        putLine c ("total " ++ toString ((entries.map blocks).foldl (· + ·) 0))
      l.write c entries
      let inner := if l.options.has 'R' then
          (l.ordered entries).filter fun e =>
            e.status.kind = .directory && e.name ≠ "." && e.name ≠ ".."
        else []
      let (isFirst, done) ← writeDirectories l c withNames fuel false (inner.map (·.path))
      let (isFirst, more) ← writeDirectories l c withNames fuel isFirst rest
      return (isFirst, done && more)

end Listing

/-- Lists files. -/
def ls : Utility :=
  withOptions (flags "aACdfFghiklLmnopqrRsStuUvxXZ1Q" ++
    [named 'a' ["all"] .without, named 'A' ["almost-all"] .without,
      named 'd' ["directory"] .without, named 'R' ["recursive"] .without,
      named 'r' ["reverse"] .without, named 'c' ["color"] .optional,
      named 'F' ["classify"] .optional, named 'i' ["inode"] .without, named 's' ["size"] .without,
      named 'e' ["time-style"] .required, named 'H' ["human-readable"] .without]) 2
    fun c o paths => do
    let l : Listing := ⟨o⟩
    let found ← (if paths = [] then ["."] else paths).mapM fun path => do
      let follow := !o.hasAny ['l', 'd', 'F'] || o.has 'L'
      let status? ← match ← Program.ask (Unix.statusAt path follow) with
        | .ok status => pure (Except.ok status)
        | .error errno =>
          if follow then Program.ask (Unix.statusAt path false) else pure (.error errno)
      match status? with
      | .ok status => return some (Entry.mk path path status)
      | .error errno =>
        complain c ("cannot access " ++ quotedAlways path ++ ": " ++ errno.words)
        return none
    let entries := found.filterMap id
    let (directories, files) :=
      if o.has 'd' then ([], entries) else entries.partition fun e => e.status.kind = .directory
    if files ≠ [] then l.write c files
    let withNames := 1 < found.length || o.has 'R'
    let paths := (l.ordered directories).map (·.path)
    let (_, done) ← l.writeDirectories c withNames depthLimit files.isEmpty paths
    return if found.any Option.isNone then 2 else if done then 0 else 1

/-! ## What is known of files -/

/-- The words for a kind of files. -/
def kindWords (status : Status) : String :=
  match status.kind with
  | .directory => "directory"
  | .link => "symbolic link"
  | .pipe => "fifo"
  | .device => "character special file"
  | .regular => if status.size = 0 then "regular empty file" else "regular file"

/-- What a letter of a format stands for. -/
def statusField (path target : String) (status : Status) (letter : Char) : String :=
  match letter with
  | 'a' => Unix.octalText 1 status.mode
  | 'A' => Listing.kindLetter status.kind ++ Unix.modeText status.mode
  | 's' => toString status.size
  | 'n' => path
  | 'N' => quotedAlways path ++ (if target = "" then "" else " -> " ++ quotedAlways target)
  | 'F' => kindWords status
  | 'h' => toString status.links
  | 'i' => toString status.number
  | 'Y' => toString (status.modified.fdiv (Unix.second : Int))
  | 'X' => toString (status.modified.fdiv (Unix.second : Int))
  | 'Z' => toString (status.modified.fdiv (Unix.second : Int))
  | 'u' => "0"
  | 'g' => "0"
  | 'U' => "root"
  | 'G' => "root"
  | 'b' => toString ((status.size + 4095) / 4096 * 8)
  | 'B' => "512"
  | 'o' => "4096"
  | '%' => "%"
  | _ => "?"

/-- A format with what its letters stand for. -/
def statusText (field : Char → String) : List Char → String
  | [] => ""
  | '%' :: letter :: rest => field letter ++ statusText field rest
  | c :: rest => String.ofList [c] ++ statusText field rest

/-- Writes what is known of files. -/
def stat : Utility :=
  withOptions [valued 'c' ["format"], named 'p' ["printf"] .required, flag 'L' ["dereference"],
    flag 't' ["terse"], flag 'f' ["file-system"]] 1 fun c o paths => do
    if paths = [] then misused c "missing operand" 1
    else
      let done ← forEach (fun path => do
        match ← Program.ask (Unix.statusAt path (o.has 'L')) with
        | .error errno => refused c ("cannot statx " ++ quotedAlways path) errno
        | .ok status =>
          let target ← if status.kind = .link then Program.askD "" (Unix.targetOf path) else pure ""
          let field := statusField path target status
          match o.value? 'p', o.value? 'c' with
          | some format, _ => put c (statusText field (Shell.unescaped .program format).1.toList)
          | none, some format => putLine c (statusText field format.toList)
          | none, none =>
            putLine c (statusText field "  File: %n\n  Size: %s\tBlocks: %b\t%F".toList)
          return true) paths
      return codeFor done

/-! ## Finding files -/

/-- What is asked of a file. -/
inductive Query where
  /-- nothing -/
  | yes
  /-- the pattern that its name fits -/
  | name (pattern : String) (folds : Bool)
  /-- the pattern that its path fits -/
  | path (pattern : String) (folds : Bool)
  /-- its kind -/
  | kind (letter : Char)
  /-- its size in units, and how it compares -/
  | size (order : Ordering) (n unit : Nat)
  /-- whether it holds nothing -/
  | empty
  /-- whether it was changed later than another file -/
  | newer (time : Int)
  /-- its permissions -/
  | mode (kind : Char) (bits : Nat)
  /-- it is told with an end -/
  | print (stop : String)
  /-- it is told with a format -/
  | printf (format : String)
  /-- it is removed -/
  | delete
  /-- what a directory holds is left out -/
  | prune
  /-- nothing more is looked for -/
  | quit
  /-- a command is run for it -/
  | exec (words : List String)
  /-- a command is run for all of them -/
  | execAll (words : List String)
  /-- the opposite -/
  | not (q : Query)
  /-- both -/
  | and (a b : Query)
  /-- one of both -/
  | or (a b : Query)
  deriving Repr

/-- Whether a query does something, so that files are not told by themselves. -/
def Query.acts : Query → Bool
  | print _ => true
  | printf _ => true
  | delete => true
  | exec _ => true
  | execAll _ => true
  | quit => true
  | not q => q.acts
  | and a b => a.acts || b.acts
  | or a b => a.acts || b.acts
  | _ => false

/-- What is found out while queries are answered. -/
structure Search where
  /-- the least and the greatest depth of files -/
  depths : Nat × Option Nat
  /-- whether what a directory holds comes first -/
  isDepthFirst : Bool
  /-- the files for commands that are run for all of them, the latest first -/
  gathered : List (List String × String)
  /-- whether nothing more is looked for -/
  hasQuit : Bool
  /-- the code -/
  code : Nat

/-- The pattern of a text, as a shell has it. -/
def globOf (pattern : String) (folds : Bool) : Shell.Pattern :=
  let cs := pattern.toList
  Shell.Pattern.ofLetters ((if folds then cs.map Char.toLower else cs).map fun c => ⟨c, false⟩)

/-- Whether a text fits a pattern. -/
def fitsGlob (pattern : String) (folds : Bool) (text : String) : Bool :=
  let cs := text.toList
  (globOf pattern folds).accepts (if folds then cs.map Char.toLower else cs)

/-- A time of a search whose limits are read from arguments. -/
def noSearch : Search := ⟨(0, none), false, [], false, 0⟩

/-- Runs a command, and tells whether it succeeds. -/
def runCommand (c : Call) (argv : List String) : Program Bool := do
  discard (Program.fork (taskOf c argv fun name errno => quotedAlways name ++ ": " ++ errno.words))
  return (← awaitAnyChild Program.patience) = some (.exited 0)

/-- The letter of a kind of files in a query. -/
def queryKind : Kind → Char
  | .directory => 'd'
  | .link => 'l'
  | .pipe => 'p'
  | .device => 'c'
  | .regular => 'f'

/-- The answer to a query about a file, and whether what it holds is left out. -/
def answerQuery (c : Call) (s : Search) (path start : String) (depth : Nat) (status : Status) :
    Query → Program (Bool × Bool × Search)
  | .yes => return (true, false, s)
  | .name pattern folds => return (fitsGlob pattern folds (lastName path), false, s)
  | .path pattern folds => return (fitsGlob pattern folds path, false, s)
  | .kind letter => return (queryKind status.kind = letter, false, s)
  | .size order n unit =>
    return (compare ((status.size + unit - 1) / unit) n = order, false, s)
  | .empty => do
    match status.kind with
    | .regular => return (status.size = 0, false, s)
    | .directory => return (((← namesIn path).toOption) = some [], false, s)
    | _ => return (false, false, s)
  | .newer time => return (time < status.modified, false, s)
  | .mode kind bits =>
    let own := status.mode % 0o10000
    let fits := if kind = '-' then own &&& bits = bits
      else if kind = '/' then bits = 0 || own &&& bits ≠ 0 else own = bits
    return (fits, false, s)
  | .print stop => do
    put c (path ++ stop)
    return (true, false, s)
  | .printf format => do
    let field := fun (letter : Char) =>
      match letter with
      | 'p' => path
      | 'f' => lastName path
      | 'h' => directoryName path
      | 'P' => ((path.drop start.length).dropWhile (· = '/')).toString
      | 'd' => toString depth
      | 'm' => Unix.octalText 1 status.mode
      | 'M' => Listing.kindLetter status.kind ++ Unix.modeText status.mode
      | 'y' => String.ofList [queryKind status.kind]
      | letter => statusField path "" status letter
    put c (statusText field (Shell.unescaped .program format).1.toList)
    return (true, false, s)
  | .delete => do
    let removed ← if status.kind = .directory then Program.ask (Unix.removeDirectory path)
      else Program.ask (Unix.removeName path)
    match removed with
    | .ok () => return (true, false, s)
    | .error errno =>
      complain c ("cannot delete " ++ quotedAlways path ++ ": " ++ errno.words)
      return (false, false, { s with code := 1 })
  | .prune => return (true, true, s)
  | .quit => return (true, false, { s with hasQuit := true })
  | .exec words => do
    let argv := words.map fun word =>
      String.ofList (replaceMarks ['\x7b', '\x7d'] path.toList word.toList (word.length + 1))
    return (← runCommand c argv, false, s)
  | .execAll words => return (true, false, { s with gathered := (words, path) :: s.gathered })
  | .not q => do
    let (b, isPruned, s) ← answerQuery c s path start depth status q
    return (!b, isPruned, s)
  | .and a b => do
    let (first, isPruned, s) ← answerQuery c s path start depth status a
    if first && !s.hasQuit then
      let (second, more, s) ← answerQuery c s path start depth status b
      return (second, isPruned || more, s)
    else return (first, isPruned, s)
  | .or a b => do
    let (first, isPruned, s) ← answerQuery c s path start depth status a
    if first || s.hasQuit then return (first, isPruned, s)
    else
      let (second, more, s) ← answerQuery c s path start depth status b
      return (second, isPruned || more, s)

/-- Looks for files at and below a path. The fuel bounds how deeply they are nested. -/
def searchBelow (c : Call) (q : Query) (start : String) :
    Nat → Nat → Search → List String → Program Search
  | 0, _, s, _ => return s
  | _ + 1, _, s, [] => return s
  | fuel + 1, depth, s, path :: rest => do
    if s.hasQuit then return s
    else
      match ← Program.ask (Unix.statusAt path false) with
      | .error errno =>
        complain c (quotedAlways path ++ ": " ++ errno.words)
        searchBelow c q start fuel depth { s with code := 1 } rest
      | .ok status =>
        let isMeant := s.depths.1 ≤ depth
        let isWithin := match s.depths.2 with
          | some most => decide (depth < most)
          | none => true
        let mayDescend := status.kind = .directory && isWithin
        let descend := fun (s : Search) => do
          match ← namesIn path with
          | .ok names =>
            searchBelow c q start fuel (depth + 1) s (names.map (inDirectory path))
          | .error errno =>
            complain c (quotedAlways path ++ ": " ++ errno.words)
            return { s with code := 1 }
        if s.isDepthFirst then
          let s ← if mayDescend then descend s else pure s
          let (_, _, s) ← if isMeant && !s.hasQuit then answerQuery c s path start depth status q
            else pure (true, false, s)
          searchBelow c q start fuel depth s rest
        else
          let (_, isPruned, s) ← if isMeant then answerQuery c s path start depth status q
            else pure (true, false, s)
          let s ← if mayDescend && !isPruned && !s.hasQuit then descend s else pure s
          searchBelow c q start fuel depth s rest

/-! ### Reading queries -/

/-- A query that is read, with what is asked of the search and the arguments behind it. -/
abbrev QueryReading := Except String (Query × Search × List String)

/-- How a number is asked for, and the number. -/
def comparisonOf (text : String) : Ordering × String :=
  match text.toList with
  | '+' :: rest => (.gt, String.ofList rest)
  | '-' :: rest => (.lt, String.ofList rest)
  | _ => (.eq, text)

/-- The query that an argument with a size stands for. -/
def sizeQuery (text : String) : Option Query := do
  let (order, number) := comparisonOf text
  let cs := number.toList
  let digits := cs.takeWhile Char.isDigit
  let unit ← [([], 512), (['b'], 512), (['c'], 1), (['w'], 2), (['k'], 1024), (['M'], 1048576),
    (['G'], 1073741824)].lookup (cs.drop digits.length)
  if digits = [] then none else some (.size order (digitsOf digits) unit)

/-- The query of permissions. -/
def modeQuery (text : String) : Option Query :=
  let (kind, rest) := match text.toList with
    | '-' :: rest => ('-', String.ofList rest)
    | '/' :: rest => ('/', String.ofList rest)
    | _ => ('=', text)
  (Unix.ModeChange.apply ⟨false, 0⟩ 0 rest).map (.mode kind)

/-- The command behind an option, and the arguments behind that. -/
def commandOf (words : List String) : Except String (Query × List String) :=
  let isEnd := fun (w : String) => w = ";"
  let front := words.takeWhile fun w => !isEnd w && w ≠ "+"
  match words.drop front.length with
  | "+" :: rest =>
    if front.getLast? = some "\x7b\x7d" then .ok (.execAll front.dropLast, rest)
    else
      let all := words.takeWhile fun w => !isEnd w
      if all.length < words.length then .ok (.exec all, words.drop (all.length + 1))
      else .error "missing argument to `-exec'"
  | _ :: rest => .ok (.exec front, rest)
  | [] => .error "missing argument to `-exec'"

/-- A single query with a value. -/
def valuedQuery (s : Search) (option value : String) : Option (Except String (Query × Search)) :=
  let ok := fun (q : Query) => some (Except.ok (q, s))
  let depth := fun (f : Nat → Search) => match value.toNat? with
    | some n => some (.ok (.yes, f n))
    | none => some (.error ("Expected a positive decimal integer argument to " ++ option ++
        ", but got " ++ quotedAlways value))
  match option with
  | "-name" => ok (.name value false)
  | "-iname" => ok (.name value true)
  | "-path" => ok (.path value false)
  | "-wholename" => ok (.path value false)
  | "-ipath" => ok (.path value true)
  | "-type" => match value.toList with
    | [letter] =>
      if "bcdpfls".toList.contains letter then ok (.kind letter)
      else some (.error ("Unknown argument to -type: " ++ value))
    | [] => some (.error "Arguments to -type should contain at least one letter")
    | letters => some (.error (if letters.getD 1 ',' = ',' then
          "Unknown argument to -type: " ++ value
        else "Must separate multiple arguments to -type using: ','"))
  | "-size" => match sizeQuery value with
    | some q => ok q
    | none => some (.error ("Invalid argument `" ++ value ++ "' to -size"))
  | "-perm" => match modeQuery value with
    | some q => ok q
    | none => some (.error ("invalid mode " ++ quotedAlways value))
  | "-printf" => ok (.printf value)
  | "-maxdepth" => depth fun n => { s with depths := (s.depths.1, some n) }
  | "-mindepth" => depth fun n => { s with depths := (n, s.depths.2) }
  | _ => none

/-- A single query without a value. -/
def plainQuery (s : Search) (option : String) : Option (Query × Search) :=
  match option with
  | "-print" => some (.print "\n", s)
  | "-print0" => some (.print "\x00", s)
  | "-empty" => some (.empty, s)
  | "-delete" => some (.delete, { s with isDepthFirst := true })
  | "-prune" => some (.prune, s)
  | "-quit" => some (.quit, s)
  | "-true" => some (.yes, s)
  | "-false" => some (.not .yes, s)
  | "-depth" => some (.yes, { s with isDepthFirst := true })
  | "-xdev" => some (.yes, s)
  | "-follow" => some (.yes, s)
  | _ => none

mutual

/-- Alternatives. -/
def readAnyQuery (times : List (String × Int)) : Nat → Search → List String → QueryReading
  | 0, _, _ => .error "expression is too deep"
  | fuel + 1, s, words => do
    let (a, s, rest) ← readAllQuery times fuel s words
    match rest with
    | "-o" :: rest =>
      let (b, s, rest) ← readAnyQuery times fuel s rest
      return (.or a b, s, rest)
    | "-or" :: rest =>
      let (b, s, rest) ← readAnyQuery times fuel s rest
      return (.or a b, s, rest)
    | _ => return (a, s, rest)

/-- Queries that are all asked. -/
def readAllQuery (times : List (String × Int)) : Nat → Search → List String → QueryReading
  | 0, _, _ => .error "expression is too deep"
  | fuel + 1, s, words => do
    let (a, s, rest) ← readOneQuery times fuel s words
    match rest with
    | [] => return (a, s, [])
    | word :: behind =>
      if ["-o", "-or", ")"].contains word then return (a, s, rest)
      else
        let behind := if word = "-a" || word = "-and" then behind else rest
        let (b, s, rest) ← readAllQuery times fuel s behind
        return (.and a b, s, rest)

/-- A single query. -/
def readOneQuery (times : List (String × Int)) : Nat → Search → List String → QueryReading
  | 0, _, _ => .error "expression is too deep"
  | _ + 1, _, [] => .error "expected an expression"
  | fuel + 1, s, word :: rest => do
    if word = "(" then
      let (q, s, rest) ← readAnyQuery times fuel s rest
      match rest with
      | ")" :: rest => return (q, s, rest)
      | _ =>
        .error "invalid expression; I was expecting to find a ')' somewhere but did not see one."
    else if word = "!" || word = "-not" then
      let (q, s, rest) ← readOneQuery times fuel s rest
      return (.not q, s, rest)
    else if word = "-exec" || word = "-execdir" then
      let (q, rest) ← commandOf rest
      return (q, s, rest)
    else
      match plainQuery s word with
      | some (q, s) => return (q, s, rest)
      | none =>
        match rest with
        | value :: rest =>
          if word = "-newer" then return (.newer ((times.lookup value).getD 0), s, rest)
          else
            match valuedQuery s word value with
            | some result =>
              let (q, s) ← result
              return (q, s, rest)
            | none => .error ("unknown predicate `" ++ word ++ "'")
        | [] =>
          if (valuedQuery s word "").isSome || word = "-newer" then
            .error ("missing argument to `" ++ word ++ "'")
          else .error ("unknown predicate `" ++ word ++ "'")

end

/-- Looks for files. -/
def find : Utility := fun c => do
  let arguments := c.arguments.dropWhile fun a => ["-H", "-L", "-P"].contains a
  let isPath := fun (a : String) => !(a.startsWith "-" && a ≠ "-") && a ≠ "(" && a ≠ "!"
  let starts := arguments.takeWhile isPath
  let words := arguments.drop starts.length
  let starts := if starts = [] then ["."] else starts
  let references := (words.zip (words.drop 1)).filterMap fun (option, value) =>
    if option = "-newer" then some value else none
  let times ← references.mapM fun path => do
    return (path, ((← statusOf path true).map (·.modified)).getD 0)
  let reading := if words = [] then Except.ok (Query.yes, noSearch, [])
    else readAnyQuery times (4 * words.length + 8) noSearch words
  match reading with
  | .error message => failing c message 1
  | .ok (_, _, word :: _) =>
    failing c (if word = ")" then "you have too many ')'"
      else "paths must precede expression: `" ++ word ++ "'") 1
  | .ok (q, s, []) =>
    let q := if q.acts then q else .and q (.print "\n")
    let s ← starts.foldlM (fun s start => searchBelow c q start depthLimit 0 s [start]) s
    let commands := (s.gathered.map (·.1)).eraseDups
    let done ← forEach (fun words =>
      let paths := (s.gathered.filter (·.1 = words)).reverse.map (·.2)
      runCommand c (words ++ paths)) commands.reverse
    return if done then s.code else 1

end Shipyard.Utility
