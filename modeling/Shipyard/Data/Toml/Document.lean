import Shipyard.Data.Toml.Scalar

/-!
# TOML documents

`Toml.read` turns a text into a table. A document is read statement by statement into a `Draft`: the
table so far, the header that is open, and the marks that say which tables may no longer be opened
or changed. A table that a header or a dotted key has named is `closed`: no further header or dotted
key may name it again. A list or an inline table that was given as a value is `frozen` together with
all that is below it.
-/

namespace Shipyard.Toml

/-- A path of keys from the root of a document. -/
abbrev KeyPath := List String

/-! ## Tables behind a path -/

/-- Changes the table behind a path, which is made where it is missing. With `throughLists` a list
of tables on the way stands for its last table. There is no such table behind any other value. -/
def modifyBehind (throughLists : Bool) (f : Table → Option Table) : KeyPath → Table → Option Table
  | [], t => f t
  | key :: path, t =>
    match t.find? key with
    | none => (modifyBehind throughLists f path []).map fun inner => t.insert key (.table inner)
    | some (.table inner) =>
      (modifyBehind throughLists f path inner).map fun inner => t.insert key (.table inner)
    | some (.list items) =>
      match throughLists, items.reverse with
      | true, .table inner :: before =>
        (modifyBehind throughLists f path inner).map fun inner =>
          t.insert key (.list (before.reverse ++ [.table inner]))
      | _, _ => none
    | some _ => none

/-- A table with a new key; none if the key is there. -/
def addNew (key : String) (value : Value) (t : Table) : Option Table :=
  match t.find? key with
  | none => some (t.insert key value)
  | some _ => none

/-- A table with an empty table added to the list of a key. -/
def appendTable (key : String) (t : Table) : Option Table :=
  match t.find? key with
  | none => some (t.insert key (.list [.table []]))
  | some (.list items) => some (t.insert key (.list (items ++ [.table []])))
  | some _ => none

/-! ## Values -/

/-- The text behind the blanks, ends of lines and comments inside a list. -/
def skipFiller : Nat → List Char → Except Fault (List Char)
  | 0, cs => .ok cs
  | fuel + 1, cs =>
    match cs.dropWhile fun c => isSpace c || c = '\n' with
    | '#' :: rest =>
      let comment := rest.takeWhile (· ≠ '\n')
      if comment.any isControl then refuse else skipFiller fuel (rest.dropWhile (· ≠ '\n'))
    | after => .ok after

/-- The text behind blanks, ends of lines and comments. -/
def skipFillers (cs : List Char) : Except Fault (List Char) := skipFiller (cs.length + 1) cs

/-- The deepest nesting of lists and inline tables. -/
def maxDepth : Nat := 480

/-- Whether a value is a list or a table. -/
def isContainer : Value → Bool
  | .table _ => true
  | .list _ => true
  | _ => false

/-- Whether some beginning of a path is among the given paths. -/
def isUnder (paths : List KeyPath) (path : KeyPath) : Bool :=
  paths.any fun p => p ≠ [] && p.isPrefixOf path

/-- A field of an inline table added to the fields before it. -/
def addInline (frozen : List KeyPath) (key : KeyPath) (value : Value) (t : Table) : Option Table :=
  if isUnder frozen key then none
  else
    match key.reverse with
    | [] => none
    | last :: parents => modifyBehind false (addNew last value) parents.reverse t

mutual

/-- Reads a value inside `depth` lists and inline tables. -/
def readValue : Nat → Nat → List Char → Reading Value
  | 0, _, _ => refuse
  | fuel + 1, depth, cs =>
    match cs with
    | '"' :: _ => (readString cs).map fun r => (.text (String.ofList r.1), r.2)
    | '\x27' :: _ => (readString cs).map fun r => (.text (String.ofList r.1), r.2)
    | '[' :: rest =>
      if maxDepth ≤ depth then .error .tooDeep
      else
        match skipFillers rest with
        | .error e => .error e
        | .ok (']' :: after) => .ok (.list [], after)
        | .ok inner => readItems fuel (depth + 1) [] inner
    | '\x7b' :: rest =>
      if maxDepth ≤ depth then .error .tooDeep
      else
        match skipSpace rest with
        | '\x7d' :: after => .ok (.table [], after)
        | inner => readInline fuel (depth + 1) [] [] inner
    | _ => readScalar cs

/-- Reads the items of a list, the ones so far reversed. -/
def readItems : Nat → Nat → List Value → List Char → Reading Value
  | 0, _, _, _ => refuse
  | fuel + 1, depth, done, cs =>
    match readValue fuel depth cs with
    | .error e => .error e
    | .ok (v, after) =>
      match skipFillers after with
      | .error e => .error e
      | .ok (']' :: rest) => .ok (.list (v :: done).reverse, rest)
      | .ok (',' :: rest) =>
        match skipFillers rest with
        | .error e => .error e
        | .ok (']' :: rest) => .ok (.list (v :: done).reverse, rest)
        | .ok inner => readItems fuel depth (v :: done) inner
      | .ok _ => refuse

/-- Reads the fields of an inline table into the ones so far; `frozen` are the paths of the
containers among them. -/
def readInline : Nat → Nat → List KeyPath → Table → List Char → Reading Value
  | 0, _, _, _, _ => refuse
  | fuel + 1, depth, frozen, done, cs =>
    match readKey cs with
    | .error e => .error e
    | .ok (key, '=' :: rest) =>
      match readValue fuel depth (skipSpace rest) with
      | .error e => .error e
      | .ok (v, after) =>
        match addInline frozen key v done with
        | none => refuse
        | some done =>
          match skipSpace after with
          | '\x7d' :: rest => .ok (.table done, rest)
          | ',' :: rest =>
            let frozen := if isContainer v then key :: frozen else frozen
            readInline fuel depth frozen done (skipSpace rest)
          | _ => refuse
    | .ok _ => refuse

end

/-! ## Statements -/

/-- A document that has been read in part. -/
structure Draft where
  /-- the table so far -/
  root : Table
  /-- the path of the open header -/
  header : KeyPath
  /-- the paths that no header and no dotted key may name again -/
  closed : List KeyPath
  /-- the paths below which nothing may be changed -/
  frozen : List KeyPath
  /-- the paths that are closed at the next header -/
  pending : List KeyPath

namespace Draft

/-- The document before its first statement. -/
def empty : Draft := ⟨[], [], [], [], []⟩

/-- The draft when a header begins: the pending paths are closed. -/
def beginHeader (d : Draft) : Draft := { d with closed := d.pending ++ d.closed, pending := [] }

/-- Opens a table. -/
def openTable (d : Draft) (key : KeyPath) : Option Draft :=
  if d.closed.contains key || isUnder d.frozen key then none
  else
    (modifyBehind true some key d.root).map fun root =>
      { d with root, header := key, closed := key :: d.closed }

/-- Opens a new table at the end of a list of tables. All marks below the list are lifted. -/
def openListItem (d : Draft) (key : KeyPath) : Option Draft :=
  if isUnder d.frozen key then none
  else
    match key.reverse with
    | [] => none
    | last :: parents =>
      let keep := fun (p : KeyPath) => !key.isPrefixOf p
      (modifyBehind true (appendTable last) parents.reverse d.root).map fun root =>
        { d with
          root
          header := key
          closed := key :: d.closed.filter keep
          frozen := d.frozen.filter keep }

/-- The paths of the tables that a dotted key names on its way. -/
def pathsOnTheWay (header key : KeyPath) : List KeyPath :=
  (List.range (key.length - 1)).map fun i => header ++ key.take (i + 1)

/-- Gives a key its value. -/
def assign (d : Draft) (key : KeyPath) (value : Value) : Option Draft :=
  match key.reverse with
  | [] => none
  | last :: parents =>
    let onTheWay := pathsOnTheWay d.header key
    let parent := d.header ++ parents.reverse
    if onTheWay.any d.closed.contains || isUnder d.frozen parent then none
    else
      (modifyBehind true (addNew last value) parent d.root).map fun root =>
        { d with
          root
          frozen := if isContainer value then (d.header ++ key) :: d.frozen else d.frozen
          pending := onTheWay ++ d.pending }

end Draft

/-- The draft and the text behind a header between the given closing brackets. -/
def readHeader (d : Draft) (close : List Char) (enter : Draft → KeyPath → Option Draft)
    (cs : List Char) : Reading Draft :=
  match readKey (skipSpace cs) with
  | .error e => .error e
  | .ok (key, after) =>
    match enter d.beginHeader key with
    | none => refuse
    | some d => if close.isPrefixOf after then .ok (d, after.drop close.length) else refuse

/-- Reads a key, an equality sign and a value. -/
def readAssignment (d : Draft) (cs : List Char) : Reading Draft :=
  match readKey cs with
  | .error e => .error e
  | .ok (key, '=' :: rest) =>
    match readValue (2 * cs.length + 2) 0 (skipSpace rest) with
    | .error e => .error e
    | .ok (v, after) =>
      match d.assign key v with
      | none => refuse
      | some d => .ok (d, after)
  | .ok _ => refuse

/-- Reads the statement at the beginning of a line; a line may be empty. -/
def readStatement (d : Draft) (cs : List Char) : Reading Draft :=
  match cs with
  | [] => .ok (d, [])
  | '[' :: '[' :: rest => readHeader d "]]".toList Draft.openListItem rest
  | '[' :: rest => readHeader d "]".toList Draft.openTable rest
  | c :: _ =>
    if c = '\n' || c = '#' then .ok (d, cs)
    else if isBareKey c || c = '"' || c = '\x27' then readAssignment d cs
    else refuse

/-- The text behind the rest of a line, which may hold blanks and a comment only. -/
def finishLine (cs : List Char) : Except Fault (List Char) :=
  let cs := skipSpace cs
  let (comment, after) :=
    match cs with
    | '#' :: rest => (rest.takeWhile (· ≠ '\n'), rest.dropWhile (· ≠ '\n'))
    | _ => ([], cs)
  if comment.any isControl then refuse
  else
    match after with
    | [] => .ok []
    | '\n' :: rest => .ok rest
    | _ => refuse

/-- Reads the lines of a document. -/
def readLines : Nat → Draft → List Char → Except Fault Table
  | 0, _, _ => refuse
  | fuel + 1, d, cs =>
    match skipSpace cs with
    | [] => .ok d.root
    | cs =>
      match readStatement d cs with
      | .error e => .error e
      | .ok (d, after) =>
        match finishLine after with
        | .error e => .error e
        | .ok rest => readLines fuel d rest

/-- A text in which a carriage return before a line feed is dropped; `done` is reversed. -/
def dropReturns (done : List Char) : List Char → List Char
  | [] => done.reverse
  | '\r' :: '\n' :: rest => dropReturns ('\n' :: done) rest
  | c :: rest => dropReturns (c :: done) rest

/-- The table that a text stands for. -/
def read (s : String) : Except Fault Table :=
  let cs := dropReturns [] s.toList
  readLines (cs.length + 2) Draft.empty cs

end Shipyard.Toml
