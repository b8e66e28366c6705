import Shipyard.Regex.Reader

/-!
# Scripts of the stream editor

A script is a list of commands, each with the lines it is meant for. Commands between braces are
kept in the same list: the opening brace knows where its closing brace stands, and jumps know where
they lead.
-/

namespace Shipyard.Utility.Editing

/-- An expression as it is written in a script; without one the last one that was used is meant. -/
structure ScriptRegex where
  /-- the expression -/
  regex? : Option Regex
  /-- how many groups it has -/
  groups : Nat
  /-- whether large and small letters are alike -/
  folds : Bool
  /-- whether lines begin and end within the text -/
  hasLines : Bool

/-- A line that a command is meant for, or where such lines begin. -/
inductive Address where
  /-- a line by its number -/
  | line (n : Nat)
  /-- every so many lines, from one on -/
  | every (first step : Nat)
  /-- the last line -/
  | last
  /-- a line that fits -/
  | fits (r : ScriptRegex)

/-- Where the lines end that a command is meant for. -/
inductive AddressEnd where
  /-- a line by its number -/
  | line (n : Nat)
  /-- the last line -/
  | last
  /-- a line that fits -/
  | fits (r : ScriptRegex)
  /-- so many lines behind the first one -/
  | count (n : Nat)
  /-- the next line whose number is a multiple -/
  | multiple (n : Nat)

/-- The lines that a command is meant for. -/
structure Selector where
  /-- the line, or the first one -/
  first : Option Address
  /-- where the lines end, if there may be several -/
  stop : Option AddressEnd
  /-- whether all other lines are meant -/
  negated : Bool

/-- How letters of a replacement are changed. -/
inductive LetterCase where
  | upper
  | lower
  | asWritten
  | upperOnce
  | lowerOnce
  deriving DecidableEq, Repr

/-- A part of a replacement. -/
inductive ReplacePart where
  /-- a text -/
  | text (cs : List Char)
  /-- a group of the match; zero is all of it -/
  | group (n : Nat)
  /-- how letters are changed from here on -/
  | letters (how : LetterCase)
  deriving DecidableEq, Repr

/-- A replacement of what fits. -/
structure Substitution where
  /-- what is looked for -/
  pattern : ScriptRegex
  /-- what stands in its place -/
  parts : List ReplacePart
  /-- the number of the first match that is replaced -/
  nth : Nat
  /-- whether all later ones are replaced too -/
  isGlobal : Bool
  /-- whether the line is written if something was replaced -/
  prints : Bool
  /-- the file to which the line is written if something was replaced -/
  file : Option String

/-- When a jump is made. -/
inductive JumpCondition where
  | always
  | ifReplaced
  | unlessReplaced
  deriving DecidableEq, Repr

/-- What a command does. -/
inductive Action where
  /-- nothing -/
  | idle
  /-- an opening brace, with the place of its closing brace -/
  | opening (stop : Nat)
  /-- a closing brace -/
  | closing
  /-- a place to jump to -/
  | label (name : String)
  /-- a jump to a label; without a name it leads to the end -/
  | jump (condition : JumpCondition) (name : String)
  /-- a text behind the line -/
  | append (text : String)
  /-- a text in front of the line -/
  | insert (text : String)
  /-- a text for the line -/
  | change (text : String)
  /-- the line is left out -/
  | delete
  /-- the first line of several ones is left out -/
  | deleteFirst
  /-- the number of the line is written -/
  | number
  /-- the kept text becomes the line -/
  | fetch
  /-- the kept text is put behind the line -/
  | fetchMore
  /-- the line is kept -/
  | keep
  /-- the line is put behind the kept text -/
  | keepMore
  /-- the line and the kept text change places -/
  | exchange
  /-- the line is written so that everything can be seen -/
  | list
  /-- the next line -/
  | next
  /-- the next line behind this one -/
  | nextMore
  /-- the line is written -/
  | print
  /-- the first line of several ones is written -/
  | printFirst
  /-- nothing more is done, with a code, and whether the line is written -/
  | quit (code : Nat) (prints : Bool)
  /-- a file behind the line -/
  | readFile (path : String)
  /-- the line is written to a file -/
  | writeFile (path : String)
  /-- a replacement of what fits -/
  | substitute (s : Substitution)
  /-- a replacement of characters -/
  | transliterate (pairs : List (Char × Char))
  /-- the line becomes empty -/
  | clear
  /-- the name of the file is written -/
  | fileName

/-- A command. -/
structure Command where
  /-- the lines it is meant for -/
  selector : Selector
  /-- what it does -/
  action : Action

/-! ## Reading -/

/-- What is wrong with a script, and how many characters are left where that was noticed. -/
structure ScriptFault where
  /-- what is wrong -/
  message : String
  /-- how many characters are left -/
  left : Nat

/-- A result, or what is wrong with a script. -/
abbrev Checked := Except ScriptFault

/-- A fault in front of a text. -/
def faultAt {α : Type} (rest : List Char) (message : String) : Checked α :=
  .error ⟨message, rest.length⟩

/-- A text without the blanks in front of it. -/
def skipBlanks (cs : List Char) : List Char := cs.dropWhile fun c => c = ' ' || c = '\t'

/-- A text without the blanks and line ends in front of it. -/
def skipSpaces (cs : List Char) : List Char :=
  cs.dropWhile fun c => c = ' ' || ('\t' ≤ c && c ≤ '\r')

/-- The number at the beginning of a text. -/
def takeNumber (cs : List Char) : Option (Nat × List Char) :=
  match Regex.leadingNat cs with
  | (some n, rest) => some (n, rest)
  | (none, _) => none

/-- The characters of a set between brackets, up to its closing bracket, latest first. `isFirst`
tells whether a bracket here would stand for itself. The fuel is how long the text is. -/
def bracketText : Nat → Bool → List Char → List Char → Option (List Char × List Char)
  | 0, _, _, _ => none
  | _ + 1, _, _, [] => none
  | fuel + 1, isFirst, done, c :: rest =>
    match c, rest with
    | ']', _ => if isFirst then bracketText fuel false (c :: done) rest else some (c :: done, rest)
    | '^', _ => bracketText fuel (isFirst && done.head? = some '[') (c :: done) rest
    | '[', mark :: more =>
      if ":.=".toList.contains mark then
        let name := more.takeWhile (· ≠ mark)
        match more.drop name.length with
        | _ :: ']' :: behind =>
          bracketText fuel false (']' :: mark :: name.reverse ++ mark :: '[' :: done) behind
        | _ => bracketText fuel false (c :: done) rest
      else bracketText fuel false (c :: done) rest
    | '\n', _ => none
    | _, _ => bracketText fuel false (c :: done) rest

/-- The text up to a mark, latest character first. Backslashes are kept, except in front of the mark
and, in expressions, of the letter of a line end; the sets of expressions are read as a whole. The
fuel is how long the text is. -/
def markedText (mark : Char) (isRegex : Bool) :
    Nat → List Char → List Char → Checked (List Char × List Char)
  | 0, _, rest => faultAt rest ""
  | _ + 1, _, [] => faultAt [] ""
  | fuel + 1, done, c :: rest =>
    if c = mark then .ok (done, rest)
    else
      match c, rest with
      | '\n', _ => faultAt (c :: rest) ""
      | '\\', [] => faultAt [] ""
      | '\\', d :: more =>
        if d = mark then
          let own := if isRegex then if mark = '^' then ['^', '\\'] else [']', mark, '[']
            else [mark]
          markedText mark isRegex fuel (own ++ done) more
        else if d = 'n' && isRegex then markedText mark isRegex fuel ('\n' :: done) more
        else if d = '\n' && isRegex then markedText mark isRegex fuel (d :: done) more
        else markedText mark isRegex fuel (d :: '\\' :: done) more
      | '[', _ =>
        if isRegex then
          match bracketText (rest.length + 1) true ['['] rest with
          | some (set, behind) => markedText mark isRegex fuel (set ++ done) behind
          | none => faultAt [] ""
        else markedText mark isRegex fuel (c :: done) rest
      | _, _ => markedText mark isRegex fuel (c :: done) rest

/-- The text up to a mark, or a fault with a message. -/
def textUpTo (mark : Char) (isRegex : Bool) (message : String) (rest : List Char) :
    Checked (List Char × List Char) :=
  match markedText mark isRegex (rest.length + 1) [] rest with
  | .ok (text, behind) => .ok (text.reverse, behind)
  | .error fault => .error { fault with message }

/-- An expression of a text. -/
def regexOf (extended : Bool) (folds hasLines : Bool) (text : List Char) :
    Except String ScriptRegex :=
  if text = [] then .ok ⟨none, 9, folds, hasLines⟩
  else do
    let (r, groups) ← Regex.read ⟨extended, true, false⟩ text
    return ⟨some r, groups, folds, hasLines⟩

/-- A fault with a message of its own. -/
def liftFault {α : Type} (rest : List Char) : Except String α → Checked α
  | .ok a => .ok a
  | .error message => faultAt rest message

/-- An expression between marks, with its letters. -/
def readFitting (extended : Bool) (mark : Char) (rest : List Char) :
    Checked (ScriptRegex × List Char) := do
  let (text, rest) ← textUpTo mark true "unterminated address regex" rest
  let letters := rest.takeWhile fun c => c = 'I' || c = 'M'
  let rest := rest.drop letters.length
  let r ← liftFault rest (regexOf extended (letters.contains 'I') (letters.contains 'M') text)
  return (r, rest)

/-- An address, if there is one. -/
def readAddress (extended : Bool) (cs : List Char) : Checked (Option Address × List Char) := do
  match cs with
  | '$' :: rest => return (some .last, rest)
  | '/' :: rest =>
    let (r, rest) ← readFitting extended '/' rest
    return (some (.fits r), rest)
  | '\\' :: mark :: rest =>
    let (r, rest) ← readFitting extended mark rest
    return (some (.fits r), rest)
  | _ =>
    match takeNumber cs with
    | none => return (none, cs)
    | some (n, rest) =>
      match skipBlanks rest with
      | '~' :: more =>
        match takeNumber (skipBlanks more) with
        | some (step, rest) => return (some (.every n step), rest)
        | none => return (some (.every n 0), more)
      | _ => return (some (.line n), rest)

/-- The end of several lines. -/
def readAddressEnd (extended : Bool) (cs : List Char) :
    Checked (Option AddressEnd × List Char) := do
  let counted := fun (f : Nat → AddressEnd) (rest : List Char) =>
    match takeNumber rest with
    | some (n, rest) => (f n, rest)
    | none => (f 0, rest)
  match cs with
  | '+' :: rest =>
    let (stop, rest) := counted .count rest
    return (some stop, rest)
  | '~' :: rest =>
    let (stop, rest) := counted .multiple rest
    return (some stop, rest)
  | _ =>
    let (address, rest) ← readAddress extended cs
    match address with
    | none => return (none, rest)
    | some (.line n) => return (some (.line n), rest)
    | some (.every n _) => return (some (.line n), rest)
    | some .last => return (some .last, rest)
    | some (.fits r) => return (some (.fits r), rest)

/-- Without the marks that turn a selector into its opposite. -/
def readNegation (cs : List Char) : Checked (Bool × List Char) :=
  match cs with
  | '!' :: rest =>
    match skipBlanks rest with
    | '!' :: rest => faultAt rest "multiple `!'s"
    | rest => .ok (true, rest)
  | _ => .ok (false, cs)

/-- The lines that a command is meant for. -/
def readSelector (extended : Bool) (cs : List Char) : Checked (Selector × List Char) := do
  let (first, rest) ← readAddress extended cs
  let behind := skipBlanks rest
  let (stop, rest) ← match first, behind with
    | some _, ',' :: more =>
      let (stop, rest) ← readAddressEnd extended (skipBlanks more)
      if stop.isNone then faultAt ((skipBlanks more).drop 1) "unexpected `,'"
      else pure (stop, skipBlanks rest)
    | none, ',' :: more => faultAt more "unexpected `,'"
    | _, _ => pure (none, behind)
  match first, stop with
  | some (.line 0), some (.fits _) => pure ()
  | some (.line 0), _ => faultAt (rest.drop 1) "invalid usage of line address 0"
  | _, _ => pure ()
  let (negated, rest) ← readNegation rest
  return (⟨first, stop, negated⟩, rest)

/-! ### Commands -/

/-- The end of a command. -/
def readEnd (cs : List Char) : Checked (List Char) :=
  match skipBlanks cs with
  | [] => .ok []
  | c :: rest =>
    if c = '\n' || c = ';' then .ok rest
    else if c = '\x7d' || c = '#' then .ok (c :: rest)
    else faultAt rest "extra characters after command"

/-- The escapes of characters that are not printed. -/
def specialEscapes : List (Char × Char) :=
  [('a', '\x07'), ('f', '\x0c'), ('n', '\n'), ('r', '\r'), ('t', '\t'), ('v', '\x0b')]

/-- The lines of a text of a command: up to a line end without a backslash in front of it. -/
def readLines (done : List Char) : List Char → List Char × List Char
  | [] => (done, [])
  | ['\\'] => (done, [])
  | '\n' :: rest => (done, rest)
  | '\\' :: c :: rest =>
    match specialEscapes.lookup c with
    | some special => readLines ((if c = 'n' then c else special) :: done) rest
    | none => readLines (c :: done) rest
  | c :: rest => readLines (c :: done) rest

/-- The text of a command that has one. -/
def readText (cs : List Char) : Checked (String × List Char) :=
  let finish := fun (rest : List Char) =>
    let (text, rest) := readLines [] rest
    (if text = [] then "" else String.ofList ('\n' :: text).reverse, rest)
  match skipBlanks cs with
  | [] => faultAt [] "expected \\ after \x60a', \x60c' or \x60i'"
  | ['\\'] => .ok ("", [])
  | '\\' :: rest =>
    match skipBlanks rest with
    | '\n' :: rest => .ok (finish rest)
    | _ => .ok (finish rest)
  | '\n' :: rest => faultAt rest "expected \\ after \x60a', \x60c' or \x60i'"
  | rest => .ok (finish rest)

/-- The name of a label. -/
def readLabel (cs : List Char) : String × List Char :=
  let rest := skipBlanks cs
  let name := rest.takeWhile fun c => !";\n\x7d \t".toList.contains c
  (String.ofList name, rest.drop name.length)

/-- The name of a file, up to the end of the line. -/
def readName (cs : List Char) : Checked (String × List Char) :=
  let rest := skipBlanks cs
  let name := rest.takeWhile (· ≠ '\n')
  if name = [] then faultAt rest "missing filename in r/R/w/W commands"
  else .ok (String.ofList name, rest.drop (name.length + 1))

/-- A number of digits of some base, with how many there are. -/
def takeDigits (base most : Nat) (cs : List Char) : Nat × Nat :=
  let value := fun (c : Char) =>
    if c.isDigit then c.toNat - 48
    else if 'a' ≤ c && c ≤ 'f' then c.toNat - 87
    else if 'A' ≤ c && c ≤ 'F' then c.toNat - 55
    else 99
  let digits := (cs.take most).takeWhile fun c => value c < base
  (digits.foldl (fun n c => base * n + value c) 0, digits.length)

/-- The character of an escape with a number, and the text behind it. -/
def numberedEscape (cs : List Char) : Option (Char × List Char) :=
  let form := match cs with
    | 'x' :: rest => some (16, 2, rest)
    | 'o' :: rest => some (8, 3, rest)
    | 'd' :: rest => some (10, 3, rest)
    | _ => none
  match form with
  | some (base, most, rest) =>
    let (n, count) := takeDigits base most rest
    if count = 0 then none else some (Char.ofNat (n % 256), rest.drop count)
  | none => none

/-- An expression in which the characters of escapes with numbers stand for themselves. The fuel is
how long the text is. -/
def withNumberedEscapes : Nat → List Char → List Char
  | 0, cs => cs
  | _ + 1, [] => []
  | fuel + 1, '\\' :: rest =>
    match numberedEscape rest with
    | some (c, behind) =>
      (if "*.[]^$\\/+?()\x7b\x7d|".toList.contains c then ['\\', c] else [c]) ++
        withNumberedEscapes fuel behind
    | none =>
      match rest with
      | [] => ['\\']
      | c :: behind => '\\' :: c :: withNumberedEscapes fuel behind
  | fuel + 1, c :: rest => c :: withNumberedEscapes fuel rest

/-- The parts of a replacement. The fuel is how long the text is. -/
def readReplacement : Nat → List Char → List ReplacePart
  | 0, _ => []
  | _ + 1, [] => []
  | fuel + 1, '&' :: rest => .group 0 :: readReplacement fuel rest
  | fuel + 1, '\\' :: rest =>
    match rest with
    | [] => [.text ['\\']]
    | c :: behind =>
      let part := fun (p : ReplacePart) => p :: readReplacement fuel behind
      if c.isDigit then part (.group (c.toNat - 48))
      else
        match [('U', LetterCase.upper), ('L', .lower), ('E', .asWritten), ('u', .upperOnce),
            ('l', .lowerOnce)].lookup c with
        | some how => part (.letters how)
        | none =>
          match specialEscapes.lookup c, numberedEscape rest with
          | some special, _ => part (.text [special])
          | none, some (d, behind) => .text [d] :: readReplacement fuel behind
          | none, none =>
            match c, behind with
            | 'c', d :: behind =>
              .text [Char.ofNat (Nat.xor d.toUpper.toNat 64)] :: readReplacement fuel behind
            | _, _ => part (.text [c])
  | fuel + 1, c :: rest => .text [c] :: readReplacement fuel rest

/-- The letters behind a replacement. -/
structure SubstitutionLetters where
  /-- whether all matches are replaced -/
  isGlobal : Bool
  /-- whether the line is written -/
  prints : Bool
  /-- the number of the first match -/
  nth : Option Nat
  /-- whether large and small letters are alike -/
  folds : Bool
  /-- whether lines begin and end within the text -/
  hasLines : Bool
  /-- the file to which the line is written -/
  file : Option String

/-- The letters behind a replacement. The fuel bounds how many there are. -/
def readLetters : Nat → SubstitutionLetters → List Char → Checked (SubstitutionLetters × List Char)
  | 0, l, rest => .ok (l, rest)
  | _ + 1, l, [] => .ok (l, [])
  | fuel + 1, l, c :: rest =>
    match c with
    | 'g' =>
      if l.isGlobal then faultAt rest "multiple \x60g' options to \x60s' command"
      else readLetters fuel { l with isGlobal := true } rest
    | 'p' =>
      if l.prints then faultAt rest "multiple \x60p' options to \x60s' command"
      else readLetters fuel { l with prints := true } rest
    | 'i' => readLetters fuel { l with folds := true } rest
    | 'I' => readLetters fuel { l with folds := true } rest
    | 'm' => readLetters fuel { l with hasLines := true } rest
    | 'M' => readLetters fuel { l with hasLines := true } rest
    | 'w' => do
      let (name, rest) ← readName rest
      return ({ l with file := some name }, rest)
    | ';' => .ok (l, rest)
    | '\n' => .ok (l, rest)
    | '\x7d' => .ok (l, c :: rest)
    | '#' => .ok (l, c :: rest)
    | ' ' => readLetters fuel l rest
    | '\t' => readLetters fuel l rest
    | _ =>
      match takeNumber (c :: rest) with
      | some (0, rest) => faultAt rest "number option to \x60s' command may not be zero"
      | some (n, rest) =>
        if l.nth.isSome then faultAt rest "multiple number options to \x60s' command"
        else readLetters fuel { l with nth := some n } rest
      | none => faultAt rest "unknown option to \x60s'"

/-- A replacement of what fits. -/
def readSubstitution (extended : Bool) (cs : List Char) : Checked (Substitution × List Char) := do
  let unterminated := "unterminated \x60s' command"
  match cs with
  | [] => faultAt [] unterminated
  | mark :: rest =>
    if mark = '\n' || mark = '\\' then faultAt rest unterminated
    else
      let (pattern, rest) ← textUpTo mark true unterminated rest
      let (replacement, rest) ← textUpTo mark false unterminated rest
      let (l, rest) ← readLetters (rest.length + 1) ⟨false, false, none, false, false, none⟩ rest
      let pattern := withNumberedEscapes (pattern.length + 1) pattern
      let r ← liftFault rest (regexOf extended l.folds l.hasLines pattern)
      let parts := readReplacement (replacement.length + 1) replacement
      let wrong := parts.findSome? fun part => match part with
        | .group n => if r.groups < n then some n else none
        | _ => none
      match wrong with
      | some n =>
        faultAt rest ("invalid reference \\" ++ toString n ++ " on \x60s' command's RHS")
      | none => return (⟨r, parts, l.nth.getD 1, l.isGlobal, l.prints, l.file⟩, rest)

/-- The characters of a list, with their escapes read. -/
def readPlain (mark : Char) : List Char → List Char
  | '\\' :: c :: rest =>
    if c = '\\' || c = mark then c :: readPlain mark rest
    else
      match specialEscapes.lookup c with
      | some special => special :: readPlain mark rest
      | none => '\\' :: c :: readPlain mark rest
  | c :: rest => c :: readPlain mark rest
  | [] => []

/-- A replacement of characters. -/
def readTransliteration (cs : List Char) : Checked (List (Char × Char) × List Char) := do
  let unterminated := "unterminated \x60y' command"
  match cs with
  | [] => faultAt [] unterminated
  | mark :: rest =>
    let (first, rest) ← textUpTo mark false unterminated rest
    let (second, rest) ← textUpTo mark false unterminated rest
    let first := readPlain mark first
    let second := readPlain mark second
    if first.length ≠ second.length then
      faultAt rest "strings for \x60y' command are different lengths"
    else return (first.zip second, ← readEnd rest)

/-- The commands that are a letter and nothing else. -/
def plainActions : List (Char × Action) :=
  [('d', .delete), ('D', .deleteFirst), ('=', .number), ('g', .fetch), ('G', .fetchMore),
    ('h', .keep), ('H', .keepMore), ('x', .exchange), ('n', .next), ('N', .nextMore),
    ('p', .print), ('P', .printFirst), ('z', .clear), ('F', .fileName)]

/-- What a command does, which begins with a letter. -/
def readAction (extended : Bool) (s : Selector) (c : Char) (rest : List Char) :
    Checked (Action × List Char) := do
  match c with
  | '\x7b' => return (.opening 0, rest)
  | '\x7d' =>
    if s.first.isSome then faultAt rest "\x7d doesn't want any addresses"
    else return (.closing, ← readEnd rest)
  | '#' =>
    if s.first.isSome then faultAt rest "comments don't accept any addresses"
    else return (.idle, rest.dropWhile (· ≠ '\n'))
  | ':' =>
    if s.first.isSome then faultAt rest ": doesn't want any addresses"
    else
      let (name, rest) := readLabel rest
      if name = "" then faultAt rest "\":\" lacks a label" else return (.label name, rest)
  | 'b' =>
    let (name, rest) := readLabel rest
    return (.jump .always name, ← readEnd rest)
  | 't' =>
    let (name, rest) := readLabel rest
    return (.jump .ifReplaced name, ← readEnd rest)
  | 'T' =>
    let (name, rest) := readLabel rest
    return (.jump .unlessReplaced name, ← readEnd rest)
  | 'a' =>
    let (text, rest) ← readText rest
    return (.append text, rest)
  | 'i' =>
    let (text, rest) ← readText rest
    return (.insert text, rest)
  | 'c' =>
    let (text, rest) ← readText rest
    return (.change text, rest)
  | 'r' =>
    let (name, rest) ← readName rest
    return (.readFile name, rest)
  | 'w' =>
    let (name, rest) ← readName rest
    return (.writeFile name, rest)
  | 's' =>
    let (found, rest) ← readSubstitution extended rest
    return (.substitute found, rest)
  | 'y' =>
    let (pairs, rest) ← readTransliteration rest
    return (.transliterate pairs, rest)
  | 'l' =>
    let rest := skipBlanks rest
    let rest := match takeNumber rest with
      | some (_, rest) => rest
      | none => rest
    return (.list, ← readEnd rest)
  | _ =>
    if c = 'q' || c = 'Q' then
      if s.stop.isSome then faultAt rest "command only uses one address"
      else
        let rest := skipBlanks rest
        let (code, rest) := match takeNumber rest with
          | some (n, rest) => (n, rest)
          | none => (0, rest)
        return (.quit (code % 256) (c = 'q'), ← readEnd rest)
    else
      match plainActions.lookup c with
      | some action => return (action, ← readEnd rest)
      | none => faultAt rest ("unknown command: \x60" ++ String.ofList [c] ++ "'")

/-- The commands of a text. The fuel bounds how many there are. -/
def readCommands (extended : Bool) : Nat → List Char → Checked (List (Command × Nat))
  | 0, _ => .ok []
  | fuel + 1, cs => do
    match (skipSpaces cs).dropWhile fun c => c = ';' || c = ' ' || ('\t' ≤ c && c ≤ '\r') with
    | [] => return []
    | start =>
      let (selector, rest) ← readSelector extended start
      match skipBlanks rest with
      | [] => faultAt [] "missing command"
      | c :: rest =>
        if c = '\n' || c = ';' then faultAt rest "missing command"
        else
          let (action, behind) ← readAction extended selector c rest
          return (⟨selector, action⟩, rest.length) :: (← readCommands extended fuel behind)

/-! ## Braces and labels -/

/-- The place of the brace that closes one, given how many others are open. -/
def closingPlace : Nat → Nat → List Command → Option Nat
  | _, _, [] => none
  | place, depth, command :: rest =>
    match command.action, depth with
    | .closing, 0 => some place
    | .closing, depth + 1 => closingPlace (place + 1) depth rest
    | .opening _, depth => closingPlace (place + 1) (depth + 1) rest
    | _, depth => closingPlace (place + 1) depth rest

/-- Commands in which opening braces know where their closing braces stand; nothing if one has none.
-/
def matchBraces : Nat → List Command → Option (List Command)
  | _, [] => some []
  | place, command :: rest => do
    let own ← match command.action with
      | .opening _ => do
        let stop ← closingPlace (place + 1) 0 rest
        some { command with action := .opening stop }
      | _ => some command
    return own :: (← matchBraces (place + 1) rest)

/-- The place of a label. -/
def labelPlace? (commands : List Command) (name : String) : Option Nat :=
  commands.findIdx? fun command => match command.action with
    | .label own => own = name
    | _ => false

/-- The label that a jump leads to, if there is no such label. -/
def missingLabel? (commands : List Command) : Option String :=
  commands.findSome? fun command => match command.action with
    | .jump _ name => if name ≠ "" && (labelPlace? commands name).isNone then some name else none
    | _ => none

/-- The number of open braces behind commands, or how much of the text was left where a brace was
closed that had not been opened. -/
def openBraces : Nat → List (Command × Nat) → Except Nat Nat
  | depth, [] => .ok depth
  | depth, (command, left) :: rest =>
    match command.action, depth with
    | .opening _, depth => openBraces (depth + 1) rest
    | .closing, 0 => .error left
    | .closing, depth + 1 => openBraces depth rest
    | _, depth => openBraces depth rest

/-- Texts of which those that end within a text of a command go on with the next one. -/
def joinOpenTexts : List String → List String
  | first :: second :: rest =>
    let isOpen := (first.toList.reverse.takeWhile (· = '\\')).length % 2 = 1
    if isOpen then joinOpenTexts ((first ++ "\n" ++ second) :: rest)
    else first :: joinOpenTexts (second :: rest)
  | texts => texts
termination_by texts => texts.length

/-- The commands of several texts, or what is wrong with them. `place` says where something is
wrong, given the number of the text, its characters and how many of them are left. -/
def readScript (extended : Bool) (place : Nat → List Char → Nat → String) (texts : List String) :
    Except String (List Command) := do
  let numbered := (List.range texts.length).zip (joinOpenTexts texts)
  let (commands, depth) ← numbered.foldlM (fun ((done, depth) : List Command × Nat) (n, text) => do
    let cs := text.toList
    match readCommands extended (cs.length + 1) cs with
    | .error fault => .error (place n cs fault.left ++ fault.message)
    | .ok commands =>
      match openBraces depth commands with
      | .error left => .error (place n cs left ++ "unexpected \x60\x7d'")
      | .ok depth => .ok (done ++ commands.map (·.1), depth)) ([], 0)
  match depth, matchBraces 0 commands with
  | 0, some commands => return commands
  | _, _ => .error ("-e expression #1, char 0: unmatched \x60\x7b'")

end Shipyard.Utility.Editing
