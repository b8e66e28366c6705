import Shipyard.Shell.Reader

/-!
# Reading commands of a script

A script is read command by command, because what one command does decides what words of the next
one stand for. Words and commands hold each other, so the readers of the two call each other; fuel
bounds how often.
-/

namespace Shipyard.Shell

/-- A reading of a part of a script, or a fault with the line where it was found. -/
abbrev Parse (α : Type) := StateT Reader (Except (Nat × SyntaxFault)) α

/-- A fault here. -/
def refuse {α : Type} (fault : SyntaxFault) : Parse α := do
  throw ((← get).line, fault)

/-- The last token may not stand here; another one may be needed. -/
def unexpected {α : Type} (needed : Option Token) : Parse α := do
  refuse (.unexpected (← get).token.words (needed.map Token.words))

/-! ## Words under way -/

/-- What characters mean at a place. -/
inductive Mode where
  | base
  | single
  | double
  | arithmetic
  deriving DecidableEq, Repr

/-- What a character means. -/
inductive Meaning where
  | newline
  | plain
  | escaped
  | backslash
  | singleQuote
  | doubleQuote
  | endQuote
  | dollar
  | closeBrace
  | openBracket
  | closeBracket
  | backquote
  | ends
  deriving DecidableEq, Repr

/-- Characters that are escaped inside quotes. -/
def isEscapedInQuotes (c : Char) : Bool := "!*?[=~:/-]".toList.contains c

/-- What a character means in a mode. -/
def Mode.meaning (mode : Mode) (c : Char) : Meaning :=
  if c = '\n' then .newline
  else if mode = .single then
    if c = '\x27' then .endQuote
    else if c = '\\' || isEscapedInQuotes c then .escaped else .plain
  else if c = '\\' then .backslash
  else if c = '\x60' then .backquote
  else if c = '$' then .dollar
  else if c = '\x7d' then .closeBrace
  else
    match mode with
    | .base =>
      if c = '\x27' then .singleQuote else if c = '"' then .doubleQuote
      else if "<>();&| \t".toList.contains c then .ends else .plain
    | .double =>
      if c = '"' then .endQuote else if isEscapedInQuotes c then .escaped else .plain
    | _ => if c = '(' then .openBracket else if c = ')' then .closeBracket else .plain

/-- Where a character of a word stands. -/
structure Level where
  /-- what characters mean -/
  mode : Mode
  /-- whether it stands between double quotes -/
  isDouble : Bool
  /-- whether it stands between quotes inside braces -/
  isInner : Bool
  /-- whether the braces have opened a level of their own -/
  isPushed : Bool
  /-- how many braces are open -/
  braces : Nat
  /-- how many of them were opened between double quotes -/
  doubleBraces : Nat
  /-- how many brackets of an expression are open -/
  brackets : Nat
  deriving Repr

/-- A level without anything open. -/
def Level.ofMode (mode : Mode) (isDouble isPushed : Bool) : Level :=
  ⟨mode, isDouble, false, isPushed, 0, 0, 0⟩

/-- Something inside a word that holds parts itself. -/
inductive Frame where
  /-- a parameter between braces -/
  | parameter (name : String) (op : ParameterOp) (colon : Bool)
  /-- an expression -/
  | arithmetic
  deriving Repr

/-- A word under way. -/
structure Scan where
  /-- the level of the next character -/
  level : Level
  /-- the levels around it -/
  above : List Level
  /-- the parts so far, the latest first -/
  parts : Word
  /-- what is open, the innermost first, with the parts before it -/
  frames : List (Frame × Word)
  /-- whether there were quotes -/
  hasQuotes : Bool

namespace Scan

/-- A word that begins in a mode. -/
def start (mode : Mode) : Scan := ⟨.ofMode mode (mode = .double) false, [], [], [], false⟩

/-- With a further part. -/
def add (s : Scan) (part : Part) : Scan := { s with parts := part :: s.parts }

/-- With a further character. -/
def letter (s : Scan) (c : Char) (isEscaped : Bool) : Scan := s.add (.letter c isEscaped)

/-- With a change of the level. -/
def atLevel (s : Scan) (f : Level → Level) : Scan := { s with level := f s.level }

/-- With a level of its own inside. -/
def push (s : Scan) (level : Level) : Scan := { s with level, above := s.level :: s.above }

/-- Back at the level around. -/
def pop (s : Scan) : Scan :=
  match s.above with
  | level :: above => { s with level, above }
  | [] => s

/-- With something open. -/
def «open» (s : Scan) (frame : Frame) : Scan :=
  { s with parts := [], frames := (frame, s.parts) :: s.frames }

/-- With the innermost open thing closed. -/
def close (s : Scan) : Scan :=
  match s.frames with
  | (frame, before) :: frames =>
    let inner := s.parts.reverse
    let part := match frame with
      | .parameter name op colon => Part.parameter name op colon inner
      | .arithmetic => .arithmetic inner
    { s with parts := part :: before, frames }
  | [] => s

/-- Quotes of a kind begin or end. -/
def toggle (s : Scan) (isDouble isDocument : Bool) : Scan :=
  let s := if isDouble && 0 < s.level.braces then
      s.atLevel fun l => { l with isInner := !l.isInner }
    else s
  if isDocument then s else s.add .mark

/-- A backslash and the character behind it. -/
def escape (s : Scan) (c : Char) (isDocument : Bool) : Scan :=
  let isKept := s.level.isDouble && c ≠ '\\' && c ≠ '\x60' && c ≠ '$' &&
    (c ≠ '"' || (isDocument && s.level.braces = 0)) && (c ≠ '\x7d' || s.level.braces = 0)
  let s := if isKept then s.letter '\\' true else s
  { s.letter c true with hasQuotes := true }

/-- Quotes end. -/
def endQuote (s : Scan) (c : Char) (isDocument : Bool) : Scan :=
  if isDocument && s.level.braces = 0 then s.letter c false
  else
    let s := if s.level.doubleBraces = 0 then
        s.atLevel fun l => { l with mode := .base, isDouble := false }
      else s
    { s.toggle (c = '"') isDocument with hasQuotes := true }

/-- A brace is closed, or it is a character as any other. -/
def closeBrace (s : Scan) : Scan :=
  if !s.level.isInner && 0 < s.level.braces then
    let s := s.atLevel fun l => { l with braces := l.braces - 1 }
    let s := if s.level.braces = 0 && s.level.isPushed then s.pop
      else s.atLevel fun l => { l with doubleBraces := l.doubleBraces - 1 }
    s.close
  else s.letter '\x7d' false

/-- A parameter. Braces with more in them than a name open something. -/
def openParameter (s : Scan) (name : String) (op : ParameterOp) (colon : Bool) (mode : Mode) :
    Scan :=
  if op = .value then s.add (.parameter name op false [])
  else
    let mode := if mode = .arithmetic then .double else mode
    let s := s.open (.parameter name op colon)
    let s := if mode ≠ s.level.mode || s.level.isInner then
        s.push (.ofMode mode (mode ≠ .base) true)
      else s
    s.atLevel fun l =>
      { l with
        braces := l.braces + 1
        doubleBraces := if l.isDouble then l.doubleBraces + 1 else l.doubleBraces }

end Scan

/-! ## Characters -/

/-- How many broken lines may follow each other. -/
def joinLimit : Nat := 100000

/-- The next character behind broken lines. -/
def peek : Parse (Option Char) := do
  let (c?, here, _) := (← get).nextJoined joinLimit
  set here
  return c?

/-- Passes the next character over. -/
def pass : Parse Unit := modify fun r => (r.nextJoined joinLimit).2.2

/-- The characters that satisfy a test, as many as follow each other. -/
def takeWhile (p : Char → Bool) : Nat → Parse (List Char)
  | 0 => return []
  | fuel + 1 => do
    match ← peek with
    | some c =>
      if p c then
        pass
        return c :: (← takeWhile p fuel)
      else return []
    | none => return []

/-- The name of a parameter between braces or without them, and whether its length is meant; there
may be none. -/
def readParameterName (fuel : Nat) (braced : Bool) : Parse (Option (String × Bool)) := do
  match ← peek with
  | none => return none
  | some c =>
    if isNameStart c then return some (String.ofList (← takeWhile isNameChar fuel), false)
    else if c.isDigit then
      if braced then return some (String.ofList (← takeWhile Char.isDigit fuel), false)
      else
        pass
        return some (String.ofList [c], false)
    else if c = '\x7d' then return none
    else
      let before ← get
      pass
      let d? ← peek
      if braced && c = '#' then
        match d? with
        | some d =>
          if isNameStart d then return some (String.ofList (← takeWhile isNameChar fuel), true)
          else if d.isDigit then return some (String.ofList (← takeWhile Char.isDigit fuel), true)
          else
            let atHash ← get
            pass
            let e? ← peek
            if d ≠ '\x7d' && e? = some '\x7d' then
              if isSpecialParameter d then return some (String.ofList [d], true)
              else
                set before
                return none
            else
              set atHash
              return some ("#", false)
        | none => return some ("#", false)
      else if isSpecialParameter c then return some (String.ofList [c], false)
      else return none

/-- What is done with a parameter, whether a colon stands before that, and whether what follows is a
pattern. -/
def readParameterOp : Parse (ParameterOp × Bool × Bool) := do
  let simple := fun (c? : Option Char) => match c? with
    | some '\x7d' => some ParameterOp.value
    | some '-' => some .orWord
    | some '+' => some .thenWord
    | some '=' => some .orAssign
    | some '?' => some .orFail
    | _ => none
  let c? ← peek
  match c? with
  | some ':' =>
    pass
    let op? := simple (← peek)
    pass
    return (op?.getD .none, true, false)
  | some c =>
    pass
    if c = '%' || c = '#' then
      let longest := (← peek) = some c
      if longest then pass
      return (.cut (c = '%') longest, false, true)
    else return ((simple c?).getD .none, false, false)
  | none => return (.none, false, false)

/-- The text between backquotes. -/
def readBackquoted (isDouble : Bool) : Nat → List Char → Parse (List Char)
  | 0, _ => refuse .openBackquote
  | fuel + 1, done => do
    match ← peek with
    | none => refuse .openBackquote
    | some '\x60' => do
      pass
      return done.reverse
    | some '\\' => do
      pass
      let (d?, here, behind) := (← get).next
      match d? with
      | none =>
        set here
        readBackquoted isDouble fuel ('\\' :: done)
      | some d =>
        set behind
        let drops := d = '\\' || d = '\x60' || d = '$' || (isDouble && d = '"')
        readBackquoted isDouble fuel (d :: (if drops then done else '\\' :: done))
    | some c => do
      pass
      readBackquoted isDouble fuel (c :: done)

/-! ## Texts that follow -/

/-- The rest of a text without tabulators at its beginning. -/
def withoutTabs (r : Reader) : Nat → Reader
  | 0 => r
  | fuel + 1 =>
    match r.next with
    | (some '\t', _, behind) => withoutTabs behind fuel
    | (_, here, _) => here

/-- The place behind a line that consists of some characters, if that is what follows. -/
def behindLine? (r : Reader) : List Char → Option Reader
  | [] =>
    match r.next with
    | (some '\n', _, behind) => some behind
    | (none, here, _) => some here
    | _ => none
  | c :: rest =>
    match r.next with
    | (some d, _, behind) => if c = d then behindLine? behind rest else none
    | (none, _, _) => none

/-- Looks at the beginning of a line of a text that follows: whether the text ends here. -/
def atLineStart (expected : Option Expected) : Parse Bool := do
  match expected with
  | none => return false
  | some e =>
    let r ← get
    let r := if e.strips then withoutTabs r r.size else r
    match behindLine? r e.stop.toList with
    | some behind => do
      set behind
      return true
    | none => do
      set r
      return false

/-! ## Operators -/

/-- The redirection behind the first character of its operator. -/
def readRedirection (c : Char) (stream? : Option Nat) : Parse RedirectionStart := do
  let d? ← peek
  let own := stream?.getD (if c = '>' then 1 else 0)
  if c = '>' then
    match d? with
    | some '>' => pass; return .file own .appends
    | some '|' => pass; return .file own .overwrites
    | some '&' => pass; return .same own
    | _ => return .file own .writes
  else
    match d? with
    | some '<' =>
      pass
      if (← peek) = some '-' then
        pass
        return .document own true
      else return .document own false
    | some '&' => pass; return .same own
    | some '>' => pass; return .file own .both
    | _ => return .file own .reads

/-- Passes a comment over. -/
def passComment : Nat → Parse Unit
  | 0 => return ()
  | fuel + 1 => do
    let (c?, here, behind) := (← get).next
    match c? with
    | none => set here
    | some '\n' => set here
    | some _ =>
      set behind
      passComment fuel

/-- The operator or the end at the beginning of the next token, if it is no word. -/
def readOperator : Nat → Parse (Option Token)
  | 0 => return some .eof
  | fuel + 1 => do
    let second := fun (c : Char) (double single : Token) => do
      if (← peek) = some c then
        pass
        return some double
      else return some single
    match ← peek with
    | none => return some .eof
    | some c =>
      if c = ' ' || c = '\t' then
        pass
        readOperator fuel
      else if c = '#' then
        passComment (← get).size
        readOperator fuel
      else if c = '\n' then pass; return some .newline
      else if c = '&' then pass; second '&' .both .ampersand
      else if c = '|' then pass; second '|' .either .pipe
      else if c = ';' then pass; second ';' .endCase .semicolon
      else if c = '(' then pass; return some .opening
      else if c = ')' then pass; return some .closing
      else return none

/-- What a word is that is followed by a redirection: the number of its stream, if it is one. -/
def streamBefore? (s : Scan) : Option (Option Nat) :=
  if s.hasQuotes then none
  else
    match s.parts with
    | [] => some none
    | [.letter c false] => if c.isDigit then some (some (c.toNat - 48)) else none
    | _ => none

/-- Ends the last token so that it is read again. -/
def hold : Parse Unit := modify fun r => { r with isHeld := true }

/-- Says what is looked for in the next token. -/
def watchFor (watch : Watch) : Parse Unit := modify fun r => { r with watch }

/-- A command behind those so far. -/
def sequenceOf : Option Statement → Statement → Statement
  | none, s => s
  | some first, s => .sequence first s

/-- A pipeline or another command, running on its own. -/
def inBackground (line : Nat) : Statement → Statement
  | .pipeline stages _ => .pipeline stages true
  | .redirected line (some body) redirections => .background line body redirections
  | s => .background line s []

/-- A redirection with the word behind it. -/
def RedirectionStart.withWord (start : RedirectionStart) (word : Word) (number : Nat) :
    Redirection :=
  match start with
  | .file stream use => .file stream use word
  | .same stream => .same stream word
  | .document stream _ => .document stream number

/-- The commands that may not be the names of functions. -/
def specialCommands : List String :=
  [":", ".", "break", "continue", "eval", "exec", "exit", "export", "local", "readonly", "return",
    "set", "shift", "times", "trap", "unset"]

/-- All arguments, as a word. -/
def allArguments : Word := [.mark, .parameter "@" .value false [], .mark]

mutual

/-- The word that begins here, or the text that follows. -/
def readParts : Nat → Option Expected → Scan → Parse Scan
  | 0, _, _ => refuse .unterminated
  | fuel + 1, expected, s => do
    let r ← get
    let (c?, here, behind) :=
      if s.level.mode = .single then r.next else r.nextJoined joinLimit
    match c? with
    | none =>
      set here
      return s
    | some c =>
      set behind
      let isDocument := expected.isSome
      match s.level.mode.meaning c with
      | .newline =>
        if s.level.mode = .base && s.level.braces = 0 then
          set here
          return s
        else
          let s := s.letter c false
          if ← atLineStart expected then return s else readParts fuel expected s
      | .plain => readParts fuel expected (s.letter c false)
      | .escaped => readParts fuel expected (s.letter c (!isDocument || s.level.isDouble))
      | .backslash => do
        let (d?, here, behind) := behind.next
        match d? with
        | none =>
          set here
          readParts fuel expected (s.letter '\\' true)
        | some d =>
          set behind
          readParts fuel expected (s.escape d isDocument)
      | .singleQuote =>
        let s := s.atLevel fun l => { l with mode := .single }
        readParts fuel expected (s.toggle false isDocument)
      | .doubleQuote =>
        let s := s.atLevel fun l => { l with mode := .double, isDouble := true }
        readParts fuel expected (s.toggle true isDocument)
      | .endQuote => readParts fuel expected (s.endQuote c isDocument)
      | .dollar => do
        let s ← readSubstitution fuel s
        readParts fuel expected s
      | .closeBrace => readParts fuel expected s.closeBrace
      | .openBracket =>
        let s := s.atLevel fun l => { l with brackets := l.brackets + 1 }
        readParts fuel expected (s.letter c false)
      | .closeBracket => do
        if 0 < s.level.brackets then
          let s := s.atLevel fun l => { l with brackets := l.brackets - 1 }
          readParts fuel expected (s.letter c false)
        else if (← peek) = some ')' then
          pass
          readParts fuel expected s.close.pop
        else readParts fuel expected (s.letter c false)
      | .backquote => do
        if (← get).watch.endMark then readParts fuel expected (s.letter c false)
        else
          let text ← readBackquoted s.level.isDouble (← get).size []
          let part ← readBackquotedScript fuel text
          readParts fuel expected (s.add part)
      | .ends =>
        if s.level.braces = 0 then
          set here
          return s
        else readParts fuel expected (s.letter c false)

/-- What begins with a dollar sign. -/
def readSubstitution : Nat → Scan → Parse Scan
  | 0, _ => refuse .unterminated
  | fuel + 1, s => do
    let c := (← peek).getD '\n'
    let isSubstitution := c = '(' || c = '\x7b' || isNameStart c || isSpecialParameter c
    if (← get).watch.endMark || !isSubstitution then return s.letter '$' false
    else if c = '(' then
      pass
      if (← peek) = some '(' then
        pass
        return (s.open .arithmetic).push (.ofMode .arithmetic true false)
      else return s.add (← readScript fuel)
    else
      let braced := c = '\x7b'
      if braced then pass
      let name? ← readParameterName (← get).size braced
      if !braced then return s.openParameter ((name?.map (·.1)).getD "") .value false .base
      else
        match name? with
        | none => return s.openParameter "" .none false s.level.mode
        | some (name, true) =>
          if (← peek) = some '\x7d' then return s.openParameter name .length false s.level.mode
          else return s.openParameter name .none false s.level.mode
        | some (name, false) =>
          let (op, colon, isPattern) ← readParameterOp
          return s.openParameter name op colon (if isPattern then .base else s.level.mode)

/-- The script between brackets behind a dollar sign. -/
def readScript : Nat → Parse Part
  | 0 => refuse .unterminated
  | fuel + 1 => do
    let expected := (← get).expected
    modify fun r => { r with expected := [], isHeld := false }
    let body ← readList fuel true none
    if (← readToken fuel) ≠ .closing then unexpected (some .closing)
    readExpected fuel
    modify fun r => { r with expected }
    return .script body

/-- The script of a text between backquotes. -/
def readBackquotedScript : Nat → List Char → Parse Part
  | 0, _ => refuse .unterminated
  | fuel + 1, text => do
    let outer ← get
    set (Reader.ofText text 1 outer.documents outer.aliases)
    let body ← readList fuel true none
    readExpected fuel
    let documents := (← get).documents
    set { outer with documents, isHeld := false }
    return .script body

/-- The next token, whatever is looked for. -/
def readRawToken : Nat → Parse Token
  | 0 => refuse .unterminated
  | fuel + 1 => do
    let r ← get
    if r.isHeld then
      set { r with isHeld := false }
      return r.token
    else
      let token ← match ← readOperator r.size.succ with
        | some token =>
          modify fun r => { r with isQuoted := false }
          pure token
        | none =>
          let s ← readParts fuel none (.start .base)
          if s.level.mode = .arithmetic then refuse (.missingEnd "))")
          if s.level.mode ≠ .base then refuse .unterminated
          if s.level.braces ≠ 0 then refuse (.missingEnd "\x7d")
          let c? ← peek
          match (if c? = some '<' || c? = some '>' then streamBefore? s else none) with
          | some stream? =>
            pass
            let redirection ← readRedirection (c?.getD '<') stream?
            modify fun r => { r with redirection, isQuoted := false }
            pure .redirection
          | none =>
            modify fun r => { r with word := s.parts.reverse, isQuoted := s.hasQuotes }
            pure .word
      modify fun r => { r with token }
      return token

/-- The next token behind ends of lines. -/
def readTokenBehindLines : Nat → Parse Token
  | 0 => refuse .unterminated
  | fuel + 1 => do
    let token ← readRawToken fuel
    if token = .newline then
      readExpected fuel
      watchFor .nothing
      readTokenBehindLines fuel
    else return token

/-- The next token, as `watch` says. -/
def readTokenWith : Nat → Watch → Parse Token
  | 0, _ => refuse .unterminated
  | fuel + 1, watch => do
    let token ← if watch.newlines then readTokenBehindLines fuel else readRawToken fuel
    let r ← get
    let watch := watch.both r.watch
    set { r with watch := .nothing }
    if token ≠ .word || r.isQuoted then return token
    else
      match plainText? r.word with
      | none => return token
      | some cs =>
        let word := String.ofList cs
        if watch.keywords && reservedWords.contains word then
          let token := Token.keyword word
          modify fun r => { r with token }
          return token
        else
          match (if watch.aliases then r.alias? word else none) with
          | some text =>
            modify (·.push word text)
            readTokenWith fuel watch
          | none => return token

/-- The next token. -/
def readToken : Nat → Parse Token
  | 0 => refuse .unterminated
  | fuel + 1 => do
    let watch := (← get).watch
    readTokenWith fuel watch

/-- The texts that follow behind the line. -/
def readExpected : Nat → Parse Unit
  | 0 => refuse .unterminated
  | fuel + 1 => do
    match (← get).expected with
    | [] => return ()
    | e :: rest =>
      modify fun r => { r with expected := rest }
      let start := Scan.start (if e.isLiteral then .single else .double)
      let s ← if ← atLineStart (some e) then pure start else readParts fuel (some e) start
      if s.level.mode = .arithmetic then refuse (.missingEnd "))")
      if s.level.braces ≠ 0 then refuse (.missingEnd "\x7d")
      modify fun r =>
        { r with documents := r.documents.setIfInBounds e.number s.parts.reverse }
      readExpected fuel

/-- The word behind a redirection, and the redirection. -/
def readGoal : Nat → Parse Redirection
  | 0 => refuse .unterminated
  | fuel + 1 => do
    let start := (← get).redirection
    match start with
    | .document _ strips =>
      watchFor ⟨false, false, false, true⟩
      if (← readToken fuel) ≠ .word then unexpected none
      let r ← get
      let number := r.documents.size
      let e : Expected := ⟨String.ofList (lettersOf r.word), strips, r.isQuoted, number⟩
      set { r with documents := r.documents.push [], expected := r.expected ++ [e] }
      return start.withWord [] number
    | _ =>
      if (← readToken fuel) ≠ .word then unexpected none
      return start.withWord (← get).word 0

/-- A list of commands, behind those so far. Inside something it goes on over ends of lines; behind
its first command, or from the beginning if `mayEnd` says so, it ends where a token ends lists. -/
def readList : Nat → Bool → Option Statement → Parse (Option Statement)
  | 0, _, _ => refuse .unterminated
  | fuel + 1, mayEnd, before => do
    watchFor .lines
    let token ← readToken fuel
    hold
    if token = .eof then
      readExpected fuel
      modify fun r => { r with isHeld := true, token := .eof }
      return before
    else if mayEnd && token.endsList then return before
    else
      let line := (← get).line
      let s ← readAndOr fuel
      let token ← readToken fuel
      let s := if token = .ampersand then inBackground line s else s
      let before := some (sequenceOf before s)
      match token with
      | .newline => hold; readList fuel true before
      | .eof => hold; readList fuel true before
      | .ampersand => readList fuel true before
      | .semicolon => readList fuel true before
      | _ => hold; return before

/-- Commands that depend on each other's success. -/
def readAndOr : Nat → Parse Statement
  | 0 => refuse .unterminated
  | fuel + 1 => do
    let first ← readPipeline fuel
    readAlternatives fuel first

/-- The commands that depend on the success of those so far. -/
def readAlternatives : Nat → Statement → Parse Statement
  | 0, _ => refuse .unterminated
  | fuel + 1, first => do
    match ← readToken fuel with
    | .both =>
      watchFor .lines
      let second ← readPipeline fuel
      readAlternatives fuel (.andThen first second)
    | .either =>
      watchFor .lines
      let second ← readPipeline fuel
      readAlternatives fuel (.orElse first second)
    | _ =>
      hold
      return first

/-- Commands whose outputs are the inputs of the next. -/
def readPipeline : Nat → Parse Statement
  | 0 => refuse .unterminated
  | fuel + 1 => do
    let isNegated := (← readToken fuel) = .keyword "!"
    if isNegated then watchFor .command else hold
    let first ← readCommand fuel
    let rest ← readStages fuel
    let s := if rest = [] then first else .pipeline (first :: rest) false
    return if isNegated then .negation s else s

/-- The further commands of a pipeline. -/
def readStages : Nat → Parse (List Statement)
  | 0 => refuse .unterminated
  | fuel + 1 => do
    if (← readToken fuel) = .pipe then
      watchFor .lines
      let stage ← readCommand fuel
      return stage :: (← readStages fuel)
    else
      hold
      return []

/-- A command. -/
def readCommand : Nat → Parse Statement
  | 0 => refuse .unterminated
  | fuel + 1 => do
    let line := (← get).line
    match ← readToken fuel with
    | .keyword "if" =>
      let s ← readChoice fuel
      readRedirected fuel line s
    | .keyword "while" =>
      let s ← readLoop fuel false
      readRedirected fuel line s
    | .keyword "until" =>
      let s ← readLoop fuel true
      readRedirected fuel line s
    | .keyword "for" =>
      let s ← readEach fuel line
      readRedirected fuel line s
    | .keyword "case" =>
      let s ← readCases fuel line
      readRedirected fuel line s
    | .opening =>
      let body ← readList fuel false none
      demandToken fuel .closing
      let redirections ← readRedirections fuel
      return .subshell line body redirections
    | .keyword "\x7b" =>
      let body ← readList fuel false none
      demandToken fuel (.keyword "\x7d")
      match body with
      | some s => readRedirected fuel line s
      | none => return .redirected line none (← readRedirections fuel)
    | .word =>
      hold
      readSimple fuel line true [] [] []
    | .redirection =>
      hold
      readSimple fuel line true [] [] []
    | _ => unexpected none

/-- Passes a token over that has to stand here. -/
def demandToken : Nat → Token → Parse Unit
  | 0, _ => refuse .unterminated
  | fuel + 1, token => do
    if (← readToken fuel) ≠ token then unexpected (some token)

/-- The redirections behind a command. -/
def readRedirections : Nat → Parse (List Redirection)
  | 0 => refuse .unterminated
  | fuel + 1 => do
    watchFor .command
    readFurtherRedirections fuel

/-- Redirections one after the other. -/
def readFurtherRedirections : Nat → Parse (List Redirection)
  | 0 => refuse .unterminated
  | fuel + 1 => do
    if (← readToken fuel) = .redirection then
      let redirection ← readGoal fuel
      return redirection :: (← readFurtherRedirections fuel)
    else
      hold
      return []

/-- A command with the redirections behind it. -/
def readRedirected : Nat → Nat → Statement → Parse Statement
  | 0, _, _ => refuse .unterminated
  | fuel + 1, line, s => do
    match ← readRedirections fuel with
    | [] => return s
    | redirections => return .redirected line (some s) redirections

/-- A choice behind its first word. -/
def readChoice : Nat → Parse Statement
  | 0 => refuse .unterminated
  | fuel + 1 => do
    let s ← readBranches fuel
    demandToken fuel (.keyword "fi")
    return s

/-- The branches of a choice. -/
def readBranches : Nat → Parse Statement
  | 0 => refuse .unterminated
  | fuel + 1 => do
    let condition ← readList fuel false none
    demandToken fuel (.keyword "then")
    let yes ← readList fuel false none
    match ← readToken fuel with
    | .keyword "elif" =>
      let no ← readBranches fuel
      return .choice condition yes (some no)
    | .keyword "else" => return .choice condition yes (← readList fuel false none)
    | _ =>
      hold
      return .choice condition yes none

/-- A loop behind its first word. -/
def readLoop : Nat → Bool → Parse Statement
  | 0, _ => refuse .unterminated
  | fuel + 1, untilTrue => do
    let condition ← readList fuel false none
    demandToken fuel (.keyword "do")
    let body ← readList fuel false none
    demandToken fuel (.keyword "done")
    return .loop untilTrue condition body

/-- A loop over words behind its first word. -/
def readEach : Nat → Nat → Parse Statement
  | 0, _ => refuse .unterminated
  | fuel + 1, line => do
    let token ← readToken fuel
    let r ← get
    let name := (plainText? r.word).getD []
    if token ≠ .word || r.isQuoted || !isName name then refuse .badLoopVariable
    watchFor .lines
    let words ← match ← readToken fuel with
      | .keyword "in" => do
        let words ← readWords fuel
        let token := (← get).token
        if token ≠ .newline && token ≠ .semicolon then unexpected none
        pure words
      | .semicolon => pure [allArguments]
      | _ => do
        hold
        pure [allArguments]
    watchFor .lines
    demandToken fuel (.keyword "do")
    let body ← readList fuel false none
    demandToken fuel (.keyword "done")
    return .each line (String.ofList name) words body

/-- Words one after the other, and the token behind them. -/
def readWords : Nat → Parse (List Word)
  | 0 => refuse .unterminated
  | fuel + 1 => do
    if (← readToken fuel) = .word then
      let word := (← get).word
      return word :: (← readWords fuel)
    else return []

/-- A choice by patterns behind its first word. -/
def readCases : Nat → Nat → Parse Statement
  | 0, _ => refuse .unterminated
  | fuel + 1, line => do
    demandToken fuel .word
    let word := (← get).word
    watchFor .lines
    demandToken fuel (.keyword "in")
    let arms ← readArms fuel
    return .cases line word arms

/-- The arms of a choice by patterns. -/
def readArms : Nat → Parse (List (List Word × Option Statement))
  | 0 => refuse .unterminated
  | fuel + 1 => do
    watchFor ⟨true, true, false, false⟩
    let token ← readToken fuel
    if token = .keyword "esac" then return []
    else
      if token = .opening then discard (readToken fuel)
      let patterns ← readPatterns fuel
      if (← get).token ≠ .closing then unexpected (some .closing)
      let body ← readList fuel true none
      watchFor ⟨true, true, false, false⟩
      match ← readToken fuel with
      | .keyword "esac" => return [(patterns, body)]
      | .endCase => return (patterns, body) :: (← readArms fuel)
      | _ => unexpected (some .endCase)

/-- The patterns of an arm, the first of which has been read, and the token behind them. -/
def readPatterns : Nat → Parse (List Word)
  | 0 => refuse .unterminated
  | fuel + 1 => do
    let word := (← get).word
    if (← readToken fuel) = .pipe then
      discard (readToken fuel)
      return word :: (← readPatterns fuel)
    else return [word]

/-- A command of variables, words and redirections, with those so far, the latest first; or a
function. As long as there is no word, variables may be given values. -/
def readSimple : Nat → Nat → Bool → List (String × Word) → List Word → List Redirection →
    Parse Statement
  | 0, _, _, _, _, _ => refuse .unterminated
  | fuel + 1, line, mayAssign, assignments, words, redirections => do
    watchFor ⟨false, false, mayAssign, false⟩
    match ← readToken fuel with
    | .word =>
      let word := (← get).word
      match (if mayAssign then assignmentOf? word else none) with
      | some assignment =>
        readSimple fuel line mayAssign (assignment :: assignments) words redirections
      | none => readSimple fuel line false assignments (word :: words) redirections
    | .redirection =>
      let redirection ← readGoal fuel
      readSimple fuel line mayAssign assignments words (redirection :: redirections)
    | .opening =>
      match words, assignments, redirections with
      | [word], [], [] =>
        demandToken fuel .closing
        let name := String.ofList ((plainText? word).getD [])
        if !isName name.toList || specialCommands.contains name then refuse .badFunctionName
        watchFor .lines
        let line := (← get).line
        let body ← readCommand fuel
        return .function line name body
      | _, _, _ =>
        hold
        return .simple line assignments.reverse words.reverse redirections.reverse
    | _ =>
      hold
      return .simple line assignments.reverse words.reverse redirections.reverse

end

/-- The commands of one line, behind those so far. -/
def readLine : Nat → Option Statement → Parse (Option Statement)
  | 0, _ => refuse .unterminated
  | fuel + 1, before => do
    watchFor .command
    match ← readToken fuel with
    | .newline =>
      readExpected fuel
      return before
    | .eof =>
      readExpected fuel
      modify fun r => { r with isHeld := true, token := .eof }
      return before
    | _ =>
      hold
      let line := (← get).line
      let s ← readAndOr fuel
      let token ← readToken fuel
      let s := if token = .ampersand then inBackground line s else s
      let before := some (sequenceOf before s)
      match token with
      | .newline => hold; readLine fuel before
      | .eof => hold; readLine fuel before
      | .ampersand => readLine fuel before
      | .semicolon => readLine fuel before
      | _ => unexpected none

/-- The commands of the next line; a line may hold none. At the end of the script there is nothing.
-/
def Reader.nextCommand (r : Reader) :
    Except (Nat × SyntaxFault) (Option (Option Statement) × Reader) := do
  let r := { r with watch := .nothing, isHeld := false, expected := [] }
  let fuel := 20 * r.size + 200000
  let (body, r) ← StateT.run (readLine fuel none) r
  if body.isNone && r.isHeld && r.token = .eof then return (none, r) else return (some body, r)

/-- A text in which parameters and commands are replaced, as a word. -/
def wordOfText (text : String) : Except (Nat × SyntaxFault) Word := do
  let endless : Expected := ⟨"\n", false, false, 0⟩
  let r := Reader.ofText text.toList 1 #[] []
  let (scan, _) ← StateT.run (readParts (20 * r.size + 200000) (some endless) (.start .double)) r
  return scan.parts.reverse

/-- Whether a script is at its end. -/
def Reader.isAtEnd (r : Reader) : Bool := r.size = 0

end Shipyard.Shell
