import Shipyard.Regex.Basic

/-!
# Reading regular expressions

There are two ways to write a regular expression: one in which operators are characters with a
backslash, and one in which they are characters without. Both are read as the same tokens, which are
then put together: alternatives of sequences of repeated parts.
-/

namespace Shipyard.Regex

open Text (SetMember)

/-- How regular expressions are written. -/
structure Dialect where
  /-- whether operators have no backslashes -/
  isExtended : Bool
  /-- whether there are escapes for characters that are not printed -/
  hasEscapes : Bool
  /-- whether a parenthesis that closes nothing may stand for itself, while the name of a class must
  not be a set of its own -/
  isForLines : Bool
  deriving DecidableEq, Repr

/-- A token of a regular expression. -/
inductive Token where
  /-- something that fits by itself -/
  | atom (r : Regex)
  /-- how often what stands in front is repeated -/
  | times (least : Nat) (most : Option Nat)
  /-- the beginning of a group -/
  | opening
  /-- the end of a group -/
  | closing
  /-- the mark between alternatives -/
  | bar
  deriving Repr

/-- The expression of a character. -/
def exactly (c : Char) : Regex := one false [.range c c]

/-! ## Sets -/

/-- The name of a class, and what is behind it. -/
def className (mark : Char) : List Char → Option (String × List Char)
  | [] => none
  | [_] => none
  | a :: b :: rest =>
    if a = mark && b = ']' then some ("", rest)
    else (className mark (b :: rest)).map fun (name, behind) => (String.ofList [a] ++ name, behind)

/-- What is wrong with a set that has no end. -/
def openSet : String := "Unmatched [, [^, [:, [., or [="

/-- A character of a set, which may be an escape or stand between marks, and what is behind it. -/
def setCharacter (d : Dialect) : List Char → Except String (Char × List Char)
  | '[' :: mark :: rest =>
    if mark = '.' || mark = '=' then
      match rest with
      | c :: m :: ']' :: behind => if m = mark then .ok (c, behind) else .error openSet
      | _ => .error openSet
    else .ok ('[', mark :: rest)
  | '\\' :: c :: rest =>
    match if d.hasEscapes then [('n', '\n'), ('t', '\t'), ('f', '\x0c'), ('v', '\x0b'),
      ('a', '\x07'), ('r', '\r')].lookup c else none with
    | some special => .ok (special, rest)
    | none => .ok ('\\', c :: rest)
  | c :: rest => .ok (c, rest)
  | [] => .error openSet

/-- The members of a set up to its bracket, and what is behind that. The fuel bounds how many there
are. -/
def setMembers (d : Dialect) : Nat → Bool → List Char → Except String (List SetMember × List Char)
  | 0, _, _ => .error openSet
  | _ + 1, _, [] => .error openSet
  | fuel + 1, isFirst, c :: rest => do
    if c = ']' && !isFirst then return ([], rest)
    match c, rest with
    | '[', ':' :: name =>
      match className ':' name with
      | some (name, behind) =>
        if Text.classNames.contains name then
          let (members, rest) ← setMembers d fuel false behind
          return (.ofClass name :: members, rest)
        else .error "Invalid character class name"
      | none => .error openSet
    | _, _ =>
      let (first, rest) ← setCharacter d (c :: rest)
      match rest with
      | '-' :: next :: _ =>
        if next = ']' then
          let (members, rest) ← setMembers d fuel false rest
          return (.range first first :: members, rest)
        else
          let (last, rest) ← setCharacter d (rest.drop 1)
          if last < first then .error "Invalid range end"
          else
            let (members, rest) ← setMembers d fuel false rest
            return (.range first last :: members, rest)
      | _ =>
        let (members, rest) ← setMembers d fuel false rest
        return (.range first first :: members, rest)

/-- The set behind a bracket, and what is behind it. -/
def readSet (d : Dialect) (rest : List Char) : Except String (Regex × List Char) := do
  let (negated, rest) := match rest with
    | '^' :: rest => (true, rest)
    | _ => (false, rest)
  if rest = [] then .error "Invalid regular expression"
  else
    let (members, behind) ← setMembers d (rest.length + 1) true rest
    let text := rest.take (rest.length - behind.length - 1)
    if d.isForLines && !negated && 2 < text.length && text.head? = some ':' &&
        text.getLast? = some ':' then
      .error "character class syntax is [[:space:]], not [:space:]"
    else return (one negated members, behind)

/-! ## Tokens -/

/-- The number at the beginning of a text, and what is behind it. -/
def leadingNat (cs : List Char) : Option Nat × List Char :=
  let digits := cs.takeWhile Char.isDigit
  (if digits = [] then none else some (digits.foldl (fun n c => 10 * n + (c.toNat - 48)) 0),
    cs.drop digits.length)

/-- How often something is repeated, as it is written between braces, and what is behind that. In
one way of writing, what makes no sense is an error; in the other one it is a text, for which there
is no answer. -/
def readBounds (d : Dialect) (rest : List Char) : Except String (Option (Token × List Char)) :=
  let (least?, behind) := leadingNat rest
  let (bounds, behind) := match behind with
    | ',' :: more =>
      let (most?, behind) := leadingNat more
      (some (least?.getD 0, most?), behind)
    | _ => (least?.map fun n => (n, some n), behind)
  let behind? := match d.isExtended, behind with
    | true, '\x7d' :: rest => some rest
    | false, '\\' :: '\x7d' :: rest => some rest
    | _, _ => none
  match bounds, behind? with
  | some (least, most), some behind =>
    if most.any (· < least) then .error "Invalid content of \\\x7b\\\x7d"
    else if 32767 < max least (most.getD 0) then .error "Regular expression too big"
    else .ok (some (.times least most, behind))
  | _, _ =>
    if d.isExtended then .ok none
    else if behind = [] then .error "Unmatched \\\x7b"
    else .error "Invalid content of \\\x7b\\\x7d"

/-- The expression of an escape that both ways of writing have. -/
def escaped? (d : Dialect) (c : Char) : Option Regex :=
  let word := [SetMember.ofClass "alnum", .range '_' '_']
  let special := [('n', '\n'), ('t', '\t'), ('f', '\x0c'), ('v', '\x0b'), ('a', '\x07'),
    ('r', '\r')].lookup c
  match c with
  | 'w' => some (one false word)
  | 'W' => some (one true word)
  | 's' => some (one false [.ofClass "space"])
  | 'S' => some (one true [.ofClass "space"])
  | 'b' => some (look .boundary)
  | 'B' => some (look .noBoundary)
  | '<' => some (look .wordStart)
  | '>' => some (look .wordEnd)
  | '\x60' => some (look .textStart)
  | '\x27' => some (look .textEnd)
  | _ =>
    if '1' ≤ c && c ≤ '9' then some (again (c.toNat - 48))
    else if d.hasEscapes then special.map exactly
    else none

/-- Whether a repetition could stand behind tokens, the latest one first. -/
def isBehindPart : List Token → Bool
  | .atom (look .lineStart) :: _ => false
  | .atom _ :: _ => true
  | .closing :: _ => true
  | .times _ _ :: _ => true
  | _ => false

/-- Whether an expression or an alternative begins behind tokens, the latest one first. -/
def isBehindStart : List Token → Bool
  | [] => true
  | .opening :: _ => true
  | .bar :: _ => true
  | _ => false

/-- Whether an expression or an alternative ends in front of a text. -/
def isBeforeEnd : List Char → Bool
  | [] => true
  | '\\' :: ')' :: _ => true
  | '\\' :: '|' :: _ => true
  | _ => false

/-- The tokens of a text, given those in front of it, the latest one first. The fuel bounds how long
the text is. -/
def readTokens (d : Dialect) : Nat → List Token → List Char → Except String (List Token)
  | 0, done, _ => .ok done.reverse
  | _ + 1, done, [] => .ok done.reverse
  | fuel + 1, done, c :: rest =>
    let ordinary := fun (c : Char) (rest : List Char) =>
      readTokens d fuel (.atom (exactly c) :: done) rest
    let operator := fun (t : Token) (rest : List Char) => readTokens d fuel (t :: done) rest
    -- a repetition of nothing is left out, or stands for itself
    let repetition := fun (c : Char) (t : Token) =>
      if isBehindPart done then operator t rest
      else if d.isExtended then
        if isBehindStart done then readTokens d fuel done rest else operator t rest
      else ordinary c rest
    match c, rest with
    | '\\', [] => .error "Trailing backslash"
    | '\\', e :: rest =>
      let repetition := fun (t : Token) =>
        if isBehindPart done then operator t rest else readTokens d fuel done rest
      match d.isExtended, e with
      | false, '(' => operator .opening rest
      | false, ')' => operator .closing rest
      | false, '|' => operator .bar rest
      | false, '+' => repetition (.times 1 none)
      | false, '?' => repetition (.times 0 (some 1))
      | false, '\x7b' =>
        match readBounds d rest with
        | .error message => .error message
        | .ok none => ordinary '\x7b' rest
        | .ok (some (t, behind)) =>
          if isBehindPart done then readTokens d fuel (t :: done) behind
          else .error "Invalid preceding regular expression"
      | _, _ =>
        match escaped? d e with
        | some r => operator (.atom r) rest
        | none => ordinary e rest
    | '.', _ => operator (.atom (one true [])) rest
    | '[', _ =>
      match readSet d rest with
      | .error message => .error message
      | .ok (r, behind) => readTokens d fuel (.atom r :: done) behind
    | '*', _ => repetition '*' (.times 0 none)
    | '^', _ =>
      if d.isExtended || isBehindStart done then operator (.atom (look .lineStart)) rest
      else ordinary '^' rest
    | '$', _ =>
      if d.isExtended || isBeforeEnd rest then operator (.atom (look .lineEnd)) rest
      else ordinary '$' rest
    | '\n', _ => ordinary '\n' rest
    | _, _ =>
      if d.isExtended then
        match c with
        | '(' => operator .opening rest
        | ')' => operator .closing rest
        | '|' => operator .bar rest
        | '+' => repetition '+' (.times 1 none)
        | '?' => repetition '?' (.times 0 (some 1))
        | '\x7b' =>
          match readBounds d rest with
          | .error message => .error message
          | .ok (some (t, behind)) =>
            if isBehindPart done then readTokens d fuel (t :: done) behind
            else readTokens d fuel done behind
          | .ok none => ordinary c rest
        | _ => ordinary c rest
      else ordinary c rest

/-! ## Putting together -/

/-- An expression with how many groups there are up to its end, and the tokens behind it. -/
abbrev Reading := Except String (Regex × Nat × List Token)

/-- A part with the repetitions behind it, and the tokens behind these. -/
def withTimes : Regex → List Token → Regex × List Token
  | r, .times least most :: rest => withTimes (repeated r least most) rest
  | r, rest => (r, rest)

mutual

/-- Alternatives. `groups` is how many groups there are in front. -/
def readEither (d : Dialect) : Nat → Nat → Nat → List Token → Reading
  | 0, _, _, _ => .error "Regular expression too big"
  | fuel + 1, depth, groups, tokens => do
    let (a, groups, rest) ← readSequence d fuel depth groups tokens
    match rest with
    | .bar :: rest =>
      let (b, groups, rest) ← readEither d fuel depth groups rest
      return (either a b, groups, rest)
    | _ => return (a, groups, rest)

/-- A sequence of repeated parts. `depth` is how many groups are open. -/
def readSequence (d : Dialect) : Nat → Nat → Nat → List Token → Reading
  | 0, _, _, _ => .error "Regular expression too big"
  | fuel + 1, depth, groups, tokens => do
    match tokens with
    | .atom r :: rest =>
      match r with
      | again n => if groups < n then .error "Invalid back reference" else pure ()
      | _ => pure ()
      let (a, rest) := withTimes r rest
      let (b, groups, rest) ← readSequence d fuel depth groups rest
      return (seq a b, groups, rest)
    | .opening :: rest =>
      let own := groups + 1
      let (a, groups, rest) ← readEither d fuel (depth + 1) own rest
      match rest with
      | .closing :: rest =>
        let (a, rest) := withTimes (group own a) rest
        let (b, groups, rest) ← readSequence d fuel depth groups rest
        return (seq a b, groups, rest)
      | _ => .error "Unmatched ( or \\("
    | .closing :: rest =>
      if 0 < depth then return (empty, groups, tokens)
      else if d.isForLines && d.isExtended then
        let (a, rest) := withTimes (exactly ')') rest
        let (b, groups, rest) ← readSequence d fuel depth groups rest
        return (seq a b, groups, rest)
      else .error "Unmatched ) or \\)"
    | .times _ _ :: rest => readSequence d fuel depth groups rest
    | _ => return (empty, groups, tokens)

end

/-- Reads a regular expression, and tells how many groups it has. -/
def read (d : Dialect) (text : List Char) : Except String (Regex × Nat) := do
  let tokens ← readTokens d (text.length + 1) [] text
  let (r, groups, _) ← readEither d (4 * tokens.length + 4) 0 0 tokens
  return (r, groups)

/-- The expression of a text that stands for itself. -/
def ofText (text : List Char) : Regex := text.foldr (fun c r => seq (exactly c) r) empty

end Shipyard.Regex
