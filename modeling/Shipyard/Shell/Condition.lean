import Shipyard.Shell.Arithmetic
import Shipyard.Unix.Program

/-!
# Conditions of shell scripts

What `test` answers about texts, numbers and files. The words are read as alternatives of
conjunctions; whether a word is an operator depends on the words behind it.
-/

namespace Shipyard.Shell

/-- Why words are no condition. -/
inductive ConditionFault where
  /-- an operator is not expected where this word stands -/
  | unexpected (word : String)
  /-- an operator has nothing to work on -/
  | incomplete (op : String)
  /-- a bracket is not closed -/
  | openBracket
  /-- a text is no number -/
  | noNumber (text : String)
  deriving DecidableEq, Repr

/-- What is wrong with a condition. -/
def ConditionFault.message : ConditionFault → String
  | unexpected word => word ++ ": unexpected operator"
  | incomplete op => op ++ ": argument expected"
  | openBracket => "closing paren expected"
  | noNumber text => "Illegal number: " ++ text

/-- A truth value about the files of a system, or what is wrong. -/
abbrev Judgement (α : Type) := ExceptT ConditionFault Unix.Program α

/-- The conditions on one word. -/
def wordConditions : List String :=
  ["-r", "-w", "-x", "-e", "-f", "-d", "-c", "-b", "-p", "-u", "-g", "-k", "-s", "-t", "-z", "-n",
    "-h", "-O", "-G", "-L", "-S"]

/-- The conditions on two words. -/
def pairConditions : List String :=
  ["=", "!=", "<", ">", "-eq", "-ne", "-ge", "-gt", "-le", "-lt", "-nt", "-ot", "-ef"]

/-! ## Single conditions -/

/-- What is known of the file at a path, if there is one. -/
def statusOf? (path : String) (follow : Bool) : Unix.Program (Option Unix.Status) := do
  match ← Unix.Program.ask (Unix.statusAt path follow) with
  | .ok status =>
    if status.kind = .device && path.startsWith "/dev/std" then
      let n := if path = "/dev/stdin" then 0 else if path = "/dev/stdout" then 1 else 2
      Unix.Program.askD (some status) (some <$> Unix.statusOpen n)
    else return some status
  | .error _ => return none

/-- The number of a word. -/
def wordNumber (word : String) : Except ConditionFault Int :=
  let cs := word.toList.dropWhile isSpace
  let (negative, cs) := match cs with
    | '-' :: rest => (true, rest)
    | '+' :: rest => (false, rest)
    | _ => (false, cs)
  let digits := cs.takeWhile Char.isDigit
  if digits ≠ [] && (cs.drop digits.length).all isSpace then
    .ok (if negative then -(digitsValue 10 digits : Int) else digitsValue 10 digits)
  else .error (.noNumber word)

/-- A condition on one word. -/
def judgeWord (op word : String) : Judgement Bool := do
  let file := fun (follow : Bool) (p : Unix.Status → Bool) => do
    return match ← statusOf? word follow with
      | some status => p status
      | none => false
  let access := fun (reads writes executes : Bool) =>
    Unix.Program.askD false (Unix.mayAccess word reads writes executes)
  match op with
  | "-n" => return word ≠ ""
  | "-z" => return word = ""
  | "-t" => do
    discard (wordNumber word : ExceptT ConditionFault Id Int)
    return false
  | "-e" => file true fun _ => true
  | "-O" => file true fun _ => true
  | "-G" => file true fun _ => true
  | "-f" => file true (·.kind = .regular)
  | "-d" => file true (·.kind = .directory)
  | "-c" => file true (·.kind = .device)
  | "-p" => file true (·.kind = .pipe)
  | "-s" => file true (0 < ·.size)
  | "-u" => file true (·.mode.testBit 11)
  | "-g" => file true (·.mode.testBit 10)
  | "-k" => file true (·.mode.testBit 9)
  | "-h" => file false (·.kind = .link)
  | "-L" => file false (·.kind = .link)
  | "-r" => access true false false
  | "-w" => access false true false
  | "-x" => access false false true
  | _ => return false

/-- A condition on two words. -/
def judgePair (op left right : String) : Judgement Bool := do
  let numbers := fun (p : Int → Int → Bool) => do
    let a ← wordNumber left
    let b ← wordNumber right
    return p a b
  let files := fun (p : Unix.Status → Unix.Status → Bool) => do
    match ← statusOf? left true, ← statusOf? right true with
    | some a, some b => return p a b
    | _, _ => return false
  match op with
  | "=" => return left = right
  | "!=" => return left ≠ right
  | "<" => return left < right
  | ">" => return right < left
  | "-eq" => ExceptT.mk (pure (numbers (· = ·)))
  | "-ne" => ExceptT.mk (pure (numbers (· ≠ ·)))
  | "-lt" => ExceptT.mk (pure (numbers (· < ·)))
  | "-le" => ExceptT.mk (pure (numbers (· ≤ ·)))
  | "-gt" => ExceptT.mk (pure (numbers (fun a b => b < a)))
  | "-ge" => ExceptT.mk (pure (numbers (fun a b => b ≤ a)))
  | "-nt" => files fun a b => b.modified < a.modified
  | "-ot" => files fun a b => a.modified < b.modified
  | "-ef" => files fun a b => a.number = b.number
  | _ => return false

/-! ## Reading conditions -/

/-- What a word is. -/
inductive Lexeme where
  /-- there is none -/
  | missing
  /-- a word without a meaning of its own -/
  | operand
  /-- a condition on one word -/
  | onWord (op : String)
  /-- a condition on two words -/
  | onPair (op : String)
  /-- another operator -/
  | sign (op : String)
  deriving DecidableEq, Repr

/-- What a word is in front of others. A condition on one word is a word as any other where there is
none for it, or where it is the first of two. -/
def lexeme (words : List String) : Lexeme :=
  match words with
  | [] => .missing
  | word :: rest =>
    if wordConditions.contains word then
      match rest with
      | [] => .operand
      | next :: behind =>
        if behind ≠ [] && pairConditions.contains next then .operand else .onWord word
    else if pairConditions.contains word then .onPair word
    else if word = "(" && rest = [] then .operand
    else if ["!", "-a", "-o", "(", ")"].contains word then .sign word
    else .operand

mutual

/-- Alternatives whose first word is as told, and the words from the last one on that was used. -/
def judgeAlternatives : Nat → Lexeme → List String → Judgement (Bool × List String)
  | 0, _, words => return (false, words)
  | fuel + 1, first, words => do
    let (a, words) ← judgeConjunction fuel first words
    if lexeme (words.drop 1) = .sign "-o" then
      let words := words.drop 2
      let (b, words) ← judgeAlternatives fuel (lexeme words) words
      return (a || b, words)
    else return (a, words)

/-- Conditions that must all be true. -/
def judgeConjunction : Nat → Lexeme → List String → Judgement (Bool × List String)
  | 0, _, words => return (false, words)
  | fuel + 1, first, words => do
    let (a, words) ← judgeNegation fuel first words
    if lexeme (words.drop 1) = .sign "-a" then
      let words := words.drop 2
      let (b, words) ← judgeConjunction fuel (lexeme words) words
      return (a && b, words)
    else return (a, words)

/-- A condition or its negation. -/
def judgeNegation : Nat → Lexeme → List String → Judgement (Bool × List String)
  | 0, _, words => return (false, words)
  | fuel + 1, first, words => do
    if first = .sign "!" then
      let next := lexeme (words.drop 1)
      let (b, words) ← judgeNegation fuel next (if next = .missing then words else words.drop 1)
      return (!b, words)
    else judgePrimary fuel first words

/-- A single condition. -/
def judgePrimary : Nat → Lexeme → List String → Judgement (Bool × List String)
  | 0, _, words => return (false, words)
  | fuel + 1, first, words => do
    match first with
    | .missing => return (false, words)
    | .sign "(" =>
      let inner := words.drop 1
      let next := lexeme inner
      if next = .sign ")" then return (false, inner)
      else
        let (b, words) ← judgeAlternatives fuel next inner
        if lexeme (words.drop 1) = .sign ")" then return (b, words.drop 1)
        else throw .openBracket
    | .onWord op =>
      match words.drop 1 with
      | [] => throw (.incomplete op)
      | word :: rest => return (← judgeWord op word, word :: rest)
    | _ =>
      let word := words.headD ""
      match lexeme (words.drop 1) with
      | .onPair op =>
        match words.drop 2 with
        | [] => throw (.incomplete op)
        | right :: rest => return (← judgePair op word right, right :: rest)
      | _ => return (word ≠ "", words)

end

/-- Whether all words were used. -/
def judgeAll (first : Lexeme) (words : List String) : Judgement Bool := do
  let (b, rest) ← judgeAlternatives (8 * words.length + 8) first words
  match rest with
  | word :: _ :: _ => throw (.unexpected word)
  | _ => return b

/-- What words say. Few words have a meaning of their own. -/
def judge : List String → Judgement Bool
  | [] => return false
  | "!" :: a :: b :: rest =>
    let words := "!" :: a :: b :: rest
    let isPair := rest = [] && pairConditions.contains a
    if isPair then judgeAll .operand words
    else if rest.length ≤ 1 then do
      if rest = [] then return !(← judge [a, b])
      else return !(← judge (a :: b :: rest))
    else judgeAll (lexeme words) words
  | words =>
    match words with
    | [a, op, b] =>
      if pairConditions.contains op then judgeAll .operand words
      else if a = "(" && b = ")" then judgeAll (lexeme [op]) [op]
      else judgeAll (lexeme words) words
    | [a, b, c, d] =>
      if a = "(" && d = ")" then judgeAll (lexeme [b, c]) [b, c] else judgeAll (lexeme words) words
    | _ => judgeAll (lexeme words) words
termination_by words => words.length

end Shipyard.Shell
