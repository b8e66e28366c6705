import Shipyard.Shell.Reader
import Shipyard.Text.CharClass

/-!
# Arithmetic of shell scripts

Expressions over machine words of 64 bits, which wrap around. `Expression.read` takes the operators
by their rank, so that `1 + 2 * 3` groups as it is written in mathematics, and `Expression.evaluate`
leaves the side that a logical operator does not need untouched.
-/

namespace Shipyard.Shell

/-- Why an expression has no value. -/
inductive ArithmeticFault where
  /-- something is missing at this place -/
  | missing (what : String)
  /-- a division by zero -/
  | divisionByZero
  /-- a variable does not hold a number -/
  | noNumber (text : String)
  /-- a variable has no value though it needs one -/
  | unset (name : String)
  deriving DecidableEq, Repr

/-- What is wrong with an expression, given its text. -/
def ArithmeticFault.message (expression : String) : ArithmeticFault → String
  | missing what => "arithmetic expression: expecting " ++ what ++ ": \"" ++ expression ++ "\""
  | divisionByZero => "arithmetic expression: division by zero: \"" ++ expression ++ "\""
  | noNumber text => "Illegal number: " ++ text
  | unset name => name ++ ": parameter not set"

/-- An expression. -/
inductive Expression where
  /-- a number -/
  | number (n : Int64)
  /-- the value of a variable -/
  | named (name : String)
  /-- an operator in front of an operand -/
  | unary (op : Char) (operand : Expression)
  /-- an operator between two operands -/
  | binary (op : String) (left right : Expression)
  /-- a choice between two values -/
  | choice (condition yes no : Expression)
  /-- a variable gets a value, maybe from its old one by an operator -/
  | assign (name op : String) (value : Expression)
  deriving DecidableEq, Repr

/-! ## Numbers -/

/-- The greatest number. -/
def greatest : Nat := 9223372036854775807

/-- The value of digits in a base. -/
def digitsValue (base : Nat) (cs : List Char) : Nat :=
  cs.foldl (fun n c => n * base + (Text.hexValue? c).getD 0) 0

/-- The number at the beginning of a text, in the base that its first characters tell, and the rest.
-/
def readNatural (cs : List Char) : Nat × List Char :=
  let take := fun (base : Nat) (cs : List Char) =>
    let digits := cs.takeWhile fun c => match Text.hexValue? c with
      | some d => d < base
      | none => false
    (digitsValue base digits, cs.drop digits.length)
  match cs with
  | '0' :: 'x' :: c :: rest =>
    if (Text.hexValue? c).isSome then take 16 (c :: rest) else (0, 'x' :: c :: rest)
  | '0' :: 'X' :: c :: rest =>
    if (Text.hexValue? c).isSome then take 16 (c :: rest) else (0, 'X' :: c :: rest)
  | '0' :: _ => take 8 cs
  | _ => take 10 cs

/-- The number that the text of a variable stands for; no text at all is zero. -/
def variableNumber? (s : String) : Option Int64 :=
  let cs := s.toList.dropWhile isSpace
  let (negative, digits) := match cs with
    | '-' :: rest => (true, rest)
    | '+' :: rest => (false, rest)
    | _ => (false, cs)
  let (n, rest) := readNatural digits
  if rest.all isSpace && (digits ≠ [] || cs = []) then
    some (Int64.ofInt (if negative then -(min n (greatest + 1) : Int) else min n greatest))
  else none

/-! ## Reading -/

/-- The ranks of the operators between two operands; a higher one binds more tightly. -/
def operatorRanks : List (String × Nat) :=
  [("<<", 8), (">>", 8), ("<=", 7), (">=", 7), ("==", 6), ("!=", 6), ("&&", 2), ("||", 1), ("<", 7),
    (">", 7), ("|", 3), ("^", 4), ("&", 5), ("+", 9), ("-", 9), ("*", 10), ("/", 10), ("%", 10)]

/-- The operators that give a variable its value, the longer ones first. -/
def assignmentOperators : List String :=
  ["<<=", ">>=", "+=", "-=", "*=", "/=", "%=", "&=", "^=", "|="]

/-- The operator in front of a text that gives a variable its value. -/
def assignmentOperator? (cs : List Char) : Option String :=
  match assignmentOperators.find? fun op => op.toList.isPrefixOf cs with
  | some op => some op
  | none =>
    match cs with
    | '=' :: '=' :: _ => none
    | '=' :: _ => some "="
    | _ => none

/-- The operator between two operands in front of a text, and its rank. -/
def binaryOperator? (cs : List Char) : Option (String × Nat) :=
  if (assignmentOperator? cs).isSome then none
  else operatorRanks.find? fun (op, _) => op.toList.isPrefixOf cs

/-- An expression and the text behind it. -/
abbrev ExpressionReading := Except ArithmeticFault (Expression × List Char)

mutual

/-- A value that may be given to a variable. -/
def readAssignment : Nat → List Char → ExpressionReading
  | 0, _ => .error (.missing "primary")
  | fuel + 1, cs =>
    let cs := cs.dropWhile isSpace
    let name := cs.takeWhile isNameChar
    let behind := (cs.drop name.length).dropWhile isSpace
    match (if isName name then assignmentOperator? behind else none) with
    | some op => do
      let (value, rest) ← readAssignment fuel (behind.drop op.length)
      return (.assign (String.ofList name) (op.dropEnd 1).toString value, rest)
    | none => readTernary fuel cs

/-- A value that may depend on a condition. -/
def readTernary : Nat → List Char → ExpressionReading
  | 0, _ => .error (.missing "primary")
  | fuel + 1, cs => do
    let (condition, rest) ← readRanked fuel 1 cs
    match rest.dropWhile isSpace with
    | '?' :: rest => do
      let (yes, rest) ← readAssignment fuel rest
      match rest.dropWhile isSpace with
      | ':' :: rest => do
        let (no, rest) ← readTernary fuel rest
        return (.choice condition yes no, rest)
      | _ => .error (.missing "':'")
    | _ => return (condition, rest)

/-- Operands with operators of at least a rank between them. -/
def readRanked : Nat → Nat → List Char → ExpressionReading
  | 0, _, _ => .error (.missing "primary")
  | fuel + 1, rank, cs => do
    let (left, rest) ← readOperand fuel cs
    readOperators fuel rank left rest

/-- The operators of at least a rank behind an operand. -/
def readOperators : Nat → Nat → Expression → List Char → ExpressionReading
  | 0, _, left, cs => .ok (left, cs)
  | fuel + 1, rank, left, cs => do
    let cs := cs.dropWhile isSpace
    match binaryOperator? cs with
    | some (op, own) =>
      if rank ≤ own then do
        let (right, rest) ← readRanked fuel (own + 1) (cs.drop op.length)
        readOperators fuel rank (.binary op left right) rest
      else return (left, cs)
    | none => return (left, cs)

/-- An operand with the operators in front of it. -/
def readOperand : Nat → List Char → ExpressionReading
  | 0, _ => .error (.missing "primary")
  | fuel + 1, cs => do
    let cs := cs.dropWhile isSpace
    match cs with
    | [] => .error (.missing "primary")
    | c :: rest =>
      if "+-!~".toList.contains c then do
        let (operand, rest) ← readOperand fuel rest
        return (.unary c operand, rest)
      else if c = '(' then do
        let (inner, rest) ← readAssignment fuel rest
        match rest.dropWhile isSpace with
        | ')' :: rest => return (inner, rest)
        | _ => .error (.missing "')'")
      else if c.isDigit then
        let (n, rest) := readNatural cs
        return (.number (Int64.ofNat (min n greatest)), rest)
      else if isNameStart c then
        let name := cs.takeWhile isNameChar
        return (.named (String.ofList name), cs.drop name.length)
      else .error (.missing "primary")

end

/-- The expression that a text stands for. -/
def Expression.read (cs : List Char) : Except ArithmeticFault Expression := do
  let (e, rest) ← readAssignment (8 * cs.length + 16) cs
  if rest.all isSpace then return e else .error (.missing "EOF")

/-! ## Values -/

/-- One for true and zero for false. -/
def ofTruth (b : Bool) : Int64 := if b then 1 else 0

/-- The value of an operator in front of an operand. -/
def unaryValue (op : Char) (a : Int64) : Int64 :=
  if op = '-' then -a else if op = '!' then ofTruth (a == 0) else if op = '~' then ~~~a else a

/-- The value of an operator between two operands. -/
def binaryValue (op : String) (a b : Int64) : Except ArithmeticFault Int64 :=
  match op with
  | "+" => .ok (a + b)
  | "-" => .ok (a - b)
  | "*" => .ok (a * b)
  | "/" => if b == 0 then .error .divisionByZero else .ok (a / b)
  | "%" => if b == 0 then .error .divisionByZero else .ok (a % b)
  | "<<" => .ok (a <<< b)
  | ">>" => .ok (a >>> b)
  | "&" => .ok (a &&& b)
  | "^" => .ok (a ^^^ b)
  | "|" => .ok (a ||| b)
  | "<" => .ok (ofTruth (a < b))
  | "<=" => .ok (ofTruth (a ≤ b))
  | ">" => .ok (ofTruth (b < a))
  | ">=" => .ok (ofTruth (b ≤ a))
  | "==" => .ok (ofTruth (a == b))
  | "!=" => .ok (ofTruth (a != b))
  | _ => .ok b

/-- The variables that an evaluation has given a value, the latest first. -/
abbrev Given := List (String × String)

/-- The number that a variable holds. Without a value there is nothing, if `lookup` does not give
one. -/
def namedValue (lookup : String → Option String) (given : Given) (name : String) :
    Except ArithmeticFault Int64 :=
  match (given.lookup name).or (lookup name) with
  | none => .error (.unset name)
  | some text =>
    match variableNumber? text with
    | some n => .ok n
    | none => .error (.noNumber text)

/-- The value of an expression, with the variables that get one. -/
def Expression.evaluate (lookup : String → Option String) :
    Expression → Given → Except ArithmeticFault (Int64 × Given)
  | .number n, given => .ok (n, given)
  | .named name, given => do return (← namedValue lookup given name, given)
  | .unary op operand, given => do
    let (a, given) ← operand.evaluate lookup given
    return (unaryValue op a, given)
  | .binary op left right, given => do
    let (a, given) ← left.evaluate lookup given
    if op = "&&" && a == 0 then return (0, given)
    else if op = "||" && a != 0 then return (1, given)
    else
      let (b, given) ← right.evaluate lookup given
      if op = "&&" || op = "||" then return (ofTruth (b != 0), given)
      else return (← binaryValue op a b, given)
  | .choice condition yes no, given => do
    let (c, given) ← condition.evaluate lookup given
    if c != 0 then yes.evaluate lookup given else no.evaluate lookup given
  | .assign name op value, given => do
    let (b, given) ← value.evaluate lookup given
    if op = "" then return (b, (name, toString b.toInt) :: given)
    else
      let result ← binaryValue op (← namedValue lookup given name) b
      return (result, (name, toString result.toInt) :: given)

end Shipyard.Shell
