import Shipyard.Shell.Condition
import Shipyard.Shell.Format
import Shipyard.Utility.Launch

/-!
# Small programs

Programs that write a text made from their arguments, or only answer with a code.
-/

namespace Shipyard.Utility

open Unix (Program)

/-- Does nothing, and answers with a code. -/
def answerWith (code : Nat) : Utility := fun _ => return code

/-- The options of `echo` at the beginning of arguments, the latest first, and what follows them. -/
def echoOptions : List Char → List String → List Char × List String
  | letters, [] => (letters, [])
  | letters, argument :: rest =>
    match argument.toList with
    | '-' :: c :: more =>
      if (c :: more).all fun l => "neE".toList.contains l then
        echoOptions ((c :: more).reverse ++ letters) rest
      else (letters, argument :: rest)
    | _ => (letters, argument :: rest)

/-- Writes its arguments. -/
def echo : Utility := fun c => do
  let (letters, words) := echoOptions [] c.arguments
  let escapes := (letters.find? fun l => l = 'e' || l = 'E') = some 'e'
  let text := String.intercalate " " words
  let (text, stops) := if escapes then Shell.unescaped .program text else (text, false)
  put c (if stops || letters.contains 'n' then text else text ++ "\n")
  return 0

/-- What the program says of a fault of a format. -/
def formatMessage : Shell.FormatFault → String
  | .noNumber argument => quotedText argument ++ ": expected a numeric value"
  | .partNumber argument => quotedText argument ++ ": value not completely converted"
  | .outOfRange argument => quotedText argument ++ ": Numerical result out of range"
  | .unknown directive => directive ++ ": invalid conversion specification"
  | .cutOff => "%: invalid conversion specification"

/-- Writes its arguments with a format. -/
def printf : Utility := fun c => do
  let arguments := if c.arguments.head? = some "--" then c.arguments.drop 1 else c.arguments
  match arguments with
  | [] => misused c "missing operand" 1
  | format :: rest =>
    let f := Shell.formatted .program format rest
    f.faults.forM fun fault => complain c (formatMessage fault)
    put c f.output
    if !f.isHungry && f.arguments ≠ [] then
      complain c ("warning: ignoring excess arguments, starting with " ++
        quotedText (f.arguments.headD ""))
    return min f.code 1

/-- What the program says of a condition that is none. -/
def conditionMessage : Shell.ConditionFault → String
  | .unexpected word => "extra argument " ++ quotedText word
  | .incomplete op => "missing argument after " ++ quotedText op
  | .openBracket => "')' expected"
  | .noNumber text => "invalid integer " ++ quotedText text

/-- Answers a condition; words in brackets need the closing one. -/
def test (inBrackets : Bool) : Utility := fun c => do
  if inBrackets && c.arguments.getLast? ≠ some "]" then failing c "missing ']'" 2
  else
    let words := if inBrackets then c.arguments.dropLast else c.arguments
    match ← ExceptT.run (Shell.judge words) with
    | .ok b => return if b then 0 else 1
    | .error fault => failing c (conditionMessage fault) 2

/-- Tells the current directory. -/
def pwd : Utility :=
  withOptions (flags "LP") 1 fun c o _ => do
    let directory ← Program.askD "/" Unix.currentDirectory
    let said := (c.environment.lookup "PWD").getD ""
    let isSame := do
      let there ← Program.ask (Unix.statusAt said true)
      let here ← Program.ask (Unix.statusAt "." true)
      match there, here with
      | .ok there, .ok here => return there.number = here.number
      | _, _ => return false
    let logical := o.last? ['L', 'P'] = some 'L' && said.startsWith "/" && (← isSame)
    putLine c (if logical then said else directory)
    return 0

/-! ## Names -/

/-- The last name of a path. -/
def lastName (path : String) : String :=
  let trimmed := Unix.withoutSlashes path
  if trimmed = "/" || trimmed = "" then trimmed
  else String.ofList ((trimmed.toList.reverse.takeWhile (· ≠ '/')).reverse)

/-- A path without its last name. -/
def directoryName (path : String) : String :=
  let back := (path.toList.reverse.dropWhile (· = '/')).dropWhile (· ≠ '/')
  let front := (back.dropWhile (· = '/')).reverse
  if front ≠ [] then String.ofList front else if path.startsWith "/" then "/" else "."

/-- A name without an ending, unless it is nothing but that. -/
def withoutSuffix (name suffix : String) : String :=
  if suffix ≠ "" && name ≠ suffix && name.endsWith suffix then
    String.ofList (name.toList.take (name.length - suffix.length))
  else name

/-- Writes the last names of paths. -/
def basename : Utility :=
  withLeadingOptions [flag 'a' ["multiple"], valued 's' ["suffix"], flag 'z' ["zero"]] 1
    fun c o paths => do
    let stop := if o.has 'z' then "\x00" else "\n"
    if paths = [] then misused c "missing operand" 1
    else if o.hasAny ['a', 's'] then
      let suffix := (o.value? 's').getD ""
      put c (String.join (paths.map fun path => withoutSuffix (lastName path) suffix ++ stop))
      return 0
    else
      match paths with
      | [path] =>
        put c (lastName path ++ stop)
        return 0
      | [path, suffix] =>
        put c (withoutSuffix (lastName path) suffix ++ stop)
        return 0
      | _ => misused c ("extra operand " ++ quotedText (paths.getD 2 "")) 1

/-- Writes paths without their last names. -/
def dirname : Utility :=
  withLeadingOptions [flag 'z' ["zero"]] 1 fun c o paths => do
    if paths = [] then misused c "missing operand" 1
    else
      let stop := if o.has 'z' then "\x00" else "\n"
      put c (String.join (paths.map fun path => directoryName path ++ stop))
      return 0

/-! ## Numbers -/

/-- A number with a point: a whole number of parts of the same size. -/
structure Decimal where
  /-- how many parts -/
  parts : Int
  /-- how many digits are behind the point -/
  places : Nat
  deriving DecidableEq, Repr

namespace Decimal

/-- The number of a text. -/
def ofText? (text : String) : Option Decimal := do
  let (negative, cs) := match text.toList with
    | '-' :: rest => (true, rest)
    | '+' :: rest => (false, rest)
    | cs => (false, cs)
  let (number, rest) ← takeWritten cs
  if rest ≠ [] then none
  else
    let n : Int := (number.digits * Nat.pow 10 (-number.places).toNat : Nat)
    return ⟨if negative then -n else n, number.places.toNat⟩

/-- The parts of a number when there are more digits behind the point. -/
def partsAt (d : Decimal) (places : Nat) : Int := d.parts * (Nat.pow 10 (places - d.places) : Nat)

/-- The text of a number of parts. -/
def textOf (places : Nat) (parts : Int) : String :=
  let digits := toString parts.natAbs
  let digits := String.ofList (List.replicate (places + 1 - digits.length) '0') ++ digits
  let whole := (digits.toList.take (digits.length - places))
  let fraction := digits.toList.drop (digits.length - places)
  (if parts < 0 then "-" else "") ++ String.ofList whole ++
    (if places = 0 then "" else "." ++ String.ofList fraction)

end Decimal

/-- Zeros behind the sign of a number that make it as wide as asked for. -/
def padZeros (width : Nat) (text : String) : String :=
  let zeros := String.ofList (List.replicate (width - text.length) '0')
  if text.startsWith "-" then "-" ++ zeros ++ (text.drop 1).toString else zeros ++ text

/-- Arguments in which negative numbers are no options. -/
def guardNumbers : List String → List String
  | [] => []
  | argument :: rest =>
    match argument.toList with
    | '-' :: c :: _ =>
      if c.isDigit || c = '.' then "--" :: argument :: rest
      else if argument = "-s" || argument = "-f" then
        argument :: rest.take 1 ++ guardNumbers (rest.drop 1)
      else argument :: guardNumbers rest
    | _ => "--" :: argument :: rest
termination_by arguments => arguments.length

/-- Writes numbers in order. -/
def seq : Utility := fun c =>
  withOptions [valued 's' ["separator"], flag 'w' ["equal-width"], valued 'f' ["format"]] 1
    (fun c o numbers => do
    let wrong? := numbers.find? fun n => (Decimal.ofText? n).isNone
    let values := numbers.filterMap Decimal.ofText?
    if numbers = [] then misused c "missing operand" 1
    else if 3 < numbers.length then
      misused c ("extra operand " ++ quotedText (numbers.getD 3 "")) 1
    else
      match wrong? with
      | some text => misused c ("invalid floating point argument: " ++ quotedText text) 1
      | none =>
        let one : Decimal := ⟨1, 0⟩
        let (first, step, last) := match values with
          | [last] => (one, one, last)
          | [first, last] => (first, one, last)
          | first :: step :: last :: _ => (first, step, last)
          | [] => (one, one, one)
        if step.parts = 0 then
          misused c ("invalid Zero increment value: " ++ quotedText (numbers.getD 1 "")) 1
        else
          let places := max first.places step.places
          let scale := max places last.places
          let start := first.partsAt scale
          let stride := step.partsAt scale
          let count := ((last.partsAt scale - start) / stride + 1).toNat
          let texts := (List.range count).map fun (n : Nat) =>
            Decimal.textOf places ((start + stride * n) / (Nat.pow 10 (scale - places) : Nat))
          let width := if o.has 'w' then (texts.map String.length).foldl max 0 else 0
          let texts := match o.value? 'f' with
            | some format => texts.map fun text => (Shell.formatted .program format [text]).output
            | none => texts.map (padZeros width)
          if texts ≠ [] then
            put c (String.intercalate ((o.value? 's').getD "\n") texts ++ "\n")
          return 0) { c with arguments := guardNumbers c.arguments }

/-- Tells the name of the system. -/
def uname : Utility :=
  withOptions (flags "asnrvmpio") 1 fun c o _ => do
    let asked := "snrvmpio".toList.filter fun l => o.has l || o.has 'a'
    let asked := if asked = [] then ['s'] else asked
    let texts := asked.filterMap fun l =>
      [('s', "Linux"), ('n', "localhost"), ('r', "6.1.0"), ('v', "#1 SMP"), ('m', "x86_64"),
        ('o', "GNU/Linux")].lookup l
    putLine c (String.intercalate " " texts)
    return 0

end Shipyard.Utility
