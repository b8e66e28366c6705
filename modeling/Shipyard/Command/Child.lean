import Shipyard.Command.World
import Shipyard.Decimal.Shortest

/-!
# Children

How the end of a child becomes the answer to a command. A request that makes no sense is refused
before a child is started, or once it has started and there is no way to wait for it so long. A
child may not start, may take too long, or may end with a code and with bytes that are text or not.
-/

namespace Shipyard

/-- How long a child may run, in seconds. -/
inductive TimeLimit where
  /-- a whole number -/
  | whole (n : Int)
  /-- a binary number -/
  | binary (x : Binary64)
  deriving DecidableEq, Repr

namespace TimeLimit

/-- The text of a limit. -/
def text : TimeLimit → String
  | whole n => toString n
  | binary x => x.text

/-- How many parts of a second are told apart. -/
def resolution : Nat := 1000000000

/-- Whether so many parts of a second are within the limit. No time at all is enough for a child. -/
def allows (limit : TimeLimit) (elapsed : Nat) : Bool :=
  match limit with
  | whole n => 0 < n && elapsed ≤ n * (resolution : Int)
  | binary .nan => true
  | binary (.infinite negative) => !negative
  | binary (.finite negative mantissa exponent) =>
    !negative && 0 < mantissa &&
      (if 0 ≤ exponent then decide (elapsed ≤ mantissa * Nat.pow 2 exponent.toNat * resolution)
      else decide (elapsed * Nat.pow 2 (-exponent).toNat ≤ mantissa * resolution))

/-- Whether a limit is more than so many milliseconds. -/
def exceeds (limit : TimeLimit) (milliseconds : Nat) : Bool :=
  match limit with
  | whole n => (milliseconds : Int) < n * 1000
  | binary .nan => false
  | binary (.infinite negative) => !negative
  | binary (.finite negative mantissa exponent) =>
    !negative &&
      (if 0 ≤ exponent then decide (milliseconds < mantissa * Nat.pow 2 exponent.toNat * 1000)
      else decide (milliseconds * Nat.pow 2 (-exponent).toNat < mantissa * 1000))

/-- The least whole number that is rounded to no finite number of 64 bits. -/
def leastHuge : Nat := Nat.pow 2 1024 - Nat.pow 2 970

/-- The most milliseconds whose nanoseconds a clock counts. -/
def clockLimit : Nat := 9223372036854

/-- The most milliseconds that one wait can take. -/
def waitLimit : Nat := 2147483647

/-- Whether a limit is a whole number that is rounded to no finite one of 64 bits. -/
def isHuge : TimeLimit → Bool
  | whole n => leastHuge ≤ n.natAbs
  | binary _ => false

/-- Why a limit cannot be waited for, if it cannot. What passes between the start of a child and the
wait for it counts as no time. -/
def fault? (limit : TimeLimit) : Option LimitFault :=
  if limit = binary .nan then some .notANumber
  else if limit.isHuge then some .hugeWhole
  else if limit.exceeds (leastHuge - 1) then some .infinite
  else if limit.exceeds clockLimit then some .beyondClock
  else if limit.exceeds waitLimit then some .tooLong
  else none

end TimeLimit

/-- A child that is asked for. -/
structure ChildRequest where
  /-- the program and its arguments -/
  argv : List String
  /-- where it runs -/
  cwd : Path
  /-- its variables; without any it has those of its parent -/
  env : Option Environment
  /-- how long it may run -/
  limit : Option TimeLimit
  deriving DecidableEq, Repr

/-- How a child ends. -/
inductive ChildEnd where
  /-- it does not start, with what the operating system says about it -/
  | notStarted (message : String)
  /-- it takes too long, with what it has written until then -/
  | tookTooLong (output errors : Bytes)
  /-- it ends with a code, or with the negative number of a signal -/
  | ended (code : Int) (output errors : Bytes)
  deriving DecidableEq, Repr

namespace ChildRequest

/-- Whether a text holds the null character. -/
def hasNull (s : String) : Bool := s.toList.contains '\x00'

/-- Why a request is refused before a child is started. -/
def refusal? (r : ChildRequest) : Option Fault :=
  if r.argv = [] then some .noProgram
  else
    let given := r.env.getD []
    if given.any fun entry => entry.1.toList.contains '=' then some (.refused .variableName)
    else if r.argv.any hasNull || r.cwd.hasNull ||
        given.any (fun entry => hasNull entry.1 || hasNull entry.2) then
      some (.refused .nullCharacter)
    else none

/-- The text that a child has written, with line feeds as its only ends of lines. -/
def textOf (bytes : Bytes) : Except Fault String :=
  match Utf8.decode bytes with
  | .ok s => .ok (Text.unixLines s)
  | .error f => .error (.undecodable f)

/-- Begins to wait for a child. -/
def await (r : ChildRequest) : Except Fault Unit :=
  match r.limit.bind TimeLimit.fault? with
  | some why => .error (.refused (.timeLimit why))
  | none => .ok ()

/-- The answer to a request whose child has ended so. What a child has written that takes too long
is still bytes, so it counts as nothing. -/
def answerOf (r : ChildRequest) : ChildEnd → Answer
  | .notStarted message => return .error ⟨r.argv, -1, "", message⟩
  | .tookTooLong _ _ => do
    r.await
    return .error ⟨r.argv, -1, "",
      "Command timed out after " ++ (r.limit.map TimeLimit.text).getD "None" ++ "s"⟩
  | .ended code output errors => do
    r.await
    let output ← textOf output
    let errors ← textOf errors
    return if code = 0 then .ok output else .error ⟨r.argv, code, output, errors⟩

/-- The answer to a request, given what a child would do. -/
def answer (r : ChildRequest) (child : ChildEnd) : Answer :=
  match r.refusal? with
  | some fault => .error fault
  | none => r.answerOf child

end ChildRequest

end Shipyard
