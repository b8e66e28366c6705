import Shipyard.Data.Json.Reader
import Shipyard.Path
import Shipyard.Text.Quoted
import Shipyard.Text.Blank
import Shipyard.Text.Utf8

/-!
# Faults

What can go wrong below the pipeline: the operating system refuses a request (`OsError`), a request
makes no sense and is refused by the program itself (`Refusal`), bytes are no text, an archive cannot
be written. A step of the pipeline turns the faults it expects into failures of its own; every other
fault ends the step that met it.
-/

namespace Shipyard

/-- Why the operating system refuses a request. -/
inductive Errno where
  | notPermitted
  | noEntry
  | noProcess
  | interrupted
  | inputOutput
  | execFormat
  | badDescriptor
  | noChild
  | accessDenied
  | alreadyExists
  | notDirectory
  | isDirectory
  | invalid
  | noSpace
  | illegalSeek
  | brokenPipe
  | nameTooLong
  | notEmpty
  | tooManyLinks
  deriving DecidableEq, Repr

/-- The number of an error of the operating system. -/
def Errno.number : Errno → Nat
  | notPermitted => 1
  | noEntry => 2
  | noProcess => 3
  | interrupted => 4
  | inputOutput => 5
  | execFormat => 8
  | badDescriptor => 9
  | noChild => 10
  | accessDenied => 13
  | alreadyExists => 17
  | notDirectory => 20
  | isDirectory => 21
  | invalid => 22
  | noSpace => 28
  | illegalSeek => 29
  | brokenPipe => 32
  | nameTooLong => 36
  | notEmpty => 39
  | tooManyLinks => 40

/-- The words of the operating system for an error. -/
def Errno.words : Errno → String
  | notPermitted => "Operation not permitted"
  | noEntry => "No such file or directory"
  | noProcess => "No such process"
  | interrupted => "Interrupted system call"
  | inputOutput => "Input/output error"
  | execFormat => "Exec format error"
  | badDescriptor => "Bad file descriptor"
  | noChild => "No child processes"
  | accessDenied => "Permission denied"
  | alreadyExists => "File exists"
  | notDirectory => "Not a directory"
  | isDirectory => "Is a directory"
  | invalid => "Invalid argument"
  | noSpace => "No space left on device"
  | illegalSeek => "Illegal seek"
  | brokenPipe => "Broken pipe"
  | nameTooLong => "File name too long"
  | notEmpty => "Directory not empty"
  | tooManyLinks => "Too many levels of symbolic links"

/-- What an error of the operating system is about. -/
inductive Subject where
  /-- nothing in particular -/
  | none
  /-- the path of a request, as text -/
  | path (text : String)
  /-- a path that the message shows as an object -/
  | object (text : String)
  deriving DecidableEq, Repr

/-- A path shown as an object in a message. -/
def shownPath (text : String) : String := "PosixPath(" ++ Text.quoted text ++ ")"

/-- The operating system refuses a request. -/
structure OsError where
  /-- why -/
  errno : Errno
  /-- what the request was about -/
  subject : Subject
  deriving DecidableEq, Repr

/-- The text of an error: number, words, and the path if there is one. -/
def OsError.message (e : OsError) : String :=
  let head := s!"[Errno {e.errno.number}] {e.errno.words}"
  match e.subject with
  | .none => head
  | .path text => head ++ ": " ++ Text.quoted text
  | .object text => head ++ ": " ++ shownPath text

/-- Why a time limit cannot be waited for. -/
inductive LimitFault where
  /-- it is no number -/
  | notANumber
  /-- its milliseconds are no finite number -/
  | infinite
  /-- it is a whole number beyond all finite ones of 64 bits -/
  | hugeWhole
  /-- its nanoseconds are more than a clock counts -/
  | beyondClock
  /-- its milliseconds are more than one wait can take -/
  | tooLong
  deriving DecidableEq, Repr

/-- The text for a time limit that cannot be waited for. -/
def LimitFault.message : LimitFault → String
  | notANumber => "cannot convert float NaN to integer"
  | infinite => "cannot convert float infinity to integer"
  | hugeWhole => "int too large to convert to float"
  | beyondClock => "timestamp too large to convert to C _PyTime_t"
  | tooLong => "timeout is too large"

/-- A request that makes no sense. -/
inductive Refusal where
  /-- a path without a last name, where one is needed -/
  | emptyName (path : String)
  /-- a null character inside a path, an argument or a variable -/
  | nullCharacter
  /-- a variable whose name holds an equality sign -/
  | variableName
  /-- a time limit that cannot be waited for -/
  | timeLimit (why : LimitFault)
  /-- a run without any target -/
  | noWorkers
  /-- an integer with too many digits -/
  | hugeInteger (digits : Nat)
  /-- a word that is no sidecar policy -/
  | sidecarPolicy (word : String) (known : List String)
  deriving DecidableEq, Repr

/-- The text of a refusal. -/
def Refusal.message : Refusal → String
  | emptyName path => shownPath path ++ " has an empty name"
  | nullCharacter => "embedded null byte"
  | variableName => "illegal environment variable name"
  | timeLimit why => why.message
  | noWorkers => "max_workers must be greater than 0"
  | hugeInteger digits => Json.hugeIntegerMessage digits
  | sidecarPolicy word known =>
    "checksums.sidecar_format must be one of " ++ String.intercalate ", " known ++
      " (got " ++ Text.quoted word ++ ")"

/-- The words for a reason why bytes are no text. -/
def Utf8.Reason.words : Utf8.Reason → String
  | start => "invalid start byte"
  | continuation => "invalid continuation byte"
  | cutOff => "unexpected end of data"

/-- The text for bytes that are no text. -/
def Utf8.Fault.message (f : Utf8.Fault) : String :=
  let place :=
    if f.length = 1 then
      "byte 0x" ++ String.ofList (Text.hexPadded 2 f.byte.toNat) ++ s!" in position {f.first}"
    else s!"bytes in position {f.first}-{f.first + f.length - 1}"
  "'utf-8' codec can't decode " ++ place ++ ": " ++ f.reason.words

/-- A fault of a step. -/
inductive Fault where
  /-- the operating system refuses a request -/
  | os (e : OsError)
  /-- a request makes no sense -/
  | refused (r : Refusal)
  /-- bytes are no text -/
  | undecodable (f : Utf8.Fault)
  /-- an archive cannot be written -/
  | archive (message : String)
  /-- a document is nested too deep -/
  | tooDeep (message : String)
  /-- a command without a program -/
  | noProgram
  /-- anything else, with its text -/
  | failed (message : String)
  deriving DecidableEq, Repr

/-- The text of a fault. -/
def Fault.message : Fault → String
  | os e => e.message
  | refused r => r.message
  | undecodable f => f.message
  | archive message => message
  | tooDeep message => message
  | noProgram => "list index out of range"
  | failed message => message

end Shipyard
