import Shipyard.Archive.Calendar
import Shipyard.Utility.Files

/-!
# Programs about what surrounds them

Programs that tell the time and where programs are, and one that copies bytes in blocks.
-/

namespace Shipyard.Utility

open Unix (Program)

/-! ## Programs -/

/-- Tells where programs are. -/
def which : Utility :=
  withOptions [flag 'a' []] 2 fun c o names => do
    let directories := (Text.splitAt ':' ((c.environment.lookup "PATH").getD "").toList).map
      String.ofList
    let codes ← names.mapM fun name => do
      let paths := if name.toList.contains '/' then [name]
        else directories.map fun directory =>
          if directory = "" then "./" ++ name else directory ++ "/" ++ name
      let found ← paths.filterM fun path => do
        match ← statusOf path true with
        | some status => return status.kind = .regular && status.mode &&& 0o111 ≠ 0
        | none => return false
      put c (unlines '\n' (if o.has 'a' then found else found.take 1))
      return !found.isEmpty
    return if names ≠ [] && codes.all (fun found => found) then 0 else 1

/-! ## The time -/

namespace Calendar

/-- The names of the days of a week. -/
def weekdays : List String :=
  ["Sunday", "Monday", "Tuesday", "Wednesday", "Thursday", "Friday", "Saturday"]

/-- The names of the months. -/
def monthNames : List String :=
  ["January", "February", "March", "April", "May", "June", "July", "August", "September",
    "October", "November", "December"]

/-- The number of a day since the beginning of 1970. -/
def dayNumber (year : Int) (month day : Nat) : Int :=
  let year := if month ≤ 2 then year - 1 else year
  let fromMarch := if 2 < month then month - 3 else month + 9
  let dayOfYear : Int := ((153 * fromMarch + 2) / 5 + day - 1 : Nat)
  365 * year + year.fdiv 4 - year.fdiv 100 + year.fdiv 400 + dayOfYear - Moment.epochDay

/-- A number with at least two digits. -/
def two (n : Nat) : String := (if n < 10 then "0" else "") ++ toString n

/-- What a letter of a format stands for. The fuel bounds how letters stand for others. -/
def field (seconds : Int) (nanoseconds : Nat) : Nat → Char → String
  | 0, _ => ""
  | fuel + 1, letter =>
    let m := Moment.ofSeconds seconds
    let weekday := ((seconds.fdiv 86400 + 4).fmod 7).toNat
    let dayOfYear := (dayNumber m.year m.month m.day - dayNumber m.year 1 1).toNat + 1
    let twelve := if m.hour % 12 = 0 then 12 else m.hour % 12
    let all := fun (letters : String) =>
      String.join (letters.toList.map fun c =>
        if c.isAlpha then field seconds nanoseconds fuel c else String.ofList [c])
    match letter with
    | 'Y' => toString m.year
    | 'C' => two (m.year / 100).toNat
    | 'y' => two (m.year % 100).toNat
    | 'm' => two m.month
    | 'd' => two m.day
    | 'e' => padFront 2 (toString m.day)
    | 'H' => two m.hour
    | 'k' => padFront 2 (toString m.hour)
    | 'I' => two twelve
    | 'l' => padFront 2 (toString twelve)
    | 'M' => two m.minute
    | 'S' => two m.second
    | 's' => toString seconds
    | 'N' => (toString (1000000000 + nanoseconds)).drop 1 |>.toString
    | 'p' => if m.hour < 12 then "AM" else "PM"
    | 'P' => if m.hour < 12 then "am" else "pm"
    | 'j' => (toString (1000 + dayOfYear)).drop 1 |>.toString
    | 'a' => ((weekdays.getD weekday "").take 3).toString
    | 'A' => weekdays.getD weekday ""
    | 'b' => ((monthNames.getD (m.month - 1) "").take 3).toString
    | 'h' => ((monthNames.getD (m.month - 1) "").take 3).toString
    | 'B' => monthNames.getD (m.month - 1) ""
    | 'u' => toString (if weekday = 0 then 7 else weekday)
    | 'w' => toString weekday
    | 'F' => all "Y-m-d"
    | 'T' => all "H:M:S"
    | 'X' => all "H:M:S"
    | 'D' => all "m/d/y"
    | 'x' => all "m/d/y"
    | 'R' => all "H:M"
    | 'r' => all "I:M:S p"
    | 'c' => all "a b e T Y"
    | 'Z' => "UTC"
    | 'z' => "+0000"
    | 'n' => "\n"
    | 't' => "\t"
    | '%' => "%"
    | c => String.ofList ['%', c]

/-- A time as a format says. -/
def formatted (seconds : Int) (nanoseconds : Nat) : List Char → String
  | '%' :: '-' :: letter :: rest =>
    let text := field seconds nanoseconds 3 letter
    let short := String.ofList (text.toList.dropWhile fun c => c = '0' || c = ' ')
    (if short = "" then "0" else short) ++ formatted seconds nanoseconds rest
  | '%' :: letter :: rest =>
    field seconds nanoseconds 3 letter ++ formatted seconds nanoseconds rest
  | c :: rest => String.ofList [c] ++ formatted seconds nanoseconds rest
  | [] => ""

/-- The numbers of a text between marks. -/
def numbersBetween (mark : Char) (text : String) : Option (List Nat) :=
  (Text.splitAt mark text.toList).mapM fun part =>
    if part = [] || !part.all Char.isDigit then none else some (digitsOf part)

/-- The seconds of a time of day. -/
def secondsOfDay? (text : String) : Option Int := do
  let text := if text.endsWith "Z" then (text.dropEnd 1).toString else text
  match ← numbersBetween ':' text with
  | [h, m] => if h < 24 && m < 60 then some (3600 * h + 60 * m : Nat) else none
  | [h, m, s] => if h < 24 && m < 60 && s < 61 then some (3600 * h + 60 * m + s : Nat) else none
  | _ => none

/-- The seconds at the beginning of a day. -/
def secondsOfDate? (text : String) : Option Int := do
  match ← numbersBetween '-' text with
  | [year, month, day] =>
    let number := dayNumber (year : Int) month day
    let m := Moment.ofSeconds (number * 86400)
    if m.year = year && m.month = month && m.day = day then some (number * 86400) else none
  | _ => none

/-- The time that a text stands for, given the time it is. -/
def timeOf? (now : Int) (text : String) : Option Int :=
  let pieces := (Text.splitAt ' ' text.toList).flatMap fun word =>
    if (word.head?.map Char.isDigit).getD false then Text.splitAt 'T' word else [word]
  let words := (pieces.filter (· ≠ [])).map String.ofList
  match words.filter fun word => word ≠ "UTC" && word ≠ "Z" with
  | [] => some (now.fdiv 86400 * 86400)
  | ["now"] => some now
  | ["today"] => some now
  | ["tomorrow"] => some (now + 86400)
  | ["yesterday"] => some (now - 86400)
  | [word] =>
    if word.startsWith "@" then ((word.drop 1).toString).toInt?
    else
      match secondsOfDate? word, secondsOfDay? word with
      | some time, _ => some time
      | none, some time => some (now.fdiv 86400 * 86400 + time)
      | none, none => none
  | [date, time] => do return (← secondsOfDate? date) + (← secondsOfDay? time)
  | _ => none

end Calendar

/-- Tells the time. -/
def date : Utility :=
  withOptions [flag 'u' ["utc", "universal"], valued 'd' ["date"], flag 'R' ["rfc-email"],
    ⟨'I', ["iso-8601"], .optional, true⟩, valued 'r' ["reference"]] 1 fun c o rest => do
    let now ← Program.askD 0 Unix.timeNow
    let seconds := now.fdiv (Unix.second : Int)
    let time? := match o.value? 'd' with
      | some text => (Calendar.timeOf? seconds text).map fun time => (time, 0)
      | none => some (seconds, (now.fmod (Unix.second : Int)).toNat)
    let plain := match o.has 'R', o.has 'I', (o.value? 'I').getD "" with
      | true, _, _ => "%a, %d %b %Y %T %z"
      | false, true, precision =>
        if precision.startsWith "s" then "%FT%T+00:00" else "%F"
      | false, false, _ => "%a %b %e %H:%M:%S %Z %Y"
    match time?, rest with
    | none, _ => failing c ("invalid date " ++ quotedText ((o.value? 'd').getD "")) 1
    | some _, _ :: second :: _ => misused c ("extra operand " ++ quotedText second) 1
    | some (seconds, nanoseconds), [] =>
      putLine c (Calendar.formatted seconds nanoseconds plain.toList)
      return 0
    | some (seconds, nanoseconds), [word] =>
      match word.toList with
      | '+' :: format =>
        putLine c (Calendar.formatted seconds nanoseconds format)
        return 0
      | _ => failing c ("invalid date " ++ quotedText word) 1

/-! ## Blocks -/

/-- Operands of a copy with names and values, or the first that is none. -/
def copyOperands : List String → Except String (List (String × String))
  | [] => .ok []
  | word :: rest => do
    let cs := word.toList
    let name := cs.takeWhile (· ≠ '=')
    let known := ["if", "of", "bs", "ibs", "obs", "count", "skip", "seek", "conv", "status",
      "iflag", "oflag"]
    if name.length = cs.length || !known.contains (String.ofList name) then .error word
    else
      return (String.ofList name, String.ofList (cs.drop (name.length + 1))) ::
        (← copyOperands rest)

/-- A number of blocks or bytes, which may be a product. -/
def blockCount? (text : String) : Option Nat := do
  let factors ← (Text.splitAt 'x' text.toList).mapM fun part => amount? (String.ofList part)
  return factors.foldl (· * ·) 1

/-- Reads at most so many blocks, and gives them with how many were whole. The fuel bounds how many
there are. -/
def readSomeBlocks (descriptor size : Nat) :
    Nat → Option Nat → Program (List String × Option Errno)
  | 0, _ => Program.diverge
  | _ + 1, some 0 => return ([], none)
  | fuel + 1, left? => do
    match ← Program.ask (Unix.read descriptor size) with
    | .error .interrupted => readSomeBlocks descriptor size fuel left?
    | .error errno => return ([], some errno)
    | .ok "" => return ([], none)
    | .ok text =>
      let (rest, errno?) ← readSomeBlocks descriptor size fuel (left?.map (· - 1))
      return (text :: rest, errno?)

/-- A text with another one written over it from a place on. -/
def overwritten (old : String) (place : Nat) (new : String) (keepsEnd : Bool) : String :=
  let cs := old.toList
  let front := cs.take place
  let gap := List.replicate (place - cs.length) '\x00'
  let behind := if keepsEnd then cs.drop (place + new.length) else []
  String.ofList (front ++ gap ++ new.toList ++ behind)

/-- Copies bytes in blocks. -/
def dd : Utility := fun c => do
  match copyOperands c.arguments with
  | .error word => misused c ("unrecognized operand " ++ quotedText word) 1
  | .ok operands =>
    let value := fun (name : String) => ((operands.filter (·.1 = name)).getLast?).map (·.2)
    let numbers := ["bs", "ibs", "obs", "count", "skip", "seek"].filterMap value
    let words := Text.splitAt ',' ((value "conv").getD "").toList |>.map String.ofList
    let conversions := words.filter (· ≠ "")
    let known := ["notrunc", "ucase", "lcase", "sync", "noerror", "fsync", "fdatasync", "swab"]
    let status := (value "status").getD "default"
    match numbers.find? fun text => (blockCount? text).isNone,
        conversions.find? fun word => !known.contains word with
    | some wrong, _ => failing c ("invalid number: " ++ quotedText wrong) 1
    | none, some wrong => misused c ("invalid conversion: " ++ quotedText wrong) 1
    | none, none =>
      if !(["default", "none", "noxfer", "progress"].contains status) then
        misused c ("invalid status level: " ++ quotedText status) 1
      else
        let number := fun (name : String) (usual : Nat) =>
          ((value name).bind blockCount?).getD usual
        let size := number "bs" (number "ibs" 512)
        let outSize := number "bs" (number "obs" 512)
        let count? := (value "count").bind blockCount?
        let input ← match value "if" with
          | some path => do pure ((← Program.ask (Unix.openFile path .forReading)).mapError
              fun errno => (path, errno))
          | none => pure (.ok 0)
        match input with
        | .error (path, errno) =>
          failing c ("failed to open " ++ quotedAlways path ++ ": " ++ errno.words) 1
        | .ok descriptor =>
          discard (readSomeBlocks descriptor size Program.patience (some (number "skip" 0)))
          let (blocks, errno?) ← readSomeBlocks descriptor size Program.patience count?
          if let some errno := errno? then
            let name := (value "if").getD "standard input"
            complain c ("error reading " ++ quotedAlways name ++ ": " ++ errno.words)
          let text := String.join blocks
          let text := if conversions.contains "ucase" then text.map Char.toUpper
            else if conversions.contains "lcase" then text.map Char.toLower
            else text
          let place := number "seek" 0 * outSize
          let keepsEnd := conversions.contains "notrunc"
          let result ← match value "of" with
            | none => Program.write 1 text
            | some path => do
              let old ← if place = 0 && !keepsEnd then pure ""
                else pure (((← contentOf path).toOption).getD "")
              writeFile path (overwritten old place text keepsEnd) false
          let whole := (blocks.filter fun block => block.length = size).length
          let written := if (value "bs").isSome then (whole, blocks.length - whole)
            else (text.length / outSize, if text.length % outSize = 0 then 0 else 1)
          if status ≠ "none" then
            say (toString whole ++ "+" ++ toString (blocks.length - whole) ++ " records in\n" ++
              toString written.1 ++ "+" ++ toString written.2 ++ " records out\n")
          if status = "default" || status = "progress" then
            say (toString text.length ++ " byte" ++ (if text.length = 1 then "" else "s") ++
              " copied, 0 s, Infinity B/s\n")
          match result with
          | .error errno =>
            match value "of" with
            | some path =>
              failing c ("failed to open " ++ quotedAlways path ++ ": " ++ errno.words) 1
            | none => failing c ("error writing 'standard output': " ++ errno.words) 1
          | .ok () => return if errno?.isSome then 1 else 0

end Shipyard.Utility
