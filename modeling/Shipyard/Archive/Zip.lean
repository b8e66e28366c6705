import Shipyard.Archive.Basic
import Shipyard.Archive.Calendar
import Shipyard.Archive.Deflate

/-!
# Zip archives

A zip archive holds its members one after another, each behind a header, then a directory that
repeats the headers with the place of each member, and last the place of the directory. The date of
a member is one between 1980 and 2107; an earlier or later one is written as the first or last of
these.
-/

namespace Shipyard.Archive.Zip

/-- The number of the method that deflates. -/
def deflated : Nat := 8

/-- The first date of the format. -/
def firstMoment : Moment := ⟨1980, 1, 1, 0, 0, 0⟩

/-- The last date of the format. -/
def lastMoment : Moment := ⟨2107, 12, 31, 23, 59, 59⟩

/-- The date that stands for a time of the last change. -/
def momentOf (modified : Int) : Moment :=
  let moment := Moment.ofSeconds modified
  if moment.year < 1980 then firstMoment else if 2107 < moment.year then lastMoment else moment

/-- A time of day as a number with seconds in steps of two. -/
def timeNumber (m : Moment) : Nat := m.hour * 2048 + m.minute * 32 + m.second / 2

/-- A date as a number. -/
def dateNumber (m : Moment) : Nat := (m.year - 1980).toNat * 512 + m.month * 32 + m.day

/-- The date and time of their two numbers. -/
def momentOfNumbers (date time : Nat) : Moment :=
  ⟨date / 512 + 1980, date / 32 % 16, date % 32, time / 2048, time / 32 % 64, time % 32 * 2⟩

/-- The flag of a name that is no ASCII. -/
def nameFlag (name : Bytes) : Nat := if name.all (· < 0x80) then 0 else 0x800

/-- The part of a header that a member shares with its entry in the directory. -/
def commonHeader (m : Member) (packed : Bytes) : Bytes :=
  let name := Utf8.encode m.name
  let moment := momentOf m.modified
  littleEndian 2 20 ++ littleEndian 2 (nameFlag name) ++ littleEndian 2 deflated ++
    littleEndian 2 (timeNumber moment) ++ littleEndian 2 (dateNumber moment) ++
    littleEndian 4 (crc32 m.content).toNat ++ littleEndian 4 packed.length ++
    littleEndian 4 m.content.length ++ littleEndian 2 name.length ++ littleEndian 2 0

/-- The signature of a member. -/
def memberSignature : Bytes := [0x50, 0x4B, 3, 4]

/-- The signature of an entry in the directory. -/
def entrySignature : Bytes := [0x50, 0x4B, 1, 2]

/-- The signature of the end. -/
def endSignature : Bytes := [0x50, 0x4B, 5, 6]

/-- The bit of a regular file in the kind of a file. -/
def regularFile : Nat := 0o100000

/-- An archive with one member. -/
def pack (m : Member) : Bytes :=
  let name := Utf8.encode m.name
  let packed := deflate m.content
  let header := commonHeader m packed
  let body := memberSignature ++ header ++ name ++ packed
  let entry := entrySignature ++ [20, 3] ++ header ++ littleEndian 6 0 ++
    littleEndian 4 ((regularFile + m.mode) * 65536) ++ littleEndian 4 0 ++ name
  body ++ entry ++ endSignature ++ littleEndian 4 0 ++ littleEndian 2 1 ++ littleEndian 2 1 ++
    littleEndian 4 entry.length ++ littleEndian 4 body.length ++ littleEndian 2 0

/-! ## Reading -/

/-- What an archive says of a member. -/
structure Entry where
  /-- the name -/
  name : String
  /-- whether the content is deflated -/
  isDeflated : Bool
  /-- the date -/
  moment : Moment
  /-- the permission bits -/
  mode : Nat
  /-- the content -/
  content : Bytes
  deriving DecidableEq, Repr

/-- The bytes of the end of an archive. -/
def endSize : Nat := 22

/-- The content of the member at a place. -/
def contentAt? (archive : Bytes) (place size : Nat) (isDeflated : Bool) : Option Bytes :=
  let member := archive.drop place
  if member.take 4 ≠ memberSignature then none
  else
    let packed := part (30 + numberAt 26 2 member + numberAt 28 2 member) size member
    if isDeflated then inflate? packed else some packed

/-- So many entries of a directory. -/
def entriesFrom? (archive : Bytes) : Nat → Bytes → Option (List Entry)
  | 0, _ => some []
  | count + 1, bytes => do
    if bytes.take 4 ≠ entrySignature then none
    let isDeflated := numberAt 10 2 bytes = deflated
    let nameLength := numberAt 28 2 bytes
    let name ← textOf? (part 46 nameLength bytes)
    let content ← contentAt? archive (numberAt 42 4 bytes) (numberAt 20 4 bytes) isDeflated
    let moment := momentOfNumbers (numberAt 14 2 bytes) (numberAt 12 2 bytes)
    let mode := numberAt 38 4 bytes / 65536 % 0o10000
    let size := 46 + nameLength + numberAt 30 2 bytes + numberAt 32 2 bytes
    let rest ← entriesFrom? archive count (bytes.drop size)
    return ⟨name, isDeflated, moment, mode, content⟩ :: rest

/-- The members of an archive. -/
def entries? (archive : Bytes) : Option (List Entry) :=
  let tail := archive.drop (archive.length - endSize)
  if tail.take 4 ≠ endSignature then none
  else entriesFrom? archive (numberAt 10 2 tail) (archive.drop (numberAt 16 4 tail))

end Shipyard.Archive.Zip
