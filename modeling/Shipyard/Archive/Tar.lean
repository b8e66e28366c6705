import Shipyard.Archive.Basic
import Shipyard.Archive.Deflate
import Shipyard.Text.CharClass

/-!
# Compressed tape archives

A tape archive is a list of blocks of 512 bytes: for each member a header and the content, and at
the end empty blocks. A name or a time that does not fit into the header stands in a record of its
own in front of it. The archive is written as one compressed stream.
-/

namespace Shipyard.Archive.Tar

/-- The bytes of a block. -/
def blockSize : Nat := 512

/-- Bytes with zeros behind them up to a multiple of a size. -/
def padTo (size : Nat) (bytes : Bytes) : Bytes :=
  bytes ++ List.replicate ((size - bytes.length % size) % size) 0

/-- Bytes with zeros behind them up to a width; what is too long is cut. -/
def field (width : Nat) (bytes : Bytes) : Bytes :=
  bytes.take width ++ List.replicate (width - bytes.length) 0

/-- The octal digits of a number. -/
def octalDigits : Nat → Nat → List Char
  | 0, _ => []
  | width + 1, n => octalDigits width (n / 8) ++ [Char.ofNat (48 + n % 8)]

/-- The bytes of ASCII characters. -/
def asciiBytes (cs : List Char) : Bytes := cs.map fun c => UInt8.ofNat c.toNat

/-- A number in a header: octal digits and a zero byte. -/
def octal (width n : Nat) : Bytes := asciiBytes (octalDigits (width - 1) n) ++ [0]

/-- The first time that does not fit into a header. -/
def timeLimit : Nat := Nat.pow 8 11

/-- A header. The check sum is the sum of all bytes, with blanks in its own place. -/
def header (name : Bytes) (mode size modified : Nat) (kind : Char) : Bytes :=
  let front := field 100 name ++ octal 8 mode ++ octal 8 0 ++ octal 8 0 ++ octal 12 size ++
    octal 12 modified
  let back := asciiBytes [kind] ++ field 100 [] ++ asciiBytes "ustar".toList ++ [0] ++
    asciiBytes ['0', '0'] ++ field 247 []
  let sum := (front ++ List.replicate 8 0x20 ++ back).foldl (fun n (b : UInt8) => n + b.toNat) 0
  front ++ asciiBytes (octalDigits 6 sum) ++ [0, 0x20] ++ back

/-- The length of a record that counts itself, for a body without the count. -/
def recordLength (body : Nat) : Nat :=
  let guess := body + (toString body).length
  body + (toString guess).length

/-- A record in front of a header: its length, a key, and a value. -/
def record (key : String) (value : Bytes) : Bytes :=
  let body := Utf8.encode (" " ++ key ++ "=") ++ value ++ [0x0A]
  asciiBytes (toString (recordLength body.length)).toList ++ body

/-- Whether a name fits into a header. -/
def nameFits (name : Bytes) : Bool := name.length ≤ 100 && name.all (· < 0x80)

/-- Whether a time fits into a header. -/
def timeFits (modified : Int) : Bool := 0 ≤ modified && modified < timeLimit

/-- The records that a member needs. -/
def recordsOf (m : Member) : Bytes :=
  let name := Utf8.encode m.name
  (if nameFits name then [] else record "path" name) ++
    (if timeFits m.modified then [] else record "mtime" (Utf8.encode (toString m.modified)))

/-- A tape archive with one member. -/
def write (m : Member) : Bytes :=
  let records := recordsOf m
  let front :=
    if records = [] then []
    else padTo blockSize (header (Utf8.encode "././@PaxHeader") 0 records.length 0 'x' ++ records)
  let time := if timeFits m.modified then m.modified.toNat else 0
  let body := header (Utf8.encode m.name) m.mode m.content.length time '0' ++ m.content
  padTo (20 * blockSize) (front ++ padTo blockSize body ++ List.replicate (2 * blockSize) 0)

/-- Bytes as a compressed stream. -/
def gzip (content : Bytes) : Bytes :=
  [0x1F, 0x8B, 8, 0, 0, 0, 0, 0, 2, 0xFF] ++ deflate content ++
    littleEndian 4 (crc32 content).toNat ++ littleEndian 4 content.length

/-- A compressed archive with one member. -/
def pack (m : Member) : Bytes := gzip (write m)

/-! ## Reading -/

/-- What an archive says of a member. -/
structure Entry where
  /-- the name -/
  name : String
  /-- whether it is a regular file -/
  isRegular : Bool
  /-- when it was changed -/
  modified : Int
  /-- the permission bits -/
  mode : Nat
  /-- the content -/
  content : Bytes
  deriving DecidableEq, Repr

/-- The number of octal digits. -/
def ofOctal (bytes : Bytes) : Nat :=
  (bytes.takeWhile fun b => 0x30 ≤ b && b ≤ 0x37).foldl (fun n b => 8 * n + (b.toNat - 48)) 0

/-- The fields of the records in front of a header, each with its key. -/
def readRecords : Nat → Bytes → List (Bytes × Bytes)
  | 0, _ => []
  | fuel + 1, bytes =>
    let digits := bytes.takeWhile fun b => 0x30 ≤ b && b ≤ 0x39
    let length := digits.foldl (fun n b => 10 * n + (b.toNat - 48)) 0
    if length ≤ digits.length + 1 then []
    else
      let body := ((bytes.take length).drop (digits.length + 1)).dropLast
      let key := body.takeWhile (· ≠ 0x3D)
      (key, body.drop (key.length + 1)) :: readRecords fuel (bytes.drop length)

/-- The members from a place on, with the records in front of the first. -/
def entriesFrom? (records : List (Bytes × Bytes)) : Nat → Bytes → Option (List Entry)
  | 0, _ => none
  | fuel + 1, bytes => do
    let head := bytes.take blockSize
    if head.all (· = 0) then return []
    let size := ofOctal (part 124 12 head)
    let content := part blockSize size bytes
    let rest := bytes.drop (blockSize + (size + blockSize - 1) / blockSize * blockSize)
    let kind := numberAt 156 1 head
    if kind = 'x'.toNat then entriesFrom? (readRecords size content) fuel rest
    else
      let name ← textOf? ((records.lookup (Utf8.encode "path")).getD
        ((head.take 100).takeWhile (· ≠ 0)))
      let modified :=
        match records.lookup (Utf8.encode "mtime") with
        | some digits => ((textOf? digits).bind String.toInt?).getD 0
        | none => ofOctal (part 136 12 head)
      let entry : Entry := ⟨name, kind = '0'.toNat, modified, ofOctal (part 100 8 head), content⟩
      return entry :: (← entriesFrom? [] fuel rest)

/-- The content of a compressed stream. -/
def gunzip? (bytes : Bytes) : Option Bytes := inflate? ((bytes.drop 10).take (bytes.length - 18))

/-- The members of a compressed archive. -/
def entries? (archive : Bytes) : Option (List Entry) := do
  let bytes ← gunzip? archive
  entriesFrom? [] bytes.length bytes

end Shipyard.Archive.Tar
