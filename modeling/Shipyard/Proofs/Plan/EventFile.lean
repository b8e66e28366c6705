import Shipyard.Plan.Event
import Shipyard.Proofs.Data.Json
import Shipyard.Proofs.FileSystem.Content

/-!
# What an event file gives

A path that is denied, a text that is no JSON and a payload that announces no release are all
rejected with a value (`ReleaseEvent.load_exact`). What is not is told by `Escapes`: a path that no
file system is asked for, bytes that are no text, and a text that is JSON but too large for its
reader.
-/

namespace Shipyard.ReleaseEvent

open FileSystem Disk

variable {fs : FileSystem} {path : Path} {name revision : Option String}

/-- The faults that end the reading of an event. -/
inductive Escapes (fs : FileSystem) (path : Path) : Fault → Prop where
  /-- the path holds a null character -/
  | null (hnull : path.hasNull = true) : Escapes fs path (.refused .nullCharacter)
  /-- the file holds bytes that are no text -/
  | undecodable {content : Bytes} {fault : Utf8.Fault} (hholds : fs.Holds path content)
    (hdecode : Utf8.decode content = .error fault) : Escapes fs path (.undecodable fault)
  /-- an integer of the text has too many digits -/
  | hugeInteger {s : String} {n : Nat} (hholds : fs.Holds path (Utf8.encode s))
    (hread : Json.read (Text.unixLines s) = .error (.hugeInteger n)) :
    Escapes fs path (.refused (.hugeInteger n))
  /-- the text is nested too deep -/
  | tooDeep {s : String} {innermost : Json.Container} (hholds : fs.Holds path (Utf8.encode s))
    (hread : Json.read (Text.unixLines s) = .error (.tooDeep innermost)) :
    Escapes fs path (.tooDeep (Json.tooDeepMessage innermost))

/-- What is said of an event file. -/
inductive Judges (fs : FileSystem) (path : Path) (name revision : Option String) :
    Except UnrecognizedEvent ReleaseEvent → Prop where
  /-- the file is denied -/
  | denied {errno : Errno} (hdenies : fs.Denies path errno) :
    Judges fs path name revision (.error ⟨"cannot read event payload: " ++ path.text,
      some (OsError.message ⟨errno, .path path.text⟩)⟩)
  /-- its text is no JSON -/
  | noJson {s : String} {reason : Json.Reason} {position : Nat}
    (hholds : fs.Holds path (Utf8.encode s))
    (hread : Json.read (Text.unixLines s) = .error (.malformed reason position)) :
    Judges fs path name revision (.error ⟨"event payload is not valid JSON: " ++
      Json.describe (Text.unixLines s) reason position, none⟩)
  /-- its value is no table -/
  | noTable {s : String} {v : Value} (hholds : fs.Holds path (Utf8.encode s))
    (hread : Json.read (Text.unixLines s) = .ok v) (htable : v.asTable? = none) :
    Judges fs path name revision (.error ⟨"event payload must be a JSON object", none⟩)
  /-- it has a payload -/
  | payload {s : String} {v : Value} {payload : Table} (hholds : fs.Holds path (Utf8.encode s))
    (hread : Json.read (Text.unixLines s) = .ok v) (htable : v.asTable? = some payload) :
    Judges fs path name revision (ofPayload payload name revision)

/-! ## Each file -/

/-- A text that can be read is judged, or its reader refuses it as too large. -/
theorem escapes_or_judges_of_holds {s : String} (name revision : Option String)
    (hholds : fs.Holds path (Utf8.encode s)) :
    (∃ fault, Escapes fs path fault) ∨ ∃ verdict, Judges fs path name revision verdict := by
  rcases hread : Json.read (Text.unixLines s) with fault | v
  · cases fault with
    | malformed => exact .inr ⟨_, .noJson hholds hread⟩
    | hugeInteger => exact .inl ⟨_, .hugeInteger hholds hread⟩
    | tooDeep => exact .inl ⟨_, .tooDeep hholds hread⟩
  · rcases htable : v.asTable? with _ | payload
    · exact .inr ⟨_, .noTable hholds hread htable⟩
    · exact .inr ⟨_, .payload hholds hread htable⟩

theorem escapes_or_judges (fs : FileSystem) (path : Path) (name revision : Option String) :
    (∃ fault, Escapes fs path fault) ∨ ∃ verdict, Judges fs path name revision verdict := by
  rcases reading_cases fs path with hnull | ⟨errno, hdenies⟩ | ⟨content, hholds⟩
  · exact .inl ⟨_, .null hnull⟩
  · exact .inr ⟨_, .denied hdenies⟩
  · rcases hdecode : Utf8.decode content with fault | s
    · exact .inl ⟨_, .undecodable hholds hdecode⟩
    · obtain rfl := Utf8.decode_eq_ok_iff.mp hdecode
      exact escapes_or_judges_of_holds name revision hholds

/-! ## Reading -/

/-- What is said of the value of a text. -/
def ofAnswer (name revision : Option String) :
    Except Fault (Except String Value) → Except Fault (Except UnrecognizedEvent ReleaseEvent)
  | .error fault => .error fault
  | .ok (.error what) => .ok (.error ⟨"event payload is not valid JSON: " ++ what, none⟩)
  | .ok (.ok v) =>
    match v.asTable? with
    | none => .ok (.error ⟨"event payload must be a JSON object", none⟩)
    | some payload => .ok (ofPayload payload name revision)

/-- Behind the text of a file everything depends on its JSON. -/
theorem runOn_load_of_holds {s : String} (hholds : fs.Holds path (Utf8.encode s)) :
    runOn (load path name revision) fs =
      (ofAnswer name revision (Value.ofJson (Text.unixLines s)), fs) := by
  rw [load, runOn_bind_ok (runOn_attempt_eq_ok.mpr (runOn_readText_of_holds hholds)),
    ofAnswer.eq_def]
  dsimp only
  rcases Value.ofJson (Text.unixLines s) with fault | what | v
  · rfl
  · rfl
  · dsimp only
    rcases v.asTable? with _ | payload
    · rfl
    · rfl

theorem runOn_load_of_escapes {fault : Fault} (h : Escapes fs path fault) :
    runOn (load path name revision) fs = (.error fault, fs) := by
  cases h with
  | null hnull =>
    have hread : runOn (readText path) fs = (.error (.refused .nullCharacter), fs) :=
      runOn_readText_of_error (runOn_readBytes_of_hasNull hnull)
    rw [load, runOn_bind_error]
    rw [runOn_attempt, hread]
  | undecodable hholds hdecode =>
    rw [load, runOn_bind_error]
    rw [runOn_attempt, runOn_readText_of_undecodable hholds hdecode]
  | hugeInteger hholds hread => rw [runOn_load_of_holds hholds, Value.ofJson, hread, ofAnswer]
  | tooDeep hholds hread => rw [runOn_load_of_holds hholds, Value.ofJson, hread, ofAnswer]

theorem runOn_load_of_judges {verdict : Except UnrecognizedEvent ReleaseEvent}
    (h : Judges fs path name revision verdict) :
    runOn (load path name revision) fs = (.ok verdict, fs) := by
  cases h with
  | @denied errno hdenies =>
    have hread : runOn (attempt (readText path)) fs =
        (.ok (.error ⟨errno, .path path.text⟩), fs) := by
      rw [runOn_attempt, runOn_readText_of_error (runOn_readBytes_of_denies hdenies)]
      rfl
    rw [load, runOn_bind_ok hread]
    rfl
  | noJson hholds hread => rw [runOn_load_of_holds hholds, Value.ofJson, hread, ofAnswer]
  | noTable hholds hread htable =>
    rw [runOn_load_of_holds hholds, Value.ofJson, hread]
    dsimp only [ofAnswer]
    rw [htable]
  | payload hholds hread htable =>
    rw [runOn_load_of_holds hholds, Value.ofJson, hread]
    dsimp only [ofAnswer]
    rw [htable]

/-- Nothing escapes if the path can be asked for, and what can be read there is a text that keeps
the limits of JSON. -/
theorem not_escapes {fault : Fault} (hnull : path.hasNull = false) (hlegible : fs.Legible path)
    (hkept : ∀ s, fs.Holds path (Utf8.encode s) → Json.limits.Kept s.toList) :
    ¬ Escapes fs path fault := by
  intro h
  cases h with
  | null h => cases hnull.symm.trans h
  | undecodable hholds hdecode =>
    obtain ⟨s, rfl⟩ := hlegible _ hholds
    rw [Utf8.decode_encode] at hdecode
    cases hdecode
  | hugeInteger hholds hread =>
    cases (Json.kept_unixLines (hkept _ hholds)).excess (Json.explains_of_read hread)
  | tooDeep hholds hread =>
    cases (Json.kept_unixLines (hkept _ hholds)).excess (Json.explains_of_read hread)

/-- **What an event file gives.** Reading it changes no file. It ends with a fault exactly for the
four reasons of `Escapes`, and in all other cases with the verdict that the file deserves. So there
is a verdict for every path without a null character, whatever is there, if what can be read is a
text in which no integer has too many digits and not too much is nested. -/
theorem load_exact (fs : FileSystem) (path : Path) (name revision : Option String) :
    ∃ result, runOn (load path name revision) fs = (result, fs) ∧
      (∀ fault, result = .error fault ↔ Escapes fs path fault) ∧
      (∀ verdict, result = .ok verdict ↔ Judges fs path name revision verdict) ∧
      (path.hasNull = false → fs.Legible path →
        (∀ s, fs.Holds path (Utf8.encode s) → Json.limits.Kept s.toList) →
        ∃ verdict, result = .ok verdict) := by
  obtain ⟨result, hrun, hfault, hverdict⟩ := exists_result
    (escapes_or_judges fs path name revision) (fun _ => runOn_load_of_escapes)
    fun _ => runOn_load_of_judges
  refine ⟨result, hrun, hfault, hverdict, fun hnull hlegible hkept => ?_⟩
  rcases result with fault | verdict
  · exact absurd ((hfault fault).mp rfl) (not_escapes hnull hlegible hkept)
  · exact ⟨verdict, rfl⟩

/-! ## A file without a verdict -/

/-- An event file at the root. -/
def blurredPath : Path := ⟨.root, ["event.json"]⟩

/-- Its only byte starts no character. -/
def blurredFiles : FileSystem :=
  (FileSystem.empty []).put ["event.json"] (.file ⟨[0xFF], newFileMode, 0⟩)

/-- **Bytes that are no text.** The file can be read, and there is no verdict. -/
theorem blurred_without_verdict : blurredFiles.Holds blurredPath [0xFF] ∧
    ∀ verdict, (runOn (load blurredPath none none) blurredFiles).1 ≠ .ok verdict := by
  have hnode : blurredFiles.node? ["event.json"] = some (.file ⟨[0xFF], newFileMode, 0⟩) := by
    rw [blurredFiles, node?_put _ _ _ (by decide)]
    exact if_pos rfl
  have hholds : blurredFiles.Holds blurredPath [0xFF] :=
    ⟨["event.json"], _, rfl, hnode, rfl, rfl⟩
  refine ⟨hholds, fun verdict h => ?_⟩
  rw [runOn_load_of_escapes (.undecodable hholds rfl)] at h
  cases h

end Shipyard.ReleaseEvent
