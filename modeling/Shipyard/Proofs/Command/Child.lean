import Shipyard.Command.Child
import Shipyard.Proofs.Text.Utf8

/-!
# What comes of a child

The answer to a request is a result or a fault. `ChildRequest.Escapes` lists the faults: a request
that makes no sense, a time limit that cannot be waited for, and bytes that are no text, whether the
child has succeeded or not. In all other cases `ChildRequest.Gives` says what the result is: that of
a child which has ended is told by its code (`ChildRequest.answer_exact`).
-/

namespace Shipyard

/-! ## Time limits -/

namespace TimeLimit

variable {limit : TimeLimit}

/-- A limit that is not more than some milliseconds is not more than a larger number of them. -/
theorem exceeds_eq_false_of_le {low high : Nat} (hle : low ≤ high)
    (h : limit.exceeds low = false) : limit.exceeds high = false := by
  rcases limit with n | ⟨negative, mantissa, exponent⟩ | negative | _
  · simp only [exceeds, decide_eq_false_iff_not, Int.not_lt] at h ⊢
    omega
  · simp only [exceeds, Bool.and_eq_false_iff] at h ⊢
    refine h.imp_right fun h => ?_
    by_cases hexp : 0 ≤ exponent
    · rw [if_pos hexp, decide_eq_false_iff_not, Nat.not_lt] at h ⊢
      exact Nat.le_trans h hle
    · rw [if_neg hexp, decide_eq_false_iff_not, Nat.not_lt] at h ⊢
      exact Nat.le_trans h (Nat.mul_le_mul_right _ hle)
  · exact h
  · exact h

/-- **Limits that can be waited for** are the numbers of at most `2 ^ 31 - 1` milliseconds, other
than whole ones so far below zero that they are rounded to no finite number. -/
theorem fault?_eq_none_iff (limit : TimeLimit) :
    limit.fault? = none ↔
      limit ≠ .binary .nan ∧ limit.isHuge = false ∧ limit.exceeds waitLimit = false := by
  have hclock : waitLimit ≤ clockLimit := by decide
  have hhuge : waitLimit ≤ leastHuge - 1 := by decide +kernel
  rw [fault?]
  constructor
  · intro h
    by_cases hnumber : limit = .binary .nan
    · rw [if_pos hnumber] at h
      cases h
    rw [if_neg hnumber] at h
    refine ⟨hnumber, ?_⟩
    rcases hfinite : limit.isHuge
    · rcases hshort : limit.exceeds waitLimit
      · exact ⟨rfl, rfl⟩
      · simp only [hfinite, hshort, Bool.false_eq_true, if_false, if_true] at h
        split at h
        · cases h
        · split at h <;> cases h
    · simp [hfinite] at h
  · rintro ⟨hnumber, hfinite, hshort⟩
    rw [if_neg hnumber, hfinite, exceeds_eq_false_of_le hhuge hshort,
      exceeds_eq_false_of_le hclock hshort, hshort]
    rfl

/-- Of the whole numbers of seconds these are the ones up to 2147483, about 25 days. -/
theorem fault?_whole_eq_none_iff (n : Int) :
    (whole n).fault? = none ↔ n.natAbs < leastHuge ∧ n ≤ 2147483 := by
  have hhuge : (whole n).isHuge = false ↔ ¬ leastHuge ≤ n.natAbs := by
    rw [isHuge, decide_eq_false_iff_not]
  have hshort : (whole n).exceeds waitLimit = false ↔ ¬ (2147483647 : Int) < n * 1000 :=
    decide_eq_false_iff_not
  have hnumber : whole n ≠ .binary .nan := nofun
  rw [fault?_eq_none_iff, hhuge, hshort, and_iff_right hnumber]
  omega

end TimeLimit

/-! ## Ends -/

namespace ChildEnd

/-- Whether a child has started. -/
def Started : ChildEnd → Prop
  | notStarted _ => False
  | tookTooLong _ _ | ended _ _ _ => True

/-- Whether the output of a child that has ended is text. -/
def Legible : ChildEnd → Prop
  | notStarted _ | tookTooLong _ _ => True
  | ended _ output errors =>
    (∃ text, output = Utf8.encode text) ∧ ∃ text, errors = Utf8.encode text

/-- The code of a child; -1 if it has not run to its end. -/
def code : ChildEnd → Int
  | notStarted _ | tookTooLong _ _ => -1
  | ended code _ _ => code

end ChildEnd

/-! ## Requests -/

namespace ChildRequest

variable {r : ChildRequest} {child : ChildEnd}

/-- The variables that a child is given. -/
def entries (r : ChildRequest) : Environment := r.env.getD []

/-- Whether a request has a null character somewhere. -/
def HoldsNull (r : ChildRequest) : Prop :=
  (∃ argument ∈ r.argv, '\x00' ∈ argument.toList) ∨ r.cwd.hasNull = true ∨
    ∃ entry ∈ r.entries, '\x00' ∈ entry.1.toList ∨ '\x00' ∈ entry.2.toList

/-- A request that a child can be started for. -/
structure Sensible (r : ChildRequest) : Prop where
  /-- it has a program -/
  program : r.argv ≠ []
  /-- no name of a variable has an equality sign -/
  names : ∀ entry ∈ r.entries, '=' ∉ entry.1.toList
  /-- there are no null characters -/
  plain : ¬ r.HoldsNull

/-- Whether a child can be waited for as long as its limit says. -/
def Waits (r : ChildRequest) : Prop := ∀ limit, r.limit = some limit → limit.fault? = none

theorem any_names_iff : (r.entries.any fun entry => entry.1.toList.contains '=') = true ↔
    ∃ entry ∈ r.entries, '=' ∈ entry.1.toList := by
  simp

theorem any_null_iff : (r.argv.any hasNull || r.cwd.hasNull ||
    r.entries.any fun entry => hasNull entry.1 || hasNull entry.2) = true ↔ r.HoldsNull := by
  simp [HoldsNull, hasNull, or_assoc]

/-- A request is refused for the first of three reasons that it gives. -/
theorem refusal?_eq (r : ChildRequest) [Decidable (∃ entry ∈ r.entries, '=' ∈ entry.1.toList)]
    [Decidable r.HoldsNull] : r.refusal? =
      if r.argv = [] then some .noProgram
      else if ∃ entry ∈ r.entries, '=' ∈ entry.1.toList then some (.refused .variableName)
      else if r.HoldsNull then some (.refused .nullCharacter)
      else none := by
  simp only [← any_names_iff, ← any_null_iff]
  rfl

/-! ## Answers -/

/-- The faults that a request ends with. -/
inductive Escapes (r : ChildRequest) : ChildEnd → Fault → Prop where
  /-- there is no program -/
  | noProgram {child : ChildEnd} (hargv : r.argv = []) : Escapes r child .noProgram
  /-- the name of a variable has an equality sign -/
  | variableName {child : ChildEnd} (hargv : r.argv ≠ [])
    (hname : ∃ entry ∈ r.entries, '=' ∈ entry.1.toList) :
    Escapes r child (.refused .variableName)
  /-- there is a null character -/
  | nullCharacter {child : ChildEnd} (hargv : r.argv ≠ [])
    (hnames : ∀ entry ∈ r.entries, '=' ∉ entry.1.toList) (hnull : r.HoldsNull) :
    Escapes r child (.refused .nullCharacter)
  /-- the child has started, and it cannot be waited for as long as the limit says -/
  | timeLimit {child : ChildEnd} {limit : TimeLimit} {why : LimitFault} (hsensible : r.Sensible)
    (hstarted : child.Started) (hlimit : r.limit = some limit) (hwhy : limit.fault? = some why) :
    Escapes r child (.refused (.timeLimit why))
  /-- the child has ended, and its output is no text -/
  | output {code : Int} {output errors : Bytes} {fault : Utf8.Fault} (hsensible : r.Sensible)
    (hwaits : r.Waits) (houtput : Utf8.decode output = .error fault) :
    Escapes r (.ended code output errors) (.undecodable fault)
  /-- its output is text, but what it wrote about errors is not -/
  | errors {code : Int} {text : String} {errors : Bytes} {fault : Utf8.Fault}
    (hsensible : r.Sensible) (hwaits : r.Waits) (herrors : Utf8.decode errors = .error fault) :
    Escapes r (.ended code (Utf8.encode text) errors) (.undecodable fault)

/-- The results that a request ends with. -/
inductive Gives (r : ChildRequest) : ChildEnd → Except CommandFailure String → Prop where
  /-- the child has not started -/
  | notStarted {message : String} (hsensible : r.Sensible) :
    Gives r (.notStarted message) (.error ⟨r.argv, -1, "", message⟩)
  /-- it has taken too long -/
  | tookTooLong {output errors : Bytes} (hsensible : r.Sensible) (hwaits : r.Waits) :
    Gives r (.tookTooLong output errors) (.error ⟨r.argv, -1, "",
      "Command timed out after " ++ (r.limit.map TimeLimit.text).getD "None" ++ "s"⟩)
  /-- it has succeeded -/
  | succeeded {text notes : String} (hsensible : r.Sensible) (hwaits : r.Waits) :
    Gives r (.ended 0 (Utf8.encode text) (Utf8.encode notes)) (.ok (Text.unixLines text))
  /-- it has failed -/
  | failed {code : Int} {text notes : String} (hsensible : r.Sensible) (hwaits : r.Waits)
    (hcode : code ≠ 0) :
    Gives r (.ended code (Utf8.encode text) (Utf8.encode notes))
      (.error ⟨r.argv, code, Text.unixLines text, Text.unixLines notes⟩)

theorem textOf_encode (text : String) : textOf (Utf8.encode text) = .ok (Text.unixLines text) := by
  rw [textOf, Utf8.decode_encode]

theorem textOf_of_error {bytes : Bytes} {fault : Utf8.Fault}
    (h : Utf8.decode bytes = .error fault) : textOf bytes = .error (.undecodable fault) := by
  rw [textOf, h]

/-- Bytes are a text or they are not. -/
theorem decode_cases (bytes : Bytes) :
    (∃ fault, Utf8.decode bytes = .error fault) ∨ ∃ text, bytes = Utf8.encode text := by
  rcases hdecode : Utf8.decode bytes with fault | text
  · exact .inl ⟨fault, rfl⟩
  · exact .inr ⟨text, Utf8.decode_eq_ok_iff.mp hdecode⟩

theorem await_of_waits (h : r.Waits) : r.await = .ok () := by
  rcases hlimit : r.limit with _ | limit
  · rw [await, hlimit]
    rfl
  · rw [await, hlimit, Option.bind_some, h limit hlimit]

theorem await_of_fault {limit : TimeLimit} {why : LimitFault} (hlimit : r.limit = some limit)
    (hwhy : limit.fault? = some why) : r.await = .error (.refused (.timeLimit why)) := by
  rw [await, hlimit, Option.bind_some, hwhy]

/-- A child can be waited for, or there is a reason why not. -/
theorem waits_or_fault (r : ChildRequest) :
    r.Waits ∨ ∃ limit why, r.limit = some limit ∧ limit.fault? = some why := by
  rcases hlimit : r.limit with _ | limit
  · refine .inl fun limit h => ?_
    cases hlimit.symm.trans h
  · rcases hwhy : limit.fault? with _ | why
    · refine .inl fun limit' h => ?_
      obtain rfl := Option.some.inj (hlimit.symm.trans h)
      exact hwhy
    · exact .inr ⟨limit, why, rfl, hwhy⟩

/-- Of a request that makes sense the answer is that of its child. -/
theorem answer_of_sensible (h : r.Sensible) (child : ChildEnd) :
    r.answer child = r.answerOf child := by
  classical
  rw [answer, refusal?_eq, if_neg h.program, if_neg (by simpa using h.names), if_neg h.plain]

theorem escapes_or_gives (r : ChildRequest) (child : ChildEnd) :
    (∃ fault, Escapes r child fault) ∨ ∃ result, Gives r child result := by
  by_cases hargv : r.argv = []
  · exact .inl ⟨_, .noProgram hargv⟩
  by_cases hname : ∃ entry ∈ r.entries, '=' ∈ entry.1.toList
  · exact .inl ⟨_, .variableName hargv hname⟩
  have hnames : ∀ entry ∈ r.entries, '=' ∉ entry.1.toList := by simpa using hname
  by_cases hnull : r.HoldsNull
  · exact .inl ⟨_, .nullCharacter hargv hnames hnull⟩
  have hsensible : r.Sensible := ⟨hargv, hnames, hnull⟩
  cases child with
  | notStarted message => exact .inr ⟨_, .notStarted hsensible⟩
  | tookTooLong output errors =>
    rcases r.waits_or_fault with hwaits | ⟨limit, why, hlimit, hwhy⟩
    · exact .inr ⟨_, .tookTooLong hsensible hwaits⟩
    · exact .inl ⟨_, .timeLimit hsensible trivial hlimit hwhy⟩
  | ended code output errors =>
    rcases r.waits_or_fault with hwaits | ⟨limit, why, hlimit, hwhy⟩
    case inr => exact .inl ⟨_, .timeLimit hsensible trivial hlimit hwhy⟩
    rcases decode_cases output with ⟨fault, houtput⟩ | ⟨text, rfl⟩
    · exact .inl ⟨_, .output hsensible hwaits houtput⟩
    rcases decode_cases errors with ⟨fault, herrors⟩ | ⟨notes, rfl⟩
    · exact .inl ⟨_, .errors hsensible hwaits herrors⟩
    by_cases hcode : code = 0
    · subst hcode
      exact .inr ⟨_, .succeeded hsensible hwaits⟩
    · exact .inr ⟨_, .failed hsensible hwaits hcode⟩

theorem answer_of_escapes {fault : Fault} (h : Escapes r child fault) :
    r.answer child = .error fault := by
  classical
  cases h with
  | noProgram hargv => rw [answer, refusal?_eq, if_pos hargv]
  | variableName hargv hname => rw [answer, refusal?_eq, if_neg hargv, if_pos hname]
  | nullCharacter hargv hnames hnull =>
    rw [answer, refusal?_eq, if_neg hargv, if_neg (by simpa using hnames), if_pos hnull]
  | timeLimit hsensible hstarted hlimit hwhy =>
    rw [answer_of_sensible hsensible]
    cases child with
    | notStarted message => exact hstarted.elim
    | tookTooLong output errors =>
      rw [answerOf, await_of_fault hlimit hwhy]
      rfl
    | ended code output errors =>
      rw [answerOf, await_of_fault hlimit hwhy]
      rfl
  | output hsensible hwaits houtput =>
    rw [answer_of_sensible hsensible, answerOf, await_of_waits hwaits, textOf_of_error houtput]
    rfl
  | errors hsensible hwaits herrors =>
    rw [answer_of_sensible hsensible, answerOf, await_of_waits hwaits, textOf_encode,
      textOf_of_error herrors]
    rfl

theorem answer_of_gives {result : Except CommandFailure String} (h : Gives r child result) :
    r.answer child = .ok result := by
  cases h with
  | notStarted hsensible =>
    rw [answer_of_sensible hsensible]
    rfl
  | tookTooLong hsensible hwaits =>
    rw [answer_of_sensible hsensible, answerOf, await_of_waits hwaits]
    rfl
  | succeeded hsensible hwaits =>
    rw [answer_of_sensible hsensible, answerOf, await_of_waits hwaits, textOf_encode,
      textOf_encode]
    rfl
  | failed hsensible hwaits hcode =>
    rw [answer_of_sensible hsensible, answerOf, await_of_waits hwaits, textOf_encode,
      textOf_encode]
    simp only [if_neg hcode]
    rfl

/-- Nothing escapes if the request makes sense, its limit can be waited for, and the output is text.
-/
theorem not_escapes {fault : Fault} (hsensible : r.Sensible) (hwaits : child.Started → r.Waits)
    (hlegible : child.Legible) : ¬ Escapes r child fault := by
  intro h
  cases h with
  | noProgram hargv => exact hsensible.program hargv
  | variableName _ hname =>
    obtain ⟨entry, hmem, hentry⟩ := hname
    exact hsensible.names entry hmem hentry
  | nullCharacter _ _ hnull => exact hsensible.plain hnull
  | timeLimit _ hstarted hlimit hwhy => cases (hwaits hstarted _ hlimit).symm.trans hwhy
  | output _ _ houtput =>
    obtain ⟨⟨text, rfl⟩, -⟩ := hlegible
    rw [Utf8.decode_encode] at houtput
    cases houtput
  | errors _ _ herrors =>
    obtain ⟨-, notes, rfl⟩ := hlegible
    rw [Utf8.decode_encode] at herrors
    cases herrors

/-- A result is a text exactly if the child has ended with the code zero. -/
theorem Gives.isText_iff {result : Except CommandFailure String} (h : Gives r child result) :
    (∃ text, result = .ok text) ↔ ∃ output errors, child = .ended 0 output errors := by
  cases h with
  | notStarted | tookTooLong => simp
  | succeeded => simp
  | failed _ _ hcode => simp [hcode]

/-- A failure has the command of its request and the code of the child. -/
theorem Gives.of_failure {failure : CommandFailure} (h : Gives r child (.error failure)) :
    failure.argv = r.argv ∧ failure.code = child.code := by
  cases h with
  | notStarted | tookTooLong | failed => exact ⟨rfl, rfl⟩

/-! ## Results -/

/-- A script that may take a minute. -/
def minute : ChildRequest :=
  ⟨["sh", "-c", "echo done"], ⟨.relative, []⟩, some [("PATH", "/usr/bin:/bin")], some (.whole 60)⟩

theorem sensible_minute : minute.Sensible where
  program := nofun
  names := by decide
  plain := by
    simp [HoldsNull, minute, entries]
    decide

theorem waits_minute : minute.Waits := by
  rintro limit ⟨⟩
  exact (TimeLimit.fault?_whole_eq_none_iff 60).mpr (by decide +kernel)

/-- **What comes of a child.** A request ends with a fault exactly for the reasons of `Escapes`, and
in all other cases with what `Gives` says. So there is always a result if the request makes sense,
its limit can be waited for, and the child writes text; then the result is the output exactly if the
child has ended with the code zero, and else a failure with the command and the code. -/
theorem answer_exact (r : ChildRequest) (child : ChildEnd) :
    (∀ fault, r.answer child = .error fault ↔ Escapes r child fault) ∧
    (∀ result, r.answer child = .ok result ↔ Gives r child result) ∧
    (r.Sensible → (child.Started → r.Waits) → child.Legible →
      ∃ result, r.answer child = .ok result ∧
        ((∃ text, result = .ok text) ↔ ∃ output errors, child = .ended 0 output errors) ∧
        ∀ failure, result = .error failure →
          failure.argv = r.argv ∧ failure.code = child.code) := by
  rcases escapes_or_gives r child with ⟨fault, hescapes⟩ | ⟨result, hgives⟩
  · have hanswer := answer_of_escapes hescapes
    refine ⟨fun fault' => ⟨fun h => ?_, answer_of_escapes⟩,
      fun result => ⟨fun h => ?_, answer_of_gives⟩, fun hsensible hwaits hlegible => ?_⟩
    · obtain rfl := Except.error.inj (hanswer.symm.trans h)
      exact hescapes
    · cases hanswer.symm.trans h
    · exact absurd hescapes (not_escapes hsensible hwaits hlegible)
  · have hanswer := answer_of_gives hgives
    refine ⟨fun fault => ⟨fun h => ?_, answer_of_escapes⟩,
      fun result' => ⟨fun h => ?_, answer_of_gives⟩, fun _ _ _ => ?_⟩
    · cases hanswer.symm.trans h
    · obtain rfl := Except.ok.inj (hanswer.symm.trans h)
      exact hgives
    · refine ⟨result, hanswer, hgives.isText_iff, ?_⟩
      rintro failure rfl
      exact hgives.of_failure

/-- A script that ends with the code 3 is a failure with its command. -/
theorem answer_exact_minute :
    ∃ failure, minute.answer (.ended 3 (Utf8.encode "done\n") (Utf8.encode "")) =
      .ok (.error failure) ∧ failure.argv = ["sh", "-c", "echo done"] ∧ failure.code = 3 := by
  obtain ⟨result, hanswer, htext, hfailure⟩ :=
    (answer_exact minute (.ended 3 (Utf8.encode "done\n") (Utf8.encode ""))).2.2 sensible_minute
      (fun _ => waits_minute) ⟨⟨_, rfl⟩, _, rfl⟩
  rcases result with failure | text
  · exact ⟨failure, hanswer, hfailure failure rfl⟩
  · obtain ⟨_, _, hended⟩ := htext.mp ⟨text, rfl⟩
    cases hended

/-- **Bytes that are no text.** When it succeeds, and writes a byte about errors that starts no
character, there is no result. -/
theorem no_result_of_blurred_errors :
    minute.Sensible ∧ minute.Waits ∧
      ∀ result, minute.answer (.ended 0 (Utf8.encode "done\n") [0xFF]) ≠ .ok result := by
  refine ⟨sensible_minute, waits_minute, fun result h => ?_⟩
  rw [answer_of_escapes (.errors sensible_minute waits_minute rfl)] at h
  cases h

end ChildRequest

end Shipyard
