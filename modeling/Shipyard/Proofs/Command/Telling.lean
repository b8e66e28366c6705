import Shipyard.Proofs.Command.Action
import Shipyard.Proofs.FileSystem.Disk
import Shipyard.Proofs.Path
import Shipyard.Proofs.Text.Lines

/-!
# What actions tell

A step that tells the user something does so by one way to the console. `Tells` follows what it
tells along its text, whatever the host answers: every notice has a property, and so does whatever
the step gives, because failures carry the messages of later notices.
-/

namespace Shipyard

/-! ## Paths on one line -/

namespace Path

/-- Whether no name of a path ends a line. -/
def Unbroken (p : Path) : Prop := ∀ name ∈ p.parts, Text.Unbroken name

instance (p : Path) : Decidable p.Unbroken := List.decidableBAll _ p.parts

theorem Unbroken.text {p : Path} (h : p.Unbroken) : Text.Unbroken p.text := by
  have hnames : Text.Unbroken (String.intercalate "/" p.parts) :=
    Text.unbroken_intercalate (by decide) h
  rw [Path.text]
  split
  · split
    · decide
    · exact hnames
  · exact Text.unbroken_append.mpr ⟨by decide, hnames⟩
  · exact Text.unbroken_append.mpr ⟨by decide, hnames⟩

theorem Unbroken.name {p : Path} (h : p.Unbroken) : Text.Unbroken p.name := by
  rw [Path.name]
  rcases List.eq_nil_or_concat p.parts with hparts | ⟨front, last, hparts⟩
  · rw [hparts]
    decide
  · rw [hparts, List.concat_eq_append, List.getLastD_concat]
    exact h last (by rw [hparts, List.concat_eq_append]; simp)

/-- The characters of a piece are some of the text. -/
theorem mem_of_mem_splitAt {part cs : List Char} {c d : Char} (hpart : part ∈ Text.splitAt d cs)
    (hc : c ∈ part) : c ∈ cs := by
  suffices h : ∀ parts, part ∈ parts → c ∈ [d].intercalate parts by
    have hjoin : [d].intercalate (cs.splitOn d) = cs := List.intercalate_splitOn d
    rw [Text.splitAt_eq_splitOn] at hpart
    exact hjoin ▸ h _ hpart
  intro parts hmem
  induction parts with
  | nil => cases hmem
  | cons first rest ih =>
    rcases rest with _ | ⟨second, rest⟩
    · obtain rfl := List.mem_singleton.mp hmem
      rwa [List.intercalate_singleton]
    · rw [List.intercalate_cons_cons, List.mem_append, List.mem_append]
      rcases List.mem_cons.mp hmem with rfl | hmem
      · exact .inl (.inl hc)
      · exact .inr (ih hmem)

theorem unbroken_ofText {s : String} (h : Text.Unbroken s) : (ofText s).Unbroken := by
  intro name hname
  obtain ⟨hname, -⟩ := List.mem_filter.mp hname
  obtain ⟨part, hpart, rfl⟩ := List.mem_map.mp hname
  exact Text.unbroken_ofList fun c hc => h c (mem_of_mem_splitAt hpart hc)

theorem Unbroken.child {p : Path} {s : String} (h : p.Unbroken) (hs : Text.Unbroken s) :
    (p.child s).Unbroken := by
  have hq := unbroken_ofText hs
  show (p.join (ofText s)).Unbroken
  rw [join]
  split
  · exact fun name hname => (List.mem_append.mp hname).elim (h name) (hq name)
  · exact hq

theorem Unbroken.withName? {p q : Path} {name : String} (h : p.Unbroken)
    (hname : Text.Unbroken name) (hq : p.withName? name = some q) : q.Unbroken := by
  rw [Path.withName?] at hq
  split at hq
  · cases hq
  · cases hq
    intro other hother
    rcases List.mem_append.mp hother with hother | hother
    · exact h other ((List.dropLast_subset _) hother)
    · rwa [List.mem_singleton.mp hother]

end Path

/-! ## Notices -/

/-- Whether a notice has a message without an end of a line in it. -/
def Notice.Unbroken : Notice → Prop
  | print message _ => Text.Unbroken message
  | success message => Text.Unbroken message
  | error message => Text.Unbroken message
  | warning message => Text.Unbroken message
  | info message => Text.Unbroken message
  | header message => Text.Unbroken message
  | newline => False

namespace Action

variable {σ α β : Type} {out : Console} {P : Notice → Prop} {Q : α → Prop} {R : β → Prop}
  {a : Action σ α} {f : α → Action σ β}

/-- Whether a step tells nothing but notices with a property, by one way to the console, and gives
nothing but values with a property. -/
def Tells (out : Console) (P : Notice → Prop) (a : Action σ α) (Q : α → Prop) : Prop :=
  ∀ w, (∃ notices : List Notice, (∀ n ∈ notices, P n) ∧
      (runOn a w).2.transcript = w.transcript ++ notices.map out.deliver) ∧
    ∀ x, (runOn a w).1 = .ok x → Q x

/-- A step that leaves the transcript tells nothing. -/
theorem tells_of_silent (hsilent : ∀ w, (runOn a w).2.transcript = w.transcript)
    (hQ : ∀ w x, (runOn a w).1 = .ok x → Q x) : Tells out P a Q := by
  refine fun w => ⟨⟨[], nofun, ?_⟩, hQ w⟩
  rw [hsilent, List.map_nil, List.append_nil]

theorem tells_pure {x : α} (h : Q x) : Tells out P (pure x : Action σ α) Q :=
  tells_of_silent (fun _ => rfl) (by rintro _ _ ⟨⟩; exact h)

/-- What comes first tells first. -/
theorem Tells.bind (h : Tells out P a Q) (hf : ∀ x, Q x → Tells out P (f x) R) :
    Tells out P (a >>= f) R := by
  intro w
  obtain ⟨⟨notices, hnotices, htranscript⟩, hgives⟩ := h w
  rw [runOn_bind]
  rcases hrun : runOn a w with ⟨fault | x, w₁⟩
  all_goals rw [hrun] at htranscript hgives
  · exact ⟨⟨notices, hnotices, htranscript⟩, nofun⟩
  · obtain ⟨⟨others, hothers, htranscript'⟩, hgives'⟩ := hf x (hgives x rfl) w₁
    refine ⟨⟨notices ++ others, ?_, ?_⟩, hgives'⟩
    · exact fun n hn => (List.mem_append.mp hn).elim (hnotices n) (hothers n)
    · rw [htranscript', htranscript, List.map_append, List.append_assoc]

theorem tells_tell {n : Notice} (hn : P n) :
    Tells out P (tell out n : Action σ Unit) fun _ => True := by
  refine fun w => ⟨⟨[n], fun m hm => ?_, rfl⟩, fun _ _ => trivial⟩
  rwa [List.mem_singleton.mp hm]

theorem Tells.tell_bind {n : Notice} {f : Unit → Action σ β} (hn : P n)
    (hf : Tells out P (f ()) R) : Tells out P (tell out n >>= f) R :=
  (tells_tell hn).bind fun _ _ => hf

theorem Tells.echo_bind {argv : List String} {f : Unit → Action σ β}
    (hn : P (.print (commandLine argv) .dim)) (hf : Tells out P (f ()) R) :
    Tells out P (echo out argv >>= f) R :=
  Tells.tell_bind hn hf

/-- Of an answer nothing is known. -/
theorem Tells.issue_bind {host : Host σ} {c : Command}
    {f : Except CommandFailure String → Action σ β} (hf : ∀ reply, Tells out P (f reply) R) :
    Tells out P (issue host c >>= f) R :=
  Tells.bind (Q := fun _ => True)
    (tells_of_silent (fun w => by rw [runOn_issue]) fun _ _ _ => trivial) fun reply _ => hf reply

theorem Tells.onFiles_bind {d : Disk α} (hd : Disk.Gives d Q)
    (hf : ∀ x, Q x → Tells out P (f x) R) : Tells out P (onFiles d >>= f) R := by
  refine Tells.bind (tells_of_silent (fun w => by rw [runOn_onFiles]) fun w x hx => ?_) hf
  rw [runOn_onFiles] at hx
  exact hd w.files x hx

theorem Tells.orFault_bind {r : Except Fault α} (hr : ∀ x, r = .ok x → Q x)
    (hf : ∀ x, Q x → Tells out P (f x) R) : Tells out P (orFault r >>= f) R := by
  refine Tells.bind (tells_of_silent (fun w => by rw [runOn_orFault]) fun w x hx => ?_) hf
  rw [runOn_orFault] at hx
  exact hr x hx

theorem Tells.orRefused_bind {r : Except Refusal α} (hr : ∀ x, r = .ok x → Q x)
    (hf : ∀ x, Q x → Tells out P (f x) R) : Tells out P (orRefused r >>= f) R := by
  refine Tells.bind (tells_of_silent (fun w => by rw [runOn_orRefused]) fun w x hx => ?_) hf
  rw [runOn_orRefused] at hx
  rcases r with refusal | y
  · cases hx
  · exact hr x (by cases hx; rfl)

/-- A fault that is caught was told nothing of. -/
theorem Tells.caught (h : Tells out P a Q) :
    Tells out P (caught a) fun r => ∀ x, r = .ok x → Q x := by
  intro w
  rw [runOn_caught]
  refine ⟨(h w).1, ?_⟩
  rintro r ⟨⟩
  exact (h w).2

end Action

end Shipyard
