import Shipyard.Proofs.Text.Blank

/-!
# Reading tables

What it takes that a key of a table gives something: the key is there with a value of that kind, and
a text is not blank.
-/

namespace Shipyard.Table

variable {t : Table} {key : String}

/-- A reader of one kind of values gives what the values of that kind are made of. -/
theorem bind_eq_some_iff {α : Type} {read : Value → Option α} {make : α → Value}
    (hread : ∀ v a, read v = some a ↔ v = make a) {found : Option Value} {a : α} :
    found.bind read = some a ↔ found = some (make a) := by
  rw [Option.bind_eq_some_iff]
  constructor
  · rintro ⟨v, hv, ha⟩
    rw [hv, (hread v a).mp ha]
  · exact fun h => ⟨make a, h, (hread _ a).mpr rfl⟩

theorem table?_eq_some_iff {inner : Table} :
    t.table? key = some inner ↔ t.find? key = some (.table inner) :=
  bind_eq_some_iff fun v _ => by cases v <;> simp [Value.asTable?]

theorem int?_eq_some_iff {n : Int} : t.int? key = some n ↔ t.find? key = some (.int n) :=
  bind_eq_some_iff fun v _ => by cases v <;> simp [Value.asInt?]

theorem list?_eq_some_iff {items : List Value} :
    t.list? key = some items ↔ t.find? key = some (.list items) :=
  bind_eq_some_iff fun v _ => by cases v <;> simp [Value.asList?]

/-- The text of a key is stripped and not empty. -/
theorem text?_eq_some_iff {s : String} :
    t.text? key = some s ↔ ∃ raw, t.find? key = some (.text raw) ∧ Text.strip raw = s ∧ s ≠ "" := by
  rw [text?, Option.bind_eq_some_iff]
  constructor
  · rintro ⟨v, hv, htext⟩
    obtain ⟨raw, rfl, hstrip, hne⟩ := Value.asText?_eq_some_iff.mp htext
    exact ⟨raw, hv, hstrip, hne⟩
  · rintro ⟨raw, hraw, hstrip, hne⟩
    exact ⟨.text raw, hraw, Value.asText?_eq_some_iff.mpr ⟨raw, rfl, hstrip, hne⟩⟩

/-- A key without such a text has none at all, or a blank one. -/
theorem text?_eq_none_iff :
    t.text? key = none ↔ ∀ raw, t.find? key = some (.text raw) → Text.strip raw = "" := by
  rw [Option.eq_none_iff_forall_ne_some]
  constructor
  · intro h raw hraw
    by_contra hne
    exact h _ (text?_eq_some_iff.mpr ⟨raw, hraw, rfl, hne⟩)
  · intro h s hs
    obtain ⟨raw, hraw, rfl, hne⟩ := text?_eq_some_iff.mp hs
    exact hne (h raw hraw)

end Shipyard.Table
