import LiteralMarkdown.Schema.Fault
import Mathlib.Data.Option.Defs

/-!
# Outcomes of a check

When something is found wrong with a value that is put together from parts, and what has been read
of it otherwise.
-/

namespace LiteralMarkdown

/-- Another account of what went wrong is no other result. -/
theorem mapError_eq_ok_iff {ε ε' α : Type} {wrap : ε → ε'} {outcome : Except ε α} {a : α} :
    outcome.mapError wrap = .ok a ↔ outcome = .ok a := by
  cases outcome with
  | error e =>
    constructor
    · intro h
      cases h
    · intro h
      cases h
  | ok b =>
    constructor
    · intro h
      cases h
      rfl
    · intro h
      cases h
      rfl

namespace Schema.Checked

variable {α β : Type}

/-- Something was found wrong. -/
def Fails (checked : Checked α) : Prop := ∃ faults, checked = .error faults

theorem not_fails_ok (a : α) : ¬ Fails (.ok a : Checked α) := by
  rintro ⟨faults, h⟩
  cases h

/-- What is not read has faults. -/
theorem fails_iff_forall_ne {checked : Checked α} : Fails checked ↔ ∀ a, checked ≠ .ok a := by
  cases checked with
  | error faults => exact ⟨fun _ a h => (nomatch h), fun _ => ⟨faults, rfl⟩⟩
  | ok a => exact ⟨fun h => absurd h (not_fails_ok a), fun h => absurd rfl (h a)⟩

theorem fails_fail (kind : FaultKind) (found : Data) : Fails (fail kind found : Checked α) :=
  ⟨_, rfl⟩

theorem fails_under_iff {steps : List Step} {checked : Checked α} :
    Fails (under steps checked) ↔ Fails checked := by
  cases checked with
  | error faults => exact ⟨fun _ => ⟨_, rfl⟩, fun _ => ⟨_, rfl⟩⟩
  | ok a => exact ⟨fun h => absurd h (not_fails_ok a), fun h => absurd h (not_fails_ok a)⟩

theorem fails_map_iff {f : α → β} {checked : Checked α} :
    Fails (checked.map f) ↔ Fails checked := by
  cases checked with
  | error faults => exact ⟨fun _ => ⟨_, rfl⟩, fun _ => ⟨_, rfl⟩⟩
  | ok a => exact ⟨fun h => absurd h (not_fails_ok (f a)), fun h => absurd h (not_fails_ok a)⟩

theorem fails_both_iff {a : Checked α} {b : Checked β} :
    Fails (both a b) ↔ Fails a ∨ Fails b := by
  cases a with
  | error faults => exact ⟨fun _ => Or.inl ⟨_, rfl⟩, fun _ => ⟨_, rfl⟩⟩
  | ok x =>
    cases b with
    | error faults => exact ⟨fun _ => Or.inr ⟨_, rfl⟩, fun _ => ⟨_, rfl⟩⟩
    | ok y =>
      refine ⟨fun h => absurd h (not_fails_ok (x, y)), ?_⟩
      rintro (h | h)
      · exact absurd h (not_fails_ok x)
      · exact absurd h (not_fails_ok y)

/-- The items of a list are refused if one of them is. -/
theorem fails_each_iff {check : α → Checked β} {index : Nat} {items : List α} :
    Fails (each check index items) ↔
      ∃ (i : Nat) (item : α), items[i]? = some item ∧ Fails (check item) := by
  induction items generalizing index with
  | nil =>
    refine ⟨fun h => absurd h (not_fails_ok []), ?_⟩
    rintro ⟨i, item, hitem, -⟩
    cases hitem
  | cons first items ih =>
    rw [each, fails_map_iff, fails_both_iff, fails_under_iff, ih]
    constructor
    · rintro (h | ⟨i, item, hitem, h⟩)
      · exact ⟨0, first, rfl, h⟩
      · exact ⟨i + 1, item, hitem, h⟩
    · rintro ⟨i, item, hitem, h⟩
      cases i with
      | zero =>
        cases hitem
        exact Or.inl h
      | succ i => exact Or.inr ⟨i, item, hitem, h⟩

theorem under_eq_ok_iff {steps : List Step} {checked : Checked α} {a : α} :
    under steps checked = .ok a ↔ checked = .ok a := mapError_eq_ok_iff

theorem map_eq_ok_iff {f : α → β} {checked : Checked α} {b : β} :
    checked.map f = .ok b ↔ ∃ a, checked = .ok a ∧ f a = b := by
  cases checked with
  | error faults =>
    constructor
    · intro h
      cases h
    · rintro ⟨a, h, -⟩
      cases h
  | ok a =>
    constructor
    · intro h
      cases h
      exact ⟨a, rfl, rfl⟩
    · rintro ⟨a', h, rfl⟩
      cases h
      rfl

theorem both_eq_ok_iff {a : Checked α} {b : Checked β} {x : α} {y : β} :
    both a b = .ok (x, y) ↔ a = .ok x ∧ b = .ok y := by
  cases a with
  | error faults => simp [both]
  | ok x =>
    cases b with
    | error faults => simp [both]
    | ok y => simp [both]

/-- Items that are read are read one by one. -/
theorem rel_of_each {check : α → Checked β} {index : Nat} {items : List α} {results : List β}
    (h : each check index items = .ok results) (i : Nat) :
    Option.Rel (fun item result => check item = .ok result) items[i]? results[i]? := by
  induction items generalizing index results i with
  | nil =>
    cases h
    exact .none
  | cons first items ih =>
    rw [each, map_eq_ok_iff] at h
    rcases h with ⟨⟨result, rest⟩, h, rfl⟩
    rcases both_eq_ok_iff.1 h with ⟨hfirst, hrest⟩
    cases i with
    | zero => exact .some (under_eq_ok_iff.1 hfirst)
    | succ i => exact ih hrest i

/-- What is read of a list is read of its items. -/
theorem exists_of_mem_each {check : α → Checked β} {index : Nat} {items : List α}
    {results : List β} (h : each check index items = .ok results) {result : β}
    (hresult : result ∈ results) : ∃ item, check item = .ok result := by
  rcases List.mem_iff_getElem?.1 hresult with ⟨i, hi⟩
  have hrel := rel_of_each h i
  rw [hi] at hrel
  generalize items[i]? = item at hrel
  cases hrel with
  | some hcheck => exact ⟨_, hcheck⟩

theorem length_of_each {check : α → Checked β} {index : Nat} {items : List α} {results : List β}
    (h : each check index items = .ok results) : results.length = items.length := by
  induction items generalizing index results with
  | nil =>
    cases h
    rfl
  | cons first items ih =>
    rw [each, map_eq_ok_iff] at h
    rcases h with ⟨⟨result, rest⟩, h, rfl⟩
    rw [List.length_cons, List.length_cons, ih (both_eq_ok_iff.1 h).2]

end Schema.Checked

end LiteralMarkdown
