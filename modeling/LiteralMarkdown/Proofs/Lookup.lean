import Mathlib.Data.List.Basic

/-!
# Looking up keys
-/

namespace LiteralMarkdown

variable {α β : Type} [BEq α] [LawfulBEq α]

/-- Where entries are kept for their keys, a key that is kept has the same value as before. -/
theorem lookup_filter_key (keep : α → Bool) (entries : List (α × β)) (key : α) :
    (entries.filter fun entry => keep entry.1).lookup key =
      if keep key then entries.lookup key else none := by
  induction entries with
  | nil => simp
  | cons entry entries ih =>
    rcases entry with ⟨here, value⟩
    rw [List.filter_cons, List.lookup_cons]
    by_cases hhere : key = here
    · rw [hhere] at ih ⊢
      by_cases hkeep : keep here = true
      · rw [if_pos hkeep, if_pos hkeep, List.lookup_cons_self, beq_self_eq_true]
      · rw [if_neg hkeep, if_neg hkeep, ih, if_neg hkeep]
    · rw [beq_false_of_ne hhere, ← ih]
      split
      · rw [List.lookup_cons, beq_false_of_ne hhere]
      · rfl

end LiteralMarkdown
