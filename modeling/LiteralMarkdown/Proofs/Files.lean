import LiteralMarkdown.Files.Basic
import LiteralMarkdown.Proofs.Lookup

/-!
# Reading and writing files

A file that is written has the new text, and all others keep theirs. Whether a path can be written
to does not depend on the text.

* `Files.textAt?_put`: the texts after one file has been set;
* `Files.textAt?_write`: the texts after a path has been written to.
-/

namespace LiteralMarkdown.Files

variable {files written : Files} {path : Path} {place : Place} {text : String}

/-- A file that is set has its new text, and the others keep theirs. -/
theorem textAt?_put (files : Files) (place : Place) (text : String) (other : Place) :
    (files.put place text).textAt? other =
      if other = place then some text else files.textAt? other := by
  unfold textAt? put
  rw [List.lookup_append, lookup_filter_key (· != place), List.lookup_cons, List.lookup_nil]
  by_cases hother : other = place
  · rw [if_pos hother, hother, bne_self_eq_false, if_neg Bool.false_ne_true, beq_self_eq_true]
    rfl
  · rw [if_neg hother, bne_iff_ne.2 hother, if_pos rfl, beq_false_of_ne hother]
    exact Option.or_none

/-- A path leads to its place if it can be asked for and there are directories all the way. -/
theorem locate_of_clear (hasked : path.text.contains '\x00' = false)
    (hlimit : path.text.utf8ByteSize ≤ Path.limit)
    (hclear : ∀ step ∈ path.waypoints.zip path.names, files.hindrance? step.1 step.2 = none) :
    files.locate path = .ok path.place := by
  unfold locate
  rw [hasked, if_neg Bool.false_ne_true, if_neg (Nat.not_lt.2 hlimit)]
  split
  · rename_i problem hfound
    rcases List.exists_of_findSome?_eq_some hfound with ⟨⟨here, name⟩, hmem, hproblem⟩
    cases (hclear _ hmem).symm.trans hproblem
  · rfl

theorem place_of_locate (h : files.locate path = .ok place) : path.place = place := by
  unfold locate at h
  split at h
  · cases h
  · split at h
    · cases h
    · split at h
      · cases h
      · exact Except.ok.inj h

/-- A path that leads to a place is written to unless there is a directory. -/
theorem write_of_locate (h : files.locate path = .ok place) (text : String) :
    files.write path text =
      if files.isDirectory place then .error .isDirectory else .ok (files.put place text) := by
  unfold write
  rw [h]
  rfl

theorem write_of_locate_error {problem : Problem} (h : files.locate path = .error problem)
    (text : String) : files.write path text = .error problem := by
  unfold write
  rw [h]
  rfl

/-- Writing to a path sets the file at its place. -/
theorem eq_put_of_write (h : files.write path text = .ok written) :
    written = files.put path.place text := by
  cases hplace : files.locate path with
  | error problem =>
    rw [write_of_locate_error hplace] at h
    cases h
  | ok place =>
    rw [write_of_locate hplace] at h
    split at h
    · cases h
    · rw [place_of_locate hplace]
      exact (Except.ok.inj h).symm

/-- A file that is written has the new text, and the others keep theirs. -/
theorem textAt?_write (h : files.write path text = .ok written) (other : Place) :
    written.textAt? other = if other = path.place then some text else files.textAt? other := by
  rw [eq_put_of_write h]
  exact textAt?_put files path.place text other

/-- A path that cannot be written to takes no text. -/
theorem write_error_of_write_error {problem : Problem} (h : files.write path text = .error problem)
    (other : String) : files.write path other = .error problem := by
  cases hplace : files.locate path with
  | error found =>
    rw [write_of_locate_error hplace] at h ⊢
    exact h
  | ok place =>
    rw [write_of_locate hplace] at h ⊢
    split at h
    · -- Whether there is a directory does not depend on the text.
      rw [if_pos ‹_›]
      exact congrArg Except.error (Except.error.inj h)
    · cases h

end LiteralMarkdown.Files
