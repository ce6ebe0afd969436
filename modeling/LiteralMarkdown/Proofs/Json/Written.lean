import LiteralMarkdown.Json.Writer
import Mathlib.Data.List.Basic

/-!
# Written JSON is legible

Whatever a JSON value holds, its written form has no controls but line feeds. Strings have theirs
escaped, numbers are digits, points, signs and exponents, and the layout adds blanks and line feeds.

* `isLegible_write`: the written form of a value is legible;
* `escape_not_mem_write`: so it holds no escape character.
-/

namespace LiteralMarkdown

/-! ## Legible texts -/

/-- All characters of the text are line feeds or no controls. -/
def IsLegible (text : String) : Prop := ∀ c ∈ text.toList, c = '\n' ∨ 0x20 ≤ c.toNat

instance : DecidablePred IsLegible := fun text => List.decidableBAll _ text.toList

theorem isLegible_append {text other : String} :
    IsLegible (text ++ other) ↔ IsLegible text ∧ IsLegible other := by
  unfold IsLegible
  rw [String.toList_append]
  exact List.forall_mem_append

theorem IsLegible.append {text other : String} (h : IsLegible text) (h' : IsLegible other) :
    IsLegible (text ++ other) := isLegible_append.2 ⟨h, h'⟩

/-- Some of the characters of a legible text make a legible text. -/
theorem IsLegible.ofList {text : String} (h : IsLegible text) {part : List Char}
    (hpart : part ⊆ text.toList) : IsLegible (String.ofList part) := by
  intro c hc
  rw [String.toList_ofList] at hc
  exact h c (hpart hc)

theorem IsLegible.pushn {text : String} (h : IsLegible text) {c : Char} (hc : 0x20 ≤ c.toNat)
    (count : Nat) : IsLegible (text.pushn c count) := by
  rw [String.pushn_eq_repeat_push]
  induction count with
  | zero => exact h
  | succ count ih =>
    intro a ha
    rw [Nat.repeat, String.toList_push, List.mem_append, List.mem_singleton] at ha
    rcases ha with ha | rfl
    · exact ih a ha
    · exact .inr hc

theorem IsLegible.intercalate {separator : String} (h : IsLegible separator)
    {parts : List String} (hparts : ∀ part ∈ parts, IsLegible part) :
    IsLegible (separator.intercalate parts) := by
  induction parts with
  | nil =>
    rw [String.intercalate_nil]
    decide
  | cons part parts ih =>
    rw [List.forall_mem_cons] at hparts
    cases parts with
    | nil =>
      rw [String.intercalate_singleton]
      exact hparts.1
    | cons next parts =>
      rw [String.intercalate_cons_cons]
      exact (hparts.1.append h).append (ih hparts.2)

/-! ## Numbers -/

theorem isLegible_toString_nat (n : Nat) : IsLegible (toString n) := by
  intro c hc
  rw [Nat.toString_eq_repr, Nat.toList_repr] at hc
  have hdigit := Nat.isDigit_of_mem_toDigits (by decide) (by decide) hc
  have hzero : (48 : UInt32) ≤ c.val := by
    simp only [Char.isDigit, Bool.and_eq_true, decide_eq_true_eq] at hdigit
    exact hdigit.1
  have hnat : 48 ≤ c.toNat := UInt32.le_iff_toNat_le.1 hzero
  exact .inr (by omega)

theorem isLegible_toString_int (n : Int) : IsLegible (toString n) := by
  show IsLegible n.repr
  rw [Int.repr_eq_if]
  split
  · exact isLegible_toString_nat _
  · exact IsLegible.append (by decide) (isLegible_toString_nat _)

namespace Decimal

theorem isLegible_padded (width n : Nat) : IsLegible (padded width n) :=
  (IsLegible.pushn (by decide) (by decide) _).append (isLegible_toString_nat n)

theorem Positive.isLegible_write (style : Style) (d : Positive) : IsLegible (d.write style) := by
  unfold write
  have hdigits := isLegible_toString_nat d.digits
  generalize toString d.digits = digits at hdigits
  dsimp only
  -- All that is written are digits, some of them or all, and zeros that fill up.
  have hzeros (count : Nat) : IsLegible ("".pushn '0' count) :=
    IsLegible.pushn (by decide) (by decide) count
  have htake (count : Nat) : IsLegible (String.ofList (digits.toList.take count)) :=
    hdigits.ofList (List.take_subset _ _)
  have hdrop (count : Nat) : IsLegible (String.ofList (digits.toList.drop count)) :=
    hdigits.ofList (List.drop_subset _ _)
  -- Without an exponent the point stands behind the digits, among them or in front of them.
  split
  · split
    · exact (hdigits.append (hzeros _)).append (by decide)
    · split
      · exact ((htake _).append (by decide)).append (hdrop _)
      · exact (IsLegible.append (by decide) (hzeros _)).append hdigits
  · refine ((((htake 1).append ?_).append (by decide)).append ?_).append (isLegible_padded _ _)
    · split
      · decide
      · exact IsLegible.append (by decide) (hdrop 1)
    · split <;> decide

theorem isLegible_write (style : Style) (x : Float) : IsLegible (write style x) := by
  unfold write
  refine IsLegible.append ?_ ?_
  · split <;> decide
  · split
    · decide
    · exact Positive.isLegible_write style _

end Decimal

namespace Json

theorem isLegible_writeFloat (x : Float) : IsLegible (writeFloat x) := by
  unfold writeFloat
  split
  · decide
  · split
    · split <;> decide
    · exact Decimal.isLegible_write numberStyle x

/-! ## Strings -/

theorem hexDigit_ge {n : Nat} (h : n < 16) : 0x20 ≤ (hexDigit n).toNat := by
  revert n
  decide

/-- Between quotes no control stays as it is. -/
theorem escapedChar_ge (c : Char) : ∀ a ∈ escapedChar c, 0x20 ≤ a.toNat := by
  have hpair (a : Char) (ha : 0x20 ≤ a.toNat) : ∀ x ∈ ['\\', a], 0x20 ≤ x.toNat := by
    rw [List.forall_mem_cons, List.forall_mem_singleton]
    exact ⟨by decide, ha⟩
  unfold escapedChar
  split
  iterate 7 exact hpair _ (by decide)
  split
  · rename_i hcontrol
    have hlow : 0x20 ≤ (hexDigit (c.toNat / 16)).toNat := hexDigit_ge (by omega)
    have hhigh : 0x20 ≤ (hexDigit (c.toNat % 16)).toNat := hexDigit_ge (by omega)
    simp only [List.forall_mem_cons]
    exact ⟨by decide, by decide, by decide, by decide, hlow, hhigh, List.forall_mem_nil _⟩
  · rw [List.forall_mem_singleton]
    omega

theorem isLegible_writeString (s : String) : IsLegible (writeString s) := by
  intro c hc
  unfold writeString at hc
  rw [String.toList_ofList, List.mem_append, List.mem_cons, List.mem_flatMap] at hc
  rcases hc with (rfl | ⟨a, -, hc⟩) | hc
  · exact .inr (by decide)
  · exact .inr (escapedChar_ge a c hc)
  · rw [List.mem_singleton] at hc
    rw [hc]
    exact .inr (by decide)

/-! ## Values -/

theorem Layout.isLegible_lineBreak (blanks depth : Nat) :
    IsLegible (Layout.lineBreak blanks depth) :=
  IsLegible.append (by decide) (IsLegible.pushn (by decide) (by decide) _)

theorem Layout.isLegible_enclose (layout : Layout) (depth : Nat) {opening closing : String}
    (hopening : IsLegible opening) (hclosing : IsLegible closing) {parts : List String}
    (hparts : ∀ part ∈ parts, IsLegible part) :
    IsLegible (layout.enclose depth opening closing parts) := by
  unfold enclose
  split
  · exact hopening.append hclosing
  · cases layout with
    | line => exact (hopening.append (IsLegible.intercalate (by decide) hparts)).append hclosing
    | indented blanks =>
      have hbreak := isLegible_lineBreak blanks (depth + 1)
      have hseparator : IsLegible ("," ++ lineBreak blanks (depth + 1)) :=
        IsLegible.append (by decide) hbreak
      exact (((hopening.append hbreak).append (hseparator.intercalate hparts)).append
        (isLegible_lineBreak blanks depth)).append hclosing

mutual

theorem isLegible_writeAt (layout : Layout) (depth : Nat) :
    ∀ value : Json, IsLegible (writeAt layout depth value)
  | .null => by rw [writeAt]; decide
  | .bool true => by rw [writeAt]; decide
  | .bool false => by rw [writeAt]; decide
  | .int n => by rw [writeAt]; exact isLegible_toString_int n
  | .float x => by rw [writeAt]; exact isLegible_writeFloat x
  | .string s => by rw [writeAt]; exact isLegible_writeString s
  | .list items => by
    rw [writeAt]
    exact layout.isLegible_enclose depth (by decide) (by decide)
      (isLegible_writeItems layout (depth + 1) items)
  | .object fields => by
    rw [writeAt]
    exact layout.isLegible_enclose depth (by decide) (by decide)
      (isLegible_writeFields layout (depth + 1) fields)

theorem isLegible_writeItems (layout : Layout) (depth : Nat) :
    ∀ items : List Json, ∀ part ∈ writeItems layout depth items, IsLegible part
  | [] => by
    rw [writeItems]
    exact List.forall_mem_nil _
  | item :: items => by
    rw [writeItems, List.forall_mem_cons]
    exact ⟨isLegible_writeAt layout depth item, isLegible_writeItems layout depth items⟩

theorem isLegible_writeFields (layout : Layout) (depth : Nat) :
    ∀ fields : List (String × Json), ∀ part ∈ writeFields layout depth fields, IsLegible part
  | [] => by
    rw [writeFields]
    exact List.forall_mem_nil _
  | (name, value) :: fields => by
    rw [writeFields, List.forall_mem_cons]
    exact ⟨((isLegible_writeString name).append (by decide)).append
      (isLegible_writeAt layout depth value), isLegible_writeFields layout depth fields⟩

end

/-- The written form of a value is legible. -/
theorem isLegible_write (layout : Layout) (value : Json) : IsLegible (value.write layout) :=
  isLegible_writeAt layout 0 value

/-- The written form of a value holds no escape character. -/
theorem escape_not_mem_write (layout : Layout) (value : Json) :
    '\x1b' ∉ (value.write layout).toList := by
  intro hmem
  have hlegible := isLegible_write layout value _ hmem
  revert hlegible
  decide

end Json

end LiteralMarkdown
