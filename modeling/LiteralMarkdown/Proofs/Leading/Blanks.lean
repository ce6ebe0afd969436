import Mathlib.Data.List.Pairwise
import Mathlib.Data.List.TakeWhile
import LiteralMarkdown.Proofs.Leading

/-!
# The blanks that a leading marker takes with it

The blanks before a leading marker are dropped with it. Four spaces are a marker as well, so what
is dropped depends on what lies behind the blanks. A sign or a fence there takes all of them with
it. Otherwise the marker is four spaces among the blanks, the last four that stand together, and
what comes behind their first one is kept.

* `getLast?_indentPlaces_eq_some_iff`: the last place of four spaces is the last entry of the list;
* `escapeLeading_eq_leadingEscaped`: what becomes of any text, told by its blanks and what lies
  behind them, and that nothing is left to escape then.
-/

namespace LiteralMarkdown

open Pattern

/-- The spaces that make indented code. -/
def indent : List Char := List.replicate 4 ' '

/-- The backticks that open a fence. -/
def fence : List Char := List.replicate 3 '\x60'

/-- Whether a text begins with a sign or a fence that opens a block. -/
def opensBlock (text : List Char) : Bool :=
  text.head?.any (['-', '#', '*', '>', '=', '|'].contains ·) || fence.isPrefixOf text

/-- The places among blanks at which four spaces begin, from left to right. -/
def indentPlaces (blanks : List Char) : List Nat :=
  (List.range blanks.length).filter fun place => indent.isPrefixOf (blanks.drop place)

/-- The text with the marker that opens it escaped, read off the blanks at its beginning and what
lies behind them. -/
def leadingEscaped (text : List Char) : List Char :=
  let blanks := text.takeWhile Text.isBlank
  let rest := text.dropWhile Text.isBlank
  if opensBlock rest then escapeMarker :: rest
  else
    match (indentPlaces blanks).getLast? with
    | some place => escapeMarker :: text.drop place
    | none => text

/-! ## The last indent -/

theorem mem_indentPlaces {blanks : List Char} {place : Nat} :
    place ∈ indentPlaces blanks ↔ indent <+: blanks.drop place := by
  rw [indentPlaces, List.mem_filter, List.mem_range, List.isPrefixOf_iff_prefix]
  constructor
  · exact And.right
  · intro hpre
    refine ⟨?_, hpre⟩
    have hlen := hpre.length_le
    rw [indent, List.length_replicate, List.length_drop] at hlen
    omega

/-- The places stand in their order, so that the last one is behind all others. -/
theorem getLast?_indentPlaces_eq_some_iff {blanks : List Char} {place : Nat} :
    (indentPlaces blanks).getLast? = some place ↔
      place ∈ indentPlaces blanks ∧ ∀ other ∈ indentPlaces blanks, other ≤ place := by
  have hordered : (indentPlaces blanks).Pairwise (· ≤ ·) :=
    List.pairwise_le_range.filter _
  constructor
  · intro hlast
    refine ⟨List.mem_of_getLast? hlast, fun other hother => ?_⟩
    have hle := hordered.rel_getLast hother
    rw [List.getLast?_eq_some_getLast (List.ne_nil_of_mem hother)] at hlast
    rwa [Option.some.inj hlast] at hle
  · rintro ⟨hmem, hmost⟩
    have hle := hordered.rel_getLast hmem
    have hge := hmost _ (List.getLast_mem (List.ne_nil_of_mem hmem))
    rw [List.getLast?_eq_some_getLast (List.ne_nil_of_mem hmem), Nat.le_antisymm hge hle]

/-! ## Markers behind blanks -/

theorem isMarker_indent : IsMarker indent := Or.inr (Or.inl ⟨4, Nat.le_refl 4, rfl⟩)

theorem isMarker_fence : IsMarker fence := Or.inr (Or.inr ⟨3, Nat.le_refl 3, rfl⟩)

/-- A marker is a run of spaces, or else a sign or a fence and holds no blank. -/
theorem IsMarker.indent_or_opensBlock {marker : List Char} (h : IsMarker marker)
    (rest : List Char) :
    (indent <+: marker ∧ ∀ a ∈ marker, Text.isBlank a = true) ∨
      (opensBlock (marker ++ rest) = true ∧ (marker ++ rest).takeWhile Text.isBlank = []) := by
  rcases h with ⟨a, ha, rfl⟩ | ⟨n, hn, rfl⟩ | ⟨n, hn, rfl⟩
  · have hnone : ['-', '#', '*', '>', '=', '|'].all (fun b => !Text.isBlank b) = true := by decide
    have hblank : ¬ Text.isBlank a = true := by simpa using List.all_eq_true.1 hnone a ha
    have hopens : opensBlock ([a] ++ rest) = true := by
      refine Bool.or_eq_true_iff.2 (Or.inl ?_)
      exact List.contains_iff_mem.2 ha
    exact Or.inr ⟨hopens, List.takeWhile_cons_of_neg hblank⟩
  · refine Or.inl ⟨?_, fun a ha => ?_⟩
    · rw [indent, List.prefix_replicate_iff, List.length_replicate]
      exact ⟨hn, rfl⟩
    · rw [List.eq_of_mem_replicate ha]
      decide
  · obtain ⟨m, rfl⟩ := Nat.exists_eq_add_of_le hn
    rw [← List.replicate_append_replicate]
    exact Or.inr ⟨by simp [opensBlock, fence], List.takeWhile_cons_of_neg (by decide)⟩

theorem exists_isMarker_of_opensBlock {text : List Char} (h : opensBlock text = true) :
    ∃ marker rest, text = marker ++ rest ∧ IsMarker marker := by
  rcases Bool.or_eq_true_iff.1 h with hsign | hfence
  · cases text with
    | nil => cases hsign
    | cons a rest =>
      have ha : a ∈ ['-', '#', '*', '>', '=', '|'] := by simpa using hsign
      exact ⟨[a], rest, rfl, Or.inl ⟨a, ha, rfl⟩⟩
  · rcases List.isPrefixOf_iff_prefix.1 hfence with ⟨rest, rfl⟩
    exact ⟨fence, rest, rfl, isMarker_fence⟩

/-- Four spaces among the blanks of a text are a marker of it. -/
theorem marker_of_mem_indentPlaces {text : List Char} {place : Nat}
    (h : place ∈ indentPlaces (text.takeWhile Text.isBlank)) :
    (∀ a ∈ text.take place, Text.isBlank a = true) ∧ text.take place ++ indent <+: text ∧
      (text.take place).length = place := by
  have hpre := mem_indentPlaces.1 h
  have hlen := hpre.length_le
  rw [indent, List.length_replicate, List.length_drop] at hlen
  have htake : (text.takeWhile Text.isBlank).take place = text.take place := by
    conv_rhs => rw [← List.takeWhile_append_dropWhile (p := Text.isBlank) (l := text)]
    rw [List.take_append_of_le_length (by omega)]
  refine ⟨fun a ha => ?_, ?_, ?_⟩
  · rw [← htake] at ha
    exact List.mem_takeWhile_imp (List.mem_of_mem_take ha)
  · rw [← htake]
    refine ((List.prefix_append_right_inj _).2 hpre).trans ?_
    rw [List.take_append_drop]
    exact List.takeWhile_prefix _
  · rw [← htake, List.length_take]
    omega

/-! ## What becomes of a text -/

/-- A sign or a fence behind the blanks takes all of them with it. -/
theorem escapeLeading_of_opensBlock {text : List Char}
    (h : opensBlock (text.dropWhile Text.isBlank) = true) :
    escapeLeading text = escapeMarker :: text.dropWhile Text.isBlank := by
  rcases exists_isMarker_of_opensBlock h with ⟨sign, behind, hsplit, hsign⟩
  have hall : ∀ a ∈ text.takeWhile Text.isBlank, Text.isBlank a = true :=
    fun a ha => List.mem_takeWhile_imp ha
  have htext : text = text.takeWhile Text.isBlank ++ (sign ++ behind) := by
    rw [← hsplit, List.takeWhile_append_dropWhile]
  rcases escapeLeading_of_hasMarker ⟨_, sign, behind, htext, hall, hsign⟩ with
    ⟨blanks, marker, rest, hcut, hblanks, -, hescaped, hlongest⟩
  -- No blanks are left to stand before the marker.
  have hle := hlongest _ sign hall hsign ⟨behind, by rw [List.append_assoc, ← htext]⟩
  have hpre : blanks <+: text.takeWhile Text.isBlank := by
    rw [hcut, List.takeWhile_append_of_pos hblanks]
    exact List.prefix_append ..
  have hsame := hpre.eq_of_length_le hle
  have hbehind : marker ++ rest = text.dropWhile Text.isBlank := by
    have hwhole := List.takeWhile_append_dropWhile (p := Text.isBlank) (l := text)
    rw [← hsame] at hwhole
    exact List.append_cancel_left (hcut.symm.trans hwhole.symm)
  rw [hescaped, hbehind]

/-- With neither of them behind the blanks, the last four spaces among the blanks are the marker. -/
theorem escapeLeading_of_not_opensBlock {text : List Char} (hmarker : HasMarker text)
    (h : opensBlock (text.dropWhile Text.isBlank) = false) :
    ∃ place, (indentPlaces (text.takeWhile Text.isBlank)).getLast? = some place ∧
      escapeLeading text = escapeMarker :: text.drop place := by
  rcases escapeLeading_of_hasMarker hmarker with
    ⟨blanks, marker, rest, rfl, hblanks, hmarker, hescaped, hlongest⟩
  rcases hmarker.indent_or_opensBlock rest with ⟨hpre, hspaces⟩ | ⟨hopens, hnone⟩
  · refine ⟨blanks.length, getLast?_indentPlaces_eq_some_iff.2 ⟨?_, fun place hplace => ?_⟩, ?_⟩
    · rw [mem_indentPlaces, List.takeWhile_append_of_pos hblanks, List.drop_left,
        List.takeWhile_append_of_pos hspaces]
      exact hpre.trans (List.prefix_append ..)
    · rcases marker_of_mem_indentPlaces hplace with ⟨hbefore, hahead, hlen⟩
      rw [← hlen]
      exact hlongest _ indent hbefore isMarker_indent hahead
    · rw [hescaped, List.drop_left]
  · -- Any other marker lies behind the blanks.
    have hrest : (blanks ++ (marker ++ rest)).dropWhile Text.isBlank = marker ++ rest := by
      have hwhole := List.takeWhile_append_dropWhile (p := Text.isBlank) (l := marker ++ rest)
      rw [hnone, List.nil_append] at hwhole
      rw [List.dropWhile_append_of_pos hblanks, hwhole]
    rw [hrest, hopens] at h
    cases h

theorem hasMarker_of_mem_indentPlaces {text : List Char} {place : Nat}
    (h : place ∈ indentPlaces (text.takeWhile Text.isBlank)) : HasMarker text := by
  rcases marker_of_mem_indentPlaces h with ⟨hblanks, ⟨rest, hrest⟩, -⟩
  rw [List.append_assoc] at hrest
  exact ⟨_, indent, rest, hrest.symm, hblanks, isMarker_indent⟩

/-- Escaping the leading marker of a text puts a backslash in the place of all blanks, where a sign
or a fence lies behind them, and else in the place of those before the last four spaces; a text with
neither stays as it is. There is no marker to escape then, so that escaping once more changes
nothing. -/
theorem escapeLeading_eq_leadingEscaped (text : List Char) :
    escapeLeading text = leadingEscaped text ∧
    leadingMarker.occursIn (escapeLeading text) = false ∧
    escapeLeading (escapeLeading text) = escapeLeading text := by
  refine ⟨?_, ?_, (escapeLeading_eq_iff _).2 (not_hasMarker_escapeLeading text)⟩
  · unfold leadingEscaped
    dsimp only
    cases hopens : opensBlock (text.dropWhile Text.isBlank) with
    | true => rw [if_pos rfl, escapeLeading_of_opensBlock hopens]
    | false =>
      rw [if_neg Bool.false_ne_true]
      by_cases hmarker : HasMarker text
      · rcases escapeLeading_of_not_opensBlock hmarker hopens with ⟨place, hplace, hescaped⟩
        rw [hplace, hescaped]
      · have hnone : (indentPlaces (text.takeWhile Text.isBlank)).getLast? = none := by
          rw [List.getLast?_eq_none_iff, List.eq_nil_iff_forall_not_mem]
          exact fun place hplace => hmarker (hasMarker_of_mem_indentPlaces hplace)
        rw [hnone, escapeLeading_of_not_hasMarker hmarker]
  · rw [← Bool.not_eq_true, occursIn_leadingMarker_iff]
    exact not_hasMarker_escapeLeading text

-- Of five spaces the first one is dropped: an indent begins at the second one as well.
example : escapeLeading "\n     x".toList = "\\    x".toList := by decide

end LiteralMarkdown
