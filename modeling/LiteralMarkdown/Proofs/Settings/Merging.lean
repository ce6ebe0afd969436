import LiteralMarkdown.Proofs.Settings.Precedence

/-!
# Overrides one after the other

Overrides can be applied to settings again and again. One whose limit is not positive fails and is
skipped as a whole, with the level that it gives; of what the others give, the last stands. So a
limit is never zero, however settings have come about.

* `Settings.attempt_eq`: one step, with what it sets and what it leaves;
* `Settings.attemptAll_eq`: any number of steps, by induction from the last one;
* `Settings.Reachable.hasPositiveLimit`: the invariant of all settings that there can be.
-/

namespace LiteralMarkdown

open Schema Checked

namespace Overrides

variable {overrides : Overrides} {settings changed : Settings}

/-- The overrides give a limit that is not positive. -/
def LimitNotPositive (overrides : Overrides) : Prop :=
  ∃ limit, overrides.maxValueLength = some limit ∧ limit ≤ 0

/-- The limit that is given, if it is positive. -/
def limit? (overrides : Overrides) : Option Nat :=
  (overrides.maxValueLength.filter fun limit => 0 < limit).map Int.toNat

/-- The level that is given, if it is not given together with a limit that is not positive. -/
def level? (overrides : Overrides) : Option String :=
  if overrides.maxValueLength.any fun limit => limit ≤ 0 then none else overrides.logLevel

/-- Overrides fail just if their limit is not positive. -/
theorem apply_eq_error_iff {e : SettingsError} :
    overrides.apply settings = .error e ↔ e = .limitNotPositive ∧ overrides.LimitNotPositive := by
  unfold apply LimitNotPositive
  cases overrides.maxValueLength with
  | none => simp
  | some limit =>
    by_cases hlimit : limit ≤ 0
    · simp [hlimit, eq_comm]
    · simp [hlimit]

/-- What overrides set that do not fail. -/
theorem eq_of_apply_eq_ok (h : overrides.apply settings = .ok changed) :
    changed = { settings with
      maxValueLength := overrides.limit?.or settings.maxValueLength
      logLevel := overrides.level?.getD settings.logLevel } := by
  unfold apply at h
  unfold limit? level?
  cases hgiven : overrides.maxValueLength with
  | none =>
    simp only [hgiven, Except.ok.injEq] at h
    rw [← h]
    rfl
  | some limit =>
    simp only [hgiven] at h
    by_cases hlimit : limit ≤ 0
    · simp [hlimit] at h
    · have hpositive : 0 < limit := by omega
      simp only [hlimit, if_false, Except.ok.injEq] at h
      rw [← h]
      simp [Option.filter, hlimit, hpositive]

end Overrides

namespace Settings

variable {settings : Settings}

/-! ## Steps -/

/-- The settings after overrides are applied, the same as before if they fail. -/
def attempt (settings : Settings) (overrides : Overrides) : Settings :=
  match overrides.apply settings with
  | .ok changed => changed
  | .error _ => settings

/-- The settings after overrides are applied one after the other, without those that fail. -/
def attemptAll (settings : Settings) (calls : List Overrides) : Settings :=
  calls.foldl attempt settings

/-- What overrides set. If they fail that is neither a limit nor a level. -/
theorem attempt_eq (settings : Settings) (overrides : Overrides) :
    settings.attempt overrides = { settings with
      maxValueLength := overrides.limit?.or settings.maxValueLength
      logLevel := overrides.level?.getD settings.logLevel } := by
  unfold attempt
  cases happly : overrides.apply settings with
  | ok changed => exact Overrides.eq_of_apply_eq_ok happly
  | error e =>
    obtain ⟨-, limit, hgiven, hlimit⟩ := Overrides.apply_eq_error_iff.1 happly
    have hnot : ¬0 < limit := by omega
    unfold Overrides.limit? Overrides.level?
    simp [hgiven, hlimit, hnot, Option.filter]

/-- After any number of steps the last limit and the last level stand that a step has set. -/
theorem attemptAll_eq (settings : Settings) (calls : List Overrides) :
    settings.attemptAll calls = { settings with
      maxValueLength := (calls.filterMap Overrides.limit?).getLast?.or settings.maxValueLength
      logLevel := (calls.filterMap Overrides.level?).getLast?.getD settings.logLevel } := by
  induction calls using List.reverseRecOn with
  | nil => rfl
  | append_singleton calls overrides ih =>
    have hstep : settings.attemptAll (calls ++ [overrides]) =
        (settings.attemptAll calls).attempt overrides := List.foldl_concat ..
    rw [hstep, attempt_eq, ih, List.filterMap_append, List.filterMap_append, List.getLast?_append,
      List.getLast?_append]
    have hlast : ∀ {α : Type} (given? : Overrides → Option α),
        ([overrides].filterMap given?).getLast? = given? overrides := by
      intro α given?
      cases hgiven : given? overrides <;> simp [hgiven]
    rw [hlast, hlast, Option.or_assoc]
    cases Overrides.level? overrides <;> simp

/-! ## Limits -/

theorem pos_of_checkPositive {value : Data} {limit : Nat} (h : checkPositive value = .ok limit) :
    0 < limit := by
  unfold checkPositive at h
  split at h
  · cases h
  · split at h
    · rename_i n _ hpositive
      have hlimit : n.toNat = limit := Except.ok.inj h
      omega
    · cases h

/-- A limit that is read is positive. -/
theorem pos_of_checkLimit {value : Data} {limit : Nat} (h : checkLimit value = .ok (some limit)) :
    0 < limit := by
  unfold checkLimit at h
  split at h
  · cases h
  · obtain ⟨limit', hcheck, heq⟩ := map_eq_ok_iff.1 h
    cases heq
    exact pos_of_checkPositive hcheck

/-- The settings have no limit, or a positive one. -/
def HasPositiveLimit (settings : Settings) : Prop :=
  ∀ limit, settings.maxValueLength = some limit → 0 < limit

theorem hasPositiveLimit_of_ofFields {fields : List (String × Data)}
    (h : ofFields fields = .ok settings) : settings.HasPositiveLimit := by
  have hlimit := (ofFields_eq_ok_iff.1 h).1 .maxValueLength
  intro limit hgiven
  apply pos_of_checkLimit
  rw [← hgiven]
  exact hlimit

theorem hasPositiveLimit_of_read {env : Environment} {fields : List (String × Data)}
    {further : OtherSources} (h : read env fields further = .ok settings) :
    settings.HasPositiveLimit := by
  unfold read at h
  split at h
  · split at h
    · cases h
    · exact hasPositiveLimit_of_ofFields (mapError_eq_ok_iff.1 h)
  · split at h
    · cases h
    · unfold readThrough at h
      split at h
      · cases h
      · exact hasPositiveLimit_of_ofFields (mapError_eq_ok_iff.1 h)

theorem hasPositiveLimit_of_load {env : Environment} {file : Option String}
    {further : OtherSources} (h : load env file further = .ok settings) :
    settings.HasPositiveLimit := by
  cases file with
  | none =>
    have hread : read env [] = .ok settings := h
    exact hasPositiveLimit_of_read hread
  | some text =>
    rw [load_some, mapError_eq_ok_iff] at h
    cases hentries : entriesOfFile text.toList with
    | error e =>
      rw [hentries] at h
      cases h
    | ok entries =>
      rw [hentries] at h
      exact hasPositiveLimit_of_read (readEntries_eq_ok_iff_read.1 h).2

/-- The settings that there can be: they are read of values and an environment, or loaded with a
file, or come from others by overrides. -/
inductive Reachable : Settings → Prop where
  | read {env : Environment} {fields : List (String × Data)} {further : OtherSources}
      {settings : Settings} (h : Settings.read env fields further = .ok settings) :
      Reachable settings
  | loaded {env : Environment} {file : Option String} {further : OtherSources}
      {settings : Settings} (h : Settings.load env file further = .ok settings) :
      Reachable settings
  | overridden {settings changed : Settings} {overrides : Overrides} (hbefore : Reachable settings)
      (h : overrides.apply settings = .ok changed) : Reachable changed

/-- Overrides keep a limit positive. -/
theorem HasPositiveLimit.apply {overrides : Overrides} {changed : Settings}
    (hpositive : settings.HasPositiveLimit) (h : overrides.apply settings = .ok changed) :
    changed.HasPositiveLimit := by
  intro limit hlimit
  rw [Overrides.eq_of_apply_eq_ok h] at hlimit
  obtain hset | ⟨-, hkept⟩ := Option.or_eq_some_iff.1 hlimit
  · obtain ⟨given, hgiven, rfl⟩ := Option.map_eq_some_iff.1 hset
    have hpos : 0 < given := by simpa using (Option.filter_eq_some_iff.1 hgiven).2
    omega
  · exact hpositive limit hkept

theorem Reachable.hasPositiveLimit (h : Reachable settings) : settings.HasPositiveLimit := by
  induction h with
  | read h => exact hasPositiveLimit_of_read h
  | loaded h => exact hasPositiveLimit_of_load h
  | overridden _ h ih => exact ih.apply h

/-- Overrides fail just if they give a limit that is not positive, and then nothing is replaced.
After some of them, one after the other and without those that fail, the limit is the last positive
one that was given, the level is the last one given by overrides that did not fail, and all else is
as it was. All settings that there can be have no limit or a positive one. -/
theorem attemptAll_settles :
    (∀ (settings : Settings) (overrides : Overrides),
      (∀ e, overrides.apply settings = .error e ↔
          e = .limitNotPositive ∧ overrides.LimitNotPositive) ∧
        (overrides.LimitNotPositive → settings.attempt overrides = settings)) ∧
    (∀ (settings : Settings) (calls : List Overrides), settings.attemptAll calls = { settings with
      maxValueLength := (calls.filterMap Overrides.limit?).getLast?.or settings.maxValueLength
      logLevel := (calls.filterMap Overrides.level?).getLast?.getD settings.logLevel }) ∧
    ∀ settings : Settings, Reachable settings → settings.HasPositiveLimit := by
  refine ⟨?_, attemptAll_eq, fun settings h => h.hasPositiveLimit⟩
  intro settings overrides
  refine ⟨fun e => Overrides.apply_eq_error_iff, ?_⟩
  intro hnone
  have herror : overrides.apply settings = .error .limitNotPositive :=
    Overrides.apply_eq_error_iff.2 ⟨rfl, hnone⟩
  unfold attempt
  rw [herror]

/-- Settings of an environment, a limit of zero with a level, and two levels. -/
theorem attemptAll_settles_level :
    let given : Settings := { default with maxValueLength := some 50 }
    let refused : Overrides := ⟨some 0, some "DEBUG"⟩
    Settings.read [("MDESCAPE_MAX_VALUE_LENGTH", "50")] [] = .ok given ∧ given.HasPositiveLimit ∧
    refused.LimitNotPositive ∧ given.attempt refused = given ∧
    given.attemptAll [⟨some 7, none⟩, ⟨none, some "INFO"⟩, refused] =
      { given with maxValueLength := some 7, logLevel := "INFO" } := by
  intro given refused
  have hread : Settings.read [("MDESCAPE_MAX_VALUE_LENGTH", "50")] [] = .ok given := by rfl
  have hrefused : refused.LimitNotPositive := ⟨0, rfl, by decide⟩
  obtain ⟨hfail, hall, hreachable⟩ := attemptAll_settles
  exact ⟨hread, hreachable given (.read hread), hrefused, (hfail given refused).2 hrefused,
    hall given _⟩

end Settings

end LiteralMarkdown
