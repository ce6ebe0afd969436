import LiteralMarkdown.Proofs.Settings.Choice

/-!
# Precedence of settings

Settings come from a settings file and the environment, and overrides can take the place of some of
them. Each has the value of the highest source that gives it one: the overrides, the section of the
file, the environment, the defaults. An override does not mend a value that is not valid.

* `Settings.Section`: the entries that a file gives;
* `Settings.exists_load_eq_ok_iff`, `Settings.has_of_load`: when settings can be loaded, and that
  they have all chosen values;
* `Overrides.exists_apply_eq_ok`: what overrides change;
* `Settings.load_overridden`: loading and overriding together.

A key of the section can be an instruction on how to look up variables. It is not refused then, and
what it says is done.
-/

namespace LiteralMarkdown

open Schema Checked

namespace Settings

variable {env env' : Environment} {fields : List (String × Data)} {field : Field}
  {settings : Settings} {value : Data} {entries : List (Data × Data)}

/-! ## The section -/

/-- The entries of the section of settings that a file holds. There are none without a file. -/
inductive Section : Option String → List (Data × Data) → Prop where
  | noFile : Section none []
  | file {text : String} {entries : List (Data × Data)}
      (h : entriesOfFile text.toList = .ok entries) : Section (some text) entries

/-- The keys of a section are texts. -/
theorem forall_isName_of_entriesOf {contents : Yaml.Contents} {n : Nat}
    (h : entriesOf contents n = .ok entries) : ∀ entry ∈ entries, isName entry.1 = true := by
  unfold entriesOf at h
  split at h
  · split at h
    · rename_i hnames
      cases h
      intro entry hentry
      rcases List.mem_map.1 hentry with ⟨⟨key, value⟩, hmem, rfl⟩
      exact List.all_eq_true.1 hnames _ hmem
    · cases h
  · cases h

theorem Section.unique {file : Option String} {other : List (Data × Data)}
    (h : Section file entries) (h' : Section file other) : entries = other := by
  cases h with
  | noFile =>
    cases h'
    rfl
  | file h =>
    cases h' with
    | file h' => exact Except.ok.inj (h.symm.trans h')

theorem Section.forall_isName {file : Option String} (h : Section file entries) :
    ∀ entry ∈ entries, isName entry.1 = true := by
  cases h with
  | noFile => exact fun entry hentry => absurd hentry List.not_mem_nil
  | file h =>
    unfold entriesOfFile at h
    split at h
    · cases h
    · cases h
      exact fun entry hentry => absurd hentry List.not_mem_nil
    · rename_i contents _
      cases hsection : sectionOf? contents with
      | error e =>
        rw [hsection] at h
        cases h
      | ok n? =>
        rw [hsection] at h
        cases n? with
        | none =>
          cases h
          exact fun entry hentry => absurd hentry List.not_mem_nil
        | some n => exact forall_isName_of_entriesOf h

theorem load_some (env : Environment) (text : String) (further : OtherSources) :
    load env (some text) further = ((entriesOfFile text.toList).bind fun entries =>
      readEntries env entries further).mapError inFile := rfl

/-- Loading reads the entries of the section in front of an environment. -/
theorem Section.load_eq {file : Option String} (h : Section file entries) (further : OtherSources) :
    ∃ wrap, ∀ env, load env file further = (readEntries env entries further).mapError wrap := by
  cases h with
  | noFile =>
    refine ⟨id, fun env => ?_⟩
    rw [readEntries_of_whole rfl]
    -- Without values by name there is no instruction that leads to further sources.
    show read env [] = (read env [] further).mapError id
    have hread : read env [] further = read env [] := rfl
    rw [hread]
    cases read env [] <;> rfl
  | file h =>
    refine ⟨inFile, fun env => ?_⟩
    rw [load_some, h]
    rfl

section Loading

variable {file : Option String} {further : OtherSources} (hsection : Section file entries)
  (hplain : Plain entries)
include hsection hplain

/-- There are settings just if nothing is wrong. -/
theorem exists_load_eq_ok_iff :
    (∃ settings, load env file further = .ok settings) ↔ ¬Faulty env entries := by
  rcases hsection.load_eq further with ⟨wrap, hload⟩
  simp only [hload, mapError_eq_ok_iff]
  exact exists_readEntries_eq_ok_iff hplain hsection.forall_isName further

/-- Settings that are loaded have all chosen values. -/
theorem has_of_load (h : load env file further = .ok settings)
    (hchosen : Chosen env entries field value) : settings.Has field value := by
  rcases hsection.load_eq further with ⟨wrap, hload⟩
  rw [hload, mapError_eq_ok_iff, readEntries_eq_ok_iff hplain hsection.forall_isName] at h
  exact h.2.2 field value hchosen

/-- Variables of which nothing is seen change nothing. -/
theorem load_eq_of_agreeBehind (h : AgreeBehind entries env env') :
    load env file further = load env' file further := by
  rcases hsection.load_eq further with ⟨wrap, hload⟩
  rw [hload, hload, readEntries_eq_of_agreeBehind hplain h]

end Loading

end Settings

/-! ## Overrides -/

/-- What overrides give a setting. -/
def Overrides.value? (overrides : Overrides) : Settings.Field → Option Data
  | .textTypes | .passthroughTypes => none
  | .maxValueLength => overrides.maxValueLength.map .int
  | .logLevel => overrides.logLevel.map .text

variable {overrides : Overrides}

theorem Overrides.apply_of_positive (settings : Settings)
    (hpositive : ∀ limit, overrides.maxValueLength = some limit → 0 < limit) :
    overrides.apply settings = .ok { settings with
      maxValueLength :=
        (overrides.maxValueLength.map fun limit => some limit.toNat).getD settings.maxValueLength
      logLevel := overrides.logLevel.getD settings.logLevel } := by
  unfold apply
  cases hlimit : overrides.maxValueLength with
  | none => rfl
  | some limit => exact if_neg (Int.not_le.2 (hpositive limit hlimit))

/-- With a positive limit settings can be replaced: they have what the overrides give them, and
where these give nothing, what they had before. -/
theorem Overrides.exists_apply_eq_ok (settings : Settings)
    (hpositive : ∀ limit, overrides.maxValueLength = some limit → 0 < limit) :
    ∃ changed, overrides.apply settings = .ok changed ∧ ∀ field value,
      (overrides.value? field = some value → changed.Has field value) ∧
      (overrides.value? field = none → settings.Has field value → changed.Has field value) := by
  refine ⟨_, apply_of_positive settings hpositive, fun field value => ?_⟩
  cases field with
  | textTypes | passthroughTypes => exact ⟨nofun, fun _ h => h⟩
  | maxValueLength =>
    unfold value? Settings.Has
    cases hlimit : overrides.maxValueLength with
    | none => exact ⟨nofun, fun _ h => h⟩
    | some limit =>
      refine ⟨?_, nofun⟩
      rintro ⟨⟩
      show ((if 0 < limit then .ok limit.toNat else Checked.fail .notPositive (.int limit) :
        Checked Nat).map some) = .ok (some limit.toNat)
      rw [if_pos (hpositive limit hlimit)]
      rfl
  | logLevel =>
    unfold value? Settings.Has
    cases overrides.logLevel with
    | none => exact ⟨nofun, fun _ h => h⟩
    | some level =>
      refine ⟨?_, nofun⟩
      rintro ⟨⟩
      rfl

namespace Settings

/-- The value of a setting that the overrides give, or else the chosen one. -/
inductive Highest (overrides : Overrides) (env : Environment) (entries : List (Data × Data))
    (field : Field) : Data → Prop where
  | override {value : Data} (h : overrides.value? field = some value) :
      Highest overrides env entries field value
  | chosen {value : Data} (hoverride : overrides.value? field = none)
      (h : Chosen env entries field value) : Highest overrides env entries field value

theorem exists_highest (overrides : Overrides) (env : Environment) (entries : List (Data × Data))
    (field : Field) : ∃ value, Highest overrides env entries field value := by
  cases hoverride : overrides.value? field with
  | some value => exact ⟨value, .override hoverride⟩
  | none =>
    rcases exists_chosen env entries field with ⟨value, hchosen⟩
    exact ⟨value, .chosen hoverride hchosen⟩

/-- Settings that are loaded and then replaced have the values of the highest source that gives them
one. Loading fails just if something is wrong with the section, the environment or the chosen
values, whatever the overrides are, and hidden variables change nothing. -/
theorem load_overridden (overrides : Overrides) (env : Environment) {file : Option String}
    (further : OtherSources) (hsection : Section file entries) (hplain : Plain entries)
    (hpositive : ∀ limit, overrides.maxValueLength = some limit → 0 < limit) :
    ((∃ e, load env file further = .error e ∧
        (load env file further).bind overrides.apply = .error e) ↔ Faulty env entries) ∧
    (¬Faulty env entries →
      ∃ settings, (load env file further).bind overrides.apply = .ok settings ∧
        ∀ field, (∃ value, Highest overrides env entries field value) ∧
          ∀ value, Highest overrides env entries field value → settings.Has field value) ∧
    ∀ env', AgreeBehind entries env env' → load env file further = load env' file further := by
  have hok : (∃ settings, load env file further = .ok settings) ↔ ¬Faulty env entries :=
    exists_load_eq_ok_iff hsection hplain
  refine ⟨?_, fun hsound => ?_, fun env' => load_eq_of_agreeBehind hsection hplain⟩
  · rw [← not_not (a := Faulty env entries), ← hok]
    cases load env file further with
    | error e => exact ⟨fun _ h => (nomatch h), fun _ => ⟨e, rfl, rfl⟩⟩
    | ok settings => exact ⟨fun h => (nomatch h), fun h => absurd ⟨settings, rfl⟩ h⟩
  · rcases hok.2 hsound with ⟨loaded, hload⟩
    rcases overrides.exists_apply_eq_ok loaded hpositive with ⟨settings, happly, hhas⟩
    rw [hload]
    refine ⟨settings, happly, fun field => ⟨exists_highest overrides env entries field, ?_⟩⟩
    intro value hhighest
    cases hhighest with
    | override h => exact (hhas field value).1 h
    | chosen hoverride h =>
      exact (hhas field value).2 hoverride (has_of_load hsection hplain hload h)

/-- The key and the value of a single entry, if these are texts. -/
def singleTexts? : Except SettingsError (List (Data × Data)) → Option (String × String)
  | .ok [(.text name, .text value)] => some (name, value)
  | _ => none

theorem eq_of_singleTexts? {outcome : Except SettingsError (List (Data × Data))}
    {name value : String} (h : singleTexts? outcome = some (name, value)) :
    outcome = .ok [(.text name, .text value)] := by
  unfold singleTexts? at h
  split at h
  · cases h
    rfl
  · cases h

theorem eq_ok_of_toOption {ε α : Type} {outcome : Except ε α} {a : α}
    (h : outcome.toOption = some a) : outcome = .ok a := by
  cases outcome with
  | error e => cases h
  | ok b => exact congrArg Except.ok (Option.some.inj h)

theorem section_leveled :
    Section (some "escape:\n  log_level: INFO\n") [(.text "log_level", .text "INFO")] :=
  .file (eq_of_singleTexts? (by decide +kernel))

theorem plain_leveled : Plain [(.text "log_level", .text "INFO")] := by
  intro entry hentry name hname hsame
  rw [List.mem_singleton.1 hentry] at hsame
  rw [← Data.text.inj hsame] at hname
  exact absurd hname (by decide)

theorem section_instructed :
    Section (some "escape:\n  _env_prefix: X_\n") [(.text "_env_prefix", .text "X_")] :=
  .file (eq_of_singleTexts? (by decide +kernel))

theorem load_overridden_level :
    ∃ settings, (load [("mdescape_max_value_length", "50")]
        (some "escape:\n  log_level: INFO\n")).bind (Overrides.apply ⟨some 5, none⟩) =
          .ok settings ∧
      settings.maxValueLength = some 5 ∧ settings.logLevel = "INFO" := by
  rcases load_overridden ⟨some 5, none⟩ [("mdescape_max_value_length", "50")] (fun _ _ => none)
    section_leveled plain_leveled (by rintro limit ⟨⟩; decide) with ⟨-, hsound, -⟩
  have hnot : ¬Faulty [("mdescape_max_value_length", "50")]
      [(.text "log_level", .text "INFO")] := by
    refine (exists_readEntries_eq_ok_iff plain_leveled section_leveled.forall_isName
      fun _ _ => none).1
      ⟨{ default with maxValueLength := some 50, logLevel := "INFO" }, ?_⟩
    exact eq_ok_of_toOption (by decide +kernel)
  rcases hsound hnot with ⟨settings, hok, hhas⟩
  refine ⟨settings, hok, ?_, ?_⟩
  · exact (Except.ok.inj ((hhas .maxValueLength).2 (.int 5) (.override rfl))).symm
  · exact (Except.ok.inj ((hhas .logLevel).2 (.text "INFO") (.chosen rfl (.entry rfl)))).symm

/-- A section with an instruction: its key is unknown, and yet there are settings; and these do not
have the level that the environment gives. -/
theorem exists_instruction_followed :
    Section (some "escape:\n  _env_prefix: X_\n") [(.text "_env_prefix", .text "X_")] ∧
    load [("MDESCAPE_LOG_LEVEL", "DEBUG")] (some "escape:\n  _env_prefix: X_\n") = .ok default ∧
    Faulty [("MDESCAPE_LOG_LEVEL", "DEBUG")] [(.text "_env_prefix", .text "X_")] ∧
    Chosen [("MDESCAPE_LOG_LEVEL", "DEBUG")] [(.text "_env_prefix", .text "X_")] .logLevel
      (.text "DEBUG") ∧
    ¬default.Has .logLevel (.text "DEBUG") := by
  refine ⟨section_instructed, ?_, ?_, ?_, ?_⟩
  · rcases section_instructed.load_eq (fun _ _ => none) with ⟨wrap, hload⟩
    rw [hload, mapError_eq_ok_iff]
    exact eq_ok_of_toOption (by decide +kernel)
  · refine .unknown List.mem_cons_self fun field hname => ?_
    cases field <;> exact absurd (Data.text.inj hname) (by decide)
  · refine .environment rfl (.plain ⟨[], "MDESCAPE_LOG_LEVEL", [], rfl, by decide, nofun⟩ nofun rfl)
  · intro h
    exact absurd (Except.ok.inj h) (by decide)

end Settings

end LiteralMarkdown
