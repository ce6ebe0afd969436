import LiteralMarkdown.Proofs.Lookup
import LiteralMarkdown.Proofs.Schema.Checked
import LiteralMarkdown.Proofs.Settings.Variables
import LiteralMarkdown.Settings.Reading

/-!
# The choice of values

Every setting has the value that a section of entries, the environment or the defaults give it,
whichever comes first. There are settings unless something is wrong with these: a variable that
cannot be decoded, an unknown key, or a chosen value that is not valid.

* `Settings.ofFields_eq_ok_iff`: what named values have to be for settings to be read of them;
* `Settings.readEntries_eq_ok_iff`, `Settings.exists_readEntries_eq_ok_iff`: there are settings just
  if nothing is wrong, and then they have all chosen values;
* `Settings.readEntries_eq_of_agreeBehind`: a variable whose setting the section gives changes
  nothing, unless it is that of a list.

All this is about sections without instructions on how to look up variables.
-/

namespace LiteralMarkdown

open Schema Checked

namespace Settings

variable {env env' : Environment} {fields others : List (String × Data)} {field : Field}
  {settings : Settings} {value : Data} {entries : List (Data × Data)}

/-! ## Values of settings -/

/-- The value of a setting that is given none. -/
def Field.defaultValue : Field → Data
  | .textTypes => .list [.text "text", .text "html"]
  | .passthroughTypes => .list []
  | .maxValueLength => .null
  | .logLevel => .text "WARNING"

/-- Of the settings, one is what is read of a value. -/
def Has (settings : Settings) : Field → Data → Prop
  | .textTypes, value => checkTexts value = .ok settings.textTypes
  | .passthroughTypes, value => checkTexts value = .ok settings.passthroughTypes
  | .maxValueLength, value => checkLimit value = .ok settings.maxValueLength
  | .logLevel, value => checkText value = .ok settings.logLevel

/-- Every default is valid, and the settings where nothing is set have it. -/
theorem default_has (field : Field) : default.Has field field.defaultValue := by
  cases field <;> rfl

theorem Field.forall_iff {p : Field → Prop} :
    (∀ field, p field) ↔
      (p .textTypes ∧ p .passthroughTypes) ∧ p .maxValueLength ∧ p .logLevel := by
  refine ⟨fun h => ⟨⟨h _, h _⟩, h _, h _⟩, ?_⟩
  rintro ⟨⟨ha, hb⟩, hc, hd⟩ field
  cases field with
  | textTypes => exact ha
  | passthroughTypes => exact hb
  | maxValueLength => exact hc
  | logLevel => exact hd

/-- Settings that each can have some value have them all together. -/
theorem exists_forall_has {value : Field → Data}
    (h : ∀ field, ∃ settings : Settings, settings.Has field (value field)) :
    ∃ settings : Settings, ∀ field, settings.Has field (value field) := by
  rcases Field.forall_iff.1 h with ⟨⟨⟨a, ha⟩, b, hb⟩, ⟨c, hc⟩, d, hd⟩
  exact ⟨⟨a.textTypes, b.passthroughTypes, c.maxValueLength, d.logLevel⟩,
    Field.forall_iff.2 ⟨⟨ha, hb⟩, hc, hd⟩⟩

/-! ## The schema -/

theorem readField_eq_ok_iff {α : Type} {check : Data → Checked α} {default x : α}
    (hdefault : check field.defaultValue = .ok default) :
    readField check field default fields = .ok x ↔
      check ((fields.lookup field.name).getD field.defaultValue) = .ok x := by
  unfold readField
  cases fields.lookup field.name with
  | none => rw [Option.getD_none, hdefault]
  | some value => exact under_eq_ok_iff

theorem checkNames_eq_ok_iff : checkNames fields = .ok () ↔ ∀ entry ∈ fields, entry.1 ∈ names := by
  unfold checkNames
  split
  · rename_i h
    simpa using h
  · rename_i hne
    refine ⟨fun h => (nomatch h), fun h => absurd ?_ hne⟩
    simpa using h

/-- Named values give settings just if these have the values with their names, or else the defaults,
and no other name is given. -/
theorem ofFields_eq_ok_iff :
    ofFields fields = .ok settings ↔
      (∀ field : Field, settings.Has field ((fields.lookup field.name).getD field.defaultValue)) ∧
        ∀ entry ∈ fields, entry.1 ∈ names := by
  have hread : ofFields fields = .ok settings ↔
      ((readField checkTexts .textTypes default.textTypes fields = .ok settings.textTypes ∧
          readField checkTexts .passthroughTypes default.passthroughTypes fields =
            .ok settings.passthroughTypes) ∧
        readField checkLimit .maxValueLength default.maxValueLength fields =
          .ok settings.maxValueLength ∧
        readField checkText .logLevel default.logLevel fields = .ok settings.logLevel) ∧
      checkNames fields = .ok () := by
    simp only [ofFields, map_eq_ok_iff, ← both_eq_ok_iff]
    constructor
    · rintro ⟨read, h, rfl⟩
      exact h
    · exact fun h => ⟨_, h, rfl⟩
  rw [hread, checkNames_eq_ok_iff, Field.forall_iff, readField_eq_ok_iff (default_has .textTypes),
    readField_eq_ok_iff (default_has .passthroughTypes),
    readField_eq_ok_iff (default_has .maxValueLength), readField_eq_ok_iff (default_has .logLevel)]
  rfl

/-! ## The sources of values -/

/-- What the entries of a section give a setting. -/
def Field.valueIn? (field : Field) (entries : List (Data × Data)) : Option Data :=
  Data.valueOf? field.name entries

/-- The value of a setting that the section, the environment or the defaults give, whichever comes
first. -/
inductive Chosen (env : Environment) (entries : List (Data × Data)) (field : Field) :
    Data → Prop where
  | entry {value : Data} (h : field.valueIn? entries = some value) :
      Chosen env entries field value
  | environment {value : Data} (hentry : field.valueIn? entries = none)
      (h : env.Gives .default field value) : Chosen env entries field value
  | default (hentry : field.valueIn? entries = none)
      (h : ∀ value, ¬env.Gives .default field value) :
      Chosen env entries field field.defaultValue

/-- There are no settings: the variable of a list cannot be decoded, the section has an unknown key,
or the value chosen for a setting is not valid. -/
inductive Faulty (env : Environment) (entries : List (Data × Data)) : Prop where
  | undecoded {field : Field} (h : env.Undecoded .default field) : Faulty env entries
  | unknown {entry : Data × Data} (hmem : entry ∈ entries)
      (h : ∀ field : Field, entry.1 ≠ .text field.name) : Faulty env entries
  | invalid {field : Field} {value : Data} (hchosen : Chosen env entries field value)
      (h : ∀ settings : Settings, ¬settings.Has field value) : Faulty env entries

theorem exists_chosen (env : Environment) (entries : List (Data × Data)) (field : Field) :
    ∃ value, Chosen env entries field value := by
  cases hentry : field.valueIn? entries with
  | some value => exact ⟨value, .entry hentry⟩
  | none =>
    by_cases hgives : ∃ value, env.Gives .default field value
    · rcases hgives with ⟨value, hvalue⟩
      exact ⟨value, .environment hentry hvalue⟩
    · exact ⟨field.defaultValue, .default hentry (not_exists.1 hgives)⟩

theorem Chosen.unique {other : Data} (h : Chosen env entries field value)
    (h' : Chosen env entries field other) : value = other := by
  cases h with
  | entry h =>
    cases h' with
    | entry h' => exact Option.some.inj (h.symm.trans h')
    | environment hentry | default hentry => cases h.symm.trans hentry
  | environment hentry h =>
    cases h' with
    | entry h' => cases hentry.symm.trans h'
    | environment hentry' h' => exact h.unique h'
    | default hentry' hnone => exact absurd h (hnone value)
  | default hentry hnone =>
    cases h' with
    | entry h' => cases hentry.symm.trans h'
    | environment hentry' h' => exact absurd h' (hnone other)
    | default => rfl

theorem valueIn?_eq_lookup (field : Field) (entries : List (Data × Data)) :
    field.valueIn? entries = (namedValues entries).lookup field.name := by
  induction entries with
  | nil => rfl
  | cons entry entries ih =>
    rcases entry with ⟨key, value⟩
    cases key with
    | text name =>
      have hnamed : namedValues ((.text name, value) :: entries) =
          (name, value) :: namedValues entries := rfl
      rw [hnamed, List.lookup_cons, ← ih]
      by_cases hname : name = field.name
      · simp [Field.valueIn?, Data.valueOf?, hname]
      · simp [Field.valueIn?, Data.valueOf?, hname, beq_false_of_ne (Ne.symm hname)]
    | _ => exact ih

theorem lookup_withFallback (name : String) :
    (withFallback fields others).lookup name = (fields.lookup name).or (others.lookup name) := by
  unfold withFallback
  rw [List.lookup_append, lookup_filter_key fun name => (fields.lookup name).isNone]
  cases fields.lookup name <;> simp

/-- The chosen value is the first with the name of its setting among the values of the section,
those of the environment and the defaults. -/
theorem chosen_iff (h : env.values .default = .ok others) :
    Chosen env entries field value ↔
      ((withFallback (namedValues entries) others).lookup field.name).getD field.defaultValue =
        value := by
  have hgives (value : Data) :
      others.lookup field.name = some value ↔ env.Gives .default field value :=
    Environment.lookup_of_values h
  rw [lookup_withFallback, ← valueIn?_eq_lookup]
  constructor
  · intro hchosen
    cases hchosen with
    | entry hentry => rw [hentry, Option.some_or, Option.getD_some]
    | environment hentry hvalue =>
      rw [hentry, (hgives value).2 hvalue]
      rfl
    | default hentry hnone =>
      have hother : others.lookup field.name = none :=
        Option.eq_none_iff_forall_ne_some.2 fun value hvalue =>
          hnone value ((hgives value).1 hvalue)
      rw [hentry, hother]
      rfl
  · rintro rfl
    cases hentry : field.valueIn? entries with
    | some value => exact .entry hentry
    | none =>
      cases hother : others.lookup field.name with
      | some value => exact .environment hentry ((hgives value).1 hother)
      | none =>
        refine .default hentry fun value hvalue => ?_
        cases hother.symm.trans ((hgives value).2 hvalue)

/-! ## Reading named values -/

theorem mem_names_iff {name : String} : name ∈ names ↔ ∃ field : Field, name = field.name := by
  simp [names, Field.mem_all, eq_comm]

theorem forall_mem_withFallback_iff (h : env.values .default = .ok others) :
    (∀ entry ∈ withFallback fields others, entry.1 ∈ names) ↔
      ∀ entry ∈ fields, entry.1 ∈ names := by
  unfold withFallback
  refine ⟨fun hall entry hentry => hall entry (List.mem_append_left _ hentry), ?_⟩
  intro hall entry hentry
  rcases List.mem_append.1 hentry with hgiven | hother
  · exact hall entry hgiven
  · rcases Environment.exists_of_mem_valuesOf h entry (List.mem_filter.1 hother).1 with
      ⟨field, -, hname⟩
    exact mem_names_iff.2 ⟨field, hname⟩

/-- Settings are read just if all variables of lists can be decoded, every name is known, and the
settings have all chosen values. -/
theorem readThrough_eq_ok_iff :
    readThrough .default env (namedValues entries) = .ok settings ↔
      (∀ field, ¬env.Undecoded .default field) ∧
        (∀ entry ∈ namedValues entries, entry.1 ∈ names) ∧
        ∀ field value, Chosen env entries field value → settings.Has field value := by
  unfold readThrough
  cases hvalues : env.values .default with
  | error why =>
    refine ⟨fun h => (nomatch h), fun h => ?_⟩
    rcases Environment.exists_values_eq_error_iff.1 ⟨why, hvalues⟩ with ⟨field, hfield⟩
    exact absurd hfield (h.1 field)
  | ok others =>
    have hdecoded : ∀ field, ¬env.Undecoded .default field := by
      intro field hfield
      rcases Environment.exists_values_eq_error_iff.2 ⟨field, hfield⟩ with ⟨why, hwhy⟩
      cases hvalues.symm.trans hwhy
    simp only [mapError_eq_ok_iff, ofFields_eq_ok_iff, forall_mem_withFallback_iff hvalues,
      chosen_iff hvalues, forall_eq', hdecoded, not_false_eq_true, implies_true, true_and]
    exact and_comm

/-! ## Instructions -/

/-- No key of the entries is an instruction on how to look up variables. -/
def Plain (entries : List (Data × Data)) : Prop :=
  ∀ entry ∈ entries, ∀ name ∈ Lookup.instructions, entry.1 ≠ .text name

theorem mem_namedValues_iff {entry : String × Data} :
    entry ∈ namedValues entries ↔ (Data.text entry.1, entry.2) ∈ entries := by
  unfold namedValues
  rw [List.mem_filterMap]
  constructor
  · rintro ⟨⟨key, value⟩, hmem, hentry⟩
    cases key with
    | text name =>
      cases hentry
      exact hmem
    | _ => cases hentry
  · exact fun hmem => ⟨_, hmem, rfl⟩

theorem lookup_eq_none_of_plain (h : Plain entries) {name : String}
    (hname : name ∈ Lookup.instructions) : (namedValues entries).lookup name = none := by
  refine List.lookup_eq_none_iff.2 fun entry hentry => bne_iff_ne.2 fun hsame => ?_
  exact h _ (mem_namedValues_iff.1 hentry) name hname (congrArg Data.text hsame.symm)

theorem withoutInstructions_of_plain (h : Plain entries) :
    Lookup.withoutInstructions (namedValues entries) = namedValues entries := by
  refine List.filter_eq_self.2 fun entry hentry => ?_
  rw [Bool.not_eq_true', List.contains_eq_mem, decide_eq_false_iff_not]
  exact fun hname => h _ (mem_namedValues_iff.1 hentry) entry.1 hname rfl

theorem instruction?_of_plain (h : Plain entries) {name : String}
    (hname : name ∈ Lookup.instructions) :
    Lookup.instruction? (namedValues entries) name = none := by
  unfold Lookup.instruction?
  rw [lookup_eq_none_of_plain h hname]

theorem reachesBeyond_of_plain (h : Plain entries) :
    Lookup.reachesBeyond (namedValues entries) = false := by
  refine List.any_eq_false.2 fun name hname => ?_
  rw [instruction?_of_plain h (List.mem_append_right _ hname)]
  decide

/-- Without instructions, variables are looked up as ever. -/
theorem ofFields?_of_plain (h : Plain entries) :
    Lookup.ofFields? (namedValues entries) =
      if ((namedValues entries).lookup Lookup.ownName).isNone = true then some .default
      else none := by
  have hnone : ∀ name ∈ Lookup.lookupInstructions,
      Lookup.instruction? (namedValues entries) name = none := fun name hname =>
    instruction?_of_plain h (List.mem_append_left _ hname)
  unfold Lookup.ofFields?
  simp only [hnone "_env_prefix" (by decide), hnone "_env_parse_none_str" (by decide),
    hnone "_case_sensitive" (by decide), hnone "_env_ignore_empty" (by decide)]
  rfl

/-- Without instructions, settings are read through the lookup that is the default, and from no
further sources. -/
theorem read_of_plain (h : Plain entries) (further : OtherSources) :
    read env (namedValues entries) further =
      if ((namedValues entries).lookup Lookup.ownName).isNone = true then
        readThrough .default env (namedValues entries)
      else .error .unusableLookup := by
  unfold read
  rw [reachesBeyond_of_plain h, ofFields?_of_plain h, withoutInstructions_of_plain h]
  cases ((namedValues entries).lookup Lookup.ownName).isNone <;> rfl

/-! ## Reading a section -/

theorem brokenKey?_eq_none_iff :
    Data.brokenKey? entries = none ↔ ∀ entry ∈ entries, ∀ signs, entry.1 ≠ .brokenText signs := by
  unfold Data.brokenKey?
  rw [Option.map_eq_none_iff, List.find?_eq_none]
  refine forall₂_congr fun entry _ => ?_
  rcases entry with ⟨key, value⟩
  cases key <;> simp

/-- Keys that are texts are all known if none is broken and every name is known. -/
theorem forall_known_iff (hnames : ∀ entry ∈ entries, isName entry.1 = true) :
    (Data.brokenKey? entries = none ∧ ∀ entry ∈ namedValues entries, entry.1 ∈ names) ↔
      ∀ entry ∈ entries, ∃ field : Field, entry.1 = .text field.name := by
  rw [brokenKey?_eq_none_iff]
  constructor
  · rintro ⟨hwhole, hknown⟩ ⟨key, value⟩ hentry
    have hname := hnames (key, value) hentry
    cases key with
    | text name =>
      rcases mem_names_iff.1 (hknown (name, value) (mem_namedValues_iff.2 hentry)) with ⟨field, rfl⟩
      exact ⟨field, rfl⟩
    | brokenText name => exact absurd rfl (hwhole _ hentry name)
    | _ => cases hname
  · intro hknown
    refine ⟨fun entry hentry name hbroken => ?_, fun entry hentry => ?_⟩
    · rcases hknown entry hentry with ⟨field, hfield⟩
      cases hbroken.symm.trans hfield
    · rcases hknown _ (mem_namedValues_iff.1 hentry) with ⟨field, hfield⟩
      exact mem_names_iff.2 ⟨field, Data.text.inj hfield⟩

theorem readEntries_of_whole (h : Data.brokenKey? entries = none) (further : OtherSources) :
    readEntries env entries further = read env (namedValues entries) further := by
  unfold readEntries
  rw [h]

theorem readEntries_eq_ok_iff_read {further : OtherSources} :
    readEntries env entries further = .ok settings ↔
      Data.brokenKey? entries = none ∧ read env (namedValues entries) further = .ok settings := by
  cases hbroken : Data.brokenKey? entries with
  | none => simp [readEntries_of_whole hbroken]
  | some name =>
    unfold readEntries
    rw [hbroken]
    cases read env (namedValues entries) further with
    | error e => cases e <;> simp
    | ok settings => simp

/-- Settings are read just if all variables of lists can be decoded, every key is known, and the
settings have all chosen values. -/
theorem readEntries_eq_ok_iff (hplain : Plain entries)
    (hnames : ∀ entry ∈ entries, isName entry.1 = true) (further : OtherSources) :
    readEntries env entries further = .ok settings ↔
      (∀ field, ¬env.Undecoded .default field) ∧
        (∀ entry ∈ entries, ∃ field : Field, entry.1 = .text field.name) ∧
        ∀ field value, Chosen env entries field value → settings.Has field value := by
  have hthrough : Data.brokenKey? entries = none ∧
      readThrough .default env (namedValues entries) = .ok settings ↔
        (∀ field, ¬env.Undecoded .default field) ∧
          (∀ entry ∈ entries, ∃ field : Field, entry.1 = .text field.name) ∧
          ∀ field value, Chosen env entries field value → settings.Has field value := by
    rw [readThrough_eq_ok_iff, ← forall_known_iff hnames]
    tauto
  rw [← hthrough, readEntries_eq_ok_iff_read, read_of_plain hplain]
  split
  · exact Iff.rfl
  · rename_i hown
    -- The name of the settings as a whole is none of theirs.
    refine ⟨fun h => (nomatch h.2), fun h => absurd ?_ hown⟩
    rw [Option.isNone_iff_eq_none]
    refine List.lookup_eq_none_iff.2 fun entry hentry => bne_iff_ne.2 fun hsame => ?_
    rcases mem_names_iff.1 ((readThrough_eq_ok_iff.1 h.2).2.1 entry hentry) with ⟨field, hfield⟩
    cases field <;> exact absurd (hsame.trans hfield) (by decide)

theorem not_faulty_iff :
    ¬Faulty env entries ↔
      (∀ field, ¬env.Undecoded .default field) ∧
        (∀ entry ∈ entries, ∃ field : Field, entry.1 = .text field.name) ∧
        ∀ field value, Chosen env entries field value →
          ∃ settings : Settings, settings.Has field value := by
  constructor
  · intro hsound
    refine ⟨fun field h => hsound (.undecoded h), fun entry hentry => ?_, fun field value h => ?_⟩
    · by_contra hfield
      exact hsound (.unknown hentry (not_exists.1 hfield))
    · by_contra hsettings
      exact hsound (.invalid h (not_exists.1 hsettings))
  · rintro ⟨hdecoded, hknown, hvalid⟩ hfaulty
    cases hfaulty with
    | undecoded h => exact hdecoded _ h
    | unknown hmem h =>
      rcases hknown _ hmem with ⟨field, hfield⟩
      exact h field hfield
    | invalid hchosen h =>
      rcases hvalid _ _ hchosen with ⟨settings, hsettings⟩
      exact h settings hsettings

/-- There are settings just if nothing is wrong. -/
theorem exists_readEntries_eq_ok_iff (hplain : Plain entries)
    (hnames : ∀ entry ∈ entries, isName entry.1 = true) (further : OtherSources) :
    (∃ settings, readEntries env entries further = .ok settings) ↔ ¬Faulty env entries := by
  simp only [not_faulty_iff, readEntries_eq_ok_iff hplain hnames]
  constructor
  · rintro ⟨settings, hdecoded, hknown, hhas⟩
    exact ⟨hdecoded, hknown, fun field value hchosen => ⟨settings, hhas field value hchosen⟩⟩
  · rintro ⟨hdecoded, hknown, hvalid⟩
    choose value hchosen using exists_chosen env entries
    rcases exists_forall_has fun field => hvalid field _ (hchosen field) with ⟨settings, hhas⟩
    refine ⟨settings, hdecoded, hknown, fun field other hother => ?_⟩
    rw [hother.unique (hchosen field)]
    exact hhas field

/-! ## Hidden variables -/

/-- Two environments have the same variables, as far as these are seen: they agree on the variables
of lists, and on those of settings that the section gives nothing. -/
def AgreeBehind (entries : List (Data × Data)) (env env' : Environment) : Prop :=
  ∀ field : Field, field.isList = true ∨ field.valueIn? entries = none →
    ∀ text, env.Holds .default field text ↔ env'.Holds .default field text

/-- Values of the environment for the names that are kept. -/
def keptOf (keep : String → Bool) (values : Except Environment.Undecodable (List (String × Data))) :
    Except Environment.Undecodable (List (String × Data)) :=
  values.map fun others => others.filter fun other => keep other.1

theorem keptOf_cons {keep : String → Bool} {asked : List Field} :
    keptOf keep (env.valuesOf .default (field :: asked)) =
      (env.value? .default field).bind fun given =>
        (keptOf keep (env.valuesOf .default asked)).map fun rest =>
          (given.map fun value => (field.name, value)).toList.filter (fun other => keep other.1) ++
            rest := by
  rw [Environment.valuesOf_cons]
  cases env.value? .default field with
  | error why => rfl
  | ok given =>
    cases env.valuesOf .default asked with
    | error why => rfl
    | ok rest => exact congrArg Except.ok (List.filter_append _ _)

theorem keptOf_cons_of_hidden {keep : String → Bool} {asked : List Field}
    (hlist : field.isList = false) (hkeep : keep field.name = false) :
    keptOf keep (env.valuesOf .default (field :: asked)) =
      keptOf keep (env.valuesOf .default asked) := by
  have hdecoded : ¬env.Undecoded .default field := fun h =>
    Bool.false_ne_true (hlist.symm.trans h.1)
  rw [keptOf_cons]
  cases hgiven : env.value? .default field with
  | error why => exact absurd (Environment.exists_value?_eq_error_iff.1 ⟨why, hgiven⟩) hdecoded
  | ok given =>
    have hfilter : (given.map fun value => (field.name, value)).toList.filter
        (fun other => keep other.1) = [] := by
      cases given <;> simp [hkeep]
    rw [Except.bind, hfilter]
    cases keptOf keep (env.valuesOf .default asked) <;> rfl

theorem keptOf_valuesOf_eq {asked : List Field} {keep : String → Bool}
    (h : ∀ field, env.value? .default field = env'.value? .default field ∨
      (field.isList = false ∧ keep field.name = false)) :
    keptOf keep (env.valuesOf .default asked) = keptOf keep (env'.valuesOf .default asked) := by
  induction asked with
  | nil => rfl
  | cons field asked ih =>
    rcases h field with hsame | ⟨hlist, hkeep⟩
    · rw [keptOf_cons, keptOf_cons, hsame, ih]
    · rw [keptOf_cons_of_hidden hlist hkeep, keptOf_cons_of_hidden hlist hkeep, ih]

/-- Of the values of the environment, those with names that are given already do not matter. -/
theorem readThrough_eq_of_kept
    (h : keptOf (fun name => (fields.lookup name).isNone) (env.values .default) =
      keptOf (fun name => (fields.lookup name).isNone) (env'.values .default)) :
    readThrough .default env fields = readThrough .default env' fields := by
  have hread (env : Environment) : readThrough .default env fields =
      ((keptOf (fun name => (fields.lookup name).isNone) (env.values .default)).mapError
        SettingsError.undecodable).bind
          fun kept => (ofFields (fields ++ kept)).mapError .invalid := by
    unfold readThrough
    cases env.values .default <;> rfl
  rw [hread, hread, h]

theorem readThrough_eq_of_agreeBehind (h : AgreeBehind entries env env') :
    readThrough .default env (namedValues entries) =
      readThrough .default env' (namedValues entries) := by
  refine readThrough_eq_of_kept (keptOf_valuesOf_eq fun field => ?_)
  by_cases hseen : field.isList = true ∨ field.valueIn? entries = none
  · exact Or.inl (Environment.value?_eq_of_holds (h field hseen))
  · rw [not_or, valueIn?_eq_lookup, ← Option.isNone_iff_eq_none] at hseen
    exact Or.inr ⟨Bool.eq_false_iff.2 hseen.1, Bool.eq_false_iff.2 hseen.2⟩

/-- Settings are read alike in environments with the same variables as far as these are seen. -/
theorem readEntries_eq_of_agreeBehind (hplain : Plain entries) (h : AgreeBehind entries env env')
    (further : OtherSources) :
    readEntries env entries further = readEntries env' entries further := by
  unfold readEntries
  rw [read_of_plain hplain, read_of_plain hplain, readThrough_eq_of_agreeBehind h]

end Settings

end LiteralMarkdown
