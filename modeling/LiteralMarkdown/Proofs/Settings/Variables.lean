import LiteralMarkdown.Settings.Environment
import Mathlib.Data.List.Induction

/-!
# Variables of settings

What the environment gives the settings. The last variable with a name of a setting counts; that of
a list is decoded, and gives nothing if it holds null.

* `Environment.text?_eq_some_iff`: the text of the variable of a setting is the one it holds;
* `Environment.value?_eq_ok_some_iff`, `Environment.exists_value?_eq_error_iff`: what a variable
  gives its setting, and when it cannot be decoded;
* `Environment.lookup_of_values`, `Environment.exists_values_eq_error_iff`: the values of the
  environment are what the variables give, unless one of them cannot be decoded.
-/

namespace LiteralMarkdown

namespace Settings.Field

theorem mem_all (field : Field) : field ∈ all := by
  cases field <;> decide

theorem nodup_all : all.Nodup := by
  decide

theorem name_injective : Function.Injective name := by
  intro field other h
  cases field <;> cases other <;> first | rfl | exact absurd h (by decide)

end Settings.Field

/-- A variable can be that of a setting. -/
def Lookup.Sees (lookup : Lookup) (field : Settings.Field) (entry : String × String) : Prop :=
  lookup.finds field entry.1 = true ∧ ¬(lookup.skipEmpty = true ∧ entry.2 = "")

instance (lookup : Lookup) (field : Settings.Field) (entry : String × String) :
    Decidable (lookup.Sees field entry) := inferInstanceAs (Decidable (_ ∧ _))

namespace Environment

variable {env : Environment} {lookup : Lookup} {field : Settings.Field}
  {fields : List Settings.Field} {text : String} {value : Data} {others : List (String × Data)}

/-! ## The variable of a setting -/

/-- The variable of a setting holds a text: of all that it can be, the last one does. -/
def Holds (env : Environment) (lookup : Lookup) (field : Settings.Field) (text : String) : Prop :=
  ∃ before name behind, env = before ++ (name, text) :: behind ∧ lookup.Sees field (name, text) ∧
    ∀ other ∈ behind, ¬lookup.Sees field other

theorem text?_concat (env : Environment) (entry : String × String) :
    text? (env ++ [entry]) lookup field =
      if lookup.Sees field entry then some entry.2 else env.text? lookup field := by
  unfold text?
  rw [List.foldl_append]
  rfl

theorem holds_concat {entry : String × String} :
    Holds (env ++ [entry]) lookup field text ↔
      (lookup.Sees field entry ∧ entry.2 = text) ∨
        (¬lookup.Sees field entry ∧ env.Holds lookup field text) := by
  constructor
  · rintro ⟨before, name, behind, hsplit, hsees, hbehind⟩
    rcases List.eq_nil_or_concat behind with rfl | ⟨behind, last, rfl⟩
    · rcases List.append_inj' hsplit rfl with ⟨-, hentry⟩
      cases hentry
      exact Or.inl ⟨hsees, rfl⟩
    · rw [List.concat_eq_append] at hsplit hbehind
      rw [← List.cons_append, ← List.append_assoc] at hsplit
      rcases List.append_inj' hsplit rfl with ⟨henv, hentry⟩
      cases hentry
      refine Or.inr ⟨hbehind _ (List.mem_append_right _ (List.mem_singleton_self _)), ?_⟩
      exact ⟨before, name, behind, henv, hsees,
        fun other hother => hbehind other (List.mem_append_left _ hother)⟩
  · rintro (⟨hsees, rfl⟩ | ⟨hlast, before, name, behind, rfl, hsees, hbehind⟩)
    · exact ⟨env, entry.1, [], rfl, hsees, fun other hother => absurd hother List.not_mem_nil⟩
    · refine ⟨before, name, behind ++ [entry], by simp, hsees, fun other hother => ?_⟩
      rcases List.mem_append.1 hother with hother | hother
      · exact hbehind other hother
      · rw [List.mem_singleton.1 hother]
        exact hlast

/-- The text of the variable of a setting is the one it holds. -/
theorem text?_eq_some_iff : env.text? lookup field = some text ↔ env.Holds lookup field text := by
  induction env using List.reverseRecOn with
  | nil =>
    refine ⟨fun h => (nomatch h), ?_⟩
    rintro ⟨before, name, behind, hsplit, -⟩
    exact absurd hsplit.symm (List.append_ne_nil_of_right_ne_nil before (List.cons_ne_nil _ _))
  | append_singleton env entry ih =>
    rw [text?_concat, holds_concat, ← ih]
    by_cases hsees : lookup.Sees field entry
    · simp [hsees]
    · simp [hsees]

/-! ## What a variable gives its setting -/

/-- The environment gives a setting a value: null for the text that stands for it, what the variable
of a list is decoded to unless that is null, and the text itself of another variable. -/
inductive Gives (env : Environment) (lookup : Lookup) (field : Settings.Field) : Data → Prop where
  | null {text : String} (hholds : env.Holds lookup field text)
      (htext : lookup.nullText = some text) : Gives env lookup field .null
  | decoded {text : String} {value : Data} (hholds : env.Holds lookup field text)
      (htext : lookup.nullText ≠ some text) (hlist : field.isList = true)
      (hread : Json.read text.toList = .ok value) (hnull : value ≠ .null) :
      Gives env lookup field value
  | plain {text : String} (hholds : env.Holds lookup field text)
      (htext : lookup.nullText ≠ some text) (hlist : field.isList = false) :
      Gives env lookup field (.text text)

/-- The setting is a list and its variable does not hold JSON. -/
def Undecoded (env : Environment) (lookup : Lookup) (field : Settings.Field) : Prop :=
  field.isList = true ∧ ∃ text, env.Holds lookup field text ∧ lookup.nullText ≠ some text ∧
    ∃ fault, Json.read text.toList = .error fault

/-- The value of a variable is what it gives its setting. -/
theorem value?_eq_ok_some_iff :
    env.value? lookup field = .ok (some value) ↔ env.Gives lookup field value := by
  constructor
  · intro h
    unfold value? at h
    split at h
    · cases h
    · rename_i text htext
      have hholds := text?_eq_some_iff.1 htext
      split at h
      · cases h
        exact .null hholds ‹_›
      · split at h
        · split at h
          · cases h
          · cases h
          · cases h
            exact .decoded hholds ‹_› ‹_› ‹_› ‹_›
        · rename_i hlist
          cases h
          exact .plain hholds ‹_› (Bool.eq_false_iff.2 hlist)
  · intro h
    unfold value?
    cases h with
    | null hholds htext => simp [text?_eq_some_iff.2 hholds, htext]
    | decoded hholds htext hlist hread hnull =>
      simp [text?_eq_some_iff.2 hholds, htext, hlist, hread]
    | plain hholds htext hlist => simp [text?_eq_some_iff.2 hholds, htext, hlist]

theorem Gives.unique {other : Data} (h : env.Gives lookup field value)
    (h' : env.Gives lookup field other) : value = other := by
  have hsame := (value?_eq_ok_some_iff.2 h).symm.trans (value?_eq_ok_some_iff.2 h')
  exact Option.some.inj (Except.ok.inj hsame)

/-- The value of a variable depends on the text that it holds only. -/
theorem value?_eq_of_holds {env' : Environment}
    (h : ∀ text, env.Holds lookup field text ↔ env'.Holds lookup field text) :
    env.value? lookup field = env'.value? lookup field := by
  have htext : env.text? lookup field = env'.text? lookup field := by
    ext text
    rw [text?_eq_some_iff, text?_eq_some_iff]
    exact h text
  unfold value?
  rw [htext]

/-- A variable has no value if it cannot be decoded. -/
theorem exists_value?_eq_error_iff :
    (∃ why, env.value? lookup field = .error why) ↔ env.Undecoded lookup field := by
  constructor
  · rintro ⟨why, h⟩
    unfold value? at h
    split at h
    · cases h
    · rename_i text htext
      split at h
      · cases h
      · split at h
        · split at h
          · exact ⟨‹_›, text, text?_eq_some_iff.1 htext, ‹_›, _, ‹_›⟩
          · cases h
          · cases h
        · cases h
  · rintro ⟨hlist, text, hholds, htext, fault, hread⟩
    unfold value?
    exact ⟨⟨field, fault⟩, by simp [text?_eq_some_iff.2 hholds, htext, hlist, hread]⟩

/-! ## The values of the environment -/

theorem valuesOf_cons :
    env.valuesOf lookup (field :: fields) = (env.value? lookup field).bind fun value? =>
      (env.valuesOf lookup fields).map fun rest =>
        (value?.map fun value => (field.name, value)).toList ++ rest := rfl

theorem exists_of_valuesOf_cons (h : env.valuesOf lookup (field :: fields) = .ok others) :
    ∃ given rest, env.value? lookup field = .ok given ∧ env.valuesOf lookup fields = .ok rest ∧
      others = (given.map fun value => (field.name, value)).toList ++ rest := by
  rw [valuesOf_cons] at h
  cases hgiven : env.value? lookup field with
  | error why =>
    rw [hgiven] at h
    cases h
  | ok given =>
    cases hrest : env.valuesOf lookup fields with
    | error why =>
      rw [hgiven, hrest] at h
      cases h
    | ok rest =>
      rw [hgiven, hrest] at h
      exact ⟨given, rest, rfl, rfl, (Except.ok.inj h).symm⟩

theorem exists_valuesOf_eq_error_iff :
    (∃ why, env.valuesOf lookup fields = .error why) ↔
      ∃ field ∈ fields, env.Undecoded lookup field := by
  induction fields with
  | nil => simp [valuesOf]
  | cons field fields ih =>
    simp only [List.mem_cons, exists_eq_or_imp]
    rw [← ih, ← exists_value?_eq_error_iff, valuesOf_cons]
    cases env.value? lookup field with
    | error why => exact ⟨fun _ => Or.inl ⟨why, rfl⟩, fun _ => ⟨why, rfl⟩⟩
    | ok given =>
      cases env.valuesOf lookup fields with
      | error why => exact ⟨fun _ => Or.inr ⟨why, rfl⟩, fun _ => ⟨why, rfl⟩⟩
      | ok rest => simp [Except.bind, Except.map]

/-- No value of the environment has another name than those of the settings. -/
theorem exists_of_mem_valuesOf (h : env.valuesOf lookup fields = .ok others) :
    ∀ entry ∈ others, ∃ field ∈ fields, entry.1 = field.name := by
  induction fields generalizing others with
  | nil =>
    cases h
    simp
  | cons field fields ih =>
    rcases exists_of_valuesOf_cons h with ⟨given, rest, -, hrest, rfl⟩
    intro entry hentry
    rcases List.mem_append.1 hentry with hentry | hentry
    · refine ⟨field, List.mem_cons_self, ?_⟩
      cases given with
      | none => cases hentry
      | some value => rw [List.mem_singleton.1 hentry]
    · rcases ih hrest entry hentry with ⟨other, hother, hname⟩
      exact ⟨other, List.mem_cons_of_mem _ hother, hname⟩

theorem lookup_of_valuesOf (hnodup : fields.Nodup) (h : env.valuesOf lookup fields = .ok others)
    (hfield : field ∈ fields) : env.value? lookup field = .ok (others.lookup field.name) := by
  induction fields generalizing others with
  | nil => cases hfield
  | cons first fields ih =>
    rcases exists_of_valuesOf_cons h with ⟨given, rest, hgiven, hrest, rfl⟩
    rcases List.nodup_cons.1 hnodup with ⟨hfirst, hnodup⟩
    rw [List.lookup_append]
    rcases List.mem_cons.1 hfield with rfl | hfield
    · -- A setting that is asked only once has no other value behind.
      have hnone : rest.lookup field.name = none := by
        refine List.lookup_eq_none_iff.2 fun entry hentry => ?_
        rcases exists_of_mem_valuesOf hrest entry hentry with ⟨other, hother, hname⟩
        refine bne_iff_ne.2 fun hsame => hfirst ?_
        rw [Settings.Field.name_injective (hsame.trans hname)]
        exact hother
      rw [hgiven, hnone]
      cases given <;> simp
    · have hne : field.name ≠ first.name := fun hname =>
        hfirst (Settings.Field.name_injective hname ▸ hfield)
      rw [ih hnodup hrest hfield]
      cases given <;> simp [List.lookup_cons, beq_false_of_ne hne]

/-- The values of the environment are there unless one of them cannot be decoded. -/
theorem exists_values_eq_error_iff :
    (∃ why, env.values lookup = .error why) ↔ ∃ field, env.Undecoded lookup field := by
  unfold values
  rw [exists_valuesOf_eq_error_iff]
  simp only [Settings.Field.mem_all, true_and]

/-- Among the values of the environment a setting has what its variable gives. -/
theorem lookup_of_values (h : env.values lookup = .ok others) :
    others.lookup field.name = some value ↔ env.Gives lookup field value := by
  rw [← value?_eq_ok_some_iff,
    lookup_of_valuesOf Settings.Field.nodup_all h (Settings.Field.mem_all field), Except.ok.injEq]

end Environment

end LiteralMarkdown
