import LiteralMarkdown.Proofs.Command.Notes
import LiteralMarkdown.Proofs.Command.Steps
import LiteralMarkdown.Proofs.Files
import LiteralMarkdown.Proofs.Json.Written
import Mathlib.Order.WellFounded

/-!
# The stages of a request for a tree

A request for a tree goes through six stages, and several of them can have a reason to fail at once.
The run ends with the failure of the first one, and has then printed nothing and written nothing.
If no stage fails then the result has been printed, or it is the text of the target, and no other
file has changed.

* `TreeRequest.FailsAt`: a stage fails, whatever becomes of the others;
* `TreeRequest.FirstFailure.unique`: at most one failure is the first one;
* `TreeRequest.FirstFailure.deliver_eq`: a request comes to its first failure;
* `TreeRequest.Passes.deliver_of_no_target`, `TreeRequest.Passes.deliver_of_target`: what a request
  comes to if no stage fails;
* `tree_run_of_stages`: what a run leaves in either case.

The note that a target has been written quotes its path as markup. If that cannot be shown then the
run does not end well, though no stage has failed and the target has been written.
-/

namespace LiteralMarkdown.Command

/-- The stages of a request for a tree. -/
inductive Stage where
  | configuration
  | level
  | reading
  | json
  | escaping
  | output
deriving DecidableEq, Repr

/-- How many stages come before a stage. -/
def Stage.index : Stage → Nat
  | .configuration => 0
  | .level => 1
  | .reading => 2
  | .json => 3
  | .escaping => 4
  | .output => 5

namespace TreeRequest

/-! ## Failures of stages -/

/-- A stage of a request fails, if the earlier ones come to what it needs of them. Several stages
can fail at once. -/
inductive FailsAt (request : TreeRequest) (s : Surroundings) : Stage → Failure → Prop where
  | configuration {failure : Failure} (h : s.settings request.overrides = .error failure) :
      FailsAt request s .configuration failure
  | level {settings : Settings} (hsettings : s.settings request.overrides = .ok settings)
      (h : isLevel settings.logLevel = false) :
      FailsAt request s .level (.unknownLevel settings.logLevel)
  | reading {failure : Failure} (h : request.document s = .error failure) :
      FailsAt request s .reading failure
  | json {text : String} {fault : Json.Fault} (htext : request.document s = .ok text)
      (h : Json.read text.toList = .error fault) :
      FailsAt request s .json (.notJson request.source text fault)
  | escaping {settings : Settings} {text : String} {document : Data} {e : TreeError}
      (hsettings : s.settings request.overrides = .ok settings)
      (htext : request.document s = .ok text) (hread : Json.read text.toList = .ok document)
      (h : escapeDocument settings document = .error e) : FailsAt request s .escaping (.refused e)
  /-- There is no room for the layout. -/
  | layout {failure : Failure} (h : request.layout = .error failure) :
      FailsAt request s .output failure
  /-- The result is for the output, and cannot be encoded. -/
  | encoding {layout : Json.Layout} (hlayout : request.layout = .ok layout)
      (htarget : request.target = none) (h : request.result s = .ok none) :
      FailsAt request s .output .unencodable
  /-- The target cannot be written to. -/
  | writing {layout : Json.Layout} {target : String} {problem : Files.Problem}
      (hlayout : request.layout = .ok layout) (htarget : request.target = some target)
      (h : s.files.write (Path.ofText target) "" = .error problem) :
      FailsAt request s .output (.unwritable problem)

/-- A stage fails, and none before it does. -/
structure FirstFailure (request : TreeRequest) (s : Surroundings) (stage : Stage)
    (failure : Failure) : Prop where
  fails : request.FailsAt s stage failure
  clear : ∀ earlier other, earlier.index < stage.index → ¬request.FailsAt s earlier other

/-- No stage fails. -/
def Passes (request : TreeRequest) (s : Surroundings) : Prop :=
  ∀ stage failure, ¬request.FailsAt s stage failure

/-- A target is written whole or not at all: a result that cannot be encoded has no target, or one
that cannot be written to. -/
def WritesWhole (request : TreeRequest) (s : Surroundings) : Prop :=
  request.written s = .ok none → ∀ target, request.target = some target →
    ∃ problem, s.files.write (Path.ofText target) "" = .error problem

/-- The result is the text of the target in some files, in its written form, and all other files
have the texts that they had before the run. -/
def WritesTo (request : TreeRequest) (s : Surroundings) (target : String) (files : Files) : Prop :=
  ∃ escaped layout, request.result s = .ok (some escaped) ∧ request.layout = .ok layout ∧
    ∀ place, files.textAt? place =
      if place = (Path.ofText target).place then some (escaped.write layout ++ "\n")
      else s.files.textAt? place

end TreeRequest

/-- The message that a target has been written. -/
def writtenMessage (target : String) : String := "Wrote " ++ (Path.ofText target).text

variable {s : Surroundings} {request : TreeRequest} {stage stage' : Stage}
  {failure failure' : Failure}

namespace TreeRequest

/-! ## The first failure -/

/-- A stage fails in one way only. -/
theorem FailsAt.unique (h : request.FailsAt s stage failure)
    (h' : request.FailsAt s stage failure') : failure = failure' := by
  cases h with
  | configuration hsettings =>
    cases h' with
    | configuration hsettings' => exact Except.error.inj (hsettings.symm.trans hsettings')
  | level hsettings hlevel =>
    cases h' with
    | level hsettings' hlevel' =>
      cases hsettings.symm.trans hsettings'
      rfl
  | reading hdocument =>
    cases h' with
    | reading hdocument' => exact Except.error.inj (hdocument.symm.trans hdocument')
  | json hdocument hread =>
    cases h' with
    | json hdocument' hread' =>
      cases hdocument.symm.trans hdocument'
      cases hread.symm.trans hread'
      rfl
  | escaping hsettings hdocument hread hescape =>
    cases h' with
    | escaping hsettings' hdocument' hread' hescape' =>
      cases hsettings.symm.trans hsettings'
      cases hdocument.symm.trans hdocument'
      cases hread.symm.trans hread'
      cases hescape.symm.trans hescape'
      rfl
  -- In the output the layout comes first, and what is next depends on the target.
  | layout hlayout =>
    cases h' with
    | layout hlayout' => exact Except.error.inj (hlayout.symm.trans hlayout')
    | encoding hlayout' => cases hlayout.symm.trans hlayout'
    | writing hlayout' => cases hlayout.symm.trans hlayout'
  | encoding hlayout htarget =>
    cases h' with
    | layout hlayout' => cases hlayout.symm.trans hlayout'
    | encoding => rfl
    | writing _ htarget' => cases htarget.symm.trans htarget'
  | writing hlayout htarget hwrite =>
    cases h' with
    | layout hlayout' => cases hlayout.symm.trans hlayout'
    | encoding _ htarget' => cases htarget.symm.trans htarget'
    | writing _ htarget' hwrite' =>
      cases htarget.symm.trans htarget'
      cases hwrite.symm.trans hwrite'
      rfl

/-- There is at most one first failure. -/
theorem FirstFailure.unique (h : request.FirstFailure s stage failure)
    (h' : request.FirstFailure s stage' failure') : stage = stage' ∧ failure = failure' := by
  have hindex : stage.index = stage'.index := by
    rcases Nat.lt_trichotomy stage.index stage'.index with hlt | heq | hgt
    · exact absurd h.fails (h'.clear stage failure hlt)
    · exact heq
    · exact absurd h'.fails (h.clear stage' failure' hgt)
  have hstage : stage = stage' := by
    cases stage <;> cases stage' <;> first | rfl | cases hindex
  subst hstage
  exact ⟨rfl, h.fails.unique h'.fails⟩

/-- If stages fail then one of them is the first. -/
theorem exists_firstFailure (h : ¬request.Passes s) :
    ∃ stage failure, request.FirstFailure s stage failure := by
  have hsome : ∃ stage failure, request.FailsAt s stage failure := by
    by_contra hnone
    exact h fun stage failure hfails => hnone ⟨stage, failure, hfails⟩
  have hwf : WellFounded (InvImage (· < ·) Stage.index) := InvImage.wf Stage.index Nat.lt_wfRel.wf
  rcases hwf.has_min {stage | ∃ failure, request.FailsAt s stage failure} hsome with
    ⟨stage, ⟨failure, hfails⟩, hmin⟩
  exact ⟨stage, failure, hfails, fun earlier other hlt hfails => hmin earlier ⟨other, hfails⟩ hlt⟩

/-! ## What stages come to -/

theorem exists_ok {ε α : Type} {x : Except ε α} (h : ∀ e, x ≠ .error e) : ∃ a, x = .ok a := by
  cases x with
  | error e => exact absurd rfl (h e)
  | ok a => exact ⟨a, rfl⟩

/-- Before the reading there are settings with a level that exists. -/
theorem exists_settings (hclear : ∀ stage failure, stage.index < Stage.reading.index →
      ¬request.FailsAt s stage failure) :
    ∃ settings, s.settings request.overrides = .ok settings ∧
      isLevel settings.logLevel = true := by
  have hsettings : ∃ settings, s.settings request.overrides = .ok settings :=
    exists_ok fun failure herror =>
      hclear .configuration failure (by decide) (.configuration herror)
  rcases hsettings with ⟨settings, hsettings⟩
  refine ⟨settings, hsettings, ?_⟩
  cases hlevel : isLevel settings.logLevel with
  | true => rfl
  | false => exact absurd (.level hsettings hlevel) (hclear .level _ (by decide))

/-- Before the escaping there are settings and a document. -/
theorem exists_ready (haskable : request.hasAskableTarget = true)
    (hclear : ∀ stage failure, stage.index < Stage.escaping.index →
      ¬request.FailsAt s stage failure) :
    ∃ settings text document, request.Ready s settings text document := by
  have hbefore (stage : Stage) (failure : Failure) (hlt : stage.index < Stage.reading.index) :
      ¬request.FailsAt s stage failure :=
    hclear stage failure (Nat.lt_trans hlt (by decide))
  rcases exists_settings hbefore with ⟨settings, hsettings, hlevel⟩
  have htext : ∃ text, request.document s = .ok text :=
    exists_ok fun failure herror => hclear .reading failure (by decide) (.reading herror)
  rcases htext with ⟨text, htext⟩
  have hread : ∃ document, Json.read text.toList = .ok document :=
    exists_ok fun fault herror => hclear .json _ (by decide) (.json htext herror)
  rcases hread with ⟨document, hread⟩
  exact ⟨settings, text, document, haskable, hsettings, hlevel, htext, hread⟩

/-- Before the output there is a result, though it may be one that cannot be encoded. -/
theorem exists_result (haskable : request.hasAskableTarget = true)
    (hclear : ∀ stage failure, stage.index < Stage.output.index →
      ¬request.FailsAt s stage failure) : ∃ escaped?, request.result s = .ok escaped? := by
  have hbefore (stage : Stage) (failure : Failure) (hlt : stage.index < Stage.escaping.index) :
      ¬request.FailsAt s stage failure :=
    hclear stage failure (Nat.lt_trans hlt (by decide))
  rcases exists_ready haskable hbefore with ⟨settings, text, document, hready⟩
  have hescaped : ∃ escaped?, escapeDocument settings document = .ok escaped? :=
    exists_ok fun e herror => hclear .escaping _ (by decide)
      (.escaping hready.settings_eq hready.document_eq hready.read_eq herror)
  rcases hescaped with ⟨escaped?, hescaped⟩
  refine ⟨escaped?, ?_⟩
  rw [hready.result_eq, hescaped]
  rfl

/-- If no stage fails then there are a result and a layout. -/
theorem Passes.exists_result (h : request.Passes s) (haskable : request.hasAskableTarget = true) :
    ∃ escaped? layout, request.result s = .ok escaped? ∧ request.layout = .ok layout := by
  rcases TreeRequest.exists_result haskable fun stage failure _ => h stage failure with
    ⟨escaped?, hresult⟩
  have hlayout : ∃ layout, request.layout = .ok layout :=
    exists_ok fun failure herror => h .output failure (.layout herror)
  rcases hlayout with ⟨layout, hlayout⟩
  exact ⟨escaped?, layout, hresult, hlayout⟩

/-- No stage fails if there is a result that can be encoded, and the target can be written to. -/
theorem Ready.passes {settings : Settings} {text : String} {document : Data} {escaped : Json}
    {layout : Json.Layout} (h : request.Ready s settings text document)
    (hresult : request.result s = .ok (some escaped)) (hlayout : request.layout = .ok layout)
    (hwritable : ∀ target, request.target = some target →
      ∃ files, s.files.write (Path.ofText target) "" = .ok files) : request.Passes s := by
  intro stage failure hfails
  cases hfails with
  | configuration hsettings => cases h.settings_eq.symm.trans hsettings
  | level hsettings hlevel =>
    cases h.settings_eq.symm.trans hsettings
    exact absurd h.level (Bool.eq_false_iff.1 hlevel)
  | reading hdocument => cases h.document_eq.symm.trans hdocument
  | json hdocument hread =>
    cases h.document_eq.symm.trans hdocument
    cases h.read_eq.symm.trans hread
  | escaping hsettings hdocument hread hescape =>
    cases h.settings_eq.symm.trans hsettings
    cases h.document_eq.symm.trans hdocument
    cases h.read_eq.symm.trans hread
    rw [h.result_eq, hescape] at hresult
    cases hresult
  | layout herror => cases hlayout.symm.trans herror
  | encoding _ _ hhalf => cases hresult.symm.trans hhalf
  | writing _ htarget hwrite =>
    rcases hwritable _ htarget with ⟨files, hfiles⟩
    cases hfiles.symm.trans hwrite

/-! ## What a request comes to -/

/-- A request comes to its first failure. -/
theorem FirstFailure.deliver_eq (h : request.FirstFailure s stage failure)
    (haskable : request.hasAskableTarget = true) :
    request.deliver s = .failing failure s.wording s.files := by
  rcases h with ⟨hfails, hclear⟩
  -- The clear stages before the failing one come to what the request has in hand when it fails.
  cases hfails with
  | configuration hsettings =>
    apply deliver_of_task_error
    rw [task_eq haskable, hsettings]
    rfl
  | level hsettings hlevel =>
    apply deliver_of_task_error
    rw [task_eq haskable, hsettings]
    show (if isLevel _ then _ else _) = _
    rw [hlevel]
    rfl
  | reading hdocument =>
    rcases exists_settings hclear with ⟨settings, hsettings, hlevel⟩
    apply deliver_of_task_error
    rw [task_eq_of_settings haskable hsettings hlevel, hdocument]
    rfl
  | json hdocument hread =>
    rcases exists_settings fun stage failure hlt =>
      hclear stage failure (Nat.lt_trans hlt (by decide)) with ⟨settings, hsettings, hlevel⟩
    apply deliver_of_task_error
    rw [task_eq_of_settings haskable hsettings hlevel, hdocument]
    show Except.map _ (Except.mapError _ (Json.read _)) = _
    rw [hread]
    rfl
  | escaping hsettings hdocument hread hescape =>
    rcases exists_ready haskable hclear with ⟨settings, text, document, hready⟩
    cases hready.settings_eq.symm.trans hsettings
    cases hready.document_eq.symm.trans hdocument
    cases hready.read_eq.symm.trans hread
    apply deliver_of_error (written_of_result_error _)
    rw [hready.result_eq, hescape]
    rfl
  | layout hlayout =>
    rcases exists_result haskable hclear with ⟨escaped?, hresult⟩
    apply deliver_of_error
    unfold written
    rw [hresult, hlayout]
    rfl
  | encoding hlayout htarget hhalf =>
    unfold deliver
    rw [written_of_result hhalf hlayout, htarget]
    rfl
  | writing hlayout htarget hwrite =>
    rcases exists_result haskable hclear with ⟨escaped?, hresult⟩
    unfold deliver
    rw [written_of_result hresult hlayout, htarget]
    simp only [Files.write_error_of_write_error hwrite]

/-- If no stage fails and the result is for the output, then it is printed. -/
theorem Passes.deliver_of_no_target (h : request.Passes s)
    (haskable : request.hasAskableTarget = true) (htarget : request.target = none) :
    ∃ escaped layout, request.result s = .ok (some escaped) ∧ request.layout = .ok layout ∧
      request.deliver s = .printing (escaped.write layout ++ "\n") s.files := by
  rcases h.exists_result haskable with ⟨escaped?, layout, hresult, hlayout⟩
  cases escaped? with
  | none => exact absurd (.encoding hlayout htarget hresult) (h .output _)
  | some escaped =>
    refine ⟨escaped, layout, hresult, hlayout, ?_⟩
    unfold deliver
    rw [written_of_result hresult hlayout, htarget,
      ← printed_eq (Json.escape_not_mem_write layout escaped)]
    rfl

/-- If no stage fails and the result has a target, then it is written there. -/
theorem Passes.deliver_of_target {target : String} (h : request.Passes s)
    (haskable : request.hasAskableTarget = true) (hwhole : request.WritesWhole s)
    (htarget : request.target = some target) :
    ∃ files, request.WritesTo s target files ∧
      request.deliver s = .noting .finished '✓' (writtenMessage target) files := by
  rcases h.exists_result haskable with ⟨escaped?, layout, hresult, hlayout⟩
  have hwritten := written_of_result hresult hlayout
  have hwritable (problem : Files.Problem) :
      s.files.write (Path.ofText target) "" ≠ .error problem := fun hwrite =>
    h .output _ (.writing hlayout htarget hwrite)
  cases escaped? with
  | none =>
    -- A result that cannot be encoded would have a target that cannot be written to.
    rcases hwhole hwritten target htarget with ⟨problem, hwrite⟩
    exact absurd hwrite (hwritable problem)
  | some escaped =>
    have hfiles : ∃ files,
        s.files.write (Path.ofText target) (escaped.write layout ++ "\n") = .ok files :=
      exists_ok fun problem hwrite => hwritable problem (Files.write_error_of_write_error hwrite "")
    rcases hfiles with ⟨files, hfiles⟩
    refine ⟨files, ⟨escaped, layout, hresult, hlayout, Files.textAt?_write hfiles⟩, ?_⟩
    unfold deliver
    rw [hwritten, htarget]
    simp only [Option.map_some, Option.getD_some, hfiles]
    rfl

end TreeRequest

/-! ## The run -/

/-- A run that does not end well prints nothing. Either a stage fails: then all files are as they
were, and the run ends with the failure of the first stage that fails. Or no stage fails and the
target has been written, but the note of that cannot be shown. In a run that ends well no stage
fails. The result in its written form is then in the output, or else in the file at the target,
which may be the document itself; nothing else has changed. Of a target it is assumed that its path
can be asked for, and that it is written whole or not at all. -/
theorem tree_run_of_stages {words : List String}
    (hwords : Invocation.ofWords? words = some (.tree request))
    (haskable : request.hasAskableTarget = true) (hwhole : request.WritesWhole s) :
    ((run words s).status ≠ 0 → (run words s).output = "" ∧
      ((∃ stage failure, request.FirstFailure s stage failure ∧ (run words s).files = s.files ∧
          failure.EndsWith s.wording (run words s).ending (run words s).note) ∨
        request.Passes s ∧ ∃ target, request.target = some target ∧
          request.WritesTo s target (run words s).files ∧
          note? '✓' (writtenMessage target) = none ∧
          (run words s).ending = .unshowable ∧ (run words s).note = none)) ∧
    ((run words s).status = 0 → request.Passes s ∧
      (request.target = none → (run words s).files = s.files ∧
        ∃ escaped layout, request.result s = .ok (some escaped) ∧ request.layout = .ok layout ∧
          (run words s).output = escaped.write layout ++ "\n") ∧
      ∀ target, request.target = some target → (run words s).output = "" ∧
        request.WritesTo s target (run words s).files ∧
        (run words s).note ≠ none ∧ (run words s).note = note? '✓' (writtenMessage target)) := by
  have hrun : run words s = { request.deliver s with log := request.log s } := by
    rw [run, hwords]
    rfl
  rw [hrun]
  by_cases hpasses : request.Passes s
  · cases htarget : request.target with
    | none =>
      -- The result is printed, and the run ends well.
      rcases hpasses.deliver_of_no_target haskable htarget with
        ⟨escaped, layout, hresult, hlayout, hdeliver⟩
      rw [hdeliver]
      refine ⟨fun hstatus => absurd rfl hstatus, fun _ => ⟨hpasses, ?_, nofun⟩⟩
      intro _
      exact ⟨rfl, escaped, layout, hresult, hlayout, rfl⟩
    | some target =>
      -- The target is written, and how the run ends depends on the note.
      rcases hpasses.deliver_of_target haskable hwhole htarget with ⟨files, hwrites, hdeliver⟩
      rcases noting_cases .finished '✓' (writtenMessage target) files with
        ⟨note, hnote, hnoting⟩ | ⟨hnote, hnoting⟩
      · rw [hdeliver, hnoting]
        refine ⟨fun hstatus => absurd rfl hstatus, fun _ => ⟨hpasses, nofun, ?_⟩⟩
        rintro target' ⟨⟩
        exact ⟨rfl, hwrites, Option.some_ne_none note, hnote.symm⟩
      · rw [hdeliver, hnoting]
        refine ⟨fun _ => ⟨rfl, Or.inr ⟨hpasses, target, rfl, hwrites, hnote, rfl, rfl⟩⟩, ?_⟩
        intro hstatus
        cases hstatus
  · -- Some stage fails, and the first one that does ends the run.
    rcases TreeRequest.exists_firstFailure hpasses with ⟨stage, failure, hfirst⟩
    rcases exists_failing_eq failure s.wording s.files with ⟨ending, note, hends, hfailing⟩
    rw [hfirst.deliver_eq haskable, hfailing]
    refine ⟨fun _ => ⟨rfl, Or.inl ⟨stage, failure, hfirst, rfl, hends⟩⟩, fun hstatus => ?_⟩
    cases hends with
    | unworded => cases hstatus
    | noted => cases hstatus
    | unshowable => cases hstatus

/-! ### A document and its targets -/

/-- The document of the text `*a*` in a file, and a directory with a bracket in its name. -/
def starredFile : Surroundings where
  env := []
  files := .ofList [("a.json", "\x7b\"type\": \"text\", \"value\": \"*a*\"\x7d"), ("d[/keep", "k")]
  input := ""

/-- The request to escape the document into a target. -/
def starredRequest (target : String) : TreeRequest := ⟨"a.json", some target, none, none, false⟩

theorem locate_starredFile :
    starredFile.files.locate (Path.ofText "a.json") = .ok ⟨false, 0, ["a.json"]⟩ := by
  have hpath : Path.ofText "a.json" = ⟨"", ["a.json"]⟩ := by decide
  rw [hpath]
  apply Files.locate_of_clear
  · simp [Path.text]
  · decide
  · decide

section

variable {target : String}

theorem ready_starred (haskable : (starredRequest target).hasAskableTarget = true) :
    (starredRequest target).Ready starredFile .default
      "\x7b\"type\": \"text\", \"value\": \"*a*\"\x7d"
      (Json.object [("type", .string "text"), ("value", .string "*a*")]).toData where
  askable := haskable
  settings_eq := settings_eq_default rfl (by decide)
  level := by decide
  document_eq := by
    unfold TreeRequest.document Files.read
    show ((Except.mapError _ (starredFile.files.locate (Path.ofText "a.json") >>= _)) >>= _) = _
    rw [locate_starredFile]
    rfl
  read_eq := rfl

theorem result_starred (haskable : (starredRequest target).hasAskableTarget = true) :
    (starredRequest target).result starredFile =
      .ok (some (.object [("type", .string "text"), ("value", .string "\\*a\\*")])) := by
  rw [(ready_starred haskable).result_of_tree]
  rfl

theorem passes_starred (haskable : (starredRequest target).hasAskableTarget = true)
    {place : Place} (hlocate : starredFile.files.locate (Path.ofText target) = .ok place)
    (hfile : starredFile.files.isDirectory place = false) :
    (starredRequest target).Passes starredFile := by
  have hlayout : (starredRequest target).layout = .ok .line := rfl
  apply (ready_starred haskable).passes (result_starred haskable) hlayout
  rintro target' ⟨⟩
  refine ⟨starredFile.files.put place "", ?_⟩
  rw [Files.write_of_locate hlocate, hfile]
  rfl

theorem writesWhole_starred (haskable : (starredRequest target).hasAskableTarget = true) :
    (starredRequest target).WritesWhole starredFile := by
  intro hwritten
  have hlayout : (starredRequest target).layout = .ok .line := rfl
  rw [TreeRequest.written_of_result (result_starred haskable) hlayout] at hwritten
  cases hwritten

end

/-- A document that is its own target. -/
theorem tree_run_of_stages_in_place :
    (run ["tree", "a.json", "-o", "a.json"] starredFile).output = "" ∧
    (run ["tree", "a.json", "-o", "a.json"] starredFile).files.textAt? ⟨false, 0, ["a.json"]⟩ =
      some ((Json.object [("type", .string "text"), ("value", .string "\\*a\\*")]).write .line ++
        "\n") := by
  have hwords : Invocation.ofWords? ["tree", "a.json", "-o", "a.json"] =
      some (.tree (starredRequest "a.json")) := by decide
  have haskable : (starredRequest "a.json").hasAskableTarget = true := by
    simp [TreeRequest.hasAskableTarget, starredRequest]
  have hpasses := passes_starred haskable locate_starredFile (by decide)
  rcases tree_run_of_stages hwords haskable (writesWhole_starred haskable) with ⟨hfails, hends⟩
  have hstatus : (run ["tree", "a.json", "-o", "a.json"] starredFile).status = 0 := by
    by_contra hstatus
    rcases (hfails hstatus).2 with ⟨stage, failure, hfirst, -⟩ | ⟨-, target, htarget, -, hnone, -⟩
    · exact hpasses stage failure hfirst.fails
    · cases htarget
      rcases exists_note_of_isPlain '✓' (isPlain_of_not_mem
        (by decide : '[' ∉ (writtenMessage "a.json").toList)) with ⟨note, hnote⟩
      cases hnone.symm.trans hnote
  rcases (hends hstatus).2.2 "a.json" rfl with
    ⟨houtput, ⟨escaped, layout, hresult, hlayout, hfiles⟩, -⟩
  cases hresult.symm.trans (result_starred haskable)
  cases hlayout
  refine ⟨houtput, ?_⟩
  rw [hfiles]
  rfl

/-- A target whose path reads as a closing tag: no stage fails and the target is written, and yet
the run does not end well. -/
theorem exists_written_unshown :
    (starredRequest "d[/].json").Passes starredFile ∧
    (starredRequest "d[/].json").WritesWhole starredFile ∧
    (run ["tree", "a.json", "-o", "d[/].json"] starredFile).status ≠ 0 ∧
    (run ["tree", "a.json", "-o", "d[/].json"] starredFile).note = none ∧
    (run ["tree", "a.json", "-o", "d[/].json"] starredFile).files.textAt?
      ⟨false, 0, ["d[", "].json"]⟩ ≠ starredFile.files.textAt? ⟨false, 0, ["d[", "].json"]⟩ := by
  have hwords : Invocation.ofWords? ["tree", "a.json", "-o", "d[/].json"] =
      some (.tree (starredRequest "d[/].json")) := by decide
  have haskable : (starredRequest "d[/].json").hasAskableTarget = true := by
    simp [TreeRequest.hasAskableTarget, starredRequest]
  have hpath : Path.ofText "d[/].json" = ⟨"", ["d[", "].json"]⟩ := by decide
  have hlocate : starredFile.files.locate (Path.ofText "d[/].json") =
      .ok ⟨false, 0, ["d[", "].json"]⟩ := by
    rw [hpath]
    apply Files.locate_of_clear
    · simp [Path.text]
    · decide
    · decide
  have hpasses := passes_starred haskable hlocate (by decide)
  have hwhole := writesWhole_starred haskable
  rcases hpasses.deliver_of_target haskable hwhole rfl with ⟨files, hwrites, hdeliver⟩
  have hmessage : writtenMessage "d[/].json" = "Wrote d[/].json" := by
    rw [writtenMessage, hpath]
    simp [Path.text]
  have hnote : note? '✓' (writtenMessage "d[/].json") = none := by
    rw [hmessage]
    decide +kernel
  have hrun : run ["tree", "a.json", "-o", "d[/].json"] starredFile =
      ⟨.unshowable, "", (starredRequest "d[/].json").log starredFile, none, files⟩ := by
    unfold run
    rw [hwords]
    show TreeRequest.run _ _ = _
    unfold TreeRequest.run
    rw [hdeliver]
    unfold Outcome.noting
    rw [hnote]
  rw [hrun]
  refine ⟨hpasses, hwhole, Nat.one_ne_zero, rfl, ?_⟩
  rcases hwrites with ⟨escaped, layout, -, -, hfiles⟩
  have habsent : starredFile.files.textAt? ⟨false, 0, ["d[", "].json"]⟩ = none := by decide
  have hplace : (Path.ofText "d[/].json").place = ⟨false, 0, ["d[", "].json"]⟩ := by decide
  rw [habsent]
  show files.textAt? _ ≠ none
  rw [hfiles, if_pos hplace.symm]
  exact Option.some_ne_none _

end LiteralMarkdown.Command
