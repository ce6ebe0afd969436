import LiteralMarkdown.Command.Run
import LiteralMarkdown.Proofs.Tree.Document

/-!
# The steps of a request for a tree

A request for a tree goes from its settings and its document to the escaped tree, and from that to
its written form. These lemmas say what each of its functions gives when the
steps before it are known to have come to something, and what it gives at the first step that comes
to nothing.

* `TreeRequest.Ready`: settings and document are there;
* `TreeRequest.written_of_result`: what is written once the tree has been escaped;
* `settings_eq_default`: where nothing is set, the settings are the default ones.
-/

namespace LiteralMarkdown.Command

variable {s : Surroundings} {request : TreeRequest} {settings : Settings} {text : String}
  {document : Data} {tree : Json} {escaped? : Option Json} {layout : Json.Layout}
  {failure : Failure}

namespace TreeRequest

/-- What a request replaces in the settings. -/
def overrides (request : TreeRequest) : Overrides :=
  ⟨request.maxLength, if request.verbose then some "DEBUG" else none⟩

/-- Of the task of a request come first the settings, then their level, then the document. -/
theorem task_eq (h : request.hasAskableTarget = true) :
    request.task s = s.settings request.overrides >>= fun settings =>
      if isLevel settings.logLevel then
        request.document s >>= fun text =>
          ((Json.read text.toList).mapError (.notJson request.source text)).map (settings, ·)
      else .error (.unknownLevel settings.logLevel) := by
  unfold task
  rw [h]
  show (s.settings request.overrides >>= _) = _
  cases s.settings request.overrides with
  | error failure => rfl
  | ok settings =>
    show (if !isLevel settings.logLevel then _ else _) = if isLevel settings.logLevel then _ else _
    cases isLevel settings.logLevel with
    | false => rfl
    | true =>
      show (request.document s >>= _) = (request.document s >>= _)
      cases request.document s with
      | error failure => rfl
      | ok text =>
        show (Except.mapError _ (Json.read text.toList) >>= _) =
          Except.map _ (Except.mapError _ (Json.read text.toList))
        cases Json.read text.toList with
        | error fault => rfl
        | ok document => rfl

/-- Once there are settings with a level that exists, the document comes next. -/
theorem task_eq_of_settings (h : request.hasAskableTarget = true)
    (hsettings : s.settings request.overrides = .ok settings)
    (hlevel : isLevel settings.logLevel = true) :
    request.task s = request.document s >>= fun text =>
      ((Json.read text.toList).mapError (.notJson request.source text)).map (settings, ·) := by
  rw [task_eq h, hsettings]
  show (if isLevel settings.logLevel then _ else _) = _
  rw [if_pos hlevel]

/-- The request has settings with a level that exists, and a document that is JSON. -/
structure Ready (request : TreeRequest) (s : Surroundings) (settings : Settings) (text : String)
    (document : Data) : Prop where
  askable : request.hasAskableTarget = true
  settings_eq : s.settings request.overrides = .ok settings
  level : isLevel settings.logLevel = true
  document_eq : request.document s = .ok text
  read_eq : Json.read text.toList = .ok document

theorem Ready.task_eq (h : request.Ready s settings text document) :
    request.task s = .ok (settings, document) := by
  rw [task_eq_of_settings h.askable h.settings_eq h.level, h.document_eq]
  show Except.map _ (Except.mapError _ (Json.read text.toList)) = _
  rw [h.read_eq]
  rfl

theorem Ready.result_eq (h : request.Ready s settings text document) :
    request.result s = (escapeDocument settings document).mapError .refused := by
  unfold result
  rw [h.task_eq]
  rfl

/-- The result of a document that is a tree is that of the tree. -/
theorem Ready.result_of_tree (h : request.Ready s settings text tree.toData) :
    request.result s =
      ((escapeTree settings tree).map fun done => some done.1).mapError .refused := by
  rw [h.result_eq, escapeDocument_toData]

/-- The written form of a result, if it can be encoded. -/
theorem written_of_result (hresult : request.result s = .ok escaped?)
    (hlayout : request.layout = .ok layout) :
    request.written s = .ok (escaped?.map (·.write layout)) := by
  unfold written
  rw [hresult, hlayout]
  rfl

/-- Nothing is written if there is no result. -/
theorem written_of_result_error (h : request.result s = .error failure) :
    request.written s = .error failure := by
  unfold written
  rw [h]
  rfl

theorem result_of_task_error (h : request.task s = .error failure) :
    request.result s = .error failure := by
  unfold result
  rw [h]
  rfl

/-- The outcome of a request that comes to nothing is that of its failure. -/
theorem deliver_of_error (h : request.written s = .error failure) :
    request.deliver s = .failing failure s.wording s.files := by
  unfold deliver
  rw [h]

theorem deliver_of_task_error (h : request.task s = .error failure) :
    request.deliver s = .failing failure s.wording s.files :=
  deliver_of_error (written_of_result_error (result_of_task_error h))

end TreeRequest

/-! ## Outcomes -/

/-- A failure whose note shows leaves its note, and nothing else. -/
theorem Outcome.failing_eq {wording : Wording} {message note : String}
    (hmessage : failure.message? wording = some message) (hnote : note? '✗' message = some note)
    (files : Files) :
    Outcome.failing failure wording files = ⟨.failed failure, "", [], some note, files⟩ := by
  unfold failing noting
  simp only [hmessage, hnote]

/-- A message leaves its note, or ends the run if it cannot be shown. -/
theorem noting_cases (ending : Ending) (mark : Char) (message : String) (files : Files) :
    (∃ note, note? mark message = some note ∧
        Outcome.noting ending mark message files = ⟨ending, "", [], some note, files⟩) ∨
      note? mark message = none ∧
        Outcome.noting ending mark message files = ⟨.unshowable, "", [], none, files⟩ := by
  unfold Outcome.noting
  cases note? mark message with
  | some note => exact Or.inl ⟨note, rfl, rfl⟩
  | none => exact Or.inr ⟨rfl, rfl⟩

/-- A failure ends a run in some way and with some note: with that of its wording if it has one and
this can be shown. -/
inductive Failure.EndsWith (failure : Failure) (wording : Wording) :
    Ending → Option String → Prop where
  | unworded (h : failure.message? wording = none) : EndsWith failure wording (.failed failure) none
  | noted {message note : String} (h : failure.message? wording = some message)
      (hnote : note? '✗' message = some note) :
      EndsWith failure wording (.failed failure) (some note)
  | unshowable {message : String} (h : failure.message? wording = some message)
      (hnote : note? '✗' message = none) : EndsWith failure wording .unshowable none

/-- What a failure leaves besides the files: how it ends the run, and its note. -/
theorem exists_failing_eq (failure : Failure) (wording : Wording) (files : Files) :
    ∃ ending note, failure.EndsWith wording ending note ∧
      Outcome.failing failure wording files = ⟨ending, "", [], note, files⟩ := by
  unfold Outcome.failing
  cases hmessage : failure.message? wording with
  | none => exact ⟨_, _, .unworded hmessage, rfl⟩
  | some message =>
    rcases noting_cases (.failed failure) '✗' message files with
      ⟨note, hnote, houtcome⟩ | ⟨hnote, houtcome⟩
    · exact ⟨_, _, .noted hmessage hnote, houtcome⟩
    · exact ⟨_, _, .unshowable hmessage hnote, houtcome⟩

/-! ## Settings -/

/-- The surroundings of a run with an input, no settings, and no files but those of every system. -/
def Surroundings.ofInput (input : String) : Surroundings := { env := [], files := .system, input }

/-- Without variables and without a directory for the settings file, the settings are the default
ones. -/
theorem settings_eq_default (henv : s.env = [])
    (hmissing : s.files.obstacle? ⟨false, 0, [".mdescape"]⟩ = some .missing) :
    s.settings ⟨none, none⟩ = .ok .default := by
  have hpath : Path.ofText Settings.filePath = ⟨"", [".mdescape", "config.yaml"]⟩ := by decide
  have hasked : (Path.mk "" [".mdescape", "config.yaml"]).text.contains '\x00' = false := by
    simp [Path.text]
  have hlimit : ¬Path.limit < (Path.mk "" [".mdescape", "config.yaml"]).text.utf8ByteSize := by
    decide
  have hsteps : (Path.mk "" [".mdescape", "config.yaml"]).waypoints.zip
      [".mdescape", "config.yaml"] =
      [(⟨false, 0, []⟩, ".mdescape"), (⟨false, 0, [".mdescape"]⟩, "config.yaml")] := by decide
  have hfirst : s.files.hindrance? ⟨false, 0, []⟩ ".mdescape" = none := rfl
  have hsecond : s.files.hindrance? ⟨false, 0, [".mdescape"]⟩ "config.yaml" = some .missing := by
    rw [Files.hindrance?, hmissing]
  have hlocate : s.files.locate (Path.ofText Settings.filePath) = .error .missing := by
    rw [hpath, Files.locate, hasked, if_neg Bool.false_ne_true, if_neg hlimit]
    simp only [hsteps, List.findSome?_cons, hfirst, hsecond]
  have hnone : s.settingsFile = .ok none := by
    rw [Surroundings.settingsFile, Files.read, hlocate]
    rfl
  unfold Surroundings.settings
  rw [hnone, henv]
  rfl

/-- Where nothing is set, the settings are the default ones. -/
theorem settings_ofInput (input : String) :
    (Surroundings.ofInput input).settings ⟨none, none⟩ = .ok .default :=
  settings_eq_default rfl (by decide : Files.system.obstacle? _ = _)

end LiteralMarkdown.Command
