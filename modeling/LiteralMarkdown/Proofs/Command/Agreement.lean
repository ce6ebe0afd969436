import LiteralMarkdown.Proofs.Command.Notes
import LiteralMarkdown.Proofs.Command.Steps
import LiteralMarkdown.Proofs.Tree.Outcome

/-!
# One text and the tree of one text

The command for one text and the command for a tree take different ways: the first one has its own
test of the length and its own choice of what is escaped. They agree all the same. What the second
one makes of the document of a text is the document of what the first one makes of the text, and it
fails where the first one fails, with the same error.

* `TreeRequest.result_eq_map`: the result for the document is the document of the result;
* `text_agrees_with_tree`: the two runs end alike.
-/

namespace LiteralMarkdown

/-! ## The document of one text -/

/-- The document of one text: a root with a text node as its only child, or the text node by itself
if an opening block marker is left alone. -/
def Json.soleText (commonOnly : Bool) (text : String) : Json :=
  let node : Json := .object [("type", .string "text"), ("value", .string text)]
  if commonOnly then node else .object [("type", .string "root"), ("children", .list [node])]

/-- The root of the document of one text. -/
def Node.soleText (commonOnly : Bool) (text : String) : Node :=
  let node : Node := ⟨"text", some (.string text), .absent, []⟩
  if commonOnly then node else ⟨"root", none, .filled [node], []⟩

theorem Node.toJson_soleText (commonOnly : Bool) (text : String) :
    (Node.soleText commonOnly text).toJson = Json.soleText commonOnly text := by
  cases commonOnly <;> rfl

theorem Node.ofTree_soleText (commonOnly : Bool) (text : String) :
    Node.ofTree (Json.soleText commonOnly text) = .ok (Node.soleText commonOnly text) := by
  cases commonOnly <;> rfl

/-- The settings treat a text node as one, and a root as a node without a text of its own. -/
structure Settings.TakesSoleText (settings : Settings) : Prop where
  text_mem : "text" ∈ settings.textTypes
  root_not_mem : "root" ∉ settings.textTypes
  text_not_passed : "text" ∉ settings.passthroughTypes
  root_not_passed : "root" ∉ settings.passthroughTypes

variable {settings : Settings}

theorem Settings.TakesSoleText.escape_eq (h : settings.TakesSoleText) (commonOnly : Bool)
    (text : String) :
    (Node.soleText commonOnly text).escape settings false =
      (escapeValue settings (!commonOnly) "text" (.string text)).map fun done =>
        (Node.soleText commonOnly done.1, done.2) := by
  -- The text node is escaped as the first child of the root, or else as what does not come first.
  have hnode (first : Bool) :
      (Node.mk "text" (some (.string text)) .absent []).escape settings first =
        (escapeValue settings first "text" (.string text)).map fun done =>
          (Node.mk "text" (some (.string done.1)) .absent [], done.2) := by
    rw [Node.escape_eq, if_neg h.text_not_passed, Node.escapeChildren]
    simp only [if_pos h.text_mem, Option.getD_some]
    cases escapeValue settings first "text" (.string text) with
    | error e => rfl
    | ok done => rfl
  cases commonOnly with
  | true => exact hnode false
  | false =>
    have hroot : Node.soleText false text =
        ⟨"root", none, .filled [⟨"text", some (.string text), .absent, []⟩], []⟩ := rfl
    rw [hroot, Node.escape_eq, if_neg h.root_not_passed, Node.escapeChildren, Node.escapeNodes,
      hnode true]
    simp only [if_neg h.root_not_mem]
    rw [Bool.not_false]
    cases escapeValue settings true "text" (.string text) with
    | error e => rfl
    | ok done =>
      rcases done with ⟨escaped, records⟩
      have hrecords : records ++ [] = records := List.append_nil records
      show Except.ok (Node.soleText false escaped, records ++ []) = _
      rw [hrecords]
      rfl

/-- The document of one text is refused just if the text is too long, and else it becomes the
document of the escaped text. -/
theorem Settings.TakesSoleText.escapeTree_eq (h : settings.TakesSoleText) (commonOnly : Bool)
    (text : String) :
    (escapeTree settings (Json.soleText commonOnly text)).map Prod.fst =
      match settings.exceeds? text with
      | some e => .error e
      | none => .ok (Json.soleText commonOnly (escapeText (!commonOnly) text)) := by
  rw [Node.escapeTree_of_ofTree (Node.ofTree_soleText commonOnly text), h.escape_eq commonOnly text]
  cases hexceeds : settings.exceeds? text with
  | some e =>
    simp only [escapeValue, hexceeds]
    rfl
  | none =>
    simp only [escapeValue, hexceeds]
    show Except.ok (Node.soleText commonOnly _).toJson = _
    rw [Node.toJson_soleText]

namespace Command

/-! ## The two requests -/

/-- The request for a tree asks for the document of the text, with the same limit and for the
output. -/
structure TreeRequest.IsFor (request' : TreeRequest) (request : TextRequest) (s : Surroundings) :
    Prop where
  maxLength_eq : request'.maxLength = request.maxLength
  verbose_eq : request'.verbose = false
  target_eq : request'.target = none
  document : ∃ text, request'.document s = .ok text ∧
    Json.read text.toList = .ok (Json.soleText request.commonOnly request.text).toData
  layout : ∃ layout, request'.layout = .ok layout

variable {s : Surroundings} {request : TextRequest} {request' : TreeRequest}

theorem TreeRequest.IsFor.exists_ready (h : request'.IsFor request s)
    (hsettings : s.settings ⟨request.maxLength, none⟩ = .ok settings)
    (hlevel : isLevel settings.logLevel = true) :
    ∃ text, request'.Ready s settings text
      (Json.soleText request.commonOnly request.text).toData := by
  rcases h.document with ⟨text, hdocument, hread⟩
  have haskable : request'.hasAskableTarget = true := by
    unfold TreeRequest.hasAskableTarget
    rw [h.target_eq]
    rfl
  have hoverrides : request'.overrides = ⟨request.maxLength, none⟩ := by
    unfold TreeRequest.overrides
    rw [h.maxLength_eq, h.verbose_eq]
    rfl
  exact ⟨text, haskable, hoverrides ▸ hsettings, hlevel, hdocument, hread⟩

/-- What becomes of the document of a text is the document of what becomes of the text, and the
errors are the same. -/
theorem TreeRequest.IsFor.result_eq_map (h : request'.IsFor request s)
    (hsettings : s.settings ⟨request.maxLength, none⟩ = .ok settings)
    (hlevel : isLevel settings.logLevel = true) (htakes : settings.TakesSoleText) :
    request'.result s =
      (request.result s).map fun escaped => some (Json.soleText request.commonOnly escaped) := by
  rcases h.exists_ready hsettings hlevel with ⟨text, hready⟩
  have hescape : (escapeTree settings (Json.soleText request.commonOnly request.text)).map
      (fun done => some done.1) =
      ((escapeTree settings (Json.soleText request.commonOnly request.text)).map Prod.fst).map
        some := by
    cases escapeTree settings (Json.soleText request.commonOnly request.text) <;> rfl
  rw [hready.result_of_tree, hescape, htakes.escapeTree_eq]
  unfold TextRequest.result
  rw [hsettings]
  show _ = Except.map _ (match settings.exceeds? request.text with | some e => _ | none => _)
  cases settings.exceeds? request.text with
  | some e => rfl
  | none => rfl

/-- Where the settings can be read, a text is refused for its length alone. -/
theorem TextRequest.exists_limit_of_error {failure : Failure}
    (hsettings : s.settings ⟨request.maxLength, none⟩ = .ok settings)
    (h : request.result s = .error failure) :
    ∃ limit, failure = .refused (.valueTooLong request.text.length limit) := by
  unfold result at h
  rw [hsettings] at h
  change (match settings.exceeds? request.text with | some e => _ | none => _) = _ at h
  cases hexceeds : settings.exceeds? request.text with
  | some e =>
    rcases exceeds?_eq_some_iff.1 hexceeds with ⟨limit, -, -, rfl⟩
    rw [hexceeds] at h
    exact ⟨limit, (Except.error.inj h).symm⟩
  | none =>
    rw [hexceeds] at h
    cases h

/-! ## The two runs -/

/-- The wording of a length that is not allowed holds no markup. -/
theorem isPlain_valueTooLong (length limit : Nat) (hints : Schema.Hints) :
    IsPlain ((TreeError.valueTooLong length limit).message hints) := by
  have hdigits (n : Nat) : '[' ∉ (toString n).toList := by
    intro hmem
    rw [Nat.toString_eq_repr, Nat.toList_repr] at hmem
    have hdigit := Nat.isDigit_of_mem_toDigits (by decide) (by decide) hmem
    exact absurd hdigit (by decide)
  have hwords : '[' ∉ "Text value of ".toList ∧
      '[' ∉ " characters exceeds the limit of ".toList := by decide
  have hmessage : ((TreeError.valueTooLong length limit).message hints).toList =
      "Text value of ".toList ++ (toString length).toList ++
        " characters exceeds the limit of ".toList ++ (toString limit).toList := by
    unfold TreeError.message
    rw [String.toList_append, String.toList_append, String.toList_append]
  apply isPlain_of_not_mem
  rw [hmessage]
  intro hmem
  rw [List.mem_append, List.mem_append, List.mem_append] at hmem
  rcases hmem with ((hmem | hmem) | hmem) | hmem
  · exact hwords.1 hmem
  · exact hdigits length hmem
  · exact hwords.2 hmem
  · exact hdigits limit hmem

/-- The run for one text and the run for its document end alike. Either both succeed, and the one
prints the escaped text and the other the document of just that text; or both fail with the same
error and the same note, and print nothing. -/
theorem text_agrees_with_tree {words words' : List String}
    (hwords : Invocation.ofWords? words = some (.text request))
    (hwords' : Invocation.ofWords? words' = some (.tree request'))
    (hfor : request'.IsFor request s)
    (hsettings : s.settings ⟨request.maxLength, none⟩ = .ok settings)
    (hlevel : isLevel settings.logLevel = true) (htakes : settings.TakesSoleText) :
    ((run words s).status = 0 ↔ (run words' s).status = 0) ∧
    ((run words s).status = 0 → ∃ escaped layout, request.result s = .ok escaped ∧
      request'.result s = .ok (some (Json.soleText request.commonOnly escaped)) ∧
      request'.layout = .ok layout ∧ (run words s).output = printed escaped ∧
      (run words' s).output = printed ((Json.soleText request.commonOnly escaped).write layout)) ∧
    ((run words s).status ≠ 0 → (run words s).status = 1 ∧ (run words' s).status = 1 ∧
      (run words s).output = "" ∧ (run words' s).output = "" ∧
      ∃ e note, note? '✗' (TreeError.message e s.wording.hints) = some note ∧
        (run words s).ending = .failed (.refused e) ∧ (run words s).note = some note ∧
        (run words' s).ending = .failed (.refused e) ∧ (run words' s).note = some note) := by
  have hrun : run words s = request.run s := by rw [run, hwords]; rfl
  have hrun' : run words' s = { request'.deliver s with log := request'.log s } := by
    rw [run, hwords']
    rfl
  have hresult := hfor.result_eq_map hsettings hlevel htakes
  rw [hrun, hrun']
  cases hdone : request.result s with
  | ok escaped =>
    rw [hdone] at hresult
    have hprints : request.run s = .printing (printed escaped) s.files := by
      rw [TextRequest.run, hdone]
    rcases hfor.layout with ⟨layout, hlayout⟩
    have hprints' : request'.deliver s =
        .printing (printed ((Json.soleText request.commonOnly escaped).write layout)) s.files := by
      rw [TreeRequest.deliver, TreeRequest.written_of_result hresult hlayout, hfor.target_eq]
      rfl
    rw [hprints, hprints']
    refine ⟨⟨fun _ => rfl, fun _ => rfl⟩, ?_, ?_⟩
    · intro _
      exact ⟨escaped, layout, rfl, hresult, hlayout, rfl, rfl⟩
    · intro hstatus
      exact absurd rfl hstatus
  | error failure =>
    rw [hdone] at hresult
    rcases TextRequest.exists_limit_of_error hsettings hdone with ⟨limit, rfl⟩
    rcases exists_note_of_isPlain '✗'
      (isPlain_valueTooLong request.text.length limit s.wording.hints) with ⟨note, hnote⟩
    have hfails : request.run s =
        .failing (.refused (.valueTooLong request.text.length limit)) s.wording s.files := by
      rw [TextRequest.run, hdone]
    have hfails' := TreeRequest.deliver_of_error (TreeRequest.written_of_result_error hresult)
    rw [hfails, hfails', Outcome.failing_eq rfl hnote]
    refine ⟨⟨fun h => h, fun h => h⟩, ?_, ?_⟩
    · intro hstatus
      cases hstatus
    · intro _
      exact ⟨rfl, rfl, rfl, rfl, _, note, hnote, rfl, rfl, rfl, rfl⟩

/-- The document of the text `*a*`. -/
def starredDocument : String :=
  "\x7b\"type\": \"root\", \"children\": [\x7b\"type\": \"text\", \"value\": \"*a*\"\x7d]\x7d"

theorem isFor_starred : TreeRequest.IsFor ⟨"-", none, none, none, false⟩ ⟨"*a*", false, none⟩
    (.ofInput starredDocument) where
  maxLength_eq := rfl
  verbose_eq := rfl
  target_eq := rfl
  document := ⟨starredDocument, rfl, rfl⟩
  layout := ⟨.line, rfl⟩

theorem takesSoleText_default : Settings.default.TakesSoleText := by
  constructor <;> decide

theorem text_agrees_with_tree_starred :
    (run ["text", "*a*"] (.ofInput starredDocument)).status = 0 ∧
    (run ["tree"] (.ofInput starredDocument)).status = 0 := by
  have hwords : Invocation.ofWords? ["text", "*a*"] = some (.text ⟨"*a*", false, none⟩) := by decide
  have hwords' : Invocation.ofWords? ["tree"] = some (.tree ⟨"-", none, none, none, false⟩) := by
    decide
  have hagree := text_agrees_with_tree hwords hwords' isFor_starred
    (settings_ofInput starredDocument) (by decide) takesSoleText_default
  have hstatus : (run ["text", "*a*"] (.ofInput starredDocument)).status = 0 := by
    rw [run, hwords]
    show (TextRequest.run _ _).status = 0
    rw [TextRequest.run, TextRequest.result, settings_ofInput]
    rfl
  exact ⟨hstatus, hagree.1.1 hstatus⟩

end Command

end LiteralMarkdown
