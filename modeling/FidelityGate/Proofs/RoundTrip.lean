import FidelityGate.Proofs.LoadedFields
import FidelityGate.Proofs.Run

/-!
# Packs round-trip

A pack that was loaded, or accepted by a review or a run, can be written as a plain object and
loaded again without any change.  What is lossy about loading is done when a pack is first loaded:
from then on each number is of the kind that its field declares, and the stamp of an acceptance
keeps it so.
-/

namespace FidelityGate

open Load Checked

/-! ## The parts of a pack -/

section Parts

variable {form : Form} {fields : List (String × Value)} {v : Value}

theorem Attachment.load_object_eq_ok_iff {attachment : Attachment} :
    Attachment.load (.object fields) = .ok attachment ↔
      textField fields "name" = .ok attachment.name ∧
      textField fields "mime_type" = .ok attachment.mediaType ∧
      textField fields "url" = .ok attachment.url ∧
      textField fields "mode" = .ok attachment.mode := by
  simp only [Attachment.load, record, seq_eq_ok_iff, map_eq_ok_iff]
  constructor
  · rintro ⟨_, _, ⟨_, _, ⟨_, _, ⟨_, hname, rfl⟩, htype, rfl⟩, hurl, rfl⟩, hmode, rfl⟩
    exact ⟨hname, htype, hurl, hmode⟩
  · rintro ⟨hname, htype, hurl, hmode⟩
    exact ⟨_, _, ⟨_, _, ⟨_, _, ⟨_, hname, rfl⟩, htype, rfl⟩, hurl, rfl⟩, hmode, rfl⟩

theorem Attachment.load_toValue (attachment : Attachment) :
    Attachment.load attachment.toValue = .ok attachment := by
  have hdistinct : (attachment.fields.map (·.1)).Nodup := by simp [Attachment.fields]
  refine Attachment.load_object_eq_ok_iff.mpr ⟨?_, ?_, ?_, ?_⟩ <;>
    exact textField_of_lookup (Value.lookup?_of_mem hdistinct (by simp [Attachment.fields]))

theorem Turn.load_object_eq_ok_iff {turn : Turn} :
    Turn.load (.object fields) = .ok turn ↔
      textField fields "turn_id" = .ok turn.id ∧
      textField fields "run_id" = .ok turn.run ∧
      textField fields "user_message_id" = .ok turn.userMessage ∧
      textField fields "assistant_message_id" = .ok turn.assistantMessage ∧
      textField fields "user_text" = .ok turn.userText ∧
      textField fields "assistant_text" = .ok turn.assistantText ∧
      integerField fields "created_at_unix_ms" = .ok turn.createdAt := by
  simp only [Turn.load, record, seq_eq_ok_iff, map_eq_ok_iff]
  constructor
  · rintro ⟨_, _, ⟨_, _, ⟨_, _, ⟨_, _, ⟨_, _, ⟨_, _, ⟨_, hid, rfl⟩, hrun, rfl⟩, hquestion, rfl⟩,
      hanswer, rfl⟩, huser, rfl⟩, hassistant, rfl⟩, hcreated, rfl⟩
    exact ⟨hid, hrun, hquestion, hanswer, huser, hassistant, hcreated⟩
  · rintro ⟨hid, hrun, hquestion, hanswer, huser, hassistant, hcreated⟩
    exact ⟨_, _, ⟨_, _, ⟨_, _, ⟨_, _, ⟨_, _, ⟨_, _, ⟨_, hid, rfl⟩, hrun, rfl⟩, hquestion, rfl⟩,
      hanswer, rfl⟩, huser, rfl⟩, hassistant, rfl⟩, hcreated, rfl⟩

theorem Turn.createdAt_isInt_of_load {turn : Turn} (h : Turn.load v = .ok turn) :
    turn.createdAt.IsInt := by
  obtain ⟨fields, rfl⟩ := exists_fields_of_record h
  obtain ⟨-, -, -, -, -, -, hcreated⟩ := Turn.load_object_eq_ok_iff.mp h
  exact integerField_isInt hcreated

theorem Turn.load_toValue {turn : Turn} (h : turn.createdAt.IsInt) :
    Turn.load turn.toValue = .ok turn := by
  have hdistinct : (turn.fields.map (·.1)).Nodup := by simp [Turn.fields]
  have hlookup {key : String} {v : Value} (hmem : (key, v) ∈ turn.fields) :
      Value.lookup? key turn.fields = some v := Value.lookup?_of_mem hdistinct hmem
  refine Turn.load_object_eq_ok_iff.mpr ⟨textField_of_lookup (hlookup ?_),
    textField_of_lookup (hlookup ?_), textField_of_lookup (hlookup ?_),
    textField_of_lookup (hlookup ?_), textField_of_lookup (hlookup ?_),
    textField_of_lookup (hlookup ?_), integerField_of_lookup h (hlookup ?_)⟩ <;>
    simp [Turn.fields]

structure Evidence.IsTyped (item : Evidence) : Prop where
  startedAt : item.startedAt.IsInt
  endedAt : item.endedAt.IsInt

theorem Evidence.load_object_eq_ok_iff {item : Evidence} :
    Evidence.load (.object fields) = .ok item ↔
      textField fields "span_id" = .ok item.span ∧
      textField fields "run_id" = .ok item.run ∧
      textField fields "kind" = .ok item.kind ∧
      textField fields "name" = .ok item.name ∧
      textField fields "status" = .ok item.status ∧
      textField fields "summary" = .ok item.summary ∧
      textField fields "payload_json" = .ok item.payload ∧
      integerField fields "started_at_unix_ms" = .ok item.startedAt ∧
      integerField fields "ended_at_unix_ms" = .ok item.endedAt := by
  simp only [Evidence.load, record, seq_eq_ok_iff, map_eq_ok_iff]
  constructor
  · rintro ⟨_, _, ⟨_, _, ⟨_, _, ⟨_, _, ⟨_, _, ⟨_, _, ⟨_, _, ⟨_, _, ⟨_, hspan, rfl⟩, hrun, rfl⟩,
      hkind, rfl⟩, hname, rfl⟩, hstatus, rfl⟩, hsummary, rfl⟩, hpayload, rfl⟩, hstarted, rfl⟩,
      hended, rfl⟩
    exact ⟨hspan, hrun, hkind, hname, hstatus, hsummary, hpayload, hstarted, hended⟩
  · rintro ⟨hspan, hrun, hkind, hname, hstatus, hsummary, hpayload, hstarted, hended⟩
    exact ⟨_, _, ⟨_, _, ⟨_, _, ⟨_, _, ⟨_, _, ⟨_, _, ⟨_, _, ⟨_, _, ⟨_, hspan, rfl⟩, hrun, rfl⟩,
      hkind, rfl⟩, hname, rfl⟩, hstatus, rfl⟩, hsummary, rfl⟩, hpayload, rfl⟩, hstarted, rfl⟩,
      hended, rfl⟩

theorem Evidence.isTyped_of_load {item : Evidence} (h : Evidence.load v = .ok item) :
    item.IsTyped := by
  obtain ⟨fields, rfl⟩ := exists_fields_of_record h
  obtain ⟨-, -, -, -, -, -, -, hstarted, hended⟩ := Evidence.load_object_eq_ok_iff.mp h
  exact ⟨integerField_isInt hstarted, integerField_isInt hended⟩

theorem Evidence.load_toValue {item : Evidence} (h : item.IsTyped) :
    Evidence.load item.toValue = .ok item := by
  have hdistinct : (item.fields.map (·.1)).Nodup := by simp [Evidence.fields]
  have hlookup {key : String} {v : Value} (hmem : (key, v) ∈ item.fields) :
      Value.lookup? key item.fields = some v := Value.lookup?_of_mem hdistinct hmem
  refine Evidence.load_object_eq_ok_iff.mpr ⟨textField_of_lookup (hlookup ?_),
    textField_of_lookup (hlookup ?_), textField_of_lookup (hlookup ?_),
    textField_of_lookup (hlookup ?_), textField_of_lookup (hlookup ?_),
    textField_of_lookup (hlookup ?_), textField_of_lookup (hlookup ?_),
    integerField_of_lookup h.startedAt (hlookup ?_),
    integerField_of_lookup h.endedAt (hlookup ?_)⟩ <;>
    simp [Evidence.fields]

structure Memory.IsTyped (memory : Memory) : Prop where
  importance : memory.importance.IsDouble
  freshness : memory.freshness.IsDouble
  confidence : memory.confidence.IsDouble
  createdAt : memory.createdAt.IsInt
  updatedAt : memory.updatedAt.IsInt

theorem Memory.load_object_eq_ok_iff {memory : Memory} :
    Memory.load form (.object fields) = .ok memory ↔
      textField fields "memory_id" = .ok memory.id ∧
      textField fields "thread_id" = .ok memory.thread ∧
      field Scope.load .working fields "scope" = .ok memory.scope ∧
      field Topic.load .fact fields "kind" = .ok memory.topic ∧
      textField fields "content" = .ok memory.content ∧
      textField fields "source_refs_json" = .ok memory.sources ∧
      numberField form fields "importance" = .ok memory.importance ∧
      numberField form fields "freshness" = .ok memory.freshness ∧
      numberField form fields "confidence" = .ok memory.confidence ∧
      integerField fields "created_at_unix_ms" = .ok memory.createdAt ∧
      integerField fields "updated_at_unix_ms" = .ok memory.updatedAt := by
  simp only [Memory.load, record, seq_eq_ok_iff, map_eq_ok_iff]
  constructor
  · rintro ⟨_, _, ⟨_, _, ⟨_, _, ⟨_, _, ⟨_, _, ⟨_, _, ⟨_, _, ⟨_, _, ⟨_, _, ⟨_, _, ⟨_, hid, rfl⟩,
      hthread, rfl⟩, hscope, rfl⟩, htopic, rfl⟩, hcontent, rfl⟩, hsources, rfl⟩, himportance, rfl⟩,
      hfreshness, rfl⟩, hconfidence, rfl⟩, hcreated, rfl⟩, hupdated, rfl⟩
    exact ⟨hid, hthread, hscope, htopic, hcontent, hsources, himportance, hfreshness, hconfidence,
      hcreated, hupdated⟩
  · rintro ⟨hid, hthread, hscope, htopic, hcontent, hsources, himportance, hfreshness,
      hconfidence, hcreated, hupdated⟩
    exact ⟨_, _, ⟨_, _, ⟨_, _, ⟨_, _, ⟨_, _, ⟨_, _, ⟨_, _, ⟨_, _, ⟨_, _, ⟨_, _, ⟨_, hid, rfl⟩,
      hthread, rfl⟩, hscope, rfl⟩, htopic, rfl⟩, hcontent, rfl⟩, hsources, rfl⟩, himportance, rfl⟩,
      hfreshness, rfl⟩, hconfidence, rfl⟩, hcreated, rfl⟩, hupdated, rfl⟩

theorem Memory.isTyped_of_load {memory : Memory} (h : Memory.load form v = .ok memory) :
    memory.IsTyped := by
  obtain ⟨fields, rfl⟩ := exists_fields_of_record h
  obtain ⟨-, -, -, -, -, -, himportance, hfreshness, hconfidence, hcreated, hupdated⟩ :=
    Memory.load_object_eq_ok_iff.mp h
  exact ⟨numberField_isDouble himportance, numberField_isDouble hfreshness,
    numberField_isDouble hconfidence, integerField_isInt hcreated, integerField_isInt hupdated⟩

theorem Scope.load_name (scope : Scope) : Scope.load (.text scope.name) = .ok scope := by
  cases scope <;> rfl

theorem Topic.load_name (topic : Topic) : Topic.load (.text topic.name) = .ok topic := by
  cases topic <;> rfl

theorem Memory.load_toValue {memory : Memory} (h : memory.IsTyped) :
    Memory.load form memory.toValue = .ok memory := by
  have hdistinct : (memory.fields.map (·.1)).Nodup := by simp [Memory.fields]
  have hlookup {key : String} {v : Value} (hmem : (key, v) ∈ memory.fields) :
      Value.lookup? key memory.fields = some v := Value.lookup?_of_mem hdistinct hmem
  refine Memory.load_object_eq_ok_iff.mpr ⟨textField_of_lookup (hlookup ?_),
    textField_of_lookup (hlookup ?_), field_of_lookup memory.scope.load_name (hlookup ?_),
    field_of_lookup memory.topic.load_name (hlookup ?_), textField_of_lookup (hlookup ?_),
    textField_of_lookup (hlookup ?_), numberField_of_lookup h.importance (hlookup ?_),
    numberField_of_lookup h.freshness (hlookup ?_),
    numberField_of_lookup h.confidence (hlookup ?_),
    integerField_of_lookup h.createdAt (hlookup ?_),
    integerField_of_lookup h.updatedAt (hlookup ?_)⟩ <;>
    simp [Memory.fields]

end Parts

/-! ## Packs -/

theorem exists_saving_of_judge {before after : Candidate} {request : Requested}
    {verdict : Verdict} (h : judge before after request = .ok verdict) :
    ∃ x, verdict.saving = .double x := by
  obtain ⟨findings, -, rfl⟩ := judge_eq_ok_iff.mp h
  exact ⟨findings.saved, Verdict.saving_ofEntries ..⟩

namespace Pack

/-- Every number in the pack is of the kind that its field declares. -/
structure IsTyped (pack : Pack) : Prop where
  dialogue : ∀ turn ∈ pack.dialogue, turn.createdAt.IsInt
  evidence : ∀ item ∈ pack.evidence, item.IsTyped
  todos : ∀ todo ∈ pack.todos, todo.IsTyped
  memories : ∀ memory ∈ pack.memories, memory.IsTyped
  inputTokens : pack.inputTokens.IsInt
  saving : ∃ x, pack.saving = .double x
  usage : pack.usage.IsTyped

variable {form : Form} {pack : Pack}

theorem load_object_eq_ok_iff {fields : List (String × Value)} :
    load form (.object fields) = .ok pack ↔
      textField fields "thread_id" = .ok pack.thread ∧
      textField fields "run_id" = .ok pack.run ∧
      textField fields "system_contract" = .ok pack.contract ∧
      textField fields "objective" = .ok pack.objective ∧
      listField text fields "active_constraints" = .ok pack.constraints ∧
      listField Turn.load fields "recent_dialogue" = .ok pack.dialogue ∧
      listField Evidence.load fields "execution_evidence" = .ok pack.evidence ∧
      listField (Memory.load form) fields "pending_todos" = .ok pack.todos ∧
      listField (Memory.load form) fields "retrieved_long_term_memory" = .ok pack.memories ∧
      listField Attachment.load fields "attachments_manifest" = .ok pack.attachments ∧
      textField fields "thread_snapshot" = .ok pack.snapshot ∧
      integerField fields "estimated_input_tokens" = .ok pack.inputTokens ∧
      (∃ n, numberField form fields "compression_saving_ratio" = .ok n ∧
        n.toValue = pack.saving) ∧
      field (truth form) false fields "compression_quality_pass" = .ok pack.quality ∧
      field Usage.load .empty fields "context_sections_token_usage" = .ok pack.usage := by
  simp only [load, record, seq_eq_ok_iff, map_eq_ok_iff]
  constructor
  · rintro ⟨_, _, ⟨_, _, ⟨_, _, ⟨_, _, ⟨_, _, ⟨_, _, ⟨_, _, ⟨_, _, ⟨_, _, ⟨_, _, ⟨_, _, ⟨_, _, ⟨_, _,
      ⟨_, _, ⟨_, hthread, rfl⟩, hrun, rfl⟩, hcontract, rfl⟩, hobjective, rfl⟩, hconstraints, rfl⟩,
      hdialogue, rfl⟩, hevidence, rfl⟩, htodos, rfl⟩, hmemories, rfl⟩, hattachments, rfl⟩,
      hsnapshot, rfl⟩, htokens, rfl⟩, hsaving, rfl⟩, hquality, rfl⟩, husage, rfl⟩
    exact ⟨hthread, hrun, hcontract, hobjective, hconstraints, hdialogue, hevidence, htodos,
      hmemories, hattachments, hsnapshot, htokens, hsaving, hquality, husage⟩
  · rintro ⟨hthread, hrun, hcontract, hobjective, hconstraints, hdialogue, hevidence, htodos,
      hmemories, hattachments, hsnapshot, htokens, hsaving, hquality, husage⟩
    exact ⟨_, _, ⟨_, _, ⟨_, _, ⟨_, _, ⟨_, _, ⟨_, _, ⟨_, _, ⟨_, _, ⟨_, _, ⟨_, _, ⟨_, _, ⟨_, _, ⟨_, _,
      ⟨_, _, ⟨_, hthread, rfl⟩, hrun, rfl⟩, hcontract, rfl⟩, hobjective, rfl⟩, hconstraints, rfl⟩,
      hdialogue, rfl⟩, hevidence, rfl⟩, htodos, rfl⟩, hmemories, rfl⟩, hattachments, rfl⟩,
      hsnapshot, rfl⟩, htokens, rfl⟩, hsaving, rfl⟩, hquality, rfl⟩, husage, rfl⟩

theorem isTyped_of_load {v : Value} (h : load form v = .ok pack) : pack.IsTyped := by
  obtain ⟨fields, rfl⟩ := exists_fields_of_record h
  obtain ⟨-, -, -, -, -, hdialogue, hevidence, htodos, hmemories, -, -, htokens,
    ⟨n, hn, hsaving⟩, -, husage⟩ := load_object_eq_ok_iff.mp h
  refine ⟨?_, ?_, ?_, ?_, integerField_isInt htokens, ?_, ?_⟩
  · intro turn hturn
    obtain ⟨v, hv⟩ := exists_of_mem_listField hdialogue hturn
    exact Turn.createdAt_isInt_of_load hv
  · intro item hitem
    obtain ⟨v, hv⟩ := exists_of_mem_listField hevidence hitem
    exact Evidence.isTyped_of_load hv
  · intro todo htodo
    obtain ⟨v, hv⟩ := exists_of_mem_listField htodos htodo
    exact Memory.isTyped_of_load hv
  · intro memory hmemory
    obtain ⟨v, hv⟩ := exists_of_mem_listField hmemories hmemory
    exact Memory.isTyped_of_load hv
  · obtain ⟨x, rfl⟩ := numberField_isDouble hn
    exact ⟨x, hsaving.symm⟩
  · rcases eq_default_or_exists_of_field husage with hempty | ⟨v, hv⟩
    · rw [hempty]
      rintro entry ⟨⟩
    · exact Usage.isTyped_of_load hv

theorem load_toValue (h : pack.IsTyped) : load form pack.toValue = .ok pack := by
  have hdistinct : (pack.fields.map (·.1)).Nodup := by simp [fields]
  have hlookup {key : String} {v : Value} (hmem : (key, v) ∈ pack.fields) :
      Value.lookup? key pack.fields = some v := Value.lookup?_of_mem hdistinct hmem
  have hconstraints : ∀ c ∈ pack.constraints, text (.text c) = .ok c := fun c _ ↦ rfl
  have hdialogue : ∀ turn ∈ pack.dialogue, Turn.load turn.toValue = .ok turn :=
    fun turn hturn ↦ Turn.load_toValue (h.dialogue turn hturn)
  have hevidence : ∀ item ∈ pack.evidence, Evidence.load item.toValue = .ok item :=
    fun item hitem ↦ Evidence.load_toValue (h.evidence item hitem)
  have htodos : ∀ todo ∈ pack.todos, Memory.load form todo.toValue = .ok todo :=
    fun todo htodo ↦ Memory.load_toValue (h.todos todo htodo)
  have hmemories : ∀ memory ∈ pack.memories, Memory.load form memory.toValue = .ok memory :=
    fun memory hmemory ↦ Memory.load_toValue (h.memories memory hmemory)
  have hattachments : ∀ attachment ∈ pack.attachments,
      Attachment.load attachment.toValue = .ok attachment :=
    fun attachment _ ↦ attachment.load_toValue
  have hquality : truth form (.bool pack.quality) = .ok pack.quality := rfl
  obtain ⟨x, hx⟩ := h.saving
  have hsaving : Value.lookup? "compression_saving_ratio" pack.fields =
      some (Number.double x).toValue := hlookup (by simp [fields, hx, Number.toValue])
  refine load_object_eq_ok_iff.mpr ⟨textField_of_lookup (hlookup ?_),
    textField_of_lookup (hlookup ?_), textField_of_lookup (hlookup ?_),
    textField_of_lookup (hlookup ?_), listField_of_lookup hconstraints (hlookup ?_),
    listField_of_lookup hdialogue (hlookup ?_), listField_of_lookup hevidence (hlookup ?_),
    listField_of_lookup htodos (hlookup ?_), listField_of_lookup hmemories (hlookup ?_),
    listField_of_lookup hattachments (hlookup ?_), textField_of_lookup (hlookup ?_),
    integerField_of_lookup h.inputTokens (hlookup ?_),
    ⟨.double x, numberField_of_lookup ⟨x, rfl⟩ hsaving, hx.symm⟩,
    field_of_lookup hquality (hlookup ?_),
    field_of_lookup (Usage.load_toValue h.usage) (hlookup ?_)⟩ <;>
    simp [fields]

/-! ## Packs that arise -/

theorem IsTyped.stamp (h : pack.IsTyped) {verdict : Verdict}
    (hsaving : ∃ x, verdict.saving = .double x) : (pack.stamp verdict).IsTyped :=
  { h with saving := hsaving }

/-- The packs that are loaded, and those that are accepted of such packs. -/
inductive Arises : Pack → Prop
  | loaded {form : Form} {v : Value} {pack : Pack} (h : load form v = .ok pack) : Arises pack
  | reviewed {before : Candidate} {after pack : Pack} {request : Requested}
      {policy : Option Policy} {decision : Decision} (hafter : Arises after)
      (h : (review before (.pack after) request policy).outcome = .ok decision)
      (haccepted : decision.accepted = true) (hpack : decision.pack = .pack pack) : Arises pack
  | compressed {ε : Type} {compressor : Compressor ε} {before pack : Pack} {policy : Policy}
      {request : Requested} {decision : Decision} (hbefore : Arises before)
      (hoffers : ∀ history after, compressor history = .offers (.pack after) → Arises after)
      (h : (compressor.run (.pack before) policy request).outcome = .ok decision)
      (haccepted : decision.accepted = true) (hpack : decision.pack = .pack pack) : Arises pack

theorem Arises.isTyped (h : pack.Arises) : pack.IsTyped := by
  induction h with
  | loaded h => exact isTyped_of_load h
  | reviewed _ h haccepted hpack hafter =>
      obtain ⟨_, verdict, -, hjudge, hend⟩ := review_eq_ok_cases h
      rcases hend with ⟨next, hnext, -, rfl⟩ | ⟨-, rfl⟩
      · obtain rfl := Candidate.pack.inj hnext
        obtain rfl := Candidate.pack.inj hpack
        exact hafter.stamp (exists_saving_of_judge hjudge)
      · cases haccepted
  | @compressed _ compressor before _ _ _ _ _ _ h haccepted hpack hbefore hoffers =>
      obtain ⟨_, rejected, -, -, hend⟩ := Compressor.run_eq_ok_cases h
      rcases hend with ⟨next, verdict, hproposal, hjudge, -, rfl⟩ | ⟨_, _, -, rfl⟩
      · obtain rfl := Candidate.pack.inj hpack
        have hnext : next.IsTyped := by
          rw [Candidate.readTimes_pack] at hproposal
          cases hreply : compressor rejected with
          | unchanged =>
              rw [hreply] at hproposal
              obtain rfl := Candidate.pack.inj (Except.ok.inj hproposal)
              exact hbefore
          | offers after =>
              rw [hreply] at hproposal
              obtain rfl := Except.ok.inj hproposal
              exact hoffers rejected next hreply
          | fails failure =>
              rw [hreply] at hproposal
              cases hproposal
        exact hnext.stamp (exists_saving_of_judge hjudge)
      · cases haccepted

/-- The plain object of a pack that was loaded or accepted is loaded as this very pack, which then
is rendered and judged as before. -/
theorem Arises.reloads_unchanged (h : pack.Arises) :
    ∃ again, load .value pack.toValue = .ok again ∧ again = pack ∧
      again.rendering = pack.rendering ∧
      ∀ (other : Candidate) (request : Requested),
        judge (.pack again) other request = judge (.pack pack) other request ∧
        judge other (.pack again) request = judge other (.pack pack) request :=
  ⟨pack, load_toValue h.isTyped, rfl, rfl, fun _ _ ↦ ⟨rfl, rfl⟩⟩

/-- An object with numbers and truth values that are given in other forms. -/
def looseDraft : Value :=
  .object [
    ("active_constraints", .list [.text "keep tests"]),
    ("pending_todos", .list [.object [
      ("memory_id", .text "t1"),
      ("scope", .text "long_term"),
      ("importance", .bool true),
      ("freshness", .text " -Infinity"),
      ("created_at_unix_ms", .double (.ofInt 3))]]),
    ("estimated_input_tokens", .text "+1_000.0"),
    ("compression_saving_ratio", .text "nan"),
    ("compression_quality_pass", .text "Off"),
    ("context_sections_token_usage", .object [("todos", .bool true), ("rest", .int 7)])]

theorem Arises.reloads_looseDraft :
    ∃ after decision pack,
      load .value looseDraft = .ok after ∧
      (review (.pack { contract := "Answer in whole sentences.", constraints := ["keep tests"] })
        (.pack after) .absent none).outcome = .ok decision ∧
      decision.pack = .pack pack ∧ load .value pack.toValue = .ok pack := by
  obtain ⟨after, hload, hreview⟩ := Checked.exists_of_toOption_map (x := load .value looseDraft)
    (f := fun after ↦ (review
      (.pack { contract := "Answer in whole sentences.", constraints := ["keep tests"] })
      (.pack after) .absent none).outcome.toOption.map Decision.accepted)
    (b := some true) (by decide +kernel)
  obtain ⟨decision, hdecision, haccepted⟩ := Except.exists_of_toOption_map hreview
  obtain ⟨_, _, -, -, ⟨pack, -, -, rfl⟩ | ⟨-, rfl⟩⟩ := review_eq_ok_cases hdecision
  · have harises := Arises.reviewed (.loaded hload) hdecision rfl rfl
    obtain ⟨_, hagain, rfl, -⟩ := harises.reloads_unchanged
    exact ⟨after, _, _, hload, hdecision, rfl, hagain⟩
  · cases haccepted

end Pack

end FidelityGate
