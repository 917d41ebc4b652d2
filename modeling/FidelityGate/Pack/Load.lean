import FidelityGate.Json.Document
import FidelityGate.Load.Record
import FidelityGate.Pack.Basic

/-!
# Loading packs

Packs and their parts are loaded from values, or from the text of a document.  Both ways give the
same pack for the same content, but for two kinds of integers: those from `2 ^ 128` on that are
given for a ratio, and those of at least 19 digits within 64 bits that are given for a truth value.
-/

namespace FidelityGate

open Load

def Scope.load : Value → Checked Scope :=
  choice (Scope.all.map fun scope ↦ (scope.name, scope))

def Topic.load : Value → Checked Topic :=
  choice (Topic.all.map fun topic ↦ (topic.name, topic))

def Memory.load (form : Form) : Value → Checked Memory :=
  record Memory.typeName fun fields ↦
    Memory.mk <$> textField fields "memory_id"
      <*> textField fields "thread_id"
      <*> field Scope.load .working fields "scope"
      <*> field Topic.load .fact fields "kind"
      <*> textField fields "content"
      <*> textField fields "source_refs_json"
      <*> numberField form fields "importance"
      <*> numberField form fields "freshness"
      <*> numberField form fields "confidence"
      <*> integerField fields "created_at_unix_ms"
      <*> integerField fields "updated_at_unix_ms"

def Turn.load : Value → Checked Turn :=
  record Turn.typeName fun fields ↦
    Turn.mk <$> textField fields "turn_id"
      <*> textField fields "run_id"
      <*> textField fields "user_message_id"
      <*> textField fields "assistant_message_id"
      <*> textField fields "user_text"
      <*> textField fields "assistant_text"
      <*> integerField fields "created_at_unix_ms"

def Evidence.load : Value → Checked Evidence :=
  record Evidence.typeName fun fields ↦
    Evidence.mk <$> textField fields "span_id"
      <*> textField fields "run_id"
      <*> textField fields "kind"
      <*> textField fields "name"
      <*> textField fields "status"
      <*> textField fields "summary"
      <*> textField fields "payload_json"
      <*> integerField fields "started_at_unix_ms"
      <*> integerField fields "ended_at_unix_ms"

def Attachment.load : Value → Checked Attachment :=
  record Attachment.typeName fun fields ↦
    Attachment.mk <$> textField fields "name"
      <*> textField fields "mime_type"
      <*> textField fields "url"
      <*> textField fields "mode"

namespace Usage

/-- The entries of an object one by one; each of them is checked, also those with a repeated key. -/
def loadEntries (count : Value → Checked Number) :
    List (String × Value) → Checked (List (String × Number))
  | [] => .ok []
  | (key, v) :: rest =>
    List.cons <$> (Prod.mk key <$> (count v).under (.key key)) <*> loadEntries count rest

def loadWith (count : Value → Checked Number) : Value → Checked Usage
  | .object fields => ofList <$> loadEntries count fields
  | _ => .fail .notObject

def load : Value → Checked Usage :=
  loadWith fun v ↦ Number.int <$> integer v

end Usage

namespace Pack

def load (form : Form) : Value → Checked Pack :=
  record typeName fun fields ↦
    Pack.mk <$> textField fields "thread_id"
      <*> textField fields "run_id"
      <*> textField fields "system_contract"
      <*> textField fields "objective"
      <*> listField text fields "active_constraints"
      <*> listField Turn.load fields "recent_dialogue"
      <*> listField Evidence.load fields "execution_evidence"
      <*> listField (Memory.load form) fields "pending_todos"
      <*> listField (Memory.load form) fields "retrieved_long_term_memory"
      <*> listField Attachment.load fields "attachments_manifest"
      <*> textField fields "thread_snapshot"
      <*> integerField fields "estimated_input_tokens"
      <*> Number.toValue <$> numberField form fields "compression_saving_ratio"
      <*> field (truth form) false fields "compression_quality_pass"
      <*> field Usage.load .empty fields "context_sections_token_usage"

/-- Documents of packs nest at most 200 levels deep, and their integers have at most 4300 digits. -/
def documentLimits : Json.Limits :=
  ⟨200, 4300⟩

def loadDocument (s : String) : Checked Pack :=
  match Json.read? documentLimits s with
  | none => .fail .notDocument
  | some v => load .document v

end Pack

end FidelityGate
