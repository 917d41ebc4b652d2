import FidelityGate.Fault
import FidelityGate.Pack.Load

/-!
# Editing packs

A pack is edited field by field under the keys from which it is loaded.  A new value is kept as it
is given: a number stays the kind of number that it is.  Only an item that is added to a list is
loaded first.
-/

namespace FidelityGate

namespace Load

def given (v : Value) : Checked Number :=
  match v.number? with
  | some n => .ok n
  | none => .fail .notNumber

end Load

open Load

def expectLoaded {α : Type} (name : String) : Checked α → Except Fault α
  | .ok value => .ok value
  | .bad issues => .error (.notLoaded name .value issues)

/-- Replaces what stands under a key; a value of another kind is refused. -/
def assign {α β : Type} (owner key : String) (load : Value → Checked α) (v : Value)
    (place : α → β) : Except Fault β :=
  (expectLoaded owner ((load v).under (.key key))).map place

/-- What happens when a member that there is not is replaced.  A name with an underscore in front is
nobody's, so nothing changes; any other name is refused. -/
def assignUnknown {α : Type} (owner key : String) (whole : α) : Except Fault α :=
  if key.toList.head? = some '_' then .ok whole else .error (.unknownField owner key)

def Memory.set (key : String) (v : Value) (memory : Memory) : Except Fault Memory :=
  match key with
  | "memory_id" => assign typeName key text v fun s ↦ { memory with id := s }
  | "thread_id" => assign typeName key text v fun s ↦ { memory with thread := s }
  | "scope" => assign typeName key Scope.load v fun scope ↦ { memory with scope }
  | "kind" => assign typeName key Topic.load v fun topic ↦ { memory with topic }
  | "content" => assign typeName key text v fun s ↦ { memory with content := s }
  | "source_refs_json" => assign typeName key text v fun s ↦ { memory with sources := s }
  | "importance" => assign typeName key given v fun n ↦ { memory with importance := n }
  | "freshness" => assign typeName key given v fun n ↦ { memory with freshness := n }
  | "confidence" => assign typeName key given v fun n ↦ { memory with confidence := n }
  | "created_at_unix_ms" => assign typeName key given v fun n ↦ { memory with createdAt := n }
  | "updated_at_unix_ms" => assign typeName key given v fun n ↦ { memory with updatedAt := n }
  | _ => assignUnknown typeName key memory

def Turn.set (key : String) (v : Value) (turn : Turn) : Except Fault Turn :=
  match key with
  | "turn_id" => assign typeName key text v fun s ↦ { turn with id := s }
  | "run_id" => assign typeName key text v fun s ↦ { turn with run := s }
  | "user_message_id" => assign typeName key text v fun s ↦ { turn with userMessage := s }
  | "assistant_message_id" =>
    assign typeName key text v fun s ↦ { turn with assistantMessage := s }
  | "user_text" => assign typeName key text v fun s ↦ { turn with userText := s }
  | "assistant_text" => assign typeName key text v fun s ↦ { turn with assistantText := s }
  | "created_at_unix_ms" => assign typeName key given v fun n ↦ { turn with createdAt := n }
  | _ => assignUnknown typeName key turn

def Evidence.set (key : String) (v : Value) (evidence : Evidence) : Except Fault Evidence :=
  match key with
  | "span_id" => assign typeName key text v fun s ↦ { evidence with span := s }
  | "run_id" => assign typeName key text v fun s ↦ { evidence with run := s }
  | "kind" => assign typeName key text v fun s ↦ { evidence with kind := s }
  | "name" => assign typeName key text v fun s ↦ { evidence with name := s }
  | "status" => assign typeName key text v fun s ↦ { evidence with status := s }
  | "summary" => assign typeName key text v fun s ↦ { evidence with summary := s }
  | "payload_json" => assign typeName key text v fun s ↦ { evidence with payload := s }
  | "started_at_unix_ms" => assign typeName key given v fun n ↦ { evidence with startedAt := n }
  | "ended_at_unix_ms" => assign typeName key given v fun n ↦ { evidence with endedAt := n }
  | _ => assignUnknown typeName key evidence

def Attachment.set (key : String) (v : Value) (attachment : Attachment) :
    Except Fault Attachment :=
  match key with
  | "name" => assign typeName key text v fun s ↦ { attachment with name := s }
  | "mime_type" => assign typeName key text v fun s ↦ { attachment with mediaType := s }
  | "url" => assign typeName key text v fun s ↦ { attachment with url := s }
  | "mode" => assign typeName key text v fun s ↦ { attachment with mode := s }
  | _ => assignUnknown typeName key attachment

namespace Pack

/-- The pack with a field replaced.  The saving may become any value. -/
def set (key : String) (v : Value) (pack : Pack) : Except Fault Pack :=
  match key with
  | "thread_id" => assign typeName key text v fun s ↦ { pack with thread := s }
  | "run_id" => assign typeName key text v fun s ↦ { pack with run := s }
  | "system_contract" => assign typeName key text v fun s ↦ { pack with contract := s }
  | "objective" => assign typeName key text v fun s ↦ { pack with objective := s }
  | "active_constraints" =>
    assign typeName key (list text) v fun texts ↦ { pack with constraints := texts }
  | "recent_dialogue" =>
    assign typeName key (list Turn.load) v fun turns ↦ { pack with dialogue := turns }
  | "execution_evidence" =>
    assign typeName key (list Evidence.load) v fun items ↦ { pack with evidence := items }
  | "pending_todos" =>
    assign typeName key (list (Memory.load .value)) v fun items ↦ { pack with todos := items }
  | "retrieved_long_term_memory" =>
    assign typeName key (list (Memory.load .value)) v fun items ↦ { pack with memories := items }
  | "attachments_manifest" =>
    assign typeName key (list Attachment.load) v fun items ↦ { pack with attachments := items }
  | "thread_snapshot" => assign typeName key text v fun s ↦ { pack with snapshot := s }
  | "estimated_input_tokens" =>
    assign typeName key given v fun n ↦ { pack with inputTokens := n }
  | "compression_saving_ratio" => .ok { pack with saving := v }
  | "compression_quality_pass" =>
    assign typeName key (truth .value) v fun b ↦ { pack with quality := b }
  | "context_sections_token_usage" =>
    assign typeName key (Usage.loadWith given) v fun usage ↦ { pack with usage }
  | _ => assignUnknown typeName key pack

/-- One of the lists of a pack: where it stands, how an item is loaded, and how a member of an
item is replaced. -/
structure Shelf (α : Type) where
  items : Pack → List α
  withItems : Pack → List α → Pack
  itemName : String
  load : Value → Checked α
  set : (member : String) → Value → α → Except Fault α

/-- Uses the list with the given key.  Constraints have no members and are replaced as a whole. -/
def onShelf {β : Type} (key : String) (use : {α : Type} → Shelf α → Except Fault β) :
    Except Fault β :=
  match key with
  | "active_constraints" => use {
      items := constraints
      withItems := fun pack texts ↦ { pack with constraints := texts }
      itemName := typeName
      load := text
      set := fun _ v _ ↦ expectLoaded typeName (text v) }
  | "recent_dialogue" => use {
      items := dialogue
      withItems := fun pack turns ↦ { pack with dialogue := turns }
      itemName := Turn.typeName
      load := Turn.load
      set := Turn.set }
  | "execution_evidence" => use {
      items := evidence
      withItems := fun pack items ↦ { pack with evidence := items }
      itemName := Evidence.typeName
      load := Evidence.load
      set := Evidence.set }
  | "pending_todos" => use {
      items := todos
      withItems := fun pack items ↦ { pack with todos := items }
      itemName := Memory.typeName
      load := Memory.load .value
      set := Memory.set }
  | "retrieved_long_term_memory" => use {
      items := memories
      withItems := fun pack items ↦ { pack with memories := items }
      itemName := Memory.typeName
      load := Memory.load .value
      set := Memory.set }
  | "attachments_manifest" => use {
      items := attachments
      withItems := fun pack items ↦ { pack with attachments := items }
      itemName := Attachment.typeName
      load := Attachment.load
      set := Attachment.set }
  | _ => .error (.object (.missing typeName key))

def append (key : String) (v : Value) (pack : Pack) : Except Fault Pack :=
  onShelf key fun shelf ↦
    (expectLoaded shelf.itemName (shelf.load v)).map fun item ↦
      shelf.withItems pack (shelf.items pack ++ [item])

/-- The pack without an item; nothing if there is none with the index. -/
def remove (key : String) (index : Nat) (pack : Pack) : Except Fault (Option Pack) :=
  onShelf key fun shelf ↦
    let items := shelf.items pack
    .ok (if index < items.length then some (shelf.withItems pack (items.eraseIdx index)) else none)

/-- The pack with a member of an item replaced; nothing if there is no item with the index. -/
def change (key : String) (index : Nat) (member : String) (v : Value) (pack : Pack) :
    Except Fault (Option Pack) :=
  onShelf key fun shelf ↦
    let items := shelf.items pack
    match items[index]? with
    | none => .ok none
    | some item =>
      (shelf.set member v item).map fun changed ↦
        some (shelf.withItems pack (items.set index changed))

end Pack

end FidelityGate
