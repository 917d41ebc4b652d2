import FidelityGate.Pack.Basic
import FidelityGate.Value

/-!
# Plain objects

The plain object of a pack: all its fields under the keys from which they are loaded.
-/

namespace FidelityGate

def Memory.fields (memory : Memory) : List (String × Value) :=
  [("memory_id", .text memory.id),
    ("thread_id", .text memory.thread),
    ("scope", .text memory.scope.name),
    ("kind", .text memory.topic.name),
    ("content", .text memory.content),
    ("source_refs_json", .text memory.sources),
    ("importance", memory.importance.toValue),
    ("freshness", memory.freshness.toValue),
    ("confidence", memory.confidence.toValue),
    ("created_at_unix_ms", memory.createdAt.toValue),
    ("updated_at_unix_ms", memory.updatedAt.toValue)]

def Memory.toValue (memory : Memory) : Value :=
  .object memory.fields

def Turn.fields (turn : Turn) : List (String × Value) :=
  [("turn_id", .text turn.id),
    ("run_id", .text turn.run),
    ("user_message_id", .text turn.userMessage),
    ("assistant_message_id", .text turn.assistantMessage),
    ("user_text", .text turn.userText),
    ("assistant_text", .text turn.assistantText),
    ("created_at_unix_ms", turn.createdAt.toValue)]

def Turn.toValue (turn : Turn) : Value :=
  .object turn.fields

def Evidence.fields (evidence : Evidence) : List (String × Value) :=
  [("span_id", .text evidence.span),
    ("run_id", .text evidence.run),
    ("kind", .text evidence.kind),
    ("name", .text evidence.name),
    ("status", .text evidence.status),
    ("summary", .text evidence.summary),
    ("payload_json", .text evidence.payload),
    ("started_at_unix_ms", evidence.startedAt.toValue),
    ("ended_at_unix_ms", evidence.endedAt.toValue)]

def Evidence.toValue (evidence : Evidence) : Value :=
  .object evidence.fields

def Attachment.fields (attachment : Attachment) : List (String × Value) :=
  [("name", .text attachment.name),
    ("mime_type", .text attachment.mediaType),
    ("url", .text attachment.url),
    ("mode", .text attachment.mode)]

def Attachment.toValue (attachment : Attachment) : Value :=
  .object attachment.fields

def Usage.toValue (usage : Usage) : Value :=
  .object (usage.entries.map fun entry ↦ (entry.1, entry.2.toValue))

def Pack.fields (pack : Pack) : List (String × Value) :=
  [("thread_id", .text pack.thread),
    ("run_id", .text pack.run),
    ("system_contract", .text pack.contract),
    ("objective", .text pack.objective),
    ("active_constraints", .list (pack.constraints.map .text)),
    ("recent_dialogue", .list (pack.dialogue.map Turn.toValue)),
    ("execution_evidence", .list (pack.evidence.map Evidence.toValue)),
    ("pending_todos", .list (pack.todos.map Memory.toValue)),
    ("retrieved_long_term_memory", .list (pack.memories.map Memory.toValue)),
    ("attachments_manifest", .list (pack.attachments.map Attachment.toValue)),
    ("thread_snapshot", .text pack.snapshot),
    ("estimated_input_tokens", pack.inputTokens.toValue),
    ("compression_saving_ratio", pack.saving),
    ("compression_quality_pass", .bool pack.quality),
    ("context_sections_token_usage", pack.usage.toValue)]

def Pack.toValue (pack : Pack) : Value :=
  .object pack.fields

end FidelityGate
