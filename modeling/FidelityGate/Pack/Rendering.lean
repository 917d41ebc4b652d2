import FidelityGate.Pack.Basic
import FidelityGate.Text.Blank

/-!
# Rendering

The plain text of a pack, by whose length packs are compared.  Its parts are joined by line ends and
the whole is trimmed.  The three headers are kept even when they are empty and constraints are kept
as they stand; of everything else only texts that are not blank contribute, trimmed.
-/

namespace FidelityGate.Pack

/-- The trimmed texts, less those that are blank. -/
def visible (texts : List String) : List String :=
  (texts.map Text.trim).filter (· ≠ "")

def headers (pack : Pack) : List String :=
  [Text.trim pack.contract, Text.trim pack.objective, Text.trim pack.snapshot]

/-- The texts of dialogue, evidence, todos and memories, in this order. -/
def remarks (pack : Pack) : List String :=
  pack.dialogue.flatMap (fun turn ↦ [turn.userText, turn.assistantText]) ++
    pack.evidence.map (·.summary) ++ pack.todos.map (·.content) ++ pack.memories.map (·.content)

def parts (pack : Pack) : List String :=
  pack.headers ++ pack.constraints ++ visible pack.remarks

def rendering (pack : Pack) : String :=
  Text.trim ("\n".intercalate pack.parts)

end FidelityGate.Pack
