import FidelityGate.Candidate

/-!
# Identifiers

The identifiers by which the preservation checks compare two packs: constraints by their text, todos
by their id, evidence by its span.  Identifiers are trimmed, and blank ones do not count.
-/

namespace FidelityGate

structure Identifiers where
  constraints : List String
  todos : List String
  evidence : List String

def Value.require (name : String) (v : Value) : Except EntryFault Value :=
  match v.attribute? name with
  | some found => .ok found
  | none => .error (.missing v.kindName name)

namespace Identifiers

/-- Whatever can be trimmed is read: texts, and also labels.  Of other values, those with an
attribute of that name fail differently. -/
def trimmed : Value → Except EntryFault String
  | .text s => .ok (Text.trim s)
  | .label s => .ok (Text.trim s)
  | v => (v.require "strip").bind fun found ↦ .error (.notCallable found.kindName)

def trimmedMember (name : String) (v : Value) : Except EntryFault String :=
  (v.require name).bind trimmed

def readAll (read : Value → Except EntryFault String) :
    List Value → Except EntryFault (List String)
  | [] => .ok []
  | v :: rest => do
    let first ← read v
    let others ← readAll read rest
    return first :: others

/-- The identifiers of a collection that are not blank. -/
def collect (read : Value → Except EntryFault String) (collection : Value) :
    Except EntryFault (List String) :=
  match collection.items? with
  | none => .error (.notIterable collection.kindName)
  | some items => (readAll read items).map fun ids ↦ ids.filter (· ≠ "")

def ofShape (shape : Shape) : Except EntryFault Identifiers := do
  let constraints ← collect trimmed shape.constraints
  let todos ← collect (trimmedMember "memory_id") shape.todos
  let evidence ← collect (trimmedMember "span_id") shape.evidence
  return ⟨constraints, todos, evidence⟩

/-- Something of the first list is not in the second one. -/
def isLost (before after : List String) : Bool :=
  !before.all after.contains

end Identifiers

end FidelityGate
