import FidelityGate.Fault
import FidelityGate.Pack.Rendering
import FidelityGate.Value

/-!
# Candidates

Whatever is handed in as a pack: a pack, a provider that offers some of what a pack offers, or any
other value.  A candidate is read only through its `Shape`, the three collections and the rendering,
and has one only if it offers all four.
-/

namespace FidelityGate

/-- What a provider offers as its rendering: a method that yields a value, a method that fails, or
a plain value that cannot be called. -/
inductive Rendering where
  | yields (v : Value)
  | fails (message : String)
  | plain (v : Value)

structure Provider where
  constraints : Option Value
  todos : Option Value
  evidence : Option Value
  rendering : Option Rendering

inductive Candidate where
  | pack (p : Pack)
  | provider (p : Provider)
  | value (v : Value)

structure Shape where
  constraints : Value
  todos : Value
  evidence : Value
  rendering : Rendering

/-- A rendering that is plainly nothing is as good as missing. -/
def Rendering.isOffered : Rendering → Bool
  | .plain v => !v.isNull
  | _ => true

def Provider.shape? (provider : Provider) : Option Shape := do
  let constraints ← provider.constraints
  let todos ← provider.todos
  let evidence ← provider.evidence
  let rendering ← provider.rendering
  if rendering.isOffered then some ⟨constraints, todos, evidence, rendering⟩ else none

/-- A value offers what its attributes hold. -/
def Value.provider (v : Value) : Provider where
  constraints := v.attribute? "active_constraints"
  todos := v.attribute? "pending_todos"
  evidence := v.attribute? "execution_evidence"
  rendering := (v.attribute? "approx_text").map .plain

def Pack.shape (pack : Pack) : Shape where
  constraints := .list (pack.constraints.map .text)
  todos := .list (pack.todos.map fun todo ↦ .entry [("memory_id", .text todo.id)])
  evidence := .list (pack.evidence.map fun item ↦ .entry [("span_id", .text item.span)])
  rendering := .yields (.text pack.rendering)

namespace Candidate

def shape? : Candidate → Option Shape
  | .pack p => some p.shape
  | .provider p => p.shape?
  | .value v => v.provider.shape?

def kindName : Candidate → String
  | .pack _ => Pack.typeName
  | .provider _ => "Duck"
  | .value v => v.kindName

end Candidate

/-- The provider after its collections were read once. -/
def Provider.spent (provider : Provider) : Provider :=
  { provider with
    constraints := provider.constraints.map Value.spent
    todos := provider.todos.map Value.spent
    evidence := provider.evidence.map Value.spent }

/-- The candidate after it was judged: its streams have been read.  A plain value is never read, as
its rendering cannot be called. -/
def Candidate.spent : Candidate → Candidate
  | .pack p => .pack p
  | .provider p => .provider p.spent
  | .value v => .value v

@[simp] theorem Candidate.spent_pack (p : Pack) : (Candidate.pack p).spent = .pack p := rfl

@[simp] theorem Candidate.shape?_pack (p : Pack) :
    (Candidate.pack p).shape? = some p.shape := rfl

namespace Shape

/-- The length of the rendering, which may be any value that has a length. -/
def textLength (shape : Shape) : Except Fault Nat :=
  match shape.rendering with
  | .yields v => match v.length? with
    | some length => .ok length
    | none => .error (.noLength v.kindName)
  | .fails message => .error (.rendering message)
  | .plain v => .error (.object (.notCallable v.kindName))

end Shape

end FidelityGate
