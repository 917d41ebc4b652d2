import FidelityGate.Load.Issue

/-!
# Checked results

The result of loading is a value or the list of all issues found.  Two checked results are combined
side by side: the issues of both are kept, in order, and a value arises only from two values.
-/

namespace FidelityGate

inductive Checked (α : Type) where
  | ok (value : α)
  | bad (issues : List Issue)
  deriving DecidableEq

namespace Checked

variable {α β : Type}

def fail (complaint : Complaint) : Checked α :=
  .bad [⟨[], complaint⟩]

def map (f : α → β) : Checked α → Checked β
  | .ok value => .ok (f value)
  | .bad issues => .bad issues

def seq (f : Checked (α → β)) (x : Checked α) : Checked β :=
  match f, x with
  | .ok f, .ok value => .ok (f value)
  | .ok _, .bad issues => .bad issues
  | .bad issues, .ok _ => .bad issues
  | .bad first, .bad second => .bad (first ++ second)

def bind (x : Checked α) (f : α → Checked β) : Checked β :=
  match x with
  | .ok value => f value
  | .bad issues => .bad issues

instance : Applicative Checked where
  pure := .ok
  map := map
  seq f x := seq f (x ())

@[simp] theorem map_ok (f : α → β) (value : α) : f <$> Checked.ok value = .ok (f value) := rfl

@[simp] theorem ok_seq_ok (f : α → β) (value : α) :
    Checked.ok f <*> Checked.ok value = .ok (f value) := rfl

def under (step : Step) : Checked α → Checked α
  | .ok value => .ok value
  | .bad issues => .bad (issues.map (·.under step))

@[simp] theorem under_ok (step : Step) (value : α) :
    (Checked.ok value).under step = .ok value := rfl

/-- Loads the items of a list one by one, counting them from `position`. -/
def each (load : β → Checked α) (position : Nat) : List β → Checked (List α)
  | [] => .ok []
  | item :: rest =>
    List.cons <$> (load item).under (.index position) <*> each load (position + 1) rest

end Checked

end FidelityGate
