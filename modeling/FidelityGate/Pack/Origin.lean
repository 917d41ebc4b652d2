import FidelityGate.Pack.Basic

/-!
# Origins

A `nan` equals no number but the very one that it is.  Where packs are compared it therefore matters
which of their numbers are one and the same: those of the same origin.  A number has its origin
from the moment at which it was put into a pack and from its place then, and a copy keeps it.
-/

namespace FidelityGate

structure Origin where
  moment : Nat
  place : Nat
  deriving DecidableEq

structure Memory.Origins where
  importance : Origin
  freshness : Origin
  confidence : Origin
  deriving DecidableEq

namespace Memory.Origins

def fresh (origin : Origin) : Origins :=
  ⟨origin, origin, origin⟩

def freshList (moment count : Nat) : List Origins :=
  (List.range count).map fun place ↦ fresh ⟨moment, place⟩

def set (member : String) (origin : Origin) (origins : Origins) : Origins :=
  match member with
  | "importance" => { origins with importance := origin }
  | "freshness" => { origins with freshness := origin }
  | "confidence" => { origins with confidence := origin }
  | _ => origins

end Memory.Origins

/-- The origins of the numbers in a pack, those in a list in the order of the list. -/
structure Pack.Origins where
  saving : Origin
  todos : List Memory.Origins
  memories : List Memory.Origins
  deriving DecidableEq

namespace Pack.Origins

open Memory.Origins

def fresh (moment : Nat) (pack : Pack) : Origins where
  saving := ⟨moment, 0⟩
  todos := freshList moment pack.todos.length
  memories := freshList moment pack.memories.length

def onList (key : String) (f : List Memory.Origins → List Memory.Origins) (origins : Origins) :
    Origins :=
  match key with
  | "pending_todos" => { origins with todos := f origins.todos }
  | "retrieved_long_term_memory" => { origins with memories := f origins.memories }
  | _ => origins

/-- The origins after a field was replaced, which gives the pack. -/
def set (key : String) (moment : Nat) (pack : Pack) (origins : Origins) : Origins :=
  match key with
  | "compression_saving_ratio" => { origins with saving := ⟨moment, 0⟩ }
  | "pending_todos" => { origins with todos := freshList moment pack.todos.length }
  | "retrieved_long_term_memory" =>
    { origins with memories := freshList moment pack.memories.length }
  | _ => origins

def append (key : String) (moment : Nat) : Origins → Origins :=
  onList key (· ++ [Memory.Origins.fresh ⟨moment, 0⟩])

def remove (key : String) (index : Nat) : Origins → Origins :=
  onList key (·.eraseIdx index)

def change (key : String) (index : Nat) (member : String) (moment : Nat) : Origins → Origins :=
  onList key (·.modify index (·.set member ⟨moment, 0⟩))

end Pack.Origins

end FidelityGate
