import FidelityGate.Pack.Edit
import FidelityGate.Pack.Equality
import FidelityGate.Retry

/-!
# Workspaces

A workspace holds pack objects under names.  Several names may stand for one object, and a
change made through one of them is seen through all.  An accepted pack is a new object; a
rejection gives back the very object that was in use.
-/

namespace FidelityGate

/-- A pack object, and where the numbers in it came from. -/
structure Holding where
  pack : Pack
  origins : Pack.Origins

namespace Holding

def fresh (moment : Nat) (pack : Pack) : Holding :=
  ⟨pack, .fresh moment pack⟩

def set (key : String) (v : Value) (moment : Nat) (holding : Holding) : Except Fault Holding :=
  (holding.pack.set key v).map fun pack ↦ ⟨pack, holding.origins.set key moment pack⟩

def append (key : String) (v : Value) (moment : Nat) (holding : Holding) : Except Fault Holding :=
  (holding.pack.append key v).map fun pack ↦ ⟨pack, holding.origins.append key moment⟩

def remove (key : String) (index : Nat) (holding : Holding) : Except Fault (Option Holding) :=
  (holding.pack.remove key index).map fun pack? ↦ pack?.map fun pack ↦
    ⟨pack, holding.origins.remove key index⟩

/-- Replaces a member of an item in a list, if there is one with the index. -/
def change (key : String) (index : Nat) (member : String) (v : Value) (moment : Nat)
    (holding : Holding) : Except Fault (Option Holding) :=
  (holding.pack.change key index member v).map fun pack? ↦ pack?.map fun pack ↦
    ⟨pack, holding.origins.change key index member moment⟩

/-- The pack as it was accepted from a copy of this one: only its saving is a new number. -/
def accept (pack : Pack) (moment : Nat) (holding : Holding) : Holding :=
  ⟨pack, { holding.origins with saving := ⟨moment, 0⟩ }⟩

end Holding

/-- Objects are numbered by their place in `holdings`.  The moment moves on with every change. -/
structure Workspace where
  holdings : List Holding := []
  names : List (String × Nat) := []
  verdicts : List (String × Verdict) := []
  moment : Nat := 0

namespace Workspace

def bind (name : String) (object : Nat) (space : Workspace) : Workspace :=
  { space with names := (name, object) :: space.names.filter (·.1 ≠ name) }

def object? (name : String) (space : Workspace) : Option Nat :=
  space.names.lookup name

def holding? (name : String) (space : Workspace) : Option Holding :=
  (space.object? name).bind fun object ↦ space.holdings[object]?

def pack? (name : String) (space : Workspace) : Option Pack :=
  (space.holding? name).map (·.pack)

/-- A new object, which gets the next number. -/
def add (holding : Holding) (space : Workspace) : Workspace :=
  { space with holdings := space.holdings ++ [holding], moment := space.moment + 1 }

def load (name : String) (pack : Pack) (space : Workspace) : Workspace :=
  bind name space.holdings.length (space.add (.fresh space.moment pack))

/-- The object of a name gets a new content. -/
def store (name : String) (holding : Holding) (space : Workspace) : Workspace :=
  match space.object? name with
  | none => space
  | some object =>
    { space with holdings := space.holdings.set object holding, moment := space.moment + 1 }

def alias? (name other : String) (space : Workspace) : Option Workspace :=
  (space.object? other).map fun object ↦ space.bind name object

def aliases (object : Nat) (space : Workspace) : List String :=
  ((space.names.filter (·.2 = object)).map (·.1)).mergeSort (· ≤ ·)

def keepVerdict (name : String) (verdict : Verdict) (space : Workspace) : Workspace :=
  { space with verdicts := (name, verdict) :: space.verdicts.filter (·.1 ≠ name) }

def verdict? (name : String) (space : Workspace) : Option Verdict :=
  space.verdicts.lookup name

/-- Takes a decision on a named candidate over, and gives the object to go on with. -/
def adopt (before after : String) (decision : Decision) (space : Workspace) : Workspace × Nat :=
  match decision.pack, decision.accepted, space.holding? after with
  | .pack pack, true, some holding =>
    (space.add (holding.accept pack space.moment), space.holdings.length)
  | _, _, _ => (space, (space.object? before).getD space.holdings.length)

def isSame (a b : String) (space : Workspace) : Bool :=
  space.object? a = space.object? b

/-- An object equals itself, and another one if all fields are equal. -/
def isEqual (a b : String) (space : Workspace) : Bool :=
  space.isSame a b ||
    match space.holding? a, space.holding? b with
    | some x, some y => x.pack.eqv y.pack x.origins y.origins
    | _, _ => false

/-- The output that is used in the call with the given number; the last one is used again. -/
def outputName? (outputs : List String) (call : Nat) : Option String :=
  outputs[min call (outputs.length - 1)]?

/-- A compressor that offers the named packs one after the other, and fails with a name that there
is not. -/
def proposing (outputs : List String) (space : Workspace) : Compressor String :=
  fun rejected ↦
    let name := (outputName? outputs rejected.length).getD ""
    match space.pack? name with
    | some pack => .offers (.pack pack)
    | none => .fails name

end Workspace

end FidelityGate
