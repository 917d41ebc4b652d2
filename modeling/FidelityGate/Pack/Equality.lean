import FidelityGate.Pack.Origin
import FidelityGate.Value.Comparison

/-!
# Equality of packs

Packs are equal when all their fields are.  Numbers are compared by value, so both zeros are equal,
and so are numbers of different kinds; a number of the same origin is equal even if it is `nan`.
-/

namespace FidelityGate

def Memory.eqv (a b : Memory) (x y : Memory.Origins) : Bool :=
  a.id = b.id && a.thread = b.thread && a.scope = b.scope && a.topic = b.topic &&
    a.content = b.content && a.sources = b.sources &&
      (x.importance = y.importance || a.importance.eqv b.importance) &&
        (x.freshness = y.freshness || a.freshness.eqv b.freshness) &&
          (x.confidence = y.confidence || a.confidence.eqv b.confidence) &&
            a.createdAt.eqv b.createdAt && a.updatedAt.eqv b.updatedAt

def Turn.eqv (a b : Turn) : Bool :=
  a.createdAt.eqv b.createdAt && { a with createdAt := .zero } = { b with createdAt := .zero }

def Evidence.eqv (a b : Evidence) : Bool :=
  a.startedAt.eqv b.startedAt && a.endedAt.eqv b.endedAt &&
    { a with startedAt := .zero, endedAt := .zero } =
      { b with startedAt := .zero, endedAt := .zero }

/-- Lists of one length whose items are related pair by pair. -/
def pairwise {α : Type} (related : α → α → Bool) (as bs : List α) : Bool :=
  as.length = bs.length && (as.zip bs).all fun pair ↦ related pair.1 pair.2

def sameMemories (as bs : List Memory) (xs ys : List Memory.Origins) : Bool :=
  pairwise (fun a b ↦ a.1.eqv b.1 a.2 b.2) (as.zip xs) (bs.zip ys)

def Pack.eqv (a b : Pack) (x y : Pack.Origins) : Bool :=
  a.thread = b.thread && a.run = b.run && a.contract = b.contract &&
    a.objective = b.objective && a.constraints = b.constraints &&
      pairwise Turn.eqv a.dialogue b.dialogue && pairwise Evidence.eqv a.evidence b.evidence &&
        sameMemories a.todos b.todos x.todos y.todos &&
          sameMemories a.memories b.memories x.memories y.memories &&
            a.attachments = b.attachments && a.snapshot = b.snapshot &&
              a.inputTokens.eqv b.inputTokens && (x.saving = y.saving || a.saving.eqv b.saving) &&
                a.quality = b.quality && a.usage.eqv b.usage

end FidelityGate
