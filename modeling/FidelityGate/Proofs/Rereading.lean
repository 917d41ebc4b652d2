import FidelityGate.Proofs.Run

/-!
# Reading the pack in use again

A run reads the pack in use once for every attempt.  A collection that reading leaves as it is
yields the same identifiers each time, so an accepted candidate keeps them whatever was rejected
before.  A stream is used up by the first attempt, and what it held can be lost afterwards.
-/

namespace FidelityGate

def Shape.spent (shape : Shape) : Shape :=
  { shape with
    constraints := shape.constraints.spent
    todos := shape.todos.spent
    evidence := shape.evidence.spent }

theorem Provider.shape?_spent (provider : Provider) :
    provider.spent.shape? = provider.shape?.map Shape.spent := by
  rcases provider with ⟨_ | constraints, _ | todos, _ | evidence, _ | rendering⟩ <;>
    simp [spent, shape?, Shape.spent]

namespace Candidate

theorem shape?_spent {candidate : Candidate} {shape : Shape}
    (h : candidate.shape? = some shape) :
    candidate.spent.shape? = some shape ∨ candidate.spent.shape? = some shape.spent := by
  cases candidate with
  | pack p => exact .inl h
  | provider p =>
      have hspent : p.spent.shape? = some shape.spent := by
        rw [p.shape?_spent, show p.shape? = some shape from h, Option.map_some]
      exact .inr hspent
  | value v => exact .inl h

/-- A part of the shape that reading leaves as it is does not change however often it is read. -/
theorem exists_shape?_readTimes (count : Nat) {candidate : Candidate} {shape : Shape}
    (h : candidate.shape? = some shape) :
    ∃ later, (candidate.readTimes count).shape? = some later ∧
      ∀ part : Shape → Value, (∀ s : Shape, part s.spent = (part s).spent) →
        (part shape).spent = part shape → part later = part shape := by
  induction count generalizing candidate shape with
  | zero => exact ⟨shape, h, fun _ _ _ ↦ rfl⟩
  | succ count ih =>
      rcases shape?_spent h with hsame | hspent
      · exact ih hsame
      · obtain ⟨later, hlater, hparts⟩ := ih hspent
        refine ⟨later, hlater, fun part hpart hread ↦ ?_⟩
        have heq : part shape.spent = part shape := (hpart shape).trans hread
        rw [← heq]
        apply hparts part hpart
        rw [heq, hread]

end Candidate

/-- A compressor that proposes packs or fails.  Like every compressor it leaves the pack in use
alone, so nothing but a judgement reads the streams of that pack. -/
def Compressor.ofPacks {ε : Type} (propose : List Verdict → Except ε Pack) : Compressor ε :=
  fun rejected ↦ match propose rejected with
    | .ok pack => .offers (.pack pack)
    | .error failure => .fails failure

/-- An accepted pack keeps each collection that can be read again, and all three of them if it was
accepted at the first attempt. -/
theorem Compressor.run_keeps_rereadable {ε : Type} {propose : List Verdict → Except ε Pack}
    {before : Candidate} {shape : Shape} {policy : Policy} {request : Requested}
    {decision : Decision} (hshape : before.shape? = some shape)
    (h : ((ofPacks propose).run before policy request).outcome = .ok decision)
    (haccepted : decision.accepted = true) :
    ∃ pack : Pack, decision.pack = .pack pack ∧
      (shape.constraints.spent = shape.constraints ∨ decision.attempts = .int 1 →
        ∀ c ∈ before.entries.constraints, Text.trim c ≠ "" →
          ∃ d ∈ pack.constraints, Text.trim d = Text.trim c) ∧
      (shape.todos.spent = shape.todos ∨ decision.attempts = .int 1 →
        ∀ id ∈ before.entries.todos, Text.trim id ≠ "" →
          ∃ todo ∈ pack.todos, Text.trim todo.id = Text.trim id) ∧
      (shape.evidence.spent = shape.evidence ∨ decision.attempts = .int 1 →
        ∀ span ∈ before.entries.evidence, Text.trim span ≠ "" →
          ∃ item ∈ pack.evidence, Text.trim item.span = Text.trim span) := by
  obtain ⟨allowance, rejected, -, -, hend⟩ := run_eq_ok_cases h
  rcases hend with ⟨pack, verdict, -, hjudge, hpassed, rfl⟩ | ⟨earlier, last, -, rfl⟩
  · have hkept := judge_keeps hjudge hpassed
    rw [Candidate.entries_pack] at hkept
    obtain ⟨later, hlater, hparts⟩ := Candidate.exists_shape?_readTimes rejected.length hshape
    rw [Candidate.entries_of_shape? hlater] at hkept
    rw [Candidate.entries_of_shape? hshape]
    have hpart (part : Shape → Value) (hspent : ∀ s : Shape, part s.spent = (part s).spent)
        (hread : (part shape).spent = part shape ∨ Value.int (rejected.length + 1) = .int 1) :
        part later = part shape := by
      rcases hread with hsame | hone
      · exact hparts part hspent hsame
      · have hnone : rejected.length = 0 := by
          rw [Value.int.injEq] at hone
          omega
        rw [hnone, Candidate.readTimes_zero, hshape] at hlater
        rw [Option.some.inj hlater]
    refine ⟨pack.stamp verdict, rfl, fun hread ↦ ?_, fun hread ↦ ?_, fun hread ↦ ?_⟩
    · have hconstraints := hkept.constraints
      rwa [Shape.entries, hpart Shape.constraints (fun _ ↦ rfl) hread] at hconstraints
    · have htodos := hkept.todos
      rw [Shape.entries, hpart Shape.todos (fun _ ↦ rfl) hread] at htodos
      exact Text.kept_map_iff.mp htodos
    · have hevidence := hkept.evidence
      rw [Shape.entries, hpart Shape.evidence (fun _ ↦ rfl) hread] at hevidence
      exact Text.kept_map_iff.mp hevidence
  · cases haccepted

/-- A provider whose constraint can be read once, and whose todo can be read again. -/
def Provider.oneReading : Provider where
  constraints := some (.stream [.text "keep tests"])
  todos := some (.list [.entry [("memory_id", .text "t1")]])
  evidence := some (.list [])
  rendering := some (.yields (.text "Keep the tests, and finish what is pending."))

def Compressor.ofTodo (id : String) : Compressor Empty :=
  ofPacks fun _ ↦ .ok { todos := [{ id }] }

/-- After a rejection, a candidate is accepted that lacks a constraint which a stream held. -/
theorem Compressor.run_loses_stream :
    ¬ ∀ (propose : List Verdict → Except Empty Pack) (before : Candidate) (policy : Policy)
      (request : Requested) (decision : Decision),
      (∃ shape, before.shape? = some shape) →
      ((ofPacks propose).run before policy request).outcome = .ok decision →
      decision.accepted = true → before.entries.KeptBy decision.pack.entries := by
  intro h
  obtain ⟨decision, hok, hdecision⟩ := Except.exists_of_toOption_map
    (x := ((Compressor.ofTodo "t1").run (.provider .oneReading) {} .absent).outcome)
    (f := fun decision ↦ (decision.accepted, decision.pack.entries.constraints))
    (b := (true, [])) (by decide +kernel)
  obtain ⟨haccepted, hconstraints⟩ := Prod.mk.inj hdecision
  have hkept := h _ _ _ _ decision ⟨_, rfl⟩ hok haccepted
  obtain ⟨d, hd, -⟩ := hkept.constraints "keep tests" (by decide +kernel) (by decide +kernel)
  rw [hconstraints] at hd
  cases hd

/-- A todo that can be read again is kept by a candidate that is accepted at the second attempt. -/
theorem Compressor.run_keeps_rereadable_todo :
    ∃ decision : Decision,
      ((Compressor.ofTodo " t1").run (.provider .oneReading) {} .absent).outcome = .ok decision ∧
      decision.attempts = .int 2 ∧
      ∃ pack : Pack, decision.pack = .pack pack ∧
        ∃ todo ∈ pack.todos, Text.trim todo.id = Text.trim "t1" := by
  obtain ⟨decision, hok, hdecision⟩ := Except.exists_of_toOption_map
    (x := ((Compressor.ofTodo " t1").run (.provider .oneReading) {} .absent).outcome)
    (f := fun decision ↦ (decision.accepted, decision.attempts matches .int 2))
    (b := (true, true)) (by decide +kernel)
  obtain ⟨haccepted, hattempts⟩ := Prod.mk.inj hdecision
  obtain ⟨pack, hpack, -, htodos, -⟩ := run_keeps_rereadable rfl hok haccepted
  refine ⟨decision, hok, ?_, pack, hpack, ?_⟩
  · split at hattempts
    · assumption
    · cases hattempts
  · exact htodos (.inl rfl) "t1" (by decide +kernel) (by decide +kernel)

end FidelityGate
