import FidelityGate.Proofs.Run

/-!
# The agent loop

An agent goes from pack to pack.  At each move it has a candidate reviewed, or has a compressor try
until a candidate passes, and goes on with the pack that was decided on.  A move that fails leaves
it where it is.  Whatever is asked for on the way, no identifier of the first pack is lost, and
every acceptance makes the pack in use shorter.
-/

namespace FidelityGate

inductive Move (ε : Type) where
  | review (after : Candidate) (request : Requested) (policy : Option Policy)
  | compress (compressor : Compressor ε) (policy : Option Policy) (request : Requested)

/-- A decision that was accepted, with the candidate in use until then. -/
structure Adoption where
  replaced : Candidate
  decision : Decision

structure Agent where
  current : Candidate
  adopted : List Adoption := []

variable {ε : Type}

namespace Move

/-- The decision that a move comes to, unless it fails. -/
def decision? (current : Candidate) : Move ε → Option Decision
  | review after request policy => (FidelityGate.review current after request policy).outcome.toOption
  | compress compressor policy request =>
    (compressor.run current (policy.getD {}) request).outcome.toOption

theorem adopts_or_keeps {move : Move ε} {pack : Pack} {decision : Decision}
    (h : move.decision? (.pack pack) = some decision) :
    (∃ next, decision.Adopts pack next) ∨
      decision.accepted = false ∧ decision.pack = .pack pack := by
  cases move with
  | review after request policy =>
      obtain ⟨ratio, verdict, -, hjudge, hend⟩ :=
        review_eq_ok_cases (Except.toOption_eq_some_iff.mp h)
      rcases hend with ⟨next, rfl, hpassed, rfl⟩ | ⟨-, rfl⟩
      · exact .inl ⟨_, Decision.adopts_stamp hjudge hpassed rfl rfl rfl⟩
      · exact .inr ⟨rfl, rfl⟩
  | compress compressor policy request =>
      obtain ⟨allowance, rejected, -, -, hend⟩ :=
        Compressor.run_eq_ok_cases (Except.toOption_eq_some_iff.mp h)
      rcases hend with ⟨next, verdict, -, hjudge, hpassed, rfl⟩ | ⟨earlier, last, -, rfl⟩
      · rw [Candidate.readTimes_pack] at hjudge
        exact .inl ⟨_, Decision.adopts_stamp hjudge hpassed rfl rfl rfl⟩
      · exact .inr ⟨rfl, Candidate.readTimes_pack ..⟩

end Move

namespace Agent

def begin (start : Pack) : Agent :=
  { current := .pack start }

def take (agent : Agent) (move : Move ε) : Agent :=
  match move.decision? agent.current with
  | none => agent
  | some decision =>
    { current := decision.pack
      adopted :=
        if decision.accepted then agent.adopted ++ [⟨agent.current, decision⟩]
        else agent.adopted }

def follow (agent : Agent) (moves : List (Move ε)) : Agent :=
  moves.foldl take agent

theorem follow_append_singleton (agent : Agent) (moves : List (Move ε)) (move : Move ε) :
    agent.follow (moves ++ [move]) = (agent.follow moves).take move := by
  simp [follow]

theorem take_cases {agent : Agent} {pack : Pack} (move : Move ε) (h : agent.current = .pack pack) :
    (∃ next decision, move.decision? (.pack pack) = some decision ∧ decision.Adopts pack next ∧
      agent.take move = ⟨.pack next, agent.adopted ++ [⟨.pack pack, decision⟩]⟩) ∨
    (∀ decision, move.decision? (.pack pack) = some decision → decision.accepted = false) ∧
      agent.take move = agent := by
  obtain ⟨current, adopted⟩ := agent
  obtain rfl : current = .pack pack := h
  cases hdecision : move.decision? (.pack pack) with
  | none =>
      refine .inr ⟨fun decision hsome ↦ ?_, ?_⟩
      · cases hsome
      · simp [take, hdecision]
  | some decision =>
      rcases Move.adopts_or_keeps hdecision with ⟨next, hadopts⟩ | ⟨hrejected, hpack⟩
      · refine .inl ⟨next, decision, rfl, hadopts, ?_⟩
        simp [take, hdecision, hadopts.accepted, hadopts.pack]
      · refine .inr ⟨fun _ hsome ↦ Option.some.inj hsome ▸ hrejected, ?_⟩
        simp [take, hdecision, hrejected, hpack]

/-- What holds of an agent that began with one pack and now uses another. -/
structure Came (start pack : Pack) (agent : Agent) : Prop where
  current : agent.current = .pack pack
  kept : start.entries.KeptBy pack.entries
  bounded : agent.adopted.length + pack.rendering.length ≤ start.rendering.length
  last : ∀ adoption, agent.adopted.getLast? = some adoption →
    ∃ replaced, adoption.replaced = .pack replaced ∧ adoption.decision.Adopts replaced pack

namespace Came

variable {start pack : Pack} {agent : Agent}

theorem begin (start : Pack) : (begin start).Came start start :=
  ⟨rfl, .refl _, by simp [Agent.begin], fun adoption h ↦ by cases h⟩

theorem take (h : agent.Came start pack) (move : Move ε) :
    ∃ next, (agent.take move).Came start next := by
  rcases take_cases move h.current with ⟨next, decision, -, hadopts, htake⟩ | ⟨-, htake⟩
  · refine ⟨next, ?_⟩
    rw [htake]
    refine ⟨rfl, h.kept.trans hadopts.kept, ?_, fun adoption hlast ↦ ?_⟩
    · have hbounded := h.bounded
      have hshorter := hadopts.shorter
      rw [List.length_append, List.length_singleton]
      omega
    · rw [List.getLast?_concat, Option.some.injEq] at hlast
      subst hlast
      exact ⟨pack, rfl, hadopts⟩
  · exact ⟨pack, by rwa [htake]⟩

theorem follow (h : agent.Came start pack) (moves : List (Move ε)) :
    ∃ next, (agent.follow moves).Came start next := by
  -- The first pack is the same throughout; the pack in use changes with the moves.
  induction moves generalizing agent pack with
  | nil => exact ⟨pack, h⟩
  | cons move moves ih =>
      obtain ⟨next, hnext⟩ := h.take move
      exact ih hnext

end Came

/-- After any moves the pack in use holds everything that the first pack held.  Each acceptance made
it shorter, so there were no more of them than characters that were saved, and it bears the stamp of
the last one. -/
theorem follow_keeps_and_shortens (start : Pack) (moves : List (Move ε)) :
    ∃ pack, ((begin start).follow moves).current = .pack pack ∧
      -- Nothing that the first pack held is lost.
      (∀ c ∈ start.constraints, Text.trim c ≠ "" →
        ∃ d ∈ pack.constraints, Text.trim d = Text.trim c) ∧
      (∀ todo ∈ start.todos, Text.trim todo.id ≠ "" →
        ∃ other ∈ pack.todos, Text.trim other.id = Text.trim todo.id) ∧
      (∀ item ∈ start.evidence, Text.trim item.span ≠ "" →
        ∃ other ∈ pack.evidence, Text.trim other.span = Text.trim item.span) ∧
      -- The pack gets shorter by what is accepted, and by nothing else.
      ((begin start).follow moves).adopted.length + pack.rendering.length ≤
        start.rendering.length ∧
      (∀ move : Move ε,
        (∃ decision next, move.decision? (.pack pack) = some decision ∧
          decision.accepted = true ∧ next.rendering.length < pack.rendering.length ∧
          (begin start).follow (moves ++ [move]) =
            ⟨.pack next, ((begin start).follow moves).adopted ++ [⟨.pack pack, decision⟩]⟩) ∨
        (∀ decision, move.decision? (.pack pack) = some decision → decision.accepted = false) ∧
          (begin start).follow (moves ++ [move]) = (begin start).follow moves) ∧
      -- The pack in use bears the stamp of the last acceptance.
      ∀ last, ((begin start).follow moves).adopted.getLast? = some last →
        last.decision.accepted = true ∧ last.decision.pack = .pack pack ∧ pack.quality = true ∧
        pack.saving = last.decision.verdict.saving ∧
        ∃ replaced saved, last.replaced = .pack replaced ∧
          saving replaced.rendering.length pack.rendering.length = .ok saved ∧
          pack.saving = .double saved ∧ (Number.double saved).isPositive = true := by
  obtain ⟨pack, h⟩ := (Came.begin start).follow moves
  refine ⟨pack, h.current, h.kept.constraints, ?_, ?_, h.bounded, fun move ↦ ?_, fun last hlast ↦ ?_⟩
  · intro todo htodo
    exact Text.kept_map_iff.mp h.kept.todos _ (List.mem_map_of_mem htodo)
  · intro item hitem
    exact Text.kept_map_iff.mp h.kept.evidence _ (List.mem_map_of_mem hitem)
  · rw [follow_append_singleton]
    rcases take_cases move h.current with ⟨next, decision, hsome, hadopts, htake⟩ | hkept
    · exact .inl ⟨decision, next, hsome, hadopts.accepted, hadopts.shorter, htake⟩
    · exact .inr hkept
  · obtain ⟨replaced, hreplaced, hadopts⟩ := h.last last hlast
    obtain ⟨saved, hsaved, hpositive, hverdict, hpack⟩ := hadopts.saved
    exact ⟨hadopts.accepted, hadopts.pack, hadopts.quality, hpack.trans hverdict.symm,
      replaced, saved, hreplaced, hsaved, hpack, hpositive⟩

end Agent

end FidelityGate
