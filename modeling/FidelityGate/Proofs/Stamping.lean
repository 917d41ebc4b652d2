import FidelityGate.Proofs.Adoption
import FidelityGate.Workspace

/-!
# Stamping

The stamp on an accepted pack is invisible to the gate: it changes neither the rendering nor any
identifier, so the pack is judged as the candidate that it is a copy of, on either side of a
judgement, and a second stamp of the same verdict changes nothing.  In a workspace an accepted pack
is a new object, and nothing that was there before is touched.
-/

namespace FidelityGate

/-! ## What a judgement reads -/

/-- Candidates that cannot be told apart by reading them. -/
structure Candidate.Alike (first second : Candidate) : Prop where
  shape : first.shape? = second.shape?
  kindName : first.kindName = second.kindName

namespace Candidate.Alike

variable {first second : Candidate}

theorem requireShape (h : first.Alike second) (role : Role) :
    first.requireShape role = second.requireShape role := by
  rw [Candidate.requireShape, Candidate.requireShape, h.shape, h.kindName]

theorem judge_left (h : first.Alike second) (after : Candidate) (request : Requested) :
    judge first after request = judge second after request := by
  rw [judge, judge, h.requireShape]

theorem judge_right (h : first.Alike second) (before : Candidate) (request : Requested) :
    judge before first request = judge before second request := by
  rw [judge, judge, h.requireShape]

theorem stamp (pack : Pack) (verdict : Verdict) :
    (Candidate.pack (pack.stamp verdict)).Alike (.pack pack) where
  shape := by rw [shape?_pack, shape?_pack, Pack.shape_stamp]
  kindName := rfl

end Candidate.Alike

theorem Pack.stamp_stamp (verdict : Verdict) (pack : Pack) :
    (pack.stamp verdict).stamp verdict = pack.stamp verdict := rfl

theorem Verdict.decision_stamp (before after : Pack) (verdict : Verdict) :
    verdict.decision before (after.stamp verdict) = verdict.decision before after := by
  rw [decision, decision, Pack.stamp_stamp]

/-! ## Objects in a workspace -/

namespace Workspace

/-- All names, objects and verdicts are as they were; objects may have been added. -/
structure Keeps (space space' : Workspace) : Prop where
  names : space'.names = space.names
  holdings : space.holdings <+: space'.holdings
  verdicts : space'.verdicts = space.verdicts

namespace Keeps

theorem refl (space : Workspace) : space.Keeps space :=
  ⟨rfl, List.prefix_refl _, rfl⟩

theorem add (holding : Holding) (space : Workspace) : space.Keeps (space.add holding) :=
  ⟨rfl, List.prefix_append _ _, rfl⟩

end Keeps

/-- An object that no name stands for. -/
def IsNew (space : Workspace) (object : Nat) : Prop :=
  ∀ name holding, space.holding? name = some holding → space.object? name ≠ some object

theorem isNew_length (space : Workspace) : space.IsNew space.holdings.length := by
  intro name holding hholding hobject
  obtain ⟨object, hobject', hget⟩ := Option.bind_eq_some_iff.mp hholding
  obtain rfl : object = space.holdings.length := Option.some.inj (hobject'.symm.trans hobject)
  rw [List.getElem?_eq_none (Nat.le_refl _)] at hget
  cases hget

variable {space : Workspace} {before after : String} {decision : Decision}

theorem adopt_of_accepted {pack : Pack} {holding : Holding} (hpack : decision.pack = .pack pack)
    (haccepted : decision.accepted = true) (hafter : space.holding? after = some holding) :
    space.adopt before after decision =
      (space.add (holding.accept pack space.moment), space.holdings.length) := by
  simp [adopt, hpack, haccepted, hafter]

theorem adopt_of_rejected {object : Nat} (haccepted : decision.accepted = false)
    (hbefore : space.object? before = some object) :
    space.adopt before after decision = (space, object) := by
  simp [adopt, haccepted, hbefore]

theorem exists_holding_of_pack? {name : String} {pack : Pack}
    (h : space.pack? name = some pack) :
    ∃ holding, space.holding? name = some holding ∧ holding.pack = pack :=
  Option.map_eq_some_iff.mp h

/-- Taking over the decision on two packs leaves everything in place, and gives a new object for a
stamped pack, or the very object that was in use. -/
theorem exists_adopt_eq {pack candidate : Pack} {verdict : Verdict}
    (hbefore : space.pack? before = some pack) (hafter : space.pack? after = some candidate) :
    ∃ space' object,
      space.adopt before after (verdict.decision pack candidate) = (space', object) ∧
      space.Keeps space' ∧
      (verdict.isPassed = false → space' = space ∧ space.object? before = some object) ∧
      (verdict.isPassed = true → space.IsNew object ∧
        (space'.holdings[object]?).map Holding.pack = some (candidate.stamp verdict)) := by
  obtain ⟨holding, hholding, rfl⟩ := exists_holding_of_pack? hafter
  cases hpassed : verdict.isPassed with
  | false =>
      obtain ⟨used, hused, -⟩ := exists_holding_of_pack? hbefore
      obtain ⟨object, hobject, -⟩ := Option.bind_eq_some_iff.mp hused
      refine ⟨space, object, adopt_of_rejected hpassed hobject, Keeps.refl space, ?_, ?_⟩
      · exact fun _ ↦ ⟨rfl, hobject⟩
      · rintro ⟨⟩
  | true =>
      have hpack : (verdict.decision pack holding.pack).pack =
          .pack (holding.pack.stamp verdict) := by
        rw [Verdict.decision, if_pos hpassed]
      refine ⟨_, _, adopt_of_accepted hpack hpassed hholding, Keeps.add _ space, ?_, ?_⟩
      · rintro ⟨⟩
      · intro _
        refine ⟨space.isNew_length, ?_⟩
        simp [add, Holding.accept]

end Workspace

/-- A passing verdict is stamped on a copy of the candidate, and no judgement can tell the copy from
the candidate.  Whatever is decided, both packs stay as they were. -/
theorem stamping_copies_unseen (before after : Pack) (verdict : Verdict) :
    let stamped : Pack := { after with saving := verdict.saving, quality := true }
    ∃ decision, settle (.pack before) (.pack after) verdict = .ok decision ∧
      decision.verdict = verdict ∧ decision.accepted = verdict.isPassed ∧
      (∀ passed, verdict.passed = .bool passed → decision.accepted = passed) ∧
      (verdict.isPassed = false → decision.pack = .pack before) ∧
      (verdict.isPassed = true → decision.pack = .pack stamped ∧
        settle (.pack before) (.pack stamped) verdict = .ok decision) ∧
      (∀ (space : Workspace) (b a : String),
        space.pack? b = some before → space.pack? a = some after →
          ∃ space' object, space.adopt b a decision = (space', object) ∧ space.Keeps space' ∧
            (verdict.isPassed = false → space' = space ∧ space.object? b = some object) ∧
            (verdict.isPassed = true → space.IsNew object ∧
              (space'.holdings[object]?).map Holding.pack = some stamped)) ∧
      stamped.rendering = after.rendering ∧
      ∀ (other : Candidate) (request : Requested),
        judge other (.pack stamped) request = judge other (.pack after) request ∧
        judge (.pack stamped) other request = judge (.pack after) other request := by
  intro stamped
  have hstamped : stamped = after.stamp verdict := rfl
  have halike := Candidate.Alike.stamp after verdict
  rw [hstamped]
  refine ⟨verdict.decision before after, settle_pack before after verdict, rfl, rfl, ?_, ?_, ?_, ?_,
    Pack.rendering_stamp verdict after, ?_⟩
  · intro passed hpassed
    rw [Verdict.decision, Verdict.isPassed, hpassed]
    rfl
  · intro hfailed
    simp [Verdict.decision, hfailed]
  · intro hpassed
    refine ⟨by simp [Verdict.decision, hpassed], ?_⟩
    rw [settle_pack, Verdict.decision_stamp]
  · intro space b a hbefore hafter
    exact Workspace.exists_adopt_eq hbefore hafter
  · intro other request
    exact ⟨halike.judge_right other request, halike.judge_left other request⟩

end FidelityGate
