import FidelityGate.Proofs.Replacement
import Mathlib.Data.List.Sublists

/-!
# Dominance

A judgement in which more is kept of less, the candidate is no longer, the pack in use no shorter
and the threshold no higher gives no new reason to reject.  Of the identifiers this is plain.  The
saving is compared through the fractions, whose denominators differ, and a pack in use that renders
as nothing is set apart: its saving is zero, and that meets no threshold.
-/

namespace FidelityGate

theorem Reason.sublist_of_subset {first second : List Reason} (hfirst : first.Sublist Reason.all)
    (hsecond : second.Sublist Reason.all) (h : first ⊆ second) : first.Sublist second := by
  have hall : ∀ xs ∈ Reason.all.sublists, ∀ ys ∈ Reason.all.sublists,
      xs ⊆ ys → xs.Sublist ys := by decide
  exact hall first (List.mem_sublists.mpr hfirst) second (List.mem_sublists.mpr hsecond) h

/-- The second judgement is nowhere harder to pass than the first one. -/
structure Easier (before after : Pack) (required : Number) (before' after' : Pack)
    (required' : Number) : Prop where
  keepsMore : after.entries.KeptBy after'.entries
  asksForLess : before'.entries.KeptBy before.entries
  noLonger : after'.rendering.length ≤ after.rendering.length
  noShorter : before.rendering.length ≤ before'.rendering.length
  noHigher : required'.le required = true

namespace Easier

variable {before after before' after' : Pack} {required required' : Number}
  {saved saved' : Binary64}

theorem keptBy (h : Easier before after required before' after' required')
    (hkept : before.entries.KeptBy after.entries) : before'.entries.KeptBy after'.entries :=
  (h.asksForLess.trans hkept).trans h.keepsMore

theorem saving_le (h : Easier before after required before' after' required')
    (hshorter : after.rendering.length < before.rendering.length)
    (hsaved : saving before.rendering.length after.rendering.length = .ok saved)
    (hsaved' : saving before'.rendering.length after'.rendering.length = .ok saved') :
    (Number.double saved).le (.double saved') = true := by
  have hlonger := h.noShorter
  apply saving_le_saving (by omega) (by omega) hsaved hsaved'
  have hrest : (after'.rendering.length : Int) * before.rendering.length ≤
      after.rendering.length * before'.rendering.length := by
    exact_mod_cast Nat.mul_le_mul h.noLonger hlonger
  rw [Int.sub_mul, Int.sub_mul, Int.mul_comm (before'.rendering.length : Int)]
  omega

theorem meets (h : Easier before after required before' after' required')
    (hpositive : required.isPositive = true)
    (hsaved : saving before.rendering.length after.rendering.length = .ok saved)
    (hsaved' : saving before'.rendering.length after'.rendering.length = .ok saved')
    (henough : required.le (.double saved) = true) : required'.le (.double saved') = true := by
  have hshorter : after.rendering.length < before.rendering.length := by
    exact_mod_cast lt_of_saving_isPositive hsaved (Number.isPositive_of_le hpositive henough)
  exact Number.le_trans (Number.le_trans h.noHigher henough) (h.saving_le hshorter hsaved hsaved')

theorem fails (h : Easier before after required before' after' required')
    (hpositive : required.isPositive = true)
    (hsaved : saving before.rendering.length after.rendering.length = .ok saved)
    (hsaved' : saving before'.rendering.length after'.rendering.length = .ok saved')
    {reason : Reason} (hfails : reason.Fails before'.entries after'.entries required' saved') :
    reason.Fails before.entries after.entries required saved := by
  cases reason with
  | constraintsLost =>
      intro hkept
      exact hfails ((h.asksForLess.constraints.trans hkept).trans h.keepsMore.constraints)
  | todosLost =>
      intro hkept
      exact hfails ((h.asksForLess.todos.trans hkept).trans h.keepsMore.todos)
  | evidenceLost =>
      intro hkept
      exact hfails ((h.asksForLess.evidence.trans hkept).trans h.keepsMore.evidence)
  | savingTooSmall =>
      intro henough
      exact hfails (h.meets hpositive hsaved hsaved' henough)

end Easier

variable {before after before' after' : Pack} {request request' : Requested}
  {required required' : Number}

/-- What is easier is rejected for no reason that is new, and may still replace the pack in use. -/
theorem judge_dominates (hratio : request.ratio = .ok required)
    (hratio' : request'.ratio = .ok required')
    (h : Easier before after required before' after' required') :
    (∀ verdict verdict',
      judge (.pack before) (.pack after) request = .ok verdict →
      judge (.pack before') (.pack after') request' = .ok verdict' →
        verdict'.reasons.Sublist verdict.reasons) ∧
    (Replaceable before after request required →
      Replaceable before' after' request' required') := by
  have hpositive : required.isPositive = true := Requested.ratio_isPositive hratio
  constructor
  · intro verdict verdict' hjudge hjudge'
    obtain ⟨enforced, saved, hsame, hsaved, rfl⟩ := judge_pack_eq_ok_iff.mp hjudge
    obtain ⟨enforced', saved', hsame', hsaved', rfl⟩ := judge_pack_eq_ok_iff.mp hjudge'
    obtain rfl : required = enforced := Except.ok.inj (hratio.symm.trans hsame)
    obtain rfl : required' = enforced' := Except.ok.inj (hratio'.symm.trans hsame')
    apply Reason.sublist_of_subset (Verdict.reasons_ofEntries_sublist ..)
      (Verdict.reasons_ofEntries_sublist ..)
    intro reason hreason
    rw [Verdict.mem_reasons_ofEntries] at hreason ⊢
    exact h.fails hpositive hsaved hsaved' hreason
  · intro hpassed
    have hshorter := hpassed.length_lt
    obtain ⟨-, hkept, saved, hsaved, henough⟩ := Replaceable.iff.mp hpassed
    have hroom : after'.rendering.length ≤ before'.rendering.length :=
      h.noLonger.trans (hshorter.le.trans h.noShorter)
    obtain ⟨saved', hsaved'⟩ := exists_saving hroom
    have henough' := h.meets hpositive hsaved hsaved' henough
    exact Replaceable.iff.mpr ⟨hratio', h.keptBy hkept, saved', hsaved', henough'⟩

/-- Longer than the other drafts, and without any identifiers. -/
def Draft.wordy : Pack where
  contract := "Answer in whole sentences, say why, and name the evidence."

theorem draft_judgement_dominates :
    (Requested.ratio .absent = .ok (.double defaultRatio) ∧
      (Requested.number Draft.third).ratio = .ok Draft.third ∧
      Easier Draft.long Draft.short (.double defaultRatio) Draft.wordy Draft.bare Draft.third) ∧
    ∃ verdict verdict',
      judge (.pack Draft.long) (.pack Draft.short) .absent = .ok verdict ∧
      judge (.pack Draft.wordy) (.pack Draft.bare) (.number Draft.third) = .ok verdict' ∧
      verdict.reasons = [.savingTooSmall] ∧ verdict'.reasons.Sublist verdict.reasons := by
  have hratio : Requested.ratio .absent = .ok (.double defaultRatio) := rfl
  have hratio' : (Requested.number Draft.third).ratio = .ok Draft.third :=
    Requested.ratio_number (by decide +kernel)
  have heasier : Easier Draft.long Draft.short (.double defaultRatio) Draft.wordy Draft.bare
      Draft.third := by
    constructor <;> decide +kernel
  obtain ⟨verdict, hjudge, hreasons⟩ := Except.exists_of_toOption_map
    (x := judge (.pack Draft.long) (.pack Draft.short) .absent) (f := Verdict.reasons)
    (b := [.savingTooSmall]) (by decide +kernel)
  obtain ⟨verdict', hjudge', -⟩ := Except.exists_of_toOption_map
    (x := judge (.pack Draft.wordy) (.pack Draft.bare) (.number Draft.third))
    (f := fun _ ↦ ()) (b := ()) (by decide +kernel)
  obtain ⟨hsublist, -⟩ := judge_dominates hratio hratio' heasier
  exact ⟨⟨hratio, hratio', heasier⟩, verdict, verdict', hjudge, hjudge', hreasons,
    hsublist verdict verdict' hjudge hjudge'⟩

end FidelityGate
