import FidelityGate.Proofs.Run
import FidelityGate.Proofs.SavingOrder
import FidelityGate.Proofs.Trimming
import Mathlib.Algebra.Order.BigOperators.Group.List
import Mathlib.Data.List.Dedup
import Mathlib.Data.List.Perm.Subperm

/-!
# What a rendering shows

Constraints that are kept can be read in the rendering, each of them trimmed and unbroken.  Distinct
constraints are on lines of their own there, so a rendering that keeps them all has a least length,
and where that length saves too little no candidate is ever accepted.
-/

namespace FidelityGate

namespace Pack

theorem toList_rendering (pack : Pack) :
    pack.rendering.toList =
      Text.trimBy Text.isBlank (Text.terminated (pack.parts.map String.toList)) := by
  rw [rendering, Text.toList_trim, String.toList_intercalate]
  exact Text.trimBy_intercalate (by decide) _

theorem mem_parts_of_mem_constraints {pack : Pack} {c : String} (h : c ∈ pack.constraints) :
    c ∈ pack.parts := by
  simp [parts, h]

theorem trim_infix_rendering {pack : Pack} {part : String} (h : part ∈ pack.parts) :
    (Text.trim part).toList <:+: pack.rendering.toList := by
  rw [toList_rendering, Text.toList_trim]
  apply Text.trimBy_infix_trimBy
  exact Text.infix_terminated (List.mem_map_of_mem h)

theorem map_toList_visible (texts : List String) :
    (visible texts).map String.toList =
      ((texts.map String.toList).map (Text.trimBy Text.isBlank)).filter (· ≠ []) := by
  simp [visible, List.filter_map, List.map_map, Function.comp_def, Text.toList_trim,
    ← String.toList_eq_nil_iff]

theorem visible_append (texts more : List String) :
    visible (texts ++ more) = visible texts ++ visible more := by
  simp [visible]

theorem visible_isTrimmed {s : String} {texts : List String} (h : s ∈ visible texts) :
    s.toList ≠ [] ∧ Text.trimBy Text.isBlank s.toList = s.toList := by
  obtain ⟨hne, t, -, rfl⟩ := mem_visible.mp h
  exact ⟨by simpa using hne, by rw [Text.toList_trim, Text.trimBy_trimBy]⟩

theorem length_visible_parts_le (pack : Pack) :
    ((visible pack.parts).map String.length).sum + (visible pack.parts).length - 1 ≤
      pack.rendering.length := by
  -- Trimming the whole can only eat into the ends of lines that are blank or not trimmed yet, so
  -- the trimmed lines that are not blank are compared with the rendering.
  let shown := (visible pack.parts).map String.toList
  have htrimmed : ∀ t ∈ shown, t ≠ [] ∧ Text.trimBy Text.isBlank t = t := by
    intro t ht
    obtain ⟨s, hs, rfl⟩ := List.mem_map.mp ht
    exact visible_isTrimmed hs
  have hlength : (Text.terminated shown).length =
      ((visible pack.parts).map String.length).sum + (visible pack.parts).length := by
    rw [Text.length_terminated, List.map_map, List.length_map]
    rfl
  have hsub : (Text.trimBy Text.isBlank (Text.terminated shown)).Sublist pack.rendering.toList := by
    rw [toList_rendering]
    apply Text.trimBy_sublist_trimBy
    rw [show shown = _ from map_toList_visible pack.parts]
    exact Text.terminated_trimmed_sublist _ _
  calc ((visible pack.parts).map String.length).sum + (visible pack.parts).length - 1 =
        (Text.trimBy Text.isBlank (Text.terminated shown)).length := by
          rw [Text.length_trimBy_terminated (by decide) htrimmed, hlength]
    _ ≤ pack.rendering.length := by
          rw [← String.length_toList]
          exact hsub.length_le

/-- Distinct texts among the parts of a pack have room in its rendering, on a line each. -/
theorem length_le_rendering {pack : Pack} {texts : List String} (hdistinct : texts.Nodup)
    (h : texts ⊆ visible pack.parts) :
    (texts.map String.length).sum + (texts.length - 1) ≤ pack.rendering.length := by
  obtain ⟨selected, hperm, hsub⟩ := List.subperm_of_subset hdistinct h
  have hcount : texts.length ≤ (visible pack.parts).length := by
    rw [← hperm.length_eq]
    exact hsub.length_le
  have hlengths : (texts.map String.length).sum ≤ ((visible pack.parts).map String.length).sum := by
    rw [← (hperm.map String.length).sum_eq]
    exact (hsub.map String.length).sum_le_sum fun _ _ ↦ Nat.zero_le _
  have hroom := length_visible_parts_le pack
  rcases List.eq_nil_or_concat texts with rfl | ⟨_, _, rfl⟩
  · exact Nat.zero_le _
  · rw [List.length_concat] at hcount ⊢
    omega

/-- The constraints that are not blank, trimmed and each of them once. -/
def distinctConstraints (pack : Pack) : List String :=
  (visible pack.constraints).dedup

/-- The length of the distinct constraints on a line each. -/
def leastLength (pack : Pack) : Nat :=
  (pack.distinctConstraints.map String.length).sum + (pack.distinctConstraints.length - 1)

theorem leastLength_le {before after : Pack}
    (h : Text.Kept before.constraints after.constraints) :
    before.leastLength ≤ after.rendering.length := by
  apply length_le_rendering (List.nodup_dedup _)
  intro s hs
  obtain ⟨hblank, c, hc, rfl⟩ := mem_visible.mp (List.mem_dedup.mp hs)
  obtain ⟨d, hd, htrim⟩ := h c hc hblank
  exact mem_visible.mpr ⟨hblank, d, mem_parts_of_mem_constraints hd, htrim⟩

/-- A pack cannot be rendered shorter than its constraints. -/
theorem leastLength_le_rendering (pack : Pack) : pack.leastLength ≤ pack.rendering.length :=
  leastLength_le (Text.Kept.refl _)

example : { constraints := [" a", "b", " ", "a "] : Pack }.leastLength = 3 := by decide +kernel

end Pack

section TooLong

variable {before : Pack} {saved : Binary64} {required : Number}
  (hsaved : saving before.rendering.length before.leastLength = .ok saved)
  (hless : (Number.double saved).lt required = true)

include hsaved hless

/-- Where even the least length saves too little, no candidate passes. -/
theorem not_isPassed_of_leastLength {after : Pack} {request : Requested} {verdict : Verdict}
    (hratio : request.ratio = .ok required)
    (h : judge (.pack before) (.pack after) request = .ok verdict) :
    verdict.isPassed = false := by
  obtain ⟨enforced, saved', hratio', hsaved', rfl⟩ := judge_pack_eq_ok_iff.mp h
  obtain rfl : required = enforced := Except.ok.inj (hratio.symm.trans hratio')
  rw [← Bool.not_eq_true]
  intro hpassed
  obtain ⟨hkept, henough⟩ := (Verdict.isPassed_ofEntries_iff ..).mp hpassed
  have hroom : before.leastLength ≤ after.rendering.length := Pack.leastLength_le hkept.constraints
  have hsmaller := saving_le_saving_of_le hroom hsaved' hsaved
  rw [Number.not_lt_of_le (Number.le_trans henough hsmaller)] at hless
  cases hless

end TooLong

theorem not_accepted_of_leastLength {ε : Type} {compressor : Compressor ε} {before : Pack}
    {saved : Binary64} {policy : Policy} {request : Requested} {decision : Decision}
    (hsaved : saving before.rendering.length before.leastLength = .ok saved)
    (hless : (Number.double saved).lt policy.required = true)
    (h : (compressor.run (.pack before) policy request).outcome = .ok decision) :
    decision.accepted = false := by
  obtain ⟨_, rejected, -, -, hend⟩ := Compressor.run_eq_ok_cases h
  rcases hend with ⟨after, verdict, -, hjudge, hpassed, -⟩ | ⟨_, _, -, rfl⟩
  · rw [Candidate.readTimes_pack] at hjudge
    have hratio := Requested.ratio_number policy.required_isPositive
    have hfailed := not_isPassed_of_leastLength hsaved hless hratio hjudge
    rw [hpassed] at hfailed
    cases hfailed
  · rfl

/-- A candidate that keeps the constraints shows each of them, so it has at least their least
length. Where even this length saves too little, neither a judgement nor a run accepts anything. -/
theorem kept_constraints_are_visible (before : Pack) :
    (∀ after request verdict, judge (.pack before) (.pack after) request = .ok verdict →
      verdict.constraintsLost = .bool false →
        (∀ c ∈ before.constraints, Text.trim c ≠ "" →
          (Text.trim c).toList <:+: after.rendering.toList) ∧
        verdict.afterLength = .int after.rendering.length ∧
        before.leastLength ≤ after.rendering.length) ∧
    ∃ saved, saving before.rendering.length before.leastLength = .ok saved ∧
      (∀ request required, request.ratio = .ok required →
        (Number.double saved).lt required = true →
          ∀ after verdict, judge (.pack before) (.pack after) request = .ok verdict →
            verdict.isPassed = false) ∧
      ∀ {ε : Type} (compressor : Compressor ε) (policy : Policy) (request : Requested) decision,
        (Number.double saved).lt policy.required = true →
        (compressor.run (.pack before) policy request).outcome = .ok decision →
          decision.accepted = false := by
  constructor
  · intro after request verdict hjudge hnone
    obtain ⟨required, saved, -, -, rfl⟩ := judge_pack_eq_ok_iff.mp hjudge
    have hkept : Text.Kept before.constraints after.constraints :=
      Identifiers.isLost_visible_eq_false_iff.mp (Value.bool.inj hnone)
    refine ⟨fun c hc hblank ↦ ?_, rfl, Pack.leastLength_le hkept⟩
    obtain ⟨d, hd, htrim⟩ := hkept c hc hblank
    rw [← htrim]
    exact Pack.trim_infix_rendering (Pack.mem_parts_of_mem_constraints hd)
  · have hroom : before.leastLength ≤ before.rendering.length := before.leastLength_le_rendering
    obtain ⟨saved, hsaved⟩ := exists_saving hroom
    refine ⟨saved, hsaved, ?_, ?_⟩
    · intro request required hratio hless after verdict hjudge
      exact not_isPassed_of_leastLength hsaved hless hratio hjudge
    · intro ε compressor policy request decision hless hrun
      exact not_accepted_of_leastLength hsaved hless hrun

/-- A pack that is nothing but one constraint is never compressed. -/
theorem lone_constraint_is_kept_visible :
    Pack.leastLength { constraints := ["keep tests"] } = 10 ∧
      ∀ after verdict,
        judge (.pack { constraints := ["keep tests"] }) (.pack after) .absent = .ok verdict →
          verdict.isPassed = false := by
  have hleast : Pack.leastLength { constraints := ["keep tests"] } = 10 := by decide +kernel
  have hlength : (Pack.rendering { constraints := ["keep tests"] }).length = 10 := by
    decide +kernel
  obtain ⟨-, saved, hsaved, hnone, -⟩ :=
    kept_constraints_are_visible { constraints := ["keep tests"] }
  rw [hleast, hlength, saving_self] at hsaved
  obtain rfl : Binary64.zero = saved := Except.ok.inj hsaved
  have hless : (Number.double .zero).lt (.double defaultRatio) = true := by decide +kernel
  exact ⟨hleast, hnone .absent (.double defaultRatio) rfl hless⟩

end FidelityGate
