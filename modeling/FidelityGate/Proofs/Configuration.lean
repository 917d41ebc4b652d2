import FidelityGate.Proofs.ExactValue
import FidelityGate.Proofs.LoadedFields
import FidelityGate.Proofs.Malformed
import FidelityGate.Proofs.Run

/-!
# Policies that are loaded

However loosely a policy is described, the one that is loaded requires a finite ratio and allows at
least one attempt.  Runs rely on both without another look: none of them faults on the number of
attempts, and all of them record the ratio that the policy requires.
-/

namespace FidelityGate

open Load Checked

/-! ## Loading a policy -/

namespace Policy

/-- The bounds within which the fields of a policy are declared. -/
structure IsSound (policy : Policy) : Prop where
  ratio_isFinite : policy.ratio.isFinite = true
  one_le_attempts : 1 ≤ policy.attempts

theorem isSound_default : IsSound {} :=
  ⟨rfl, by decide⟩

theorem finiteNumber_eq_ok_iff {v : Value} {x : Binary64} :
    finiteNumber v = .ok x ↔ number .value v = .ok x ∧ x.isFinite = true :=
  bind_ite_eq_ok_iff

theorem positiveInteger_eq_ok_iff {v : Value} {n : Int} :
    positiveInteger v = .ok n ↔ integer v = .ok n ∧ 1 ≤ n :=
  bind_ite_eq_ok_iff

theorem load_object_eq_ok_iff {fields : List (String × Value)} {policy : Policy} :
    load (.object fields) = .ok policy ↔
      field finiteNumber .zero fields "required_saving_ratio" = .ok policy.ratio ∧
      field positiveInteger 3 fields "max_attempts" = .ok policy.attempts ∧
      field (truth .value) false fields "raise_on_exhaustion" = .ok policy.raises := by
  simp only [load, record, seq_eq_ok_iff, map_eq_ok_iff]
  constructor
  · rintro ⟨_, _, ⟨_, _, ⟨_, hratio, rfl⟩, hattempts, rfl⟩, hraises, rfl⟩
    exact ⟨hratio, hattempts, hraises⟩
  · rintro ⟨hratio, hattempts, hraises⟩
    exact ⟨_, _, ⟨_, _, ⟨_, hratio, rfl⟩, hattempts, rfl⟩, hraises, rfl⟩

theorem isSound_of_load {v : Value} {policy : Policy} (h : load v = .ok policy) :
    policy.IsSound := by
  obtain ⟨fields, rfl⟩ := exists_fields_of_record h
  obtain ⟨hratio, hattempts, -⟩ := load_object_eq_ok_iff.mp h
  constructor
  · rcases eq_default_or_exists_of_field hratio with hdefault | ⟨v, hv⟩
    · rw [hdefault]
      rfl
    · exact (finiteNumber_eq_ok_iff.mp hv).2
  · rcases eq_default_or_exists_of_field hattempts with hdefault | ⟨v, hv⟩
    · rw [hdefault]
      decide
    · exact (positiveInteger_eq_ok_iff.mp hv).2

theorem load_toValue {policy : Policy} (h : policy.IsSound) :
    load policy.toValue = .ok policy := by
  have hratio : finiteNumber (.double policy.ratio) = .ok policy.ratio :=
    finiteNumber_eq_ok_iff.mpr ⟨rfl, h.ratio_isFinite⟩
  have hattempts : positiveInteger (.int policy.attempts) = .ok policy.attempts :=
    positiveInteger_eq_ok_iff.mpr ⟨rfl, h.one_le_attempts⟩
  have hraises : truth .value (.bool policy.raises) = .ok policy.raises := rfl
  exact load_object_eq_ok_iff.mpr ⟨field_of_lookup hratio rfl, field_of_lookup hattempts rfl,
    field_of_lookup hraises rfl⟩

theorem ofValue_of_ne_null {v : Value} (h : v ≠ .null) :
    ofValue v = match load v with
      | .ok policy => .ok policy
      | .bad issues => .error (.invalidPolicy issues) := by
  cases v with
  | null => exact absurd rfl h
  | _ => rfl

theorem ofValue_cases (v : Value) :
    (∃ issues, ofValue v = .error (.invalidPolicy issues)) ∨
      ∃ policy, ofValue v = .ok policy ∧ policy.IsSound := by
  by_cases hnull : v = .null
  · subst hnull
    exact .inr ⟨{}, rfl, isSound_default⟩
  · have hload := ofValue_of_ne_null hnull
    cases h : load v with
    | bad issues => exact .inl ⟨issues, by rw [hload, h]⟩
    | ok policy => exact .inr ⟨policy, by rw [hload, h], isSound_of_load h⟩

theorem ofValue_toValue {policy : Policy} (h : policy.IsSound) :
    ofValue policy.toValue = .ok policy := by
  have hobject : policy.toValue ≠ .null := by rintro ⟨⟩
  rw [ofValue_of_ne_null hobject, load_toValue h]

theorem IsSound.exists_required {policy : Policy} (h : policy.IsSound) :
    ∃ x, policy.required = .double x ∧ x.isFinite = true ∧ 0 < x.toRat := by
  obtain ⟨x, hx, hfinite⟩ := policy.exists_required
  have hpositive := policy.required_isPositive
  rw [hx] at hpositive
  exact ⟨x, hx, hfinite h.ratio_isFinite,
    (Number.isPositive_double_iff (hfinite h.ratio_isFinite)).mp hpositive⟩

theorem IsSound.allowance_absent {policy : Policy} (h : policy.IsSound) :
    Requested.absent.allowance policy =
      .ok ⟨.int policy.attempts, policy.attempts, policy.raises⟩ :=
  Requested.allowance_ofInt_eq_ok_iff.mpr ⟨h.one_le_attempts, rfl⟩

end Policy

/-! ## Runs under a policy -/

section Run

variable {ε : Type} {compressor : Compressor ε} {before : Candidate} {policy : Policy}
  {request : Requested} {allowance : Allowance}

/-- Of the calls of a run all but the first one have the verdict on a rejection. -/
theorem Compressor.exists_calls_eq (h : request.allowance policy = .ok allowance) :
    ∃ rejected : List Verdict, rejected.length < allowance.count.toNat ∧
      (compressor.run before policy request).calls = none :: rejected.map some := by
  cases run_ends h with
  | fails rejected _ _ hlength _ hrun => exact ⟨rejected, hlength, congrArg Run.calls hrun⟩
  | faults rejected _ _ _ hlength _ _ hrun => exact ⟨rejected, hlength, congrArg Run.calls hrun⟩
  | cannotStamp rejected _ _ _ _ hlength _ _ _ _ hrun =>
      exact ⟨rejected, hlength, congrArg Run.calls hrun⟩
  | accepts rejected _ _ _ hlength _ _ _ hrun =>
      exact ⟨rejected, hlength, congrArg Run.calls hrun⟩
  | exhausts earlier _ _ hlength hrun =>
      exact ⟨earlier, by omega, congrArg Run.calls hrun⟩

theorem Compressor.length_calls (h : request.allowance policy = .ok allowance) :
    1 ≤ (compressor.run before policy request).calls.length ∧
      (compressor.run before policy request).calls.length ≤ allowance.count := by
  obtain ⟨rejected, hlength, hcalls⟩ := exists_calls_eq h
  rw [hcalls, List.length_cons, List.length_map]
  omega

theorem Compressor.required_of_mem_shown {verdict : Verdict}
    (h : verdict ∈ (compressor.run before policy request).shown) :
    verdict.required = policy.required.toValue := by
  obtain ⟨count, after, hjudge⟩ := exists_judge_of_mem_shown h
  obtain ⟨findings, hof, rfl⟩ := judge_eq_ok_iff.mp hjudge
  rw [← hof.required_eq]
  rfl

/-- Between packs a run comes to a decision, runs out of attempts, or grows too large. -/
inductive Run.EndsBetweenPacks (allowance : Allowance) (run : Run ε) : Prop
  | decides (decision : Decision) (h : run.outcome = .ok decision)
  | exhausts (last : Verdict) (hraises : allowance.raises = true)
      (h : run.outcome =
        .error (.fault (.exhausted allowance.given.toValue last.reason (some last))))
  | overflows (h : run.outcome = .error (.fault .quotientOverflow))

theorem Compressor.run_endsBetweenPacks {before : Pack}
    (hpacks : ∀ history, ∃ after, (compressor history).proposal (.pack before) = .ok (.pack after))
    (h : request.allowance policy = .ok allowance) :
    (compressor.run (.pack before) policy request).EndsBetweenPacks allowance := by
  have hends : Ends compressor (.pack before) policy allowance _ := run_ends h
  cases hends with
  | fails rejected failure _ _ hfails _ =>
      obtain ⟨after, hproposal⟩ := hpacks rejected
      rw [hfails] at hproposal
      cases hproposal
  | faults rejected after fault _ _ hproposal hjudge hrun =>
      obtain ⟨pack, hpack⟩ := hpacks rejected
      rw [Candidate.readTimes_pack] at hproposal hjudge
      obtain rfl := Except.ok.inj (hpack.symm.trans hproposal)
      -- Packs are always readable, so that only the saving can be to blame.
      have hblame := fault?_judge_pack before pack (some policy.required)
      rw [Requested.ofNumber, hjudge, eq_comm, Except.fault?, Except.fault?_eq_some_iff] at hblame
      obtain rfl := eq_quotientOverflow_of_saving hblame
      exact .overflows (congrArg Run.outcome hrun)
  | cannotStamp rejected after verdict fault _ _ hproposal _ _ hafter _ =>
      obtain ⟨pack, hpack⟩ := hpacks rejected
      rw [Candidate.readTimes_pack] at hproposal
      exact absurd (Except.ok.inj (hproposal.symm.trans hpack)) (hafter pack)
  | accepts rejected pack verdict _ _ _ _ _ hrun => exact .decides _ (congrArg Run.outcome hrun)
  | exhausts earlier last _ _ hrun =>
      cases hraises : allowance.raises with
      | true => exact .exhausts last hraises (by rw [hrun, hraises, if_pos rfl])
      | false =>
          exact .decides _ ((congrArg Run.outcome hrun).trans (by rw [hraises]; rfl))

end Run

/-- What is loaded as a policy requires a positive and finite ratio of every verdict in a run, and
bounds the calls of the compressor.  Everything else is refused with its issues. -/
theorem loaded_policies_carry_into_runs (v : Value) :
    (∃ issues, Policy.ofValue v = .error (.invalidPolicy issues)) ∨
    ∃ policy x, Policy.ofValue v = .ok policy ∧
      policy.ratio.isFinite = true ∧ 1 ≤ policy.attempts ∧
      Policy.ofValue policy.toValue = .ok policy ∧
      policy.required = .double x ∧ x.isFinite = true ∧ 0 < x.toRat ∧
      ∀ {ε : Type} (compressor : Compressor ε) (before : Pack),
        let run := compressor.run (.pack before) policy .absent
        1 ≤ run.calls.length ∧ run.calls.length ≤ policy.attempts ∧
        (∀ verdict ∈ run.shown, verdict.required = .double x) ∧
        ((∀ history, ∃ after,
            (compressor history).proposal (.pack before) = .ok (.pack after)) →
          run.EndsBetweenPacks ⟨.int policy.attempts, policy.attempts, policy.raises⟩) := by
  rcases Policy.ofValue_cases v with hissues | ⟨policy, hpolicy, hsound⟩
  · exact .inl hissues
  · obtain ⟨x, hx, hfinite, hpositive⟩ := hsound.exists_required
    refine .inr ⟨policy, x, hpolicy, hsound.ratio_isFinite, hsound.one_le_attempts,
      Policy.ofValue_toValue hsound, hx, hfinite, hpositive, ?_⟩
    intro ε compressor before run
    obtain ⟨hleast, hmost⟩ := Compressor.length_calls hsound.allowance_absent
    refine ⟨hleast, hmost, ?_, ?_⟩
    · intro verdict hverdict
      rw [Compressor.required_of_mem_shown hverdict, hx]
      rfl
    · intro hpacks
      exact Compressor.run_endsBetweenPacks hpacks hsound.allowance_absent

example : Policy.load (.object [("required_saving_ratio", .text "nan"),
    ("max_attempts", .bool false)]) =
      .bad [⟨[.key "required_saving_ratio"], .notFinite⟩, ⟨[.key "max_attempts"], .below 1⟩] := by
  decide +kernel

end FidelityGate
