import FidelityGate.Proofs.Preservation
import FidelityGate.Proofs.Threshold

/-!
# Judgements

What a verdict says about the two candidates that were judged.  A judgement is taken apart into its
findings, which are the ratio to enforce, both lengths and the saving, and the verdict is read off
the findings and the identifiers as they stand.  A reason is given exactly for each check that
fails, and a candidate passes exactly if no check does.
-/

namespace FidelityGate

/-! ## Reasons and checks -/

/-- The check that a reason stands for has failed. -/
def Reason.Fails (before after : Identifiers) (required : Number) (saved : Binary64) :
    Reason → Prop
  | .constraintsLost => ¬ Text.Kept before.constraints after.constraints
  | .todosLost => ¬ Text.Kept before.todos after.todos
  | .evidenceLost => ¬ Text.Kept before.evidence after.evidence
  | .savingTooSmall => ¬ required.le (.double saved) = true

namespace Verdict

variable (saved : Binary64) (required : Number) (before after : Identifiers)
  (beforeLength afterLength : Nat)

/-- The verdict on identifiers as they stand. -/
def ofEntries : Verdict :=
  conclude (.double saved) required
    (Identifiers.isLost before.visible.constraints after.visible.constraints)
    (Identifiers.isLost before.visible.todos after.visible.todos)
    (Identifiers.isLost before.visible.evidence after.visible.evidence)
    beforeLength afterLength

@[simp] theorem saving_ofEntries :
    (ofEntries saved required before after beforeLength afterLength).saving = .double saved := rfl

theorem reasons_conclude_sublist (saving : Number) (constraintsLost todosLost evidenceLost : Bool) :
    (conclude saving required constraintsLost todosLost evidenceLost beforeLength
      afterLength).reasons.Sublist Reason.all := by
  cases constraintsLost <;> cases todosLost <;> cases evidenceLost <;>
    cases h : required.le saving <;> simp only [conclude, h] <;> decide

theorem reasons_ofEntries_sublist :
    (ofEntries saved required before after beforeLength afterLength).reasons.Sublist Reason.all :=
  reasons_conclude_sublist ..

theorem mem_reasons_conclude {saving required : Number}
    {constraintsLost todosLost evidenceLost : Bool} {beforeLength afterLength : Nat}
    {reason : Reason} :
    reason ∈ (conclude saving required constraintsLost todosLost evidenceLost beforeLength
        afterLength).reasons ↔
      match reason with
      | .constraintsLost => constraintsLost = true
      | .todosLost => todosLost = true
      | .evidenceLost => evidenceLost = true
      | .savingTooSmall => ¬ required.le saving = true := by
  simp only [conclude, List.mem_append, List.mem_ite_nil_right, List.mem_ite_nil_left,
    List.mem_singleton]
  cases reason <;> simp

theorem mem_reasons_ofEntries (reason : Reason) :
    reason ∈ (ofEntries saved required before after beforeLength afterLength).reasons ↔
      reason.Fails before after required saved := by
  rw [ofEntries, mem_reasons_conclude]
  cases reason with
  | constraintsLost => exact Identifiers.isLost_visible_iff
  | todosLost => exact Identifiers.isLost_visible_iff
  | evidenceLost => exact Identifiers.isLost_visible_iff
  | savingTooSmall => exact Iff.rfl

theorem lostState_conclude (saving : Number) (constraintsLost todosLost evidenceLost : Bool) :
    (conclude saving required constraintsLost todosLost evidenceLost beforeLength
      afterLength).lostState = .bool (constraintsLost || todosLost || evidenceLost) := by
  cases constraintsLost <;> cases todosLost <;> cases evidenceLost <;> rfl

theorem isPassed_conclude_iff (saving : Number) (constraintsLost todosLost evidenceLost : Bool) :
    (conclude saving required constraintsLost todosLost evidenceLost beforeLength
        afterLength).isPassed = true ↔
      (conclude saving required constraintsLost todosLost evidenceLost beforeLength
          afterLength).lostState = .bool false ∧
        Reason.savingTooSmall ∉ (conclude saving required constraintsLost todosLost evidenceLost
          beforeLength afterLength).reasons := by
  rw [lostState_conclude, mem_reasons_conclude, not_not, Value.bool.injEq]
  simp [conclude, isPassed, Value.isTrue, and_assoc]

theorem isPassed_iff_reasons_eq_nil :
    (ofEntries saved required before after beforeLength afterLength).isPassed = true ↔
      (ofEntries saved required before after beforeLength afterLength).reasons = [] := by
  rw [ofEntries, isPassed_conclude, List.isEmpty_iff]

theorem isPassed_ofEntries_iff :
    (ofEntries saved required before after beforeLength afterLength).isPassed = true ↔
      before.KeptBy after ∧ required.le (.double saved) = true := by
  simp only [isPassed_iff_reasons_eq_nil, List.eq_nil_iff_forall_not_mem, mem_reasons_ofEntries]
  constructor
  · intro h
    refine ⟨⟨?_, ?_, ?_⟩, ?_⟩
    · exact not_not.mp (h .constraintsLost)
    · exact not_not.mp (h .todosLost)
    · exact not_not.mp (h .evidenceLost)
    · exact not_not.mp (h .savingTooSmall)
  · rintro ⟨⟨hconstraints, htodos, hevidence⟩, hsaving⟩ reason hfails
    cases reason with
    | constraintsLost => exact hfails hconstraints
    | todosLost => exact hfails htodos
    | evidenceLost => exact hfails hevidence
    | savingTooSmall => exact hfails hsaving

end Verdict

/-! ## Taking a judgement apart -/

namespace Candidate

/-- A candidate with a rendering that is a text. -/
def Renders (candidate : Candidate) (text : String) : Prop :=
  ∃ shape, candidate.shape? = some shape ∧ shape.rendering = .yields (.text text)

theorem renders_pack (pack : Pack) : (Candidate.pack pack).Renders pack.rendering :=
  ⟨_, rfl, rfl⟩

/-- The length of the rendering of a candidate that has a shape and a rendering with a length. -/
def textLength? (candidate : Candidate) : Option Nat :=
  candidate.shape?.bind fun shape ↦ shape.textLength.toOption

theorem textLength?_eq_some_iff {candidate : Candidate} {shape : Shape} {length : Nat}
    (hshape : candidate.shape? = some shape) :
    candidate.textLength? = some length ↔ shape.textLength = .ok length := by
  rw [textLength?, hshape, Option.bind_some, Except.toOption_eq_some_iff]

theorem Renders.textLength? {candidate : Candidate} {text : String} (h : candidate.Renders text) :
    candidate.textLength? = some text.length := by
  obtain ⟨shape, hshape, hrendering⟩ := h
  exact (textLength?_eq_some_iff hshape).mpr (by simp [Shape.textLength, hrendering, Value.length?])

def IsReadable (candidate : Candidate) : Prop :=
  ∃ shape, candidate.shape? = some shape ∧ shape.IsReadable

theorem isReadable_pack (pack : Pack) : (Candidate.pack pack).IsReadable :=
  ⟨_, rfl, pack.isReadable_shape⟩

theorem requireShape_eq_ok_iff {role : Role} {candidate : Candidate} {shape : Shape} :
    candidate.requireShape role = .ok shape ↔ candidate.shape? = some shape := by
  unfold requireShape
  cases candidate.shape? <;> simp

end Candidate

theorem Shape.identifiers_eq_ok_iff {role : Role} {shape : Shape} {ids : Identifiers} :
    shape.identifiers role = .ok ids ↔ shape.IsReadable ∧ ids = shape.entries.visible := by
  rw [← Identifiers.ofShape_eq_ok_iff, identifiers]
  cases Identifiers.ofShape shape <;> simp

/-- What is found out on the way to a verdict. -/
structure Findings where
  required : Number
  beforeLength : Nat
  afterLength : Nat
  saved : Binary64

/-- The findings of a judgement, which exist only where nothing is wrong with its input. -/
structure Findings.Of (before after : Candidate) (request : Requested) (findings : Findings) :
    Prop where
  required : request.ratio = .ok findings.required
  beforeLength : before.textLength? = some findings.beforeLength
  afterLength : after.textLength? = some findings.afterLength
  saved : saving findings.beforeLength findings.afterLength = .ok findings.saved
  before_isReadable : before.IsReadable
  after_isReadable : after.IsReadable

def Findings.verdict (before after : Identifiers) (findings : Findings) : Verdict :=
  .ofEntries findings.saved findings.required before after findings.beforeLength
    findings.afterLength

theorem judge_eq_ok_iff {before after : Candidate} {request : Requested} {verdict : Verdict} :
    judge before after request = .ok verdict ↔
      ∃ findings : Findings, findings.Of before after request ∧
        verdict = findings.verdict before.entries after.entries := by
  simp only [judge, Except.bind_eq_ok_iff, Candidate.requireShape_eq_ok_iff,
    Shape.identifiers_eq_ok_iff, pure, Except.pure, Except.ok.injEq]
  constructor
  · rintro ⟨shape, hshape, other, hother, required, hrequired, m, hm, n, hn, saved, hsaved,
      _, ⟨hreadable, rfl⟩, _, ⟨hotherReadable, rfl⟩, rfl⟩
    refine ⟨⟨required, m, n, saved⟩, ⟨hrequired, ?_, ?_, hsaved, ⟨_, hshape, hreadable⟩,
      ⟨_, hother, hotherReadable⟩⟩, ?_⟩
    · exact (Candidate.textLength?_eq_some_iff hshape).mpr hm
    · exact (Candidate.textLength?_eq_some_iff hother).mpr hn
    · rw [Candidate.entries_of_shape? hshape, Candidate.entries_of_shape? hother]
      rfl
  · rintro ⟨⟨required, m, n, saved⟩, ⟨hrequired, hm, hn, hsaved, ⟨shape, hshape, hreadable⟩,
      ⟨other, hother, hotherReadable⟩⟩, rfl⟩
    rw [Candidate.entries_of_shape? hshape, Candidate.entries_of_shape? hother]
    exact ⟨shape, hshape, other, hother, required, hrequired,
      m, (Candidate.textLength?_eq_some_iff hshape).mp hm,
      n, (Candidate.textLength?_eq_some_iff hother).mp hn, saved, hsaved,
      _, ⟨hreadable, rfl⟩, _, ⟨hotherReadable, rfl⟩, rfl⟩

/-- What a judgement of readable texts comes to. -/
theorem judge_of_renders {before after : Candidate} {s t : String} (hs : before.Renders s)
    (ht : after.Renders t) (hbefore : before.IsReadable) (hafter : after.IsReadable)
    (request : Requested) :
    judge before after request = do
      let required ← request.ratio
      let saved ← saving s.length t.length
      return .ofEntries saved required before.entries after.entries s.length t.length := by
  obtain ⟨shape, hshape, hreadable⟩ := hbefore
  obtain ⟨other, hother, hother_readable⟩ := hafter
  have hbeforeShape : before.requireShape .before = .ok shape :=
    Candidate.requireShape_eq_ok_iff.mpr hshape
  have hafterShape : after.requireShape .after = .ok other :=
    Candidate.requireShape_eq_ok_iff.mpr hother
  have hbeforeLength : shape.textLength = .ok s.length :=
    (Candidate.textLength?_eq_some_iff hshape).mp hs.textLength?
  have hafterLength : other.textLength = .ok t.length :=
    (Candidate.textLength?_eq_some_iff hother).mp ht.textLength?
  have hkept : shape.identifiers .before = .ok shape.entries.visible :=
    Shape.identifiers_eq_ok_iff.mpr ⟨hreadable, rfl⟩
  have hfound : other.identifiers .after = .ok other.entries.visible :=
    Shape.identifiers_eq_ok_iff.mpr ⟨hother_readable, rfl⟩
  rw [Candidate.entries_of_shape? hshape, Candidate.entries_of_shape? hother]
  simp only [judge, hbeforeShape, hafterShape, hbeforeLength, hafterLength, hkept, hfound,
    Except.ok_bind]
  rfl

/-- Between packs nothing can go wrong but the ratio and the size of the saving. -/
theorem judge_pack_eq_ok_iff {before after : Pack} {request : Requested} {verdict : Verdict} :
    judge (.pack before) (.pack after) request = .ok verdict ↔
      ∃ required saved, request.ratio = .ok required ∧
        saving before.rendering.length after.rendering.length = .ok saved ∧
        verdict = .ofEntries saved required before.entries after.entries
          before.rendering.length after.rendering.length := by
  rw [judge_of_renders (Candidate.renders_pack before) (Candidate.renders_pack after)
    (Candidate.isReadable_pack before) (Candidate.isReadable_pack after), Candidate.entries_pack,
    Candidate.entries_pack]
  simp only [Except.bind_eq_ok_iff, pure, Except.pure, Except.ok.injEq]
  constructor
  · rintro ⟨required, hrequired, saved, hsaved, rfl⟩
    exact ⟨required, saved, hrequired, hsaved, rfl⟩
  · rintro ⟨required, saved, hrequired, hsaved, rfl⟩
    exact ⟨required, hrequired, saved, hsaved, rfl⟩

theorem exists_judge_of_saving {before after : Candidate} {s t : String} {request : Requested}
    {required : Number} (hs : before.Renders s) (ht : after.Renders t)
    (hbefore : before.IsReadable) (hafter : after.IsReadable)
    (hrequired : request.ratio = .ok required)
    (hsaved : ∃ saved, saving s.length t.length = .ok saved) :
    ∃ verdict, judge before after request = .ok verdict := by
  obtain ⟨saved, hsaved⟩ := hsaved
  rw [judge_of_renders hs ht hbefore hafter, hrequired, hsaved]
  exact ⟨_, rfl⟩

theorem exists_judge_pack {before after : Pack}
    (hsaved : ∃ saved, saving before.rendering.length after.rendering.length = .ok saved)
    (ratio : Number) :
    ∃ verdict, judge (.pack before) (.pack after) (.number ratio) = .ok verdict :=
  exists_judge_of_saving (Candidate.renders_pack before) (Candidate.renders_pack after)
    (Candidate.isReadable_pack before) (Candidate.isReadable_pack after) rfl hsaved

/-! ## Faults of a judgement -/

def Fault.verdict? : Fault → Option Verdict
  | .exhausted _ _ verdict => verdict
  | _ => none

def Fault.IsBare (fault : Fault) : Prop :=
  fault.verdict? = none

theorem Candidate.requireShape_failsOnly (role : Role) (candidate : Candidate) :
    Except.FailsOnly Fault.IsBare (candidate.requireShape role) := by
  intro fault h
  unfold requireShape at h
  split at h <;> cases h
  rfl

theorem Requested.ratio_failsOnly (request : Requested) :
    Except.FailsOnly Fault.IsBare request.ratio := by
  intro fault h
  cases request <;> cases h
  rfl

theorem Shape.textLength_failsOnly (shape : Shape) :
    Except.FailsOnly Fault.IsBare shape.textLength := by
  intro fault h
  unfold textLength at h
  split at h
  · split at h <;> cases h
    rfl
  · cases h
    rfl
  · cases h
    rfl

theorem saving_failsOnly (before after : Int) :
    Except.FailsOnly Fault.IsBare (saving before after) := by
  intro fault h
  rw [eq_quotientOverflow_of_saving h]
  rfl

theorem Shape.identifiers_failsOnly (role : Role) (shape : Shape) :
    Except.FailsOnly Fault.IsBare (shape.identifiers role) := by
  intro fault h
  unfold identifiers at h
  split at h <;> cases h
  rfl

theorem judge_failsOnly (before after : Candidate) (request : Requested) :
    Except.FailsOnly Fault.IsBare (judge before after request) := by
  refine (before.requireShape_failsOnly _).bind fun beforeShape ↦ ?_
  refine (after.requireShape_failsOnly _).bind fun afterShape ↦ ?_
  refine request.ratio_failsOnly.bind fun required ↦ ?_
  refine beforeShape.textLength_failsOnly.bind fun beforeLength ↦ ?_
  refine afterShape.textLength_failsOnly.bind fun afterLength ↦ ?_
  refine (saving_failsOnly _ _).bind fun saved ↦ ?_
  refine (beforeShape.identifiers_failsOnly _).bind fun kept ↦ ?_
  refine (afterShape.identifiers_failsOnly _).bind fun found ↦ ?_
  rintro fault ⟨⟩

/-! ## What a verdict means -/

namespace Findings

variable {before after : Candidate} {request : Requested} {findings : Findings}

/-- A candidate that passes keeps all identifiers and saves something, whatever was requested. -/
theorem Of.of_isPassed (h : findings.Of before after request)
    (hpassed : (findings.verdict before.entries after.entries).isPassed = true) :
    before.entries.KeptBy after.entries ∧ (Number.double findings.saved).isPositive = true := by
  obtain ⟨hkept, henough⟩ := (Verdict.isPassed_ofEntries_iff ..).mp hpassed
  have hrequired : findings.required.isPositive = true := Requested.ratio_isPositive h.required
  exact ⟨hkept, Number.isPositive_of_le hrequired henough⟩

theorem Of.required_eq {policy : Policy} (h : findings.Of before after (.number policy.required)) :
    findings.required = policy.required :=
  Except.ok.inj (h.required.symm.trans (Requested.ratio_number policy.required_isPositive))

theorem Of.afterLength_lt (h : findings.Of before after request)
    (hsaved : (Number.double findings.saved).isPositive = true) :
    findings.afterLength < findings.beforeLength := by
  exact_mod_cast lt_of_saving_isPositive h.saved hsaved

end Findings

theorem judge_keeps {before after : Candidate} {request : Requested} {verdict : Verdict}
    (h : judge before after request = .ok verdict) (hpassed : verdict.isPassed = true) :
    before.entries.KeptBy after.entries := by
  obtain ⟨findings, hof, rfl⟩ := judge_eq_ok_iff.mp h
  exact (hof.of_isPassed hpassed).1

theorem judge_reasons_sublist {before after : Candidate} {request : Requested} {verdict : Verdict}
    (h : judge before after request = .ok verdict) : verdict.reasons.Sublist Reason.all := by
  obtain ⟨findings, -, rfl⟩ := judge_eq_ok_iff.mp h
  apply Verdict.reasons_ofEntries_sublist

theorem judge_isPassed_iff {before after : Candidate} {request : Requested} {verdict : Verdict}
    (h : judge before after request = .ok verdict) :
    verdict.isPassed = true ↔ verdict.reasons = [] := by
  obtain ⟨findings, -, rfl⟩ := judge_eq_ok_iff.mp h
  apply Verdict.isPassed_iff_reasons_eq_nil

namespace Verdict

theorem reason_eq_empty_iff (verdict : Verdict) : verdict.reason = "" ↔ verdict.reasons = [] := by
  have hcode (reason : Reason) : reason.code ≠ "" := by cases reason <;> decide
  cases h : verdict.reasons with
  | nil => simp [reason, h]
  | cons first rest =>
      cases rest with
      | nil => simp [reason, h, hcode]
      | cons second rest => simp [reason, h, String.intercalate_cons_cons, hcode]

end Verdict

/-- A verdict says what was lost, how much was saved and what was required.  Its reasons are those
of the checks that failed, each of them once and in a fixed order, and it passes if there are none.
-/
theorem judge_verdict_meaning {before after : Candidate} {beforeText afterText : String}
    {request : Requested} {verdict : Verdict} (hbefore : before.Renders beforeText)
    (hafter : after.Renders afterText) (h : judge before after request = .ok verdict) :
    (verdict.constraintsLost = .bool false ↔
      ∀ c ∈ before.entries.constraints, Text.trim c ≠ "" →
        ∃ d ∈ after.entries.constraints, Text.trim d = Text.trim c) ∧
    (verdict.todosLost = .bool false ↔
      ∀ c ∈ before.entries.todos, Text.trim c ≠ "" →
        ∃ d ∈ after.entries.todos, Text.trim d = Text.trim c) ∧
    (verdict.evidenceLost = .bool false ↔
      ∀ c ∈ before.entries.evidence, Text.trim c ≠ "" →
        ∃ d ∈ after.entries.evidence, Text.trim d = Text.trim c) ∧
    (∃ saved required, saving beforeText.length afterText.length = .ok saved ∧
      request.ratio = .ok required ∧ verdict.saving = .double saved ∧
      verdict.required = required.toValue ∧ verdict.beforeLength = .int beforeText.length ∧
      verdict.afterLength = .int afterText.length ∧
      (.savingTooSmall ∈ verdict.reasons ↔ ¬ required.le (.double saved) = true)) ∧
    verdict.reasons.Sublist
      [.constraintsLost, .todosLost, .evidenceLost, .savingTooSmall] ∧ verdict.reasons.Nodup ∧
    (∃ constraintsLost todosLost evidenceLost : Bool,
      verdict.constraintsLost = .bool constraintsLost ∧ verdict.todosLost = .bool todosLost ∧
      verdict.evidenceLost = .bool evidenceLost ∧
      (.constraintsLost ∈ verdict.reasons ↔ constraintsLost = true) ∧
      (.todosLost ∈ verdict.reasons ↔ todosLost = true) ∧
      (.evidenceLost ∈ verdict.reasons ↔ evidenceLost = true) ∧
      verdict.lostState = .bool (constraintsLost || todosLost || evidenceLost)) ∧
    (∃ passed : Bool, verdict.passed = .bool passed ∧
      (passed = true ↔ verdict.reasons = []) ∧ (passed = true ↔ verdict.reason = "") ∧
      (passed = true ↔
        verdict.lostState = .bool false ∧ .savingTooSmall ∉ verdict.reasons) ∧
      verdict.diagnosis? = if passed then none else some verdict.reason) := by
  obtain ⟨⟨required, m, n, saved⟩, hof, rfl⟩ := judge_eq_ok_iff.mp h
  obtain rfl : beforeText.length = m :=
    Option.some.inj (hbefore.textLength?.symm.trans hof.beforeLength)
  obtain rfl : afterText.length = n :=
    Option.some.inj (hafter.textLength?.symm.trans hof.afterLength)
  have hkept {first second : List String} :
      Value.bool (Identifiers.isLost (Pack.visible first) (Pack.visible second)) = .bool false ↔
        Text.Kept first second := by
    rw [Value.bool.injEq, Identifiers.isLost_visible_eq_false_iff]
  refine ⟨hkept, hkept, hkept,
    ⟨saved, required, hof.saved, hof.required, rfl, rfl, rfl, rfl, ?_⟩,
    Verdict.reasons_ofEntries_sublist .., ?_, ?_, ?_⟩
  · exact Verdict.mem_reasons_ofEntries ..
  · exact (Verdict.reasons_ofEntries_sublist ..).nodup (by decide)
  · refine ⟨_, _, _, rfl, rfl, rfl, Verdict.mem_reasons_conclude, Verdict.mem_reasons_conclude,
      Verdict.mem_reasons_conclude, ?_⟩
    exact Verdict.lostState_conclude ..
  · have hnil := Verdict.isPassed_iff_reasons_eq_nil saved required before.entries after.entries
      beforeText.length afterText.length
    exact ⟨_, rfl, hnil, hnil.trans (Verdict.reason_eq_empty_iff _).symm,
      Verdict.isPassed_conclude_iff .., rfl⟩

/-- A constraint that is padded differently is kept, and a todo whose id is cut short is lost. -/
theorem judge_verdict_meaning_of_padding :
    ∃ verdict,
      judge (.pack {
          contract := "Answer in whole sentences."
          constraints := ["keep tests"]
          todos := [{ id := "t1" }] })
        (.provider {
          constraints := some (.list [.text "\tkeep tests "])
          todos := some (.list [.entry [("memory_id", .text "t")]])
          evidence := some (.list [])
          rendering := some (.yields (.text "keep tests")) })
        .absent = .ok verdict ∧
      verdict.constraintsLost = .bool false ∧ verdict.todosLost ≠ .bool false := by
  refine (Except.exists_of_toOption_map (f := fun _ ↦ ()) (b := ()) (by decide +kernel)).imp
    fun verdict h ↦ ⟨h.1, ?_⟩
  have hmeaning := judge_verdict_meaning (Candidate.renders_pack _) ⟨_, rfl, rfl⟩ h.1
  refine ⟨hmeaning.1.mpr (by decide +kernel), fun hkept ↦ ?_⟩
  exact absurd (hmeaning.2.1.mp hkept) (by decide +kernel)

end FidelityGate
