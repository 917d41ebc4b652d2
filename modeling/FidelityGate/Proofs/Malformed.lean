import FidelityGate.Proofs.Adoption
import FidelityGate.Proofs.SavingOrder

/-!
# Malformed input

A judgement fails on the first thing that is wrong with its input, and on nothing else: a candidate
that is no pack, a rendering without a length, or an entry without an identifier, those of the
original before those of the candidate.  All that is wrong with the entries is listed here in the
order in which they are read, and what is blamed is the head of the list.

An identifier should be a text.  It is enough for it that it can be trimmed, so a label passes for
one, and nothing else that is no text does.
-/

namespace FidelityGate

/-! ## What is wrong -/

namespace Value

/-- What keeps a value from being trimmed. -/
def textFault? : Value → Option EntryFault
  | .text _ => none
  | .label _ => none
  | v => match v.attribute? "strip" with
    | none => some (.missing v.kindName "strip")
    | some found => some (.notCallable found.kindName)

def memberFault? (name : String) (v : Value) : Option EntryFault :=
  match v.attribute? name with
  | none => some (.missing v.kindName name)
  | some found => found.textFault?

/-- Everything that is wrong with a collection, where `fault?` finds what is wrong with an item. -/
def faults (fault? : Value → Option EntryFault) (collection : Value) : List EntryFault :=
  match collection.items? with
  | none => [.notIterable collection.kindName]
  | some items => items.filterMap fault?

theorem textFault?_eq_none_iff {v : Value} : v.textFault? = none ↔ v.text?.isSome := by
  cases v with
  | text s => simp [textFault?, text?]
  | label s => simp [textFault?, text?]
  | _ =>
      simp only [textFault?, text?, Option.isSome_none, Bool.false_eq_true, iff_false]
      split <;> simp

theorem memberFault?_eq_none_iff {name : String} {v : Value} :
    v.memberFault? name = none ↔ (v.textMember? name).isSome := by
  cases h : v.attribute? name with
  | none => simp [memberFault?, textMember?, h]
  | some found => simp [memberFault?, textMember?, h, textFault?_eq_none_iff]

theorem faults_eq_nil_iff {fault? : Value → Option EntryFault} {read? : Value → Option String}
    (h : ∀ v, fault? v = none ↔ (read? v).isSome) {collection : Value} :
    collection.faults fault? = [] ↔ collection.IsReadable read? := by
  cases hitems : collection.items? with
  | none => simp [faults, IsReadable, hitems]
  | some items => simp [faults, IsReadable, hitems, h]

end Value

/-- Everything that is wrong with the entries of a shape, in the order of reading. -/
def Shape.faults (shape : Shape) : List EntryFault :=
  shape.constraints.faults Value.textFault? ++
    shape.todos.faults (Value.memberFault? "memory_id") ++
    shape.evidence.faults (Value.memberFault? "span_id")

theorem Shape.faults_eq_nil_iff {shape : Shape} : shape.faults = [] ↔ shape.IsReadable := by
  simp only [faults, List.append_eq_nil_iff, Value.faults_eq_nil_iff fun _ ↦
    Value.textFault?_eq_none_iff, Value.faults_eq_nil_iff fun _ ↦ Value.memberFault?_eq_none_iff]
  constructor
  · rintro ⟨⟨hconstraints, htodos⟩, hevidence⟩
    exact ⟨hconstraints, htodos, hevidence⟩
  · rintro ⟨hconstraints, htodos, hevidence⟩
    exact ⟨⟨hconstraints, htodos⟩, hevidence⟩

/-! ## What should be there -/

namespace Value

variable {read? other? : Value → Option String} {collection : Value}

def ownText? : Value → Option String
  | .text s => some s
  | _ => none

def ownTextMember? (name : String) (v : Value) : Option String :=
  (v.attribute? name).bind ownText?

theorem text?_isSome_of_ownText? {v : Value} (h : v.ownText?.isSome) : v.text?.isSome := by
  cases v with
  | text s => exact h
  | _ => cases h

theorem textMember?_isSome_of_ownTextMember? {name : String} {v : Value}
    (h : (v.ownTextMember? name).isSome) : (v.textMember? name).isSome := by
  cases hv : v.attribute? name with
  | none => simp [ownTextMember?, hv] at h
  | some found =>
      rw [ownTextMember?, hv] at h
      rw [textMember?, hv]
      exact text?_isSome_of_ownText? h

theorem IsReadable.imp (h : collection.IsReadable read?)
    (hread : ∀ v, (read? v).isSome → (other? v).isSome) : collection.IsReadable other? := by
  obtain ⟨items, hitems, hall⟩ := h
  exact ⟨items, hitems, fun item hitem ↦ hread item (hall item hitem)⟩

end Value

/-- The identifiers in a shape are texts. -/
structure Shape.IsTextual (shape : Shape) : Prop where
  constraints : shape.constraints.IsReadable Value.ownText?
  todos : shape.todos.IsReadable (Value.ownTextMember? "memory_id")
  evidence : shape.evidence.IsReadable (Value.ownTextMember? "span_id")

theorem Shape.IsTextual.isReadable {shape : Shape} (h : shape.IsTextual) : shape.IsReadable :=
  ⟨h.constraints.imp fun _ ↦ Value.text?_isSome_of_ownText?,
    h.todos.imp fun _ ↦ Value.textMember?_isSome_of_ownTextMember?,
    h.evidence.imp fun _ ↦ Value.textMember?_isSome_of_ownTextMember?⟩

/-! ## What candidates offer -/

namespace Rendering

def length? : Rendering → Option Nat
  | .yields v => v.length?
  | _ => none

def fault? : Rendering → Option Fault
  | .yields v => if v.length?.isSome then none else some (.noLength v.kindName)
  | .fails message => some (.rendering message)
  | .plain v => some (.object (.notCallable v.kindName))

theorem fault?_eq_none_of_length? {rendering : Rendering} {length : Nat}
    (h : rendering.length? = some length) : rendering.fault? = none := by
  cases rendering with
  | yields v =>
      rw [length?] at h
      simp [fault?, h]
  | fails message => cases h
  | plain v => cases h

end Rendering

structure Provider.IsComplete (provider : Provider) : Prop where
  constraints : provider.constraints.isSome
  todos : provider.todos.isSome
  evidence : provider.evidence.isSome
  rendering : ∃ rendering, provider.rendering = some rendering ∧ rendering ≠ .plain .null

theorem Rendering.isOffered_iff {rendering : Rendering} :
    rendering.isOffered = true ↔ rendering ≠ .plain .null := by
  cases rendering with
  | plain v => cases v <;> simp [isOffered, Value.isNull]
  | _ => simp [isOffered]

theorem Provider.exists_shape?_iff {provider : Provider} :
    (∃ shape, provider.shape? = some shape) ↔ provider.IsComplete := by
  obtain ⟨constraints, todos, evidence, rendering⟩ := provider
  constructor
  · rintro ⟨shape, h⟩
    simp only [shape?, Option.bind_eq_bind, Option.bind_eq_some_iff,
      Option.ite_none_right_eq_some] at h
    obtain ⟨_, rfl, _, rfl, _, rfl, rendering, rfl, hoffered, -⟩ := h
    exact ⟨rfl, rfl, rfl, rendering, rfl, Rendering.isOffered_iff.mp hoffered⟩
  · rintro ⟨hconstraints, htodos, hevidence, rendering, rfl, hoffered⟩
    obtain ⟨constraints, rfl⟩ := Option.isSome_iff_exists.mp hconstraints
    obtain ⟨todos, rfl⟩ := Option.isSome_iff_exists.mp htodos
    obtain ⟨evidence, rfl⟩ := Option.isSome_iff_exists.mp hevidence
    exact ⟨_, if_pos (Rendering.isOffered_iff.mpr hoffered)⟩

namespace Candidate

def IsPackLike : Candidate → Prop
  | .pack _ => True
  | .provider p => p.IsComplete
  | .value v => v.provider.IsComplete

theorem exists_shape?_iff {candidate : Candidate} :
    (∃ shape, candidate.shape? = some shape) ↔ candidate.IsPackLike := by
  cases candidate with
  | pack p => exact iff_of_true ⟨_, rfl⟩ trivial
  | provider p => exact Provider.exists_shape?_iff
  | value v => exact Provider.exists_shape?_iff

theorem requireShape_of_not_isPackLike {candidate : Candidate} (h : ¬ candidate.IsPackLike)
    (role : Role) :
    candidate.requireShape role =
      .error (.invalidInput role.name (.ofKind candidate.kindName)) := by
  have hnone : candidate.shape? = none := by
    rw [← exists_shape?_iff, ← Option.isSome_iff_exists] at h
    simpa using h
  rw [requireShape, hnone]

end Candidate

theorem InputProblem.detail?_ofKind (kind : String) : (ofKind kind).detail? = none := by
  unfold ofKind
  split <;> rfl

/-! ## What is blamed -/

namespace Except

variable {ε α β : Type}

def fault? : Except ε α → Option ε
  | .ok _ => none
  | .error fault => some fault

theorem fault?_eq_some_iff {x : Except ε α} {fault : ε} :
    fault? x = some fault ↔ x = .error fault := by
  cases x <;> simp [fault?]

theorem fault?_eq_none_iff {x : Except ε α} : fault? x = none ↔ ∃ a, x = .ok a := by
  cases x <;> simp [fault?]

/-- Of two computations in a row, the first one that fails is to blame. -/
theorem fault?_bind {first : Except ε α} {next : α → Except ε β} {second : Option ε}
    (h : ∀ a, first = .ok a → fault? (next a) = second) :
    fault? (first >>= next) = (fault? first).or second := by
  cases first with
  | error fault => rfl
  | ok a => exact h a rfl

theorem fault?_map (x : Except ε α) (f : α → β) : fault? (x.map f) = fault? x := by
  cases x <;> rfl

theorem fault?_bind_pure (x : Except ε α) (f : α → β) :
    fault? (x >>= fun a ↦ pure (f a)) = fault? x := by
  cases x <;> rfl

end Except

namespace Identifiers

theorem fault?_trimmed (v : Value) : Except.fault? (trimmed v) = v.textFault? := by
  cases v with
  | text s => rfl
  | label s => rfl
  | _ =>
      simp only [trimmed, Value.require, Value.textFault?]
      cases Value.attribute? "strip" _ <;> rfl

theorem fault?_trimmedMember (name : String) (v : Value) :
    Except.fault? (trimmedMember name v) = v.memberFault? name := by
  cases h : v.attribute? name with
  | none => simp [trimmedMember, Value.require, Value.memberFault?, h, Except.bind, Except.fault?]
  | some found =>
      simpa [trimmedMember, Value.require, Value.memberFault?, h, Except.bind] using
        fault?_trimmed found

variable {read : Value → Except EntryFault String} {blame : Value → Option EntryFault}

theorem fault?_readAll (hread : ∀ v, Except.fault? (read v) = blame v) (items : List Value) :
    Except.fault? (readAll read items) = (items.filterMap blame).head? := by
  rw [List.head?_filterMap]
  induction items with
  | nil => rfl
  | cons v rest ih =>
      -- Once an item has been read, only the rest can be to blame.
      have hrest (first : String) :
          Except.fault? (do let others ← readAll read rest; return first :: others) =
            rest.findSome? blame := by
        rw [Except.fault?_bind_pure, ih]
      rw [readAll, Except.fault?_bind fun first _ ↦ hrest first, hread, List.findSome?_cons]
      cases blame v <;> rfl

theorem fault?_collect (hread : ∀ v, Except.fault? (read v) = blame v) (collection : Value) :
    Except.fault? (collect read collection) = (collection.faults blame).head? := by
  cases h : collection.items? with
  | none => simp [collect, Value.faults, h, Except.fault?]
  | some items =>
      simp only [collect, Value.faults, h]
      rw [Except.fault?_map, fault?_readAll hread]

theorem fault?_ofShape (shape : Shape) :
    Except.fault? (ofShape shape) = shape.faults.head? := by
  have hconstraints := fault?_collect fault?_trimmed shape.constraints
  have htodos := fault?_collect (fault?_trimmedMember "memory_id") shape.todos
  have hevidence := fault?_collect (fault?_trimmedMember "span_id") shape.evidence
  rw [Shape.faults, List.head?_append, List.head?_append, Option.or_assoc, ← hconstraints,
    ← htodos, ← hevidence, ofShape]
  refine Except.fault?_bind fun _ _ ↦ Except.fault?_bind fun _ _ ↦ ?_
  exact Except.fault?_bind_pure ..

end Identifiers

namespace Shape

/-- The fault that a judgement finds with the entries of a shape. -/
def complaint? (role : Role) (shape : Shape) : Option Fault :=
  shape.faults.head?.map fun fault ↦ .invalidInput role.name (.entry fault)

theorem fault?_identifiers (role : Role) (shape : Shape) :
    Except.fault? (shape.identifiers role) = shape.complaint? role := by
  rw [complaint?, ← Identifiers.fault?_ofShape, identifiers]
  cases Identifiers.ofShape shape <;> rfl

theorem complaint?_eq_none_iff {role : Role} {shape : Shape} :
    shape.complaint? role = none ↔ shape.IsReadable := by
  rw [complaint?, Option.map_eq_none_iff, List.head?_eq_none_iff, faults_eq_nil_iff]

theorem fault?_textLength (shape : Shape) :
    Except.fault? shape.textLength = shape.rendering.fault? := by
  obtain ⟨constraints, todos, evidence, rendering⟩ := shape
  cases rendering with
  | yields v => cases h : v.length? <;> simp [textLength, Rendering.fault?, h, Except.fault?]
  | fails message => rfl
  | plain v => rfl

theorem textLength_eq_ok_iff {shape : Shape} {length : Nat} :
    shape.textLength = .ok length ↔ shape.rendering.length? = some length := by
  obtain ⟨constraints, todos, evidence, rendering⟩ := shape
  cases rendering with
  | yields v => cases h : v.length? <;> simp [textLength, Rendering.length?, h]
  | fails message => simp [textLength, Rendering.length?]
  | plain v => simp [textLength, Rendering.length?]

end Shape

/-! ## Judgements -/

def Rendering.overflow? (before after : Rendering) : Option Fault :=
  match before.length?, after.length? with
  | some m, some n => Except.fault? (saving m n)
  | _, _ => none

section Judgements

variable {before after : Candidate} {s t : Shape}

/-- What can be wrong when two shapes are judged, in the order in which it is found. -/
theorem fault?_judge (hs : before.shape? = some s) (ht : after.shape? = some t)
    (ratio : Option Number) :
    Except.fault? (judge before after (.ofNumber ratio)) =
      s.rendering.fault?.or (t.rendering.fault?.or ((s.rendering.overflow? t.rendering).or
        ((s.complaint? .before).or (t.complaint? .after)))) := by
  obtain ⟨required, hrequired⟩ := Requested.exists_ratio ratio
  have hbefore : before.requireShape .before = .ok s := Candidate.requireShape_eq_ok_iff.mpr hs
  have hafter : after.requireShape .after = .ok t := Candidate.requireShape_eq_ok_iff.mpr ht
  simp only [judge, hbefore, hafter, hrequired, Except.ok_bind, ← Shape.fault?_textLength,
    ← Shape.fault?_identifiers]
  refine Except.fault?_bind fun m hm ↦ Except.fault?_bind fun n hn ↦ ?_
  have hoverflow : s.rendering.overflow? t.rendering = Except.fault? (saving m n) := by
    rw [Rendering.overflow?, Shape.textLength_eq_ok_iff.mp hm, Shape.textLength_eq_ok_iff.mp hn]
  rw [hoverflow]
  refine Except.fault?_bind fun _ _ ↦ Except.fault?_bind fun _ _ ↦ ?_
  exact Except.fault?_bind_pure ..

theorem fault?_judge_of_saving {m n : Nat} {saved : Binary64} (hs : before.shape? = some s)
    (ht : after.shape? = some t) (hm : s.rendering.length? = some m)
    (hn : t.rendering.length? = some n) (hsaved : saving m n = .ok saved)
    (ratio : Option Number) :
    Except.fault? (judge before after (.ofNumber ratio)) =
      (s.complaint? .before).or (t.complaint? .after) := by
  have hoverflow : s.rendering.overflow? t.rendering = none := by
    simp [Rendering.overflow?, hm, hn, hsaved, Except.fault?]
  rw [fault?_judge hs ht, Rendering.fault?_eq_none_of_length? hm,
    Rendering.fault?_eq_none_of_length? hn, hoverflow]
  rfl

/-- Between packs only the size of the saving can be to blame. -/
theorem fault?_judge_pack (before after : Pack) (ratio : Option Number) :
    Except.fault? (judge (.pack before) (.pack after) (.ofNumber ratio)) =
      Except.fault? (saving before.rendering.length after.rendering.length) := by
  obtain ⟨required, hrequired⟩ := Requested.exists_ratio ratio
  rw [judge_of_renders (Candidate.renders_pack before) (Candidate.renders_pack after)
    (Candidate.isReadable_pack before) (Candidate.isReadable_pack after), hrequired,
    Except.ok_bind, Except.fault?_bind_pure]

end Judgements

/-- The outcome finds fault with the entries of the candidate in a role. -/
def Role.IsBlamed (role : Role) (outcome : Except Fault Verdict) : Prop :=
  ∃ problem, outcome = .error (.invalidInput role.name problem) ∧ problem.detail?.isSome

/-- The outcome finds fault with the entries of a shape exactly if they cannot be read, and then it
blames the first fault.  This is how it should be, unless they can be read but are no texts. -/
structure Shape.Blamed (shape : Shape) (role : Role) (outcome : Except Fault Verdict) : Prop where
  isBlamed_iff : role.IsBlamed outcome ↔ ¬ shape.IsReadable
  blames_first : ∀ fault, shape.faults.head? = some fault →
    outcome = .error (.invalidInput role.name (.entry fault))
  isBlamed_iff_not_isTextual : (role.IsBlamed outcome ↔ ¬ shape.IsTextual) ↔
    (shape.IsReadable → shape.IsTextual)

theorem Shape.blamed_of_fault? {shape : Shape} {role : Role} {outcome : Except Fault Verdict}
    {others : Option Fault} (houtcome : Except.fault? outcome = (shape.complaint? role).or others)
    (hothers : ∀ problem, others ≠ some (.invalidInput role.name problem)) :
    shape.Blamed role outcome := by
  have hfirst : ∀ fault, shape.faults.head? = some fault →
      outcome = .error (.invalidInput role.name (.entry fault)) := by
    intro fault hfault
    rw [← Except.fault?_eq_some_iff, houtcome, complaint?, hfault, Option.map_some,
      Option.some_or]
  have hblamed : role.IsBlamed outcome ↔ ¬ shape.IsReadable := by
    constructor
    · rintro ⟨problem, hproblem, -⟩ hreadable
      rw [← Except.fault?_eq_some_iff, houtcome, complaint?_eq_none_iff.mpr hreadable,
        Option.none_or] at hproblem
      exact hothers problem hproblem
    · intro hreadable
      rw [← faults_eq_nil_iff] at hreadable
      exact ⟨_, hfirst _ (List.head?_eq_some_head hreadable), rfl⟩
  refine ⟨hblamed, hfirst, ?_⟩
  rw [hblamed, not_iff_not]
  exact ⟨Iff.mp, fun h ↦ ⟨h, IsTextual.isReadable⟩⟩

/-- A judgement with any ratio, or none, blames the first thing that is wrong with its input: a
candidate that is no pack, a rendering that has no length, or the first entry that cannot be read.
It ends in a verdict if nothing is.  Of entries that are no texts it overlooks those that can be
read. -/
theorem judge_blames_first (before after : Candidate) (ratio : Option Number) :
    (¬ before.IsPackLike →
      judge before after (.ofNumber ratio) =
        .error (.invalidInput "before" (.ofKind before.kindName)) ∧
      (InputProblem.ofKind before.kindName).detail? = none) ∧
    (before.IsPackLike → ¬ after.IsPackLike →
      judge before after (.ofNumber ratio) =
        .error (.invalidInput "after" (.ofKind after.kindName)) ∧
      (InputProblem.ofKind after.kindName).detail? = none) ∧
    (before.IsPackLike → after.IsPackLike →
      ∃ s t, before.shape? = some s ∧ after.shape? = some t ∧
        (∀ fault, s.rendering.fault? = some fault →
          judge before after (.ofNumber ratio) = .error fault) ∧
        (s.rendering.fault? = none → ∀ fault, t.rendering.fault? = some fault →
          judge before after (.ofNumber ratio) = .error fault) ∧
        ∀ m n saved, s.rendering.length? = some m → t.rendering.length? = some n →
          saving m n = .ok saved →
          s.Blamed .before (judge before after (.ofNumber ratio)) ∧
          (s.IsReadable → t.Blamed .after (judge before after (.ofNumber ratio))) ∧
          (s.IsReadable → t.IsReadable →
            ∃ verdict, judge before after (.ofNumber ratio) = .ok verdict)) := by
  refine ⟨?_, ?_, ?_⟩
  · intro hbefore
    rw [judge, Candidate.requireShape_of_not_isPackLike hbefore]
    exact ⟨rfl, InputProblem.detail?_ofKind _⟩
  · intro hbefore hafter
    obtain ⟨s, hs⟩ := Candidate.exists_shape?_iff.mpr hbefore
    rw [judge, Candidate.requireShape_eq_ok_iff.mpr hs,
      Candidate.requireShape_of_not_isPackLike hafter]
    exact ⟨rfl, InputProblem.detail?_ofKind _⟩
  · intro hbefore hafter
    obtain ⟨s, hs⟩ := Candidate.exists_shape?_iff.mpr hbefore
    obtain ⟨t, ht⟩ := Candidate.exists_shape?_iff.mpr hafter
    have hjudge := fault?_judge hs ht ratio
    refine ⟨s, t, hs, ht, ?_, ?_, ?_⟩
    · intro fault hfault
      rw [← Except.fault?_eq_some_iff, hjudge, hfault, Option.some_or]
    · intro hnone fault hfault
      rw [← Except.fault?_eq_some_iff, hjudge, hnone, hfault, Option.none_or, Option.some_or]
    · -- With both lengths known and a saving between them, only entries are left to be blamed.
      intro m n saved hm hn hsaved
      have hentries := fault?_judge_of_saving hs ht hm hn hsaved ratio
      refine ⟨Shape.blamed_of_fault? hentries ?_, ?_, ?_⟩
      · intro problem
        cases h : t.faults.head? <;> simp [Shape.complaint?, h, Role.name]
      · intro hreadable
        rw [Shape.complaint?_eq_none_iff.mpr hreadable, Option.none_or] at hentries
        apply Shape.blamed_of_fault? (hentries.trans Option.or_none.symm)
        rintro problem ⟨⟩
      · intro hreadable hother
        rw [← Except.fault?_eq_none_iff, hentries, Shape.complaint?_eq_none_iff.mpr hreadable,
          Shape.complaint?_eq_none_iff.mpr hother, Option.none_or]

/-- A number among the constraints is blamed, and neither the todos, which are no collection, nor
the evidence of the candidate, which has no span. -/
theorem judge_blames_first_of_number :
    judge
        (.provider {
          constraints := some (.list [.text "keep tests", .int 42])
          todos := some .null
          evidence := some (.list [])
          rendering := some (.yields (.text "keep tests")) })
        (.provider {
          constraints := some (.list [])
          todos := some (.list [])
          evidence := some (.list [.entry []])
          rendering := some (.yields (.text "tests")) })
        (.ofNumber none) =
      .error (.invalidInput "before" (.entry (.missing "int" "strip"))) := by
  have hsaving : ∃ saved, saving (10 : Nat) (5 : Nat) = .ok saved := exists_saving (by decide)
  obtain ⟨saved, hsaved⟩ := hsaving
  obtain ⟨s, t, hs, ht, -, -, hentries⟩ := (judge_blames_first
    (.provider ⟨some (.list [.text "keep tests", .int 42]), some .null, some (.list []),
      some (.yields (.text "keep tests"))⟩)
    (.provider ⟨some (.list []), some (.list []), some (.list [.entry []]),
      some (.yields (.text "tests"))⟩) none).2.2
    (Candidate.exists_shape?_iff.mp ⟨_, rfl⟩) (Candidate.exists_shape?_iff.mp ⟨_, rfl⟩)
  cases hs
  cases ht
  exact (hentries _ _ saved rfl rfl hsaved).1.blames_first _ rfl

/-- A provider whose constraint is no text, but can be trimmed like one. -/
def Provider.labelled : Provider where
  constraints := some (.list [.label "keep tests"])
  todos := some (.list [])
  evidence := some (.list [])
  rendering := some (.yields (.text "keep tests"))

/-- A label among the constraints is not blamed. -/
theorem judge_overlooks_label :
    ¬ ∀ (before after : Candidate) (s t : Shape) (x y : String),
      before.shape? = some s → after.shape? = some t →
      s.rendering = .yields (.text x) → t.rendering = .yields (.text y) →
      (∃ saved, saving x.length y.length = .ok saved) → ¬ s.IsTextual →
        Role.before.IsBlamed (judge before after (.ofNumber none)) := by
  intro h
  have hrenders : (Candidate.provider .labelled).Renders "keep tests" := ⟨_, rfl, rfl⟩
  have hreadable : (Candidate.provider .labelled).IsReadable := by
    refine ⟨_, rfl, ⟨_, rfl, ?_⟩, ⟨_, rfl, ?_⟩, ⟨_, rfl, ?_⟩⟩ <;> simp [Value.text?]
  have hsaved := exists_saving (le_refl "keep tests".length)
  obtain ⟨required, hrequired⟩ := Requested.exists_ratio none
  obtain ⟨verdict, hverdict⟩ :=
    exists_judge_of_saving hrenders hrenders hreadable hreadable hrequired hsaved
  have hlabel : ¬ (Value.list [.label "keep tests"]).IsReadable Value.ownText? := by
    rintro ⟨items, hitems, hall⟩
    obtain rfl := Option.some.inj hitems
    cases hall (.label "keep tests") List.mem_cons_self
  obtain ⟨problem, hproblem, -⟩ := h (.provider .labelled) (.provider .labelled) _ _ _ _ rfl rfl
    rfl rfl hsaved fun htextual ↦ hlabel htextual.constraints
  rw [hverdict] at hproblem
  cases hproblem

end FidelityGate
