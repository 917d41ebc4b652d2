import FidelityGate.Judge
import Mathlib.Data.List.Basic
import Mathlib.Tactic.Common

/-!
# Preservation

Identifiers are compared as sets of trimmed texts.  This module says what a candidate's collections
hold before anything is trimmed, and reduces the traversal by which a judgement compares two of them
to a statement about their texts: every text that is not blank is found again, up to the blanks at
its ends.
-/

namespace FidelityGate

/-! ## Texts up to the blanks at their ends -/

/-- Every text of the first list that is not blank stands in the second one, up to the blanks at
its ends. -/
def Text.Kept (before after : List String) : Prop :=
  ∀ s ∈ before, trim s ≠ "" → ∃ t ∈ after, trim t = trim s

namespace Text.Kept

instance (before after : List String) : Decidable (Kept before after) :=
  inferInstanceAs (Decidable (∀ s ∈ before, trim s ≠ "" → ∃ t ∈ after, trim t = trim s))

theorem of_subset {before after : List String} (h : before ⊆ after) : Kept before after :=
  fun s hs _ ↦ ⟨s, h hs, rfl⟩

theorem refl (texts : List String) : Kept texts texts :=
  of_subset (List.Subset.refl texts)

theorem trans {first second third : List String} (hfirst : Kept first second)
    (hsecond : Kept second third) : Kept first third := by
  intro s hs hblank
  obtain ⟨t, ht, hts⟩ := hfirst s hs hblank
  obtain ⟨u, hu, hut⟩ := hsecond t ht (by rwa [hts])
  exact ⟨u, hu, hut.trans hts⟩

end Text.Kept

theorem Text.kept_map_iff {α : Type} {name : α → String} {before : List String}
    {items : List α} :
    Kept before (items.map name) ↔
      ∀ s ∈ before, trim s ≠ "" → ∃ item ∈ items, trim (name item) = trim s := by
  simp [Kept]

theorem Pack.mem_visible {s : String} {texts : List String} :
    s ∈ visible texts ↔ s ≠ "" ∧ ∃ t ∈ texts, Text.trim t = s := by
  simp [visible, and_comm]

namespace Identifiers

theorem isLost_eq_false_iff {before after : List String} :
    isLost before after = false ↔ ∀ s ∈ before, s ∈ after := by
  simp [isLost, List.all_eq_true]

/-- The comparison of trimmed texts as a statement about the texts as they stand. -/
theorem isLost_visible_eq_false_iff {before after : List String} :
    isLost (Pack.visible before) (Pack.visible after) = false ↔ Text.Kept before after := by
  rw [isLost_eq_false_iff]
  constructor
  · intro h s hs hblank
    exact (Pack.mem_visible.mp (h _ (Pack.mem_visible.mpr ⟨hblank, s, hs, rfl⟩))).2
  · intro h s hs
    obtain ⟨hblank, t, ht, rfl⟩ := Pack.mem_visible.mp hs
    exact Pack.mem_visible.mpr ⟨hblank, h t ht hblank⟩

theorem isLost_visible_iff {before after : List String} :
    isLost (Pack.visible before) (Pack.visible after) = true ↔ ¬ Text.Kept before after := by
  rw [← isLost_visible_eq_false_iff, Bool.not_eq_false]

structure KeptBy (before after : Identifiers) : Prop where
  constraints : Text.Kept before.constraints after.constraints
  todos : Text.Kept before.todos after.todos
  evidence : Text.Kept before.evidence after.evidence

instance (before after : Identifiers) : Decidable (before.KeptBy after) :=
  decidable_of_iff
    (Text.Kept before.constraints after.constraints ∧ Text.Kept before.todos after.todos ∧
      Text.Kept before.evidence after.evidence)
    ⟨fun ⟨hconstraints, htodos, hevidence⟩ ↦ ⟨hconstraints, htodos, hevidence⟩,
      fun h ↦ ⟨h.constraints, h.todos, h.evidence⟩⟩

theorem KeptBy.refl (ids : Identifiers) : ids.KeptBy ids :=
  ⟨.refl _, .refl _, .refl _⟩

theorem KeptBy.trans {first second third : Identifiers} (hfirst : first.KeptBy second)
    (hsecond : second.KeptBy third) : first.KeptBy third :=
  ⟨hfirst.constraints.trans hsecond.constraints, hfirst.todos.trans hsecond.todos,
    hfirst.evidence.trans hsecond.evidence⟩

def visible (ids : Identifiers) : Identifiers :=
  ⟨Pack.visible ids.constraints, Pack.visible ids.todos, Pack.visible ids.evidence⟩

end Identifiers

/-! ## What collections hold -/

namespace Value

/-- The text of a value that can be trimmed. -/
def text? : Value → Option String
  | .text s => some s
  | .label s => some s
  | _ => none

def textMember? (name : String) (v : Value) : Option String :=
  (v.attribute? name).bind text?

/-- The texts that reading a collection yields, where `read?` finds the text of an item. -/
def yields (read? : Value → Option String) (collection : Value) : List String :=
  (collection.items?.getD []).filterMap read?

/-- A collection that can be read, each of whose items has a text. -/
def IsReadable (read? : Value → Option String) (collection : Value) : Prop :=
  ∃ items, collection.items? = some items ∧ ∀ item ∈ items, (read? item).isSome

end Value

/-- The identifiers in a shape as they stand. -/
def Shape.entries (shape : Shape) : Identifiers where
  constraints := shape.constraints.yields Value.text?
  todos := shape.todos.yields (Value.textMember? "memory_id")
  evidence := shape.evidence.yields (Value.textMember? "span_id")

structure Shape.IsReadable (shape : Shape) : Prop where
  constraints : shape.constraints.IsReadable Value.text?
  todos : shape.todos.IsReadable (Value.textMember? "memory_id")
  evidence : shape.evidence.IsReadable (Value.textMember? "span_id")

/-- The identifiers in a candidate as they stand; none where it has no shape. -/
def Candidate.entries (candidate : Candidate) : Identifiers :=
  match candidate.shape? with
  | some shape => shape.entries
  | none => ⟨[], [], []⟩

def Pack.entries (pack : Pack) : Identifiers where
  constraints := pack.constraints
  todos := pack.todos.map (·.id)
  evidence := pack.evidence.map (·.span)

theorem Candidate.entries_of_shape? {candidate : Candidate} {shape : Shape}
    (h : candidate.shape? = some shape) : candidate.entries = shape.entries := by
  simp [entries, h]

@[simp] theorem Pack.entries_shape (pack : Pack) : pack.shape.entries = pack.entries := by
  simp [Shape.entries, shape, Value.yields, Value.items?, entries, Value.text?,
    Value.textMember?, Value.attribute?, Value.lookup?, List.filterMap_map, Function.comp_def]

@[simp] theorem Candidate.entries_pack (pack : Pack) :
    (Candidate.pack pack).entries = pack.entries := by
  rw [entries_of_shape? (shape?_pack pack), Pack.entries_shape]

theorem Pack.isReadable_shape (pack : Pack) : pack.shape.IsReadable := by
  refine ⟨⟨_, rfl, ?_⟩, ⟨_, rfl, ?_⟩, ⟨_, rfl, ?_⟩⟩ <;>
    simp [Value.text?, Value.textMember?, Value.attribute?, Value.lookup?]

/-! ## Answers of computations that may fail -/

namespace Except

variable {ε α β : Type}

theorem ok_bind (a : α) (next : α → Except ε β) : Except.ok a >>= next = next a := rfl

theorem bind_eq_ok_iff {first : Except ε α} {next : α → Except ε β} {b : β} :
    first >>= next = .ok b ↔ ∃ a, first = .ok a ∧ next a = .ok b := by
  cases first <;> simp [bind, Except.bind]

theorem toOption_eq_some_iff {x : Except ε α} {a : α} : x.toOption = some a ↔ x = .ok a := by
  cases x <;> simp [Except.toOption]

def FailsOnly (P : ε → Prop) (x : Except ε α) : Prop :=
  ∀ fault, x = .error fault → P fault

theorem FailsOnly.bind {P : ε → Prop} {first : Except ε α} {next : α → Except ε β}
    (hfirst : FailsOnly P first) (hnext : ∀ a, FailsOnly P (next a)) :
    FailsOnly P (first >>= next) := by
  intro fault h
  cases hresult : first with
  | error cause =>
      rw [hresult] at h
      cases h
      exact hfirst _ hresult
  | ok a =>
      rw [hresult] at h
      exact hnext a fault h

/-- What an answer shows when it is looked at through a function. -/
theorem exists_of_toOption_map {x : Except ε α} {f : α → β} {b : β}
    (h : x.toOption.map f = some b) : ∃ a, x = .ok a ∧ f a = b := by
  simpa only [Option.map_eq_some_iff, toOption_eq_some_iff] using h

end Except

/-! ## Reading them -/

namespace Identifiers

/-- An item is read as the trimmed text that it has, and cannot be read where it has none. -/
def ReadsAs (read : Value → Except EntryFault String) (read? : Value → Option String) : Prop :=
  ∀ v s, read v = .ok s ↔ (read? v).map Text.trim = some s

theorem trimmed_readsAs : ReadsAs trimmed Value.text? := by
  intro v s
  cases v with
  | text t => simp [trimmed, Value.text?]
  | label t => simp [trimmed, Value.text?]
  | _ =>
      simp only [trimmed, Value.text?, Option.map_none, reduceCtorEq, iff_false]
      cases Value.require "strip" _ <;> simp [Except.bind]

theorem trimmedMember_readsAs (name : String) :
    ReadsAs (trimmedMember name) (Value.textMember? name) := by
  intro v s
  cases hv : v.attribute? name with
  | none => simp [trimmedMember, Value.require, Value.textMember?, hv, Except.bind]
  | some found =>
      simpa [trimmedMember, Value.require, Value.textMember?, hv, Except.bind] using
        trimmed_readsAs found s

variable {read : Value → Except EntryFault String} {read? : Value → Option String}

theorem readAll_eq_ok_iff (hread : ReadsAs read read?) {items : List Value} {ids : List String} :
    readAll read items = .ok ids ↔
      (∀ item ∈ items, (read? item).isSome) ∧ ids = (items.filterMap read?).map Text.trim := by
  induction items generalizing ids with
  | nil => simp [readAll, eq_comm (a := [])]
  | cons v rest ih =>
      cases hv : read? v with
      | none =>
          have hfault : ∀ s, read v ≠ .ok s := fun s h ↦ by simpa [hv] using (hread v s).mp h
          cases hr : read v with
          | ok s => exact absurd hr (hfault s)
          | error fault => simp [readAll, hr, hv, bind, Except.bind]
      | some t =>
          have hr : read v = .ok (Text.trim t) := (hread v _).mpr (by simp [hv])
          cases hrest : readAll read rest with
          | ok others =>
              obtain ⟨hall, rfl⟩ := ih.mp hrest
              simp only [readAll, hr, hrest, bind, Except.bind, pure, Except.pure]
              simpa [hv] using eq_comm.trans (and_iff_right hall).symm
          | error fault =>
              have hnot : ¬ ∀ item ∈ rest, (read? item).isSome := by
                intro hall
                have hok := ih.mpr ⟨hall, rfl⟩
                simp [hrest] at hok
              simp [readAll, hr, hv, hrest, bind, Except.bind, hnot]

theorem collect_eq_ok_iff (hread : ReadsAs read read?) {collection : Value} {ids : List String} :
    collect read collection = .ok ids ↔
      collection.IsReadable read? ∧ ids = Pack.visible (collection.yields read?) := by
  cases hitems : collection.items? with
  | none => simp [collect, hitems, Value.IsReadable]
  | some items =>
      simp only [collect, hitems, Value.IsReadable, Value.yields, Pack.visible, Option.some.injEq,
        exists_eq_left', Option.getD_some]
      cases hall : readAll read items with
      | ok found =>
          obtain ⟨hsome, rfl⟩ := (readAll_eq_ok_iff hread).mp hall
          simpa [Except.map] using eq_comm.trans (and_iff_right hsome).symm
      | error fault =>
          have hnot : ¬ ∀ item ∈ items, (read? item).isSome := by
            intro hsome
            have hok := (readAll_eq_ok_iff hread).mpr ⟨hsome, rfl⟩
            simp [hall] at hok
          simp [Except.map, hnot]

end Identifiers

theorem Identifiers.ofShape_eq_ok_iff {shape : Shape} {ids : Identifiers} :
    ofShape shape = .ok ids ↔ shape.IsReadable ∧ ids = shape.entries.visible := by
  simp only [ofShape, Except.bind_eq_ok_iff, collect_eq_ok_iff trimmed_readsAs,
    collect_eq_ok_iff (trimmedMember_readsAs _), pure, Except.pure, Except.ok.injEq]
  constructor
  · rintro ⟨_, ⟨hconstraints, rfl⟩, _, ⟨htodos, rfl⟩, _, ⟨hevidence, rfl⟩, rfl⟩
    exact ⟨⟨hconstraints, htodos, hevidence⟩, rfl⟩
  · rintro ⟨⟨hconstraints, htodos, hevidence⟩, rfl⟩
    exact ⟨_, ⟨hconstraints, rfl⟩, _, ⟨htodos, rfl⟩, _, ⟨hevidence, rfl⟩, rfl⟩

end FidelityGate
