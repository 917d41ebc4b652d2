import FidelityGate.Proofs.Visibility
import Mathlib.Logic.Relation

/-!
# What a verdict depends on

Of a candidate a verdict reads the length of its rendering and the trimmed identifiers that are not
blank, as sets.  Candidates that agree on these are judged alike, on either side.  So neither the
order of todos and evidence counts, nor blanks around their identifiers, nor an entry that adds no
identifier and shows nothing, nor any field that is not rendered, nor whether the candidate is a
pack at all.
-/

namespace FidelityGate

/-! ## Candidates that agree on what is read -/

theorem Identifiers.isLost_visible_congr {before before' after after' : List String}
    (hbefore : Text.Kept before before') (hbefore' : Text.Kept before' before)
    (hafter : Text.Kept after after') (hafter' : Text.Kept after' after) :
    isLost (Pack.visible before) (Pack.visible after) =
      isLost (Pack.visible before') (Pack.visible after') := by
  have hsame : Text.Kept before after ↔ Text.Kept before' after' :=
    ⟨fun h ↦ (hbefore'.trans h).trans hafter, fun h ↦ (hbefore.trans h).trans hafter'⟩
  rw [Bool.eq_iff_iff, isLost_visible_iff, isLost_visible_iff, hsame]

/-- A candidate with a text for its rendering and with identifiers that can be read. -/
structure Candidate.IsWellFormed (candidate : Candidate) : Prop where
  renders : ∃ text, candidate.Renders text
  readable : candidate.IsReadable

/-- Two candidates with renderings of one length and with the same identifiers, up to blanks. -/
structure Candidate.ReadsAs (first second : Candidate) : Prop where
  length : ∃ s t, first.Renders s ∧ second.Renders t ∧ s.length = t.length
  readable : first.IsReadable
  readable' : second.IsReadable
  kept : first.entries.KeptBy second.entries
  kept' : second.entries.KeptBy first.entries

theorem Verdict.ofEntries_congr {before before' after after' : Identifiers}
    (hbefore : before.KeptBy before') (hbefore' : before'.KeptBy before)
    (hafter : after.KeptBy after') (hafter' : after'.KeptBy after) (saved : Binary64)
    (required : Number) (m n : Nat) :
    ofEntries saved required before after m n = ofEntries saved required before' after' m n := by
  have hconstraints := Identifiers.isLost_visible_congr hbefore.constraints hbefore'.constraints
    hafter.constraints hafter'.constraints
  have htodos := Identifiers.isLost_visible_congr hbefore.todos hbefore'.todos hafter.todos
    hafter'.todos
  have hevidence := Identifiers.isLost_visible_congr hbefore.evidence hbefore'.evidence
    hafter.evidence hafter'.evidence
  simp only [ofEntries, Identifiers.visible, hconstraints, htodos, hevidence]

theorem Candidate.Renders.unique {candidate : Candidate} {s t : String}
    (hs : candidate.Renders s) (ht : candidate.Renders t) : s = t := by
  obtain ⟨shape, hshape, hrendering⟩ := hs
  obtain ⟨other, hother, hother_rendering⟩ := ht
  obtain rfl : shape = other := Option.some.inj (hshape.symm.trans hother)
  rw [hrendering] at hother_rendering
  cases hother_rendering
  rfl

namespace Candidate.ReadsAs

variable {first second third : Candidate}

theorem refl {candidate : Candidate} (h : candidate.IsWellFormed) :
    candidate.ReadsAs candidate := by
  obtain ⟨text, htext⟩ := h.renders
  exact ⟨⟨text, text, htext, htext, rfl⟩, h.readable, h.readable, .refl _, .refl _⟩

theorem trans (h : first.ReadsAs second) (h' : second.ReadsAs third) : first.ReadsAs third := by
  obtain ⟨s, t, hs, ht, hlength⟩ := h.length
  obtain ⟨t', u, ht', hu, hlength'⟩ := h'.length
  obtain rfl := ht.unique ht'
  exact ⟨⟨s, u, hs, hu, hlength.trans hlength'⟩, h.readable, h'.readable', h.kept.trans h'.kept,
    h'.kept'.trans h.kept'⟩

theorem judge_eq {before before' after after' : Candidate} (hbefore : before.ReadsAs before')
    (hafter : after.ReadsAs after') (request : Requested) :
    judge before after request = judge before' after' request := by
  obtain ⟨s, s', hs, hs', hlength⟩ := hbefore.length
  obtain ⟨t, t', ht, ht', hlength'⟩ := hafter.length
  rw [judge_of_renders hs ht hbefore.readable hafter.readable,
    judge_of_renders hs' ht' hbefore.readable' hafter.readable', hlength, hlength']
  simp only [Verdict.ofEntries_congr hbefore.kept hbefore.kept' hafter.kept hafter.kept']

end Candidate.ReadsAs

/-! ## Lists of entries -/

namespace Text

/-- The second text is the first one with other blanks at its ends. -/
def IsRepadding (s t : String) : Prop :=
  ∃ left right : String, left.toList.all isBlank = true ∧ right.toList.all isBlank = true ∧
    t = left ++ trim s ++ right

theorem IsRepadding.trim_eq {s t : String} (h : IsRepadding s t) : trim t = trim s := by
  obtain ⟨left, right, hleft, hright, rfl⟩ := h
  rw [List.all_eq_true] at hleft hright
  have hfront : left.toList.dropWhile isBlank = [] := List.dropWhile_eq_nil_iff.mpr hleft
  have hback : right.toList.rdropWhile isBlank = [] := List.rdropWhile_eq_nil_iff.mpr hright
  rw [← String.toList_inj, toList_trim, String.toList_append, String.toList_append, toList_trim]
  by_cases hblank : trimBy isBlank s.toList = []
  · -- The padding is all there is, and the two sides of it run together.
    have hall : ∀ c ∈ left.toList ++ right.toList, isBlank c = true := by
      intro c hc
      exact (List.mem_append.mp hc).elim (hleft c) (hright c)
    rw [hblank, List.append_nil, trimBy, List.dropWhile_eq_nil_iff.mpr hall]
    rfl
  · rw [trimBy_around (trimBy_trimBy _ _) hblank, hfront, hback, List.nil_append, List.append_nil]

theorem kept_of_trim_eq (front back : List String) {s t : String} (h : trim t = trim s) :
    Kept (front ++ s :: back) (front ++ t :: back) := by
  intro u hu _
  rcases List.mem_append.mp hu with hfront | hrest
  · exact ⟨u, List.mem_append_left _ hfront, rfl⟩
  rcases List.mem_cons.mp hrest with rfl | hback
  · exact ⟨t, List.mem_append_right _ List.mem_cons_self, h⟩
  · exact ⟨u, List.mem_append_right _ (List.mem_cons_of_mem _ hback), rfl⟩

end Text

/-- The second list has the same entries as the first one, but in another order, with other blanks
around an identifier, or with one more that shows nothing and adds no identifier. -/
inductive Reworked {α : Type} (id text : α → String) : List α → List α → Prop
  | reordered (items items' : List α) (h : items.Perm items') : Reworked id text items items'
  | repadded (front : List α) (item item' : α) (back : List α)
      (hid : Text.IsRepadding (id item) (id item')) (htext : text item' = text item) :
      Reworked id text (front ++ item :: back) (front ++ item' :: back)
  | added (front : List α) (item : α) (back : List α) (htext : Text.trim (text item) = "")
      (hid : Text.trim (id item) = "" ∨
        ∃ other ∈ front ++ back, Text.trim (id other) = Text.trim (id item)) :
      Reworked id text (front ++ back) (front ++ item :: back)

namespace Reworked

variable {α : Type} {id text : α → String} {items items' : List α}

theorem kept (h : Reworked id text items items') :
    Text.Kept (items.map id) (items'.map id) := by
  cases h with
  | reordered _ _ h => exact .of_subset (h.map id).subset
  | repadded front item item' back hid _ =>
      simpa using Text.kept_of_trim_eq (front.map id) (back.map id) hid.trim_eq
  | added front item back _ _ =>
      have hsub : (front ++ back).Sublist (front ++ item :: back) :=
        (List.sublist_cons_self item back).append_left front
      exact .of_subset (hsub.map id).subset

theorem kept' (h : Reworked id text items items') :
    Text.Kept (items'.map id) (items.map id) := by
  cases h with
  | reordered _ _ h => exact .of_subset (h.map id).symm.subset
  | repadded front item item' back hid _ =>
      simpa using Text.kept_of_trim_eq (front.map id) (back.map id) hid.trim_eq.symm
  | added front item back _ hid =>
      intro s hs hblank
      have hcases : s = id item ∨ s ∈ (front ++ back).map id := by
        simp only [List.map_append, List.map_cons, List.mem_append, List.mem_cons] at hs ⊢
        exact or_left_comm.mp hs
      rcases hcases with rfl | hold
      · obtain ⟨other, hother, htrim⟩ := hid.resolve_left hblank
        exact ⟨id other, List.mem_map_of_mem hother, htrim⟩
      · exact ⟨s, hold, rfl⟩

theorem visible_perm (h : Reworked id text items items') :
    (Pack.visible (items.map text)).Perm (Pack.visible (items'.map text)) := by
  cases h with
  | reordered _ _ h => exact ((h.map text).map Text.trim).filter _
  | repadded front item item' back _ htext => simp [htext]
  | added front item back htext _ => simp [Pack.visible, htext]

end Reworked

/-! ## Packs -/

namespace Pack

/-- The pack with everything cleared that is neither rendered nor an identifier. -/
def redacted (pack : Pack) : Pack where
  contract := pack.contract
  objective := pack.objective
  snapshot := pack.snapshot
  constraints := pack.constraints
  dialogue := pack.dialogue.map fun turn ↦
    { userText := turn.userText, assistantText := turn.assistantText }
  evidence := pack.evidence.map fun item ↦ { span := item.span, summary := item.summary }
  todos := pack.todos.map fun todo ↦ { id := todo.id, content := todo.content }
  memories := pack.memories.map fun memory ↦ { content := memory.content }

theorem rendering_redacted (pack : Pack) : pack.redacted.rendering = pack.rendering := by
  simp [rendering, parts, headers, remarks, redacted, List.flatMap_map, Function.comp_def]

theorem entries_redacted (pack : Pack) : pack.redacted.entries = pack.entries := by
  simp [entries, redacted, Function.comp_def]

theorem length_rendering_congr {first second : Pack} (hheaders : first.headers = second.headers)
    (hconstraints : first.constraints = second.constraints)
    (hremarks : (visible first.remarks).Perm (visible second.remarks)) :
    first.rendering.length = second.rendering.length := by
  have htrimmed : ∀ t ∈ (visible first.remarks).map String.toList,
      t ≠ [] ∧ Text.trimBy Text.isBlank t = t := by
    intro t ht
    obtain ⟨s, hs, rfl⟩ := List.mem_map.mp ht
    exact visible_isTrimmed hs
  -- Remarks stand behind all that may be blank, so they keep their length wherever they stand.
  have hlength := Text.length_trimBy_terminated_congr (p := Text.isBlank) (by decide)
    ((first.headers ++ first.constraints).map String.toList) htrimmed
    (hremarks.map String.toList)
  have hparts (pack : Pack) : pack.parts.map String.toList =
      (pack.headers ++ pack.constraints).map String.toList ++
        (visible pack.remarks).map String.toList := List.map_append
  rw [← String.length_toList, ← String.length_toList, toList_rendering, toList_rendering, hparts,
    hparts, ← hheaders, ← hconstraints, hlength]

theorem length_rendering_todos {pack : Pack} {todos : List Memory}
    (h : Reworked Memory.id Memory.content pack.todos todos) :
    pack.rendering.length = ({ pack with todos } : Pack).rendering.length := by
  refine length_rendering_congr rfl rfl ?_
  simp only [remarks, visible_append]
  exact (h.visible_perm.append_left _).append_right _

theorem length_rendering_evidence {pack : Pack} {evidence : List Evidence}
    (h : Reworked Evidence.span Evidence.summary pack.evidence evidence) :
    pack.rendering.length = ({ pack with evidence } : Pack).rendering.length := by
  refine length_rendering_congr rfl rfl ?_
  simp only [remarks, visible_append]
  exact ((h.visible_perm.append_left _).append_right _).append_right _

end Pack

namespace Candidate

/-- A change that a verdict does not see: another list of todos or evidence, other contents of
fields that are not read, or another candidate with the same text. -/
inductive Retouch : Candidate → Candidate → Prop
  | todos (pack : Pack) (todos : List Memory)
      (h : Reworked Memory.id Memory.content pack.todos todos) :
      Retouch (.pack pack) (.pack { pack with todos })
  | evidence (pack : Pack) (evidence : List Evidence)
      (h : Reworked Evidence.span Evidence.summary pack.evidence evidence) :
      Retouch (.pack pack) (.pack { pack with evidence })
  | unread (first second : Pack) (h : first.redacted = second.redacted) :
      Retouch (.pack first) (.pack second)
  | sameText (first second : Candidate) (text : String) (hfirst : first.Renders text)
      (hsecond : second.Renders text) (hreadable : first.IsReadable)
      (hreadable' : second.IsReadable)
      (hconstraints : first.entries.constraints = second.entries.constraints)
      (htodos : Reworked id (fun _ ↦ "") first.entries.todos second.entries.todos)
      (hevidence : Reworked id (fun _ ↦ "") first.entries.evidence second.entries.evidence) :
      Retouch first second

theorem readsAs_pack {first second : Pack}
    (hlength : first.rendering.length = second.rendering.length)
    (hkept : first.entries.KeptBy second.entries)
    (hkept' : second.entries.KeptBy first.entries) :
    (Candidate.pack first).ReadsAs (.pack second) :=
  ⟨⟨_, _, renders_pack first, renders_pack second, hlength⟩, isReadable_pack first,
    isReadable_pack second, by simpa using hkept, by simpa using hkept'⟩

theorem Retouch.readsAs {first second : Candidate} (h : first.Retouch second) :
    first.ReadsAs second := by
  cases h with
  | todos pack todos h =>
      exact readsAs_pack (Pack.length_rendering_todos h) ⟨.refl _, h.kept, .refl _⟩
        ⟨.refl _, h.kept', .refl _⟩
  | evidence pack evidence h =>
      exact readsAs_pack (Pack.length_rendering_evidence h) ⟨.refl _, .refl _, h.kept⟩
        ⟨.refl _, .refl _, h.kept'⟩
  | unread first second h =>
      have hentries : first.entries = second.entries := by
        rw [← first.entries_redacted, h, second.entries_redacted]
      apply readsAs_pack
      · rw [← first.rendering_redacted, h, second.rendering_redacted]
      · rw [hentries]
        exact .refl _
      · rw [hentries]
        exact .refl _
  | sameText _ _ text hfirst hsecond hreadable hreadable' hconstraints htodos hevidence =>
      have hkept : first.entries.KeptBy second.entries := by
        refine ⟨?_, by simpa using htodos.kept, by simpa using hevidence.kept⟩
        rw [hconstraints]
        exact .refl _
      have hkept' : second.entries.KeptBy first.entries := by
        refine ⟨?_, by simpa using htodos.kept', by simpa using hevidence.kept'⟩
        rw [hconstraints]
        exact .refl _
      exact ⟨⟨text, text, hfirst, hsecond, rfl⟩, hreadable, hreadable', hkept, hkept'⟩

def Retouched : Candidate → Candidate → Prop :=
  Relation.ReflTransGen Retouch

theorem Retouched.readsAs {first last : Candidate} (h : first.Retouched last)
    (hfirst : first.IsWellFormed) : first.ReadsAs last := by
  induction h with
  | refl => exact .refl hfirst
  | tail _ hstep ih => exact ih.trans hstep.readsAs

theorem isWellFormed_pack (pack : Pack) : (Candidate.pack pack).IsWellFormed :=
  ⟨⟨_, renders_pack pack⟩, isReadable_pack pack⟩

end Candidate

/-- A provider that offers what a pack offers, and is none. -/
def Pack.provider (pack : Pack) : Provider where
  constraints := some pack.shape.constraints
  todos := some pack.shape.todos
  evidence := some pack.shape.evidence
  rendering := some pack.shape.rendering

theorem Candidate.Retouch.provider (pack : Pack) :
    Retouch (.pack pack) (.provider pack.provider) := by
  have hshape : (Candidate.provider pack.provider).shape? = some pack.shape := rfl
  have hentries : (Candidate.provider pack.provider).entries = pack.entries := by
    rw [entries_of_shape? hshape, Pack.entries_shape]
  apply sameText _ _ pack.rendering (renders_pack pack) ⟨_, hshape, rfl⟩ (isReadable_pack pack)
    ⟨_, hshape, pack.isReadable_shape⟩
  · rw [hentries, entries_pack]
  · rw [hentries, entries_pack]
    exact .reordered _ _ (.refl _)
  · rw [hentries, entries_pack]
    exact .reordered _ _ (.refl _)

/-- Candidates that read alike get the same verdicts, on either side of a judgement, and retouching
a candidate that is well formed does not change any verdict. -/
theorem verdicts_read_lengths_and_identifiers :
    (∀ before before' after after' : Candidate, before.ReadsAs before' → after.ReadsAs after' →
      (∀ request, judge before after request = judge before' after' request) ∧
      ∀ text, after.Renders text → text.length < 2 ^ 63 → ∀ ratio, ∃ verdict,
        judge before after (.ofNumber ratio) = .ok verdict ∧
        judge before' after' (.ofNumber ratio) = .ok verdict) ∧
    ∀ before before' after after' : Candidate, before.IsWellFormed → after.IsWellFormed →
      before.Retouched before' → after.Retouched after' →
        ∀ request, judge before after request = judge before' after' request := by
  constructor
  · intro before before' after after' hbefore hafter
    refine ⟨hbefore.judge_eq hafter, ?_⟩
    intro text htext hlength ratio
    obtain ⟨s, -, hs, -⟩ := hbefore.length
    obtain ⟨required, hrequired⟩ := Requested.exists_ratio ratio
    obtain ⟨verdict, hverdict⟩ := exists_judge_of_saving hs htext hbefore.readable hafter.readable
      hrequired (exists_saving_of_lt s.length hlength)
    exact ⟨verdict, hverdict, (hbefore.judge_eq hafter _).symm.trans hverdict⟩
  · intro before before' after after' hbefore hafter hretouched hretouched' request
    exact (hretouched.readsAs hbefore).judge_eq (hretouched'.readsAs hafter) request

/-- Two todos change places, one of them with blanks around its id, and the draft is no pack. -/
theorem retouched_draft_is_judged_alike :
    ∀ request, judge (.pack { todos := [{ id := "a", content := "call back" }, { id := "b" }] })
        (.pack { todos := [{ id := "b" }] }) request =
      judge (.pack { todos := [{ id := "\tb " }, { id := "a", content := "call back" }] })
        (.provider (Pack.provider { todos := [{ id := "b" }] })) request := by
  intro request
  apply verdicts_read_lengths_and_identifiers.2 _ _ _ _ (Candidate.isWellFormed_pack _)
    (Candidate.isWellFormed_pack _)
  · refine (Relation.ReflTransGen.single (.todos _ _ (.reordered _ _ (.swap _ _ _)))).tail ?_
    have hpadding : Text.IsRepadding "b" "\tb " :=
      ⟨"\t", " ", by decide +kernel, by decide +kernel, by decide +kernel⟩
    exact .todos _ _ (.repadded [] _ _ _ hpadding rfl)
  · exact .single (.provider _)

end FidelityGate
