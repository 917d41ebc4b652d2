import FidelityGate.Proofs.Visibility

/-!
# The ink of a rendering

The ink of a text is what can be seen of it, its characters without the blanks.  However the texts
of a pack are mixed, trimmed or dropped, a rendering has the ink of all of them and no other, in
the order in which they stand.  What is lost in trimming the whole is blank, so the length of a
rendering is known up to the blanks at the two ends of its lines.
-/

namespace FidelityGate

namespace Text

/-- The characters that are not blank. -/
def ink (cs : List Char) : List Char :=
  cs.filter fun c ↦ !isBlank c

@[simp] theorem ink_nil : ink [] = [] := rfl

@[simp] theorem ink_append (cs ds : List Char) : ink (cs ++ ds) = ink cs ++ ink ds :=
  List.filter_append ..

theorem ink_cons_of_isBlank {c : Char} (hc : isBlank c = true) (cs : List Char) :
    ink (c :: cs) = ink cs := by
  simp [ink, hc]

theorem ink_reverse (cs : List Char) : ink cs.reverse = (ink cs).reverse :=
  List.filter_reverse ..

theorem ink_eq_nil_iff {cs : List Char} : ink cs = [] ↔ ∀ c ∈ cs, isBlank c = true := by
  simp [ink, List.filter_eq_nil_iff]

theorem ink_dropWhile (cs : List Char) : ink (cs.dropWhile isBlank) = ink cs := by
  induction cs with
  | nil => rfl
  | cons c cs ih =>
      by_cases hc : isBlank c = true
      · rw [List.dropWhile_cons_of_pos hc, ih, ink_cons_of_isBlank hc]
      · rw [List.dropWhile_cons_of_neg hc]

theorem ink_trimBy (cs : List Char) : ink (trimBy isBlank cs) = ink cs := by
  rw [trimBy, ink_reverse, ink_dropWhile, ink_reverse, List.reverse_reverse, ink_dropWhile]

theorem ink_terminated (texts : List (List Char)) : ink (terminated texts) = ink texts.flatten := by
  induction texts with
  | nil => rfl
  | cons t rest ih =>
      have hend : isBlank '\n' = true := by decide
      rw [terminated, ink_append, ink_cons_of_isBlank hend, ih, List.flatten_cons, ink_append]

theorem ink_flatten_map_trimBy (texts : List (List Char)) :
    ink (texts.map (trimBy isBlank)).flatten = ink texts.flatten := by
  induction texts with
  | nil => rfl
  | cons t rest ih =>
      rw [List.map_cons, List.flatten_cons, ink_append, ink_trimBy, ih, List.flatten_cons,
        ink_append]

theorem trimBy_eq_nil_iff {cs : List Char} : trimBy isBlank cs = [] ↔ ink cs = [] := by
  constructor
  · intro h
    rw [← ink_trimBy, h, ink_nil]
  · intro h
    rw [← ink_trimBy, ink_eq_nil_iff] at h
    cases htrimmed : trimBy isBlank cs with
    | nil => rfl
    | cons c rest =>
        rw [htrimmed] at h
        have hmem : c ∈ (trimBy isBlank cs).head? := by simp [htrimmed]
        have hblank : isBlank c = true := h c List.mem_cons_self
        rw [head?_trimBy hmem] at hblank
        cases hblank

end Text

namespace Pack

/-- The texts of a pack that its rendering shows, as they stand. -/
def texts (pack : Pack) : List String :=
  [pack.contract, pack.objective, pack.snapshot] ++ pack.constraints ++ pack.remarks

/-- Trimmed or as they stand, and whether the blank ones are dropped or not, texts have one ink. -/
theorem ink_parts (pack : Pack) :
    Text.ink (pack.parts.map String.toList).flatten =
      Text.ink (pack.texts.map String.toList).flatten := by
  have hheaders : pack.headers.map String.toList =
      ([pack.contract, pack.objective, pack.snapshot].map String.toList).map
        (Text.trimBy Text.isBlank) := by
    simp [headers, Text.toList_trim]
  simp only [parts, texts, List.map_append, List.flatten_append, Text.ink_append]
  rw [hheaders, Text.ink_flatten_map_trimBy, map_toList_visible, List.flatten_filter_ne_nil,
    Text.ink_flatten_map_trimBy]

theorem ink_rendering (pack : Pack) :
    Text.ink pack.rendering.toList = Text.ink (pack.texts.flatMap String.toList) := by
  rw [toList_rendering, Text.ink_trimBy, Text.ink_terminated, ink_parts, List.flatMap_def]

theorem rendering_eq_empty_iff {pack : Pack} :
    pack.rendering = "" ↔ ∀ text ∈ pack.texts, ∀ c ∈ text.toList, Text.isBlank c = true := by
  rw [← String.toList_eq_nil_iff, toList_rendering, Text.trimBy_eq_nil_iff, ← Text.ink_trimBy,
    ← toList_rendering, ink_rendering, Text.ink_eq_nil_iff]
  simp only [List.mem_flatMap, forall_exists_index, and_imp]
  exact ⟨fun h text htext c hc ↦ h c text htext hc, fun h c text htext hc ↦ h text htext c hc⟩

/-- The length of the parts on a line each, before the whole is trimmed. -/
theorem length_intercalate_parts (pack : Pack) :
    (['\n'].intercalate (pack.parts.map String.toList)).length =
      (pack.parts.map String.length).sum + (pack.parts.length - 1) := by
  rw [Text.length_intercalate, List.map_map, List.length_map]
  rfl

theorem rendering_sublist (pack : Pack) :
    pack.rendering.toList.Sublist (['\n'].intercalate (pack.parts.map String.toList)) := by
  rw [rendering, Text.toList_trim, String.toList_intercalate]
  exact Text.trimBy_sublist ..

theorem length_rendering_le (pack : Pack) :
    pack.rendering.length ≤ (pack.parts.map String.length).sum + (pack.parts.length - 1) := by
  rw [← length_intercalate_parts, ← String.length_toList]
  exact pack.rendering_sublist.length_le

theorem length_rendering_eq_iff (pack : Pack) :
    pack.rendering.length = (pack.parts.map String.length).sum + (pack.parts.length - 1) ↔
      (∃ first ∈ pack.parts.head?, ∃ c ∈ first.toList.head?, Text.isBlank c = false) ∧
        ∃ last ∈ pack.parts.getLast?, ∃ c ∈ last.toList.getLast?, Text.isBlank c = false := by
  -- There are three headers, so the first part and the last one are not the same.
  obtain ⟨first, middle, last, hparts⟩ : ∃ first middle last,
      pack.parts = first :: (middle ++ [last]) := by
    obtain ⟨middle, last, htail⟩ :=
      (List.eq_nil_or_concat pack.parts.tail).resolve_left (by simp [parts, headers])
    exact ⟨_, middle, last, by rw [← List.concat_eq_append, ← htail]; rfl⟩
  have hsame : pack.rendering.length =
        (pack.parts.map String.length).sum + (pack.parts.length - 1) ↔
      pack.rendering.toList = ['\n'].intercalate (pack.parts.map String.toList) := by
    rw [← length_intercalate_parts, ← String.length_toList]
    exact ⟨pack.rendering_sublist.eq_of_length, fun h ↦ by rw [h]⟩
  rw [hsame, rendering, Text.toList_trim, String.toList_intercalate, hparts]
  have hends := Text.trimBy_intercalate_eq_self_iff (p := Text.isBlank) (by decide) first.toList
    last.toList (middle.map String.toList)
  have hlast : (first :: (middle ++ [last])).getLast? = some last := by
    rw [← List.cons_append, List.getLast?_concat]
  simpa [hlast] using hends

/-- A rendering neither loses, repeats nor reorders anything of what is shown of a pack. -/
theorem rendering_preserves_ink (pack : Pack) :
    let others := pack.dialogue.flatMap (fun turn ↦ [turn.userText, turn.assistantText]) ++
      pack.evidence.map (·.summary) ++ pack.todos.map (·.content) ++ pack.memories.map (·.content)
    let texts := [pack.contract, pack.objective, pack.snapshot] ++ pack.constraints ++ others
    let lines := [Text.trim pack.contract, Text.trim pack.objective, Text.trim pack.snapshot] ++
      pack.constraints ++ (others.map Text.trim).filter (· ≠ "")
    Text.ink pack.rendering.toList = Text.ink (texts.flatMap String.toList) ∧
    (∀ c, c ∈ pack.rendering.toList.head? ∨ c ∈ pack.rendering.toList.getLast? →
      Text.isBlank c = false) ∧
    (pack.rendering = "" ↔ ∀ text ∈ texts, ∀ c ∈ text.toList, Text.isBlank c = true) ∧
    pack.rendering.length ≤ (lines.map String.length).sum + (lines.length - 1) ∧
    (pack.rendering.length = (lines.map String.length).sum + (lines.length - 1) ↔
      (∃ first ∈ lines.head?, ∃ c ∈ first.toList.head?, Text.isBlank c = false) ∧
        ∃ last ∈ lines.getLast?, ∃ c ∈ last.toList.getLast?, Text.isBlank c = false) := by
  intro others texts lines
  refine ⟨pack.ink_rendering, ?_, rendering_eq_empty_iff, pack.length_rendering_le,
    pack.length_rendering_eq_iff⟩
  rintro c (hfirst | hlast)
  · rw [toList_rendering] at hfirst
    exact Text.head?_trimBy hfirst
  · rw [toList_rendering] at hlast
    exact Text.getLast?_trimBy hlast

end Pack

end FidelityGate
