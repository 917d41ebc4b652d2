import FidelityGate.Pack.Rendering
import FidelityGate.Proofs.LoadedFields
import FidelityGate.Proofs.Range
import FidelityGate.Proofs.Reading
import FidelityGate.Proofs.RelatedLoads

/-!
# Loading values and documents

A pack may be loaded from a value, or from a text that denotes this value.  Both give the same pack
or the same issues, up to two peculiarities of documents: a large integer that is given for a ratio
is rounded by its words, and a long integer that is given for a truth value is not looked at.
-/

namespace FidelityGate

/-! ## What a value gives for a field -/

namespace Value

def field? (key : String) : Value → Option Value
  | .object fields => lookup? key fields
  | _ => none

def listed (key : String) (v : Value) : List Value :=
  match v.field? key with
  | some (.list items) => items
  | _ => []

/-- An integer is given for one of the ratios of a memory. -/
def GivesMemoryRatio (v : Value) (n : Int) : Prop :=
  ∃ key ∈ ["importance", "freshness", "confidence"], v.field? key = some (.int n)

/-- An integer is given for one of the ratios of a pack or of its memories. -/
def GivesRatio (v : Value) (n : Int) : Prop :=
  v.field? "compression_saving_ratio" = some (.int n) ∨
    ∃ key ∈ ["pending_todos", "retrieved_long_term_memory"],
      ∃ item ∈ v.listed key, item.GivesMemoryRatio n

namespace IsDocument

variable {v w : Value}

theorem of_field? {key : String} (h : ∃ depth, v.IsDocument depth) (hw : v.field? key = some w) :
    ∃ depth, w.IsDocument depth := by
  obtain ⟨depth, h⟩ := h
  cases h with
  | object _ hfields =>
      obtain ⟨field, hfound, rfl⟩ := Option.map_eq_some_iff.mp hw
      exact ⟨_, hfields field (List.mem_reverse.mp (List.mem_of_find?_eq_some hfound))⟩
  | _ => cases hw

theorem of_mem {items : List Value} (h : ∃ depth, (Value.list items).IsDocument depth)
    (hw : w ∈ items) : ∃ depth, w.IsDocument depth := by
  obtain ⟨depth, h⟩ := h
  cases h with
  | list hitems => exact ⟨_, hitems w hw⟩

theorem ofInt_isFinite {n : Int} (h : ∃ depth, (Value.int n).IsDocument depth) :
    (Binary64.ofInt n).isFinite = true := by
  obtain ⟨depth, h⟩ := h
  cases h with
  | int hn => exact Binary64.ofInt_isFinite_iff.mpr (hn.trans_le Binary64.le_integerBound)

end IsDocument

end Value

/-! ## The same up to rounding -/

/-- Two readings of the number that was given.  The first one rounds a large integer by its
words. -/
def Number.RoundsAs (given : Option Value) (x y : Number) : Prop :=
  x = y ∨ ∃ n, given = some (.int n) ∧ 2 ^ 128 ≤ n.natAbs ∧
    x = .double (.ofWords n) ∧ y = .double (.ofInt n)

/-- Two readings of the memory that was given, the same up to its ratios. -/
structure Memory.RoundsAs (given : Value) (first second : Memory) : Prop where
  importance : Number.RoundsAs (given.field? "importance") first.importance second.importance
  freshness : Number.RoundsAs (given.field? "freshness") first.freshness second.freshness
  confidence : Number.RoundsAs (given.field? "confidence") first.confidence second.confidence
  others : { first with importance := .zero, freshness := .zero, confidence := .zero } =
    { second with importance := .zero, freshness := .zero, confidence := .zero }

/-- Two readings of the pack that was given, the same up to its ratios. -/
structure Pack.RoundsAs (given : Value) (first second : Pack) : Prop where
  saving : ∃ x y, Number.RoundsAs (given.field? "compression_saving_ratio") x y ∧
    first.saving = x.toValue ∧ second.saving = y.toValue
  todos : Checked.Itemwise Memory.RoundsAs (given.listed "pending_todos") first.todos second.todos
  memories : Checked.Itemwise Memory.RoundsAs (given.listed "retrieved_long_term_memory")
    first.memories second.memories
  others : { first with saving := .null, todos := [], memories := [] } =
    { second with saving := .null, todos := [], memories := [] }

section Equal

variable {v : Value}

theorem Number.RoundsAs.eq {given : Option Value} {x y : Number}
    (hsmall : ∀ n, given = some (.int n) → n.natAbs < 2 ^ 128) (h : RoundsAs given x y) :
    x = y := by
  obtain rfl | ⟨n, hn, hlarge, _, _⟩ := h
  · rfl
  · exact absurd (hsmall n hn) (Nat.not_lt.mpr hlarge)

theorem Memory.RoundsAs.eq {first second : Memory}
    (hsmall : ∀ n, v.GivesMemoryRatio n → n.natAbs < 2 ^ 128) (h : RoundsAs v first second) :
    first = second := by
  have himportance := h.importance.eq fun n hn ↦ hsmall n ⟨_, by decide, hn⟩
  have hfreshness := h.freshness.eq fun n hn ↦ hsmall n ⟨_, by decide, hn⟩
  have hconfidence := h.confidence.eq fun n hn ↦ hsmall n ⟨_, by decide, hn⟩
  have hothers := h.others
  cases first
  cases second
  simp_all

theorem Pack.RoundsAs.eq {first second : Pack}
    (hsmall : ∀ n, v.GivesRatio n → n.natAbs < 2 ^ 128) (h : RoundsAs v first second) :
    first = second := by
  obtain ⟨x, y, hsaving, hx, hy⟩ := h.saving
  rw [hsaving.eq fun n hn ↦ hsmall n (.inl hn), ← hy] at hx
  have hmemory : ∀ key ∈ ["pending_todos", "retrieved_long_term_memory"], ∀ item ∈ v.listed key,
      ∀ a b, Memory.RoundsAs item a b → id a = id b :=
    fun key hkey item hitem _ _ hab ↦ hab.eq fun n hn ↦ hsmall n (.inr ⟨key, hkey, item, hitem, hn⟩)
  have htodos := h.todos.map_eq (hmemory _ (by decide))
  have hmemories := h.memories.map_eq (hmemory _ (by decide))
  rw [List.map_id, List.map_id] at htodos hmemories
  have hothers := h.others
  cases first
  cases second
  simp_all

theorem Pack.RoundsAs.rendering_eq {first second : Pack} (h : RoundsAs v first second) :
    first.rendering = second.rendering := by
  have hcontent : ∀ (item : Value) (a b : Memory), Memory.RoundsAs item a b →
      a.content = b.content := fun _ _ _ hab ↦ (congrArg Memory.content hab.others :)
  have htodos := h.todos.map_eq fun item _ ↦ hcontent item
  have hmemories := h.memories.map_eq fun item _ ↦ hcontent item
  have hheaders : first.headers = second.headers := (congrArg Pack.headers h.others :)
  have hconstraints : first.constraints = second.constraints :=
    (congrArg Pack.constraints h.others :)
  have hdialogue : first.dialogue = second.dialogue := (congrArg Pack.dialogue h.others :)
  have hevidence : first.evidence = second.evidence := (congrArg Pack.evidence h.others :)
  rw [rendering, rendering, parts, parts, remarks, remarks, hheaders, hconstraints, hdialogue,
    hevidence, htodos, hmemories]

end Equal

/-! ## Truth values -/

/-- An integer of more than 18 digits that fits 64 bits. -/
def IsLongWord (n : Int) : Prop :=
  10 ^ 18 ≤ n.natAbs ∧ -2 ^ 63 ≤ n ∧ n < 2 ^ 63

/-- A long integer was given for the quality of a pack: a document says that it is no truth value,
a value that it is one that cannot be interpreted. -/
structure Value.MisgivesQuality (v : Value) (first second : Issue) : Prop where
  given : ∃ n, v.field? "compression_quality_pass" = some (.int n) ∧ IsLongWord n
  first_eq : first = ⟨[.key "compression_quality_pass"], .notTruth⟩
  second_eq : second = ⟨[.key "compression_quality_pass"], .unreadableTruth⟩

theorem Value.MisgivesQuality.path_eq {v : Value} {first second : Issue}
    (h : v.MisgivesQuality first second) : first.path = second.path := by
  rw [h.first_eq, h.second_eq]

/-! ## Fields in both ways -/

namespace Load

open Checked (Related Never)

theorem number_related {v : Value} (h : ∃ depth, v.IsDocument depth) :
    Related (fun x y ↦ Number.RoundsAs (some v) (.double x) (.double y)) Never (number .document v)
      (number .value v) := by
  cases v with
  | int n =>
      rw [number, number, numberOfInt, numberOfInt, if_pos (Value.IsDocument.ofInt_isFinite h)]
      by_cases hsmall : n.natAbs < 2 ^ 128
      · exact .ok (.inl (by rw [Binary64.ofWords_eq_ofInt n hsmall]))
      · exact .ok (.inr ⟨n, rfl, Nat.not_lt.mp hsmall, rfl, rfl⟩)
  | _ => exact (Related.refl _).imp (fun _ _ hxy ↦ .inl (congrArg _ hxy)) fun _ _ ↦ id

theorem isModest_document_iff (n : Int) : isModest .document n = true ↔ n.natAbs < 10 ^ 18 :=
  decide_eq_true_iff

theorem isModest_value_iff (n : Int) : isModest .value n = true ↔ -2 ^ 63 ≤ n ∧ n < 2 ^ 63 := by
  have hword : Nat.pow 2 63 = 2 ^ 63 := rfl
  rw [isModest, isWithinWord, hword, Bool.or_eq_true, decide_eq_true_iff, decide_eq_true_iff]
  omega

theorem truthOfInt_of_isLongWord {n : Int} (h : IsLongWord n) :
    truthOfInt n = .fail .unreadableTruth := by
  have hzero : n ≠ 0 := by
    rintro rfl
    exact absurd h.1 (by decide)
  have hone : n ≠ 1 := by
    rintro rfl
    exact absurd h.1 (by decide)
  rw [truthOfInt, if_neg hzero, if_neg hone]

theorem truth_related (v : Value) :
    Related Eq (fun first second ↦ (∃ n, v = .int n ∧ IsLongWord n) ∧ first = ⟨[], .notTruth⟩ ∧
      second = ⟨[], .unreadableTruth⟩) (truth .document v) (truth .value v) := by
  cases v with
  | int n =>
      by_cases hlong : IsLongWord n
      · have hdocument : ¬ isModest .document n = true := by
          rw [isModest_document_iff]
          exact Nat.not_lt.mpr hlong.1
        have hvalue : isModest .value n = true := (isModest_value_iff n).mpr hlong.2
        rw [truth, truth, if_neg hdocument, if_pos hvalue, truthOfInt_of_isLongWord hlong]
        exact .bad (.cons (.inr ⟨⟨n, rfl, hlong⟩, rfl, rfl⟩) .nil)
      · have hsame : isModest .document n = isModest .value n := by
          rw [Bool.eq_iff_iff, isModest_document_iff, isModest_value_iff]
          unfold IsLongWord at hlong
          omega
        rw [truth, truth, hsame]
        exact .imp (fun _ _ ↦ id) (fun _ _ ↦ False.elim) (Related.refl _)
  | _ => exact (Related.refl _).imp (fun _ _ ↦ id) fun _ _ ↦ False.elim

theorem numberField_related {fields : List (String × Value)} {E : Issue → Issue → Prop}
    (key : String) (h : ∃ depth, (Value.object fields).IsDocument depth) :
    Related (Number.RoundsAs ((Value.object fields).field? key)) E
      (numberField .document fields key) (numberField .value fields key) := by
  refine .map (fun _ _ ↦ id) (.field (fun _ ↦ .inl rfl) fun v hv ↦ ?_)
  have hfield : (Value.object fields).field? key = some v := hv
  rw [hfield]
  exact (number_related (Value.IsDocument.of_field? h hfield)).under fun _ _ ↦ False.elim

end Load

theorem Memory.load_related {v : Value} (h : ∃ depth, v.IsDocument depth) :
    Checked.Related (RoundsAs v) Checked.Never (Memory.load .document v)
      (Memory.load .value v) := by
  cases v with
  | object fields =>
      refine .seqSame (.seqSame (.seq (.seq (.seq ?_ (Load.numberField_related "importance" h))
        (Load.numberField_related "freshness" h)) (Load.numberField_related "confidence" h)))
      refine .seqSame (.seqSame (.seqSame (.seqSame (.seqSame (.mapSame ?_)))))
      intro id thread scope topic content sources x x' hx y y' hy z z' hz createdAt updatedAt
      exact ⟨hx, hy, hz, rfl⟩
  | _ => exact .bad (List.forall₂_same.mpr fun _ _ ↦ .inl rfl)

theorem Load.memories_related {fields : List (String × Value)} {E : Issue → Issue → Prop}
    (key : String) (h : ∃ depth, (Value.object fields).IsDocument depth) :
    Checked.Related (Checked.Itemwise Memory.RoundsAs ((Value.object fields).listed key)) E
      (listField (Memory.load .document) fields key) (listField (Memory.load .value) fields key) := by
  refine .field (fun hnone ↦ ?_) fun v hv ↦ ?_
  · rw [Value.listed, Value.field?, hnone]
    exact .nil
  have hfield : (Value.object fields).field? key = some v := hv
  have hdocument := Value.IsDocument.of_field? h hfield
  rw [Value.listed, hfield]
  cases v with
  | list items =>
      have hitems := Checked.Related.each 0 fun item hitem ↦
        Memory.load_related (Value.IsDocument.of_mem hdocument hitem)
      exact hitems.under fun _ _ ↦ False.elim
  | stream items =>
      obtain ⟨_, hstream⟩ := hdocument
      cases hstream
  | _ => exact .bad (List.forall₂_same.mpr fun _ _ ↦ .inl rfl)

namespace Pack

open Checked (Related)

theorem quality_related (fields : List (String × Value)) :
    Related Eq (Value.object fields).MisgivesQuality
      (Load.field (Load.truth .document) false fields "compression_quality_pass")
      (Load.field (Load.truth .value) false fields "compression_quality_pass") := by
  refine .field (fun _ ↦ rfl) fun v hv ↦ (Load.truth_related v).under ?_
  rintro _ _ ⟨⟨n, rfl, hlong⟩, rfl, rfl⟩
  exact ⟨⟨n, hv, hlong⟩, rfl, rfl⟩

/-- What is loaded from a document, and what is loaded from the same value as it stands. -/
theorem load_related {v : Value} (h : ∃ depth, v.IsDocument depth) :
    Related (RoundsAs v) v.MisgivesQuality (load .document v) (load .value v) := by
  cases v with
  | object fields =>
      have hsaving : Related (fun first second ↦ ∃ x y, Number.RoundsAs
          ((Value.object fields).field? "compression_saving_ratio") x y ∧ first = x.toValue ∧
            second = y.toValue) (Value.object fields).MisgivesQuality _ _ :=
        .map (fun x y hxy ↦ ⟨x, y, hxy, rfl, rfl⟩)
          (Load.numberField_related "compression_saving_ratio" h)
      -- Four fields differ between the ways, and all others are loaded alike.
      refine .seqSame (.seq (.seq (.seqSame (.seqSame (.seqSame (.seq (.seq ?_
        (Load.memories_related "pending_todos" h))
          (Load.memories_related "retrieved_long_term_memory" h))))) hsaving)
            (quality_related fields))
      refine .seqSame (.seqSame (.seqSame (.seqSame (.seqSame (.seqSame (.mapSame ?_))))))
      intro thread run contract objective constraints dialogue evidence todos todos' htodos
        memories memories' hmemories attachments snapshot inputTokens saving saving' hsaving
        quality _ rfl usage
      exact ⟨hsaving, htodos, hmemories, rfl⟩
  | _ => exact .bad (List.forall₂_same.mpr fun _ _ ↦ .inl rfl)

theorem loadDocument_of_denotes {t : String} {v : Value} (hv : v.IsDocument 100)
    (ht : Json.Denotes 4300 t v) : loadDocument t = load .document v := by
  have hread : Json.read? documentLimits t = some v := Json.read?_of_denotes hv (by decide) ht
  rw [loadDocument, hread]

/-- A text that denotes a value is loaded as the value is.  Either both give a pack, the same one up
to large integers that are given for ratios, or both give the same issues in the same order, up to
the one about a long integer that is given for the quality. -/
theorem document_loads_like_value {t : String} {v : Value} (hv : v.IsDocument 100)
    (ht : Json.Denotes 4300 t v) :
    (∃ first second, loadDocument t = .ok first ∧ load .value v = .ok second ∧
        first.rendering.length = second.rendering.length ∧ RoundsAs v first second ∧
          ((∀ n, v.GivesRatio n → n.natAbs < 2 ^ 128) → first = second)) ∨
      ∃ first second, loadDocument t = .bad first ∧ load .value v = .bad second ∧
        first.map (·.path) = second.map (·.path) ∧
          List.Forall₂ (fun x y ↦ x = y ∨ v.MisgivesQuality x y) first second ∧
            ((∀ n, v.field? "compression_quality_pass" = some (.int n) → ¬ IsLongWord n) →
              first = second) := by
  have hrelated := load_related ⟨100, hv⟩
  rw [← loadDocument_of_denotes hv ht] at hrelated
  generalize loadDocument t = document, load .value v = loaded at hrelated
  cases hrelated with
  | @ok first second hpacks =>
      refine .inl ⟨first, second, rfl, rfl, ?_, hpacks, fun hgiven ↦ hpacks.eq hgiven⟩
      rw [hpacks.rendering_eq]
  | @bad first second hissues =>
      refine .inr ⟨first, second, rfl, rfl, ?_, hissues, ?_⟩
      · rw [← List.forall₂_eq_eq_eq, List.forall₂_map_left_iff, List.forall₂_map_right_iff]
        exact hissues.imp fun x y ↦ Or.rec (congrArg _) Value.MisgivesQuality.path_eq
      · intro hgiven
        rw [← List.forall₂_eq_eq_eq]
        refine hissues.imp ?_
        rintro x y (rfl | hquality)
        · rfl
        · obtain ⟨n, hn, hlong⟩ := hquality.given
          exact absurd hlong (hgiven n hn)

/-- A pack with a text that can be written with escapes only, or without any. -/
def escaped : Value :=
  .object [("objective", .text "A😀\n"), ("compression_saving_ratio",
    .double (.nearestTo false (Numeral.magnitude ⟨.none, ['5'], none, some (.minus, ['1'])⟩)))]

def escapedText : String :=
  "\x7b \"objective\" : \"\\u0041\\ud83d\\uDE00\\n\" ,\n\"compression_saving_ratio\":5e-1\t\x7d "

theorem escapedText_denotes : Json.Denotes 4300 escapedText escaped := by
  have hnone : Json.IsSpace [] := by decide
  have hspace : Json.IsSpace [' '] := by decide
  have hline : Json.IsSpace ['\n'] := by decide
  have htab : Json.IsSpace ['\t'] := by decide
  have hopen : Json.SpellsToken 4300 ['{'] .openObject := .mark (by simp [Json.marks])
  have hcolon : Json.SpellsToken 4300 [':'] .colon := .mark (by simp [Json.marks])
  have hcomma : Json.SpellsToken 4300 [','] .comma := .mark (by simp [Json.marks])
  have hclose : Json.SpellsToken 4300 ['}'] .closeObject := .mark (by simp [Json.marks])
  have hletter : Json.SpellsChar ['\\', 'u', '0', '0', '4', '1'] 'A' :=
    .unit (.cons (by decide) (.cons (by decide) (.cons (by decide) (.cons (by decide) .nil))))
  have hhigh : Json.SpellsUnit ['d', '8', '3', 'd'] (0xd800 + 0x3d) :=
    .cons (by decide) (.cons (by decide) (.cons (by decide) (.cons (by decide) .nil)))
  have hlow : Json.SpellsUnit ['D', 'E', '0', '0'] (0xdc00 + 0x200) :=
    .cons (by decide) (.cons (by decide) (.cons (by decide) (.cons (by decide) .nil)))
  have hpair : Json.SpellsChar (['\\', 'u', 'd', '8', '3', 'd'] ++ ['\\', 'u', 'D', 'E', '0', '0'])
      '😀' := .pair (by decide) (by decide) (by decide) hhigh hlow
  have hend : Json.SpellsChar ['\\', 'n'] '\n' := .letter (by decide)
  have htext : Json.SpellsToken 4300 _ (.text "A😀\n") :=
    .text (.cons hletter (.cons hpair (.cons hend .nil)))
  have hliteral : Numeral.IsLiteral ⟨.none, ['5'], none, some (.minus, ['1'])⟩ :=
    ⟨by decide, by decide, by decide, by decide, by decide⟩
  have hnumber : Json.SpellsToken 4300 ['5', 'e', '-', '1'] _ :=
    .number hliteral (.inl rfl) (by decide)
  have hobjective : Json.SpellsToken 4300 ('"' :: "objective".toList ++ ['"'])
      (.text "objective") := .plain (by decide)
  have hsaving : Json.SpellsToken 4300 ('"' :: "compression_saving_ratio".toList ++ ['"'])
      (.text "compression_saving_ratio") := .plain (by decide)
  have hspells : Json.Spells 4300 _ escaped.tokens :=
    .cons hnone hopen (.cons hspace hobjective (.cons hspace hcolon
      (.cons hspace htext (.cons hspace hcomma (.cons hline hsaving (.cons hnone hcolon
        (.cons hnone hnumber (.cons htab hclose (.nil hspace)))))))))
  exact hspells

theorem document_loads_like_value_of_escapes :
    escaped.IsDocument 100 ∧ Json.Denotes 4300 escapedText escaped ∧
      ∃ pack, loadDocument escapedText = .ok pack ∧ load .value escaped = .ok pack := by
  have hdocument : escaped.IsDocument 100 := by
    refine .object (by decide) ?_
    rw [List.forall_mem_cons, List.forall_mem_singleton]
    exact ⟨.text, .double⟩
  have hsmall : ∀ n, escaped.GivesRatio n → n.natAbs < 2 ^ 128 := by
    rintro n (hn | ⟨key, hkey, item, hitem, _⟩)
    · cases hn
    · simp only [List.mem_cons, List.not_mem_nil, or_false] at hkey
      rcases hkey with rfl | rfl <;> cases hitem
  refine ⟨hdocument, escapedText_denotes, ?_⟩
  rcases document_loads_like_value hdocument escapedText_denotes with
    ⟨first, second, hfirst, hsecond, _, _, hsame⟩ | ⟨_, second, _, hbad, _⟩
  · exact ⟨first, hfirst, hsame hsmall ▸ hsecond⟩
  · cases hbad

/-- A document with one natural number in its only field. -/
theorem denotes_field (ds : List Char) {t key : String}
    (hkey : key.toList.all fun c ↦ 0x20 ≤ c.toNat ∧ c ≠ '"' ∧ c ≠ '\\') (hds : Text.IsDigits ds)
    (hleading : ds.head? = some '0' → ds = ['0']) (hlength : ds.length ≤ 4300)
    (ht : t.toList = '{' :: '"' :: key.toList ++ '"' :: ':' :: ds ++ ['}']) :
    Json.Denotes 4300 t (.object [(key, .int (Text.digitsValue ds))]) := by
  have hspace : Json.IsSpace [] := by simp [Json.IsSpace]
  have hopen : Json.SpellsToken 4300 ['{'] .openObject := .mark (by simp [Json.marks])
  have hcolon : Json.SpellsToken 4300 [':'] .colon := .mark (by simp [Json.marks])
  have hclose : Json.SpellsToken 4300 ['}'] .closeObject := .mark (by simp [Json.marks])
  have hspells : Json.Spells 4300 _ (Value.object [(key, .int (Text.digitsValue ds))]).tokens :=
    .cons hspace hopen (.cons hspace (.plain hkey) (.cons hspace hcolon
      (.cons hspace (.digits hds hleading hlength) (.cons hspace hclose (.nil hspace)))))
  rw [Json.Denotes, ht]
  simpa using hspells

def longQuality : Value :=
  .object [("compression_quality_pass", .int (10 ^ 18))]

def longQualityText : String :=
  "\x7b\"compression_quality_pass\":1000000000000000000\x7d"

/-- An integer just above the middle of two doubles. -/
def largeSaving : Value :=
  .object [("compression_saving_ratio", .int (2 ^ 128 + 2 ^ 75 + 2 ^ 5))]

def largeSavingText : String :=
  "\x7b\"compression_saving_ratio\":340282366920938501242306470388929921056\x7d"

/-- Both peculiarities of documents do occur. -/
theorem document_differs_from_value :
    (longQuality.IsDocument 100 ∧ Json.Denotes 4300 longQualityText longQuality ∧
      ∃ first second, loadDocument longQualityText = .bad [first] ∧
        load .value longQuality = .bad [second] ∧
          first.complaint.code = "bool_type" ∧ second.complaint.code = "bool_parsing") ∧
    largeSaving.IsDocument 100 ∧ Json.Denotes 4300 largeSavingText largeSaving ∧
      ∃ first second, loadDocument largeSavingText = .ok first ∧
        load .value largeSaving = .ok second ∧ first.saving ≠ second.saving := by
  have hint : ∀ {key : String} {n : Int}, n.natAbs < 2 ^ 200 →
      (Value.object [(key, .int n)]).IsDocument 100 := by
    intro key n hn
    have hrange : n.natAbs < 2 ^ 1023 :=
      hn.trans_le (pow_le_pow_right₀ (by decide) (by decide))
    exact .object (by simp) (by simpa using Value.IsDocument.int hrange)
  have hlong : Json.Denotes 4300 longQualityText longQuality :=
    denotes_field "1000000000000000000".toList (by decide) (by decide) (by decide) (by decide) rfl
  have hlarge : Json.Denotes 4300 largeSavingText largeSaving :=
    denotes_field "340282366920938501242306470388929921056".toList (by decide) (by decide)
      (by decide) (by decide) rfl
  have hloaded : (loadDocument largeSavingText).toOption.map (·.saving.number?) =
        some (some (.double (.finite false 0x47f0000000000000 (by decide)))) ∧
      (load .value largeSaving).toOption.map (·.saving.number?) =
        some (some (.double (.finite false 0x47f0000000000001 (by decide)))) := by decide +kernel
  obtain ⟨first, hfirst, hsaving⟩ := Checked.exists_of_toOption_map hloaded.1
  obtain ⟨second, hsecond, hsaving'⟩ := Checked.exists_of_toOption_map hloaded.2
  refine ⟨⟨hint (by decide), hlong, _, _, rfl, rfl, rfl, rfl⟩, hint (by decide), hlarge, first,
    second, hfirst, hsecond, ?_⟩
  intro hsame
  rw [hsame, hsaving'] at hsaving
  exact absurd hsaving (by decide)

end Pack

end FidelityGate
