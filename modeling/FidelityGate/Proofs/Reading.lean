import FidelityGate.Json.Document
import FidelityGate.Proofs.Scanning

/-!
# Reading a text that denotes a value

A text that denotes a value is read as this value, as long as the value nests no deeper than
documents may.  It follows that a text denotes at most one value.
-/

namespace FidelityGate.Json

variable {limits : Limits} {outer : List Frame} {rest : List Token}

theorem readFrom_cons (reader : Reader) (token : Token) :
    readFrom limits reader (token :: rest) =
      (advance limits reader token).bind fun next ↦ readFrom limits next rest := by
  rw [readFrom]
  cases advance limits reader token <;> rfl

/-! ## Members of a container -/

/-- Members that are read one by one, each of them up to the comma or bracket behind it, are read
as a row with commas between them.  The first one may be met at another stage than the others. -/
theorem readFrom_intercalate {α : Type} {frame : List α → Frame} {start stage : Stage}
    {write : α → List Token} (first : α) (others before : List α)
    (hfirst : ∀ rest, readFrom limits ⟨frame before :: outer, start⟩ (write first ++ rest) =
      readFrom limits ⟨frame (first :: before) :: outer, .afterValue⟩ rest)
    (hothers : ∀ member ∈ others, ∀ before rest,
      readFrom limits ⟨frame before :: outer, stage⟩ (write member ++ rest) =
        readFrom limits ⟨frame (member :: before) :: outer, .afterValue⟩ rest)
    (hcomma : ∀ before rest,
      readFrom limits ⟨frame before :: outer, .afterValue⟩ (.comma :: rest) =
        readFrom limits ⟨frame before :: outer, stage⟩ rest) :
    readFrom limits ⟨frame before :: outer, start⟩
        ([.comma].intercalate ((first :: others).map write) ++ rest) =
      readFrom limits ⟨frame (others.reverse ++ first :: before) :: outer, .afterValue⟩ rest := by
  induction others generalizing first before start with
  | nil =>
      rw [List.map_singleton, List.intercalate_singleton, hfirst]
      rfl
  | cons second others ih =>
      have hsecond := hothers second List.mem_cons_self (first :: before)
      have hrest := ih second (first :: before) hsecond
        fun member hmem ↦ hothers member (List.mem_cons_of_mem second hmem)
      rw [List.map_cons, List.map_cons, List.intercalate_cons_cons, List.append_assoc,
        List.append_assoc, hfirst, List.singleton_append, hcomma, ← List.map_cons, hrest,
        List.reverse_cons, List.append_assoc, List.singleton_append]

theorem exists_tokens_eq_cons {depth : Nat} {v : Value} (h : v.IsDocument depth) :
    ∃ token tail, v.tokens = token :: tail ∧ token ≠ .closeList := by
  cases h <;> exact ⟨_, _, rfl, Token.noConfusion⟩

/-- A first item is let in where the depth allows it. -/
theorem readFrom_firstItem {frames : List Frame} {depth : Nat} {v : Value} (h : v.IsDocument depth)
    (hdepth : frames.length ≤ limits.depth) :
    readFrom limits ⟨frames, .firstItem⟩ (v.tokens ++ rest) =
      readFrom limits ⟨frames, .value⟩ (v.tokens ++ rest) := by
  obtain ⟨token, tail, htokens, htoken⟩ := exists_tokens_eq_cons h
  have hadvance : advance limits ⟨frames, .firstItem⟩ token =
      if frames.length ≤ limits.depth then beginValue frames token else none := by
    cases token <;> first | rfl | exact absurd rfl htoken
  rw [htokens, List.cons_append, readFrom_cons, readFrom_cons, hadvance, if_pos hdepth]
  rfl

theorem readFrom_firstKey {frames : List Frame} {key : String}
    (hdepth : frames.length ≤ limits.depth) :
    readFrom limits ⟨frames, .firstKey⟩ (.text key :: rest) =
      readFrom limits ⟨frames, .key⟩ (.text key :: rest) := by
  have hadvance : advance limits ⟨frames, .firstKey⟩ (.text key) =
      if frames.length ≤ limits.depth then readKey frames (.text key) else none := rfl
  rw [readFrom_cons, readFrom_cons, hadvance, if_pos hdepth]
  rfl

/-! ## Containers -/

theorem readFrom_items {items : List Value} {depth : Nat}
    (hitems : ∀ item ∈ items, item.IsDocument depth) (hdepth : outer.length < limits.depth)
    (hread : ∀ item ∈ items, ∀ before rest,
      readFrom limits ⟨.items before :: outer, .value⟩ (item.tokens ++ rest) =
        readFrom limits ⟨.items (item :: before) :: outer, .afterValue⟩ rest) :
    readFrom limits ⟨.items [] :: outer, .firstItem⟩
        ([.comma].intercalate (items.map Value.tokens) ++ .closeList :: rest) =
      (deliver (.list items) outer).bind fun next ↦ readFrom limits next rest := by
  cases items with
  | nil => exact readFrom_cons _ _
  | cons first others =>
      have hinside : (Frame.items [] :: outer).length ≤ limits.depth := hdepth
      have hfirst : ∀ rest,
          readFrom limits ⟨.items [] :: outer, .firstItem⟩ (first.tokens ++ rest) =
            readFrom limits ⟨.items [first] :: outer, .afterValue⟩ rest := by
        intro rest
        rw [readFrom_firstItem (hitems first List.mem_cons_self) hinside]
        exact hread first List.mem_cons_self [] rest
      rw [readFrom_intercalate first others [] hfirst
        (fun item hitem ↦ hread item (List.mem_cons_of_mem first hitem))
        (fun _ _ ↦ readFrom_cons _ _), readFrom_cons]
      simp [advance, closeFrame]

theorem readFrom_fields {fields : List (String × Value)} (hdepth : outer.length < limits.depth)
    (hread : ∀ field ∈ fields, ∀ before rest,
      readFrom limits ⟨.field before field.1 :: outer, .value⟩ (field.2.tokens ++ rest) =
        readFrom limits ⟨.fields (field :: before) :: outer, .afterValue⟩ rest) :
    readFrom limits ⟨.fields [] :: outer, .firstKey⟩
        ([.comma].intercalate (fields.map fun field ↦
          .text field.1 :: .colon :: field.2.tokens) ++ .closeObject :: rest) =
      (deliver (.object fields) outer).bind fun next ↦ readFrom limits next rest := by
  cases fields with
  | nil => exact readFrom_cons _ _
  | cons first others =>
      have hfield : ∀ field ∈ first :: others, ∀ before rest,
          readFrom limits ⟨.fields before :: outer, .key⟩
              (.text field.1 :: .colon :: field.2.tokens ++ rest) =
            readFrom limits ⟨.fields (field :: before) :: outer, .afterValue⟩ rest := by
        intro field hmem before rest
        have hkey : ∀ tail, readFrom limits ⟨.fields before :: outer, .key⟩
            (.text field.1 :: tail) =
              readFrom limits ⟨.field before field.1 :: outer, .colon⟩ tail :=
          fun tail ↦ readFrom_cons _ _
        have hcolon : ∀ tail, readFrom limits ⟨.field before field.1 :: outer, .colon⟩
            (.colon :: tail) = readFrom limits ⟨.field before field.1 :: outer, .value⟩ tail :=
          fun tail ↦ readFrom_cons _ _
        rw [List.cons_append, hkey, List.cons_append, hcolon, hread field hmem before rest]
      have hinside : (Frame.fields [] :: outer).length ≤ limits.depth := hdepth
      have hfirst : ∀ rest, readFrom limits ⟨.fields [] :: outer, .firstKey⟩
          (.text first.1 :: .colon :: first.2.tokens ++ rest) =
            readFrom limits ⟨.fields [first] :: outer, .afterValue⟩ rest := by
        intro rest
        rw [List.cons_append, readFrom_firstKey hinside]
        exact hfield first List.mem_cons_self [] rest
      rw [readFrom_intercalate first others [] hfirst
        (fun field hmem ↦ hfield field (List.mem_cons_of_mem first hmem))
        (fun _ _ ↦ readFrom_cons _ _), readFrom_cons]
      simp [advance, closeFrame]

/-! ## Values -/

/-- The tokens of a value are read as this value where it may stand, inside the containers that are
still open. -/
theorem readFrom_tokens {depth : Nat} {v : Value} (h : v.IsDocument depth) {frames : List Frame}
    (hdepth : frames.length + depth ≤ limits.depth) (rest : List Token) :
    readFrom limits ⟨frames, .value⟩ (v.tokens ++ rest) =
      (deliver v frames).bind fun next ↦ readFrom limits next rest := by
  induction h generalizing frames rest with
  | null => exact readFrom_cons _ _
  | bool => exact readFrom_cons _ _
  | int => exact readFrom_cons _ _
  | double => exact readFrom_cons _ _
  | text => exact readFrom_cons _ _
  | @list depth items hitems ih =>
      have hopen : ∀ rest, readFrom limits ⟨frames, .value⟩ (.openList :: rest) =
          readFrom limits ⟨.items [] :: frames, .firstItem⟩ rest := fun rest ↦ readFrom_cons _ _
      rw [Value.tokens, Value.itemTokens_eq_map, List.cons_append, hopen, List.append_assoc]
      apply readFrom_items hitems (by omega)
      intro item hitem before rest
      exact ih item hitem (by rw [List.length_cons]; omega) rest
  | @object depth fields hdistinct hfields ih =>
      have hopen : ∀ rest, readFrom limits ⟨frames, .value⟩ (.openObject :: rest) =
          readFrom limits ⟨.fields [] :: frames, .firstKey⟩ rest := fun rest ↦ readFrom_cons _ _
      rw [Value.tokens, Value.fieldTokens_eq_map, List.cons_append, hopen, List.append_assoc]
      apply readFrom_fields (by omega)
      intro field hmem before rest
      exact ih field hmem (by rw [List.length_cons]; omega) rest

theorem document?_tokens {depth : Nat} {v : Value} (h : v.IsDocument depth)
    (hdepth : depth ≤ limits.depth) : document? limits v.tokens = some v := by
  have hread : readFrom limits ⟨[], .value⟩ (v.tokens ++ []) = some v :=
    readFrom_tokens h (by simpa using hdepth) []
  rwa [List.append_nil] at hread

/-- A text that denotes a value is read as this value. -/
theorem read?_of_denotes {depth : Nat} {s : String} {v : Value} (hv : v.IsDocument depth)
    (hdepth : depth ≤ limits.depth) (hs : Denotes limits.digits s v) :
    read? limits s = some v := by
  rw [read?, tokens?_of_spells hs (apart_tokens hv), Option.bind_some, document?_tokens hv hdepth]

/-- A text denotes at most one value. -/
theorem Denotes.unique {longest depth : Nat} {s : String} {v w : Value} (hv : v.IsDocument depth)
    (hw : w.IsDocument depth) (hsv : Denotes longest s v) (hsw : Denotes longest s w) : v = w := by
  have hread : ∀ {u : Value}, u.IsDocument depth → Denotes longest s u →
      read? ⟨depth, longest⟩ s = some u := fun hu hs ↦ read?_of_denotes hu le_rfl hs
  exact Option.some.inj ((hread hv hsv).symm.trans (hread hw hsw))

end FidelityGate.Json
