import FidelityGate.Proofs.Notation

/-!
# Scanning a text that is spelled

The scanner finds the tokens of a row in every text that spells them.  A scalar ends where the next
character cannot belong to it, so no two scalars may follow each other; in the tokens of a value
they never do.
-/

namespace FidelityGate.Json

variable {limits : Limits} {tokens : List Token} {rest : List Char}

theorem scanFrom_cons {scanner next : Scanner} {c : Char} (h : step limits scanner c = some next) :
    scanFrom limits scanner (c :: rest) = scanFrom limits next rest := by
  rw [scanFrom, h]

theorem scanFrom_space {space : List Char} (h : IsSpace space) :
    scanFrom limits ⟨.between, tokens⟩ (space ++ rest) =
      scanFrom limits ⟨.between, tokens⟩ rest := by
  induction space with
  | nil => rfl
  | cons c others ih =>
      have hstep : step limits ⟨.between, tokens⟩ c = some ⟨.between, tokens⟩ := by
        have hc : c ∈ [' ', '\t', '\n', '\r'] := h c List.mem_cons_self
        simp only [List.mem_cons, List.not_mem_nil, or_false] at hc
        rcases hc with rfl | rfl | rfl | rfl <;> rfl
      rw [List.cons_append, scanFrom_cons hstep]
      exact ih fun d hd ↦ h d (List.mem_cons_of_mem c hd)

/-! ## Quoted texts -/

theorem hexDigit?_of_isHexDigit {c : Char} {n : Nat} (h : IsHexDigit c n) :
    hexDigit? c = some n := by
  have hdigits : ∀ n < 16, hexDigit? (Nat.digitChar n) = some n ∧
      hexDigit? (Nat.digitChar n).toUpper = some n := by decide
  obtain ⟨hn, rfl | rfl⟩ := h
  · exact (hdigits n hn).1
  · exact (hdigits n hn).2

section Quoted

variable {reversed : List Char} {high : Option Nat}

theorem scanFrom_hexDigit {c : Char} {left value digit : Nat} (h : IsHexDigit c digit) :
    scanFrom limits ⟨.quoted reversed (.hex high (left + 1) value), tokens⟩ (c :: rest) =
      scanFrom limits ⟨.quoted reversed (.hex high left (16 * value + digit)), tokens⟩ rest := by
  apply scanFrom_cons
  simp [step, quotedStep, hexDigit?_of_isHexDigit h]

theorem scanFrom_lastHexDigit {c : Char} {value digit : Nat} {place : Place}
    (h : IsHexDigit c digit)
    (hplace : finishHex reversed high (16 * value + digit) = some place) :
    scanFrom limits ⟨.quoted reversed (.hex high 0 value), tokens⟩ (c :: rest) =
      scanFrom limits ⟨place, tokens⟩ rest := by
  apply scanFrom_cons
  simp [step, quotedStep, hexDigit?_of_isHexDigit h, hplace]

/-- Four hexadecimal digits are gathered to 16 bits. -/
theorem scanFrom_unit {cs : List Char} {unit : Nat} {place : Place} (h : SpellsUnit cs unit)
    (hplace : finishHex reversed high unit = some place) :
    scanFrom limits ⟨.quoted reversed (.hex high 3 0), tokens⟩ (cs ++ rest) =
      scanFrom limits ⟨place, tokens⟩ rest := by
  have hvalue : 16 * (16 * (16 * (16 * 0 + unit / 4096) + unit / 256 % 16) + unit / 16 % 16) +
      unit % 16 = unit := by omega
  cases h with | cons h₃ h =>
  cases h with | cons h₂ h =>
  cases h with | cons h₁ h =>
  cases h with | cons h₀ h =>
  cases h
  rw [List.cons_append, scanFrom_hexDigit h₃, List.cons_append, scanFrom_hexDigit h₂,
    List.cons_append, scanFrom_hexDigit h₁, List.cons_append]
  exact scanFrom_lastHexDigit h₀ (hvalue.symm ▸ hplace)

theorem finishHex_none (c : Char) :
    finishHex reversed none c.toNat = some (.quoted (c :: reversed) .plain) := by
  have hvalid : c.toNat.isValidChar := c.valid
  have hhigh : isHigh c.toNat = false := by
    simp only [isHigh, Bool.and_eq_false_iff, decide_eq_false_iff_not]
    unfold Nat.isValidChar at hvalid
    omega
  have hlow : isLow c.toNat = false := by
    simp only [isLow, Bool.and_eq_false_iff, decide_eq_false_iff_not]
    unfold Nat.isValidChar at hvalid
    omega
  simp [finishHex, hhigh, hlow]

theorem finishHex_some {c : Char} {high low : Nat} (hlow : low < 0x400)
    (h : c.toNat = 0x10000 + high * 0x400 + low) :
    finishHex reversed (some (0xd800 + high)) (0xdc00 + low) =
      some (.quoted (c :: reversed) .plain) := by
  have hisLow : isLow (0xdc00 + low) = true := by
    simp only [isLow, Bool.and_eq_true, decide_eq_true_eq]
    omega
  rw [finishHex, if_pos hisLow, Nat.add_sub_cancel_left, Nat.add_sub_cancel_left, ← h,
    Char.ofNat_toNat]

theorem scanFrom_char {cs : List Char} {c : Char} (h : SpellsChar cs c) :
    scanFrom limits ⟨.quoted reversed .plain, tokens⟩ (cs ++ rest) =
      scanFrom limits ⟨.quoted (c :: reversed) .plain, tokens⟩ rest := by
  cases h with
  | plain hcontrol hquote hslash =>
      apply scanFrom_cons
      simp [step, quotedStep, hquote, hslash, Nat.not_lt.mpr hcontrol]
  | letter hletter =>
      simp only [shortEscapes, List.mem_cons, Prod.mk.injEq, List.not_mem_nil, or_false] at hletter
      rcases hletter with ⟨rfl, rfl⟩ | ⟨rfl, rfl⟩ | ⟨rfl, rfl⟩ | ⟨rfl, rfl⟩ | ⟨rfl, rfl⟩ |
        ⟨rfl, rfl⟩ | ⟨rfl, rfl⟩ | ⟨rfl, rfl⟩ <;> rfl
  | unit hunit => exact scanFrom_unit hunit (finishHex_none c)
  | @pair c high low hs ls hhigh hlow hc hhs hls =>
      have hfirst : finishHex reversed none (0xd800 + high) =
          some (.quoted reversed (.pairSlash (0xd800 + high))) := by
        have hisHigh : isHigh (0xd800 + high) = true := by
          simp only [isHigh, Bool.and_eq_true, decide_eq_true_eq]
          omega
        rw [finishHex, if_pos hisHigh]
      calc _ = scanFrom limits ⟨.quoted reversed (.hex none 3 0), tokens⟩
            (hs ++ ('\\' :: 'u' :: ls ++ rest)) := by simp; rfl
        _ = scanFrom limits ⟨.quoted reversed (.pairSlash (0xd800 + high)), tokens⟩
            ('\\' :: 'u' :: ls ++ rest) := scanFrom_unit hhs hfirst
        _ = scanFrom limits ⟨.quoted (c :: reversed) .plain, tokens⟩ rest :=
            scanFrom_unit hls (finishHex_some hlow hc)

end Quoted

theorem scanFrom_chars {pieces : List (List Char)} {cs : List Char} (reversed : List Char)
    (h : List.Forall₂ SpellsChar pieces cs) :
    scanFrom limits ⟨.quoted reversed .plain, tokens⟩ (pieces.flatten ++ rest) =
      scanFrom limits ⟨.quoted (cs.reverse ++ reversed) .plain, tokens⟩ rest := by
  induction h generalizing reversed with
  | nil => rfl
  | cons hpiece _ ih =>
      rw [List.flatten_cons, List.append_assoc, scanFrom_char hpiece, ih, List.reverse_cons,
        List.append_assoc, List.singleton_append]

/-! ## Bare runs -/

theorem startToken_of_isBare {c : Char} (h : isBare c = true) :
    startToken tokens c = some ⟨.bare [c], tokens⟩ := by
  unfold startToken
  split
  case h_12 => exact if_pos h
  all_goals exact absurd h (by decide)

theorem scanFrom_bare {cs : List Char} (reversed : List Char) (h : ∀ c ∈ cs, isBare c = true) :
    scanFrom limits ⟨.bare reversed, tokens⟩ (cs ++ rest) =
      scanFrom limits ⟨.bare (cs.reverse ++ reversed), tokens⟩ rest := by
  induction cs generalizing reversed with
  | nil => rfl
  | cons c others ih =>
      have hstep : step limits ⟨.bare reversed, tokens⟩ c = some ⟨.bare (c :: reversed), tokens⟩ :=
        if_pos (h c List.mem_cons_self)
      rw [List.cons_append, scanFrom_cons hstep, ih, List.reverse_cons, List.append_assoc,
        List.singleton_append]
      exact fun d hd ↦ h d (List.mem_cons_of_mem c hd)

theorem scanFrom_bare_end {reversed : List Char} {v : Value}
    (hv : bareValue? limits reversed.reverse = some v) (hrest : rest.head?.all (!isBare ·)) :
    scanFrom limits ⟨.bare reversed, tokens⟩ rest =
      scanFrom limits ⟨.between, .scalar v :: tokens⟩ rest := by
  cases rest with
  | nil => simp [scanFrom, finish?, hv]
  | cons c others =>
      have hc : isBare c = false := by simpa using hrest
      simp [scanFrom, step, hc, hv]

/-- A run that nothing bare follows is read as the scalar that it denotes. -/
theorem scanFrom_scalar {cs : List Char} {v : Value} (hbare : ∀ c ∈ cs, isBare c = true)
    (hv : bareValue? limits cs = some v) (hrest : rest.head?.all (!isBare ·)) :
    scanFrom limits ⟨.between, tokens⟩ (cs ++ rest) =
      scanFrom limits ⟨.between, .scalar v :: tokens⟩ rest := by
  have hcs : cs ≠ [] := by
    rintro rfl
    cases hv
  obtain ⟨c, others, rfl⟩ := List.exists_cons_of_ne_nil hcs
  have hstep : step limits ⟨.between, tokens⟩ c = some ⟨.bare [c], tokens⟩ :=
    startToken_of_isBare (hbare c List.mem_cons_self)
  have hothers : ∀ d ∈ others, isBare d = true := fun d hd ↦ hbare d (List.mem_cons_of_mem c hd)
  rw [List.cons_append, scanFrom_cons hstep, scanFrom_bare [c] hothers, scanFrom_bare_end _ hrest]
  rwa [List.reverse_append, List.reverse_reverse, List.reverse_singleton, List.singleton_append]

/-! ## Numbers and words -/

theorem isBare_of_isDigit {c : Char} (h : Text.isDigit c = true) : isBare c = true := by
  have hdigit : c.isDigit = true := h
  simp [isBare, Char.isAlphanum, hdigit]

theorem isBare_of_isDigits {ds : List Char} (h : Text.IsDigits ds) :
    ∀ c ∈ ds, isBare c = true :=
  fun c hc ↦ isBare_of_isDigit (h.2 c hc)

theorem isBare_sign (sign : Sign) : ∀ c ∈ sign.write, isBare c = true :=
  List.all_eq_true.mp (by cases sign <;> rfl)

theorem isBare_write {numeral : Numeral} {mark : Char} (h : numeral.IsLiteral)
    (hmark : mark = 'e' ∨ mark = 'E') : ∀ c ∈ numeral.write mark, isBare c = true := by
  obtain ⟨sign, whole, fraction, exponent⟩ := numeral
  simp only [Numeral.write, List.forall_mem_append]
  refine ⟨isBare_sign sign, isBare_of_isDigits h.whole, ?_, ?_⟩
  · cases fraction with
    | none => simp [Numeral.writeFraction]
    | some digits =>
        rw [Numeral.writeFraction, List.forall_mem_cons]
        exact ⟨rfl, isBare_of_isDigits (h.fraction digits rfl)⟩
  · cases exponent with
    | none => simp [Numeral.writeExponent]
    | some power =>
        rw [Numeral.writeExponent, List.forall_mem_cons, List.forall_mem_append]
        refine ⟨?_, isBare_sign power.1, isBare_of_isDigits (h.exponent power rfl)⟩
        rcases hmark with rfl | rfl <;> rfl

/-- A number is none of the words. -/
theorem bareValue?_of_scan? {cs : List Char} {numeral : Numeral}
    (h : Numeral.scan? cs = some numeral) : bareValue? limits cs = numberValue? limits cs := by
  have hword : ∀ word, Numeral.scan? (String.toList word) = none → String.ofList cs ≠ word := by
    rintro _ hnone rfl
    rw [String.toList_ofList, h] at hnone
    cases hnone
  unfold bareValue?
  split
  case h_7 => rfl
  all_goals
    rename_i heq
    exact absurd heq (hword _ (by decide))

theorem integerLength_le_length_write (numeral : Numeral) (mark : Char) :
    integerLength numeral ≤ (numeral.write mark).length := by
  have hsign : (if numeral.sign.isMinus then 1 else 0) ≤ numeral.sign.write.length := by
    cases numeral.sign <;> decide
  rw [integerLength, Numeral.write, List.length_append, List.length_append]
  omega

theorem isStrict_of_isLiteral {numeral : Numeral} (h : numeral.IsLiteral) :
    numeral.isStrict = true := by
  have hwhole := h.whole.1
  have hfraction : numeral.fraction ≠ some [] := fun hnone ↦ (h.fraction [] hnone).1 rfl
  by_cases hzero : numeral.whole.head? = some '0'
  · simp [Numeral.isStrict, h.unsigned, h.leading hzero, hfraction]
  · simp [Numeral.isStrict, h.unsigned, hwhole, hzero, hfraction]

theorem bareValue?_write {numeral : Numeral} {mark : Char} (h : numeral.IsLiteral)
    (hmark : mark = 'e' ∨ mark = 'E') (hlength : (numeral.write mark).length ≤ limits.digits) :
    bareValue? limits (numeral.write mark) = some numeral.value := by
  have hscan := Numeral.scan?_write hmark h
  have hdigits : ¬ limits.digits < integerLength numeral :=
    Nat.not_lt.mpr ((integerLength_le_length_write numeral mark).trans hlength)
  have hread : ¬ (!numeral.isStrict || limits.digits < integerLength numeral) = true := by
    simp [isStrict_of_isLiteral h, hdigits]
  rw [bareValue?_of_scan? hscan, numberValue?, hscan, Numeral.value,
    ← Numeral.toBinary64_eq_nearestTo, apply_ite some]
  exact if_neg hread

theorem isBare_word {word : String} {v : Value} (h : (word, v) ∈ words) :
    ∀ c ∈ word.toList, isBare c = true := by
  have hwords : ∀ word ∈ words.map (·.1), word.toList.all isBare = true := by decide
  exact List.all_eq_true.mp (hwords word (List.mem_map_of_mem (f := (·.1)) h))

theorem bareValue?_word {word : String} {v : Value} (h : (word, v) ∈ words) :
    bareValue? limits word.toList = some v := by
  simp only [words, List.mem_cons, Prod.mk.injEq, List.not_mem_nil, or_false] at h
  rcases h with ⟨rfl, rfl⟩ | ⟨rfl, rfl⟩ | ⟨rfl, rfl⟩ | ⟨rfl, rfl⟩ | ⟨rfl, rfl⟩ | ⟨rfl, rfl⟩ <;> rfl

/-! ## Rows of tokens -/

def Token.isScalar : Token → Bool
  | .scalar _ => true
  | _ => false

/-- No two scalars follow each other. -/
def Apart (tokens : List Token) : Prop :=
  tokens.IsChain fun first second ↦ (first.isScalar && second.isScalar) = false

theorem scanFrom_token {cs : List Char} {token : Token} (h : SpellsToken limits.digits cs token)
    (hrest : token.isScalar = true → rest.head?.all (!isBare ·)) :
    scanFrom limits ⟨.between, tokens⟩ (cs ++ rest) =
      scanFrom limits ⟨.between, token :: tokens⟩ rest := by
  cases h with
  | mark hmark =>
      simp only [marks, List.mem_cons, Prod.mk.injEq, List.not_mem_nil, or_false] at hmark
      rcases hmark with ⟨rfl, rfl⟩ | ⟨rfl, rfl⟩ | ⟨rfl, rfl⟩ | ⟨rfl, rfl⟩ | ⟨rfl, rfl⟩ |
        ⟨rfl, rfl⟩ <;> rfl
  | @text pieces s hpieces =>
      have hopen : step limits ⟨.between, tokens⟩ '"' = some ⟨.quoted [] .plain, tokens⟩ := rfl
      have hclose : ∀ reversed : List Char, step limits ⟨.quoted reversed .plain, tokens⟩ '"' =
          some ⟨.between, .text (String.ofList reversed.reverse) :: tokens⟩ := fun _ ↦ rfl
      rw [List.cons_append, List.cons_append, scanFrom_cons hopen, List.append_assoc,
        scanFrom_chars [] hpieces, List.singleton_append, scanFrom_cons (hclose _),
        List.append_nil, List.reverse_reverse, String.ofList_toList]
  | word hword => exact scanFrom_scalar (isBare_word hword) (bareValue?_word hword) (hrest rfl)
  | number hliteral hmark hlength =>
      exact scanFrom_scalar (isBare_write hliteral hmark)
        (bareValue?_write hliteral hmark hlength) (hrest rfl)

theorem exists_cons_of_spellsToken {longest : Nat} {cs : List Char} {token : Token}
    (h : SpellsToken longest cs token) (htoken : token.isScalar = false) :
    ∃ c others, cs = c :: others ∧ isBare c = false := by
  cases h with
  | @mark c token hmark =>
      have hmarks : (marks.map (·.1)).all (!isBare ·) = true := by decide
      have hc := List.all_eq_true.mp hmarks c (List.mem_map_of_mem (f := (·.1)) hmark)
      exact ⟨c, [], rfl, Bool.not_eq_true' _ ▸ hc⟩
  | text hpieces => exact ⟨_, _, rfl, rfl⟩
  | word hword => cases htoken
  | number hliteral hmark hlength => cases htoken

theorem not_isBare_of_isSpace {space : List Char} (h : IsSpace space) :
    ∀ c ∈ space, isBare c = false := by
  have hspaces : [' ', '\t', '\n', '\r'].all (!isBare ·) = true := by decide
  intro c hc
  simpa using List.all_eq_true.mp hspaces c (h c hc)

/-- What follows a scalar cannot be taken for a part of it. -/
theorem head?_of_spells {longest : Nat} {cs : List Char} {row : List Token}
    (h : Spells longest cs row) (hrow : ∀ token ∈ row.head?, token.isScalar = false) :
    cs.head?.all (!isBare ·) := by
  cases h with
  | nil hspace =>
      cases cs with
      | nil => rfl
      | cons c others => simpa using not_isBare_of_isSpace hspace c List.mem_cons_self
  | @cons space cs rest token row hspace htoken hrest =>
      cases space with
      | nil =>
          obtain ⟨c, others, rfl, hc⟩ := exists_cons_of_spellsToken htoken (hrow token rfl)
          simpa using hc
      | cons c others => simpa using not_isBare_of_isSpace hspace c List.mem_cons_self

/-- The scanner finds the tokens that a text spells. -/
theorem scanFrom_spells {cs : List Char} {row : List Token} (h : Spells limits.digits cs row)
    (hapart : Apart row) :
    scanFrom limits ⟨.between, tokens⟩ cs = some (tokens.reverse ++ row) := by
  induction h generalizing tokens with
  | @nil space hspace =>
      rw [← List.append_nil space, scanFrom_space hspace, List.append_nil]
      rfl
  | @cons space cs rest token row hspace htoken hrest ih =>
      obtain ⟨hnext, hrow⟩ := List.isChain_cons.mp hapart
      have hend : token.isScalar = true → rest.head?.all (!isBare ·) := fun hscalar ↦
        head?_of_spells hrest fun next hmem ↦ by simpa [hscalar] using hnext next hmem
      rw [List.append_assoc, scanFrom_space hspace, scanFrom_token htoken hend, ih hrow,
        List.reverse_cons, List.append_assoc, List.singleton_append]

theorem tokens?_of_spells {cs : List Char} {row : List Token} (h : Spells limits.digits cs row)
    (hapart : Apart row) : tokens? limits cs = some row :=
  scanFrom_spells h hapart

/-! ## The tokens of a value -/

theorem Apart.append_cons {first second : List Token} {token : Token} (hfirst : Apart first)
    (htoken : token.isScalar = false) (hsecond : Apart second) :
    Apart (first ++ token :: second) := by
  refine List.isChain_append.mpr ⟨hfirst, List.isChain_cons.mpr ⟨?_, hsecond⟩, ?_⟩
  · intro next _
    rw [htoken, Bool.false_and]
  · intro last _ next hnext
    obtain rfl : token = next := by simpa using hnext
    rw [htoken, Bool.and_false]

theorem Apart.cons {token : Token} {row : List Token} (htoken : token.isScalar = false)
    (hrow : Apart row) : Apart (token :: row) :=
  Apart.append_cons .nil htoken hrow

theorem Apart.intercalate_comma {rows : List (List Token)} (h : ∀ row ∈ rows, Apart row) :
    Apart ([.comma].intercalate rows) := by
  induction rows with
  | nil => exact .nil
  | cons first rest ih =>
      have hfirst : Apart first := h first List.mem_cons_self
      cases rest with
      | nil => rwa [List.intercalate_singleton]
      | cons second others =>
          have hrest : Apart ([.comma].intercalate (second :: others)) :=
            ih fun row hrow ↦ h row (List.mem_cons_of_mem first hrow)
          rw [List.intercalate_cons_cons, List.append_assoc, List.singleton_append]
          exact hfirst.append_cons rfl hrest

theorem apart_tokens {depth : Nat} {v : Value} (h : v.IsDocument depth) : Apart v.tokens := by
  induction h with
  | null => exact .singleton _
  | bool => exact .singleton _
  | int => exact .singleton _
  | double => exact .singleton _
  | text => exact .singleton _
  | @list depth items hitems ih =>
      rw [Value.tokens, Value.itemTokens_eq_map]
      have hitems : Apart ([.comma].intercalate (items.map Value.tokens)) :=
        Apart.intercalate_comma (List.forall_mem_map.mpr ih)
      exact .cons rfl (hitems.append_cons rfl .nil)
  | @object depth fields hdistinct hfields ih =>
      rw [Value.tokens, Value.fieldTokens_eq_map]
      have hfields : Apart ([.comma].intercalate (fields.map fun field ↦
          .text field.1 :: .colon :: field.2.tokens)) :=
        Apart.intercalate_comma (List.forall_mem_map.mpr fun field hfield ↦
          .cons rfl (.cons rfl (ih field hfield)))
      exact .cons rfl (hfields.append_cons rfl .nil)

end FidelityGate.Json
