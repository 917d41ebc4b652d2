import FidelityGate.Json.Token
import FidelityGate.Proofs.Numerals
import Mathlib.Data.List.Forall2

/-!
# Texts that denote a value

The writing side of documents, apart from how they are read.  A value is a row of tokens, and a text
denotes the value if it spells these tokens in turn, with any white space around them.  A character
of a quoted text may be spelled in several ways, a number by every literal that denotes it.
-/

namespace FidelityGate

open Text

namespace Json

/-! ## Spelling -/

def IsSpace (cs : List Char) : Prop :=
  ∀ c ∈ cs, c ∈ [' ', '\t', '\n', '\r']

/-- Hexadecimal digits have their letters in either case. -/
def IsHexDigit (c : Char) (n : Nat) : Prop :=
  n < 16 ∧ (c = Nat.digitChar n ∨ c = (Nat.digitChar n).toUpper)

instance (c : Char) (n : Nat) : Decidable (IsHexDigit c n) :=
  inferInstanceAs (Decidable (n < 16 ∧ (c = Nat.digitChar n ∨ c = (Nat.digitChar n).toUpper)))

instance (cs : List Char) : Decidable (IsSpace cs) :=
  decidable_of_iff (cs.all (· ∈ [' ', '\t', '\n', '\r']) = true) (by simp [IsSpace])

/-- Four hexadecimal digits for 16 bits. -/
def SpellsUnit (cs : List Char) (unit : Nat) : Prop :=
  List.Forall₂ IsHexDigit cs [unit / 4096, unit / 256 % 16, unit / 16 % 16, unit % 16]

/-- The letters that may follow a backslash, and the characters they stand for. -/
def shortEscapes : List (Char × Char) :=
  [('"', '"'), ('\\', '\\'), ('/', '/'), ('b', '\x08'), ('f', '\x0c'), ('n', '\n'), ('r', '\r'),
    ('t', '\t')]

/-- The ways to spell a character inside a quoted text: as it stands, by a letter, by its code
point, or by the two halves of its code point beyond the first plane. -/
inductive SpellsChar : List Char → Char → Prop where
  | plain {c : Char} : 0x20 ≤ c.toNat → c ≠ '"' → c ≠ '\\' → SpellsChar [c] c
  | letter {letter c : Char} : (letter, c) ∈ shortEscapes → SpellsChar ['\\', letter] c
  | unit {c : Char} {cs : List Char} : SpellsUnit cs c.toNat → SpellsChar ('\\' :: 'u' :: cs) c
  | pair {c : Char} {high low : Nat} {hs ls : List Char} : high < 0x400 → low < 0x400 →
      c.toNat = 0x10000 + high * 0x400 + low → SpellsUnit hs (0xd800 + high) →
        SpellsUnit ls (0xdc00 + low) → SpellsChar ('\\' :: 'u' :: hs ++ '\\' :: 'u' :: ls) c

def marks : List (Char × Token) :=
  [('[', .openList), (']', .closeList), ('{', .openObject), ('}', .closeObject), (',', .comma),
    (':', .colon)]

def words : List (String × Value) :=
  [("null", .null), ("true", .bool true), ("false", .bool false), ("NaN", .double .nan),
    ("Infinity", .double (.infinite false)), ("-Infinity", .double (.infinite true))]

end Json

/-- A literal without point and exponent denotes an integer, every other one the nearest double. -/
def Numeral.value (numeral : Numeral) : Value :=
  if numeral.isWhole then .int numeral.toInt
  else .double (.nearestTo numeral.sign.isMinus numeral.magnitude)

namespace Json

/-- The ways to spell a token, where a number has at most so many characters. -/
inductive SpellsToken (longest : Nat) : List Char → Token → Prop where
  | mark {c : Char} {token : Token} : (c, token) ∈ marks → SpellsToken longest [c] token
  | text {pieces : List (List Char)} {s : String} : List.Forall₂ SpellsChar pieces s.toList →
      SpellsToken longest ('"' :: pieces.flatten ++ ['"']) (.text s)
  | word {word : String} {v : Value} : (word, v) ∈ words →
      SpellsToken longest word.toList (.scalar v)
  | number {numeral : Numeral} {mark : Char} : numeral.IsLiteral → mark = 'e' ∨ mark = 'E' →
      (numeral.write mark).length ≤ longest →
        SpellsToken longest (numeral.write mark) (.scalar numeral.value)

/-- The ways to spell a row of tokens. -/
inductive Spells (longest : Nat) : List Char → List Token → Prop where
  | nil {space : List Char} : IsSpace space → Spells longest space []
  | cons {space cs rest : List Char} {token : Token} {tokens : List Token} : IsSpace space →
      SpellsToken longest cs token → Spells longest rest tokens →
        Spells longest (space ++ cs ++ rest) (token :: tokens)

variable {longest : Nat}

/-- A text without quotes, backslashes and control characters may stand as it is. -/
theorem SpellsToken.plain {s : String}
    (h : s.toList.all fun c ↦ 0x20 ≤ c.toNat ∧ c ≠ '"' ∧ c ≠ '\\') :
    SpellsToken longest ('"' :: s.toList ++ ['"']) (.text s) := by
  have hpieces : List.Forall₂ SpellsChar (s.toList.map ([·])) s.toList := by
    rw [List.forall₂_map_left_iff, List.forall₂_same]
    intro c hc
    obtain ⟨hcontrol, hquote, hslash⟩ := of_decide_eq_true (List.all_eq_true.mp h c hc)
    exact .plain hcontrol hquote hslash
  have hflatten : (s.toList.map ([·])).flatten = s.toList := by
    rw [← List.flatMap_def, List.flatMap_singleton']
  have htext : SpellsToken longest _ (.text s) := .text hpieces
  rwa [hflatten] at htext

theorem SpellsToken.digits {ds : List Char} (hds : IsDigits ds)
    (hleading : ds.head? = some '0' → ds = ['0']) (hlength : ds.length ≤ longest) :
    SpellsToken longest ds (.scalar (.int (digitsValue ds))) := by
  have hliteral : Numeral.IsLiteral ⟨.none, ds, none, none⟩ :=
    ⟨by simp, hds, hleading, by simp, by simp⟩
  have hwrite : Numeral.write 'e' ⟨.none, ds, none, none⟩ = ds := by
    simp [Numeral.write, Sign.write, Numeral.writeFraction, Numeral.writeExponent]
  have hnumber : SpellsToken longest (Numeral.write 'e' ⟨.none, ds, none, none⟩) _ :=
    .number hliteral (.inl rfl) (by rwa [hwrite])
  rwa [hwrite] at hnumber

end Json

/-! ## The tokens of a value -/

namespace Value

open Json

mutual

/-- The tokens of a value, and none for a value that no document has. -/
def tokens : Value → List Token
  | .null => [.scalar .null]
  | .bool b => [.scalar (.bool b)]
  | .int n => [.scalar (.int n)]
  | .double x => [.scalar (.double x)]
  | .text s => [.text s]
  | .list items => .openList :: ([.comma].intercalate (itemTokens items) ++ [.closeList])
  | .object fields => .openObject :: ([.comma].intercalate (fieldTokens fields) ++ [.closeObject])
  | .entry _ => []
  | .stream _ => []
  | .label _ => []

def itemTokens : List Value → List (List Token)
  | [] => []
  | v :: rest => v.tokens :: itemTokens rest

def fieldTokens : List (String × Value) → List (List Token)
  | [] => []
  | (key, v) :: rest => (.text key :: .colon :: v.tokens) :: fieldTokens rest

end

theorem itemTokens_eq_map (items : List Value) : itemTokens items = items.map tokens := by
  induction items with
  | nil => rfl
  | cons v rest ih => rw [itemTokens, ih, List.map_cons]

theorem fieldTokens_eq_map (fields : List (String × Value)) :
    fieldTokens fields = fields.map fun field ↦ .text field.1 :: .colon :: field.2.tokens := by
  induction fields with
  | nil => rfl
  | cons field rest ih => rw [fieldTokens, ih, List.map_cons]

/-- A value of a document, with integers in the range of doubles, whose containers nest at most so
deep. -/
inductive IsDocument : Nat → Value → Prop where
  | null {depth : Nat} : IsDocument depth .null
  | bool {depth : Nat} {b : Bool} : IsDocument depth (.bool b)
  | int {depth : Nat} {n : Int} : n.natAbs < 2 ^ 1023 → IsDocument depth (.int n)
  | double {depth : Nat} {x : Binary64} : IsDocument depth (.double x)
  | text {depth : Nat} {s : String} : IsDocument depth (.text s)
  | list {depth : Nat} {items : List Value} : (∀ item ∈ items, IsDocument depth item) →
      IsDocument (depth + 1) (.list items)
  | object {depth : Nat} {fields : List (String × Value)} : (fields.map (·.1)).Nodup →
      (∀ field ∈ fields, IsDocument depth field.2) → IsDocument (depth + 1) (.object fields)

end Value

/-- A text spells the tokens of a value. -/
def Json.Denotes (longest : Nat) (s : String) (v : Value) : Prop :=
  Spells longest s.toList v.tokens

end FidelityGate
