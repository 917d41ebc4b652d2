import FidelityGate.Text.Numeral
import FidelityGate.Value

/-!
# Tokens of a document

The first half of reading a document: its characters become brackets, commas, colons, quoted texts
and scalars.  A scanner goes through the characters once and is always between two tokens, inside a
bare run of letters and digits, or inside a quoted text.  What a bare run denotes is settled when it
ends, so numbers and words need no look-ahead.
-/

namespace FidelityGate.Json

/-- How deep a document may nest, and how long the integer part of a number may be. -/
structure Limits where
  depth : Nat
  digits : Nat

inductive Token where
  | openList
  | closeList
  | openObject
  | closeObject
  | comma
  | colon
  | text (s : String)
  | scalar (v : Value)

/-- The place inside a quoted text.  A high surrogate has to be followed by a low one. -/
inductive Quoted where
  | plain
  | escape
  | hex (high : Option Nat) (left : Nat) (value : Nat)
  | pairSlash (high : Nat)
  | pairLetter (high : Nat)
  deriving DecidableEq

/-- The place inside a document.  The characters of the token under way are kept last first. -/
inductive Place where
  | between
  | bare (reversed : List Char)
  | quoted (reversed : List Char) (inside : Quoted)
  deriving DecidableEq

/-- A place together with the tokens before it, last first. -/
structure Scanner where
  place : Place
  tokens : List Token

/-- The characters of numbers and words. -/
def isBare (c : Char) : Bool :=
  c.isAlphanum || c = '+' || c = '-' || c = '.'

/-- The number of characters that count against the limit on digits. -/
def integerLength (numeral : Numeral) : Nat :=
  numeral.whole.length + (if numeral.sign.isMinus then 1 else 0)

def numberValue? (limits : Limits) (cs : List Char) : Option Value := do
  let numeral ← Numeral.scan? cs
  if !numeral.isStrict || limits.digits < integerLength numeral then none
  else if numeral.isWhole then some (.int numeral.toInt)
  else some (.double numeral.toBinary64)

/-- The scalar that a bare run denotes. -/
def bareValue? (limits : Limits) (cs : List Char) : Option Value :=
  match String.ofList cs with
  | "null" => some .null
  | "true" => some (.bool true)
  | "false" => some (.bool false)
  | "NaN" => some (.double .nan)
  | "Infinity" => some (.double (.infinite false))
  | "-Infinity" => some (.double (.infinite true))
  | _ => numberValue? limits cs

/-- The character between two tokens starts a token, is one, or is space. -/
def startToken (tokens : List Token) : Char → Option Scanner
  | '[' => some ⟨.between, .openList :: tokens⟩
  | ']' => some ⟨.between, .closeList :: tokens⟩
  | '{' => some ⟨.between, .openObject :: tokens⟩
  | '}' => some ⟨.between, .closeObject :: tokens⟩
  | ',' => some ⟨.between, .comma :: tokens⟩
  | ':' => some ⟨.between, .colon :: tokens⟩
  | '"' => some ⟨.quoted [] .plain, tokens⟩
  | ' ' => some ⟨.between, tokens⟩
  | '\t' => some ⟨.between, tokens⟩
  | '\n' => some ⟨.between, tokens⟩
  | '\r' => some ⟨.between, tokens⟩
  | c => if isBare c then some ⟨.bare [c], tokens⟩ else none

def hexDigit? (c : Char) : Option Nat :=
  if '0' ≤ c && c ≤ '9' then some (c.toNat - '0'.toNat)
  else if 'a' ≤ c && c ≤ 'f' then some (c.toNat - 'a'.toNat + 10)
  else if 'A' ≤ c && c ≤ 'F' then some (c.toNat - 'A'.toNat + 10)
  else none

def isHigh (unit : Nat) : Bool :=
  0xd800 ≤ unit && unit < 0xdc00

def isLow (unit : Nat) : Bool :=
  0xdc00 ≤ unit && unit < 0xe000

/-- A finished `\u` escape: a character, the first half of a pair, or an error. -/
def finishHex (reversed : List Char) (high : Option Nat) (unit : Nat) : Option Place :=
  match high with
  | some first =>
    if isLow unit then
      some (.quoted
        (Char.ofNat (0x10000 + (first - 0xd800) * 0x400 + (unit - 0xdc00)) :: reversed) .plain)
    else none
  | none =>
    if isHigh unit then some (.quoted reversed (.pairSlash unit))
    else if isLow unit then none
    else some (.quoted (Char.ofNat unit :: reversed) .plain)

/-- The character that a letter after a backslash stands for. -/
def escaped? : Char → Option Char
  | '"' => some '"'
  | '\\' => some '\\'
  | '/' => some '/'
  | 'b' => some '\x08'
  | 'f' => some '\x0c'
  | 'n' => some '\n'
  | 'r' => some '\r'
  | 't' => some '\t'
  | _ => none

/-- One character of a quoted text, the closing quote apart. -/
def quotedStep (reversed : List Char) : Quoted → Char → Option Place
  | .plain, c =>
    if c = '\\' then some (.quoted reversed .escape)
    else if c.toNat < 0x20 then none
    else some (.quoted (c :: reversed) .plain)
  | .escape, c =>
    if c = 'u' then some (.quoted reversed (.hex none 3 0))
    else (escaped? c).map fun meant ↦ .quoted (meant :: reversed) .plain
  | .hex high left value, c => (hexDigit? c).bind fun digit ↦
    match left with
    | 0 => finishHex reversed high (16 * value + digit)
    | left + 1 => some (.quoted reversed (.hex high left (16 * value + digit)))
  | .pairSlash high, c => if c = '\\' then some (.quoted reversed (.pairLetter high)) else none
  | .pairLetter high, c => if c = 'u' then some (.quoted reversed (.hex (some high) 3 0)) else none

def step (limits : Limits) : Scanner → Char → Option Scanner
  | ⟨.between, tokens⟩, c => startToken tokens c
  | ⟨.bare reversed, tokens⟩, c =>
    if isBare c then some ⟨.bare (c :: reversed), tokens⟩
    else (bareValue? limits reversed.reverse).bind fun v ↦ startToken (.scalar v :: tokens) c
  | ⟨.quoted reversed .plain, tokens⟩, '"' =>
    some ⟨.between, .text (String.ofList reversed.reverse) :: tokens⟩
  | ⟨.quoted reversed inside, tokens⟩, c =>
    (quotedStep reversed inside c).map fun place ↦ ⟨place, tokens⟩

/-- The tokens at the end of the characters; a quoted text must be closed by then. -/
def finish? (limits : Limits) : Scanner → Option (List Token)
  | ⟨.between, tokens⟩ => some tokens.reverse
  | ⟨.bare reversed, tokens⟩ =>
    (bareValue? limits reversed.reverse).map fun v ↦ (Token.scalar v :: tokens).reverse
  | ⟨.quoted _ _, _⟩ => none

def scanFrom (limits : Limits) (scanner : Scanner) : List Char → Option (List Token)
  | [] => finish? limits scanner
  | c :: rest =>
    match step limits scanner c with
    | none => none
    | some next => scanFrom limits next rest

def tokens? (limits : Limits) (cs : List Char) : Option (List Token) :=
  scanFrom limits ⟨.between, []⟩ cs

end FidelityGate.Json
