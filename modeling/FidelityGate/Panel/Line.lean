import FidelityGate.Text.Columns

/-!
# Lines of pieces

A line of a panel is a row of pieces, each shown in one ink.  A line is cut without a loss: a piece
that is cut goes on in its ink.
-/

namespace FidelityGate.Panel

inductive Ink where
  | faint
  | good
  | bad
  | warning
  deriving DecidableEq

structure Piece where
  ink : Ink
  text : List Char
  deriving DecidableEq

abbrev Line := List Piece

def plain (line : Line) : List Char :=
  line.flatMap (·.text)

/-! ## Cutting by length -/

def splitPieces : (count : Nat) → Line → Line × Line
  | 0, line => ([], line)
  | _ + 1, [] => ([], [])
  | count + 1, piece :: rest =>
    if count + 1 < piece.text.length then
      ([{ piece with text := piece.text.take (count + 1) }],
        { piece with text := piece.text.drop (count + 1) } :: rest)
    else
      let (first, second) := splitPieces (count + 1 - piece.text.length) rest
      (piece :: first, second)

/-- Cuts a line at places that are counted from its start. -/
def divide : (start : Nat) → (places : List Nat) → Line → List Line
  | _, [], line => [line]
  | start, place :: places, line =>
    let (first, second) := splitPieces (place - start) line
    first :: divide place places second

/-! ## Controls and line feeds -/

/-- The controls that would ring a bell or move the cursor, as ranges of code points. -/
def controlRanges : List (Nat × Nat) :=
  [(0x07, 0x08), (0x0b, 0x0d)]

def dropControls (line : Line) : Line :=
  line.map fun piece ↦
    { piece with text := piece.text.filter fun c ↦ !Text.isIn controlRanges c }

/-- Puts the parts of a piece before some lines; each part but the last is the end of a line. -/
def prepend (ink : Ink) : List (List Char) → List Line → List Line
  | [], lines => lines
  | [text], [] => [[⟨ink, text⟩]]
  | [text], line :: lines => (⟨ink, text⟩ :: line) :: lines
  | text :: texts, lines => [⟨ink, text⟩] :: prepend ink texts lines

/-- The lines that a line with line feeds consists of. -/
def splitFeeds (line : Line) : List Line :=
  line.foldr (fun piece lines ↦ prepend piece.ink (piece.text.splitOnP (· = '\n')) lines)
    [[]]

/-! ## Tabs -/

def tabWidth : Nat := 8

/-- Ends each part but the last with the blanks that lead to the next tab stop. -/
def fillTabs : (column : Nat) → List (List Char) → List (List Char)
  | _, [] => []
  | _, [text] => [text]
  | column, text :: texts =>
    let reached := column + Text.columns text
    let blanks := tabWidth - reached % tabWidth
    (text ++ List.replicate blanks ' ') :: fillTabs (reached + blanks) texts

/-- Writes the tabs of a line as blanks.  A piece ends at each tab, and the next one begins. -/
def expandTabs : (column : Nat) → Line → Line
  | _, [] => []
  | column, piece :: rest =>
    let texts := fillTabs column (piece.text.splitOnP (· = '\t'))
    texts.map (fun text ↦ ⟨piece.ink, text⟩) ++
      expandTabs (column + Text.columns texts.flatten) rest

end FidelityGate.Panel
