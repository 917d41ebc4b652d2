import FidelityGate.Panel.Line
import FidelityGate.Text.Blank

/-!
# Breaking lines

A line that is too wide is broken before a word; a word that is wider than a line is folded.  The
blanks behind a word stay with it, and of those at the end of a line only as many are dropped as
the line has characters beyond the width.  A line that is still too wide is cut.
-/

namespace FidelityGate.Panel

open Text (isBlank columns columnsOf)

/-! ## Words -/

/-- The words of a line, each with the blanks behind it; the first one also keeps those before
it. -/
def words (line : List Char) : List (List Char) :=
  let leading := line.takeWhile isBlank
  match (line.dropWhile isBlank).splitBy fun c next ↦ !isBlank c || isBlank next with
  | [] => []
  | word :: rest => (leading ++ word) :: rest

def trailingBlanks (cs : List Char) : Nat :=
  (cs.reverse.takeWhile isBlank).length

def visible (word : List Char) : List Char :=
  (word.reverse.dropWhile isBlank).reverse

/-! ## Places -/

/-- Folds a word whose next character is put at `column` and stands at `place`: the places of the
characters that begin another line, and the column behind the word. -/
def fold (width : Nat) : (place column : Nat) → List Char → List Nat × Nat
  | _, column, [] => ([], column)
  | place, column, c :: rest =>
    let reached := column + columnsOf c
    if width < reached then
      let (places, last) := fold width (place + 1) (columnsOf c) rest
      (place :: places, last)
    else fold width (place + 1) reached rest

/-- The places before which a line is broken.  The next word would be put at `column` of the line
under way and is at `start` of the whole line. -/
def breaks (width : Nat) : (column start : Nat) → List (List Char) → List Nat
  | _, _, [] => []
  | column, start, word :: rest =>
    let next := start + word.length
    if column + columns (visible word) ≤ width then
      breaks width (column + columns word) next rest
    else if width < columns (visible word) then
      let (places, last) := fold width start 0 word
      (if start = 0 then places else start :: places) ++ breaks width last next rest
    else start :: breaks width (columns word) next rest

/-! ## Fitting -/

/-- Drops blanks at the end, but no more than the line has characters beyond the width. -/
def dropExcess (width : Nat) (line : Line) : Line :=
  let length := (plain line).length
  let excess := min (length - width) (trailingBlanks (plain line))
  (splitPieces (length - excess) line).1

/-- Where a text is cut that is wider than the width: how many characters are kept, and whether
the last of them is replaced by a blank because half of it reaches beyond the width.  Of the cuts
that fill the width the one is taken that halving the range from `low` to `high` meets first. -/
def cutAt (width : Nat) (text : List Char) : (fuel low high : Nat) → Nat × Bool
  | 0, low, _ => (low, false)
  | fuel + 1, low, high =>
    let middle := (low + high) / 2
    let reached := columns (text.take (middle + 1))
    if reached = width + 1 && text[middle]?.any (columnsOf · = 2) then (middle + 1, true)
    else if reached = width then (middle + 1, false)
    else if width < reached then cutAt width text fuel low middle
    else cutAt width text fuel middle high

def blankLast (line : Line) : Line :=
  line.modify (line.length - 1) fun piece ↦ { piece with text := piece.text.dropLast ++ [' '] }

def crop (width : Nat) (line : Line) : Line :=
  let text := plain line
  if columns text ≤ width then line
  else
    let (kept, halved) := cutAt width text text.length 0 text.length
    let first := (splitPieces kept line).1
    if halved then blankLast first else first

def wrap (width : Nat) (line : Line) : List Line :=
  let expanded := expandTabs 0 line
  (divide 0 (breaks width 0 0 (words (plain expanded))) expanded).map fun part ↦
    crop width (dropExcess width part)

end FidelityGate.Panel
