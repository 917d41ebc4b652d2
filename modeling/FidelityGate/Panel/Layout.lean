import FidelityGate.Panel.Content
import FidelityGate.Panel.Wrapping
import FidelityGate.Text.LineEnd

/-!
# The layout of a panel

The content of a panel is set inside a frame that is as wide as its widest line, up to the width
of the screen.  A line feed in a line begins another one, and controls are left out.  Lines are
broken to the width of the frame.  A tab takes no column when the width is found, so that a line
with tabs may be broken although the screen is wide enough.
-/

namespace FidelityGate.Panel

/-- A screen: how wide it is, and whether it shows inks. -/
structure Screen where
  width : Nat
  inks : Bool

def terminal : Screen :=
  ⟨100, true⟩

def page : Screen :=
  ⟨80, false⟩

/-! ## Writing -/

def Ink.code : Ink → String
  | .faint => "2"
  | .good => "1;32"
  | .bad => "1;31"
  | .warning => "33"

/-- A text in an ink; an empty text is left out. -/
def paint (screen : Screen) (code : String) (text : List Char) : String :=
  if text.isEmpty then ""
  else if screen.inks then "\x1b[" ++ code ++ "m" ++ String.ofList text ++ "\x1b[0m"
  else String.ofList text

def writeLine (screen : Screen) (line : Line) : String :=
  String.join (line.map fun piece ↦ paint screen piece.ink.code piece.text)

def borderCode (passed : Bool) : String :=
  if passed then "32" else "31"

def row (screen : Screen) (border : String) (inner : Nat) (line : Line) : String :=
  let bar := paint screen border ['│']
  let padding := String.ofList (List.replicate (inner - Text.columns (plain line)) ' ')
  bar ++ " " ++ writeLine screen line ++ padding ++ " " ++ bar

def title : String := "Fidelity gate "

def outcome (passed : Bool) : String :=
  if passed then "PASSED" else "FAILED"

/-- The top of the frame: the title stands in the middle, or half a column left of it. -/
def topRow (screen : Screen) (passed : Bool) (inner : Nat) : String :=
  let border := borderCode passed
  let heading := "1;" ++ border
  let rule := inner - (title.length + 2 + (outcome passed).length)
  let left := rule / 2
  String.join [
    paint screen border ['╭', '─'],
    paint screen border (List.replicate left '─'),
    paint screen border [' '],
    paint screen heading title.toList,
    paint screen heading (outcome passed).toList,
    paint screen border [' '],
    paint screen border (List.replicate (rule - left) '─'),
    paint screen border ['─', '╮']]

def bottomRow (screen : Screen) (passed : Bool) (inner : Nat) : String :=
  paint screen (borderCode passed) ('╰' :: (List.replicate (inner + 2) '─' ++ ['╯']))

/-- The columns of the widest of some lines.  Every kind of line end counts as one here. -/
def widest (lines : List Line) : Nat :=
  (lines.flatMap fun line ↦ (Text.linesOf (plain line)).map Text.columns).foldl max 0

def rows (screen : Screen) (content : Content) : List String :=
  let lines := content.lines.flatMap fun line ↦ splitFeeds (dropControls line)
  let inner := min (screen.width - 4) (widest lines)
  let border := borderCode content.passed
  topRow screen content.passed inner ::
    ((lines.flatMap (wrap inner)).map (row screen border inner) ++
      [bottomRow screen content.passed inner])

def rowsOf (screen : Screen) (verdict : Verdict) : Except Fault (List String) :=
  (content verdict).map (rows screen)

end FidelityGate.Panel
