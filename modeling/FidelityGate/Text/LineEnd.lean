import FidelityGate.Text.Ranges

/-!
# Line ends

The characters that end a line of text.  A text has one line more than it has line ends.
-/

namespace FidelityGate.Text

def lineEndRanges : List (Nat × Nat) :=
  [(0x0a, 0x0d), (0x1c, 0x1e), (0x85, 0x85), (0x2028, 0x2029)]

def isLineEnd (c : Char) : Bool :=
  isIn lineEndRanges c

def linesOf (cs : List Char) : List (List Char) :=
  cs.splitOnP isLineEnd

end FidelityGate.Text
