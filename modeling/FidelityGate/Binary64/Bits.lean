import FidelityGate.Binary64.Rounding

/-!
# Interchange bits

The 64 bits of a double as a number: the sign bit, then the rank.  The ranks from
`Binary64.rankBound` on stand for the infinity and, above it, for `nan`.
-/

namespace FidelityGate.Binary64

def toBits : Binary64 → Nat
  | .nan => rankBound + Nat.pow 2 51
  | .infinite negative => (if negative then Nat.pow 2 63 else 0) + rankBound
  | .finite negative rank _ => (if negative then Nat.pow 2 63 else 0) + rank

def ofBits (bits : Nat) : Binary64 :=
  let rank := bits % Nat.pow 2 63
  if rank ≤ rankBound then ofRank (Nat.pow 2 63 ≤ bits) rank else .nan

end FidelityGate.Binary64
