/-!
Membership of a code point in a table of closed ranges listed in increasing order.
-/

namespace Stencil.Text

def inRanges (code : Nat) : List (Nat × Nat) → Bool
  | [] => false
  | (first, last) :: rest =>
      if code < first then false
      else if code ≤ last then true
      else inRanges code rest

end Stencil.Text
