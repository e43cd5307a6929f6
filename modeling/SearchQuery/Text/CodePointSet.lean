/-!
# Sets of code points

A Unicode property is kept as an inversion list: the ascending code points at which membership
changes, starting outside the set. `[a, b, c]` holds `a … b - 1` and everything from `c` up.
-/

namespace SearchQuery.Text

/-- A set of code points, given by the ascending code points at which membership changes. -/
structure CodePointSet where
  bounds : List Nat

namespace CodePointSet

/-- Membership of `n`, when the code points before the first bound are in the set iff `inside`. -/
def containsFrom (inside : Bool) (n : Nat) : List Nat → Bool
  | [] => inside
  | bound :: bounds => if n < bound then inside else containsFrom (!inside) n bounds

/-- Whether the set holds the code point of `c`. -/
def contains (s : CodePointSet) (c : Char) : Bool := containsFrom false c.toNat s.bounds

@[simp] theorem contains_empty (c : Char) : contains ⟨[]⟩ c = false := rfl

/-- A single pair of bounds is a half-open interval. -/
theorem contains_interval (a b : Nat) (c : Char) :
    contains ⟨[a, b]⟩ c = (decide (a ≤ c.toNat) && decide (c.toNat < max a b)) := by
  simp only [contains, containsFrom]
  grind

end CodePointSet

end SearchQuery.Text
