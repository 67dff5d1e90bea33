/-!
# Ranges of code points

A character class of the Unicode standard is held as its ascending, disjoint ranges of code
points. Membership reads the ranges from the front and stops at the first that begins too late.
-/

namespace ShapeScene.Text

/-- First and last code point of a range. -/
abbrev CodeRange := Nat × Nat

/-- Whether a code point lies in one of the ascending ranges. -/
def CodeRange.cover : List CodeRange → Nat → Bool
  | [], _ => false
  | (first, last) :: later, code =>
    if code < first then false
    else if code ≤ last then true
    else cover later code

end ShapeScene.Text
