/-
# Sets of code points

Character classes of Unicode are unions of a few hundred intervals.  A class is held as the list
of them; membership is a walk along the list.  Where a class takes every other code point of an
interval, the list holds progressions instead.
-/
namespace ApiPages.Text

/-- Whether a code point lies in one of the closed intervals. -/
def inIntervals (intervals : List (Nat × Nat)) (n : Nat) : Bool :=
  intervals.any fun (first, last) => first ≤ n && n ≤ last

/-- Whether a code point lies on one of the progressions `first, first + step, …, last`. -/
def inProgressions (progressions : List (Nat × Nat × Nat)) (n : Nat) : Bool :=
  progressions.any fun (first, last, step) => first ≤ n && n ≤ last && (n - first) % step == 0

end ApiPages.Text
