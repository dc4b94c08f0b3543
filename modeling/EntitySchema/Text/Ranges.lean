/-!
# Tables of code point ranges

A character property is kept as a sorted array of disjoint inclusive ranges. `inRanges` looks a
code point up by halving the part of the array that can still hold it; `memRanges` is the plain
statement it decides.
-/

namespace EntitySchema.Text

/-- The plain meaning of a range table: some range holds `c`. -/
def memRanges (table : Array (Nat × Nat)) (c : Nat) : Prop :=
  ∃ r ∈ table.toList, r.1 ≤ c ∧ c ≤ r.2

/-- Looks for `c` among the ranges with index in `[lo, hi)`, the ranges being sorted and
disjoint. -/
def searchRanges (table : Array (Nat × Nat)) (c : Nat) (lo hi : Nat) : Bool :=
  if _h : lo < hi then
    let mid := (lo + hi) / 2
    match table[mid]? with
    | none => false
    | some (a, b) =>
      if c < a then searchRanges table c lo mid
      else if b < c then searchRanges table c (mid + 1) hi
      else true
  else false
termination_by hi - lo

/-- Whether a sorted table of disjoint ranges holds the code point `c`. -/
def inRanges (table : Array (Nat × Nat)) (c : Nat) : Bool :=
  searchRanges table c 0 table.size

end EntitySchema.Text
