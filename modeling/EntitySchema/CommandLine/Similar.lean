/-!
# Similar names

When a word on the command line names nothing, the names it resembles are suggested. Two names
resemble each other when their Jaro similarity exceeds `0.7`: with `m` characters that match
within half the longer length of each other, and `t` half the number of matched characters
that stand in a different order, the similarity of `a` and `b` is
`(m / |a| + m / |b| + (m - t) / m) / 3`, and `0` when nothing matches.
-/

namespace EntitySchema.CommandLine

/-- Marks the characters of `a` and `b` that match: each character of `a` takes the first
unmarked equal character of `b` within `range` positions of its own. -/
def matchMarks (a b : Array Char) (range : Nat) : Array Bool × Array Bool :=
  (List.range a.size).foldl
    (fun (marks : Array Bool × Array Bool) i =>
      let (ma, mb) := marks
      let lo := i - range
      let hi := min b.size (i + range + 1)
      let c := a.getD i ' '
      match (List.range hi).find? (fun j => lo ≤ j && b.getD j ' ' == c && !mb.getD j true) with
      | some j => (ma.set! i true, mb.set! j true)
      | none => (ma, mb))
    (Array.replicate a.size false, Array.replicate b.size false)

def marked (s : Array Char) (marks : Array Bool) : List Char :=
  (s.toList.zip marks.toList).filterMap fun (c, keep) => if keep then some c else none

/-- The Jaro similarity of two names, from `0` for nothing in common to `1` for equal names. -/
def jaro (a b : String) : Float :=
  let xs := a.toList.toArray
  let ys := b.toList.toArray
  if xs.size == 0 && ys.size == 0 then 1.0
  else if xs.size == 0 || ys.size == 0 then 0.0
  else
    let range := max xs.size ys.size / 2 - 1
    let (ma, mb) := matchMarks xs ys range
    let left := marked xs ma
    let right := marked ys mb
    let m := left.length
    if m == 0 then 0.0
    else
      let t := ((left.zip right).filter fun (c, d) => c != d).length / 2
      (m.toFloat / xs.size.toFloat + m.toFloat / ys.size.toFloat +
        (m - t).toFloat / m.toFloat) / 3.0

/-- Inserts a scored name before the first entry scored higher, so that equal scores keep
their order. -/
def insertByScore (entry : Float × String) : List (Float × String) → List (Float × String)
  | [] => [entry]
  | e :: rest => if entry.1 < e.1 then entry :: e :: rest else e :: insertByScore entry rest

def similarNames (word : String) (names : List String) : List String :=
  let scored := (names.map fun n => (jaro word n, n)).filter fun (score, _) => score > 0.7
  (scored.foldl (fun acc e => insertByScore e acc) []).map (·.2)

def mostSimilar? (word : String) (names : List String) : Option String :=
  (similarNames word names).getLast?

end EntitySchema.CommandLine
