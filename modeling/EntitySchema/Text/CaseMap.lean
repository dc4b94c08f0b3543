import EntitySchema.Text.CaseTables

/-!
# Lowercase and uppercase text

`lowerChar` and `upperChar` map one character to the characters of its full Unicode case
mapping. `toLowercase` maps a whole text and gives a capital sigma its final form `ς` at the
end of a word: when a cased letter comes before it and none after it, characters that case
ignores being passed over on both sides.
-/

namespace EntitySchema.Text

/-- Finds the run holding `c` among runs `[lo, hi)` sorted by first code point. -/
def searchRuns (runs : Array (Nat × Nat × Int × Nat)) (c : Nat) (lo hi : Nat) :
    Option (Nat × Nat × Int × Nat) :=
  if _h : lo < hi then
    let mid := (lo + hi) / 2
    match runs[mid]? with
    | none => none
    | some r =>
      if c < r.1 then searchRuns runs c lo mid
      else if r.2.1 < c then searchRuns runs c (mid + 1) hi
      else some r
  else none
termination_by hi - lo

/-- The image of `c` under a table of runs, if one covers it. -/
def mapByRuns (runs : Array (Nat × Nat × Int × Nat)) (c : Char) : Option Char :=
  match searchRuns runs c.toNat 0 runs.size with
  | some (first, _, delta, step) =>
    if (c.toNat - first) % step == 0 then some (Char.ofNat (c.toNat + delta).toNat) else none
  | none => none

def lowerChar (c : Char) : List Char :=
  match lowerSpecial.lookup c.toNat with
  | some cs => cs.map Char.ofNat
  | none => [(mapByRuns lowerRuns c).getD c]

def upperChar (c : Char) : List Char :=
  match upperSpecial.lookup c.toNat with
  | some cs => cs.map Char.ofNat
  | none => [(mapByRuns upperRuns c).getD c]

def isCased (c : Char) : Bool := inRanges casedRanges c.toNat

def isCaseIgnorable (c : Char) : Bool := inRanges caseIgnorableRanges c.toNat

/-- Whether the first character of `cs` that case does not ignore is cased. -/
def casedAfterIgnorable (cs : List Char) : Bool :=
  match cs.dropWhile isCaseIgnorable with
  | c :: _ => isCased c
  | [] => false

/-- Lowercases `rest`, `before` holding the characters already passed, last first. -/
def lowerAux (before : List Char) : List Char → List Char
  | [] => []
  | c :: rest =>
    let mapped :=
      if c == 'Σ' then
        if casedAfterIgnorable before && !casedAfterIgnorable rest then ['ς'] else ['σ']
      else lowerChar c
    mapped ++ lowerAux (c :: before) rest

/-- The text in lowercase, with the final form of sigma at the end of a word. -/
def toLowercase (s : String) : String := String.ofList (lowerAux [] s.toList)

def toUppercase (s : String) : String := String.ofList (s.toList.flatMap upperChar)

end EntitySchema.Text
