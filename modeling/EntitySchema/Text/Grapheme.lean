import EntitySchema.Text.GraphemeTables

/-!
# Grapheme clusters

`clusters` cuts a text into user-perceived characters by the extended rules of Unicode text
segmentation: a carriage return keeps its line feed, controls stand alone, the jamo of a Hangul
syllable stay together, extending characters, joiners and spacing marks join the cluster before
them, a prepended character joins the one after it, consonants joined by a virama (a linker)
stay together, a joiner between two pictographs keeps them together, and regional indicators
pair up.
-/

namespace EntitySchema.Text

/-- The classes of the Grapheme_Cluster_Break property. -/
inductive BreakClass where
  | cr
  | lf
  | control
  | extend
  | zwj
  | spacingMark
  | prepend
  | regional
  /-- A leading jamo. -/
  | leading
  /-- A vowel jamo. -/
  | vowel
  /-- A trailing jamo. -/
  | trailing
  /-- A Hangul syllable of a leading and a vowel jamo. -/
  | syllableLV
  /-- A Hangul syllable of a leading, a vowel and a trailing jamo. -/
  | syllableLVT
  | other
  deriving BEq

def firstSyllable : Nat := 0xAC00

def lastSyllable : Nat := 0xD7A3

/-- The break class of a character. -/
def breakClass (c : Char) : BreakClass :=
  let n := c.toNat
  if n == 0x0D then .cr
  else if n == 0x0A then .lf
  else if n == 0x200D then .zwj
  else if inRanges controlRanges n then .control
  else if inRanges extendRanges n then .extend
  else if 0x1F1E6 ≤ n ∧ n ≤ 0x1F1FF then .regional
  else if inRanges spacingMarkRanges n then .spacingMark
  else if inRanges prependRanges n then .prepend
  else if firstSyllable ≤ n ∧ n ≤ lastSyllable then
    if (n - firstSyllable) % 28 == 0 then .syllableLV else .syllableLVT
  else if inRanges leadingJamoRanges n then .leading
  else if inRanges vowelJamoRanges n then .vowel
  else if inRanges trailingJamoRanges n then .trailing
  else .other

def isPictographic (c : Char) : Bool := inRanges pictographicRanges c.toNat

/-- The classes of the Indic_Conjunct_Break property. -/
inductive ConjunctClass where
  | consonant
  | linker
  | extend
  | none
  deriving BEq

/-- The Indic_Conjunct_Break class of a character. -/
def conjunctClass (c : Char) : ConjunctClass :=
  let n := c.toNat
  if inRanges conjunctConsonantRanges n then .consonant
  else if inRanges conjunctLinkerRanges n then .linker
  else if inRanges conjunctExtendRanges n then .extend
  else .none

/-- Whether a Hangul sequence keeps the two classes together. -/
def hangulJoins (before after : BreakClass) : Bool :=
  (before == .leading &&
    (after == .leading || after == .vowel || after == .syllableLV || after == .syllableLVT)) ||
  ((before == .syllableLV || before == .vowel) && (after == .vowel || after == .trailing)) ||
  ((before == .syllableLVT || before == .trailing) && after == .trailing)

/-- What the segmenter remembers of the text before a position. -/
structure BreakState where
  previous : BreakClass
  /-- Inside a pictograph followed by extenders and then a joiner. -/
  pictographJoin : Bool
  /-- Inside a pictograph followed by extenders. -/
  pictographRun : Bool
  /-- Regional indicators just before, counted modulo two. -/
  oddRegional : Bool
  /-- Inside a consonant followed by conjunct extenders and linkers: `some true` once a linker
  was passed, `some false` before that, `none` outside such a run. -/
  conjunct : Option Bool

/-- Whether the text breaks between the state's last character and `c`. -/
def BreakState.breaksBefore (s : BreakState) (c : Char) : Bool :=
  let k := breakClass c
  if s.previous == .cr && k == .lf then false
  else if s.previous == .cr || s.previous == .lf || s.previous == .control then true
  else if k == .cr || k == .lf || k == .control then true
  else if hangulJoins s.previous k then false
  else if k == .extend || k == .zwj || k == .spacingMark then false
  else if s.previous == .prepend then false
  else if s.conjunct == some true && conjunctClass c == .consonant then false
  else if s.pictographJoin && isPictographic c then false
  else if s.previous == .regional && k == .regional && s.oddRegional then false
  else true

/-- The conjunct run after `c`, given the run before it. -/
def conjunctStep (run : Option Bool) (c : Char) : Option Bool :=
  match conjunctClass c, run with
  | .consonant, _ => some false
  | .linker, some _ => some true
  | .extend, some linked => some linked
  | _, _ => none

/-- The state after `c`. -/
def BreakState.step (s : BreakState) (c : Char) : BreakState :=
  let k := breakClass c
  let picto := isPictographic c
  { previous := k
    pictographRun := picto || (s.pictographRun && k == .extend)
    pictographJoin := s.pictographRun && k == .zwj
    oddRegional := k == .regional && !(s.previous == .regional && s.oddRegional)
    conjunct := conjunctStep s.conjunct c }

/-- Cuts `cs` into clusters; `current` is the cluster being built, last character first. -/
def clustersAux (s : BreakState) (current : List Char) : List Char → List String
  | [] => if current.isEmpty then [] else [String.ofList current.reverse]
  | c :: rest =>
    if !current.isEmpty && s.breaksBefore c then
      String.ofList current.reverse :: clustersAux (s.step c) [c] rest
    else clustersAux (s.step c) (c :: current) rest

/-- The grapheme clusters of a text. -/
def clusters (s : String) : List String :=
  let start : BreakState :=
    { previous := .control, pictographJoin := false, pictographRun := false, oddRegional := false,
      conjunct := none }
  clustersAux start [] s.toList

end EntitySchema.Text
