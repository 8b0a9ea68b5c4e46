import QueryDesk.Text.Blank
import QueryDesk.Text.ClusterTable
import QueryDesk.Text.Width

/-!
# Grapheme clusters

A text is cut into what a reader takes for single characters: a base with its
marks, a Hangul syllable, a pair of regional indicators, an emoji sequence. The
cuts follow the extended cluster rules; the clusters of a text join to the text.
-/
namespace QueryDesk.Text

/-- The boundary class of a character. -/
inductive BreakClass where
  | return | feed | breaker | extend | joiner | regional | prepend | spacing
  | lead | vowel | tail | syllable | closedSyllable | other
  deriving DecidableEq, Repr

def breakClass (c : Char) : BreakClass :=
  let n := c.toNat
  if c = '\r' then .return
  else if c = '\n' then .feed
  else if 0x20 ≤ n && n < 0x7F then .other
  else if n = 0x200D then .joiner
  else if breakers.has c then .breaker
  else if n < 0x300 then .other
  else if extenders.has c then .extend
  else if 0x1F1E6 ≤ n && n ≤ 0x1F1FF then .regional
  else if prepended.has c then .prepend
  else if spacingMarks.has c then .spacing
  else if (0x1100 ≤ n && n ≤ 0x115F) || (0xA960 ≤ n && n ≤ 0xA97C) then .lead
  else if (0x1160 ≤ n && n ≤ 0x11A7) || (0xD7B0 ≤ n && n ≤ 0xD7C6)
      || n = 0x16D63 || (0x16D67 ≤ n && n ≤ 0x16D6A) then .vowel
  else if (0x11A8 ≤ n && n ≤ 0x11FF) || (0xD7CB ≤ n && n ≤ 0xD7FB) then .tail
  else if 0xAC00 ≤ n && n ≤ 0xD7A3 then
    if (n - 0xAC00) % 28 = 0 then .syllable else .closedSyllable
  else .other

/-- What of the text before a boundary decides whether to cut there. -/
structure BreakState where
  last : BreakClass
  /-- An odd number of regional indicators ends here. -/
  oddRegional : Bool
  /-- A pictographic character with extenders ends here. -/
  picture : Bool
  /-- Such a picture and a joiner end here. -/
  pictureJoiner : Bool
  /-- A consonant with extenders ends here. -/
  consonant : Bool
  /-- Such a consonant with at least one linker ends here. -/
  linked : Bool

/-- The state behind a character at the start of a cluster. -/
def BreakState.first (c : Char) : BreakState :=
  let cls := breakClass c
  { last := cls, oddRegional := cls = .regional, picture := pictographic.has c,
    pictureJoiner := false, consonant := conjunctConsonants.has c, linked := false }

/-- The state behind one more character of the same cluster. -/
def BreakState.push (s : BreakState) (c : Char) : BreakState :=
  let cls := breakClass c
  let start := BreakState.first c
  let mark := cls = .extend || cls = .joiner
  { start with
    oddRegional := cls = .regional && !s.oddRegional
    picture := start.picture || (s.picture && cls = .extend)
    pictureJoiner := s.picture && cls = .joiner
    consonant := start.consonant || (s.consonant && mark)
    linked := s.consonant && mark && (s.linked || conjunctLinkers.has c) }

/-- Whether a cluster goes on with the character. -/
def BreakState.joins (s : BreakState) (c : Char) : Bool :=
  match s.last, breakClass c with
  | .return, .feed => true
  | .return, _ | .feed, _ | .breaker, _ => false
  | _, .return | _, .feed | _, .breaker => false
  | .lead, .lead | .lead, .vowel | .lead, .syllable | .lead, .closedSyllable => true
  | .syllable, .vowel | .vowel, .vowel | .syllable, .tail | .vowel, .tail => true
  | .closedSyllable, .tail | .tail, .tail => true
  | _, .extend | _, .joiner | _, .spacing => true
  | .prepend, _ => true
  | _, cls =>
      (s.linked && conjunctConsonants.has c) || (s.pictureJoiner && pictographic.has c)
        || (cls = .regional && s.oddRegional)

/-- The characters that still belong to the open cluster, and those after it. -/
def takeCluster (s : BreakState) : List Char → List Char × List Char
  | [] => ([], [])
  | c :: rest =>
      if s.joins c then
        let (more, rest) := takeCluster (s.push c) rest
        (c :: more, rest)
      else ([], c :: rest)

theorem takeCluster_append (s : BreakState) (cs : List Char) :
    (takeCluster s cs).1 ++ (takeCluster s cs).2 = cs := by
  induction cs generalizing s with
  | nil => rfl
  | cons c rest ih =>
    by_cases h : s.joins c = true
    · simp [takeCluster, h, ih]
    · simp [takeCluster, h]

theorem length_takeCluster_le (s : BreakState) (cs : List Char) :
    (takeCluster s cs).2.length ≤ cs.length := by
  have h := congrArg List.length (takeCluster_append s cs)
  rw [List.length_append] at h
  omega

/-- The clusters of a text. -/
def clusters : List Char → List (List Char)
  | [] => []
  | c :: rest =>
      (c :: (takeCluster (BreakState.first c) rest).1)
        :: clusters (takeCluster (BreakState.first c) rest).2
termination_by cs => cs.length
decreasing_by
  have := length_takeCluster_le (BreakState.first c) rest
  simp only [List.length_cons]
  omega

/-- The clusters of a text join to the text. -/
theorem flatten_clusters (cs : List Char) : (clusters cs).flatten = cs := by
  fun_induction clusters cs with
  | case1 => rfl
  | case2 c rest ih =>
    rw [List.flatten_cons, ih, List.cons_append, takeCluster_append]

end QueryDesk.Text
