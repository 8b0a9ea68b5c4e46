import QueryDesk.Text.Composition
import QueryDesk.Url.DirectionTable

/-!
# Labels of a domain name

What the characters between two dots have to keep to: a mark does not come first, a sign
that joins or parts letters stands only where it makes a difference, and letters of the
two directions of writing do not get mixed up.
-/
namespace QueryDesk.Url

open QueryDesk.Text (combiningClass)

def isAscii (text : List Char) : Bool := text.all (·.toNat < 0x80)

/-- The class of the signs that leave a consonant without its vowel. -/
private def viramaClass : Nat := 9

private def isVirama (c : Char) : Bool := combiningClass c == viramaClass

private def joiner : Char := '\u200d'

private def nonJoiner : Char := '\u200c'

/-- Whether the joining and parting signs of a text stand where they may, given the
characters before it, the last one first. Both may follow a virama; one that parts may
also stand between two letters that would join. -/
def joinersFit (before : List Char) : List Char → Bool
  | [] => true
  | c :: rest =>
      let parts :=
        ((before.find? (!transparent.has ·)).map joinsLeft.has).getD false
          && ((rest.find? (!transparent.has ·)).map joinsRight.has).getD false
      let fits :=
        if c = joiner then (before.head?.map isVirama).getD false
        else if c = nonJoiner then (before.head?.map isVirama).getD false || parts
        else true
      fits && joinersFit (c :: before) rest

/-- How a character takes part in the direction of a line. -/
inductive Direction where
  | leftToRight
  | rightToLeft
  | arabicNumber
  | europeanNumber
  | nonspacing
  | neutral
  deriving DecidableEq, Repr

def directionOf (c : Char) : Direction :=
  if rightToLeft.has c then .rightToLeft
  else if arabicNumber.has c then .arabicNumber
  else if europeanNumber.has c then .europeanNumber
  else if nonspacing.has c then .nonspacing
  else if neutral.has c then .neutral
  else .leftToRight

/-- Whether a text needs the rule on directions. -/
def hasRightToLeft (text : List Char) : Bool :=
  text.any fun c => directionOf c == .rightToLeft || directionOf c == .arabicNumber

/-- A label begins with a letter, keeps to one direction, and ends, marks apart, with a
letter or number of it; digits of both kinds do not go together from right to left. -/
def directionsFit (label : List Char) : Bool :=
  let directions := label.map directionOf
  let last := (directions.reverse.dropWhile (· == .nonspacing)).head?
  match directions.head? with
  | none => true
  | some .leftToRight =>
      directions.all (fun d => d != .rightToLeft && d != .arabicNumber)
        && (last == some .leftToRight || last == some .europeanNumber)
  | some .rightToLeft =>
      directions.all (· != .leftToRight)
        && !(directions.contains .arabicNumber && directions.contains .europeanNumber)
        && (last == some .rightToLeft || last == some .arabicNumber || last == some .europeanNumber)
  | some _ => false

/-- Whether a label keeps to the rules that do not depend on its neighbours. -/
def isLabel (label : List Char) : Bool :=
  !(label.head?.map mark.has).getD false && joinersFit [] label

end QueryDesk.Url
