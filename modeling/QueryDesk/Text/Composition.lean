import QueryDesk.Text.CompositionTable
import QueryDesk.Text.Runs

/-!
# Composed texts

The same letter with its marks can be written in several ways. The composed form of a
text takes every letter apart, puts the marks into their order and then unites a letter
with each mark that nothing separates from it, wherever there is one character for both.
Syllables of Hangul are taken apart and united by rule.

Characters that stand for a single other one, and those that composition never yields,
are not taken apart here; the mapping of domain names has replaced them before.
-/
namespace QueryDesk.Text

private def compositionRuns : List Run := readRuns compositionText

private def combiningRuns : List Run := readRuns combiningText

/-- Where a mark stands among the marks of its letter; zero for all but marks. -/
def combiningClass (c : Char) : Nat :=
  if c.toNat < 0x300 then 0
  else ((findRun? combiningRuns c).bind (·.targets.head?)).getD 0

private def syllableBase : Nat := 0xAC00

private def leadBase : Nat := 0x1100

private def vowelBase : Nat := 0x1161

private def tailBase : Nat := 0x11A7

private def vowelCount : Nat := 21

private def tailCount : Nat := 28

private def isSyllable (n : Nat) : Bool := syllableBase ≤ n && n < syllableBase + 19 * vowelCount * tailCount

/-- The two characters that one is made of. -/
def parts? (c : Char) : Option (Char × Char) :=
  let n := c.toNat
  if isSyllable n then
    let index := n - syllableBase
    if index % tailCount = 0 then
      let pair := index / tailCount
      some (Char.ofNat (leadBase + pair / vowelCount), Char.ofNat (vowelBase + pair % vowelCount))
    else some (Char.ofNat (n - index % tailCount), Char.ofNat (tailBase + index % tailCount))
  else
    match findRun? compositionRuns c with
    | some { targets := [first, second], .. } => some (Char.ofNat first, Char.ofNat second)
    | _ => none

/-- The one character that is made of two. -/
def united? (first second : Char) : Option Char :=
  let a := first.toNat
  let b := second.toNat
  if leadBase ≤ a && a < leadBase + 19 && vowelBase ≤ b && b < vowelBase + vowelCount then
    some (Char.ofNat (syllableBase + ((a - leadBase) * vowelCount + (b - vowelBase)) * tailCount))
  else if isSyllable a && (a - syllableBase) % tailCount == 0
      && tailBase < b && b < tailBase + tailCount then
    some (Char.ofNat (a + (b - tailBase)))
  else (compositionRuns.find? fun run => run.targets == [a, b]).map fun run => Char.ofNat run.low

/-- No character is composed more often than this. -/
private def compositionDepth : Nat := 4

/-- A character taken apart: its first part again, down to a depth. -/
def takeApart : Nat → Char → List Char
  | 0, c => [c]
  | depth + 1, c =>
      match parts? c with
      | none => [c]
      | some (first, second) => takeApart depth first ++ takeApart depth second

/-- A character goes behind the marks in front of an ordered text that stand before it. -/
def insertMark (c : Char) : List Char → List Char
  | [] => [c]
  | d :: rest =>
      if 0 < combiningClass d && combiningClass d < combiningClass c then d :: insertMark c rest
      else c :: d :: rest

/-- The marks of every letter in their order; marks of one class stay as they were. -/
def orderMarks (text : List Char) : List Char := text.foldr insertMark []

/-- A letter and the text after it, with the marks between that did not unite with the letter. -/
private def uniteFrom (letter : Char) (passed : List Char) : List Char → List Char
  | [] => letter :: passed.reverse
  | c :: rest =>
      let separated :=
        match passed with
        | [] => false
        | mark :: _ => combiningClass c ≤ combiningClass mark
      match (if separated then none else united? letter c) with
      | some one => uniteFrom one passed rest
      | none =>
          if combiningClass c = 0 then letter :: (passed.reverse ++ uniteFrom c [] rest)
          else uniteFrom letter (c :: passed) rest

/-- The letters of an ordered text united with their marks. -/
def unite : List Char → List Char
  | [] => []
  | c :: rest => if combiningClass c = 0 then uniteFrom c [] rest else c :: unite rest

/-- The composed form of a text. -/
def composed (text : List Char) : List Char :=
  unite (orderMarks (text.flatMap (takeApart compositionDepth)))

end QueryDesk.Text
