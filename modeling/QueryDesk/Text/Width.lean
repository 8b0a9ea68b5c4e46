import QueryDesk.Text.Blank
import QueryDesk.Text.WidthTable

/-!
# Display width

How many terminal columns a text takes. A character takes zero, one or two
columns on its own. In a text it may count otherwise, by the characters that
come after it: in emoji sequences (selectors, skin tones, flags, keycaps, tags
and joiners) and before the second letter of a ligature (Arabic lam and alef,
Hebrew alef and lamed, Buginese, Khmer, Lisu, Old Turkic, Tifinagh, Kirat Rai).
So a text is counted from its end, and what is known of the text behind a
character is a small state. Controls take one column each, but a carriage
return takes none before a line feed, and line feeds count by a `Measure`.
-/
namespace QueryDesk.Text

/-- What a line feed counts for. -/
structure Measure where
  feed : Nat
  deriving DecidableEq, Repr

/-- Text in a line: a line feed takes one column. -/
def Measure.line : Measure := ⟨1⟩

/-- Text in screen cells: a line feed takes none. -/
def Measure.cell : Measure := ⟨0⟩

/-- The columns of a single character; a control has none of its own. -/
def charWidth (c : Char) : Nat :=
  if c.toNat < 0x7F then (if c.toNat < 0x20 then 0 else 1)
  else if c.toNat < 0xA0 then 0
  else if zeroWidth.has c then 0
  else if c.toNat = 0x17D8 then 3
  else if wide.has c then 2
  else 1

def zeroWidthJoiner : Char := Char.ofNat 0x200D

/-- The selector for the text form of the character before it. -/
def textSelector : Char := Char.ofNat 0xFE0E

/-- The selector for the picture form of the character before it. -/
def pictureSelector : Char := Char.ofNat 0xFE0F

def isSkinTone (c : Char) : Bool := 0x1F3FB ≤ c.toNat && c.toNat ≤ 0x1F3FF

/-- The letters that flags are spelled with, in pairs. -/
def isIndicator (c : Char) : Bool := 0x1F1E6 ≤ c.toNat && c.toNat ≤ 0x1F1FF

def isTagLetter (c : Char) : Bool := 0xE0061 ≤ c.toNat && c.toNat ≤ 0xE007A

def isTagDigit (c : Char) : Bool := 0xE0030 ≤ c.toNat && c.toNat ≤ 0xE0039

/-- Wide pictographic characters that are text without a selector. -/
private def wideTexts : Ranges :=
  [(0x3030, 0x3030), (0x303D, 0x303D), (0x3297, 0x3297), (0x3299, 0x3299), (0x1F202, 0x1F202),
    (0x1F237, 0x1F237)]

/-- Characters that show as a picture without a selector. -/
def isPicture (c : Char) : Bool :=
  0x231A ≤ c.toNat && pictographic.has c && wide.has c && !wideTexts.has c

/-- Pictures that a text selector makes narrow; an ideograph stays wide. -/
def narrowAsText (c : Char) : Bool :=
  selectable.has c && isPicture c && !(0x1F200 ≤ c.toNat && c.toNat ≤ 0x1F2FF)

/-! ### Ligatures -/

/-- A letter, or a part of a ligature, that the letter before it may take in. -/
inductive Ligature where
  /-- An Arabic alef. -/
  | alef
  /-- A Hebrew lamed, for an alef and a joiner. -/
  | lamed
  /-- A Buginese ya, for a vowel sign with a joiner. -/
  | ya
  /-- The ya with its vowel sign, for another ya. -/
  | yaVowel
  /-- A Tifinagh consonant. -/
  | consonant
  /-- A Tifinagh consonant with the sign that joins it. -/
  | joinedConsonant
  /-- A Lisu tone letter that stands second in a pair. -/
  | toneLetter
  /-- An Old Turkic letter, for one before it and a joiner. -/
  | orkhonI
  /-- A Khmer letter that has a subscript form. -/
  | subscript
  deriving DecidableEq, Repr

def alefs : Ranges :=
  [(0x622, 0x623), (0x625, 0x625), (0x627, 0x627), (0x671, 0x673), (0x675, 0x675),
    (0x773, 0x774), (0x870, 0x882)]

private def lams : Ranges :=
  [(0x644, 0x644), (0x6B5, 0x6B8), (0x76A, 0x76A), (0x8A6, 0x8A6), (0x8C7, 0x8C7)]

private def tifinaghConsonants : Ranges := [(0x2D31, 0x2D65), (0x2D6F, 0x2D6F)]

private def khmerLetters : Ranges :=
  [(0x1780, 0x1782), (0x1784, 0x1787), (0x1789, 0x178C), (0x178E, 0x1793), (0x1795, 0x1798),
    (0x179B, 0x179D), (0x17A0, 0x17A0), (0x17A2, 0x17A2), (0x17A7, 0x17A7), (0x17AB, 0x17AC),
    (0x17AF, 0x17AF)]

/-- The characters that may stand inside a ligature; an Arabic one has more of them. -/
private def innerMarks : Ranges :=
  [(0x34F, 0x34F), (0x17B4, 0x17B5), (0x180B, 0x180D), (0x180F, 0x180F), (0x200D, 0x200D),
    (0xFE00, 0xFE0F), (0xE0100, 0xE01EF)]

/-- The ligature that a letter may end. -/
def endsLigature? (c : Char) : Option Ligature :=
  if alefs.has c then some .alef
  else if c.toNat = 0x5DC then some .lamed
  else if c.toNat = 0x1A10 then some .ya
  else if tifinaghConsonants.has c then some .consonant
  else if 0xA4FC ≤ c.toNat && c.toNat ≤ 0xA4FD then some .toneLetter
  else if c.toNat = 0x10C03 then some .orkhonI
  else if khmerLetters.has c then some .subscript
  else none

/-- Whether a character may stand in front of the part of a ligature and leave it as it is. -/
def Ligature.passes : Ligature → Char → Bool
  | .alef, c => zeroWidth.has c && !partingMarks.has c
  | _, c => innerMarks.has c

/-- What a letter, by its place, counts with the part of a ligature behind it, and what the two
leave for the letter before. -/
def Ligature.take? (letter : Ligature) (joined : Bool) (c : Char) :
    Option (Int × Option Ligature) :=
  match letter with
  | .alef => if lams.has c then some (0, none) else none
  | .lamed => if joined && c.toNat = 0x5D0 then some (0, none) else none
  | .ya => if joined && c.toNat = 0x1A17 then some (0, some .yaVowel) else none
  | .yaVowel => if c.toNat = 0x1A15 then some (0, none) else none
  | .consonant =>
      if joined then (if tifinaghConsonants.has c then some (0, none) else none)
      else if c.toNat = 0x2D7F then some (1, some .joinedConsonant)
      else none
  | .joinedConsonant => if tifinaghConsonants.has c then some (-1, none) else none
  | .toneLetter => if 0xA4F8 ≤ c.toNat && c.toNat ≤ 0xA4FB then some (0, none) else none
  | .orkhonI => if joined && c.toNat = 0x10C32 then some (0, none) else none
  | .subscript => if c.toNat = 0x17D2 then some (-1, none) else none

/-! ### What a text begins with -/

/-- What the character before a text may join with. -/
inductive Start where
  | plain
  | feed
  | skinTone
  /-- One flag letter. -/
  | indicator
  /-- Two flag letters or more. -/
  | indicators
  | picture
  /-- A joiner and a picture behind it. -/
  | joiner
  /-- A keycap behind which such a joiner stands. -/
  | keycap
  /-- One flag letter that a joiner takes in. -/
  | joinedFlag
  | evenFlags
  | oddFlags
  /-- The letters of a tag that ends in a joiner. -/
  | tagLetters (count : Nat)
  /-- Digits, and behind them the letters of such a tag. -/
  | tagDigits (count : Nat)
  /-- A Kirat Rai vowel e. -/
  | vowelE
  /-- A Kirat Rai vowel ai. -/
  | vowelAi
  /-- The part of a ligature, and whether a joiner stands before it. -/
  | ligature (letter : Ligature) (joined : Bool)
  deriving DecidableEq, Repr

/-- The start without a selector before it: only the part of a ligature is left. -/
def Start.unselected : Start → Start
  | .ligature letter joined => .ligature letter joined
  | _ => .plain

/-- The start behind a picture selector. -/
def Start.selected : Start → Start
  | .ligature letter joined => .ligature letter joined
  | .joiner => .joiner
  | .keycap => .keycap
  | _ => .plain

/-- What is known of the text behind a character. -/
structure Ahead where
  start : Start := .plain
  /-- A picture selector stands before it. -/
  picture : Bool := false
  /-- A text selector stands before it. -/
  text : Bool := false
  deriving DecidableEq, Repr

/-- What a character that ends no ligature is for the one before it. -/
def begins (c : Char) : Start :=
  if isSkinTone c then .skinTone
  else if isIndicator c then .indicator
  else if isPicture c then .picture
  else if c.toNat = 0x16D67 then .vowelE
  else if c.toNat = 0x16D68 then .vowelAi
  else .plain

/-- The columns of a character that joins with nothing behind it, and what it is for the one before
it. -/
def standAlone (c : Char) : Int × Start :=
  match endsLigature? c with
  | some letter => (1, .ligature letter false)
  | none => (charWidth c, begins c)

/-- What the character before a tag makes of it, after `count` letters or digits. -/
def takeTag? (count : Nat) (digits : Bool) (c : Char) : Option Start :=
  if isTagDigit c && count < (if digits then 3 else 5) then
    some (.tagDigits (if digits then count + 1 else 1))
  else if isTagLetter c && !digits && count < 6 then some (.tagLetters (count + 1))
  else if c.toNat = 0x1F3F4 && 3 ≤ count then some .picture
  else none

/-- The columns of a character that joins with the text behind it. -/
def takeIn? (start : Start) (c : Char) : Option (Int × Start) :=
  match start with
  | .skinTone =>
      if modifierBase.has c then some (0, .picture)
      else if c = zeroWidthJoiner then some (0, .joiner)
      else none
  | .indicator => if isIndicator c then some (1, .indicators) else none
  | .indicators =>
      if isIndicator c then some (1, .indicators)
      else if c = zeroWidthJoiner then some (0, .joiner)
      else none
  | .picture => if c = zeroWidthJoiner then some (0, .joiner) else none
  | .joiner =>
      if c.toNat = 0x20E3 then some (0, .keycap)
      else if isIndicator c then some (1, .joinedFlag)
      else if isSkinTone c then some (0, .skinTone)
      else if c.toNat = 0xE007F then some (0, .tagLetters 0)
      else if isPicture c then some (0, .picture)
      else none
  | .joinedFlag => if isIndicator c then some (-1, .evenFlags) else none
  | .oddFlags =>
      if isIndicator c then some (-1, .evenFlags)
      else if c = zeroWidthJoiner then some (0, .joiner)
      else none
  | .evenFlags =>
      if isIndicator c then some (3, .oddFlags)
      else if c = zeroWidthJoiner then some (0, .joiner)
      else none
  | .tagLetters count => (takeTag? count false c).map (0, ·)
  | .tagDigits count => (takeTag? count true c).map (0, ·)
  | .vowelE =>
      if c.toNat = 0x16D63 || c.toNat = 0x16D69 then some (0, .plain)
      else if c.toNat = 0x16D67 then some (0, .vowelAi)
      else if c.toNat = 0x16D68 then some (1, .vowelE)
      else none
  | .vowelAi => if c.toNat = 0x16D63 then some (0, .plain) else none
  | .ligature letter joined =>
      if c = zeroWidthJoiner && letter != .alef then some (0, .ligature letter true)
      else if letter.passes c then some (0, .ligature letter joined)
      else (letter.take? joined c).map fun (columns, left) =>
        (columns, (left.map (Start.ligature · true)).getD .plain)
  | .plain | .feed | .keycap => none

/-- The columns that a character adds in front of a text, and what the longer text begins with. -/
def step (m : Measure) (c : Char) (ahead : Ahead) : Int × Ahead :=
  if ahead.picture && selectable.has c then
    (if ahead.start = .joiner || ahead.start = .keycap then 0 else 2, { start := .picture })
  else
    let start := if ahead.picture then ahead.start.unselected else ahead.start
    if c.toNat ≤ 0xA0 then
      if c = '\n' then (m.feed, { start := .feed })
      else if c = '\r' && start == .feed then (0, {})
      else (1, {})
    else if c = pictureSelector then
      (0, { start := start.selected, picture := true,
            text := ahead.text && start.unselected != .plain })
    else if c = textSelector then (0, { start := start.unselected, text := true })
    else if ahead.text && narrowAsText c then (1, {})
    else
      let (columns, start) := (takeIn? start c).getD (standAlone c)
      (columns, { start })

/-- The columns of a text and what it begins with. -/
def counted (m : Measure) (cs : List Char) : Int × Ahead :=
  cs.foldr (fun c (columns, ahead) =>
    let (more, ahead) := step m c ahead
    (columns + more, ahead)) (0, {})

/-- The columns of a text. -/
def width (m : Measure) (cs : List Char) : Nat := (counted m cs).1.toNat

theorem width_nil (m : Measure) : width m [] = 0 := rfl

end QueryDesk.Text
