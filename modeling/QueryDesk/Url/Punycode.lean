/-!
# Letters of any script in letters of one

A text is written as its characters of ASCII followed by the others as a run of numbers.
The others are put in one by one in the order of their code points; each number says how
many places, counted through the text over and over, lie between one insertion and the
next. Numbers have digits in base 36 whose weights depend on the numbers before, so that
close neighbours have short numbers.
-/
namespace QueryDesk.Url

/-- The letters count from nought, the figures after them. -/
def digitSign (digit : Nat) : Char :=
  if digit < 26 then Char.ofNat ('a'.toNat + digit) else Char.ofNat ('0'.toNat + (digit - 26))

def digitOf? (c : Char) : Option Nat :=
  if 'a' ≤ c && c ≤ 'z' then some (c.toNat - 'a'.toNat)
  else if 'A' ≤ c && c ≤ 'Z' then some (c.toNat - 'A'.toNat)
  else if '0' ≤ c && c ≤ '9' then some (c.toNat - '0'.toNat + 26)
  else none

/-- A digit below this ends its number. The place counts in steps of 36 from 36 on. -/
def lastBelow (bias place : Nat) : Nat := min 26 (max 1 (place - bias))

theorem lastBelow_pos (bias place : Nat) : 1 ≤ lastBelow bias place := by
  unfold lastBelow; omega

/-- The bias that suits numbers of a size. -/
def biasFor (steps size : Nat) : Nat :=
  if 455 < size then biasFor (steps + 36) (size / 35) else steps + 36 * size / (size + 38)
termination_by size
decreasing_by omega

/-- The bias after a number, when so many characters stand in the text. -/
def nextBias (isFirst : Bool) (number count : Nat) : Nat :=
  let size := if isFirst then number / 700 else number / 2
  biasFor 0 (size + size / count)

/-- The digits of a number from a place on. -/
def numberSigns (bias place number : Nat) : List Char :=
  let t := lastBelow bias place
  if number < t then [digitSign number]
  else digitSign (t + (number - t) % (36 - t)) :: numberSigns bias (place + 36) ((number - t) / (36 - t))
termination_by number
decreasing_by
  have := lastBelow_pos bias place
  exact Nat.lt_of_le_of_lt (Nat.div_le_self _ _) (by omega)

/-- Numbers and the weights of their digits stay below this. -/
def numberLimit : Nat := 0x100000000

/-- The number at the front of some digits, from a place on, and the digits after it. -/
def takeNumber? (bias place weight value : Nat) : List Char → Option (Nat × List Char)
  | [] => none
  | c :: rest =>
      match digitOf? c with
      | none => none
      | some digit =>
          let t := lastBelow bias place
          let value := value + digit * weight
          if numberLimit ≤ value then none
          else if digit < t then some (value, rest)
          else if numberLimit ≤ weight * (36 - t) then none
          else takeNumber? bias (place + 36) (weight * (36 - t)) value rest

theorem length_takeNumber? {bias place weight value : Nat} {text rest : List Char} {n : Nat}
    (h : takeNumber? bias place weight value text = some (n, rest)) : rest.length < text.length := by
  induction text generalizing place weight value with
  | nil => simp [takeNumber?] at h
  | cons c text ih =>
    rw [takeNumber?] at h
    split at h
    · simp at h
    · dsimp only at h
      split at h
      · simp at h
      · split at h
        · simp only [Option.some.injEq, Prod.mk.injEq] at h
          simp [h.2]
        · split at h
          · simp at h
          · exact Nat.lt_succ_of_lt (ih h)

/-- A place of the text among all its places counted over and over. -/
structure Cursor where
  code : Nat
  place : Nat
  deriving DecidableEq, Repr

/-- The cursor that lies so many places further on in a text of so many characters. -/
def Cursor.advance (cursor : Cursor) (count number : Nat) : Cursor :=
  let place := cursor.place + number
  { code := cursor.code + place / (count + 1), place := place % (count + 1) }

/-- The text with the characters that the numbers put into it. -/
def insertCoded? (cursor : Cursor) (bias : Nat) (isFirst : Bool) (text : List Char)
    (signs : List Char) : Option (List Char) :=
  if signs.isEmpty then some text
  else
    match hs : takeNumber? bias 36 1 0 signs with
    | none => none
    | some (number, rest) =>
        let next := cursor.advance text.length number
        if next.code.isValidChar then
          insertCoded? { next with place := next.place + 1 }
            (nextBias isFirst number (text.length + 1)) false
            (text.insertIdx next.place (Char.ofNat next.code)) rest
        else none
termination_by signs.length
decreasing_by exact length_takeNumber? hs

/-- The text that a run of letters and figures stands for. The last hyphen divides the
characters of ASCII from the numbers and is not there without such characters. -/
def readPunycode? (signs : List Char) : Option (List Char) :=
  let tail := (signs.reverse.takeWhile (· != '-')).reverse
  let front := (signs.take (signs.length - tail.length)).dropLast
  if (front.isEmpty && signs != tail) || front.any (0x80 ≤ ·.toNat) then none
  else insertCoded? { code := 0x80, place := 0 } 72 true front tail

/-- What has been written of a text: every character below the code is in. -/
structure Coded where
  signs : List Char
  /-- The places passed since the last insertion. -/
  gap : Nat
  bias : Nat
  /-- How many characters are in. -/
  count : Nat

/-- One pass over the text for one code point. -/
def Coded.pass (basic code : Nat) (text : List Char) (state : Coded) : Coded :=
  text.foldl
    (fun state c =>
      if c.toNat < code then { state with gap := state.gap + 1 }
      else if c.toNat = code then
        { signs := state.signs ++ numberSigns state.bias 36 state.gap
          gap := 0
          bias := nextBias (state.count == basic) state.gap (state.count + 1)
          count := state.count + 1 }
      else state)
    state

/-- The numbers of the characters outside ASCII, by rising code points. -/
def Coded.passes (basic : Nat) (text : List Char) : Nat → List Nat → Coded → Coded
  | _, [], state => state
  | low, code :: codes, state =>
      let start := { state with gap := state.gap + (code - low) * (state.count + 1) }
      let state := start.pass basic code text
      passes basic text (code + 1) codes { state with gap := state.gap + 1 }

/-- The text in letters and figures. -/
def punycode (text : List Char) : List Char :=
  let basic := text.filter (·.toNat < 0x80)
  let codes := (((text.map Char.toNat).filter (0x80 ≤ ·)).mergeSort (· ≤ ·)).eraseDups
  let state := Coded.passes basic.length text 0x80 codes
    { signs := [], gap := 0, bias := 72, count := basic.length }
  basic ++ (if basic.isEmpty then [] else ['-']) ++ state.signs

end QueryDesk.Url
