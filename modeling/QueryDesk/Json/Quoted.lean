import QueryDesk.Json.Error

/-!
# Quoted strings

A string is written between quotation marks. A mark, a backslash and the controls
below the space are written as escapes; everything else stands for itself. A reader
also takes the other escapes: a slash, and four hexadecimal digits for one unit of
sixteen bits, two units for a character beyond those.
-/
namespace QueryDesk.Json

def hexDigit (n : Nat) : Char := Nat.digitChar n

/-- The written form of one character. -/
def escape (c : Char) : List Char :=
  if c = '"' then ['\\', '"']
  else if c = '\\' then ['\\', '\\']
  else if c = '\x08' then ['\\', 'b']
  else if c = '\x0c' then ['\\', 'f']
  else if c = '\n' then ['\\', 'n']
  else if c = '\r' then ['\\', 'r']
  else if c = '\t' then ['\\', 't']
  else if c.toNat < 0x20 then
    ['\\', 'u', '0', '0', hexDigit (c.toNat / 16), hexDigit (c.toNat % 16)]
  else [c]

/-- A text between quotation marks. -/
def quote (text : List Char) : List Char := '"' :: text.flatMap escape ++ ['"']

/-- The characters that a backslash and one letter or sign stand for. -/
def unescape? (c : Char) : Option Char :=
  if c = '"' || c = '\\' || c = '/' then some c
  else if c = 'b' then some '\x08'
  else if c = 'f' then some '\x0c'
  else if c = 'n' then some '\n'
  else if c = 'r' then some '\r'
  else if c = 't' then some '\t'
  else none

/-- The value of a hexadecimal digit of either case. -/
def hexValue? (c : Char) : Option Nat :=
  if '0' ≤ c && c ≤ '9' then some (c.toNat - '0'.toNat)
  else if 'a' ≤ c && c ≤ 'f' then some (c.toNat - 'a'.toNat + 10)
  else if 'A' ≤ c && c ≤ 'F' then some (c.toNat - 'A'.toNat + 10)
  else none

/-- The value of four hexadecimal digits at the start. -/
def fourHex? : List Char → Option Nat
  | a :: b :: c :: d :: _ => do
      some ((((← hexValue? a) * 16 + (← hexValue? b)) * 16 + (← hexValue? c)) * 16
        + (← hexValue? d))
  | _ => none

/-- The unit that four digits at the start stand for. Four bytes are taken before their digits are
looked at. -/
def readUnit (s : List Char) : Except Error Nat :=
  match fourHex? s with
  | some unit => .ok unit
  | none =>
      let left := Text.utf8Length s
      .error (if left < 4 then ⟨.endInString, 0⟩ else ⟨.invalidEscape, left - 4⟩)

def isLeading (unit : Nat) : Bool := 0xD800 ≤ unit && unit < 0xDC00

def isTrailing (unit : Nat) : Bool := 0xDC00 ≤ unit && unit < 0xE000

/-- The `u` and digits after a backslash: the character they stand for and how many characters they
are. A leading unit needs a trailing one after it, and a trailing one never comes first. -/
def readUnicode (s : List Char) : Except Error (Char × Nat) := do
  let first ← readUnit s
  let rest := s.drop 4
  if isTrailing first then throw (.at .loneSurrogate rest)
  else if !isLeading first then return (Char.ofNat first, 5)
  else
    match rest with
    | [] => throw (.at .endInString [])
    | '\\' :: [] => throw (.at .endInString [])
    | '\\' :: 'u' :: digits =>
        let second ← readUnit digits
        if isTrailing second then
          return (Char.ofNat (0x10000 + (first - 0xD800) * 0x400 + (second - 0xDC00)), 11)
        else throw (.at .loneSurrogate (digits.drop 4))
    | '\\' :: other => throw (.into .unexpectedEndOfEscape other)
    | other => throw (.into .unexpectedEndOfEscape other)

/-- What follows a backslash: the character it stands for and how many characters it is. -/
def readEscape (s : List Char) : Except Error (Char × Nat) :=
  match s with
  | [] => .error (.at .endInString [])
  | 'u' :: digits => readUnicode digits
  | c :: _ =>
      match unescape? c with
      | some meant => .ok (meant, 1)
      | none => .error (.into .invalidEscape s)

/-- The text up to the closing mark and what follows the mark; the opening mark has been read. -/
def readQuoted (s : List Char) : Except Error (List Char × List Char) :=
  match s with
  | [] => .error (.at .endInString [])
  | '"' :: rest => .ok ([], rest)
  | '\\' :: rest => do
      let (c, taken) ← readEscape rest
      let (text, rest) ← readQuoted (rest.drop taken)
      return (c :: text, rest)
  | c :: rest =>
      if c.toNat < 0x20 then .error (.at .controlCharacter rest)
      else do
        let (text, rest) ← readQuoted rest
        return (c :: text, rest)
termination_by s.length
decreasing_by all_goals (simp only [List.length_cons, List.length_drop]; omega)

/-- What follows a string is shorter than the string and what follows. -/
theorem length_of_readQuoted {s text rest : List Char} (h : readQuoted s = .ok (text, rest)) :
    rest.length < s.length := by
  fun_induction readQuoted s generalizing text rest with
  | case1 => simp at h
  | case2 r => simp_all
  | case3 r ih =>
    simp only [bind, Except.bind] at h
    split at h
    · simp at h
    · rename_i p _
      split at h
      · simp at h
      · rename_i q hq
        simp only [pure, Except.pure, Except.ok.injEq, Prod.mk.injEq] at h
        obtain ⟨_, rfl⟩ := h
        have := ih p.2 hq
        simp only [List.length_drop] at this
        simp only [List.length_cons]
        omega
  | case4 => simp at h
  | case5 c r _ _ _ ih =>
    simp only [bind, Except.bind] at h
    split at h
    · simp at h
    · rename_i q hq
      simp only [pure, Except.pure, Except.ok.injEq, Prod.mk.injEq] at h
      obtain ⟨_, rfl⟩ := h
      have := ih hq
      simp only [List.length_cons]
      omega

end QueryDesk.Json
