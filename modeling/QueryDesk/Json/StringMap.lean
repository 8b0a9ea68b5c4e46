import QueryDesk.Json.Number
import QueryDesk.Json.Quoted

/-!
# Maps from strings to strings

Reading a JSON object whose values are all strings. The members come in the order of
the text, repeated keys included. The first thing that is wrong is the error; of a
value that is no string, it says what it is.
-/
namespace QueryDesk.Json

open QueryDesk.Text (isAsciiDigit)

/-- The four characters that may stand between the parts of a text. -/
def isSpacing (c : Char) : Bool := c = ' ' || c = '\n' || c = '\t' || c = '\r'

def skipSpacing (s : List Char) : List Char := s.dropWhile isSpacing

theorem length_skipSpacing_le (s : List Char) : (skipSpacing s).length ≤ s.length :=
  (List.dropWhile_sublist _).length_le

/-- The rest of a word whose first letter has been read. -/
def readWord : List Char → List Char → Except Error (List Char)
  | [], s => .ok s
  | _ :: _, [] => .error (.at .endInValue [])
  | letter :: word, c :: s =>
      if c = letter then readWord word s else .error (.into .expectedIdent (c :: s))

/-- What stands at the start: a scalar is read, a sequence or a map only recognised. -/
def readFound (s : List Char) : Except Error (Found × List Char) :=
  match s with
  | [] => .error (.at .endInValue [])
  | 'n' :: rest => (readWord ['u', 'l', 'l'] rest).map (.null, ·)
  | 't' :: rest => (readWord ['r', 'u', 'e'] rest).map (.boolean true, ·)
  | 'f' :: rest => (readWord ['a', 'l', 's', 'e'] rest).map (.boolean false, ·)
  | '-' :: rest => readNumber true rest
  | '"' :: rest => (readQuoted rest).map fun (text, rest) => (.string (String.ofList text), rest)
  | '[' :: _ => .ok (.sequence, s)
  | '\x7b' :: _ => .ok (.map, s)
  | c :: _ => if isAsciiDigit c then readNumber false s else .error (.into .expectedValue s)

/-- The error of something else in the place of what is expected. -/
def mismatch (expected : Expected) (s : List Char) : Error :=
  match readFound s with
  | .ok (found, rest) => .at (.invalidType found expected) rest
  | .error error => error

/-- Reads up to the opening mark of the next key, `some` what follows it, or up to the closing brace. -/
def nextKey (first : Bool) (s : List Char) : Except Error (Bool × List Char) :=
  match skipSpacing s with
  | [] => .error (.at .endInObject [])
  | '\x7d' :: rest => .ok (false, rest)
  | c :: rest =>
      if first then
        if c = '"' then .ok (true, rest) else .error (.into .keyNotString (c :: rest))
      else if c = ',' then
        match skipSpacing rest with
        | [] => .error (.at .endInValue [])
        | '"' :: rest => .ok (true, rest)
        | '\x7d' :: rest => .error (.into .trailingComma ('\x7d' :: rest))
        | rest => .error (.into .keyNotString rest)
      else .error (.into .expectedCommaOrBrace (c :: rest))

/-- What follows a colon. -/
def readColon (s : List Char) : Except Error (List Char) :=
  match skipSpacing s with
  | [] => .error (.at .endInObject [])
  | ':' :: rest => .ok rest
  | rest => .error (.into .expectedColon rest)

/-- A string in the place of a value. -/
def readStringValue (s : List Char) : Except Error (List Char × List Char) :=
  match skipSpacing s with
  | [] => .error (.at .endInValue [])
  | '"' :: rest => readQuoted rest
  | rest => .error (mismatch .aString rest)

/-- A key without its opening mark, a colon and a string. -/
def readMember (s : List Char) : Except Error ((String × String) × List Char) :=
  match readQuoted s with
  | .error error => .error error
  | .ok (key, rest) =>
      match readColon rest with
      | .error error => .error error
      | .ok rest =>
          match readStringValue rest with
          | .error error => .error error
          | .ok (value, rest) => .ok ((String.ofList key, String.ofList value), rest)

theorem length_of_nextKey {first more : Bool} {s rest : List Char}
    (h : nextKey first s = .ok (more, rest)) : rest.length < s.length := by
  have hs := length_skipSpacing_le s
  unfold nextKey at h
  split at h
  · simp at h
  · rename_i r hr
    simp only [Except.ok.injEq, Prod.mk.injEq] at h
    simp only [hr, List.length_cons, h.2] at hs
    omega
  · rename_i c r _ hr
    have hr' := length_skipSpacing_le r
    simp only [hr, List.length_cons] at hs
    split at h
    · split at h <;> simp at h
      simp only [h.2] at hs
      omega
    · split at h
      · split at h <;> simp at h
        rename_i q hq
        simp only [hq, List.length_cons, h.2] at hr'
        omega
      · simp at h

theorem length_of_readColon {s rest : List Char} (h : readColon s = .ok rest) :
    rest.length < s.length := by
  have hs := length_skipSpacing_le s
  unfold readColon at h
  split at h <;> simp at h
  rename_i r hr
  simp only [hr, List.length_cons, h] at hs
  omega

theorem length_of_readStringValue {s text rest : List Char}
    (h : readStringValue s = .ok (text, rest)) : rest.length < s.length := by
  have hs := length_skipSpacing_le s
  unfold readStringValue at h
  split at h
  · simp at h
  · rename_i r hr
    have := length_of_readQuoted h
    simp only [hr, List.length_cons] at hs
    omega
  · simp at h

theorem length_of_readMember {s rest : List Char} {entry : String × String}
    (h : readMember s = .ok (entry, rest)) : rest.length < s.length := by
  unfold readMember at h
  split at h
  · simp at h
  · rename_i hk
    split at h
    · simp at h
    · rename_i hc
      split at h
      · simp at h
      · rename_i hv
        simp only [Except.ok.injEq, Prod.mk.injEq] at h
        have := length_of_readQuoted hk
        have := length_of_readColon hc
        have := length_of_readStringValue hv
        simp only [h.2] at this
        omega

/-- The members up to the closing brace and what follows it. -/
def readMembers (first : Bool) (s : List Char) :
    Except Error (List (String × String) × List Char) :=
  match _hk : nextKey first s with
  | .error error => .error error
  | .ok (false, rest) => .ok ([], rest)
  | .ok (true, rest) =>
      match _hm : readMember rest with
      | .error error => .error error
      | .ok (entry, rest) =>
          match readMembers false rest with
          | .error error => .error error
          | .ok (entries, rest) => .ok (entry :: entries, rest)
termination_by s.length
decreasing_by
  have := length_of_nextKey _hk
  have := length_of_readMember _hm
  omega

/-- The members of the map that makes up all of the text. -/
def readStringMap (s : List Char) : Except Error (List (String × String)) :=
  match skipSpacing s with
  | [] => .error (.at .endInValue [])
  | '\x7b' :: rest =>
      match readMembers true rest with
      | .error error => .error error
      | .ok (entries, rest) =>
          match skipSpacing rest with
          | [] => .ok entries
          | rest => .error (.into .trailingCharacters rest)
  | rest => .error (mismatch .aMap rest)

end QueryDesk.Json
