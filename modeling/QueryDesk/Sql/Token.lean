import QueryDesk.Sql.Keyword
import QueryDesk.Text.Blank

/-!
# SQL tokens

A text is cut into strings, comments, blanks, words and single punctuation marks.
Every character belongs to a token, so the tokens of a text join to the text. A
string or block comment that is not closed runs to the end.
-/
namespace QueryDesk.Sql

open QueryDesk.Text (isBlank isAsciiDigit)

inductive TokenKind where
  | keyword | string | number | comment | identifier | whitespace | punctuation
  deriving DecidableEq, Repr, Inhabited

structure Token where
  kind : TokenKind
  text : List Char
  deriving DecidableEq, Repr, Inhabited

def isQuote (c : Char) : Bool := c = '\'' || c = '"'

def isPunctuation (c : Char) : Bool :=
  ['(', ')', ',', ';', '.', '*', '=', '<', '>', '+', '-', '/', '%', '!', ':', '[', ']'].contains c

def isWordChar (c : Char) : Bool := !isBlank c && !isPunctuation c && !isQuote c

/-- The kind of a word: a keyword, a run of ASCII digits, or a name. A full stop is a punctuation
mark, so no word has one, and none is asked for among the digits. -/
def wordKind (word : List Char) : TokenKind :=
  if isKeyword word then .keyword
  else if word.all isAsciiDigit then .number
  else .identifier

/-- The characters up to and with the first `c`, and those behind it. -/
def splitPast (c : Char) : List Char → List Char × List Char
  | [] => ([], [])
  | d :: rest =>
      if d = c then ([d], rest)
      else
        let (taken, rest) := splitPast c rest
        (d :: taken, rest)

/-- The characters up to and with the first end of a block comment, and those behind it. -/
def splitPastBlock : List Char → List Char × List Char
  | [] => ([], [])
  | [c] => ([c], [])
  | c :: d :: rest =>
      if c = '*' && d = '/' then ([c, d], rest)
      else
        let (taken, rest) := splitPastBlock (d :: rest)
        (c :: taken, rest)

/-- The longest start whose characters all pass, and the rest. -/
def splitWhile (p : Char → Bool) (cs : List Char) : List Char × List Char :=
  (cs.takeWhile p, cs.dropWhile p)

theorem splitPast_append (c : Char) (cs : List Char) :
    (splitPast c cs).1 ++ (splitPast c cs).2 = cs := by
  induction cs with
  | nil => rfl
  | cons d rest ih =>
    by_cases h : d = c
    · simp [splitPast, h]
    · simp [splitPast, h, ih]

theorem splitPastBlock_append (cs : List Char) :
    (splitPastBlock cs).1 ++ (splitPastBlock cs).2 = cs := by
  fun_induction splitPastBlock cs with
  | case1 => rfl
  | case2 => rfl
  | case3 => rfl
  | case4 c d rest h taken rest' heq ih => simpa [heq] using ih

theorem splitWhile_append (p : Char → Bool) (cs : List Char) :
    (splitWhile p cs).1 ++ (splitWhile p cs).2 = cs := List.takeWhile_append_dropWhile

/-- A split in front of which one more character was read. -/
def behind (kind : TokenKind) (c : Char) (parts : List Char × List Char) : Token × List Char :=
  (⟨kind, c :: parts.1⟩, parts.2)

/-- The token that begins with `c` before `rest`, and what follows it. -/
def nextToken (c : Char) (rest : List Char) : Token × List Char :=
  if isQuote c then behind .string c (splitPast c rest)
  else if c = '-' && rest.head? = some '-' then behind .comment c (splitWhile (· != '\n') rest)
  else if c = '/' && rest.head? = some '*' then
    behind .comment c ('*' :: (splitPastBlock rest.tail).1, (splitPastBlock rest.tail).2)
  else if isBlank c then behind .whitespace c (splitWhile isBlank rest)
  else if isPunctuation c then (⟨.punctuation, [c]⟩, rest)
  else
    let (word, rest) := splitWhile isWordChar rest
    (⟨wordKind (c :: word), c :: word⟩, rest)

/-- A token and what follows it make up the text it was read from. -/
theorem nextToken_append (c : Char) (rest : List Char) :
    (nextToken c rest).1.text ++ (nextToken c rest).2 = c :: rest := by
  unfold nextToken
  split
  · simp [behind, splitPast_append]
  split
  · simp [behind, splitWhile_append]
  split
  · next h =>
    obtain ⟨_, hr⟩ := Bool.and_eq_true _ _ ▸ h
    have hr : rest = '*' :: rest.tail := by
      cases rest with
      | nil => simp at hr
      | cons d tail => simpa using hr
    rw [behind]
    simp only [List.cons_append, splitPastBlock_append]
    rw [← hr]
  split
  · simp [behind, splitWhile_append]
  split
  · rfl
  · simp [splitWhile_append]

theorem nextToken_text_ne_nil (c : Char) (rest : List Char) :
    (nextToken c rest).1.text ≠ [] := by
  unfold nextToken behind
  repeat' split
  all_goals simp

theorem length_nextToken_lt (c : Char) (rest : List Char) :
    (nextToken c rest).2.length < (c :: rest).length := by
  have h := congrArg List.length (nextToken_append c rest)
  have hn := List.length_pos_iff.2 (nextToken_text_ne_nil c rest)
  rw [List.length_append] at h
  omega

/-- The tokens of a text. -/
def tokenize : List Char → List Token
  | [] => []
  | c :: rest => (nextToken c rest).1 :: tokenize (nextToken c rest).2
termination_by cs => cs.length
decreasing_by exact length_nextToken_lt c rest

/-- The tokens of a text join to the text. -/
theorem flatMap_text_tokenize (cs : List Char) : (tokenize cs).flatMap Token.text = cs := by
  fun_induction tokenize cs with
  | case1 => rfl
  | case2 c rest ih => rw [List.flatMap_cons, ih, nextToken_append]

end QueryDesk.Sql
