import Mathlib.Data.List.Chain
import QueryDesk.Proofs.TokenEnds

/-!
# The rules of the tokens

Which tokens a text has, said without the way in which they are found. The rules say for a token and
the text behind it where a string or a comment ends, what blanks and words are made of, and that all
else is a mark on its own; of two neighbours not both are blanks and not both are words, so that
runs of these are as long as they can be. The tokens of a text obey the rules, and no other way of
cutting the text up does.

What carries the proofs is that the first character of a token tells which rule it is under: a
character is a quote, a blank, a mark or part of a word, and each kind of token begins with one
class of these.
-/
namespace QueryDesk.Sql

open QueryDesk.Text (isBlank)

/-! ### The rules -/

/-- The kinds that a word may have. -/
def TokenKind.IsWord (kind : TokenKind) : Prop :=
  kind = .keyword ∨ kind = .number ∨ kind = .identifier

/-- The rules for a token with a text behind it. -/
structure Fits (token : Token) (after : List Char) : Prop where
  filled : token.text ≠ []
  string : token.kind = .string →
    ∃ quote taken, isQuote quote = true ∧ token.text = quote :: taken ∧ EndsPast quote taken after
  line : ['-', '-'] <+: token.text ++ after → EndsLine token.text after
  block : ['/', '*'] <+: token.text ++ after →
    ∃ taken, token.text = '/' :: '*' :: taken ∧ EndsBlock taken after
  blanks : token.kind = .whitespace → ∀ c ∈ token.text, isBlank c = true
  word : token.kind.IsWord → ∀ c ∈ token.text, isWordChar c = true
  mark : token.kind ≠ .string → token.kind ≠ .whitespace → ¬token.kind.IsWord →
    ¬['-', '-'] <+: token.text ++ after → ¬['/', '*'] <+: token.text ++ after →
    ∃ c, isPunctuation c = true ∧ token.text = [c]

/-- Neighbours are neither both blanks nor both words. -/
structure Apart (left right : Token) : Prop where
  blanks : left.kind = .whitespace → right.kind ≠ .whitespace
  words : left.kind.IsWord → ¬right.kind.IsWord

/-- A text cut up into tokens by the rules. -/
structure Divided (text : List Char) (tokens : List Token) : Prop where
  joined : tokens.flatMap Token.text = text
  fits : ∀ before token after, tokens = before ++ token :: after →
    Fits token (after.flatMap Token.text)
  apart : tokens.IsChain Apart

/-- The kind of a token is what its text says: the rules alone leave open what a comment is called
and which of the three kinds a word has. -/
structure Labelled (token : Token) : Prop where
  comment : token.kind = .comment ↔ ['-', '-'] <+: token.text ∨ ['/', '*'] <+: token.text
  word : token.kind.IsWord → token.kind = wordKind token.text

/-! ### Classes of characters -/

/-- What a character is to the tokens. -/
inductive CharClass where
  | quote | blank | mark | word
  deriving DecidableEq

def charClass (c : Char) : CharClass :=
  if isQuote c then .quote else if isBlank c then .blank
  else if isPunctuation c then .mark else .word

/-- What a token of a kind begins with. -/
def TokenKind.opening : TokenKind → CharClass
  | .string => .quote
  | .whitespace => .blank
  | .comment | .punctuation => .mark
  | .keyword | .number | .identifier => .word

theorem TokenKind.opening_eq_quote_iff {kind : TokenKind} :
    kind.opening = .quote ↔ kind = .string := by
  cases kind <;> simp [opening]

theorem TokenKind.opening_eq_blank_iff {kind : TokenKind} :
    kind.opening = .blank ↔ kind = .whitespace := by
  cases kind <;> simp [opening]

theorem TokenKind.opening_eq_word_iff {kind : TokenKind} : kind.opening = .word ↔ kind.IsWord := by
  cases kind <;> simp [opening, IsWord]

theorem TokenKind.opening_eq_mark_iff {kind : TokenKind} :
    kind.opening = .mark ↔ kind ≠ .string ∧ kind ≠ .whitespace ∧ ¬kind.IsWord := by
  cases kind <;> simp [opening, IsWord]

theorem TokenKind.eq_of_opening_eq_mark {kind : TokenKind} (h : kind.opening = .mark) :
    kind = .comment ∨ kind = .punctuation := by
  cases kind <;> simp_all [opening]

theorem TokenKind.isWord_wordKind (word : List Char) : (wordKind word).IsWord := by
  unfold wordKind
  split
  · exact .inl rfl
  · split
    · exact .inr (.inl rfl)
    · exact .inr (.inr rfl)

section Classes

variable {c : Char}

theorem not_isBlank_of_isQuote (h : isQuote c = true) : isBlank c = false := by
  simp only [isQuote, Bool.or_eq_true, decide_eq_true_eq] at h
  rcases h with rfl | rfl <;> decide

/-- Marks are neither quotes nor blanks. -/
theorem plain_of_isPunctuation (h : isPunctuation c = true) :
    isQuote c = false ∧ isBlank c = false := by
  have hmarks : ['(', ')', ',', ';', '.', '*', '=', '<', '>', '+', '-', '/', '%', '!', ':', '[',
      ']'].all (fun d => !isQuote d && !isBlank d) = true := by decide
  simpa using List.all_eq_true.1 hmarks c (List.contains_iff_mem.1 h)

theorem charClass_eq_quote_iff : charClass c = .quote ↔ isQuote c = true := by
  grind [charClass]

theorem charClass_eq_blank_iff : charClass c = .blank ↔ isBlank c = true := by
  grind [charClass, not_isBlank_of_isQuote]

theorem charClass_eq_mark_iff : charClass c = .mark ↔ isPunctuation c = true := by
  grind [charClass, plain_of_isPunctuation]

theorem charClass_eq_word_iff : charClass c = .word ↔ isWordChar c = true := by
  grind [charClass, isWordChar]

end Classes

/-! ### One token -/

/-- How a token that is no comment goes on behind its first character: blanks and words as long as
they can. -/
def GoesOn (c : Char) (front after : List Char) : Prop :=
  match charClass c with
  | .quote => EndsPast c front after
  | .blank => (∀ d ∈ front, isBlank d = true) ∧ ∀ d ∈ after.head?, isBlank d = false
  | .mark => front = []
  | .word => (∀ d ∈ front, isWordChar d = true) ∧ ∀ d ∈ after.head?, isWordChar d = false

/-- The kind of a token that is no comment. -/
def plainKind (c : Char) (front : List Char) : TokenKind :=
  match charClass c with
  | .quote => .string
  | .blank => .whitespace
  | .mark => .punctuation
  | .word => wordKind (c :: front)

/-- A token that a text begins with, and the text behind it. -/
inductive Reads : Token → List Char → Prop
  | line {taken after : List Char} (h : (taken ++ after).head? = some '-')
      (hends : EndsLine taken after) : Reads ⟨.comment, '-' :: taken⟩ after
  | block {taken after : List Char} (hends : EndsBlock taken after) :
      Reads ⟨.comment, '/' :: '*' :: taken⟩ after
  | plain {c : Char} {front after : List Char} (hline : ¬['-', '-'] <+: c :: (front ++ after))
      (hblock : ¬['/', '*'] <+: c :: (front ++ after)) (hgoes : GoesOn c front after) :
      Reads ⟨plainKind c front, c :: front⟩ after

section Token

variable {token other : Token} {after front rest cs : List Char} {c : Char}

theorem line_prefix_iff : ['-', '-'] <+: c :: cs ↔ c = '-' ∧ cs.head? = some '-' := by
  cases cs <;> simp [List.cons_prefix_cons, eq_comm]

theorem block_prefix_iff : ['/', '*'] <+: c :: cs ↔ c = '/' ∧ cs.head? = some '*' := by
  cases cs <;> simp [List.cons_prefix_cons, eq_comm]

/-- Comments begin with a mark. -/
theorem charClass_of_comment (h : ['-', '-'] <+: c :: cs ∨ ['/', '*'] <+: c :: cs) :
    charClass c = .mark := by
  rcases h with h | h
  · rw [(line_prefix_iff.1 h).1]
    decide
  · rw [(block_prefix_iff.1 h).1]
    decide

theorem opening_plainKind (c : Char) (front : List Char) :
    (plainKind c front).opening = charClass c := by
  unfold plainKind
  split
  · simp [*, TokenKind.opening]
  · simp [*, TokenKind.opening]
  · simp [*, TokenKind.opening]
  · rename_i hclass
    rw [hclass]
    exact TokenKind.opening_eq_word_iff.2 (TokenKind.isWord_wordKind _)

theorem nextToken_of_line (h : ['-', '-'] <+: c :: rest) :
    nextToken c rest = behind .comment c (splitWhile (· != '\n') rest) := by
  obtain ⟨rfl, hrest⟩ := line_prefix_iff.1 h
  simp [nextToken, isQuote, hrest]

theorem nextToken_of_block (h : ['/', '*'] <+: c :: rest) :
    nextToken c rest =
      behind .comment c ('*' :: (splitPastBlock rest.tail).1, (splitPastBlock rest.tail).2) := by
  obtain ⟨rfl, hrest⟩ := block_prefix_iff.1 h
  simp [nextToken, isQuote, hrest]

/-- Where no comment begins, the class of the first character decides. -/
theorem nextToken_of_plain (hline : ¬['-', '-'] <+: c :: rest)
    (hblock : ¬['/', '*'] <+: c :: rest) :
    nextToken c rest =
      match charClass c with
      | .quote => behind .string c (splitPast c rest)
      | .blank => behind .whitespace c (splitWhile isBlank rest)
      | .mark => (⟨.punctuation, [c]⟩, rest)
      | .word =>
          let parts := splitWhile isWordChar rest
          behind (wordKind (c :: parts.1)) c parts := by
  rw [line_prefix_iff] at hline
  rw [block_prefix_iff] at hblock
  simp only [nextToken, charClass, Bool.and_eq_true, decide_eq_true_eq, hline, hblock, if_false]
  split
  · rfl
  · split
    · rfl
    · split <;> rfl

/-- The token that is found is one that the text begins with. -/
theorem reads_nextToken (c : Char) (rest : List Char) :
    Reads (nextToken c rest).1 (nextToken c rest).2 := by
  by_cases hline : ['-', '-'] <+: c :: rest
  · rw [nextToken_of_line hline]
    obtain ⟨rfl, -⟩ := line_prefix_iff.1 hline
    have hends := endsLine_splitWhile rest
    rw [← splitWhile_append (· != '\n') rest] at hline
    exact .line (line_prefix_iff.1 hline).2 hends
  by_cases hblock : ['/', '*'] <+: c :: rest
  · rw [nextToken_of_block hblock]
    obtain ⟨rfl, -⟩ := block_prefix_iff.1 hblock
    exact .block (endsBlock_splitPastBlock rest.tail)
  have hplain : ∀ {front after}, front ++ after = rest → GoesOn c front after →
      Reads ⟨plainKind c front, c :: front⟩ after := by
    rintro front after rfl hgoes
    exact .plain hline hblock hgoes
  rw [nextToken_of_plain hline hblock]
  unfold GoesOn plainKind at hplain
  cases hclass : charClass c with
  | quote =>
    simp only [hclass] at hplain
    exact hplain (splitPast_append c rest) (endsPast_splitPast c rest)
  | blank =>
    simp only [hclass] at hplain
    exact hplain (splitWhile_append isBlank rest)
      ⟨fun d => mem_splitWhile, head?_splitWhile isBlank rest⟩
  | mark =>
    simp only [hclass] at hplain
    exact hplain (List.nil_append rest) rfl
  | word =>
    simp only [hclass] at hplain
    exact hplain (splitWhile_append isWordChar rest)
      ⟨fun d => mem_splitWhile, head?_splitWhile isWordChar rest⟩

/-- A text begins with one token only. -/
theorem Reads.nextToken_eq (h : Reads token after) (htext : token.text ++ after = c :: rest) :
    nextToken c rest = (token, after) := by
  cases h with
  | line h hends =>
    dsimp only at htext
    rw [List.cons_append] at htext
    obtain ⟨rfl, rfl⟩ := List.cons.inj htext
    rw [nextToken_of_line (line_prefix_iff.2 ⟨rfl, h⟩), splitWhile_of_endsLine hends]
    rfl
  | block hends =>
    dsimp only at htext
    rw [List.cons_append, List.cons_append] at htext
    obtain ⟨rfl, rfl⟩ := List.cons.inj htext
    rw [nextToken_of_block (block_prefix_iff.2 ⟨rfl, rfl⟩), List.tail_cons,
      splitPastBlock_of_ends hends]
    rfl
  | plain hline hblock hgoes =>
    dsimp only at htext
    rw [List.cons_append] at htext
    obtain ⟨rfl, rfl⟩ := List.cons.inj htext
    rw [nextToken_of_plain hline hblock]
    unfold GoesOn at hgoes
    unfold plainKind
    split at hgoes
    · simp only [*, splitPast_of_ends hgoes, behind]
    · simp only [*, splitWhile_of_ends hgoes.1 hgoes.2, behind]
    · simp only [*, List.nil_append]
    · simp only [*, splitWhile_of_ends hgoes.1 hgoes.2, behind]

/-- A token that a text begins with obeys the rules. -/
theorem Reads.fits (h : Reads token after) : Fits token after := by
  cases h with
  | @line taken _ h hends =>
    exact {
      filled := List.cons_ne_nil _ _
      string := nofun
      line := fun _ => ⟨List.not_mem_cons_of_ne_of_not_mem (by decide) hends.1, hends.2⟩
      block := fun hblock => absurd (block_prefix_iff.1 hblock).1 (by decide)
      blanks := nofun
      word := fun hword => by simp [TokenKind.IsWord] at hword
      mark := fun _ _ _ hline => absurd (line_prefix_iff.2 ⟨rfl, h⟩) hline }
  | @block taken _ hends =>
    exact {
      filled := List.cons_ne_nil _ _
      string := nofun
      line := fun hline => absurd (line_prefix_iff.1 hline).1 (by decide)
      block := fun _ => ⟨taken, rfl, hends⟩
      blanks := nofun
      word := fun hword => by simp [TokenKind.IsWord] at hword
      mark := fun _ _ _ _ hblock => absurd ⟨taken ++ after, rfl⟩ hblock }
  | @plain c front _ hline hblock hgoes =>
    have hopening := opening_plainKind c front
    unfold GoesOn at hgoes
    exact {
      filled := List.cons_ne_nil _ _
      string := fun hkind => by
        rw [← TokenKind.opening_eq_quote_iff, hopening] at hkind
        simp only [hkind] at hgoes
        exact ⟨c, front, charClass_eq_quote_iff.1 hkind, rfl, hgoes⟩
      line := fun h => absurd h hline
      block := fun h => absurd h hblock
      blanks := fun hkind => by
        rw [← TokenKind.opening_eq_blank_iff, hopening] at hkind
        simp only [hkind] at hgoes
        exact List.forall_mem_cons.2 ⟨charClass_eq_blank_iff.1 hkind, hgoes.1⟩
      word := fun hkind => by
        rw [← TokenKind.opening_eq_word_iff, hopening] at hkind
        simp only [hkind] at hgoes
        exact List.forall_mem_cons.2 ⟨charClass_eq_word_iff.1 hkind, hgoes.1⟩
      mark := fun hstring hblanks hword _ _ => by
        have hmark := TokenKind.opening_eq_mark_iff.2 ⟨hstring, hblanks, hword⟩
        rw [hopening] at hmark
        simp only [hmark] at hgoes
        exact ⟨c, charClass_eq_mark_iff.1 hmark, by rw [hgoes]⟩ }

theorem Fits.eq_mark (h : Fits token after) (hkind : token.kind.opening = .mark)
    (hline : ¬['-', '-'] <+: token.text ++ after) (hblock : ¬['/', '*'] <+: token.text ++ after) :
    ∃ c, isPunctuation c = true ∧ token.text = [c] := by
  obtain ⟨hstring, hblanks, hword⟩ := TokenKind.opening_eq_mark_iff.1 hkind
  exact h.mark hstring hblanks hword hline hblock

/-- The first character of a token tells the class of its kind. -/
theorem Fits.opening (h : Fits token after) (htext : token.text ++ after = c :: rest) :
    charClass c = token.kind.opening := by
  obtain ⟨d, front, hfront⟩ := List.exists_cons_of_ne_nil h.filled
  rw [hfront, List.cons_append] at htext
  obtain ⟨rfl, -⟩ := List.cons.inj htext
  have hmem : d ∈ token.text := hfront ▸ List.mem_cons_self
  have hstart : token.text ++ after = d :: (front ++ after) := by rw [hfront, List.cons_append]
  cases hkind : token.kind.opening with
  | quote =>
    obtain ⟨quote, taken, hquote, hopen, -⟩ := h.string (TokenKind.opening_eq_quote_iff.1 hkind)
    rw [hfront] at hopen
    rw [(List.cons.inj hopen).1]
    exact charClass_eq_quote_iff.2 hquote
  | blank =>
    exact charClass_eq_blank_iff.2 (h.blanks (TokenKind.opening_eq_blank_iff.1 hkind) d hmem)
  | word =>
    exact charClass_eq_word_iff.2 (h.word (TokenKind.opening_eq_word_iff.1 hkind) d hmem)
  | mark =>
    by_cases hline : ['-', '-'] <+: token.text ++ after
    · exact charClass_of_comment (.inl (hstart ▸ hline))
    by_cases hblock : ['/', '*'] <+: token.text ++ after
    · exact charClass_of_comment (.inr (hstart ▸ hblock))
    obtain ⟨e, he, hone⟩ := h.eq_mark hkind hline hblock
    rw [hfront] at hone
    rw [(List.cons.inj hone).1]
    exact charClass_eq_mark_iff.2 he

/-- A run of blanks or a word ends where the next token cannot be another one. -/
theorem Reads.apart (h : Reads token (c :: rest)) (hother : charClass c = other.kind.opening) :
    Apart token other := by
  cases h with
  | line => exact ⟨nofun, fun hword => by simp [TokenKind.IsWord] at hword⟩
  | block => exact ⟨nofun, fun hword => by simp [TokenKind.IsWord] at hword⟩
  | @plain d front _ hline hblock hgoes =>
    have hopening := opening_plainKind d front
    unfold GoesOn at hgoes
    refine ⟨fun hkind hblank => ?_, fun hkind hword => ?_⟩
    · rw [← TokenKind.opening_eq_blank_iff, hopening] at hkind
      rw [← TokenKind.opening_eq_blank_iff, ← hother, charClass_eq_blank_iff] at hblank
      simp only [hkind] at hgoes
      exact Bool.false_ne_true ((hgoes.2 c rfl).symm.trans hblank)
    · rw [← TokenKind.opening_eq_word_iff, hopening] at hkind
      rw [← TokenKind.opening_eq_word_iff, ← hother, charClass_eq_word_iff] at hword
      simp only [hkind] at hgoes
      exact Bool.false_ne_true ((hgoes.2 c rfl).symm.trans hword)

theorem Reads.labelled (h : Reads token after) : Labelled token := by
  cases h with
  | @line taken _ h hends =>
    refine ⟨iff_of_true rfl (.inl ?_), fun hword => by simp [TokenKind.IsWord] at hword⟩
    cases taken with
    | nil =>
      -- behind a line comment is a line feed
      exact absurd (hends.2 '-' h) (by decide)
    | cons d taken => exact line_prefix_iff.2 ⟨rfl, h⟩
  | block =>
    exact ⟨iff_of_true rfl (.inr (block_prefix_iff.2 ⟨rfl, rfl⟩)),
      fun hword => by simp [TokenKind.IsWord] at hword⟩
  | @plain c front _ hline hblock =>
    have hlonger : c :: front <+: c :: (front ++ after) := List.prefix_append (c :: front) after
    refine ⟨iff_of_false ?_ ?_, fun hword => ?_⟩
    · intro hkind
      have hopening := opening_plainKind c front
      dsimp only at hkind
      rw [hkind] at hopening
      unfold plainKind at hkind
      rw [← hopening] at hkind
      cases hkind
    · rintro (h | h)
      · exact hline (h.trans hlonger)
      · exact hblock (h.trans hlonger)
    · rw [← TokenKind.opening_eq_word_iff, opening_plainKind] at hword
      simp only [plainKind, hword]

/-- A token that obeys the rules and is as long as it can be is one that the text begins with, but
for its label. -/
theorem Fits.reads (h : Fits token after)
    (hblanks : token.kind = .whitespace → ∀ c ∈ after.head?, isBlank c = false)
    (hwords : token.kind.IsWord → ∀ c ∈ after.head?, isWordChar c = false) :
    ∃ kind, Reads ⟨kind, token.text⟩ after := by
  obtain ⟨c, front, htext⟩ := List.exists_cons_of_ne_nil h.filled
  have hstart : token.text ++ after = c :: (front ++ after) := by rw [htext, List.cons_append]
  have hclass := h.opening hstart
  by_cases hline : ['-', '-'] <+: token.text ++ after
  · have hends := h.line hline
    rw [hstart] at hline
    obtain ⟨rfl, hnext⟩ := line_prefix_iff.1 hline
    rw [htext] at hends ⊢
    exact ⟨.comment, .line hnext ⟨fun hmem => hends.1 (List.mem_cons_of_mem _ hmem), hends.2⟩⟩
  by_cases hblock : ['/', '*'] <+: token.text ++ after
  · obtain ⟨taken, htaken, hends⟩ := h.block hblock
    rw [htaken]
    exact ⟨.comment, .block hends⟩
  have hgoes : GoesOn c front after := by
    unfold GoesOn
    cases hkind : token.kind.opening with
    | quote =>
      obtain ⟨quote, taken, -, hopen, hends⟩ := h.string (TokenKind.opening_eq_quote_iff.1 hkind)
      rw [htext] at hopen
      obtain ⟨rfl, rfl⟩ := List.cons.inj hopen
      simpa only [hclass, hkind] using hends
    | blank =>
      have hblank := TokenKind.opening_eq_blank_iff.1 hkind
      have hall := h.blanks hblank
      rw [htext] at hall
      simpa only [hclass, hkind] using ⟨(List.forall_mem_cons.1 hall).2, hblanks hblank⟩
    | word =>
      have hword := TokenKind.opening_eq_word_iff.1 hkind
      have hall := h.word hword
      rw [htext] at hall
      simpa only [hclass, hkind] using ⟨(List.forall_mem_cons.1 hall).2, hwords hword⟩
    | mark =>
      obtain ⟨e, -, hone⟩ := h.eq_mark hkind hline hblock
      rw [htext] at hone
      simpa only [hclass, hkind] using (List.cons.inj hone).2
  rw [hstart] at hline hblock
  rw [htext]
  exact ⟨plainKind c front, .plain hline hblock hgoes⟩

/-- The label of a token is settled by its text. -/
theorem Labelled.kind_eq (h : Labelled token) (hother : Labelled other) (hfits : Fits token after)
    (hfits' : Fits other after) (htext : token.text = other.text) : token.kind = other.kind := by
  obtain ⟨c, front, hfront⟩ := List.exists_cons_of_ne_nil hfits.filled
  have hstart : token.text ++ after = c :: (front ++ after) := by rw [hfront, List.cons_append]
  have hsame : token.kind.opening = other.kind.opening :=
    (hfits.opening hstart).symm.trans (hfits'.opening (htext ▸ hstart))
  cases hkind : token.kind.opening with
  | quote =>
    rw [TokenKind.opening_eq_quote_iff.1 hkind,
      TokenKind.opening_eq_quote_iff.1 (hsame.symm.trans hkind)]
  | blank =>
    rw [TokenKind.opening_eq_blank_iff.1 hkind,
      TokenKind.opening_eq_blank_iff.1 (hsame.symm.trans hkind)]
  | word =>
    rw [h.word (TokenKind.opening_eq_word_iff.1 hkind),
      hother.word (TokenKind.opening_eq_word_iff.1 (hsame.symm.trans hkind)), htext]
  | mark =>
    have hcomment : token.kind = .comment ↔ other.kind = .comment := by
      rw [h.comment, hother.comment, htext]
    rcases TokenKind.eq_of_opening_eq_mark hkind with hk | hk
    · rw [hk, hcomment.1 hk]
    · rcases TokenKind.eq_of_opening_eq_mark (hsame.symm.trans hkind) with hk' | hk'
      · rw [hcomment.2 hk', hk']
      · rw [hk, hk']

end Token

/-! ### All tokens -/

variable {text : List Char} {token : Token} {tokens : List Token}

/-- The rules for a text are those for its first token and for the text behind it. -/
theorem divided_cons_iff :
    Divided text (token :: tokens) ↔
      token.text ++ tokens.flatMap Token.text = text ∧
        Fits token (tokens.flatMap Token.text) ∧ (∀ other ∈ tokens.head?, Apart token other) ∧
        Divided (tokens.flatMap Token.text) tokens := by
  constructor
  · rintro ⟨hjoined, hfits, hapart⟩
    obtain ⟨hfirst, hlater⟩ := List.isChain_cons.1 hapart
    refine ⟨hjoined, hfits [] token tokens rfl, hfirst, rfl, ?_, hlater⟩
    rintro before other after rfl
    exact hfits (token :: before) other after rfl
  · rintro ⟨hjoined, hfits, hfirst, -, hlater, hapart⟩
    refine ⟨hjoined, ?_, List.isChain_cons.2 ⟨hfirst, hapart⟩⟩
    intro before other after hsplit
    cases before with
    | nil =>
      obtain ⟨rfl, rfl⟩ := List.cons.inj hsplit
      exact hfits
    | cons first before => exact hlater before other after (List.cons.inj hsplit).2

theorem divided_tokenize (cs : List Char) : Divided cs (tokenize cs) := by
  fun_induction tokenize cs with
  | case1 => exact ⟨rfl, fun before _ _ h => by simp at h, .nil⟩
  | case2 c rest ih =>
    have hread := reads_nextToken c rest
    rw [divided_cons_iff, flatMap_text_tokenize]
    refine ⟨nextToken_append c rest, hread.fits, ?_, ih⟩
    intro other hother
    generalize (nextToken c rest).2 = after at hread hother
    cases after with
    | nil => simp [tokenize] at hother
    | cons d after =>
      rw [tokenize, List.head?_cons, Option.mem_some_iff] at hother
      rw [← hother]
      exact hread.apart ((reads_nextToken d after).fits.opening (nextToken_append d after))

theorem labelled_tokenize (cs : List Char) : ∀ token ∈ tokenize cs, Labelled token := by
  fun_induction tokenize cs with
  | case1 => exact List.forall_mem_nil _
  | case2 c rest ih => exact List.forall_mem_cons.2 ⟨(reads_nextToken c rest).labelled, ih⟩

/-- Of a cut text the tokenizer finds the first token, but for its label, and the rest behind it. -/
theorem Divided.nextToken_eq (h : Divided text (token :: tokens)) :
    ∃ c rest kind, text = c :: rest ∧ Reads ⟨kind, token.text⟩ (tokens.flatMap Token.text) ∧
      nextToken c rest = (⟨kind, token.text⟩, tokens.flatMap Token.text) := by
  obtain ⟨rfl, hfits, hfirst, hlater⟩ := divided_cons_iff.1 h
  have hnext : ∀ c ∈ (tokens.flatMap Token.text).head?, ∃ other ∈ tokens.head?,
      charClass c = other.kind.opening := by
    intro c hc
    cases tokens with
    | nil => simp at hc
    | cons other tokens =>
      obtain ⟨rest, hrest⟩ : ∃ rest, (other :: tokens).flatMap Token.text = c :: rest :=
        List.head?_eq_some_iff.1 hc
      exact ⟨other, rfl, (divided_cons_iff.1 hlater).2.1.opening hrest⟩
  obtain ⟨kind, hread⟩ := hfits.reads
    (fun hkind c hc => by
      obtain ⟨other, hother, hclass⟩ := hnext c hc
      have hapart := (hfirst other hother).blanks hkind
      rwa [ne_eq, ← TokenKind.opening_eq_blank_iff, ← hclass, charClass_eq_blank_iff,
        Bool.not_eq_true] at hapart)
    (fun hkind c hc => by
      obtain ⟨other, hother, hclass⟩ := hnext c hc
      have hapart := (hfirst other hother).words hkind
      rwa [← TokenKind.opening_eq_word_iff, ← hclass, charClass_eq_word_iff,
        Bool.not_eq_true] at hapart)
  obtain ⟨c, front, htext⟩ := List.exists_cons_of_ne_nil hfits.filled
  have hstart : token.text ++ tokens.flatMap Token.text =
      c :: (front ++ tokens.flatMap Token.text) := by
    rw [htext, List.cons_append]
  exact ⟨c, _, kind, hstart, hread, hread.nextToken_eq hstart⟩

theorem Divided.map_text_eq (h : Divided text tokens) :
    tokens.map Token.text = (tokenize text).map Token.text := by
  induction tokens generalizing text with
  | nil =>
    rw [← h.joined, List.flatMap_nil, tokenize]
  | cons token tokens ih =>
    obtain ⟨c, rest, kind, rfl, -, hnext⟩ := h.nextToken_eq
    rw [tokenize, hnext, List.map_cons, List.map_cons, ih (divided_cons_iff.1 h).2.2.2]

theorem Divided.eq_tokenize (h : Divided text tokens) (hlabels : ∀ token ∈ tokens, Labelled token) :
    tokens = tokenize text := by
  induction tokens generalizing text with
  | nil =>
    rw [← h.joined, List.flatMap_nil, tokenize]
  | cons token tokens ih =>
    obtain ⟨-, hfits, -, hlater⟩ := divided_cons_iff.1 h
    obtain ⟨hlabel, hlabels⟩ := List.forall_mem_cons.1 hlabels
    obtain ⟨c, rest, kind, rfl, hread, hnext⟩ := h.nextToken_eq
    have hkind : token.kind = kind := hlabel.kind_eq hread.labelled hfits hread.fits rfl
    rw [tokenize, hnext, ← ih hlater hlabels, ← hkind]

/-- The text from a token on has the tokens from there on. -/
theorem tokenize_drop {before after : List Token} (h : tokenize text = before ++ after) :
    tokenize (text.drop (before.flatMap Token.text).length) = after := by
  induction before generalizing text with
  | nil => exact h
  | cons token before ih =>
    cases text with
    | nil => simp [tokenize] at h
    | cons c rest =>
      rw [tokenize, List.cons_append] at h
      obtain ⟨hfirst, hlater⟩ := List.cons.inj h
      have hdrop := ih hlater
      rw [← nextToken_append c rest, hfirst, List.flatMap_cons, List.length_append,
        ← List.drop_drop, List.drop_left]
      exact hdrop

/-- The tokens of a text obey the rules and bear the labels that their texts ask for. From any
token on they are the tokens of the rest of the text. No other way to cut up the text obeys the
rules, and no other labels are those of the texts. -/
theorem only_tokenize_divides (text : List Char) :
    Divided text (tokenize text) ∧ (∀ token ∈ tokenize text, Labelled token) ∧
      (∀ before after, tokenize text = before ++ after →
        tokenize (text.drop (before.flatMap Token.text).length) = after) ∧
      ∀ tokens, Divided text tokens →
        tokens.map Token.text = (tokenize text).map Token.text ∧
          ((∀ token ∈ tokens, Labelled token) → tokens = tokenize text) :=
  ⟨divided_tokenize text, labelled_tokenize text, fun _ _ => tokenize_drop,
    fun _ h => ⟨h.map_text_eq, h.eq_tokenize⟩⟩

/-- A comment up to the end of its line, a string behind it and one that is not closed. -/
theorem open_string_ends_text :
    let text := "x--y\n'a''b".toList
    let before : List Token := [⟨.identifier, "x".toList⟩, ⟨.comment, "--y".toList⟩]
    let after : List Token :=
      [⟨.whitespace, "\n".toList⟩, ⟨.string, "'a'".toList⟩, ⟨.string, "'b".toList⟩]
    tokenize text = before ++ after ∧ Divided text (before ++ after) ∧
      (∀ token ∈ before ++ after, Labelled token) ∧ tokenize (text.drop 4) = after ∧
      (before ++ after).map Token.text = (tokenize text).map Token.text := by
  intro text before after
  obtain ⟨hdivided, hlabels, hdrop, honly⟩ := only_tokenize_divides text
  have htokens : tokenize "x--y\n'a''b".toList = before ++ after := by
    simp only [before, after]
    decide +kernel
  have hlength : (before.flatMap Token.text).length = 4 := by decide
  have hlater := hdrop before after htokens
  rw [hlength] at hlater
  rw [htokens] at hdivided hlabels
  exact ⟨htokens, hdivided, hlabels, hlater, (honly _ hdivided).1⟩

end QueryDesk.Sql
