import Mathlib.Tactic.SplitIfs
import QueryDesk.Proofs.TokenRules

/-!
# The letters of keywords

A keyword may be written in any case. Its letters are ASCII's, but the capitals in which words are
compared with it are Unicode's, and ten letters outside ASCII have ASCII letters for capitals. So a
word can spell a keyword in two ways: by the letters of the keyword, each in either case, or with
some of the ten in the place of what they turn into. Keywords are meant to be found by the first;
the second is all that is found besides.
-/
namespace QueryDesk.Sql

open QueryDesk.Text (isAsciiDigit)

/-- Two texts that differ at most in the case of ASCII letters. -/
def SameLetters (word entry : List Char) : Prop :=
  word.map Char.toLower = entry.map Char.toLower

instance (word entry : List Char) : Decidable (SameLetters word entry) :=
  inferInstanceAs (Decidable (_ = _))

/-- The kind of a word if only the case of ASCII letters makes no difference. -/
def properKind (word : List Char) : TokenKind :=
  if ∃ entry ∈ keywords, SameLetters word entry.toList then .keyword
  else if word.all isAsciiDigit then .number
  else .identifier

/-- The letters outside ASCII whose capitals are ASCII letters, with their capitals. -/
def foreignLetters : List (Char × List Char) :=
  [('ß', ['S', 'S']), ('ı', ['I']), ('ſ', ['S']), ('ﬀ', ['F', 'F']), ('ﬁ', ['F', 'I']),
    ('ﬂ', ['F', 'L']), ('ﬃ', ['F', 'F', 'I']), ('ﬄ', ['F', 'F', 'L']), ('ﬅ', ['S', 'T']),
    ('ﬆ', ['S', 'T'])]

def Foreign (c : Char) : Prop := c ∈ foreignLetters.map Prod.fst

/-- A word spells a text letter by letter, or with foreign letters in the place of their
capitals. -/
inductive Spells : List Char → List Char → Prop
  | nil : Spells [] []
  | letter {c d : Char} {word entry : List Char} (h : c.toLower = d.toLower)
      (hrest : Spells word entry) : Spells (c :: word) (d :: entry)
  | foreign {c : Char} {letters word entry : List Char} (h : (c, letters) ∈ foreignLetters)
      (hrest : Spells word entry) : Spells (c :: word) (letters ++ entry)

def SpellsKeyword (word : List Char) : Prop := ∃ entry ∈ keywords, Spells word entry.toList

/-- A word that spells a keyword with a letter that no keyword has. -/
def Disguised (word : List Char) : Prop := SpellsKeyword word ∧ ∃ c ∈ word, Foreign c

variable {c d : Char} {word entry : List Char}

/-! ### Letters and their capitals -/

theorem capitals_of_mem : ∀ p ∈ foreignLetters, capitals p.1 = p.2 := by
  simp [foreignLetters, capitals]

theorem capitals_of_not_foreign (h : ¬Foreign c) : capitals c = [c.toUpper] := by
  unfold capitals
  split
  case h_11 => rfl
  all_goals exact absurd (by simp [Foreign, foreignLetters]) h

theorem not_isUpper_of_foreign (h : Foreign c) : c.toUpper.isUpper = false := by
  have hall : foreignLetters.all (fun p => !p.1.toUpper.isUpper) = true := by decide
  obtain ⟨p, hp, rfl⟩ := List.mem_map.1 h
  simpa using List.all_eq_true.1 hall p hp

theorem isUpper_of_keyword (entry : String) (h : entry ∈ keywords) :
    ∀ d ∈ entry.toList, d.isUpper = true := by
  have hall : keywords.all (fun entry => entry.toList.all Char.isUpper) = true := by decide
  exact List.all_eq_true.1 (List.all_eq_true.1 hall entry h)

theorem toNat_toUpper (c : Char) :
    c.toUpper.toNat = if 97 ≤ c.toNat ∧ c.toNat ≤ 122 then c.toNat - 32 else c.toNat := by
  unfold Char.toUpper
  split
  case isTrue h =>
    have hrange : 97 ≤ c.toNat ∧ c.toNat ≤ 122 := by simpa [UInt32.le_iff_toNat_le] using h
    have hsum := UInt32.toNat_add c.val ('A'.val - 'a'.val)
    have hdown : ('A'.val - 'a'.val).toNat = 4294967264 := rfl
    rw [hdown, Char.toNat_val] at hsum
    rw [if_pos hrange]
    exact hsum.trans (by omega)
  case isFalse h => exact (if_neg (by simpa [UInt32.le_iff_toNat_le] using h)).symm

theorem toNat_toLower (c : Char) :
    c.toLower.toNat = if 65 ≤ c.toNat ∧ c.toNat ≤ 90 then c.toNat + 32 else c.toNat := by
  unfold Char.toLower
  split
  case isTrue h =>
    have hrange : 65 ≤ c.toNat ∧ c.toNat ≤ 90 := by simpa [UInt32.le_iff_toNat_le] using h
    have hsum := UInt32.toNat_add c.val ('a'.val - 'A'.val)
    have hup : ('a'.val - 'A'.val).toNat = 32 := rfl
    rw [hup, Char.toNat_val] at hsum
    rw [if_pos hrange]
    exact hsum.trans (by omega)
  case isFalse h => exact (if_neg (by simpa [UInt32.le_iff_toNat_le] using h)).symm

theorem isUpper_iff (c : Char) : c.isUpper = true ↔ 65 ≤ c.toNat ∧ c.toNat ≤ 90 := by
  rw [← Char.toNat_val]
  exact decide_eq_true_iff.trans (and_congr UInt32.le_iff_toNat_le UInt32.le_iff_toNat_le)

theorem toLower_toUpper (c : Char) : c.toUpper.toLower = c.toLower := by
  rw [← Char.toNat_inj, toNat_toLower, toNat_toLower, toNat_toUpper]
  split_ifs <;> omega

/-- A letter that is the same as a capital, but for its case, turns into it. -/
theorem toUpper_of_same (hd : d.isUpper = true) (h : c.toLower = d.toLower) : c.toUpper = d := by
  rw [isUpper_iff] at hd
  rw [← Char.toNat_inj, toNat_toLower, toNat_toLower, if_pos hd] at h
  rw [← Char.toNat_inj, toNat_toUpper]
  split at h <;> split <;> omega

theorem not_foreign_of_same (hd : d.isUpper = true) (h : c.toLower = d.toLower) : ¬Foreign c := by
  intro hc
  have hupper := not_isUpper_of_foreign hc
  rw [toUpper_of_same hd h, hd] at hupper
  cases hupper

/-- No keyword has a digit in it. -/
theorem not_isUpper_of_digit (h : isAsciiDigit c = true) : c.toUpper.isUpper = false := by
  rw [Bool.eq_false_iff, ne_eq, isUpper_iff, toNat_toUpper]
  have hrange : 48 ≤ c.toNat ∧ c.toNat ≤ 57 := by
    simpa [isAsciiDigit, Char.le_def, UInt32.le_iff_toNat_le] using h
  split <;> omega

/-! ### Spelling -/

/-- A word spells its capitals. -/
theorem spells_capitals (word : List Char) : Spells word (word.flatMap capitals) := by
  induction word with
  | nil => exact .nil
  | cons c word ih =>
    rw [List.flatMap_cons]
    by_cases hc : Foreign c
    · obtain ⟨p, hp, rfl⟩ := List.mem_map.1 hc
      rw [capitals_of_mem p hp]
      exact .foreign hp ih
    · rw [capitals_of_not_foreign hc]
      exact .letter (toLower_toUpper c).symm ih

/-- In capitals a word spells nothing else. -/
theorem Spells.capitals_eq (h : Spells word entry) (hupper : ∀ d ∈ entry, d.isUpper = true) :
    word.flatMap capitals = entry := by
  induction h with
  | nil => rfl
  | letter h _ ih =>
    obtain ⟨hd, hrest⟩ := List.forall_mem_cons.1 hupper
    rw [List.flatMap_cons, capitals_of_not_foreign (not_foreign_of_same hd h),
      toUpper_of_same hd h, ih hrest, List.singleton_append]
  | foreign h _ ih =>
    have hrest := fun d hd => hupper d (List.mem_append_right _ hd)
    rw [List.flatMap_cons, capitals_of_mem _ h, ih hrest]

theorem isKeyword_iff (word : List Char) : isKeyword word = true ↔ SpellsKeyword word := by
  rw [isKeyword, List.contains_iff_mem]
  constructor
  · intro hmem
    refine ⟨_, hmem, ?_⟩
    rw [String.toList_ofList]
    exact spells_capitals word
  · rintro ⟨entry, hmem, hspells⟩
    rwa [hspells.capitals_eq (isUpper_of_keyword entry hmem), String.ofList_toList]

theorem SameLetters.spells (h : SameLetters word entry) : Spells word entry := by
  induction word generalizing entry with
  | nil =>
    obtain rfl : entry = [] := List.map_eq_nil_iff.1 h.symm
    exact .nil
  | cons c word ih =>
    cases entry with
    | nil => cases h
    | cons d entry =>
      obtain ⟨hfirst, hrest⟩ := List.cons.inj h
      exact .letter hfirst (ih hrest)

/-- Without foreign letters a word spells what has its letters. -/
theorem Spells.sameLetters (h : Spells word entry) (hnone : ∀ c ∈ word, ¬Foreign c) :
    SameLetters word entry := by
  induction h with
  | nil => rfl
  | letter h _ ih =>
    have hrest := ih fun c hc => hnone c (List.mem_cons_of_mem _ hc)
    rw [SameLetters, List.map_cons, List.map_cons, h, hrest]
  | foreign h _ _ => exact absurd (List.mem_map_of_mem h) (hnone _ List.mem_cons_self)

theorem SameLetters.not_foreign (h : SameLetters word entry)
    (hupper : ∀ d ∈ entry, d.isUpper = true) : ∀ c ∈ word, ¬Foreign c := by
  intro c hc
  have hmem : c.toLower ∈ entry.map Char.toLower := h ▸ List.mem_map_of_mem hc
  obtain ⟨d, hd, hsame⟩ := List.mem_map.1 hmem
  exact not_foreign_of_same (hupper d hd) hsame.symm

/-- A word has the letters of a keyword just if it spells one without foreign letters. -/
theorem exists_sameLetters_iff (word : List Char) :
    (∃ entry ∈ keywords, SameLetters word entry.toList) ↔
      SpellsKeyword word ∧ ∀ c ∈ word, ¬Foreign c := by
  constructor
  · rintro ⟨entry, hmem, hsame⟩
    exact ⟨⟨entry, hmem, hsame.spells⟩, hsame.not_foreign (isUpper_of_keyword entry hmem)⟩
  · rintro ⟨⟨entry, hmem, hspells⟩, hnone⟩
    exact ⟨entry, hmem, hspells.sameLetters hnone⟩

/-! ### Kinds of words -/

/-- A run of digits spells no keyword. -/
theorem not_spellsKeyword_of_digits (hfilled : word ≠ []) (h : word.all isAsciiDigit = true) :
    ¬SpellsKeyword word := by
  rintro ⟨entry, hmem, hspells⟩
  have hupper := isUpper_of_keyword entry hmem
  generalize entry.toList = letters at hspells hupper
  cases hspells with
  | nil => exact hfilled rfl
  | @letter c d _ _ hsame _ =>
    have hc : isAsciiDigit c = true := List.all_eq_true.1 h c List.mem_cons_self
    have hd : d.isUpper = true := hupper d List.mem_cons_self
    rw [← toUpper_of_same hd hsame, not_isUpper_of_digit hc] at hd
    cases hd
  | @foreign c _ _ _ hforeign _ =>
    have hc : isAsciiDigit c = true := List.all_eq_true.1 h c List.mem_cons_self
    have hnone : foreignLetters.all (fun p => !isAsciiDigit p.1) = true := by decide
    have hother := List.all_eq_true.1 hnone _ hforeign
    rw [hc] at hother
    cases hother

theorem wordKind_eq_keyword_iff (word : List Char) :
    wordKind word = .keyword ↔ SpellsKeyword word := by
  rw [← isKeyword_iff, wordKind]
  split
  · simp [*]
  · split <;> simp [*]

theorem wordKind_eq_number_iff (hfilled : word ≠ []) :
    wordKind word = .number ↔ word.all isAsciiDigit = true := by
  rw [wordKind]
  split
  · rename_i hkeyword
    have hdigits := fun h => not_spellsKeyword_of_digits hfilled h ((isKeyword_iff word).1 hkeyword)
    simpa using hdigits
  · split <;> simp [*]

/-- Only disguised words have a kind that is not meant for them. -/
theorem wordKind_eq_properKind_iff (word : List Char) :
    wordKind word = properKind word ↔ ¬Disguised word := by
  have hproper : (∃ entry ∈ keywords, SameLetters word entry.toList) ↔
      SpellsKeyword word ∧ ¬∃ c ∈ word, Foreign c := by
    rw [exists_sameLetters_iff]
    simp
  by_cases hspells : SpellsKeyword word
  · have hkind : wordKind word = .keyword := (wordKind_eq_keyword_iff word).2 hspells
    by_cases hforeign : ∃ c ∈ word, Foreign c
    · have hother : properKind word ≠ .keyword := by
        rw [properKind, if_neg fun h => (hproper.1 h).2 hforeign]
        split <;> decide
      exact iff_of_false (hkind ▸ hother.symm) (not_not_intro ⟨hspells, hforeign⟩)
    · have hsame : properKind word = .keyword := if_pos (hproper.2 ⟨hspells, hforeign⟩)
      exact iff_of_true (hkind.trans hsame.symm) fun h => hforeign h.2
  · have hsame : wordKind word = properKind word := by
      rw [wordKind, properKind, if_neg (mt (isKeyword_iff word).1 hspells),
        if_neg fun h => hspells (hproper.1 h).1]
    exact iff_of_true hsame fun h => hspells h.1

/-- The kind of a word in a text. It is a keyword if it spells one, a number if it is made of digits
and an identifier otherwise. That is as it should be for every word but the disguised: a word that
has a letter outside ASCII and is shown as a keyword all the same. -/
theorem word_kind_proper_iff (text : String) (token : Token) (h : token ∈ tokenize text.toList)
    (hword : token.kind.IsWord) :
    (token.kind = .keyword ↔ SpellsKeyword token.text) ∧
      (token.kind = .number ↔ token.text.all isAsciiDigit = true) ∧
      (token.kind = .identifier ↔
        ¬SpellsKeyword token.text ∧ token.text.all isAsciiDigit = false) ∧
      (token.kind = properKind token.text ↔ ¬Disguised token.text) := by
  obtain ⟨before, after, hsplit⟩ := List.append_of_mem h
  have hfilled : token.text ≠ [] :=
    ((divided_tokenize text.toList).fits before token after hsplit).filled
  have hkind : token.kind = wordKind token.text := (labelled_tokenize _ token h).word hword
  have hkeyword := wordKind_eq_keyword_iff token.text
  have hnumber := wordKind_eq_number_iff hfilled
  rw [← hkind] at hkeyword hnumber
  refine ⟨hkeyword, hnumber, ?_, ?_⟩
  · rw [← hkeyword, ← Bool.not_eq_true, ← hnumber]
    rcases hword with hk | hk | hk <;> simp [hk]
  · rw [hkind]
    exact wordKind_eq_properKind_iff token.text

/-- A keyword in letters of either case, next to a number. -/
theorem cross_in_either_case :
    let token : Token := ⟨.keyword, "cROss".toList⟩
    token ∈ tokenize "cROss 42".toList ∧ token.kind.IsWord ∧ SpellsKeyword token.text ∧
      token.kind = properKind token.text ∧ ¬Disguised token.text := by
  intro token
  have hmem : token ∈ tokenize "cROss 42".toList := by
    simp only [token]
    decide +kernel
  have hword : token.kind.IsWord := .inl rfl
  obtain ⟨hkeyword, -, -, hproper⟩ := word_kind_proper_iff "cROss 42" token hmem hword
  have hkind : token.kind = properKind token.text := by decide
  exact ⟨hmem, hword, hkeyword.1 rfl, hkind, hproper.1 hkind⟩

/-- A dotless i makes a keyword of a word that is no keyword in any case. -/
theorem dotless_i_makes_keyword :
    tokenize "ıs".toList = [⟨.keyword, "ıs".toList⟩] ∧
      (¬∃ entry ∈ keywords, SameLetters "ıs".toList entry.toList) ∧
      properKind "ıs".toList = .identifier := by
  refine ⟨?_, ?_, ?_⟩ <;> decide +kernel

end QueryDesk.Sql
