import Mathlib.Data.List.TakeWhile
import QueryDesk.Sql.Token

/-!
# The ends of tokens

Where a string, a comment, a run of blanks or a word ends, each said of what is taken of a text and
of what comes after it. A scan takes exactly what its rule asks for: what it takes has the end that
the rule says, and of all ways to cut the text in two it is the only one that has.
-/
namespace QueryDesk.Sql

/-- What is taken behind a quote goes up to the next quote of its sort, or to the end if there is
none. -/
def EndsPast (quote : Char) (taken after : List Char) : Prop :=
  (∃ body, quote ∉ body ∧ taken = body ++ [quote]) ∨ (quote ∉ taken ∧ after = [])

/-- What is taken goes on to the next line feed, which is left, or to the end. -/
def EndsLine (taken after : List Char) : Prop := '\n' ∉ taken ∧ ∀ c ∈ after.head?, c = '\n'

/-- What is taken behind the start of a block comment goes up to the first `*/`, or to the end if
there is none. -/
def EndsBlock (taken after : List Char) : Prop :=
  (∃ body, ¬['*', '/'] <:+: body ++ ['*'] ∧ taken = body ++ ['*', '/']) ∨
    (¬['*', '/'] <:+: taken ∧ after = [])

/-! ### The scans -/

section Scans

variable {cs taken after : List Char} {p : Char → Bool} {quote c d : Char}

theorem splitWhile_of_ends (htaken : ∀ c ∈ taken, p c = true)
    (hafter : ∀ c ∈ after.head?, p c = false) :
    splitWhile p (taken ++ after) = (taken, after) := by
  rw [splitWhile, List.takeWhile_append_of_pos htaken, List.dropWhile_append_of_pos htaken]
  cases after with
  | nil => simp
  | cons c after => simp [hafter c rfl]

theorem head?_splitWhile (p : Char → Bool) (cs : List Char) :
    ∀ c ∈ (splitWhile p cs).2.head?, p c = false := by
  intro c hc
  have hstop := List.head?_dropWhile_not p cs
  rwa [show (cs.dropWhile p).head? = some c from hc] at hstop

theorem mem_splitWhile (h : c ∈ (splitWhile p cs).1) : p c = true := List.mem_takeWhile_imp h

theorem endsLine_splitWhile (cs : List Char) :
    EndsLine (splitWhile (· != '\n') cs).1 (splitWhile (· != '\n') cs).2 := by
  refine ⟨fun h => ?_, fun c hc => ?_⟩
  · simpa using mem_splitWhile h
  · simpa using head?_splitWhile _ cs c hc

theorem splitWhile_of_endsLine (h : EndsLine taken after) :
    splitWhile (· != '\n') (taken ++ after) = (taken, after) := by
  refine splitWhile_of_ends (fun c hc => ?_) fun c hc => ?_
  · rw [bne_iff_ne]
    rintro rfl
    exact h.1 hc
  · rw [h.2 c hc]
    rfl

theorem EndsPast.cons (hd : d ≠ quote) (h : EndsPast quote taken after) :
    EndsPast quote (d :: taken) after := by
  rcases h with ⟨body, hbody, rfl⟩ | ⟨htaken, rfl⟩
  · exact .inl ⟨d :: body, List.not_mem_cons_of_ne_of_not_mem hd.symm hbody, rfl⟩
  · exact .inr ⟨List.not_mem_cons_of_ne_of_not_mem hd.symm htaken, rfl⟩

theorem endsPast_splitPast (quote : Char) (cs : List Char) :
    EndsPast quote (splitPast quote cs).1 (splitPast quote cs).2 := by
  induction cs with
  | nil => exact .inr ⟨List.not_mem_nil, rfl⟩
  | cons d rest ih =>
    by_cases h : d = quote
    · rw [splitPast, if_pos h, h]
      exact .inl ⟨[], List.not_mem_nil, rfl⟩
    · rw [splitPast, if_neg h]
      exact ih.cons h

theorem splitPast_of_ends (h : EndsPast quote taken after) :
    splitPast quote (taken ++ after) = (taken, after) := by
  rcases h with ⟨body, hbody, rfl⟩ | ⟨htaken, rfl⟩
  · induction body with
    | nil => simp [splitPast]
    | cons d body ih =>
      obtain ⟨hd, hbody⟩ := List.ne_and_not_mem_of_not_mem_cons hbody
      simp only [List.cons_append, splitPast, if_neg hd.symm, ih hbody]
  · induction taken with
    | nil => rfl
    | cons d taken ih =>
      obtain ⟨hd, htaken⟩ := List.ne_and_not_mem_of_not_mem_cons htaken
      simp only [List.cons_append, splitPast, if_neg hd.symm, ih htaken]

/-- A character that does not begin the end of a comment belongs to it. -/
theorem splitPastBlock_cons (h : ¬['*', '/'] <+: c :: cs) :
    splitPastBlock (c :: cs) = (c :: (splitPastBlock cs).1, (splitPastBlock cs).2) := by
  cases cs with
  | nil => rfl
  | cons d rest =>
    have hend : (c = '*' && d = '/') ≠ true := by
      intro hend
      simp only [Bool.and_eq_true, decide_eq_true_eq] at hend
      exact h ⟨rest, by simp [hend]⟩
    rw [splitPastBlock, if_neg hend]

theorem endsBlock_splitPastBlock (cs : List Char) :
    EndsBlock (splitPastBlock cs).1 (splitPastBlock cs).2 := by
  induction cs with
  | nil => exact .inr ⟨by decide, rfl⟩
  | cons c rest ih =>
    by_cases h : ['*', '/'] <+: c :: rest
    · obtain ⟨after, hafter⟩ := h
      rw [← hafter]
      exact .inl ⟨[], by decide, rfl⟩
    · rw [splitPastBlock_cons h]
      have hrest := splitPastBlock_append rest
      generalize splitPastBlock rest = parts at ih hrest
      obtain ⟨taken, after⟩ := parts
      dsimp only at ih hrest ⊢
      subst hrest
      rcases ih with ⟨body, hbody, rfl⟩ | ⟨htaken, rfl⟩
      · refine .inl ⟨c :: body, fun hin => ?_, rfl⟩
        rcases List.infix_cons_iff.1 hin with hfirst | hlater
        · refine h (hfirst.trans ⟨'/' :: after, ?_⟩)
          simp
        · exact hbody hlater
      · refine .inr ⟨fun hin => ?_, rfl⟩
        rcases List.infix_cons_iff.1 hin with hfirst | hlater
        · exact h (by simpa using hfirst)
        · exact htaken hlater

theorem splitPastBlock_of_ends (h : EndsBlock taken after) :
    splitPastBlock (taken ++ after) = (taken, after) := by
  rcases h with ⟨body, hbody, rfl⟩ | ⟨htaken, rfl⟩
  · induction body with
    | nil => simp [splitPastBlock]
    | cons c body ih =>
      have hfirst : ¬['*', '/'] <+: c :: (body ++ ['*', '/'] ++ after) := by
        intro hend
        -- the two characters lie before the end of the comment
        have hbefore : c :: (body ++ ['*']) <+: c :: (body ++ ['*', '/'] ++ after) :=
          ⟨'/' :: after, by simp⟩
        exact hbody (List.prefix_of_prefix_length_le hend hbefore (by simp)).isInfix
      rw [List.cons_append, List.cons_append, splitPastBlock_cons hfirst,
        ih fun hin => hbody (hin.trans (List.suffix_cons ..).isInfix)]
  · rw [List.append_nil]
    induction taken with
    | nil => rfl
    | cons c taken ih =>
      rw [splitPastBlock_cons fun hend => htaken hend.isInfix,
        ih fun hin => htaken (hin.trans (List.suffix_cons ..).isInfix)]

end Scans

end QueryDesk.Sql
