/-!
# What came last and what still lasts

Of a list of happenings, oldest first: the value that the latest of them gives, and whether one of a
kind has not been followed by one that stops it. Both are said anew for each happening at the end.
-/
namespace QueryDesk

variable {H V : Type}

/-- The value that the latest happening with one gives. -/
def latest? (read : H → Option V) (past : List H) : Option V :=
  past.reverse.findSome? read

/-- Some happening of a kind is followed by none that stops it. -/
def Lasting (mark stop : H → Bool) (past : List H) : Prop :=
  ∃ before h after,
    past = before ++ h :: after ∧ mark h = true ∧ ∀ later ∈ after, stop later = false

variable {mark stop : H → Bool} {past : List H} {h : H}

theorem latest?_concat (read : H → Option V) (past : List H) (h : H) :
    latest? read (past ++ [h]) = (read h).or (latest? read past) := by
  cases hr : read h <;> simp [latest?, hr]

theorem not_lasting_nil (mark stop : H → Bool) : ¬Lasting mark stop [] := by
  rintro ⟨before, h, after, he, -⟩
  simp at he

theorem lasting_concat :
    Lasting mark stop (past ++ [h]) ↔ mark h = true ∨ stop h = false ∧ Lasting mark stop past := by
  constructor
  · rintro ⟨before, x, after, he, hmark, hstop⟩
    rcases List.eq_nil_or_concat after with rfl | ⟨init, last, rfl⟩
    · obtain ⟨-, hx⟩ := List.append_inj' he rfl
      rw [List.singleton_inj.1 hx]
      exact .inl hmark
    · have he' : past ++ [h] = (before ++ x :: init) ++ [last] := by simpa using he
      obtain ⟨hpast, hx⟩ := List.append_inj' he' rfl
      rw [List.singleton_inj.1 hx]
      exact .inr ⟨hstop last (by simp), before, x, init, hpast, hmark,
        fun later hl => hstop later (by simp [hl])⟩
  · rintro (hmark | ⟨hstop, before, x, after, rfl, hmark, hafter⟩)
    · exact ⟨past, h, [], rfl, hmark, by simp⟩
    · refine ⟨before, x, after ++ [h], by simp, hmark, fun later hl => ?_⟩
      rcases List.mem_append.1 hl with hl | hl
      · exact hafter later hl
      · rw [List.mem_singleton.1 hl]
        exact hstop

theorem lasting_concat_other (hm : mark h = false) (hs : stop h = false) :
    Lasting mark stop (past ++ [h]) ↔ Lasting mark stop past := by
  simp [lasting_concat, hm, hs]

theorem not_lasting_concat (hm : mark h = false) (hs : stop h = true) :
    ¬Lasting mark stop (past ++ [h]) := by
  simp [lasting_concat, hm, hs]

end QueryDesk
