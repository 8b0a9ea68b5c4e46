/-!
# Scanning up to a sign

What a scan takes of a text ends before the first sign that stops it, and the text tells where that
is.
-/
namespace QueryDesk.Text

section Stop

variable {α : Type} {p : α → Bool} {front : List α} {sign : α}

/-- What stands in front of the first sign that stops it is taken. -/
theorem takeWhile_stop (hfront : ∀ c ∈ front, p c = true) (hsign : p sign = false)
    (rest : List α) : (front ++ sign :: rest).takeWhile p = front := by
  rw [List.takeWhile_append_of_pos hfront, List.takeWhile_cons_of_neg (by simp [hsign]),
    List.append_nil]

theorem dropWhile_stop (hfront : ∀ c ∈ front, p c = true) (hsign : p sign = false)
    (rest : List α) : (front ++ sign :: rest).dropWhile p = sign :: rest := by
  rw [List.dropWhile_append_of_pos hfront, List.dropWhile_cons_of_neg (by simp [hsign])]

/-- What stands in front of the first sign that stops it is told by the whole. -/
theorem append_stop_inj {front' rest rest' : List α} {sign' : α} (hfront : ∀ c ∈ front, p c = true)
    (hsign : p sign = false) (hfront' : ∀ c ∈ front', p c = true) (hsign' : p sign' = false)
    (h : front ++ sign :: rest = front' ++ sign' :: rest') :
    front = front' ∧ sign :: rest = sign' :: rest' := by
  constructor
  · rw [← takeWhile_stop hfront hsign rest, h, takeWhile_stop hfront' hsign']
  · rw [← dropWhile_stop hfront hsign rest, h, dropWhile_stop hfront' hsign']

end Stop

end QueryDesk.Text
