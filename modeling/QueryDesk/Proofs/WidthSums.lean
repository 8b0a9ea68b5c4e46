import Mathlib.Data.List.Chain
import Mathlib.Data.List.Infix
import Mathlib.Tactic.SplitIfs
import QueryDesk.Text.Width

/-!
# Where widths add up

A text need not be as wide as its parts together: a selector makes a picture of the character before
it, a joiner takes the next picture in, two letters make a ligature. The blank and the marks that a
table is drawn with take part in none of this. They take one column wherever they stand, and they
part a text: what comes before is as wide as if the text ended there. Of two other texts one can say
whether they stand apart, so that no character of the first counts otherwise before the second.
-/
namespace QueryDesk.Text

variable {c : Char} {front back after : List Char} {start next : Start} {columns : Int}

/-! ### Columns that are given back

A step back is only taken behind a part of a sequence that counted more before, so a text never
takes less than no column. -/

/-- What the start of a text may give back to the character before it. -/
def Start.owed : Start → Int
  | .joinedFlag | .oddFlags => 1
  | .ligature .joinedConsonant _ | .ligature .subscript _ => 1
  | _ => 0

theorem Start.owed_nonneg (start : Start) : 0 ≤ start.owed := by
  unfold owed
  split <;> decide

theorem owed_unselected (start : Start) : start.unselected.owed ≤ start.owed := by
  cases start with
  | ligature => exact Int.le_refl _
  | _ => exact Start.owed_nonneg _

theorem owed_selected (start : Start) : start.selected.owed ≤ start.owed := by
  cases start with
  | ligature => exact Int.le_refl _
  | _ => exact Start.owed_nonneg _

theorem owed_begins (c : Char) : (begins c).owed = 0 := by
  unfold begins
  split_ifs <;> rfl

theorem owed_standAlone (c : Char) : (standAlone c).2.owed ≤ (standAlone c).1 := by
  unfold standAlone
  split
  next letter _ => cases letter <;> decide
  · rw [owed_begins]
    exact Int.natCast_nonneg _

theorem owed_takeTag? {count : Nat} {digits : Bool} (h : takeTag? count digits c = some next) :
    next.owed = 0 := by
  unfold takeTag? at h
  grind [Start.owed]

theorem owed_take? {letter : Ligature} {joined : Bool} {left : Option Ligature}
    (h : letter.take? joined c = some (columns, left)) (later earlier : Bool) :
    ((left.map (Start.ligature · later)).getD .plain).owed ≤
      columns + (Start.ligature letter earlier).owed := by
  cases letter <;> simp only [Ligature.take?] at h <;> grind [Start.owed]

theorem owed_takeIn? (h : takeIn? start c = some (columns, next)) :
    next.owed ≤ columns + start.owed := by
  cases start with
  | ligature letter joined =>
    simp only [takeIn?] at h
    split_ifs at h with hjoiner hpasses
    · obtain ⟨rfl, rfl⟩ : 0 = columns ∧ Start.ligature letter true = next := by simpa using h
      cases letter <;> exact Int.le_refl _
    · obtain ⟨rfl, rfl⟩ : 0 = columns ∧ Start.ligature letter joined = next := by simpa using h
      exact Int.le_of_eq (Int.zero_add _).symm
    · obtain ⟨⟨taken, left⟩, htake, heq⟩ := Option.map_eq_some_iff.1 h
      obtain ⟨rfl, rfl⟩ := Prod.mk.inj heq
      exact owed_take? htake true joined
  | tagLetters count | tagDigits count =>
    obtain ⟨tag, htag, heq⟩ := Option.map_eq_some_iff.1 h
    obtain ⟨rfl, rfl⟩ := Prod.mk.inj heq
    rw [owed_takeTag? htag]
    exact Int.le_refl 0
  | _ =>
    simp only [takeIn?] at h
    grind [Start.owed]

theorem owed_joined (c : Char) (start : Start) :
    ((takeIn? start c).getD (standAlone c)).2.owed ≤
      ((takeIn? start c).getD (standAlone c)).1 + start.owed := by
  cases h : takeIn? start c with
  | some joined => exact owed_takeIn? h
  | none =>
    have hown := owed_standAlone c
    have hstart := start.owed_nonneg
    simp only [Option.getD_none]
    omega

theorem owed_step (m : Measure) (c : Char) (ahead : Ahead) :
    (step m c ahead).2.start.owed ≤ (step m c ahead).1 + ahead.start.owed := by
  have hahead := ahead.start.owed_nonneg
  -- what is left of the start once a picture selector found no picture
  have hleft : (if ahead.picture then ahead.start.unselected else ahead.start).owed ≤
      ahead.start.owed := by
    split_ifs
    · exact owed_unselected _
    · exact Int.le_refl _
  simp only [step]
  generalize (if ahead.picture then ahead.start.unselected else ahead.start) = start at hleft ⊢
  have hselected := owed_selected start
  have hunselected := owed_unselected start
  have hjoined := owed_joined c start
  split_ifs <;> simp only [Start.owed] at * <;> omega

theorem counted_cons (m : Measure) (c : Char) (cs : List Char) :
    counted m (c :: cs) =
      ((counted m cs).1 + (step m c (counted m cs).2).1, (step m c (counted m cs).2).2) := rfl

theorem owed_counted (m : Measure) (cs : List Char) :
    (counted m cs).2.start.owed ≤ (counted m cs).1 := by
  induction cs with
  | nil => exact Int.le_refl _
  | cons c cs ih =>
    have hstep := owed_step m c (counted m cs).2
    simp only [counted_cons]
    omega

theorem counted_eq_width (m : Measure) (cs : List Char) : (counted m cs).1 = width m cs :=
  (Int.toNat_of_nonneg (Int.le_trans (Start.owed_nonneg _) (owed_counted m cs))).symm

theorem width_eq_of_counted {m : Measure} {cs : List Char} {columns : Nat}
    (h : (counted m cs).1 = columns) : width m cs = columns := by
  rw [width, h, Int.toNat_natCast]

/-! ### Characters that part a text -/

/-- A character that takes one column whatever comes after it, and makes no difference to what comes
before it. -/
def Parts (c : Char) : Prop := ∀ m ahead, step m c ahead = (1, {})

theorem parts_blank : Parts ' ' := by
  intro m ahead
  have hselectable : selectable.has ' ' = false := by decide
  simp [step, hselectable]

/-- The marks of a table: the ellipsis, the bar, and the dash and the cross of the rule. -/
def tableMarks : List Char := ['…', '│', '─', '┼']

set_option maxRecDepth 4000 in
theorem takeIn?_mark (h : c ∈ tableMarks) (start : Start) : takeIn? start c = none := by
  simp only [tableMarks, List.mem_cons, List.not_mem_nil, or_false] at h
  cases start with
  | ligature letter joined =>
    rcases h with rfl | rfl | rfl | rfl <;> cases letter <;> cases joined <;> rfl
  | _ => rcases h with rfl | rfl | rfl | rfl <;> rfl

theorem standAlone_mark (h : c ∈ tableMarks) : standAlone c = (1, .plain) := by
  have hall : tableMarks.all (fun c => standAlone c = (1, .plain)) = true := by decide +kernel
  exact of_decide_eq_true (List.all_eq_true.1 hall c h)

theorem parts_mark (h : c ∈ tableMarks) : Parts c := by
  intro m ahead
  have hplain : ¬c.toNat ≤ 0xA0 ∧ c ≠ pictureSelector ∧ c ≠ textSelector ∧
      selectable.has c = false := by
    have hall : tableMarks.all (fun c => ¬c.toNat ≤ 0xA0 ∧ c ≠ pictureSelector ∧
        c ≠ textSelector ∧ selectable.has c = false) = true := by decide
    exact of_decide_eq_true (List.all_eq_true.1 hall c h)
  obtain ⟨habove, hpicture, htext, hselectable⟩ := hplain
  simp [step, habove, hpicture, htext, hselectable, narrowAsText, takeIn?_mark h,
    standAlone_mark h]

/-- A character counts the same before any text as before none. -/
theorem counted_append {m : Measure}
    (h : ∀ c ∈ front.getLast?, step m c (counted m back).2 = step m c {}) :
    (counted m (front ++ back)).1 = (counted m front).1 + (counted m back).1 ∧
      (front ≠ [] → (counted m (front ++ back)).2 = (counted m front).2) := by
  induction front with
  | nil => exact ⟨(Int.zero_add _).symm, fun hnil => absurd rfl hnil⟩
  | cons c front ih =>
    cases front with
    | nil =>
      have hc := h c rfl
      simp only [List.cons_append, List.nil_append, counted_cons, hc]
      exact ⟨by simp [counted, Int.add_comm], fun _ => rfl⟩
    | cons d front =>
      obtain ⟨hsum, hstart⟩ := ih (by simpa using h)
      rw [List.cons_append, counted_cons, hsum, hstart (List.cons_ne_nil _ _),
        counted_cons m c (d :: front)]
      exact ⟨Int.add_right_comm .., fun _ => rfl⟩

theorem width_append_of_counted {m : Measure}
    (h : ∀ c ∈ front.getLast?, step m c (counted m back).2 = step m c {}) :
    width m (front ++ back) = width m front + width m back := by
  refine width_eq_of_counted ?_
  rw [(counted_append h).1, counted_eq_width, counted_eq_width, Int.natCast_add]

theorem width_cons_parts (h : Parts c) (m : Measure) (after : List Char) :
    width m (c :: after) = 1 + width m after := by
  refine width_eq_of_counted ?_
  rw [counted_cons, h, counted_eq_width]
  simp only
  omega

theorem width_append_parts (h : Parts c) (m : Measure) (before after : List Char) :
    width m (before ++ c :: after) = width m before + (1 + width m after) := by
  rw [← width_cons_parts h]
  refine width_append_of_counted fun last _ => ?_
  rw [counted_cons, h]

theorem width_of_parts (h : ∀ c ∈ after, Parts c) (m : Measure) :
    width m after = after.length := by
  induction after with
  | nil => rfl
  | cons c after ih =>
    rw [width_cons_parts (h c List.mem_cons_self), ih fun d hd => h d (List.mem_cons_of_mem _ hd),
      List.length_cons, Nat.add_comm]

theorem width_append_of_parts (h : ∀ c ∈ after, Parts c) (m : Measure) (before : List Char) :
    width m (before ++ after) = width m before + after.length := by
  cases after with
  | nil => rw [List.append_nil, List.length_nil, Nat.add_zero]
  | cons c after =>
    rw [← width_of_parts h m, width_append_parts (h c List.mem_cons_self),
      width_cons_parts (h c List.mem_cons_self)]

/-! ### Line feeds -/

/-- Without a line feed a text is as wide in a line as in cells. -/
theorem width_line {cs : List Char} (h : '\n' ∉ cs) : width .line cs = width .cell cs := by
  have hcounted : counted .line cs = counted .cell cs := by
    induction cs with
    | nil => rfl
    | cons c cs ih =>
      obtain ⟨hc, hcs⟩ := not_or.1 (List.mem_cons.not.1 h)
      rw [counted_cons, counted_cons, ih hcs]
      simp only [step, if_neg (Ne.symm hc)]
  rw [width, width, hcounted]

/-! ### Texts that stand apart -/

/-- The last character of the first text counts the same before the second, wherever this ends, as
before no text. -/
def Apart (front back : List Char) : Prop :=
  ∀ c ∈ front.getLast?, ∀ piece ∈ back.inits, step .cell c (counted .cell piece).2 = step .cell c {}

instance decidableApart (front back : List Char) : Decidable (Apart front back) :=
  decidable_of_iff (front.getLast?.all fun c => back.inits.all fun piece =>
    step .cell c (counted .cell piece).2 = step .cell c {})
    (by simp only [Apart, Option.all_eq_true, List.all_eq_true, decide_eq_true_eq, Option.mem_def])

theorem Apart.of_prefix {piece : List Char} (h : Apart front back) (hpiece : piece <+: back) :
    Apart front piece := fun c hc start hstart =>
  h c hc start (List.mem_inits _ _ |>.2 ((List.mem_inits _ _ |>.1 hstart).trans hpiece))

theorem Apart.append (hfront : Apart front back) (hback : Apart back after) (hne : back ≠ []) :
    Apart front (back ++ after) := by
  intro c hc piece hpiece
  rw [List.mem_inits] at hpiece
  rcases List.prefix_or_prefix_of_prefix hpiece (List.prefix_append back after) with
    hshort | ⟨rest, rfl⟩
  · exact hfront c hc piece ((List.mem_inits ..).2 hshort)
  · have hrest := (List.mem_inits ..).2 ((List.prefix_append_right_inj back).1 hpiece)
    rw [(counted_append fun last hlast => hback last hlast rest hrest).2 hne]
    exact hfront c hc back ((List.mem_inits ..).2 (List.prefix_refl back))

/-- A text that stands apart from the next one, as each of these from the one behind it, stands
apart from them all. -/
theorem apart_flatten {parts : List (List Char)} (h : (front :: parts).IsChain Apart)
    (hne : ∀ part ∈ parts, part ≠ []) : Apart front parts.flatten := by
  induction parts generalizing front with
  | nil =>
    rintro c - piece hpiece
    rw [List.eq_nil_of_prefix_nil ((List.mem_inits ..).1 hpiece)]
    rfl
  | cons part parts ih =>
    obtain ⟨hnext, hlater⟩ := List.isChain_cons_cons.1 h
    obtain ⟨hpart, hparts⟩ := List.forall_mem_cons.1 hne
    exact hnext.append (ih hlater hparts) hpart

/-- Two texts that stand apart are as wide together as each on its own. -/
theorem width_append (h : Apart front back) :
    width .cell (front ++ back) = width .cell front + width .cell back :=
  width_append_of_counted fun c hc => h c hc back (by simp)

end QueryDesk.Text
