import Mathlib.Data.List.Infix
import QueryDesk.Number.Total
import QueryDesk.Proofs.WidthSums
import QueryDesk.Table

/-!
# Text in a number of columns

A text that is to take some columns is measured as a whole, but it is cut character by character:
the piece kept is the longest beginning whose characters, each on its own, leave room for the
ellipsis. The result takes the columns exactly if the text need not be cut or if the piece is as
wide as its characters. Controls, which take a column in a text and none on their own, pictures that
a selector or a joiner makes, and ligatures are what can come out too wide or too narrow.
-/
namespace QueryDesk.Table

open QueryDesk.Number (total total_cons)
open QueryDesk.Text (charWidth Parts parts_blank parts_mark)

variable {text : String} {columns room : Nat} {cs piece : List Char}

/-- The columns of the characters of a text, each on its own. -/
def charColumns (cs : List Char) : Nat := total (cs.map charWidth)

/-- The characters kept of a text that is cut to some columns, one of which is the ellipsis. -/
def kept (text : String) (columns : Nat) : List Char := (cut (columns - 1) text.toList).1

/-- A text is not wider than some columns, or the piece kept of it is as wide as its characters. -/
def CutsExactly (text : String) (columns : Nat) : Prop :=
  cellWidth text ≤ columns ∨
    Text.width .line (kept text columns) = charColumns (kept text columns)

/-- A text that is as wide as its characters, and so is every beginning of it. -/
def Additive (cs : List Char) : Prop :=
  ∀ piece, piece <+: cs → Text.width .line piece = charColumns piece

instance (cs : List Char) : Decidable (Additive cs) :=
  decidable_of_iff (∀ piece ∈ cs.inits, Text.width .line piece = charColumns piece) <| by
    simp only [List.mem_inits, Additive]

/-! ### The piece kept -/

theorem charColumns_cons (c : Char) (cs : List Char) :
    charColumns (c :: cs) = charWidth c + charColumns cs := total_cons ..

theorem cut_begins (room : Nat) (cs : List Char) : (cut room cs).1 <+: cs := by
  induction cs generalizing room with
  | nil => exact List.prefix_rfl
  | cons c rest ih =>
    rw [cut]
    split
    · exact (List.prefix_cons_inj c).2 (ih _)
    · exact List.nil_prefix

theorem cut_columns (room : Nat) (cs : List Char) :
    (cut room cs).2 = charColumns (cut room cs).1 ∧ (cut room cs).2 ≤ room := by
  induction cs generalizing room with
  | nil => exact ⟨rfl, Nat.zero_le _⟩
  | cons c rest ih =>
    rw [cut]
    split
    · obtain ⟨hcolumns, hroom⟩ := ih (room - charWidth c)
      rw [charColumns_cons]
      refine ⟨congrArg _ hcolumns, ?_⟩
      show charWidth c + (cut (room - charWidth c) rest).2 ≤ room
      omega
    · exact ⟨rfl, Nat.zero_le _⟩

/-- No longer beginning has room. -/
theorem cut_longest (h : piece <+: cs) (hroom : charColumns piece ≤ room) :
    piece <+: (cut room cs).1 := by
  induction cs generalizing piece room with
  | nil => exact h
  | cons c rest ih =>
    cases piece with
    | nil => exact List.nil_prefix
    | cons first piece =>
      obtain ⟨rfl, hrest⟩ := List.cons_prefix_cons.1 h
      rw [charColumns_cons] at hroom
      rw [cut, if_pos (by omega)]
      exact (List.prefix_cons_inj first).2 (ih hrest (by omega))

/-! ### The text that is shown -/

theorem toList_spaces (n : Nat) : (spaces n).toList = List.replicate n ' ' := String.toList_ofList

theorem parts_of_mem_replicate {n : Nat} {c : Char} (h : c ∈ List.replicate n ' ') : Parts c :=
  List.eq_of_mem_replicate h ▸ parts_blank

theorem fit_of_le (h : cellWidth text ≤ columns) :
    fit text columns = text ++ spaces (columns - cellWidth text) := if_pos h

theorem fit_of_lt (h : columns < cellWidth text) :
    fit text columns = String.ofList (kept text columns) ++ "…" ++
      spaces (columns - (charColumns (kept text columns) + 1)) := by
  rw [kept, ← (cut_columns (columns - 1) text.toList).1]
  exact if_neg (Nat.not_le.2 h)

theorem cellWidth_fit_of_le (h : cellWidth text ≤ columns) :
    cellWidth (fit text columns) = columns := by
  rw [fit_of_le h, cellWidth, String.toList_append, toList_spaces,
    Text.width_append_of_parts fun c => parts_of_mem_replicate, List.length_replicate]
  exact Nat.add_sub_cancel' h

/-- The piece kept leaves a column for the ellipsis. -/
theorem charColumns_kept_lt (hpos : 0 < columns) (text : String) :
    charColumns (kept text columns) < columns := by
  obtain ⟨hcolumns, hroom⟩ := cut_columns (columns - 1) text.toList
  have hle : charColumns (kept text columns) ≤ columns - 1 := hcolumns ▸ hroom
  omega

/-- What is shown of a text that is cut misses the columns by as much as the piece kept misses the
columns of its characters. -/
theorem cellWidth_fit_of_lt (hpos : 0 < columns) (h : columns < cellWidth text) :
    cellWidth (fit text columns) + charColumns (kept text columns) =
      columns + Text.width .line (kept text columns) := by
  have hless := charColumns_kept_lt hpos text
  have htext : (fit text columns).toList = kept text columns ++
      '…' :: List.replicate (columns - (charColumns (kept text columns) + 1)) ' ' := by
    rw [fit_of_lt h, String.toList_append, String.toList_append, String.toList_ofList,
      toList_spaces, List.append_assoc]
    rfl
  rw [cellWidth, htext, Text.width_append_parts (parts_mark (by decide)),
    Text.width_of_parts fun c => parts_of_mem_replicate, List.length_replicate]
  omega

theorem Additive.cutsExactly (h : Additive text.toList) (columns : Nat) :
    CutsExactly text columns := .inr (h _ (cut_begins ..))

/-- A text takes exactly the columns that it is brought to if it is not wider than them or if the
piece kept of it is as wide as its characters, and only then. The piece kept is the longest
beginning whose characters take fewer columns. -/
theorem fit_exact_iff (text : String) (hpos : 0 < columns) :
    (cellWidth (fit text columns) = columns ↔ CutsExactly text columns) ∧
      (kept text columns <+: text.toList ∧ charColumns (kept text columns) < columns ∧
        ∀ piece, piece <+: text.toList → charColumns piece < columns →
          piece <+: kept text columns) := by
  refine ⟨?_, cut_begins .., charColumns_kept_lt hpos text,
    fun piece hpiece hless => cut_longest hpiece (by omega)⟩
  by_cases hfits : cellWidth text ≤ columns
  · exact iff_of_true (cellWidth_fit_of_le hfits) (.inl hfits)
  · have hmissed := cellWidth_fit_of_lt hpos (Nat.lt_of_not_le hfits)
    simp only [CutsExactly, hfits, false_or]
    omega

/-- The second letter has no room beside the ellipsis, and a blank takes the column that is left. -/
theorem wide_letter_leaves_blank :
    0 < 4 ∧ fit "日本語" 4 = "日… " ∧ cellWidth (fit "日本語" 4) = 4 :=
  ⟨by decide, by decide +kernel, (fit_exact_iff "日本語" (by decide)).1.2 (.inr (by decide +kernel))⟩

/-- Tabs take no column on their own, so a text of three is never cut short: brought to two columns
it takes five. -/
theorem tabs_are_not_cut :
    fit "\t\t\t" 2 = "\t\t\t… " ∧ cellWidth (fit "\t\t\t" 2) = 5 ∧ ¬CutsExactly "\t\t\t" 2 := by
  refine ⟨by decide +kernel, by decide +kernel, ?_⟩
  rintro (hfits | hkept)
  · exact absurd hfits (by decide +kernel)
  · exact absurd hkept (by decide +kernel)

end QueryDesk.Table
