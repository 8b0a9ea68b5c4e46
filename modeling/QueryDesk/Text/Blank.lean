/-!
# Blank characters

The white-space property of Unicode: six controls, the space, and the spaces and
separators above ASCII. A zero-width space is not blank.
-/
namespace QueryDesk.Text

/-- The white-space property. -/
def isBlank (c : Char) : Bool :=
  let n := c.toNat
  (9 ≤ n && n ≤ 13) || n = 0x20 || n = 0x85 || n = 0xA0 || n = 0x1680
    || (0x2000 ≤ n && n ≤ 0x200A) || n = 0x2028 || n = 0x2029 || n = 0x202F || n = 0x205F
    || n = 0x3000

/-- The control characters: the two ranges around ASCII's printable part. -/
def isControl (c : Char) : Bool :=
  c.toNat < 0x20 || (0x7F ≤ c.toNat && c.toNat < 0xA0)

def isAsciiDigit (c : Char) : Bool := '0' ≤ c && c ≤ '9'

def allBlank (text : String) : Bool := text.toList.all isBlank

/-- The characters without the blank ones at the start. -/
def dropBlanks (cs : List Char) : List Char := cs.dropWhile isBlank

/-- The characters without the blank ones at either end. -/
def trimBlanks (cs : List Char) : List Char :=
  (dropBlanks (dropBlanks cs).reverse).reverse

/-- What is dropped ends before the first character that is not blank. -/
theorem dropBlanks_append {blanks text : List Char} (hblanks : ∀ c ∈ blanks, isBlank c = true)
    (htext : ∀ c ∈ text.head?, isBlank c = false) : dropBlanks (blanks ++ text) = text := by
  rw [dropBlanks, List.dropWhile_append_of_pos hblanks]
  cases text with
  | nil => rfl
  | cons c text => exact List.dropWhile_cons_of_neg (by simp [htext c rfl])

end QueryDesk.Text
