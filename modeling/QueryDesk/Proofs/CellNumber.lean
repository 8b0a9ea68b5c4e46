import Mathlib.Tactic.NormNum
import QueryDesk.Dataset
import QueryDesk.Proofs.NearestFloat
import QueryDesk.Proofs.StoredHeight

/-!
# The numbers in cells

Which cells hold a number, said without a reader: blanks around a sign, digits with at most one
point among them, and a power of ten. The number is finite if it is nearer to the largest float than
to the next power of two, and then the float of the cell is the nearest one. A word for an infinity
is not in the grammar.
-/
namespace QueryDesk

open QueryDesk.Text (isAsciiDigit isBlank)

namespace Number

/-! ### The size of a decimal -/

theorem nearestRank_eq_zero {units den : ℕ} (h : 2 * units < den) : nearestRank units den = 0 := by
  have hnone : units / den = 0 := Nat.div_eq_of_lt (by omega)
  have hrest : units % den = units := Nat.mod_eq_of_lt (by omega)
  simp only [nearestRank_eq, hnone, Nat.log2_zero, Nat.zero_sub, Nat.zero_mul, Nat.zero_add,
    Nat.pow_zero, Nat.mul_one, roundHalfEven, hrest]
  rw [if_pos h]

/-- The size that a decimal stands for. -/
def Decimal.size (d : Decimal) : ℚ := d.mantissa * 10 ^ d.exponent

namespace Decimal

variable {d : Decimal}

theorem units_pos (d : Decimal) : 0 < d.units.2 := Nat.pow_pos (by decide)

theorem units_eq (d : Decimal) : (d.units.1 : ℚ) / d.units.2 = d.size / unit := by
  have hunit : unit = (2 ^ 1074)⁻¹ := by rw [unit, zpow_neg, zpow_ofNat]
  have hpower : (10 : ℚ) ^ d.exponent.toNat / 10 ^ (-d.exponent).toNat = 10 ^ d.exponent := by
    rw [← zpow_natCast, ← zpow_natCast, ← zpow_sub₀ (by norm_num)]
    congr 1
    omega
  simp only [units, Nat.pow_eq, Nat.cast_mul, Nat.cast_pow, Nat.cast_ofNat]
  rw [hunit, div_inv_eq_mul, size, ← hpower]
  generalize (2 : ℚ) ^ 1074 = units
  ring

/-- The size has as many digits as the mantissa, moved by the exponent. -/
theorem size_bounds (hmantissa : d.mantissa ≠ 0) :
    10 ^ (digitCount d.mantissa + d.exponent - 1) ≤ d.size ∧
      d.size < 10 ^ (digitCount d.mantissa + d.exponent) := by
  have hten : (10 : ℚ) ≠ 0 := by norm_num
  have hpower : (0 : ℚ) < 10 ^ d.exponent := zpow_pos (by norm_num) _
  have hpos : 0 < digitCount d.mantissa := Nat.length_toDigits_pos
  have hbelow : d.mantissa < 10 ^ digitCount d.mantissa :=
    (Nat.length_toDigits_le_iff (by decide) hpos).1 le_rfl
  have habove : 10 ^ (digitCount d.mantissa - 1) ≤ d.mantissa := by
    refine Nat.le_of_not_lt fun hlt => ?_
    rcases Nat.eq_or_lt_of_le (Nat.succ_le_of_lt hpos) with hone | hmore
    · rw [← hone] at hlt
      exact hmantissa (Nat.lt_one_iff.1 hlt)
    · have hshort := (Nat.length_toDigits_le_iff (by decide) (Nat.sub_pos_of_lt hmore)).2 hlt
      exact Nat.not_le.2 (Nat.sub_lt hpos Nat.one_pos) hshort
  rw [add_sub_right_comm, zpow_add₀ hten, zpow_add₀ hten, zpow_natCast,
    ← Nat.cast_pred hpos, zpow_natCast, size]
  exact ⟨mul_le_mul_of_nonneg_right (by exact_mod_cast habove) hpower.le,
    mul_lt_mul_of_pos_right (by exact_mod_cast hbelow) hpower⟩

theorem nearestRank_of_lt (h : d.size < unit / 2) :
    nearestRank d.units.1 d.units.2 = 0 := by
  have hunit : 0 < unit := zpow_pos two_pos _
  have hden : (0 : ℚ) < d.units.2 := Nat.cast_pos.2 d.units_pos
  have hless : (d.units.1 : ℚ) / d.units.2 < 1 / 2 := by
    rw [units_eq, div_lt_iff₀ hunit]
    linarith
  rw [div_lt_iff₀ hden] at hless
  have htwice : ((2 * d.units.1 : ℕ) : ℚ) < d.units.2 := by
    rw [Nat.cast_mul, Nat.cast_ofNat]
    linarith
  exact nearestRank_eq_zero (Nat.cast_lt.1 htwice)

/-- A power of two that is at most a power of ten. -/
theorem two_pow_le_ten_pow {n m : ℕ} (h : 2 ^ n ≤ 10 ^ m) : (2 : ℚ) ^ n ≤ 10 ^ m := by
  have hcast : ((2 ^ n : ℕ) : ℚ) ≤ (10 ^ m : ℕ) := Nat.cast_le.2 h
  rwa [Nat.cast_pow, Nat.cast_pow, Nat.cast_ofNat, Nat.cast_ofNat] at hcast

theorem ten_zpow_le_half_unit : (10 : ℚ) ^ (-330 : ℤ) ≤ unit / 2 := by
  have hhalf : unit / 2 = (2 ^ 1075)⁻¹ := by
    rw [unit, zpow_neg, zpow_ofNat, pow_succ 2 1074, mul_inv, div_eq_mul_inv]
  rw [hhalf, zpow_neg, zpow_ofNat]
  exact inv_anti₀ (pow_pos two_pos _) (two_pow_le_ten_pow (by decide +kernel))

theorem overflow_le_ten_pow : overflow ≤ 10 ^ 310 := by
  have hpower : (2 : ℚ) ^ 1024 = 2 ^ 53 * 2 ^ 971 := pow_add 2 53 971
  have hpos : (0 : ℚ) < 2 ^ 971 := pow_pos two_pos _
  refine le_trans ?_ (two_pow_le_ten_pow (n := 1024) (by decide +kernel))
  rw [overflow, hpower]
  generalize (2 : ℚ) ^ 971 = power at hpos
  linarith

/-- The sizes that are not made a quotient have the rank that the quotient has, or none. -/
theorem rank_eq_or (d : Decimal) :
    d.rank = nearestRank d.units.1 d.units.2 ∨
      d.rank = finiteSizes ∧ overflow ≤ d.size := by
  by_cases hzero : d.mantissa = 0
  · have hsize : d.size < unit / 2 := by
      rw [size, hzero, Nat.cast_zero, zero_mul]
      exact half_pos (zpow_pos two_pos _)
    exact .inl (by rw [nearestRank_of_lt hsize, rank, hzero]; rfl)
  obtain ⟨hlow, hhigh⟩ := size_bounds hzero
  have hten : (1 : ℚ) ≤ 10 := by norm_num
  by_cases hsmall : (digitCount d.mantissa + d.exponent : ℤ) < -330
  · have hsize : d.size < unit / 2 :=
      hhigh.trans_le ((zpow_le_zpow_right₀ hten hsmall.le).trans ten_zpow_le_half_unit)
    exact .inl (by rw [nearestRank_of_lt hsize, rank, if_pos (by simp [hsmall])])
  by_cases hlarge : (310 : ℤ) < digitCount d.mantissa + d.exponent
  · refine .inr ⟨by rw [rank, if_neg (by simp [hzero, hsmall]), if_pos hlarge], ?_⟩
    refine overflow_le_ten_pow.trans (le_trans ?_ hlow)
    rw [← zpow_ofNat]
    exact zpow_le_zpow_right₀ hten (by omega)
  · exact .inl (by rw [rank, if_neg (by simp [hzero, hsmall]), if_neg hlarge])

/-- The places of the size of a decimal. -/
theorem places (d : Decimal) :
    ∃ dropped whole, nearestRank d.units.1 d.units.2 = dropped * 2 ^ 52 + whole ∧
      Places (d.size / unit) dropped whole := by
  rw [← units_eq]
  exact places_nearestRank _ d.units_pos

theorem rank_lt_iff (d : Decimal) : d.rank < finiteSizes ↔ d.size < overflow := by
  rcases d.rank_eq_or with hrank | ⟨hrank, hsize⟩
  · obtain ⟨dropped, whole, hnearest, hplaces⟩ := d.places
    rw [hrank, hnearest, hplaces.finite_iff]
  · exact iff_of_false (hrank ▸ Nat.lt_irrefl _) (not_lt.2 hsize)

theorem isSome_toFloat?_iff (d : Decimal) : d.toFloat?.isSome ↔ d.size < overflow := by
  rw [← rank_lt_iff, toFloat?, ofRank?, Option.isSome_dite]

/-- The float of a decimal is what its size is rounded to. -/
theorem rounded_of_toFloat? {f : Float} (h : d.toFloat? = some f) :
    Rounded d.negative d.size f := by
  rw [toFloat?, ofRank?] at h
  split at h
  case isFalse => cases h
  case isTrue hfinite =>
    obtain rfl := Option.some.inj h
    rcases d.rank_eq_or with hrank | ⟨hrank, -⟩
    · have hround := rounded_ofRank d.negative d.units_pos hrank hfinite
      have hunit : unit ≠ 0 := zpow_ne_zero _ two_ne_zero
      rwa [units_eq, div_mul_cancel₀ _ hunit] at hround
    · exact absurd hfinite (hrank ▸ Nat.lt_irrefl _)

end Decimal

/-! ### The grammar of decimals -/

/-- A run of digits, which may be empty. -/
def DigitRun (digits : List Char) : Prop := ∀ c ∈ digits, c.isDigit = true

/-- A sign or none, and whether it is a minus sign. -/
inductive SignText : List Char → Bool → Prop
  | none : SignText [] false
  | plus : SignText ['+'] false
  | minus : SignText ['-'] true

/-- A point and the digits behind it, or neither. -/
inductive PlacesText : List Char → List Char → Prop
  | none : PlacesText [] []
  | point {part : List Char} (hpart : DigitRun part) : PlacesText ('.' :: part) part

/-- A power of ten, or none. -/
inductive PowerText : List Char → Int → Prop
  | none : PowerText [] 0
  | power {mark : Char} {sign digits : List Char} {negative : Bool}
      (hmark : mark = 'e' ∨ mark = 'E') (hsign : SignText sign negative)
      (hdigits : DigitRun digits) (hsome : digits ≠ []) :
      PowerText (mark :: (sign ++ digits))
        (if negative then -(Nat.ofDigitChars 10 digits 0) else Nat.ofDigitChars 10 digits 0)

/-- The whole text of a decimal. There is a digit before the point or behind it. -/
inductive DecimalText : List Char → Decimal → Prop
  | mk {sign whole places part power : List Char} {negative : Bool} {exponent : Int}
      (hsign : SignText sign negative) (hwhole : DigitRun whole) (hplaces : PlacesText places part)
      (hpower : PowerText power exponent) (hsome : whole ++ part ≠ []) :
      DecimalText (sign ++ (whole ++ (places ++ power)))
        ⟨negative, Nat.ofDigitChars 10 (whole ++ part) 0, exponent - part.length⟩

section Reading

variable {text rest digits : List Char} {negative : Bool}

theorem takeSign_append {sign : List Char} (hsign : SignText sign negative)
    (hrest : ∀ c ∈ rest.head?, c ≠ '-' ∧ c ≠ '+') : takeSign (sign ++ rest) = (negative, rest) := by
  cases hsign with
  | plus | minus => rfl
  | none =>
    rw [List.nil_append, takeSign.eq_3]
    · rintro more rfl
      exact (hrest '-' rfl).1 rfl
    · rintro more rfl
      exact (hrest '+' rfl).2 rfl

theorem exists_signText (text : List Char) :
    ∃ sign, SignText sign (takeSign text).1 ∧ text = sign ++ (takeSign text).2 := by
  unfold takeSign
  split
  · exact ⟨_, .minus, rfl⟩
  · exact ⟨_, .plus, rfl⟩
  · exact ⟨_, .none, rfl⟩

theorem ne_sign_of_isDigit {c : Char} (h : c.isDigit = true) : c ≠ '-' ∧ c ≠ '+' := by
  constructor <;>
  · rintro rfl
    exact absurd h (by decide)

theorem all_isAsciiDigit (h : DigitRun digits) : ∀ c ∈ digits, isAsciiDigit c = true :=
  fun c hc => Text.isAsciiDigit_of_isDigit (h c hc)

theorem digitRun_takeWhile (text : List Char) : DigitRun (text.takeWhile isAsciiDigit) :=
  fun _ hc => List.mem_takeWhile_imp hc

/-- A run of digits ends where no digit follows. -/
theorem takeWhile_digits (hdigits : DigitRun digits)
    (hrest : ∀ c ∈ rest.head?, c.isDigit = false) :
    (digits ++ rest).takeWhile isAsciiDigit = digits ∧
      (digits ++ rest).dropWhile isAsciiDigit = rest := by
  rw [List.takeWhile_append_of_pos (all_isAsciiDigit hdigits),
    List.dropWhile_append_of_pos (all_isAsciiDigit hdigits)]
  cases rest with
  | nil => simp
  | cons c rest =>
    have hstop : ¬isAsciiDigit c = true := by simp [Text.isAsciiDigit_eq, hrest c rfl]
    rw [List.takeWhile_cons_of_neg hstop, List.dropWhile_cons_of_neg hstop, List.append_nil]
    exact ⟨rfl, rfl⟩

theorem readExponent?_eq_some_iff {exponent : Int} :
    readExponent? text = some exponent ↔ PowerText text exponent := by
  constructor
  · intro h
    cases text with
    | nil =>
      obtain rfl := Option.some.inj h
      exact .none
    | cons mark rest =>
      obtain ⟨sign, hsign, hrest⟩ := exists_signText rest
      simp only [readExponent?, Option.ite_none_right_eq_some, Option.ite_none_left_eq_some,
        Option.some.injEq, Bool.or_eq_true, decide_eq_true_eq, List.isEmpty_iff, not_or,
        Bool.not_eq_true', Bool.not_eq_false, List.all_eq_true, digitsValue_eq] at h
      obtain ⟨hmark, ⟨hsome, hdigits⟩, rfl⟩ := h
      have hpower := PowerText.power hmark hsign hdigits hsome
      rwa [← hrest] at hpower
  · intro h
    cases h with
    | none => rfl
    | @power mark sign digits negative hmark hsign hdigits hsome =>
      have hhead : ∀ c ∈ digits.head?, c ≠ '-' ∧ c ≠ '+' := fun c hc =>
        ne_sign_of_isDigit (hdigits c (List.mem_of_mem_head? hc))
      have hall : digits.all isAsciiDigit = true := List.all_eq_true.2 (all_isAsciiDigit hdigits)
      rw [readExponent?, if_pos (by simpa using hmark), takeSign_append hsign hhead]
      simp [hsome, hall, digitsValue_eq]

theorem exists_placesText (text : List Char) :
    ∃ places, PlacesText places (takePlaces text).1 ∧ text = places ++ (takePlaces text).2 := by
  unfold takePlaces
  split
  case h_1 rest =>
    refine ⟨_, .point (digitRun_takeWhile rest), ?_⟩
    rw [List.cons_append, List.takeWhile_append_dropWhile]
  · exact ⟨_, .none, rfl⟩

theorem PowerText.head {exponent : Int} (h : PowerText text exponent) :
    ∀ c ∈ text.head?, c = 'e' ∨ c = 'E' := by
  cases h with
  | none => simp
  | power hmark => simpa using hmark

theorem PowerText.head_not_digit {exponent : Int} (h : PowerText text exponent) :
    ∀ c ∈ text.head?, c.isDigit = false := by
  intro c hc
  rcases h.head c hc with rfl | rfl <;> decide

theorem takePlaces_append {places part power : List Char} {exponent : Int}
    (hplaces : PlacesText places part) (hpower : PowerText power exponent) :
    takePlaces (places ++ power) = (part, power) := by
  cases hplaces with
  | none =>
    refine takePlaces.eq_2 _ ?_
    rintro rest rfl
    exact absurd (hpower.head '.' rfl) (by decide)
  | point hpart =>
    obtain ⟨htake, hdrop⟩ := takeWhile_digits hpart hpower.head_not_digit
    exact Prod.ext htake hdrop

/-- Reading takes exactly the texts of decimals. -/
theorem read?_eq_some_iff {d : Decimal} : Decimal.read? text = some d ↔ DecimalText text d := by
  constructor
  · intro h
    simp only [Decimal.read?, Option.ite_none_left_eq_some, Option.map_eq_some_iff,
      readExponent?_eq_some_iff, Bool.and_eq_true, List.isEmpty_iff, digitsValue_eq] at h
    obtain ⟨hsome, exponent, hpower, rfl⟩ := h
    obtain ⟨sign, hsign, htext⟩ := exists_signText text
    obtain ⟨places, hplaces, hrest⟩ :=
      exists_placesText ((takeSign text).2.dropWhile isAsciiDigit)
    have hdecimal := DecimalText.mk hsign (digitRun_takeWhile (takeSign text).2) hplaces hpower
      (fun h => hsome (List.append_eq_nil_iff.1 h))
    rwa [← hrest, List.takeWhile_append_dropWhile, ← htext] at hdecimal
  · intro h
    cases h with
    | @mk sign whole places part power negative exponent hsign hwhole hplaces hpower hsome =>
      have hpoint : ∀ c ∈ (places ++ power).head?, c.isDigit = false := by
        cases hplaces with
        | none => exact hpower.head_not_digit
        | point => simp
      have hhead : ∀ c ∈ (whole ++ (places ++ power)).head?, c ≠ '-' ∧ c ≠ '+' := by
        cases hfirst : whole with
        | cons c whole =>
          simpa using ne_sign_of_isDigit (hwhole c (hfirst ▸ List.mem_cons_self ..))
        | nil =>
          cases hplaces with
          | none => exact absurd hfirst (by simpa using hsome)
          | point => simp
      obtain ⟨htake, hdrop⟩ := takeWhile_digits hwhole hpoint
      have hnot : ¬(whole.isEmpty && part.isEmpty) = true := by simpa using hsome
      simp only [Decimal.read?, takeSign_append hsign hhead, htake, hdrop,
        takePlaces_append hplaces hpower, if_neg hnot, readExponent?_eq_some_iff.2 hpower,
        Option.map_some, digitsValue_eq]

/-- No blank stands within a decimal. -/
theorem DecimalText.not_isBlank {d : Decimal} (h : DecimalText text d) :
    ∀ c ∈ text, isBlank c = false := by
  have hdigit {digits : List Char} (h : DigitRun digits) : ∀ c ∈ digits, isBlank c = false :=
    fun c hc => Text.not_isBlank_of_isDigit (h c hc)
  have hmarks {sign : List Char} {negative : Bool} (h : SignText sign negative) :
      ∀ c ∈ sign, isBlank c = false := by
    cases h with
    | none => simp
    | plus | minus => exact List.forall_mem_singleton.2 (by decide)
  obtain ⟨hsign, hwhole, hplaces, hpower, -⟩ := h
  simp only [List.forall_mem_append]
  refine ⟨hmarks hsign, hdigit hwhole, ?_, ?_⟩
  · cases hplaces with
    | none => simp
    | point hpart => exact List.forall_mem_cons.2 ⟨by decide, hdigit hpart⟩
  · cases hpower with
    | none => simp
    | power hmark hsign hdigits =>
      rw [List.forall_mem_cons, List.forall_mem_append]
      exact ⟨by rcases hmark with rfl | rfl <;> decide, hmarks hsign, hdigit hdigits⟩

end Reading

end Number

/-! ### Cells -/

/-- What is trimmed is the blanks on both sides of a text without blanks. -/
theorem Text.trimBlanks_append {before text after : List Char}
    (hbefore : ∀ c ∈ before, isBlank c = true) (htext : ∀ c ∈ text, isBlank c = false)
    (hafter : ∀ c ∈ after, isBlank c = true) : trimBlanks (before ++ (text ++ after)) = text := by
  cases text with
  | nil =>
    have hall : dropBlanks (before ++ ([] ++ after)) = [] :=
      List.dropWhile_eq_nil_iff.2 (List.forall_mem_append.2 ⟨hbefore, hafter⟩)
    rw [trimBlanks, hall]
    rfl
  | cons c text =>
    have hhead : ∀ b ∈ (c :: text ++ after).head?, isBlank b = false := by
      simpa using htext c (List.mem_cons_self ..)
    have hlast : ∀ b ∈ (c :: text).reverse.head?, isBlank b = false := fun b hb =>
      htext b (List.mem_reverse.1 (List.mem_of_mem_head? hb))
    have hblanks : ∀ b ∈ after.reverse, isBlank b = true := fun b hb =>
      hafter b (List.mem_reverse.1 hb)
    rw [trimBlanks, dropBlanks_append hbefore hhead, List.reverse_append,
      dropBlanks_append hblanks hlast, List.reverse_reverse]

theorem Text.exists_trimBlanks (cs : List Char) :
    ∃ before after, cs = before ++ (trimBlanks cs ++ after) ∧
      (∀ c ∈ before, isBlank c = true) ∧ ∀ c ∈ after, isBlank c = true := by
  refine ⟨cs.takeWhile isBlank, ((dropBlanks cs).reverse.takeWhile isBlank).reverse, ?_,
    fun c hc => List.mem_takeWhile_imp hc,
    fun c hc => List.mem_takeWhile_imp (List.mem_reverse.1 hc)⟩
  rw [trimBlanks, ← List.reverse_append, dropBlanks.eq_1 (dropBlanks cs).reverse,
    List.takeWhile_append_dropWhile, List.reverse_reverse, dropBlanks,
    List.takeWhile_append_dropWhile]

namespace Dataset

open Number (Decimal DecimalText Rounded overflow)

variable {cell : String} {decimal : Decimal}

/-- The text of a decimal with blanks around it. -/
def CellDecimal (cell : String) (decimal : Decimal) : Prop :=
  ∃ before text after, cell.toList = before ++ (text ++ after) ∧
    (∀ c ∈ before, isBlank c = true) ∧ (∀ c ∈ after, isBlank c = true) ∧ DecimalText text decimal

theorem cellDecimal_iff :
    CellDecimal cell decimal ↔ Decimal.read? (Text.trimBlanks cell.toList) = some decimal := by
  constructor
  · rintro ⟨before, text, after, hcell, hbefore, hafter, htext⟩
    rw [hcell, Text.trimBlanks_append hbefore htext.not_isBlank hafter,
      Number.read?_eq_some_iff.2 htext]
  · intro h
    obtain ⟨before, after, hcell, hbefore, hafter⟩ := Text.exists_trimBlanks cell.toList
    exact ⟨before, _, after, hcell, hbefore, hafter, Number.read?_eq_some_iff.1 h⟩

/-- The number of a cell is what its decimal is rounded to, if that is not too large. -/
theorem numericValue?_eq_some_iff {number : Float} :
    numericValue? cell = some number ↔
      ∃ decimal, CellDecimal cell decimal ∧ decimal.size < overflow ∧
        Rounded decimal.negative decimal.size number := by
  simp only [numericValue?, Number.readFloat?, Option.bind_eq_some_iff, cellDecimal_iff]
  refine exists_congr fun decimal => and_congr_right fun _ => ?_
  constructor
  · intro h
    exact ⟨decimal.isSome_toFloat?_iff.1 (Option.isSome_of_eq_some h),
      Decimal.rounded_of_toFloat? h⟩
  · rintro ⟨hsize, hround⟩
    obtain ⟨other, hother⟩ := Option.isSome_iff_exists.1 (decimal.isSome_toFloat?_iff.2 hsize)
    rw [hother, (Decimal.rounded_of_toFloat? hother).unique hround]

/-- The word for an infinity is no decimal. -/
example : numericValue? "inf" = none := rfl

/-- A cell has a number just when it has a decimal that is not too large. -/
theorem exists_numericValue?_iff :
    (∃ number, numericValue? cell = some number) ↔
      ∃ decimal, CellDecimal cell decimal ∧ decimal.size < overflow := by
  constructor
  · rintro ⟨number, hnumber⟩
    obtain ⟨decimal, hcell, hsize, -⟩ := numericValue?_eq_some_iff.1 hnumber
    exact ⟨decimal, hcell, hsize⟩
  · rintro ⟨decimal, hcell, hsize⟩
    obtain ⟨number, hnumber⟩ := Option.isSome_iff_exists.1 (decimal.isSome_toFloat?_iff.2 hsize)
    exact ⟨number, numericValue?_eq_some_iff.2
      ⟨decimal, hcell, hsize, Decimal.rounded_of_toFloat? hnumber⟩⟩

end Dataset

end QueryDesk
