import QueryDesk.CommandLine
import QueryDesk.Proofs.WrittenSettings

/-!
# Flags with any value

An option and its value may be one argument with an equals sign between them. Then the value may be
any text, also one that looks like an option, and a height is read back from its digits. So there is
a command line for every address and every height that could be asked for.
-/
namespace QueryDesk

namespace CommandLine

variable {options options' : Options} {argument : String} {rest rest' : List String} {fuel : Nat}

theorem readArguments_long (hbare : argument ≠ "--")
    (hdashes : argument.toList.take 2 = ['-', '-'])
    (hlong : readLong options argument rest = .ok (options', rest')) :
    readArguments (fuel + 1) options (argument :: rest) = readArguments fuel options' rest' := by
  rw [readArguments, if_neg hbare, if_pos hdashes, hlong]

/-- A value may follow its option in one argument, whatever the value is. -/
theorem readArguments_baseUrl (url : String) (h : options.baseUrl = none) :
    readArguments (fuel + 1) options (("--base-url=" ++ url) :: rest) =
      readArguments fuel { options with baseUrl := some url } rest := by
  have htext : ("--base-url=" ++ url).toList = "--base-url=".toList ++ url.toList :=
    String.toList_append
  have hsplit : splitEquals ("--base-url=" ++ url) = ("--base-url", some url) := by
    rw [splitEquals, htext]
    simp
  refine readArguments_long ?_ ?_ ?_
  · intro he
    have hlist := congrArg String.toList he
    rw [htext] at hlist
    cases hlist
  · rw [htext]
    rfl
  · rw [readLong, hsplit]
    simp [setBaseUrl, h, Except.map]

theorem readCellHeight?_digits (height : UInt16) :
    readCellHeight? (toString height.toNat) = some height := by
  have htext : (toString height.toNat).toList = Nat.toDigits 10 height.toNat := Nat.toList_repr
  have hdigits : ∀ c ∈ Nat.toDigits 10 height.toNat, Text.isAsciiDigit c = true := fun c =>
    Number.isAsciiDigit_of_mem_toDigits
  obtain ⟨first, more, hfirst, hhead⟩ := Number.exists_first_digit height.toNat
  have hsign : Number.takeSign (Nat.toDigits 10 height.toNat) =
      (false, Nat.toDigits 10 height.toNat) := by
    rw [hfirst]
    unfold Number.takeSign
    split
    · rename_i he
      obtain ⟨rfl, -⟩ := List.cons.inj he
      exact absurd hhead (by decide)
    · rename_i he
      obtain ⟨rfl, -⟩ := List.cons.inj he
      exact absurd hhead (by decide)
    · rfl
  have hempty : (Nat.toDigits 10 height.toNat).isEmpty = false := by rw [hfirst]; rfl
  have hback : height.toNat.toUInt16 = height := UInt16.ofNat_toNat
  have hsize : height.toNat < UInt16.size := height.toNat_lt
  simp only [readCellHeight?, htext, hsign, hempty, List.all_eq_true.2 hdigits,
    Number.digitsValue_toDigits, Bool.not_true, Bool.false_and, Bool.or_self, Bool.false_eq_true,
    if_false, hsize, if_true, hback]

theorem readArguments_cellHeight (height : UInt16) (h : options.cellHeight = none) :
    readArguments (fuel + 1) options (("--cell-height=" ++ toString height.toNat) :: rest) =
      readArguments fuel { options with cellHeight := some height } rest := by
  have hvalue := readCellHeight?_digits height
  generalize toString height.toNat = value at hvalue
  have htext : ("--cell-height=" ++ value).toList = "--cell-height=".toList ++ value.toList :=
    String.toList_append
  have hsplit : splitEquals ("--cell-height=" ++ value) = ("--cell-height", some value) := by
    rw [splitEquals, htext]
    simp
  refine readArguments_long ?_ ?_ ?_
  · intro he
    have hlist := congrArg String.toList he
    rw [htext] at hlist
    cases hlist
  · rw [htext]
    rfl
  · rw [readLong, hsplit]
    simp [setCellHeight, hvalue, h, Except.map]

theorem readArguments_save (h : options.saveConfig = false) :
    readArguments (fuel + 1) options ["--save-config"] =
      .ok { options with saveConfig := true } := by
  have hsplit : splitEquals "--save-config" = ("--save-config", none) := by decide
  have hlong : readLong options "--save-config" [] =
      .ok ({ options with saveConfig := true }, []) := by
    simp [readLong, hsplit, h]
  rw [readArguments_long (by decide) (by decide) hlong, readArguments]

/-- The arguments for two flags that may be given or not, before the one to save. -/
def flagArguments (url : Option String) (height : Option UInt16) : List String :=
  (url.map ("--base-url=" ++ ·)).toList ++
    (height.map fun height => "--cell-height=" ++ toString height.toNat).toList ++ ["--save-config"]

theorem readOptions_flags (url : Option String) (height : Option UInt16) :
    readOptions (flagArguments url height) =
      .ok { baseUrl := url, cellHeight := height, saveConfig := true } := by
  unfold readOptions flagArguments
  cases url with
  | none =>
    cases height with
    | none => exact readArguments_save rfl
    | some height => exact (readArguments_cellHeight height rfl).trans (readArguments_save rfl)
  | some url =>
    refine (readArguments_baseUrl url rfl).trans ?_
    cases height with
    | none => exact readArguments_save rfl
    | some height => exact (readArguments_cellHeight height rfl).trans (readArguments_save rfl)

end CommandLine

end QueryDesk
