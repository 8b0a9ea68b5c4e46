import QueryDesk.Proofs.JsonRoundTrip
import QueryDesk.Proofs.ScanStop
import QueryDesk.Proofs.StoredHeight
import QueryDesk.Settings.Read

/-!
# Settings are read back as they were written

An object with some of the members of the settings, in any order, is read as just these. Each key is
a known one, the address comes back from between its marks and the numbers from their digits, which
have no zero in front. The written settings are the object with all three members.
-/
namespace QueryDesk

open QueryDesk.Text (isAsciiDigit)

theorem Number.isAsciiDigit_of_mem_toDigits {n : Nat} {c : Char} (h : c ∈ Nat.toDigits 10 n) :
    isAsciiDigit c = true :=
  Text.isAsciiDigit_of_isDigit (Nat.isDigit_of_mem_toDigits (by decide) (by decide) h)

theorem Number.exists_first_digit (n : Nat) :
    ∃ first rest, Nat.toDigits 10 n = first :: rest ∧ isAsciiDigit first = true := by
  obtain ⟨first, rest, hfirst⟩ := List.exists_cons_of_ne_nil
    (Nat.toDigits_ne_nil (n := n) (b := 10))
  exact ⟨first, rest, hfirst, isAsciiDigit_of_mem_toDigits (hfirst ▸ List.mem_cons_self ..)⟩

/-- Only zero begins with a zero. -/
theorem Number.head?_toDigits {n : Nat} (h : (Nat.toDigits 10 n).head? = some '0') : n = 0 := by
  induction n using Nat.strongRecOn with
  | ind n ih =>
    rw [Nat.toDigits_eq_if (by decide)] at h
    split at h
    · rename_i hsmall
      have hdigit : ∀ m < 10, Nat.digitChar m = '0' → m = 0 := by decide
      exact hdigit n hsmall (Option.some.inj h)
    · rename_i hlarge
      obtain ⟨first, more, hfirst, -⟩ := exists_first_digit (n / 10)
      rw [hfirst, List.cons_append, List.head?_cons] at h
      have hzero := ih (n / 10) (by omega) (by rw [hfirst]; exact h)
      omega

theorem Json.not_isSpacing_of_isAsciiDigit {c : Char} (h : isAsciiDigit c = true) :
    isSpacing c = false := by
  by_contra hspacing
  simp only [isSpacing, Bool.not_eq_false, Bool.or_eq_true, decide_eq_true_eq] at hspacing
  obtain ((rfl | rfl) | rfl) | rfl := hspacing <;> exact absurd h (by decide)

namespace Settings

variable {draft draft' : Draft} {s rest next : List Char} {field : Field} {n limit : Nat}

/-- The digits of a number are its longest run of digits, and no zero begins a longer run. -/
theorem readNatural?_digits {c : Char} (hn : n < limit) (hdigit : isAsciiDigit c = false)
    (hsign : (c = '.' || c = 'e' || c = 'E') = false) :
    readNatural? limit (' ' :: (Nat.toDigits 10 n ++ c :: rest)) = some (n, c :: rest) := by
  have hdigits : ∀ d ∈ Nat.toDigits 10 n, isAsciiDigit d = true := fun d =>
    Number.isAsciiDigit_of_mem_toDigits
  obtain ⟨first, more, hfirst, hhead⟩ := Number.exists_first_digit n
  have hspacing := Json.not_isSpacing_of_isAsciiDigit hhead
  have hskip : Json.skipSpacing (' ' :: (Nat.toDigits 10 n ++ c :: rest)) =
      Nat.toDigits 10 n ++ c :: rest := by
    rw [Json.skipSpacing, List.dropWhile_cons_of_pos (by decide), hfirst, List.cons_append]
    exact List.dropWhile_cons_of_neg (by simp [hspacing])
  have htake : (Nat.toDigits 10 n ++ c :: rest).takeWhile isAsciiDigit = Nat.toDigits 10 n :=
    Text.takeWhile_stop hdigits hdigit rest
  have hdrop : (Nat.toDigits 10 n ++ c :: rest).dropWhile isAsciiDigit = c :: rest :=
    Text.dropWhile_stop hdigits hdigit rest
  have hzero : (decide (1 < (Nat.toDigits 10 n).length) &&
      decide ((Nat.toDigits 10 n).head? = some '0')) = false := by
    cases hhead : decide ((Nat.toDigits 10 n).head? = some '0') with
    | false => exact Bool.and_false _
    | true =>
      rw [Number.head?_toDigits (of_decide_eq_true hhead)]
      rfl
  have hempty : (Nat.toDigits 10 n).isEmpty = false := by
    rw [hfirst]
    rfl
  have hpoint : (c :: rest).head?.any (fun c => c = '.' || c = 'e' || c = 'E') = false := hsign
  simp only [readNatural?, hskip, htake, hdrop, hempty, hzero, hpoint, Bool.or_self,
    Bool.false_eq_true, if_false, Number.digitsValue_toDigits, hn, if_true]

theorem readText?_quote (text : String) (rest : List Char) :
    readText? (' ' :: (Json.quote text.toList ++ rest)) = some (text, rest) := by
  have hmark : Json.skipSpacing (' ' :: (Json.quote text.toList ++ rest)) =
      '"' :: (text.toList.flatMap Json.escape ++ '"' :: rest) := by
    rw [Json.quote, List.append_assoc]
    rfl
  rw [readText?, hmark]
  simp only [Json.readQuoted_quote, String.ofList_toList]

namespace Field

def key : Field → String
  | .exportBaseUrl => urlKey
  | .cellHeight => cellHeightKey
  | .tickRate => tickRateKey

/-- A value in its written form. -/
def value (settings : Settings) : Field → List Char
  | .exportBaseUrl => Json.quote settings.exportBaseUrl.toList
  | .cellHeight => Nat.toDigits 10 settings.cellHeight.toNat
  | .tickRate => Nat.toDigits 10 settings.tickRate.toNat

def member (settings : Settings) (field : Field) : List Char × List Char :=
  (field.key.toList, field.value settings)

theorem ofKey?_key (field : Field) : Field.ofKey? field.key = some field := by
  cases field <;> decide

end Field

/-- What is known of settings when only some fields are. -/
def part (settings : Settings) (fields : List Field) : Draft where
  exportBaseUrl := if .exportBaseUrl ∈ fields then some settings.exportBaseUrl else none
  cellHeight := if .cellHeight ∈ fields then some settings.cellHeight else none
  tickRate := if .tickRate ∈ fields then some settings.tickRate else none

/-- The value of a field that is not known yet is read up to what ends its line. -/
theorem readField?_value {fields : List Field} {c : Char} (settings : Settings)
    (hfield : field ∉ fields) (hc : c = ',' ∨ c = '\n') :
    readField? (settings.part fields) field (' ' :: (field.value settings ++ c :: rest)) =
      some (settings.part (fields ++ [field]), c :: rest) := by
  have hdigit : isAsciiDigit c = false := by obtain rfl | rfl := hc <;> decide
  have hsign : (c = '.' || c = 'e' || c = 'E') = false := by obtain rfl | rfl := hc <;> decide
  cases field with
  | exportBaseUrl =>
    simp [readField?, part, hfield, Field.value, readText?_quote]
  | cellHeight =>
    have hread : readNatural? UInt16.size
        (' ' :: (Nat.toDigits 10 settings.cellHeight.toNat ++ c :: rest)) =
        some (settings.cellHeight.toNat, c :: rest) :=
      readNatural?_digits settings.cellHeight.toNat_lt hdigit hsign
    have hback : settings.cellHeight.toNat.toUInt16 = settings.cellHeight := UInt16.ofNat_toNat
    simp [readField?, part, hfield, Field.value, hread, hback]
  | tickRate =>
    have hread : readNatural? UInt64.size
        (' ' :: (Nat.toDigits 10 settings.tickRate.toNat ++ c :: rest)) =
        some (settings.tickRate.toNat, c :: rest) :=
      readNatural?_digits settings.tickRate.toNat_lt hdigit hsign
    have hback : settings.tickRate.toNat.toUInt64 = settings.tickRate := UInt64.ofNat_toNat
    simp [readField?, part, hfield, Field.value, hread, hback]

theorem readMember?_openLine {fields : List Field} {c : Char} (settings : Settings)
    (hfield : field ∉ fields) (hc : c = ',' ∨ c = '\n') :
    readMember? (settings.part fields) (Json.openLine (field.member settings) ++ c :: rest) =
      some (settings.part (fields ++ [field]), c :: rest) := by
  have hkey : Json.openLine (field.member settings) ++ c :: rest =
      field.key.toList.flatMap Json.escape ++
        '"' :: (':' :: ' ' :: (field.value settings ++ c :: rest)) := by
    simp [Json.openLine, Field.member]
  have hcolon : Json.readColon (':' :: ' ' :: (field.value settings ++ c :: rest)) =
      .ok (' ' :: (field.value settings ++ c :: rest)) := rfl
  simp only [readMember?, hkey, Json.readQuoted_quote, hcolon, String.ofList_toList,
    Field.ofKey?_key, readField?_value settings hfield hc]

/-- A line is read and the reading goes on with the lines after it. -/
theorem readMembers?_line {first : Bool} {fuel : Nat} {known fields : List Field}
    (settings : Settings)
    (hkey : Json.nextKey first s = .ok (true, Json.openLine (field.member settings) ++
      Json.laterLines (fields.map (·.member settings))))
    (hfield : field ∉ known) :
    readMembers? (fuel + 1) first (settings.part known) s =
      readMembers? fuel false (settings.part (known ++ [field]))
        (Json.laterLines (fields.map (·.member settings))) := by
  have hlater : ∃ c rest, (c = ',' ∨ c = '\n') ∧
      Json.laterLines (fields.map (·.member settings)) = c :: rest := by
    cases fields with
    | nil => exact ⟨'\n', _, .inr rfl, rfl⟩
    | cons next fields => exact ⟨',', _, .inl rfl, rfl⟩
  obtain ⟨c, rest, hc, hlines⟩ := hlater
  rw [hlines] at hkey ⊢
  simp only [readMembers?, hkey, readMember?_openLine settings hfield hc]

/-- The lines of different fields are read up to the end of the object. -/
theorem readMembers?_laterLines {fuel : Nat} {known fields : List Field} (settings : Settings)
    (hfuel : fields.length < fuel) (hnodup : (known ++ fields).Nodup) :
    readMembers? fuel false (settings.part known)
        (Json.laterLines (fields.map (·.member settings))) =
      some (settings.part (known ++ fields), []) := by
  induction fields generalizing known fuel with
  | nil =>
    obtain ⟨fuel, rfl⟩ := Nat.exists_eq_add_of_lt hfuel
    rw [List.append_nil]
    rfl
  | cons field fields ih =>
    cases fuel with
    | zero => omega
    | succ fuel =>
      have hfield : field ∉ known := fun hmem =>
        (List.nodup_append.1 hnodup).2.2 field hmem field (List.mem_cons_self ..) rfl
      refine (readMembers?_line settings (by rfl) hfield).trans ?_
      rw [ih (by simpa using hfuel) (by simpa using hnodup), List.append_assoc]
      rfl

theorem length_lt_laterLines (members : List (List Char × List Char)) :
    members.length < (Json.laterLines members).length := by
  induction members with
  | nil => decide
  | cons member members ih =>
    simp only [Json.laterLines, List.length_cons, List.length_append]
    omega

/-- What is known after the object or the list that a text begins with, and what follows it. -/
def beginning? (s : List Char) : Option (Draft × List Char) :=
  match Json.skipSpacing s with
  | '\x7b' :: rest => readMembers? (rest.length + 1) true .empty rest
  | '[' :: rest => readItems? true .empty rest [.exportBaseUrl, .cellHeight, .tickRate]
  | _ => none

/-- What is known after all of a text. -/
def draft? (s : List Char) : Option Draft :=
  (beginning? s).bind fun (draft, rest) =>
    if (Json.skipSpacing rest).isEmpty then some draft else none

theorem ofWritten?_eq (s : List Char) : ofWritten? s = (draft? s).map Draft.complete := by
  delta ofWritten?
  extract_lets found
  have hfound : found = beginning? s := rfl
  rw [hfound, draft?]
  cases beginning? s with
  | none => rfl
  | some found =>
    rw [Option.bind_some, apply_ite (Option.map Draft.complete)]
    rfl

theorem part_nil (settings : Settings) : settings.part [] = .empty := rfl

/-- An object with the members of different fields says these and no others. -/
theorem draft?_members (settings : Settings) {fields : List Field} (hnodup : fields.Nodup) :
    draft? (Json.prettyObject (fields.map (·.member settings))) = some (settings.part fields) := by
  have hbrace (rest : List Char) : Json.skipSpacing ('\x7b' :: rest) = '\x7b' :: rest := rfl
  have hbeginning : beginning? (Json.prettyObject (fields.map (·.member settings))) =
      some (settings.part fields, []) := by
    cases fields with
    | nil => rfl
    | cons field fields =>
      rw [List.map_cons, Json.prettyObject_cons, beginning?, hbrace]
      rw [← part_nil settings]
      refine (readMembers?_line settings (by rfl) List.not_mem_nil).trans ?_
      refine readMembers?_laterLines settings ?_ hnodup
      have hlength := length_lt_laterLines (fields.map (·.member settings))
      simp only [List.length_map, List.length_cons, List.length_append] at hlength ⊢
      omega
  rw [draft?, hbeginning]
  rfl

theorem written_eq (settings : Settings) :
    settings.written = Json.prettyObject
      ([Field.exportBaseUrl, .cellHeight, .tickRate].map (·.member settings)) := by
  have hdecimal (n : Nat) : (toString n).toList = Nat.toDigits 10 n := Nat.toList_repr
  have hwritten : settings.written = Json.prettyObject
      [(urlKey.toList, Json.quote settings.exportBaseUrl.toList),
        (cellHeightKey.toList, (toString settings.cellHeight.toNat).toList),
        (tickRateKey.toList, (toString settings.tickRate.toNat).toList)] := rfl
  rw [hwritten, hdecimal, hdecimal]
  rfl

theorem ofWritten?_written (settings : Settings) : ofWritten? settings.written = some settings := by
  rw [ofWritten?_eq, written_eq, draft?_members settings (by decide)]
  rfl

end Settings

end QueryDesk
