import QueryDesk.Json.Pretty
import QueryDesk.Json.StringMap

/-!
# A written map is read back

Reading follows the shape of what the writer puts down: each escape gives its character back, each
quoted string its text, each line its member, and the whole text the pairs in their order.
-/
namespace QueryDesk.Json

variable {c : Char} {s rest text : List Char}

theorem hexValue?_hexDigit {n : Nat} (h : n < 16) : hexValue? (hexDigit n) = some n := by
  have hall : ∀ m < 16, hexValue? (hexDigit m) = some m := by decide
  exact hall n h

theorem readEscape_sign {meant : Char} (h : unescape? c = some meant) :
    readEscape (c :: s) = .ok (meant, 1) := by
  have hu : c ≠ 'u' := by
    rintro rfl
    simp [unescape?] at h
  unfold readEscape
  split <;> simp_all

/-- A control character is read back from its number. -/
theorem readEscape_unit (h : c.toNat < 0x20) :
    readEscape ('u' :: '0' :: '0' :: hexDigit (c.toNat / 16) :: hexDigit (c.toNat % 16) :: s) =
      .ok (c, 5) := by
  have hunit : fourHex? ('0' :: '0' :: hexDigit (c.toNat / 16) :: hexDigit (c.toNat % 16) :: s) =
      some c.toNat := by
    have hzero : hexValue? '0' = some 0 := by decide
    simp only [fourHex?, hexValue?_hexDigit (show c.toNat / 16 < 16 by omega),
      hexValue?_hexDigit (show c.toNat % 16 < 16 by omega), hzero, bind, Option.bind]
    congr 1
    omega
  have htrailing : isTrailing c.toNat = false := by
    simp only [isTrailing, Bool.and_eq_false_iff, decide_eq_false_iff_not]
    omega
  have hleading : isLeading c.toNat = false := by
    simp only [isLeading, Bool.and_eq_false_iff, decide_eq_false_iff_not]
    omega
  simp [readEscape, readUnicode, readUnit, hunit, htrailing, hleading, bind, Except.bind, pure,
    Except.pure, Char.ofNat_toNat]

/-- An escape of as many characters as are taken stands for its character. -/
theorem readQuoted_escape {taken : Nat} (he : readEscape s = .ok (c, taken))
    (h : readQuoted (s.drop taken) = .ok (text, rest)) :
    readQuoted ('\\' :: s) = .ok (c :: text, rest) := by
  rw [readQuoted]
  simp [he, h, bind, Except.bind, pure, Except.pure]

theorem readQuoted_plain (hquote : c ≠ '"') (hslash : c ≠ '\\') (hcontrol : ¬c.toNat < 0x20)
    (h : readQuoted s = .ok (text, rest)) : readQuoted (c :: s) = .ok (c :: text, rest) := by
  rw [readQuoted]
  · simp [h, hcontrol, bind, Except.bind, pure, Except.pure]
  · exact hquote
  · exact hslash

theorem readQuoted_sign {sign : Char} (hsign : unescape? sign = some c)
    (h : readQuoted s = .ok (text, rest)) :
    readQuoted ('\\' :: sign :: s) = .ok (c :: text, rest) :=
  readQuoted_escape (readEscape_sign hsign) h

/-- The written form of a character is read back, whatever follows it. -/
theorem readQuoted_escape_append (h : readQuoted s = .ok (text, rest)) :
    readQuoted (escape c ++ s) = .ok (c :: text, rest) := by
  unfold escape
  split
  · rename_i hc
    exact readQuoted_sign (by simp [unescape?, hc]) h
  split
  · rename_i hc
    exact readQuoted_sign (by simp [unescape?, hc]) h
  rename_i hquote hslash
  iterate 5
    split
    · rename_i hc
      exact readQuoted_sign (by simp [unescape?, hc]) h
  split
  · rename_i hc
    exact readQuoted_escape (readEscape_unit hc) h
  · rename_i hc
    exact readQuoted_plain hquote hslash hc h

/-- A quoted text is read back up to its closing mark. -/
theorem readQuoted_quote (text rest : List Char) :
    readQuoted (text.flatMap escape ++ '"' :: rest) = .ok (text, rest) := by
  induction text with
  | nil => rw [List.flatMap_nil, List.nil_append, readQuoted]
  | cons c text ih =>
    rw [List.flatMap_cons, List.append_assoc]
    exact readQuoted_escape_append ih

/-- A member as it stands behind the opening mark of its key. -/
def openLine (member : List Char × List Char) : List Char :=
  member.1.flatMap escape ++ '"' :: ':' :: ' ' :: member.2

theorem prettyMember_eq (member : List Char × List Char) :
    prettyMember member.1 member.2 = ' ' :: ' ' :: '"' :: openLine member := by
  simp [prettyMember, quote, openLine]

/-- The lines after the first and the end of an object. -/
def laterLines : List (List Char × List Char) → List Char
  | [] => ['\n', '\x7d']
  | member :: members => ',' :: '\n' :: ' ' :: ' ' :: '"' :: (openLine member ++ laterLines members)

/-- A written object, line by line. -/
theorem prettyObject_cons (member : List Char × List Char)
    (members : List (List Char × List Char)) :
    prettyObject (member :: members) =
      '\x7b' :: '\n' :: ' ' :: ' ' :: '"' :: (openLine member ++ laterLines members) := by
  have hlines (line : List Char) : [',', '\n'].intercalate (line ::
      members.map fun member => prettyMember member.1 member.2) ++ ['\n', '\x7d'] =
        line ++ laterLines members := by
    induction members generalizing line with
    | nil => simp [List.intercalate, laterLines]
    | cons next members ih =>
      have hnext := ih (prettyMember next.1 next.2)
      simp only [List.map_cons, List.intercalate, List.intersperse, List.flatten_cons,
        List.append_assoc, laterLines] at hnext ⊢
      rw [hnext, prettyMember_eq]
      rfl
  have hfirst := hlines (prettyMember member.1 member.2)
  simp only [prettyObject, List.map_cons, List.isEmpty_cons, Bool.false_eq_true, if_false,
    List.append_assoc]
  rw [hfirst, prettyMember_eq]
  rfl

/-- A member of a map of strings in its written form. -/
def writtenPair (pair : String × String) : List Char × List Char :=
  (pair.1.toList, quote pair.2.toList)

theorem readMember_openLine (pair : String × String) (rest : List Char) :
    readMember (openLine (writtenPair pair) ++ rest) = .ok (pair, rest) := by
  have hkey : openLine (writtenPair pair) ++ rest = pair.1.toList.flatMap escape ++
      '"' :: (':' :: ' ' :: '"' :: (pair.2.toList.flatMap escape ++ '"' :: rest)) := by
    simp [openLine, writtenPair, quote]
  have hcolon : readColon (':' :: ' ' :: '"' :: (pair.2.toList.flatMap escape ++ '"' :: rest)) =
      .ok (' ' :: '"' :: (pair.2.toList.flatMap escape ++ '"' :: rest)) := rfl
  have hvalue : readStringValue (' ' :: '"' :: (pair.2.toList.flatMap escape ++ '"' :: rest)) =
      .ok (pair.2.toList, rest) := readQuoted_quote _ _
  simp only [readMember, hkey, readQuoted_quote, hcolon, hvalue, String.ofList_toList]

theorem readMembers_cons {first : Bool} {key next : List Char} {entry : String × String}
    {entries : List (String × String)} (hkey : nextKey first s = .ok (true, key))
    (hmember : readMember key = .ok (entry, next))
    (h : readMembers false next = .ok (entries, rest)) :
    readMembers first s = .ok (entry :: entries, rest) := by
  rw [readMembers]
  split
  · simp_all
  · simp_all
  · rename_i open' hopen
    rw [hkey] at hopen
    simp only [Except.ok.injEq, Prod.mk.injEq, true_and] at hopen
    subst hopen
    split
    · simp_all
    · rename_i hread
      rw [hmember] at hread
      simp only [Except.ok.injEq, Prod.mk.injEq] at hread
      obtain ⟨rfl, rfl⟩ := hread
      rw [h]

theorem readMembers_member {first : Bool} {pair : String × String} {pairs : List (String × String)}
    (hkey : nextKey first s = .ok (true, openLine (writtenPair pair) ++ text))
    (h : readMembers false text = .ok (pairs, rest)) :
    readMembers first s = .ok (pair :: pairs, rest) :=
  readMembers_cons hkey (readMember_openLine pair text) h

theorem readMembers_end {first : Bool} (hkey : nextKey first s = .ok (false, rest)) :
    readMembers first s = .ok ([], rest) := by
  rw [readMembers]
  split <;> simp_all

theorem readMembers_laterLines (pairs : List (String × String)) :
    readMembers false (laterLines (pairs.map writtenPair)) = .ok (pairs, []) := by
  induction pairs with
  | nil => exact readMembers_end rfl
  | cons pair pairs ih => exact readMembers_member rfl ih

theorem prettyStringMap_cons (pair : String × String) (pairs : List (String × String)) :
    prettyStringMap (pair :: pairs) = '\x7b' :: '\n' :: ' ' :: ' ' :: '"' ::
      (openLine (writtenPair pair) ++ laterLines (pairs.map writtenPair)) :=
  prettyObject_cons (writtenPair pair) (pairs.map writtenPair)

/-- The pairs of a written map are read back in their order. -/
theorem readStringMap_pretty (pairs : List (String × String)) :
    readStringMap (prettyStringMap pairs) = .ok pairs := by
  have hopen (rest : List Char) : skipSpacing ('\x7b' :: rest) = '\x7b' :: rest := rfl
  have hend : skipSpacing [] = [] := rfl
  cases pairs with
  | nil =>
    have hempty : prettyStringMap [] = ['\x7b', '\x7d'] := rfl
    have hmembers : readMembers true ['\x7d'] = .ok ([], []) := readMembers_end rfl
    simp only [readStringMap, hempty, hopen, hmembers, hend]
  | cons pair pairs =>
    have hmembers : readMembers true ('\n' :: ' ' :: ' ' :: '"' ::
        (openLine (writtenPair pair) ++ laterLines (pairs.map writtenPair))) =
          .ok (pair :: pairs, []) :=
      readMembers_member rfl (readMembers_laterLines pairs)
    simp only [readStringMap, prettyStringMap_cons, hopen, hmembers, hend]

end QueryDesk.Json
