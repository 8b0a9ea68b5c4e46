import Mathlib.Data.List.TakeWhile
import QueryDesk.Proofs.JsonRoundTrip
import QueryDesk.Proofs.Success

/-!
# The grammar of string maps

Which texts are maps from strings to strings, said without a reader: blanks around the signs, marks
around the strings, escapes within them, a comma between two members. Reading takes exactly these
texts and gives the pairs in the order of the text.
-/
namespace QueryDesk.Json

/-- Blanks, a sign, and what follows it. -/
def Spaced (s : List Char) (sign : Char) (rest : List Char) : Prop :=
  ∃ gap, (∀ c ∈ gap, isSpacing c = true) ∧ s = gap ++ sign :: rest

/-- What stands behind an opening mark: a text in its written form, and what follows the closing
mark. A character beyond sixteen bits may be written as two units. -/
inductive Quoted : List Char → List Char → List Char → Prop
  | close {rest : List Char} : Quoted ('"' :: rest) [] rest
  | plain {c : Char} {s text rest : List Char} (hmark : c ≠ '"') (hslash : c ≠ '\\')
      (hcontrol : 0x20 ≤ c.toNat) (h : Quoted s text rest) : Quoted (c :: s) (c :: text) rest
  | sign {sign c : Char} {s text rest : List Char} (hsign : unescape? sign = some c)
      (h : Quoted s text rest) : Quoted ('\\' :: sign :: s) (c :: text) rest
  | unit {a b c d : Char} {n : Nat} {s text rest : List Char}
      (hunit : fourHex? [a, b, c, d] = some n) (hleading : isLeading n = false)
      (htrailing : isTrailing n = false) (h : Quoted s text rest) :
      Quoted ('\\' :: 'u' :: a :: b :: c :: d :: s) (Char.ofNat n :: text) rest
  | pair {a b c d a' b' c' d' : Char} {n m : Nat} {s text rest : List Char}
      (hunit : fourHex? [a, b, c, d] = some n) (hleading : isLeading n = true)
      (hunit' : fourHex? [a', b', c', d'] = some m) (htrailing : isTrailing m = true)
      (h : Quoted s text rest) :
      Quoted ('\\' :: 'u' :: a :: b :: c :: d :: '\\' :: 'u' :: a' :: b' :: c' :: d' :: s)
        (Char.ofNat (0x10000 + (n - 0xD800) * 0x400 + (m - 0xDC00)) :: text) rest

/-- A member of a map behind the opening mark of its key. -/
inductive Member : List Char → String × String → List Char → Prop
  | mk {s key colon open' value' value rest : List Char} (hkey : Quoted s key colon)
      (hcolon : Spaced colon ':' open') (hopen : Spaced open' '"' value')
      (hvalue : Quoted value' value rest) :
      Member s (String.ofList key, String.ofList value) rest

/-- The members up to the closing brace; a comma stands before each but the first. -/
inductive Members : Bool → List Char → List (String × String) → List Char → Prop
  | last {first : Bool} {s rest : List Char} (hclose : Spaced s '\x7d' rest) :
      Members first s [] rest
  | first {s key next rest : List Char} {entry : String × String}
      {entries : List (String × String)} (hopen : Spaced s '"' key)
      (hmember : Member key entry next) (h : Members false next entries rest) :
      Members true s (entry :: entries) rest
  | next {s open' key next rest : List Char} {entry : String × String}
      {entries : List (String × String)} (hcomma : Spaced s ',' open')
      (hopen : Spaced open' '"' key) (hmember : Member key entry next)
      (h : Members false next entries rest) :
      Members false s (entry :: entries) rest

/-- The whole text of a map, blanks around it included. -/
def MapText (s : List Char) (entries : List (String × String)) : Prop :=
  ∃ inside rest, Spaced s '\x7b' inside ∧ Members true inside entries rest ∧
    ∀ c ∈ rest, isSpacing c = true

variable {s rest text : List Char} {sign c : Char}

theorem skipSpacing_eq_cons_iff (hsign : isSpacing sign = false) :
    skipSpacing s = sign :: rest ↔ Spaced s sign rest := by
  constructor
  · intro h
    refine ⟨s.takeWhile isSpacing, fun c hc => List.mem_takeWhile_imp hc, ?_⟩
    rw [← h]
    exact List.takeWhile_append_dropWhile.symm
  · rintro ⟨gap, hgap, rfl⟩
    rw [skipSpacing, List.dropWhile_append_of_pos hgap]
    exact List.dropWhile_cons_of_neg (by simp [hsign])

theorem skipSpacing_eq_nil_iff : skipSpacing s = [] ↔ ∀ c ∈ s, isSpacing c = true :=
  List.dropWhile_eq_nil_iff

theorem isSpacing_mark : isSpacing '"' = false := by decide

theorem isSpacing_brace : isSpacing '\x7d' = false := by decide

theorem isSpacing_comma : isSpacing ',' = false := by decide

section Escapes

variable {n taken : Nat}

theorem fourHex?_eq_some (h : fourHex? s = some n) :
    ∃ a b c d rest, s = a :: b :: c :: d :: rest ∧ fourHex? [a, b, c, d] = some n := by
  unfold fourHex? at h
  split at h
  · exact ⟨_, _, _, _, _, rfl, h⟩
  · cases h

theorem readUnit_eq_ok (h : readUnit s = .ok n) : fourHex? s = some n := by
  unfold readUnit at h
  cases hunit : fourHex? s with
  | none =>
    rw [hunit] at h
    cases h
  | some m =>
    rw [hunit] at h
    exact congrArg some (Except.ok.inj h)

theorem readUnit_of_fourHex {a b c' d : Char} (h : fourHex? [a, b, c', d] = some n)
    (rest : List Char) : readUnit (a :: b :: c' :: d :: rest) = .ok n := by
  have hlong : fourHex? (a :: b :: c' :: d :: rest) = some n := h
  rw [readUnit, hlong]

/-- A unit of its own, or two that belong together. -/
theorem readUnicode_eq_ok (h : readUnicode s = .ok (c, taken)) :
    (∃ a b c' d rest n, s = a :: b :: c' :: d :: rest ∧ fourHex? [a, b, c', d] = some n ∧
      isLeading n = false ∧ isTrailing n = false ∧ c = Char.ofNat n ∧ taken = 5) ∨
    ∃ a b c' d a' b' c'' d' rest n m,
      s = a :: b :: c' :: d :: '\\' :: 'u' :: a' :: b' :: c'' :: d' :: rest ∧
      fourHex? [a, b, c', d] = some n ∧ isLeading n = true ∧
      fourHex? [a', b', c'', d'] = some m ∧ isTrailing m = true ∧
      c = Char.ofNat (0x10000 + (n - 0xD800) * 0x400 + (m - 0xDC00)) ∧ taken = 11 := by
  obtain ⟨n, hunit, h⟩ := bind_eq_ok h
  obtain ⟨a, b, c', d, rest, rfl, hn⟩ := fourHex?_eq_some (readUnit_eq_ok hunit)
  simp only [List.drop_succ_cons, List.drop_zero] at h
  split at h
  · cases h
  rename_i htrailing
  split at h
  · rename_i hleading
    obtain ⟨rfl, rfl⟩ := Prod.mk.inj (Except.ok.inj h)
    exact .inl ⟨a, b, c', d, rest, n, rfl, hn, by simpa using hleading, by simpa using htrailing,
      rfl, rfl⟩
  rename_i hleading
  split at h
  · cases h
  · cases h
  · rename_i digits
    obtain ⟨m, hunit', h⟩ := bind_eq_ok h
    obtain ⟨a', b', c'', d', rest', rfl, hm⟩ := fourHex?_eq_some (readUnit_eq_ok hunit')
    split at h
    · rename_i htrailing'
      obtain ⟨rfl, rfl⟩ := Prod.mk.inj (Except.ok.inj h)
      exact .inr ⟨a, b, c', d, a', b', c'', d', rest', n, m, rfl, hn, by simpa using hleading, hm,
        htrailing', rfl, rfl⟩
    · cases h
  · cases h
  · cases h

theorem readUnicode_unit {a b c' d : Char} (hunit : fourHex? [a, b, c', d] = some n)
    (hleading : isLeading n = false) (htrailing : isTrailing n = false) (rest : List Char) :
    readUnicode (a :: b :: c' :: d :: rest) = .ok (Char.ofNat n, 5) := by
  rw [readUnicode, readUnit_of_fourHex hunit]
  simp [hleading, htrailing, bind, Except.bind, pure, Except.pure]

theorem readUnicode_pair {a b c' d a' b' c'' d' : Char} {m : Nat}
    (hunit : fourHex? [a, b, c', d] = some n) (hleading : isLeading n = true)
    (hunit' : fourHex? [a', b', c'', d'] = some m) (htrailing : isTrailing m = true)
    (rest : List Char) :
    readUnicode (a :: b :: c' :: d :: '\\' :: 'u' :: a' :: b' :: c'' :: d' :: rest) =
      .ok (Char.ofNat (0x10000 + (n - 0xD800) * 0x400 + (m - 0xDC00)), 11) := by
  have hfirst : isTrailing n = false := by
    simp only [isLeading, isTrailing, Bool.and_eq_true, Bool.and_eq_false_iff,
      decide_eq_true_eq, decide_eq_false_iff_not] at hleading ⊢
    omega
  rw [readUnicode, readUnit_of_fourHex hunit]
  simp only [List.drop_succ_cons, List.drop_zero, hfirst, hleading, bind, Except.bind, pure,
    Except.pure, readUnit_of_fourHex hunit', htrailing, Bool.false_eq_true, Bool.not_true, if_true,
    if_false]

end Escapes

/-- What the reader makes of an escape is what the grammar makes of it. -/
theorem Quoted.escape {escaped : List Char} {taken : Nat}
    (hescape : readEscape escaped = .ok (c, taken)) (h : Quoted (escaped.drop taken) text rest) :
    Quoted ('\\' :: escaped) (c :: text) rest := by
  unfold readEscape at hescape
  split at hescape
  · cases hescape
  · obtain ⟨a, b, c', d, tail, n, rfl, hn, hleading, htrailing, hc, htaken⟩ |
      ⟨a, b, c', d, a', b', c'', d', tail, n, m, rfl, hn, hleading, hm, htrailing, hc, htaken⟩ :=
      readUnicode_eq_ok hescape
    · rw [htaken] at h
      rw [hc]
      exact .unit hn hleading htrailing h
    · rw [htaken] at h
      rw [hc]
      exact .pair hn hleading hm htrailing h
  · split at hescape
    · rename_i hsign
      obtain ⟨rfl, rfl⟩ := Prod.mk.inj (Except.ok.inj hescape)
      exact .sign hsign h
    · cases hescape

theorem quoted_of_readQuoted (h : readQuoted s = .ok (text, rest)) : Quoted s text rest := by
  fun_induction readQuoted s generalizing text with
  | case1 => cases h
  | case2 tail =>
    obtain ⟨rfl, rfl⟩ := Prod.mk.inj (Except.ok.inj h)
    exact .close
  | case3 escaped ih =>
    obtain ⟨⟨c, taken⟩, hescape, h⟩ := bind_eq_ok h
    obtain ⟨⟨more, rest'⟩, hmore, h⟩ := bind_eq_ok h
    obtain ⟨rfl, rfl⟩ := Prod.mk.inj (Except.ok.inj h)
    exact .escape hescape (ih taken hmore)
  | case4 => cases h
  | case5 c tail hmark hslash hcontrol ih =>
    obtain ⟨⟨more, rest'⟩, hmore, h⟩ := bind_eq_ok h
    obtain ⟨rfl, rfl⟩ := Prod.mk.inj (Except.ok.inj h)
    exact .plain hmark hslash (Nat.not_lt.1 hcontrol) (ih hmore)

theorem readQuoted_of_quoted (h : Quoted s text rest) : readQuoted s = .ok (text, rest) := by
  induction h with
  | close => rw [readQuoted]
  | plain hmark hslash hcontrol _ ih =>
    exact readQuoted_plain hmark hslash (Nat.not_lt.2 hcontrol) ih
  | sign hsign _ ih => exact readQuoted_sign hsign ih
  | @unit a b c d n s text rest hunit hleading htrailing _ ih =>
    exact readQuoted_escape (readUnicode_unit hunit hleading htrailing s) ih
  | @pair a b c d a' b' c' d' n m s text rest hunit hleading hunit' htrailing _ ih =>
    exact readQuoted_escape (readUnicode_pair hunit hleading hunit' htrailing s) ih

/-- The reader finds a text up to its closing mark exactly where one stands. -/
theorem readQuoted_eq_ok_iff : readQuoted s = .ok (text, rest) ↔ Quoted s text rest :=
  ⟨quoted_of_readQuoted, readQuoted_of_quoted⟩

section Members

variable {first : Bool} {entry : String × String} {entries : List (String × String)}

theorem readColon_eq_ok_iff : readColon s = .ok rest ↔ Spaced s ':' rest := by
  have hcolon : isSpacing ':' = false := by decide
  rw [← skipSpacing_eq_cons_iff hcolon]
  unfold readColon
  constructor
  · intro h
    split at h
    · cases h
    · rename_i hs
      rw [hs, Except.ok.inj h]
    · cases h
  · intro h
    rw [h]
    rfl

theorem readStringValue_eq_ok_iff :
    readStringValue s = .ok (text, rest) ↔
      ∃ inside, Spaced s '"' inside ∧ Quoted inside text rest := by
  unfold readStringValue
  constructor
  · intro h
    split at h
    · cases h
    · rename_i inside hs
      exact ⟨inside, (skipSpacing_eq_cons_iff isSpacing_mark).1 hs, quoted_of_readQuoted h⟩
    · cases h
  · rintro ⟨inside, hs, h⟩
    rw [(skipSpacing_eq_cons_iff isSpacing_mark).2 hs]
    exact readQuoted_of_quoted h

theorem readMember_eq_ok_iff : readMember s = .ok (entry, rest) ↔ Member s entry rest := by
  unfold readMember
  constructor
  · intro h
    split at h
    · cases h
    rename_i key colon hkey
    split at h
    · cases h
    rename_i value hcolon
    split at h
    · cases h
    rename_i text rest' hvalue
    obtain ⟨rfl, rfl⟩ := Prod.mk.inj (Except.ok.inj h)
    obtain ⟨inside, hopen, hquoted⟩ := readStringValue_eq_ok_iff.1 hvalue
    exact .mk (quoted_of_readQuoted hkey) (readColon_eq_ok_iff.1 hcolon) hopen hquoted
  · rintro ⟨hkey, hcolon, hopen, hvalue⟩
    rw [readQuoted_of_quoted hkey]
    dsimp only
    rw [readColon_eq_ok_iff.2 hcolon]
    dsimp only
    rw [readStringValue_eq_ok_iff.2 ⟨_, hopen, hvalue⟩]

theorem nextKey_close_iff : nextKey first s = .ok (false, rest) ↔ Spaced s '\x7d' rest := by
  rw [← skipSpacing_eq_cons_iff isSpacing_brace]
  unfold nextKey
  constructor
  · intro h
    split at h
    · cases h
    · rename_i hs
      rw [hs, (Prod.mk.inj (Except.ok.inj h)).2]
    · split at h
      · split at h <;> cases h
      · split at h
        · split at h <;> cases h
        · cases h
  · intro h
    rw [h]
    rfl

theorem nextKey_first_iff : nextKey true s = .ok (true, rest) ↔ Spaced s '"' rest := by
  rw [← skipSpacing_eq_cons_iff isSpacing_mark]
  unfold nextKey
  constructor
  · intro h
    split at h
    · cases h
    · cases h
    · rename_i c tail _ hs
      rw [if_pos rfl] at h
      split at h
      · rename_i hc
        rw [hs, hc, (Prod.mk.inj (Except.ok.inj h)).2]
      · cases h
  · intro h
    rw [h]
    rfl

theorem nextKey_next_iff :
    nextKey false s = .ok (true, rest) ↔
      ∃ inside, Spaced s ',' inside ∧ Spaced inside '"' rest := by
  unfold nextKey
  constructor
  · intro h
    split at h
    · cases h
    · cases h
    · rename_i c tail _ hs
      rw [if_neg Bool.false_ne_true] at h
      split at h
      · rename_i hc
        rw [hc] at hs
        refine ⟨tail, (skipSpacing_eq_cons_iff isSpacing_comma).1 hs, ?_⟩
        split at h
        · cases h
        · rename_i hopen
          obtain ⟨-, rfl⟩ := Prod.mk.inj (Except.ok.inj h)
          exact (skipSpacing_eq_cons_iff isSpacing_mark).1 hopen
        · cases h
        · cases h
      · cases h
  · rintro ⟨inside, hcomma, hopen⟩
    have hs := (skipSpacing_eq_cons_iff isSpacing_comma).2 hcomma
    have hinside := (skipSpacing_eq_cons_iff isSpacing_mark).2 hopen
    simp [hs, hinside]

theorem members_cons {key next : List Char} (hkey : nextKey first s = .ok (true, key))
    (hmember : Member key entry next) (h : Members false next entries rest) :
    Members first s (entry :: entries) rest := by
  cases first with
  | true => exact .first (nextKey_first_iff.1 hkey) hmember h
  | false =>
    obtain ⟨inside, hcomma, hopen⟩ := nextKey_next_iff.1 hkey
    exact .next hcomma hopen hmember h

theorem readMembers_eq_ok_iff :
    readMembers first s = .ok (entries, rest) ↔ Members first s entries rest := by
  constructor
  · intro h
    fun_induction readMembers first s generalizing entries with
    | case2 first s rest' hkey =>
      obtain ⟨rfl, rfl⟩ := Prod.mk.inj (Except.ok.inj h)
      exact .last (nextKey_close_iff.1 hkey)
    | case5 first s key hkey entry next hmember entries rest' hrest ih =>
      obtain ⟨rfl, rfl⟩ := Prod.mk.inj (Except.ok.inj h)
      exact members_cons hkey (readMember_eq_ok_iff.1 hmember) (ih hrest)
    | _ => cases h
  · intro h
    induction h with
    | last hclose => exact readMembers_end (nextKey_close_iff.2 hclose)
    | first hopen hmember _ ih =>
      exact readMembers_cons (nextKey_first_iff.2 hopen) (readMember_eq_ok_iff.2 hmember) ih
    | next hcomma hopen hmember _ ih =>
      exact readMembers_cons (nextKey_next_iff.2 ⟨_, hcomma, hopen⟩)
        (readMember_eq_ok_iff.2 hmember) ih

/-- The reader takes exactly the texts of the grammar, each for the pairs it stands for. -/
theorem readStringMap_eq_ok_iff : readStringMap s = .ok entries ↔ MapText s entries := by
  have hbrace : isSpacing '\x7b' = false := by decide
  unfold readStringMap
  constructor
  · intro h
    split at h
    · cases h
    · rename_i inside hs
      split at h
      · cases h
      · rename_i entries' rest hmembers
        split at h
        · rename_i hrest
          obtain rfl := Except.ok.inj h
          exact ⟨inside, rest, (skipSpacing_eq_cons_iff hbrace).1 hs,
            readMembers_eq_ok_iff.1 hmembers, skipSpacing_eq_nil_iff.1 hrest⟩
        · cases h
    · cases h
  · rintro ⟨inside, rest, hs, hmembers, hrest⟩
    rw [(skipSpacing_eq_cons_iff hbrace).2 hs]
    simp only [readMembers_eq_ok_iff.2 hmembers, skipSpacing_eq_nil_iff.2 hrest]

end Members

end QueryDesk.Json
