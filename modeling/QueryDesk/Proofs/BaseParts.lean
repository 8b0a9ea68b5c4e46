import QueryDesk.Proofs.Success
import QueryDesk.Url.Base

/-!
# The parts that stay of a base

What is written of a base is a scheme and an authority. The scheme holds no colon, and nothing of
either, not the user, the host or the port, is a sign at which an authority ends: such signs end the
parts when they are read, are refused in a host, and are written as bytes in a user.
-/
namespace QueryDesk.Url

/-- A text in which no authority, path or query ends. -/
def Plain (text : List Char) : Prop := ∀ c ∈ text, endsAuthority .other c = false

theorem Plain.append {before after : List Char} (hb : Plain before) (ha : Plain after) :
    Plain (before ++ after) := by
  intro c hc
  obtain hc | hc := List.mem_append.1 hc
  · exact hb c hc
  · exact ha c hc

theorem plain_nil : Plain [] := by
  intro c hc
  cases hc

theorem plain_of_isDigit {c : Char} (h : c.isDigit = true) : endsAuthority .other c = false := by
  have hne (sign : Char) (hsign : sign.isDigit = false) : c ≠ sign := by
    rintro rfl
    rw [hsign] at h
    cases h
  simp [endsAuthority, hne '/' (by decide), hne '?' (by decide), hne '#' (by decide)]

variable {text host scheme : List Char}

theorem plain_bracketed (h : readBracketed text = .ok host) : Plain host := by
  unfold readBracketed at h
  split at h
  · split at h
    · rename_i pieces hpieces
      obtain rfl := Except.ok.inj h
      intro c hc
      obtain rfl | hc := List.mem_cons.1 hc
      · decide
      obtain hc | hc := List.mem_append.1 hc
      · have hdigit : ∀ n < 16, endsAuthority .other (Nat.digitChar n) = false := by decide
        obtain rfl | ⟨n, hn, rfl⟩ := mem_ipv6Text hc
        · decide
        · exact hdigit n hn
      · obtain rfl := List.mem_singleton.1 hc
        decide
    · cases h
  · cases h

theorem plain_of_allowed {domain : List Char} (h : domain.any isForbiddenInDomain = false) :
    Plain domain := by
  intro c hc
  have hallowed := List.any_eq_false.1 h c hc
  simp_all [isForbiddenInDomain, endsAuthority]

theorem plain_domain {name domain : List Char} (h : domainToAscii? name = some domain) :
    Plain domain := by
  unfold domainToAscii? at h
  split at h
  · cases h
  split at h
  · cases h
  dsimp only at h
  split at h
  · rename_i hfit
    obtain rfl := Option.some.inj h
    rw [Bool.and_eq_true, Bool.not_eq_true'] at hfit
    exact plain_of_allowed hfit.2
  · cases h

theorem plain_domainHost (h : readDomainHost text = .ok host) : Plain host := by
  unfold readDomainHost at h
  split at h
  · exact plain_bracketed h
  split at h
  · cases h
  split at h
  · cases h
  rename_i domain hdomain
  split at h
  · cases h
  split at h
  · split at h
    · rename_i address haddress
      obtain rfl := Except.ok.inj h
      intro c hc
      obtain rfl | hdigit := mem_ipv4Text hc
      · decide
      · exact plain_of_isDigit hdigit
    · cases h
  · obtain rfl := Except.ok.inj h
    exact plain_domain hdomain

theorem plain_opaqueHost (h : readOpaqueHost text = .ok host) : Plain host := by
  unfold readOpaqueHost at h
  split at h
  · exact plain_bracketed h
  split at h
  · cases h
  rename_i hforbidden
  obtain rfl := Except.ok.inj h
  intro c hc
  obtain ⟨hmem, -⟩ | rfl | ⟨n, hn, rfl⟩ := mem_percentEncode hc
  · have hallowed := List.any_eq_false.1 (Bool.not_eq_true _ ▸ hforbidden) c hmem
    simp_all [isForbiddenInHost, endsAuthority]
  · decide
  · have hdigit : ∀ n < 16, endsAuthority .other (upperHex n) = false := by decide
    exact hdigit n hn

theorem plain_port {usual : Option Nat} {digits port : List Char}
    (h : portText usual digits = .ok port) : Plain port := by
  unfold portText at h
  split at h
  · cases h
  dsimp only at h
  split at h
  · cases h
  split at h
  · obtain rfl := Except.ok.inj h
    exact plain_nil
  · obtain rfl := Except.ok.inj h
    intro c hc
    obtain rfl | hc := List.mem_cons.1 hc
    · decide
    · have htext (n : Nat) : (toString n).toList = Nat.toDigits 10 n := Nat.toList_repr
      rw [htext] at hc
      exact plain_of_isDigit (Nat.isDigit_of_mem_toDigits (by decide) (by decide) hc)

theorem plain_user (user : Option (List Char)) : Plain ((user.map userText).getD []) := by
  cases user with
  | none => exact plain_nil
  | some user => exact fun c hc => plain_of_mem_userText hc

/-- A user, a host that has been read and a port make up an authority. -/
theorem plain_parts {found : Except UrlError (List Char)} {user digits : List Char}
    {usual : Option Nat} (huser : Plain user) (hfound : ∀ host, found = .ok host → Plain host)
    (h : (do
      let host ← found
      let port ← portText usual digits
      return user ++ host ++ port) = .ok text) : Plain text := by
  obtain ⟨host, hhost, h⟩ := bind_eq_ok h
  obtain ⟨port, hport, h⟩ := bind_eq_ok h
  obtain rfl := Except.ok.inj h
  exact (huser.append (hfound host hhost)).append (plain_port hport)

theorem plain_authority {s : List Char} (h : authorityText scheme s = .ok text) : Plain text := by
  unfold authorityText at h
  dsimp only at h
  split at h
  · cases h
  · split at h
    · exact plain_parts (plain_user _) (fun _ => plain_domainHost) h
    · exact plain_parts (plain_user _) (fun _ => plain_opaqueHost) h

theorem plain_fileHost {s : List Char} (h : fileHostText s = .ok text) : Plain text := by
  unfold fileHostText at h
  split at h
  · split at h
    · dsimp only at h
      split at h
      · obtain rfl := Except.ok.inj h
        exact plain_nil
      · obtain ⟨host, hhost, h⟩ := bind_eq_ok h
        have hchoice (p : Prop) [Decidable p] : Plain (if p then [] else host) := by
          split
          · exact plain_nil
          · exact plain_domainHost hhost
        rw [← Except.ok.inj h]
        exact hchoice _
    · obtain rfl := Except.ok.inj h
      exact plain_nil
  · obtain rfl := Except.ok.inj h
    exact plain_nil

/-- The authority of a place that has one. -/
def Place.authority? : Place → Option (List Char)
  | .authority text => some text
  | _ => none

/-- A scheme without signs that divide an address, and an authority in which none ends. -/
structure Base.Divided (base : Base) : Prop where
  scheme : ∀ c ∈ base.scheme, c ≠ ':' ∧ endsAuthority .other c = false
  authority : ∀ text, base.place = .authority text → Plain text

theorem divided_of_read {base : Base} (h : Base.read text = .ok base) : base.Divided := by
  unfold Base.read at h
  split at h
  · cases h
  rename_i scheme rest hscheme
  have hplain := plain_of_splitScheme? hscheme
  have hfound {found : Except UrlError (List Char)}
      (hp : ∀ written, found = .ok written → Plain written)
      (h : found.map (Base.mk scheme <| .authority ·) = .ok base) : base.Divided := by
    obtain ⟨written, hwritten, rfl⟩ := map_eq_ok h
    refine ⟨hplain, fun text htext => ?_⟩
    obtain rfl := Place.authority.inj htext
    exact hp _ hwritten
  split at h
  · exact hfound (fun _ => plain_fileHost) h
  · exact hfound (fun _ => plain_authority) h
  · split at h
    · exact hfound (fun _ => plain_authority) h
    · obtain rfl := Except.ok.inj h
      exact ⟨hplain, fun text htext => by cases htext⟩
    · obtain rfl := Except.ok.inj h
      exact ⟨hplain, fun text htext => by cases htext⟩

end QueryDesk.Url
