import QueryDesk.Url.Host

/-!
# Base addresses

What of a URL stays when its path, query and fragment are replaced: the scheme and,
if there is one, the authority with its user, host and port. Tabs and line ends in a
URL do not count, nor do controls and spaces around it. The known schemes always have
an authority, take backslashes for slashes and leave out their usual port.
-/
namespace QueryDesk.Url

inductive SchemeKind where
  /-- The scheme of local files. -/
  | file
  /-- A scheme with hosts that are domains. -/
  | known
  | other
  deriving DecidableEq, Repr

/-- The usual port of a scheme. -/
def defaultPort? (scheme : List Char) : Option Nat :=
  [("http", 80), ("https", 443), ("ws", 80), ("wss", 443), ("ftp", 21)].lookup
    (String.ofList scheme)

def SchemeKind.ofScheme (scheme : List Char) : SchemeKind :=
  if scheme = ['f', 'i', 'l', 'e'] then .file
  else if (defaultPort? scheme).isSome then .known
  else .other

/-- What the rest of a URL is after its scheme. -/
inductive Place where
  /-- An authority, written as after two slashes. -/
  | authority (text : List Char)
  /-- A path without authority. It begins with a dot if it would else look like one. -/
  | rooted (dotted : Bool)
  /-- Neither: no path can take its place. -/
  | bare
  deriving DecidableEq, Repr

structure Base where
  scheme : List Char
  place : Place
  deriving DecidableEq, Repr

private def isAlpha (c : Char) : Bool := ('a' ≤ c && c ≤ 'z') || ('A' ≤ c && c ≤ 'Z')

private def isSchemeChar (c : Char) : Bool :=
  isAlpha c || Text.isAsciiDigit c || c = '+' || c = '-' || c = '.'

/-- The characters of a URL that count. -/
def significant (text : List Char) : List Char :=
  let isEdge (c : Char) : Bool := c.toNat ≤ 0x20
  let trimmed := ((text.dropWhile isEdge).reverse.dropWhile isEdge).reverse
  trimmed.filter fun c => c ≠ '\t' && c ≠ '\n' && c ≠ '\r'

/-- The scheme in lower case and what follows its colon. -/
def splitScheme? (s : List Char) : Option (List Char × List Char) :=
  if s.head?.any isAlpha then
    match s.dropWhile isSchemeChar with
    | ':' :: rest => some ((s.takeWhile isSchemeChar).map Char.toLower, rest)
    | _ => none
  else none

/-- What ends an authority. -/
def endsAuthority (kind : SchemeKind) (c : Char) : Bool :=
  c = '/' || c = '?' || c = '#' || (c = '\\' && kind ≠ .other)

private theorem small_of_isSchemeChar {c : Char} (h : isSchemeChar c = true) : c.toNat < 0x80 := by
  have hle (a b : Char) : a ≤ b ↔ a.toNat ≤ b.toNat := by
    rw [Char.le_def, UInt32.le_iff_toNat_le]
    rfl
  simp only [isSchemeChar, isAlpha, Text.isAsciiDigit, Bool.or_eq_true, Bool.and_eq_true,
    decide_eq_true_eq, hle] at h
  obtain ((((h | h) | h) | rfl) | rfl) | rfl := h
  · exact Nat.lt_of_le_of_lt h.2 (by decide)
  · exact Nat.lt_of_le_of_lt h.2 (by decide)
  · exact Nat.lt_of_le_of_lt h.2 (by decide)
  · decide
  · decide
  · decide

/-- A scheme holds no sign that divides an address. -/
theorem plain_of_splitScheme? {s scheme rest : List Char}
    (h : splitScheme? s = some (scheme, rest)) :
    ∀ c ∈ scheme, c ≠ ':' ∧ endsAuthority .other c = false := by
  have hlower : ∀ n < 0x80, isSchemeChar (Char.ofNat n) = true →
      (Char.ofNat n).toLower ≠ ':' ∧ endsAuthority .other (Char.ofNat n).toLower = false := by
    decide
  unfold splitScheme? at h
  split at h
  · split at h
    · obtain ⟨rfl, -⟩ := Prod.mk.inj (Option.some.inj h)
      intro c hc
      obtain ⟨letter, hletter, rfl⟩ := List.mem_map.1 hc
      have hscheme := List.all_eq_true.1 List.all_takeWhile letter hletter
      have hplain := hlower letter.toNat (small_of_isSchemeChar hscheme)
      rw [Char.ofNat_toNat] at hplain
      exact hplain hscheme
    · cases h
  · cases h

/-- What a user name and a password may show unencoded. -/
private def isPlainInUser (c : Char) : Bool :=
  isPrintable c
    && !([' ', '"', '#', '/', ':', ';', '<', '=', '>', '?', '@', '[', '\\', ']', '^', '`', '\x7b',
      '|', '\x7d'].contains c)

/-- The written form of what stands before the last at sign: a name, and after a colon a password,
unless both are empty. -/
def userText (user : List Char) : List Char :=
  let name := percentEncode isPlainInUser (user.takeWhile (· ≠ ':'))
  let password := percentEncode isPlainInUser ((user.dropWhile (· ≠ ':')).drop 1)
  let text := name ++ (if password.isEmpty then [] else ':' :: password)
  if text.isEmpty then [] else text ++ ['@']

/-- A written user holds no sign that ends an authority. -/
theorem plain_of_mem_userText {user : List Char} {c : Char} (h : c ∈ userText user) :
    endsAuthority .other c = false := by
  have hplain (keptText : List Char) (hc : c ∈ percentEncode isPlainInUser keptText) :
      endsAuthority .other c = false := by
    obtain ⟨-, hkeep⟩ | rfl | ⟨n, hn, rfl⟩ := mem_percentEncode hc
    · simp_all [isPlainInUser, endsAuthority]
    · decide
    · have hdigit : ∀ n < 16, endsAuthority .other (upperHex n) = false := by decide
      exact hdigit n hn
  have hshown {hidden : Bool} {text : List Char} (hc : c ∈ if hidden then [] else text) :
      c ∈ text := by
    split at hc
    · cases hc
    · exact hc
  obtain h | h := List.mem_append.1 (hshown h)
  · obtain h | h := List.mem_append.1 h
    · exact hplain _ h
    · obtain rfl | h := List.mem_cons.1 (hshown h)
      · decide
      · exact hplain _ h
  · obtain rfl := List.mem_singleton.1 h
    decide

/-- The characters up to the last at sign, if there is one, and those after it. -/
def splitUser (authority : List Char) : Option (List Char) × List Char :=
  let after := (authority.reverse.takeWhile (· ≠ '@')).reverse
  if after.length = authority.length then (none, authority)
  else (some (authority.take (authority.length - after.length - 1)), after)

/-- The characters up to the colon before a port; a colon in brackets is part of the host. -/
def splitHost (inside : Bool) : List Char → List Char × List Char
  | [] => ([], [])
  | c :: rest =>
      if c = ':' && !inside then ([], c :: rest)
      else
        let inside := if c = '[' then true else if c = ']' then false else inside
        let (host, rest) := splitHost inside rest
        (c :: host, rest)

/-- A port as it is written: not at all if it is empty or the usual one. -/
def portText (usual : Option Nat) (digits : List Char) : Except UrlError (List Char) :=
  if !digits.all Text.isAsciiDigit then .error .badPort
  else
    let port := Number.digitsValue digits
    if 65535 < port then .error .badPort
    else if digits.isEmpty || usual = some port then .ok []
    else .ok (':' :: (toString port).toList)

/-- The characters of a port: a backslash ends it under every scheme. -/
private def portDigits (s : List Char) : List Char := s.takeWhile (· ≠ '\\')

/-- The written form of the authority at the start of a text. Its host may be empty only after an
unknown scheme, with neither user nor port, and after an empty user only at the end of the text. -/
def authorityText (scheme s : List Char) : Except UrlError (List Char) :=
  let kind := SchemeKind.ofScheme scheme
  let authority := s.takeWhile (!endsAuthority kind ·)
  let (user, rest) := splitUser authority
  let (hostText, portPart) := splitHost false rest
  let bareUser := user = some [] && authority.length < s.length
  let user := (user.map userText).getD []
  if hostText.isEmpty && (kind = .known || bareUser || !user.isEmpty || !portPart.isEmpty) then
    .error .emptyHost
  else do
    let host ← if kind = .known then readDomainHost hostText else readOpaqueHost hostText
    let port ← portText (defaultPort? scheme) (portDigits (portPart.drop 1))
    return user ++ host ++ port

private def isSlash (c : Char) : Bool := c = '/' || c = '\\'

/-- A letter and a colon or bar. -/
private def isDrive (segment : List Char) : Bool :=
  match segment with
  | [letter, sign] => isAlpha letter && (sign = ':' || sign = '|')
  | _ => false

/-- The segments of a path, and the segments that mean its own folder and the one around it. -/
private def segments (path : List Char) : List (List Char) :=
  path.foldr
    (fun c found =>
      if isSlash c then [] :: found
      else match found with
        | [] => [[c]]
        | piece :: found => (c :: piece) :: found)
    [[]]

private def dots (n : Nat) (segment : List Char) : Bool :=
  let rec reduce : List Char → List Char
    | '%' :: '2' :: 'e' :: rest => '.' :: reduce rest
    | '%' :: '2' :: 'E' :: rest => '.' :: reduce rest
    | c :: rest => c :: reduce rest
    | [] => []
  reduce segment = List.replicate n '.'

/-- Whether a drive letter becomes the first segment of a path, some segments deep in it. -/
private def namesDrive (depth : Nat) : List (List Char) → Bool
  | [] => false
  | segment :: rest =>
      if dots 2 segment then namesDrive (depth - 1) rest
      else if dots 1 segment then namesDrive depth rest
      else if depth = 0 && isDrive segment then true
      else namesDrive (depth + 1) rest

/-- The written host of a local file. A path on a drive has none, nor has the local host. -/
def fileHostText (s : List Char) : Except UrlError (List Char) :=
  match s with
  | a :: b :: rest =>
      if isSlash a && isSlash b then
        let host := rest.takeWhile (!endsAuthority .file ·)
        if isDrive host || host.isEmpty then .ok []
        else do
          let host ← readDomainHost host
          let path := (rest.dropWhile (!endsAuthority .file ·)).takeWhile fun c => c ≠ '?' && c ≠ '#'
          let path := if path.head?.any isSlash then path.drop 1 else path
          return if host = "localhost".toList || namesDrive 0 (segments path) then [] else host
      else .ok []
  | _ => .ok []

/-- Whether a path without authority begins with two slashes once its dots are followed. -/
private def looksLikeAuthority (path : List Char) : Bool :=
  let rec settle (done : List (List Char)) : List (List Char) → List (List Char)
    | [] => done
    | [last] =>
        if dots 2 last then [] :: done.drop 1
        else if dots 1 last then [] :: done
        else last :: done
    | segment :: rest =>
        if dots 2 segment then settle (done.drop 1) rest
        else if dots 1 segment then settle done rest
        else settle (segment :: done) rest
  let plain := path.foldr
    (fun c found =>
      if c = '/' then [] :: found
      else match found with
        | [] => [[c]]
        | piece :: found => (c :: piece) :: found)
    [[]]
  let settled := (settle [] plain).reverse
  1 < settled.length && settled.head? = some []

/-- The base of the URL that makes up a text. -/
def Base.read (text : List Char) : Except UrlError Base :=
  match splitScheme? (significant text) with
  | none => .error .noScheme
  | some (scheme, rest) =>
      match SchemeKind.ofScheme scheme with
      | .file => (fileHostText rest).map (⟨scheme, .authority ·⟩)
      | .known =>
          (authorityText scheme (rest.dropWhile isSlash)).map (⟨scheme, .authority ·⟩)
      | .other =>
          match rest with
          | '/' :: '/' :: rest =>
              (authorityText scheme rest).map (⟨scheme, .authority ·⟩)
          | '/' :: rest =>
              let path := rest.takeWhile fun c => c ≠ '?' && c ≠ '#'
              .ok ⟨scheme, .rooted (looksLikeAuthority path)⟩
          | _ => .ok ⟨scheme, .bare⟩

end QueryDesk.Url
