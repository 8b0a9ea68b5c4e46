import Mathlib.Data.List.TakeWhile
import QueryDesk.ExportLink
import QueryDesk.Proofs.BaseParts
import QueryDesk.Proofs.FormDecoding

/-!
# The parts of an export link

When a link is cut at the signs that divide an address, the scheme and the authority are those of
the base, the path is that of the page that exports, the query is one pair with the text that was
asked for, and there is no fragment.
-/
namespace QueryDesk.Url

/-- The parts of an address. -/
structure Address where
  scheme : List Char
  authority : Option (List Char)
  path : List Char
  query : Option (List Char)
  fragment : Option (List Char)
  deriving DecidableEq, Repr

namespace Address

/-- An authority between two slashes and what ends it. -/
def cutAuthority : List Char → Option (List Char) × List Char
  | '/' :: '/' :: rest =>
      (some (rest.takeWhile (!endsAuthority .other ·)), rest.dropWhile (!endsAuthority .other ·))
  | rest => (none, rest)

def endsPath (c : Char) : Bool := c = '?' || c = '#'

/-- A query between a question mark and a fragment. -/
def cutQuery : List Char → Option (List Char) × List Char
  | '?' :: rest => (some (rest.takeWhile (· ≠ '#')), rest.dropWhile (· ≠ '#'))
  | rest => (none, rest)

def cutFragment : List Char → Option (List Char)
  | '#' :: rest => some rest
  | _ => none

/-- Cuts an address at the first sign that divides each two of its parts. -/
def ofText (text : List Char) : Address :=
  let (authority, rest) := cutAuthority ((text.dropWhile (· ≠ ':')).drop 1)
  let (query, after) := cutQuery (rest.dropWhile (!endsPath ·))
  ⟨text.takeWhile (· ≠ ':'), authority, rest.takeWhile (!endsPath ·), query, cutFragment after⟩

/-- A query as it stands after a path. -/
def queryText : Option (List Char) → List Char
  | none => []
  | some query => '?' :: query

variable {scheme rest path : List Char} {authority query : Option (List Char)}

theorem takeWhile_path (hpath : ∀ c ∈ path, endsPath c = false) (query : Option (List Char)) :
    (path ++ queryText query).takeWhile (!endsPath ·) = path ∧
      (path ++ queryText query).dropWhile (!endsPath ·) = queryText query := by
  have hkeep : ∀ c ∈ path, (!endsPath c) = true := fun c hc => by rw [hpath c hc]; rfl
  cases query with
  | none =>
    rw [queryText, List.append_nil]
    exact ⟨List.takeWhile_eq_self_iff.2 hkeep, List.dropWhile_eq_nil_iff.2 hkeep⟩
  | some query =>
    exact ⟨Text.takeWhile_stop hkeep (by decide) query, Text.dropWhile_stop hkeep (by decide) query⟩

theorem cutQuery_text (hquery : ∀ text, query = some text → '#' ∉ text) :
    cutQuery (queryText query) = (query, []) := by
  cases query with
  | none => rfl
  | some query =>
    have hkeep : ∀ c ∈ query, decide (c ≠ '#') = true := fun c hc =>
      decide_eq_true fun he => hquery query rfl (he ▸ hc)
    rw [queryText, cutQuery, List.takeWhile_eq_self_iff.2 hkeep, List.dropWhile_eq_nil_iff.2 hkeep]

/-- An address is cut into the parts that it has been put together from. -/
theorem ofText_parts (hscheme : ':' ∉ scheme)
    (hrest : cutAuthority rest = (authority, path ++ queryText query))
    (hpath : ∀ c ∈ path, endsPath c = false) (hquery : ∀ text, query = some text → '#' ∉ text) :
    ofText (scheme ++ ':' :: rest) = ⟨scheme, authority, path, query, none⟩ := by
  have hkeep : ∀ c ∈ scheme, decide (c ≠ ':') = true := fun c hc =>
    decide_eq_true fun he => hscheme (he ▸ hc)
  have hbefore : (scheme ++ ':' :: rest).takeWhile (· ≠ ':') = scheme :=
    Text.takeWhile_stop hkeep (by decide) rest
  have hafter : ((scheme ++ ':' :: rest).dropWhile (· ≠ ':')).drop 1 = rest := by
    rw [Text.dropWhile_stop hkeep (by decide)]
    rfl
  obtain ⟨htake, hdrop⟩ := takeWhile_path hpath query
  simp only [ofText, hbefore, hafter, hrest, htake, hdrop, cutQuery_text hquery]
  rfl

end Address

/-- What a place is written as, up to a path that begins with a slash. -/
def Place.written : Place → List Char
  | .authority text => '/' :: '/' :: text
  | .rooted true => ['/', '.']
  | _ => []

/-- The dot before a path that would else look like an authority. -/
def Place.dot : Place → List Char
  | .rooted true => ['/', '.']
  | _ => []

theorem cutAuthority_place {place : Place} (h : ∀ text, place = .authority text → Plain text)
    (rest : List Char) :
    Address.cutAuthority (place.written ++ '/' :: 'e' :: rest) =
      (place.authority?, place.dot ++ '/' :: 'e' :: rest) := by
  cases place with
  | authority text =>
    have hkeep : ∀ c ∈ text, (!endsAuthority .other c) = true := fun c hc => by
      rw [h text rfl c hc]
      rfl
    have hend : (!endsAuthority .other '/') = false := by decide
    have htake := Text.takeWhile_stop hkeep hend ('e' :: rest)
    have hdrop := Text.dropWhile_stop hkeep hend ('e' :: rest)
    simp only [Place.written, List.cons_append, Address.cutAuthority, htake, hdrop,
      Place.authority?, Place.dot, List.nil_append]
  | rooted dotted => cases dotted <;> rfl
  | bare => rfl

end QueryDesk.Url

namespace QueryDesk.ExportLink

open QueryDesk.Url

variable {text : String} {link : ExportLink}

theorem endpoint_of_ofBase (h : ofBase text = .ok link) :
    ∃ base, Base.read text.toList = .ok base ∧
      link.endpoint = base.scheme ++ ':' :: (base.place.written ++ path) := by
  unfold ofBase at h
  split at h
  · cases h
  rename_i base hbase
  refine ⟨base, hbase, ?_⟩
  split at h
  · cases h
  · rename_i authority hplace
    obtain rfl := Except.ok.inj h
    simp [hplace, Place.written]
  · rename_i dotted hplace
    obtain rfl := Except.ok.inj h
    cases dotted <;> simp [hplace, Place.written]

theorem not_mem_form {query : String} {sign : Char} (h : isFormSign sign = false) :
    sign ∉ formEncode query.toList := by
  intro hmem
  rw [isFormSign_of_mem_formEncode hmem] at h
  cases h

theorem endsPath_of_mem_path : ∀ c ∈ path, Address.endsPath c = false := by
  simp [path, Address.endsPath]

theorem endsPath_of_mem_dot {place : Place} {c : Char} (h : c ∈ place.dot) :
    Address.endsPath c = false := by
  unfold Place.dot at h
  split at h
  · obtain rfl | h := List.mem_cons.1 h
    · decide
    · obtain rfl := List.mem_singleton.1 h
      decide
  · cases h

/-- No sign of an endpoint begins a query or a fragment. -/
theorem endsPath_of_mem_endpoint {base : Base} (hdivided : base.Divided) {c : Char}
    (h : c ∈ base.scheme ++ ':' :: (base.place.written ++ path)) : Address.endsPath c = false := by
  have hplain (hc : endsAuthority .other c = false) : Address.endsPath c = false := by
    simp_all [endsAuthority, Address.endsPath]
  obtain h | h := List.mem_append.1 h
  · exact hplain (hdivided.scheme c h).2
  obtain rfl | h := List.mem_cons.1 h
  · decide
  obtain h | h := List.mem_append.1 h
  · unfold Place.written at h
    split at h
    · rename_i text hplace
      obtain rfl | h := List.mem_cons.1 h
      · decide
      obtain rfl | h := List.mem_cons.1 h
      · decide
      · exact hplain (hdivided.authority text hplace c h)
    · have hdot : c ∈ (Place.rooted true).dot := h
      exact endsPath_of_mem_dot hdot
    · cases h
  · exact endsPath_of_mem_path c h

/-- An endpoint with or without a query is cut into the parts of its base. -/
theorem ofText_endpoint {base : Base} (hdivided : base.Divided) (query : Option (List Char))
    (hquery : ∀ text, query = some text → '#' ∉ text) :
    Address.ofText (base.scheme ++ ':' :: (base.place.written ++ path) ++ Address.queryText query) =
      ⟨base.scheme, base.place.authority?, base.place.dot ++ path, query, none⟩ := by
  have hscheme : ':' ∉ base.scheme := fun hmem => (hdivided.scheme ':' hmem).1 rfl
  have hcut := cutAuthority_place hdivided.authority ('x' :: 'p' :: Address.queryText query)
  have hpath : ∀ c ∈ base.place.dot ++ path, Address.endsPath c = false := by
    intro c hc
    obtain hc | hc := List.mem_append.1 hc
    · exact endsPath_of_mem_dot hc
    · exact endsPath_of_mem_path c hc
  rw [List.append_assoc, List.cons_append]
  refine Address.ofText_parts hscheme ?_ hpath hquery
  rw [List.append_assoc, List.append_assoc]
  exact hcut

/-- A link keeps the scheme and the authority of its base and nothing else of it: up to the question
mark it is the same for every query and ends with the page that exports. What follows is a form with
one pair, from which the query comes back as it was, so different queries have different links. -/
theorem link_carries_query (h : ofBase text = .ok link) :
    ∃ base, Base.read text.toList = .ok base ∧
      '?' ∉ link.endpoint ∧ '#' ∉ link.endpoint ∧ (∃ site, link.endpoint = site ++ path) ∧
      Address.ofText link.endpoint =
        ⟨base.scheme, base.place.authority?, base.place.dot ++ path, none, none⟩ ∧
      (∀ query : String, ∃ s, (link.encode query).toList = link.endpoint ++ parameter ++ s ∧
        (∀ c ∈ s, isFormSign c = true) ∧ formDecode? s = some query.toList ∧
        Address.ofText (link.encode query).toList = ⟨base.scheme, base.place.authority?,
          base.place.dot ++ path, some ("query=".toList ++ s), none⟩ ∧
        formPairs ("query=".toList ++ s) = [(some "query".toList, some query.toList)]) ∧
      Function.Injective link.encode := by
  obtain ⟨base, hbase, hendpoint⟩ := endpoint_of_ofBase h
  have hdivided := divided_of_read hbase
  have hends (c : Char) (hc : c ∈ link.endpoint) : Address.endsPath c = false :=
    endsPath_of_mem_endpoint hdivided (hendpoint ▸ hc)
  have hlink (query : String) : (link.encode query).toList =
      link.endpoint ++ parameter ++ formEncode query.toList := by
    rw [encode, String.toList_ofList]
  refine ⟨base, hbase, fun hc => ?_, fun hc => ?_, ?_, ?_, fun query => ?_, ?_⟩
  · exact absurd (hends _ hc) (by decide)
  · exact absurd (hends _ hc) (by decide)
  · exact ⟨base.scheme ++ ':' :: base.place.written, by rw [hendpoint]; simp⟩
  · have hparts := ofText_endpoint hdivided none (by simp)
    rw [Address.queryText, List.append_nil] at hparts
    rw [hendpoint, hparts]
  · refine ⟨formEncode query.toList, hlink query, fun c hc => isFormSign_of_mem_formEncode hc,
      formDecode?_formEncode _, ?_, ?_⟩
    · have hquery : ∀ text, some ("query=".toList ++ formEncode query.toList) = some text →
          '#' ∉ text := by
        rintro _ ⟨⟩ hmem
        obtain hmem | hmem := List.mem_append.1 hmem
        · exact absurd hmem (by decide)
        · exact not_mem_form (by decide) hmem
      have hparts := ofText_endpoint hdivided _ hquery
      rw [hlink, hendpoint, List.append_assoc, ← hparts]
      rfl
    · have hname : ∀ c ∈ "query".toList, c ≠ '&' ∧ c ≠ '=' := by simp
      have hread : formDecode? "query".toList = some "query".toList := by decide +kernel
      exact formPairs_pair hname hread query.toList
  · intro query other he
    have hform : formEncode query.toList = formEncode other.toList := by
      have hlist := congrArg String.toList he
      rw [hlink, hlink] at hlist
      exact List.append_cancel_left hlist
    have hread := formDecode?_formEncode query.toList
    rw [hform, formDecode?_formEncode] at hread
    exact String.toList_injective (Option.some.inj hread).symm

/-- User, host and port stay, path, query and fragment of the base do not. -/
theorem link_of_address :
    ∃ link, ofBase "http://me:pw@[::1]:8080/console?x=1#top" = .ok link ∧
      (∃ s, (link.encode "a=1 & b\n+😀").toList =
          "http://me:pw@[::1]:8080/exp?query=".toList ++ s ∧
        formDecode? s = some "a=1 & b\n+😀".toList ∧
        formPairs ("query=".toList ++ s) = [(some "query".toList, some "a=1 & b\n+😀".toList)]) ∧
      Function.Injective link.encode := by
  have hbase : ofBase "http://me:pw@[::1]:8080/console?x=1#top" =
      .ok ⟨"http://me:pw@[::1]:8080/exp".toList⟩ := by decide +kernel
  obtain ⟨base, -, -, -, -, -, hqueries, hinjective⟩ := link_carries_query hbase
  obtain ⟨s, hlink, -, hread, -, hpairs⟩ := hqueries "a=1 & b\n+😀"
  exact ⟨_, hbase, ⟨s, hlink, hread, hpairs⟩, hinjective⟩

end QueryDesk.ExportLink
