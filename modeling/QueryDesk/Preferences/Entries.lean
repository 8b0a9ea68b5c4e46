/-!
# Entries of a preference store

A map from text to text, kept in the order of its keys. What is looked up after an
insertion is the new value under the new key and the old one under every other.
-/
namespace QueryDesk.Preferences

/-- The pairs of a map, each key once and before the greater ones. -/
structure Entries where
  pairs : List (String × String)
  sorted : pairs.Pairwise (·.1 < ·.1)

namespace Entries

def empty : Entries := ⟨[], .nil⟩

instance : Inhabited Entries := ⟨empty⟩

/-- The value under a key. -/
def find? (entries : Entries) (key : String) : Option String := entries.pairs.lookup key

/-- The pairs with one more, before the first greater key. -/
def insertPair (key value : String) : List (String × String) → List (String × String)
  | [] => [(key, value)]
  | pair :: rest =>
      if key < pair.1 then (key, value) :: pair :: rest
      else if key = pair.1 then (key, value) :: rest
      else pair :: insertPair key value rest

private theorem lt_of_not_lt_of_ne {a b : String} (h : ¬a < b) (hne : a ≠ b) : b < a :=
  Decidable.byContradiction fun hb =>
    hne (String.le_antisymm (String.not_lt.1 hb) (String.not_lt.1 h))

theorem mem_insertPair {key value : String} {pairs : List (String × String)}
    {pair : String × String} (h : pair ∈ insertPair key value pairs) :
    pair = (key, value) ∨ pair ∈ pairs := by
  induction pairs with
  | nil => simpa [insertPair] using h
  | cons first rest ih =>
    unfold insertPair at h
    split at h
    · simpa using h
    · split at h
      · simp only [List.mem_cons] at h ⊢
        exact h.imp id .inr
      · simp only [List.mem_cons] at h ⊢
        rcases h with h | h
        · exact .inr (.inl h)
        · exact (ih h).imp id .inr

theorem pairwise_insertPair {key value : String} {pairs : List (String × String)}
    (h : pairs.Pairwise (·.1 < ·.1)) : (insertPair key value pairs).Pairwise (·.1 < ·.1) := by
  induction pairs with
  | nil => simp [insertPair]
  | cons first rest ih =>
    have hf := List.pairwise_cons.1 h
    unfold insertPair
    split
    · rename_i hlt
      refine List.pairwise_cons.2 ⟨fun pair hp => ?_, h⟩
      rcases List.mem_cons.1 hp with rfl | hp
      · exact hlt
      · exact String.lt_trans hlt (hf.1 pair hp)
    · split
      · rename_i heq
        exact List.pairwise_cons.2 ⟨fun pair hp => heq ▸ hf.1 pair hp, hf.2⟩
      · rename_i hlt hne
        refine List.pairwise_cons.2 ⟨fun pair hp => ?_, ih hf.2⟩
        rcases mem_insertPair hp with rfl | hp
        · exact lt_of_not_lt_of_ne hlt hne
        · exact hf.1 pair hp

/-- The map with a value put under a key. -/
def insert (entries : Entries) (key value : String) : Entries :=
  ⟨insertPair key value entries.pairs, pairwise_insertPair entries.sorted⟩

/-- The map without a key. -/
def erase (entries : Entries) (key : String) : Entries :=
  ⟨entries.pairs.filter (·.1 ≠ key), entries.sorted.filter _⟩

/-- The map of some pairs; of several values under one key the last stays. -/
def ofList (pairs : List (String × String)) : Entries :=
  pairs.foldl (fun entries pair => entries.insert pair.1 pair.2) empty

theorem lookup_insertPair (key value other : String) (pairs : List (String × String)) :
    (insertPair key value pairs).lookup other =
      if other = key then some value else pairs.lookup other := by
  have miss {a b : String} (h : ¬a = b) : (a == b) = false := beq_eq_false_iff_ne.2 h
  induction pairs with
  | nil => by_cases h : other = key <;> simp [insertPair, List.lookup_cons, List.lookup_nil, h, miss]
  | cons first rest ih =>
    obtain ⟨k, v⟩ := first
    unfold insertPair
    split
    · by_cases h : other = key <;> simp [List.lookup_cons, h, miss]
    · split
      · rename_i heq
        subst heq
        by_cases h : other = key <;> simp [List.lookup_cons, h, miss]
      · rename_i hne
        simp only [List.lookup_cons, ih]
        by_cases h : other = key
        · subst h
          simp [miss hne]
        · simp [h]

theorem find?_insert (entries : Entries) (key value other : String) :
    (entries.insert key value).find? other =
      if other = key then some value else entries.find? other :=
  lookup_insertPair key value other entries.pairs

end Entries

end QueryDesk.Preferences
