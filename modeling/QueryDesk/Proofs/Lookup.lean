/-!
# Entries under names

A list of named values in which an entry is put in front, in the place of any older one under its
name: the name leads to the new value, and all other names lead where they led.
-/
namespace QueryDesk

variable {V : Type} {entries : List (String × V)} {name other : String}

theorem mem_of_lookup {value : V} (h : entries.lookup name = some value) :
    (name, value) ∈ entries := by
  obtain ⟨before, after, rfl, -⟩ := List.lookup_eq_some_iff.1 h
  exact List.mem_append_right _ (List.mem_cons_self ..)

theorem lookup_filter_ne (h : other ≠ name) :
    (entries.filter (·.1 ≠ name)).lookup other = entries.lookup other := by
  induction entries with
  | nil => rfl
  | cons pair entries ih =>
    rw [List.filter_cons]
    split
    · rw [List.lookup_cons, List.lookup_cons, ih]
    · rename_i hk
      have hkey : pair.1 = name := by simpa using hk
      rw [List.lookup_cons, beq_eq_false_iff_ne.2 (hkey ▸ h)]
      exact ih

theorem lookup_put (entries : List (String × V)) (name other : String) (value : V) :
    ((name, value) :: entries.filter (·.1 ≠ name)).lookup other =
      if other = name then some value else entries.lookup other := by
  split
  · rename_i h
    subst h
    exact List.lookup_cons_self
  · rename_i h
    rw [List.lookup_cons, beq_eq_false_iff_ne.2 h]
    exact lookup_filter_ne h

end QueryDesk
