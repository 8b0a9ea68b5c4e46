import Mathlib.Tactic.SplitIfs
import QueryDesk.Files.Disk
import QueryDesk.Proofs.Lookup

/-!
# What a written file leaves

A file that has been written is found where it was written, with its bytes. Nothing else moves:
every folder is still a folder and everything that was found is still found, so each path that could
be followed before leads to the same place, and the file can be written again.
-/
namespace QueryDesk.Files

namespace Tree

variable {t t' : Tree} {entry : Option Tree} {around names : List String} {name : String}

theorem child?_setChild (t : Tree) (name other : String) (found : Tree) :
    (t.setChild name (some found)).child? other =
      if other = name then some found else t.child? other := by
  cases t with
  | file bytes => exact lookup_put [] name other found
  | folder entries => exact lookup_put entries name other found

theorem put_cons {names : List String} (h : names ≠ []) (t : Tree) (entry : Option Tree)
    (name : String) :
    t.put entry (name :: names) =
      t.setChild name (some (put ((t.child? name).getD empty) entry names)) := by
  cases names with
  | nil => exact absurd rfl h
  | cons next names => rfl

theorem find?_put_self (t found : Tree) (names : List String) :
    (t.put (some found) names).find? names = some found := by
  induction names generalizing t with
  | nil => rfl
  | cons name names ih =>
    cases names with
    | nil => simp [put, find?, child?_setChild]
    | cons next names =>
      rw [put_cons (List.cons_ne_nil next names), find?, child?_setChild, if_pos rfl]
      exact ih _

theorem setChild_setChild (t : Tree) (name : String) (found later : Tree) :
    (t.setChild name (some found)).setChild name (some later) = t.setChild name (some later) := by
  cases t with
  | file bytes => simp [setChild]
  | folder entries => simp [setChild, List.filter_filter]

/-- Of two things put at one place the second stays. -/
theorem put_put (t found later : Tree) (names : List String) :
    (t.put (some found) names).put (some later) names = t.put (some later) names := by
  induction names generalizing t with
  | nil => rfl
  | cons name names ih =>
    cases names with
    | nil => exact setChild_setChild t name found later
    | cons next names =>
      have hnames := List.cons_ne_nil next names
      rw [put_cons hnames, put_cons hnames, put_cons hnames, child?_setChild, if_pos rfl,
        Option.getD_some, ih, setChild_setChild]

/-- What is found stays found as a file or as a folder. -/
def Keeps (t t' : Tree) : Prop :=
  ∀ names found, t.find? names = some found →
    ∃ found', t'.find? names = some found' ∧ found'.isFolder = found.isFolder

theorem keeps_setChild {found : Tree} (hf : t.isFolder = true)
    (h : ∀ child, t.child? name = some child → Keeps child found) :
    Keeps t (t.setChild name (some found)) := by
  intro names x hx
  cases names with
  | nil =>
    obtain rfl := Option.some.inj hx
    exact ⟨_, rfl, hf.symm⟩
  | cons next names =>
    obtain ⟨child, hchild, hx⟩ := Option.bind_eq_some_iff.1 hx
    rw [find?, child?_setChild]
    split
    · rename_i hn
      exact h child (hn ▸ hchild) names x hx
    · exact ⟨x, by rw [hchild]; exact hx, rfl⟩

theorem keeps_file {bytes bytes' : List UInt8} : Keeps (.file bytes) (.file bytes') := by
  intro names x hx
  cases names with
  | nil =>
    obtain rfl := Option.some.inj hx
    exact ⟨_, rfl, rfl⟩
  | cons next names => cases hx

theorem isFolder_of_child? {child : Tree} (h : t.child? name = some child) : t.isFolder = true := by
  cases t with
  | file bytes => cases h
  | folder entries => rfl

/-- A file put into a folder, where no folder is, keeps what is found. -/
theorem keeps_put {bytes : List UInt8} {entries : List (String × Tree)}
    (hf : t.find? around = some (.folder entries))
    (hn : ∀ entries, t.find? (around ++ [name]) ≠ some (.folder entries)) :
    Keeps t (t.put (some (.file bytes)) (around ++ [name])) := by
  induction around generalizing t with
  | nil =>
    obtain rfl := Option.some.inj hf
    refine keeps_setChild rfl fun child hchild => ?_
    cases child with
    | file old => exact keeps_file
    | folder others => exact absurd (by rw [List.nil_append, find?, hchild]; rfl) (hn others)
  | cons next around ih =>
    obtain ⟨child, hchild, hfound⟩ := Option.bind_eq_some_iff.1 hf
    rw [List.cons_append, put_cons (by simp), hchild]
    refine keeps_setChild (isFolder_of_child? hchild) fun other hother => ?_
    obtain rfl := Option.some.inj (hchild.symm.trans hother)
    refine ih hfound fun entries he => hn entries ?_
    rw [List.cons_append, find?, hchild]
    exact he

theorem isFolder_iff : t.isFolder = true ↔ ∃ entries, t = .folder entries := by
  cases t with
  | file bytes => simp [isFolder]
  | folder entries => simp [isFolder]

theorem Keeps.folder (hk : Keeps t t') {entries : List (String × Tree)}
    (h : t.find? names = some (.folder entries)) :
    ∃ entries', t'.find? names = some (.folder entries') := by
  obtain ⟨found, hfound, hf⟩ := hk names _ h
  obtain ⟨entries', rfl⟩ := isFolder_iff.1 hf
  exact ⟨entries', hfound⟩

/-- A step is taken from a folder. -/
theorem folder_of_step {spot next : List String} (h : t.step spot name = .ok next) :
    ∃ entries, t.find? spot = some (.folder entries) := by
  unfold step at h
  split at h
  · cases h
  · cases h
  · rename_i entries hs
    exact ⟨entries, hs⟩

theorem Keeps.step {spot next : List String} (hk : Keeps t t') (h : t.step spot name = .ok next) :
    t'.step spot name = .ok next := by
  obtain ⟨entries, hs⟩ := folder_of_step h
  obtain ⟨entries', hs'⟩ := hk.folder hs
  have hsome (h : (t.find? (spot ++ [name])).isSome = true) :
      (t'.find? (spot ++ [name])).isSome = true := by
    obtain ⟨found, hfound⟩ := Option.isSome_iff_exists.1 h
    obtain ⟨found', hfound', -⟩ := hk _ _ hfound
    rw [hfound', Option.isSome_some]
  simp only [Tree.step, hs, hs'] at h ⊢
  split_ifs at h ⊢ with hdot hdots hlong hmoved
  · exact h
  · exact h
  · exact h
  · rename_i hfound
    exact absurd (hsome hfound) hmoved

/-- A path that could be followed leads to the same place. -/
theorem Keeps.foldlM_step {spot next : List String} (hk : Keeps t t')
    (h : names.foldlM t.step spot = .ok next) : names.foldlM t'.step spot = .ok next := by
  induction names generalizing spot with
  | nil => exact h
  | cons name names ih =>
    rw [List.foldlM_cons] at h ⊢
    cases hs : t.step spot name with
    | error error =>
      rw [hs] at h
      cases h
    | ok reached =>
      rw [hs] at h
      rw [hk.step hs]
      exact ih h

/-- Single dots are no steps. -/
theorem foldlM_step_filter {spot next : List String} (h : names.foldlM t.step spot = .ok next) :
    (names.filter (· ≠ ".")).foldlM t.step spot = .ok next := by
  induction names generalizing spot with
  | nil => exact h
  | cons name names ih =>
    rw [List.foldlM_cons] at h
    cases hs : t.step spot name with
    | error error =>
      rw [hs] at h
      cases h
    | ok reached =>
      rw [hs] at h
      have hrest := ih h
      rw [List.filter_cons]
      split
      · rw [List.foldlM_cons, hs]
        exact hrest
      · rename_i hdot
        have hname : name = "." := by simpa using hdot
        obtain ⟨entries, hspot⟩ := folder_of_step hs
        simp only [step, hspot, hname, if_true, Except.ok.injEq] at hs
        rw [hs]
        exact hrest

end Tree

namespace Disk

variable {d d' : Disk} {around names : List String} {name : String}

@[simp] theorem put_root (d : Disk) (entry : Option Tree) (names : List String) :
    (d.put entry names).root = d.root.put entry names := rfl

theorem put_put (d : Disk) (found later : Tree) (names : List String) :
    (d.put (some found) names).put (some later) names = d.put (some later) names := by
  rw [put, put_root, Tree.put_put]
  rfl

/-- What a path has to be for a file to be written there: the last name stands in a folder, and no
folder has that name. -/
structure Writable (d : Disk) (text : String) (around : List String) (name : String) : Prop where
  path : badPath? text = none
  walk : d.walk (Path.ofText text).absolute (Path.ofText text).names.dropLast = .ok around
  last : (Path.ofText text).names.getLast? = some name
  slash : (Path.ofText text).slash = false
  dots : isDots name = false
  short : Text.utf8Length name.toList ≤ maxName
  folder : ∃ entries, d.root.find? around = some (.folder entries)
  free : ∀ entries, d.root.find? (around ++ [name]) ≠ some (.folder entries)

theorem write_eq {text : String} (h : Writable d text around name) (bytes : List UInt8) :
    d.write text bytes = .ok (d.put (some (.file bytes)) (around ++ [name])) := by
  obtain ⟨entries, hfolder⟩ := h.folder
  have hplace : d.place (Path.ofText text).absolute (Path.ofText text).names =
      .ok (around, some name) := by
    simp only [place, h.walk, hfolder, h.last]
  simp only [write, h.path, hplace, h.slash, h.dots, Bool.or_self, Bool.false_eq_true, if_false,
    Nat.not_lt.2 h.short]
  split
  · rename_i found hfound
    exact absurd hfound (h.free found)
  · rfl

theorem writable_of_write {text : String} {bytes : List UInt8} (h : d.write text bytes = .ok d') :
    ∃ around name, Writable d text around name := by
  unfold write at h
  split at h
  · cases h
  rename_i hpath
  dsimp only at h
  split at h
  · cases h
  · cases h
  rename_i around name hplace
  split_ifs at h with hdots hlong
  split at h
  · cases h
  rename_i hfree
  unfold place at hplace
  split at hplace
  · cases hplace
  rename_i reached hwalk
  split at hplace
  · cases hplace
  · cases hplace
  rename_i entries hfolder
  simp only [Except.ok.injEq, Prod.mk.injEq] at hplace
  obtain ⟨rfl, hlast⟩ := hplace
  simp only [Bool.or_eq_true, not_or, Bool.not_eq_true] at hdots
  exact ⟨reached, name, hpath, hwalk, hlast, hdots.1, hdots.2, Nat.not_lt.1 hlong,
    ⟨entries, hfolder⟩, hfree⟩

namespace Writable

variable {text : String} {bytes : List UInt8}

theorem keeps (h : Writable d text around name) (bytes : List UInt8) :
    d.root.Keeps (d.put (some (.file bytes)) (around ++ [name])).root :=
  let ⟨_, hfolder⟩ := h.folder
  Tree.keeps_put hfolder h.free

theorem put (h : Writable d text around name) (bytes : List UInt8) :
    Writable (d.put (some (.file bytes)) (around ++ [name])) text around name where
  path := h.path
  walk := (h.keeps bytes).foldlM_step h.walk
  last := h.last
  slash := h.slash
  dots := h.dots
  short := h.short
  folder := by
    obtain ⟨entries, hfolder⟩ := h.folder
    exact (h.keeps bytes).folder hfolder
  free := by
    intro entries he
    rw [put_root, Tree.find?_put_self] at he
    cases he

theorem names_eq (h : Writable d text around name) :
    (Path.ofText text).names = (Path.ofText text).names.dropLast ++ [name] := by
  obtain ⟨init, hnames⟩ := List.getLast?_eq_some_iff.1 h.last
  rw [hnames, List.dropLast_concat]

/-- The file that has been written is found. -/
theorem locate_put (h : Writable d text around name) (bytes : List UInt8) :
    (d.put (some (.file bytes)) (around ++ [name])).locate text = .ok (.file bytes) := by
  have hput := h.put bytes
  have hdots := h.dots
  simp only [isDots, Bool.or_eq_false_iff, decide_eq_false_iff_not] at hdots
  have hself : (d.put (some (.file bytes)) (around ++ [name])).root.find? (around ++ [name]) =
      some (.file bytes) := Tree.find?_put_self ..
  generalize d.put (some (.file bytes)) (around ++ [name]) = written at hput hself ⊢
  obtain ⟨entries, hfolder⟩ := hput.folder
  have hstep : written.root.step around name = .ok (around ++ [name]) := by
    simp only [Tree.step, hfolder, hdots.1, hdots.2, if_false, Nat.not_lt.2 h.short, hself,
      Option.isSome_some, if_true]
  have hwalk : written.walk (Path.ofText text).absolute (Path.ofText text).names =
      .ok (around ++ [name]) := by
    have hinit := hput.walk
    rw [Disk.walk] at hinit
    rw [h.names_eq, Disk.walk, List.foldlM_append, hinit]
    simp only [bind, Except.bind, List.foldlM_cons, List.foldlM_nil, hstep, pure, Except.pure]
  simp only [locate, h.path, hwalk, hself, h.slash, Bool.false_and, Bool.false_eq_true, if_false]

end Writable

/-- What stands before the last name can be followed without its dots as well. -/
theorem walk_parent {path : Path} {spot : List String} (hlast : path.names.getLast? = some name)
    (hdot : name ≠ ".") (h : d.walk path.absolute path.names.dropLast = .ok spot) :
    d.walk path.absolute path.steps.dropLast = .ok spot := by
  obtain ⟨init, hnames⟩ := List.getLast?_eq_some_iff.1 hlast
  rw [hnames, List.dropLast_concat] at h
  have hfilter (names : List String) : ((names ++ [name]).filter (· ≠ ".")).dropLast =
      names.filter (· ≠ ".") := by
    simp [hdot]
  unfold Path.steps
  split
  · rename_i names habsolute hdotted
    rw [hnames] at hdotted
    cases init with
    | nil => exact absurd (List.cons.inj hdotted).1 hdot
    | cons first init =>
      obtain ⟨rfl, rfl⟩ := List.cons.inj hdotted
      rw [List.append_eq, List.dropLast_cons_of_ne_nil (by simp [hdot]), hfilter]
      rw [walk, List.foldlM_cons] at h ⊢
      cases hs : d.root.step (d.start path.absolute) "." with
      | error error =>
        rw [hs] at h
        cases h
      | ok reached =>
        rw [hs] at h
        exact Tree.foldlM_step_filter h
  · rw [hnames, hfilter]
    exact Tree.foldlM_step_filter h

end Disk

end QueryDesk.Files
