import QueryDesk.Preferences.Store
import QueryDesk.Proofs.FileWrites
import QueryDesk.Proofs.JsonRoundTrip
import QueryDesk.Proofs.Utf8RoundTrip

/-!
# A store gives what it has taken

A store that works, in memory or in a file, is a map: after a value has been put under a key, that
key has the value and every other key what it had. A file that could not be read counts as an empty
map. A store in a file that takes one value takes the next one too.
-/
namespace QueryDesk.Preferences

open QueryDesk.Files (Disk FileError Path)
open QueryDesk.Files.Disk (Writable)

namespace Entries

variable {key value : String} {pairs : List (String × String)}

theorem ext_pairs {entries others : Entries} (h : entries.pairs = others.pairs) :
    entries = others := by
  obtain ⟨pairs, sorted⟩ := entries
  cases h
  rfl

theorem insertPair_last (h : ∀ pair ∈ pairs, pair.1 < key) :
    insertPair key value pairs = pairs ++ [(key, value)] := by
  induction pairs with
  | nil => rfl
  | cons first rest ih =>
    have hfirst := h first (List.mem_cons_self ..)
    rw [insertPair, if_neg (fun hlt => String.lt_irrefl _ (String.lt_trans hfirst hlt)),
      if_neg (fun he : key = first.1 => String.lt_irrefl key (he.symm ▸ hfirst)),
      ih fun pair hp => h pair (List.mem_cons_of_mem _ hp), List.cons_append]

theorem foldl_insert_pairs (entries : Entries) (h : (entries.pairs ++ pairs).Pairwise (·.1 < ·.1)) :
    (pairs.foldl (fun entries pair => entries.insert pair.1 pair.2) entries).pairs =
      entries.pairs ++ pairs := by
  induction pairs generalizing entries with
  | nil => exact (List.append_nil _).symm
  | cons first rest ih =>
    have hlast : (entries.insert first.1 first.2).pairs = entries.pairs ++ [first] :=
      insertPair_last fun pair hp =>
        (List.pairwise_append.1 h).2.2 pair hp first (List.mem_cons_self ..)
    rw [List.foldl_cons, ih _ (by rw [hlast]; simpa using h), hlast, List.append_assoc]
    rfl

/-- The pairs of a map make up the map. -/
theorem ofList_pairs (entries : Entries) : ofList entries.pairs = entries :=
  ext_pairs (foldl_insert_pairs empty (by simpa [empty] using entries.sorted))

end Entries

variable {files made : Disk} {path name : String} {around : List String}

theorem readText_of_locate {chars : List Char}
    (h : files.locate path = .ok (.file (Text.utf8 chars))) : files.readText path = .ok chars := by
  have hread : files.read path = .ok (Text.utf8 chars) := by rw [Disk.read, h]; rfl
  rw [Disk.readText, hread]
  simp only [Text.readUtf8_utf8]

theorem pretty_not_blank (pairs : List (String × String)) :
    (Json.prettyStringMap pairs).all Text.isBlank = false := by
  have hbrace : Text.isBlank '\x7b' = false := by decide
  cases pairs with
  | nil => simp [Json.prettyStringMap, Json.prettyObject, hbrace]
  | cons pair pairs => rw [Json.prettyStringMap_cons, List.all_cons, hbrace, Bool.false_and]

theorem readEntries_of_locate {entries : Entries}
    (h : files.locate path = .ok (.file (fileBytes entries))) :
    readEntries files path = .ok entries := by
  have hexists : files.pathExists path = true := by rw [Disk.pathExists, h]; rfl
  rw [readEntries, hexists, readText_of_locate h]
  simp only [Bool.not_true, Bool.false_eq_true, if_false, pretty_not_blank,
    Json.readStringMap_pretty, Entries.ofList_pairs]

/-- Around a file that can be written, no folder is missing. -/
theorem makeParents_of_writable (h : Writable files path around name) :
    makeParents files path = (files, none) := by
  have hdots := h.dots
  simp only [Files.Disk.isDots, Bool.or_eq_false_iff, decide_eq_false_iff_not] at hdots
  have hwalk := Files.Disk.walk_parent h.last hdots.1 h.walk
  unfold makeParents
  split
  · rfl
  · rename_i folder hfolder
    unfold Path.parent? at hfolder
    split at hfolder
    · cases hfolder
    · obtain rfl := Option.some.inj hfolder
      simp [hwalk, Except.isOk, Except.toBool]

/-- The map in a file; one that cannot be read counts as empty. -/
def fileEntries (files : Disk) (path : String) : Entries :=
  match readEntries files path with
  | .ok entries => entries
  | .error _ => .empty

theorem writeEntry_of_writable (h : Writable files path around name) (key value : String) :
    writeEntry files path key value =
      (files.put (some (.file (fileBytes ((fileEntries files path).insert key value))))
        (around ++ [name]), none) := by
  simp only [writeEntry, makeParents_of_writable h, Disk.write_eq h]
  rfl

/-- A write that succeeds has made the folders that were missing and put the map into the file, and
so does a write of any other value under any other key. -/
theorem writeEntry_uniform {key value : String} (h : (writeEntry files path key value).2 = none) :
    ∃ made around name, Writable made path around name ∧ ∀ other value',
      writeEntry files path other value' =
        (made.put (some (.file (fileBytes ((fileEntries files path).insert other value'))))
          (around ++ [name]), none) := by
  unfold writeEntry at h ⊢
  dsimp only at h ⊢
  split at h
  · cases h
  · rename_i made hmade
    split at h
    · rename_i written hwrite
      obtain ⟨around, name, hw⟩ := Disk.writable_of_write hwrite
      refine ⟨made, around, name, hw, fun other value' => ?_⟩
      rw [Disk.write_eq hw]
      rfl
    · cases h

theorem writable_of_writeEntry {key value : String}
    (h : (writeEntry files path key value).2 = none) :
    ∃ made around name, Writable made path around name ∧
      (writeEntry files path key value).1 =
        made.put (some (.file (fileBytes ((fileEntries files path).insert key value))))
          (around ++ [name]) := by
  obtain ⟨made, around, name, hw, hwrite⟩ := writeEntry_uniform h
  exact ⟨made, around, name, hw, congrArg Prod.fst (hwrite key value)⟩

namespace Store

/-- A store that gives and takes: for a file, every write succeeds. -/
def Works (files : Disk) : Store → Prop
  | .memory _ readable writable => readable = true ∧ writable = true
  | .file path => ∀ key value, (writeEntry files path key value).2 = none

/-- A store in a file works if anything at all can be put into it. -/
theorem works_iff_written :
    (Store.file path).Works files ↔ ∃ key value, (writeEntry files path key value).2 = none := by
  refine ⟨fun h => ⟨"", "", h "" ""⟩, ?_⟩
  rintro ⟨key, value, h⟩ other value'
  obtain ⟨made, around, name, -, hwrite⟩ := writeEntry_uniform h
  rw [hwrite]

/-- The map in a store. -/
def contents (files : Disk) : Store → Entries
  | .memory entries _ _ => entries
  | .file path => fileEntries files path

theorem find?_of_get {store : Store} {key : String} {value : Option String}
    (h : store.get files key = .ok value) : (store.contents files).find? key = value := by
  cases store with
  | memory entries readable writable =>
    simp only [get] at h
    split at h
    · exact Except.ok.inj h
    · cases h
  | file path =>
    simp only [get, contents, fileEntries] at h ⊢
    cases hread : readEntries files path with
    | error error =>
      rw [hread] at h
      cases h
    | ok entries =>
      rw [hread] at h
      exact Except.ok.inj h

/-- A working store takes a value, still works, and from then on gives its map with that value. -/
theorem set_works {store : Store} (h : store.Works files) (key value : String) :
    ∃ store' files', store.set files key value = ((store', files'), none) ∧
      store'.Works files' ∧
      ∀ other, store'.get files' other =
        .ok (((store.contents files).insert key value).find? other) := by
  cases store with
  | memory entries readable writable =>
    obtain ⟨rfl, rfl⟩ := h
    exact ⟨_, _, rfl, ⟨rfl, rfl⟩, fun other => rfl⟩
  | file path =>
    have hnone := h key value
    obtain ⟨made, around, name, hw, hwritten⟩ := writable_of_writeEntry hnone
    refine ⟨.file path, (writeEntry files path key value).1, ?_, fun key value => ?_,
      fun other => ?_⟩
    · simp only [set, hnone]
    · rw [hwritten, writeEntry_of_writable (hw.put _)]
    · rw [hwritten, get, readEntries_of_locate (hw.locate_put _)]
      rfl

end Store

/-! ### The file of a user -/

/-- Where the preferences of a user are. -/
def userFile : String := "/home/user/.query-console/preferences.json"

/-- A disk with that file alone. -/
def userDisk (bytes : List UInt8) : Disk :=
  Disk.empty.put (some (.file bytes)) ["home", "user", ".query-console", "preferences.json"]

theorem writable_userDisk (bytes : List UInt8) :
    Writable (userDisk bytes) userFile ["home", "user", ".query-console"] "preferences.json" where
  path := by decide
  walk := by rfl
  last := by decide
  slash := by decide
  dots := by decide
  short := by decide
  folder := ⟨_, rfl⟩
  free := nofun

/-- Where nothing is yet, the folders around the file are made. -/
example : (writeEntry .empty userFile "a" "b").2 = none := by decide +kernel

end QueryDesk.Preferences
