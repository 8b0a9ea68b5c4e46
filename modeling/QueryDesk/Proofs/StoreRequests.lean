import Mathlib.Data.List.Induction
import Mathlib.Data.List.Nodup
import Mathlib.Logic.Function.Basic
import QueryDesk.Proofs.FileStore
import QueryDesk.Proofs.JsonGrammar

/-!
# A store in a file is a map

Every request reads the whole file and a value that is put writes it anew. Seen from outside there
is only a map: it begins as what the file stands for, an error if the file is there and is no map,
and a value put under a key makes it a map in any case. What is in the file after that is given by
the map alone, so the order of values under different keys does not show, nor does putting one
twice.
-/
namespace QueryDesk.Preferences

open QueryDesk.Files (Disk FileError)
open QueryDesk.Files.Disk (Writable)

namespace Entries

theorem lookup_of_mem {pairs : List (String × String)} (hsorted : pairs.Pairwise (·.1 < ·.1))
    {key value : String} (h : (key, value) ∈ pairs) : pairs.lookup key = some value := by
  induction pairs with
  | nil => cases h
  | cons first rest ih =>
    obtain ⟨hfirst, hrest⟩ := List.pairwise_cons.1 hsorted
    obtain rfl | h := List.mem_cons.1 h
    · exact List.lookup_cons_self
    · have hne : (key == first.1) = false :=
        beq_eq_false_iff_ne.2 fun he => String.lt_irrefl key (by simpa [he] using hfirst _ h)
      rw [List.lookup_cons, hne]
      exact ih hrest h

theorem mem_pairs_iff {entries : Entries} {key value : String} :
    (key, value) ∈ entries.pairs ↔ entries.find? key = some value :=
  ⟨lookup_of_mem entries.sorted, mem_of_lookup⟩

/-- Entries are told apart by what is found in them. -/
theorem ext_find? {entries others : Entries} (h : entries.find? = others.find?) :
    entries = others := by
  have hnodup (entries : Entries) : entries.pairs.Nodup := by
    refine entries.sorted.imp ?_
    rintro pair _ hlt rfl
    exact String.lt_irrefl _ hlt
  have hperm : entries.pairs.Perm others.pairs := by
    rw [List.perm_ext_iff_of_nodup (hnodup entries) (hnodup others)]
    rintro ⟨key, value⟩
    rw [mem_pairs_iff, mem_pairs_iff, h]
  refine ext_pairs (hperm.eq_of_pairwise ?_ entries.sorted others.sorted)
  intro pair other _ _ hlt hgt
  exact absurd (String.lt_trans hlt hgt) (String.lt_irrefl _)

/-- Of several values under one key the last is found. -/
theorem find?_ofList (pairs : List (String × String)) (key : String) :
    (ofList pairs).find? key = pairs.reverse.lookup key := by
  induction pairs using List.reverseRecOn with
  | nil => rfl
  | append_singleton pairs pair ih =>
    have hlast : ofList (pairs ++ [pair]) = (ofList pairs).insert pair.1 pair.2 := by
      simp only [ofList, List.foldl_append, List.foldl_cons, List.foldl_nil]
    rw [hlast, find?_insert, ih, List.reverse_append, List.reverse_singleton, List.singleton_append,
      List.lookup_cons]
    by_cases hkey : key = pair.1
    · simp [hkey]
    · simp [hkey, beq_eq_false_iff_ne.2 hkey]

theorem insert_comm (entries : Entries) {key other : String} (h : key ≠ other)
    (value value' : String) :
    (entries.insert key value).insert other value' =
      (entries.insert other value').insert key value := by
  apply ext_find?
  funext asked
  simp only [find?_insert]
  split_ifs with hother hkey
  · exact absurd (hkey.symm.trans hother) h
  · rfl
  · rfl
  · rfl

theorem insert_insert (entries : Entries) (key value : String) :
    (entries.insert key value).insert key value = entries.insert key value := by
  apply ext_find?
  funext asked
  simp only [find?_insert]
  split_ifs
  · rfl
  · rfl

end Entries

/-- A request to a store. -/
inductive Request where
  | get (key : String)
  | set (key value : String)

/-- What a request is answered. -/
inductive Reply where
  | value (found : Except StoreError (Option String))
  | done (error : Option StoreError)

/-- The state after the requests, and the replies in their order. -/
def serveAll {S : Type} (serve : S → Request → S × Reply) (s : S) : List Request → S × List Reply
  | [] => (s, [])
  | request :: requests =>
      let (next, reply) := serve s request
      let (last, replies) := serveAll serve next requests
      (last, reply :: replies)

theorem serveAll_cons {S : Type} (serve : S → Request → S × Reply) (s : S) (request : Request)
    (requests : List Request) :
    serveAll serve s (request :: requests) =
      ((serveAll serve (serve s request).1 requests).1,
        (serve s request).2 :: (serveAll serve (serve s request).1 requests).2) :=
  rfl

theorem serveAll_append {S : Type} (serve : S → Request → S × Reply) (s : S)
    (before after : List Request) :
    serveAll serve s (before ++ after) =
      ((serveAll serve (serveAll serve s before).1 after).1,
        (serveAll serve s before).2 ++ (serveAll serve (serveAll serve s before).1 after).2) := by
  induction before generalizing s with
  | nil => rfl
  | cons request before ih =>
    rw [List.cons_append, serveAll_cons, serveAll_cons, ih]
    rfl

def Store.serve (state : Store × Disk) : Request → (Store × Disk) × Reply
  | .get key => (state, .value (state.1.get state.2 key))
  | .set key value => ((state.1.set state.2 key value).1, .done (state.1.set state.2 key value).2)

/-- A map from keys to values, or what is wrong with the file that should have been one. -/
abbrev Table := Except StoreError (String → Option String)

namespace Table

/-- The map to put values into; in place of an error an empty one. -/
def map (table : Table) : String → Option String := table.toOption.getD fun _ => none

/-- Getting finds what the map has, or tells the error; putting leaves a map. -/
def serve (table : Table) : Request → Table × Reply
  | .get key => (table, .value (Except.map (· key) table))
  | .set key value => (.ok (Function.update table.map key (some value)), .done none)

end Table

/-- What a file stands for. -/
inductive Opens (files : Disk) (path : String) : Table → Prop
  | absent (h : files.pathExists path = false) : Opens files path (.ok fun _ => none)
  | blank {source : List Char} (h : files.read path = .ok (Text.utf8 source))
      (hblank : ∀ c ∈ source, Text.isBlank c = true) : Opens files path (.ok fun _ => none)
  | text {source : List Char} {pairs : List (String × String)}
      (h : files.read path = .ok (Text.utf8 source)) (hmap : Json.MapText source pairs) :
      Opens files path (.ok fun key => pairs.reverse.lookup key)
  | malformed {source : List Char} {error : Json.Error}
      (h : files.read path = .ok (Text.utf8 source)) (hblank : ∃ c ∈ source, Text.isBlank c = false)
      (hmap : ∀ pairs, ¬Json.MapText source pairs) :
      Opens files path (.error (.format source error))
  | unreadable {error : FileError} (hexists : files.pathExists path = true)
      (h : ∀ source, files.read path ≠ .ok (Text.utf8 source)) :
      Opens files path (.error (.file error))

/-- The file holds a map, in the one text that there is for it. -/
def Holds (files : Disk) (path : String) (map : String → Option String) : Prop :=
  ∃ entries : Entries, (∀ others : Entries, others.find? = map ↔ others = entries) ∧
    files.read path = .ok (fileBytes entries)

variable {files made : Disk} {path name : String} {around : List String} {key value : String}

/-- The map in a file, by a reading of it. -/
def readTable (files : Disk) (path : String) : Table :=
  (readEntries files path).map (·.find?)

theorem readText_eq_ok_iff {source : List Char} :
    files.readText path = .ok source ↔ files.read path = .ok (Text.utf8 source) := by
  unfold Disk.readText
  constructor
  · intro h
    split at h
    · cases h
    · rename_i bytes hread
      split at h
      · rename_i chars hchars
        rw [hread, Text.readUtf8_eq_ok_iff.1 hchars, Except.ok.inj h]
      · cases h
  · intro h
    simp only [h, Text.readUtf8_utf8]

/-- A reading gives what the file stands for. -/
theorem opens_readTable (files : Disk) (path : String) :
    Opens files path (readTable files path) := by
  unfold readTable readEntries
  cases hexists : files.pathExists path with
  | false => exact .absent hexists
  | true =>
    simp only [Bool.not_true, Bool.false_eq_true, if_false]
    cases htext : files.readText path with
    | error error =>
      refine .unreadable hexists fun source hread => ?_
      rw [readText_eq_ok_iff.2 hread] at htext
      cases htext
    | ok source =>
      have hread := readText_eq_ok_iff.1 htext
      dsimp only
      split
      · rename_i hblank
        exact .blank hread (List.all_eq_true.1 hblank)
      · rename_i hblank
        cases hmap : Json.readStringMap source with
        | error error =>
          refine .malformed hread (by simpa using hblank) fun pairs hpairs => ?_
          rw [Json.readStringMap_eq_ok_iff.2 hpairs] at hmap
          cases hmap
        | ok pairs =>
          have hfound : (Entries.ofList pairs).find? = fun key => pairs.reverse.lookup key :=
            funext (Entries.find?_ofList pairs)
          dsimp only [Except.map]
          rw [hfound]
          exact .text hread (Json.readStringMap_eq_ok_iff.1 hmap)

theorem map_readTable (files : Disk) (path : String) :
    (readTable files path).map = (fileEntries files path).find? := by
  unfold readTable fileEntries Table.map
  cases readEntries files path with
  | error error => rfl
  | ok entries => rfl

theorem find?_insert_eq (entries : Entries) (key value : String) :
    (entries.insert key value).find? = Function.update entries.find? key (some value) := by
  funext other
  rw [Entries.find?_insert, Function.update_apply]

section Filed

variable {entries : Entries}

theorem readTable_put (h : Writable made path around name) (entries : Entries) :
    readTable (made.put (some (.file (fileBytes entries))) (around ++ [name])) path =
      .ok entries.find? := by
  rw [readTable, readEntries_of_locate (h.locate_put _)]
  rfl

theorem holds_put (h : Writable made path around name) (entries : Entries) :
    Holds (made.put (some (.file (fileBytes entries))) (around ++ [name])) path entries.find? := by
  refine ⟨entries, fun others => ⟨Entries.ext_find?, fun he => by rw [he]⟩, ?_⟩
  rw [Disk.read, h.locate_put]
  rfl

/-- A file that has been written takes the next value in the place of the map that it holds. -/
theorem writeEntry_put (h : Writable made path around name) (entries : Entries)
    (key value : String) :
    writeEntry (made.put (some (.file (fileBytes entries))) (around ++ [name])) path key value =
      (made.put (some (.file (fileBytes (entries.insert key value)))) (around ++ [name]),
        none) := by
  have hentries :
      fileEntries (made.put (some (.file (fileBytes entries))) (around ++ [name])) path =
        entries := by
    rw [fileEntries, readEntries_of_locate (h.locate_put _)]
  rw [writeEntry_of_writable (h.put _), hentries, Disk.put_put]

end Filed

/-- Every value that the requests put is taken. -/
def Served (state : Store × Disk) (requests : List Request) : Prop :=
  ∀ error, Reply.done (some error) ∉ (serveAll Store.serve state requests).2

theorem Served.left {state : Store × Disk} {before after : List Request}
    (h : Served state (before ++ after)) : Served state before := by
  intro error he
  apply h error
  rw [serveAll_append]
  exact List.mem_append_left _ he

theorem Served.right {state : Store × Disk} {before after : List Request}
    (h : Served state (before ++ after)) :
    Served (serveAll Store.serve state before).1 after := by
  intro error he
  apply h error
  rw [serveAll_append]
  exact List.mem_append_right _ he

theorem Served.set {after : List Request}
    (h : Served (.file path, files) (.set key value :: after)) :
    (writeEntry files path key value).2 = none := by
  cases herror : (writeEntry files path key value).2 with
  | none => rfl
  | some error =>
    refine absurd ?_ (h error)
    rw [serveAll_cons]
    exact List.mem_cons.2 (.inl (congrArg Reply.done herror.symm))

theorem serve_set_file (files : Disk) (path key value : String) :
    Store.serve (.file path, files) (.set key value) =
      ((.file path, (writeEntry files path key value).1),
        .done (writeEntry files path key value).2) := by
  rfl

/-- One request changes the file as it changes the map, and is answered from the map. -/
theorem serve_refines {request : Request} {after : List Request}
    (h : Served (.file path, files) (request :: after)) :
    ∃ files', Store.serve (.file path, files) request =
        ((.file path, files'), ((readTable files path).serve request).2) ∧
      readTable files' path = ((readTable files path).serve request).1 := by
  cases request with
  | get key =>
    refine ⟨files, ?_, rfl⟩
    simp only [Store.serve, Table.serve, Store.get, readTable]
    cases readEntries files path with
    | error error => rfl
    | ok entries => rfl
  | set key value =>
    obtain ⟨made, around, name, hw, hwrite⟩ := writeEntry_uniform h.set
    refine ⟨_, by rw [serve_set_file, hwrite]; rfl, ?_⟩
    rw [readTable_put hw, find?_insert_eq, ← map_readTable]
    rfl

/-- So does a run. -/
theorem serveAll_refines {requests : List Request} (h : Served (.file path, files) requests) :
    ∃ files', serveAll Store.serve (.file path, files) requests =
        ((.file path, files'), (serveAll Table.serve (readTable files path) requests).2) ∧
      readTable files' path = (serveAll Table.serve (readTable files path) requests).1 := by
  induction requests generalizing files with
  | nil => exact ⟨files, rfl, rfl⟩
  | cons request requests ih =>
    obtain ⟨next, hserve, htable⟩ := serve_refines h
    have hrest : Served (.file path, next) requests := by
      have hsplit : Served (.file path, files) ([request] ++ requests) := h
      have hright := hsplit.right
      rw [serveAll_cons, hserve] at hright
      exact hright
    obtain ⟨files', hserved, hlast⟩ := ih hrest
    refine ⟨files', ?_, ?_⟩
    · rw [serveAll_cons, serveAll_cons, hserve, hserved, htable]
    · rw [hlast, serveAll_cons, htable]

/-- Before any request of a run the state is a file with a table. -/
theorem Served.reach {before after : List Request}
    (h : Served (.file path, files) (before ++ after)) :
    ∃ files', (serveAll Store.serve (.file path, files) before).1 = (.file path, files') ∧
      readTable files' path = (serveAll Table.serve (readTable files path) before).1 ∧
      Served (.file path, files') after := by
  obtain ⟨files', hserved, htable⟩ := serveAll_refines h.left
  have hright := h.right
  rw [hserved] at hright
  exact ⟨files', by rw [hserved], htable, hright⟩

/-- Where a file can be written every value is taken. -/
theorem served_of_writable (h : Writable files path around name) (requests : List Request) :
    Served (.file path, files) requests := by
  induction requests generalizing files with
  | nil =>
    intro error he
    cases he
  | cons request requests ih =>
    intro error he
    rw [serveAll_cons] at he
    cases request with
    | get key =>
      obtain he | he := List.mem_cons.1 he
      · cases he
      · exact ih h error he
    | set key value =>
      rw [serve_set_file, writeEntry_of_writable h] at he
      obtain he | he := List.mem_cons.1 he
      · cases he
      · exact ih (h.put _) error he

theorem holds_of_set (h : (writeEntry files path key value).2 = none) :
    Holds (writeEntry files path key value).1 path
      (Function.update (readTable files path).map key (some value)) := by
  obtain ⟨made, around, name, hw, hwrite⟩ := writeEntry_uniform h
  rw [hwrite, map_readTable, ← find?_insert_eq]
  exact holds_put hw _

/-- Two values under different keys may be put in either order. -/
theorem set_comm {other value' : String} (h : (writeEntry files path key value).2 = none)
    (hne : key ≠ other) (after : List Request) :
    serveAll Store.serve (.file path, files) (.set other value' :: .set key value :: after) =
      serveAll Store.serve (.file path, files) (.set key value :: .set other value' :: after) := by
  obtain ⟨made, around, name, hw, hwrite⟩ := writeEntry_uniform h
  simp only [serveAll_cons, serve_set_file, hwrite, writeEntry_put hw,
    Entries.insert_comm _ hne value value']

/-- Putting a value twice leaves what putting it once leaves. -/
theorem set_set (h : (writeEntry files path key value).2 = none) :
    (Store.serve (Store.serve (.file path, files) (.set key value)).1 (.set key value)).1 =
      (Store.serve (.file path, files) (.set key value)).1 := by
  obtain ⟨made, around, name, hw, hwrite⟩ := writeEntry_uniform h
  simp only [serve_set_file, hwrite, writeEntry_put hw, Entries.insert_insert]

/-- Whatever is in the file at first, a run in which every value is taken is answered by a map that
begins as what the file stands for. After each value that is put, the bytes in the file are the ones
of the map. Two values under different keys that follow each other may be exchanged, and one may be
put twice, without a trace. -/
theorem file_serves_as_map (files : Disk) (path : String) (requests : List Request)
    (h : Served (.file path, files) requests) :
    (∃ table, Opens files path table ∧
      (serveAll Store.serve (.file path, files) requests).2 =
        (serveAll Table.serve table requests).2 ∧
      ∀ (before after : List Request) (key value : String),
        requests = before ++ .set key value :: after →
        ∃ map, (serveAll Table.serve table (before ++ [.set key value])).1 = .ok map ∧
          Holds (serveAll Store.serve (.file path, files) (before ++ [.set key value])).1.2 path
            map) ∧
    (∀ (before after : List Request) (key value other value' : String), key ≠ other →
      requests = before ++ .set key value :: .set other value' :: after →
        serveAll Store.serve (.file path, files)
            (before ++ .set other value' :: .set key value :: after) =
          serveAll Store.serve (.file path, files) requests) ∧
    ∀ (before after : List Request) (key value : String),
      requests = before ++ .set key value :: after →
        (serveAll Store.serve (.file path, files)
            (before ++ .set key value :: .set key value :: after)).1 =
          (serveAll Store.serve (.file path, files) requests).1 := by
  refine ⟨⟨readTable files path, opens_readTable files path, ?_, ?_⟩, ?_, ?_⟩
  · obtain ⟨files', hserved, -⟩ := serveAll_refines h
    rw [hserved]
  · rintro before after key value rfl
    obtain ⟨reached, hstate, htable, hserved⟩ := h.reach
    refine ⟨_, by rw [serveAll_append, ← htable]; rfl, ?_⟩
    rw [serveAll_append, hstate]
    exact holds_of_set hserved.set
  · rintro before after key value other value' hne rfl
    obtain ⟨reached, hstate, -, hserved⟩ := h.reach
    rw [serveAll_append, serveAll_append Store.serve _ before (.set key value :: _), hstate,
      set_comm hserved.set hne]
  · rintro before after key value rfl
    obtain ⟨reached, hstate, -, hserved⟩ := h.reach
    rw [serveAll_append, serveAll_append Store.serve _ before (.set key value :: _), hstate]
    simp only [serveAll_cons, set_set hserved.set]

/-- A file of some other text. -/
def noted : Disk := userDisk (Text.utf8 "notes".toList)

theorem opens_noted {table : Table} (h : Opens noted userFile table) :
    ∃ error, table = .error error := by
  have hread : noted.read userFile = .ok (Text.utf8 "notes".toList) := by rfl
  have hsource {source : List Char} (h : noted.read userFile = .ok (Text.utf8 source)) :
      source = "notes".toList := by
    rw [hread] at h
    exact Text.utf8_inj.1 (Except.ok.inj h).symm
  cases h with
  | absent h => exact absurd h (by decide)
  | blank h hblank =>
    rw [hsource h] at hblank
    exact absurd (hblank 'n' (by decide)) (by decide)
  | text h hmap =>
    rw [hsource h, ← Json.readStringMap_eq_ok_iff] at hmap
    cases hmap
  | malformed => exact ⟨_, rfl⟩
  | unreadable => exact ⟨_, rfl⟩

/-- The first value makes a map of the text that was there, and comes back as it was. -/
theorem first_value_replaces_notes :
    Served (.file userFile, noted)
        [.get "a", .set "a" "\"\\\n😀", .get "a", .get "b"] ∧
      ∃ error, (serveAll Store.serve (.file userFile, noted)
          [.get "a", .set "a" "\"\\\n😀", .get "a", .get "b"]).2 =
        [.value (.error error), .done none, .value (.ok (some "\"\\\n😀")), .value (.ok none)] := by
  have hserved : Served (.file userFile, noted) _ := served_of_writable (writable_userDisk _)
    [.get "a", .set "a" "\"\\\n😀", .get "a", .get "b"]
  obtain ⟨⟨table, hopens, hreplies, -⟩, -⟩ := file_serves_as_map noted userFile _ hserved
  obtain ⟨error, rfl⟩ := opens_noted hopens
  exact ⟨hserved, error, hreplies⟩

end QueryDesk.Preferences
