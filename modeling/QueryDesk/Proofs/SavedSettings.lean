import QueryDesk.Proofs.FileStore
import QueryDesk.Proofs.FlagArguments

/-!
# Settings that are saved and loaded again

A home folder is usable if the folder of the settings is there or can be made, and the file can be
written in it. There settings that have been saved come back, with standard values for those that
make no sense. What the command line saves is sensible already, so saving it again changes nothing.
-/
namespace QueryDesk

open QueryDesk.Files (Disk FileError Path)
open QueryDesk.Files.Disk (Writable)

/-- Where a file can be written in a folder, the folder is there. -/
theorem Files.Disk.pathExists_folder {t : Disk} {folder inside name : String} {around : List String}
    (h : Writable t (Path.within folder inside) around name)
    (hslash : folder.toList.getLast? ≠ some '/') (hfolder : folder.toList ≠ [])
    (hinside : '/' ∉ inside.toList) (hempty : inside.toList ≠ []) :
    t.pathExists folder = true := by
  have hpath : badPath? folder = none := by
    have hlong := h.path
    unfold badPath? at hlong ⊢
    split at hlong
    · cases hlong
    rename_i hzero
    split at hlong
    · cases hlong
    split at hlong
    · cases hlong
    rename_i hlength
    rw [Path.toList_within hslash] at hzero hlength
    rw [if_neg (by simp_all), if_neg (by simp_all), if_neg]
    simp only [Text.utf8Length, Text.utf8, List.flatMap_append, List.length_append] at hlength ⊢
    omega
  have hwalk := h.walk
  rw [Path.names_within hslash hinside hempty, Path.absolute_within hslash hfolder,
    List.dropLast_concat] at hwalk
  obtain ⟨entries, hentries⟩ := h.folder
  simp only [pathExists, locate, hpath, hwalk, hentries, Tree.isFolder, Bool.not_true,
    Bool.and_false, Bool.false_eq_true, if_false]
  rfl

namespace Settings

variable {files made t : Disk} {home : Option String} {folder path name : String}
  {around : List String}

/-- A value that makes sense, or the standard one. -/
def sensibleOr {α : Type} (sensible : α → Bool) (standard value : α) : α :=
  if sensible value then value else standard

def sensibleUrl (url : String) : Bool := !Text.allBlank url

theorem sanitized_eq (settings : Settings) :
    settings.sanitized =
      ⟨sensibleOr sensibleUrl standard.exportBaseUrl settings.exportBaseUrl,
        sensibleOr (fun height => decide (height ≠ 0)) standard.cellHeight settings.cellHeight,
        sensibleOr (fun rate => decide (rate ≠ 0)) standard.tickRate settings.tickRate⟩ := by
  simp only [sanitized, sensibleOr, sensibleUrl, mk.injEq, Bool.not_eq_true', decide_eq_true_eq,
    ite_not, and_self, and_true]
  cases Text.allBlank settings.exportBaseUrl <;> rfl

/-- What a flag, or else a file, or else the standard says. A value that makes no sense gives way to
the standard one, whoever says it. -/
def chosen {α : Type} (sensible : α → Bool) (standard : α) (flag file : Option α) : α :=
  ((flag.or file).filter sensible).getD standard

theorem chosen_eq {α : Type} {sensible : α → Bool} {standard : α}
    (hstandard : sensible standard = true) (flag file : Option α) :
    sensibleOr sensible standard (flag.getD (sensibleOr sensible standard (file.getD standard))) =
      chosen sensible standard flag file := by
  have hself (value : α) : sensibleOr sensible standard (sensibleOr sensible standard value) =
      sensibleOr sensible standard value := by
    unfold sensibleOr
    by_cases hv : sensible value = true
    · rw [if_pos hv, if_pos hv]
    · rw [if_neg hv, if_pos hstandard]
  have hfilter (value : α) : ((some value).filter sensible).getD standard =
      sensibleOr sensible standard value := by
    unfold sensibleOr
    by_cases hv : sensible value = true
    · rw [Option.filter_some_pos hv, if_pos hv, Option.getD_some]
    · rw [Option.filter_some_neg (by simpa using hv), if_neg hv, Option.getD_none]
  cases flag with
  | some value => exact (hfilter value).symm
  | none =>
    rw [Option.getD_none, hself]
    cases file with
    | some value => exact (hfilter value).symm
    | none => exact if_pos hstandard

/-- What the file below a home folder says: nothing if no settings can be read from it. -/
def said (files : Disk) (home : Option String) : Draft :=
  ((file? home).bind fun path => (files.readText path).toOption.bind draft?).getD .empty

theorem pathExists_of_readText {source : List Char} (h : files.readText path = .ok source) :
    files.pathExists path = true := by
  cases hlocate : files.locate path with
  | ok found =>
    rw [Disk.pathExists, hlocate]
    rfl
  | error error =>
    rw [Disk.readText, Disk.read, hlocate] at h
    cases h

theorem load?_eq (files : Disk) (home : Option String) :
    load? files home = (file? home).bind fun path =>
      ((files.readText path).toOption.bind draft?).map fun draft => draft.complete.sanitized := by
  unfold load?
  cases file? home with
  | none => rfl
  | some path =>
    rw [Option.bind_some]
    cases htext : files.readText path with
    | error error => simp [htext, Except.toOption]
    | ok source =>
      simp [htext, pathExists_of_readText htext, Except.toOption, ofWritten?_eq, Function.comp_def]

theorem loadOrStandard_eq (files : Disk) (home : Option String) :
    loadOrStandard files home = (said files home).complete.sanitized := by
  have hstandard : standard = Draft.empty.complete.sanitized := by decide +kernel
  rw [loadOrStandard, load?_eq, said]
  cases file? home with
  | none => exact hstandard
  | some path =>
    rw [Option.bind_some, Option.bind_some]
    cases (files.readText path).toOption.bind draft? with
    | none => exact hstandard
    | some draft => rfl

/-- A file with the members of different fields says these and no others. -/
theorem said_of_members {fields : List Field} (settings : Settings) (hnodup : fields.Nodup)
    (hpath : file? home = some path)
    (hread : files.read path =
      .ok (Text.utf8 (Json.prettyObject (fields.map (·.member settings))))) :
    said files home = settings.part fields := by
  have htext : files.readText path = .ok (Json.prettyObject (fields.map (·.member settings))) := by
    simp only [Disk.readText, hread, Text.readUtf8_utf8]
  rw [said, hpath, Option.bind_some, htext, Except.toOption, Option.bind_some,
    draft?_members settings hnodup, Option.getD_some]

/-- The settings that a file and options come to. -/
def wanted (draft : Draft) (options : Options) : Settings where
  exportBaseUrl :=
    chosen sensibleUrl standard.exportBaseUrl options.baseUrl draft.exportBaseUrl
  cellHeight :=
    chosen (fun height => decide (height ≠ 0)) standard.cellHeight options.cellHeight
      draft.cellHeight
  tickRate := chosen (fun rate => decide (rate ≠ 0)) standard.tickRate none draft.tickRate

theorem effective_eq (draft : Draft) (options : Options) :
    CommandLine.effective draft.complete.sanitized options = wanted draft options := by
  have hurl : sensibleUrl standard.exportBaseUrl = true := by decide +kernel
  rw [CommandLine.effective, sanitized_eq, sanitized_eq, wanted, ← chosen_eq hurl,
    ← chosen_eq (by decide), ← chosen_eq (by decide)]
  rfl

theorem folder_slash (h : folder? home = some folder) :
    folder.toList.getLast? ≠ some '/' ∧ folder.toList ≠ [] := by
  unfold folder? at h
  split at h
  · cases h
  · split at h
    · cases h
    · obtain rfl := Option.some.inj h
      unfold Path.within
      split
      · simp
      · simp

theorem file?_eq_some (h : file? home = some path) :
    ∃ folder, folder? home = some folder ∧ path = Path.within folder "config.json" := by
  obtain ⟨folder, hfolder, rfl⟩ := Option.map_eq_some_iff.1 h
  exact ⟨folder, hfolder, rfl⟩

/-- The folder of the settings, made if it is missing. -/
def makeFolder (files : Disk) (folder : String) : Disk × Option FileError :=
  if files.pathExists folder then (files, none) else files.makeFolders (Path.ofText folder)

/-- The folder of the settings is there or can be made, and the file can be written in it. -/
def Usable (files : Disk) (home : Option String) : Prop :=
  ∃ folder path made around name, folder? home = some folder ∧ file? home = some path ∧
    makeFolder files folder = (made, none) ∧ Writable made path around name

/-- Where the file can be written, saving writes it. -/
theorem save_of_writable (hpath : file? home = some path) (h : Writable t path around name)
    (settings : Settings) :
    settings.save t home = (t.put (some (.file (Text.utf8 settings.written))) (around ++ [name]),
      none) := by
  obtain ⟨folder, hfolder, rfl⟩ := file?_eq_some hpath
  obtain ⟨hslash, hempty⟩ := folder_slash hfolder
  have hexists : t.pathExists folder = true :=
    Disk.pathExists_folder h hslash hempty (by decide) (by decide)
  simp only [save, hfolder, hpath, hexists, if_true, Disk.write_eq h]

theorem Usable.save (h : Usable files home) :
    ∃ path made around name, file? home = some path ∧ Writable made path around name ∧
      ∀ settings : Settings, settings.save files home =
        (made.put (some (.file (Text.utf8 settings.written))) (around ++ [name]), none) := by
  obtain ⟨folder, path, made, around, name, hfolder, hpath, hmade, hw⟩ := h
  refine ⟨path, made, around, name, hpath, hw, fun settings => ?_⟩
  unfold makeFolder at hmade
  simp only [Settings.save, hfolder, hpath, hmade, Disk.write_eq hw]

theorem load?_of_locate {source : List Char} (hpath : file? home = some path)
    (h : t.locate path = .ok (.file (Text.utf8 source))) :
    load? t home = (ofWritten? source).map sanitized := by
  have hexists : t.pathExists path = true := by rw [Disk.pathExists, h]; rfl
  simp only [load?, hpath, hexists, Bool.not_true, Bool.false_eq_true, if_false,
    Preferences.readText_of_locate h]

/-- Settings that have been written are loaded. -/
theorem load?_put (hpath : file? home = some path) (h : Writable t path around name)
    (settings : Settings) :
    load? (t.put (some (.file (Text.utf8 settings.written))) (around ++ [name])) home =
      some settings.sanitized := by
  rw [load?_of_locate hpath (h.locate_put _), ofWritten?_written, Option.map_some]

theorem sanitized_sensible (settings : Settings) :
    1 ≤ settings.sanitized.cellHeight ∧ 1 ≤ settings.sanitized.tickRate ∧
      Text.allBlank settings.sanitized.exportBaseUrl = false := by
  refine ⟨?_, ?_, ?_⟩
  · simp only [sanitized, UInt16.le_iff_toNat_le]
    split
    · decide
    · rename_i hheight
      have hne : settings.cellHeight.toNat ≠ 0 := fun h => hheight (UInt16.toNat_inj.1 h)
      exact Nat.one_le_iff_ne_zero.2 hne
  · simp only [sanitized, UInt64.le_iff_toNat_le]
    split
    · decide
    · rename_i hrate
      have hne : settings.tickRate.toNat ≠ 0 := fun h => hrate (UInt64.toNat_inj.1 h)
      exact Nat.one_le_iff_ne_zero.2 hne
  · simp only [sanitized]
    split
    · decide +kernel
    · rename_i hurl
      simpa using hurl

/-- A home is usable if anything at all can be saved there. -/
theorem usable_iff_saved :
    Usable files home ↔ ∃ settings : Settings, (settings.save files home).2 = none := by
  constructor
  · intro h
    obtain ⟨path, made, around, name, -, -, hsave⟩ := h.save
    exact ⟨standard, congrArg Prod.snd (hsave standard)⟩
  · rintro ⟨settings, hsaved⟩
    unfold Settings.save at hsaved
    split at hsaved
    · rename_i folder path hfolder hpath
      dsimp only at hsaved
      split at hsaved
      · cases hsaved
      · rename_i hnone
        split at hsaved
        · rename_i written hwrite
          obtain ⟨around, name, hw⟩ := Disk.writable_of_write hwrite
          exact ⟨folder, path, _, around, name, hfolder, hpath, Prod.ext rfl hnone, hw⟩
        · cases hsaved
    · cases hsaved

/-- Where nothing is yet, the home folder is made as well. -/
example : (standard.save .empty (some "/home/user")).2 = none := by decide +kernel

end Settings

namespace CommandLine

/-- A run that is to save the settings ends with them saved. -/
theorem run_save {options : Options} {home : Option String} {arguments : List String}
    {files after : Disk} (hoptions : readOptions arguments = .ok options)
    (hsave : options.saveConfig = true)
    (hsaved : (effective (Settings.loadOrStandard files home) options).save files home =
      (after, none)) (now : Clock) :
    run home arguments files now = .finished after { code := 0 } := by
  simp only [run, hoptions, hsave, if_true, hsaved]

end CommandLine

namespace Settings

open CommandLine (readOptions run flagArguments)

theorem effective_bare (settings : Settings) :
    CommandLine.effective settings.sanitized { saveConfig := true } = settings.sanitized :=
  sanitized_sanitized settings

/-- The home folder of a user with a file that says a height, and a tick rate that makes no
sense. -/
def lodged : Disk :=
  Disk.empty.put
    (some (.file (Text.utf8
      (Json.prettyObject ([Field.cellHeight, .tickRate].map (·.member ⟨"", 24, 0⟩))))))
    ["home", "user", ".query-console", "config.json"]

theorem usable_lodged : Usable lodged (some "/home/user") := by
  refine ⟨"/home/user/.query-console", "/home/user/.query-console/config.json", lodged,
    ["home", "user", ".query-console"], "config.json", by rfl, by rfl, by rfl, ?_⟩
  exact {
    path := by decide
    walk := by decide
    last := by decide
    slash := by decide
    dots := by decide
    short := by decide
    folder := ⟨_, rfl⟩
    free := nofun }

end Settings

end QueryDesk
