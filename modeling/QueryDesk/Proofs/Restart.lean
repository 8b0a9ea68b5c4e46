import QueryDesk.Proofs.AppRun
import QueryDesk.Proofs.FileStore
import QueryDesk.Proofs.StoredHeight

/-!
# Stopping and starting again

While the application runs, the height in use is the height that the store would give back: it is so
after the start, whatever the store holds then, a move of the splitter saves what it changes, and
nothing else touches either. So the application can stop at any point, and the next one on the same
store begins with the height of the last. Under its other keys the store keeps what it had.
-/
namespace QueryDesk

open QueryDesk.Preferences (Store userDisk userFile writable_userDisk)
open QueryDesk.Files (Disk)

namespace Desk

variable {sourced : Bool} {d d' : Desk} {e : Event} {opened closed : List Event} {store : Store}
  {before : Disk}

/-- The desk has a store that works and gives what another one gave before, except under the key of
the height. -/
def Keeps (store : Store) (before : Disk) (d : Desk) : Prop :=
  ∃ kept, d.store = some kept ∧ kept.Works d.files ∧
    ∀ key ≠ heightKey, ∀ value, store.get before key = .ok value → kept.get d.files key = .ok value

/-- The height in use is the one that the store would give. -/
def Tied (d : Desk) : Prop := d.height = .ofStored d.storedHeight

/-- What a desk with a store has from the first loading on. -/
structure Held (store : Store) (before : Disk) (d : Desk) : Prop where
  keeps : Keeps store before d
  tied : Tied d

theorem Held.congr (h : Held store before d) (hh : d'.height = d.height)
    (hs : d'.store = d.store) (hf : d'.files = d.files) : Held store before d' where
  keeps := by
    unfold Keeps
    rw [hs, hf]
    exact h.keeps
  tied := by
    unfold Tied storedHeight
    rw [hh, hs, hf]
    exact h.tied

/-- A save ties the store to the height, whatever was there. -/
theorem Keeps.saveHeight (h : Keeps store before d) : Held store before d.saveHeight := by
  obtain ⟨kept, hstore, hworks, hvalues⟩ := h
  obtain ⟨store', files', hset, hworks', hget⟩ :=
    Store.set_works hworks heightKey d.height.text
  have he : d.saveHeight = { d with store := some store', files := files' } := by
    simp only [Desk.saveHeight, hstore, hset]
  rw [he]
  constructor
  · refine ⟨store', rfl, hworks', fun key hkey value hvalue => ?_⟩
    rw [hget, Preferences.Entries.find?_insert, if_neg hkey,
      Store.find?_of_get (hvalues key hkey value hvalue)]
  · change d.height = .ofStored _
    simp only [storedHeight, Option.bind_some, hget, Preferences.Entries.find?_insert, if_true]
    exact (SplitHeight.ofStored_text d.height).symm

theorem Keeps.loadHeight (h : Keeps store before d) : Held store before d.loadHeight := ⟨h, rfl⟩

theorem Held.heard (h : Held store before d) (he : Heard sourced d e d') :
    Held store before d' := by
  cases he with
  | saved => exact h.keeps.saveHeight
  | loaded => exact h.keeps.loadHeight
  | _ => exact h.congr rfl rfl rfl

theorem Held.settles (h : Held store before d) (he : Settles sourced d e d' opened closed) :
    Held store before d' := by
  cases he with
  | quiet he | answered _ he | refreshed _ _ _ he => exact h.heard he
  | moved pixels =>
    have hkeeps : Keeps store before { d with height := d.height.adjust pixels }.applyHeight :=
      h.keeps
    exact hkeeps.saveHeight
  | nothingToRefresh => exact h.congr rfl rfl rfl
  | _ => exact h

end Desk

namespace Console

open Desk (Held Keeps)

variable {c : Console} {store : Store} {before : Disk}

theorem held_prepare (h : Held store before c.desk) {s : Step} (hs : ∀ files, s ≠ .files files) :
    Held store before (c.prepare s).desk := by
  cases s with
  | files files => exact absurd rfl (hs files)
  | copyExport =>
    rw [prepare_copyExport]
    exact h
  | _ => exact h.congr rfl rfl rfl

/-- No step but a change by other hands parts the height from the store. -/
theorem held_step (h : Held store before c.desk) {s : Step} (hs : ∀ files, s ≠ .files files) :
    Held store before (c.step s).desk :=
  step_desk (P := Held store before) (held_prepare h hs) fun he hd => hd.settles he

end Console

namespace App

open Desk (Held heightKey)

variable {app : App} {link : ExportLink} {cell : Nat} {source : Source} {now : Clock}

theorem stepOf?_ne_files {action : Action} {s : Console.Step} (h : app.stepOf? action = some s)
    (files : Disk) : s ≠ .files files := by
  rintro rfl
  cases action with
  | growEditor | shrinkEditor | splitterDragStart =>
    obtain ⟨layout, -, he⟩ := Option.map_eq_some_iff.1 h
    cases he
  | scrollUp | scrollDown | pageUp | pageDown =>
    simp [stepOf?] at h
  | _ => cases h

theorem inputStep?_ne_files {input : Input} {s : Console.Step} (hi : ∀ files, input ≠ .files files)
    (h : app.inputStep? input = some s) (files : Disk) : s ≠ .files files := by
  cases input with
  | files files => exact absurd rfl (hi files)
  | draw => cases h
  | shutdown | clock =>
    cases h
    nofun
  | _ =>
    simp only [inputStep?] at h
    obtain ⟨action, -, hs⟩ := Option.bind_eq_some_iff.1 h
    exact stepOf?_ne_files hs files

/-- The desk after a start: the stored height is in use and shown, the store has been left alone. -/
theorem start_desk (link : ExportLink) (cell : Nat) (store : Option Store) (source : Source)
    (files : Disk) (now : Clock) :
    (start link cell store source files now).console.desk =
      ((Console.start link cell store source true files now).desk.loadHeight.showPanel
        Panel.console.name).applyHeight := by
  simp only [start, switchPanel, publish, Console.publish_preferencesLoad,
    Console.publish_panelActive, Console.publish_windowResize]

theorem held_start {store : Store} {files : Disk} (hw : store.Works files) :
    Held store files (start link cell (some store) source files now).console.desk := by
  have hkeeps : Desk.Keeps store files
      (Console.start link cell (some store) source true files now).desk :=
    ⟨store, rfl, hw, fun _ _ _ h => h⟩
  rw [start_desk]
  exact hkeeps.loadHeight.congr rfl rfl rfl

theorem held_run {store : Store} {files : Disk} (hw : store.Works files) {inputs : List Input}
    (hi : ∀ input ∈ inputs, ∀ files, input ≠ .files files) :
    Held store files ((start link cell (some store) source files now).run inputs).console.desk :=
  run_console (P := fun c => Held store files c.desk) inputs (held_start hw)
    fun _ input hin _ hs h => Console.held_step h (inputStep?_ne_files (hi input hin) hs)

theorem shutdown_desk (app : App) : app.shutdown.console.desk = app.console.desk.saveHeight := by
  rw [shutdown, publish, Console.publish_preferencesSave]

/-- An application that starts on the store of another one, stopped after any inputs with or without
a shutdown, begins with the height that the other one had. Every value that the store gave at first
under another key, it gives at the end and after the new start. -/
theorem restart_keeps_height (link link' : ExportLink) (cell cell' : Nat)
    (source source' : Source) (now now' : Clock) {store : Store} {files : Disk}
    (hw : store.Works files) (inputs : List Input)
    (hi : ∀ input ∈ inputs, ∀ files, input ≠ .files files) :
    let app := (start link cell (some store) source files now).run inputs
    ∀ stopped, stopped = app ∨ stopped = app.shutdown →
      let last := stopped.console.desk
      let next := (start link' cell' last.store source' last.files now').console.desk
      next.height = app.console.desk.height ∧
      next.targets.editorBasis = app.console.desk.height.pixels ∧
      next.store = last.store ∧ next.files = last.files ∧
      ∃ kept, last.store = some kept ∧
        ∀ key ≠ heightKey, ∀ value, store.get files key = .ok value →
          kept.get last.files key = .ok value := by
  intro app stopped hstopped last next
  have happ : Held store files app.console.desk := held_run hw hi
  have hlast : Held store files last ∧ last.height = app.console.desk.height := by
    rcases hstopped with rfl | rfl
    · exact ⟨happ, rfl⟩
    · have hdesk : last = app.console.desk.saveHeight := shutdown_desk app
      rw [hdesk]
      exact ⟨happ.keeps.saveHeight, by rw [Desk.saveHeight_eq]⟩
  obtain ⟨⟨⟨kept, hkept, -, hvalues⟩, htied⟩, hheight⟩ := hlast
  have hnext : next = ((Console.start link' cell' last.store source' true last.files
      now').desk.loadHeight.showPanel Panel.console.name).applyHeight :=
    start_desk link' cell' last.store source' last.files now'
  have hread : next.height = app.console.desk.height := by
    rw [← hheight, htied, hnext]
    rfl
  refine ⟨hread, ?_, ?_, ?_, kept, hkept, hvalues⟩
  · rw [← hread, hnext]
    rfl
  · rw [hnext]
    rfl
  · rw [hnext]
    rfl

/-- A file with one entry, which is none of the application's. -/
def themed : Disk :=
  userDisk (Preferences.fileBytes (Preferences.Entries.empty.insert "theme" "dark"))

/-- A refresh and a shutdown later, the next start has the same height, and the theme is still
there. -/
theorem restart_keeps_theme :
    (Store.file userFile).Works themed ∧
    let app := (start ⟨[]⟩ 16 (some (.file userFile)) .sample themed ⟨0, 0, 0⟩).run
      [.resize 80 24, .key ⟨.char 'r', true, false, false⟩]
    let last := app.shutdown.console.desk
    let next := (start ⟨[]⟩ 20 last.store .sample last.files ⟨9, 0, 0⟩).console.desk
    next.height = app.console.desk.height ∧
    ∃ kept, last.store = some kept ∧ kept.get last.files "theme" = .ok (some "dark") := by
  have hworks : (Store.file userFile).Works themed := Store.works_iff_written.2
    ⟨"", "", congrArg Prod.snd (Preferences.writeEntry_of_writable (writable_userDisk _) "" "")⟩
  have htheme : (Store.file userFile).get themed "theme" = .ok (some "dark") := by
    have hlocate : themed.locate userFile = .ok (.file (Preferences.fileBytes
        (Preferences.Entries.empty.insert "theme" "dark"))) := rfl
    rw [Store.get, Preferences.readEntries_of_locate hlocate]
    rfl
  obtain ⟨hheight, -, -, -, kept, hkept, hvalues⟩ :=
    restart_keeps_height ⟨[]⟩ ⟨[]⟩ 16 20 .sample .sample ⟨0, 0, 0⟩ ⟨9, 0, 0⟩ hworks
      [.resize 80 24, .key ⟨.char 'r', true, false, false⟩] (by simp) _ (.inr rfl)
  exact ⟨hworks, hheight, kept, hkept, hvalues "theme" (by decide) (some "dark") htheme⟩

end App

end QueryDesk
