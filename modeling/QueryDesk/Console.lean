import QueryDesk.Bus
import QueryDesk.Chart
import QueryDesk.ExportLink
import QueryDesk.Grid
import QueryDesk.Preferences.Store
import QueryDesk.Source
import QueryDesk.SplitHeight
import QueryDesk.Splitter
import QueryDesk.Toolbar

/-!
# The console

The console listens on the bus and keeps what it hears: the height of the editor, what
the screen is to show, the grid and the chart. Moves of the splitter change the height,
have it shown and have it saved; a dataset gives the export link, brings the grid to the
front and stops the spinner; a failed query only stops the spinner and leaves a message
in the grid. A source of datasets may listen on the same bus and answers queries.

Every event on a topic of the console is noted when all listeners are done with it.
-/
namespace QueryDesk

open QueryDesk.Preferences (Store)
open QueryDesk.Files (Disk)

/-- What the listeners work on. -/
structure Desk where
  height : SplitHeight
  visible : Bool
  targets : Targets
  grid : Grid
  chart : Chart
  link : ExportLink
  source : Source
  store : Option Store
  files : Disk
  /-- The time of day that new datasets bear. -/
  now : Clock

/-- Those who listen on the bus, by what they do. -/
inductive Listener where
  | applyHeight
  | presentDataset
  | stopSpinner
  | adjustHeight
  | saveHeight
  | loadHeight
  | showPanel
  | fillGrid
  | failGrid
  | rerunQuery
  | fillChart
  | answerQuery
  /-- Notes the events of a topic. -/
  | note (topic : String)
  deriving DecidableEq, Repr

namespace Desk

/-- The key of the height in a store. -/
def heightKey : String := "splitter.position"

/-- The name of the console's panel and splitter. -/
def panelName : String := "console"

def nothingToRefresh : String := "Nothing to refresh: no query has run yet"

def applyHeight (d : Desk) : Desk :=
  { d with targets := { d.targets with editorBasis := d.height.pixels } }

def presentDataset (d : Desk) (dataset : Dataset) : Desk :=
  let targets :=
    { d.targets with
      exportUrl := d.link.encode dataset.query
      exportSelected := false
      refreshSpinning := false }
  { d with targets := targets.choose .grid }

def stopSpinner (d : Desk) : Desk :=
  { d with targets := { d.targets with refreshSpinning := false } }

/-- Writes the height to the store; that a store does not take it changes nothing else. -/
def saveHeight (d : Desk) : Desk :=
  match d.store with
  | none => d
  | some store =>
      let ((store, files), _) := store.set d.files heightKey d.height.text
      { d with store := some store, files }

/-- The text of the height in the store, if the store gives one. -/
def storedHeight (d : Desk) : Option String :=
  d.store.bind fun store =>
    match store.get d.files heightKey with
    | .ok value => value
    | .error _ => none

def loadHeight (d : Desk) : Desk := { d with height := .ofStored d.storedHeight }

def showPanel (d : Desk) (name : String) : Desk :=
  let shown := name = panelName
  { d with visible := shown, targets := { d.targets with panelShown := shown } }

/-- The events that follow from a query. -/
def answers (d : Desk) (query : String) : List (Command Listener) :=
  match d.source.load d.files d.now query with
  | .ok dataset => [.publish Topic.queryDataset (.dataset dataset)]
  | .error error => [.publish Topic.queryError (.error error.message)]

/-- What each listener does when it is called. -/
def react : Bus.Reaction Listener Desk := fun listener payload d =>
  match listener, payload with
  | .applyHeight, _ => (d.applyHeight, [])
  | .presentDataset, .dataset dataset => (d.presentDataset dataset, [])
  | .stopSpinner, _ => (d.stopSpinner, [])
  | .adjustHeight, .delta pixels =>
      ({ d with height := d.height.adjust pixels },
        [.publish Topic.windowResize .empty, .publish Topic.preferencesSave .empty])
  | .saveHeight, _ => (d.saveHeight, [])
  | .loadHeight, _ => (d.loadHeight, [])
  | .showPanel, .panel name => (d.showPanel name, [])
  | .fillGrid, .dataset dataset => ({ d with grid := .ofDataset dataset }, [])
  | .failGrid, .error message => ({ d with grid := d.grid.fail message }, [])
  | .rerunQuery, _ =>
      match d.grid.query with
      | some query => (d, [.publish Topic.queryExecute (.query query)])
      | none => (d, [.publish Topic.queryError (.error nothingToRefresh)])
  | .fillChart, .dataset dataset => ({ d with chart := .ofDataset dataset }, [])
  | .answerQuery, .query query => (d, d.answers query)
  | _, _ => (d, [])

end Desk

structure Console where
  desk : Desk
  splitter : Splitter
  /-- Whether the source answers queries. -/
  sourced : Bool
  /-- The events that all listeners are done with. -/
  journal : List Event
  /-- The texts given to the clipboard so far. -/
  copied : List String

namespace Console

/-- The topic on which the splitter reports. -/
def resizeTopic : String := Topic.splitterResize Desk.panelName

/-- The topics whose events are noted. -/
def notedTopics : List String :=
  [Topic.queryDataset, Topic.queryError, Topic.queryExecute, Topic.panelActive, Topic.gridRefresh,
    Topic.preferencesSave, Topic.preferencesLoad, Topic.windowResize, resizeTopic]

/-- What the controller listens to. -/
def controllerRegistrations : Bus Listener :=
  [(Topic.windowResize, .applyHeight), (Topic.queryDataset, .presentDataset),
    (Topic.queryError, .stopSpinner), (resizeTopic, .adjustHeight),
    (Topic.preferencesSave, .saveHeight), (Topic.preferencesLoad, .loadHeight),
    (Topic.panelActive, .showPanel)]

/-- What the grid listens to. -/
def gridRegistrations : Bus Listener :=
  [(Topic.queryDataset, .fillGrid), (Topic.queryError, .failGrid),
    (Topic.gridRefresh, .rerunQuery)]

/-- Notes are taken last, so an event is noted when it is done with. -/
def noteRegistrations : Bus Listener := notedTopics.map fun topic => (topic, .note topic)

/-- Who listens to what, in the order of registration. -/
def registrations (sourced : Bool) : Bus Listener :=
  controllerRegistrations ++ gridRegistrations ++ [(Topic.queryDataset, .fillChart)]
    ++ (if sourced then [(Topic.queryExecute, .answerQuery)] else []) ++ noteRegistrations

/-- How deep deliveries nest: a refresh runs a query, which has a dataset for an answer. -/
def depth : Nat := 3

/-- The events that calls are the end of. -/
def noted (calls : List (Bus.Entry Listener)) : List Event :=
  calls.filterMap fun
    | .start (.note topic) payload => some ⟨topic, payload⟩
    | _ => none

/-- Tells the listeners. No delivery goes deeper than it may, so there is always a result. -/
def publish (c : Console) (topic : String) (payload : Payload) : Console :=
  match Bus.publish Desk.react depth topic payload ⟨registrations c.sourced, c.desk⟩ with
  | some (world, calls) => { c with desk := world.state, journal := c.journal ++ noted calls }
  | none => c

/-- A console before anything has happened. -/
def start (link : ExportLink) (cell : Nat) (store : Option Store) (source : Source)
    (sourced : Bool) (files : Disk) (now : Clock) : Console where
  desk :=
    { height := .standard, visible := false, targets := {}, grid := {}, chart := .waiting
      link, source, store, files, now }
  splitter := .ofCell Layout.splitterLowerBound Layout.splitterHandleOffset cell
  sourced := sourced
  journal := []
  copied := []

/-- Changes what is shown. -/
def setTargets (c : Console) (f : Targets → Targets) : Console :=
  { c with desk := { c.desk with targets := f c.desk.targets } }

def setView (c : Console) (view : ViewMode) : Console := c.setTargets (·.choose view)

def selectExport (c : Console) : Console := c.setTargets ({ · with exportSelected := true })

/-- Gives the export link to the clipboard, if there is one. -/
def copyExport (c : Console) : Console :=
  let url := c.desk.targets.exportUrl
  if url.isEmpty then c else { c with copied := c.copied ++ [url] }

/-- Starts the spinner and has the last query run again. -/
def refresh (c : Console) : Console :=
  (c.setTargets ({ · with refreshSpinning := true })).publish Topic.gridRefresh .empty

/-- Reports a move of the splitter, if it has moved. -/
def report (c : Console) (pixels : Option Int) : Console :=
  match pixels with
  | some pixels => c.publish resizeTopic (.delta pixels)
  | none => c

def pressSplitter (c : Console) (row : Nat) (container : Rect) : Console :=
  { c with splitter := c.splitter.press row container }

def moveSplitter (c : Console) (row : Nat) : Console :=
  let (splitter, pixels) := c.splitter.move row
  { c with splitter }.report pixels

def releaseSplitter (c : Console) : Console := { c with splitter := c.splitter.release }

def nudgeSplitter (c : Console) (rows : Int) (row : Nat) (container : Rect) : Console :=
  c.report (c.splitter.nudge rows row container)

end Console

end QueryDesk
