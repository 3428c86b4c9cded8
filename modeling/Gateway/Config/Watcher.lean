import Gateway.Path
import Gateway.Ticker

/-!
# Watching the configuration file

The directory of the file is watched, and of what happens there only what touches the file is an
edit. An edit is acted on once no further edit came for a while, so a burst of edits counts as one.
-/

namespace Gateway

/-- What kind of change a file event tells of. -/
inductive FileEventKind where
  | any
  | access
  | create
  | modify
  | remove
  | other
deriving DecidableEq, Repr

/-- Something that happened in a watched directory, and the paths it happened to. -/
structure FileEvent where
  kind : FileEventKind
  paths : List String
deriving DecidableEq, Repr

/-- Whether an event may have changed the file at a path. Whoever replaces the file may name it by
another path, so its name is enough. -/
def FileEvent.touches (e : FileEvent) (path : String) : Bool :=
  (e.kind == .modify || e.kind == .create)
    && e.paths.any fun p => Path.same p path || Path.fileName? p == Path.fileName? path

/-- What a watch on a directory hands over. -/
inductive WatchReport where
  | event (e : FileEvent)
  | fault
deriving DecidableEq, Repr

/-- Whether a report is one of an edit of the file at a path. -/
def WatchReport.isEdit (path : String) : WatchReport → Bool
  | event e => e.touches path
  | fault => false

/-- The watcher of the configuration file. -/
structure Watcher where
  ticker : Ticker
  /-- Whether an edit was not acted on yet. -/
  pending : Bool
deriving DecidableEq, Repr

namespace Watcher

/-- How long no edit may come before the file is read, in milliseconds. -/
def quietTime : Nat := 2000

/-- A watcher that has seen no edit. -/
def start (now : Nat) : Watcher := ⟨⟨quietTime, now, .skip, by decide⟩, false⟩

/-- The file was edited. -/
def notice (w : Watcher) (now : Nat) : Watcher := ⟨w.ticker.reset now, true⟩

/-- Takes a report of the watch. One that is no edit is passed over. -/
def hear (w : Watcher) (path : String) (report : WatchReport) (now : Nat) : Watcher :=
  if report.isEdit path then w.notice now else w

/-- Whether the file is to be read now. -/
def isDue (w : Watcher) (now : Nat) : Bool := w.pending && w.ticker.isDue now

/-- The edits are acted on. -/
def act (w : Watcher) (now : Nat) : Watcher := ⟨w.ticker.fire now, false⟩

/-- When the file is to be read. -/
def nextTime? (w : Watcher) : Option Nat := if w.pending then some w.ticker.next else none

end Watcher

end Gateway
