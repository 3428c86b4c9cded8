import Gateway.Text.Quoted

/-!
# Background tasks

The daemon keeps a table of named tasks. All of them can be asked to stop at once; a task may wait
for that or may not, may take its time, and may never end. A shutdown asks all tasks to stop and
waits for one after the other, for each so long and no longer; their order is free. A task that it
gives up on runs on, with no one waiting for it. Times are in milliseconds.
-/

namespace Gateway

/-! ## Plans -/

/-- How a task comes to its end. -/
inductive TaskEnding where
  | well
  | failed (text : String)
  /-- The task broke off with a message. -/
  | broke (text : String)
deriving DecidableEq, Repr

/-- What a task does. -/
structure TaskPlan where
  /-- Whether it waits to be asked to stop before it goes on. -/
  waits : Bool
  /-- Whether it notes that it was asked. -/
  notesRequest : Bool
  /-- How long it goes on from then; `none` is without end. -/
  lasts : Option Nat
  ending : TaskEnding
deriving DecidableEq, Repr

namespace TaskPlan

/-- Ends when it is asked to. -/
def obedient : TaskPlan := ⟨true, false, some 0, .well⟩

/-- Notes that it is asked to stop, and ends some time later. -/
def slow (time : Nat) : TaskPlan := ⟨true, true, some time, .well⟩

/-- Ends after some time, asked or not. -/
def timed (time : Nat) : TaskPlan := ⟨false, false, some time, .well⟩

/-- Fails after some time, asked or not. -/
def failing (time : Nat) (text : String) : TaskPlan := ⟨false, false, some time, .failed text⟩

/-- Fails when it is asked to stop. -/
def failingWhenAsked (text : String) : TaskPlan := ⟨true, false, some 0, .failed text⟩

/-- Never ends. -/
def endless : TaskPlan := ⟨false, false, none, .well⟩

/-- Breaks off at once. -/
def breaking (text : String) : TaskPlan := ⟨false, false, some 0, .broke text⟩

end TaskPlan

/-! ## Tasks -/

/-- A task that was started. -/
structure RunningTask where
  name : String
  plan : TaskPlan
  /-- Since when it goes on by itself; `none` while it waits to be asked. -/
  since : Option Nat
  ended : Bool
  /-- Whether the table still holds it. -/
  held : Bool
deriving DecidableEq, Repr

namespace RunningTask

/-- The task is held no longer. -/
def release (t : RunningTask) : RunningTask := { t with held := false }

/-- When the task ends by itself. -/
def endTime? (t : RunningTask) : Option Nat :=
  if t.ended then none
  else match t.since, t.plan.lasts with
    | some since, some time => some (since + time)
    | _, _ => none

/-- The task goes on by itself, if it did not yet and nothing holds it back. -/
def awaken (t : RunningTask) (now : Nat) (asked : Bool) : RunningTask × List String :=
  if t.since.isNone && (!t.plan.waits || asked) then
    ({ t with since := some now }, if t.plan.notesRequest then [t.name ++ " cancelled"] else [])
  else (t, [])

/-- The task ends, if its time has come. Only a good end is noted. -/
def expire (t : RunningTask) (now : Nat) : RunningTask × List String :=
  if t.endTime?.any (· ≤ now) then
    ({ t with ended := true }, if t.plan.ending = .well then [t.name ++ " end"] else [])
  else (t, [])

/-- The task does what it can do now. -/
def run (t : RunningTask) (now : Nat) (asked : Bool) : RunningTask × List String :=
  let (t, notes) := t.awaken now asked
  let (t, more) := t.expire now
  (t, notes ++ more)

end RunningTask

/-! ## Failures -/

/-- Why a task spoils a shutdown. -/
inductive TaskFault where
  | failed (text : String)
  | broke (text : String)
  /-- It went on for longer than it is waited for. -/
  | late
deriving DecidableEq, Repr

/-- How long a shutdown waits for a task. -/
def shutdownLimit : Nat := 10000

/-- The text of a fault. The number that a broken task runs under, which is another one in every run,
is left out of its text. -/
def TaskFault.message : TaskFault → String
  | failed text => text
  | broke text => "task panicked: task panicked with message " ++ Text.quoted text
  | late => "did not stop within " ++ toString (shutdownLimit / 1000) ++ "s"

/-- The fault that an ending is. -/
def TaskEnding.fault? : TaskEnding → Option TaskFault
  | well => none
  | failed text => some (.failed text)
  | broke text => some (.broke text)

/-- The first task that spoiled a shutdown. -/
structure ShutdownFault where
  task : String
  fault : TaskFault
deriving DecidableEq, Repr

namespace ShutdownFault

/-- What is said of every shutdown that a task spoiled. -/
def message (_ : ShutdownFault) : String := "One or more tasks failed during shutdown"

/-- What led to it, from the task to its fault. -/
def causes (f : ShutdownFault) : List String :=
  ["task " ++ "'" ++ f.task ++ "'", f.fault.message]

end ShutdownFault

/-! ## The table -/

/-- The tasks of the daemon, in the order in which they were started. -/
structure TaskTable where
  now : Nat
  /-- Whether all tasks were asked to stop. -/
  asked : Bool
  tasks : List RunningTask
  /-- What the tasks noted. -/
  notes : List String
deriving DecidableEq, Repr

namespace TaskTable

/-- A table without tasks. -/
def empty : TaskTable := ⟨0, false, [], []⟩

/-- Every task does what it can do now. -/
def settle (t : TaskTable) : TaskTable :=
  let runs := t.tasks.map (·.run t.now t.asked)
  { t with tasks := runs.map (·.1), notes := t.notes ++ runs.flatMap (·.2) }

/-- Starts a task. One of the same name is held no longer, but goes on. -/
def start (t : TaskTable) (name : String) (plan : TaskPlan) : TaskTable :=
  let others := t.tasks.map fun other =>
    if other.name = name then other.release else other
  { t with
    tasks := others ++ [RunningTask.mk name plan none false true]
    notes := t.notes ++ [name ++ " start"] }.settle

/-- Asks all tasks to stop, those to come as well. -/
def ask (t : TaskTable) : TaskTable := { t with asked := true }.settle

/-- The notes in alphabetical order, and the table without them. -/
def drain (t : TaskTable) : List String × TaskTable :=
  (t.notes.mergeSort fun a b => decide (a ≤ b), { t with notes := [] })

/-! ## Time -/

/-- The next time at which a task ends by itself. -/
def nextTime? (t : TaskTable) : Option Nat := (t.tasks.filterMap (·.endTime?)).min?

/-- Moves the clock to a time, with so many stops at most. -/
def advanceWithin (t : TaskTable) (target : Nat) : Nat → TaskTable
  | 0 => { t with now := target }.settle
  | fuel + 1 =>
    match t.nextTime? with
    | some time =>
      if time < target then { t with now := max t.now time }.settle.advanceWithin target fuel
      else { t with now := target }.settle
    | none => { t with now := target }.settle

/-- Moves the clock; whatever is due on the way is done in its time. Each stop ends a task. -/
def advance (t : TaskTable) (time : Nat) : TaskTable :=
  t.advanceWithin (t.now + time) t.tasks.length

/-! ## Shutdown -/

/-- How the task at a place of the table ended, if it did. -/
def ending? (t : TaskTable) (place : Nat) : Option TaskEnding :=
  (t.tasks[place]?).bind fun task => if task.ended then some task.plan.ending else none

/-- Waits for the task at a place up to a deadline. A task that ends just then ends too late, and
those that end with it are not heeded before the deadline is. -/
def await (t : TaskTable) (place deadline : Nat) : Nat → TaskTable × Option TaskFault
  | 0 => ({ t with now := max t.now deadline }, some .late)
  | fuel + 1 =>
    match t.ending? place with
    | some ending => (t, ending.fault?)
    | none =>
      match t.nextTime? with
      | some time =>
        if time < deadline then
          { t with now := max t.now time }.settle.await place deadline fuel
        else ({ t with now := max t.now deadline }, some .late)
      | none => ({ t with now := max t.now deadline }, some .late)

/-- A fault, if there is one, of the task at a place. -/
def faultAt? (t : TaskTable) (place : Nat) (fault : Option TaskFault) : Option ShutdownFault :=
  (t.tasks[place]?).bind fun task => fault.map (⟨task.name, ·⟩)

/-- Waits for the tasks at some places, one after the other, and keeps the first fault. -/
def awaitAll (t : TaskTable) : List Nat → TaskTable × Option ShutdownFault
  | [] => (t, none)
  | place :: rest =>
    let (t, fault) := t.await place (t.now + shutdownLimit) (t.tasks.length + 1)
    let (t, later) := t.awaitAll rest
    (t, (t.faultAt? place fault) <|> later)

/-- The places of the tasks that the table holds. -/
def heldPlaces (t : TaskTable) : List Nat :=
  t.tasks.zipIdx.filterMap fun (task, place) => if task.held then some place else none

/-- Asks all tasks to stop and waits for those at some places in their order. The table holds none
any more afterwards. -/
def shutdownIn (t : TaskTable) (places : List Nat) : TaskTable × Except ShutdownFault Unit :=
  let (t, fault) := t.ask.awaitAll places
  let t := { t with tasks := t.tasks.map RunningTask.release }.settle
  (t, match fault with
    | none => .ok ()
    | some fault => .error fault)

/-- Asks all tasks to stop and waits for those that the table holds, the first started first. -/
def shutdown (t : TaskTable) : TaskTable × Except ShutdownFault Unit :=
  t.shutdownIn t.heldPlaces

end TaskTable

end Gateway
