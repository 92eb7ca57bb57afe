/-
# Resync.Trigger — a tick per interval, until told to stop

The inventory can change behind the controller's back, so every object is visited
again once per interval. A task puts numbered ticks into a bounded channel; the first
one is due a full interval after the start. A full channel blocks the task, and the
next tick is then due a full interval after the late one was taken.

The task listens to a shutdown signal before anything else. A signal that says stop, or
the loss of its sender, ends the task: no tick enters the channel after that, and the
reader finds the channel closed once it is empty. A signal that says go on is heard as
well, and a tick that was blocked when it came is dropped.

`step` is one move of the task at a point in time, if it has one; `poll` lets it move
until it waits. `sleepUntil` lets time pass and fires every tick when it is due. What is
done at the other ends of the two channels (`take`, `abandon`, `raise`, `hangUp`) is apart
from the poll that the task answers it with.
-/
import InventorySync.Log
import InventorySync.Time.Instant

namespace InventorySync.Resync

set_option autoImplicit false

open Time

/-- One request to visit every object. -/
structure Tick where
  /-- Counts from one. -/
  sequence : Nat
  firedAt : Instant
  deriving DecidableEq, Repr

/-- The shutdown channel: its latest value, whether the task has yet to hear it, and
whether the sender is gone. -/
structure Signal where
  stop : Bool
  unheard : Bool
  senderGone : Bool
  deriving DecidableEq, Repr

/-- Where the task stands. -/
inductive Phase where
  /-- Was not yet polled. -/
  | starting
  /-- Waits for the next tick to be due. -/
  | waiting
  /-- Holds a tick that finds no room. -/
  | blocked (tick : Tick)
  | ended
  deriving DecidableEq, Repr

structure Trigger where
  period : Duration
  capacity : Nat
  phase : Phase
  /-- When the next tick is due. -/
  due : Instant
  /-- Ticks taken so far. -/
  sequence : Nat
  /-- Ticks in the channel, the oldest one in front. -/
  channel : List Tick
  receiverGone : Bool
  signal : Signal
  deriving DecidableEq, Repr

namespace Trigger

/-! ## The task -/

/-- A tick taken this late moves those after it. -/
def lateness : Duration := .ofMillis 5

/-- When the next tick is due, if this one is taken now. -/
def nextDue (t : Trigger) (now : Instant) : Instant :=
  if t.due.nanos + lateness.nanos ≤ now.nanos then ⟨now.nanos + t.period.nanos⟩
  else ⟨t.due.nanos + t.period.nanos⟩

/-- The task is over, and says how many ticks it took. -/
def finish (t : Trigger) : Trigger × List Log.Entry :=
  ({ t with phase := .ended },
    [Log.debug ("Periodic resync stopped after " ++ toString t.sequence ++ " ticks")])

/-- Go on waiting, unless the latest value of the signal says stop. -/
def resume (t : Trigger) : Trigger × List Log.Entry :=
  let t := { t with phase := .waiting, signal := { t.signal with unheard := false } }
  if t.signal.stop then t.finish else (t, [])

/-- Begin to wait for the first tick. An interval of zero is none, nor is one that ends
where the clock has ended: such a task is over at once. -/
def begin (t : Trigger) (now : Instant) : Trigger × List Log.Entry :=
  match now.add? t.period with
  | none => ({ t with phase := .ended }, [])
  | some due =>
    if t.period = Duration.zero then ({ t with phase := .ended }, [])
    else
      let (t, lines) := { t with due := due }.resume
      (t, Log.info ("Periodic resync every " ++ t.period.text) :: lines)

/-- Put a tick into the channel, or hold it until there is room. -/
def offer (t : Trigger) (tick : Tick) : Trigger × List Log.Entry :=
  if t.receiverGone then
    let (t, lines) := t.finish
    (t, Log.debug "Resync receiver dropped" :: lines)
  else if t.channel.length < t.capacity then
    let (t, lines) := { t with channel := t.channel ++ [tick] }.resume
    (t, Log.debug ("Sent resync tick " ++ toString tick.sequence) :: lines)
  else ({ t with phase := .blocked tick }, [])

/-- One move of the task; none if it waits. The signal goes first. -/
def step (t : Trigger) (now : Instant) : Option (Trigger × List Log.Entry) :=
  match t.phase with
  | .ended => none
  | .starting => some (t.begin now)
  | .waiting =>
    if t.signal.unheard then some t.resume
    else if t.signal.senderGone then some t.finish
    else if t.due ≤ now then
      let tick : Tick := ⟨t.sequence + 1, now⟩
      some ({ t with sequence := t.sequence + 1, due := t.nextDue now }.offer tick)
    else none
  | .blocked tick =>
    if t.signal.unheard then some t.resume
    else if t.signal.senderGone then some t.finish
    else if t.receiverGone || t.channel.length < t.capacity then some (t.offer tick)
    else none

/-- At most `n` moves. -/
def steps (now : Instant) : Nat → Trigger → Trigger × List Log.Entry
  | 0, t => (t, [])
  | n + 1, t =>
    match t.step now with
    | none => (t, [])
    | some (t, lines) =>
      let (t, more) := steps now n t
      (t, lines ++ more)

/-- Let the task move until it waits: at most one move for the signal, one for a held
tick, one for each tick that is due, and one to end. -/
def poll (t : Trigger) (now : Instant) : Trigger × List Log.Entry :=
  steps now ((now.since t.due).nanos / t.period.nanos + 4) t

/-- A task that was not yet polled. There is room for at least one tick. -/
def idle (period : Duration) (capacity : Nat) (stopped : Bool) (now : Instant) : Trigger where
  period := period
  capacity := max capacity 1
  phase := .starting
  due := now
  sequence := 0
  channel := []
  receiverGone := false
  signal := ⟨stopped, false, false⟩

/-- Start the task. -/
def spawn (period : Duration) (capacity : Nat) (stopped : Bool) (now : Instant) :
    Trigger × List Log.Entry :=
  (idle period capacity stopped now).poll now

/-! ## Time -/

/-- Fire at most `n` ticks that are due by `deadline`, each at its own time. -/
def fireUntil (deadline : Instant) : Nat → Trigger → Trigger × List Log.Entry
  | 0, t => (t, [])
  | n + 1, t =>
    if t.phase = .waiting ∧ t.due ≤ deadline then
      let (t, lines) := t.poll t.due
      let (t, more) := fireUntil deadline n t
      (t, lines ++ more)
    else (t, [])

/-- Let time pass. -/
def sleepUntil (t : Trigger) (deadline : Instant) : Trigger × List Log.Entry :=
  fireUntil deadline ((deadline.since t.due).nanos / t.period.nanos + 1) t

/-! ## The ends of the channels -/

/-- What the reader finds. -/
inductive Received where
  | tick (t : Tick)
  | empty
  | closed
  | dropped
  deriving DecidableEq, Repr

/-- Take the oldest tick. -/
def take (t : Trigger) : Received × Trigger :=
  if t.receiverGone then (.dropped, t)
  else
    match t.channel with
    | tick :: rest => (.tick tick, { t with channel := rest })
    | [] => (if t.phase = .ended then .closed else .empty, t)

/-- Take the oldest tick, which leaves room for another. -/
def receive (t : Trigger) (now : Instant) : Received × Trigger × List Log.Entry :=
  match t.take with
  | (.tick tick, t) => (.tick tick, t.poll now)
  | (found, t) => (found, t, [])

/-- Take the oldest tick, or wait for one: what came, when, and what is left. -/
def receiveUntil (t : Trigger) (now deadline : Instant) :
    Received × Instant × Trigger × List Log.Entry :=
  match t.receive now with
  | (.empty, t, _) =>
    let due := t.due
    if due ≤ deadline then
      let (t, lines) := t.poll due
      let (found, t, more) := t.receive due
      (found, due, t, lines ++ more)
    else (.empty, deadline, t, [])
  | (found, t, lines) => (found, now, t, lines)

/-- Drop the reading end, and the ticks that nobody can read any more. -/
def abandon (t : Trigger) : Trigger := { t with receiverGone := true, channel := [] }

def dropReceiver (t : Trigger) (now : Instant) : Trigger × List Log.Entry := t.abandon.poll now

/-- Send a value on the shutdown channel: whether it was delivered, or none if the
sender is gone. -/
def raise (t : Trigger) (stop : Bool) : Option Bool × Trigger :=
  if t.signal.senderGone then (none, t)
  else if t.phase = .ended then (some false, t)
  else (some true, { t with signal := { t.signal with stop := stop, unheard := true } })

def send (t : Trigger) (stop : Bool) (now : Instant) : Option Bool × Trigger × List Log.Entry :=
  match t.raise stop with
  | (some true, t) => (some true, t.poll now)
  | (delivered, t) => (delivered, t, [])

/-- Drop the sending end of the shutdown channel. -/
def hangUp (t : Trigger) : Trigger := { t with signal := { t.signal with senderGone := true } }

def dropSender (t : Trigger) (now : Instant) : Trigger × List Log.Entry := t.hangUp.poll now

end Trigger

end InventorySync.Resync
