/-
# Proofs.TriggerMoves — what the task of a trigger can do in one move

`Move` lists the moves of the task with what each one leaves, and every move that is made is one
of them (`move_of_step`). A tick moves only when the signal says nothing (`Quiet`), and enters the
channel only if somebody reads it and there is room (`Free`). What every move keeps, a whole poll
keeps (`poll_induct`), and a poll ends only where the task waits or is over (`step_poll`).
-/
import InventorySync.Resync.Trigger

namespace InventorySync.Resync.Trigger

set_option autoImplicit false

open Time

/-- Where the task goes on, unless it was told to stop. -/
def next (t : Trigger) : Phase := if t.signal.stop then .ended else .waiting

/-- The signal once it was heard. -/
def heard (t : Trigger) : Signal := { t.signal with unheard := false }

/-- The task waits, for its next tick or for room. -/
inductive Listens (t : Trigger) : Prop where
  | waiting (phase : t.phase = .waiting)
  | blocked (tick : Tick) (phase : t.phase = .blocked tick)

/-- The signal says nothing. -/
structure Quiet (t : Trigger) : Prop where
  heard : t.signal.unheard = false
  held : t.signal.senderGone = false

/-- A tick can enter the channel. -/
structure Free (t : Trigger) : Prop where
  read : t.receiverGone = false
  room : t.channel.length < t.capacity

/-- The next tick can be taken, and the one after it is then due at `later`. -/
structure Ready (t : Trigger) (now later : Instant) : Prop extends t.Quiet where
  waiting : t.phase = .waiting
  due : t.due ≤ now
  -- Named, since a `t.nextDue now` within a task is unfolded down to its numerals by each `rfl`.
  later : t.nextDue now = later

/-- One move of the task. -/
inductive Move (t : Trigger) (now : Instant) : Trigger → Prop where
  /-- The task cannot start, or has lost one of its channels. -/
  | finish (running : t.phase ≠ .ended) (heard : t.phase = .starting ∨ t.signal.unheard = false) :
      Move t now { t with phase := .ended }
  | start (starting : t.phase = .starting) (paced : t.period ≠ Duration.zero) :
      Move t now
        { t with due := ⟨now.nanos + t.period.nanos⟩, phase := t.next, signal := t.heard }
  /-- The task hears the signal. A tick that it holds is dropped. -/
  | resume (listens : t.Listens) (told : t.signal.unheard = true) :
      Move t now { t with phase := t.next, signal := t.heard }
  /-- A tick is taken that nobody can read. -/
  | miss (later : Instant) (ready : t.Ready now later) :
      Move t now { t with sequence := t.sequence + 1, due := later, phase := .ended }
  /-- A tick is taken and finds no room. -/
  | hold (later : Instant) (ready : t.Ready now later) (read : t.receiverGone = false)
      (full : ¬t.channel.length < t.capacity) :
      Move t now
        { t with sequence := t.sequence + 1, due := later, phase := .blocked ⟨t.sequence + 1, now⟩ }
  /-- A tick is taken and finds room. -/
  | send (later : Instant) (ready : t.Ready now later) (free : t.Free) :
      Move t now
        { t with
          sequence := t.sequence + 1, due := later, phase := t.next, signal := t.heard
          channel := t.channel ++ [⟨t.sequence + 1, now⟩] }
  /-- A tick that was held finds room. -/
  | sendHeld (tick : Tick) (blocked : t.phase = .blocked tick) (quiet : t.Quiet) (free : t.Free) :
      Move t now { t with phase := t.next, signal := t.heard, channel := t.channel ++ [tick] }

/-! ## Every move is one of these -/

theorem fst_resume (t : Trigger) : t.resume.1 = { t with phase := t.next, signal := t.heard } := by
  unfold resume next heard
  cases stop : t.signal.stop <;> simp [stop, finish]

theorem fst_begin (t : Trigger) (now : Instant) :
    (t.begin now).1 = { t with phase := .ended } ∨
      t.period ≠ Duration.zero ∧ (t.begin now).1 =
        { t with due := ⟨now.nanos + t.period.nanos⟩, phase := t.next, signal := t.heard } := by
  unfold begin
  cases first : now.add? t.period with
  | none => exact .inl rfl
  | some due =>
    obtain rfl : due = ⟨now.nanos + t.period.nanos⟩ :=
      congrArg Instant.mk (Instant.nanos_add? first)
    by_cases unpaced : t.period = Duration.zero
    · exact .inl (by simp only [if_pos unpaced])
    · refine .inr ⟨unpaced, ?_⟩
      simp only [if_neg unpaced]
      exact fst_resume _

theorem fst_offer (t : Trigger) (tick : Tick) :
    (t.offer tick).1 =
      if t.receiverGone then { t with phase := .ended }
      else if t.channel.length < t.capacity then
        { t with phase := t.next, signal := t.heard, channel := t.channel ++ [tick] }
      else { t with phase := .blocked tick } := by
  unfold offer
  split
  · rfl
  split
  · exact fst_resume _
  · rfl

theorem move_of_step {t t' : Trigger} {now : Instant} {lines : List Log.Entry}
    (made : t.step now = some (t', lines)) : Move t now t' := by
  have left {r : Trigger × List Log.Entry} (made : some r = some (t', lines)) : t' = r.1 :=
    (congrArg Prod.fst (Option.some.inj made)).symm
  have quiet (heard : ¬t.signal.unheard) (held : ¬t.signal.senderGone) : t.Quiet :=
    ⟨Bool.eq_false_iff.2 heard, Bool.eq_false_iff.2 held⟩
  cases phase : t.phase with
  | ended => simp [step, phase] at made
  | starting =>
    simp only [step, phase] at made
    rcases t.fst_begin now with ended | ⟨paced, begun⟩
    · exact (left made).trans ended ▸ .finish (by simp [phase]) (.inl phase)
    · exact (left made).trans begun ▸ .start phase paced
  | waiting =>
    simp only [step, phase] at made
    split at made
    next told => exact (left made).trans t.fst_resume ▸ .resume (.waiting phase) told
    next heard =>
    split at made
    next => exact left made ▸ .finish (by simp [phase]) (.inr (Bool.eq_false_iff.2 heard))
    next held =>
    split at made
    next due =>
      have ready : t.Ready now (t.nextDue now) := ⟨quiet heard held, phase, due, rfl⟩
      have offered := (left made).trans (fst_offer _ _)
      split at offered
      next => exact offered ▸ .miss _ ready
      next read =>
      split at offered
      next room => exact offered ▸ .send _ ready ⟨Bool.eq_false_iff.2 read, room⟩
      next full => exact offered ▸ .hold _ ready (Bool.eq_false_iff.2 read) full
    next => cases made
  | blocked tick =>
    simp only [step, phase] at made
    split at made
    next told => exact (left made).trans t.fst_resume ▸ .resume (.blocked tick phase) told
    next heard =>
    split at made
    next => exact left made ▸ .finish (by simp [phase]) (.inr (Bool.eq_false_iff.2 heard))
    next held =>
    split at made
    next free =>
      have offered := (left made).trans (fst_offer _ _)
      split at offered
      next => exact offered ▸ .finish (by simp [phase]) (.inr (Bool.eq_false_iff.2 heard))
      next read =>
      split at offered
      next room =>
        exact offered ▸ .sendHeld tick phase (quiet heard held) ⟨Bool.eq_false_iff.2 read, room⟩
      next full => simp [read, full] at free
    next => cases made

/-! ## Polls -/

variable {now : Instant}

theorem steps_none {t : Trigger} (waits : t.step now = none) (n : Nat) :
    (steps now n t).1 = t := by
  cases n <;> simp [steps, waits]

theorem steps_some {t t' : Trigger} {lines : List Log.Entry} (made : t.step now = some (t', lines))
    (n : Nat) : (steps now (n + 1) t).1 = (steps now n t').1 := by
  simp [steps, made]

/-- What every move keeps, any number of moves keeps. -/
theorem steps_induct {P : Trigger → Prop} (kept : ∀ {t t'}, P t → Move t now t' → P t') :
    ∀ (n : Nat) {t : Trigger}, P t → P (steps now n t).1
  | 0, _, holds => holds
  | n + 1, t, holds => by
    cases made : t.step now with
    | none => exact (steps_none made (n + 1)).symm ▸ holds
    | some r =>
      rw [steps_some made]
      exact steps_induct kept n (kept holds (move_of_step made))

/-- What every move keeps, a poll keeps. -/
theorem poll_induct {P : Trigger → Prop} (kept : ∀ {t t'}, P t → Move t now t' → P t')
    {t : Trigger} (holds : P t) : P (t.poll now).1 :=
  steps_induct kept _ holds

/-- A poll makes no move, or a first one. -/
theorem poll_cases (t : Trigger) (now : Instant) :
    t.step now = none ∧ (t.poll now).1 = t ∨
      ∃ t' n, Move t now t' ∧ (t.poll now).1 = (steps now n t').1 := by
  cases made : t.step now with
  | none => exact .inl ⟨rfl, steps_none made _⟩
  | some r => exact .inr ⟨r.1, _, move_of_step made, steps_some made _⟩

theorem Move.capacity {t t' : Trigger} (moved : Move t now t') : t'.capacity = t.capacity := by
  cases moved <;> rfl

theorem Move.receiverGone {t t' : Trigger} (moved : Move t now t') :
    t'.receiverGone = t.receiverGone := by
  cases moved <;> rfl

theorem receiverGone_poll (t : Trigger) (now : Instant) :
    (t.poll now).1.receiverGone = t.receiverGone :=
  poll_induct (P := fun u => u.receiverGone = t.receiverGone)
    (fun before moved => moved.receiverGone.trans before) rfl

/-! ## A poll goes on until the task waits -/

/-- A task that takes ticks takes them some time apart. -/
def Paced (t : Trigger) : Prop := t.Listens → t.period ≠ Duration.zero

theorem Paced.congr {t t' : Trigger} (paced : t.Paced) (phase : t'.phase = t.phase)
    (period : t'.period = t.period) : t'.Paced := by
  rintro (waiting | ⟨tick, blocked⟩)
  · exact period ▸ paced (.waiting (phase ▸ waiting))
  · exact period ▸ paced (.blocked tick (phase ▸ blocked))

theorem Move.paced {t t' : Trigger} (paced : t.Paced) (moved : Move t now t') : t'.Paced := by
  cases moved with
  | finish | miss => intro listens; cases listens <;> contradiction
  | start _ paced => exact fun _ => paced
  | resume listens => exact fun _ => paced listens
  | hold _ ready | send _ ready => exact fun _ => paced (.waiting ready.waiting)
  | sendHeld tick blocked => exact fun _ => paced (.blocked tick blocked)

theorem nanos_pos {d : Duration} (some : d ≠ Duration.zero) : 0 < d.nanos :=
  Nat.pos_of_ne_zero fun zero => some (congrArg Duration.mk zero)

/-- Ticks that are due and were not yet taken. -/
def ticksDue (t : Trigger) (now : Instant) : Nat :=
  if t.due ≤ now then (now.since t.due).nanos / t.period.nanos + 1 else 0

/-- At most as many moves are left, if there are any. -/
def movesLeft (t : Trigger) (now : Instant) : Nat :=
  match t.phase with
  | .ended => 0
  | .starting => 2
  | .waiting => t.signal.unheard.toNat + 1 + t.ticksDue now
  | .blocked _ => t.signal.unheard.toNat + 2 + t.ticksDue now

theorem ticksDue_of_lt {t : Trigger} (ahead : now < t.due) : t.ticksDue now = 0 :=
  if_neg (Nat.not_le_of_lt ahead)

/-- A tick that is taken is due no more, and the one after it comes a period later. -/
theorem ticksDue_lt {t t' : Trigger} (paced : t.period ≠ Duration.zero) (due : t.due ≤ now)
    (same : t'.period = t.period) (later : t.nextDue now = t'.due) :
    t'.ticksDue now < t.ticksDue now := by
  have positive := nanos_pos paced
  have past : t.due.nanos ≤ now.nanos := due
  simp only [ticksDue, if_pos due, same, Instant.since]
  split
  next still =>
    have still : t'.due.nanos ≤ now.nanos := still
    unfold nextDue at later
    split at later
    · rw [← later] at still
      dsimp only at still
      omega
    · rw [← later] at still ⊢
      have enough : t.period.nanos ≤ now.nanos - t.due.nanos := by dsimp only at still; omega
      rw [Nat.sub_add_eq, Nat.div_eq_sub_div positive enough]
      exact Nat.lt_succ_self _
  next => exact Nat.succ_pos _

theorem movesLeft_pos {t : Trigger} (running : t.phase ≠ .ended) : 0 < t.movesLeft now := by
  unfold movesLeft
  cases phase : t.phase with
  | ended => exact absurd phase running
  | starting => exact Nat.two_pos
  | waiting | blocked => dsimp only; omega

/-- A task that goes on waits for its next tick. -/
theorem movesLeft_next_le {t t' : Trigger} (goes : t'.phase = t.next)
    (heard : t'.signal.unheard = false) : t'.movesLeft now ≤ 1 + t'.ticksDue now := by
  unfold movesLeft next at *
  cases stop : t.signal.stop <;> simp [goes, stop, heard]

theorem Move.movesLeft_lt {t t' : Trigger} (paced : t.Paced) (moved : Move t now t') :
    t'.step now = none ∨ t'.movesLeft now < t.movesLeft now := by
  cases moved with
  | finish running => exact .inr (movesLeft_pos running)
  | miss _ ready => exact .inr (movesLeft_pos (by simp [ready.waiting]))
  | hold _ ready read full =>
    -- The measure does not fall here, but there is no room, so this is the last move.
    exact .inl (by simp [step, ready.heard, ready.held, read, full])
  | start starting paced =>
    refine .inr (Nat.lt_of_le_of_lt (movesLeft_next_le rfl rfl) ?_)
    have left : t.movesLeft now = 2 := by simp [movesLeft, starting]
    rw [left, ticksDue_of_lt (Nat.lt_add_of_pos_right (nanos_pos paced))]
    exact Nat.one_lt_two
  | resume listens told =>
    refine .inr (Nat.lt_of_le_of_lt (movesLeft_next_le rfl rfl) ?_)
    have least : 2 + t.ticksDue now ≤ t.movesLeft now := by
      unfold movesLeft
      cases listens <;> simp_all
    exact Nat.lt_of_lt_of_le (Nat.add_lt_add_right Nat.one_lt_two _) least
  | send later ready =>
    refine .inr (Nat.lt_of_le_of_lt (movesLeft_next_le rfl rfl) ?_)
    have left : t.movesLeft now = 1 + t.ticksDue now := by
      simp [movesLeft, ready.waiting, ready.heard]
    rw [left]
    apply Nat.add_lt_add_left
    exact ticksDue_lt (paced (.waiting ready.waiting)) ready.due rfl ready.later
  | sendHeld tick blocked quiet =>
    refine .inr (Nat.lt_of_le_of_lt (movesLeft_next_le rfl rfl) ?_)
    have left : t.movesLeft now = 2 + t.ticksDue now := by
      simp [movesLeft, blocked, quiet.heard]
    rw [left]
    exact Nat.add_lt_add_right Nat.one_lt_two _

theorem step_steps : ∀ (n : Nat) {t : Trigger}, t.Paced → t.movesLeft now ≤ n →
    (steps now n t).1.step now = none
  | 0, t, _, none_left => by
    have ended : t.phase = .ended := by
      cases phase : t.phase <;> simp_all [movesLeft]
    simp [steps, step, ended]
  | n + 1, t, paced, left => by
    cases made : t.step now with
    | none => rw [steps_none made]; exact made
    | some r =>
      rw [steps_some made]
      have moved := move_of_step made
      rcases moved.movesLeft_lt paced with waits | fewer
      · rw [steps_none waits]; exact waits
      · exact step_steps n (moved.paced paced) (by omega)

/-- **A poll lets the task move until it waits or is over.** -/
theorem step_poll {t : Trigger} (paced : t.Paced) (now : Instant) :
    (t.poll now).1.step now = none := by
  refine step_steps _ paced ?_
  have heard : t.signal.unheard.toNat ≤ 1 := Bool.toNat_le _
  have due : t.ticksDue now ≤ (now.since t.due).nanos / t.period.nanos + 1 := by
    unfold ticksDue
    split
    · exact Nat.le_refl _
    · exact Nat.zero_le _
  generalize (now.since t.due).nanos / t.period.nanos = late at due ⊢
  cases phase : t.phase <;> simp only [movesLeft, phase] <;> omega

end InventorySync.Resync.Trigger
