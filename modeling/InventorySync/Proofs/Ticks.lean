/-
# Proofs.Ticks — the numbers of the ticks that enter the channel

A `History` is a trigger with the ticks that entered its channel, those that were read, and the
numbers of the ticks that were lost: a tick that finds no room is held, and hearing a signal drops
it. If the signal says stop, the task is over and nothing is missed. If it says go on, the number
is spent and the next tick has the one after it. The events are the steps that anything done to a
trigger is made of: to send or to receive is one of them and then a poll, and to let time pass is
polls.

At every point of every history the numbers in the channel are those from one up, without the lost
ones (`Numbered`), which one move keeps (`Move.numbered`), hence a poll, hence every event.
`entered_in_order` is what this comes to: the numbers increase, the reader sees the ticks as they
entered, and there is no gap exactly if no tick was lost before one that entered.
-/
import InventorySync.Proofs.TriggerMoves

namespace InventorySync.Resync

set_option autoImplicit false

open Time

/-! ## Histories -/

/-- What can happen to a trigger: its task is polled, or an end of one of its channels is used. -/
inductive Event where
  | poll (now : Instant)
  | read
  | abandon
  | raise (stop : Bool)
  | hangUp
  deriving DecidableEq, Repr

/-- The number of the tick that the next poll drops, though the task goes on. -/
def Trigger.dropped (t : Trigger) : List Nat :=
  match t.phase with
  | .blocked tick => if t.signal.unheard && !t.signal.stop then [tick.sequence] else []
  | _ => []

def Trigger.Received.ticks : Trigger.Received → List Tick
  | .tick found => [found]
  | _ => []

/-- A trigger and what became of its ticks so far. -/
structure History where
  trigger : Trigger
  /-- The ticks that entered the channel. -/
  entered : List Tick
  /-- The ticks that were read. -/
  seen : List Tick
  /-- The numbers of the ticks that were dropped. -/
  lost : List Nat
  deriving DecidableEq, Repr

namespace History

def idle (period : Duration) (capacity : Nat) (stopped : Bool) (start : Instant) : History :=
  ⟨.idle period capacity stopped start, [], [], []⟩

def step (h : History) : Event → History
  | .poll now =>
    let t := (h.trigger.poll now).1
    { h with
      trigger := t
      entered := h.entered ++ t.channel.drop h.trigger.channel.length
      lost := h.lost ++ h.trigger.dropped }
  | .read =>
    let (found, t) := h.trigger.take
    { h with trigger := t, seen := h.seen ++ found.ticks }
  | .abandon => { h with trigger := h.trigger.abandon }
  | .raise stop => { h with trigger := (h.trigger.raise stop).2 }
  | .hangUp => { h with trigger := h.trigger.hangUp }

def run (h : History) (events : List Event) : History := events.foldl step h

end History

/-! ## Numbers with some of them lost -/

/-- The numbers from one to `top` without those that were lost. -/
def numbers (lost : List Nat) (top : Nat) : List Nat := (List.range' 1 top).filter (· ∉ lost)

theorem numbers_succ {lost : List Nat} {top : Nat} (kept : top + 1 ∉ lost) :
    numbers lost (top + 1) = numbers lost top ++ [top + 1] := by
  unfold numbers
  rw [List.range'_1_concat, List.filter_append, Nat.add_comm 1 top]
  simp [kept]

theorem numbers_lose (lost : List Nat) (top : Nat) :
    numbers (lost ++ [top + 1]) (top + 1) = numbers lost top := by
  unfold numbers
  rw [List.range'_1_concat, List.filter_append, Nat.add_comm 1 top]
  have last : List.filter (· ∉ lost ++ [top + 1]) [top + 1] = [] := by simp
  rw [last, List.append_nil]
  refine List.filter_congr fun n member => ?_
  have below : n ≠ top + 1 := by
    have := List.mem_range'_1.1 member
    omega
  simp [below]

theorem pairwise_numbers (lost : List Nat) (top : Nat) : (numbers lost top).Pairwise (· < ·) :=
  (List.pairwise_lt_range' ..).filter _

theorem numbers_of_above {lost : List Nat} {top : Nat} (above : ∀ n ∈ lost, top < n) :
    numbers lost top = List.range' 1 top := by
  refine List.filter_eq_self.2 fun n member => ?_
  have below := List.mem_range'_1.1 member
  simpa using fun gone => absurd (above n gone) (by omega)

/-- Numbers have no gap exactly if every lost one is past the last of them. -/
theorem numbers_eq_range'_iff {lost : List Nat} {top : Nat} (counted : ∀ n ∈ lost, 1 ≤ n) :
    numbers lost top = List.range' 1 (numbers lost top).length ↔
      ∀ n ∈ lost, ∀ m ∈ numbers lost top, m < n := by
  constructor
  · intro gapless n gone m member
    refine Nat.lt_of_not_le fun past => ?_
    have bound : m < 1 + (numbers lost top).length := by
      rw [gapless] at member
      exact (List.mem_range'_1.1 member).2
    have kept : n ∈ numbers lost top := by
      rw [gapless]
      exact List.mem_range'_1.2 ⟨counted n gone, by omega⟩
    simpa [gone] using (List.mem_filter.1 kept).2
  · intro above
    induction top with
    | zero => rfl
    | succ top ih =>
      by_cases gone : top + 1 ∈ lost
      · have same : numbers lost (top + 1) = numbers lost top := by
          unfold numbers
          rw [List.range'_1_concat, List.filter_append, Nat.add_comm 1 top]
          simp [gone]
        rw [same] at above ⊢
        exact ih above
      · have last : top + 1 ∈ numbers lost (top + 1) := by simp [numbers_succ gone]
        have all := numbers_of_above fun n lost => above n lost _ last
        rw [all, List.length_range']

namespace Trigger

variable {t t' : Trigger} {now : Instant}

/-! ## One move -/

theorem dropped_of_heard (heard : t.signal.unheard = false) : t.dropped = [] := by
  unfold dropped
  split <;> simp [heard]

theorem dropped_of_free (unheld : ∀ tick, t.phase ≠ .blocked tick) : t.dropped = [] := by
  unfold dropped
  split
  next tick held => exact absurd held (unheld tick)
  next => rfl

theorem next_ne_blocked (t : Trigger) (tick : Tick) : t.next ≠ .blocked tick := by
  unfold next
  split <;> simp

theorem Move.dropped (moved : Move t now t') : t'.dropped = [] := by
  cases moved with
  | finish | miss => exact dropped_of_free nofun
  | start | resume | send | sendHeld => exact dropped_of_free t.next_ne_blocked
  | hold _ ready => exact dropped_of_heard ready.heard

theorem dropped_of_step_none (waits : t.step now = none) : t.dropped = [] := by
  unfold dropped
  split
  next tick held =>
    cases told : t.signal.unheard
    · rfl
    · simp [step, held, told] at waits
  next => rfl

/-- Where the count of a task stands whose ticks up to `top` were sent or lost. -/
def At (t : Trigger) (top : Nat) : Prop :=
  match t.phase with
  | .starting | .waiting => t.sequence = top
  | .blocked tick => tick.sequence = top + 1 ∧ t.sequence = top + 1
  | .ended => t.sequence = top ∨ t.sequence = top + 1

/-- The next number is then due. -/
theorem At.waiting {top : Nat} (at_ : t.At top) (waiting : t.phase = .waiting) :
    t.sequence + 1 = top + 1 := by
  simpa [At, waiting] using at_

/-- The next number is taken, and held. -/
theorem At.blocked {top : Nat} {tick : Tick} (at_ : t.At top) (blocked : t.phase = .blocked tick) :
    tick.sequence = top + 1 ∧ t.sequence = top + 1 := by
  simpa [At, blocked] using at_

/-- The ticks that entered carry the numbers up to `top`, but for those that were lost. -/
structure Numbered (t : Trigger) (entered : List Tick) (lost : List Nat) (top : Nat) : Prop where
  numbers : entered.map (·.sequence) = numbers lost top
  lost : ∀ n ∈ lost, 1 ≤ n ∧ n ≤ top
  at_ : t.At top

variable {entered : List Tick} {lost : List Nat} {top : Nat}

/-- The count does not depend on the channels. -/
theorem Numbered.congr (count : t.Numbered entered lost top) (phase : t'.phase = t.phase)
    (sequence : t'.sequence = t.sequence) : t'.Numbered entered lost top :=
  ⟨count.numbers, count.lost, by simpa only [At, phase, sequence] using count.at_⟩

/-- The next number enters. -/
theorem Numbered.snoc (count : t.Numbered entered lost top) {tick : Tick}
    (number : tick.sequence = top + 1) (at_ : t'.At (top + 1)) :
    t'.Numbered (entered ++ [tick]) lost (top + 1) where
  numbers := by
    have fresh : top + 1 ∉ lost := fun gone => by have := (count.lost _ gone).2; omega
    rw [List.map_append, count.numbers, numbers_succ fresh, ← number]
    rfl
  lost n gone := ⟨(count.lost n gone).1, Nat.le_succ_of_le (count.lost n gone).2⟩
  at_ := at_

/-- The next number is lost. -/
theorem Numbered.lose (count : t.Numbered entered lost top) (at_ : t'.At (top + 1)) :
    t'.Numbered entered (lost ++ [top + 1]) (top + 1) where
  numbers := count.numbers.trans (numbers_lose lost top).symm
  lost n gone := by
    rcases List.mem_append.1 gone with before | last
    · have := count.lost n before
      omega
    · have := List.mem_singleton.1 last
      omega
  at_ := at_

theorem at_next {t' : Trigger} (goes : t'.phase = t.next) (sequence : t'.sequence = top) :
    t'.At top := by
  unfold At next at *
  cases stop : t.signal.stop <;> simp [goes, stop, sequence]

/-- A move puts no tick or one at the end of the channel, and keeps count. -/
theorem Move.numbered (count : t.Numbered entered lost top) (moved : Move t now t') :
    ∃ new top', t'.channel = t.channel ++ new ∧
      t'.Numbered (entered ++ new) (lost ++ t.dropped) top' := by
  -- Nothing enters, and no number is spent that was not spent before.
  have same {t'' : Trigger} (channel : t''.channel = t.channel) (none : t.dropped = [])
      (at_ : t''.At top) : ∃ new top', t''.channel = t.channel ++ new ∧
        t''.Numbered (entered ++ new) (lost ++ t.dropped) top' := by
    refine ⟨[], top, by simp [channel], ?_⟩
    rw [none, List.append_nil, List.append_nil]
    exact ⟨count.numbers, count.lost, at_⟩
  cases moved with
  | finish running heard =>
    have none : t.dropped = [] := by
      rcases heard with starting | heard
      · exact dropped_of_free (by simp [starting])
      · exact dropped_of_heard heard
    have at_ := count.at_
    refine same rfl none ?_
    cases phase : t.phase <;> simp_all [At]
  | start starting =>
    refine same rfl (dropped_of_free (by simp [starting])) (at_next rfl ?_)
    simpa [At, starting] using count.at_
  | resume listens told =>
    cases listens with
    | waiting waiting =>
      refine same rfl (dropped_of_free (by simp [waiting])) (at_next rfl ?_)
      exact Nat.succ.inj (count.at_.waiting waiting)
    | blocked tick blocked =>
      obtain ⟨number, spent⟩ := count.at_.blocked blocked
      cases stop : t.signal.stop with
      | true =>
        exact same rfl (by simp [Trigger.dropped, stop, blocked]) (by simp [At, next, stop, spent])
      | false =>
        have lone : t.dropped = [top + 1] := by
          simp [Trigger.dropped, blocked, told, stop, number]
        refine ⟨[], top + 1, by simp, ?_⟩
        rw [lone, List.append_nil]
        exact count.lose (at_next rfl spent)
  | miss _ ready =>
    exact same rfl (dropped_of_heard ready.heard) (.inr (count.at_.waiting ready.waiting))
  | hold _ ready =>
    have spent := count.at_.waiting ready.waiting
    exact same rfl (dropped_of_heard ready.heard) ⟨spent, spent⟩
  | send _ ready =>
    have spent := count.at_.waiting ready.waiting
    refine ⟨_, top + 1, rfl, ?_⟩
    rw [dropped_of_heard ready.heard, List.append_nil]
    exact count.snoc spent (at_next rfl spent)
  | sendHeld tick blocked quiet =>
    obtain ⟨number, spent⟩ := count.at_.blocked blocked
    refine ⟨_, top + 1, rfl, ?_⟩
    rw [dropped_of_heard quiet.heard, List.append_nil]
    exact count.snoc number (at_next rfl spent)

/-! ## One poll -/

/-- Moves after the first one drop nothing. -/
theorem steps_numbered (count : t.Numbered entered lost top) (kept : t.dropped = []) (n : Nat) :
    ∃ new top', (steps now n t).1.channel = t.channel ++ new ∧
      (steps now n t).1.Numbered (entered ++ new) lost top' := by
  refine (steps_induct (P := fun u => u.dropped = [] ∧ ∃ new top',
    u.channel = t.channel ++ new ∧ u.Numbered (entered ++ new) lost top') ?_ n ?_).2
  · rintro u u' ⟨kept, new, top', channel, count⟩ moved
    obtain ⟨more, top'', longer, count⟩ := moved.numbered count
    refine ⟨moved.dropped, new ++ more, top'', ?_, ?_⟩
    · rw [longer, channel, List.append_assoc]
    · simpa [kept] using count
  · exact ⟨kept, [], top, by simp, by simpa using count⟩

theorem poll_numbered (count : t.Numbered entered lost top) (now : Instant) :
    ∃ new top', (t.poll now).1.channel = t.channel ++ new ∧
      (t.poll now).1.Numbered (entered ++ new) (lost ++ t.dropped) top' := by
  rcases t.poll_cases now with ⟨waits, same⟩ | ⟨t', n, moved, left⟩
  · rw [same, dropped_of_step_none waits]
    exact ⟨[], top, by simp, by simpa using count⟩
  · obtain ⟨one, top', channel, count⟩ := moved.numbered count
    obtain ⟨more, top'', longer, count⟩ := steps_numbered count moved.dropped n
    rw [left]
    refine ⟨one ++ more, top'', ?_, ?_⟩
    · rw [longer, channel, List.append_assoc]
    · rwa [← List.append_assoc]

/-! ## One read -/

theorem take_gone (gone : t.receiverGone = true) : t.take = (.dropped, t) := by simp [take, gone]

theorem take_nil (read : t.receiverGone = false) (channel : t.channel = []) :
    t.take = (if t.phase = .ended then .closed else .empty, t) := by
  simp [take, read, channel]

theorem take_cons {tick : Tick} {rest : List Tick} (read : t.receiverGone = false)
    (channel : t.channel = tick :: rest) : t.take = (.tick tick, { t with channel := rest }) := by
  simp [take, read, channel]

end Trigger

/-! ## Every history -/

namespace History

/-- What holds at every point of a history. -/
structure Sound (h : History) : Prop where
  count : ∃ top, h.trigger.Numbered h.entered h.lost top
  seen : h.seen <+: h.entered
  /-- As long as somebody reads them, ticks were read or are in the channel. -/
  kept : h.trigger.receiverGone = false → h.seen ++ h.trigger.channel = h.entered

theorem sound_idle (period : Duration) (capacity : Nat) (stopped : Bool) (start : Instant) :
    (idle period capacity stopped start).Sound where
  count := ⟨0, rfl, by simp [idle], rfl⟩
  seen := List.prefix_rfl
  kept _ := rfl

variable {h : History}

theorem Sound.poll (sound : h.Sound) (now : Instant) : (h.step (.poll now)).Sound := by
  obtain ⟨top, count⟩ := sound.count
  obtain ⟨new, top', channel, count⟩ := Trigger.poll_numbered count now
  have entered : (h.trigger.poll now).1.channel.drop h.trigger.channel.length = new := by
    rw [channel, List.drop_left]
  refine ⟨⟨top', ?_⟩, sound.seen.trans (List.prefix_append _ _), fun read => ?_⟩
  · simpa only [step, entered] using count
  · have kept := sound.kept ((h.trigger.receiverGone_poll now).symm.trans read)
    simp only [step, entered]
    rw [channel, ← kept, List.append_assoc]

theorem Sound.read (sound : h.Sound) : (h.step .read).Sound := by
  obtain ⟨top, count⟩ := sound.count
  simp only [step]
  cases gone : h.trigger.receiverGone with
  | true =>
    simp only [Trigger.take_gone gone, Trigger.Received.ticks, List.append_nil]
    exact sound
  | false =>
    have kept := sound.kept gone
    cases channel : h.trigger.channel with
    | nil =>
      simp only [Trigger.take_nil gone channel]
      split <;> simpa [Trigger.Received.ticks] using sound
    | cons tick rest =>
      have split : (h.seen ++ [tick]) ++ rest = h.entered := by
        rw [List.append_assoc, ← kept, channel]
        rfl
      simp only [Trigger.take_cons gone channel]
      exact ⟨⟨top, count.congr rfl rfl⟩, ⟨rest, split⟩, fun _ => split⟩

theorem Sound.step (sound : h.Sound) (event : Event) : (h.step event).Sound := by
  obtain ⟨top, count⟩ := sound.count
  cases event with
  | poll now => exact sound.poll now
  | read => exact sound.read
  | abandon => exact ⟨⟨top, count.congr rfl rfl⟩, sound.seen, nofun⟩
  | hangUp => exact ⟨⟨top, count.congr rfl rfl⟩, sound.seen, sound.kept⟩
  | raise stop =>
    simp only [History.step, Trigger.raise]
    split
    · exact sound
    split
    · exact sound
    · exact ⟨⟨top, count.congr rfl rfl⟩, sound.seen, sound.kept⟩

theorem Sound.run (sound : h.Sound) (events : List Event) : (h.run events).Sound := by
  induction events generalizing h with
  | nil => exact sound
  | cons event _ ih => exact ih (sound.step event)

/-- **The ticks that enter the channel carry increasing numbers, and the reader sees them in that
order.** They are 1, 2, 3, … without a gap exactly if no tick that was dropped, because the task
was told to go on while it held it, came before one that entered. -/
theorem entered_in_order (period : Duration) (capacity : Nat) (stopped : Bool) (start : Instant)
    (events : List Event) :
    let h := (idle period capacity stopped start).run events
    (h.entered.map (·.sequence)).Pairwise (· < ·) ∧ h.seen <+: h.entered ∧
      (h.entered.map (·.sequence) = List.range' 1 h.entered.length ↔
        ∀ n ∈ h.lost, ∀ tick ∈ h.entered, tick.sequence < n) := by
  intro h
  have sound : h.Sound := (sound_idle period capacity stopped start).run events
  obtain ⟨top, count⟩ := sound.count
  have length : h.entered.length = (numbers h.lost top).length := by
    rw [← count.numbers, List.length_map]
  have tick_lt (n : Nat) : (∀ m ∈ numbers h.lost top, m < n) ↔
      ∀ tick ∈ h.entered, tick.sequence < n := by
    rw [← count.numbers, List.forall_mem_map]
  refine ⟨count.numbers ▸ pairwise_numbers h.lost top, sound.seen, ?_⟩
  rw [count.numbers, length, numbers_eq_range'_iff fun n gone => (count.lost n gone).1]
  simp only [tick_lt]

/-- Nobody reads for 25 s, so the second tick of a task with room for one is held. The task is told
to go on, and only then is the first tick read: the second one never comes. -/
theorem tick_lost_when_told_to_go_on :
    let h := (idle (.ofSeconds 10) 1 false ⟨0⟩).run
      [.poll ⟨0⟩, .poll ⟨10000000000⟩, .poll ⟨20000000000⟩, .raise false, .poll ⟨25000000000⟩,
        .read, .poll ⟨30000000000⟩, .read]
    h.seen.map (·.sequence) = [1, 3] ∧ h.entered = h.seen ∧ h.lost = [2] := by
  decide +kernel

end History

end InventorySync.Resync
