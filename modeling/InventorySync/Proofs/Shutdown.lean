/-
# Proofs.Shutdown — after the stop nothing enters the channel

A task is `Stopping` once it was told to stop or the sender of the signal is gone, though it may
not have noticed yet. It makes no move then that puts a tick into the channel (`Stopping.move`),
and since a poll goes on until the task waits, and a stopping task waits for nothing, the next poll
ends it (`Stopping.poll`). Events other than a signal to go on leave it stopping.

`shutdown_final` says this of every history: what was in the channel when the stop came is all that
the reader still gets, in order, and then the end.
-/
import InventorySync.Proofs.Ticks

namespace InventorySync.Resync

set_option autoImplicit false

open Time

namespace Trigger

variable {t t' : Trigger} {now : Instant}

/-! ## A stopping task -/

/-- The task is over, or will be as soon as it looks at the signal. -/
def Stopping (t : Trigger) : Prop :=
  t.phase = .ended ∨ t.signal.senderGone = true ∨
    t.signal.stop = true ∧ (t.signal.unheard = true ∨ t.phase = .starting)

theorem not_stopping (quiet : t.Quiet) (listens : t.Listens) : ¬t.Stopping := by
  cases listens <;> simp_all [Stopping, quiet.heard, quiet.held]

theorem stopping_next {t' : Trigger} (stopping : t.Stopping) (running : t.phase ≠ .ended)
    (goes : t'.phase = t.next) (senderGone : t'.signal.senderGone = t.signal.senderGone) :
    t'.Stopping := by
  rcases stopping with ended | gone | ⟨stop, -⟩
  · exact absurd ended running
  · exact .inr (.inl (senderGone.trans gone))
  · exact .inl (goes.trans (by simp [next, stop]))

theorem Stopping.move (stopping : t.Stopping) (moved : Move t now t') :
    t'.Stopping ∧ t'.channel = t.channel := by
  cases moved with
  | finish => exact ⟨.inl rfl, rfl⟩
  | start starting => exact ⟨stopping_next stopping (by simp [starting]) rfl rfl, rfl⟩
  | resume listens =>
    have running : t.phase ≠ .ended := by cases listens <;> simp_all
    exact ⟨stopping_next stopping running rfl rfl, rfl⟩
  | miss _ ready | hold _ ready | send _ ready =>
    exact absurd stopping (not_stopping ready.toQuiet (.waiting ready.waiting))
  | sendHeld tick blocked quiet =>
    exact absurd stopping (not_stopping quiet (.blocked tick blocked))

/-- A stopping task waits for nothing. -/
theorem Stopping.phase_of_step_none (stopping : t.Stopping) (waits : t.step now = none) :
    t.phase = .ended := by
  rcases stopping with ended | gone | ⟨-, told | starting⟩
  · exact ended
  · cases phase : t.phase with
    | ended => rfl
    | starting => simp [step, phase] at waits
    | waiting | blocked => cases told : t.signal.unheard <;> simp [step, phase, gone, told] at waits
  · cases phase : t.phase with
    | ended => rfl
    | starting | waiting | blocked => simp [step, phase, told] at waits
  · simp [step, starting] at waits

/-- **The next poll ends a stopping task**, and puts nothing into the channel. -/
theorem Stopping.poll (stopping : t.Stopping) (paced : t.Paced) (now : Instant) :
    (t.poll now).1.phase = .ended ∧ (t.poll now).1.channel = t.channel := by
  obtain ⟨after, channel⟩ : (t.poll now).1.Stopping ∧ (t.poll now).1.channel = t.channel := by
    refine poll_induct (P := fun u => u.Stopping ∧ u.channel = t.channel) ?_ ⟨stopping, rfl⟩
    rintro u u' ⟨before, channel⟩ moved
    obtain ⟨after, same⟩ := before.move moved
    exact ⟨after, same.trans channel⟩
  exact ⟨after.phase_of_step_none (step_poll paced now), channel⟩

theorem stopping_raise (t : Trigger) : (t.raise true).2.Stopping := by
  unfold raise
  split
  next gone => exact .inr (.inl gone)
  split
  next ended => exact .inl ended
  next => exact .inr (.inr ⟨rfl, .inl rfl⟩)

theorem stopping_hangUp (t : Trigger) : t.hangUp.Stopping := .inr (.inl rfl)

theorem Stopping.congr (stopping : t.Stopping) (phase : t'.phase = t.phase)
    (signal : t'.signal = t.signal) : t'.Stopping := by
  simpa only [Stopping, phase, signal] using stopping

/-! ## What is read of a task that is over -/

/-- What the reader finds at these instants. -/
def drain (t : Trigger) : List Instant → List Received
  | [] => []
  | now :: later =>
    let (found, t, _) := t.receive now
    found :: t.drain later

theorem poll_of_ended (ended : t.phase = .ended) (now : Instant) : (t.poll now).1 = t :=
  steps_none (by simp [step, ended]) _

theorem receive_nil (ended : t.phase = .ended) (read : t.receiverGone = false)
    (channel : t.channel = []) (now : Instant) : t.receive now = (.closed, t, []) := by
  simp only [receive, take_nil read channel, if_pos ended]

theorem receive_cons {tick : Tick} {rest : List Tick} (ended : t.phase = .ended)
    (read : t.receiverGone = false) (channel : t.channel = tick :: rest) (now : Instant) :
    (t.receive now).1 = .tick tick ∧ (t.receive now).2.1 = { t with channel := rest } := by
  simp only [receive, take_cons read channel]
  exact ⟨trivial, poll_of_ended (t := { t with channel := rest }) ended now⟩

/-- What so many reads find if no more ticks come: those in the channel, and then its end. -/
def rest (t : Trigger) (reads : Nat) : List Received :=
  (t.channel.map Received.tick ++ List.replicate reads Received.closed).take reads

theorem drain_of_ended (ended : t.phase = .ended) (read : t.receiverGone = false)
    (instants : List Instant) : t.drain instants = t.rest instants.length := by
  unfold rest
  induction instants generalizing t with
  | nil => rfl
  | cons now later ih =>
    cases channel : t.channel with
    | nil =>
      simp only [drain, receive_nil ended read channel, ih ended read, channel]
      simp [List.replicate_succ]
    | cons tick rest =>
      simp only [drain, receive_cons ended read channel]
      rw [ih (t := { t with channel := rest }) ended read]
      simp [List.take_append, List.take_replicate]
      omega

/-! ## Room in the channel -/

theorem Move.fits (fits : t.channel.length ≤ t.capacity) (moved : Move t now t') :
    t'.channel.length ≤ t'.capacity := by
  cases moved with
  | finish | start | resume | miss | hold => exact fits
  | send _ _ free | sendHeld _ _ _ free =>
    rw [List.length_append]
    exact free.room

/-- What a trigger with room for so many ticks is like at any time. -/
structure Within (limit : Nat) (t : Trigger) : Prop where
  capacity : t.capacity = limit
  fits : t.channel.length ≤ t.capacity
  paced : t.Paced

variable {limit : Nat}

theorem Within.poll (within : t.Within limit) (now : Instant) : (t.poll now).1.Within limit := by
  refine poll_induct (P := Within limit) (fun before moved => ?_) within
  exact ⟨moved.capacity.trans before.capacity, moved.fits before.fits, moved.paced before.paced⟩

/-- A read takes at most one tick, and nothing else. -/
theorem exists_snd_take (t : Trigger) :
    ∃ rest, rest.length ≤ t.channel.length ∧ t.take.2 = { t with channel := rest } := by
  by_cases gone : t.receiverGone = true
  · exact ⟨t.channel, Nat.le_refl _, congrArg Prod.snd (take_gone gone)⟩
  · have read : t.receiverGone = false := Bool.eq_false_iff.2 gone
    match channel : t.channel with
    | [] => exact ⟨t.channel, by simp [channel], congrArg Prod.snd (take_nil read channel)⟩
    | tick :: rest => exact ⟨rest, Nat.le_succ _, congrArg Prod.snd (take_cons read channel)⟩

theorem Within.take (within : t.Within limit) : t.take.2.Within limit := by
  obtain ⟨rest, fewer, left⟩ := t.exists_snd_take
  rw [left]
  exact ⟨within.capacity, Nat.le_trans fewer within.fits, within.paced.congr rfl rfl⟩

theorem Within.raise (within : t.Within limit) (stop : Bool) : (t.raise stop).2.Within limit := by
  unfold Trigger.raise
  split
  · exact within
  split
  · exact within
  · exact ⟨within.capacity, within.fits, within.paced.congr rfl rfl⟩

end Trigger

/-! ## Every history -/

namespace History

variable {h : History} {limit : Nat}

theorem within_idle (period : Duration) (capacity : Nat) (stopped : Bool) (start : Instant) :
    (idle period capacity stopped start).trigger.Within (max capacity 1) :=
  ⟨rfl, Nat.zero_le _, by rintro (phase | ⟨_, phase⟩) <;> cases phase⟩

theorem within_run (within : h.trigger.Within limit) (events : List Event) :
    (h.run events).trigger.Within limit := by
  induction events generalizing h with
  | nil => exact within
  | cons event _ ih =>
    apply ih
    cases event with
    | poll now => exact within.poll now
    | read => exact within.take
    | abandon => exact ⟨within.capacity, Nat.zero_le _, within.paced.congr rfl rfl⟩
    | raise stop => exact within.raise stop
    | hangUp => exact ⟨within.capacity, within.fits, within.paced.congr rfl rfl⟩

/-- A stopping task goes on stopping, whatever happens but a signal to go on, and no tick
enters the channel any more. -/
theorem stopping_step (stopping : h.trigger.Stopping) (paced : h.trigger.Paced) {event : Event}
    (calm : event ≠ .raise false) :
    (h.step event).trigger.Stopping ∧ (h.step event).entered = h.entered := by
  cases event with
  | poll now =>
    obtain ⟨ended, channel⟩ := stopping.poll paced now
    refine ⟨.inl ended, ?_⟩
    simp only [step, channel, List.drop_length, List.append_nil]
  | read =>
    obtain ⟨rest, -, left⟩ := h.trigger.exists_snd_take
    refine ⟨?_, rfl⟩
    simp only [step, left]
    exact stopping.congr rfl rfl
  | abandon => exact ⟨stopping.congr rfl rfl, rfl⟩
  | raise stop =>
    cases stop with
    | false => exact absurd rfl calm
    | true => exact ⟨h.trigger.stopping_raise, rfl⟩
  | hangUp => exact ⟨h.trigger.stopping_hangUp, rfl⟩

theorem stopping_run (stopping : h.trigger.Stopping) (within : h.trigger.Within limit)
    {events : List Event} (calm : .raise false ∉ events) :
    (h.run events).trigger.Stopping ∧ (h.run events).entered = h.entered := by
  induction events generalizing h with
  | nil => exact ⟨stopping, rfl⟩
  | cons event later ih =>
    obtain ⟨first, later⟩ := List.ne_and_not_mem_of_not_mem_cons calm
    obtain ⟨still, same⟩ := stopping_step stopping within.paced first.symm
    obtain ⟨still, none⟩ := ih still (within_run within [event]) later
    exact ⟨still, none.trans same⟩

/-- Nothing is lost while the task is not told to go on. -/
structure Firm (h : History) : Prop where
  lost : h.lost = []
  told : h.trigger.signal.unheard = true → h.trigger.signal.stop = true

theorem firm_idle (period : Duration) (capacity : Nat) (stopped : Bool) (start : Instant) :
    (idle period capacity stopped start).Firm :=
  ⟨rfl, fun told => by cases told⟩

theorem Firm.dropped (firm : h.Firm) : h.trigger.dropped = [] := by
  unfold Trigger.dropped
  split
  next => cases told : h.trigger.signal.unheard <;> simp [firm.told, told]
  next => rfl

theorem Firm.step (firm : h.Firm) {event : Event} (calm : event ≠ .raise false) :
    (h.step event).Firm := by
  cases event with
  | poll now =>
    refine ⟨by simp [History.step, firm.lost, firm.dropped], ?_⟩
    refine Trigger.poll_induct (P := fun t => t.signal.unheard = true → t.signal.stop = true)
      (fun told moved => ?_) firm.told
    cases moved with
    | finish | miss | hold => exact told
    | start | resume | send | sendHeld => exact fun still => absurd still Bool.false_ne_true
  | read =>
    obtain ⟨rest, -, left⟩ := h.trigger.exists_snd_take
    simp only [History.step, left]
    exact ⟨firm.lost, firm.told⟩
  | abandon | hangUp => exact ⟨firm.lost, firm.told⟩
  | raise stop =>
    cases stop with
    | false => exact absurd rfl calm
    | true =>
      simp only [History.step, Trigger.raise]
      split
      · exact firm
      split
      · exact firm
      · exact ⟨firm.lost, fun _ => rfl⟩

theorem Firm.run (firm : h.Firm) {events : List Event} (calm : .raise false ∉ events) :
    (h.run events).Firm := by
  induction events generalizing h with
  | nil => exact firm
  | cons event later ih =>
    obtain ⟨first, later⟩ := List.ne_and_not_mem_of_not_mem_cons calm
    exact ih (firm.step first.symm) later

theorem Firm.numbers (firm : h.Firm) (sound : h.Sound) :
    h.entered.map (·.sequence) = List.range' 1 h.entered.length ∧
      h.trigger.sequence ≤ h.entered.length + 1 := by
  obtain ⟨top, count⟩ := sound.count
  have numbers : h.entered.map (·.sequence) = List.range' 1 top :=
    count.numbers.trans (numbers_of_above (by simp [firm.lost]))
  obtain rfl : h.entered.length = top := by
    rw [← List.length_map (·.sequence), numbers, List.length_range']
  refine ⟨numbers, ?_⟩
  have at_ := count.at_
  unfold Trigger.At at at_
  split at at_ <;> omega

/-- **A stop is final, and loses only a tick that was not yet sent.** At any time the channel has
room for what is in it. Once the task was told to stop or the sender of the signal is gone, no tick
enters the channel any more, whatever happens but a signal to go on. The next poll ends the task,
and whoever still reads gets the ticks that were in the channel, in order, and then its end. If
the task was never told to go on, these are the ticks from number one, and at most one was taken
that did not enter. -/
theorem shutdown_final (period : Duration) (capacity : Nat) (stopped : Bool) (start : Instant)
    (before after : List Event) {stop : Event} (stops : stop = .raise true ∨ stop = .hangUp)
    (calm : .raise false ∉ after) :
    let h := (idle period capacity stopped start).run before
    let h' := (h.step stop).run after
    (h.trigger.channel.length ≤ max capacity 1 ∧ h'.trigger.channel.length ≤ max capacity 1) ∧
      h'.entered = h.entered ∧ (∀ now, (h'.trigger.poll now).1.phase = .ended) ∧
      (h'.trigger.receiverGone = false → h'.seen ++ h'.trigger.channel = h.entered ∧
        ∀ now instants, (h'.trigger.poll now).1.drain instants = h'.trigger.rest instants.length) ∧
      (.raise false ∉ before → h.entered.map (·.sequence) = List.range' 1 h.entered.length ∧
        h'.trigger.sequence ≤ h.entered.length + 1) := by
  intro h h'
  have sound : h'.Sound :=
    ((sound_idle period capacity stopped start).run before).run (stop :: after)
  have within : h.trigger.Within (max capacity 1) :=
    within_run (within_idle period capacity stopped start) before
  have within' : h'.trigger.Within (max capacity 1) := within_run within (stop :: after)
  obtain ⟨stopping, entered⟩ : h'.trigger.Stopping ∧ h'.entered = h.entered := by
    have told : (h.step stop).trigger.Stopping ∧ (h.step stop).entered = h.entered := by
      rcases stops with rfl | rfl
      · exact ⟨h.trigger.stopping_raise, rfl⟩
      · exact ⟨h.trigger.stopping_hangUp, rfl⟩
    obtain ⟨still, none⟩ := stopping_run told.1 (within_run within [stop]) calm
    exact ⟨still, none.trans told.2⟩
  have ends (now : Instant) := stopping.poll within'.paced now
  refine ⟨⟨within.capacity ▸ within.fits, within'.capacity ▸ within'.fits⟩, entered,
    fun now => (ends now).1, fun read => ⟨entered ▸ sound.kept read, fun now instants => ?_⟩,
    fun never => ?_⟩
  · have still := (h'.trigger.receiverGone_poll now).trans read
    rw [Trigger.drain_of_ended (ends now).1 still]
    simp only [Trigger.rest, (ends now).2]
  · have firm : h'.Firm := by
      refine (((firm_idle period capacity stopped start).run never).step ?_).run calm
      rcases stops with rfl | rfl <;> simp
    rw [← entered]
    exact firm.numbers sound

/-- There is always room for one tick. The second one is held when the stop comes, and is dropped. -/
theorem shutdown_final_blocked :
    let h := (idle (.ofSeconds 10) 0 false ⟨0⟩).run
      [.poll ⟨0⟩, .poll ⟨10000000000⟩, .poll ⟨20000000000⟩]
    let h' := h.step (.raise true)
    h.trigger.phase = .blocked ⟨2, ⟨20000000000⟩⟩ ∧
      (h'.trigger.poll ⟨25000000000⟩).1.phase = .ended ∧
      (h'.trigger.poll ⟨25000000000⟩).1.drain [⟨25000000000⟩, ⟨30000000000⟩] =
        [.tick ⟨1, ⟨10000000000⟩⟩, .closed] := by
  intro h h'
  obtain ⟨-, -, ended, reads, -⟩ := shutdown_final (.ofSeconds 10) 0 false ⟨0⟩
    [.poll ⟨0⟩, .poll ⟨10000000000⟩, .poll ⟨20000000000⟩] [] (.inl rfl) (by simp)
  refine ⟨by decide +kernel, ended _, ?_⟩
  exact ((reads (by decide +kernel)).2 _ _).trans (by decide +kernel)

end History

end InventorySync.Resync
