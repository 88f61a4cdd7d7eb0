import Mathlib.Tactic.Basic

/-!
# The periodic function

`PeriodicFunction` of `util/periodic_function.cc`, which runs `RefreshFunctionRepository` every
`--function_refresh_interval` (`AdAuctionsImpl` passes the flag as both the first delay and the
interval). Its constructor starts a reload thread running

    if (exit_notification_.WaitForNotificationWithTimeout(first_invocation_delay_)) return;
    do { function_(); }
    while (!exit_notification_.WaitForNotificationWithTimeout(invocation_interval_));

and its destructor notifies `exit_notification_` and joins the thread. Time is a counter that
`tick` advances; the thread moves at its own `reload` events, interleaved with the ticks and with
the destructor's notification in any order. A wait returns true once the notification is given and
false once its deadline has passed; the thread then enters `function_()` at its next step, so the
notification can land between the two. A call of the function lasts from the step that enters it
to the step that leaves it. The state records when each call started.

Over every run from the constructor the calls start no earlier than the first delay and at least
an interval apart, which bounds their number by the time elapsed (`calls_of_run`). From any state,
once the destructor has notified, at most one more call starts, and only when a wait has already
timed out; the thread has returned after its next three steps, however the clock runs
(`destructor_joins`).
-/

namespace Aviary

/-- Where the reload thread is. -/
inductive ReloadThread where
  /-- Started, not yet in its first wait. -/
  | starting
  /-- In `WaitForNotificationWithTimeout(first_invocation_delay_)`, until `deadline`. -/
  | firstWait (deadline : Nat)
  /-- A wait has returned false; `function_()` is not yet entered. -/
  | timedOut
  /-- In `function_()`. -/
  | invoking
  /-- In `WaitForNotificationWithTimeout(invocation_interval_)`, until `deadline`. -/
  | intervalWait (deadline : Nat)
  /-- Returned from its lambda, so `join` returns. -/
  | exited
  deriving DecidableEq, Repr

/-- The members of a `PeriodicFunction`, the clock, and when each call of `function_` started. -/
structure PeriodicFunction where
  firstInvocationDelay : Nat
  invocationInterval : Nat
  now : Nat
  /-- Whether `exit_notification_` has been notified. -/
  exitNotification : Bool
  reloadThread : ReloadThread
  /-- The start times of the calls, in order. -/
  starts : List Nat
  deriving DecidableEq, Repr

/-- An event of a run. -/
inductive PeriodicEvent where
  /-- The clock advances by one. -/
  | tick
  /-- The destructor's `exit_notification_.Notify()`. -/
  | notify
  /-- The reload thread takes its next step. -/
  | reload
  deriving DecidableEq, Repr

/-- `WaitForNotificationWithTimeout` until `deadline`: true once notified, false once the deadline
has passed, nothing while it blocks. -/
def waitForNotificationWithTimeout (notified : Bool) (now deadline : Nat) : Option Bool :=
  if notified then some true
  else if deadline ≤ now then some false
  else none

namespace PeriodicFunction

/-- The constructor, called at time `now`. -/
def create (firstInvocationDelay invocationInterval now : Nat) : PeriodicFunction :=
  ⟨firstInvocationDelay, invocationInterval, now, false, .starting, []⟩

/-- Where a wait until `deadline` leads: out of the lambda once notified, on to `function_()` once
it times out. Both waits of the thread end so. -/
def afterWait (p : PeriodicFunction) (deadline : Nat) : PeriodicFunction :=
  match waitForNotificationWithTimeout p.exitNotification p.now deadline with
  | some true => { p with reloadThread := .exited }
  | some false => { p with reloadThread := .timedOut }
  | none => p

/-- The reload thread's next step. -/
def reload (p : PeriodicFunction) : PeriodicFunction :=
  match p.reloadThread with
  | .starting => { p with reloadThread := .firstWait (p.now + p.firstInvocationDelay) }
  | .firstWait deadline => p.afterWait deadline
  | .timedOut => { p with reloadThread := .invoking, starts := p.starts ++ [p.now] }
  | .invoking => { p with reloadThread := .intervalWait (p.now + p.invocationInterval) }
  | .intervalWait deadline => p.afterWait deadline
  | .exited => p

def step (p : PeriodicFunction) : PeriodicEvent → PeriodicFunction
  | .tick => { p with now := p.now + 1 }
  | .notify => { p with exitNotification := true }
  | .reload => p.reload

@[simp] theorem step_tick (p : PeriodicFunction) : p.step .tick = { p with now := p.now + 1 } := rfl

@[simp] theorem step_notify (p : PeriodicFunction) :
    p.step .notify = { p with exitNotification := true } := rfl

@[simp] theorem step_reload (p : PeriodicFunction) : p.step .reload = p.reload := rfl

def run (p : PeriodicFunction) (events : List PeriodicEvent) : PeriodicFunction :=
  events.foldl step p

@[simp] theorem run_nil (p : PeriodicFunction) : p.run [] = p := rfl

@[simp] theorem run_cons (p : PeriodicFunction) (e : PeriodicEvent) (events : List PeriodicEvent) :
    p.run (e :: events) = (p.step e).run events := rfl

/-! ## What a step changes -/

variable (p : PeriodicFunction)

/-- A wait ends the thread, or times out once its deadline has passed, or blocks. -/
theorem afterWait_cases (deadline : Nat) :
    p.afterWait deadline = { p with reloadThread := .exited } ∨
      (deadline ≤ p.now ∧ p.afterWait deadline = { p with reloadThread := .timedOut }) ∨
      p.afterWait deadline = p := by
  unfold afterWait waitForNotificationWithTimeout
  by_cases hn : p.exitNotification = true
  · simp [hn]
  · by_cases hd : deadline ≤ p.now <;> simp [hn, hd]

theorem afterWait_of_notified (h : p.exitNotification = true) (deadline : Nat) :
    p.afterWait deadline = { p with reloadThread := .exited } := by
  simp [afterWait, waitForNotificationWithTimeout, h]

/-- A wait changes the thread and the calls, and nothing else. -/
theorem afterWait_frame (deadline : Nat) :
    (p.afterWait deadline).firstInvocationDelay = p.firstInvocationDelay ∧
      (p.afterWait deadline).invocationInterval = p.invocationInterval ∧
      (p.afterWait deadline).now = p.now ∧
      (p.afterWait deadline).exitNotification = p.exitNotification := by
  rcases afterWait_cases p deadline with h | ⟨-, h⟩ | h <;> rw [h] <;> exact ⟨rfl, rfl, rfl, rfl⟩

/-- A step of the thread changes the thread and the calls, and nothing else. -/
theorem reload_frame :
    p.reload.firstInvocationDelay = p.firstInvocationDelay ∧
      p.reload.invocationInterval = p.invocationInterval ∧
      p.reload.now = p.now ∧ p.reload.exitNotification = p.exitNotification := by
  unfold reload
  split
  · exact ⟨rfl, rfl, rfl, rfl⟩
  · exact afterWait_frame p _
  · exact ⟨rfl, rfl, rfl, rfl⟩
  · exact ⟨rfl, rfl, rfl, rfl⟩
  · exact afterWait_frame p _
  · exact ⟨rfl, rfl, rfl, rfl⟩

/-- No event changes the delays. -/
theorem step_delays (e : PeriodicEvent) :
    (p.step e).firstInvocationDelay = p.firstInvocationDelay ∧
      (p.step e).invocationInterval = p.invocationInterval := by
  cases e
  · exact ⟨rfl, rfl⟩
  · exact ⟨rfl, rfl⟩
  · exact ⟨(reload_frame p).1, (reload_frame p).2.1⟩

theorem run_delays (events : List PeriodicEvent) :
    (p.run events).firstInvocationDelay = p.firstInvocationDelay ∧
      (p.run events).invocationInterval = p.invocationInterval := by
  induction events generalizing p with
  | nil => exact ⟨rfl, rfl⟩
  | cons e events ih =>
    rw [run_cons, (ih (p.step e)).1, (ih (p.step e)).2]
    exact step_delays p e

end PeriodicFunction

/-! ## Spacing of the calls -/

section Spacing

variable (interval : Nat)

/-- Each start is no earlier than `earliest`, then each at least `interval` after the one
before. -/
def Spaced : Nat → List Nat → Prop
  | _, [] => True
  | earliest, t :: ts => earliest ≤ t ∧ Spaced (t + interval) ts

/-- The earliest time the next call may start. -/
def nextStart : Nat → List Nat → Nat
  | earliest, [] => earliest
  | _, t :: ts => nextStart (t + interval) ts

theorem spaced_append_singleton :
    ∀ {earliest : Nat} {starts : List Nat} {t : Nat}, Spaced interval earliest starts →
      nextStart interval earliest starts ≤ t → Spaced interval earliest (starts ++ [t])
  | _, [], _, _, ht => ⟨ht, trivial⟩
  | _, _ :: _, _, ⟨hle, hs⟩, ht => ⟨hle, spaced_append_singleton hs ht⟩

theorem nextStart_append_singleton :
    ∀ (earliest : Nat) (starts : List Nat) (t : Nat),
      nextStart interval earliest (starts ++ [t]) = t + interval
  | _, [], _ => rfl
  | _, _ :: starts, t => nextStart_append_singleton _ starts t

/-- Spaced calls all in the past number at most the time elapsed over the interval, counting the
first at `earliest`. -/
theorem length_mul_le_of_spaced {now : Nat} :
    ∀ {earliest : Nat} {starts : List Nat}, Spaced interval earliest starts →
      (∀ t ∈ starts, t ≤ now) → starts.length * interval ≤ now + interval - earliest
  | _, [], _, _ => by simp
  | _, t :: ts, ⟨hle, hs⟩, hpast => by
    have ih := length_mul_le_of_spaced hs fun t' ht' => hpast t' (List.mem_cons_of_mem _ ht')
    have ht := hpast t (List.mem_cons_self _ _)
    rw [List.length_cons, Nat.succ_mul]
    omega

end Spacing

namespace PeriodicFunction

variable (p : PeriodicFunction)

/-- Where the thread is bounds when the next call may start: its wait's deadline, or, before a wait,
the deadline the thread will set. -/
def NextAllowed (next : Nat) : Prop :=
  match p.reloadThread with
  | .starting => next ≤ p.now + p.firstInvocationDelay
  | .firstWait deadline => next ≤ deadline
  | .timedOut => next ≤ p.now
  | .invoking => next ≤ p.now + p.invocationInterval
  | .intervalWait deadline => next ≤ deadline
  | .exited => True

/-- The invariant of a run from a constructor called at `created`. -/
structure Good (created : Nat) : Prop where
  spaced : Spaced p.invocationInterval (created + p.firstInvocationDelay) p.starts
  past : ∀ t ∈ p.starts, t ≤ p.now
  next : p.NextAllowed (nextStart p.invocationInterval (created + p.firstInvocationDelay) p.starts)

variable {p} {created : Nat}

theorem good_create (firstInvocationDelay invocationInterval now : Nat) :
    (create firstInvocationDelay invocationInterval now).Good now :=
  ⟨trivial, nofun, Nat.le_refl _⟩

/-- A wait that may end here keeps the invariant: once it times out, the next call may start. -/
theorem Good.afterWait (h : p.Good created) {deadline : Nat}
    (hd : nextStart p.invocationInterval (created + p.firstInvocationDelay) p.starts ≤ deadline) :
    (p.afterWait deadline).Good created := by
  rcases afterWait_cases p deadline with hw | ⟨hnow, hw⟩ | hw <;> rw [hw]
  · exact ⟨h.spaced, h.past, trivial⟩
  · exact ⟨h.spaced, h.past, Nat.le_trans hd hnow⟩
  · exact h

/-- Entering `function_()` when the next call may start keeps the invariant. -/
theorem Good.invoke (h : p.Good created)
    (hn : nextStart p.invocationInterval (created + p.firstInvocationDelay) p.starts ≤ p.now) :
    ({ p with reloadThread := .invoking, starts := p.starts ++ [p.now] } : PeriodicFunction).Good
      created := by
  refine ⟨spaced_append_singleton _ h.spaced hn, fun t ht => ?_,
    Nat.le_of_eq (nextStart_append_singleton _ _ _ _)⟩
  rcases List.mem_append.mp ht with ht | ht
  · exact h.past t ht
  · exact Nat.le_of_eq (List.mem_singleton.mp ht)

theorem Good.step (h : p.Good created) (e : PeriodicEvent) : (p.step e).Good created := by
  cases e with
  | tick =>
    refine ⟨h.spaced, fun t ht => Nat.le_succ_of_le (h.past t ht), ?_⟩
    have hn := h.next
    rcases hr : p.reloadThread <;>
      simp only [NextAllowed, PeriodicFunction.step, hr] at hn ⊢ <;> omega
  | notify => exact ⟨h.spaced, h.past, h.next⟩
  | reload =>
    have hn := h.next
    unfold NextAllowed at hn
    rw [step_reload]
    unfold reload
    split
    · next hs => rw [hs] at hn; exact ⟨h.spaced, h.past, hn⟩
    · next hs => rw [hs] at hn; exact h.afterWait hn
    · next hs => rw [hs] at hn; exact h.invoke hn
    · next hs => rw [hs] at hn; exact ⟨h.spaced, h.past, hn⟩
    · next hs => rw [hs] at hn; exact h.afterWait hn
    · exact h

theorem Good.run (h : p.Good created) (events : List PeriodicEvent) : (p.run events).Good created := by
  induction events generalizing p with
  | nil => exact h
  | cons e events ih => exact ih (h.step e)

/-- Over every run from the constructor, the calls of the function start no earlier than the first
delay, each at least an interval after the one before, and none in the future; so there are at
most as many as intervals fit in the time elapsed past the first delay, plus one. -/
theorem calls_of_run (firstInvocationDelay invocationInterval created : Nat)
    (events : List PeriodicEvent) :
    Spaced invocationInterval (created + firstInvocationDelay)
        ((create firstInvocationDelay invocationInterval created).run events).starts ∧
      (∀ t ∈ ((create firstInvocationDelay invocationInterval created).run events).starts,
        t ≤ ((create firstInvocationDelay invocationInterval created).run events).now) ∧
      ((create firstInvocationDelay invocationInterval created).run events).starts.length *
          invocationInterval ≤
        ((create firstInvocationDelay invocationInterval created).run events).now +
          invocationInterval - (created + firstInvocationDelay) := by
  have h := (good_create firstInvocationDelay invocationInterval created).run events
  obtain ⟨hd, hi⟩ := run_delays (create firstInvocationDelay invocationInterval created) events
  have hspaced := h.spaced
  rw [hd, hi] at hspaced
  exact ⟨hspaced, h.past, length_mul_le_of_spaced _ hspaced h.past⟩

/-- With a first delay of 2 and an interval of 3, the thread's first call starts at time 2. -/
example : ((create 2 3 0).run [.reload, .tick, .tick, .reload, .reload]).starts = [2] := rfl

end PeriodicFunction

/-! ## The destructor -/

/-- The steps the thread takes to return once notified: from its start or from a call it first
reaches a wait, and after a timed-out wait it first makes its call. -/
def ReloadThread.stepsToExit : ReloadThread → Nat
  | .timedOut => 3
  | .starting | .invoking => 2
  | .firstWait _ | .intervalWait _ => 1
  | .exited => 0

/-- The calls the thread still starts once notified: the one after a timed-out wait. -/
def ReloadThread.callsToStart : ReloadThread → Nat
  | .timedOut => 1
  | _ => 0

theorem ReloadThread.stepsToExit_le_three (t : ReloadThread) : t.stepsToExit ≤ 3 := by
  cases t <;> simp [ReloadThread.stepsToExit]

theorem ReloadThread.stepsToExit_eq_zero {t : ReloadThread} : t.stepsToExit = 0 ↔ t = .exited := by
  cases t <;> simp [ReloadThread.stepsToExit]

theorem ReloadThread.callsToStart_le_one (t : ReloadThread) : t.callsToStart ≤ 1 := by
  cases t <;> simp [ReloadThread.callsToStart]

theorem ReloadThread.callsToStart_eq_zero {t : ReloadThread} (h : t ≠ .timedOut) :
    t.callsToStart = 0 := by
  cases t <;> simp_all [ReloadThread.callsToStart]

namespace PeriodicFunction

variable (p : PeriodicFunction)

/-- Once notified, a step starts only the call that a timed-out wait leads to, and a step of the
thread brings it one step nearer to returning. -/
theorem step_of_notified (h : p.exitNotification = true) (e : PeriodicEvent) :
    (p.step e).exitNotification = true ∧
      (∃ late, (p.step e).starts = p.starts ++ late ∧
        late.length + (p.step e).reloadThread.callsToStart = p.reloadThread.callsToStart) ∧
      (p.step e).reloadThread.stepsToExit ≤
        p.reloadThread.stepsToExit - if e = .reload then 1 else 0 := by
  cases e with
  | tick => exact ⟨h, ⟨[], by simp, by simp⟩, by simp⟩
  | notify => exact ⟨rfl, ⟨[], by simp, by simp⟩, by simp⟩
  | reload =>
    rw [step_reload]
    unfold reload
    split <;> simp [afterWait_of_notified p h, ReloadThread.stepsToExit, ReloadThread.callsToStart, *]

theorem run_of_notified (h : p.exitNotification = true) (events : List PeriodicEvent) :
    (∃ late, (p.run events).starts = p.starts ++ late ∧
        late.length + (p.run events).reloadThread.callsToStart = p.reloadThread.callsToStart) ∧
      (p.run events).reloadThread.stepsToExit ≤
        p.reloadThread.stepsToExit - events.count .reload := by
  induction events generalizing p with
  | nil => exact ⟨⟨[], by simp, by simp⟩, by simp⟩
  | cons e events ih =>
    obtain ⟨hn, ⟨late, hs, hc⟩, hx⟩ := step_of_notified p h e
    obtain ⟨⟨late', hs', hc'⟩, hx'⟩ := ih (p.step e) hn
    rw [run_cons, hs', hs, List.count_cons]
    refine ⟨⟨late ++ late', by simp, by simp only [List.length_append]; omega⟩, ?_⟩
    generalize ((p.step e).run events).reloadThread.stepsToExit = a at hx' ⊢
    generalize (p.step e).reloadThread.stepsToExit = b at hx hx'
    cases e <;> simp at hx ⊢ <;> omega

/-- Once the destructor has notified, from any state: at most one more call of the function starts,
and only when a wait had already timed out without the thread entering the function yet; after
three steps of the reload thread, whatever ticks come between them, the thread has returned, so the
destructor's `join` returns without waiting for a deadline. -/
theorem destructor_joins (events : List PeriodicEvent) :
    (∃ late, ((p.step .notify).run events).starts = p.starts ++ late ∧ late.length ≤ 1 ∧
        (p.reloadThread ≠ .timedOut → late = [])) ∧
      (3 ≤ events.count .reload → ((p.step .notify).run events).reloadThread = .exited) := by
  obtain ⟨⟨late, hs, hc⟩, hx⟩ := run_of_notified (p.step .notify) rfl events
  have hcalls := p.reloadThread.callsToStart_le_one
  change _ = p.starts ++ late at hs
  change _ = p.reloadThread.callsToStart at hc
  refine ⟨⟨late, hs, by omega, fun ht => List.eq_nil_of_length_eq_zero ?_⟩,
    fun hr => ReloadThread.stepsToExit_eq_zero.mp ?_⟩
  · rw [ReloadThread.callsToStart_eq_zero ht] at hc
    omega
  · have := p.reloadThread.stepsToExit_le_three
    change _ ≤ p.reloadThread.stepsToExit - _ at hx
    omega

/-- The race: the destructor notifies after the first wait has timed out, and the thread still
calls the function. -/
example : ((create 0 3 0).run [.reload, .reload, .notify, .reload]).starts = [0] := rfl

end PeriodicFunction

end Aviary
