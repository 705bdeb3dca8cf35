import Mathlib
import PathWatch.Proofs.Queue.Holding
/-!
# The waiting hall of a service

A consumer who finds the queue of a service empty parks, and looks again when it is woken. Somebody
who has put an entry into the queue wakes one consumer some time later; somebody who has shut the
service wakes all of them some time later; and consumers wake by themselves, because their time is
up or for no reason at all. A hall is a run together with who is waiting and who has yet to be
woken.
-/

namespace PathWatch

variable {R C : Type}

/-! ## Calls that wait -/

/-- A call that waits for a subscription. -/
inductive Call where
  | take
  | pollTimeout (endless : Bool)
  deriving DecidableEq, Repr

namespace Call

/-- Whether the time of a call can be up. -/
def hasDeadline : Call → Bool
  | .take => false
  | .pollTimeout endless => !endless

/-- What a call does each time it looks at the queue. A call that is late does not wait again. -/
def action (c : Call) (k : ServiceRef) (late : Bool) : Action R C :=
  match c with
  | .take => .take k
  | .pollTimeout _ => .pollTimeout k (!late)

/-- Whether a call that looks at the queue has to wait. -/
def Waits (c : Call) (h : Hub R C) (k : ServiceRef) (late : Bool) : Prop :=
  match c with
  | .take => (h.take k).value = .waits
  | .pollTimeout _ => (h.pollTimeout k (!late)).value = .waits

/-- Nobody waits on a service that is not open, or whose queue has an entry. -/
theorem Waits.queue_eq_nil {c : Call} {h : Hub R C} {k : ServiceRef} {late : Bool}
    (hc : c.Waits h k late) : h.isOpen k = true ∧ h.queue k = [] := by
  have hpoll : (h.poll k).value = .ok none := by
    rcases hvalue : (h.poll k).value with e | found
    · cases c <;> simp [Waits, Hub.take, Hub.pollTimeout, hvalue] at hc
    · rcases found with _ | s
      · rfl
      · cases c <;> simp [Waits, Hub.take, Hub.pollTimeout, hvalue] at hc
  unfold Hub.poll at hpoll
  unfold Hub.isOpen Hub.queue
  rcases hv : h.service? k with _ | v
  · simp [hv] at hpoll
  · rcases hopen : v.isOpen with _ | _
    · simp [hv, hopen] at hpoll
    · rcases hq : v.queue with _ | ⟨s, rest⟩
      · simp [hopen, hq]
      · simp [hv, hopen, hq] at hpoll

/-- Who takes from an open service with an empty queue has to wait. -/
theorem waits_take {h : Hub R C} {k : ServiceRef} (hopen : h.isOpen k = true)
    (hqueue : h.queue k = []) (late : Bool) : Call.take.Waits h k late := by
  obtain ⟨v, hv, hv'⟩ := Hub.service?_of_isOpen hopen
  rw [Hub.queue_of_service? hv] at hqueue
  simp [Waits, Hub.take, Hub.poll, hv, hv', hqueue]

/-- A call takes the head of the queue of an open service, late or not. -/
theorem retrieves_action (c : Call) (h : Hub R C) (k : ServiceRef) (late : Bool) :
    (c.action k late : Action R C).retrieves h k =
      if h.isOpen k = true then (h.queue k).head? else none := by
  have hpoll := Action.retrieves_poll h k k
  simp only [true_and] at hpoll
  cases c with
  | take => exact (Action.retrieves_take h k k).trans hpoll
  | pollTimeout endless => exact (Action.retrieves_pollTimeout h k k _).trans hpoll

theorem apply_action [BEq C] (c : Call) (h : Hub R C) (k : ServiceRef) (late : Bool) :
    (c.action k late : Action R C).apply h = (h.poll k).hub := by
  cases c with
  | take => exact Hub.take_hub h k
  | pollTimeout endless => exact Hub.pollTimeout_hub h k _

end Call

/-! ## Halls -/

/-- Whether a waiting consumer sleeps, or has been woken and has yet to look at the queue. -/
inductive Pause where
  | parked
  /-- Woken, because its time is up (`late`) or not. -/
  | woken (late : Bool)
  deriving DecidableEq, Repr

/-- A consumer in the middle of a call that waits. -/
structure Waiter where
  thread : Thread
  call : Call
  pause : Pause
  deriving DecidableEq, Repr

/-- Everybody who sleeps is woken. -/
def Waiter.rouse (w : Waiter) : Waiter :=
  match w.pause with
  | .parked => { w with pause := .woken false }
  | .woken _ => w

@[simp] theorem Waiter.rouse_thread (w : Waiter) : w.rouse.thread = w.thread := by
  rcases w with ⟨t, c, _ | late⟩ <;> rfl

@[simp] theorem Waiter.rouse_call (w : Waiter) : w.rouse.call = w.call := by
  rcases w with ⟨t, c, _ | late⟩ <;> rfl

/-- A run, seen from a service. Threads that are not among the waiters are running. -/
structure Hall (R C : Type) where
  deeds : Chronicle R C := []
  waiters : List Waiter := []
  /-- The number of entries that were put into the queue by somebody who has yet to wake one
  consumer. -/
  notices : Nat := 0
  /-- The number of calls that have shut the service and have yet to wake all consumers. -/
  broadcasts : Nat := 0

/-- Whether an action is none of the calls on the service `k` that a hall takes apart. -/
def Action.IsPlain (k : ServiceRef) : Action R C → Prop
  | .take k' | .pollTimeout k' _ | .shut k' | .close k' => k' ≠ k
  | _ => True

namespace Hall

/-- The waiters who sleep. -/
def parked (σ : Hall R C) : List Waiter :=
  σ.waiters.filter fun w => w.pause = .parked

/-- The waiters who have been woken and have yet to look at the queue. -/
def woken (σ : Hall R C) : List Waiter :=
  σ.waiters.filter fun w => w.pause ≠ .parked

/-- The threads that wait. -/
def absent (σ : Hall R C) : List Thread :=
  σ.waiters.map Waiter.thread

variable [BEq C]

/-- The hub at the end of a run. -/
def hub (σ : Hall R C) : Hub R C :=
  σ.deeds.hub

/-- What happens in the hall of the service `k`, where a running thread `t` may do `a` if `may t a`.
Whoever waits looks at the queue again once it is woken. -/
inductive Step (k : ServiceRef) (may : Thread → Action R C → Prop) :
    Hall R C → Hall R C → Prop where
  /-- A running thread does something, and owes a notification if that put an entry into the
  queue. -/
  | act {σ : Hall R C} (t : Thread) (a : Action R C) (hmay : may t a) (hfree : t ∉ σ.absent)
      (ha : a.IsPlain k) :
      Step k may σ
        { σ with
          deeds := ⟨t, a⟩ :: σ.deeds
          notices := σ.notices + (a.appends σ.hub k).length }
  /-- A call returns at once. -/
  | pass {σ : Hall R C} (t : Thread) (c : Call) (hmay : may t (c.action k false))
      (hfree : t ∉ σ.absent) (hc : ¬ c.Waits σ.hub k false) :
      Step k may σ { σ with deeds := ⟨t, c.action k false⟩ :: σ.deeds }
  /-- A call finds nothing and parks. -/
  | park {σ : Hall R C} (t : Thread) (c : Call) (hmay : may t (c.action k false))
      (hfree : t ∉ σ.absent) (hc : c.Waits σ.hub k false) :
      Step k may σ { σ with waiters := ⟨t, c, .parked⟩ :: σ.waiters }
  /-- A call that was woken returns. -/
  | leave {σ : Hall R C} (l r : List Waiter) (t : Thread) (c : Call) (late : Bool)
      (hw : σ.waiters = l ++ ⟨t, c, .woken late⟩ :: r) (hc : ¬ c.Waits σ.hub k late) :
      Step k may σ
        { σ with deeds := ⟨t, c.action k late⟩ :: σ.deeds, waiters := l ++ r }
  /-- A call that was woken finds nothing and parks again. -/
  | repark {σ : Hall R C} (l r : List Waiter) (t : Thread) (c : Call) (late : Bool)
      (hw : σ.waiters = l ++ ⟨t, c, .woken late⟩ :: r) (hc : c.Waits σ.hub k late) :
      Step k may σ { σ with waiters := l ++ ⟨t, c, .parked⟩ :: r }
  /-- Somebody who owes a notification wakes one of those who sleep. -/
  | notify {σ : Hall R C} (l r : List Waiter) (t : Thread) (c : Call) (n : Nat)
      (hn : σ.notices = n + 1) (hw : σ.waiters = l ++ ⟨t, c, .parked⟩ :: r) :
      Step k may σ { σ with waiters := l ++ ⟨t, c, .woken false⟩ :: r, notices := n }
  /-- Somebody who owes a notification finds nobody asleep. -/
  | notifyNobody {σ : Hall R C} (n : Nat) (hn : σ.notices = n + 1) (hw : σ.parked = []) :
      Step k may σ { σ with notices := n }
  /-- A consumer wakes for no reason. -/
  | stir {σ : Hall R C} (l r : List Waiter) (t : Thread) (c : Call)
      (hw : σ.waiters = l ++ ⟨t, c, .parked⟩ :: r) :
      Step k may σ { σ with waiters := l ++ ⟨t, c, .woken false⟩ :: r }
  /-- The time of a consumer is up, whether it sleeps or has just been woken. -/
  | expire {σ : Hall R C} (l r : List Waiter) (t : Thread) (c : Call) (p : Pause)
      (hw : σ.waiters = l ++ ⟨t, c, p⟩ :: r) (hc : c.hasDeadline = true) :
      Step k may σ { σ with waiters := l ++ ⟨t, c, .woken true⟩ :: r }
  /-- A call closes the service, and owes a broadcast unless it was closed before. What it cancels
  afterwards are deeds like others. -/
  | shut {σ : Hall R C} (t : Thread) (hmay : may t (.shut k)) (hfree : t ∉ σ.absent) :
      Step k may σ
        { σ with
          deeds := ⟨t, .shut k⟩ :: σ.deeds
          broadcasts := σ.broadcasts + (σ.hub.shut k).1.toNat }
  /-- Somebody who owes a broadcast wakes everybody. -/
  | broadcast {σ : Hall R C} (n : Nat) (hn : σ.broadcasts = n + 1) :
      Step k may σ { σ with waiters := σ.waiters.map Waiter.rouse, broadcasts := n }

/-- What can be reached from an empty hub. -/
inductive Reachable (k : ServiceRef) (may : Thread → Action R C → Prop) : Hall R C → Prop where
  | start : Reachable k may {}
  | step {σ τ : Hall R C} (hσ : Reachable k may σ) (hstep : Step k may σ τ) : Reachable k may τ

/-- Any thread may do anything. -/
def Anything (_ : Thread) (_ : Action R C) : Prop := True

variable {k : ServiceRef} {may may' : Thread → Action R C → Prop} {σ τ : Hall R C}

/-- Who may do more can do the same. -/
theorem Step.mono (hmay : ∀ t a, may t a → may' t a) (hstep : Step k may σ τ) :
    Step k may' σ τ := by
  cases hstep with
  | act t a h hfree ha => exact .act t a (hmay _ _ h) hfree ha
  | pass t c h hfree hc => exact .pass t c (hmay _ _ h) hfree hc
  | park t c h hfree hc => exact .park t c (hmay _ _ h) hfree hc
  | leave l r t c late hw hc => exact .leave l r t c late hw hc
  | repark l r t c late hw hc => exact .repark l r t c late hw hc
  | notify l r t c n hn hw => exact .notify l r t c n hn hw
  | notifyNobody n hn hw => exact .notifyNobody n hn hw
  | stir l r t c hw => exact .stir l r t c hw
  | expire l r t c p hw hc => exact .expire l r t c p hw hc
  | shut t h hfree => exact .shut t (hmay _ _ h) hfree
  | broadcast n hn => exact .broadcast n hn

theorem Reachable.mono (hmay : ∀ t a, may t a → may' t a) (hσ : Reachable k may σ) :
    Reachable k may' σ := by
  induction hσ with
  | start => exact .start
  | step hσ hstep ih => exact .step ih (hstep.mono hmay)

/-- What can be reached from what can be reached can be reached. -/
theorem Reachable.trans (hσ : Reachable k may σ)
    (hsteps : Relation.ReflTransGen (Step k may) σ τ) : Reachable k may τ := by
  induction hsteps with
  | refl => exact hσ
  | tail _ hstep ih => exact .step ih hstep

/-! ## Threads -/

/-- Nobody waits twice. -/
theorem Step.nodup_absent (hstep : Step k may σ τ) (hσ : σ.absent.Nodup) : τ.absent.Nodup := by
  cases hstep with
  | park t c hmay hfree hc => exact List.nodup_cons.mpr ⟨hfree, hσ⟩
  | leave l r t c late hw hc =>
    refine hσ.sublist ?_
    rw [absent, absent, hw]
    exact ((List.sublist_cons_self _ r).append_left l).map Waiter.thread
  | repark l r t c late hw hc => simpa [absent, hw] using hσ
  | notify l r t c n hn hw => simpa [absent, hw] using hσ
  | stir l r t c hw => simpa [absent, hw] using hσ
  | expire l r t c p hw hc => simpa [absent, hw] using hσ
  | broadcast n hn => simpa [absent, Function.comp_def] using hσ
  | _ => exact hσ

theorem Reachable.nodup_absent (hσ : Reachable k may σ) : σ.absent.Nodup := by
  induction hσ with
  | start => exact List.nodup_nil
  | step hσ hstep ih => exact hstep.nodup_absent ih

end Hall

end PathWatch
