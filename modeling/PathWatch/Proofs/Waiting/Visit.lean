import Mathlib
import PathWatch.Proofs.Waiting.Hall
/-!
# Calls that wait, section by section

A call that waits takes the lock of the service several times. Under the lock it finds the service
closed, or takes the first entry of the queue, or finds nothing; then it lets go of the lock and
sleeps until it is woken. Behind a wait whose time is up it looks once more and does not wait again.
While it sleeps, and while it waits for the lock, others do whatever they like.

A visit follows one such call. Whatever happens on the way, the call comes back with what a single
poll at its last section comes back with, and does to the hub what that poll does.
-/

namespace PathWatch

variable {R C : Type}

/-! ## Retrievals -/

/-- A call that asks for a subscription and is ready to wait for it, for good or for some time. -/
inductive Retrieval where
  | take
  | pollTimeout (time : Nat)
  deriving DecidableEq, Repr

/-- Where a call stands in its code when it takes the lock. -/
inductive Stage where
  /-- It looks, and waits for good if it finds nothing. -/
  | taking
  /-- It looks, and waits for its deadline if it finds nothing. -/
  | polling (deadline : Nat)
  /-- Its deadline has passed while it waited. It looks for the last time. -/
  | expired (deadline : Nat)
  deriving DecidableEq, Repr

/-- Where a call begins that is made at the time `now`. A time that leads beyond the last moment
that the clock can tell is no limit. -/
def Retrieval.stage (r : Retrieval) (last now : Nat) : Stage :=
  match r with
  | .take => .taking
  | .pollTimeout time => if now + time ≤ last then .polling (now + time) else .taking

/-! ## Sections -/

namespace Hub

/-- Takes the first entry out of the queue of a service and clears its flag. -/
def pop (h : Hub R C) (k : ServiceRef) : Option SubscriptionRef × Hub R C :=
  match h.queue k with
  | [] => (none, h)
  | s :: rest =>
    (some s, (h.modifyService k fun v => { v with queue := rest }).modifySubscription s
      fun sub => { sub with queued := false })

theorem pop_of_queue_eq_nil {h : Hub R C} {k : ServiceRef} (hqueue : h.queue k = []) :
    h.pop k = (none, h) := by
  rw [pop, hqueue]

/-- A poll is a pop from an open service. -/
theorem poll_eq_pop (h : Hub R C) (k : ServiceRef) :
    (h.poll k).value = (if h.isOpen k then .ok (h.pop k).1 else .error .closed) ∧
      (h.poll k).hub = if h.isOpen k then (h.pop k).2 else h := by
  unfold poll isOpen pop queue
  rcases h.service? k with _ | v
  · simp
  · rcases hopen : v.isOpen with _ | _
    · simp [hopen]
    · rcases hqueue : v.queue with _ | ⟨s, rest⟩ <;> simp [hopen, hqueue]

theorem poll_value_eq_none_iff {h : Hub R C} {k : ServiceRef} :
    (h.poll k).value = .ok none ↔ h.isOpen k = true ∧ h.queue k = [] := by
  rw [(h.poll_eq_pop k).1, pop]
  rcases h.isOpen k with _ | _
  · simp
  · rcases h.queue k with _ | ⟨s, rest⟩ <;> simp

/-- A poll of a service that is closed, or whose queue has an entry, does not come back without
anything. -/
theorem poll_value_of_ready {h : Hub R C} {k : ServiceRef}
    (hready : h.isOpen k = false ∨ h.queue k ≠ []) : (h.poll k).value ≠ .ok none := by
  intro hnone
  obtain ⟨hopen, hqueue⟩ := poll_value_eq_none_iff.mp hnone
  rcases hready with hclosed | hsome
  · simp [hopen] at hclosed
  · exact hsome hqueue

/-- A poll fails exactly if the service is not open. -/
theorem poll_value_eq_closed_iff {h : Hub R C} {k : ServiceRef} :
    (h.poll k).value = .error .closed ↔ h.isOpen k = false := by
  rw [(h.poll_eq_pop k).1]
  rcases h.isOpen k with _ | _ <;> simp

end Hub

/-- What a call does while it has the lock. -/
def Stage.look (g : Stage) (h : Hub R C) (k : ServiceRef) :
    Outcome R C (Waiting (Except WatchError (Option SubscriptionRef))) :=
  if !h.isOpen k then { value := .returns (.error .closed), hub := h }
  else
    let popped := h.pop k
    match g with
    | .taking | .polling _ =>
      match popped.1 with
      | some s => { value := .returns (.ok (some s)), hub := popped.2 }
      | none => { value := .waits, hub := popped.2 }
    | .expired _ => { value := .returns (.ok popped.1), hub := popped.2 }

namespace Stage

variable {g : Stage} {h : Hub R C} {k : ServiceRef}

/-- Whether the call has waited until its deadline. -/
def IsExpired : Stage → Prop
  | .expired _ => True
  | _ => False

/-- What a section does to the hub, a poll does. -/
theorem look_hub (g : Stage) (h : Hub R C) (k : ServiceRef) :
    (g.look h k).hub = (h.poll k).hub := by
  rw [(h.poll_eq_pop k).2, look]
  rcases h.isOpen k with _ | _
  · rfl
  · cases g with
    | expired deadline => rfl
    | _ =>
      simp only [Bool.not_true, Bool.false_eq_true, if_false, if_true]
      split <;> rfl

/-- A section that returns comes to what a poll comes to. -/
theorem poll_value_of_returns {x : Except WatchError (Option SubscriptionRef)}
    (hx : (g.look h k).value = .returns x) : (h.poll k).value = x := by
  rw [(h.poll_eq_pop k).1]
  rw [look] at hx
  rcases hopen : h.isOpen k with _ | _
  · simpa [hopen] using hx
  · cases g with
    | expired deadline => simpa [hopen] using hx
    | _ =>
      rcases hpop : (h.pop k).1 with _ | s
      · simp [hopen, hpop] at hx
      · simpa [hopen, hpop] using hx

/-- A section waits exactly if there is nothing to be had from an open service, and there is still
time. -/
theorem look_value_eq_waits_iff :
    (g.look h k).value = .waits ↔ h.isOpen k = true ∧ h.queue k = [] ∧ ¬ g.IsExpired := by
  rw [look, Hub.pop]
  rcases hopen : h.isOpen k with _ | _
  · simp
  · cases g <;> rcases hqueue : h.queue k with _ | ⟨s, rest⟩ <;> simp [IsExpired]

/-- A section that waits changes nothing. -/
theorem look_hub_of_waits (hwaits : (g.look h k).value = .waits) : (g.look h k).hub = h := by
  obtain ⟨hopen, hqueue, -⟩ := look_value_eq_waits_iff.mp hwaits
  rw [look_hub, (h.poll_eq_pop k).2, if_pos hopen, Hub.pop_of_queue_eq_nil hqueue]

/-- A section that finds the service closed, or an entry in the queue, returns. -/
theorem look_value_of_ready (g : Stage) (hready : h.isOpen k = false ∨ h.queue k ≠ []) :
    (g.look h k).value = .returns (h.poll k).value := by
  rcases hvalue : (g.look h k).value with x | _
  · rw [poll_value_of_returns hvalue]
  · obtain ⟨hopen, hqueue, -⟩ := look_value_eq_waits_iff.mp hvalue
    exact absurd (Hub.poll_value_eq_none_iff.mpr ⟨hopen, hqueue⟩) (Hub.poll_value_of_ready hready)

/-- The sections of a call are those in which a waiting hall lets it look at the queue: they wait in
the same states of the hub, and do the same. -/
theorem look_agrees_with_call {c : Call} {late : Bool}
    (hg : g.IsExpired ↔ c.hasDeadline = true ∧ late = true)
    (hlate : late = true → c.hasDeadline = true) [BEq C] :
    ((g.look h k).value = .waits ↔ c.Waits h k late) ∧
      (g.look h k).hub = (c.action k late : Action R C).apply h := by
  refine ⟨?_, (look_hub g h k).trans (c.apply_action h k late).symm⟩
  rw [look_value_eq_waits_iff, hg]
  constructor
  · rintro ⟨hopen, hqueue, hearly⟩
    have hpoll := Hub.poll_value_eq_none_iff.mpr ⟨hopen, hqueue⟩
    cases c with
    | take => exact Call.waits_take hopen hqueue late
    | pollTimeout endless =>
      have hnotlate : late = false := by
        rcases late with _ | _
        · rfl
        · exact absurd ⟨hlate rfl, rfl⟩ hearly
      simp [Call.Waits, Hub.pollTimeout, hpoll, hnotlate]
  · intro hwaits
    obtain ⟨hopen, hqueue⟩ := hwaits.queue_eq_nil
    refine ⟨hopen, hqueue, ?_⟩
    rintro ⟨hdeadline, rfl⟩
    cases c with
    | take => cases hdeadline
    | pollTimeout endless =>
      simp only [Call.Waits, Hub.pollTimeout, Bool.not_true] at hwaits
      split at hwaits <;> simp at hwaits

end Stage

/-! ## Calls that need not wait -/

namespace Hub

variable {h : Hub R C} {k : ServiceRef}

/-- A call that waits for good returns at once what a poll returns, if the service is closed or
there is something to be had. -/
theorem take_of_ready (hready : h.isOpen k = false ∨ h.queue k ≠ []) :
    ∃ x : Except WatchError SubscriptionRef, (h.poll k).value = x.map some ∧
      (h.take k).value = .returns x ∧ (h.take k).hub = (h.poll k).hub := by
  rcases hvalue : (h.poll k).value with e | _ | s
  · exact ⟨.error e, rfl, by simp [take, hvalue], h.take_hub k⟩
  · exact absurd hvalue (poll_value_of_ready hready)
  · exact ⟨.ok s, rfl, by simp [take, hvalue], h.take_hub k⟩

/-- And so does a call that waits for some time. -/
theorem pollTimeout_of_ready (hready : h.isOpen k = false ∨ h.queue k ≠ []) (endless : Bool) :
    (h.pollTimeout k endless).value = .returns (h.poll k).value ∧
      (h.pollTimeout k endless).hub = (h.poll k).hub := by
  refine ⟨?_, h.pollTimeout_hub k endless⟩
  rcases hvalue : (h.poll k).value with e | _ | s
  · simp [pollTimeout, hvalue]
  · exact absurd hvalue (poll_value_of_ready hready)
  · simp [pollTimeout, hvalue]

end Hub

/-! ## Visits -/

/-- A call on its way, and the world around it. -/
structure Visit (R C : Type) where
  stage : Stage
  /-- Whether it sleeps. -/
  asleep : Bool := false
  now : Nat
  hub : Hub R C
  /-- The hub before and behind each section so far, the last section first. -/
  sections : List (Hub R C × Hub R C) := []
  /-- What others have done since the call was made, the last action first. -/
  others : History R C := []

namespace Visit

/-- The call is made at the time `now`, on a clock that tells the time up to `last`. -/
def start (r : Retrieval) (last now : Nat) (h : Hub R C) : Visit R C where
  stage := r.stage last now
  now
  hub := h

variable [BEq C]

/-- What happens during a call on the service `k`. -/
inductive Step (k : ServiceRef) : Visit R C → Visit R C → Prop where
  /-- Somebody else does something. -/
  | other {v : Visit R C} (a : Action R C) :
      Step k v { v with hub := a.apply v.hub, others := a :: v.others }
  /-- Time passes. -/
  | pass {v : Visit R C} (now : Nat) (hnow : v.now ≤ now) : Step k v { v with now }
  /-- The call looks, finds nothing and falls asleep. -/
  | sleep {v : Visit R C} (hawake : v.asleep = false)
      (hwaits : (v.stage.look v.hub k).value = .waits) :
      Step k v
        { v with
          asleep := true
          hub := (v.stage.look v.hub k).hub
          sections := (v.hub, (v.stage.look v.hub k).hub) :: v.sections }
  /-- The call is woken, by a notification or for no reason. -/
  | wake {v : Visit R C} (hasleep : v.asleep = true) : Step k v { v with asleep := false }
  /-- The call is woken because its time is up. -/
  | expire {v : Visit R C} (hasleep : v.asleep = true) {deadline : Nat}
      (hstage : v.stage = .polling deadline) (hlate : deadline ≤ v.now) :
      Step k v { v with asleep := false, stage := .expired deadline }

/-- What can happen from the moment on at which the call `r` is made. -/
def Reaches (k : ServiceRef) : Visit R C → Visit R C → Prop :=
  Relation.ReflTransGen (Step k)

/-- The call comes back with `x`: it is awake, and the section that it is about to enter is its
last. -/
def Returns (v : Visit R C) (k : ServiceRef) (x : Except WatchError (Option SubscriptionRef)) :
    Prop :=
  v.asleep = false ∧ (v.stage.look v.hub k).value = .returns x

/-! ## What holds on the way -/

/-- What is known of a call on its way: what others have done is all that has been done, no section
has changed anything, and the stage is where the call began or behind its deadline. -/
structure Untouched (past : History R C) (r : Retrieval) (last start : Nat) (v : Visit R C) :
    Prop where
  hub_eq : v.hub = (v.others ++ past).hub
  sections_eq : ∀ p ∈ v.sections, p.2 = p.1
  stage_eq : v.stage = r.stage last start ∨
    ∃ deadline, r.stage last start = .polling deadline ∧ v.stage = .expired deadline ∧
      deadline ≤ v.now

variable {past : History R C} {k : ServiceRef} {r : Retrieval} {last now : Nat}
  {v w : Visit R C}

theorem Step.untouched (hstep : Step k v w) (hv : Untouched past r last now v) :
    Untouched past r last now w := by
  cases hstep with
  | other a =>
    refine ⟨?_, hv.sections_eq, hv.stage_eq⟩
    rw [hv.hub_eq]
    rfl
  | pass later hlater =>
    refine ⟨hv.hub_eq, hv.sections_eq, hv.stage_eq.imp_right ?_⟩
    rintro ⟨deadline, hbegan, hstage, hlate⟩
    exact ⟨deadline, hbegan, hstage, hlate.trans hlater⟩
  | sleep hawake hwaits =>
    have hsame := Stage.look_hub_of_waits hwaits
    refine ⟨hsame.trans hv.hub_eq, ?_, hv.stage_eq⟩
    exact List.forall_mem_cons.mpr ⟨hsame, hv.sections_eq⟩
  | wake hasleep => exact ⟨hv.hub_eq, hv.sections_eq, hv.stage_eq⟩
  | expire hasleep hstage hlate =>
    refine ⟨hv.hub_eq, hv.sections_eq, Or.inr ?_⟩
    -- Nobody waits behind the deadline, so the call is where it began.
    rcases hv.stage_eq with hbegan | ⟨deadline, -, hexpired, -⟩
    · exact ⟨_, hbegan.symm.trans hstage, rfl, hlate⟩
    · rw [hstage] at hexpired
      cases hexpired

theorem Reaches.untouched (hv : Reaches k (start r last now past.hub) v) :
    Untouched past r last now v := by
  induction hv with
  | refl => exact ⟨rfl, by simp [start], Or.inl rfl⟩
  | tail _ hstep ih => exact hstep.untouched ih

/-- Only a call with a time limit gets behind its deadline. -/
theorem Untouched.expired (hv : Untouched past r last now v) (hexpired : v.stage.IsExpired) :
    ∃ time, r = .pollTimeout time ∧ now + time ≤ last ∧ now + time ≤ v.now := by
  have hbegan : ¬ (r.stage last now).IsExpired := by
    cases r with
    | take => exact id
    | pollTimeout time =>
      rw [Retrieval.stage]
      split <;> exact id
  rcases hv.stage_eq with hstage | ⟨deadline, hstart, -, hlate⟩
  · rw [hstage] at hexpired
    exact absurd hexpired hbegan
  · cases r with
    | take => cases hstart
    | pollTimeout time =>
      rw [Retrieval.stage] at hstart
      split at hstart
      · rename_i hclock
        cases hstart
        exact ⟨time, rfl, hclock, hlate⟩
      · cases hstart

omit [BEq C] in
/-- Nothing is had at the last section only behind the deadline. -/
theorem Returns.isExpired (hx : v.Returns k (.ok none)) :
    v.stage.IsExpired ∧ v.hub.isOpen k = true ∧ v.hub.queue k = [] := by
  have hnone := Stage.poll_value_of_returns hx.2
  obtain ⟨hopen, hqueue⟩ := Hub.poll_value_eq_none_iff.mp hnone
  refine ⟨?_, hopen, hqueue⟩
  by_contra hearly
  have hwaits := Stage.look_value_eq_waits_iff.mpr ⟨hopen, hqueue, hearly⟩
  cases hwaits.symm.trans hx.2

/-- A service that was closed at some moment is still so when the call returns. -/
theorem Untouched.isOpen_eq_false (hv : Untouched past r last now v) {later earlier : History R C}
    (hsplit : v.others ++ past = later ++ earlier) (hk : k < earlier.hub.services.size)
    (hclosed : earlier.hub.isOpen k = false) : v.hub.isOpen k = false := by
  rw [hv.hub_eq, hsplit]
  exact earlier.isOpen_append hk hclosed later

/-! ## The result -/

/-- What is true of a call that was made behind `past`, at the time `start`, and now comes back with
`x`. -/
structure Refines (past : History R C) (k : ServiceRef) (r : Retrieval) (last start : Nat)
    (v : Visit R C) (x : Except WatchError (Option SubscriptionRef)) : Prop where
  /-- It comes back with what a poll comes to at its last section. -/
  value_eq : (v.hub.poll k).value = x
  /-- Its last section does what that poll does. -/
  hub_eq : (v.stage.look v.hub k).hub = (v.hub.poll k).hub
  /-- None of its earlier sections has changed anything. -/
  sections_eq : ∀ p ∈ v.sections, p.2 = p.1
  /-- All that happened on the way was done by others. -/
  others_eq : v.hub = (v.others ++ past).hub
  /-- It fails exactly if the service is not open at that moment. -/
  closed_iff : x = .error .closed ↔ v.hub.isOpen k = false
  /-- It gives the first entry of the queue of an open service, if there is one. -/
  first : ∀ s rest, v.hub.isOpen k = true → v.hub.queue k = s :: rest →
    x = .ok (some s) ∧ (v.stage.look v.hub k).hub.queue k = rest
  /-- It comes back without anything only behind its deadline, and if there is nothing in the queue
  of the open service. -/
  nothing : x = .ok none → v.hub.isOpen k = true ∧ v.hub.queue k = [] ∧
    ∃ time, r = .pollTimeout time ∧ start + time ≤ last ∧ start + time ≤ v.now
  /-- If it waits for good, it does not come back without anything. -/
  something : r = .take → x ≠ .ok none
  /-- It gives no subscription after the service has been closed. -/
  closed_before : ∀ later earlier, v.others ++ past = later ++ earlier →
    k < earlier.hub.services.size → earlier.hub.isOpen k = false → x = .error .closed

theorem Untouched.refines (hv : Untouched past r last now v)
    {x : Except WatchError (Option SubscriptionRef)} (hx : v.Returns k x) :
    Refines past k r last now v x := by
  have hpoll := Stage.poll_value_of_returns hx.2
  have hclosed : x = .error .closed ↔ v.hub.isOpen k = false := by
    rw [← hpoll]
    exact Hub.poll_value_eq_closed_iff
  have hnone : x = .ok none → v.hub.isOpen k = true ∧ v.hub.queue k = [] ∧
      ∃ time, r = .pollTimeout time ∧ now + time ≤ last ∧ now + time ≤ v.now := by
    rintro rfl
    obtain ⟨hexpired, hopen, hqueue⟩ := hx.isExpired
    exact ⟨hopen, hqueue, hv.expired hexpired⟩
  refine ⟨hpoll, Stage.look_hub _ _ _, hv.sections_eq, hv.hub_eq, hclosed, ?_, hnone, ?_, ?_⟩
  · intro s rest hopen hqueue
    obtain ⟨hvalue, hrest⟩ := Hub.poll_of_queue_eq_cons hopen hqueue
    rw [Stage.look_hub]
    exact ⟨hpoll.symm.trans hvalue, hrest⟩
  · rintro rfl hnothing
    obtain ⟨-, -, time, htake, -⟩ := hnone hnothing
    cases htake
  · intro later earlier hsplit hk hshut
    exact hclosed.mpr (hv.isOpen_eq_false hsplit hk hshut)

/-- Calls that wait refine a poll. Take any run, and a call that is made at its end, for good or for
any time, while others do whatever they like and time passes. If the call comes back, it comes back
with what a poll at its last section comes to, and does there what that poll does and nothing else.
And if the service that it was made to is closed or has an entry in its queue, then a poll, a call
that waits for good and one that waits for some time all come to the same at once. -/
theorem waiting_refines_poll (past : History R C) (k : ServiceRef) (r : Retrieval)
    (last now : Nat) :
    (∀ (v : Visit R C) (x : Except WatchError (Option SubscriptionRef)),
      Reaches k (start r last now past.hub) v → v.Returns k x →
        Refines past k r last now v x) ∧
      (past.hub.isOpen k = false ∨ past.hub.queue k ≠ [] →
        ((r.stage last now).look past.hub k).value = .returns (past.hub.poll k).value ∧
          ((r.stage last now).look past.hub k).hub = (past.hub.poll k).hub ∧
          (∃ x : Except WatchError SubscriptionRef, (past.hub.poll k).value = x.map some ∧
            (past.hub.take k).value = .returns x ∧
            (past.hub.take k).hub = (past.hub.poll k).hub) ∧
          ∀ endless, (past.hub.pollTimeout k endless).value = .returns (past.hub.poll k).value ∧
            (past.hub.pollTimeout k endless).hub = (past.hub.poll k).hub) := by
  refine ⟨fun v x hv hx => hv.untouched.refines hx, fun hready => ?_⟩
  exact ⟨Stage.look_value_of_ready _ hready, Stage.look_hub _ _ _, Hub.take_of_ready hready,
    Hub.pollTimeout_of_ready hready⟩

/-- A call that waits for five ticks finds nothing and sleeps until its time is up. The subscription
is signaled before the call gets the lock again, so its last section finds it. -/
theorem waiting_refines_poll_of_late_signal :
    let past : History Nat Nat := [.register 0 10 [.modify], .withConfig .standard]
    let r : Retrieval := .pollTimeout 5
    ∃ v, Reaches 0 (start r 100 3 past.hub) v ∧ v.now = 8 ∧ v.stage = .expired 8 ∧
      v.Returns 0 (.ok (some 0)) ∧ (v.hub.poll 0).value = .ok (some 0) ∧
      (v.stage.look v.hub 0).hub.queue 0 = [] := by
  intro past r
  obtain ⟨v, hv, hnow, hstage, hreturns, hopen, hqueue⟩ :
      ∃ v, Reaches 0 (start r 100 3 past.hub) v ∧ v.now = 8 ∧ v.stage = .expired 8 ∧
        v.Returns 0 (.ok (some 0)) ∧ v.hub.isOpen 0 = true ∧ v.hub.queue 0 = [0] := by
    refine ⟨_, Relation.ReflTransGen.single (.sleep rfl rfl) |>.tail (.pass 8 (by decide))
      |>.tail (.other (.signal 0)) |>.tail (.expire rfl rfl (by decide)), ?_⟩
    exact ⟨rfl, rfl, ⟨rfl, rfl⟩, rfl, rfl⟩
  have hrefines := (waiting_refines_poll past 0 r 100 3).1 v _ hv hreturns
  exact ⟨v, hv, hnow, hstage, hreturns, hrefines.value_eq, (hrefines.first 0 [] hopen hqueue).2⟩

end Visit

end PathWatch
