import Mathlib
import PathWatch.Proofs.Drill.Account
/-!
# A drill whose threads take turns

When a drill is run, its threads take their steps in one order out of many: the producers one after
the other, and then the main thread, which does without consumers. So what holds of a field in any
order holds of every drill that is run. In this order the main thread never waits in vain, and the
drill ends with everything counted.
-/

namespace PathWatch

namespace Drill

/-! ## Changes of files -/

theorem fileKind_mem (i : Nat) : fileKind i ∈ watchedKinds := by
  unfold fileKind
  split <;> decide

/-- The change of a file. -/
def fileChange (directory : String) (i : Nat) : Change String where
  event := .once (fileKind i) (filePath directory i)
  count_eq := rfl
  kind_mem := fileKind_mem i

/-- The changes of those files of a directory that match. -/
def changes (matcher : PathMatcher) (directory : String) (files : List Nat) :
    List (Change String) :=
  (files.filter fun i => matcher (filePath directory i)).map (fileChange directory)

/-! ## Stages -/

namespace Stage

variable {matcher : PathMatcher} {directory : String} {s : SubscriptionRef}

@[simp] theorem after_hub {α : Type} (d : Stage) (o : Outcome String String α) :
    (d.after o).hub = o.hub := rfl

@[simp] theorem after_posted {α : Type} (d : Stage) (o : Outcome String String α) :
    (d.after o).posted = d.posted := rfl

@[simp] theorem after_totals {α : Type} (d : Stage) (o : Outcome String String α) :
    (d.after o).totals = d.totals := rfl

@[simp] theorem consume_hub (d : Stage) (worker : String) (s : SubscriptionRef) :
    (d.consume worker s).hub = ((d.hub.drain s).hub.reset s).hub := by
  unfold consume
  dsimp only
  split <;> rfl

@[simp] theorem consume_posted (d : Stage) (worker : String) (s : SubscriptionRef) :
    (d.consume worker s).posted = d.posted := by
  unfold consume
  dsimp only
  split <;> rfl

@[simp] theorem consume_totals (d : Stage) (worker : String) (s : SubscriptionRef) :
    (d.consume worker s).totals = d.totals.countAll (d.hub.drain s).value := by
  unfold consume
  dsimp only
  split <;> rfl

@[simp] theorem judge_posted (d : Stage) : d.judge.posted = d.posted := by
  unfold judge
  split <;> rfl

@[simp] theorem judge_totals (d : Stage) : d.judge.totals = d.totals := by
  unfold judge
  split <;> rfl

/-- A file that does not match is left alone. -/
theorem change_of_not_match (d : Stage) {i : Nat}
    (hmatch : matcher (filePath directory i) = false) :
    d.change matcher directory s i = d := by
  simp [change, hmatch]

theorem change_of_not_accepted {d : Stage} {i : Nat}
    (hmatch : matcher (filePath directory i) = true)
    (hvalue : (d.hub.offer s (fileChange directory i).event.val).value = false) :
    d.change matcher directory s i =
      d.after (d.hub.offer s (fileChange directory i).event.val) := by
  rw [change, if_pos hmatch]
  exact if_neg (Bool.not_eq_true _ ▸ hvalue)

theorem change_of_accepted {d : Stage} {i : Nat}
    (hmatch : matcher (filePath directory i) = true)
    (hvalue : (d.hub.offer s (fileChange directory i).event.val).value = true) :
    d.change matcher directory s i =
      { (d.after (d.hub.offer s (fileChange directory i).event.val)).after
          ((d.hub.offer s (fileChange directory i).event.val).hub.signal s) with
        posted := d.posted + 1 } := by
  rw [change, if_pos hmatch]
  exact if_pos hvalue

/-- When all is counted, there is nothing to consume. -/
theorem settle_of_le {d : Stage} (hseen : d.posted ≤ d.totals.seen) (k : ServiceRef)
    (fuel : Nat) : d.settle k fuel = d := by
  cases fuel with
  | zero => rfl
  | succ fuel => exact if_pos hseen

theorem settle_posted (d : Stage) (k : ServiceRef) (fuel : Nat) :
    (d.settle k fuel).posted = d.posted := by
  induction fuel generalizing d with
  | zero => rfl
  | succ fuel ih =>
    rw [settle]
    dsimp only
    split
    · rfl
    · split
      · rw [ih, consume_posted, after_posted]
      · rfl

/-- A turn with a subscription that was signaled. -/
theorem settle_succ {d : Stage} (hseen : d.totals.seen < d.posted) {k : ServiceRef}
    (hvalue : (d.hub.poll k).value = .ok (some s)) (fuel : Nat) :
    d.settle k (fuel + 1) = ((d.after (d.hub.poll k)).consume "main" s).settle k fuel := by
  rw [settle, if_neg (Nat.not_le.mpr hseen)]
  simp only [hvalue]

/-- At most `n` events were accepted, and no more subscriptions are queued. -/
structure Bounded (n : Nat) (d : Stage) : Prop where
  queue_le : (d.hub.queue 0).length ≤ d.posted
  posted_le : d.posted ≤ n

namespace Bounded

variable {n : Nat} {d : Stage}

/-- Only an event that was accepted puts a subscription into the queue. -/
theorem change (hd : Bounded n d) (i : Nat) :
    Bounded (n + 1) (d.change matcher directory s i) := by
  have hsame : Bounded (n + 1) d := ⟨hd.queue_le, hd.posted_le.trans (Nat.le_succ n)⟩
  rcases hmatch : matcher (filePath directory i) with _ | _
  · rwa [change_of_not_match d hmatch]
  · let offered := d.hub.offer s (fileChange directory i).event.val
    have hoffered : offered.hub.queue 0 = d.hub.queue 0 :=
      Hub.queue_congr (Hub.services_offer d.hub s _) 0
    rcases hvalue : offered.value with _ | _
    · rw [change_of_not_accepted hmatch hvalue]
      exact ⟨hoffered ▸ hd.queue_le, hsame.posted_le⟩
    · rw [change_of_accepted hmatch hvalue]
      have happend := Hub.length_queue_of_mayAppend (Hub.service?_signal offered.hub s 0)
      rw [hoffered] at happend
      exact ⟨happend.trans (Nat.succ_le_succ hd.queue_le), Nat.succ_le_succ hd.posted_le⟩

theorem foldl_change (hd : Bounded n d) (files : List Nat) :
    Bounded (n + files.length) (files.foldl (Stage.change matcher directory s) d) := by
  induction files generalizing n d with
  | nil => exact hd
  | cons i files ih =>
    rw [List.foldl_cons, List.length_cons, Nat.add_comm files.length, ← Nat.add_assoc]
    exact ih (hd.change i)

theorem produce (hd : Bounded n d) (directory : String) :
    Bounded (n + filesPerDirectory) (d.produce matcher 0 directory) := by
  have hregistered : Bounded n (d.after (d.hub.register 0 directory watchedKinds)) := by
    refine ⟨?_, hd.posted_le⟩
    rw [after_hub, Hub.queue_register]
    exact hd.queue_le
  unfold Stage.produce
  dsimp only
  split
  · exact ⟨hregistered.queue_le, hregistered.posted_le.trans (Nat.le_add_right ..)⟩
  · simpa using hregistered.foldl_change (List.range filesPerDirectory)

theorem foldl_produce (hd : Bounded n d) (directories : List String) :
    Bounded (n + directories.length * filesPerDirectory)
      (directories.foldl (Stage.produce matcher 0) d) := by
  induction directories generalizing n d with
  | nil => simpa using hd
  | cons directory directories ih =>
    rw [List.foldl_cons, List.length_cons, Nat.succ_mul, Nat.add_comm (_ * _), ← Nat.add_assoc]
    exact ih (hd.produce directory)

end Bounded

end Stage

/-! ## Turns of producers -/

/-- A field that shows a stage of a drill. Nobody is draining. -/
structure Shows (config : WatchConfig) (σ : Field String String) (d : Stage) : Prop where
  reachable : σ.Reachable config
  hub_eq : d.hub = σ.hub
  posted_eq : d.posted = σ.posted
  totals_eq : d.totals = σ.totals
  duties_eq : σ.duties = []

namespace Shows

variable {config : WatchConfig} {matcher : PathMatcher} {directory : String}
  {s : SubscriptionRef} {σ : Field String String} {d : Stage}

/-- The turn of a producer that comes to a file. It offers the change, if there is one to offer, and
signals if it was accepted. -/
theorem change (hσ : Shows config σ d) {i n : Nat} {files : List Nat}
    {others : List (Producer String)}
    (hproducers : σ.producers = ⟨s, changes matcher directory (i :: files), n, false⟩ :: others) :
    ∃ τ m, Shows config τ (d.change matcher directory s i) ∧ τ.settling = σ.settling ∧
      τ.producers = ⟨s, changes matcher directory files, m, false⟩ :: others := by
  rcases hmatch : matcher (filePath directory i) with _ | _
  · refine ⟨σ, n, ?_, rfl, ?_⟩
    · simpa [Stage.change, hmatch] using hσ
    · simpa [changes, hmatch] using hproducers
  · have hnext : changes matcher directory (i :: files) =
        fileChange directory i :: changes matcher directory files := by
      simp [changes, hmatch]
    rw [hnext] at hproducers
    have hoffered := hσ.reachable.step (.offer [] others s _ _ n hproducers)
    have hposted := hσ.posted_eq
    rw [Field.posted, hproducers, List.map_cons, List.sum_cons] at hposted
    rcases hvalue : (σ.hub.offer s (fileChange directory i).event.val).value with _ | _
    · rw [hvalue] at hoffered
      rw [Stage.change_of_not_accepted hmatch (hσ.hub_eq ▸ hvalue)]
      refine ⟨_, _, ⟨hoffered, ?_, ?_, hσ.totals_eq, hσ.duties_eq⟩, rfl, rfl⟩
      · rw [hσ.hub_eq]
        rfl
      · simpa [Field.posted] using hposted
    · -- The producer owes a signal now, and its next step gives it.
      rw [hvalue] at hoffered
      have hsignaled := hoffered.step (.signal [] others s _ _ rfl)
      rw [Stage.change_of_accepted hmatch (hσ.hub_eq ▸ hvalue)]
      refine ⟨_, _, ⟨hsignaled, ?_, ?_, hσ.totals_eq, hσ.duties_eq⟩, rfl, rfl⟩
      · rw [hσ.hub_eq]
        rfl
      · simp [Field.posted, hposted]
        omega

/-- The turns of a producer until it has finished. -/
theorem foldl_change (hσ : Shows config σ d) {n : Nat} {files : List Nat}
    {others : List (Producer String)}
    (hproducers : σ.producers = ⟨s, changes matcher directory files, n, false⟩ :: others) :
    ∃ τ m, Shows config τ (files.foldl (Stage.change matcher directory s) d) ∧
      τ.settling = σ.settling ∧ τ.producers = ⟨s, [], m, false⟩ :: others := by
  induction files generalizing σ d n with
  | nil => exact ⟨σ, n, hσ, rfl, hproducers⟩
  | cons i files ih =>
    obtain ⟨τ, m, hτ, hsettling, hnext⟩ := hσ.change hproducers
    obtain ⟨υ, l, hυ, hsame, hlast⟩ := ih hτ hnext
    exact ⟨υ, l, hυ, hsame.trans hsettling, hlast⟩

/-- The turns for a directory. -/
theorem produce (hσ : Shows config σ d) (hstarting : σ.settling = .starting)
    (hfinished : ∀ p ∈ σ.producers, p.Finished) (directory : String) :
    ∃ τ, Shows config τ (d.produce matcher 0 directory) ∧ τ.settling = .starting ∧
      ∀ p ∈ τ.producers, p.Finished := by
  have hregistered : Shows config
      { σ with past := .register 0 directory watchedKinds :: σ.past }
      (d.after (d.hub.register 0 directory watchedKinds)) :=
    { reachable := hσ.reachable.step (.watch directory hstarting)
      hub_eq := by rw [hσ.hub_eq]; rfl
      posted_eq := hσ.posted_eq
      totals_eq := hσ.totals_eq
      duties_eq := hσ.duties_eq }
  unfold Stage.produce
  dsimp only
  split
  · exact ⟨_, hregistered, hstarting, hfinished⟩
  · rename_i s hs
    let todo := changes matcher directory (List.range filesPerDirectory)
    have hstarted : Shows config
        { σ with
          past := .register 0 directory watchedKinds :: σ.past
          producers := ⟨s, todo, 0, false⟩ :: σ.producers }
        (d.after (d.hub.register 0 directory watchedKinds)) :=
      { hregistered with
        reachable := hregistered.reachable.step (.start s todo hstarting)
        posted_eq := by simpa [Field.posted] using hσ.posted_eq }
    obtain ⟨τ, m, hτ, hsettling, hproducers⟩ := hstarted.foldl_change rfl
    refine ⟨τ, hτ, hsettling.trans hstarting, ?_⟩
    rw [hproducers, List.forall_mem_cons]
    exact ⟨⟨rfl, rfl⟩, hfinished⟩

theorem foldl_produce (hσ : Shows config σ d) (hstarting : σ.settling = .starting)
    (hfinished : ∀ p ∈ σ.producers, p.Finished) (directories : List String) :
    ∃ τ, Shows config τ (directories.foldl (Stage.produce matcher 0) d) ∧
      τ.settling = .starting ∧ ∀ p ∈ τ.producers, p.Finished := by
  induction directories generalizing σ d with
  | nil => exact ⟨σ, hσ, hstarting, hfinished⟩
  | cons directory directories ih =>
    obtain ⟨τ, hτ, hstarting', hfinished'⟩ := hσ.produce hstarting hfinished directory
    exact ih hτ hstarting' hfinished'

end Shows

/-! ## Turns of the main thread -/

namespace Field

variable {R C : Type} [BEq C] {config : WatchConfig} {σ : Field R C}

/-- A worker counts all that it has drained. -/
theorem Reachable.countAll {l r : List (Duty C)} {w : Worker} {s : SubscriptionRef}
    (events : Buffer C) (hσ : Reachable config σ)
    (hduties : σ.duties = l ++ ⟨w, s, some events⟩ :: r) :
    Reachable config
      { σ with totals := σ.totals.countAll events, duties := l ++ ⟨w, s, some []⟩ :: r } := by
  induction events generalizing σ with
  | nil =>
    rw [← hduties]
    exact hσ
  | cons e rest ih => exact ih (hσ.step (.count l r w s e rest hduties)) rfl

/-- The main thread finds that something has not been counted. -/
theorem Reachable.polls {n : Nat} (hσ : Reachable config σ) (hlooks : σ.settling = .looks n)
    (hseen : σ.totals.seen < n) : Reachable config { σ with settling := .polls n } := by
  have hlooked := hσ.step (.look n hlooks)
  have hjudged := hlooked.step (.judge n σ.totals.delivered rfl)
  have hless : σ.totals.delivered + σ.totals.overflowed < n := hseen
  rwa [if_pos hless] at hjudged

/-- The main thread finds that all has been counted. -/
theorem Reachable.settled {n : Nat} (hσ : Reachable config σ) (hlooks : σ.settling = .looks n)
    (hseen : n ≤ σ.totals.seen) : Reachable config { σ with settling := .settled n true } := by
  have hlooked := hσ.step (.look n hlooks)
  have hjudged := hlooked.step (.judge n σ.totals.delivered rfl)
  have hless : ¬ σ.totals.delivered + σ.totals.overflowed < n := Nat.not_lt.mpr hseen
  rwa [if_neg hless] at hjudged

/-- The main thread takes a subscription, drains it, counts and resets. -/
theorem Reachable.helps {n : Nat} {s : SubscriptionRef} (hσ : Reachable config σ)
    (hlooks : σ.settling = .looks n) (hseen : σ.totals.seen < n) (hidle : σ.duties = [])
    (hpoll : (σ.hub.pollTimeout 0 false).value = .returns (.ok (some s))) :
    Reachable config
      { past := .reset s :: .drain s :: .pollTimeout 0 false :: σ.past
        producers := σ.producers
        totals := σ.totals.countAll ((σ.hub.pollTimeout 0 false).hub.drain s).value
        settling := .looks n } := by
  have hpolls := hσ.polls hlooks hseen
  have hhelps := hpolls.step (.help n s rfl hpoll)
  rw [hidle] at hhelps
  have hdrained := hhelps.step (.drain [] [] .main s rfl)
  have hcounted := hdrained.countAll _ rfl
  exact hcounted.step (.reset [] [] .main s rfl)

end Field

namespace Shows

variable {config : WatchConfig} {matcher : PathMatcher} {s : SubscriptionRef}
  {σ : Field String String} {d : Stage}

/-- The turn of the main thread, which takes the head of the queue, drains it and resets it. Nothing
has been posted meanwhile, so the subscription does not go back into the queue. -/
theorem help (hσ : Shows config σ d) (hlooks : σ.settling = .looks σ.posted)
    (hseen : σ.totals.seen < σ.posted) {rest : List SubscriptionRef}
    (hqueue : σ.hub.queue 0 = s :: rest) :
    ∃ τ, Shows config τ ((d.after (d.hub.poll 0)).consume "main" s) ∧
      τ.settling = .looks τ.posted ∧ τ.producers = σ.producers ∧ τ.hub.queue 0 = rest := by
  have hopen : σ.hub.isOpen 0 = true := hσ.reachable.orderly.grounded.isOpen
  obtain ⟨hvalue, hrest⟩ := Hub.poll_of_queue_eq_cons hopen hqueue
  have hpoll : (σ.hub.pollTimeout 0 false).value = .returns (.ok (some s)) := by
    simp [Hub.pollTimeout, hvalue]
  have hpolled : (σ.hub.pollTimeout 0 false).hub = (d.hub.poll 0).hub := by
    rw [Hub.pollTimeout_hub, hσ.hub_eq]
  have hreachable := hσ.reachable.helps hlooks hseen hσ.duties_eq hpoll
  refine ⟨_, ⟨hreachable, ?_, ?_, ?_, rfl⟩, rfl, rfl, ?_⟩
  · rw [Stage.consume_hub, Stage.after_hub, ← hpolled]
    rfl
  · rw [Stage.consume_posted, Stage.after_posted]
    exact hσ.posted_eq
  · rw [Stage.consume_totals, Stage.after_totals, Stage.after_hub, hσ.totals_eq, hpolled]
  · -- The drain has emptied the buffer, so the reset leaves the queue alone.
    have hempty : ∀ sub, ((σ.hub.poll 0).hub.drain s).hub.subscription? s = some sub →
        sub.buffer = [] := by
      intro sub hsub
      rw [Hub.subscription?_drain] at hsub
      obtain ⟨before, -, rfl⟩ := Option.map_eq_some_iff.mp hsub
      rw [if_pos rfl]
    show ((((σ.hub.pollTimeout 0 false).hub.drain s).hub.reset s).hub).queue 0 = rest
    rw [Hub.pollTimeout_hub, Hub.queue_reset_of_buffer_eq_nil hempty,
      Hub.queue_congr (Hub.services_drain _ s), hrest]

/-- The main thread has nothing left to do. -/
theorem settled (hσ : Shows config σ d) (hlooks : σ.settling = .looks σ.posted)
    (hseen : d.posted ≤ d.totals.seen) :
    ∃ τ, Shows config τ d ∧ τ.settling = .settled τ.posted true := by
  have hsettled := hσ.reachable.settled hlooks (hσ.posted_eq ▸ hσ.totals_eq ▸ hseen)
  exact ⟨_, ⟨hsettled, hσ.hub_eq, hσ.posted_eq, hσ.totals_eq, hσ.duties_eq⟩, rfl⟩

/-- The number of events that were accepted bounds what a subscription got. -/
theorem acceptedBy_le (hσ : Shows config σ d) (s : SubscriptionRef) :
    σ.past.acceptedBy s ≤ d.posted := by
  rw [hσ.posted_eq, hσ.reachable.posted_eq]
  exact σ.past.acceptedBy_le_accepted s

/-- As long as something has not been counted, a subscription is queued. -/
theorem exists_queue_eq_cons (hσ : Shows config σ d) (hfinished : ∀ p ∈ σ.producers, p.Finished)
    (hfew : d.posted ≤ maxCount) (hseen : d.totals.seen < d.posted) :
    ∃ s rest, σ.hub.queue 0 = s :: rest := by
  have hcounts := fun s => (hσ.acceptedBy_le s).trans hfew
  rw [hσ.totals_eq, hσ.posted_eq] at hseen
  have hbusy := hσ.reachable.busy_of_seen_lt hcounts hfinished hseen
  exact List.exists_cons_of_ne_nil (hbusy.resolve_right (· hσ.duties_eq))

/-- The turns of the main thread until it has settled. Each of them shortens the queue, which is not
empty as long as something has not been counted. So the main thread does not wait, and settles with
everything counted. -/
theorem settle (hσ : Shows config σ d) (hlooks : σ.settling = .looks σ.posted)
    (hfinished : ∀ p ∈ σ.producers, p.Finished) (hfew : d.posted ≤ maxCount) {fuel : Nat}
    (hfuel : (d.hub.queue 0).length ≤ fuel) :
    ∃ τ, Shows config τ (d.settle 0 fuel) ∧ τ.settling = .settled τ.posted true := by
  -- The fuel bounds the queue, so that it cannot run out before the queue is empty.
  induction fuel generalizing σ d with
  | zero =>
    refine hσ.settled hlooks (Nat.not_lt.mp fun hseen => ?_)
    obtain ⟨s, rest, hqueue⟩ := hσ.exists_queue_eq_cons hfinished hfew hseen
    simp [hσ.hub_eq, hqueue] at hfuel
  | succ fuel ih =>
    by_cases hseen : d.posted ≤ d.totals.seen
    · rw [Stage.settle_of_le hseen]
      exact hσ.settled hlooks hseen
    · rw [Nat.not_le] at hseen
      obtain ⟨s, rest, hqueue⟩ := hσ.exists_queue_eq_cons hfinished hfew hseen
      obtain ⟨τ, hτ, hlooks', hproducers, hrest⟩ :=
        hσ.help hlooks (hσ.totals_eq ▸ hσ.posted_eq ▸ hseen) hqueue
      have hopen : d.hub.isOpen 0 = true :=
        hσ.hub_eq ▸ hσ.reachable.orderly.grounded.isOpen
      rw [hσ.hub_eq, hqueue, List.length_cons] at hfuel
      rw [Stage.settle_succ hseen (Hub.poll_of_queue_eq_cons hopen (hσ.hub_eq ▸ hqueue)).1]
      refine ih hτ hlooks' (hproducers ▸ hfinished) ?_ ?_
      · rwa [Stage.consume_posted, Stage.after_posted]
      · rw [hτ.hub_eq, hrest]
        exact Nat.le_of_succ_le_succ hfuel

end Shows

/-! ## The drill that is run -/

/-- The stage when the service has been made. -/
def begun (config : WatchConfig) (filter : String) : Stage :=
  (({} : Stage).tell (.started filter)).after (({} : Hub String String).addService config)

/-- The stage when the producers have finished. -/
def produced (config : WatchConfig) (filter : String) (matcher : PathMatcher) : Stage :=
  directories.foldl (Stage.produce matcher 0) (begun config filter)

variable {config : WatchConfig} {filter : String} {matcher : PathMatcher} {d : Stage}

/-- The producers have three directories with as many files each. -/
theorem bounded_produced (config : WatchConfig) (filter : String) (matcher : PathMatcher) :
    (produced config filter matcher).Bounded (directories.length * filesPerDirectory) := by
  have hbegun : (begun config filter).Bounded 0 := ⟨Nat.le_refl 0, Nat.le_refl 0⟩
  rw [← Nat.zero_add (directories.length * filesPerDirectory)]
  exact hbegun.foldl_produce directories

/-- A drill runs with a valid configuration only. What it has posted and counted at its end is what
it had when it settled. -/
theorem of_run_eq_ok (hrun : run config filter matcher = .ok d) :
    config.validate = .ok () ∧ d.posted = (produced config filter matcher).posted ∧
      d.totals = ((produced config filter matcher).settle 0
        (produced config filter matcher).posted).totals := by
  rcases hvalid : config.validate with e | u
  · simp [run, Hub.withConfig, hvalid] at hrun
  · simp only [run, Hub.withConfig, Stage.tell, hvalid, Except.ok.injEq] at hrun
    refine ⟨rfl, ?_, ?_⟩
    · rw [← hrun, Stage.after_posted, Stage.judge_posted, Stage.settle_posted]
      rfl
    · rw [← hrun, Stage.after_totals, Stage.judge_totals]
      rfl

theorem posted_le_of_run (hrun : run config filter matcher = .ok d) :
    d.posted ≤ directories.length * filesPerDirectory :=
  (of_run_eq_ok hrun).2.1 ▸ (bounded_produced config filter matcher).posted_le

/-- A drill that is run takes its steps in one of the orders in which the threads of a field can,
and at its end the main thread has settled with everything counted. -/
theorem exists_reachable_of_run (hrun : run config filter matcher = .ok d) :
    ∃ σ : Field String String, σ.Reachable config ∧ σ.settling = .settled d.posted true ∧
      σ.posted = d.posted ∧ σ.totals = d.totals := by
  obtain ⟨hvalid, hposted, htotals⟩ := of_run_eq_ok hrun
  have hbegun : Shows config ({ past := [.withConfig config] } : Field String String)
      (begun config filter) :=
    { reachable := .start hvalid
      hub_eq := by simp [begun, Field.hub, History.hub, Action.apply, Hub.withConfig, hvalid]
      posted_eq := rfl
      totals_eq := rfl
      duties_eq := rfl }
  obtain ⟨σ, hσ, hstarting, hfinished⟩ : ∃ σ, Shows config σ (produced config filter matcher) ∧
      σ.settling = .starting ∧ ∀ p ∈ σ.producers, p.Finished :=
    hbegun.foldl_produce rfl (by simp) directories
  have hlooks : Shows config { σ with settling := .looks σ.posted }
      (produced config filter matcher) :=
    { hσ with reachable := hσ.reachable.step (.settle hstarting hfinished) }
  have hbounded := bounded_produced config filter matcher
  have hfew : (produced config filter matcher).posted ≤ maxCount :=
    hbounded.posted_le.trans (by decide)
  obtain ⟨τ, hτ, hsettled⟩ := hlooks.settle rfl hfinished hfew hbounded.queue_le
  have hsame : τ.posted = d.posted := by rw [← hτ.posted_eq, Stage.settle_posted, hposted]
  exact ⟨τ, hτ.reachable, hsame ▸ hsettled, hsame, hτ.totals_eq.symm.trans htotals.symm⟩

/-- A drill that is run counts everything that it has posted. -/
theorem seen_eq_posted_of_run (hrun : run config filter matcher = .ok d) :
    d.totals.seen = d.posted := by
  obtain ⟨σ, hσ, hsettled, hposted, htotals⟩ := exists_reachable_of_run hrun
  have hfew : d.posted ≤ maxCount := (posted_le_of_run hrun).trans (by decide)
  have hcounts : ∀ s, σ.past.acceptedBy s ≤ maxCount := by
    intro s
    rw [← hposted, hσ.posted_eq] at hfew
    exact (σ.past.acceptedBy_le_accepted s).trans hfew
  rw [← htotals, ← hposted]
  exact (hσ.seen_eq_of_settled hcounts hsettled).1

/-- A drill with a valid configuration comes to its end, and then everything that was posted has
been counted. -/
theorem exists_run_of_validate (filter : String) (matcher : PathMatcher)
    (hvalid : config.validate = .ok ()) :
    ∃ d, run config filter matcher = .ok d ∧ d.totals.seen = d.posted := by
  obtain ⟨d, hrun⟩ : ∃ d, run config filter matcher = .ok d := by
    simp [run, Hub.withConfig, Stage.tell, hvalid]
  exact ⟨d, hrun, seen_eq_posted_of_run hrun⟩

end Drill

end PathWatch
