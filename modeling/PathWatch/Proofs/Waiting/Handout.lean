import Mathlib
import PathWatch.Proofs.Waiting.Wakeup
/-!
# No subscription is delivered twice

Consumers who reset only what they hold never share a subscription. So consumers who wait for as
many subscriptions as are signaled get one each: nobody goes away with somebody else's, and nobody
is left asleep.
-/

namespace PathWatch

variable {R C : Type} [BEq C]

/-! ## Signaling a ready subscription -/

/-- The signal of a ready subscription that is not queued puts it at the end of the queue of its
service. -/
theorem Hub.QueueSound.queue_signal {h : Hub R C} (hh : h.QueueSound) {k : ServiceRef}
    {s : SubscriptionRef} {sub : Subscription R C} (hs : h.subscription? s = some sub)
    (howner : sub.owner = some k) (hopen : h.isOpen k = true) (hready : sub.state = .ready)
    (hmem : s ∉ h.queue k) : (h.signal s).hub.queue k = h.queue k ++ [s] := by
  obtain ⟨v, hv, -⟩ := service?_of_isOpen hopen
  have hafter : (h.signal s).hub.subscription? s =
      some { sub with state := .signaled, queued := true } := by
    simp [subscription?_signal, hs, hready, ownerIsOpen_of_owner howner, hopen]
  rw [queue_of_service? hv] at hmem ⊢
  rcases service?_signal h s k with hsame | ⟨sub', v', -, -, -, hv', -, hlonger⟩
  · -- The flag is set, so the queue cannot have stayed as it was.
    have hsound : (h.signal s).hub.QueueSound := hh.apply (.signal s)
    have hiff := hsound.queued_iff_mem (hsame.trans hv) hafter howner
    exact absurd (hiff.mp rfl) hmem
  · obtain rfl : v = v' := Option.some.inj (hv.symm.trans hv')
    exact queue_of_service? hlonger

namespace Hall

variable {k : ServiceRef} {may : Thread → Action R C → Prop} {σ τ υ : Hall R C}

/-! ## Coming to rest -/

/-- Nobody does anything. -/
def Nothing (_ : Thread) (_ : Action R C) : Prop := False

/-- Who owes a notification can give it. -/
theorem exists_step_of_notices {n : Nat} (hn : σ.notices = n + 1) :
    ∃ τ, Step k Nothing σ τ ∧ τ.notices = n ∧ τ.woken.length ≤ σ.woken.length + 1 := by
  rcases hparked : σ.parked with _ | ⟨w, ws⟩
  · exact ⟨_, .notifyNobody n hn hparked, rfl, Nat.le_succ _⟩
  · have hmem : w ∈ σ.parked := by simp [hparked]
    obtain ⟨hw, hpause⟩ := List.mem_filter.mp hmem
    obtain ⟨l, r, hsplit⟩ := List.append_of_mem hw
    obtain ⟨t, c, p⟩ := w
    obtain rfl : p = .parked := by simpa using hpause
    refine ⟨_, .notify l r t c n hn hsplit, rfl, ?_⟩
    simp [woken, hsplit]
    omega

/-- Who has been woken can look at the queue. -/
theorem exists_step_of_woken (hwoken : σ.woken ≠ []) :
    ∃ τ, Step k Nothing σ τ ∧ τ.notices = σ.notices ∧ τ.woken.length + 1 = σ.woken.length := by
  obtain ⟨w, hmem⟩ := List.exists_mem_of_ne_nil _ hwoken
  obtain ⟨hw, hpause⟩ := List.mem_filter.mp hmem
  obtain ⟨l, r, hsplit⟩ := List.append_of_mem hw
  obtain ⟨t, c, p⟩ := w
  rcases p with _ | late
  · simp at hpause
  · by_cases hc : c.Waits σ.hub k late
    · refine ⟨_, .repark l r t c late hsplit hc, rfl, ?_⟩
      simp [woken, hsplit]
      omega
    · refine ⟨_, .leave l r t c late hsplit hc, rfl, ?_⟩
      simp [woken, hsplit]
      omega

/-- Without further deeds every hall can come to rest: each notification wakes one consumer at most,
and each consumer who is woken looks once. -/
theorem exists_rest (k : ServiceRef) (σ : Hall R C) :
    ∃ τ, Relation.ReflTransGen (Step k Nothing) σ τ ∧ τ.notices = 0 ∧ τ.woken = [] := by
  induction hm : 2 * σ.notices + σ.woken.length using Nat.strong_induction_on generalizing σ with
  | _ m ih =>
    subst hm
    have go : ∀ τ, Step k Nothing σ τ →
        2 * τ.notices + τ.woken.length < 2 * σ.notices + σ.woken.length →
        ∃ υ, Relation.ReflTransGen (Step k Nothing) σ υ ∧ υ.notices = 0 ∧ υ.woken = [] := by
      intro τ hstep hlt
      obtain ⟨υ, hsteps, hrest⟩ := ih _ hlt τ rfl
      exact ⟨υ, .head hstep hsteps, hrest⟩
    rcases hn : σ.notices with _ | n
    · by_cases hwoken : σ.woken = []
      · exact ⟨σ, .refl, hn, hwoken⟩
      · obtain ⟨τ, hstep, hnotices, hlength⟩ := exists_step_of_woken hwoken
        exact go τ hstep (by omega)
    · obtain ⟨τ, hstep, hnotices, hlength⟩ := exists_step_of_notices hn
      exact go τ hstep (by omega)

/-! ## Handing out -/

/-- Producers post and signal some subscriptions, and nobody else calls. -/
def Producing (subs : List SubscriptionRef) (_ : Thread) : Action R C → Prop
  | .signal s => s ∈ subs
  | .post _ _ | .offer _ _ => True
  | _ => False

/-- Consumers wait for subscriptions that are about to be signaled. -/
structure Expecting (k : ServiceRef) (subs : List SubscriptionRef) (σ : Hall R C) : Prop where
  isOpen : σ.hub.isOpen k = true
  queue_eq : σ.hub.queue k = []
  call_eq : ∀ w ∈ σ.waiters, w.call = .take
  nodup : subs.Nodup
  ready : ∀ s ∈ subs, ∃ sub, σ.hub.subscription? s = some sub ∧ sub.owner = some k ∧
    sub.state = .ready

/-- What is true while consumers who waited in `σ` are being served: `later` is what has been done
since, and `got` is what they have been given. Each subscription has been signaled and is with a
consumer or queued, or is still ready. -/
structure Serving (k : ServiceRef) (subs : List SubscriptionRef) (σ τ : Hall R C)
    (later : Chronicle R C) (got : List (Thread × SubscriptionRef)) : Prop where
  deeds_eq : τ.deeds = later ++ σ.deeds
  received_eq : Chronicle.received k τ.deeds = Chronicle.received k σ.deeds ++ got
  absent_perm : (got.map Prod.fst ++ τ.absent).Perm σ.absent
  call_eq : ∀ w ∈ τ.waiters, w.call = .take
  isOpen : τ.hub.isOpen k = true
  nodup : (got.map Prod.snd ++ τ.hub.queue k).Nodup
  subset : got.map Prod.snd ++ τ.hub.queue k ⊆ subs
  state : ∀ s ∈ subs, ∃ sub, τ.hub.subscription? s = some sub ∧ sub.owner = some k ∧
    sub.state = if s ∈ got.map Prod.snd ++ τ.hub.queue k then .signaled else .ready
  signaled : ∀ x ∈ later, ∀ s, x.action = .signal s → s ∈ got.map Prod.snd ++ τ.hub.queue k

variable {subs : List SubscriptionRef} {later : Chronicle R C}
  {got : List (Thread × SubscriptionRef)}

theorem Expecting.serving (hσ : Expecting k subs σ) : Serving k subs σ σ [] [] where
  deeds_eq := rfl
  received_eq := by simp
  absent_perm := List.Perm.refl _
  call_eq := hσ.call_eq
  isOpen := hσ.isOpen
  nodup := by simp [hσ.queue_eq]
  subset := by simp [hσ.queue_eq]
  state s hs := by
    obtain ⟨sub, hsub, howner, hready⟩ := hσ.ready s hs
    exact ⟨sub, hsub, howner, by simp [hσ.queue_eq, hready]⟩
  signaled x hx := by simp at hx

namespace Serving

/-- Falling asleep and waking up keep everybody served. -/
theorem of_calls (hτ : Serving k subs σ τ later got) (hdeeds : υ.deeds = τ.deeds)
    (hcalls : υ.waiters.map (fun w => (w.thread, w.call)) =
      τ.waiters.map fun w => (w.thread, w.call)) : Serving k subs σ υ later got := by
  have hhub : υ.hub = τ.hub := by rw [hub, hub, hdeeds]
  have habsent : υ.absent = τ.absent := by
    simpa [absent, Function.comp_def] using congrArg (List.map Prod.fst) hcalls
  have hcall : ∀ w ∈ υ.waiters, w.call = .take := by
    intro w hw
    have hmem : (w.thread, w.call) ∈ τ.waiters.map fun w => (w.thread, w.call) :=
      hcalls ▸ List.mem_map_of_mem hw
    obtain ⟨w', hw', heq⟩ := List.mem_map.mp hmem
    exact (congrArg Prod.snd heq).symm.trans (hτ.call_eq w' hw')
  exact
    { deeds_eq := hdeeds.trans hτ.deeds_eq
      received_eq := by rw [hdeeds, hτ.received_eq]
      absent_perm := by rw [habsent]; exact hτ.absent_perm
      call_eq := hcall
      isOpen := hhub ▸ hτ.isOpen
      nodup := hhub ▸ hτ.nodup
      subset := hhub ▸ hτ.subset
      state := hhub ▸ hτ.state
      signaled := hhub ▸ hτ.signaled }

/-- A deed that leaves the queue and the states alone keeps everybody served. -/
theorem of_quiet (hτ : Serving k subs σ τ later got) {x : Deed R C}
    (hdeeds : υ.deeds = x :: τ.deeds) (hwaiters : υ.waiters = τ.waiters)
    (hretrieves : x.action.retrieves τ.hub k = none)
    (hservices : υ.hub.services = τ.hub.services)
    (hkept : ∀ s sub, τ.hub.subscription? s = some sub → ∃ sub',
      υ.hub.subscription? s = some sub' ∧ sub'.owner = sub.owner ∧ sub'.state = sub.state)
    (hsignal : ∀ s, x.action ≠ .signal s) : Serving k subs σ υ (x :: later) got := by
  have hqueue : υ.hub.queue k = τ.hub.queue k := Hub.queue_congr hservices k
  have hopen : υ.hub.isOpen k = τ.hub.isOpen k := Hub.isOpen_congr hservices k
  refine
    { deeds_eq := by rw [hdeeds, hτ.deeds_eq]; rfl
      received_eq := ?_
      absent_perm := by rw [absent, hwaiters]; exact hτ.absent_perm
      call_eq := hwaiters ▸ hτ.call_eq
      isOpen := hopen.trans hτ.isOpen
      nodup := hqueue ▸ hτ.nodup
      subset := hqueue ▸ hτ.subset
      state := fun s hs => ?_
      signaled := fun y hy s hsy => ?_ }
  · have hnone : x.action.retrieves (Chronicle.hub τ.deeds) k = none := hretrieves
    rw [hdeeds, Chronicle.received, hτ.received_eq, hnone]
    simp
  · obtain ⟨sub, hsub, howner, hstate⟩ := hτ.state s hs
    obtain ⟨sub', hsub', howner', hstate'⟩ := hkept s sub hsub
    exact ⟨sub', hsub', howner'.trans howner, by rw [hqueue, hstate', hstate]⟩
  · rcases List.mem_cons.mp hy with rfl | hy
    · exact absurd hsy (hsignal s)
    · exact hqueue ▸ hτ.signaled y hy s hsy

/-- A signal puts a ready subscription into the queue, and does nothing otherwise. -/
theorem of_signal (hτ : Serving k subs σ τ later got) {t : Thread} {s : SubscriptionRef}
    (hs : s ∈ subs) (hdeeds : υ.deeds = ⟨t, .signal s⟩ :: τ.deeds)
    (hwaiters : υ.waiters = τ.waiters) : Serving k subs σ υ (⟨t, .signal s⟩ :: later) got := by
  have hhub : υ.hub = (τ.hub.signal s).hub := by rw [hub, hdeeds]; rfl
  obtain ⟨sub, hsub, howner, hstate⟩ := hτ.state s hs
  -- A second signal changes nothing: what is handed out or queued is signaled already.
  have hqueue : υ.hub.queue k =
      if s ∈ got.map Prod.snd ++ τ.hub.queue k then τ.hub.queue k else τ.hub.queue k ++ [s] := by
    by_cases hmem : s ∈ got.map Prod.snd ++ τ.hub.queue k
    · rw [if_pos hmem] at hstate ⊢
      have hsame : (τ.hub.signal s).hub = τ.hub := by simp [Hub.signal, hsub, hstate]
      rw [hhub, hsame]
    · rw [if_neg hmem] at hstate ⊢
      have hunqueued : s ∉ τ.hub.queue k := fun hq => hmem (List.mem_append_right _ hq)
      rw [hhub, τ.queueSound.queue_signal hsub howner hτ.isOpen hstate hunqueued]
  have hmem_iff : ∀ u, u ∈ got.map Prod.snd ++ υ.hub.queue k ↔
      u ∈ got.map Prod.snd ++ τ.hub.queue k ∨ u = s := by
    intro u
    rw [hqueue]
    split
    · rename_i hmem
      exact ⟨Or.inl, fun h => h.elim id fun h => h ▸ hmem⟩
    · simp [or_assoc]
  refine
    { deeds_eq := by rw [hdeeds, hτ.deeds_eq]; rfl
      received_eq := by simp [hdeeds, Chronicle.received, Action.retrieves, hτ.received_eq]
      absent_perm := by rw [absent, hwaiters]; exact hτ.absent_perm
      call_eq := hwaiters ▸ hτ.call_eq
      isOpen := by rw [hhub, Hub.isOpen_signal, hτ.isOpen]
      nodup := ?_
      subset := fun u hu => ((hmem_iff u).mp hu).elim (fun h => hτ.subset h) fun h => h ▸ hs
      state := fun u hu => ?_
      signaled := fun x hx u hxu => ?_ }
  · rw [hqueue]
    split
    · exact hτ.nodup
    · rename_i hmem
      rw [← List.append_assoc, ← List.concat_eq_append]
      exact hτ.nodup.concat hmem
  · obtain ⟨other, hother, howner', hstate'⟩ := hτ.state u hu
    simp only [hmem_iff]
    rw [hhub, Hub.subscription?_signal, hother]
    by_cases hus : u = s
    · subst hus
      refine ⟨_, rfl, ?_⟩
      split_ifs at hstate' ⊢ <;> simp_all
    · rw [Option.map_some, if_neg fun h => hus h.symm]
      refine ⟨other, rfl, howner', ?_⟩
      simp only [hus, or_false, hstate']
  · rw [hmem_iff]
    rcases List.mem_cons.mp hx with rfl | hx
    · simp_all
    · exact Or.inl (hτ.signaled x hx u hxu)

/-- A consumer who leaves takes the head of the queue with it. -/
theorem of_leave (hτ : Serving k subs σ τ later got) {l r : List Waiter} {t : Thread} {c : Call}
    {late : Bool} (hw : τ.waiters = l ++ ⟨t, c, .woken late⟩ :: r) (hc : ¬ c.Waits τ.hub k late)
    (hdeeds : υ.deeds = ⟨t, c.action k late⟩ :: τ.deeds) (hwaiters : υ.waiters = l ++ r) :
    ∃ s, Serving k subs σ υ (⟨t, c.action k late⟩ :: later) (got ++ [(t, s)]) := by
  obtain rfl : c = .take := hτ.call_eq ⟨t, c, .woken late⟩ (by simp [hw])
  have hhub : υ.hub = (τ.hub.poll k).hub := by
    have hpoll := Call.apply_action .take τ.hub k late
    rw [hub, hdeeds, Chronicle.hub_cons]
    exact hpoll
  rcases hqueue : τ.hub.queue k with _ | ⟨s, rest⟩
  · exact absurd (Call.waits_take hτ.isOpen hqueue late) hc
  have hretrieves : (Call.action .take k late : Action R C).retrieves τ.hub k = some s := by
    rw [Call.retrieves_action, if_pos hτ.isOpen, hqueue]
    rfl
  have hrest : υ.hub.queue k = rest := by
    have htail := τ.queueSound.queue_apply_action (k := k) .take late
    rw [Call.apply_action, hqueue] at htail
    exact hhub ▸ htail
  -- What has been handed out and what is queued are the same list as before.
  have hsame : (got ++ [(t, s)]).map Prod.snd ++ υ.hub.queue k =
      got.map Prod.snd ++ τ.hub.queue k := by
    simp [hrest, hqueue]
  refine ⟨s,
    { deeds_eq := by rw [hdeeds, hτ.deeds_eq]; rfl
      received_eq := ?_
      absent_perm := ?_
      call_eq := fun w hmem => hτ.call_eq w ?_
      isOpen := ?_
      nodup := hsame ▸ hτ.nodup
      subset := hsame ▸ hτ.subset
      state := fun u hu => ?_
      signaled := fun x hx u hxu => ?_ }⟩
  · have hhead : (Call.action .take k late : Action R C).retrieves (Chronicle.hub τ.deeds) k =
        some s := hretrieves
    rw [hdeeds, Chronicle.received, hτ.received_eq, hhead, List.append_assoc]
    rfl
  · have hperm := hτ.absent_perm
    rw [absent, hw, List.map_append, List.map_cons] at hperm
    rw [absent, hwaiters, List.map_append, List.map_append, List.append_assoc]
    refine List.Perm.trans (List.Perm.append_left _ ?_) hperm
    show (t :: (l.map Waiter.thread ++ r.map Waiter.thread)).Perm
      (l.map Waiter.thread ++ t :: r.map Waiter.thread)
    exact List.perm_middle.symm
  · rw [hwaiters] at hmem
    rw [hw]
    exact List.mem_append.mpr ((List.mem_append.mp hmem).imp_right (List.mem_cons_of_mem _))
  · rw [hhub, Hub.isOpen_poll, hτ.isOpen]
  · obtain ⟨sub, hsub, howner, hstate⟩ := hτ.state u hu
    rw [hsame, hhub, Hub.subscription?_poll, hsub, Option.map_some]
    refine ⟨_, rfl, ?_⟩
    split
    · exact ⟨howner, hstate⟩
    · exact ⟨howner, hstate⟩
  · rw [hsame]
    rcases List.mem_cons.mp hx with rfl | hx
    · simp [Call.action] at hxu
    · exact hτ.signaled x hx u hxu

/-- Every step of producers and consumers keeps everybody served. -/
theorem step (hτ : Serving k subs σ τ later got) (hstep : Step k (Producing subs) τ υ) :
    ∃ later' got', Serving k subs σ υ later' got' := by
  cases hstep with
  | act t a hmay hfree ha =>
    refine ⟨⟨t, a⟩ :: later, got, ?_⟩
    cases a with
    | signal s => exact hτ.of_signal hmay rfl rfl
    | post s e =>
      refine hτ.of_quiet rfl rfl rfl (Hub.services_post τ.hub s e) (fun u sub hsub => ?_) (by simp)
      have hafter := Hub.subscription?_post τ.hub s e u
      rw [hsub] at hafter
      exact ⟨_, hafter, by split <;> simp, by split <;> simp⟩
    | offer s e =>
      refine hτ.of_quiet rfl rfl rfl (Hub.services_offer τ.hub s e) (fun u sub hsub => ?_) (by simp)
      have hafter := Hub.subscription?_offer τ.hub s e u
      rw [hsub] at hafter
      refine ⟨_, hafter, ?_, ?_⟩ <;> dsimp only <;> split_ifs <;> simp
    | _ => exact hmay.elim
  | pass t c hmay hfree hc => cases c <;> exact hmay.elim
  | park t c hmay hfree hc => cases c <;> exact hmay.elim
  | leave l r t c late hw hc =>
    have hserved : ∃ s, Serving k subs σ
        { τ with deeds := ⟨t, c.action k late⟩ :: τ.deeds, waiters := l ++ r }
        (⟨t, c.action k late⟩ :: later) (got ++ [(t, s)]) := hτ.of_leave hw hc rfl rfl
    obtain ⟨s, hserving⟩ := hserved
    exact ⟨_, _, hserving⟩
  | repark l r t c late hw hc => exact ⟨later, got, hτ.of_calls rfl (by simp [hw])⟩
  | notify l r t c n hn hw => exact ⟨later, got, hτ.of_calls rfl (by simp [hw])⟩
  | notifyNobody n hn hw => exact ⟨later, got, hτ.of_calls rfl rfl⟩
  | stir l r t c hw => exact ⟨later, got, hτ.of_calls rfl (by simp [hw])⟩
  | expire l r t c p hw hc => exact ⟨later, got, hτ.of_calls rfl (by simp [hw])⟩
  | shut t hmay hfree => exact hmay.elim
  | broadcast n hn => exact ⟨later, got, hτ.of_calls rfl (by simp [Function.comp_def])⟩

/-- Once all subscriptions have been signaled and everything is at rest, all of them have been
handed out. If one was left, nobody would be asleep, but then somebody has come away without one. -/
theorem perm_subs (hτ : Serving k subs σ τ later got) (hattended : Attended k τ)
    (hnodup : subs.Nodup) (hlength : subs.length ≤ σ.waiters.length)
    (hall : ∀ s ∈ subs, ∃ x ∈ later, x.action = .signal s) (hnotices : τ.notices = 0)
    (hwoken : τ.woken = []) : (got.map Prod.snd).Perm subs := by
  have hperm : (got.map Prod.snd ++ τ.hub.queue k).Perm subs := by
    refine (List.perm_ext_iff_of_nodup hτ.nodup hnodup).mpr fun s => ⟨fun h => hτ.subset h, ?_⟩
    intro hs
    obtain ⟨x, hx, hsignal⟩ := hall s hs
    exact hτ.signaled x hx s hsignal
  have hqueue : τ.hub.queue k = [] := by
    by_cases hparked : τ.parked = []
    · have hnobody : τ.waiters = [] := by
        refine List.eq_nil_iff_forall_not_mem.mpr fun w hw => ?_
        by_cases hpause : w.pause = .parked
        · exact List.filter_eq_nil_iff.mp hparked w hw (by simp [hpause])
        · exact List.filter_eq_nil_iff.mp hwoken w hw (by simp [hpause])
      have hserved := hτ.absent_perm.length_eq
      have hcount := hperm.length_eq
      simp [absent, hnobody] at hserved hcount
      exact List.length_eq_zero_iff.mp (by omega)
    · have hle := hattended.queue_le hparked
      rw [hnotices, hwoken] at hle
      exact List.length_eq_zero_iff.mp (Nat.le_zero.mp hle)
  simpa [hqueue] using hperm

/-- With as many subscriptions as consumers, nobody goes away without one. -/
theorem perm_absent (hτ : Serving k subs σ τ later got) (hperm : (got.map Prod.snd).Perm subs)
    (hlength : subs.length = σ.waiters.length) : (got.map Prod.fst).Perm σ.absent := by
  have hserved := hτ.absent_perm.length_eq
  have hcount := hperm.length_eq
  simp only [absent, List.length_append, List.length_map] at hserved hcount
  have hnobody : τ.absent = [] := by
    rw [absent, List.map_eq_nil_iff]
    exact List.length_eq_zero_iff.mp (by omega)
  simpa [hnobody] using hτ.absent_perm

end Serving

/-- Whatever the producers and the consumers do, everybody is being served. -/
theorem Expecting.serving_of_steps (hσ : Expecting k subs σ)
    (hsteps : Relation.ReflTransGen (Step k (Producing subs)) σ τ) :
    ∃ later got, Serving k subs σ τ later got := by
  induction hsteps with
  | refl => exact ⟨[], [], hσ.serving⟩
  | tail _ hstep ih =>
    obtain ⟨later, got, hserving⟩ := ih
    exact hserving.step hstep

/-! ## No double delivery -/

/-- In every run in which subscriptions are reset only by those who hold them, each subscription is
held by one consumer at most, what is held is not queued, and what is ready is neither held nor
queued. When consumers wait for subscriptions that are ready, at least as many consumers as
subscriptions, and the subscriptions are signaled, then whatever the order of the steps, no
subscription is handed out twice and no consumer is given two. Everything can come to rest, and once
it has and all subscriptions have been signaled, each of them has been handed out, and with as many
subscriptions as consumers each consumer has been given one. -/
theorem no_double_delivery :
    (∀ d : Chronicle R C, d.Careful → ∀ s,
      (∀ t t', d.Holds t s → d.Holds t' s → t = t') ∧
      (∀ t k, d.Holds t s → s ∉ d.hub.queue k) ∧
      ∀ sub, d.hub.subscription? s = some sub → sub.state = .ready →
        (∀ t, ¬ d.Holds t s) ∧ ∀ k, s ∉ d.hub.queue k) ∧
    (∀ k subs (σ τ : Hall R C), Reachable k Anything σ → Expecting k subs σ →
      subs.length ≤ σ.waiters.length →
      Relation.ReflTransGen (Step k (Producing subs)) σ τ →
      (∃ υ, Relation.ReflTransGen (Step k Nothing) τ υ ∧ υ.notices = 0 ∧ υ.woken = []) ∧
      ∃ later got, τ.deeds = later ++ σ.deeds ∧
        Chronicle.received k τ.deeds = Chronicle.received k σ.deeds ++ got ∧
        (got.map Prod.fst).Nodup ∧ got.map Prod.fst ⊆ σ.absent ∧
        (got.map Prod.snd).Nodup ∧ got.map Prod.snd ⊆ subs ∧
        ((∀ s ∈ subs, ∃ x ∈ later, x.action = .signal s) → τ.notices = 0 → τ.woken = [] →
          (got.map Prod.snd).Perm subs ∧
            (subs.length = σ.waiters.length → (got.map Prod.fst).Perm σ.absent))) := by
  constructor
  · intro d hd s
    refine ⟨fun t t' ht ht' => ?_, fun t k ht hmem => ?_, fun sub hs hready => ⟨?_, ?_⟩⟩
    · obtain ⟨sub, hs⟩ := Chronicle.subscription?_of_holds ht
      exact (hd.exclusive hs).unique ht ht'
    · obtain ⟨sub, hs⟩ := Chronicle.subscription?_of_holds ht
      have hqueued := d.past.queueSound.queued_of_mem hs hmem
      simp [((hd.exclusive hs).of_held ht).2] at hqueued
    · exact fun t ht => ((hd.exclusive hs).of_held ht).1 hready
    · exact fun k hmem =>
        (hd.exclusive hs).of_queued (d.past.queueSound.queued_of_mem hs hmem) hready
  · intro k subs σ τ hσ hexpecting hlength hsteps
    obtain ⟨later, got, hτ⟩ := hexpecting.serving_of_steps hsteps
    have hreachable : Reachable k Anything τ :=
      hσ.trans (Relation.ReflTransGen.mono (fun _ _ h => h.mono fun _ _ _ => trivial) _ _ hsteps)
    -- Nobody is both served and still away, and nobody is served twice.
    have hthreads : (got.map Prod.fst ++ τ.absent).Nodup :=
      hτ.absent_perm.nodup_iff.mpr hσ.nodup_absent
    refine ⟨exists_rest k τ, later, got, hτ.deeds_eq, hτ.received_eq, hthreads.of_append_left,
      fun t ht => hτ.absent_perm.subset (List.mem_append_left _ ht), hτ.nodup.of_append_left,
      fun s hs => hτ.subset (List.mem_append_left _ hs), fun hall hnotices hwoken => ?_⟩
    have hperm := hτ.perm_subs hreachable.attended hexpecting.nodup hlength hall hnotices hwoken
    exact ⟨hperm, hτ.perm_absent hperm⟩

/-- Two consumers wait, two subscriptions are signaled, and the second consumer looks first. -/
theorem no_double_delivery_of_two_consumers :
    let before : Chronicle Nat Nat :=
      [⟨0, .register 0 20 [.modify]⟩, ⟨0, .register 0 10 [.modify]⟩, ⟨0, .withConfig .standard⟩]
    let later : Chronicle Nat Nat := [⟨1, .take 0⟩, ⟨2, .take 0⟩, ⟨0, .signal 1⟩, ⟨0, .signal 0⟩]
    (later ++ before).received 0 = [(2, 0), (1, 1)] ∧
      (∃ got, (later ++ before).received 0 = before.received 0 ++ got ∧
        (got.map Prod.snd).Perm [0, 1] ∧ (got.map Prod.fst).Perm [2, 1]) ∧
      ∀ t t', (later ++ before).Holds t 0 → (later ++ before).Holds t' 0 → t = t' := by
  intro before later
  have hcareful : (later ++ before).Careful := by simp [later, before, Chronicle.Careful]
  refine ⟨by decide, ?_, (no_double_delivery.1 _ hcareful 0).1⟩
  let asleep : Hall Nat Nat :=
    { deeds := before, waiters := [⟨2, .take, .parked⟩, ⟨1, .take, .parked⟩] }
  have hasleep : Reachable 0 Anything asleep := by
    have h₀ : Reachable 0 Anything ({} : Hall Nat Nat) := .start
    have h₁ := h₀.step (.act 0 (.withConfig .standard) trivial (by decide) trivial)
    have h₂ := h₁.step (.act 0 (.register 0 10 [.modify]) trivial (by decide) trivial)
    have h₃ := h₂.step (.act 0 (.register 0 20 [.modify]) trivial (by decide) trivial)
    have h₄ := h₃.step (.park 1 .take trivial (by decide) rfl)
    exact h₄.step (.park 2 .take trivial (by decide) rfl)
  have hexpecting : Expecting 0 [0, 1] asleep :=
    { isOpen := rfl
      queue_eq := rfl
      call_eq := by decide
      nodup := by decide
      ready := by
        intro s hs
        rcases List.mem_pair.mp hs with rfl | rfl <;> exact ⟨_, rfl, rfl, rfl⟩ }
  have hsteps : Relation.ReflTransGen (Step 0 (Producing [0, 1])) asleep
      { deeds := later ++ before } := by
    have s₀ : Relation.ReflTransGen (Step 0 (Producing [0, 1])) asleep asleep := .refl
    have s₁ := s₀.tail (.act 0 (.signal 0) (by simp [Producing]) (by decide) trivial)
    have s₂ := s₁.tail (.act 0 (.signal 1) (by simp [Producing]) (by decide) trivial)
    have s₃ := s₂.tail (.notify [] _ 2 .take 1 rfl rfl)
    have s₄ := s₃.tail (.notify [_] [] 1 .take 0 rfl rfl)
    have s₅ := s₄.tail
      (.leave [] _ 2 .take false rfl fun hc => absurd hc.queue_eq_nil.2 (by decide))
    exact s₅.tail (.leave [] [] 1 .take false rfl fun hc => absurd hc.queue_eq_nil.2 (by decide))
  obtain ⟨-, later', got, hlater, hgot, -, -, -, -, hrest⟩ :=
    no_double_delivery.2 0 [0, 1] asleep _ hasleep hexpecting (by decide) hsteps
  obtain rfl : later = later' := List.append_cancel_right hlater
  have hsignaled : ∀ s ∈ [0, 1], ∃ x ∈ later, x.action = .signal s := by
    intro s hs
    rcases List.mem_pair.mp hs with rfl | rfl <;> simp [later]
  obtain ⟨hsubs, hthreads⟩ := hrest hsignaled rfl rfl
  exact ⟨got, hgot, hsubs, hthreads rfl⟩

end Hall

end PathWatch
