import Mathlib
import PathWatch.Proofs.Owner.Refusal
import PathWatch.Proofs.Owner.Request
/-!
# Services of either kind, side by side

A silent service and one with a queue, used in the same way, give the same answers: one keeps a live
set and is told of cancellations, the other looks through its list when it is used, and both count
the same subscriptions. Retrievals show the difference and nothing else does.
-/

namespace PathWatch

variable {R C : Type}

/-! ## Closed services -/

/-- Whether a service turns away all that want to retrieve or to register something. -/
structure AnyService.Refuses (v : AnyService) (h : Hub R C) : Prop where
  poll : (v.poll h).value = .error .closed
  pollTimeout : ∀ endless, (v.pollTimeout h endless).value = .returns (.error .closed)
  take : (v.take h).value = .returns (.error .closed)
  register : ∀ resource kinds, kinds ≠ [] → (v.register h resource kinds).value = .error .closed

theorem AnyService.refuses_of_closed {v : AnyService} {h : Hub R C}
    (hclosed : v.isOpen h = false) : v.Refuses h := by
  have hquiet := v.refusesQuietly h
  constructor
  case poll => rw [hquiet.poll hclosed]
  case pollTimeout => exact fun endless => by rw [hquiet.pollTimeout hclosed endless]
  case take => rw [hquiet.take hclosed]
  case register =>
    exact fun resource kinds hkinds => by rw [hquiet.register hclosed resource kinds hkinds]

/-! ## The relation -/

/-- A service with a queue and a silent one that have been used in the same way. Their subscriptions
differ in the service and the place only, and what the live set of the one lists is what is valid on
the list of the other. -/
structure Twins (k : ServiceRef) (j : SilentRef) (h g : Hub R C) : Prop where
  settled : h.Settled
  queueSound : h.QueueSound
  bare_eq : ∀ s,
    (h.subscription? s).map Subscription.bare = (g.subscription? s).map Subscription.bare
  owned : ∀ {s sub}, h.subscription? s = some sub → sub.owner = some k
  ownerless : ∀ {s sub}, g.subscription? s = some sub → sub.owner = none
  services : ∃ v w, h.service? k = some v ∧ g.silent[j]? = some w ∧ v.config = .standard ∧
    v.nextId = w.nextId ∧ v.isOpen = w.isOpen ∧
    h.liveSubscriptions k = g.stillValid w.registered

/-- Fresh services are twins. -/
theorem Twins.fresh [BEq C] :
    Twins 0 0 (({} : Hub R C).addService .standard).hub ({} : Hub R C).addSilent.hub where
  settled := Hub.Settled.apply_whole (a := .withConfig .standard) .empty .empty rfl
  queueSound := Hub.QueueSound.empty.addService .standard
  bare_eq s := rfl
  owned hs := by simp at hs
  ownerless hs := by simp [Hub.addSilent, Hub.subscription?] at hs
  services := ⟨{ config := .standard }, {}, rfl, rfl, rfl, rfl, rfl, rfl⟩

namespace Twins

variable {k : ServiceRef} {j : SilentRef} {h g : Hub R C}

theorem isValid_congr
    (hbare : ∀ s,
      (h.subscription? s).map Subscription.bare = (g.subscription? s).map Subscription.bare)
    (s : SubscriptionRef) : h.isValid s = g.isValid s := by
  replace hbare := hbare s
  unfold Hub.isValid
  rcases hs : h.subscription? s with _ | sub <;> rcases gs : g.subscription? s with _ | sub'
  · rfl
  · simp [hs, gs] at hbare
  · simp [hs, gs] at hbare
  · rw [hs, gs] at hbare
    have hstate : sub.bare.state = sub'.bare.state :=
      congrArg Subscription.state (Option.some.inj hbare)
    rw [Subscription.bare_state, Subscription.bare_state] at hstate
    simp [Subscription.isValid, hstate]

theorem size_eq (htw : Twins k j h g) : h.subscriptions.size = g.subscriptions.size := by
  have hnone : ∀ s, h.subscriptions.size ≤ s ↔ g.subscriptions.size ≤ s := by
    intro s
    rw [← Array.getElem?_eq_none_iff, ← Array.getElem?_eq_none_iff]
    have hbare := htw.bare_eq s
    unfold Hub.subscription? at hbare
    rw [← Option.map_eq_none_iff (f := Subscription.bare), hbare, Option.map_eq_none_iff]
  have hle := (hnone h.subscriptions.size).mp (Nat.le_refl _)
  have hge := (hnone g.subscriptions.size).mpr (Nat.le_refl _)
  omega

/-- No subscription that is valid finds its service closed. -/
theorem admits (htw : Twins k j h g) {s : SubscriptionRef} {sub : Subscription R C}
    (hs : h.subscription? s = some sub) (hvalid : sub.state ≠ .cancelled) :
    h.admits sub = true := by
  rw [← Bool.not_eq_false, Hub.admits_eq_false_iff]
  rintro ⟨k', v, howner, hv, hclosed⟩
  exact htw.settled.awaited_of_closed hv hclosed hs howner hvalid

theorem admits_silent (htw : Twins k j h g) {s : SubscriptionRef} {sub : Subscription R C}
    (gs : g.subscription? s = some sub) : g.admits sub = true := by
  simp [Hub.admits, htw.ownerless gs]

theorem isOpen_eq (htw : Twins k j h g) : h.isOpen k = g.isOpenSilent j := by
  obtain ⟨v, w, hv, hw, -, -, hopen, -⟩ := htw.services
  simp only [Hub.isOpen, hv, Hub.isOpenSilent, hw, hopen]

/-- Who keeps the owners of subscriptions keeps what is said of them. -/
theorem owner_of_map {h' : Hub R C} {s : SubscriptionRef} {owner : Option ServiceRef}
    {f : Subscription R C → Subscription R C}
    (hmap : h'.subscription? s = (h.subscription? s).map f)
    (hf : ∀ sub, (f sub).owner = sub.owner)
    (howner : ∀ {sub}, h.subscription? s = some sub → sub.owner = owner)
    {sub' : Subscription R C} (hs' : h'.subscription? s = some sub') : sub'.owner = owner := by
  rw [hmap] at hs'
  obtain ⟨sub, hs, rfl⟩ := Option.map_eq_some_iff.mp hs'
  exact (hf sub).trans (howner hs)

/-! ## Closing either -/

theorem cancelled_of_not_live (htw : Twins k j h g) {v : NotificationService}
    (hv : h.service? k = some v) {s : SubscriptionRef} {sub : Subscription R C}
    (hs : h.subscription? s = some sub) (hout : s ∉ h.liveSubscriptions k) :
    sub.state = .cancelled := by
  by_contra hvalid
  exact hout (htw.settled.mem_of_owner hv hs (htw.owned hs) hvalid)

/-- What is not on the list of the silent service is not in the live set of the other one either. -/
theorem cancelled_of_not_registered (htw : Twins k j h g) {v : NotificationService}
    {registered : List SubscriptionRef} (hv : h.service? k = some v)
    (hlive : h.liveSubscriptions k = g.stillValid registered) {s : SubscriptionRef}
    {sub : Subscription R C} (gs : g.subscription? s = some sub) (hout : s ∉ registered) :
    sub.state = .cancelled := by
  by_contra hvalid
  have hboth : h.isValid s = true :=
    (isValid_congr htw.bare_eq s).trans (Hub.isValid_iff.mpr ⟨sub, gs, hvalid⟩)
  obtain ⟨sub', hs, hvalid'⟩ := Hub.isValid_iff.mp hboth
  have hmem : s ∈ g.stillValid registered :=
    hlive ▸ htw.settled.mem_of_owner hv hs (htw.owned hs) hvalid'
  exact hout (List.mem_filter.mp hmem).1

/-- After a service has been closed everything is cancelled. -/
theorem bare_close (htw : Twins k j h g) {v : NotificationService} (hopen : v.isOpen = true)
    (hv : h.service? k = some v) (s : SubscriptionRef) :
    ((h.close k).hub.subscription? s).map Subscription.bare =
      ((h.subscription? s).map Subscription.bare).map fun b => { b with state := .cancelled } := by
  rw [Hub.subscription?_close, Option.map_map, Option.map_map]
  refine Option.map_congr fun sub hs => ?_
  have hisOpen : h.isOpen k = true := by rw [Hub.isOpen_of_service? hv, hopen]
  by_cases hmem : s ∈ h.liveSubscriptions k
  · simp [hisOpen, hmem, Subscription.bare]
  · simp [hisOpen, hmem, Subscription.bare, htw.cancelled_of_not_live hv hs hmem]

theorem bare_closeSilent (htw : Twins k j h g) {v : NotificationService} {w : SilentService}
    (hv : h.service? k = some v) (hw : g.silent[j]? = some w) (hopen : w.isOpen = true)
    (hlive : h.liveSubscriptions k = g.stillValid w.registered) (s : SubscriptionRef) :
    ((g.closeSilent j).hub.subscription? s).map Subscription.bare =
      ((g.subscription? s).map Subscription.bare).map fun b => { b with state := .cancelled } := by
  rw [(Hub.closeSilent_of_open hw hopen).1, Option.map_map, Option.map_map]
  refine Option.map_congr fun sub gs => ?_
  by_cases hmem : s ∈ w.registered
  · simp [hmem, Subscription.bare]
  · simp [hmem, Subscription.bare, htw.cancelled_of_not_registered hv hlive gs hmem]

variable [BEq C]

/-! ## One request -/

/-- Whatever is done to a subscription keeps twins alike, and both give the same reply. -/
theorem handle (htw : Twins k j h g) (s : SubscriptionRef) (u : Handling C) :
    (u.perform h s).1 = (u.perform g s).1 ∧
      Twins k j (u.perform h s).2 (u.perform g s).2 := by
  obtain ⟨hsettled, hsound⟩ :=
    (Request.handle s u : Request R C).settled_perform k htw.settled htw.queueSound
  have hbare : ∀ s', ((u.perform h s).2.subscription? s').map Subscription.bare =
      ((u.perform g s).2.subscription? s').map Subscription.bare := by
    intro s'
    rw [u.bare_perform, u.bare_perform, htw.bare_eq]
  refine ⟨u.perform_reply_congr (htw.bare_eq s) (fun _ hs => htw.admits hs)
    (fun _ gs _ => htw.admits_silent gs), ?_⟩
  have hvalid : ∀ s', (u.perform h s).2.isValid s' = (u.perform g s).2.isValid s' :=
    isValid_congr hbare
  constructor
  · exact hsettled
  · exact hsound
  · exact hbare
  · intro s' sub' hs'
    obtain ⟨f, hf, hafter⟩ := u.subscription?_perform h s s'
    exact owner_of_map hf (fun sub => (hafter sub).1) htw.owned hs'
  · intro s' sub' gs'
    obtain ⟨f, hf, hafter⟩ := u.subscription?_perform g s s'
    exact owner_of_map hf (fun sub => (hafter sub).1) htw.ownerless gs'
  · obtain ⟨v, w, hv, hw, hconfig, hnext, hopen, hlive⟩ := htw.services
    obtain ⟨queue, live, hservice, -⟩ := u.service?_perform h s k
    rw [hv, Option.map_some] at hservice
    refine ⟨_, w, hservice, by rw [u.silent_perform, hw], hconfig, hnext, hopen, ?_⟩
    -- Both lists lose what is not valid any more, the one at once and the other when it is used.
    calc (u.perform h s).2.liveSubscriptions k
        = (u.perform h s).2.stillValid (h.liveSubscriptions k) :=
          htw.settled.liveSubscriptions_perform u s hsettled k
      _ = (u.perform g s).2.stillValid (g.stillValid w.registered) := by
          rw [Hub.stillValid_congr hvalid, hlive]
      _ = (u.perform g s).2.stillValid w.registered :=
          Hub.stillValid_stillValid (fun s' => u.isValid_of_perform g s s') w.registered

/-- A registration numbers the new subscription in the same way, and puts it on either list. -/
theorem register (htw : Twins k j h g) (resource : R) (kinds : List EventKind) :
    ((Request.register resource kinds).perform (.notification k) h).1 =
        ((Request.register resource kinds : Request R C).perform (.silent j) g).1 ∧
      Twins k j ((Request.register resource kinds).perform (.notification k) h).2
        ((Request.register resource kinds).perform (.silent j) g).2 := by
  obtain ⟨hsettled, hsound⟩ :=
    (Request.register resource kinds : Request R C).settled_perform k htw.settled htw.queueSound
  obtain ⟨v, w, hv, hw, hconfig, hnext, hopen, hlive⟩ := htw.services
  by_cases hkinds : kinds = []
  · subst hkinds
    exact ⟨rfl, htw⟩
  rcases hvopen : v.isOpen with _ | _
  · have hclosed : h.isOpen k = false := by rw [Hub.isOpen_of_service? hv, hvopen]
    have gclosed : g.isOpenSilent j = false := htw.isOpen_eq.symm.trans hclosed
    have hreg := Hub.register_of_closed hclosed resource hkinds
    have greg := Hub.registerSilent_of_closed gclosed resource hkinds
    simp only [Request.perform, AnyService.register, hreg, greg]
    exact ⟨trivial, htw⟩
  · obtain ⟨hvalue, hsubs, hservice⟩ := Hub.register_of_open hv hvopen resource hkinds
    obtain ⟨gvalue, gsubs, gservice⟩ :=
      Hub.registerSilent_of_open hw (hopen ▸ hvopen) resource hkinds
    rw [Request.perform_register_of_ok (v := .notification k) hvalue] at hsettled hsound ⊢
    rw [Request.perform_register_of_ok (v := .silent j) gvalue, ← htw.size_eq]
    -- The new subscription gets the same place and the same number on either side.
    have hplace := Hub.subscription?_of_push hsubs
    have gplace := Hub.subscription?_of_push gsubs
    rw [← htw.size_eq] at gplace gservice
    have hbare : ∀ s,
        ((h.register k resource kinds).hub.subscription? s).map Subscription.bare =
          ((g.registerSilent j resource kinds).hub.subscription? s).map Subscription.bare := by
      intro s
      rw [hplace, gplace]
      by_cases hs : s = h.subscriptions.size
      · simp [hs, Subscription.bare, hconfig, hnext]
      · rw [if_neg hs, if_neg hs]
        exact htw.bare_eq s
    dsimp only [AnyService.register] at hsettled hsound ⊢
    refine ⟨by rw [hplace, gplace, if_pos rfl, if_pos rfl, hnext]; rfl, ?_⟩
    constructor
    · exact hsettled
    · exact hsound
    · exact hbare
    · intro s sub hs
      rw [hplace] at hs
      split at hs
      · exact (Option.some.inj hs) ▸ rfl
      · exact htw.owned hs
    · intro s sub gs
      rw [gplace] at gs
      split at gs
      · exact (Option.some.inj gs) ▸ rfl
      · exact htw.ownerless gs
    · refine ⟨_, _, hservice, gservice, hconfig, by rw [hnext], hopen, ?_⟩
      have hkept := htw.settled.live.filter_live hv
      have hgrown : (h.register k resource kinds).hub.liveSubscriptions k =
          g.stillValid w.registered ++ [h.subscriptions.size] := by
        rw [← hlive, Hub.liveSubscriptions_of_service? hservice,
          Hub.liveSubscriptions_of_service? hv, hkept, List.map_append]
        rfl
      rw [← hgrown, ← Hub.stillValid_congr (isValid_congr hbare)]
      exact (Hub.stillValid_eq_self fun s hs => hsettled.isValid_of_mem hs).symm

omit [BEq C] in
/-- Both count the same subscriptions. -/
theorem liveCount (htw : Twins k j h g) :
    h.liveCount k = (g.liveCountSilent j).value ∧ Twins k j h (g.liveCountSilent j).hub := by
  obtain ⟨v, w, hv, hw, hconfig, hnext, hopen, hlive⟩ := htw.services
  obtain ⟨gcount, hprune⟩ := Hub.liveCountSilent_of_silent hw
  have hcount : h.liveCount k = (h.liveSubscriptions k).length := by
    simp [Hub.liveCount, Hub.liveSubscriptions, hv]
  refine ⟨by rw [hcount, gcount, hlive], htw.settled, htw.queueSound, htw.bare_eq, htw.owned,
    htw.ownerless, v, _, hv, hprune, hconfig, hnext, hopen, ?_⟩
  rw [hlive]
  exact (Hub.stillValid_stillValid (fun _ hs => hs) w.registered).symm

/-- Closing leaves no subscription of either service valid. -/
theorem close (htw : Twins k j h g) : Twins k j (h.close k).hub (g.closeSilent j).hub := by
  obtain ⟨hsettled, hsound⟩ :=
    (Request.close : Request R C).settled_perform k htw.settled htw.queueSound
  obtain ⟨v, w, hv, hw, hconfig, hnext, hopen, hlive⟩ := htw.services
  rcases hvopen : v.isOpen with _ | _
  · have hclose : (h.close k).hub = h := by
      rw [Hub.close_hub, Hub.isOpen_of_service? hv, hvopen]
      rfl
    have gclose : (g.closeSilent j).hub = g := by
      simp only [Hub.closeSilent, hw, ← hopen, hvopen, Bool.not_false, if_true]
    rw [hclose, gclose]
    exact htw
  · obtain ⟨gplace, gservice⟩ := Hub.closeSilent_of_open hw (hopen ▸ hvopen)
    have hbare : ∀ s, ((h.close k).hub.subscription? s).map Subscription.bare =
        ((g.closeSilent j).hub.subscription? s).map Subscription.bare := by
      intro s
      rw [htw.bare_close hvopen hv, htw.bare_closeSilent hv hw (hopen ▸ hvopen) hlive,
        htw.bare_eq]
    constructor
    · exact hsettled
    · exact hsound
    · exact hbare
    · intro s sub' hs'
      exact owner_of_map (Hub.subscription?_close h k s) (fun sub => by split <;> rfl) htw.owned hs'
    · intro s sub' gs'
      exact owner_of_map (gplace s) (fun sub => by split <;> rfl) htw.ownerless gs'
    · obtain ⟨v', hv', hshut, hconfig', hnext'⟩ := Hub.service?_close_of_open hv hvopen
      refine ⟨v', _, hv', gservice, hconfig'.trans hconfig, hnext'.trans hnext, hshut, ?_⟩
      -- What were left in the live set would be valid, and a closed service has nothing valid.
      rw [Hub.stillValid_eq_filter, List.filter_nil, List.eq_nil_iff_forall_not_mem]
      intro s hmem
      obtain ⟨sub, hs, hvalid⟩ := Hub.isValid_iff.mp (hsettled.isValid_of_mem hmem)
      obtain ⟨id, hentry⟩ := (Hub.mem_liveSubscriptions hv' s).mp hmem
      obtain ⟨sub', hs', howner, -⟩ := hsettled.live.owned hv' hentry
      exact hsettled.awaited_of_closed hv' hshut hs' howner
        (Option.some.inj (hs.symm.trans hs') ▸ hvalid)

/-- A retrieval changes nothing that shows elsewhere. -/
theorem poll (htw : Twins k j h g) : Twins k j (h.poll k).hub g := by
  obtain ⟨hsettled, hsound⟩ :=
    (Request.poll : Request R C).settled_perform k htw.settled htw.queueSound
  rw [Request.perform_poll] at hsettled hsound
  obtain ⟨v, w, hv, hw, hconfig, hnext, hopen, hlive⟩ := htw.services
  have hservice := Hub.service?_poll h k k
  rw [hv, Option.map_some, if_pos rfl] at hservice
  have hplace := Hub.subscription?_poll h k
  constructor
  · exact hsettled
  · exact hsound
  · intro s
    rw [← htw.bare_eq, hplace, Option.map_map]
    refine Option.map_congr fun sub _ => ?_
    dsimp only [Function.comp_apply]
    split <;> rfl
  · intro s sub' hs'
    exact owner_of_map (hplace s) (fun sub => by split <;> rfl) htw.owned hs'
  · exact htw.ownerless
  · have hlive' : (h.poll k).hub.liveSubscriptions k = h.liveSubscriptions k := by
      rw [Hub.liveSubscriptions_of_service? hservice, Hub.liveSubscriptions_of_service? hv]
      split <;> rfl
    rw [← hlive'] at hlive
    refine ⟨_, w, hservice, hw, ?_, ?_, ?_, hlive⟩
    · split <;> exact hconfig
    · split <;> exact hnext
    · split <;> exact hopen

end Twins

end PathWatch
