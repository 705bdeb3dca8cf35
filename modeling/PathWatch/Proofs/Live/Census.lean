import Mathlib
import PathWatch.Proofs.Live.Pruned
import PathWatch.Proofs.Owner.Request
import PathWatch.Proofs.Queue.Delivery
/-!
# What is live

A service with a queue is told of every cancellation and strikes what is cancelled from its live set
at once. A silent one is not told and looks through its list when it is used. Between whole calls
both count the same: what they have registered and nobody has cancelled.
-/

namespace PathWatch

variable {R C : Type} [BEq C]

namespace History

/-! ## Services with a queue -/

/-- What has been registered and is valid is there and belongs to the service. -/
theorem exists_of_isValid (past : History R C) {k : ServiceRef} {s : SubscriptionRef}
    (hs : s ∈ past.registered k) (hvalid : past.hub.isValid s = true) :
    ∃ sub, past.hub.subscription? s = some sub ∧ sub.owner = some k ∧ sub.state ≠ .cancelled := by
  obtain ⟨sub, hsub, howner⟩ := (past.mem_registered_iff k s).mp hs
  obtain ⟨sub', hsub', hstate⟩ := Hub.isValid_iff.mp hvalid
  obtain rfl : sub = sub' := Option.some.inj (hsub.symm.trans hsub')
  exact ⟨sub, hsub, howner, hstate⟩

/-- Between whole calls a live set lists what is valid of what the service has registered, in the
order of registration. -/
theorem map_snd_live_eq (past : History R C) (hwhole : ∀ a ∈ past, a.whole = true) {k : ServiceRef}
    {v : NotificationService} (hv : past.hub.service? k = some v) :
    v.live.map Prod.snd = past.hub.stillValid (past.registered k) := by
  have hsettled := past.settled hwhole
  have hlive := Hub.liveSubscriptions_of_service? hv
  have hvalid : past.hub.stillValid (v.live.map Prod.snd) = v.live.map Prod.snd :=
    Hub.stillValid_eq_self fun _ hs => hsettled.isValid_of_mem (hlive ▸ hs)
  rw [← hvalid]
  refine Hub.stillValid_of_sublist (past.sublist_registered hv)
    (past.numbered_registered k).nodup fun s hs hgood => ?_
  obtain ⟨sub, hsub, howner, hstate⟩ := past.exists_of_isValid hs hgood
  exact hlive ▸ hsettled.mem_of_owner hv hsub howner hstate

theorem liveCount_eq (past : History R C) (hwhole : ∀ a ∈ past, a.whole = true) {k : ServiceRef}
    {v : NotificationService} (hv : past.hub.service? k = some v) :
    past.hub.liveCount k = (past.hub.stillValid (past.registered k)).length := by
  rw [← past.map_snd_live_eq hwhole hv, List.length_map]
  simp [Hub.liveCount, hv]

/-- Nothing is live once the service is not open. -/
theorem liveCount_eq_zero (past : History R C) (hwhole : ∀ a ∈ past, a.whole = true)
    {k : ServiceRef} (hclosed : past.hub.isOpen k = false) : past.hub.liveCount k = 0 := by
  rcases hv : past.hub.service? k with _ | v
  · simp [Hub.liveCount, hv]
  · rw [past.liveCount_eq hwhole hv, List.length_eq_zero_iff, List.eq_nil_iff_forall_not_mem]
    intro s hs
    obtain ⟨hregistered, hvalid⟩ := List.mem_filter.mp hs
    obtain ⟨sub, hsub, howner, hstate⟩ := past.exists_of_isValid hregistered hvalid
    rw [Hub.isOpen_of_service? hv] at hclosed
    exact (past.settled hwhole).awaited_of_closed hv hclosed hsub howner hstate

/-- A service that has been closed is not open, whatever is done afterwards. -/
theorem isOpen_of_close (later earlier : History R C) {k : ServiceRef}
    (hk : k < earlier.hub.services.size) :
    (hub (later ++ .close k :: earlier)).isOpen k = false :=
  isOpen_append (.close k :: earlier)
    (hk.trans_le (size_services_le_apply earlier.hub (.close k)))
    (isOpen_apply_shut (Or.inr rfl)) later

/-! ## Silent services -/

theorem stillValid_registeredSilent (past : History R C) {j : SilentRef} {w : SilentService}
    (hw : past.hub.silent[j]? = some w) :
    past.hub.stillValid w.registered = past.hub.stillValid (past.registeredSilent j) :=
  Hub.stillValid_of_sublist (past.keeps hw).sublist (past.numbered_registeredSilent j).nodup
    (past.keeps hw).mem_of_isValid

theorem liveCountSilent_eq (past : History R C) {j : SilentRef} {w : SilentService}
    (hw : past.hub.silent[j]? = some w) :
    (past.hub.liveCountSilent j).value =
      (past.hub.stillValid (past.registeredSilent j)).length := by
  rw [(Hub.liveCountSilent_of_silent hw).1, past.stillValid_registeredSilent hw]

/-- A silent service that has been closed has an empty list, whatever is done afterwards. -/
theorem registered_of_closeSilent (later earlier : History R C) {j : SilentRef}
    (hj : j < earlier.hub.silent.size) :
    ∃ w, (hub (later ++ .closeSilent j :: earlier)).silent[j]? = some w ∧ w.isOpen = false ∧
      w.registered = [] := by
  have closed : ∃ w, (hub (later ++ .closeSilent j :: earlier)).silent[j]? = some w ∧
      w.isOpen = false := by
    induction later with
    | nil =>
      obtain ⟨w, hw, hc⟩ := silent_apply (Array.getElem?_eq_getElem hj) (.closeSilent j)
      refine ⟨w, hw, ?_⟩
      cases hc with
      | kept hregisters hcount hclose => exact hclose rfl
      | registered hopen hregisters => simp [Action.registersSilent] at hregisters
      | pruned ha => simp at ha
      | closed ha hopen => rfl
    | cons a later ih =>
      obtain ⟨w, hw, hclosed⟩ := ih
      obtain ⟨w', hw', hc⟩ := silent_apply hw a
      refine ⟨w', hw', ?_⟩
      cases hc with
      | registered hopen hregisters => simp [hclosed] at hopen
      | closed ha hopen => rfl
      | _ => exact hclosed
  obtain ⟨w, hw, hclosed⟩ := closed
  exact ⟨w, hw, hclosed, (keeps _ hw).eq_nil_of_closed hclosed⟩

/-- A registration or a count leaves on the list what is valid and nothing else. -/
theorem registered_eq_stillValid (past : History R C) {a : Action R C} {j : SilentRef}
    {w : SilentService} (hw : (hub (a :: past)).silent[j]? = some w)
    (ha : a = .liveCountSilent j ∨ ∃ s, a.registersSilent past.hub j = some s) :
    w.registered = (hub (a :: past)).stillValid (registeredSilent j (a :: past)) := by
  rw [← stillValid_registeredSilent (a :: past) hw]
  refine (Hub.stillValid_eq_self fun s hs => ?_).symm
  have hcancels : a.cancels = false := by
    rcases ha with rfl | ⟨s', hs'⟩
    · rfl
    · cases a <;> first | rfl | simp [Action.registersSilent] at hs'
  rcases silent_cases past a hw with ⟨w₀, -, hc⟩ | ⟨rfl, -⟩
  · cases hc with
    | kept hregisters hcount hclose => simp [hregisters, hcount] at ha
    | registered hopen hregisters =>
      rcases List.mem_append.mp hs with hold | hnew
      · exact isValid_apply hcancels (List.mem_filter.mp hold).2
      · obtain rfl := List.mem_singleton.mp hnew
        exact isValid_of_registersSilent hregisters
    | pruned hcount => exact isValid_apply hcancels (List.mem_filter.mp hs).2
    | closed hclose hopen => simp at hs
  · simp at hs

/-! ## The main statement -/

/-- What a service with a queue has registered, lists and counts. -/
structure LiveExact (past : History R C) (k : ServiceRef) : Prop where
  numbered : past.hub.Numbered (past.registered k)
  live_eq : ∀ v, past.hub.service? k = some v →
    v.live.map Prod.snd = past.hub.stillValid (past.registered k)
  number?_eq : ∀ v, past.hub.service? k = some v → ∀ entry ∈ v.live,
    past.hub.number? entry.2 = some entry.1.value
  liveCount_eq : ∀ v, past.hub.service? k = some v →
    past.hub.liveCount k = (past.hub.stillValid (past.registered k)).length
  liveCount_of_close : ∀ later earlier : History R C, past = later ++ .close k :: earlier →
    k < earlier.hub.services.size → past.hub.liveCount k = 0

/-- What a silent service has registered, lists and counts. -/
structure ListExact (past : History R C) (j : SilentRef) : Prop where
  numbered : past.hub.Numbered (past.registeredSilent j)
  list_sublist : ∀ w, past.hub.silent[j]? = some w →
    w.registered.Sublist (past.registeredSilent j) ∧ w.registered.Nodup
  mem_list : ∀ w, past.hub.silent[j]? = some w → ∀ s ∈ past.registeredSilent j,
    past.hub.isValid s = true → s ∈ w.registered
  list_eq : ∀ (a : Action R C) (earlier : History R C) (w : SilentService),
    past = a :: earlier → past.hub.silent[j]? = some w →
    (a = .liveCountSilent j ∨ ∃ s, a.registersSilent earlier.hub j = some s) →
    w.registered = past.hub.stillValid (past.registeredSilent j)
  liveCount_eq : ∀ w, past.hub.silent[j]? = some w →
    (past.hub.liveCountSilent j).value = (past.hub.stillValid (past.registeredSilent j)).length
  liveCount_of_close : ∀ later earlier : History R C, past = later ++ .closeSilent j :: earlier →
    j < earlier.hub.silent.size → (past.hub.liveCountSilent j).value = 0

/-- In every run of whole calls every service numbers its subscriptions from one on, in the order of
registration and without a gap, and counts those that nobody has cancelled; once it has been closed
it counts none. The live set of a service with a queue lists those, each under its own number. The
list of a silent service has each of them once, in the order of registration, and after a
registration or a count it has nothing else. -/
theorem live_sets_exact (past : History R C) (hwhole : ∀ a ∈ past, a.whole = true) :
    (∀ k, past.LiveExact k) ∧ ∀ j, past.ListExact j := by
  refine ⟨fun k => ?_, fun j => ?_⟩
  · constructor
    · exact past.numbered_registered k
    · exact fun v hv => past.map_snd_live_eq hwhole hv
    · intro v hv entry hentry
      obtain ⟨sub, hs, -, hid⟩ := past.exists_of_mem_live hv hentry
      rw [Hub.number?, hs, Option.map_some, hid]
    · exact fun v hv => past.liveCount_eq hwhole hv
    · rintro later earlier rfl hk
      exact liveCount_eq_zero _ hwhole (isOpen_of_close later earlier hk)
  · constructor
    · exact past.numbered_registeredSilent j
    · intro w hw
      have hsub := (past.keeps hw).sublist
      exact ⟨hsub, hsub.nodup (past.numbered_registeredSilent j).nodup⟩
    · exact fun w hw => (past.keeps hw).mem_of_isValid
    · rintro a earlier w rfl hw ha
      exact registered_eq_stillValid earlier hw ha
    · exact fun w hw => past.liveCountSilent_eq hw
    · rintro later earlier rfl hj
      obtain ⟨w, hw, -, hnil⟩ := registered_of_closeSilent later earlier hj
      rw [(Hub.liveCountSilent_of_silent hw).1, hnil]
      rfl

/-- A service and a silent one register three subscriptions each, with a failing registration in
between, and the second one of each is cancelled. The live set has lost it and the list has not, and
both count two. Then both are closed. -/
theorem live_sets_exact_of_cancellation :
    let before : History Nat Nat :=
      [.cancel 3, .deregister 0 2, .registerSilent 0 50 [.modify], .register 0 20 [.modify],
        .registerSilent 0 50 [.modify], .register 0 20 [.modify], .registerSilent 0 40 [],
        .register 0 40 [], .registerSilent 0 40 [.modify], .register 0 10 [.modify], .addSilent,
        .withConfig .standard]
    let after : History Nat Nat := .closeSilent 0 :: .close 0 :: before
    before.registered 0 = [0, 2, 4] ∧ before.registeredSilent 0 = [1, 3, 5] ∧
    (before.hub.service? 0).map (fun v => v.live.map fun entry => (entry.1.value, entry.2)) =
      some [(1, 0), (3, 4)] ∧
    before.hub.silent[0]?.map (fun w => w.registered) = some [1, 3, 5] ∧
    before.LiveExact 0 ∧ before.ListExact 0 ∧
    before.hub.liveCount 0 = 2 ∧ (before.hub.liveCountSilent 0).value = 2 ∧
    after.hub.liveCount 0 = 0 ∧ (after.hub.liveCountSilent 0).value = 0 := by
  intro before after
  have hwhole : ∀ a ∈ after, a.whole = true := by decide
  have hbefore := live_sets_exact before fun a ha => hwhole a (by simp [after, ha])
  have hafter := live_sets_exact after hwhole
  refine ⟨by decide, by decide, by decide, by decide, hbefore.1 0, hbefore.2 0, by decide,
    by decide, ?_, ?_⟩
  · exact (hafter.1 0).liveCount_of_close [.closeSilent 0] before rfl (by decide)
  · exact (hafter.2 0).liveCount_of_close [] (.close 0 :: before) rfl (by decide)

end History

end PathWatch
