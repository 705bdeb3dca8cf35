import Mathlib
import PathWatch.Proofs.Queue.Order
/-!
# Live sets

The live set of a service lists its subscriptions by their identifiers. Every subscription that has
not been cancelled is on the list; one that has been cancelled is struck from it some time later.
-/

namespace PathWatch

variable {R C : Type}

/-! ## The invariant -/

/-- Whether the subscription is there and has been cancelled. -/
def Hub.IsCancelled (h : Hub R C) (s : SubscriptionRef) : Prop :=
  ∃ sub, h.subscription? s = some sub ∧ sub.state = .cancelled

/-- Identifiers are given once, and live sets list subscriptions of their service, those that have
not been cancelled among them. -/
structure Hub.LiveSound (h : Hub R C) : Prop where
  id_lt : ∀ {s sub k v}, h.subscription? s = some sub → sub.owner = some k →
    h.service? k = some v → sub.id.value < v.nextId
  id_inj : ∀ {s s' sub sub' k}, h.subscription? s = some sub → h.subscription? s' = some sub' →
    sub.owner = some k → sub'.owner = some k → sub.id = sub'.id → s = s'
  owned : ∀ {k v id s}, h.service? k = some v → (id, s) ∈ v.live →
    ∃ sub, h.subscription? s = some sub ∧ sub.owner = some k ∧ sub.id = id
  listed : ∀ {s sub k v}, h.subscription? s = some sub → sub.owner = some k →
    h.service? k = some v → sub.state ≠ .cancelled → (sub.id, s) ∈ v.live

theorem Hub.LiveSound.empty : Hub.LiveSound ({} : Hub R C) where
  id_lt hs := by simp at hs
  id_inj hs := by simp at hs
  owned hv := by simp at hv
  listed hs := by simp at hs

/-! ## Striking -/

/-- What is left of a service when a subscription has been struck from its live set. -/
theorem service?_of_forget {h : Hub R C} {s : SubscriptionRef} {sub : Subscription R C}
    (hs : h.subscription? s = some sub) {k : ServiceRef} {v' : NotificationService}
    (hv' : (h.forget s).service? k = some v') :
    ∃ v, h.service? k = some v ∧ v'.isOpen = v.isOpen ∧ v'.nextId = v.nextId ∧
      ∀ entry, entry ∈ v'.live ↔ entry ∈ v.live ∧ ¬ (sub.owner = some k ∧ entry.1 = sub.id) := by
  rw [Hub.service?_forget hs] at hv'
  obtain ⟨v, hv, rfl⟩ := Option.map_eq_some_iff.mp hv'
  refine ⟨v, hv, ?_⟩
  by_cases howner : sub.owner = some k
  · rw [if_pos howner]
    exact ⟨rfl, rfl, fun entry => by simp [howner]⟩
  · rw [if_neg howner]
    exact ⟨rfl, rfl, fun entry => by simp [howner]⟩

/-- Striking a cancelled subscription keeps the live sets in order. -/
theorem Hub.LiveSound.forget {h : Hub R C} (hh : h.LiveSound) {s : SubscriptionRef}
    (hs : h.IsCancelled s) : (h.forget s).LiveSound := by
  obtain ⟨gone, hgone, hstate⟩ := hs
  constructor
  · intro s' sub k v' hs' howner hv'
    obtain ⟨v, hv, -, hnext, -⟩ := service?_of_forget hgone hv'
    rw [subscription?_forget] at hs'
    rw [hnext]
    exact hh.id_lt hs' howner hv
  · intro s₁ s₂ sub₁ sub₂ k hs₁ hs₂
    rw [subscription?_forget] at hs₁ hs₂
    exact hh.id_inj hs₁ hs₂
  · intro k v' id s' hv' hmem
    obtain ⟨v, hv, -, -, hlive⟩ := service?_of_forget hgone hv'
    rw [subscription?_forget]
    exact hh.owned hv ((hlive _).mp hmem).1
  · intro s' sub k v' hs' howner hv' hvalid
    obtain ⟨v, hv, -, -, hlive⟩ := service?_of_forget hgone hv'
    rw [subscription?_forget] at hs'
    refine (hlive _).mpr ⟨hh.listed hs' howner hv hvalid, ?_⟩
    -- What is struck has the identifier of the cancelled one, so it is the cancelled one.
    rintro ⟨howner', hid⟩
    obtain rfl : s' = s := hh.id_inj hs' hgone howner howner' hid
    obtain rfl : sub = gone := Option.some.inj (hs'.symm.trans hgone)
    exact hvalid hstate

/-! ## What an action does to a live set -/

/-- A retrieval registers nothing. -/
theorem Action.registers_of_retrieves {h : Hub R C} {a : Action R C} {k : ServiceRef}
    {s : SubscriptionRef} (hr : a.retrieves h k = some s) : a.registers h k = none := by
  cases a <;> first | rfl | simp [retrieves] at hr

/-- A live set is changed by strikes and by registrations only. -/
theorem ServiceChange.live_cases {h : Hub R C} {a : Action R C} {k : ServiceRef}
    {v v' : NotificationService} (hc : ServiceChange h a k v v') (ha : a.strikes = false) :
    (v'.live = v.live ∧ v'.nextId = v.nextId ∧ a.registers h k = none ∧
      (a = .shut k ∨ v'.isOpen = v.isOpen)) ∨
    (v'.isOpen = true ∧ a.registers h k = some h.subscriptions.size ∧
      v'.nextId = v.nextId + 1 ∧
      v'.live = v.live.filter (fun entry => entry.1 ≠ ⟨v.nextId⟩) ++
        [(⟨v.nextId⟩, h.subscriptions.size)]) := by
  cases hc with
  | kept handles hretrieves hregisters => exact Or.inl ⟨rfl, rfl, hregisters, Or.inr rfl⟩
  | registered hopen hregisters hretrieves => exact Or.inr ⟨hopen, hregisters, rfl, rfl⟩
  | appended s happends hopen =>
    exact Or.inl ⟨rfl, rfl, by rcases happends with rfl | rfl <;> rfl, Or.inr rfl⟩
  | retrieved s rest hopen hqueue hretrieves =>
    exact Or.inl ⟨rfl, rfl, Action.registers_of_retrieves hretrieves, Or.inr rfl⟩
  | struck live hstrikes => simp [ha] at hstrikes
  | closed live hshut hlive hopen =>
    rcases hshut with rfl | rfl
    · exact Or.inl ⟨hlive rfl, rfl, rfl, Or.inl rfl⟩
    · simp [Action.strikes] at ha

variable [BEq C]

/-- What an action that strikes nothing does to a service: the live set stays as it is, or it gets
one more subscription, or the service is new. -/
theorem live_cases_apply {h : Hub R C} {a : Action R C} (ha : a.strikes = false) {k : ServiceRef}
    {v' : NotificationService} (hv' : (a.apply h).service? k = some v') :
    (∃ v, h.service? k = some v ∧ v'.live = v.live ∧ v'.nextId = v.nextId ∧
      a.registers h k = none ∧ (a = .shut k ∨ v'.isOpen = v.isOpen)) ∨
    (∃ v, h.service? k = some v ∧ v'.isOpen = true ∧
      a.registers h k = some h.subscriptions.size ∧ v'.nextId = v.nextId + 1 ∧
      v'.live = v.live.filter (fun entry => entry.1 ≠ ⟨v.nextId⟩) ++
        [(⟨v.nextId⟩, h.subscriptions.size)]) ∨
    (k = h.services.size ∧ v'.isOpen = true ∧ v'.live = []) := by
  rcases service?_apply hv' with ⟨v, hv, hc⟩ | ⟨hnew, config, -, rfl⟩
  · rcases hc.live_cases ha with hsame | hgrown
    · exact Or.inl ⟨v, hv, hsame⟩
    · exact Or.inr (Or.inl ⟨v, hv, hgrown⟩)
  · exact Or.inr (Or.inr ⟨hnew, rfl, rfl⟩)

/-- An action that strikes keeps some entries of every live set. -/
theorem live_of_strikes {h : Hub R C} {a : Action R C} (ha : a.strikes = true) {k : ServiceRef}
    {v' : NotificationService} (hv' : (a.apply h).service? k = some v') :
    ∃ v keep, h.service? k = some v ∧ v'.nextId = v.nextId ∧ v'.live = v.live.filter keep := by
  have of_thinned : ∀ {g : Hub R C}, h.Thinned k (g.service? k) → g.service? k = some v' →
      ∃ v keep, h.service? k = some v ∧ v'.nextId = v.nextId ∧ v'.live = v.live.filter keep := by
    rintro g ⟨keep, hkeep⟩ hg
    rw [hg] at hkeep
    obtain ⟨v, hv, rfl⟩ := Option.map_eq_some_iff.mp hkeep.symm
    exact ⟨v, keep, hv, rfl, rfl⟩
  cases a with
  | cancel s => exact of_thinned (Hub.thinned_cancel h s k) hv'
  | deregister k' s =>
    rw [Action.apply, Hub.deregister] at hv'
    split at hv'
    · exact of_thinned (.refl h k) hv'
    · split at hv'
      · exact of_thinned (Hub.thinned_cancel h s k) hv'
      · exact of_thinned (.refl h k) hv'
  | forget s => exact of_thinned (Hub.thinned_forget h s k) hv'
  | close k' =>
    rw [Action.apply, Hub.close_hub] at hv'
    split at hv'
    · -- Shutting changes no live set, and what is cancelled afterwards is struck.
      obtain ⟨keep, hkeep⟩ :=
        Hub.thinned_cancelAll (h.shut k').2 ((h.shut k').2.liveSubscriptions k') k
      rw [hv', Hub.service?_shut, Option.map_map] at hkeep
      obtain ⟨v, hv, rfl⟩ := Option.map_eq_some_iff.mp hkeep.symm
      refine ⟨v, keep, hv, ?_⟩
      simp only [Function.comp_apply]
      split_ifs <;> exact ⟨rfl, rfl⟩
    · exact of_thinned (.refl h k) hv'
  | closeSilent k' =>
    rw [Action.apply] at hv'
    rcases Hub.closeSilent_cases h k' with hc | ⟨f, l, hc⟩
    · rw [hc] at hv'
      exact of_thinned (.refl h k) hv'
    · rw [hc] at hv'
      exact of_thinned (Hub.thinned_cancelAll (h.modifySilent k' f) l k) hv'
  | _ => simp [Action.strikes] at ha

/-- What an action does to a live set: it keeps some entries, or puts the subscription that it makes
under the next number, or the service is new. -/
theorem live_apply {h : Hub R C} {a : Action R C} {k : ServiceRef} {v' : NotificationService}
    (hv' : (a.apply h).service? k = some v') :
    (∃ v keep, h.service? k = some v ∧ a.registers h k = none ∧ v'.nextId = v.nextId ∧
      v'.live = v.live.filter keep) ∨
    (∃ v keep, h.service? k = some v ∧ a.registers h k = some h.subscriptions.size ∧
      v'.nextId = v.nextId + 1 ∧
      v'.live = v.live.filter keep ++ [(⟨v.nextId⟩, h.subscriptions.size)]) ∨
    (k = h.services.size ∧ a.registers h k = none ∧ v'.nextId = 1 ∧ v'.live = []) := by
  by_cases ha : a.strikes = true
  · obtain ⟨v, keep, hv, hnext, hlive⟩ := live_of_strikes ha hv'
    have hnone : a.registers h k = none := by
      cases a <;> first | rfl | simp [Action.strikes] at ha
    exact Or.inl ⟨v, keep, hv, hnone, hnext, hlive⟩
  · rcases service?_apply hv' with ⟨v, hv, hc⟩ | ⟨hnew, config, rfl, rfl⟩
    · rcases hc.live_cases (by simpa using ha) with
        ⟨hlive, hnext, hnone, -⟩ | ⟨-, hregisters, hnext, hlive⟩
      · exact Or.inl ⟨v, fun _ => true, hv, hnone, hnext, by simp [hlive]⟩
      · exact Or.inr (Or.inl ⟨v, _, hv, hregisters, hnext, hlive⟩)
    · exact Or.inr (Or.inr ⟨hnew, rfl, rfl, rfl⟩)

/-- What a live set lists it has listed before, or it has just been registered. -/
theorem mem_live_of_apply {h : Hub R C} {a : Action R C} {k : ServiceRef} {v' : NotificationService}
    (hv' : (a.apply h).service? k = some v') {entry : SubscriptionId × SubscriptionRef}
    (hentry : entry ∈ v'.live) :
    (∃ v, h.service? k = some v ∧ entry ∈ v.live) ∨
      ∃ v, h.service? k = some v ∧ a.registers h k = some h.subscriptions.size ∧
        entry = (⟨v.nextId⟩, h.subscriptions.size) := by
  rcases live_apply hv' with
    ⟨v, keep, hv, -, -, hlive⟩ | ⟨v, keep, hv, hregisters, -, hlive⟩ | ⟨-, -, -, hlive⟩
  · rw [hlive] at hentry
    exact Or.inl ⟨v, hv, (List.mem_filter.mp hentry).1⟩
  · rw [hlive] at hentry
    rcases List.mem_append.mp hentry with hold | hnew
    · exact Or.inl ⟨v, hv, (List.mem_filter.mp hold).1⟩
    · exact Or.inr ⟨v, hv, hregisters, List.mem_singleton.mp hnew⟩
  · simp [hlive] at hentry

omit [BEq C] in
/-- A new subscription takes the next place. -/
theorem Action.eq_size_of_registers {h : Hub R C} {a : Action R C} {k : ServiceRef}
    {s : SubscriptionRef} (hr : a.registers h k = some s) : s = h.subscriptions.size := by
  cases a with
  | register k' resource kinds =>
    rcases Hub.register_cases h k' resource kinds with ⟨e, hcall⟩ | ⟨v, -, -, hcall⟩
    · simp [registers, hcall] at hr
    · obtain ⟨-, rfl⟩ : k' = k ∧ h.subscriptions.size = s := by simpa [registers, hcall] using hr
      rfl
  | _ => simp [registers] at hr

/-- What an action makes as a subscription of a service gets the next number of the service. -/
theorem id_of_registers {h : Hub R C} {a : Action R C} {k : ServiceRef} {s : SubscriptionRef}
    (hr : a.registers h k = some s) :
    ∃ v sub, h.service? k = some v ∧ (a.apply h).subscription? s = some sub ∧
      sub.owner = some k ∧ sub.id = ⟨v.nextId⟩ := by
  obtain ⟨sub, hs, howner⟩ := subscription?_of_registers hr
  have hnone : h.subscription? s = none := by
    rw [Action.eq_size_of_registers hr]
    simp [Hub.subscription?]
  have hfresh := fresh_of_apply hnone hs
  obtain ⟨v, hv, -⟩ := Hub.service?_of_isOpen (hfresh.registers_of_owner k howner).2
  exact ⟨v, sub, hv, hs, howner, hfresh.id_eq k v howner hv⟩

/-- As long as live sets list subscriptions of their services under their identifiers, they do so
after any action. -/
theorem owned_apply {h : Hub R C} {a : Action R C}
    (hh : ∀ {k v id s}, h.service? k = some v → (id, s) ∈ v.live →
      ∃ sub, h.subscription? s = some sub ∧ sub.owner = some k ∧ sub.id = id)
    {k : ServiceRef} {v' : NotificationService} {id : SubscriptionId} {s : SubscriptionRef}
    (hv' : (a.apply h).service? k = some v') (hmem : (id, s) ∈ v'.live) :
    ∃ sub, (a.apply h).subscription? s = some sub ∧ sub.owner = some k ∧ sub.id = id := by
  rcases mem_live_of_apply hv' hmem with ⟨v, hv, hbefore⟩ | ⟨v, hv, hregisters, hnow⟩
  · obtain ⟨sub, hs, howner, hid⟩ := hh hv hbefore
    obtain ⟨sub', hs', hc⟩ := subscription?_apply hs a
    exact ⟨sub', hs', hc.owner_eq.trans howner, hc.id_eq.trans hid⟩
  · obtain ⟨rfl, rfl⟩ := Prod.mk.inj hnow
    obtain ⟨w, sub, hw, hs, howner, hid⟩ := id_of_registers hregisters
    obtain rfl : v = w := Option.some.inj (hv.symm.trans hw)
    exact ⟨sub, hs, howner, hid⟩

/-- The service of a new subscription was there, was open and counts one more. -/
theorem Fresh.service_cases {h : Hub R C} {a : Action R C} {s : SubscriptionRef}
    {sub : Subscription R C} {k : ServiceRef} (hfresh : Fresh h a s sub)
    (howner : sub.owner = some k) (ha : a.strikes = false) {v' : NotificationService}
    (hv' : (a.apply h).service? k = some v') :
    ∃ v, h.service? k = some v ∧ v.isOpen = true ∧ v'.isOpen = true ∧ sub.id = ⟨v.nextId⟩ ∧
      s = h.subscriptions.size ∧ v'.nextId = v.nextId + 1 ∧ (sub.id, s) ∈ v'.live := by
  obtain ⟨hregisters, hopen⟩ := hfresh.registers_of_owner k howner
  obtain ⟨w, hw, hwopen⟩ := Hub.service?_of_isOpen hopen
  have hid := hfresh.id_eq k w howner hw
  rcases live_cases_apply ha hv' with
    ⟨v, -, -, -, hnone, -⟩ | ⟨v, hv, hopen', hsize, hnext, hlive⟩ | ⟨hnew, -⟩
  · simp [hregisters] at hnone
  · obtain rfl : w = v := Option.some.inj (hw.symm.trans hv)
    obtain rfl : s = h.subscriptions.size := Option.some.inj (hregisters.symm.trans hsize)
    refine ⟨w, hw, hwopen, hopen', hid, rfl, hnext, ?_⟩
    rw [hlive, hid]
    exact List.mem_append_right _ (List.mem_singleton_self _)
  · exact absurd hnew (Nat.ne_of_lt (Hub.lt_size_of_service? hw))

/-! ## Steps -/

/-- Every action that strikes nothing keeps the live sets in order. -/
theorem Hub.LiveSound.apply {h : Hub R C} (hh : h.LiveSound) (hq : h.QueueSound) {a : Action R C}
    (ha : a.strikes = false) : (a.apply h).LiveSound := by
  -- What has been registered belongs to a service that was there, not to one that is only added.
  have not_new : ∀ {s sub k}, h.subscription? s = some sub → sub.owner = some k →
      k ≠ h.services.size := by
    intro s sub k hs howner
    exact Nat.ne_of_lt (hq.lt_size_of_owner hs howner)
  constructor
  · intro s sub' k v' hs' howner hv'
    rcases subscription?_of_apply hs' with ⟨sub, hs, hc⟩ | ⟨-, hfresh⟩
    · rw [hc.owner_eq] at howner
      rw [hc.id_eq]
      rcases live_cases_apply ha hv' with
        ⟨v, hv, -, hnext, -⟩ | ⟨v, hv, -, -, hnext, -⟩ | ⟨hnew, -⟩
      · rw [hnext]
        exact hh.id_lt hs howner hv
      · rw [hnext]
        exact Nat.lt_succ_of_lt (hh.id_lt hs howner hv)
      · exact absurd hnew (not_new hs howner)
    · obtain ⟨v, -, -, -, hid, -, hnext, -⟩ := hfresh.service_cases howner ha hv'
      rw [hid, hnext]
      exact Nat.lt_succ_self _
  · -- A new identifier differs from those given before, and at most one is given.
    have old_ne_new : ∀ {s s' sub sub₁ sub' k}, h.subscription? s = some sub →
        SubscriptionChange h a s sub sub₁ → Fresh h a s' sub' → sub₁.owner = some k →
        sub'.owner = some k → sub₁.id ≠ sub'.id := by
      intro s s' sub sub₁ sub' k hs hc hfresh howner howner' hid
      obtain ⟨v, hv, -⟩ := Hub.service?_of_isOpen (hfresh.registers_of_owner k howner').2
      have hlt := hh.id_lt hs (hc.owner_eq ▸ howner) hv
      rw [← hc.id_eq, hid, hfresh.id_eq k v howner' hv] at hlt
      exact Nat.lt_irrefl _ hlt
    intro s s' sub₁ sub₂ k hs₁ hs₂ howner₁ howner₂ hid
    rcases subscription?_of_apply hs₁ with ⟨sub, hs, hc⟩ | ⟨-, hfresh⟩
    · rcases subscription?_of_apply hs₂ with ⟨sub', hs', hc'⟩ | ⟨-, hfresh'⟩
      · refine hh.id_inj hs hs' (hc.owner_eq ▸ howner₁) (hc'.owner_eq ▸ howner₂) ?_
        rw [← hc.id_eq, ← hc'.id_eq, hid]
      · exact absurd hid (old_ne_new hs hc hfresh' howner₁ howner₂)
    · rcases subscription?_of_apply hs₂ with ⟨sub', hs', hc'⟩ | ⟨-, hfresh'⟩
      · exact absurd hid.symm (old_ne_new hs' hc' hfresh howner₂ howner₁)
      · exact Option.some.inj ((hfresh.registers_of_owner k howner₁).1.symm.trans
          (hfresh'.registers_of_owner k howner₂).1)
  · exact fun hv' hmem => owned_apply hh.owned hv' hmem
  · intro s sub' k v' hs' howner hv' hvalid
    rcases subscription?_of_apply hs' with ⟨sub, hs, hc⟩ | ⟨-, hfresh⟩
    · rw [hc.owner_eq] at howner
      have hvalid' : sub.state ≠ .cancelled := fun hstate => hvalid (hc.state_eq_cancelled hstate)
      rw [hc.id_eq]
      rcases live_cases_apply ha hv' with
        ⟨v, hv, hlive, -⟩ | ⟨v, hv, -, -, -, hlive⟩ | ⟨hnew, -⟩
      · rw [hlive]
        exact hh.listed hs howner hv hvalid'
      · -- The new entry replaces none: its identifier has not been given before.
        rw [hlive]
        refine List.mem_append_left _ (List.mem_filter.mpr ⟨hh.listed hs howner hv hvalid', ?_⟩)
        have hlt := hh.id_lt hs howner hv
        simp only [decide_eq_true_eq]
        intro hid
        rw [hid] at hlt
        exact Nat.lt_irrefl _ hlt
      · exact absurd hnew (not_new hs howner)
    · obtain ⟨v, -, -, -, -, -, -, hmem⟩ := hfresh.service_cases howner ha hv'
      exact hmem

end PathWatch
