import Mathlib
import PathWatch.Proofs.Hub.Silent
import PathWatch.Proofs.Live.Identifiers
/-!
# Lists that are pruned late

A silent service numbers its subscriptions as other services do, and does not hear of cancellations.
Its list may go on with what has been cancelled, in the order of registration; whenever something is
registered or counted the list is cut down to what is valid.
-/

namespace PathWatch

variable {R C : Type}

/-! ## What a silent service registers -/

/-- The subscription that an action makes and hands out as one of the silent service. -/
def Action.registersSilent (a : Action R C) (h : Hub R C) (j : SilentRef) :
    Option SubscriptionRef :=
  match a with
  | .registerSilent j' resource kinds =>
    if j' = j then
      match (h.registerSilent j' resource kinds).value with
      | .ok s => some s
      | .error _ => none
    else none
  | _ => none

/-- The subscriptions that the silent service has made, the first one first. -/
def History.registeredSilent [BEq C] (j : SilentRef) : History R C → List SubscriptionRef
  | [] => []
  | a :: past => registeredSilent j past ++ (a.registersSilent (hub past) j).toList

/-! ## What an action can do to a silent service -/

/-- What an action that finds the hub `h` can make of the silent service `j`. -/
inductive SilentChange (h : Hub R C) (a : Action R C) (j : SilentRef) (w : SilentService) :
    SilentService → Prop where
  | kept (hregisters : a.registersSilent h j = none) (hcount : a ≠ .liveCountSilent j)
      (hclose : a = .closeSilent j → w.isOpen = false) :
      SilentChange h a j w w
  | registered (hopen : w.isOpen = true)
      (hregisters : a.registersSilent h j = some h.subscriptions.size) :
      SilentChange h a j w
        { w with
          nextId := w.nextId + 1
          registered := h.stillValid w.registered ++ [h.subscriptions.size] }
  | pruned (ha : a = .liveCountSilent j) :
      SilentChange h a j w { w with registered := h.stillValid w.registered }
  | closed (ha : a = .closeSilent j) (hopen : w.isOpen = true) :
      SilentChange h a j w { w with isOpen := false, registered := [] }

/-- Whether an action is a call about silent services. -/
def Action.silent : Action R C → Bool
  | .addSilent | .registerSilent _ _ _ | .liveCountSilent _ | .closeSilent _ => true
  | _ => false

variable [BEq C]

/-- No other call is noticed by a silent service. -/
theorem silent_apply_of_other {a : Action R C} (ha : a.silent = false) (h : Hub R C) :
    (a.apply h).silent = h.silent := by
  cases a with
  | withConfig config =>
    rw [Action.apply]
    rcases Hub.withConfig_cases h config with ⟨e, hw⟩ | ⟨-, hw⟩ <;> simp [hw, Hub.addService]
  | retain k => rfl
  | release k =>
    simp only [Action.apply, Hub.release]
    repeat' split
    all_goals rfl
  | register k resource kinds =>
    rw [Action.apply]
    rcases Hub.register_cases h k resource kinds with ⟨e, hr⟩ | ⟨v, -, -, hr⟩ <;> rw [hr]
    rfl
  | post s e => exact Hub.silent_post h s e
  | offer s e => exact Hub.silent_offer h s e
  | signal s => exact Hub.silent_signal h s
  | drain s => exact Hub.silent_drain h s
  | reset s => exact Hub.silent_reset h s
  | poll k => exact Hub.silent_poll h k
  | pollTimeout k endless => rw [Action.apply, Hub.pollTimeout_hub, Hub.silent_poll]
  | take k => rw [Action.apply, Hub.take_hub, Hub.silent_poll]
  | cancel s => exact Hub.silent_cancel h s
  | deregister k s =>
    rw [Action.apply, Hub.deregister]
    split
    · rfl
    · split
      · exact Hub.silent_cancel h s
      · rfl
  | close k => exact Hub.silent_close h k
  | markCancelled s => exact Hub.silent_markCancelled h s
  | forget s => exact Hub.silent_forget h s
  | shut k => exact Hub.silent_shut h k
  | _ => simp [Action.silent] at ha

/-- Every action keeps a silent service and changes it in one of the ways of `SilentChange`. -/
theorem silent_apply {h : Hub R C} {j : SilentRef} {w : SilentService}
    (hw : h.silent[j]? = some w) (a : Action R C) :
    ∃ w', (a.apply h).silent[j]? = some w' ∧ SilentChange h a j w w' := by
  -- Calls about other services of the kind leave this one as it is.
  have kept : (a.apply h).silent[j]? = h.silent[j]? → a.registersSilent h j = none →
      a ≠ .liveCountSilent j → (a = .closeSilent j → w.isOpen = false) →
      ∃ w', (a.apply h).silent[j]? = some w' ∧ SilentChange h a j w w' :=
    fun hsame hregisters hcount hclose => ⟨w, hsame.trans hw, .kept hregisters hcount hclose⟩
  by_cases ha : a.silent = true
  · cases a with
    | addSilent =>
      have hne : j ≠ h.silent.size := Nat.ne_of_lt (Array.getElem?_eq_some_iff.mp hw).1
      exact kept (by simp [Action.apply, Hub.addSilent, Array.getElem?_push, hne]) rfl (by simp)
        (by simp)
    | registerSilent j' resource kinds =>
      by_cases hj : j' = j
      · subst hj
        by_cases hkinds : kinds = []
        · subst hkinds
          exact kept rfl (by simp [Action.registersSilent, Hub.registerSilent]) (by simp) (by simp)
        rcases hopen : w.isOpen with _ | _
        · have hclosed : h.isOpenSilent j' = false := by simp [Hub.isOpenSilent, hw, hopen]
          have hcall := Hub.registerSilent_of_closed hclosed resource hkinds
          exact kept (by rw [Action.apply, hcall]) (by simp [Action.registersSilent, hcall])
            (by simp) (by simp)
        · obtain ⟨hvalue, -, hafter⟩ := Hub.registerSilent_of_open hw hopen resource hkinds
          exact ⟨_, hafter, .registered hopen (by simp [Action.registersSilent, hvalue])⟩
      · exact kept (Hub.silent_registerSilent_of_ne h hj resource kinds)
          (by simp [Action.registersSilent, hj]) (by simp) (by simp)
    | liveCountSilent j' =>
      by_cases hj : j' = j
      · subst hj
        exact ⟨_, (Hub.liveCountSilent_of_silent hw).2, .pruned rfl⟩
      · exact kept (Hub.getElem?_modifySilent_of_ne h hj _) rfl (by simpa using hj) (by simp)
    | closeSilent j' =>
      by_cases hj : j' = j
      · subst hj
        rcases hopen : w.isOpen with _ | _
        · have hcall : (h.closeSilent j').hub = h := by simp [Hub.closeSilent, hw, hopen]
          exact kept (by rw [Action.apply, hcall]) rfl (by simp) (fun _ => hopen)
        · exact ⟨_, (Hub.closeSilent_of_open hw hopen).2, .closed rfl hopen⟩
      · refine kept ?_ rfl (by simp) (by simp [hj])
        rw [Action.apply]
        rcases Hub.closeSilent_cases h j' with hc | ⟨f, l, hc⟩
        · rw [hc]
        · rw [hc, Hub.silent_cancelAll, Hub.getElem?_modifySilent_of_ne h hj]
    | _ => simp [Action.silent] at ha
  · have hother : a.silent = false := by simpa using ha
    refine kept (by rw [silent_apply_of_other hother]) ?_ ?_ ?_
    · cases a <;> first | rfl | simp [Action.silent] at ha
    · rintro rfl
      exact absurd rfl ha
    · rintro rfl
      exact absurd rfl ha

/-! ## New services and new subscriptions -/

omit [BEq C] in
theorem Hub.getElem?_modifySilent_eq_none {h : Hub R C} {j : SilentRef}
    (hnone : h.silent[j]? = none) (k : SilentRef) (f : SilentService → SilentService) :
    (h.modifySilent k f).silent[j]? = none := by
  unfold Hub.modifySilent
  rw [Array.getElem?_modify, hnone]
  split <;> rfl

/-- A silent service that was not there before is new. -/
theorem silent_of_apply {h : Hub R C} {a : Action R C} {j : SilentRef} {w' : SilentService}
    (hnone : h.silent[j]? = none) (hw' : (a.apply h).silent[j]? = some w') : w' = {} := by
  have nothing : (a.apply h).silent[j]? = none → w' = {} := fun hgone => by simp [hgone] at hw'
  by_cases ha : a.silent = true
  · cases a with
    | addSilent =>
      rw [Action.apply, Hub.addSilent, Array.getElem?_push] at hw'
      split at hw'
      · exact (Option.some.inj hw').symm
      · simp [hnone] at hw'
    | registerSilent j' resource kinds =>
      refine nothing ?_
      rw [Action.apply]
      rcases Hub.registerSilent_cases h j' resource kinds with
        hr | ⟨made, v, f, g, -, -, -, -, -, hr⟩
      · rw [hr, hnone]
      · rw [hr]
        exact Hub.getElem?_modifySilent_eq_none (Hub.getElem?_modifySilent_eq_none hnone j' f) j' g
    | liveCountSilent j' => exact nothing (Hub.getElem?_modifySilent_eq_none hnone j' _)
    | closeSilent j' =>
      refine nothing ?_
      rw [Action.apply]
      rcases Hub.closeSilent_cases h j' with hc | ⟨f, l, hc⟩
      · rw [hc, hnone]
      · rw [hc, Hub.silent_cancelAll, Hub.getElem?_modifySilent_eq_none hnone]
    | _ => simp [Action.silent] at ha
  · exact nothing (by rw [silent_apply_of_other (by simpa using ha), hnone])

/-- What an action makes as a subscription of a silent service gets the next number of the service
and has no owner. -/
theorem subscription?_of_registersSilent {h : Hub R C} {a : Action R C} {j : SilentRef}
    {s : SubscriptionRef} (hr : a.registersSilent h j = some s) :
    ∃ w sub, h.silent[j]? = some w ∧ s = h.subscriptions.size ∧
      (a.apply h).subscription? s = some sub ∧ sub.id = ⟨w.nextId⟩ ∧ sub.owner = none := by
  cases a with
  | registerSilent j' resource kinds =>
    by_cases hj : j' = j
    · subst hj
      by_cases hkinds : kinds = []
      · subst hkinds
        simp [Action.registersSilent, Hub.registerSilent] at hr
      rcases hopen : h.isOpenSilent j' with _ | _
      · simp [Action.registersSilent, Hub.registerSilent_of_closed hopen resource hkinds] at hr
      · obtain ⟨w, hw, hwopen⟩ := Hub.silent_of_isOpenSilent hopen
        obtain ⟨hvalue, hsubs, -⟩ := Hub.registerSilent_of_open hw hwopen resource hkinds
        obtain rfl : h.subscriptions.size = s := by simpa [Action.registersSilent, hvalue] using hr
        have hsub := Hub.subscription?_of_push hsubs h.subscriptions.size
        rw [if_pos rfl] at hsub
        exact ⟨w, _, hw, rfl, hsub, rfl, rfl⟩
    · simp [Action.registersSilent, hj] at hr
  | _ => simp [Action.registersSilent] at hr

theorem number?_of_registersSilent {h : Hub R C} {a : Action R C} {j : SilentRef}
    {s : SubscriptionRef} (hr : a.registersSilent h j = some s) :
    ∃ w, h.silent[j]? = some w ∧ s = h.subscriptions.size ∧
      (a.apply h).number? s = some w.nextId := by
  obtain ⟨w, sub, hw, hsize, hsub, hid, -⟩ := subscription?_of_registersSilent hr
  exact ⟨w, hw, hsize, by rw [Hub.number?, hsub, Option.map_some, hid]⟩

/-- Nothing is registered with what is not there. -/
theorem registersSilent_eq_none {h : Hub R C} {j : SilentRef} (hnone : h.silent[j]? = none)
    (a : Action R C) : a.registersSilent h j = none := by
  by_contra hsome
  obtain ⟨s, hs⟩ := Option.ne_none_iff_exists'.mp hsome
  obtain ⟨w, hw, -⟩ := number?_of_registersSilent hs
  simp [hnone] at hw

/-! ## Runs -/

namespace History

/-- A silent service that has not been made yet has registered nothing. -/
theorem registeredSilent_eq_nil (past : History R C) {j : SilentRef}
    (hnone : past.hub.silent[j]? = none) : past.registeredSilent j = [] := by
  induction past with
  | nil => rfl
  | cons a past ih =>
    have hbefore : (hub past).silent[j]? = none := by
      by_contra hthere
      obtain ⟨w, hw⟩ := Option.ne_none_iff_exists'.mp hthere
      obtain ⟨w', hw', -⟩ := silent_apply hw a
      simp [hub, hw'] at hnone
    rw [registeredSilent, ih hbefore, registersSilent_eq_none hbefore]
    rfl

/-- A silent service that is there was there before the last action and has been changed by it, or
it is new and has registered nothing. -/
theorem silent_cases (past : History R C) (a : Action R C) {j : SilentRef} {w' : SilentService}
    (hw' : (hub (a :: past)).silent[j]? = some w') :
    (∃ w, past.hub.silent[j]? = some w ∧ SilentChange past.hub a j w w') ∨
      (w' = {} ∧ registeredSilent j (a :: past) = []) := by
  rcases hbefore : past.hub.silent[j]? with _ | w
  · right
    rw [registeredSilent, registeredSilent_eq_nil past hbefore, registersSilent_eq_none hbefore]
    exact ⟨silent_of_apply hbefore hw', rfl⟩
  · left
    obtain ⟨w'', hw'', hc⟩ := silent_apply hbefore a
    obtain rfl : w'' = w' := Option.some.inj (hw''.symm.trans hw')
    exact ⟨w, rfl, hc⟩

/-- The next number of a silent service is the one after those it has given. -/
theorem nextId_silent_eq (past : History R C) {j : SilentRef} {w : SilentService}
    (hw : past.hub.silent[j]? = some w) : w.nextId = (past.registeredSilent j).length + 1 := by
  induction past generalizing w with
  | nil => simp [hub] at hw
  | cons a past ih =>
    rcases silent_cases past a hw with ⟨w₀, hw₀, hc⟩ | ⟨rfl, hnothing⟩
    · rw [registeredSilent, List.length_append]
      cases hc with
      | kept hregisters hcount hclose => simp [hregisters, ih hw₀]
      | registered hopen hregisters => simp [hregisters, ih hw₀]
      | pruned ha => simp [ha, Action.registersSilent, ih hw₀]
      | closed ha hopen => simp [ha, Action.registersSilent, ih hw₀]
    · rw [hnothing]
      rfl

/-- The subscriptions of a silent service have the numbers from one on, in the order of
registration. -/
theorem numbered_registeredSilent (past : History R C) (j : SilentRef) :
    past.hub.Numbered (past.registeredSilent j) := by
  induction past with
  | nil => exact .nil
  | cons a past ih =>
    rw [registeredSilent]
    rcases hr : a.registersSilent (hub past) j with _ | s
    · rw [Option.toList_none, List.append_nil]
      exact ih.apply a
    · obtain ⟨w, hw, -, hnumber⟩ := number?_of_registersSilent hr
      exact (ih.apply a).concat (hnumber.trans (by rw [nextId_silent_eq past hw]))

end History

/-! ## What is on the list -/

/-- What the list of a silent service keeps of what the service has registered: all that is valid,
in the same order, and nothing once the service is closed. -/
structure SilentService.Keeps (w : SilentService) (h : Hub R C) (l : List SubscriptionRef) :
    Prop where
  sublist : w.registered.Sublist l
  mem_of_isValid : ∀ s ∈ l, h.isValid s = true → s ∈ w.registered
  eq_nil_of_closed : w.isOpen = false → w.registered = []

/-- Nothing becomes valid again. -/
theorem isValid_of_apply {h : Hub R C} {a : Action R C} {s : SubscriptionRef}
    {n : Nat} (hs : h.number? s = some n) (hvalid : (a.apply h).isValid s = true) :
    h.isValid s = true := by
  obtain ⟨sub, hsub, -⟩ := Option.map_eq_some_iff.mp hs
  obtain ⟨sub', hsub', hc⟩ := subscription?_apply hsub a
  obtain ⟨after, hafter, hstate⟩ := Hub.isValid_iff.mp hvalid
  obtain rfl : sub' = after := Option.some.inj (hsub'.symm.trans hafter)
  exact Hub.isValid_iff.mpr ⟨sub, hsub, fun hgone => hstate (hc.state_eq_cancelled hgone)⟩

/-- Only a cancellation makes anything invalid. -/
theorem isValid_apply {h : Hub R C} {a : Action R C} (ha : a.cancels = false)
    {s : SubscriptionRef} (hs : h.isValid s = true) : (a.apply h).isValid s = true := by
  obtain ⟨sub, hsub, hstate⟩ := Hub.isValid_iff.mp hs
  obtain ⟨sub', hsub', hc⟩ := subscription?_apply hsub a
  exact Hub.isValid_iff.mpr ⟨sub', hsub', fun hgone => hstate (hc.state_of_cancelled ha hgone)⟩

theorem isValid_of_registersSilent {h : Hub R C} {a : Action R C} {j : SilentRef}
    {s : SubscriptionRef} (hr : a.registersSilent h j = some s) :
    (a.apply h).isValid s = true := by
  obtain ⟨w, -, hsize, hnumber⟩ := number?_of_registersSilent hr
  obtain ⟨sub, hsub, -⟩ := Option.map_eq_some_iff.mp hnumber
  have hnone : h.subscription? s = none := by
    rw [hsize]
    simp [Hub.subscription?]
  exact Hub.isValid_iff.mpr ⟨sub, hsub, by simp [(fresh_of_apply hnone hsub).state_eq]⟩

/-- Every action keeps on the list what is valid. -/
theorem SilentService.Keeps.apply {h : Hub R C} {a : Action R C} {j : SilentRef}
    {w w' : SilentService} {l : List SubscriptionRef} (hk : w.Keeps h l) (hl : h.Numbered l)
    (hw : h.silent[j]? = some w) (hc : SilentChange h a j w w') :
    w'.Keeps (a.apply h) (l ++ (a.registersSilent h j).toList) := by
  have before : ∀ s ∈ l, (a.apply h).isValid s = true → s ∈ w.registered ∧ h.isValid s = true := by
    intro s hs hvalid
    obtain ⟨n, hn⟩ := hl.exists_number? hs
    have hwas := isValid_of_apply hn hvalid
    exact ⟨hk.mem_of_isValid s hs hwas, hwas⟩
  cases hc with
  | kept hregisters hcount hclose =>
    rw [hregisters, Option.toList_none, List.append_nil]
    exact ⟨hk.sublist, fun s hs hvalid => (before s hs hvalid).1, hk.eq_nil_of_closed⟩
  | registered hopen hregisters =>
    rw [hregisters, Option.toList_some]
    refine ⟨(List.filter_sublist.trans hk.sublist).append (.refl _), fun s hs hvalid => ?_, ?_⟩
    · rcases List.mem_append.mp hs with hold | hnew
      · exact List.mem_append_left _ (List.mem_filter.mpr (before s hold hvalid))
      · exact List.mem_append_right _ hnew
    · intro hclosed
      simp [hopen] at hclosed
  | pruned ha =>
    have hnothing : a.registersSilent h j = none := by rw [ha]; rfl
    rw [hnothing, Option.toList_none, List.append_nil]
    refine ⟨List.filter_sublist.trans hk.sublist, fun s hs hvalid => ?_, fun hclosed => ?_⟩
    · exact List.mem_filter.mpr (before s hs hvalid)
    · simp [hk.eq_nil_of_closed hclosed, Hub.stillValid]
  | closed ha hopen =>
    have hnothing : a.registersSilent h j = none := by rw [ha]; rfl
    rw [hnothing, Option.toList_none, List.append_nil]
    refine ⟨List.nil_sublist l, fun s hs hvalid => ?_, fun _ => rfl⟩
    -- Whatever was on the list is cancelled by the action.
    obtain ⟨after, hafter, hstate⟩ := Hub.isValid_iff.mp hvalid
    rw [ha, Action.apply, (Hub.closeSilent_of_open hw hopen).1, Option.map_eq_some_iff] at hafter
    obtain ⟨sub, -, rfl⟩ := hafter
    simp [(before s hs hvalid).1] at hstate

theorem History.keeps (past : History R C) {j : SilentRef} {w : SilentService}
    (hw : past.hub.silent[j]? = some w) : w.Keeps past.hub (past.registeredSilent j) := by
  induction past generalizing w with
  | nil => simp [hub] at hw
  | cons a past ih =>
    rcases silent_cases past a hw with ⟨w₀, hw₀, hc⟩ | ⟨rfl, hnothing⟩
    · exact (ih hw₀).apply (numbered_registeredSilent past j) hw₀ hc
    · rw [hnothing]
      exact ⟨.refl [], fun s hs => by simp at hs, fun _ => rfl⟩

end PathWatch
