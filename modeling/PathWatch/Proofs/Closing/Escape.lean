import Mathlib
import PathWatch.Proofs.Closing.Scene
/-!
# No subscription escapes a close

Once a service is closed and no call that closes it is on its way any more, every subscription it
has made is cancelled. Whoever registers before the service is shut is in the live set when that is
looked at, and whoever is cancelled by somebody else is struck by them.
-/

namespace PathWatch

variable {R C : Type}

/-! ## The invariant -/

/-- Who has marked a subscription has yet to strike it (`striking`), and whoever is not cancelled
after its service was shut will be reached by the call that has shut it (`awaited`). -/
structure Hub.CloseSound (h : Hub R C) (striking : SubscriptionRef → Prop)
    (awaited : ServiceRef → SubscriptionRef → Prop) : Prop where
  live : h.LiveSound
  cancelled_of_striking : ∀ {s}, striking s → h.IsCancelled s
  striking_of_listed : ∀ {k v id s}, h.service? k = some v → (id, s) ∈ v.live →
    h.IsCancelled s → striking s
  awaited_of_closed : ∀ {k v s sub}, h.service? k = some v → v.isOpen = false →
    h.subscription? s = some sub → sub.owner = some k → sub.state ≠ .cancelled → awaited k s

namespace Hub.CloseSound

variable {h : Hub R C} {striking striking' : SubscriptionRef → Prop}
  {awaited awaited' : ServiceRef → SubscriptionRef → Prop}

/-- The calls on their way may change what they have yet to do, as long as they forget nobody. -/
theorem mono (hh : h.CloseSound striking awaited) (hstriking : ∀ s, striking' s ↔ striking s)
    (hawaited : ∀ k v s sub, h.service? k = some v → h.subscription? s = some sub →
      sub.owner = some k → sub.state ≠ .cancelled → awaited k s → awaited' k s) :
    h.CloseSound striking' awaited' where
  live := hh.live
  cancelled_of_striking hs := hh.cancelled_of_striking ((hstriking _).mp hs)
  striking_of_listed hv hmem hs := (hstriking _).mpr (hh.striking_of_listed hv hmem hs)
  awaited_of_closed hv hclosed hs howner hvalid :=
    hawaited _ _ _ _ hv hs howner hvalid (hh.awaited_of_closed hv hclosed hs howner hvalid)

/-- Striking a subscription from the live set. -/
theorem strike (hh : h.CloseSound striking awaited) {s : SubscriptionRef} (hs : striking s)
    (hsound : ∀ s', striking' s' → striking s') (hkept : ∀ s', s' ≠ s → striking s' → striking' s')
    (hawaited : ∀ k s', awaited k s' → awaited' k s') :
    (h.forget s).CloseSound striking' awaited' := by
  obtain ⟨gone, hgone, hstate⟩ := hh.cancelled_of_striking hs
  have hsame : ∀ s', (h.forget s).IsCancelled s' ↔ h.IsCancelled s' := by
    simp [Hub.IsCancelled]
  refine ⟨hh.live.forget ⟨gone, hgone, hstate⟩, ?_, ?_, ?_⟩
  · intro s' hs'
    exact (hsame s').mpr (hh.cancelled_of_striking (hsound s' hs'))
  · intro k v' id s' hv' hmem hs'
    obtain ⟨v, hv, -, -, hlive⟩ := service?_of_forget hgone hv'
    obtain ⟨hbefore, hother⟩ := (hlive _).mp hmem
    -- An entry that is left is not the one that was struck.
    refine hkept s' ?_ (hh.striking_of_listed hv hbefore ((hsame s').mp hs'))
    rintro rfl
    obtain ⟨sub, hsub, howner, hid⟩ := hh.live.owned hv hbefore
    obtain rfl : sub = gone := Option.some.inj (hsub.symm.trans hgone)
    exact hother ⟨howner, hid.symm⟩
  · intro k v' s' sub hv' hclosed hs' howner hvalid
    obtain ⟨v, hv, hopen, -, -⟩ := service?_of_forget hgone hv'
    rw [subscription?_forget] at hs'
    exact hawaited k s' (hh.awaited_of_closed hv (hopen ▸ hclosed) hs' howner hvalid)

/-- Marking a subscription that has not been cancelled. -/
theorem mark [BEq C] (hh : h.CloseSound striking awaited) (hq : h.QueueSound)
    {s : SubscriptionRef} (hs : (h.markCancelled s).1 = true)
    (hstriking : ∀ s', striking' s' ↔ s' = s ∨ striking s')
    (hawaited : ∀ k s', s' ≠ s → awaited k s' → awaited' k s') :
    (h.markCancelled s).2.CloseSound striking' awaited' := by
  have hservice : ∀ k, (h.markCancelled s).2.service? k = h.service? k :=
    service?_congr (services_markCancelled h s)
  have hcancelled : ∀ s', (h.markCancelled s).2.IsCancelled s' ↔ s' = s ∨ h.IsCancelled s' := by
    intro s'
    obtain ⟨sub, hsub, -⟩ := (markCancelled_fst h s).mp hs
    unfold IsCancelled
    rw [subscription?_markCancelled]
    by_cases hss : s' = s
    · simp [hss, hsub]
    · simp [hss, Ne.symm hss]
  refine ⟨Hub.LiveSound.apply hh.live hq (a := .markCancelled s) rfl, ?_, ?_, ?_⟩
  · intro s' hs'
    exact (hcancelled s').mpr (((hstriking s').mp hs').imp_right hh.cancelled_of_striking)
  · intro k v id s' hv hmem hs'
    rw [hservice] at hv
    exact (hstriking s').mpr (((hcancelled s').mp hs').imp_right (hh.striking_of_listed hv hmem))
  · intro k v s' sub' hv hclosed hs' howner hvalid
    rw [hservice] at hv
    rw [subscription?_markCancelled] at hs'
    obtain ⟨sub, hsub, hmarked⟩ := Option.map_eq_some_iff.mp hs'
    by_cases hss : s = s'
    · rw [if_pos hss] at hmarked
      exact absurd (hmarked ▸ rfl) hvalid
    · rw [if_neg hss] at hmarked
      subst hmarked
      exact hawaited k s' (Ne.symm hss) (hh.awaited_of_closed hv hclosed hsub howner hvalid)

/-- An action that neither cancels nor strikes. Who shuts a service will reach everybody. -/
theorem apply [BEq C] (hh : h.CloseSound striking awaited) (hq : h.QueueSound) {a : Action R C}
    (hstrikes : a.strikes = false) (hcancels : a.cancels = false)
    (hawaited : ∀ k s, awaited k s → awaited' k s) (hshut : ∀ k, a = .shut k → ∀ s, awaited' k s) :
    (a.apply h).CloseSound striking awaited' := by
  refine ⟨hh.live.apply hq hstrikes, ?_, ?_, ?_⟩
  · intro s hs
    obtain ⟨sub, hsub, hstate⟩ := hh.cancelled_of_striking hs
    obtain ⟨sub', hsub', hc⟩ := subscription?_apply hsub a
    exact ⟨sub', hsub', hc.state_eq_cancelled hstate⟩
  · rintro k v' id s hv' hmem ⟨sub', hsub', hstate⟩
    -- What is cancelled is not new, so it has been listed before.
    rcases subscription?_of_apply hsub' with ⟨sub, hsub, hc⟩ | ⟨-, hfresh⟩
    · have hbefore : h.IsCancelled s := ⟨sub, hsub, hc.state_of_cancelled hcancels hstate⟩
      rcases live_cases_apply hstrikes hv' with
        ⟨v, hv, hlive, -⟩ | ⟨v, hv, -, -, -, hlive⟩ | ⟨-, -, hlive⟩
      · exact hh.striking_of_listed hv (hlive ▸ hmem) hbefore
      · rw [hlive] at hmem
        rcases List.mem_append.mp hmem with hold | hnew
        · exact hh.striking_of_listed hv (List.mem_filter.mp hold).1 hbefore
        · obtain ⟨-, rfl⟩ := Prod.mk.inj (List.mem_singleton.mp hnew)
          exact absurd (lt_size_of_subscription? hsub) (Nat.lt_irrefl _)
      · simp [hlive] at hmem
    · exact absurd (hfresh.state_eq.symm.trans hstate) (by simp)
  · intro k v' s sub' hv' hclosed hsub' howner hvalid
    rcases subscription?_of_apply hsub' with ⟨sub, hsub, hc⟩ | ⟨-, hfresh⟩
    · have hvalid' : sub.state ≠ .cancelled := fun hstate => hvalid (hc.state_eq_cancelled hstate)
      rcases live_cases_apply hstrikes hv' with
        ⟨v, hv, -, -, -, rfl | hopen⟩ | ⟨v, hv, hopen, -⟩ | ⟨-, hopen, -⟩
      · exact hshut k rfl s
      · exact hawaited k s (hh.awaited_of_closed hv (hopen ▸ hclosed) hsub
          (hc.owner_eq ▸ howner) hvalid')
      · simp [hopen] at hclosed
      · simp [hopen] at hclosed
    · obtain ⟨v, -, -, hopen, -⟩ := hfresh.service_cases howner hstrikes hv'
      simp [hopen] at hclosed

end Hub.CloseSound

/-! ## Calls on their way -/

namespace Closing

/-- Whether a call will get to a subscription that is not cancelled. -/
def Awaits : Closing → SubscriptionRef → Prop
  | .shut _, _ => True
  | .cancelling _ rest, s | .striking _ _ rest, s => s ∈ rest

/-- Whether a call has marked the subscription and has yet to strike it. -/
def Strikes (c : Closing) (s : SubscriptionRef) : Prop :=
  ∃ k rest, c = .striking k s rest

/-- The subscriptions that a call has found in the live set and has not done with. -/
def held : Closing → List SubscriptionRef
  | .shut _ => []
  | .cancelling _ rest => rest
  | .striking _ s rest => s :: rest

/-- Whether one of the calls, or one of the others, has yet to strike the subscription. -/
def Striking (cs : List Closing) (others : SubscriptionRef → Prop) (s : SubscriptionRef) : Prop :=
  (∃ c ∈ cs, c.Strikes s) ∨ others s

/-- Whether one of the calls that close the service, or one of the others, will get to the
subscription. -/
def Awaited (cs : List Closing) (others : ServiceRef → SubscriptionRef → Prop) (k : ServiceRef)
    (s : SubscriptionRef) : Prop :=
  (∃ c ∈ cs, c.service = k ∧ c.Awaits s) ∨ others k s

/-- Some of the calls can be counted among the others. -/
theorem striking_middle (l m r : List Closing) (others : SubscriptionRef → Prop)
    (s : SubscriptionRef) :
    Striking (l ++ m ++ r) others s ↔ Striking m (Striking (l ++ r) others) s := by
  simp only [Striking, List.mem_append, or_and_right, exists_or, or_assoc]
  rw [or_left_comm]

theorem awaited_middle (l m r : List Closing) (others : ServiceRef → SubscriptionRef → Prop)
    (k : ServiceRef) (s : SubscriptionRef) :
    Awaited (l ++ m ++ r) others k s ↔ Awaited m (Awaited (l ++ r) others) k s := by
  simp only [Awaited, List.mem_append, or_and_right, exists_or, or_assoc]
  rw [or_left_comm]

end Closing

/-- What is in the live set is found there. -/
theorem Hub.mem_liveSubscriptions {h : Hub R C} {k : ServiceRef} {v : NotificationService}
    (hv : h.service? k = some v) (s : SubscriptionRef) :
    s ∈ h.liveSubscriptions k ↔ ∃ id, (id, s) ∈ v.live := by
  simp [Hub.liveSubscriptions, hv]

variable [BEq C]

/-- A call that closes a service keeps marks and live sets in order as it goes on. -/
theorem Hub.CloseSound.move {past : History R C} {others : SubscriptionRef → Prop}
    {others' : ServiceRef → SubscriptionRef → Prop} {c : Closing} {acts : List (Action R C)}
    {cs : List Closing} (hmove : c.Move past.hub acts cs)
    (hh : past.hub.CloseSound (Closing.Striking [c] others) (Closing.Awaited [c] others')) :
    (History.hub (acts ++ past)).CloseSound (Closing.Striking cs others)
      (Closing.Awaited cs others') := by
  cases hmove with
  | snapshot k found hfound =>
    refine hh.mono (fun s => by simp [Closing.Striking, Closing.Strikes]) ?_
    intro k' v s sub hv hs howner hvalid haw
    -- Whoever is not cancelled now is in the live set now.
    refine haw.imp_left fun hcall => ?_
    obtain rfl : k = k' := by simpa [Closing.service, Closing.Awaits] using hcall
    have hlisted := hh.live.listed hs howner hv hvalid
    exact ⟨_, List.mem_singleton_self _, rfl,
      hfound.mem_iff.mpr ((mem_liveSubscriptions hv s).mpr ⟨_, hlisted⟩)⟩
  | mark k s rest hs =>
    refine hh.mark past.queueSound hs (fun s' => ?_) (fun k' s' hne haw => ?_)
    · simp [Closing.Striking, Closing.Strikes, eq_comm]
    · refine haw.imp_left fun hcall => ?_
      simpa [Closing.service, Closing.Awaits, hne] using hcall
  | skip k s rest hs =>
    refine hh.mono (fun s' => by simp [Closing.Striking, Closing.Strikes]) ?_
    intro k' v s' sub hv hs' howner hvalid haw
    refine haw.imp_left fun hcall => ?_
    have hne : s' ≠ s := by
      rintro rfl
      simp [(markCancelled_fst past.hub s').mpr ⟨sub, hs', hvalid⟩] at hs
    simpa [Closing.service, Closing.Awaits, hne] using hcall
  | strike k s rest =>
    refine hh.strike (s := s) ?_ (fun s' hs' => ?_) (fun s' hne hs' => ?_) (fun k' s' haw => ?_)
    · simp [Closing.Striking, Closing.Strikes]
    · refine hs'.imp_left fun hcall => ?_
      simp [Closing.Strikes] at hcall
    · refine hs'.imp_left fun hcall => ?_
      simp [Closing.Strikes, Ne.symm hne] at hcall
    · refine haw.imp_left fun hcall => ?_
      simpa [Closing.service, Closing.Awaits] using hcall
  | finish k =>
    refine hh.mono (fun s => by simp [Closing.Striking, Closing.Strikes]) ?_
    intro k' v s sub hv hs howner hvalid haw
    refine haw.imp_left fun hcall => ?_
    simp [Closing.Awaits] at hcall

namespace Scene

/-- Marks, live sets and the calls on their way fit together, and a call is busy with subscriptions
of its own service only. -/
structure Sound (σ : Scene R C) : Prop where
  close : σ.past.hub.CloseSound (Closing.Striking σ.closes (· ∈ σ.cancels))
    (Closing.Awaited σ.closes fun _ _ => False)
  held_owned : ∀ c ∈ σ.closes, ∀ s ∈ c.held,
    ∃ sub, σ.past.hub.subscription? s = some sub ∧ sub.owner = some c.service

theorem Sound.start : Sound ({} : Scene R C) where
  close :=
    { live := Hub.LiveSound.empty
      cancelled_of_striking := fun hs => by simp [Closing.Striking] at hs
      striking_of_listed := fun hv => by simp [History.hub] at hv
      awaited_of_closed := fun hv => by simp [History.hub] at hv }
  held_owned c hc := by simp at hc

/-- Subscriptions keep their owners in whatever is done. -/
theorem owned_of_actions (acts : List (Action R C)) {past : History R C} {s : SubscriptionRef}
    {k : ServiceRef}
    (hs : ∃ sub, past.hub.subscription? s = some sub ∧ sub.owner = some k) :
    ∃ sub, (History.hub (acts ++ past)).subscription? s = some sub ∧ sub.owner = some k := by
  induction acts with
  | nil => exact hs
  | cons a acts ih =>
    obtain ⟨sub, hsub, howner⟩ := ih
    obtain ⟨sub', hsub', hc⟩ := subscription?_apply hsub a
    exact ⟨sub', hsub', hc.owner_eq.trans howner⟩

/-- What a call takes hold of belongs to its service. -/
theorem Sound.held_of_move {σ : Scene R C} (hσ : σ.Sound) {c : Closing} (hc : c ∈ σ.closes)
    {acts : List (Action R C)} {cs : List Closing} (hmove : c.Move σ.past.hub acts cs) :
    ∀ c' ∈ cs, ∀ s ∈ c'.held,
      ∃ sub, σ.past.hub.subscription? s = some sub ∧ sub.owner = some c'.service := by
  have hheld := hσ.held_owned c hc
  intro c' hc' s hs
  cases hmove with
  | snapshot k found hfound =>
    obtain rfl := List.mem_singleton.mp hc'
    have hlisted : s ∈ σ.past.hub.liveSubscriptions k := hfound.mem_iff.mp hs
    rcases hv : σ.past.hub.service? k with _ | v
    · simp [Hub.liveSubscriptions, hv] at hlisted
    · obtain ⟨id, hmem⟩ := (Hub.mem_liveSubscriptions hv s).mp hlisted
      obtain ⟨sub, hsub, howner, -⟩ := hσ.close.live.owned hv hmem
      exact ⟨sub, hsub, howner⟩
  | mark k s' rest hs' =>
    obtain rfl := List.mem_singleton.mp hc'
    exact hheld s hs
  | skip k s' rest hs' =>
    obtain rfl := List.mem_singleton.mp hc'
    exact hheld s (List.mem_cons_of_mem s' hs)
  | strike k s' rest =>
    obtain rfl := List.mem_singleton.mp hc'
    exact hheld s (List.mem_cons_of_mem s' hs)
  | finish k => simp at hc'

/-- Every step keeps the scene in order. -/
theorem Sound.step {σ τ : Scene R C} (hσ : σ.Sound) (hstep : Step σ τ) : τ.Sound := by
  cases hstep with
  | brief a ha =>
    refine ⟨hσ.close.apply σ.past.queueSound ?_ ?_ (fun _ _ haw => haw) ?_, fun c hc s hs => ?_⟩
    · cases a <;> first | rfl | simp [Action.brief] at ha
    · cases a <;> first | rfl | simp [Action.brief] at ha
    · rintro k rfl
      simp [Action.brief] at ha
    · exact owned_of_actions [a] (hσ.held_owned c hc s hs)
  | mark s hs =>
    -- What has been marked is struck later, by the thread that marked it.
    refine ⟨hσ.close.mark σ.past.queueSound hs ?_ (fun _ _ _ haw => haw), fun c hc s' hs' => ?_⟩
    · intro s'
      simp only [Closing.Striking, List.mem_cons]
      rw [or_left_comm]
    · exact owned_of_actions [_] (hσ.held_owned c hc s' hs')
  | strike s l r hs =>
    -- One entry fewer is left to be struck, namely the one that no live set lists now.
    refine ⟨hσ.close.strike (Or.inr (by simp [hs])) ?_ ?_ (fun _ _ haw => haw),
      fun c hc s' hs' => ?_⟩
    · intro s' hs'
      refine hs'.imp_right fun hmem => ?_
      rw [hs]
      rcases List.mem_append.mp hmem with hl | hr
      · exact List.mem_append_left _ hl
      · exact List.mem_append_right _ (List.mem_cons_of_mem s hr)
    · intro s' hne hs'
      refine hs'.imp_right fun hmem => ?_
      rw [hs] at hmem
      simpa [hne] using hmem
    · exact owned_of_actions [_] (hσ.held_owned c hc s' hs')
  | shut k hk =>
    -- From now on everything that is live in the service waits for this call to come to it.
    have hclose : ((Action.shut k).apply σ.past.hub).CloseSound
        (Closing.Striking σ.closes (· ∈ σ.cancels))
        (Closing.Awaited (.shut k :: σ.closes) fun _ _ => False) := by
      refine hσ.close.apply σ.past.queueSound rfl rfl ?_ ?_
      · intro k' s haw
        refine haw.imp_left fun hcall => ?_
        obtain ⟨c, hc, hreach⟩ := hcall
        exact ⟨c, List.mem_cons_of_mem _ hc, hreach⟩
      · intro k' hk' s
        obtain rfl : k = k' := by simpa using hk'
        exact Or.inl ⟨.shut k, List.mem_cons_self, rfl, trivial⟩
    refine ⟨hclose.mono ?_ (fun _ _ _ _ _ _ _ _ haw => haw), fun c hc s hs => ?_⟩
    · intro s
      simp [Closing.Striking, Closing.Strikes]
    · rcases List.mem_cons.mp hc with rfl | hc
      · simp [Closing.held] at hs
      · exact owned_of_actions [_] (hσ.held_owned c hc s hs)
  | move l r c acts cs hc hmove =>
    -- The calls on both sides keep what they have still to do; only the one between them goes on.
    have hmiddle : σ.closes = l ++ [c] ++ r := by simp [hc]
    have hmem : c ∈ σ.closes := by simp [hc]
    have hbefore := hσ.close
    rw [hmiddle] at hbefore
    have hmoved := Hub.CloseSound.move hmove
      (hbefore.mono (fun s => (Closing.striking_middle l [c] r _ s).symm)
        fun k v s sub _ _ _ _ => (Closing.awaited_middle l [c] r _ k s).mp)
    refine ⟨hmoved.mono (fun s => Closing.striking_middle l cs r _ s)
      (fun k v s sub _ _ _ _ => (Closing.awaited_middle l cs r _ k s).mpr), fun c' hc' s hs => ?_⟩
    refine owned_of_actions acts ?_
    simp only [List.mem_append, or_assoc] at hc'
    rcases hc' with hl | hm | hr
    · exact hσ.held_owned c' (by simp [hc, hl]) s hs
    · exact hσ.held_of_move hmem hmove c' hm s hs
    · exact hσ.held_owned c' (by simp [hc, hr]) s hs

theorem Reachable.sound {σ : Scene R C} (hσ : Reachable σ) : σ.Sound := by
  induction hσ with
  | start => exact Sound.start
  | step hσ hstep ih => exact ih.step hstep

/-- No subscription escapes a close. In every scene that any number of threads can reach, once a
service is not open and no call that closes it is on its way: every subscription it has ever made is
cancelled, its queue is empty, and its live set lists only what has been cancelled by somebody who
has yet to strike it, so that it is empty when there is nobody. -/
theorem no_subscription_escapes {σ : Scene R C} (hσ : Reachable σ) {k : ServiceRef}
    {v : NotificationService} (hv : σ.past.hub.service? k = some v) (hclosed : v.isOpen = false)
    (hdone : ∀ c ∈ σ.closes, c.service ≠ k) :
    (∀ s ∈ σ.past.registered k, σ.past.hub.IsCancelled s) ∧ v.queue = [] ∧
      (∀ entry ∈ v.live, σ.past.hub.IsCancelled entry.2 ∧ entry.2 ∈ σ.cancels) ∧
      (σ.cancels = [] → v.live = []) := by
  have hsound := hσ.sound
  have hcancelled : ∀ s sub, σ.past.hub.subscription? s = some sub → sub.owner = some k →
      σ.past.hub.IsCancelled s := by
    intro s sub hs howner
    refine ⟨sub, hs, ?_⟩
    by_contra hvalid
    rcases hsound.close.awaited_of_closed hv hclosed hs howner hvalid with ⟨c, hc, hk, -⟩ | hnone
    · exact hdone c hc hk
    · exact hnone
  have hlisted : ∀ entry ∈ v.live, σ.past.hub.IsCancelled entry.2 ∧ entry.2 ∈ σ.cancels := by
    rintro ⟨id, s⟩ hmem
    obtain ⟨sub, hs, howner, -⟩ := hsound.close.live.owned hv hmem
    have hgone := hcancelled s sub hs howner
    refine ⟨hgone, ?_⟩
    rcases hsound.close.striking_of_listed hv hmem hgone with ⟨c, hc, k', rest, rfl⟩ | hcancel
    · -- A call that has yet to strike it would close the same service.
      obtain ⟨sub', hs', howner'⟩ := hsound.held_owned _ hc s List.mem_cons_self
      obtain rfl : sub = sub' := Option.some.inj (hs.symm.trans hs')
      exact absurd (Option.some.inj (howner'.symm.trans howner)) (hdone _ hc)
    · exact hcancel
  refine ⟨?_, ?_, hlisted, ?_⟩
  · intro s hs
    obtain ⟨sub, hsub, howner⟩ := (σ.past.mem_registered_iff k s).mp hs
    exact hcancelled s sub hsub howner
  · exact σ.past.queueSound.queue_eq_nil hv hclosed
  · intro hnobody
    refine List.eq_nil_iff_forall_not_mem.mpr fun entry hmem => ?_
    have hcancel := (hlisted entry hmem).2
    simp [hnobody] at hcancel

/-- Somebody cancels the first of two subscriptions between the shutting of their service and the
look at its live set, and has yet to strike it when the call that closes the service is over. -/
theorem no_subscription_escapes_of_race :
    let σ : Scene Nat Nat :=
      { past := [.forget 1, .markCancelled 1, .markCancelled 0, .shut 0,
          .register 0 20 [.modify], .register 0 10 [.modify], .withConfig .standard]
        cancels := [0] }
    σ.past.registered 0 = [0, 1] ∧ σ.past.hub.liveSubscriptions 0 = [0] ∧
      (∀ s ∈ [0, 1], σ.past.hub.IsCancelled s) := by
  intro σ
  have hstart : Reachable ({ past := [.withConfig .standard] } : Scene Nat Nat) :=
    .step .start (.brief _ rfl)
  have hfirst : Reachable _ := .step hstart (.brief (.register 0 10 [.modify]) rfl)
  have hsecond : Reachable _ := .step hfirst (.brief (.register 0 20 [.modify]) rfl)
  have hshut : Reachable _ := .step hsecond (.shut 0 rfl)
  have hmark : Reachable _ := .step hshut (.mark 0 rfl)
  have hsnapshot : Reachable _ := .step hmark (.move [] [] _ _ _ rfl (.snapshot 0 [0, 1] (.refl _)))
  have hskip : Reachable _ := .step hsnapshot (.move [] [] _ _ _ rfl (.skip 0 0 [1] rfl))
  have hnext : Reachable _ := .step hskip (.move [] [] _ _ _ rfl (.mark 0 1 [] rfl))
  have hstrike : Reachable _ := .step hnext (.move [] [] _ _ _ rfl (.strike 0 1 []))
  have hσ : Reachable σ := .step hstrike (.move [] [] _ _ _ rfl (.finish 0))
  obtain ⟨v, hv, hclosed⟩ : ∃ v, σ.past.hub.service? 0 = some v ∧ v.isOpen = false :=
    ⟨_, rfl, rfl⟩
  exact ⟨rfl, rfl, (no_subscription_escapes hσ hv hclosed (by simp [σ])).1⟩

end Scene

end PathWatch
