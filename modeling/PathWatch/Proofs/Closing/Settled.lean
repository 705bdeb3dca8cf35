import Mathlib
import PathWatch.Proofs.Closing.Escape
/-!
# Runs of whole calls

When every call comes to its end before the next one begins, nothing is left to be done between two
calls: the live set of a service lists those of its subscriptions that have not been cancelled and
nothing else, and all subscriptions of a service that is not open are cancelled.
-/

namespace PathWatch

variable {R C : Type}

/-- Whether an action is a whole call, and not a part of one. -/
def Action.whole : Action R C → Bool
  | .markCancelled _ | .forget _ | .shut _ => false
  | _ => true

/-- Live sets list what has not been cancelled, and no call has anything left to do. -/
abbrev Hub.Settled (h : Hub R C) : Prop :=
  h.CloseSound (fun _ => False) (fun _ _ => False)

namespace Hub

variable {h : Hub R C} {awaited awaited' : ServiceRef → SubscriptionRef → Prop}

/-! ## Whole cancellations -/

/-- A cancellation that comes to its end strikes what it has marked. -/
theorem CloseSound.cancel [BEq C] (hh : h.CloseSound (fun _ => False) awaited)
    (hq : h.QueueSound) (s : SubscriptionRef)
    (hawaited : ∀ k s', s' ≠ s → awaited k s' → awaited' k s') :
    (h.cancel s).hub.CloseSound (fun _ => False) awaited' := by
  rw [cancel_hub]
  split
  · rename_i hs
    have hmarked : (h.markCancelled s).2.CloseSound (fun s' => s' = s) awaited' :=
      hh.mark hq hs (by simp) hawaited
    exact hmarked.strike rfl (fun _ hs' => hs'.elim) (fun _ hne hs' => hne hs') (fun _ _ haw => haw)
  · rename_i hs
    refine hh.mono (fun _ => Iff.rfl) fun k v s' sub hv hs' howner hvalid haw => ?_
    refine hawaited k s' ?_ haw
    rintro rfl
    exact hs ((markCancelled_fst h s').mpr ⟨sub, hs', hvalid⟩)

theorem CloseSound.cancelAll [BEq C] (l : List SubscriptionRef)
    (hh : h.CloseSound (fun _ => False) awaited) (hq : h.QueueSound)
    (hawaited : ∀ k s, s ∉ l → awaited k s → awaited' k s) :
    (h.cancelAll l).hub.CloseSound (fun _ => False) awaited' := by
  induction l generalizing h awaited with
  | nil => exact hh.mono (fun _ => Iff.rfl) fun k _ s _ _ _ _ _ => hawaited k s (by simp)
  | cons s rest ih =>
    have hfirst : (h.cancel s).hub.CloseSound (fun _ => False)
        (fun k s' => s' ≠ s ∧ awaited k s') :=
      hh.cancel hq s fun _ _ hne haw => ⟨hne, haw⟩
    refine ih hfirst (hq.cancel s) ?_
    rintro k s' hrest ⟨hne, haw⟩
    exact hawaited k s' (by simp [hne, hrest]) haw

/-! ## Whole closings -/

/-- Whoever closes a service cancels all that is in its live set, and that is all that is not
cancelled yet. -/
theorem Settled.close [BEq C] (hh : h.Settled) (hq : h.QueueSound) (k : ServiceRef) :
    (h.close k).hub.Settled := by
  rw [close_hub]
  split
  · have hshut : (h.shut k).2.CloseSound (fun _ => False) (fun k' _ => k' = k) :=
      hh.apply hq (a := .shut k) rfl rfl (fun _ _ haw => haw.elim) (by simp)
    have hlive : (h.shut k).2.CloseSound (fun _ => False)
        (fun _ s => s ∈ (h.shut k).2.liveSubscriptions k) := by
      refine hshut.mono (fun _ => Iff.rfl) fun k' v s sub hv hs howner hvalid hk => ?_
      subst hk
      exact (mem_liveSubscriptions hv s).mpr ⟨_, hshut.live.listed hs howner hv hvalid⟩
    exact hlive.cancelAll _ (hq.shut k) fun _ _ hout hin => hout hin
  · exact hh

/-- No notification service has to do with a silent one. -/
theorem Settled.modifySilent (hh : h.Settled) (k : SilentRef) (f : SilentService → SilentService) :
    (h.modifySilent k f).Settled where
  live := ⟨hh.live.id_lt, hh.live.id_inj, hh.live.owned, hh.live.listed⟩
  cancelled_of_striking := hh.cancelled_of_striking
  striking_of_listed := hh.striking_of_listed
  awaited_of_closed := hh.awaited_of_closed

/-- Every whole call leaves nothing to be done. -/
theorem Settled.apply_whole [BEq C] (hh : h.Settled) (hq : h.QueueSound) {a : Action R C}
    (ha : a.whole = true) : (a.apply h).Settled := by
  cases a with
  | cancel s => exact hh.cancel hq s fun _ _ _ haw => haw
  | deregister k s =>
    rw [Action.apply, Hub.deregister]
    split
    · exact hh
    · split
      · exact hh.cancel hq s fun _ _ _ haw => haw
      · exact hh
  | close k => exact Settled.close hh hq k
  | closeSilent k =>
    rw [Action.apply]
    rcases closeSilent_cases h k with hc | ⟨f, l, hc⟩
    · rwa [hc]
    · rw [hc]
      exact (Settled.modifySilent hh k f).cancelAll l (hq.modifySilent k f) fun _ _ _ haw => haw
  | markCancelled s => simp [Action.whole] at ha
  | forget s => simp [Action.whole] at ha
  | shut k => simp [Action.whole] at ha
  | _ => exact hh.apply hq rfl rfl (fun _ _ haw => haw) (by simp)

theorem Settled.empty : Settled ({} : Hub R C) where
  live := LiveSound.empty
  cancelled_of_striking hs := hs.elim
  striking_of_listed hv := by simp at hv
  awaited_of_closed hv := by simp at hv

/-- What has been cancelled is in no live set. -/
theorem Settled.not_mem_liveSubscriptions (hh : h.Settled) {s : SubscriptionRef}
    (hs : h.IsCancelled s) (k : ServiceRef) : s ∉ h.liveSubscriptions k := by
  intro hmem
  rcases hv : h.service? k with _ | v
  · simp [liveSubscriptions, hv] at hmem
  · obtain ⟨id, hlisted⟩ := (mem_liveSubscriptions hv s).mp hmem
    exact hh.striking_of_listed hv hlisted hs

end Hub

variable [BEq C]

theorem History.settled (past : History R C) (hwhole : ∀ a ∈ past, a.whole = true) :
    past.hub.Settled := by
  induction past with
  | nil => exact Hub.Settled.empty
  | cons a past ih =>
    exact (ih fun b hb => hwhole b (List.mem_cons_of_mem a hb)).apply_whole (queueSound past)
      (hwhole a List.mem_cons_self)

end PathWatch
