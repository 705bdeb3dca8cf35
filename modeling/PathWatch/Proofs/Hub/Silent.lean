import Mathlib
import PathWatch.Proofs.Hub.Subscriptions
/-!
# What calls do to a silent service

A silent service is not told when one of its subscriptions is cancelled: its list shrinks when the
service is used. So what counts is what is still valid of the list.
-/

namespace PathWatch

namespace Hub

variable {R C : Type}

/-! ## Calls that no silent service notices -/

/-- A queue belongs to a service with notifications, so no silent service is touched. -/
theorem silent_enqueue (h : Hub R C) (s : SubscriptionRef) : (h.enqueue s).2.silent = h.silent := by
  unfold enqueue
  repeat' split
  all_goals rfl

theorem silent_post [BEq C] (h : Hub R C) (s : SubscriptionRef) (e : ChangeEvent C) :
    (h.post s e).hub.silent = h.silent := by
  unfold post
  repeat' split
  all_goals rfl

theorem silent_offer [BEq C] (h : Hub R C) (s : SubscriptionRef) (e : ChangeEvent C) :
    (h.offer s e).hub.silent = h.silent := by
  unfold offer
  split
  · rfl
  · split
    · exact silent_post h s e
    · rfl

/-- A signal reaches the owner of a subscription only if that is a service with a queue. -/
theorem silent_signal (h : Hub R C) (s : SubscriptionRef) :
    (h.signal s).hub.silent = h.silent := by
  unfold signal
  split
  · rfl
  · split
    · exact silent_enqueue _ s
    · rfl

theorem silent_drain (h : Hub R C) (s : SubscriptionRef) :
    (h.drain s).hub.silent = h.silent := by
  unfold drain
  split <;> rfl

theorem silent_reset (h : Hub R C) (s : SubscriptionRef) :
    (h.reset s).hub.silent = h.silent := by
  unfold reset
  split
  · rfl
  · split
    · rfl
    · rfl
    · split
      · rfl
      · exact silent_enqueue h s

theorem silent_forget (h : Hub R C) (s : SubscriptionRef) : (h.forget s).silent = h.silent := by
  unfold forget
  repeat' split
  all_goals rfl

theorem silent_markCancelled (h : Hub R C) (s : SubscriptionRef) :
    (h.markCancelled s).2.silent = h.silent := by
  unfold markCancelled
  repeat' split
  all_goals rfl

theorem silent_cancel (h : Hub R C) (s : SubscriptionRef) :
    (h.cancel s).hub.silent = h.silent := by
  rw [cancel_hub]
  split
  · rw [silent_forget, silent_markCancelled]
  · rfl

/-- Silent services are never told of a cancellation: they look at the state of what they hold. -/
theorem silent_cancelAll (h : Hub R C) (l : List SubscriptionRef) :
    (h.cancelAll l).hub.silent = h.silent := by
  induction l generalizing h with
  | nil => rfl
  | cons s rest ih => rw [cancelAll, ih, silent_cancel]

theorem silent_poll (h : Hub R C) (k : ServiceRef) : (h.poll k).hub.silent = h.silent := by
  unfold poll
  repeat' split
  all_goals rfl

theorem silent_shut (h : Hub R C) (k : ServiceRef) : (h.shut k).2.silent = h.silent := by
  have hunqueue : ∀ (l : List SubscriptionRef) (g : Hub R C),
      (l.foldl (fun h s => h.modifySubscription s fun sub => { sub with queued := false })
        g).silent = g.silent := by
    intro l
    induction l with
    | nil => exact fun _ => rfl
    | cons s rest ih => exact fun _ => ih _
  unfold shut
  split
  · rfl
  · split
    · rfl
    · exact hunqueue _ h

/-- Closing a service with notifications leaves all silent ones as they are. -/
theorem silent_close (h : Hub R C) (k : ServiceRef) : (h.close k).hub.silent = h.silent := by
  rw [close_hub]
  split
  · rw [silent_cancelAll, silent_shut]
  · rfl

/-! ## What is still valid -/

/-- Whether a subscription is there and has not been cancelled. -/
def isValid (h : Hub R C) (s : SubscriptionRef) : Bool :=
  match h.subscription? s with
  | none => false
  | some sub => sub.isValid

/-- What is valid exists and has not been cancelled. -/
theorem isValid_iff {h : Hub R C} {s : SubscriptionRef} :
    h.isValid s = true ↔ ∃ sub, h.subscription? s = some sub ∧ sub.state ≠ .cancelled := by
  unfold isValid
  split <;> simp [*, Subscription.isValid]

/-- Pruning keeps the valid subscriptions in their order. -/
theorem stillValid_eq_filter (h : Hub R C) (l : List SubscriptionRef) :
    h.stillValid l = l.filter h.isValid := rfl

/-- Pruning depends on nothing but what is valid. -/
theorem stillValid_congr {h g : Hub R C} (hsame : ∀ s, h.isValid s = g.isValid s)
    (l : List SubscriptionRef) : h.stillValid l = g.stillValid l :=
  List.filter_congr fun s _ => hsame s

/-- Looking once more changes nothing, if what is valid now was valid before. -/
theorem stillValid_stillValid {h g : Hub R C}
    (hlater : ∀ s, g.isValid s = true → h.isValid s = true) (l : List SubscriptionRef) :
    g.stillValid (h.stillValid l) = g.stillValid l := by
  simp only [stillValid_eq_filter, List.filter_filter]
  refine List.filter_congr fun s _ => ?_
  have hs := hlater s
  grind

/-- What is valid throughout stays on the list. -/
theorem stillValid_eq_self {h : Hub R C} {l : List SubscriptionRef}
    (hl : ∀ s ∈ l, h.isValid s = true) : h.stillValid l = l :=
  List.filter_eq_self.mpr hl

/-- A list that has lost only what is not valid any more shows the same as before. -/
theorem stillValid_of_sublist {h : Hub R C} {l m : List SubscriptionRef} (hsub : l.Sublist m)
    (hm : m.Nodup) (hl : ∀ s ∈ m, h.isValid s = true → s ∈ l) :
    h.stillValid l = h.stillValid m := by
  simp only [stillValid_eq_filter]
  induction hsub with
  | slnil => rfl
  | cons s hsub ih =>
    obtain ⟨hout, hrest⟩ := List.nodup_cons.mp hm
    have hgone : ¬ h.isValid s = true := fun hvalid =>
      hout (hsub.subset (hl s List.mem_cons_self hvalid))
    rw [List.filter_cons_of_neg hgone]
    exact ih hrest fun s' hs' => hl s' (List.mem_cons_of_mem s hs')
  | cons_cons s hsub ih =>
    obtain ⟨hout, hrest⟩ := List.nodup_cons.mp hm
    rw [List.filter_cons, List.filter_cons]
    rw [ih hrest fun s' hs' hvalid => ?_]
    rcases List.mem_cons.mp (hl s' (List.mem_cons_of_mem s hs') hvalid) with rfl | hmem
    · exact absurd hs' hout
    · exact hmem

/-! ## Calls of a silent service -/

theorem getElem?_modifySilent (h : Hub R C) (k : SilentRef) (f : SilentService → SilentService) :
    (h.modifySilent k f).silent[k]? = (h.silent[k]?).map f := by
  unfold modifySilent
  rw [Array.getElem?_modify, if_pos rfl]

theorem getElem?_modifySilent_of_ne (h : Hub R C) {k j : SilentRef} (hne : k ≠ j)
    (f : SilentService → SilentService) : (h.modifySilent k f).silent[j]? = h.silent[j]? := by
  unfold modifySilent
  rw [Array.getElem?_modify, if_neg hne]

/-- Only a silent service that is there is open. -/
theorem silent_of_isOpenSilent {h : Hub R C} {k : SilentRef} (hk : h.isOpenSilent k = true) :
    ∃ w, h.silent[k]? = some w ∧ w.isOpen = true := by
  unfold isOpenSilent at hk
  rcases hw : h.silent[k]? with _ | w
  · simp [hw] at hk
  · exact ⟨w, rfl, by simpa [hw] using hk⟩

/-- A count strikes what is cancelled from the list and counts the rest. -/
theorem liveCountSilent_of_silent {h : Hub R C} {k : SilentRef} {w : SilentService}
    (hw : h.silent[k]? = some w) :
    (h.liveCountSilent k).value = (h.stillValid w.registered).length ∧
      (h.liveCountSilent k).hub.silent[k]? =
        some { w with registered := h.stillValid w.registered } := by
  have hprune := getElem?_modifySilent h k fun w =>
    { w with registered := h.stillValid w.registered }
  rw [hw, Option.map_some] at hprune
  refine ⟨?_, hprune⟩
  rw [liveCountSilent, prune, hprune]
  rfl

/-- An open silent service numbers a new subscription, strikes what is cancelled from its list and
puts the new one behind the rest. -/
theorem registerSilent_of_open {h : Hub R C} {k : SilentRef} {w : SilentService}
    (hw : h.silent[k]? = some w) (hopen : w.isOpen = true) (resource : R) {kinds : List EventKind}
    (hkinds : kinds ≠ []) :
    (h.registerSilent k resource kinds).value = .ok h.subscriptions.size ∧
      (h.registerSilent k resource kinds).hub.subscriptions =
        h.subscriptions.push
          { id := ⟨w.nextId⟩, resource, interest := kinds.eraseDups, config := .standard
            owner := none } ∧
      (h.registerSilent k resource kinds).hub.silent[k]? =
        some { w with
          nextId := w.nextId + 1
          registered := h.stillValid w.registered ++ [h.subscriptions.size] } := by
  have hsome : kinds.isEmpty = false := by simpa using hkinds
  have hprune := getElem?_modifySilent h k fun v =>
    { v with registered := h.stillValid v.registered }
  rw [hw, Option.map_some] at hprune
  unfold registerSilent
  simp only [hsome, hw, hopen, Bool.not_true, Bool.false_eq_true, if_false]
  refine ⟨trivial, rfl, ?_⟩
  rw [getElem?_modifySilent]
  change Option.map _ ((h.prune k).silent[k]?) = _
  rw [prune, hprune, Option.map_some, hopen]

/-- A closed silent service registers nothing. -/
theorem registerSilent_of_closed {h : Hub R C} {k : SilentRef} (hclosed : h.isOpenSilent k = false)
    (resource : R) {kinds : List EventKind} (hkinds : kinds ≠ []) :
    h.registerSilent k resource kinds = { value := .error .closed, hub := h } := by
  have hsome : kinds.isEmpty = false := by simpa using hkinds
  unfold registerSilent
  unfold isOpenSilent at hclosed
  simp only [hsome, Bool.false_eq_true, if_false]
  split
  · rfl
  · rename_i v hv
    rw [hv] at hclosed
    simp_all

/-- A registration with one silent service is not noticed by another one. -/
theorem silent_registerSilent_of_ne (h : Hub R C) {k j : SilentRef} (hne : k ≠ j) (resource : R)
    (kinds : List EventKind) :
    (h.registerSilent k resource kinds).hub.silent[j]? = h.silent[j]? := by
  rcases registerSilent_cases h k resource kinds with
    hr | ⟨made, v, f, g, -, -, -, -, -, hr⟩
  · rw [hr]
  · rw [hr, getElem?_modifySilent_of_ne _ hne]
    exact getElem?_modifySilent_of_ne h hne f

/-- Closing an open silent service cancels all that is on its list. -/
theorem closeSilent_of_open {h : Hub R C} {k : SilentRef} {w : SilentService}
    (hw : h.silent[k]? = some w) (hopen : w.isOpen = true) :
    (∀ s, (h.closeSilent k).hub.subscription? s = (h.subscription? s).map fun sub =>
        if s ∈ w.registered then { sub with state := .cancelled } else sub) ∧
      (h.closeSilent k).hub.silent[k]? = some { w with isOpen := false, registered := [] } := by
  unfold closeSilent
  simp only [hw, hopen, Bool.not_true, Bool.false_eq_true, if_false]
  refine ⟨fun s => ?_, ?_⟩
  · rw [subscription?_cancelAll, subscription?_modifySilent]
  · rw [silent_cancelAll, getElem?_modifySilent, hw, Option.map_some]

end Hub

end PathWatch
