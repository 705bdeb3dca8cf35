import Mathlib
import PathWatch.Proofs.Closing.LiveSet
/-!
# Identifiers

A service numbers its subscriptions from one, in the order in which it registers them. So a
subscription is known by its service and its number, and an entry of a live set stands under the
number of its own subscription and of no other one.
-/

namespace PathWatch

variable {R C : Type}

/-! ## Numbered lists -/

/-- The number of a subscription. -/
def Hub.number? (h : Hub R C) (s : SubscriptionRef) : Option Nat :=
  (h.subscription? s).map fun sub => sub.id.value

/-- Whether the subscriptions of a list have the numbers from one on, in the order of the list. -/
def Hub.Numbered (h : Hub R C) (l : List SubscriptionRef) : Prop :=
  l.map h.number? = (List.range' 1 l.length).map some

namespace Hub.Numbered

variable {h g : Hub R C} {l : List SubscriptionRef}

theorem nil : h.Numbered [] := rfl

/-- Each number is given to the subscription at its place. -/
theorem number?_getElem (hl : h.Numbered l) {i : Nat} (hi : i < l.length) :
    h.number? l[i] = some (i + 1) := by
  have hat := congrArg (fun numbers => numbers[i]?) hl
  simpa [hi, Nat.add_comm] using hat

theorem exists_number? (hl : h.Numbered l) {s : SubscriptionRef} (hs : s ∈ l) :
    ∃ n, h.number? s = some n := by
  obtain ⟨i, hi, rfl⟩ := List.mem_iff_getElem.mp hs
  exact ⟨i + 1, hl.number?_getElem hi⟩

/-- No number is given twice. -/
theorem eq_of_number?_eq (hl : h.Numbered l) {s s' : SubscriptionRef} (hs : s ∈ l) (hs' : s' ∈ l)
    (hn : h.number? s = h.number? s') : s = s' := by
  obtain ⟨i, hi, rfl⟩ := List.mem_iff_getElem.mp hs
  obtain ⟨j, hj, rfl⟩ := List.mem_iff_getElem.mp hs'
  rw [hl.number?_getElem hi, hl.number?_getElem hj] at hn
  obtain rfl : i = j := by simpa using hn
  rfl

theorem nodup (hl : h.Numbered l) : l.Nodup := by
  refine List.Nodup.of_map h.number? ?_
  rw [hl]
  exact (List.nodup_range' (s := 1) (n := l.length)).map (Option.some_injective Nat)

/-- The next number goes to what is put at the end. -/
theorem concat (hl : h.Numbered l) {s : SubscriptionRef} (hs : h.number? s = some (l.length + 1)) :
    h.Numbered (l ++ [s]) := by
  have hlength : (l ++ [s]).length = l.length + 1 := by simp
  rw [Numbered, hlength, List.range'_concat, List.map_append, List.map_append, hl,
    List.map_singleton, List.map_singleton, hs, Nat.one_mul, Nat.add_comm 1]

/-- A list stays numbered as long as its subscriptions keep their numbers. -/
theorem of_number?_eq (hl : h.Numbered l)
    (hsame : ∀ s n, h.number? s = some n → g.number? s = some n) : g.Numbered l := by
  rw [Numbered, ← hl]
  refine List.map_congr_left fun s hs => ?_
  obtain ⟨n, hn⟩ := hl.exists_number? hs
  rw [hn, hsame s n hn]

end Hub.Numbered

variable [BEq C]

/-- Every subscription keeps its number, whatever is done. -/
theorem number?_apply {h : Hub R C} {s : SubscriptionRef} {n : Nat} (hs : h.number? s = some n)
    (a : Action R C) : (a.apply h).number? s = some n := by
  obtain ⟨sub, hsub, rfl⟩ := Option.map_eq_some_iff.mp hs
  obtain ⟨sub', hsub', hc⟩ := subscription?_apply hsub a
  rw [Hub.number?, hsub', Option.map_some, hc.id_eq]

theorem Hub.Numbered.apply {h : Hub R C} {l : List SubscriptionRef} (hl : h.Numbered l)
    (a : Action R C) : (a.apply h).Numbered l :=
  hl.of_number?_eq fun _ _ hs => number?_apply hs a

/-! ## Runs -/

namespace History

/-- A service that has not been made yet has registered nothing. -/
theorem registered_eq_nil (past : History R C) {k : ServiceRef}
    (hk : past.hub.services.size ≤ k) : past.registered k = [] := by
  refine List.eq_nil_iff_forall_not_mem.mpr fun s hs => ?_
  obtain ⟨sub, hsub, howner⟩ := (past.mem_registered_iff k s).mp hs
  exact absurd (past.queueSound.lt_size_of_owner hsub howner) (Nat.not_lt.mpr hk)

/-- The next number of a service is the one after those it has given. -/
theorem nextId_eq (past : History R C) {k : ServiceRef} {v : NotificationService}
    (hv : past.hub.service? k = some v) : v.nextId = (past.registered k).length + 1 := by
  induction past generalizing v with
  | nil => simp [hub] at hv
  | cons a past ih =>
    rw [registered, List.length_append]
    rcases live_apply hv with
      ⟨w, -, hw, hregisters, hnext, -⟩ | ⟨w, -, hw, hregisters, hnext, -⟩ |
        ⟨rfl, hregisters, hnext, -⟩
    · rw [hnext, ih hw, hregisters]
      rfl
    · rw [hnext, ih hw, hregisters]
      rfl
    · rw [hnext, registered_eq_nil past (Nat.le_refl _), hregisters]
      rfl

/-- The subscriptions of a service have the numbers from one on, in the order of registration. -/
theorem numbered_registered (past : History R C) (k : ServiceRef) :
    past.hub.Numbered (past.registered k) := by
  induction past with
  | nil => exact .nil
  | cons a past ih =>
    rw [registered]
    rcases hr : a.registers (hub past) k with _ | s
    · rw [Option.toList_none, List.append_nil]
      exact ih.apply a
    · obtain ⟨v, sub, hv, hs, -, hid⟩ := id_of_registers hr
      refine (ih.apply a).concat ?_
      rw [Hub.number?, hs, Option.map_some, hid, nextId_eq past hv]

/-- A subscription is known by its service and its number. -/
theorem eq_of_id_eq (past : History R C) {s s' : SubscriptionRef} {sub sub' : Subscription R C}
    {k : ServiceRef} (hs : past.hub.subscription? s = some sub)
    (hs' : past.hub.subscription? s' = some sub') (howner : sub.owner = some k)
    (howner' : sub'.owner = some k) (hid : sub.id = sub'.id) : s = s' := by
  refine (past.numbered_registered k).eq_of_number?_eq
    ((past.mem_registered_iff k s).mpr ⟨sub, hs, howner⟩)
    ((past.mem_registered_iff k s').mpr ⟨sub', hs', howner'⟩) ?_
  rw [Hub.number?, Hub.number?, hs, hs', Option.map_some, Option.map_some, hid]

/-- Every entry of a live set is a subscription of the service, under its own number. -/
theorem exists_of_mem_live (past : History R C) {k : ServiceRef} {v : NotificationService}
    (hv : past.hub.service? k = some v) {id : SubscriptionId} {s : SubscriptionRef}
    (hlisted : (id, s) ∈ v.live) :
    ∃ sub, past.hub.subscription? s = some sub ∧ sub.owner = some k ∧ sub.id = id := by
  induction past generalizing k v id s with
  | nil => simp [hub] at hv
  | cons a past ih => exact owned_apply (fun hw hmem => ih hw hmem) hv hlisted

/-- No other subscription is listed under the number of a subscription. -/
theorem id_ne_of_mem_live (past : History R C) {k : ServiceRef} {v : NotificationService}
    (hv : past.hub.service? k = some v) {s : SubscriptionRef} {sub : Subscription R C}
    (hs : past.hub.subscription? s = some sub) (howner : sub.owner = some k)
    {entry : SubscriptionId × SubscriptionRef} (hentry : entry ∈ v.live) (hne : entry.2 ≠ s) :
    entry.1 ≠ sub.id := by
  intro hid
  obtain ⟨other, hother, howner', hid'⟩ := past.exists_of_mem_live hv hentry
  exact hne (past.eq_of_id_eq hother hs howner' howner (hid'.trans hid))

/-- A live set lists what it lists in the order of registration. -/
theorem sublist_registered (past : History R C) {k : ServiceRef} {v : NotificationService}
    (hv : past.hub.service? k = some v) :
    (v.live.map Prod.snd).Sublist (past.registered k) := by
  induction past generalizing v with
  | nil => simp [hub] at hv
  | cons a past ih =>
    rw [registered]
    rcases live_apply hv with
      ⟨w, keep, hw, hregisters, -, hlive⟩ | ⟨w, keep, hw, hregisters, -, hlive⟩ |
        ⟨-, -, -, hlive⟩
    · rw [hlive, hregisters, Option.toList_none, List.append_nil]
      exact (List.filter_sublist.map _).trans (ih hw)
    · rw [hlive, hregisters, Option.toList_some, List.map_append]
      exact ((List.filter_sublist.map _).trans (ih hw)).append (List.Sublist.refl _)
    · rw [hlive]
      exact List.nil_sublist _

end History

end PathWatch
