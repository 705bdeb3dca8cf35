import Mathlib
import PathWatch.Proofs.Buffer.Coalescing
import PathWatch.Proofs.Run.Chronicle
/-!
# Producers that race

Several threads post to one subscription, each of them its own events in its own order, and the runs
put the posts of the threads together in any way. How many entries the buffer has and what they
count does not depend on the run. Which events are kept does, but of every thread it is the first
ones.
-/

namespace PathWatch

variable {R C : Type}

/-! ## Lists with the names of threads -/

/-- The items of one thread. -/
def itemsOf {α : Type} (t : Thread) (w : List (Thread × α)) : List α :=
  (w.filter fun p => p.1 = t).map Prod.snd

section Items

variable {α : Type} {t t' : Thread} {a : α} {w w' : List (Thread × α)}

theorem itemsOf_cons : itemsOf t ((t', a) :: w) = (if t' = t then [a] else []) ++ itemsOf t w := by
  by_cases ht : t' = t <;> simp [itemsOf, ht]

/-- Of what comes first, every thread has its first items. -/
theorem itemsOf_prefix (hw : w <+: w') (t : Thread) : itemsOf t w <+: itemsOf t w' := by
  obtain ⟨rest, rfl⟩ := hw
  exact ⟨itemsOf t rest, by simp [itemsOf]⟩

/-- One thread has an item, and the others have none. -/
theorem flatMap_ite_range {T : Nat} (ht : t < T) :
    (List.range T).flatMap (fun t' => if t = t' then [a] else []) = [a] := by
  induction T with
  | zero => exact absurd ht (Nat.not_lt_zero t)
  | succ T ih =>
    rw [List.range_succ, List.flatMap_append, List.flatMap_singleton]
    rcases Nat.lt_succ_iff_lt_or_eq.mp ht with hbefore | rfl
    · rw [ih hbefore, if_neg hbefore.ne, List.append_nil]
    · have hnone : (List.range t).flatMap (fun t' => if t = t' then [a] else []) = [] := by
        refine List.flatMap_eq_nil_iff.mpr fun t' ht' => if_neg ?_
        exact (List.mem_range.mp ht').ne'
      rw [hnone, if_pos rfl, List.nil_append]

/-- The items of the threads, one thread after another, are all items, each of them once. -/
theorem perm_flatMap_itemsOf {T : Nat} (hw : ∀ p ∈ w, p.1 < T) :
    (w.map Prod.snd).Perm ((List.range T).flatMap fun t => itemsOf t w) := by
  induction w with
  | nil => simp [itemsOf]
  | cons p w ih =>
    obtain ⟨t, a⟩ := p
    obtain ⟨ht, hrest⟩ := List.forall_mem_cons.mp hw
    simp only [itemsOf_cons, List.map_cons]
    refine List.Perm.trans ?_ (List.flatMap_append_perm _ _ _)
    rw [flatMap_ite_range ht]
    exact (ih hrest).cons a

end Items

namespace Buffer

theorem weight_perm {l r : Buffer C} (hperm : l.Perm r) : weight l = weight r :=
  (hperm.map ChangeEvent.count).sum_eq

theorem weight_flatMap (l : List Thread) (f : Thread → Buffer C) :
    weight (l.flatMap f) = (l.map fun t => weight (f t)).sum := by
  induction l with
  | nil => rfl
  | cons t l ih => rw [List.flatMap_cons, weight_append, ih, List.map_cons, List.sum_cons]

/-- Events that count one each weigh as much as there are. -/
theorem weight_eq_length {es : List (ChangeEvent C)} (hes : ∀ e ∈ es, e.count = 1) :
    weight es = es.length := by
  induction es with
  | nil => rfl
  | cons e es ih =>
    obtain ⟨he, hrest⟩ := List.forall_mem_cons.mp hes
    rw [weight_cons, he, ih hrest, List.length_cons, Nat.add_comm]

/-- Events that all repeat a group are counted into it. -/
theorem groupsFrom_of_repeats [BEq C] {g : ChangeEvent C} {es : List (ChangeEvent C)}
    (hes : ∀ e ∈ es, repeats g e = true) (hg : g.count ≤ maxCount) :
    groupsFrom true g es = [grown g (weight es)] := by
  induction es generalizing g with
  | nil => simp [groupsFrom, grown, hg]
  | cons e es ih =>
    obtain ⟨he, hrest⟩ := List.forall_mem_cons.mp hes
    have hgrown : grown (grown g e.count) (weight es) = grown g (weight (e :: es)) := by
      simp only [grown, weight_cons]
      congr 1
      omega
    have hgrows : ∀ e' ∈ es, repeats (grown g e.count) e' = true := hrest
    rw [groupsFrom, he, Bool.true_and, if_pos rfl, ih hgrows (Nat.min_le_right _ _), hgrown]

end Buffer

/-! ## Posts with the names of threads -/

namespace Chronicle

variable [BEq C]

/-- The events posted to a subscription since it was drained for the last time, or since it was
made, with the threads that posted them. -/
def posts (s : SubscriptionRef) : Chronicle R C → List (Thread × ChangeEvent C)
  | [] => []
  | x :: d =>
    if x.action.drains s then []
    else posts s d ++ (x.action.posts (hub d) s).map (x.thread, ·)

theorem map_snd_posts (d : Chronicle R C) (s : SubscriptionRef) :
    (d.posts s).map Prod.snd = d.past.posted s := by
  induction d with
  | nil => rfl
  | cons x d ih =>
    rw [posts, past_cons, History.posted]
    split
    · rfl
    · rw [List.map_append, ih, List.map_map, hub]
      exact congrArg _ (List.map_id _)

/-- What the producers of a race have posted: the events of each thread, which are ordinary and all
together count no more than there can be, from threads numbered below `T`. -/
structure RacedBy (d : Chronicle R C) (s : SubscriptionRef) (T : Nat)
    (L : Thread → List (ChangeEvent C)) : Prop where
  itemsOf_eq : ∀ t, itemsOf t (d.posts s) = L t
  eq_nil : ∀ t, T ≤ t → L t = []
  ordinary : ∀ t, Buffer.Ordinary (L t)
  sum_weight_le : ∑ t ∈ Finset.range T, Buffer.weight (L t) ≤ maxCount

namespace RacedBy

variable {d : Chronicle R C} {s : SubscriptionRef} {T : Nat} {L : Thread → List (ChangeEvent C)}

theorem thread_lt (hd : d.RacedBy s T L) {p : Thread × ChangeEvent C} (hp : p ∈ d.posts s) :
    p.1 < T := by
  by_contra hout
  have hmem : p.2 ∈ itemsOf p.1 (d.posts s) :=
    List.mem_map.mpr ⟨p, List.mem_filter.mpr ⟨hp, by simp⟩, rfl⟩
  rw [hd.itemsOf_eq, hd.eq_nil p.1 (Nat.not_lt.mp hout)] at hmem
  exact List.not_mem_nil hmem

/-- What was posted is what the threads have posted, in some order. -/
theorem perm (hd : d.RacedBy s T L) :
    (d.past.posted s).Perm ((List.range T).flatMap L) := by
  have hperm := perm_flatMap_itemsOf fun p hp => hd.thread_lt hp
  simpa only [map_snd_posts, hd.itemsOf_eq] using hperm

theorem mem_iff (hd : d.RacedBy s T L) {e : ChangeEvent C} :
    e ∈ d.past.posted s ↔ ∃ t, e ∈ L t := by
  rw [hd.perm.mem_iff, List.mem_flatMap]
  constructor
  · rintro ⟨t, -, he⟩
    exact ⟨t, he⟩
  · rintro ⟨t, he⟩
    refine ⟨t, List.mem_range.mpr ?_, he⟩
    by_contra hout
    rw [hd.eq_nil t (Nat.not_lt.mp hout)] at he
    exact List.not_mem_nil he

theorem ordinary_posted (hd : d.RacedBy s T L) : Buffer.Ordinary (d.past.posted s) := by
  intro e he
  obtain ⟨t, ht⟩ := hd.mem_iff.mp he
  exact hd.ordinary t e ht

theorem length_posted (hd : d.RacedBy s T L) :
    (d.past.posted s).length = ∑ t ∈ Finset.range T, (L t).length := by
  rw [hd.perm.length_eq, List.length_flatMap]
  rfl

theorem weight_posted (hd : d.RacedBy s T L) :
    Buffer.weight (d.past.posted s) = ∑ t ∈ Finset.range T, Buffer.weight (L t) := by
  rw [Buffer.weight_perm hd.perm, Buffer.weight_flatMap]
  rfl

/-- The buffer counts what the threads have posted. -/
theorem weight_buffer (hd : d.RacedBy s T L) {sub : Subscription R C}
    (hs : d.hub.subscription? s = some sub) :
    sub.buffer.weight = ∑ t ∈ Finset.range T, Buffer.weight (L t) := by
  have hcounts : ∀ e ∈ d.past.posted s, 1 ≤ e.count :=
    fun e he => (History.wellFormed_of_mem_posted he).one_le_count
  rw [d.past.buffer_eq_foldl hs, Buffer.weight_foldl_post _ hcounts, hd.weight_posted]
  rw [hd.weight_posted]
  exact hd.sum_weight_le

/-- The buffer has no more than one entry beyond its capacity. -/
theorem length_buffer_le (hd : d.RacedBy s T L) {sub : Subscription R C}
    (hs : d.hub.subscription? s = some sub) : sub.buffer.length ≤ sub.config.capacity + 1 := by
  rw [d.past.buffer_eq_collapse hs, (hd.ordinary_posted.groups _).length_collapse]
  exact Nat.min_le_right _ _

/-- Without coalescing the buffer keeps the first posts as they are, and counts the others. -/
theorem buffer_eq_of_plain (hd : d.RacedBy s T L) {sub : Subscription R C}
    (hs : d.hub.subscription? s = some sub) (hplain : sub.config.coalesceRepeats = false) :
    sub.buffer = ((d.posts s).take sub.config.capacity).map Prod.snd ++
      if ∑ t ∈ Finset.range T, (L t).length ≤ sub.config.capacity then []
      else [⟨.overflow, sub.buffer.overflowed, none⟩] := by
  have hbuffer : sub.buffer = Buffer.collapse sub.config.capacity (d.past.posted s) := by
    rw [d.past.buffer_eq_collapse hs, hplain, Buffer.groups_false]
  have hfits : Buffer.weight (d.past.posted s) ≤ maxCount :=
    hd.weight_posted.trans_le hd.sum_weight_le
  rw [List.map_take, map_snd_posts, ← hd.length_posted]
  split
  · rename_i hroom
    rw [hbuffer, Buffer.collapse_of_length_le hroom, List.take_of_length_le hroom, List.append_nil]
  · rename_i hmore
    have hcount : Buffer.excess sub.config.capacity (d.past.posted s) = sub.buffer.overflowed := by
      have hrest := Buffer.weight_take_add_weight_drop sub.config.capacity (d.past.posted s)
      rw [hbuffer, hd.ordinary_posted.overflowed_collapse hfits]
      exact Nat.min_eq_left (show Buffer.weight _ ≤ maxCount by omega)
    rw [← hcount, hbuffer, hd.ordinary_posted.collapse_eq (Nat.not_le.mp hmore)]

theorem length_of_plain (hd : d.RacedBy s T L) {sub : Subscription R C}
    (hs : d.hub.subscription? s = some sub) (hplain : sub.config.coalesceRepeats = false) :
    sub.buffer.length = min (∑ t ∈ Finset.range T, (L t).length) (sub.config.capacity + 1) := by
  rw [d.past.buffer_eq_collapse hs, hplain, Buffer.groups_false,
    hd.ordinary_posted.length_collapse, hd.length_posted]

/-- Without coalescing, events that happened once are counted by the overflow event if they do not
fit. -/
theorem overflowed_of_plain (hd : d.RacedBy s T L) {sub : Subscription R C}
    (hs : d.hub.subscription? s = some sub) (hplain : sub.config.coalesceRepeats = false)
    (honce : ∀ t, ∀ e ∈ L t, e.count = 1) :
    sub.buffer.overflowed = ∑ t ∈ Finset.range T, (L t).length - sub.config.capacity := by
  have hposted : ∀ e ∈ d.past.posted s, e.count = 1 := by
    intro e he
    obtain ⟨t, ht⟩ := hd.mem_iff.mp he
    exact honce t e ht
  have hfits : Buffer.weight (d.past.posted s) ≤ maxCount :=
    hd.weight_posted.trans_le hd.sum_weight_le
  rw [d.past.buffer_eq_collapse hs, hplain, Buffer.groups_false,
    hd.ordinary_posted.overflowed_collapse hfits,
    Buffer.weight_eq_length fun e he => hposted e (List.mem_of_mem_drop he), List.length_drop,
    hd.length_posted]

/-- With coalescing, events that all tell the same make one entry. -/
theorem buffer_eq_of_alike (hd : d.RacedBy s T L) {sub : Subscription R C}
    (hs : d.hub.subscription? s = some sub) (hcoalesces : sub.config.coalesceRepeats = true)
    (hcapacity : 1 ≤ sub.config.capacity)
    (halike : ∀ t t', ∀ e ∈ L t, ∀ e' ∈ L t', e.kind = e'.kind ∧ (e.context == e'.context) = true)
    {t : Thread} (ht : L t ≠ []) :
    ∃ t, ∃ e ∈ L t, sub.buffer =
      [⟨e.kind, ∑ t ∈ Finset.range T, Buffer.weight (L t), e.context⟩] := by
  rcases hposted : d.past.posted s with _ | ⟨e, es⟩
  · obtain ⟨e, he⟩ := List.exists_mem_of_ne_nil _ ht
    have hmem := hd.mem_iff.mpr ⟨t, he⟩
    rw [hposted] at hmem
    exact absurd hmem List.not_mem_nil
  · have hmem : ∀ e' ∈ e :: es, ∃ t, e' ∈ L t := fun e' he' =>
      hd.mem_iff.mp (by rwa [hposted])
    obtain ⟨t, he⟩ := hmem e (by simp)
    have hrepeats : ∀ e' ∈ es, Buffer.repeats e e' = true := by
      intro e' he'
      obtain ⟨t', ht'⟩ := hmem e' (List.mem_cons_of_mem e he')
      obtain ⟨hkind, hcontext⟩ := halike t t' e he e' ht'
      have hordinary : e.kind ≠ .overflow := by
        simpa [ChangeEvent.isOverflow] using hd.ordinary t e he
      simp [Buffer.repeats, hkind ▸ hordinary, hkind, hcontext]
    have hweight := hd.weight_posted
    have hfits := hd.sum_weight_le
    rw [← hweight, hposted, Buffer.weight_cons] at hfits
    have hcount : e.count ≤ maxCount := (Nat.le_add_right _ _).trans hfits
    refine ⟨t, e, he, ?_⟩
    rw [d.past.buffer_eq_collapse hs, hcoalesces, hposted, Buffer.groups,
      Buffer.groupsFrom_of_repeats hrepeats hcount, Buffer.collapse_of_length_le hcapacity,
      ← hweight, hposted, Buffer.weight_cons, Buffer.grown, Nat.min_eq_left hfits]

end RacedBy

/-- Racing producers. In every run in which the threads have posted the events of `L` to a
subscription since it was made or drained, the buffer counts what all of them count together.
Without coalescing it has as many ordinary entries as fit, and an overflow event exactly if there
are more posts than that. The entries are some of the posts, none of them twice, and those of one
thread are the first ones of that thread, in its order. Where every event happened once, the
overflow event counts the posts that do not fit. With coalescing the buffer has at most one entry
beyond its capacity, and a single one if all events tell the same. -/
theorem racing_producers (d : Chronicle R C) {s : SubscriptionRef} {sub : Subscription R C}
    (hs : d.hub.subscription? s = some sub) (hcapacity : 1 ≤ sub.config.capacity) {T : Nat}
    {L : Thread → List (ChangeEvent C)} (hd : d.RacedBy s T L) :
    sub.buffer.weight = ∑ t ∈ Finset.range T, Buffer.weight (L t) ∧
      (sub.config.coalesceRepeats = false →
        (∃ kept : List (Thread × ChangeEvent C),
          sub.buffer = kept.map Prod.snd ++
              (if ∑ t ∈ Finset.range T, (L t).length ≤ sub.config.capacity then []
                else [⟨.overflow, sub.buffer.overflowed, none⟩]) ∧
            kept.length = min (∑ t ∈ Finset.range T, (L t).length) sub.config.capacity ∧
            (∀ t, itemsOf t kept <+: L t) ∧
            (kept.map Prod.snd).Subperm ((List.range T).flatMap L)) ∧
          sub.buffer.length = min (∑ t ∈ Finset.range T, (L t).length) (sub.config.capacity + 1) ∧
          ((∀ t, ∀ e ∈ L t, e.count = 1) → sub.buffer.overflowed =
            ∑ t ∈ Finset.range T, (L t).length - sub.config.capacity)) ∧
      (sub.config.coalesceRepeats = true →
        sub.buffer.length ≤ sub.config.capacity + 1 ∧
          ((∀ t t', ∀ e ∈ L t, ∀ e' ∈ L t',
              e.kind = e'.kind ∧ (e.context == e'.context) = true) →
            (∃ t, L t ≠ []) →
            ∃ t, ∃ e ∈ L t, sub.buffer =
              [⟨e.kind, ∑ t ∈ Finset.range T, Buffer.weight (L t), e.context⟩])) := by
  refine ⟨hd.weight_buffer hs,
    fun hplain => ⟨?_, hd.length_of_plain hs hplain, hd.overflowed_of_plain hs hplain⟩,
    fun hcoalesces => ⟨hd.length_buffer_le hs, ?_⟩⟩
  -- What is kept is what was posted first, as much of it as there is room for.
  · have hfirst := List.take_prefix sub.config.capacity (d.posts s)
    refine ⟨(d.posts s).take sub.config.capacity, hd.buffer_eq_of_plain hs hplain, ?_, ?_, ?_⟩
    · have hlength : (d.posts s).length = ∑ t ∈ Finset.range T, (L t).length := by
        rw [← hd.length_posted, ← map_snd_posts, List.length_map]
      rw [List.length_take, hlength, Nat.min_comm]
    · intro t
      rw [← hd.itemsOf_eq t]
      exact itemsOf_prefix hfirst t
    · have hsome : (((d.posts s).take sub.config.capacity).map Prod.snd).Sublist
          (d.past.posted s) := by
        rw [← map_snd_posts]
        exact hfirst.sublist.map Prod.snd
      exact hsome.subperm.trans hd.perm.subperm
  · rintro halike ⟨t, ht⟩
    exact hd.buffer_eq_of_alike hs hcoalesces hcapacity halike ht

/-- Capacity two, and two threads that post two events each: the first event of each is kept, and
the other two are counted. -/
theorem racing_producers_of_two_threads :
    let d : Chronicle Nat Nat :=
      [⟨1, .post 0 (.once .modify 9)⟩, ⟨0, .signal 0⟩, ⟨0, .post 0 (.once .modify 7)⟩,
        ⟨0, .post 0 (.once .create 7)⟩, ⟨1, .post 0 (.once .create 9)⟩,
        ⟨2, .register 0 10 [.modify]⟩, ⟨2, .withConfig { capacity := 2, coalesceRepeats := false }⟩]
    ∃ sub, d.hub.subscription? 0 = some sub ∧
      sub.buffer = [.once .create 9, .once .create 7, ⟨.overflow, 2, none⟩] ∧
      sub.buffer.weight = 4 ∧ sub.buffer.overflowed = 2 := by
  intro d
  let L : Thread → List (ChangeEvent Nat) := fun t =>
    match t with
    | 0 => [.once .create 7, .once .modify 7]
    | 1 => [.once .create 9, .once .modify 9]
    | _ => []
  have hposts : d.posts 0 =
      [(1, .once .create 9), (0, .once .create 7), (0, .once .modify 7),
        (1, .once .modify 9)] := rfl
  have hd : d.RacedBy 0 2 L := by
    refine ⟨fun t => ?_, fun t ht => ?_, fun t => ?_, by decide⟩
    · rw [hposts]
      rcases t with _ | _ | t
      · rfl
      · rfl
      · simp [itemsOf, L]
    · rcases t with _ | _ | t
      · simp at ht
      · simp at ht
      · rfl
    · unfold Buffer.Ordinary
      rcases t with _ | _ | t
      · decide
      · decide
      · simp [L]
  obtain ⟨sub, hs, hconfig, hbuffer⟩ : ∃ sub, d.hub.subscription? 0 = some sub ∧
      sub.config = { capacity := 2, coalesceRepeats := false } ∧
      sub.buffer = [.once .create 9, .once .create 7, ⟨.overflow, 2, none⟩] := ⟨_, rfl, rfl, rfl⟩
  have hcapacity : 1 ≤ sub.config.capacity := by simp [hconfig]
  obtain ⟨hweight, hplain, -⟩ := racing_producers d hs hcapacity hd
  have honce : ∀ t, ∀ e ∈ L t, e.count = 1 := by
    intro t
    rcases t with _ | _ | t
    · decide
    · decide
    · simp [L]
  have hcount := (hplain (by rw [hconfig])).2.2 honce
  rw [hconfig] at hcount
  exact ⟨sub, hs, hbuffer, hweight, hcount⟩

end Chronicle

end PathWatch
