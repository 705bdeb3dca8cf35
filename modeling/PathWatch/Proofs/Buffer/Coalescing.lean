import Mathlib
import PathWatch.Proofs.Buffer.Weight
/-!
# Coalescing keeps what it can

The same events are posted into two empty buffers of one capacity, one that coalesces repeats and
one that does not. The groups of the first take no more places than the events of the second, so
they have room for at least as many occurrences, and what is left over for the overflow event is no
more. As long as no event is an overflow event and no count reaches its largest value, both buffers
tell the beginning of the same sequence of occurrences, the coalescing one at least as much of it.
-/

namespace PathWatch

variable {R C : Type}

namespace Buffer

/-! ## Ordinary events -/

/-- No event is an overflow event. -/
def Ordinary (es : List (ChangeEvent C)) : Prop :=
  ∀ e ∈ es, e.isOverflow = false

theorem Ordinary.mono {es es' : List (ChangeEvent C)} (hes : Ordinary es) (hsub : es' ⊆ es) :
    Ordinary es' :=
  fun e he => hes e (hsub he)

theorem ordinary_cons {e : ChangeEvent C} {es : List (ChangeEvent C)} :
    Ordinary (e :: es) ↔ e.isOverflow = false ∧ Ordinary es :=
  List.forall_mem_cons

/-- A buffer of ordinary events does not end in a marker. -/
theorem Ordinary.endsInOverflow_eq_false {buffer : Buffer C} (hbuffer : Ordinary buffer) :
    buffer.endsInOverflow = false := by
  induction buffer using List.reverseRecOn with
  | nil => rfl
  | append_singleton l g _ => rw [endsInOverflow_snoc, hbuffer g (by simp)]

/-- Groups of ordinary events that do not fit leave the first ones, and an overflow event for the
rest. -/
theorem Ordinary.collapse_eq {gs : Buffer C} (hgs : Ordinary gs) {capacity : Nat}
    (hmore : capacity < gs.length) :
    collapse capacity gs = gs.take capacity ++ [⟨.overflow, excess capacity gs, none⟩] := by
  have hends := (hgs.mono (List.take_subset capacity gs)).endsInOverflow_eq_false
  rw [collapse_of_lt_length hmore, spill_eq, hends, if_neg (by simp)]

/-- Collapsing leaves the capacity at most, and a marker behind it. -/
theorem Ordinary.length_collapse {gs : Buffer C} (hgs : Ordinary gs) (capacity : Nat) :
    (collapse capacity gs).length = min gs.length (capacity + 1) := by
  rcases Nat.lt_or_ge capacity gs.length with hmore | hfits
  · rw [hgs.collapse_eq hmore, List.length_append, List.length_take_of_le hmore.le,
      List.length_singleton]
    omega
  · rw [collapse_of_length_le hfits]
    omega

/-! ## What overflow events count -/

/-- The occurrences that the overflow events of a buffer count. -/
def overflowed (buffer : Buffer C) : Nat :=
  weight (buffer.filter ChangeEvent.isOverflow)

theorem overflowed_append (l r : Buffer C) : overflowed (l ++ r) = overflowed l + overflowed r := by
  rw [overflowed, List.filter_append, weight_append]
  rfl

/-- Ordinary events count nothing that overflowed. -/
theorem Ordinary.overflowed_eq_zero {buffer : Buffer C} (hbuffer : Ordinary buffer) :
    overflowed buffer = 0 := by
  have hnone : buffer.filter ChangeEvent.isOverflow = [] :=
    List.filter_eq_nil_iff.mpr fun e he => by simp [hbuffer e he]
  rw [overflowed, hnone, weight_nil]

theorem weight_take_add_weight_drop (n : Nat) (gs : Buffer C) :
    weight (gs.take n) + weight (gs.drop n) = weight gs := by
  rw [← weight_append, List.take_append_drop]

/-- The overflow event counts what is in the groups that do not fit. -/
theorem Ordinary.overflowed_collapse {gs : Buffer C} (hgs : Ordinary gs)
    (hfits : weight gs ≤ maxCount) (capacity : Nat) :
    overflowed (collapse capacity gs) = weight (gs.drop capacity) := by
  rcases Nat.lt_or_ge capacity gs.length with hmore | hroom
  · have hrest := weight_take_add_weight_drop capacity gs
    have hcount : excess capacity gs = weight (gs.drop capacity) :=
      Nat.min_eq_left (show weight (gs.drop capacity) ≤ maxCount by omega)
    have hkept := (hgs.mono (List.take_subset capacity gs)).overflowed_eq_zero
    rw [hgs.collapse_eq hmore, overflowed_append, hkept, hcount, Nat.zero_add]
    simp [overflowed, ChangeEvent.isOverflow]
  · rw [collapse_of_length_le hroom, List.drop_eq_nil_of_le hroom, hgs.overflowed_eq_zero,
      weight_nil]

/-! ## Occurrences one by one -/

/-- The occurrences that a buffer tells one by one: every entry but the overflow events as often as
it counts. -/
def expansion (buffer : Buffer C) : List (EventKind × Option C) :=
  buffer.flatMap fun e =>
    if e.isOverflow then [] else List.replicate e.count (e.kind, e.context)

theorem expansion_append (l r : Buffer C) : expansion (l ++ r) = expansion l ++ expansion r :=
  List.flatMap_append

/-- An ordinary event expands to its count of copies. -/
theorem expansion_cons {e : ChangeEvent C} (he : e.isOverflow = false) (buffer : Buffer C) :
    expansion (e :: buffer) =
      List.replicate e.count (e.kind, e.context) ++ expansion buffer := by
  rw [expansion, List.flatMap_cons, if_neg (by simp [he])]
  rfl

/-- The expansion has as many events as the counts add up to. -/
theorem Ordinary.length_expansion {buffer : Buffer C} (hbuffer : Ordinary buffer) :
    (expansion buffer).length = weight buffer := by
  induction buffer with
  | nil => rfl
  | cons e buffer ih =>
    obtain ⟨he, hrest⟩ := ordinary_cons.mp hbuffer
    rw [expansion_cons he, List.length_append, List.length_replicate, ih hrest, weight_cons]

/-- The first groups expand to the start of what all of them expand to. -/
theorem expansion_take_prefix (n : Nat) (gs : Buffer C) :
    expansion (gs.take n) <+: expansion gs := by
  refine ⟨expansion (gs.drop n), ?_⟩
  rw [← expansion_append, List.take_append_drop]

/-- Collapsing expands to what the groups within the capacity expand to, since the marker expands to
nothing. -/
theorem Ordinary.expansion_collapse {gs : Buffer C} (hgs : Ordinary gs) (capacity : Nat) :
    expansion (collapse capacity gs) = expansion (gs.take capacity) := by
  rcases Nat.lt_or_ge capacity gs.length with hmore | hroom
  · rw [hgs.collapse_eq hmore, expansion_append]
    simp [expansion, ChangeEvent.isOverflow]
  · rw [collapse_of_length_le hroom, List.take_of_length_le hroom]

/-! ## Groups -/

section Groups

variable [BEq C]

/-- Ordinary events make ordinary groups. -/
theorem ordinary_groupsFrom (coalesce : Bool) {g : ChangeEvent C} {es : List (ChangeEvent C)}
    (hes : Ordinary (g :: es)) : Ordinary (groupsFrom coalesce g es) := by
  induction es generalizing g with
  | nil => exact hes
  | cons e es ih =>
    obtain ⟨hg, hrest⟩ := ordinary_cons.mp hes
    rw [groupsFrom]
    split
    · exact ih (ordinary_cons.mpr ⟨hg, (ordinary_cons.mp hrest).2⟩)
    · exact ordinary_cons.mpr ⟨hg, ih hrest⟩

theorem Ordinary.groups {es : List (ChangeEvent C)} (hes : Ordinary es) (coalesce : Bool) :
    Ordinary (groups coalesce es) := by
  cases es with
  | nil => exact hes
  | cons e es => exact ordinary_groupsFrom coalesce hes

/-- There are no more groups than events. -/
theorem length_groupsFrom_le (coalesce : Bool) (g : ChangeEvent C) (es : List (ChangeEvent C)) :
    (groupsFrom coalesce g es).length ≤ es.length + 1 := by
  induction es generalizing g with
  | nil => exact Nat.le_refl _
  | cons e es ih =>
    rw [groupsFrom]
    split
    · exact (ih _).trans (Nat.le_succ _)
    · exact Nat.succ_le_succ (ih e)

/-- There are no more groups than events. -/
theorem length_groups_le (coalesce : Bool) (es : List (ChangeEvent C)) :
    (groups coalesce es).length ≤ es.length := by
  cases es with
  | nil => exact Nat.le_refl _
  | cons e es => exact length_groupsFrom_le coalesce e es

omit [BEq C] in
/-- A group takes in an event without loss as long as the sum is in range. -/
theorem weight_grown_cons {g e : ChangeEvent C} {es : List (ChangeEvent C)}
    (hfits : weight (g :: e :: es) ≤ maxCount) :
    (grown g e.count).count = g.count + e.count ∧
      weight (grown g e.count :: es) = weight (g :: e :: es) := by
  simp only [weight_cons] at hfits ⊢
  have hcount : (grown g e.count).count = g.count + e.count := Nat.min_eq_left (by omega)
  exact ⟨hcount, by omega⟩

/-- Grouping keeps the sum of the counts, as long as it can be counted. -/
theorem weight_groupsFrom (coalesce : Bool) {g : ChangeEvent C} {es : List (ChangeEvent C)}
    (hfits : weight (g :: es) ≤ maxCount) :
    weight (groupsFrom coalesce g es) = weight (g :: es) := by
  induction es generalizing g with
  | nil => rfl
  | cons e es ih =>
    rw [groupsFrom]
    split
    · obtain ⟨-, hsame⟩ := weight_grown_cons hfits
      rw [ih (hsame.trans_le hfits), hsame]
    · have hrest : weight (e :: es) ≤ maxCount := by
        rw [weight_cons] at hfits
        omega
      rw [weight_cons, ih hrest, weight_cons g]

/-- Groups weigh what their events weigh. -/
theorem weight_groups (coalesce : Bool) {es : List (ChangeEvent C)}
    (hfits : weight es ≤ maxCount) : weight (groups coalesce es) = weight es := by
  cases es with
  | nil => rfl
  | cons e es => exact weight_groupsFrom coalesce hfits

/-- Each of the first events is in one of as many first groups. -/
theorem weight_take_le_groupsFrom (coalesce : Bool) {g : ChangeEvent C}
    {es : List (ChangeEvent C)} (hfits : weight (g :: es) ≤ maxCount) (n : Nat) :
    g.count + weight (es.take n) ≤ weight ((groupsFrom coalesce g es).take (n + 1)) := by
  induction es generalizing g n with
  | nil => simp [groupsFrom]
  | cons e es ih =>
    rw [groupsFrom]
    split
    · obtain ⟨hcount, hsame⟩ := weight_grown_cons hfits
      have hjoined := ih (hsame.trans_le hfits) n
      -- The event is in the group already, and takes no place of its own.
      have hshort : weight ((e :: es).take n) ≤ e.count + weight (es.take n) := by
        cases n with
        | zero => simp
        | succ n =>
          rw [List.take_succ_cons, weight_cons, ← weight_take_add_weight_drop n (es.take (n + 1)),
            List.take_take]
          simp
      omega
    · rw [List.take_succ_cons, weight_cons]
      cases n with
      | zero => simp
      | succ n =>
        have hrest : weight (e :: es) ≤ maxCount := by
          rw [weight_cons] at hfits
          omega
        have hown := ih hrest n
        rw [List.take_succ_cons, weight_cons]
        omega

/-- The first groups weigh at least as much as equally many events, since a group holds one event or
more. -/
theorem weight_take_le (coalesce : Bool) {es : List (ChangeEvent C)}
    (hfits : weight es ≤ maxCount) (n : Nat) :
    weight (es.take n) ≤ weight ((groups coalesce es).take n) := by
  cases es with
  | nil => simp [groups]
  | cons e es =>
    cases n with
    | zero => simp
    | succ n =>
      rw [List.take_succ_cons, weight_cons]
      exact weight_take_le_groupsFrom coalesce hfits n

/-- Grouping loses nothing that the expansion shows. -/
theorem expansion_groupsFrom [LawfulBEq C] (coalesce : Bool) {g : ChangeEvent C}
    {es : List (ChangeEvent C)} (hes : Ordinary (g :: es)) (hfits : weight (g :: es) ≤ maxCount) :
    expansion (groupsFrom coalesce g es) = expansion (g :: es) := by
  induction es generalizing g with
  | nil => rfl
  | cons e es ih =>
    obtain ⟨hg, hrest⟩ := ordinary_cons.mp hes
    obtain ⟨he, htail⟩ := ordinary_cons.mp hrest
    rw [groupsFrom]
    split
    · rename_i hjoins
      obtain ⟨hcount, hsame⟩ := weight_grown_cons hfits
      obtain ⟨⟨-, hkind⟩, hcontext⟩ : (g.kind ≠ .overflow ∧ g.kind = e.kind) ∧
          g.context = e.context := by
        simpa [repeats, and_assoc] using (Bool.and_eq_true_iff.mp hjoins).2
      have hgrown : Ordinary (grown g e.count :: es) := ordinary_cons.mpr ⟨hg, htail⟩
      -- The group and the event tell the same occurrence, so they can be told in one go.
      rw [ih hgrown (hsame.trans_le hfits), expansion_cons (ordinary_cons.mp hgrown).1,
        expansion_cons hg, expansion_cons he, hcount,
        ← hkind, ← hcontext, ← List.append_assoc, List.replicate_append_replicate]
      rfl
    · have hsmaller : weight (e :: es) ≤ maxCount := by
        rw [weight_cons] at hfits
        omega
      rw [expansion_cons hg, ih hrest hsmaller, expansion_cons hg]

/-- Groups tell the same occurrences as their events. -/
theorem Ordinary.expansion_groups [LawfulBEq C] (coalesce : Bool) {es : List (ChangeEvent C)}
    (hes : Ordinary es) (hfits : weight es ≤ maxCount) :
    expansion (Buffer.groups coalesce es) = expansion es := by
  cases es with
  | nil => rfl
  | cons e es => exact expansion_groupsFrom coalesce hes hfits

/-- Two events that tell the same occurrence. -/
def Alike (a b : ChangeEvent C) : Prop :=
  a.kind = b.kind ∧ a.context = b.context

/-- Where no two neighbours are alike, every event is a group of its own. -/
theorem groupsFrom_of_isChain [LawfulBEq C] {g : ChangeEvent C} {es : List (ChangeEvent C)}
    (hes : (g :: es).IsChain fun a b => ¬ Alike a b) (coalesce : Bool) :
    groupsFrom coalesce g es = g :: es := by
  induction es generalizing g with
  | nil => rfl
  | cons e es ih =>
    obtain ⟨hge, hrest⟩ := List.isChain_cons_cons.mp hes
    have hnew : ¬ (coalesce && repeats g e) = true := by
      intro hjoins
      have hsame := (Bool.and_eq_true_iff.mp hjoins).2
      simp only [repeats, Bool.and_eq_true, beq_iff_eq] at hsame
      exact hge ⟨hsame.1.2, hsame.2⟩
    rw [groupsFrom, if_neg hnew, ih hrest]

/-- Events of which no two neighbours are alike are groups of their own. -/
theorem groups_of_isChain [LawfulBEq C] {es : List (ChangeEvent C)}
    (hes : es.IsChain fun a b => ¬ Alike a b) (coalesce : Bool) : groups coalesce es = es := by
  cases es with
  | nil => rfl
  | cons e es => exact groupsFrom_of_isChain hes coalesce

end Groups

end Buffer

/-! ## Two buffers -/

namespace Subscription

variable [BEq C]

/-- What is posted goes into the buffer of a subscription that is not cancelled. -/
theorem buffer_foldl_post {sub : Subscription R C} (hstate : sub.state ≠ .cancelled)
    (es : List (ChangeEvent C)) :
    (es.foldl post sub).buffer = es.foldl (Buffer.post sub.config) sub.buffer := by
  induction es generalizing sub with
  | nil => rfl
  | cons e es ih =>
    have hbuffer : (sub.post e).buffer = sub.buffer.post sub.config e := by
      rw [post, if_neg hstate]
    rw [List.foldl_cons, List.foldl_cons, ih (by rwa [post_state]), post_config, hbuffer]

/-- Coalescing loses no information. Events are posted into the empty buffers of two subscriptions
that are not cancelled and have the same capacity, `plain`, which does not coalesce, and `dense`,
which does. Both buffers count the same occurrences, and the one of `dense` is no longer. The
occurrences that the buffer of `plain` tells one by one are the first of those that the buffer of
`dense` tells, and these the first of those that were posted. The overflow event of `dense` counts
no more than that of `plain`. Where no event repeats the one before it, the buffers are equal. -/
theorem coalescing_keeps_information [LawfulBEq C] {plain dense : Subscription R C}
    (hplain : plain.buffer = [] ∧ plain.state ≠ .cancelled ∧ plain.config.coalesceRepeats = false)
    (hdense : dense.buffer = [] ∧ dense.state ≠ .cancelled ∧ dense.config.coalesceRepeats = true)
    (hcapacity : plain.config.capacity = dense.config.capacity)
    {es : List (ChangeEvent C)} (hes : ∀ e ∈ es, e.WellFormed) (hordinary : Buffer.Ordinary es)
    (hfits : Buffer.weight es ≤ maxCount) :
    (es.foldl post plain).buffer.weight = (es.foldl post dense).buffer.weight ∧
      (es.foldl post dense).buffer.length ≤ (es.foldl post plain).buffer.length ∧
      (es.foldl post plain).buffer.expansion <+: (es.foldl post dense).buffer.expansion ∧
      (es.foldl post dense).buffer.expansion <+: Buffer.expansion es ∧
      (es.foldl post dense).buffer.overflowed ≤ (es.foldl post plain).buffer.overflowed ∧
      ((es.IsChain fun a b => ¬ Buffer.Alike a b) →
        (es.foldl post dense).buffer = (es.foldl post plain).buffer) := by
  obtain ⟨hempty, hstate, hflag⟩ := hplain
  obtain ⟨hempty', hstate', hflag'⟩ := hdense
  have hcounts : ∀ e ∈ es, 1 ≤ e.count := fun e he => (hes e he).one_le_count
  have hgroups := hordinary.groups true
  have hweight := Buffer.weight_groups true hfits
  rw [buffer_foldl_post hstate, buffer_foldl_post hstate', hempty, hempty']
  refine ⟨?_, ?_⟩
  · rw [Buffer.weight_foldl_post _ hcounts hfits, Buffer.weight_foldl_post _ hcounts hfits]
  rw [Buffer.foldl_post_nil _ hes, Buffer.foldl_post_nil _ hes, hflag, hflag', ← hcapacity,
    Buffer.groups_false]
  generalize plain.config.capacity = capacity
  have hroom := Buffer.weight_take_le true hfits capacity
  have hplainTells := Buffer.expansion_take_prefix capacity es
  have hdenseTells : Buffer.expansion ((Buffer.groups true es).take capacity) <+:
      Buffer.expansion es := by
    have hfirst := Buffer.expansion_take_prefix capacity (Buffer.groups true es)
    rwa [hordinary.expansion_groups true hfits] at hfirst
  rw [hordinary.expansion_collapse, hgroups.expansion_collapse]
  refine ⟨?_, ?_, hdenseTells, ?_, ?_⟩
  · have hfewer := Buffer.length_groups_le true es
    rw [hordinary.length_collapse, hgroups.length_collapse]
    omega
  · -- Both tell the beginning of one sequence, so the lighter one is the beginning of the other.
    refine List.prefix_of_prefix_length_le hplainTells hdenseTells ?_
    rw [(hordinary.mono (List.take_subset _ _)).length_expansion,
      (hgroups.mono (List.take_subset _ _)).length_expansion]
    exact hroom
  · rw [hordinary.overflowed_collapse hfits, hgroups.overflowed_collapse (hweight.trans_le hfits)]
    have hplainAll := Buffer.weight_take_add_weight_drop capacity es
    have hdenseAll := Buffer.weight_take_add_weight_drop capacity (Buffer.groups true es)
    omega
  · intro hchain
    rw [Buffer.groups_of_isChain hchain]

/-- Capacity two: three equal modifications, a creation and a deletion. The buffer that coalesces
holds the first four occurrences and counts one, the other one holds two and counts three. -/
theorem coalescing_keeps_information_of_overflow :
    let base : Subscription Nat Nat :=
      { id := ⟨1⟩, resource := 10, interest := [.modify], owner := none
        config := { capacity := 2, coalesceRepeats := false } }
    let es : List (ChangeEvent Nat) :=
      [.once .modify 7, .once .modify 7, .once .modify 7, .once .create 8, .once .delete 9]
    let dense := { base with config := { capacity := 2, coalesceRepeats := true } }
    (es.foldl post dense).buffer =
        [⟨.modify, 3, some 7⟩, ⟨.create, 1, some 8⟩, ⟨.overflow, 1, none⟩] ∧
      (es.foldl post base).buffer.overflowed = 3 ∧
      (es.foldl post base).buffer.expansion <+: (es.foldl post dense).buffer.expansion := by
  intro base es dense
  have hes : ∀ e ∈ es, e.WellFormed := by
    simp only [es, List.forall_mem_cons, List.not_mem_nil, false_imp_iff, implies_true, and_true]
    exact ⟨(Event.once _ _).property, (Event.once _ _).property, (Event.once _ _).property,
      (Event.once _ _).property, (Event.once _ _).property⟩
  have hbase : base.buffer = [] ∧ base.state ≠ .cancelled ∧
      base.config.coalesceRepeats = false := ⟨rfl, by decide, rfl⟩
  have hdense : dense.buffer = [] ∧ dense.state ≠ .cancelled ∧
      dense.config.coalesceRepeats = true := ⟨rfl, by decide, rfl⟩
  have hordinary : Buffer.Ordinary es := by
    unfold Buffer.Ordinary
    decide
  have hfits : Buffer.weight es ≤ maxCount := by decide
  have hkept := coalescing_keeps_information hbase hdense rfl hes hordinary hfits
  exact ⟨by decide, by decide, hkept.2.2.1⟩

end Subscription

end PathWatch
