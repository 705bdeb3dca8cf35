import Mathlib
import PathWatch.Buffer
/-!
# Buffers in closed form

The buffer that a sequence of posts leaves behind can be told without the buffers on the way: the
events are put into groups of repeats, and the groups beyond the capacity are counted together.
-/

namespace PathWatch

/-! ## Counts -/

/-- Bounded addition may be done in any order, since both orders stop at the same bound. -/
theorem addCounts_assoc (a b c : Nat) :
    addCounts (addCounts a b) c = addCounts a (addCounts b c) := by
  unfold addCounts
  omega

/-- Two counts may be added before they are absorbed. -/
theorem ChangeEvent.absorb_absorb {C : Type} (g : ChangeEvent C) (m n : Nat) :
    (g.absorb m).absorb n = g.absorb (addCounts m n) := by
  simp [ChangeEvent.absorb, addCounts_assoc]

namespace Buffer

variable {C : Type}

/-! ## The last entry -/

@[simp] theorem endsInOverflow_nil : endsInOverflow ([] : Buffer C) = false := rfl

@[simp] theorem endsInOverflow_snoc (l : Buffer C) (g : ChangeEvent C) :
    endsInOverflow (l ++ [g]) = g.isOverflow := by
  simp [endsInOverflow]

@[simp] theorem countIntoLast_nil (n : Nat) : countIntoLast ([] : Buffer C) n = [] := rfl

@[simp] theorem countIntoLast_snoc (l : Buffer C) (g : ChangeEvent C) (n : Nat) :
    countIntoLast (l ++ [g]) n = l ++ [g.absorb n] := by
  simp [countIntoLast]

@[simp] theorem length_countIntoLast (l : Buffer C) (n : Nat) :
    (countIntoLast l n).length = l.length := by
  induction l using List.reverseRecOn with
  | nil => rfl
  | append_singleton l g _ => simp

/-- What is counted into the last entry leaves the first of several alone. -/
theorem countIntoLast_cons {l : Buffer C} (hl : l ≠ []) (g : ChangeEvent C) (n : Nat) :
    countIntoLast (g :: l) n = g :: countIntoLast l n := by
  obtain ⟨init, last, rfl⟩ := (List.eq_nil_or_concat' l).resolve_left hl
  rw [← List.cons_append, countIntoLast_snoc, countIntoLast_snoc, List.cons_append]

/-! ## What does not fit -/

/-- A group with `n` more events counted in, up to the largest count. -/
def grown (g : ChangeEvent C) (n : Nat) : ChangeEvent C :=
  { g with count := min (g.count + n) maxCount }

/-- A full buffer with `n` more events counted at its end: into its last entry if that is an
overflow event, and by one more overflow event if not. -/
def spill (full : Buffer C) (n : Nat) : Buffer C :=
  match full.getLast? with
  | none => [⟨.overflow, n, none⟩]
  | some last =>
    if last.kind = .overflow then full.dropLast ++ [grown last n]
    else full ++ [⟨.overflow, n, none⟩]

/-- The number of events in the groups beyond the first `capacity` ones. -/
def excess (capacity : Nat) (gs : Buffer C) : Nat :=
  min (((gs.drop capacity).map ChangeEvent.count).sum) maxCount

/-- Groups in a buffer of bounded capacity: all of them if they fit, otherwise the first ones, with
the rest counted at the end. -/
def collapse (capacity : Nat) (gs : Buffer C) : Buffer C :=
  if gs.length ≤ capacity then gs else spill (gs.take capacity) (excess capacity gs)

theorem grown_eq_absorb (g : ChangeEvent C) (n : Nat) : grown g n = g.absorb n := rfl

/-- What does not fit is counted where the buffer itself would count it. -/
theorem spill_eq (full : Buffer C) (n : Nat) :
    spill full n =
      if full.endsInOverflow then full.countIntoLast n else full ++ [⟨.overflow, n, none⟩] := by
  induction full using List.reverseRecOn with
  | nil => rfl
  | append_singleton l g _ =>
    simp [spill, grown_eq_absorb, ChangeEvent.isOverflow_iff]

/-- A buffer that spilled ends in a marker. -/
theorem endsInOverflow_spill (full : Buffer C) (n : Nat) :
    (spill full n).endsInOverflow = true := by
  rw [spill_eq]
  split
  · rename_i hends
    induction full using List.reverseRecOn with
    | nil => simp at hends
    | append_singleton l g _ => simpa using hends
  · simp [ChangeEvent.isOverflow]

theorem length_le_length_spill (full : Buffer C) (n : Nat) :
    full.length ≤ (spill full n).length := by
  rw [spill_eq]
  split <;> simp

/-- What is counted at the end of a full buffer adds up. -/
theorem countIntoLast_spill (full : Buffer C) (m n : Nat) :
    (spill full m).countIntoLast n = spill full (addCounts m n) := by
  rw [spill_eq, spill_eq]
  split
  · induction full using List.reverseRecOn with
    | nil => rfl
    | append_singleton l g _ =>
      rw [countIntoLast_snoc, countIntoLast_snoc, countIntoLast_snoc, ChangeEvent.absorb_absorb]
  · rw [countIntoLast_snoc]
    rfl

/-- One more event adds to what does not fit, be it in a group of its own or in the last one. -/
theorem excess_snoc {capacity : Nat} {gs : Buffer C} (hmore : capacity < gs.length)
    (e : ChangeEvent C) :
    excess capacity (gs ++ [e]) = addCounts (excess capacity gs) e.count ∧
      excess capacity (gs.countIntoLast e.count) = addCounts (excess capacity gs) e.count := by
  induction gs using List.reverseRecOn with
  | nil => simp at hmore
  | append_singleton init last _ =>
    have hinit : capacity ≤ init.length := by
      simp at hmore
      omega
    have hinit' : capacity ≤ (init ++ [last]).length := by
      simp
      omega
    rw [countIntoLast_snoc]
    unfold excess
    rw [List.drop_append_of_le_length hinit', List.drop_append_of_le_length hinit,
      List.drop_append_of_le_length hinit]
    simp [addCounts]
    omega

/-- Groups that fit are kept. -/
theorem collapse_of_length_le {capacity : Nat} {gs : Buffer C} (hfits : gs.length ≤ capacity) :
    collapse capacity gs = gs := if_pos hfits

/-- Groups that do not fit are cut at the capacity, and a marker counts the rest. -/
theorem collapse_of_lt_length {capacity : Nat} {gs : Buffer C} (hmore : capacity < gs.length) :
    collapse capacity gs = spill (gs.take capacity) (excess capacity gs) :=
  if_neg (Nat.not_le.mpr hmore)

/-- Behind the capacity, what the last group counts is not seen in what is kept. -/
theorem take_countIntoLast {capacity : Nat} {gs : Buffer C} (hmore : capacity < gs.length)
    (n : Nat) : (gs.countIntoLast n).take capacity = gs.take capacity := by
  induction gs using List.reverseRecOn with
  | nil => rfl
  | append_singleton init last _ =>
    have hinit : capacity ≤ init.length := by
      simp at hmore
      omega
    rw [countIntoLast_snoc, List.take_append_of_le_length hinit,
      List.take_append_of_le_length hinit]

/-- Once a group does not fit, one more event shows in the count at the end only, be it in a group
of its own or in the last one. -/
theorem collapse_snoc {capacity : Nat} {gs : Buffer C} (hmore : capacity < gs.length)
    (e : ChangeEvent C) :
    collapse capacity (gs ++ [e]) =
        spill (gs.take capacity) (addCounts (excess capacity gs) e.count) ∧
      collapse capacity (gs.countIntoLast e.count) =
        spill (gs.take capacity) (addCounts (excess capacity gs) e.count) := by
  obtain ⟨hown, hjoined⟩ := excess_snoc hmore e
  constructor
  · rw [collapse_of_lt_length (by simp; omega), hown, List.take_append_of_le_length hmore.le]
  · rw [collapse_of_lt_length (by simpa using hmore), hjoined, take_countIntoLast hmore]

/-! ## Groups -/

/-- Whether an event repeats a group: the group is no overflow event and has the same kind, and its
context tests equal to that of the event. -/
def repeats [BEq C] (g e : ChangeEvent C) : Bool :=
  g.kind != .overflow && g.kind == e.kind && g.context == e.context

@[simp] theorem repeatsLast_snoc [BEq C] (l : Buffer C) (g e : ChangeEvent C) :
    repeatsLast (l ++ [g]) e = repeats g e := by
  rw [repeatsLast, List.getLast?_concat]
  rfl

theorem repeatsLast_cons [BEq C] {l : Buffer C} (hl : l ≠ []) (g e : ChangeEvent C) :
    repeatsLast (g :: l) e = repeatsLast l e := by
  obtain ⟨init, last, rfl⟩ := (List.eq_nil_or_concat' l).resolve_left hl
  rw [← List.cons_append, repeatsLast_snoc, repeatsLast_snoc]

/-- The groups of some events behind the group `g`, `g` included. Every event is counted into the
group before it if it repeats that, and starts a group otherwise. -/
def groupsFrom [BEq C] (coalesce : Bool) (g : ChangeEvent C) : List (ChangeEvent C) → Buffer C
  | [] => [g]
  | e :: es =>
    if coalesce && repeats g e then groupsFrom coalesce (grown g e.count) es
    else g :: groupsFrom coalesce e es

/-- The groups of some events, from left to right. -/
def groups [BEq C] (coalesce : Bool) : List (ChangeEvent C) → Buffer C
  | [] => []
  | e :: es => groupsFrom coalesce e es

variable [BEq C]

theorem groupsFrom_ne_nil (coalesce : Bool) (g : ChangeEvent C) (es : List (ChangeEvent C)) :
    groupsFrom coalesce g es ≠ [] := by
  induction es generalizing g with
  | nil => simp [groupsFrom]
  | cons e es ih =>
    rw [groupsFrom]
    split
    · exact ih _
    · simp

/-- Without coalescing, every event is a group of its own. -/
theorem groupsFrom_false (g : ChangeEvent C) (es : List (ChangeEvent C)) :
    groupsFrom false g es = g :: es := by
  induction es generalizing g with
  | nil => rfl
  | cons e es ih => rw [groupsFrom, Bool.false_and, if_neg (by simp), ih]

/-- Without coalescing every event is a group of its own. -/
theorem groups_false (es : List (ChangeEvent C)) : groups false es = es := by
  cases es with
  | nil => rfl
  | cons e es => exact groupsFrom_false e es

/-- One event more is counted into the last group or starts a new one. -/
theorem groupsFrom_snoc (coalesce : Bool) (g : ChangeEvent C) (es : List (ChangeEvent C))
    (e : ChangeEvent C) :
    groupsFrom coalesce g (es ++ [e]) =
      if coalesce && repeatsLast (groupsFrom coalesce g es) e then
        countIntoLast (groupsFrom coalesce g es) e.count
      else groupsFrom coalesce g es ++ [e] := by
  induction es generalizing g with
  | nil =>
    have hlast : repeatsLast [g] e = repeats g e := repeatsLast_snoc [] g e
    have hcount : countIntoLast [g] e.count = [g.absorb e.count] :=
      countIntoLast_snoc [] g e.count
    simp [groupsFrom, hlast, hcount, grown_eq_absorb]
  | cons e' es ih =>
    rw [List.cons_append, groupsFrom, groupsFrom]
    split
    · exact ih _
    · -- Other groups follow `g`, so the last one is among them.
      have hne := groupsFrom_ne_nil coalesce e' es
      rw [ih, repeatsLast_cons hne, countIntoLast_cons hne]
      split <;> rfl

/-- One more event joins the last group or is a group of its own. -/
theorem groups_snoc (coalesce : Bool) (es : List (ChangeEvent C)) (e : ChangeEvent C) :
    groups coalesce (es ++ [e]) =
      if coalesce && repeatsLast (groups coalesce es) e then
        countIntoLast (groups coalesce es) e.count
      else groups coalesce es ++ [e] := by
  cases es with
  | nil => simp [groups, groupsFrom, repeatsLast]
  | cons g es => exact groupsFrom_snoc coalesce g es e

/-! ## Posting -/

/-- Nothing repeats an overflow event. -/
theorem repeatsLast_eq_false {buffer : Buffer C} (hends : buffer.endsInOverflow = true)
    (e : ChangeEvent C) : buffer.repeatsLast e = false := by
  induction buffer using List.reverseRecOn with
  | nil => rfl
  | append_singleton l g _ =>
    rw [endsInOverflow_snoc, ChangeEvent.isOverflow_iff] at hends
    simp [repeats, hends]

/-- An event for a full buffer that ends in an overflow event is counted there. -/
theorem post_of_endsInOverflow {config : WatchConfig} {buffer : Buffer C}
    (hfull : config.capacity ≤ buffer.length) (hends : buffer.endsInOverflow = true)
    (e : ChangeEvent C) : buffer.post config e = buffer.countIntoLast e.count := by
  have hplace : buffer.placement config e = .collapsed := by
    rw [placement, repeatsLast_eq_false hends, Bool.and_false, if_neg (by simp),
      if_neg (Nat.not_lt.mpr hfull), if_pos hends]
  rw [post, hplace]

/-- An event for a buffer that holds as many groups as it can, and that repeats none, is counted at
the end. -/
theorem post_of_length_eq {config : WatchConfig} {buffer : Buffer C}
    (hfull : buffer.length = config.capacity) {e : ChangeEvent C} (he : e.WellFormed)
    (hrepeats : (config.coalesceRepeats && buffer.repeatsLast e) = false) :
    buffer.post config e = spill buffer e.count := by
  have hplace : buffer.placement config e =
      if buffer.endsInOverflow then .collapsed else .overflowed := by
    have hnew : ¬ (config.coalesceRepeats && buffer.length ≤ config.capacity &&
        buffer.repeatsLast e) = true := by
      simpa [hfull] using hrepeats
    rw [placement, if_neg hnew, if_neg (Nat.not_lt.mpr hfull.ge)]
  have hcount : max e.count 1 = e.count := max_eq_left he.one_le_count
  rw [post, hplace, spill_eq]
  cases buffer.endsInOverflow with
  | true => rfl
  | false => simp [ChangeEvent.marker, hcount]

/-- An event that repeats the last of the groups is counted there. -/
theorem post_of_repeatsLast {config : WatchConfig} {buffer : Buffer C}
    (hfits : buffer.length ≤ config.capacity) {e : ChangeEvent C}
    (hrepeats : (config.coalesceRepeats && buffer.repeatsLast e) = true) :
    buffer.post config e = buffer.countIntoLast e.count := by
  have hplace : buffer.placement config e = .coalesced := by
    rw [placement, if_pos]
    simpa [hfits] using hrepeats
  rw [post, hplace]

/-- An event for a buffer that is not full, and that repeats none, is a new group. -/
theorem post_of_length_lt {config : WatchConfig} {buffer : Buffer C}
    (hfits : buffer.length < config.capacity) {e : ChangeEvent C}
    (hrepeats : (config.coalesceRepeats && buffer.repeatsLast e) = false) :
    buffer.post config e = buffer ++ [e] := by
  have hplace : buffer.placement config e = .appended := by
    rw [placement, if_neg, if_pos hfits]
    simpa [hfits.le] using hrepeats
  rw [post, hplace]

/-- Posting an event to collapsed groups collapses the groups with the event. -/
theorem post_collapse (config : WatchConfig) (es : List (ChangeEvent C)) {e : ChangeEvent C}
    (he : e.WellFormed) :
    (collapse config.capacity (groups config.coalesceRepeats es)).post config e =
      collapse config.capacity (groups config.coalesceRepeats (es ++ [e])) := by
  rw [groups_snoc]
  generalize groups config.coalesceRepeats es = gs
  rcases Nat.lt_trichotomy config.capacity gs.length with hmore | hfull | hfits
  · -- Some group does not fit: the event is counted at the end, wherever it is grouped.
    have hlength := List.length_take_of_le hmore.le
    obtain ⟨hown, hjoined⟩ := collapse_snoc hmore e
    rw [collapse_of_lt_length hmore, post_of_endsInOverflow
      (hlength.ge.trans (length_le_length_spill _ _)) (endsInOverflow_spill _ _),
      countIntoLast_spill]
    split
    · exact hjoined.symm
    · exact hown.symm
  · rw [collapse_of_length_le hfull.ge]
    split
    · rename_i hrepeats
      rw [post_of_repeatsLast hfull.ge hrepeats, collapse_of_length_le (by simp [hfull])]
    · rename_i hrepeats
      have hexcess : excess config.capacity (gs ++ [e]) = e.count := by
        rw [excess, hfull, List.drop_left]
        simpa using he.count_le
      rw [post_of_length_eq hfull.symm he (by simpa using hrepeats),
        collapse_of_lt_length (by simp [hfull]), hexcess, hfull, List.take_left]
  · rw [collapse_of_length_le hfits.le]
    split
    · rename_i hrepeats
      rw [post_of_repeatsLast hfits.le hrepeats, collapse_of_length_le (by simpa using hfits.le)]
    · rename_i hrepeats
      rw [post_of_length_lt hfits (by simpa using hrepeats),
        collapse_of_length_le (by simpa using hfits)]

/-- What a sequence of posts leaves in a buffer that was empty. -/
theorem foldl_post_nil (config : WatchConfig) {es : List (ChangeEvent C)}
    (hes : ∀ e ∈ es, e.WellFormed) :
    es.foldl (post config) [] = collapse config.capacity (groups config.coalesceRepeats es) := by
  induction es using List.reverseRecOn with
  | nil => rfl
  | append_singleton es e ih =>
    have hbefore := ih fun e' he' => hes e' (List.mem_append_left [e] he')
    have he := hes e (List.mem_append_right es (List.mem_singleton_self e))
    rw [List.foldl_append, List.foldl_cons, List.foldl_nil, hbefore, post_collapse config es he]

end Buffer

end PathWatch
