import Mathlib
import PathWatch.Proofs.Buffer.Weight
/-!
# Entries and blocks of posts

What is posted falls into blocks, one after another, and every group sums up its block: it has the
kind and the context of the first event, the others repeat it, and it counts them all. Collapsing
moves no group, so an entry that is no overflow event still sums up the block at its place.
-/

namespace PathWatch

variable {R C : Type}

namespace Buffer

/-! ## Sums of blocks -/

section Sums

variable [BEq C]

/-- An entry sums up a block of events. -/
structure SumsUp (g : ChangeEvent C) (block : List (ChangeEvent C)) : Prop where
  /-- The kind and the context are those of the first event. -/
  exists_head : ∃ e ∈ block.head?, e.kind = g.kind ∧ e.context = g.context
  /-- All events behind the first one repeat the entry. -/
  repeats_of_mem_tail : ∀ e ∈ block.tail, repeats g e = true
  count_eq : g.count = min (weight block) maxCount

theorem SumsUp.ne_nil {g : ChangeEvent C} {block : List (ChangeEvent C)} (hg : SumsUp g block) :
    block ≠ [] := by
  rintro rfl
  simpa using hg.exists_head

/-- Every event sums up itself. -/
theorem sumsUp_singleton {e : ChangeEvent C} (he : e.count ≤ maxCount) : SumsUp e [e] where
  exists_head := ⟨e, rfl, rfl, rfl⟩
  repeats_of_mem_tail := by simp
  count_eq := by simp [he]

/-- One more event that repeats the entry is counted in. -/
theorem SumsUp.grown {g e : ChangeEvent C} {block : List (ChangeEvent C)} (hg : SumsUp g block)
    (he : repeats g e = true) : SumsUp (grown g e.count) (block ++ [e]) where
  exists_head := by
    obtain ⟨first, hfirst, hsame⟩ := hg.exists_head
    refine ⟨first, ?_, hsame⟩
    rwa [List.head?_append_of_ne_nil _ hg.ne_nil]
  repeats_of_mem_tail := by
    intro x hx
    rw [List.tail_append_of_ne_nil hg.ne_nil] at hx
    rcases List.mem_append.mp hx with hbefore | hnew
    · exact hg.repeats_of_mem_tail x hbefore
    · rw [List.mem_singleton.mp hnew]
      exact he
  count_eq := by
    have hcount := hg.count_eq
    simp only [Buffer.grown, weight_append, weight_cons, weight_nil]
    omega

/-! ## Groups -/

/-- The events behind a group fall into blocks, the first of which goes on with the block of the
group. -/
theorem exists_blocks_groupsFrom (coalesce : Bool) {g : ChangeEvent C}
    {block es : List (ChangeEvent C)} (hg : SumsUp g block) (hes : ∀ e ∈ es, e.count ≤ maxCount) :
    ∃ blocks, blocks.flatten = block ++ es ∧
      List.Forall₂ SumsUp (groupsFrom coalesce g es) blocks := by
  -- The group and its block grow together, so both are free in the induction.
  induction es generalizing g block with
  | nil => exact ⟨[block], by simp, .cons hg .nil⟩
  | cons e es ih =>
    obtain ⟨he, hrest⟩ := List.forall_mem_cons.mp hes
    rw [groupsFrom]
    split
    · rename_i hjoins
      obtain ⟨blocks, hflatten, hsums⟩ := ih (hg.grown (Bool.and_eq_true_iff.mp hjoins).2) hrest
      exact ⟨blocks, by rw [hflatten, List.append_assoc, List.singleton_append], hsums⟩
    · obtain ⟨blocks, hflatten, hsums⟩ := ih (sumsUp_singleton he) hrest
      exact ⟨block :: blocks, by rw [List.flatten_cons, hflatten, List.singleton_append],
        .cons hg hsums⟩

/-- Every group sums up a block of the events, and the blocks make up all events in their order. -/
theorem exists_blocks (coalesce : Bool) {es : List (ChangeEvent C)}
    (hes : ∀ e ∈ es, e.count ≤ maxCount) :
    ∃ blocks, blocks.flatten = es ∧ List.Forall₂ SumsUp (groups coalesce es) blocks := by
  cases es with
  | nil => exact ⟨[], rfl, .nil⟩
  | cons e es =>
    obtain ⟨he, hrest⟩ := List.forall_mem_cons.mp hes
    exact exists_blocks_groupsFrom coalesce (sumsUp_singleton he) hrest

end Sums

/-! ## Collapsed groups -/

variable {e : ChangeEvent C} {i : Nat}

/-- What is no overflow event stands before the overflow event at the end. -/
theorem getElem?_of_snoc_overflow {init : Buffer C} {last : ChangeEvent C}
    (hlast : last.isOverflow = true) (he : e.isOverflow = false)
    (hget : (init ++ [last])[i]? = some e) : init[i]? = some e := by
  rcases Nat.lt_or_ge i init.length with hinit | hend
  · rwa [List.getElem?_append_left hinit] at hget
  · rw [List.getElem?_append_right hend, List.getElem?_singleton] at hget
    split at hget
    · obtain rfl := Option.some.inj hget
      rw [hlast] at he
      contradiction
    · contradiction

theorem getElem?_of_spill {full : Buffer C} {n : Nat} (he : e.isOverflow = false)
    (hget : (spill full n)[i]? = some e) : full[i]? = some e := by
  rw [spill_eq] at hget
  split at hget
  · rename_i hends
    induction full using List.reverseRecOn with
    | nil => simp at hends
    | append_singleton init last _ =>
      rw [endsInOverflow_snoc] at hends
      rw [countIntoLast_snoc] at hget
      -- The overflow event at the end has grown, and all that stands before it is as it was.
      have hinit := getElem?_of_snoc_overflow (by simpa using hends) he hget
      rwa [List.getElem?_append_left (List.getElem?_eq_some_iff.mp hinit).1]
  · exact getElem?_of_snoc_overflow rfl he hget

/-- An entry that is no overflow event is the group at its place. -/
theorem getElem?_of_collapse {capacity : Nat} {gs : Buffer C} (he : e.isOverflow = false)
    (hget : (collapse capacity gs)[i]? = some e) : gs[i]? = some e := by
  rcases Nat.lt_or_ge capacity gs.length with hmore | hfits
  · rw [collapse_of_lt_length hmore] at hget
    have hkept := getElem?_of_spill he hget
    rw [List.getElem?_take] at hkept
    split at hkept
    · exact hkept
    · contradiction
  · rwa [collapse_of_length_le hfits] at hget

end Buffer

/-! ## Drains -/

namespace History

variable [BEq C]

/-- What was posted to a subscription since the last drain falls into blocks, and every entry that a
drain returns sums up the block at its place, unless it is an overflow event. -/
theorem exists_blocks_drain (past : History R C) (s : SubscriptionRef) :
    ∃ blocks : List (List (ChangeEvent C)), blocks.flatten = past.posted s ∧
      ∀ (i : Nat) (e : ChangeEvent C), (past.hub.drain s).value[i]? = some e →
        e.isOverflow = false → ∃ block, blocks[i]? = some block ∧ Buffer.SumsUp e block := by
  have hposted : ∀ e ∈ past.posted s, e.WellFormed := fun e he => wellFormed_of_mem_posted he
  obtain ⟨config, hdrain⟩ := past.exists_drain_eq_foldl s
  obtain ⟨blocks, hflatten, hsums⟩ := Buffer.exists_blocks config.coalesceRepeats
    fun e he => (hposted e he).count_le
  refine ⟨blocks, hflatten, fun i e hget he => ?_⟩
  rw [hdrain, Buffer.foldl_post_nil config hposted] at hget
  have hgroup := Buffer.getElem?_of_collapse he hget
  obtain ⟨hi, rfl⟩ := List.getElem?_eq_some_iff.mp hgroup
  obtain ⟨hlength, hall⟩ := List.forall₂_iff_get.mp hsums
  have hi' : i < blocks.length := hlength ▸ hi
  exact ⟨blocks[i], List.getElem?_eq_getElem hi', hall i hi hi'⟩

end History

end PathWatch
