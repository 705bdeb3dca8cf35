import Mathlib
import PathWatch.Proofs.Buffer.Blocks
import PathWatch.Proofs.Event.RoundTrip
/-!
# Where events come from

An event is made, read or drained, and what is drained was posted, which takes an event again. So
the events that can be obtained and the hubs that can be reached are defined together. Every event
that can be obtained is well-formed, and every hub that can be reached is the hub of a run; no entry
that is drained tells anything that was not posted.
-/

namespace PathWatch

/-! ## Entries of buffers -/

namespace ChangeEvent

variable {C : Type}

/-- Whatever is counted into an event, its count stays within the bound. -/
theorem WellFormed.absorb {e : ChangeEvent C} (he : e.WellFormed) (n : Nat) :
    (e.absorb n).WellFormed where
  one_le_count := by
    have hone := he.one_le_count
    simp only [absorb_count, addCounts, maxCount]
    omega
  count_le := Nat.min_le_right _ _
  context_eq_none := he.context_eq_none

/-- A marker of any count within the bound is well formed. -/
theorem wellFormed_marker {n : Nat} (hn : n ≤ maxCount) :
    (marker n : ChangeEvent C).WellFormed where
  one_le_count := Nat.le_max_right n 1
  count_le := Nat.max_le.mpr ⟨hn, by decide⟩
  context_eq_none := fun _ => rfl

end ChangeEvent

namespace Buffer

variable {C : Type} [BEq C]

/-- A post keeps all entries well-formed, wherever the event goes. -/
theorem wellFormed_post {config : WatchConfig} {buffer : Buffer C} {e : ChangeEvent C}
    (hbuffer : ∀ x ∈ buffer, x.WellFormed) (he : e.WellFormed) :
    ∀ x ∈ buffer.post config e, x.WellFormed := by
  intro x hx
  rcases mem_post hx with hold | ⟨y, hy, rfl⟩ | rfl | ⟨rfl, -⟩
  · exact hbuffer x hold
  · exact (hbuffer y hy).absorb e.count
  · exact he
  · exact ChangeEvent.wellFormed_marker he.count_le

/-- Posting well-formed events leaves all entries of a buffer well formed. -/
theorem wellFormed_foldl_post (config : WatchConfig) {buffer : Buffer C}
    {es : List (ChangeEvent C)} (hbuffer : ∀ x ∈ buffer, x.WellFormed)
    (hes : ∀ e ∈ es, e.WellFormed) : ∀ x ∈ es.foldl (post config) buffer, x.WellFormed := by
  induction es generalizing buffer with
  | nil => exact hbuffer
  | cons e es ih =>
    obtain ⟨he, hrest⟩ := List.forall_mem_cons.mp hes
    exact ih (wellFormed_post hbuffer he) hrest

end Buffer

/-- Every entry that is drained at the end of a run is well-formed. -/
theorem History.wellFormed_of_mem_drain {R C : Type} [BEq C] {past : History R C}
    {s : SubscriptionRef} {e : ChangeEvent C} (he : e ∈ (past.hub.drain s).value) :
    e.WellFormed := by
  obtain ⟨config, hdrain⟩ := past.exists_drain_eq_foldl s
  rw [hdrain] at he
  exact Buffer.wellFormed_foldl_post config (by simp) (fun x hx => wellFormed_of_mem_posted hx) e he

/-! ## Events and hubs -/

/-- The event that an action brings along. -/
def Action.event? {R C : Type} : Action R C → Option (Event C)
  | .post _ e | .offer _ e => some e
  | _ => none

mutual

/-- The events that can be obtained. -/
inductive Obtained (R C : Type) [BEq C] [Json.Codec C] : ChangeEvent C → Prop where
  | once (kind : EventKind) (context : C) : Obtained R C (.once kind context)
  | times {kind : EventKind} {context : C} {count : UInt32} {e : ChangeEvent C}
      (hmade : ChangeEvent.times kind context count = .ok e) : Obtained R C e
  | overflow {count : UInt32} {e : ChangeEvent C} (hmade : ChangeEvent.overflow count = .ok e) :
      Obtained R C e
  | ofJson {text : String} {e : ChangeEvent C} (hread : ChangeEvent.ofJson text = .ok e) :
      Obtained R C e
  /-- It is read in another notation. Whatever the notation is, the parts are checked. -/
  | ofParts {kind : EventKind} {count : UInt32} {context : Option C} {e : ChangeEvent C}
      (hread : ChangeEvent.checked kind count context = .ok e) : Obtained R C e
  | drained {h : Hub R C} {s : SubscriptionRef} {e : ChangeEvent C} (hh : Reached R C h)
      (he : e ∈ (h.drain s).value) : Obtained R C e

/-- The hubs that can be reached by calls of any kind in any order. Events have to be obtained
before they can be posted. -/
inductive Reached (R C : Type) [BEq C] [Json.Codec C] : Hub R C → Prop where
  | start : Reached R C {}
  | act {h : Hub R C} {a : Action R C} (hh : Reached R C h) (ha : a.event? = none) :
      Reached R C (a.apply h)
  | post {h : Hub R C} {s : SubscriptionRef} {e : ChangeEvent C} (hh : Reached R C h)
      (he : Obtained R C e) : Reached R C (h.post s e).hub
  | offer {h : Hub R C} {s : SubscriptionRef} {e : ChangeEvent C} (hh : Reached R C h)
      (he : Obtained R C e) : Reached R C (h.offer s e).hub

end

section Origins

variable {R C : Type} [BEq C] [Json.Codec C]

-- Each of the two facts needs the other one for what came before.
mutual

theorem Obtained.wellFormed : ∀ {e : ChangeEvent C}, Obtained R C e → e.WellFormed
  | _, .once kind context => (Event.once kind context).property
  | _, .times hmade => ChangeEvent.wellFormed_of_checked hmade
  | _, .overflow hmade => ChangeEvent.wellFormed_of_checked hmade
  | _, .ofJson hread => by
    obtain ⟨parts, hparts⟩ := ChangeEvent.exists_parts_of_ofJson hread
    exact ChangeEvent.wellFormed_of_ofParts hparts
  | _, .ofParts hread => ChangeEvent.wellFormed_of_checked hread
  | _, .drained hh he => by
    obtain ⟨past, rfl⟩ := hh.exists_history
    exact History.wellFormed_of_mem_drain he

/-- Every hub that can be reached is the end of a run. -/
theorem Reached.exists_history : ∀ {h : Hub R C}, Reached R C h →
    ∃ past : History R C, past.hub = h
  | _, .start => ⟨[], rfl⟩
  | _, .act (a := a) hbefore ha => by
    obtain ⟨past, rfl⟩ := hbefore.exists_history
    exact ⟨a :: past, rfl⟩
  | _, .post (s := s) hbefore he => by
    obtain ⟨past, rfl⟩ := hbefore.exists_history
    exact ⟨.post s ⟨_, he.wellFormed⟩ :: past, rfl⟩
  | _, .offer (s := s) hbefore he => by
    obtain ⟨past, rfl⟩ := hbefore.exists_history
    exact ⟨.offer s ⟨_, he.wellFormed⟩ :: past, rfl⟩

end

/-- Every well-formed event can be read from its parts. -/
theorem obtained_of_wellFormed {e : ChangeEvent C} (he : e.WellFormed) : Obtained R C e :=
  .ofParts (ChangeEvent.checked_of_wellFormed he)

/-- And the end of every run can be reached. -/
theorem reached_hub (past : History R C) : Reached R C past.hub := by
  induction past with
  | nil => exact .start
  | cons a past ih =>
    rcases ha : a.event? with _ | e
    · exact .act ih ha
    · cases a with
      | post s e => exact .post ih (obtained_of_wellFormed e.property)
      | offer s e => exact .offer ih (obtained_of_wellFormed e.property)
      | _ => simp [Action.event?] at ha

end Origins

/-! ## Nothing is invented -/

namespace History

/-- Every event is well-formed and nothing is invented. The events that can be obtained, by making,
reading or draining them, are the ones whose count is in range and that have no context if they are
overflow events. The hubs that can be reached with them are those of all runs, so the runs leave no
event out. In every run, what was posted to a subscription since the last drain falls into blocks,
one after another, and every entry that a drain returns, overflow events apart, has the kind and the
context of the first event of the block at its place, and counts what the events of the block count
together, up to the largest count. -/
theorem nothing_invented {R C : Type} [BEq C] [Json.Codec C] :
    (∀ e : ChangeEvent C, Obtained R C e ↔ e.WellFormed) ∧
      (∀ h : Hub R C, Reached R C h ↔ ∃ past : History R C, past.hub = h) ∧
      ∀ (past : History R C) (s : SubscriptionRef), ∃ blocks : List (List (ChangeEvent C)),
        blocks.flatten = past.posted s ∧ ∀ (i : Nat) (e : ChangeEvent C),
          (past.hub.drain s).value[i]? = some e → e.isOverflow = false →
            ∃ block, blocks[i]? = some block ∧ Buffer.SumsUp e block := by
  refine ⟨fun e => ⟨Obtained.wellFormed, obtained_of_wellFormed⟩,
    fun h => ⟨Reached.exists_history, ?_⟩, exists_blocks_drain⟩
  rintro ⟨past, rfl⟩
  exact reached_hub past

/-- Capacity two, with an event that is drained and posted again: the first entry sums up the two
modifications, one of which had counted two before. -/
theorem nothing_invented_of_reposting :
    let past : History Nat UInt64 :=
      [.post 0 (.once .delete 9), .post 0 (.once .create 8),
        .post 0 ⟨⟨.modify, 2, some 7⟩, by constructor <;> decide⟩, .post 0 (.once .modify 7),
        .drain 0, .post 0 (.once .modify 7), .post 0 (.once .modify 7),
        .register 0 10 [.modify], .withConfig { capacity := 2, coalesceRepeats := true }]
    (past.hub.drain 0).value =
        [⟨.modify, 3, some 7⟩, ⟨.create, 1, some 8⟩, ⟨.overflow, 1, none⟩] ∧
      ∃ block, block <:+: past.posted 0 ∧ Buffer.SumsUp ⟨.modify, 3, some 7⟩ block := by
  intro past
  refine ⟨rfl, ?_⟩
  obtain ⟨blocks, hflatten, hsums⟩ := (nothing_invented (R := Nat) (C := UInt64)).2.2 past 0
  obtain ⟨block, hblock, hsum⟩ := hsums 0 ⟨.modify, 3, some 7⟩ rfl rfl
  refine ⟨block, ?_, hsum⟩
  rw [← hflatten]
  exact List.infix_of_mem_flatten (List.mem_of_getElem? hblock)

end History

end PathWatch
