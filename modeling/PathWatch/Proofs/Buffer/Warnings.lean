import Mathlib
import PathWatch.Proofs.Buffer.Drain
/-!
# Warnings

A subscription warns when its buffer overflows, and only then. A buffer that has overflowed stays so
until it is drained, so every overflowed batch has been warned of once, and the buffer of the moment
once more if it has overflowed.
-/

namespace PathWatch

variable {R C : Type}

/-! ## Buffers that overflow -/

namespace Buffer

variable [BEq C]

/-- How the buffer of these events has overflowed: at one of them it was full and did not end in an
overflow event, and a new one counts it and all that came later. -/
inductive Overran (config : WatchConfig) : List (ChangeEvent C) → Buffer C → Prop where
  | intro {before after : List (ChangeEvent C)} {e : ChangeEvent C}
      (hfull : (before.foldl (post config) []).length = config.capacity)
      (hends : (before.foldl (post config) []).endsInOverflow = false)
      (hplace : (before.foldl (post config) []).placement config e = .overflowed) :
      Overran config (before ++ e :: after)
        (before.foldl (post config) [] ++
          [after.foldl (fun marker x => marker.absorb x.count) (.marker e.count)])

/-- One if the buffer holds one entry more than its capacity, zero otherwise. -/
def overflows (config : WatchConfig) (buffer : Buffer C) : Nat :=
  if buffer.length = config.capacity + 1 then 1 else 0

theorem length_lt_of_appended {config : WatchConfig} {buffer : Buffer C} {e : ChangeEvent C}
    (hplace : buffer.placement config e = .appended) : buffer.length < config.capacity := by
  unfold placement at hplace
  split_ifs at hplace
  assumption

theorem full_of_overflowed {config : WatchConfig} {buffer : Buffer C} {e : ChangeEvent C}
    (hplace : buffer.placement config e = .overflowed) :
    config.capacity ≤ buffer.length ∧ buffer.endsInOverflow = false := by
  unfold placement at hplace
  split_ifs at hplace with hcoalesced happended hcollapsed
  exact ⟨Nat.not_lt.mp happended, by simpa using hcollapsed⟩

omit [BEq C] in
/-- An overflow event that counts more is one without context still. -/
theorem foldl_absorb_marker (es : List (ChangeEvent C)) (m : ChangeEvent C) :
    (es.foldl (fun marker x => marker.absorb x.count) m).kind = m.kind ∧
      (es.foldl (fun marker x => marker.absorb x.count) m).context = m.context := by
  induction es generalizing m with
  | nil => exact ⟨rfl, rfl⟩
  | cons e es ih => exact ih (m.absorb e.count)

theorem Overran.length_eq {config : WatchConfig} {es : List (ChangeEvent C)} {buffer : Buffer C}
    (hover : Overran config es buffer) : buffer.length = config.capacity + 1 := by
  obtain ⟨hfull, -, -⟩ := hover
  rw [List.length_append, hfull]
  rfl

theorem Overran.endsInOverflow {config : WatchConfig} {es : List (ChangeEvent C)}
    {buffer : Buffer C} (hover : Overran config es buffer) : buffer.endsInOverflow = true := by
  obtain ⟨-, -, -⟩ := hover
  rw [endsInOverflow_snoc, ChangeEvent.isOverflow_iff, (foldl_absorb_marker _ _).1]
  rfl

/-- What is posted into a buffer that has overflowed is counted at its end. -/
theorem Overran.post {config : WatchConfig} {es : List (ChangeEvent C)} {buffer : Buffer C}
    (hover : Overran config es buffer) (e : ChangeEvent C) :
    Overran config (es ++ [e]) (buffer.post config e) := by
  have hlength := hover.length_eq
  rw [post_of_endsInOverflow (by omega) hover.endsInOverflow]
  rcases hover with @⟨before, after, e₀, hfull, hends, hplace⟩
  have hnext : Overran config (before ++ e₀ :: (after ++ [e])) _ := .intro hfull hends hplace
  rw [List.foldl_append, List.foldl_cons, List.foldl_nil] at hnext
  rw [countIntoLast_snoc, List.append_assoc, List.cons_append]
  exact hnext

/-- A buffer keeps to its capacity or has overflowed. -/
theorem length_le_or_overran (config : WatchConfig) (es : List (ChangeEvent C)) :
    (es.foldl (post config) []).length ≤ config.capacity ∨
      Overran config es (es.foldl (post config) []) := by
  induction es using List.reverseRecOn with
  | nil => exact Or.inl (Nat.zero_le _)
  | append_singleton es e ih =>
    rw [List.foldl_append, List.foldl_cons, List.foldl_nil]
    rcases ih with hfits | hover
    · -- Only an event that overflows the buffer makes it longer than its capacity.
      rcases hplace : (es.foldl (post config) []).placement config e with _ | _ | _ | _
      · rw [post, hplace]
        exact Or.inl (by simpa using hfits)
      · have hlt := length_lt_of_appended hplace
        rw [post, hplace]
        exact Or.inl (by simpa using hlt)
      · rw [post, hplace]
        exact Or.inl (by simpa using hfits)
      · obtain ⟨hfull, hends⟩ := full_of_overflowed hplace
        have hover : Overran config (es ++ [e]) _ := .intro (by omega) hends hplace
        rw [post, hplace]
        exact Or.inr hover
    · exact Or.inr (hover.post e)

/-- A post makes a buffer overflow exactly if it warns. -/
theorem overflows_post (config : WatchConfig) (es : List (ChangeEvent C)) (e : ChangeEvent C) :
    overflows config ((es.foldl (post config) []).post config e) =
      overflows config (es.foldl (post config) []) +
        if (es.foldl (post config) []).placement config e = .overflowed then 1 else 0 := by
  generalize hbuffer : es.foldl (post config) [] = buffer
  have hbound := length_le_or_overran config es
  rw [hbuffer] at hbound
  rcases hplace : buffer.placement config e with _ | _ | _ | _
  · simp [overflows, post, hplace]
  · have hlt := length_lt_of_appended hplace
    simp only [overflows, post, hplace, List.length_append, List.length_singleton, reduceCtorEq]
    split_ifs <;> omega
  · simp [overflows, post, hplace]
  · obtain ⟨hfull, hends⟩ := full_of_overflowed hplace
    have hfits : buffer.length ≤ config.capacity := by
      refine hbound.resolve_right fun hover => ?_
      rw [hover.endsInOverflow] at hends
      exact Bool.noConfusion hends
    simp only [overflows, post, hplace, List.length_append, List.length_singleton]
    split_ifs <;> omega

/-- The ends of a batch that has overflowed: an overflow event without context behind an entry that
is none. -/
theorem Overran.ends {config : WatchConfig} {es : List (ChangeEvent C)} {buffer : Buffer C}
    (hover : Overran config es buffer) (hcapacity : 1 ≤ config.capacity) :
    ∃ init entry marker, buffer = init ++ [entry, marker] ∧
      init.length + 1 = config.capacity ∧ entry.isOverflow = false ∧
      marker.kind = .overflow ∧ marker.context = none := by
  rcases hover with @⟨before, after, e, hfull, hends, -⟩
  obtain ⟨init, entry, hsplit⟩ :
      ∃ init entry, before.foldl (Buffer.post config) [] = init ++ [entry] := by
    refine (List.eq_nil_or_concat' _).resolve_left fun hnil => ?_
    rw [hnil] at hfull
    simp at hfull
    omega
  rw [hsplit] at hfull hends ⊢
  rw [endsInOverflow_snoc] at hends
  obtain ⟨hkind, hcontext⟩ := foldl_absorb_marker after (.marker e.count)
  refine ⟨init, entry, _, ?_, by simpa using hfull, hends, hkind, hcontext⟩
  rw [List.append_assoc]
  rfl

end Buffer

/-! ## What is logged -/

/-- What an action logs. Closing as a whole is logged by none of its parts. -/
def Action.log [BEq C] (a : Action R C) (h : Hub R C) : Log :=
  match a with
  | .withConfig config =>
    match h.withConfig config with
    | .error _ => []
    | .ok made => made.log
  | .register k resource kinds => (h.register k resource kinds).log
  | .post s e => (h.post s e).log
  | .offer s e => (h.offer s e).log
  | .signal s => (h.signal s).log
  | .drain s => (h.drain s).log
  | .reset s => (h.reset s).log
  | .poll k => (h.poll k).log
  | .pollTimeout k endless => (h.pollTimeout k endless).log
  | .take k => (h.take k).log
  | .cancel s => (h.cancel s).log
  | .deregister k s => (h.deregister k s).log
  | .close k => (h.close k).log
  | .forget s => ((h.subscription? s).map fun sub => Record.cancelled sub.id).toList
  | .addSilent => h.addSilent.log
  | .registerSilent k resource kinds => (h.registerSilent k resource kinds).log
  | .liveCountSilent k => (h.liveCountSilent k).log
  | .closeSilent k => (h.closeSilent k).log
  | .retain _ | .release _ | .markCancelled _ | .shut _ => []

/-- The warnings that an action logs for a subscription. -/
def Action.warnings [BEq C] (a : Action R C) (h : Hub R C) (s : SubscriptionRef) : Log :=
  if a.subject? = some s then (a.log h).filter fun r => r.level = .warn else []

/-- The warnings that have been logged for a subscription, the first one first. -/
def History.warnings [BEq C] (s : SubscriptionRef) : History R C → Log
  | [] => []
  | a :: past => warnings s past ++ a.warnings (hub past) s

/-- The batches that drains of a subscription have returned, the first one first. -/
def History.batches [BEq C] (s : SubscriptionRef) : History R C → List (Buffer C)
  | [] => []
  | a :: past => batches s past ++ if a.drains s then [((hub past).drain s).value] else []

/-- Whether nothing in a log is a warning. -/
def Log.Quiet (l : Log) : Prop :=
  ∀ r ∈ l, r.level ≠ .warn

theorem Log.Quiet.filter_eq_nil {l : Log} (hl : l.Quiet) :
    (l.filter fun r => r.level = .warn) = [] :=
  List.filter_eq_nil_iff.mpr fun r hr => by simpa using hl r hr

namespace Hub

/-- A post warns if it makes the buffer overflow. -/
theorem warnings_post [BEq C] {h : Hub R C} {s : SubscriptionRef} {sub : Subscription R C}
    (hs : h.subscription? s = some sub) (e : ChangeEvent C) :
    ((h.post s e).log.filter fun r => r.level = .warn) =
      if sub.state ≠ .cancelled ∧ sub.buffer.placement sub.config e = .overflowed then
        [.overflowed sub.id sub.config.capacity]
      else [] := by
  simp only [post, hs]
  by_cases hstate : sub.state = .cancelled
  · simp [hstate, Record.level]
  · by_cases hplace : sub.buffer.placement sub.config e = .overflowed <;>
      simp [hstate, hplace, Record.level]

theorem quiet_cancel (h : Hub R C) (s : SubscriptionRef) : (h.cancel s).log.Quiet := by
  unfold cancel
  split
  · simp [Log.Quiet]
  · split <;> simp [Log.Quiet, Record.level]

theorem quiet_cancelAll (h : Hub R C) (l : List SubscriptionRef) :
    (h.cancelAll l).log.Quiet := by
  induction l generalizing h with
  | nil => simp [cancelAll, Log.Quiet]
  | cons s l ih =>
    intro r hr
    rcases List.mem_append.mp hr with hfirst | hothers
    · exact quiet_cancel h s r hfirst
    · exact ih (h.cancel s).hub r hothers

theorem quiet_deregister (h : Hub R C) (k : ServiceRef) (s : SubscriptionRef) :
    (h.deregister k s).log.Quiet := by
  unfold deregister
  split
  · simp [Log.Quiet]
  · split
    · exact quiet_cancel h s
    · simp [Log.Quiet]

theorem quiet_close (h : Hub R C) (k : ServiceRef) : (h.close k).log.Quiet := by
  unfold close
  split
  · simp [Log.Quiet]
  · intro r hr
    rcases List.mem_append.mp hr with hcancelled | hclosed
    · exact quiet_cancelAll _ _ r hcancelled
    · simp [List.mem_singleton.mp hclosed, Record.level]

theorem quiet_closeSilent (h : Hub R C) (j : SilentRef) : (h.closeSilent j).log.Quiet := by
  unfold closeSilent
  split
  · simp [Log.Quiet]
  · split
    · simp [Log.Quiet]
    · intro r hr
      rcases List.mem_append.mp hr with hcancelled | hclosed
      · exact quiet_cancelAll _ _ r hcancelled
      · simp [List.mem_singleton.mp hclosed, Record.level]

end Hub

namespace Action

variable [BEq C]

/-- Only posts warn. -/
theorem quiet_log {a : Action R C} (hpost : ∀ s e, a ≠ .post s e) (hoffer : ∀ s e, a ≠ .offer s e)
    (h : Hub R C) : (a.log h).Quiet := by
  cases a with
  | withConfig config =>
    rw [log, Hub.withConfig]
    rcases config.validate with _ | _
    · simp [Log.Quiet]
    · simp [Log.Quiet, Hub.addService, Record.level]
  | register k resource kinds =>
    rw [log, Hub.register]
    split_ifs
    · simp [Log.Quiet]
    · split
      · simp [Log.Quiet]
      · split_ifs <;> simp [Log.Quiet, Record.level]
  | post s e => exact absurd rfl (hpost s e)
  | offer s e => exact absurd rfl (hoffer s e)
  | signal s =>
    rw [log, Hub.signal]
    split
    · simp [Log.Quiet]
    · split_ifs <;> simp [Log.Quiet, Record.level]
  | drain s =>
    rw [log, Hub.drain]
    split
    · simp [Log.Quiet]
    · dsimp only
      split_ifs <;> simp [Log.Quiet, Record.level]
  | reset s =>
    rw [log, Hub.reset]
    split
    · simp [Log.Quiet]
    · split
      · simp [Log.Quiet]
      · simp [Log.Quiet]
      · split_ifs <;> simp [Log.Quiet, Record.level]
  | poll k =>
    rw [log, Hub.poll]
    split
    · simp [Log.Quiet]
    · split_ifs
      · simp [Log.Quiet]
      · split <;> simp [Log.Quiet]
  | pollTimeout k endless =>
    rw [log, Hub.pollTimeout]
    split <;> simp [Log.Quiet]
  | take k =>
    rw [log, Hub.take]
    split <;> simp [Log.Quiet]
  | cancel s => exact h.quiet_cancel s
  | deregister k s => exact h.quiet_deregister k s
  | close k => exact h.quiet_close k
  | forget s =>
    rw [log]
    rcases h.subscription? s with _ | sub <;> simp [Log.Quiet, Record.level]
  | registerSilent k resource kinds =>
    rw [log, Hub.registerSilent]
    split_ifs
    · simp [Log.Quiet]
    · split
      · simp [Log.Quiet]
      · split_ifs <;> simp [Log.Quiet]
  | closeSilent k => exact h.quiet_closeSilent k
  | _ => simp [log, Log.Quiet, Hub.addSilent, Hub.liveCountSilent]

/-- An action warns for each event that it posts and that makes the buffer overflow. -/
theorem warnings_eq {a : Action R C} {h : Hub R C} {s : SubscriptionRef} {sub : Subscription R C}
    (hs : h.subscription? s = some sub) :
    a.warnings h s =
      ((a.posts h s).filter fun e => sub.buffer.placement sub.config e = .overflowed).map
        fun _ => .overflowed sub.id sub.config.capacity := by
  -- A call on another subscription warns of nothing here and posts nothing here.
  by_cases hsubject : a.subject? = some s
  swap
  · rw [warnings, if_neg hsubject, posts_eq_nil hsubject]
    rfl
  rw [warnings, if_pos hsubject]
  cases a with
  | post s' e =>
    obtain rfl : s' = s := Option.some.inj hsubject
    rw [log, Hub.warnings_post hs]
    by_cases hstate : sub.state = .cancelled
    · simp [posts, hs, hstate]
    · by_cases hplace : sub.buffer.placement sub.config e = .overflowed <;>
        simp [posts, hs, hstate, hplace]
  | offer s' e =>
    obtain rfl : s' = s := Option.some.inj hsubject
    rw [log, Hub.offer, hs]
    dsimp only
    by_cases hinterest : sub.isInterested e.val.kind = true
    · rw [if_pos hinterest, Hub.warnings_post hs]
      by_cases hstate : sub.state = .cancelled
      · simp [posts, hs, hstate]
      · by_cases hplace : sub.buffer.placement sub.config e = .overflowed <;>
          simp [posts, hs, hstate, hinterest, hplace]
    · simp [posts, hs, hinterest]
  | signal s' =>
    rw [(quiet_log (by simp) (by simp) h).filter_eq_nil, (posts_eq_nil_of_fills rfl h s).1]
    rfl
  | drain s' =>
    have hdrains : (Action.drain s' : Action R C).drains s = true := by
      simpa [drains] using Option.some.inj hsubject
    rw [(quiet_log (by simp) (by simp) h).filter_eq_nil, posts_of_drains hdrains]
    rfl
  | reset s' =>
    rw [(quiet_log (by simp) (by simp) h).filter_eq_nil, (posts_eq_nil_of_fills rfl h s).1]
    rfl
  | _ => simp [subject?] at hsubject

/-- Every warning is one for a subscription that is there. -/
theorem exists_of_warn {a : Action R C} {h : Hub R C} {r : Record} (hr : r ∈ a.log h)
    (hlevel : r.level = .warn) :
    ∃ s sub, a.subject? = some s ∧ h.subscription? s = some sub ∧ r ∈ a.warnings h s := by
  have found : ∀ s, a.subject? = some s → r ∈ a.warnings h s := by
    intro s hsubject
    rw [warnings, if_pos hsubject]
    exact List.mem_filter.mpr ⟨hr, by simpa using hlevel⟩
  cases a with
  | post s e =>
    rcases hs : h.subscription? s with _ | sub
    · simp [log, Hub.post, hs] at hr
    · exact ⟨s, sub, rfl, hs, found s rfl⟩
  | offer s e =>
    rcases hs : h.subscription? s with _ | sub
    · simp [log, Hub.offer, hs] at hr
    · exact ⟨s, sub, rfl, hs, found s rfl⟩
  | _ => exact absurd hlevel (quiet_log (by simp) (by simp) h r hr)

/-- Nothing warns for a subscription that is not there. -/
theorem warnings_of_eq_none {a : Action R C} {h : Hub R C} {s : SubscriptionRef}
    (hs : h.subscription? s = none) : a.warnings h s = [] := by
  rw [warnings]
  split
  · rename_i hsubject
    refine List.filter_eq_nil_iff.mpr fun r hr hlevel => ?_
    obtain ⟨s', sub, hsubject', hs', -⟩ := exists_of_warn hr (by simpa using hlevel)
    obtain rfl : s = s' := Option.some.inj (hsubject.symm.trans hsubject')
    exact absurd (hs.symm.trans hs') (by simp)
  · rfl

omit [BEq C] in
/-- An action posts one event at most. -/
theorem posts_cases (a : Action R C) (h : Hub R C) (s : SubscriptionRef) :
    a.posts h s = [] ∨ ∃ e, a.posts h s = [e] := by
  unfold posts
  split
  · exact Or.inl rfl
  · split_ifs
    · exact Or.inl rfl
    · split
      · split_ifs
        · exact Or.inr ⟨_, rfl⟩
        · exact Or.inl rfl
      · split_ifs
        · exact Or.inr ⟨_, rfl⟩
        · exact Or.inl rfl
      · exact Or.inl rfl

end Action

/-! ## Runs -/

variable [BEq C]

namespace History

theorem warnings_cons_of_nothing {past : History R C} {s : SubscriptionRef}
    (hs : past.hub.subscription? s = none) (a : Action R C) (hwarnings : past.warnings s = [])
    (hbatches : ∀ batch ∈ past.batches s, batch = []) :
    warnings s (a :: past) = [] ∧ ∀ batch ∈ batches s (a :: past), batch = [] := by
  refine ⟨by rw [warnings, hwarnings, Action.warnings_of_eq_none hs]; rfl, ?_⟩
  intro batch hbatch
  rcases List.mem_append.mp hbatch with hold | hnew
  · exact hbatches batch hold
  · split at hnew
    · rw [List.mem_singleton.mp hnew, Hub.drain_value_of_eq_none hs]
    · simp at hnew

/-- A subscription that the last action has made at most has warned of nothing, and what drains have
returned of it is empty. -/
theorem warnings_cons_of_eq_none {past : History R C} {s : SubscriptionRef}
    (hs : past.hub.subscription? s = none) (a : Action R C) :
    warnings s (a :: past) = [] ∧ ∀ batch ∈ batches s (a :: past), batch = [] := by
  induction past generalizing a with
  | nil => exact warnings_cons_of_nothing hs a rfl (by simp [batches])
  | cons b past ih =>
    obtain ⟨hwarnings, hbatches⟩ := ih (subscription?_eq_none_of_apply hs) b
    exact warnings_cons_of_nothing hs a hwarnings hbatches

/-- An action that overflows the buffer warns of it once, and a drain hands the overflow over. -/
theorem length_warnings_step (past : History R C) (a : Action R C) {s : SubscriptionRef}
    {sub sub' : Subscription R C} (hs : past.hub.subscription? s = some sub)
    (hc : SubscriptionChange past.hub a s sub sub') :
    (a.warnings past.hub s).length + Buffer.overflows sub.config sub.buffer =
      (if a.drains s then Buffer.overflows sub.config sub.buffer else 0) +
        Buffer.overflows sub.config sub'.buffer := by
  have hwarnings := congrArg List.length (Action.warnings_eq (a := a) hs)
  have hbuffer := hc.buffer_eq hs
  rw [List.length_map] at hwarnings
  by_cases hdrains : a.drains s = true
  · rw [Action.posts_of_drains hdrains] at hwarnings
    rw [if_pos hdrains] at hbuffer ⊢
    simp [hwarnings, hbuffer, Buffer.overflows]
  · rw [if_neg hdrains] at hbuffer ⊢
    rcases a.posts_cases past.hub s with hnone | ⟨e, hone⟩
    · rw [hnone] at hwarnings hbuffer
      simp [hwarnings, hbuffer]
    · rw [hone] at hwarnings hbuffer
      have hover := Buffer.overflows_post sub.config (past.posted s) e
      rw [← past.buffer_eq_foldl hs] at hover
      rw [hbuffer, hwarnings, List.foldl_cons, List.foldl_nil, hover]
      by_cases hplace : sub.buffer.placement sub.config e = .overflowed <;>
        simp [hplace, Nat.add_comm]

/-- One warning for each overflowed batch and one for a buffer that has overflowed. -/
theorem length_warnings (past : History R C) {s : SubscriptionRef} {sub : Subscription R C}
    (hs : past.hub.subscription? s = some sub) :
    (past.warnings s).length =
      (past.batches s).countP (fun batch => batch.length = sub.config.capacity + 1) +
        Buffer.overflows sub.config sub.buffer := by
  induction past generalizing sub with
  | nil => simp [hub] at hs
  | cons a past ih =>
    rcases subscription?_of_apply hs with ⟨before, hbefore, hc⟩ | ⟨hnew, hfresh⟩
    · have hstep := length_warnings_step past a hbefore hc
      have hdrained : ((if a.drains s then [((hub past).drain s).value] else []).countP
          fun batch => batch.length = before.config.capacity + 1) =
          if a.drains s then Buffer.overflows before.config before.buffer else 0 := by
        rw [Hub.drain_value hbefore]
        split
        · simp [Buffer.overflows, List.countP_singleton]
        · rfl
      rw [hc.config_eq, warnings, batches, List.length_append, List.countP_append, ih hbefore,
        hdrained]
      omega
    · obtain ⟨hwarnings, hbatches⟩ := warnings_cons_of_eq_none hnew a
      have hnone : (batches s (a :: past)).countP
          (fun batch => batch.length = sub.config.capacity + 1) = 0 := by
        refine List.countP_eq_zero.mpr fun batch hbatch => ?_
        simp [hbatches batch hbatch]
      rw [hwarnings, hnone, hfresh.buffer_eq]
      simp [Buffer.overflows]

/-- Every warning names the subscription and its capacity. -/
theorem eq_overflowed_of_mem_warnings (past : History R C) {s : SubscriptionRef}
    {sub : Subscription R C} (hs : past.hub.subscription? s = some sub) {r : Record}
    (hr : r ∈ past.warnings s) : r = .overflowed sub.id sub.config.capacity := by
  induction past generalizing sub with
  | nil => simp [warnings] at hr
  | cons a past ih =>
    rcases subscription?_of_apply hs with ⟨before, hbefore, hc⟩ | ⟨hnew, -⟩
    · rw [hc.id_eq, hc.config_eq]
      rcases List.mem_append.mp hr with hold | hnow
      · exact ih hbefore hold
      · rw [Action.warnings_eq hbefore] at hnow
        obtain ⟨e, -, rfl⟩ := List.mem_map.mp hnow
        rfl
    · simp [(warnings_cons_of_eq_none hnew a).1] at hr

/-- How a batch came about that holds one entry more than the capacity: a drain returned it, and its
last entry is an overflow event that a post has made, without context, behind an entry that is no
overflow event. -/
structure Overflowed (past : History R C) (s : SubscriptionRef) (config : WatchConfig)
    (batch : Buffer C) : Prop where
  drained : ∃ later earlier : History R C, past = later ++ .drain s :: earlier ∧
    batch = (earlier.hub.drain s).value ∧ Buffer.Overran config (earlier.posted s) batch
  ends : ∃ init entry marker, batch = init ++ [entry, marker] ∧
    init.length + 1 = config.capacity ∧ entry.isOverflow = false ∧
    marker.kind = .overflow ∧ marker.context = none

theorem Overflowed.cons {past : History R C} {s : SubscriptionRef} {config : WatchConfig}
    {batch : Buffer C} (hbatch : past.Overflowed s config batch) (a : Action R C) :
    Overflowed (a :: past) s config batch := by
  obtain ⟨⟨later, earlier, rfl, hdrained⟩, hends⟩ := hbatch
  exact ⟨⟨a :: later, earlier, rfl, hdrained⟩, hends⟩

theorem overflowed_of_mem_batches (past : History R C) {s : SubscriptionRef}
    {sub : Subscription R C} (hs : past.hub.subscription? s = some sub)
    (hcapacity : 1 ≤ sub.config.capacity) {batch : Buffer C} (hbatch : batch ∈ past.batches s)
    (hlength : batch.length = sub.config.capacity + 1) : past.Overflowed s sub.config batch := by
  induction past generalizing sub with
  | nil => simp [batches] at hbatch
  | cons a past ih =>
    rcases subscription?_of_apply hs with ⟨before, hbefore, hc⟩ | ⟨hnew, -⟩
    · rw [hc.config_eq] at hcapacity hlength ⊢
      rcases List.mem_append.mp hbatch with hold | hnow
      · exact (ih hbefore hcapacity hold hlength).cons a
      · split at hnow
        swap
        · simp at hnow
        rename_i hdrains
        obtain rfl := List.mem_singleton.mp hnow
        obtain rfl : a = .drain s := by
          cases a <;> simp_all [Action.drains]
        have hvalue := (Hub.drain_value hbefore).trans (buffer_eq_foldl past hbefore)
        have hover : Buffer.Overran before.config (posted s past) ((hub past).drain s).value := by
          rw [hvalue] at hlength ⊢
          refine (Buffer.length_le_or_overran before.config _).resolve_left fun hfits => ?_
          omega
        exact ⟨⟨[], past, rfl, rfl, hover⟩, hover.ends hcapacity⟩
    · simp [(warnings_cons_of_eq_none hnew a).2 batch hbatch] at hlength

/-- One warning for each batch that has overflowed. A subscription has warned as many times as
drains have returned batches of one entry more than the capacity, and once more if its buffer is
such a one; and such a batch ends in an overflow event that was made by a post. -/
theorem one_warning_per_overflow (past : History R C) {s : SubscriptionRef} {sub : Subscription R C}
    (hs : past.hub.subscription? s = some sub) (hcapacity : 1 ≤ sub.config.capacity) :
    (past.warnings s).length =
        (past.batches s).countP (fun batch => batch.length = sub.config.capacity + 1) +
          (if sub.buffer.length = sub.config.capacity + 1 then 1 else 0) ∧
      (∀ r ∈ past.warnings s, r = .overflowed sub.id sub.config.capacity) ∧
      ∀ batch ∈ past.batches s, batch.length = sub.config.capacity + 1 →
        past.Overflowed s sub.config batch :=
  ⟨past.length_warnings hs, fun _ hr => past.eq_overflowed_of_mem_warnings hs hr,
    fun _ hbatch hlength => past.overflowed_of_mem_batches hs hcapacity hbatch hlength⟩

/-- Capacity two. The first batch has overflowed, and an overflow event of the producer is counted
at its end; the second one ends in one of the producer and has not overflowed; the buffer has
overflowed again. -/
theorem one_warning_per_overflow_of_two_batches :
    let past : History Nat Nat :=
      [.post 0 (.once .delete 9), .post 0 (.once .create 8), .post 0 (.once .modify 7), .drain 0,
        .post 0 (.once .delete 9), .post 0 (.once .overflow 0), .post 0 (.once .modify 7), .drain 0,
        .post 0 (.once .overflow 0), .post 0 (.once .delete 9), .post 0 (.once .create 8),
        .post 0 (.once .modify 7), .post 0 (.once .modify 7), .register 0 10 [.modify],
        .withConfig { capacity := 2, coalesceRepeats := true }]
    (past.warnings 0).length = 1 + 1 ∧ (∀ r ∈ past.warnings 0, r = .overflowed ⟨1⟩ 2) ∧
      past.batches 0 =
        [[⟨.modify, 2, some 7⟩, ⟨.create, 1, some 8⟩, ⟨.overflow, 2, none⟩],
          [⟨.modify, 1, some 7⟩, ⟨.overflow, 2, none⟩]] ∧
      past.Overflowed 0 { capacity := 2, coalesceRepeats := true }
        [⟨.modify, 2, some 7⟩, ⟨.create, 1, some 8⟩, ⟨.overflow, 2, none⟩] := by
  intro past
  obtain ⟨sub, hs, hid, hconfig, hbuffer⟩ : ∃ sub, past.hub.subscription? 0 = some sub ∧
      sub.id = ⟨1⟩ ∧ sub.config = { capacity := 2, coalesceRepeats := true } ∧
      sub.buffer.length = 3 := ⟨_, rfl, rfl, rfl, rfl⟩
  have hbatches : past.batches 0 =
      [[⟨.modify, 2, some 7⟩, ⟨.create, 1, some 8⟩, ⟨.overflow, 2, none⟩],
        [⟨.modify, 1, some 7⟩, ⟨.overflow, 2, none⟩]] := rfl
  obtain ⟨hcount, hrecords, hover⟩ := one_warning_per_overflow past hs (by rw [hconfig]; decide)
  rw [hconfig] at hcount hrecords hover
  rw [hid] at hrecords
  rw [hbatches, hbuffer] at hcount
  exact ⟨hcount, hrecords, hbatches, hover _ (by simp [hbatches]) rfl⟩

end History

end PathWatch
