import Mathlib
import PathWatch.Proofs.Hub.Services
/-!
# Runs

A run is a list of actions. Every action is what one thread does under the locks it holds: a whole
call, or, for the calls that let go of their locks on the way, also each of their parts. The actions
of any number of threads come in any order. What has happened in a run is read off its history.
-/

namespace PathWatch

/-! ## Actions -/

/-- An event that can exist. Events are made by the functions of `ChangeEvent` only. -/
abbrev Event (C : Type) := { e : ChangeEvent C // e.WellFormed }

/-- An event that happened once. -/
def Event.once {C : Type} (kind : EventKind) (context : C) : Event C where
  val := ChangeEvent.once kind context
  property :=
    { one_le_count := Nat.le_refl 1
      count_le := by simp [ChangeEvent.once, maxCount]
      context_eq_none := fun h => if_pos h }

/-- What happens to a hub in one go. -/
inductive Action (R C : Type) where
  /-- Makes a notification service, if the configuration is valid. -/
  | withConfig (config : WatchConfig)
  | retain (k : ServiceRef)
  | release (k : ServiceRef)
  | register (k : ServiceRef) (resource : R) (kinds : List EventKind)
  | post (s : SubscriptionRef) (e : Event C)
  | offer (s : SubscriptionRef) (e : Event C)
  | signal (s : SubscriptionRef)
  | drain (s : SubscriptionRef)
  | reset (s : SubscriptionRef)
  /-- A retrieval. One that has to wait acts when it returns. -/
  | poll (k : ServiceRef)
  | pollTimeout (k : ServiceRef) (endless : Bool)
  | take (k : ServiceRef)
  | cancel (s : SubscriptionRef)
  | deregister (k : ServiceRef) (s : SubscriptionRef)
  | close (k : ServiceRef)
  /-- The first part of a cancellation. -/
  | markCancelled (s : SubscriptionRef)
  /-- The second part of a cancellation. -/
  | forget (s : SubscriptionRef)
  /-- The first part of closing; cancellations make up the rest. -/
  | shut (k : ServiceRef)
  | addSilent
  | registerSilent (k : SilentRef) (resource : R) (kinds : List EventKind)
  | liveCountSilent (k : SilentRef)
  | closeSilent (k : SilentRef)

namespace Action

variable {R C : Type} [BEq C]

/-- The hub after an action. -/
def apply (a : Action R C) (h : Hub R C) : Hub R C :=
  match a with
  | .withConfig config =>
    match h.withConfig config with
    | .error _ => h
    | .ok made => made.hub
  | .retain k => h.retain k
  | .release k => h.release k
  | .register k resource kinds => (h.register k resource kinds).hub
  | .post s e => (h.post s e).hub
  | .offer s e => (h.offer s e).hub
  | .signal s => (h.signal s).hub
  | .drain s => (h.drain s).hub
  | .reset s => (h.reset s).hub
  | .poll k => (h.poll k).hub
  | .pollTimeout k endless => (h.pollTimeout k endless).hub
  | .take k => (h.take k).hub
  | .cancel s => (h.cancel s).hub
  | .deregister k s => (h.deregister k s).hub
  | .close k => (h.close k).hub
  | .markCancelled s => (h.markCancelled s).2
  | .forget s => h.forget s
  | .shut k => (h.shut k).2
  | .addSilent => h.addSilent.hub
  | .registerSilent k resource kinds => (h.registerSilent k resource kinds).hub
  | .liveCountSilent k => (h.liveCountSilent k).hub
  | .closeSilent k => (h.closeSilent k).hub

/-! ## What an action shows -/

/-- The subscription that an action makes and hands out as one of the service. -/
def registers (a : Action R C) (h : Hub R C) (k : ServiceRef) : Option SubscriptionRef :=
  match a with
  | .register k' resource kinds =>
    if k' = k then
      match (h.register k' resource kinds).value with
      | .ok s => some s
      | .error _ => none
    else none
  | _ => none

/-- The subscription that an action takes from the queue of the service and hands out. -/
def retrieves (a : Action R C) (h : Hub R C) (k : ServiceRef) : Option SubscriptionRef :=
  match a with
  | .poll k' =>
    if k' = k then
      match (h.poll k').value with
      | .ok found => found
      | .error _ => none
    else none
  | .pollTimeout k' endless =>
    if k' = k then
      match (h.pollTimeout k' endless).value with
      | .returns (.ok found) => found
      | _ => none
    else none
  | .take k' =>
    if k' = k then
      match (h.take k').value with
      | .returns (.ok s) => some s
      | _ => none
    else none
  | _ => none

/-- The entries that an action puts behind those that were in the queue of the service before. -/
def appends (a : Action R C) (h : Hub R C) (k : ServiceRef) : List SubscriptionRef :=
  ((a.apply h).queue k).drop (h.queue k).length

/-- The events that an action posts to a subscription: none once it has been cancelled. -/
def posts (a : Action R C) (h : Hub R C) (s : SubscriptionRef) : List (ChangeEvent C) :=
  match h.subscription? s with
  | none => []
  | some sub =>
    if sub.state = .cancelled then []
    else
      match a with
      | .post s' e => if s' = s then [e.val] else []
      | .offer s' e => if s' = s ∧ sub.isInterested e.val.kind then [e.val] else []
      | _ => []

/-- Whether an action drains a subscription. -/
def drains (a : Action R C) (s : SubscriptionRef) : Bool :=
  match a with
  | .drain s' => s' = s
  | _ => false

end Action

/-! ## Histories -/

/-- The actions of a run, the last one first. -/
abbrev History (R C : Type) := List (Action R C)

namespace History

variable {R C : Type} [BEq C]

/-- The hub at the end of a run. Every run starts without services and subscriptions. -/
def hub : History R C → Hub R C
  | [] => {}
  | a :: past => a.apply (hub past)

/-- The subscriptions that the service has made, the first one first. -/
def registered (k : ServiceRef) : History R C → List SubscriptionRef
  | [] => []
  | a :: past => registered k past ++ (a.registers (hub past) k).toList

/-- The subscriptions that were retrieved from the service, the first one first. -/
def retrieved (k : ServiceRef) : History R C → List SubscriptionRef
  | [] => []
  | a :: past => retrieved k past ++ (a.retrieves (hub past) k).toList

/-- The entries that the queue of the service has got, the first one first. -/
def appended (k : ServiceRef) : History R C → List SubscriptionRef
  | [] => []
  | a :: past => appended k past ++ a.appends (hub past) k

/-- The events that were posted to a subscription since it was drained for the last time, or since
it was made. -/
def posted (s : SubscriptionRef) : History R C → List (ChangeEvent C)
  | [] => []
  | a :: past => if a.drains s then [] else posted s past ++ a.posts (hub past) s

/-- There has been an action of the kind `p`, and none of the kind `q` after it. A kind looks at the
hub that the action finds. -/
def Since (p q : Hub R C → Action R C → Prop) : History R C → Prop
  | [] => False
  | a :: past => p (hub past) a ∨ (¬ q (hub past) a ∧ Since p q past)

/-- `Since` spelled out: the history splits at an action of the kind `p`. -/
theorem since_iff (p q : Hub R C → Action R C → Prop) (past : History R C) :
    Since p q past ↔ ∃ later a earlier, past = later ++ a :: earlier ∧ p (hub earlier) a ∧
      ∀ l b e, later = l ++ b :: e → ¬ q (hub (e ++ a :: earlier)) b := by
  induction past with
  | nil => simp [Since]
  | cons c past ih =>
    -- The history splits at the last action, or further back.
    constructor
    · rintro (hp | ⟨hq, hsince⟩)
      · exact ⟨[], c, past, rfl, hp, by simp⟩
      · obtain ⟨later, a, earlier, rfl, hp, hnone⟩ := ih.mp hsince
        refine ⟨c :: later, a, earlier, rfl, hp, ?_⟩
        intro l b e hl
        rcases l with _ | ⟨d, l⟩
        · obtain ⟨rfl, rfl⟩ := List.cons.inj hl
          exact hq
        · exact hnone l b e (List.cons.inj hl).2
    · rintro ⟨later, a, earlier, hpast, hp, hnone⟩
      rcases later with _ | ⟨d, later⟩
      · obtain ⟨rfl, rfl⟩ := List.cons.inj hpast
        exact Or.inl hp
      · obtain ⟨rfl, rfl⟩ := List.cons.inj hpast
        refine Or.inr ⟨hnone [] c later rfl, ih.mpr ⟨later, a, earlier, rfl, hp, ?_⟩⟩
        intro l b e hl
        exact hnone (c :: l) b e (by rw [hl]; rfl)

/-- `Since` looks at the second kind less closely. -/
theorem Since.mono {p q q' : Hub R C → Action R C → Prop} (hq : ∀ h a, q' h a → q h a)
    {past : History R C} (hsince : Since p q past) : Since p q' past := by
  induction past with
  | nil => exact hsince
  | cons a past ih =>
    rcases hsince with hp | ⟨hnot, hbefore⟩
    · exact Or.inl hp
    · exact Or.inr ⟨fun hqa => hnot (hq _ _ hqa), ih hbefore⟩

/-- Every action of the kind `p` has been followed by one of the kind `q`. -/
def Answered (p q : Hub R C → Action R C → Prop) (past : History R C) : Prop :=
  ∀ later a earlier, past = later ++ a :: earlier → p (hub earlier) a →
    ∃ l b e, later = l ++ b :: e ∧ q (hub (e ++ a :: earlier)) b

theorem Answered.not_since {p q : Hub R C → Action R C → Prop} {past : History R C}
    (hanswered : Answered p q past) : ¬ Since p q past := by
  intro hsince
  obtain ⟨later, a, earlier, hpast, hp, hnone⟩ := (since_iff p q past).mp hsince
  obtain ⟨l, b, e, hlater, hq⟩ := hanswered later a earlier hpast hp
  exact hnone l b e hlater hq

end History

end PathWatch
