import Mathlib
import PathWatch.Proofs.Matcher.Selector
/-!
# Registries and what was registered with them

Registries are made, cloned and registered with in any order. Each answers by its own registrations
and those of the registry it was cloned from, up to then: the last one under a tag counts, and what
is done with other registries does not show.
-/

namespace PathWatch

namespace Registry

/-! ## Entries -/

section Entries

variable {K : Type}

/-- Putting in a constructor changes what is found under its tag and nothing else. -/
theorem find?_insert (tag tag' : String) (make : K) (entries : List (String × K)) :
    find? tag (insert tag' make entries) = if tag' = tag then some make else find? tag entries := by
  induction entries with
  | nil => simp [insert, find?]
  | cons entry rest ih =>
    obtain ⟨t, old⟩ := entry
    rw [insert]
    by_cases htag : tag' = tag
    · subst htag
      rw [if_pos rfl]
      split_ifs with hsame hbefore
      · simp [find?]
      · simp [find?]
      · rw [find?, if_neg hsame, ih, if_pos rfl]
    · rw [if_neg htag]
      split_ifs with hsame hbefore
      · simp [find?, hsame, htag]
      · rw [find?, if_neg htag]
      · rw [find?, ih, if_neg htag, find?]

/-- A tag is registered after an insertion if it was before or is the new one. -/
theorem mem_map_fst_insert (t tag : String) (make : K) (entries : List (String × K)) :
    t ∈ (insert tag make entries).map Prod.fst ↔ t = tag ∨ t ∈ entries.map Prod.fst := by
  induction entries with
  | nil => simp [insert]
  | cons entry rest ih =>
    obtain ⟨t', old⟩ := entry
    rw [insert]
    split_ifs with hsame hbefore
    · simp [hsame]
    · simp
    · rw [List.map_cons, List.mem_cons, ih, List.map_cons, List.mem_cons, or_left_comm]

/-- Whether the tags of the entries rise in the order of their bytes, so that none comes twice. -/
def Rising (entries : List (String × K)) : Prop :=
  (entries.map Prod.fst).Pairwise fun a b => Text.before a b = true

/-- The entries stay in the order of their tags. -/
theorem Rising.insert {entries : List (String × K)} (h : Rising entries) (tag : String) (make : K) :
    Rising (insert tag make entries) := by
  induction entries with
  | nil => simp [Rising, Registry.insert]
  | cons entry rest ih =>
    obtain ⟨t, old⟩ := entry
    obtain ⟨hfirst, hrest⟩ := List.pairwise_cons.mp h
    rw [Registry.insert]
    split_ifs with hsame hbefore
    · subst hsame
      exact List.pairwise_cons.mpr ⟨hfirst, hrest⟩
    · refine List.pairwise_cons.mpr ⟨fun t' ht' => ?_, h⟩
      rcases List.mem_cons.mp ht' with rfl | hlater
      · exact hbefore
      · exact Text.before_trans hbefore (hfirst t' hlater)
    · -- The tag goes behind the first one, and the first one stays before all others.
      refine List.pairwise_cons.mpr ⟨fun t' ht' => ?_, ih hrest⟩
      rcases (mem_map_fst_insert t' tag make rest).mp ht' with rfl | hlater
      · exact Text.before_of_not_before (Ne.symm hsame) hbefore
      · exact hfirst t' hlater

/-- A tag has a constructor just if it is among the tags. -/
theorem exists_find?_iff (tag : String) (entries : List (String × K)) :
    (∃ make, find? tag entries = some make) ↔ tag ∈ entries.map Prod.fst := by
  induction entries with
  | nil => simp [find?]
  | cons entry rest ih =>
    obtain ⟨t, make⟩ := entry
    rw [find?, List.map_cons, List.mem_cons]
    split_ifs with htag
    · simp [htag]
    · rw [ih]
      simp [Ne.symm htag]

end Entries

/-! ## Registrations -/

/-- What was registered with a registry, the last first: the tags as they were given, each with its
constructor. -/
abbrev Registrations := List (String × Constructor)

/-- The constructor that was registered last under a tag. -/
def Registrations.last? (log : Registrations) (tag : String) : Option Constructor :=
  (log.find? fun entry => SameTag entry.1 tag).map Prod.snd

/-- The newest registration counts for every tag that folds to the same one. -/
theorem Registrations.last?_cons (tag' : String) (make : Constructor) (log : Registrations)
    (tag : String) :
    Registrations.last? ((tag', make) :: log) tag =
      if foldTag tag' = foldTag tag then some make else log.last? tag := by
  rw [last?, List.find?_cons]
  by_cases hsame : SameTag tag' tag
  · simp [hsame, (foldTag_eq_foldTag_iff tag' tag).mpr hsame]
  · simp [hsame, mt (foldTag_eq_foldTag_iff tag' tag).mp hsame, last?]

/-- The registrations that a registry for globs and regular expressions starts with. -/
def standardRegistrations : Registrations :=
  [("regex", regexConstructor), ("glob", globConstructor)]

/-- Whether a registry holds what was registered: in order, under every folded tag that occurs, and
under each the last constructor. -/
structure Holds (r : Registry Constructor) (log : Registrations) : Prop where
  rising : Rising r.entries
  get?_eq : ∀ tag, r.get? tag = log.last? tag
  mem_tags : ∀ t, t ∈ r.tags ↔ ∃ entry ∈ log, t = foldTag entry.1

theorem Holds.empty : Holds (Registry.empty : Registry Constructor) [] where
  rising := List.Pairwise.nil
  get?_eq tag := rfl
  mem_tags t := by simp [tags, Registry.empty]

/-- A registration is one more entry of the log. -/
theorem Holds.register {r : Registry Constructor} {log : Registrations} (h : Holds r log)
    (tag : String) (make : Constructor) : Holds (r.register tag make).2 ((tag, make) :: log) where
  rising := h.rising.insert (foldTag tag) make
  get?_eq tag' := by
    have hfound : (r.register tag make).2.get? tag' =
        if foldTag tag = foldTag tag' then some make else r.get? tag' :=
      find?_insert (foldTag tag') (foldTag tag) make r.entries
    rw [hfound, Registrations.last?_cons, h.get?_eq]
  mem_tags t := by
    have hmem : t ∈ (r.register tag make).2.tags ↔ t = foldTag tag ∨ t ∈ r.tags :=
      mem_map_fst_insert t (foldTag tag) make r.entries
    rw [hmem, h.mem_tags]
    simp

/-- The standard registry holds the two registrations it is made from. -/
theorem Holds.standard : Holds Registry.standard standardRegistrations :=
  (Holds.empty.register "glob" globConstructor).register "regex" regexConstructor

/-! ## Registries in use -/

/-- What is done with registries. They are named by the order in which they are made. -/
inductive Act where
  /-- Makes a registry without any syntax. -/
  | empty
  /-- Makes a registry that knows globs and regular expressions. -/
  | standard
  /-- Makes a clone of a registry. -/
  | clone (i : Nat)
  | register (i : Nat) (tag : String) (make : Constructor)

/-- How many registries have been made. The last act comes first. -/
def made : List Act → Nat
  | [] => 0
  | .register .. :: past => made past
  | _ :: past => made past + 1

/-- A registry after what was done. A clone of what is not there is not there. -/
def registryAt? : List Act → Nat → Option (Registry Constructor)
  | [], _ => none
  | .empty :: past, i => if i = made past then some empty else registryAt? past i
  | .standard :: past, i => if i = made past then some standard else registryAt? past i
  | .clone j :: past, i => if i = made past then registryAt? past j else registryAt? past i
  | .register j tag make :: past, i =>
    (registryAt? past i).map fun r => if i = j then (r.register tag make).2 else r

/-- What was registered with a registry, and before it was cloned with the one it is a clone of. -/
def registrations : List Act → Nat → Registrations
  | [], _ => []
  | .empty :: past, i => if i = made past then [] else registrations past i
  | .standard :: past, i =>
    if i = made past then standardRegistrations else registrations past i
  | .clone j :: past, i => if i = made past then registrations past j else registrations past i
  | .register j tag make :: past, i =>
    if i = j then (tag, make) :: registrations past i else registrations past i

/-- Every registry holds its registrations, whatever is done in whatever order. -/
theorem holds_registrations {past : List Act} {i : Nat} {r : Registry Constructor}
    (hr : registryAt? past i = some r) : Holds r (registrations past i) := by
  induction past generalizing i r with
  | nil => simp [registryAt?] at hr
  | cons act past ih =>
    cases act with
    | empty =>
      rw [registryAt?] at hr
      rw [registrations]
      split_ifs at hr ⊢
      · obtain rfl := Option.some.inj hr
        exact Holds.empty
      · exact ih hr
    | standard =>
      rw [registryAt?] at hr
      rw [registrations]
      split_ifs at hr ⊢
      · obtain rfl := Option.some.inj hr
        exact Holds.standard
      · exact ih hr
    | clone j =>
      rw [registryAt?] at hr
      rw [registrations]
      split_ifs at hr ⊢
      · exact ih hr
      · exact ih hr
    | register j tag make =>
      rw [registryAt?] at hr
      obtain ⟨before, hbefore, hafter⟩ := Option.map_eq_some_iff.mp hr
      rw [registrations]
      split_ifs at hafter ⊢
      · subst hafter
        exact (ih hbefore).register tag make
      · subst hafter
        exact ih hbefore

/-! ## What a registry answers -/

/-- Whether the parts of a selector are a tag without a colon and what comes behind the colon. -/
def IsSplit (selector : String) (parts : String × String) : Prop :=
  selector = parts.1 ++ ":" ++ parts.2 ∧ ':' ∉ parts.1.toList

/-- A registry that answers by its registrations. -/
structure Follows (r : Registry Constructor) (log : Registrations) : Prop where
  build_eq : ∀ tag pattern, r.build tag pattern =
    match log.last? tag with
    | none => .error (.unknownSyntax tag)
    | some make => make pattern
  supports_iff : ∀ tag, r.supports tag = true ↔ ∃ make, log.last? tag = some make
  register_fst : ∀ tag make, (r.register tag make).1 = log.last? tag
  displaces_iff : ∀ tag make,
    (∃ displaced, (r.register tag make).1 = some displaced) ↔ foldTag tag ∈ r.tags
  tags_rising : r.tags.Pairwise fun a b => Text.bytes a < Text.bytes b
  mem_tags_iff : ∀ t, t ∈ r.tags ↔ ∃ entry ∈ log, t = foldTag entry.1
  compile_eq_error : ∀ selector, ':' ∉ selector.toList →
    r.compile selector = .error (.missingSyntax selector)
  compile_eq : ∀ selector, ':' ∈ selector.toList →
    (∃! parts, IsSplit selector parts) ∧
      ∀ parts, IsSplit selector parts → r.compile selector = r.build parts.1 parts.2

/-- A registry that holds what has been registered answers by it. -/
theorem Holds.follows {r : Registry Constructor} {log : Registrations} (h : Holds r log) :
    Follows r log where
  build_eq tag pattern := by
    rcases hlast : log.last? tag with _ | make
    · rw [build, h.get?_eq, hlast]
    · rw [build, h.get?_eq, hlast]
  supports_iff tag := by rw [supports, h.get?_eq, Option.isSome_iff_exists]
  register_fst tag make := h.get?_eq tag
  displaces_iff tag make := exists_find?_iff (foldTag tag) r.entries
  tags_rising := h.rising.imp fun hab => (Text.before_iff _ _).mp hab
  mem_tags_iff := h.mem_tags
  compile_eq_error selector hselector := by
    rw [compile, splitSelector_of_not_mem hselector]
  compile_eq selector hselector := by
    refine ⟨existsUnique_split hselector, ?_⟩
    rintro ⟨tag, pattern⟩ ⟨rfl, htag⟩
    rw [compile, splitSelector_append htag]

/-- A registry is a map on folded tags in which the last registration counts. Whatever registries
are made, cloned and registered with, in whatever order, each of them answers by its registrations:
a matcher is built by the constructor that was registered last under the tag, up to the case of
ASCII letters, and an unknown tag is named as it was given; a registration gives back what it
displaces; the tags are the folded ones that were registered, each once, in the order of their
bytes; and a selector is cut at its first colon. A registration with another registry, be it a
clone, does not show. -/
theorem last_registration_counts {past : List Act} {i : Nat} {r : Registry Constructor}
    (hr : registryAt? past i = some r) :
    Follows r (registrations past i) ∧
      ∀ j tag make, j ≠ i →
        registryAt? (.register j tag make :: past) i = some r ∧
          registrations (.register j tag make :: past) i = registrations past i := by
  refine ⟨(holds_registrations hr).follows, fun j tag make hj => ?_⟩
  rw [registryAt?, registrations, hr, if_neg (Ne.symm hj), Option.map_some, if_neg (Ne.symm hj)]
  exact ⟨rfl, rfl⟩

/-- A clone gets a constructor of its own for globs, under the tag in capitals. A tag with a letter
that is not an ASCII one, and with a colon, is found as it was registered and not with its
capital. -/
theorem last_registration_counts_of_clone :
    let all : Constructor := fun _ => .ok fun _ => true
    let past : List Act := [.register 1 "GLOB" all, .clone 0, .register 0 "é:" all, .standard]
    ∃ r, registryAt? past 1 = some r ∧ r.tags = ["glob", "regex", "é:"] ∧
      r.build "gLob" "*" = .ok (fun _ => true) ∧ (r.register "Glob" all).1 = some all ∧
      r.build "É:" "*" = .error (.unknownSyntax "É:") ∧
      r.compile "Glob:a:b" = r.build "Glob" "a:b" := by
  intro all past
  obtain ⟨r, hr, htags⟩ : ∃ r, registryAt? past 1 = some r ∧ r.tags = ["glob", "regex", "é:"] :=
    ⟨_, rfl, by decide⟩
  have hfollows := (last_registration_counts hr).1
  have hlog : registrations past 1 = ("GLOB", all) :: ("é:", all) :: standardRegistrations := rfl
  rw [hlog] at hfollows
  have hother : Registrations.last? (("GLOB", all) :: ("é:", all) :: standardRegistrations) "É:" =
      none := by
    rw [standardRegistrations]
    iterate 4 rw [Registrations.last?_cons, if_neg (by decide)]
    rfl
  refine ⟨r, hr, htags, ?_, ?_, ?_, ?_⟩
  · rw [hfollows.build_eq, Registrations.last?_cons, if_pos (by decide)]
  · rw [hfollows.register_fst, Registrations.last?_cons, if_pos (by decide)]
  · rw [hfollows.build_eq, hother]
  · exact (hfollows.compile_eq "Glob:a:b" (by decide)).2 ("Glob", "a:b") ⟨by decide, by decide⟩

end Registry

end PathWatch
