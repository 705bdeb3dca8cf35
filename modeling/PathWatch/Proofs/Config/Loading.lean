import Mathlib
import PathWatch.Hub.Notification
import PathWatch.Proofs.Json.Objects
import PathWatch.Proofs.Json.Wanted
/-!
# Loading a configuration

A file may name the parts of a configuration in any order, leave some out and say other things
besides. What it names is taken from it and the rest from the standard configuration; a part that is
named twice makes the file unreadable, and a configuration without room for an event is refused.
-/

namespace PathWatch.WatchConfig

open Json

/-! ## What a file says of a configuration -/

/-- The members of a configuration as it is written. -/
def fields (config : WatchConfig) : List (String × List Char) :=
  [("capacity", writeNat config.capacity), ("coalesce_repeats", writeBool config.coalesceRepeats)]

/-- The names of the parts of a configuration. -/
def partNames : List String := ["capacity", "coalesce_repeats"]

/-- The members of an object that name a part of a configuration, with the texts of their
values. -/
def listed (o : ObjectText) : List (String × List Char) :=
  (o.members.map fun m => (m.name, m.value.core)).filter fun f => f.1 ∈ partNames

/-- The file with the text of an object. -/
def file (o : ObjectText) : FileContent :=
  .bytes (String.ofList o.text).toByteArray

/-- The chosen parts of a configuration, completed by the standard configuration. -/
def only (config : WatchConfig) (chosen : String → Bool) : WatchConfig where
  capacity := if chosen "capacity" then config.capacity else standard.capacity
  coalesceRepeats :=
    if chosen "coalesce_repeats" then config.coalesceRepeats else standard.coalesceRepeats

/-- What loading makes of a configuration that has been read. -/
def checked (config : WatchConfig) : Except LoadError WatchConfig :=
  if config.capacity = 0 then .error (.invalid .zeroCapacity) else .ok config

/-! ## From the members to the file -/

theorem ofText_of_ofJson {text : String} {config : WatchConfig} (hread : ofJson text = .ok config) :
    ofText text = config.checked := by
  simp only [ofText, hread, validate, checked]
  split_ifs <;> rfl

theorem load_toByteArray (text : String) : load (.bytes text.toByteArray) = ofText text := by
  have hdecode : String.fromUTF8? text.toByteArray = some text := by
    rw [String.fromUTF8?, dif_pos text.isValidUTF8]
    rfl
  simp only [load, hdecode]

/-- The text of an object is read as its members are, from behind the opening brace. -/
theorem ofJson_text (o : ObjectText) :
    ofJson (String.ofList o.text) =
      readDocument (fun s => (readMembers readMember {} s).map fun r => (r.1.complete, r.2))
        (o.behindBrace o.after.val) := by
  simp only [ofJson, String.toList_ofList, readDocument, readJson, ObjectText.text,
    skipBlanks_blanks, skipBlanks_cons (show isBlank '{' = false by rfl), bind]
  cases readMembers readMember {} (o.behindBrace o.after.val) <;> rfl

/-- A file whose members are read has been read, whatever blanks are behind them. -/
theorem load_file_of_reading_some {o : ObjectText} {parts : Parts}
    (hreading : Reading readMember o.members {} (some parts)) :
    load (file o) = parts.complete.checked := by
  have hgives : readMembers readMember {} (o.behindBrace o.after.val) = .ok (parts, o.after.val) :=
    gives_readMembers o hreading o.after.val
  have hafter : skipBlanks o.after.val = [] := by
    rw [skipBlanks, List.dropWhile_eq_nil_iff]
    exact o.after.property
  rw [file, load_toByteArray]
  refine ofText_of_ofJson ?_
  rw [ofJson_text, readDocument, hgives]
  simp only [Except.map, bind, Except.bind, hafter, pure, Except.pure]

/-- A file with a member that cannot be read is not read. -/
theorem load_file_of_reading_none {o : ObjectText}
    (hreading : Reading readMember o.members {} none) :
    ∃ cause, load (file o) = .error (.json cause) := by
  obtain ⟨e, he⟩ := gives_readMembers o hreading o.after.val
  refine ⟨e, ?_⟩
  rw [file, load_toByteArray, ofText, ofJson_text, readDocument, he]
  rfl

/-! ## From a member to the parts -/

/-- Reads a part of a configuration that must not have been read before. -/
def readPart {α : Type} (read : List Char → Except Error (α × List Char)) (name : String)
    (has : Bool) (set : α → Parts) (s : List Char) : Except Error (Parts × List Char) :=
  if has then .error (.duplicateField name)
  else (read s).map fun found => (set found.1, found.2)

theorem readMember_capacity {m : NamedMember} (hname : m.name = "capacity") (parts : Parts)
    (rest : List Char) :
    readMember m.name parts (m.behindKey ++ rest) =
      readPart readCapacity "capacity" parts.capacity.isSome
        (fun n => { parts with capacity := some n }) (m.value.text ++ rest) := by
  rw [hname]
  simp only [readMember, readPart, readColon_behindKey]
  split_ifs
  · rfl
  · simp only [bind, Except.bind]
    cases readCapacity (m.value.text ++ rest) <;> rfl

theorem readMember_coalesceRepeats {m : NamedMember} (hname : m.name = "coalesce_repeats")
    (parts : Parts) (rest : List Char) :
    readMember m.name parts (m.behindKey ++ rest) =
      readPart readBool "coalesce_repeats" parts.coalesceRepeats.isSome
        (fun b => { parts with coalesceRepeats := some b }) (m.value.text ++ rest) := by
  rw [hname]
  simp only [readMember, readPart, readColon_behindKey]
  split_ifs
  · rfl
  · simp only [bind, Except.bind]
    cases readBool (m.value.text ++ rest) <;> rfl

/-- A member of another name is passed over. -/
theorem readMember_other {m : NamedMember} (hname : m.name ∉ partNames) (parts : Parts)
    {rest : List Char} (hrest : EndsMember rest) :
    readMember m.name parts (m.behindKey ++ rest) = .ok (parts, m.value.after.val ++ rest) := by
  have hskip := m.isValue.skipValue_text hrest.endsNumber
  unfold readMember
  split
  · rename_i hcapacity
    simp [hcapacity, partNames] at hname
  · rename_i hrepeats
    simp [hrepeats, partNames] at hname
  · simp only [readColon_behindKey, bind, Except.bind, hskip, pure, Except.pure]

/-! ## Members that say what a configuration says -/

/-- The parts of a configuration that have been read. -/
def Parts.of (config : WatchConfig) (seen : String → Bool) : Parts where
  capacity := if seen "capacity" then some config.capacity else none
  coalesceRepeats := if seen "coalesce_repeats" then some config.coalesceRepeats else none

theorem Parts.complete_of (config : WatchConfig) (seen : String → Bool) :
    (Parts.of config seen).complete = config.only seen := by
  simp only [Parts.of, Parts.complete, only]
  split_ifs <;> rfl

/-- A part that has not been read yet is read. -/
theorem readMember_of_fields {config : WatchConfig} (hcapacity : config.capacity ≤ maxWord)
    {m : NamedMember} (hvalue : m.name ∈ partNames → (m.name, m.value.core) ∈ config.fields)
    {seen : String → Bool} (hnew : m.name ∈ partNames → seen m.name = false) {rest : List Char}
    (hrest : EndsMember rest) :
    readMember m.name (Parts.of config seen) (m.behindKey ++ rest) =
      .ok (Parts.of config fun name => seen name || m.name == name,
        m.value.after.val ++ rest) := by
  have hends := hrest.endsNumber.blanks m.value.after
  by_cases hknown : m.name ∈ partNames
  · have hcore := hvalue hknown
    have hfresh := hnew hknown
    simp only [partNames, List.mem_cons, List.not_mem_nil, or_false] at hknown
    rcases hknown with hname | hname
    · have hcore : m.value.core = writeNat config.capacity := by
        simpa [fields, hname] using hcore
      rw [hname] at hfresh
      rw [readMember_capacity hname, readPart, if_neg (by simp [Parts.of, hfresh]), readCapacity,
        Spaced.read_text (readNat_skipBlanks maxWord "usize"), hcore,
        readNat_writeNat hcapacity (Nat.le_refl _) "usize" hends, hname]
      simp [Except.map, Parts.of]
    · have hcore : m.value.core = writeBool config.coalesceRepeats := by
        simpa [fields, hname] using hcore
      rw [hname] at hfresh
      rw [readMember_coalesceRepeats hname, readPart, if_neg (by simp [Parts.of, hfresh]),
        Spaced.read_text readBool_skipBlanks, hcore, readBool_writeBool, hname]
      simp [Except.map, Parts.of]
  · rw [readMember_other hknown _ hrest]
    simp only [partNames, List.mem_cons, List.not_mem_nil, or_false, not_or] at hknown
    simp [Parts.of, hknown]

/-- Members that name each part at most once, and as a configuration has it, are read. -/
theorem reading_of_fields {config : WatchConfig} (hcapacity : config.capacity ≤ maxWord)
    {ms : List NamedMember}
    (hvalues : ∀ m ∈ ms, m.name ∈ partNames → (m.name, m.value.core) ∈ config.fields)
    (honce : ((ms.map fun m => m.name).filter fun name => name ∈ partNames).Nodup)
    {seen : String → Bool} (hnew : ∀ m ∈ ms, m.name ∈ partNames → seen m.name = false) :
    Reading readMember ms (Parts.of config seen)
      (some (Parts.of config fun name => seen name || name ∈ ms.map fun m => m.name)) := by
  induction ms generalizing seen with
  | nil =>
    simp only [List.map_nil, List.not_mem_nil, decide_false, Bool.or_false]
    exact .done
  | cons m ms ih =>
    obtain ⟨hvalue, hothers⟩ := List.forall_mem_cons.mp hvalues
    obtain ⟨hnew, hothersNew⟩ := List.forall_mem_cons.mp hnew
    rw [List.map_cons, List.filter_cons] at honce
    have honceOthers : ((ms.map fun m => m.name).filter fun name => name ∈ partNames).Nodup := by
      split at honce
      · exact (List.nodup_cons.mp honce).2
      · exact honce
    have hapart : ∀ x ∈ ms, x.name ∈ partNames → (seen x.name || m.name == x.name) = false := by
      intro x hx hknown
      have hne : m.name ≠ x.name := by
        intro heq
        rw [if_pos (by simpa [heq] using hknown)] at honce
        refine (List.nodup_cons.mp honce).1 (List.mem_filter.mpr ⟨?_, by simpa [heq]⟩)
        exact heq ▸ List.mem_map_of_mem hx
      simp [hothersNew x hx hknown, hne]
    have hreading : Reading readMember ms (Parts.of config fun name => seen name || m.name == name)
        (some (Parts.of config fun name =>
          (seen name || m.name == name) || name ∈ ms.map fun m => m.name)) :=
      ih hothers honceOthers hapart
    have hseen : (fun name => (seen name || m.name == name) || name ∈ ms.map fun m => m.name) =
        fun name => seen name || name ∈ (m :: ms).map fun m => m.name := by
      funext name
      simp only [List.map_cons, List.mem_cons, Bool.decide_or, Bool.or_assoc, eq_comm,
        beq_eq_decide]
    rw [hseen] at hreading
    exact .next (fun rest hrest => readMember_of_fields hcapacity hvalue hnew hrest) hreading

/-! ## Members that name a part twice -/

/-- Whether the part of this name has been read. -/
def Parts.has (parts : Parts) (name : String) : Bool :=
  (name == "capacity" && parts.capacity.isSome) ||
    (name == "coalesce_repeats" && parts.coalesceRepeats.isSome)

/-- A part that has not been read yet is read from any value that its reader takes. -/
theorem readPart_settles {α : Type} {read : List Char → Except Error (α × List Char)}
    (hblanks : ∀ s, read (skipBlanks s) = read s) {t : Spaced} (ht : Settles read t.core)
    (name : String) (has : Bool) (set : α → Parts) :
    (has = false ∧ ∃ a, ∀ rest, EndsMember rest →
        readPart read name has set (t.text ++ rest) = .ok (set a, t.after.val ++ rest)) ∨
      ∀ rest, EndsMember rest → ∃ e, readPart read name has set (t.text ++ rest) = .error e := by
  cases has with
  | true => exact .inr fun rest _ => ⟨_, rfl⟩
  | false =>
    rcases ht.spaced hblanks with ⟨a, hread⟩ | hfails
    · refine .inl ⟨rfl, a, fun rest hrest => ?_⟩
      rw [readPart, hread rest hrest.endsNumber]
      rfl
    · refine .inr fun rest hrest => ?_
      obtain ⟨e, he⟩ := hfails rest hrest.endsNumber
      exact ⟨e, by rw [readPart, he]; rfl⟩

/-- A member with any value either adds the part it names, if that has not been read, or is
refused. -/
theorem readMember_settles (m : NamedMember) (parts : Parts) :
    (∃ next : Parts, (∀ rest, EndsMember rest →
        readMember m.name parts (m.behindKey ++ rest) = .ok (next, m.value.after.val ++ rest)) ∧
      ∀ name ∈ partNames,
        (next.has name).toNat = (parts.has name).toNat + if m.name = name then 1 else 0) ∨
    ∀ rest, EndsMember rest → ∃ e, readMember m.name parts (m.behindKey ++ rest) = .error e := by
  by_cases hknown : m.name ∈ partNames
  · simp only [partNames, List.mem_cons, List.not_mem_nil, or_false] at hknown
    rcases hknown with hname | hname
    · simp only [readMember_capacity hname]
      refine (readPart_settles (readNat_skipBlanks maxWord "usize")
        (m.isValue.settles_readNat maxWord "usize") _ _ _).imp_left ?_
      rintro ⟨hnew, n, hread⟩
      exact ⟨_, hread, by simp [partNames, Parts.has, hname, hnew]⟩
    · simp only [readMember_coalesceRepeats hname]
      refine (readPart_settles readBool_skipBlanks m.isValue.settles_readBool _ _ _).imp_left ?_
      rintro ⟨hnew, b, hread⟩
      exact ⟨_, hread, by simp [partNames, Parts.has, hname, hnew]⟩
  · refine .inl ⟨parts, fun rest hrest => readMember_other hknown parts hrest, ?_⟩
    intro name hname
    have hne : m.name ≠ name := fun heq => hknown (heq ▸ hname)
    rw [if_neg hne, Nat.add_zero]

/-- No object that names a part twice is read. -/
theorem reading_of_twice {name : String} (hname : name ∈ partNames) {ms : List NamedMember}
    {parts : Parts}
    (htwice : 2 ≤ (ms.map fun m => m.name).count name + (parts.has name).toNat) :
    Reading readMember ms parts none := by
  induction ms generalizing parts with
  | nil =>
    have hle := Bool.toNat_le (parts.has name)
    simp at htwice
    omega
  | cons m ms ih =>
    rcases readMember_settles m parts with ⟨next, hread, hhas⟩ | hfails
    · refine .next hread (ih ?_)
      rw [hhas name hname]
      rw [List.map_cons, List.count_cons] at htwice
      simp only [beq_iff_eq] at htwice
      omega
    · exact .fail hfails

/-! ## Files -/

theorem map_name_listed (o : ObjectText) :
    (listed o).map Prod.fst =
      (o.members.map fun m => m.name).filter fun name => name ∈ partNames := by
  rw [listed, List.filter_map, List.map_map, List.filter_map]
  rfl

/-- A file that lists some parts of a configuration gives those and the standard ones. -/
theorem load_file_of_listed {config : WatchConfig} (hcapacity : config.capacity ≤ maxWord)
    {chosen : String → Bool} {o : ObjectText}
    (hlisted : (listed o).Perm (config.fields.filter fun f => chosen f.1)) :
    load (file o) = (config.only chosen).checked := by
  have hnames : ((o.members.map fun m => m.name).filter fun name => name ∈ partNames).Perm
      (partNames.filter chosen) := by
    rw [← map_name_listed]
    have hfields : (config.fields.filter fun f => chosen f.1).map Prod.fst =
        partNames.filter chosen := (List.filter_map (f := Prod.fst) (l := config.fields)).symm
    exact hfields ▸ hlisted.map Prod.fst
  have hvalues : ∀ m ∈ o.members, m.name ∈ partNames → (m.name, m.value.core) ∈ config.fields := by
    intro m hm hknown
    have hmem : (m.name, m.value.core) ∈ listed o :=
      List.mem_filter.mpr ⟨List.mem_map_of_mem hm, by simpa using hknown⟩
    exact (List.mem_filter.mp (hlisted.mem_iff.mp hmem)).1
  have honce : ((o.members.map fun m => m.name).filter fun name => name ∈ partNames).Nodup :=
    hnames.nodup_iff.mpr (List.Nodup.filter _ (by decide))
  have hreading : Reading readMember o.members (Parts.of config fun _ => false)
      (some (Parts.of config fun name => false || name ∈ o.members.map fun m => m.name)) :=
    reading_of_fields hcapacity hvalues honce fun _ _ _ => rfl
  have hseen : ∀ name ∈ partNames,
      (false || decide (name ∈ o.members.map fun m => m.name)) = chosen name := by
    intro name hname
    have hiff := hnames.mem_iff (a := name)
    simp only [List.mem_filter, hname, decide_true, and_true, true_and] at hiff
    simp [hiff]
  have hload := load_file_of_reading_some hreading
  rw [hload, Parts.complete_of, only, only, hseen "capacity" (by simp [partNames]),
    hseen "coalesce_repeats" (by simp [partNames])]

/-- A configuration as it is written, as the text of an object. -/
def writtenObject (config : WatchConfig) : ObjectText where
  before := .none
  inside := .none
  members := [.plain "capacity" (by simp) (isValue_writeNat config.capacity),
    .plain "coalesce_repeats" (by simp) (isValue_writeBool config.coalesceRepeats)]
  after := .none

theorem text_writtenObject (config : WatchConfig) :
    config.writtenObject.text = config.toJson := by
  simp [writtenObject, ObjectText.text, ObjectText.behindBrace, NamedMember.plain, Member.text,
    Member.behindKey, Spaced.text, Blanks.none, separated, toJson, writeObject, writeMoreMembers,
    writeString, escape, escapeChar]

/-- Loading gives no configuration that a service refuses. -/
theorem capacity_pos_of_load {content : FileContent} {config : WatchConfig}
    (hload : load content = .ok config) : 1 ≤ config.capacity := by
  -- Whatever has been read has been checked.
  have htext : ∃ text, ofText text = .ok config := by
    unfold load at hload
    split at hload
    · cases hload
    · cases hload
    · split at hload
      · cases hload
      · exact ⟨_, hload⟩
  obtain ⟨text, htext⟩ := htext
  cases hread : ofJson text with
  | error e =>
    rw [ofText, hread] at htext
    cases htext
  | ok read =>
    rw [ofText_of_ofJson hread, checked] at htext
    split at htext
    · cases htext
    · cases htext
      omega

/-- A file gives the parts of a configuration that it lists and the standard ones for the others,
unless that leaves no room for an event; so a configuration is read back from what is written of
it. A part listed twice, with any values, makes the file unreadable. -/
theorem loads_listed_parts (config : WatchConfig) (hcapacity : config.capacity ≤ maxWord) :
    (∀ (chosen : String → Bool) (o : ObjectText),
      (listed o).Perm (config.fields.filter fun f => chosen f.1) →
      load (file o) = (config.only chosen).checked) ∧
    load (.bytes (String.ofList config.toJson).toByteArray) = config.checked ∧
    (∀ o : ObjectText, ∀ name ∈ partNames, 2 ≤ (o.members.map fun m => m.name).count name →
      ∃ cause, load (file o) = .error (.json cause)) ∧
    ∀ (content : FileContent) (loaded : WatchConfig), load content = .ok loaded →
      1 ≤ loaded.capacity ∧
        ∀ (R C : Type) (h : Hub R C), h.withConfig loaded = .ok (h.addService loaded) := by
  refine ⟨fun chosen o hlisted => load_file_of_listed hcapacity hlisted, ?_, ?_, ?_⟩
  · have hwritten : load (file config.writtenObject) = (config.only fun _ => true).checked :=
      load_file_of_listed hcapacity (List.Perm.refl _)
    rwa [file, text_writtenObject] at hwritten
  · intro o name hname htwice
    exact load_file_of_reading_none (reading_of_twice hname (by omega))
  · intro content loaded hload
    have hpos := capacity_pos_of_load hload
    refine ⟨hpos, fun R C h => ?_⟩
    rw [Hub.withConfig, validate, if_neg (by omega)]

/-- One space. -/
def space : Blanks := ⟨[' '], by simp [isBlank]⟩

/-- The value `[{"a":null}, []]`. -/
theorem isValue_nested : IsValue "[\x7b\"a\":null\x7d, []]".toList := by
  have hobject : IsValue "\x7b\"a\":null\x7d".toList :=
    @IsValue.object .none [⟨.none, ['a'], .none, .none, writeNull, .none⟩]
      (by simpa using ⟨[['a']], by simpa using .plain (by simp) (by simp) (by simp), rfl⟩)
      (by simpa using .word (by simp))
  have hempty : IsValue "[]".toList := @IsValue.list .none [] (by simp)
  exact @IsValue.list .none [⟨.none, _, .none⟩, ⟨space, _, .none⟩]
    (by simpa using ⟨hobject, hempty⟩)

/-- The object `{ "more":[{"a":null}, []],"\\u0063apacity" : 7}`, which has a member that is none
of a configuration and an escape in the key of the other. -/
def mixedObject : ObjectText where
  before := .none
  inside := space
  members := [
    .plain "more" (by simp) isValue_nested,
    { beforeKey := .none
      key := '\\' :: 'u' :: (['0', '0', '6', '3'] ++ "apacity".toList)
      afterKey := space
      value := ⟨space, writeNat 7, .none⟩
      name := "capacity"
      spells := by
        have hcode : SpellsChar ('\\' :: 'u' :: ['0', '0', '6', '3']) 'c' :=
          .code (.digits (w := 0) (x := 0) (y := 6) (z := 3) rfl rfl rfl rfl) (by simp)
        exact .cons hcode (spells_self (by simp))
      isValue := isValue_writeNat 7 }]
  after := .none

theorem loads_listed_parts_of_mixed_object :
    let doubled := { mixedObject with members := mixedObject.members ++ mixedObject.members }
    String.ofList mixedObject.text =
        "\x7b \"more\":[\x7b\"a\":null\x7d, []],\"\\u0063apacity\" : 7\x7d" ∧
      7 ≤ maxWord ∧
      listed mixedObject = (fields ⟨7, true⟩).filter (fun f => f.1 == "capacity") ∧
      load (file mixedObject) = .ok ⟨7, false⟩ ∧
      load (.bytes (String.ofList (toJson ⟨7, true⟩)).toByteArray) = .ok ⟨7, true⟩ ∧
      ∃ cause, load (file doubled) = .error (.json cause) := by
  obtain ⟨hfile, hwritten, htwice, -⟩ := loads_listed_parts ⟨7, true⟩ (by decide)
  have hlisted : listed mixedObject = (fields ⟨7, true⟩).filter fun f => f.1 == "capacity" := by
    rfl
  refine ⟨by rfl, by decide, hlisted, ?_, hwritten, htwice _ "capacity" (by decide) (by decide)⟩
  exact hfile (fun name => name == "capacity") mixedObject (List.Perm.of_eq hlisted)

end PathWatch.WatchConfig
