import Mathlib
import PathWatch.Event.Json
import PathWatch.Proofs.Json.Written
/-!
# Events are read back

An event is read back from its written form. Whatever text is accepted as an event, the event is one
that can exist, and a text with a count of zero is not accepted.
-/

namespace PathWatch

open Json

/-! ## Kinds -/

namespace EventKind

/-- A kind without a text is read back from its name. -/
theorem readJson_of_variant {name : String} {kind : EventKind}
    (hname : variant name = .ok (.plain kind)) (rest : List Char) :
    readJson (writeString name ++ rest) = .ok (kind, rest) := by
  rw [writeString_append, readJson, skipBlanks_cons (by decide)]
  simp only [readStringBody_escape, hname, bind, Except.bind, pure, Except.pure]

theorem readJson_toJson (kind : EventKind) (rest : List Char) :
    readJson (kind.toJson ++ rest) = .ok (kind, rest) := by
  cases kind with
  | create => exact readJson_of_variant rfl rest
  | modify => exact readJson_of_variant rfl rest
  | delete => exact readJson_of_variant rfl rest
  | overflow => exact readJson_of_variant rfl rest
  | custom text =>
    have htext : (EventKind.custom text).toJson ++ rest =
        '{' :: '"' :: (escape "Custom".toList ++ '"' ::
          (':' :: (writeString text ++ '}' :: rest))) := by
      simp [toJson, writeObject, writeMoreMembers, writeString]
    have hcustom : variant "Custom" = .ok .custom := rfl
    have hmember : readMember ('"' :: (escape "Custom".toList ++ '"' ::
        (':' :: (writeString text ++ '}' :: rest)))) = .ok (.custom text, '}' :: rest) := by
      rw [readMember, skipBlanks_cons (by decide)]
      simp only [readStringBody_escape, hcustom, readColon_colon, readString_writeString, bind,
        Except.bind, pure, Except.pure]
    rw [htext, readJson, skipBlanks_cons (by decide)]
    simp only [hmember, bind, Except.bind, skipBlanks_cons (show isBlank '}' = false by decide),
      pure, Except.pure]

end EventKind

/-! ## Events -/

namespace ChangeEvent

variable {C : Type} [Codec C]

/-- What becomes of the parts of an event. -/
def ofParts (parts : EventKind × Nat × Option C) : Except Error (ChangeEvent C) :=
  match checked parts.1 (UInt32.ofNat parts.2.1) parts.2.2 with
  | .error e => .error (.refused e.message)
  | .ok event => .ok event

/-- An event is read by its parts, which are checked then. -/
theorem readJson_eq (s : List Char) :
    (readJson s : Except Error (ChangeEvent C × List Char)) =
      (readParts s).bind fun found => (ofParts found.1).map fun e => (e, found.2) := by
  have hchecked : ∀ found : (EventKind × Nat × Option C) × List Char,
      (match checked found.1.1 (UInt32.ofNat found.1.2.1) found.1.2.2 with
        | .error e => Except.error (Error.refused e.message)
        | .ok event => pure (event, found.2)) = (ofParts found.1).map fun e => (e, found.2) := by
    intro found
    unfold ofParts
    cases checked found.1.1 (UInt32.ofNat found.1.2.1) found.1.2.2 <;> rfl
  exact congrArg (readParts s).bind (funext hchecked)

/-! ## Reading what was written -/

variable [LawfulCodec C]

theorem readsMembers_toJson (e : ChangeEvent C) (hcount : e.count ≤ maxCount) :
    ReadsMembers readMember
      [("kind", e.kind.toJson), ("count", writeNat e.count), ("context", writeOptional e.context)]
      ({} : Parts C)
      { kind := some e.kind, count := some e.count, context := some e.context } := by
  refine ⟨{ kind := some e.kind }, fun rest _ => ?_,
    { kind := some e.kind, count := some e.count }, fun rest hrest => ?_,
    _, fun rest hrest => ?_, rfl⟩
  · simp [readMember, readColon_colon, EventKind.readJson_toJson, bind, Except.bind, pure,
      Except.pure]
  · have hread := readNat_writeNat hcount (by decide : maxCount ≤ maxWord) "u32" hrest.endsNumber
    simp [readMember, readColon_colon, readCount, hread, bind, Except.bind, pure, Except.pure]
  · simp [readMember, readColon_colon, readOptional_writeOptional e.context hrest, bind,
      Except.bind, pure, Except.pure]

/-- The parts of an event are read back. -/
theorem readParts_toJson (e : ChangeEvent C) (hcount : e.count ≤ maxCount) (rest : List Char) :
    readParts (e.toJson ++ rest) = .ok ((e.kind, e.count, e.context), rest) := by
  have hwritten : e.toJson = writeObject
      [("kind", e.kind.toJson), ("count", writeNat e.count),
        ("context", writeOptional e.context)] := by
    rcases e with ⟨kind, count, _ | context⟩ <;> rfl
  obtain ⟨s, hs, hread⟩ := readMembers_writeObject (readsMembers_toJson e hcount) rest
  rw [hwritten, hs, readParts, skipBlanks_cons (by decide)]
  simp only [readObject, hread, bind, Except.bind, pure, Except.pure, Option.getD_some]

/-! ## Whole texts -/

omit [Codec C] [LawfulCodec C] in
/-- Every event whose parts have been checked can exist. -/
theorem wellFormed_of_checked {kind : EventKind} {count : UInt32} {context : Option C}
    {e : ChangeEvent C} (he : checked kind count context = .ok e) : e.WellFormed := by
  unfold checked at he
  by_cases hzero : count = 0
  · simp [hzero] at he
  · rw [if_neg hzero] at he
    obtain rfl := Except.ok.inj he
    have hlt : count.toNat < 4294967296 := UInt32.toNat_lt _
    have hpos : count.toNat ≠ 0 := by
      intro hnat
      exact hzero (UInt32.toNat.inj hnat)
    constructor
    · exact Nat.one_le_iff_ne_zero.mpr hpos
    · exact Nat.le_of_lt_succ hlt
    · intro hkind
      exact if_pos hkind

omit [Codec C] [LawfulCodec C] in
/-- The parts of an event that can exist pass the check. -/
theorem checked_of_wellFormed {e : ChangeEvent C} (he : e.WellFormed) :
    checked e.kind (UInt32.ofNat e.count) e.context = .ok e := by
  have hcount : (UInt32.ofNat e.count).toNat = e.count :=
    UInt32.toNat_ofNat_of_lt' (Nat.lt_succ_of_le he.count_le)
  have hzero : UInt32.ofNat e.count ≠ 0 := by
    intro hnone
    have hone := he.one_le_count
    rw [← hcount, hnone] at hone
    exact absurd hone (by decide)
  have hcontext : (if e.kind = .overflow then none else e.context) = e.context := by
    split
    · rename_i hkind
      exact (he.context_eq_none hkind).symm
    · rfl
  simp only [checked, if_neg hzero, hcount, hcontext]

omit [Codec C] [LawfulCodec C] in
/-- Every event that is made from parts can exist. -/
theorem wellFormed_of_ofParts {parts : EventKind × Nat × Option C} {e : ChangeEvent C}
    (he : ofParts parts = .ok e) : e.WellFormed := by
  unfold ofParts at he
  split at he
  · simp at he
  · rename_i event hchecked
    obtain rfl := Except.ok.inj he
    exact wellFormed_of_checked hchecked

omit [Codec C] [LawfulCodec C] in
/-- An event that can exist is made from its own parts. -/
theorem ofParts_of_wellFormed {e : ChangeEvent C} (he : e.WellFormed) :
    ofParts (e.kind, e.count, e.context) = .ok e := by
  rw [ofParts, checked_of_wellFormed he]

omit [LawfulCodec C] in
/-- A text that is accepted has parts that an event can be made from. -/
theorem exists_parts_of_ofJson {text : String} {e : ChangeEvent C} (he : ofJson text = .ok e) :
    ∃ parts, ofParts parts = .ok e := by
  unfold ofJson readDocument at he
  rw [readJson_eq] at he
  rcases hparts : (readParts text.toList : Except Error ((EventKind × Nat × Option C) × List Char))
    with error | ⟨parts, rest⟩
  · simp [hparts, Except.bind, bind] at he
  · rw [hparts] at he
    rcases hmade : (ofParts parts : Except Error (ChangeEvent C)) with error | e'
    · simp [hmade, Except.bind, Except.map, bind] at he
    · refine ⟨parts, ?_⟩
      simp only [hmade, Except.bind, Except.map, bind, pure, Except.pure] at he
      split at he
      · rw [hmade, he]
      · simp at he

/-- An event is read back from its written form. -/
theorem ofJson_toJson {e : ChangeEvent C} (he : e.WellFormed) :
    ofJson (String.ofList e.toJson) = .ok e := by
  have hparts := readParts_toJson e he.count_le []
  rw [List.append_nil] at hparts
  have hread : readJson e.toJson = .ok (e, []) := by
    rw [readJson_eq, hparts]
    simp only [Except.bind, ofParts_of_wellFormed he, Except.map]
  rw [ofJson, readDocument, String.toList_ofList, hread]
  rfl

omit [LawfulCodec C] in
theorem ofJson_of_count_eq_zero {text : String} {kind : EventKind} {context : Option C}
    (hparts : readDocument readParts text.toList = .ok (kind, 0, context)) :
    (ofJson text : Except Error (ChangeEvent C)) =
      .error (.refused "Invalid event count: 0 (must be >= 1)") := by
  have hrefused : (ofParts (kind, 0, context) : Except Error (ChangeEvent C)) =
      .error (.refused "Invalid event count: 0 (must be >= 1)") := rfl
  unfold readDocument at hparts
  rcases hread : (readParts text.toList : Except Error ((EventKind × Nat × Option C) × List Char))
    with error | ⟨parts, rest⟩
  · simp [hread, bind, Except.bind] at hparts
  · simp only [hread, bind, Except.bind, pure, Except.pure] at hparts
    split at hparts
    · obtain rfl := Except.ok.inj hparts
      rw [ofJson, readDocument, readJson_eq, hread]
      simp only [Except.bind, hrefused, Except.map, bind]
    · simp at hparts

/-- What is asked of events as JSON, when their contexts are of the type `C`. -/
structure JsonFaithful (C : Type) [Codec C] : Prop where
  /-- An event that can exist is read back from its written form. -/
  ofJson_toJson : ∀ e : ChangeEvent C, e.WellFormed → ofJson (String.ofList e.toJson) = .ok e
  /-- No two events that can exist are written in the same way. -/
  toJson_inj : ∀ e e' : ChangeEvent C, e.WellFormed → e'.WellFormed → e.toJson = e'.toJson → e = e'
  /-- Whatever text is accepted, in whatever form, it stands for an event that can exist. -/
  wellFormed_of_ofJson : ∀ (text : String) (e : ChangeEvent C), ofJson text = .ok e → e.WellFormed
  /-- Whatever text is accepted, the event is also read back from its own written form. -/
  ofJson_toJson_of_ofJson : ∀ (text : String) (e : ChangeEvent C), ofJson text = .ok e →
    ofJson (String.ofList e.toJson) = .ok e
  /-- No text is accepted whose parts are a kind, a count of zero and a context or none. -/
  refuses_zero : ∀ (text : String) (kind : EventKind) (context : Option C),
    readDocument readParts text.toList = .ok (kind, 0, context) →
      (ofJson text : Except Error (ChangeEvent C)) =
        .error (.refused "Invalid event count: 0 (must be >= 1)")

/-- Events with strings or numbers of 64 bits for contexts are written so that they can be read
back, and what is read from any text is an event that can exist. -/
theorem json_faithful : JsonFaithful String ∧ JsonFaithful UInt64 := by
  have faithful : ∀ (C : Type) [Codec C] [LawfulCodec C], JsonFaithful C := by
    intro C _ _
    have accepted : ∀ (text : String) (e : ChangeEvent C), ofJson text = .ok e → e.WellFormed := by
      intro text e he
      obtain ⟨parts, hparts⟩ := exists_parts_of_ofJson he
      exact wellFormed_of_ofParts hparts
    constructor
    · exact fun e he => ofJson_toJson he
    · intro e e' he he' hsame
      have hread := ofJson_toJson he
      rw [hsame, ofJson_toJson he'] at hread
      exact (Except.ok.inj hread).symm
    · exact accepted
    · exact fun text e he => ofJson_toJson (accepted text e he)
    · exact fun text kind context hparts => ofJson_of_count_eq_zero hparts
  exact ⟨faithful String, faithful UInt64⟩

/-- An object with its members in another order and with one more among them, a list for an overflow
event with a context, which is dropped, and an object with a count of zero. -/
theorem json_faithful_of_texts :
    let object :=
      "\x7b\"x\":[1.5], \"count\":7,\"kind\":\x7b\"Delete\":null\x7d,\"context\":\"A\"\x7d"
    let list := "[\"Overflow\", 3, \"B\"]"
    let zero := "\x7b\"kind\":\"Modify\",\"count\":0\x7d"
    let deletion : ChangeEvent String := ⟨.delete, 7, some "A"⟩
    let overflow : ChangeEvent String := ⟨.overflow, 3, none⟩
    (ofJson object = .ok deletion ∧ deletion.WellFormed ∧
        ofJson (String.ofList deletion.toJson) = .ok deletion) ∧
      (ofJson list = .ok overflow ∧ overflow.WellFormed ∧
        ofJson (String.ofList overflow.toJson) = .ok overflow) ∧
      deletion.toJson ≠ overflow.toJson ∧
      (ofJson zero : Except Error (ChangeEvent String)) =
        .error (.refused "Invalid event count: 0 (must be >= 1)") := by
  intro object list zero deletion overflow
  have hfaithful := json_faithful.1
  have hobject : ofJson object = .ok deletion := by cbv
  have hlist : ofJson list = .ok overflow := by cbv
  have hdeletion := hfaithful.wellFormed_of_ofJson object deletion hobject
  have hoverflow := hfaithful.wellFormed_of_ofJson list overflow hlist
  have hzero : readDocument readParts zero.toList =
      .ok (EventKind.modify, 0, (none : Option String)) := by cbv
  refine ⟨⟨hobject, hdeletion, hfaithful.ofJson_toJson_of_ofJson object deletion hobject⟩,
    ⟨hlist, hoverflow, hfaithful.ofJson_toJson overflow hoverflow⟩, ?_,
    hfaithful.refuses_zero zero .modify none hzero⟩
  intro hsame
  exact absurd (hfaithful.toJson_inj deletion overflow hdeletion hoverflow hsame) (by decide)

end ChangeEvent

end PathWatch
