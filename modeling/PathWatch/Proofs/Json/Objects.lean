import Mathlib
import PathWatch.Proofs.Json.Grammar
/-!
# The texts of JSON objects

An object is read member by member, with any blanks around its tokens and any spelling of its keys.
What a reader of members makes of each of them decides what it makes of the whole: the reader is
always back at the end of a member when the next one comes.
-/

namespace PathWatch.Json

/-! ## What a string spells -/

/-- Whether a text spells a character of a string. -/
inductive SpellsChar : List Char → Char → Prop where
  | plain {c : Char} (hquote : c ≠ '"') (hbackslash : c ≠ '\\') (hcontrol : 0x20 ≤ c.toNat) :
      SpellsChar [c] c
  | short {letter c : Char}
      (hletter : (letter, c) ∈ [('"', '"'), ('\\', '\\'), ('/', '/'), ('b', Char.ofNat 0x08),
        ('f', Char.ofNat 0x0C), ('n', '\n'), ('r', '\r'), ('t', '\t')]) :
      SpellsChar ['\\', letter] c
  | code {t : List Char} {n : Nat} (ht : IsHex4 t n) (hn : n < 0xD800 ∨ 0xDFFF < n) :
      SpellsChar ('\\' :: 'u' :: t) (Char.ofNat n)
  | pair {t u : List Char} {high low : Nat} (ht : IsHex4 t high) (hu : IsHex4 u low)
      (hhigh : 0xD800 ≤ high ∧ high ≤ 0xDBFF) (hlow : 0xDC00 ≤ low ∧ low ≤ 0xDFFF) :
      SpellsChar ('\\' :: 'u' :: (t ++ '\\' :: 'u' :: u))
        (Char.ofNat ((high - 0xD800) * 0x400 + (low - 0xDC00) + 0x10000))

/-- Whether a text between quotes spells these characters. -/
inductive Spells : List Char → List Char → Prop where
  | nil : Spells [] []
  | cons {t u : List Char} {c : Char} {s : List Char} (hc : SpellsChar t c) (hs : Spells u s) :
      Spells (t ++ u) (c :: s)

theorem SpellsChar.ne_nil {t : List Char} {c : Char} (hc : SpellsChar t c) : t ≠ [] := by
  cases hc <;> simp

/-- Characters that need no escape spell themselves. -/
theorem spells_self {s : List Char}
    (hs : ∀ c ∈ s, c ≠ '"' ∧ c ≠ '\\' ∧ 0x20 ≤ c.toNat) : Spells s s := by
  induction s with
  | nil => exact .nil
  | cons c s ih =>
    obtain ⟨⟨hquote, hbackslash, hcontrol⟩, hothers⟩ := List.forall_mem_cons.mp hs
    exact .cons (.plain hquote hbackslash hcontrol) (ih hothers)

/-- Four digits that are no half of a pair are the character of that number. -/
theorem readUnicodeEscape_of_isHex4 {t : List Char} {n : Nat} (ht : IsHex4 t n)
    (hn : n < 0xD800 ∨ 0xDFFF < n) (s : List Char) :
    readUnicodeEscape (t ++ s) = .ok (Char.ofNat n, s) := by
  have hlow : ¬(0xDC00 ≤ n ∧ n ≤ 0xDFFF) := by omega
  have hhigh : n < 0xD800 ∨ 0xDBFF < n := by omega
  simp [readUnicodeEscape, readHex4_of_isHex4 ht, bind, Except.bind, pure, Except.pure, hlow,
    hhigh]

/-- Two halves of a pair are one character. -/
theorem readUnicodeEscape_of_surrogates {t u : List Char} {high low : Nat} (ht : IsHex4 t high)
    (hu : IsHex4 u low) (hhigh : 0xD800 ≤ high ∧ high ≤ 0xDBFF)
    (hlow : 0xDC00 ≤ low ∧ low ≤ 0xDFFF) (s : List Char) :
    readUnicodeEscape (t ++ '\\' :: 'u' :: (u ++ s)) =
      .ok (Char.ofNat ((high - 0xD800) * 0x400 + (low - 0xDC00) + 0x10000), s) := by
  have hfirst : ¬(0xDC00 ≤ high ∧ high ≤ 0xDFFF) := by omega
  have hsecond : ¬(high < 0xD800 ∨ 0xDBFF < high) := by omega
  have hthird : ¬(low < 0xDC00 ∨ 0xDFFF < low) := by omega
  simp [readUnicodeEscape, readHex4_of_isHex4 ht, readHex4_of_isHex4 hu, bind, Except.bind, pure,
    Except.pure, hfirst, hsecond, hthird]

/-- A character is read in one step. -/
theorem readCharsWithin_of_spellsChar {t : List Char} {c : Char} (hc : SpellsChar t c) (fuel : Nat)
    (s : List Char) :
    readCharsWithin (fuel + 1) (t ++ s) =
      (readCharsWithin fuel s).map fun found => (c :: found.1, found.2) := by
  cases hc with
  | plain hquote hbackslash hcontrol =>
    rw [List.singleton_append, readCharsWithin, if_neg hquote, if_neg hbackslash,
      if_neg (Nat.not_lt.mpr hcontrol)]
    cases readCharsWithin fuel s <;> rfl
  | @short letter _ hletter =>
    have hescape : readEscape (letter :: s) = .ok (c, s) := by
      fin_cases hletter <;> rfl
    exact readCharsWithin_of_readEscape fuel hescape
  | code ht hn =>
    refine readCharsWithin_of_readEscape fuel ?_
    exact readUnicodeEscape_of_isHex4 ht hn s
  | pair ht hu hhigh hlow =>
    rw [List.cons_append, List.cons_append, List.append_assoc]
    refine readCharsWithin_of_readEscape fuel ?_
    exact readUnicodeEscape_of_surrogates ht hu hhigh hlow s

/-- A string is read from behind its opening quote. -/
theorem readStringBody_of_spells {t : List Char} {text : String} (ht : Spells t text.toList)
    (rest : List Char) : readStringBody (t ++ '"' :: rest) = .ok (text, rest) := by
  -- Every character takes one step of the bound and at least one character of the text.
  have run : ∀ s fuel, Spells t s → t.length < fuel →
      readCharsWithin fuel (t ++ '"' :: rest) = .ok (s, rest) := by
    clear ht
    intro s fuel hs hfuel
    induction hs generalizing fuel with
    | nil =>
      obtain ⟨fuel, rfl⟩ : ∃ n, fuel = n + 1 := ⟨fuel - 1, by omega⟩
      rw [List.nil_append, readCharsWithin, if_pos rfl]
    | cons hc hs ih =>
      have hlength := List.length_pos_iff.mpr hc.ne_nil
      rw [List.length_append] at hfuel
      obtain ⟨fuel, rfl⟩ : ∃ n, fuel = n + 1 := ⟨fuel - 1, by omega⟩
      rw [List.append_assoc, readCharsWithin_of_spellsChar hc, ih fuel (by omega)]
      rfl
  have hread := run text.toList ((t ++ '"' :: rest).length + 1) ht (by simp)
  simp only [readStringBody, hread, bind, Except.bind, pure, Except.pure, String.ofList_toList]

/-! ## Members of objects -/

/-- A member of an object, with the string that its key spells. -/
structure NamedMember extends Member where
  name : String
  spells : Spells key name.toList
  isValue : IsValue value.core

/-- A member without blanks whose key is spelled without escapes. -/
def NamedMember.plain (name : String) {value : List Char}
    (hname : ∀ c ∈ name.toList, c ≠ '"' ∧ c ≠ '\\' ∧ 0x20 ≤ c.toNat) (hvalue : IsValue value) :
    NamedMember where
  beforeKey := .none
  key := name.toList
  afterKey := .none
  value := ⟨.none, value, .none⟩
  name := name
  spells := spells_self hname
  isValue := hvalue

/-- The text of a whole object, with the blanks around it. -/
structure ObjectText where
  before : Blanks
  /-- The blanks in front of the first member, or those of an object without members. -/
  inside : Blanks
  members : List NamedMember
  after : Blanks

/-- The texts of the members that follow others, with the commas in front of them. -/
def moreMembers (members : List NamedMember) : List Char :=
  members.flatMap fun m => ',' :: m.text

/-- The text of an object from behind its opening brace. -/
def ObjectText.behindBrace (o : ObjectText) (rest : List Char) : List Char :=
  o.inside.val ++ (separated (o.members.map fun m => m.text) ++ '}' :: rest)

/-- The text of an object. -/
def ObjectText.text (o : ObjectText) : List Char :=
  o.before.val ++ '{' :: o.behindBrace o.after.val

/-- The text of a member in front of another text. -/
theorem NamedMember.text_append (m : NamedMember) (s : List Char) :
    m.text ++ s = m.beforeKey.val ++ '"' :: (m.key ++ '"' :: (m.behindKey ++ s)) := by
  simp [Member.text]

/-! ## Reading members -/

/-- Blanks in front of a key are skipped. -/
theorem nextKey_blanks (isFirst : Bool) (b : Blanks) (s : List Char) :
    nextKey isFirst (b.val ++ s) = nextKey isFirst s := by
  rw [nextKey, nextKey, skipBlanks_blanks]

/-- The first member is found without a comma. -/
theorem nextKey_first_member (m : NamedMember) (s : List Char) :
    nextKey true (m.text ++ s) = .ok (.key (m.key ++ '"' :: (m.behindKey ++ s))) := by
  rw [m.text_append, nextKey_blanks, nextKey_first]

/-- Every other member is found behind one. -/
theorem nextKey_comma_member (m : NamedMember) (s : List Char) :
    nextKey false (',' :: (m.text ++ s)) = .ok (.key (m.key ++ '"' :: (m.behindKey ++ s))) := by
  rw [m.text_append]
  simp [nextKey, skipBlanks_cons, isBlank]

section Members

variable {σ : Type} {member : String → σ → List Char → Except Error (σ × List Char)}

/-- What comes of members that are read one after another into a state: the last state, or none
where one of them cannot be read. The reader of a member leaves the blanks behind its value. -/
inductive Reading (member : String → σ → List Char → Except Error (σ × List Char)) :
    List NamedMember → σ → Option σ → Prop where
  | done {state : σ} : Reading member [] state (some state)
  | next {m : NamedMember} {ms : List NamedMember} {state next : σ} {out : Option σ}
      (hread : ∀ rest, EndsMember rest →
        member m.name state (m.behindKey ++ rest) = .ok (next, m.value.after.val ++ rest))
      (hothers : Reading member ms next out) : Reading member (m :: ms) state out
  | fail {m : NamedMember} {ms : List NamedMember} {state : σ}
      (hread : ∀ rest, EndsMember rest →
        ∃ e, member m.name state (m.behindKey ++ rest) = .error e) :
      Reading member (m :: ms) state none

/-- What comes of a whole object: the last state and what is behind the object, or an error. -/
def Gives (out : Option σ) (rest : List Char) (result : Except Error (σ × List Char)) : Prop :=
  match out with
  | some last => result = .ok (last, rest)
  | none => ∃ e, result = .error e

/-- Behind a member there is a comma or the end of the object. -/
theorem endsMember_moreMembers (ms : List NamedMember) (rest : List Char) :
    EndsMember (moreMembers ms ++ '}' :: rest) := by
  rcases ms with _ | ⟨m, ms⟩
  · exact Or.inr rfl
  · exact Or.inl rfl

/-- The members are read from the key of one of them on, if what follows them is. -/
theorem gives_of_nextKey {m : NamedMember} {ms : List NamedMember} {state : σ} {out : Option σ}
    (hreading : Reading member (m :: ms) state out) {isFirst : Bool} {s rest : List Char}
    (hkey : nextKey isFirst s =
      .ok (.key (m.key ++ '"' :: (m.behindKey ++ (moreMembers ms ++ '}' :: rest)))))
    {fuel : Nat}
    (hothers : ∀ next, Reading member ms next out →
      Gives out rest (readMembersWithin member fuel false next
        (m.value.after.val ++ (moreMembers ms ++ '}' :: rest)))) :
    Gives out rest (readMembersWithin member (fuel + 1) isFirst state s) := by
  have hends := endsMember_moreMembers ms rest
  rw [readMembersWithin_of_nextKey hkey (readStringBody_of_spells m.spells _)]
  cases hreading with
  | next hread hreading =>
    rw [hread _ hends]
    exact hothers _ hreading
  | fail hread =>
    obtain ⟨e, he⟩ := hread _ hends
    rw [he]
    exact ⟨e, rfl⟩

/-- The members behind the first one are read, whatever blanks the one before them has left. -/
theorem gives_moreMembers (b : Blanks) {ms : List NamedMember} {state : σ} {out : Option σ}
    (hreading : Reading member ms state out) {fuel : Nat} (hfuel : ms.length < fuel)
    (rest : List Char) :
    Gives out rest
      (readMembersWithin member fuel false state (b.val ++ (moreMembers ms ++ '}' :: rest))) := by
  induction ms generalizing b state fuel with
  | nil =>
    obtain ⟨fuel, rfl⟩ : ∃ n, fuel = n + 1 := ⟨fuel - 1, by omega⟩
    cases hreading
    rw [moreMembers, List.flatMap_nil, List.nil_append, readMembersWithin, nextKey_blanks,
      nextKey_end]
    rfl
  | cons m ms ih =>
    obtain ⟨fuel, rfl⟩ : ∃ n, fuel = n + 1 := ⟨fuel - 1, by omega⟩
    have htext : moreMembers (m :: ms) ++ '}' :: rest =
        ',' :: (m.text ++ (moreMembers ms ++ '}' :: rest)) := by
      simp [moreMembers]
    refine gives_of_nextKey hreading ?_ fun next hothers => ?_
    · rw [nextKey_blanks, htext, nextKey_comma_member]
    · exact ih m.value.after hothers (by simpa using hfuel)

theorem length_le_length_moreMembers (ms : List NamedMember) :
    ms.length ≤ (moreMembers ms).length := by
  induction ms with
  | nil => exact Nat.le_refl _
  | cons m ms ih =>
    have htext : moreMembers (m :: ms) = ',' :: (m.text ++ moreMembers ms) := by
      simp [moreMembers]
    simp only [htext, List.length_cons, List.length_append]
    omega

/-- What is made of the members is made of the object. -/
theorem gives_readMembers (o : ObjectText) {state : σ} {out : Option σ}
    (hreading : Reading member o.members state out) (rest : List Char) :
    Gives out rest (readMembers member state (o.behindBrace rest)) := by
  obtain ⟨before, inside, ms, after⟩ := o
  rcases ms with _ | ⟨m, ms⟩
  · cases hreading
    simp only [ObjectText.behindBrace, List.map_nil, separated, List.nil_append]
    rw [readMembers, readMembersWithin, nextKey_blanks, nextKey_end]
    rfl
  · have htext : ObjectText.behindBrace ⟨before, inside, m :: ms, after⟩ rest =
        inside.val ++ (m.text ++ (moreMembers ms ++ '}' :: rest)) := by
      simp [ObjectText.behindBrace, separated, moreMembers, List.flatMap_map]
    rw [htext, readMembers]
    refine gives_of_nextKey hreading ?_ fun next hothers => ?_
    · rw [nextKey_blanks, nextKey_first_member]
    · refine gives_moreMembers _ hothers ?_ rest
      have hle := length_le_length_moreMembers ms
      simp only [List.length_cons, List.length_append, NamedMember.text_append]
      omega

end Members

end PathWatch.Json
