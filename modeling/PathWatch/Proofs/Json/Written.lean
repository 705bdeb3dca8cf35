import Mathlib
import PathWatch.Json.Reader
/-!
# What is written is read back

Strings, numbers and objects are read back from their written forms, whatever text follows, and the
reader stops where the written form ends. A number has to be followed by something that could not be
a part of it.
-/

namespace PathWatch.Json

open Text (isDigit digitValue hexValue?)

/-! ## Blanks -/

theorem skipBlanks_cons {c : Char} (hc : isBlank c = false) (s : List Char) :
    skipBlanks (c :: s) = c :: s := by
  simp [skipBlanks, hc]

/-! ## Strings -/

/-- A hexadecimal digit is read as what it was written for. -/
theorem hexValue?_hexDigit {n : Nat} (hn : n < 16) : hexValue? (hexDigit n) = some n := by
  interval_cases n <;> decide

/-- The escape of a control character stands for it. -/
theorem readUnicodeEscape_control {c : Char} (hc : c.toNat < 0x20) (s : List Char) :
    readUnicodeEscape ('0' :: '0' :: hexDigit (c.toNat / 16) :: hexDigit (c.toNat % 16) :: s) =
      .ok (c, s) := by
  have hzero : hexValue? '0' = some 0 := by decide
  have hhigh : hexValue? (hexDigit (c.toNat / 16)) = some (c.toNat / 16) :=
    hexValue?_hexDigit (by omega)
  have hlow : hexValue? (hexDigit (c.toNat % 16)) = some (c.toNat % 16) :=
    hexValue?_hexDigit (by omega)
  have hvalue : ((0 * 16 + 0) * 16 + c.toNat / 16) * 16 + c.toNat % 16 = c.toNat := by omega
  have hread :
      readHex4 ('0' :: '0' :: hexDigit (c.toNat / 16) :: hexDigit (c.toNat % 16) :: s) =
        .ok (c.toNat, s) := by
    simp only [readHex4, hzero, hhigh, hlow, hvalue]
  have hnot : ¬ (0xDC00 ≤ c.toNat) := by omega
  have hbelow : c.toNat < 0xD800 := by omega
  simp [readUnicodeEscape, hread, hnot, hbelow, Char.ofNat_toNat, bind, Except.bind, pure,
    Except.pure]

/-- Reading goes on behind an escape. -/
theorem readCharsWithin_of_readEscape (fuel : Nat) {c : Char} {s s' : List Char}
    (he : readEscape s = .ok (c, s')) :
    readCharsWithin (fuel + 1) ('\\' :: s) =
      (readCharsWithin fuel s').map fun found => (c :: found.1, found.2) := by
  rw [readCharsWithin, if_neg (by decide), if_pos rfl, he]
  simp only [bind, Except.bind]
  cases readCharsWithin fuel s' <;> rfl

/-- A character is read back from its written form inside a string. -/
theorem readCharsWithin_escapeChar (fuel : Nat) (c : Char) (s : List Char) :
    readCharsWithin (fuel + 1) (escapeChar c ++ s) =
      (readCharsWithin fuel s).map fun found => (c :: found.1, found.2) := by
  have ofCode : ∀ n, c.toNat = n → c = Char.ofNat n := by
    intro n hn
    rw [← hn, Char.ofNat_toNat]
  unfold escapeChar
  split_ifs with hquote hbackslash hbackspace htab hnewline hfeed hreturn hcontrol
  · subst hquote
    exact readCharsWithin_of_readEscape fuel rfl
  · subst hbackslash
    exact readCharsWithin_of_readEscape fuel rfl
  · rw [ofCode _ hbackspace]
    exact readCharsWithin_of_readEscape fuel rfl
  · subst htab
    exact readCharsWithin_of_readEscape fuel rfl
  · subst hnewline
    exact readCharsWithin_of_readEscape fuel rfl
  · rw [ofCode _ hfeed]
    exact readCharsWithin_of_readEscape fuel rfl
  · subst hreturn
    exact readCharsWithin_of_readEscape fuel rfl
  · exact readCharsWithin_of_readEscape fuel (readUnicodeEscape_control hcontrol s)
  · -- Every other character stands for itself.
    rw [List.singleton_append, readCharsWithin, if_neg hquote, if_neg hbackslash,
      if_neg hcontrol]
    cases readCharsWithin fuel s <;> rfl

/-- The characters of a string are read back up to the closing quote. -/
theorem readCharsWithin_escape (cs : List Char) {fuel : Nat} (hfuel : cs.length < fuel)
    (rest : List Char) : readCharsWithin fuel (escape cs ++ '"' :: rest) = .ok (cs, rest) := by
  -- Each character takes one step of the bound, and the closing quote one more.
  induction cs generalizing fuel with
  | nil =>
    obtain ⟨fuel, rfl⟩ := Nat.exists_eq_add_of_lt hfuel
    simp [readCharsWithin]
  | cons c cs ih =>
    obtain ⟨fuel, rfl⟩ : ∃ n, fuel = n + 1 := ⟨fuel - 1, by omega⟩
    rw [escape_cons, List.append_assoc, readCharsWithin_escapeChar,
      ih (by simpa using hfuel)]
    rfl

/-- No character is written with fewer than one character. -/
theorem length_le_length_escape (cs : List Char) : cs.length ≤ (escape cs).length := by
  induction cs with
  | nil => exact Nat.le_refl _
  | cons c cs ih =>
    have hc : 1 ≤ (escapeChar c).length := by
      unfold escapeChar
      split_ifs <;> simp
    rw [escape_cons, List.length_append, List.length_cons]
    omega

/-- A string is read back from behind its opening quote. -/
theorem readStringBody_escape (s : String) (rest : List Char) :
    readStringBody (escape s.toList ++ '"' :: rest) = .ok (s, rest) := by
  have hfuel : s.toList.length < (escape s.toList ++ '"' :: rest).length + 1 := by
    have hle := length_le_length_escape s.toList
    rw [List.length_append]
    omega
  rw [readStringBody, readCharsWithin_escape s.toList hfuel]
  simp [bind, Except.bind, pure, Except.pure]

theorem writeString_append (s : String) (rest : List Char) :
    writeString s ++ rest = '"' :: (escape s.toList ++ '"' :: rest) := by
  simp [writeString]

/-- A text comes back as it was, whatever follows the closing quote. -/
theorem readString_writeString (s : String) (rest : List Char) :
    readString (writeString s ++ rest) = .ok (s, rest) := by
  rw [writeString_append, readString, skipBlanks_cons (by decide)]
  exact readStringBody_escape s rest

/-! ## Numbers -/

/-- Whether no number that ends here could have gone on. -/
def EndsNumber (rest : List Char) : Prop :=
  ∀ c ∈ rest.head?, isDigit c = false ∧ c ≠ '.' ∧ c ≠ 'e' ∧ c ≠ 'E'

/-- Whether a text is a row of digits. -/
def IsDigits (t : List Char) : Prop :=
  t ≠ [] ∧ ∀ c ∈ t, isDigit c = true

/-- Whether no row of digits that ends here could have gone on. -/
def EndsDigits (rest : List Char) : Prop :=
  ∀ c ∈ rest.head?, isDigit c = false

theorem EndsNumber.endsDigits {rest : List Char} (hrest : EndsNumber rest) : EndsDigits rest :=
  fun c hc => (hrest c hc).1

/-- Digits are at least one. -/
theorem IsDigits.exists_cons {t : List Char} (ht : IsDigits t) :
    ∃ d ds, t = d :: ds ∧ isDigit d = true ∧ ∀ c ∈ ds, isDigit c = true := by
  obtain ⟨hne, hall⟩ := ht
  obtain ⟨d, ds, rfl⟩ := List.exists_cons_of_ne_nil hne
  exact ⟨d, ds, rfl, List.forall_mem_cons.mp hall⟩

theorem dropWhile_digits {ds : List Char} (hds : ∀ c ∈ ds, isDigit c = true) {rest : List Char}
    (hrest : EndsDigits rest) : (ds ++ rest).dropWhile isDigit = rest := by
  rw [List.dropWhile_append_of_pos hds]
  rcases rest with _ | ⟨c, rest⟩
  · rfl
  · rw [List.dropWhile_cons_of_neg]
    simp [hrest c rfl]

theorem takeWhile_digits {ds : List Char} (hds : ∀ c ∈ ds, isDigit c = true) {rest : List Char}
    (hrest : EndsDigits rest) : (ds ++ rest).takeWhile isDigit = ds := by
  rw [List.takeWhile_append_of_pos hds]
  rcases rest with _ | ⟨c, rest⟩
  · rw [List.takeWhile_nil, List.append_nil]
  · rw [List.takeWhile_cons_of_neg, List.append_nil]
    simp [hrest c rfl]

theorem not_isBlank_of_isDigit {c : Char} (hc : isDigit c = true) : isBlank c = false := by
  rw [← Bool.not_eq_true]
  intro hblank
  simp only [isBlank, Bool.or_eq_true, decide_eq_true_eq] at hblank
  rcases hblank with ((rfl | rfl) | rfl) | rfl <;> simp [isDigit] at hc

/-- Digits that leave none over are a natural number. -/
theorem readNumber_whole {whole rest : List Char} {n taken : Nat} (hwhole : IsDigits whole)
    (hzero : whole.head? = some '0' → whole = ['0']) (htaken : takeWord 0 0 whole = (n, taken, []))
    (hrest : EndsNumber rest) : readNumber true (whole ++ rest) = .ok (.natural n, rest) := by
  unfold readNumber
  simp only [takeWhile_digits hwhole.2 hrest.endsDigits, dropWhile_digits hwhole.2 hrest.endsDigits,
    htaken]
  split
  · exact absurd rfl hwhole.1
  · simp at hzero
  · split
    · exact absurd rfl (hrest '.' rfl).2.1
    · exact absurd rfl (hrest 'e' rfl).2.2.1
    · exact absurd rfl (hrest 'E' rfl).2.2.2
    · rfl

/-- A natural number is taken if it is not too large. -/
theorem readNat_of_natural {c : Char} (hc : isDigit c = true) {s rest : List Char} {n : Nat}
    (hread : readNumber true (c :: s) = .ok (.natural n, rest)) (limit : Nat)
    (expected : String) :
    readNat limit expected (c :: s) =
      if n ≤ limit then .ok (n, rest)
      else .error (.invalidValue (Number.natural n).found expected) := by
  rw [readNat, skipBlanks_cons (not_isBlank_of_isDigit hc)]
  split
  · simp_all
  · simp_all [isDigit]
  · rename_i d r _ hcons
    obtain ⟨rfl, rfl⟩ := List.cons.inj hcons
    rw [if_pos hc, hread]
    rfl

theorem isDigit_digitChar {d : Nat} (hd : d < 10) : isDigit d.digitChar = true := by
  interval_cases d <;> decide

/-- A decimal digit has the value it was written for. -/
theorem digitValue_digitChar {d : Nat} (hd : d < 10) : digitValue d.digitChar = d := by
  interval_cases d <;> decide

theorem isDigit_of_mem_writeNat {n : Nat} {c : Char} (hc : c ∈ writeNat n) : isDigit c = true := by
  induction n using Nat.strongRecOn with
  | ind n ih =>
    rw [writeNat, Nat.toDigits_eq_if (by decide)] at hc
    split at hc
    · rename_i hlt
      rw [List.mem_singleton.mp hc]
      exact isDigit_digitChar hlt
    · rename_i hge
      rcases List.mem_append.mp hc with hbefore | hlast
      · exact ih (n / 10) (by omega) hbefore
      · rw [List.mem_singleton.mp hlast]
        exact isDigit_digitChar (Nat.mod_lt n (by decide))

/-- A number is written with at least one digit, and only zero begins with a zero. -/
theorem writeNat_eq_cons (n : Nat) :
    ∃ c cs, writeNat n = c :: cs ∧ (c = '0' → n = 0 ∧ cs = []) := by
  induction n using Nat.strongRecOn with
  | ind n ih =>
    rw [writeNat, Nat.toDigits_eq_if (by decide)]
    split
    · rename_i hlt
      refine ⟨n.digitChar, [], rfl, fun hzero => ⟨?_, rfl⟩⟩
      have hvalue := digitValue_digitChar hlt
      rw [hzero] at hvalue
      exact hvalue.symm
    · rename_i hge
      obtain ⟨c, cs, hcons, hzero⟩ := ih (n / 10) (by omega)
      rw [writeNat] at hcons
      refine ⟨c, cs ++ [(n % 10).digitChar], by rw [hcons]; rfl, fun hc => ?_⟩
      have hn := (hzero hc).1
      omega

/-- One more digit, if there is room for it. -/
theorem takeWord_snoc {digits : List Char} {value taken v t : Nat}
    (hdigits : takeWord value taken digits = (v, t, [])) {d : Char}
    (hroom : v * 10 + digitValue d ≤ maxWord) :
    takeWord value taken (digits ++ [d]) = (v * 10 + digitValue d, t + 1, []) := by
  induction digits generalizing value taken with
  | nil =>
    obtain ⟨rfl, rfl⟩ : value = v ∧ taken = t := by simpa [takeWord] using hdigits
    rw [List.nil_append, takeWord, if_pos hroom, takeWord]
  | cons c digits ih =>
    rw [takeWord] at hdigits
    split at hdigits
    · rename_i hle
      rw [List.cons_append, takeWord, if_pos hle]
      exact ih hdigits
    · simp at hdigits

/-- The digits of a number of 64 bits are taken all, and their value is the number. -/
theorem takeWord_writeNat {n : Nat} (hn : n ≤ maxWord) :
    ∃ taken, takeWord 0 0 (writeNat n) = (n, taken, []) := by
  induction n using Nat.strongRecOn with
  | ind n ih =>
    rw [writeNat, Nat.toDigits_eq_if (by decide)]
    split
    · rename_i hlt
      refine ⟨1, ?_⟩
      have hvalue := digitValue_digitChar hlt
      rw [takeWord, hvalue, if_pos (by omega), takeWord, Nat.zero_mul, Nat.zero_add]
    · -- The last digit comes off the end, and what is before it is smaller.
      rename_i hge
      obtain ⟨taken, htaken⟩ := ih (n / 10) (by omega) (by omega)
      have hvalue := digitValue_digitChar (Nat.mod_lt n (by decide : 0 < 10))
      have hsplit : n / 10 * 10 + n % 10 = n := by omega
      refine ⟨taken + 1, ?_⟩
      rw [writeNat] at htaken
      rw [takeWord_snoc htaken (by rw [hvalue]; omega), hvalue, hsplit]

/-- A natural number is written in digits. -/
theorem isDigits_writeNat (n : Nat) : IsDigits (writeNat n) := by
  obtain ⟨c, cs, hcons, -⟩ := writeNat_eq_cons n
  exact ⟨by simp [hcons], fun c hc => isDigit_of_mem_writeNat hc⟩

/-- No number but zero is written with a zero in front. -/
theorem writeNat_of_head?_eq_zero {n : Nat} (hzero : (writeNat n).head? = some '0') :
    writeNat n = ['0'] := by
  obtain ⟨c, cs, hcons, honly⟩ := writeNat_eq_cons n
  obtain rfl : c = '0' := by simpa [hcons] using hzero
  rw [hcons, (honly rfl).2]

/-- A number of 64 bits is read back. -/
theorem readNumber_writeNat {n : Nat} (hn : n ≤ maxWord) {rest : List Char}
    (hrest : EndsNumber rest) :
    readNumber true (writeNat n ++ rest) = .ok (.natural n, rest) := by
  obtain ⟨taken, htaken⟩ := takeWord_writeNat hn
  exact readNumber_whole (isDigits_writeNat n) writeNat_of_head?_eq_zero htaken hrest

/-- A number is read back where no greater one than `limit` is wanted. -/
theorem readNat_writeNat {limit n : Nat} (hn : n ≤ limit) (hlimit : limit ≤ maxWord)
    (expected : String) {rest : List Char} (hrest : EndsNumber rest) :
    readNat limit expected (writeNat n ++ rest) = .ok (n, rest) := by
  have hread := readNumber_writeNat (Nat.le_trans hn hlimit) hrest
  obtain ⟨c, cs, hcons, hdigit, -⟩ := (isDigits_writeNat n).exists_cons
  rw [hcons, List.cons_append] at hread ⊢
  rw [readNat_of_natural hdigit hread, if_pos hn]

/-! ## Objects -/

/-- Whether a text goes on as it may behind the value of a member. -/
def EndsMember (rest : List Char) : Prop :=
  rest.head? = some ',' ∨ rest.head? = some '}'

theorem EndsMember.endsNumber {rest : List Char} (hrest : EndsMember rest) : EndsNumber rest := by
  intro c hc
  rcases hrest with hcomma | hbrace
  · obtain rfl := Option.some.inj (hcomma.symm.trans hc)
    decide
  · obtain rfl := Option.some.inj (hbrace.symm.trans hc)
    decide

theorem readColon_colon (s : List Char) : readColon (':' :: s) = .ok s := by
  simp [readColon, skipBlanks_cons, isBlank]

/-- Whether members are read one after another from one state to another. What is read of a member
is the colon and the value, whatever member or end of the object follows. -/
def ReadsMembers {σ : Type} (member : String → σ → List Char → Except Error (σ × List Char)) :
    List (String × List Char) → σ → σ → Prop
  | [], state, last => state = last
  | (key, value) :: members, state, last =>
    ∃ next, (∀ rest, EndsMember rest →
        member key state (':' :: (value ++ rest)) = .ok (next, rest)) ∧
      ReadsMembers member members next last

section Members

variable {σ : Type} {member : String → σ → List Char → Except Error (σ × List Char)}

/-- In front of the first key there is no comma. -/
theorem nextKey_first (s : List Char) : nextKey true ('"' :: s) = .ok (.key s) := by
  simp [nextKey, skipBlanks_cons, isBlank]

/-- In front of every other key there is one. -/
theorem nextKey_comma (s : List Char) : nextKey false (',' :: '"' :: s) = .ok (.key s) := by
  simp [nextKey, skipBlanks_cons, isBlank]

theorem nextKey_end (isFirst : Bool) (s : List Char) :
    nextKey isFirst ('}' :: s) = .ok (.done s) := by
  simp [nextKey, skipBlanks_cons, isBlank]

/-- One member is read from its key on. -/
theorem readMembersWithin_of_nextKey {isFirst : Bool} {s t rest : List Char} {key : String}
    (hkey : nextKey isFirst s = .ok (.key t)) (hname : readStringBody t = .ok (key, rest))
    (fuel : Nat) (state : σ) :
    readMembersWithin member (fuel + 1) isFirst state s =
      (member key state rest).bind fun r => readMembersWithin member fuel false r.1 r.2 := by
  rw [readMembersWithin, hkey]
  simp only [bind, Except.bind, hname]

/-- One member is read from behind the quote of its key. -/
theorem readMembersWithin_of_key {fuel : Nat} {isFirst : Bool} {state next : σ} {key : String}
    {s rest rest' : List Char}
    (hkey : nextKey isFirst s = .ok (.key (escape key.toList ++ '"' :: rest)))
    (hmember : member key state rest = .ok (next, rest')) :
    readMembersWithin member (fuel + 1) isFirst state s =
      readMembersWithin member fuel false next rest' := by
  rw [readMembersWithin_of_nextKey hkey (readStringBody_escape key rest), hmember]
  rfl

/-- Behind a member there is a comma or the brace that ends the object. -/
theorem endsMember_writeMoreMembers (members : List (String × List Char)) (rest : List Char) :
    EndsMember (writeMoreMembers members ++ '}' :: rest) := by
  rcases members with _ | ⟨⟨key, value⟩, members⟩
  · exact Or.inr rfl
  · exact Or.inl rfl

/-- The members behind the first one are read up to the end of the object. -/
theorem readMembersWithin_writeMoreMembers {members : List (String × List Char)} {state last : σ}
    (hreads : ReadsMembers member members state last) {fuel : Nat} (hfuel : members.length < fuel)
    (rest : List Char) :
    readMembersWithin member fuel false state (writeMoreMembers members ++ '}' :: rest) =
      .ok (last, rest) := by
  induction members generalizing state fuel with
  | nil =>
    obtain ⟨fuel, rfl⟩ : ∃ n, fuel = n + 1 := ⟨fuel - 1, by omega⟩
    obtain rfl : state = last := hreads
    rw [writeMoreMembers, List.nil_append, readMembersWithin, nextKey_end]
    rfl
  | cons entry members ih =>
    obtain ⟨key, value⟩ := entry
    obtain ⟨next, hmember, hothers⟩ := hreads
    obtain ⟨fuel, rfl⟩ : ∃ n, fuel = n + 1 := ⟨fuel - 1, by omega⟩
    have htext : writeMoreMembers ((key, value) :: members) ++ '}' :: rest =
        ',' :: '"' :: (escape key.toList ++ '"' ::
          (':' :: (value ++ (writeMoreMembers members ++ '}' :: rest)))) := by
      simp [writeMoreMembers, writeString]
    rw [htext, readMembersWithin_of_key (nextKey_comma _)
      (hmember _ (endsMember_writeMoreMembers members rest))]
    exact ih hothers (by simpa using hfuel)

theorem length_le_length_writeMoreMembers (members : List (String × List Char)) :
    members.length ≤ (writeMoreMembers members).length := by
  induction members with
  | nil => exact Nat.le_refl _
  | cons entry members ih =>
    obtain ⟨key, value⟩ := entry
    simp only [writeMoreMembers, List.length_cons, List.length_append]
    omega

/-- An object is read back, from behind its opening brace. -/
theorem readMembers_writeObject {members : List (String × List Char)} {state last : σ}
    (hreads : ReadsMembers member members state last) (rest : List Char) :
    ∃ s, writeObject members ++ rest = '{' :: s ∧
      readMembers member state s = .ok (last, rest) := by
  rcases members with _ | ⟨⟨key, value⟩, members⟩
  · obtain rfl : state = last := hreads
    refine ⟨'}' :: rest, rfl, ?_⟩
    rw [readMembers, readMembersWithin, nextKey_end]
    rfl
  · obtain ⟨next, hmember, hothers⟩ := hreads
    refine ⟨'"' :: (escape key.toList ++ '"' ::
      (':' :: (value ++ (writeMoreMembers members ++ '}' :: rest)))), ?_, ?_⟩
    · simp [writeObject, writeString]
    · rw [readMembers, readMembersWithin_of_key (nextKey_first _)
        (hmember _ (endsMember_writeMoreMembers members rest))]
      refine readMembersWithin_writeMoreMembers hothers ?_ rest
      have hle := length_le_length_writeMoreMembers members
      simp only [List.length_cons, List.length_append]
      omega

end Members

/-! ## Types that are read back -/

/-- A type whose values are read back from their written forms, where what follows is a comma or the
end of an object. No value is written as null is. -/
class LawfulCodec (α : Type) [Codec α] : Prop where
  read_write : ∀ (a : α) (rest : List Char), EndsMember rest →
    Codec.read (Codec.write a ++ rest) = .ok (a, rest)
  write_eq_cons : ∀ a : α, ∃ c cs, Codec.write a = c :: cs ∧ isBlank c = false ∧ c ≠ 'n'

instance : LawfulCodec String where
  read_write text rest _ := readString_writeString text rest
  write_eq_cons text := ⟨'"', _, rfl, by decide, by decide⟩

instance : LawfulCodec UInt64 where
  read_write n rest hrest := by
    have hn : n.toNat ≤ maxWord := Nat.le_of_lt_succ n.toNat_lt
    have hread := readNat_writeNat hn (Nat.le_refl _) "u64" hrest.endsNumber
    simp only [Codec.read, Codec.write, hread, bind, Except.bind, pure, Except.pure,
      UInt64.ofNat_toNat]
  write_eq_cons n := by
    obtain ⟨c, cs, hcons, -⟩ := writeNat_eq_cons n.toNat
    have hdigit : isDigit c = true := isDigit_of_mem_writeNat (n := n.toNat) (by simp [hcons])
    refine ⟨c, cs, hcons, not_isBlank_of_isDigit hdigit, ?_⟩
    rintro rfl
    simp [isDigit] at hdigit

section Optional

variable {α : Type} [Codec α] [LawfulCodec α]

/-- The written form of a value or of its absence. -/
def writeOptional : Option α → List Char
  | none => writeNull
  | some a => Codec.write a

/-- A value that may be absent comes back, be it there or not. -/
theorem readOptional_writeOptional (a : Option α) {rest : List Char} (hrest : EndsMember rest) :
    readOptional Codec.read (writeOptional a ++ rest) = .ok (a, rest) := by
  rcases a with _ | a
  · simp [writeOptional, writeNull, readOptional, skipBlanks_cons, isBlank, readWord, bind,
      Except.bind, pure, Except.pure]
  · have hread := LawfulCodec.read_write a rest hrest
    obtain ⟨c, cs, hcons, hblank, hn⟩ := LawfulCodec.write_eq_cons a
    rw [writeOptional, readOptional, hcons, List.cons_append, skipBlanks_cons hblank]
    rw [hcons, List.cons_append] at hread
    split
    · rename_i r hnull
      exact absurd (List.cons.inj hnull).1 hn
    · simp only [hread, bind, Except.bind, pure, Except.pure]

end Optional

end PathWatch.Json
