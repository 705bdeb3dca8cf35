import Mathlib
import PathWatch.Json.Skip
import PathWatch.Proofs.Json.Written
/-!
# The texts of JSON values

What a JSON text may look like is said here without a reader: with any blanks between its tokens,
any spelling of its strings and numbers, and nested however deeply. Every such text is passed over
as a whole, whatever follows it.
-/

namespace PathWatch.Json

open Text (isDigit hexValue?)

/-! ## Blanks -/

/-- Blanks between tokens. -/
abbrev Blanks := { b : List Char // ∀ c ∈ b, isBlank c = true }

/-- No blanks. -/
def Blanks.none : Blanks := ⟨[], by simp⟩

/-- A text between blanks. -/
structure Spaced where
  before : Blanks
  core : List Char
  after : Blanks

/-- The text with its blanks. -/
def Spaced.text (t : Spaced) : List Char :=
  t.before.val ++ t.core ++ t.after.val

/-- Texts with commas between them. -/
def separated : List (List Char) → List Char
  | [] => []
  | t :: ts => t ++ ts.flatMap fun t => ',' :: t

theorem separated_cons_cons (t u : List Char) (ts : List (List Char)) :
    separated (t :: u :: ts) = t ++ ',' :: separated (u :: ts) := by
  simp [separated]

/-- Blanks in front of a text are skipped like those the text starts with. -/
@[simp] theorem skipBlanks_blanks (b : Blanks) (s : List Char) :
    skipBlanks (b.val ++ s) = skipBlanks s :=
  List.dropWhile_append_of_pos b.property

@[simp] theorem skipBlanks_skipBlanks (s : List Char) :
    skipBlanks (skipBlanks s) = skipBlanks s :=
  List.dropWhile_idempotent isBlank s

/-- A reader that passes over blanks finds a text between blanks. -/
theorem Spaced.read_text {β : Type} {read : List Char → β}
    (hblanks : ∀ s, read (skipBlanks s) = read s) (t : Spaced) (rest : List Char) :
    read (t.text ++ rest) = read (t.core ++ (t.after.val ++ rest)) := by
  rw [Spaced.text, List.append_assoc, List.append_assoc, ← hblanks, skipBlanks_blanks, hblanks]

/-- A number that ends in front of blanks ends in front of what follows them or of a blank. -/
theorem EndsNumber.blanks {rest : List Char} (hrest : EndsNumber rest) (b : Blanks) :
    EndsNumber (b.val ++ rest) := by
  obtain ⟨_ | ⟨c, b⟩, hb⟩ := b
  · exact hrest
  · intro d hd
    obtain rfl : c = d := by simpa using hd
    have hblank : isBlank c = true := hb c (by simp)
    simp only [isBlank, Bool.or_eq_true, decide_eq_true_eq] at hblank
    rcases hblank with ((rfl | rfl) | rfl) | rfl <;> decide

theorem endsNumber_cons {c : Char} (hc : c = ',' ∨ c = ']' ∨ c = '}') (rest : List Char) :
    EndsNumber (c :: rest) := by
  intro d hd
  obtain rfl : c = d := by simpa using hd
  rcases hc with rfl | rfl | rfl <;> decide

/-! ## Strings -/

/-- Whether a text is four hexadecimal digits that stand for a number. -/
inductive IsHex4 : List Char → Nat → Prop where
  | digits {a b c d : Char} {w x y z : Nat} (ha : hexValue? a = some w) (hb : hexValue? b = some x)
      (hc : hexValue? c = some y) (hd : hexValue? d = some z) :
      IsHex4 [a, b, c, d] (((w * 16 + x) * 16 + y) * 16 + z)

/-- Four hexadecimal digits are read as their number, whatever follows. -/
theorem readHex4_of_isHex4 {t : List Char} {n : Nat} (ht : IsHex4 t n) (rest : List Char) :
    readHex4 (t ++ rest) = .ok (n, rest) := by
  obtain ⟨ha, hb, hc, hd⟩ := ht
  simp [readHex4, ha, hb, hc, hd]

/-- Whether a text is one character of a string or one escape. -/
inductive IsPiece : List Char → Prop where
  | plain {c : Char} (hquote : c ≠ '"') (hbackslash : c ≠ '\\') (hcontrol : 0x20 ≤ c.toNat) :
      IsPiece [c]
  | short {c : Char} (hc : c ∈ ['"', '\\', '/', 'b', 'f', 'n', 'r', 't']) : IsPiece ['\\', c]
  | code {t : List Char} {n : Nat} (ht : IsHex4 t n) : IsPiece ('\\' :: 'u' :: t)

/-- Whether a text may stand between the quotes of a string. Half of a surrogate pair may stand
alone. -/
def IsStringBody (t : List Char) : Prop :=
  ∃ pieces : List (List Char), (∀ p ∈ pieces, IsPiece p) ∧ t = pieces.flatten

theorem IsPiece.ne_nil {p : List Char} (hp : IsPiece p) : p ≠ [] := by
  cases hp <;> simp

/-- Each piece is passed over in one step. -/
theorem skipCharsWithin_of_isPiece {p : List Char} (hp : IsPiece p) (fuel : Nat)
    (s : List Char) : skipCharsWithin (fuel + 1) (p ++ s) = skipCharsWithin fuel s := by
  cases hp with
  | plain hquote hbackslash hcontrol =>
    rw [List.singleton_append, skipCharsWithin, if_neg hquote, if_neg hbackslash,
      if_neg (Nat.not_lt.mpr hcontrol)]
  | short hc =>
    have hescape : ∀ c ∈ ['"', '\\', '/', 'b', 'f', 'n', 'r', 't'],
        skipEscape (c :: s) = .ok s := by
      simp [skipEscape]
    rw [List.cons_append, List.singleton_append, skipCharsWithin, if_neg (by decide), if_pos rfl,
      hescape _ hc]
    rfl
  | code ht =>
    have hescape : ∀ t n, IsHex4 t n → skipEscape ('u' :: (t ++ s)) = .ok s := by
      intro t n ht
      rw [skipEscape, readHex4_of_isHex4 ht]
      rfl
    rw [List.cons_append, List.cons_append, skipCharsWithin, if_neg (by decide), if_pos rfl,
      hescape _ _ ht]
    rfl

/-- A string is passed over from behind its opening quote. -/
theorem skipStringBody_of_isStringBody {t : List Char} (ht : IsStringBody t) (rest : List Char) :
    skipStringBody (t ++ '"' :: rest) = .ok rest := by
  obtain ⟨pieces, hpieces, rfl⟩ := ht
  -- Every piece takes one step of the bound and at least one character.
  have run : ∀ fuel, pieces.flatten.length < fuel →
      skipCharsWithin fuel (pieces.flatten ++ '"' :: rest) = .ok rest := by
    induction pieces with
    | nil =>
      intro fuel hfuel
      obtain ⟨fuel, rfl⟩ : ∃ n, fuel = n + 1 := ⟨fuel - 1, by omega⟩
      rw [List.flatten_nil, List.nil_append, skipCharsWithin, if_pos rfl]
    | cons p pieces ih =>
      intro fuel hfuel
      obtain ⟨hp, hothers⟩ := List.forall_mem_cons.mp hpieces
      have hlength := List.length_pos_iff.mpr hp.ne_nil
      rw [List.flatten_cons, List.length_append] at hfuel
      obtain ⟨fuel, rfl⟩ : ∃ n, fuel = n + 1 := ⟨fuel - 1, by omega⟩
      rw [List.flatten_cons, List.append_assoc, skipCharsWithin_of_isPiece hp]
      exact ih hothers fuel (by omega)
  refine run _ ?_
  rw [List.length_append]
  omega

/-! ## Numbers -/

/-- Whether a text is the fraction of a number, or nothing. -/
def IsFraction (t : List Char) : Prop :=
  t = [] ∨ ∃ digits, IsDigits digits ∧ t = '.' :: digits

/-- Whether a text is the exponent of a number, or nothing. -/
def IsExponent (t : List Char) : Prop :=
  t = [] ∨ ∃ letter sign digits, (letter = 'e' ∨ letter = 'E') ∧
    (sign = [] ∨ sign = ['+'] ∨ sign = ['-']) ∧ IsDigits digits ∧ t = letter :: (sign ++ digits)

/-- Whether a text is that of a number. Only a zero alone begins with a zero. -/
inductive IsNumber : List Char → Prop where
  | parts {sign whole fraction exponent : List Char} (hsign : sign = [] ∨ sign = ['-'])
      (hwhole : IsDigits whole) (hzero : whole.head? = some '0' → whole = ['0'])
      (hfraction : IsFraction fraction) (hexponent : IsExponent exponent) :
      IsNumber (sign ++ (whole ++ (fraction ++ exponent)))

/-- An exponent is passed over from behind its letter. -/
theorem skipExponent_of_isDigits {sign digits : List Char}
    (hsign : sign = [] ∨ sign = ['+'] ∨ sign = ['-']) (hdigits : IsDigits digits)
    {rest : List Char} (hrest : EndsDigits rest) :
    skipExponent (sign ++ digits ++ rest) = .ok rest := by
  obtain ⟨d, ds, rfl, hd, hds⟩ := hdigits.exists_cons
  have hbehind := dropWhile_digits hds hrest
  rcases hsign with rfl | rfl | rfl
  · have hplus : d ≠ '+' := by
      rintro rfl
      simp [isDigit] at hd
    have hminus : d ≠ '-' := by
      rintro rfl
      simp [isDigit] at hd
    simp [skipExponent, hplus, hminus, hd, hbehind]
  · simp [skipExponent, hd, hbehind]
  · simp [skipExponent, hd, hbehind]

/-- An exponent, or what follows the number, ends the digits before it. -/
theorem IsExponent.endsDigits {exponent : List Char} (hexponent : IsExponent exponent)
    {rest : List Char} (hrest : EndsNumber rest) : EndsDigits (exponent ++ rest) := by
  rcases hexponent with rfl | ⟨letter, sign, digits, hletter, -, -, rfl⟩
  · exact hrest.endsDigits
  · intro c hc
    obtain rfl : letter = c := by simpa using hc
    rcases hletter with rfl | rfl <;> rfl

/-- So does a fraction. -/
theorem IsFraction.endsDigits {fraction : List Char} (hfraction : IsFraction fraction)
    {rest : List Char} (hrest : EndsDigits rest) : EndsDigits (fraction ++ rest) := by
  rcases hfraction with rfl | ⟨digits, -, rfl⟩
  · exact hrest
  · intro c hc
    obtain rfl : '.' = c := by simpa using hc
    rfl

/-- A fraction is passed over from behind its point, together with the exponent behind it. -/
theorem skipFraction_of_isDigits {digits exponent : List Char} (hdigits : IsDigits digits)
    (hexponent : IsExponent exponent) {rest : List Char} (hrest : EndsNumber rest) :
    skipFraction (digits ++ (exponent ++ rest)) = .ok rest := by
  obtain ⟨d, ds, rfl, hd, hds⟩ := hdigits.exists_cons
  simp only [List.cons_append, skipFraction, hd, Bool.not_true, Bool.false_eq_true, if_false,
    dropWhile_digits hds (hexponent.endsDigits hrest)]
  rcases hexponent with rfl | ⟨letter, sign, digits, hletter, hsign, hdigits, rfl⟩
  · rw [List.nil_append]
    split
    · exact absurd rfl (hrest 'e' rfl).2.2.1
    · exact absurd rfl (hrest 'E' rfl).2.2.2
    · rfl
  · have hskip := skipExponent_of_isDigits hsign hdigits hrest.endsDigits
    rcases hletter with rfl | rfl <;> exact hskip

/-- Passes over what is left of a number behind its whole part. -/
def skipTail : List Char → Except Error (List Char)
  | '.' :: r => skipFraction r
  | 'e' :: r => skipExponent r
  | 'E' :: r => skipExponent r
  | r => .ok r

/-- The digits of a number are skipped up to its fraction or exponent. -/
theorem skipNumber_of_isDigits {whole tail : List Char} (hwhole : IsDigits whole)
    (hzero : whole.head? = some '0' → whole = ['0']) (htail : EndsDigits tail) :
    skipNumber (whole ++ tail) = skipTail tail := by
  obtain ⟨d, ds, rfl, -, -⟩ := hwhole.exists_cons
  unfold skipNumber skipTail
  simp only [takeWhile_digits hwhole.2 htail, dropWhile_digits hwhole.2 htail]
  rcases ds with _ | ⟨c, ds⟩
  · split <;> split <;> grind
  · have hd : d ≠ '0' := by
      rintro rfl
      simp at hzero
    split <;> split <;> grind

/-- A fraction and an exponent are passed over behind the whole part, if they are there. -/
theorem skipTail_of_parts {fraction exponent : List Char} (hfraction : IsFraction fraction)
    (hexponent : IsExponent exponent) {rest : List Char} (hrest : EndsNumber rest) :
    skipTail (fraction ++ (exponent ++ rest)) = .ok rest := by
  rcases hfraction with rfl | ⟨digits, hdigits, rfl⟩
  · rcases hexponent with rfl | ⟨letter, sign, digits, hletter, hsign, hdigits, rfl⟩
    · rw [List.nil_append, List.nil_append]
      unfold skipTail
      split
      · exact absurd rfl (hrest '.' rfl).2.1
      · exact absurd rfl (hrest 'e' rfl).2.2.1
      · exact absurd rfl (hrest 'E' rfl).2.2.2
      · rfl
    · have hskip := skipExponent_of_isDigits hsign hdigits hrest.endsDigits
      rcases hletter with rfl | rfl <;> exact hskip
  · exact skipFraction_of_isDigits hdigits hexponent hrest

/-- A number is passed over from behind its sign. -/
theorem skipNumber_of_parts {whole fraction exponent : List Char} (hwhole : IsDigits whole)
    (hzero : whole.head? = some '0' → whole = ['0']) (hfraction : IsFraction fraction)
    (hexponent : IsExponent exponent) {rest : List Char} (hrest : EndsNumber rest) :
    skipNumber (whole ++ (fraction ++ (exponent ++ rest))) = .ok rest := by
  have hends : EndsDigits (fraction ++ (exponent ++ rest)) :=
    hfraction.endsDigits (hexponent.endsDigits hrest)
  rw [skipNumber_of_isDigits hwhole hzero hends, skipTail_of_parts hfraction hexponent hrest]

/-! ## Values -/

/-- A member of an object: its key as it stands between the quotes, and its value. -/
structure Member where
  beforeKey : Blanks
  key : List Char
  afterKey : Blanks
  value : Spaced

namespace Member

/-- The text behind the key of a member. -/
def behindKey (m : Member) : List Char :=
  m.afterKey.val ++ ':' :: m.value.text

/-- The text of a member. -/
def text (m : Member) : List Char :=
  m.beforeKey.val ++ '"' :: (m.key ++ '"' :: m.behindKey)

end Member

/-- Whether a text is that of a JSON value. -/
inductive IsValue : List Char → Prop where
  | word {w : List Char} (hw : w ∈ [writeNull, writeBool true, writeBool false]) : IsValue w
  | number {t : List Char} (ht : IsNumber t) : IsValue t
  | string {t : List Char} (ht : IsStringBody t) : IsValue ('"' :: (t ++ ['"']))
  | list (b : Blanks) {elements : List Spaced} (helements : ∀ e ∈ elements, IsValue e.core) :
      IsValue ('[' :: (b.val ++ (separated (elements.map Spaced.text) ++ [']'])))
  | object (b : Blanks) {members : List Member} (hkeys : ∀ m ∈ members, IsStringBody m.key)
      (hvalues : ∀ m ∈ members, IsValue m.value.core) :
      IsValue ('{' :: (b.val ++ (separated (members.map Member.text) ++ ['}'])))

/-- A written number is a value of the grammar. -/
theorem isValue_writeNat (n : Nat) : IsValue (writeNat n) := by
  have hnumber :=
    IsNumber.parts (.inl rfl) (isDigits_writeNat n) writeNat_of_head?_eq_zero (.inl rfl) (.inl rfl)
  simpa using IsValue.number hnumber

/-- So is a written truth value. -/
theorem isValue_writeBool (b : Bool) : IsValue (writeBool b) :=
  .word (by cases b <;> simp)

/-- Whether a text is passed over, whatever follows that cannot be a part of it. -/
def Skips (t : List Char) : Prop :=
  ∀ fuel rest, t.length ≤ fuel → EndsNumber rest → skipValueWithin fuel (t ++ rest) = .ok rest

theorem skipValueWithin_skipBlanks (fuel : Nat) (s : List Char) :
    skipValueWithin fuel (skipBlanks s) = skipValueWithin fuel s := by
  rcases fuel with _ | fuel
  · rfl
  · rw [skipValueWithin, skipValueWithin, skipBlanks_skipBlanks]

theorem skipElementsWithin_skipBlanks (fuel : Nat) (s : List Char) :
    skipElementsWithin fuel (skipBlanks s) = skipElementsWithin fuel s := by
  rcases fuel with _ | fuel
  · rfl
  · rw [skipElementsWithin, skipElementsWithin, skipValueWithin_skipBlanks]

theorem skipMembersWithin_skipBlanks (fuel : Nat) (s : List Char) :
    skipMembersWithin fuel (skipBlanks s) = skipMembersWithin fuel s := by
  rcases fuel with _ | fuel
  · rfl
  · rw [skipMembersWithin, skipMembersWithin, skipBlanks_skipBlanks]

/-- A value is passed over with the blanks in front of it; those behind it are left. -/
theorem Skips.spaced {t : Spaced} (ht : Skips t.core) {fuel : Nat} (hfuel : t.core.length ≤ fuel)
    {rest : List Char} (hrest : EndsNumber rest) :
    skipValueWithin fuel (t.text ++ rest) = .ok (t.after.val ++ rest) := by
  rw [Spaced.read_text (skipValueWithin_skipBlanks fuel)]
  exact ht fuel _ hfuel (hrest.blanks t.after)

/-- Without the blanks around it a value is no longer. -/
theorem length_core_le (t : Spaced) : t.core.length ≤ t.text.length := by
  simp only [Spaced.text, List.length_append]
  omega

/-- The elements of a list are passed over, from one of them on. -/
theorem skipElementsWithin_of_skips {e : Spaced} {elements : List Spaced}
    (helements : ∀ x ∈ e :: elements, Skips x.core) {fuel : Nat}
    (hfuel : (separated ((e :: elements).map Spaced.text)).length < fuel) (rest : List Char) :
    skipElementsWithin fuel (separated ((e :: elements).map Spaced.text) ++ ']' :: rest) =
      .ok rest := by
  -- Each element takes one step of the bound, and what is left is enough for its own text.
  induction elements generalizing e fuel with
  | nil =>
    obtain ⟨fuel, rfl⟩ : ∃ n, fuel = n + 1 := ⟨fuel - 1, by omega⟩
    simp only [List.map_cons, List.map_nil, separated, List.flatMap_nil, List.append_nil]
      at hfuel ⊢
    have hlength := length_core_le e
    have hends : EndsNumber (']' :: rest) := endsNumber_cons (by simp) rest
    rw [skipElementsWithin, (helements e (by simp)).spaced (by omega) hends]
    simp [bind, Except.bind, skipBlanks_cons, isBlank]
  | cons e' elements ih =>
    obtain ⟨fuel, rfl⟩ : ∃ n, fuel = n + 1 := ⟨fuel - 1, by omega⟩
    obtain ⟨he, hothers⟩ := List.forall_mem_cons.mp helements
    rw [List.map_cons, List.map_cons, separated_cons_cons, ← List.map_cons] at hfuel ⊢
    simp only [List.length_append, List.length_cons] at hfuel
    have hlength := length_core_le e
    have hends :
        EndsNumber (',' :: (separated ((e' :: elements).map Spaced.text) ++ ']' :: rest)) :=
      endsNumber_cons (by simp) _
    rw [List.append_assoc, List.cons_append, skipElementsWithin, he.spaced (by omega) hends]
    simp only [bind, Except.bind, skipBlanks_blanks,
      skipBlanks_cons (show isBlank ',' = false by rfl)]
    exact ih hothers (by omega)

theorem readColon_behindKey (m : Member) (rest : List Char) :
    readColon (m.behindKey ++ rest) = .ok (m.value.text ++ rest) := by
  rw [Member.behindKey, List.append_assoc, List.cons_append, readColon, skipBlanks_blanks,
    skipBlanks_cons (by rfl)]
  rfl

/-- The value of a member is shorter than the member, by which the fuel of the scanner is enough. -/
theorem length_value_lt (m : Member) : m.value.core.length < m.text.length := by
  have hlength := length_core_le m.value
  simp only [Member.text, Member.behindKey, List.length_append, List.length_cons]
  omega

/-- Goes on behind a member of an object that has been passed over. -/
def skipMoreMembersWithin (fuel : Nat) (s : List Char) : Except Error (List Char) :=
  match skipBlanks s with
  | [] => .error .eofInObject
  | '}' :: r => .ok r
  | ',' :: r => skipMembersWithin fuel r
  | _ => .error .expectedObjectCommaOrEnd

theorem skipMoreMembersWithin_end (fuel : Nat) (rest : List Char) :
    skipMoreMembersWithin fuel ('}' :: rest) = .ok rest := by
  rw [skipMoreMembersWithin, skipBlanks_cons (by rfl)]
  rfl

theorem skipMoreMembersWithin_comma (fuel : Nat) (rest : List Char) :
    skipMoreMembersWithin fuel (',' :: rest) = skipMembersWithin fuel rest := by
  rw [skipMoreMembersWithin, skipBlanks_cons (by rfl)]
  rfl

/-- One member is passed over together with the blanks behind it. -/
theorem skipMembersWithin_of_member {m : Member} (hkey : IsStringBody m.key)
    (hvalue : Skips m.value.core) {fuel : Nat} (hfuel : m.value.core.length ≤ fuel)
    {rest : List Char} (hrest : EndsNumber rest) :
    skipMembersWithin (fuel + 1) (m.text ++ rest) = skipMoreMembersWithin fuel rest := by
  have htext : m.text ++ rest =
      m.beforeKey.val ++ '"' :: (m.key ++ '"' :: (m.behindKey ++ rest)) := by
    simp [Member.text]
  rw [htext, skipMembersWithin, skipBlanks_blanks, skipBlanks_cons (by rfl)]
  simp only [bind, Except.bind, skipStringBody_of_isStringBody hkey, readColon_behindKey,
    hvalue.spaced hfuel hrest, skipBlanks_blanks]
  rfl

/-- The members of an object are passed over, from one of them on. -/
theorem skipMembersWithin_of_skips {m : Member} {members : List Member}
    (hkeys : ∀ x ∈ m :: members, IsStringBody x.key)
    (hvalues : ∀ x ∈ m :: members, Skips x.value.core) {fuel : Nat}
    (hfuel : (separated ((m :: members).map Member.text)).length < fuel) (rest : List Char) :
    skipMembersWithin fuel (separated ((m :: members).map Member.text) ++ '}' :: rest) =
      .ok rest := by
  induction members generalizing m fuel with
  | nil =>
    obtain ⟨fuel, rfl⟩ : ∃ n, fuel = n + 1 := ⟨fuel - 1, by omega⟩
    simp only [List.map_cons, List.map_nil, separated, List.flatMap_nil, List.append_nil]
      at hfuel ⊢
    have hlength := length_value_lt m
    have hends : EndsNumber ('}' :: rest) := endsNumber_cons (by simp) rest
    rw [skipMembersWithin_of_member (hkeys m (by simp)) (hvalues m (by simp)) (by omega) hends,
      skipMoreMembersWithin_end]
  | cons m' members ih =>
    obtain ⟨fuel, rfl⟩ : ∃ n, fuel = n + 1 := ⟨fuel - 1, by omega⟩
    obtain ⟨hkey, hotherKeys⟩ := List.forall_mem_cons.mp hkeys
    obtain ⟨hvalue, hotherValues⟩ := List.forall_mem_cons.mp hvalues
    rw [List.map_cons, List.map_cons, separated_cons_cons, ← List.map_cons] at hfuel ⊢
    simp only [List.length_append, List.length_cons] at hfuel
    have hlength := length_value_lt m
    have hends : EndsNumber (',' :: (separated ((m' :: members).map Member.text) ++ '}' :: rest)) :=
      endsNumber_cons (by simp) _
    rw [List.append_assoc, List.cons_append,
      skipMembersWithin_of_member hkey hvalue (by omega) hends, skipMoreMembersWithin_comma]
    exact ih hotherKeys hotherValues (by omega)

theorem skipValueWithin_of_isDigit {c : Char} (hc : isDigit c = true) (fuel : Nat)
    (s : List Char) : skipValueWithin (fuel + 1) (c :: s) = skipNumber (c :: s) := by
  rw [skipValueWithin, skipBlanks_cons (not_isBlank_of_isDigit hc)]
  split <;> simp_all [isDigit]

/-- No element begins with the end of the text or of the list. -/
theorem skipElementsWithin_ne_ok {s : List Char} (hs : s = [] ∨ ∃ r, s = ']' :: r) (fuel : Nat)
    (rest : List Char) : skipElementsWithin fuel s ≠ .ok rest := by
  rcases fuel with _ | _ | fuel
  · simp [skipElementsWithin]
  · simp [skipElementsWithin, skipValueWithin, bind, Except.bind]
  · rcases hs with rfl | ⟨r, rfl⟩
    · simp [skipElementsWithin, skipValueWithin, skipBlanks, bind, Except.bind]
    · simp [skipElementsWithin, skipValueWithin, skipBlanks_cons, isBlank, isDigit, bind,
        Except.bind]

/-- A list whose elements are passed over is passed over. -/
theorem skipValueWithin_list {fuel : Nat} {s rest : List Char}
    (hs : skipElementsWithin fuel s = .ok rest) :
    skipValueWithin (fuel + 1) ('[' :: s) = .ok rest := by
  rw [← skipElementsWithin_skipBlanks] at hs
  simp only [skipValueWithin, skipBlanks_cons (show isBlank '[' = false by rfl)]
  split
  · rename_i hnil
    exact absurd hs (skipElementsWithin_ne_ok (.inl hnil) fuel rest)
  · rename_i r hend
    exact absurd hs (skipElementsWithin_ne_ok (.inr ⟨r, hend⟩) fuel rest)
  · exact hs

/-- No member begins with the end of the text or of the object. -/
theorem skipMembersWithin_ne_ok {s : List Char} (hs : s = [] ∨ ∃ r, s = '}' :: r) (fuel : Nat)
    (rest : List Char) : skipMembersWithin fuel s ≠ .ok rest := by
  rcases fuel with _ | fuel
  · simp [skipMembersWithin]
  · rcases hs with rfl | ⟨r, rfl⟩
    · simp [skipMembersWithin, skipBlanks]
    · simp [skipMembersWithin, skipBlanks_cons, isBlank]

/-- An object whose members are passed over is passed over. -/
theorem skipValueWithin_object {fuel : Nat} {s rest : List Char}
    (hs : skipMembersWithin fuel s = .ok rest) :
    skipValueWithin (fuel + 1) ('{' :: s) = .ok rest := by
  rw [← skipMembersWithin_skipBlanks] at hs
  simp only [skipValueWithin, skipBlanks_cons (show isBlank '{' = false by rfl)]
  split
  · rename_i hnil
    exact absurd hs (skipMembersWithin_ne_ok (.inl hnil) fuel rest)
  · rename_i r hend
    exact absurd hs (skipMembersWithin_ne_ok (.inr ⟨r, hend⟩) fuel rest)
  · exact hs

/-- A number is skipped as a whole. -/
theorem IsNumber.skips {t : List Char} (ht : IsNumber t) : Skips t := by
  intro fuel rest hfuel hrest
  obtain ⟨hsign, hwhole, hzero, hfraction, hexponent⟩ := ht
  obtain ⟨d, ds, hcons, hd, -⟩ := hwhole.exists_cons
  have hskip := skipNumber_of_parts hwhole hzero hfraction hexponent hrest
  obtain ⟨fuel, rfl⟩ : ∃ n, fuel = n + 1 := ⟨fuel - 1, by grind⟩
  simp only [List.append_assoc]
  rcases hsign with rfl | rfl
  · rw [hcons] at hskip ⊢
    exact (skipValueWithin_of_isDigit hd fuel _).trans hskip
  · rw [List.cons_append, skipValueWithin, skipBlanks_cons (by rfl)]
    exact hskip

/-- Every value is passed over. -/
theorem IsValue.skips {t : List Char} (ht : IsValue t) : Skips t := by
  induction ht with
  | @word w hw =>
    intro fuel rest hfuel hrest
    have hword : ∀ w ∈ [writeNull, writeBool true, writeBool false],
        skipValueWithin (fuel - 1 + 1) (w ++ rest) = .ok rest := by
      simp [writeNull, writeBool, skipValueWithin, skipBlanks_cons, isBlank, readWord]
    have hlength : 0 < w.length := by
      fin_cases hw <;> decide
    obtain ⟨fuel, rfl⟩ : ∃ n, fuel = n + 1 := ⟨fuel - 1, by omega⟩
    exact hword w hw
  | number ht => exact ht.skips
  | string ht =>
    intro fuel rest hfuel hrest
    obtain ⟨fuel, rfl⟩ : ∃ n, fuel = n + 1 := ⟨fuel - 1, by simp at hfuel; omega⟩
    simp only [List.cons_append, List.append_assoc, List.nil_append]
    rw [skipValueWithin, skipBlanks_cons (by rfl)]
    exact skipStringBody_of_isStringBody ht rest
  | @list b elements helements ih =>
    intro fuel rest hfuel hrest
    obtain ⟨fuel, rfl⟩ : ∃ n, fuel = n + 1 := ⟨fuel - 1, by simp at hfuel; omega⟩
    simp only [List.cons_append, List.append_assoc, List.nil_append]
    rcases elements with _ | ⟨e, elements⟩
    · simp [skipValueWithin, separated, skipBlanks_cons, isBlank]
    · refine skipValueWithin_list ?_
      rw [← skipElementsWithin_skipBlanks, skipBlanks_blanks, skipElementsWithin_skipBlanks]
      refine skipElementsWithin_of_skips ih ?_ rest
      simp only [List.length_cons, List.length_append] at hfuel
      omega
  | @object b members hkeys hvalues ih =>
    intro fuel rest hfuel hrest
    obtain ⟨fuel, rfl⟩ : ∃ n, fuel = n + 1 := ⟨fuel - 1, by simp at hfuel; omega⟩
    simp only [List.cons_append, List.append_assoc, List.nil_append]
    rcases members with _ | ⟨m, members⟩
    · simp [skipValueWithin, separated, skipBlanks_cons, isBlank]
    · refine skipValueWithin_object ?_
      rw [← skipMembersWithin_skipBlanks, skipBlanks_blanks, skipMembersWithin_skipBlanks]
      refine skipMembersWithin_of_skips hkeys ih ?_ rest
      simp only [List.length_cons, List.length_append] at hfuel
      omega

/-- A value between blanks is passed over, but for the blanks behind it. -/
theorem IsValue.skipValue_text {t : Spaced} (ht : IsValue t.core) {rest : List Char}
    (hrest : EndsNumber rest) : skipValue (t.text ++ rest) = .ok (t.after.val ++ rest) := by
  have hlength := length_core_le t
  refine ht.skips.spaced ?_ hrest
  rw [List.length_append]
  omega

end PathWatch.Json
