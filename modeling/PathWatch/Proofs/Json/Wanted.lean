import Mathlib
import PathWatch.Proofs.Json.Grammar
/-!
# Values of a wanted type

A reader of numbers or of truth values is put in front of a JSON value of any type. It either takes
the whole value, whatever follows, or refuses it, whatever follows. It never takes a part of it.
-/

namespace PathWatch.Json

open Text (isDigit)

/-- Whether a reader takes a text as a whole or refuses it, whatever follows that cannot be a part
of it. -/
def Settles {α : Type} (read : List Char → Except Error (α × List Char)) (t : List Char) : Prop :=
  (∃ a, ∀ rest, EndsNumber rest → read (t ++ rest) = .ok (a, rest)) ∨
    ∀ rest, EndsNumber rest → ∃ e, read (t ++ rest) = .error e

theorem bind_error {α β : Type} (x : Except Error α) (e : α → Error) :
    ∃ e', (x >>= fun a => (.error (e a) : Except Error β)) = .error e' := by
  cases x with
  | error e' => exact ⟨e', rfl⟩
  | ok a => exact ⟨e a, rfl⟩

/-- A value of another type is an error, also where it is none. -/
theorem unexpected_eq_error {α : Type} (expected : String) (s : List Char) :
    ∃ e, unexpected (α := α) expected s = .error e := by
  unfold unexpected
  split
  · exact bind_error _ _
  · exact bind_error _ _
  · exact bind_error _ _
  · exact bind_error _ _
  · exact bind_error _ _
  · exact ⟨_, rfl⟩
  · exact ⟨_, rfl⟩
  · split
    · exact bind_error _ _
    · exact ⟨_, rfl⟩
  · exact ⟨_, rfl⟩

/-- A number begins with its sign or a digit. -/
theorem IsNumber.exists_cons {t : List Char} (ht : IsNumber t) :
    ∃ c s, t = c :: s ∧ (c = '-' ∨ isDigit c = true) := by
  obtain ⟨rfl | rfl, hwhole, -, -, -⟩ := ht
  · obtain ⟨d, ds, rfl, hd, -⟩ := hwhole.exists_cons
    exact ⟨d, _, rfl, .inr hd⟩
  · exact ⟨'-', _, rfl, .inl rfl⟩

/-! ## Truth values -/

theorem readBool_skipBlanks (s : List Char) : readBool (skipBlanks s) = readBool s := by
  rw [readBool, readBool, skipBlanks_skipBlanks]

theorem readBool_writeBool (b : Bool) (rest : List Char) :
    readBool (writeBool b ++ rest) = .ok (b, rest) := by
  cases b <;>
    simp [readBool, writeBool, skipBlanks_cons, isBlank, readWord, bind, Except.bind, pure,
      Except.pure]

/-- What begins like no truth value is refused. -/
theorem readBool_eq_error {c : Char} (hblank : isBlank c = false) (ht : c ≠ 't') (hf : c ≠ 'f')
    (s : List Char) : ∃ e, readBool (c :: s) = .error e := by
  rw [readBool, skipBlanks_cons hblank]
  split
  · simp_all
  · simp_all
  · simp_all
  · exact unexpected_eq_error _ _

/-- Of all values, only the truth values are taken. -/
theorem IsValue.settles_readBool {t : List Char} (ht : IsValue t) : Settles readBool t := by
  cases ht with
  | @word _ hw =>
    fin_cases hw
    · exact .inr fun rest _ => readBool_eq_error (by rfl) (by decide) (by decide) _
    · exact .inl ⟨true, fun rest _ => readBool_writeBool true rest⟩
    · exact .inl ⟨false, fun rest _ => readBool_writeBool false rest⟩
  | number ht =>
    obtain ⟨c, s, rfl, hc⟩ := ht.exists_cons
    refine .inr fun rest _ => ?_
    rcases hc with rfl | hdigit
    · exact readBool_eq_error (by rfl) (by decide) (by decide) _
    · refine readBool_eq_error (not_isBlank_of_isDigit hdigit) ?_ ?_ _
      · rintro rfl
        simp [isDigit] at hdigit
      · rintro rfl
        simp [isDigit] at hdigit
  | string ht => exact .inr fun rest _ => readBool_eq_error (by rfl) (by decide) (by decide) _
  | list b helements =>
    exact .inr fun rest _ => readBool_eq_error (by rfl) (by decide) (by decide) _
  | object b hkeys hvalues =>
    exact .inr fun rest _ => readBool_eq_error (by rfl) (by decide) (by decide) _

/-! ## Numbers -/

theorem readNat_skipBlanks (limit : Nat) (expected : String) (s : List Char) :
    readNat limit expected (skipBlanks s) = readNat limit expected s := by
  rw [readNat, readNat, skipBlanks_skipBlanks]

/-- What begins like no number is refused. -/
theorem readNat_eq_error {c : Char} (hblank : isBlank c = false) (hminus : c ≠ '-')
    (hdigit : isDigit c = false) (limit : Nat) (expected : String) (s : List Char) :
    ∃ e, readNat limit expected (c :: s) = .error e := by
  rw [readNat, skipBlanks_cons hblank]
  split
  · simp_all
  · simp_all
  · rename_i d r _ hcons
    obtain ⟨rfl, rfl⟩ := List.cons.inj hcons
    rw [if_neg (by simp [hdigit])]
    exact unexpected_eq_error _ _

/-- What begins like a negative number is refused. -/
theorem readNat_minus_eq_error (limit : Nat) (expected : String) (s : List Char) :
    ∃ e, readNat limit expected ('-' :: s) = .error e := by
  simp only [readNat, skipBlanks_cons (show isBlank '-' = false by rfl)]
  cases readNumber false s with
  | error e => exact ⟨e, rfl⟩
  | ok found =>
    obtain ⟨n, r⟩ := found
    cases n <;> exact ⟨_, rfl⟩

/-- Whether a reading has not come to a natural number. -/
def NotNatural (result : Except Error (Number × List Char)) : Prop :=
  ∀ n rest, result ≠ .ok (.natural n, rest)

theorem notNatural_makeFloat (isPositive : Bool) (significand : Nat) (exponent : Int)
    (rest : List Char) :
    NotNatural (makeFloat isPositive significand exponent >>= fun x => pure (x, rest)) := by
  intro n r
  unfold makeFloat
  cases scale (Float.ofNat significand) exponent 4 <;> simp [bind, Except.bind, pure, Except.pure]

theorem notNatural_readExponent (isPositive : Bool) (significand : Nat) (start : Int)
    (s : List Char) : NotNatural (readExponent isPositive significand start s) := by
  unfold readExponent
  dsimp only
  split
  · rintro n r ⟨⟩
  · split_ifs
    · rintro n r ⟨⟩
    · rintro n r ⟨⟩
    · rintro n r ⟨⟩
    · rintro n r ⟨⟩
    · exact notNatural_makeFloat _ _ _ _
    · exact notNatural_makeFloat _ _ _ _

theorem notNatural_readFraction (isPositive : Bool) (significand : Nat) (start : Int)
    (s : List Char) : NotNatural (readFraction isPositive significand start s) := by
  unfold readFraction
  dsimp only
  split
  · split <;> rintro n r ⟨⟩
  · unfold readScaled
    split
    · exact notNatural_readExponent _ _ _ _
    · exact notNatural_readExponent _ _ _ _
    · exact notNatural_makeFloat _ _ _ _

/-- What has not come to a natural number is refused. -/
theorem readNat_of_notNatural {c : Char} (hc : isDigit c = true) {s : List Char}
    (hread : NotNatural (readNumber true (c :: s))) (limit : Nat) (expected : String) :
    ∃ e, readNat limit expected (c :: s) = .error e := by
  rw [readNat, skipBlanks_cons (not_isBlank_of_isDigit hc)]
  split
  · simp_all
  · simp_all [isDigit]
  · rename_i d r _ hcons
    obtain ⟨rfl, rfl⟩ := List.cons.inj hcons
    rw [if_pos hc]
    cases hfound : readNumber true (c :: s) with
    | error e => exact ⟨e, rfl⟩
    | ok found =>
      obtain ⟨n | n | text, r⟩ := found
      · exact absurd hfound (hread n r)
      · exact ⟨_, rfl⟩
      · exact ⟨_, rfl⟩

/-- A number whose digits leave some over, or that goes on behind its whole part, does not come to a
natural number. -/
theorem notNatural_readNumber {whole tail : List Char} (hwhole : IsDigits whole)
    (htail : EndsDigits tail)
    (hmore : (takeWord 0 0 whole).2.2 ≠ [] ∨ ∃ c ∈ tail.head?, c = '.' ∨ c = 'e' ∨ c = 'E') :
    NotNatural (readNumber true (whole ++ tail)) := by
  unfold readNumber
  simp only [takeWhile_digits hwhole.2 htail, dropWhile_digits hwhole.2 htail]
  split
  · split <;> rintro n r ⟨⟩
  · rintro n r ⟨⟩
  · split
    · exact notNatural_readFraction _ _ _ _
    · exact notNatural_readExponent _ _ _ _
    · exact notNatural_readExponent _ _ _ _
    · rename_i hpoint hsmall hlarge
      have hleft : (takeWord 0 0 whole).2.2 ≠ [] := by
        refine hmore.resolve_right ?_
        rintro ⟨c, hc, hletter⟩
        obtain ⟨r, rfl⟩ : ∃ r, tail = c :: r := by
          cases tail <;> simp_all
        rcases hletter with rfl | rfl | rfl
        · exact hpoint r rfl
        · exact hsmall r rfl
        · exact hlarge r rfl
      rw [if_neg (by simp [hleft]), if_neg (by simp [hleft])]
      exact notNatural_makeFloat _ _ _ _

/-- A number is taken if it is a natural number without fraction and exponent that is not too
large. -/
theorem IsNumber.settles_readNat {t : List Char} (ht : IsNumber t) (limit : Nat)
    (expected : String) : Settles (readNat limit expected) t := by
  obtain ⟨hsign, hwhole, hzero, hfraction, hexponent⟩ := ht
  rename_i sign whole fraction exponent
  rcases hsign with rfl | rfl
  swap
  · exact .inr fun rest _ => readNat_minus_eq_error limit expected _
  obtain ⟨d, ds, hcons, hd, -⟩ := hwhole.exists_cons
  simp only [List.nil_append]
  -- The value is natural just if all digits fit into a word and nothing follows them.
  by_cases hplain : (takeWord 0 0 whole).2.2 = [] ∧ fraction = [] ∧ exponent = []
  · obtain ⟨hleft, rfl, rfl⟩ := hplain
    rcases htaken : takeWord 0 0 whole with ⟨n, taken, left⟩
    obtain rfl : left = [] := by rwa [htaken] at hleft
    have hread : ∀ rest, EndsNumber rest → readNat limit expected (whole ++ rest) =
        if n ≤ limit then .ok (n, rest)
        else .error (.invalidValue (Number.natural n).found expected) := by
      intro rest hrest
      have hnumber := readNumber_whole hwhole hzero htaken hrest
      rw [hcons] at hnumber ⊢
      exact readNat_of_natural hd hnumber limit expected
    simp only [List.append_nil]
    by_cases hn : n ≤ limit
    · exact .inl ⟨n, fun rest hrest => by rw [hread rest hrest, if_pos hn]⟩
    · exact .inr fun rest hrest => ⟨_, by rw [hread rest hrest, if_neg hn]⟩
  · refine .inr fun rest hrest => ?_
    have hends : EndsDigits (fraction ++ (exponent ++ rest)) :=
      hfraction.endsDigits (hexponent.endsDigits hrest)
    have hread := notNatural_readNumber hwhole hends ?_
    · simp only [List.append_assoc]
      rw [hcons] at hread ⊢
      exact readNat_of_notNatural hd hread limit expected
    · -- Either digits are left over, or the fraction or the exponent comes next.
      by_cases hleft : (takeWord 0 0 whole).2.2 = []
      · right
        rcases hfraction with rfl | ⟨digits, -, rfl⟩
        · rcases hexponent with rfl | ⟨letter, sign, digits, hletter, -, -, rfl⟩
          · exact absurd ⟨hleft, rfl, rfl⟩ hplain
          · exact ⟨letter, rfl, .inr hletter⟩
        · exact ⟨'.', rfl, .inl rfl⟩
      · exact .inl hleft

/-- Of all values, only natural numbers are taken. -/
theorem IsValue.settles_readNat {t : List Char} (ht : IsValue t) (limit : Nat)
    (expected : String) : Settles (readNat limit expected) t := by
  cases ht with
  | @word _ hw =>
    refine .inr fun rest _ => ?_
    fin_cases hw <;> exact readNat_eq_error (by rfl) (by decide) (by rfl) limit expected _
  | number ht => exact ht.settles_readNat limit expected
  | string ht =>
    exact .inr fun rest _ => readNat_eq_error (by rfl) (by decide) (by rfl) limit expected _
  | list b helements =>
    exact .inr fun rest _ => readNat_eq_error (by rfl) (by decide) (by rfl) limit expected _
  | object b hkeys hvalues =>
    exact .inr fun rest _ => readNat_eq_error (by rfl) (by decide) (by rfl) limit expected _

/-! ## Values between blanks -/

/-- Blanks around a value make no difference to a reader that passes over those in front of it. -/
theorem Settles.spaced {α : Type} {read : List Char → Except Error (α × List Char)}
    (hblanks : ∀ s, read (skipBlanks s) = read s) {t : Spaced} (ht : Settles read t.core) :
    (∃ a, ∀ rest, EndsNumber rest → read (t.text ++ rest) = .ok (a, t.after.val ++ rest)) ∨
      ∀ rest, EndsNumber rest → ∃ e, read (t.text ++ rest) = .error e := by
  simp only [Spaced.read_text hblanks]
  rcases ht with ⟨a, ha⟩ | hfails
  · exact .inl ⟨a, fun rest hrest => ha _ (hrest.blanks t.after)⟩
  · exact .inr fun rest hrest => hfails _ (hrest.blanks t.after)

end PathWatch.Json
