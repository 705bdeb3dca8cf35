import Mathlib
import PathWatch.Pattern.Expr
/-!
# What single expressions match

Codes one after another match just that row of codes, alternatives match what any of them does, and
a repeated set matches any row of its members. None of these depends on the text around the piece.
Whatever an expression matches has at least the length that can be told from the expression.
-/

namespace PathWatch.Pattern.Expr

variable {before piece behind : List Nat}

/-- A code takes itself. -/
theorem matches_code (c : Nat) : (code c).Matches before piece behind ↔ piece = [c] := by
  simp [code, Matches, CodeSet.contains_single]

/-- Codes one after another match that row of codes. -/
theorem matches_sequence_code (codes : List Nat) :
    (sequence (codes.map code)).Matches before piece behind ↔ piece = codes := by
  induction codes generalizing before piece with
  | nil => rfl
  | cons c codes ih =>
    cases codes with
    | nil => exact matches_code c
    | cons d codes =>
      have hsequence : sequence ((c :: d :: codes).map code) =
          .concat (code c) (sequence ((d :: codes).map code)) := rfl
      rw [hsequence, Matches]
      simp only [matches_code, ih]
      constructor
      · rintro ⟨_, _, rfl, rfl, rfl⟩
        rfl
      · rintro rfl
        exact ⟨[c], d :: codes, rfl, rfl, rfl⟩

/-- A choice takes what one of its expressions takes. -/
theorem matches_anyOf (choices : List Expr) :
    (anyOf choices).Matches before piece behind ↔
      ∃ e ∈ choices, e.Matches before piece behind := by
  induction choices with
  | nil => simp [anyOf, Matches]
  | cons e choices ih =>
    cases choices with
    | nil => simp [anyOf]
    | cons e' choices =>
      have hanyOf : anyOf (e :: e' :: choices) = .alternate e (anyOf (e' :: choices)) := rfl
      rw [hanyOf, Matches, ih]
      simp only [List.mem_cons, exists_eq_or_imp]

/-! ## Sets that are repeated -/

/-- A set taken a number of times is a piece of that length, all in the set. -/
theorem power_symbol (set : CodeSet) (n : Nat) :
    Power (Expr.symbol set).Matches n before piece behind ↔
      piece.length = n ∧ ∀ c ∈ piece, set.contains c = true := by
  induction n generalizing before piece with
  | zero =>
    rw [Power, List.length_eq_zero_iff]
    constructor
    · rintro rfl
      simp
    · exact And.left
  | succ n ih =>
    simp only [Power, ih]
    constructor
    · rintro ⟨_, rest, rfl, ⟨c, rfl, hc⟩, rfl, hrest⟩
      exact ⟨rfl, List.forall_mem_cons.mpr ⟨hc, hrest⟩⟩
    · rintro ⟨hlength, hall⟩
      obtain ⟨c, rest, rfl⟩ := List.exists_cons_of_length_eq_add_one hlength
      obtain ⟨hc, hrest⟩ := List.forall_mem_cons.mp hall
      exact ⟨[c], rest, rfl, ⟨c, rfl, hc⟩, Nat.succ.inj hlength, hrest⟩

/-- A set that is repeated matches any row of its members that is as long as the bounds allow. -/
theorem matches_iterate_symbol (set : CodeSet) (least : Nat) (most : Option Nat) :
    (iterate (.symbol set) least most).Matches before piece behind ↔
      least ≤ piece.length ∧ (∀ m, most = some m → piece.length ≤ m) ∧
        ∀ c ∈ piece, set.contains c = true := by
  constructor
  · rintro ⟨n, hleast, hmost, hpower⟩
    obtain ⟨rfl, hall⟩ := (power_symbol set n).mp hpower
    exact ⟨hleast, hmost, hall⟩
  · rintro ⟨hleast, hmost, hall⟩
    exact ⟨piece.length, hleast, hmost, (power_symbol set _).mpr ⟨rfl, hall⟩⟩

theorem matches_star_symbol (set : CodeSet) :
    (star (.symbol set)).Matches before piece behind ↔ ∀ c ∈ piece, set.contains c = true := by
  simp [star, matches_iterate_symbol]

theorem matches_optional_code (c : Nat) :
    (optional (code c)).Matches before piece behind ↔ piece = [] ∨ piece = [c] := by
  simp only [optional, code, matches_iterate_symbol, CodeSet.contains_single]
  rcases piece with _ | ⟨d, _ | ⟨d', piece⟩⟩ <;> simp

/-! ## Lengths -/

/-- So many pieces one after another, none of which is shorter than `m`. -/
theorem mul_le_length_of_power {p : Relation} {m : Nat}
    (hp : ∀ before piece behind, p before piece behind → m ≤ piece.length) {n : Nat}
    (hpower : Power p n before piece behind) : m * n ≤ piece.length := by
  induction n generalizing before piece with
  | zero => exact Nat.zero_le _
  | succ n ih =>
    obtain ⟨x, y, rfl, hx, hy⟩ := hpower
    calc m * (n + 1) = m + m * n := by rw [Nat.mul_succ, Nat.add_comm]
      _ ≤ x.length + y.length := Nat.add_le_add (hp _ _ _ hx) (ih hy)
      _ = (x ++ y).length := List.length_append.symm

/-- No piece that an expression matches is shorter than what can be told from the expression. -/
theorem leastLength_le_length {e : Expr} (hmatch : e.Matches before piece behind) :
    e.leastLength ≤ piece.length := by
  induction e generalizing before piece behind with
  | empty => exact Nat.zero_le _
  | symbol set =>
    obtain ⟨c, rfl, -⟩ := hmatch
    exact Nat.le_refl 1
  | look k => exact Nat.zero_le _
  | concat a b iha ihb =>
    obtain ⟨x, y, rfl, hx, hy⟩ := hmatch
    rw [List.length_append]
    exact Nat.add_le_add (iha hx) (ihb hy)
  | alternate a b iha ihb =>
    rcases hmatch with ha | hb
    · exact (Nat.min_le_left _ _).trans (iha ha)
    · exact (Nat.min_le_right _ _).trans (ihb hb)
  | iterate a least most iha =>
    obtain ⟨n, hleast, -, hpower⟩ := hmatch
    exact (Nat.mul_le_mul_left _ hleast).trans
      (mul_le_length_of_power (fun _ _ _ ha => iha ha) hpower)

end PathWatch.Pattern.Expr
