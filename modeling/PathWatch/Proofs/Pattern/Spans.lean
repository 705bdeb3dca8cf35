import Mathlib
import PathWatch.Proofs.Pattern.Reach
/-!
# What the matcher decides

An expression spans two positions of a text if it matches the piece between them. Following the
expression leads from a set of positions along its spans, so the matcher decides whether the
expression matches the whole text, or some piece of it.
-/

namespace PathWatch.Pattern

/-! ## Spans -/

/-- A relation holds of the piece of a text between two positions. -/
def Spans (text : List Nat) (p : Expr.Relation) (i j : Nat) : Prop :=
  ∃ before piece behind, text = before ++ piece ++ behind ∧ before.length = i ∧
    (before ++ piece).length = j ∧ p before piece behind

variable {text : List Nat} {p q : Expr.Relation} {i j : Nat}

/-- A span is within the text. -/
theorem Spans.le (hp : Spans text p i j) : i ≤ j ∧ j ≤ text.length := by
  obtain ⟨before, piece, behind, rfl, rfl, rfl, -⟩ := hp
  simp only [List.length_append]
  omega

/-- A piece with no code in it lies between a position and itself. -/
theorem spans_nil (hi : i ≤ text.length) (hp : ∀ before piece behind, p before piece behind →
    piece = []) : Spans text p i j ↔ i = j ∧ p (text.take i) [] (text.drop i) := by
  constructor
  · rintro ⟨before, piece, behind, rfl, rfl, rfl, hpiece⟩
    obtain rfl := hp _ _ _ hpiece
    simpa using hpiece
  · rintro ⟨rfl, hpiece⟩
    exact ⟨text.take i, [], text.drop i, by simp, by simpa using hi, by simpa using hi, hpiece⟩

/-- Two pieces one after another meet at a position. -/
theorem spans_concat :
    Spans text (fun before piece behind =>
        ∃ x y, piece = x ++ y ∧ p before x (y ++ behind) ∧ q (before ++ x) y behind) i j ↔
      ∃ m, Spans text p i m ∧ Spans text q m j := by
  constructor
  · rintro ⟨before, piece, behind, rfl, rfl, rfl, x, y, rfl, hx, hy⟩
    exact ⟨_, ⟨before, x, y ++ behind, by simp, rfl, rfl, hx⟩,
      ⟨before ++ x, y, behind, by simp, rfl, by simp, hy⟩⟩
  · rintro ⟨m, ⟨before, x, after, rfl, rfl, rfl, hx⟩, ⟨before', y, behind, htext, hm, rfl, hy⟩⟩
    rw [List.append_assoc before'] at htext
    obtain ⟨rfl, rfl⟩ := List.append_inj htext hm.symm
    exact ⟨before, x ++ y, behind, by simp, rfl, by simp, x, y, rfl, hx, hy⟩

/-- Pieces one after another are steps from position to position. -/
theorem spans_power (n : Nat) (hi : i ≤ text.length) :
    Spans text (Expr.Power p n) i j ↔ Steps (Spans text p) n i j := by
  induction n generalizing i with
  | zero =>
    have hnil := spans_nil (p := Expr.Power p 0) (j := j) hi fun _ _ _ hpiece => hpiece
    simpa [Expr.Power, Steps] using hnil
  | succ n ih =>
    rw [show Expr.Power p (n + 1) = fun before piece behind => ∃ x y, piece = x ++ y ∧
      p before x (y ++ behind) ∧ Expr.Power p n (before ++ x) y behind from rfl, spans_concat]
    exact exists_congr fun m => and_congr_right fun hm => ih hm.le.2

/-! ## Single steps -/

namespace Positions

theorem testBit_cons_zero (here : Bool) (others : Positions) :
    (cons here others).testBit 0 = here := by
  rw [Nat.testBit_zero, cons]
  cases here <;> simp [Nat.add_mod]

theorem testBit_cons_succ (here : Bool) (others : Positions) (i : Nat) :
    (cons here others).testBit (i + 1) = others.testBit i := by
  have hhalf : ∀ n : Nat, (2 * n + here.toNat) / 2 = n := by
    intro n
    cases here <;> simp only [Bool.toNat_false, Bool.toNat_true] <;> omega
  rw [Nat.testBit_add_one]
  exact congrArg (Nat.testBit · i) (hhalf others)

/-- A set is at the positions whose sign it contains. -/
theorem testBit_ofSymbol (set : CodeSet) (text : List Nat) (i : Nat) :
    (ofSymbol set text).testBit i = true ↔ ∃ c, text[i]? = some c ∧ set.contains c = true := by
  induction text generalizing i with
  | nil => simp [ofSymbol]
  | cons c text ih =>
    cases i with
    | zero => rw [ofSymbol, testBit_cons_zero]; simp
    | succ i => rw [ofSymbol, testBit_cons_succ, ih, List.getElem?_cons_succ]

/-- A look holds at a position by the signs on its two sides. -/
theorem testBit_ofLook (k : Look) (before : List Nat) (text : List Nat) (i : Nat) :
    (ofLook k before.getLast? text).testBit i = true ↔ i ≤ text.length ∧
      k.holds (before ++ text.take i).getLast? (text.drop i).head? = true := by
  induction text generalizing before i with
  | nil =>
    cases i with
    | zero => rw [ofLook, testBit_cons_zero]; simp
    | succ i => rw [ofLook, testBit_cons_succ]; simp
  | cons c text ih =>
    cases i with
    | zero => rw [ofLook, testBit_cons_zero]; simp
    | succ i =>
      have hlast : (before ++ [c]).getLast? = some c := List.getLast?_concat
      rw [ofLook, testBit_cons_succ, ← hlast, ih]
      simp

end Positions

/-! ## Expressions -/

namespace Expr

open Positions

/-- A set leads from each position that has a sign of it to the next one. -/
theorem follows_symbol (text : List Nat) (set : CodeSet) :
    Follows text.length ((Expr.symbol set).reach text) (Spans text (Expr.symbol set).Matches) where
  testBit_iff s _ j := by
    rw [reach, Nat.testBit_shiftLeft, Bool.and_eq_true, Nat.testBit_and, Bool.and_eq_true,
      testBit_ofSymbol]
    simp only [decide_eq_true_eq]
    constructor
    · rintro ⟨hj, hs, c, hc, hset⟩
      obtain ⟨hlt, rfl⟩ := List.getElem?_eq_some_iff.mp hc
      refine ⟨j - 1, hs, text.take (j - 1), [text[j - 1]], text.drop j, ?_, ?_, ?_, _, rfl, hset⟩
      · have hsplit := List.take_append_drop (j - 1) text
        rw [List.drop_eq_getElem_cons hlt, Nat.sub_add_cancel hj] at hsplit
        rw [List.append_assoc]
        exact hsplit.symm
      · exact List.length_take_of_le hlt.le
      · rw [List.length_append, List.length_take_of_le hlt.le, List.length_singleton]
        omega
    · rintro ⟨i, hs, before, piece, behind, rfl, rfl, rfl, c, rfl, hset⟩
      refine ⟨by simp, by simpa using hs, c, ?_, hset⟩
      simp
  le _ _ _ hij := hij.le.2

/-- A look leads from a position to itself. -/
theorem follows_look (text : List Nat) (k : Look) :
    Follows text.length ((Expr.look k).reach text) (Spans text (Expr.look k).Matches) where
  testBit_iff s hs j := by
    have hbit := testBit_ofLook k [] text j
    rw [List.getLast?_nil, List.nil_append] at hbit
    rw [reach, Nat.testBit_and, Bool.and_eq_true, hbit]
    constructor
    · rintro ⟨hj, hle, hholds⟩
      exact ⟨j, hj, (spans_nil hle fun _ _ _ hpiece => hpiece.1).mpr ⟨rfl, rfl, hholds⟩⟩
    · rintro ⟨i, hi, hij⟩
      obtain ⟨rfl, -, hholds⟩ := (spans_nil (hs i hi) fun _ _ _ hpiece => hpiece.1).mp hij
      exact ⟨hi, hs i hi, hholds⟩
  le _ _ _ hij := hij.le.2

/-- Repetitions lead along any number of spans that the bounds allow. -/
theorem follows_iterate {text : List Nat} {a : Expr}
    (ha : Follows text.length (a.reach text) (Spans text a.Matches)) (least : Nat)
    (most : Option Nat) :
    Follows text.length ((Expr.iterate a least most).reach text)
      (Spans text (Expr.iterate a least most).Matches) := by
  -- The pieces of an iteration are steps from position to position.
  have hspans : ∀ i j, i ≤ text.length → (Spans text (Expr.iterate a least most).Matches i j ↔
      ∃ n, least ≤ n ∧ (∀ m, most = some m → n ≤ m) ∧ Steps (Spans text a.Matches) n i j) := by
    intro i j hi
    simp only [← spans_power _ hi]
    constructor
    · rintro ⟨before, piece, behind, htext, hbefore, hpiece, n, hleast, hmost, hpower⟩
      exact ⟨n, hleast, hmost, before, piece, behind, htext, hbefore, hpiece, hpower⟩
    · rintro ⟨n, hleast, hmost, before, piece, behind, htext, hbefore, hpiece, hpower⟩
      exact ⟨before, piece, behind, htext, hbefore, hpiece, n, hleast, hmost, hpower⟩
  cases most with
  | none =>
    -- The least number of steps, and then any number.
    refine ((ha.power least).comp ha.closure).congr fun i j hi => ?_
    rw [hspans i j hi]
    constructor
    · rintro ⟨k, hk, m, hj⟩
      exact ⟨least + m, Nat.le_add_right _ _, by simp, steps_add.mpr ⟨k, hk, hj⟩⟩
    · rintro ⟨n, hleast, -, hj⟩
      obtain ⟨m, rfl⟩ := Nat.exists_eq_add_of_le hleast
      obtain ⟨k, hk, hj⟩ := steps_add.mp hj
      exact ⟨k, hk, m, hj⟩
  | some most =>
    have hreach : (Expr.iterate a least (some most)).reach text = fun s =>
        if most < least then 0
        else Positions.atMost (a.reach text) (most - least)
          (Positions.power (a.reach text) least s) := by
      funext s
      rw [reach]
    rw [hreach]
    rcases Nat.lt_or_ge most least with hreversed | hbounds
    · -- With bounds in the wrong order there is nothing to follow.
      simp only [hreversed, if_true]
      refine Follows.none.congr fun i j hi => ?_
      rw [hspans i j hi]
      simp only [Option.some.injEq, forall_eq', false_iff, not_exists, not_and]
      omega
    · simp only [Nat.not_lt.mpr hbounds, if_false]
      refine ((ha.power least).comp (ha.atMost (most - least))).congr fun i j hi => ?_
      rw [hspans i j hi]
      constructor
      · rintro ⟨k, hk, m, hm, hj⟩
        refine ⟨least + m, Nat.le_add_right _ _, ?_, steps_add.mpr ⟨k, hk, hj⟩⟩
        rintro _ ⟨⟩
        omega
      · rintro ⟨n, hleast, hmost, hj⟩
        obtain ⟨m, rfl⟩ := Nat.exists_eq_add_of_le hleast
        obtain ⟨k, hk, hj⟩ := steps_add.mp hj
        have hle := hmost most rfl
        exact ⟨k, hk, m, by omega, hj⟩

/-- Following an expression leads along its spans. -/
theorem follows_spans (text : List Nat) (e : Expr) :
    Follows text.length (e.reach text) (Spans text e.Matches) := by
  induction e with
  | empty =>
    refine Follows.id.congr fun i j hi => ?_
    have hnil := spans_nil (p := Expr.empty.Matches) (j := j) hi fun _ _ _ hpiece => hpiece
    rw [hnil]
    simp [Matches, hi]
  | symbol set => exact follows_symbol text set
  | look k => exact follows_look text k
  | concat a b ha hb =>
    exact (ha.comp hb).guarded.congr fun i j _ => spans_concat.symm
  | alternate a b ha hb =>
    refine (ha.or hb).guarded.congr fun i j _ => ?_
    constructor
    · rintro (⟨before, piece, behind, htext, hi, hj, hmatch⟩ |
        ⟨before, piece, behind, htext, hi, hj, hmatch⟩)
      · exact ⟨before, piece, behind, htext, hi, hj, Or.inl hmatch⟩
      · exact ⟨before, piece, behind, htext, hi, hj, Or.inr hmatch⟩
    · rintro ⟨before, piece, behind, htext, hi, hj, hmatch | hmatch⟩
      · exact Or.inl ⟨before, piece, behind, htext, hi, hj, hmatch⟩
      · exact Or.inr ⟨before, piece, behind, htext, hi, hj, hmatch⟩
  | iterate a least most ha => exact follows_iterate ha least most

/-- The matcher decides whether the expression matches the whole text. -/
theorem matchesAll_iff (e : Expr) (text : List Nat) :
    e.matchesAll text = true ↔ e.MatchesAll text := by
  have hstart : Within text.length 1 := by
    intro i hi
    rw [Nat.testBit_one_eq_true_iff_self_eq_zero] at hi
    omega
  rw [matchesAll, (e.follows_spans text).testBit_iff 1 hstart]
  simp only [Nat.testBit_one_eq_true_iff_self_eq_zero, exists_eq_left]
  constructor
  · rintro ⟨before, piece, behind, rfl, hbefore, hpiece, hmatch⟩
    obtain rfl := List.length_eq_zero_iff.mp hbefore
    obtain rfl : behind = [] := by
      simp only [List.length_append] at hpiece
      exact List.length_eq_zero_iff.mp (by omega)
    simpa [MatchesAll] using hmatch
  · exact fun hmatch => ⟨[], text, [], by simp, rfl, rfl, hmatch⟩

/-- The matcher decides whether the expression matches some piece of the text. -/
theorem matchesSome_iff (e : Expr) (text : List Nat) :
    e.matchesSome text = true ↔ e.MatchesSome text := by
  have hall : ∀ i, (upTo text.length).testBit i = true ↔ i ≤ text.length := by
    intro i
    rw [upTo, Nat.pow_eq, Nat.testBit_two_pow_sub_one, decide_eq_true_iff, Nat.lt_succ_iff]
  have hreach := (e.follows_spans text).testBit_iff _ fun i hi => (hall i).mp hi
  rw [matchesSome, decide_eq_true_iff]
  constructor
  · intro hne
    obtain ⟨j, hj⟩ := Nat.exists_testBit_of_ne_zero hne
    obtain ⟨i, -, before, piece, behind, htext, -, -, hmatch⟩ := (hreach j).mp hj
    exact ⟨before, piece, behind, htext, hmatch⟩
  · rintro ⟨before, piece, behind, rfl, hmatch⟩ hzero
    have hbit := (hreach _).mpr ⟨before.length, (hall _).mpr (by simp),
      before, piece, behind, rfl, rfl, rfl, hmatch⟩
    rw [hzero] at hbit
    simp at hbit

end Expr

end PathWatch.Pattern
