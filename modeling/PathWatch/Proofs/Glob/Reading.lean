import Mathlib
import PathWatch.Glob.Matcher
/-!
# How globs are read

The reader turns every sign of a glob into a token, except where signs belong together: a backslash
and the character behind it, the braces of a group and what is between them, two stars. Here is what
it makes of each of these, whatever it has read before and whatever comes behind.
-/

namespace PathWatch.Glob

/-! ## Characters that stand for themselves -/

/-- The signs that mean something in a glob. -/
def specialSigns : List Char := ['*', '?', '[', '{', '}', ',', '\\']

/-- A character that stands for itself, as it is written: with nothing around it if it is no special
sign, or behind a backslash. -/
inductive Written where
  | plain (c : Char) (hc : c ∉ specialSigns)
  | escaped (c : Char)

namespace Written

/-- The character itself. -/
def char : Written → Char
  | .plain c _ => c
  | .escaped c => c

/-- The signs it is written with. -/
def signs : Written → List Char
  | .plain c _ => [c]
  | .escaped c => ['\\', c]

end Written

/-- The characters of a row. -/
def charsOf (row : List Written) : List Char :=
  row.map Written.char

/-- The signs of a row. -/
def signsOf (row : List Written) : List Char :=
  row.flatMap Written.signs

/-- A text without special signs can be written as it is. -/
theorem exists_row_of_plain {l : List Char} (hl : ∀ c ∈ l, c ∉ specialSigns) :
    ∃ row, signsOf row = l ∧ charsOf row = l := by
  induction l with
  | nil => exact ⟨[], rfl, rfl⟩
  | cons c l ih =>
    obtain ⟨hc, hrest⟩ := List.forall_mem_cons.mp hl
    obtain ⟨row, hsigns, hchars⟩ := ih hrest
    refine ⟨.plain c hc :: row, ?_, ?_⟩
    · rw [signsOf, List.flatMap_cons, ← signsOf, hsigns]
      rfl
    · rw [charsOf, List.map_cons, ← charsOf, hchars]
      rfl

/-! ## Single signs -/

namespace Reader

variable (tokens : List Token) (frames : List Frame) (previous : Option Char) (s : List Char)

theorem run_nil :
    ({ tokens, frames, previous } : Reader).run [] = .ok { tokens, frames, previous } := rfl

/-- A sign that is not special becomes a literal. -/
theorem run_plain {c : Char} (hc : c ∉ specialSigns) :
    ({ tokens, frames, previous } : Reader).run (c :: s) =
      ({ tokens := .literal c :: tokens, frames, previous := some c } : Reader).run s := by
  simp only [specialSigns, List.mem_cons, List.not_mem_nil, or_false, not_or] at hc
  rw [run.eq_def]
  dsimp only
  -- Every branch but the last one asks for one of the special signs.
  split
  all_goals first | rfl | simp_all

/-- A character becomes a literal, with or without a backslash in front of it. -/
theorem run_written (w : Written) :
    ({ tokens, frames, previous } : Reader).run (w.signs ++ s) =
      ({ tokens := .literal w.char :: tokens, frames, previous := some w.char } :
        Reader).run s := by
  cases w with
  | plain c hc => exact run_plain tokens frames previous s hc
  | escaped c => rfl

/-- A row becomes literals one after another; how it is written shows only in the last sign read. -/
theorem run_row (row : List Written) :
    ∃ last, ({ tokens, frames, previous } : Reader).run (signsOf row ++ s) =
      ({ tokens := ((charsOf row).map .literal).reverse ++ tokens, frames, previous := last } :
        Reader).run s := by
  induction row generalizing tokens previous with
  | nil => exact ⟨previous, rfl⟩
  | cons w row ih =>
    obtain ⟨last, hrow⟩ := ih (.literal w.char :: tokens) (some w.char)
    refine ⟨last, ?_⟩
    rw [signsOf, List.flatMap_cons, List.append_assoc, run_written, ← signsOf, hrow]
    simp [charsOf]

theorem run_any :
    ({ tokens, frames, previous } : Reader).run ('?' :: s) =
      ({ tokens := .any :: tokens, frames, previous := some '?' } : Reader).run s := rfl

/-- A star is alone if none stands behind it. -/
theorem run_star {s : List Char} (hs : s.head? ≠ some '*') :
    ({ tokens, frames, previous } : Reader).run ('*' :: s) =
      ({ tokens := .zeroOrMore :: tokens, frames, previous := some '*' } : Reader).run s := by
  have hnext : ∀ rest, s = '*' :: rest → False := by
    rintro rest rfl
    exact hs rfl
  rw [run]
  · rfl
  · exact hnext

/-- A comma outside of groups stands for itself. -/
theorem run_comma :
    ({ tokens, previous } : Reader).run (',' :: s) =
      ({ tokens := .literal ',' :: tokens, previous := some ',' } : Reader).run s := rfl

/-! ## Groups -/

/-- The rest of a group is read from the start of one of its alternatives. -/
theorem run_choices (f : Frame) (row : List Written) (rows : List (List Written)) :
    ({ frames := f :: frames, previous } : Reader).run
        (List.intercalate [','] ((row :: rows).map signsOf) ++ '}' :: s) =
      ({ tokens := .alternates
          (f.done.reverse ++ (row :: rows).map fun r => (charsOf r).map .literal) :: f.before,
         frames, previous := some '}' } : Reader).run s := by
  induction rows generalizing row f previous with
  | nil =>
    obtain ⟨last, hrow⟩ := run_row [] (f :: frames) previous ('}' :: s) row
    rw [List.map_singleton, List.intercalate_singleton, hrow, List.append_nil]
    simp [run, closeGroup, after]
  | cons row' rows ih =>
    obtain ⟨last, hrow⟩ := run_row [] (f :: frames) previous
      (',' :: (List.intercalate [','] ((row' :: rows).map signsOf) ++ '}' :: s)) row
    -- The comma puts the row away, and the rest is a group that starts with the next one.
    have hcomma := ih (some ',') { f with done := (charsOf row).map .literal :: f.done } row'
    rw [List.map_cons, List.map_cons, List.intercalate_cons_cons, ← List.map_cons,
      List.append_assoc, List.append_assoc, List.singleton_append, hrow, List.append_nil]
    rw [run.eq_def]
    simpa [comma, after] using hcomma

/-- A group becomes one token that has its rows as alternatives. -/
theorem run_group {rows : List (List Written)} (hrows : rows ≠ []) :
    ({ tokens, frames, previous } : Reader).run
        ('{' :: (List.intercalate [','] (rows.map signsOf) ++ '}' :: s)) =
      ({ tokens := .alternates (rows.map fun r => (charsOf r).map .literal) :: tokens,
         frames, previous := some '}' } : Reader).run s := by
  obtain ⟨row, rows, rfl⟩ := List.exists_cons_of_ne_nil hrows
  exact run_choices frames (some '{') s ⟨tokens, []⟩ row rows

/-! ## Double stars -/

/-- Two stars and a slash at the start of the glob, where nothing has been read. -/
theorem run_doubleStar_start :
    ({} : Reader).run ('*' :: '*' :: '/' :: s) =
      ({ tokens := [.recursivePrefix], previous := some '/' } : Reader).run s := rfl

/-- Two stars behind a slash and at the end of the glob. -/
theorem run_doubleStar_end (c : Char) :
    ({ tokens := .literal c :: tokens, previous := some '/' } : Reader).run ['*', '*'] =
      .ok { tokens := .recursiveSuffix :: tokens, previous := some '*' } := rfl

/-- Two stars between slashes. -/
theorem run_doubleStar_between (c : Char) :
    ({ tokens := .literal c :: tokens, previous := some '/' } : Reader).run
        ('*' :: '*' :: '/' :: s) =
      ({ tokens := .recursiveZeroOrMore :: tokens, previous := some '/' } : Reader).run s := rfl

end Reader

/-! ## Whole globs -/

/-- A text is a glob if the reader comes to its end outside of groups. -/
theorem compile_of_run {pattern : String} {tokens : List Token}
    (hrun : ∃ previous,
      ({} : Reader).run pattern.toList = .ok { tokens := tokens.reverse, previous }) :
    GlobMatcher.compile pattern = .ok { pattern, tokens } := by
  obtain ⟨previous, hrun⟩ := hrun
  have hparse : parse pattern = .ok tokens := by
    rw [parse, hrun]
    simp
  rw [GlobMatcher.compile, hparse]

end PathWatch.Glob
