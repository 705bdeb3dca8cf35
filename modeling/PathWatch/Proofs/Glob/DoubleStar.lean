import Mathlib
import PathWatch.Proofs.Glob.Meaning
import PathWatch.Proofs.Glob.Reading
/-!
# Double stars

A double star is read together with the slashes beside it. At the start of a glob it stands for
nothing or for any directories in front of the rest, at the end for anything below a directory, and
between two slashes for any directories between, also for none.
-/

namespace PathWatch

/-! ## Cutting at slashes -/

namespace Text

open Glob (slash)

variable {path a b : String}

theorem bytes_slash : bytes "/" = [slash] := by decide

/-- A slash among the bytes of a path is a slash of the path, so the path can be cut there. -/
theorem exists_of_bytes_eq_slash {x y : List Nat} (h : bytes path = x ++ slash :: y) :
    ∃ front back : String, path = front ++ "/" ++ back ∧ bytes front = x ∧ bytes back = y :=
  exists_of_bytes_eq (d := '/') (by decide) h

/-- A path ends in a slash and a text just if its bytes do. -/
theorem ends_iff :
    (∃ x, bytes path = x ++ slash :: bytes b) ↔ ∃ front : String, path = front ++ "/" ++ b := by
  constructor
  · rintro ⟨x, hx⟩
    obtain ⟨front, back, rfl, -, hback⟩ := exists_of_bytes_eq_slash hx
    obtain rfl := bytes_injective hback
    exact ⟨front, rfl⟩
  · rintro ⟨front, rfl⟩
    exact ⟨bytes front, by simp [bytes_append, bytes_slash]⟩

/-- A path starts with a text and a slash just if its bytes do. -/
theorem starts_iff :
    (∃ x, bytes path = bytes a ++ slash :: x) ↔ ∃ back : String, path = a ++ "/" ++ back := by
  constructor
  · rintro ⟨x, hx⟩
    obtain ⟨front, back, rfl, hfront, -⟩ := exists_of_bytes_eq_slash hx
    obtain rfl := bytes_injective hfront
    exact ⟨back, rfl⟩
  · rintro ⟨back, rfl⟩
    exact ⟨bytes back, by simp [bytes_append, bytes_slash]⟩

/-- A path starts with one text and a slash and ends in another slash and another text just if its
bytes do; the slashes are different ones. -/
theorem encloses_iff :
    (∃ x, bytes path = bytes a ++ slash :: (x ++ slash :: bytes b)) ↔
      ∃ middle : String, path = a ++ "/" ++ middle ++ "/" ++ b := by
  constructor
  · rintro ⟨x, hx⟩
    obtain ⟨front, back, rfl, hfront, hback⟩ := exists_of_bytes_eq_slash hx
    obtain rfl := bytes_injective hfront
    obtain ⟨middle, rfl⟩ := ends_iff.mp ⟨x, hback⟩
    exact ⟨middle, by simp [String.append_assoc]⟩
  · rintro ⟨middle, rfl⟩
    exact ⟨bytes middle, by simp [bytes_append, bytes_slash]⟩

end Text

/-! ## Reading -/

namespace Glob

open Text (charBytes)

/-- Whether no sign of a text means anything in a glob, not even inside of a class or a group. -/
def IsPlain (s : String) : Prop :=
  ∀ c ∈ s.toList, c ∉ ['*', '?', '[', ']', '{', '}', ',', '\\']

/-- A plain text has none of the signs that the reader treats apart. -/
theorem IsPlain.not_mem_specialSigns {s : String} (hs : IsPlain s) :
    ∀ c ∈ s.toList, c ∉ specialSigns := by
  have hsigns : specialSigns ⊆ ['*', '?', '[', ']', '{', '}', ',', '\\'] := by decide
  exact fun c hc hspecial => hs c hc (hsigns hspecial)

/-- A plain text is read as its characters, whatever has been read before it. -/
theorem run_isPlain {s : String} (hs : IsPlain s) (tokens : List Token)
    (previous : Option Char) (rest : List Char) :
    ∃ last, ({ tokens, previous } : Reader).run (s.toList ++ rest) =
      ({ tokens := (s.toList.map .literal).reverse ++ tokens, previous := last } :
        Reader).run rest := by
  obtain ⟨row, hsigns, hchars⟩ := exists_row_of_plain hs.not_mem_specialSigns
  have hrow := Reader.run_row tokens [] previous rest row
  rwa [hsigns, hchars] at hrow

/-- A plain text with a slash behind it, which is the last token read. -/
theorem run_isPlain_slash {s : String} (hs : IsPlain s) (rest : List Char) :
    ({} : Reader).run (s.toList ++ '/' :: rest) =
      ({ tokens := .literal '/' :: (s.toList.map .literal).reverse, previous := some '/' } :
        Reader).run rest := by
  obtain ⟨last, hrun⟩ := run_isPlain hs [] none ('/' :: rest)
  rw [hrun, List.append_nil]
  exact Reader.run_plain _ _ _ _ (by decide)

/-- What the reader makes of a double star in front of a plain text. -/
theorem compile_start {b : String} (hb : IsPlain b) :
    GlobMatcher.compile ("**/" ++ b) =
      .ok { pattern := "**/" ++ b, tokens := .recursivePrefix :: b.toList.map .literal } := by
  obtain ⟨last, hrun⟩ := run_isPlain hb [.recursivePrefix] (some '/') []
  have htext : ("**/" ++ b).toList = '*' :: '*' :: '/' :: b.toList := by simp
  refine compile_of_run ⟨last, ?_⟩
  rw [List.append_nil, Reader.run_nil] at hrun
  rw [htext, Reader.run_doubleStar_start, hrun]
  simp

/-- What the reader makes of a double star behind a plain text. -/
theorem compile_end {a : String} (ha : IsPlain a) :
    GlobMatcher.compile (a ++ "/**") =
      .ok { pattern := a ++ "/**", tokens := a.toList.map .literal ++ [.recursiveSuffix] } := by
  have htext : (a ++ "/**").toList = a.toList ++ '/' :: ['*', '*'] := by simp
  refine compile_of_run ⟨some '*', ?_⟩
  rw [htext, run_isPlain_slash ha, Reader.run_doubleStar_end]
  simp

/-- What the reader makes of a double star between two plain texts. -/
theorem compile_between {a b : String} (ha : IsPlain a) (hb : IsPlain b) :
    GlobMatcher.compile (a ++ "/**/" ++ b) =
      .ok { pattern := a ++ "/**/" ++ b,
            tokens := a.toList.map .literal ++ .recursiveZeroOrMore :: b.toList.map .literal } := by
  obtain ⟨last, hrun⟩ := run_isPlain hb (.recursiveZeroOrMore :: (a.toList.map .literal).reverse)
    (some '/') []
  have htext : (a ++ "/**/" ++ b).toList = a.toList ++ '/' :: '*' :: '*' :: '/' :: b.toList := by
    simp
  refine compile_of_run ⟨last, ?_⟩
  rw [List.append_nil, Reader.run_nil] at hrun
  rw [htext, run_isPlain_slash ha, Reader.run_doubleStar_between, hrun]
  simp

/-! ## Matching -/

variable {before piece behind : List Nat}

/-- The text alone, or anything that ends in a slash with the text behind it. -/
theorem matches_start (l : List Char) (hbytes : ∀ n ∈ piece, n < 256) :
    (rowToExpr (.recursivePrefix :: l.map .literal)).Matches before piece behind ↔
      piece = l.flatMap charBytes ∨ ∃ x, piece = x ++ slash :: l.flatMap charBytes := by
  simp only [matches_cons, matches_literals]
  constructor
  · rintro ⟨x, _, rfl, hx, rfl⟩
    obtain ⟨hfront, -⟩ := List.forall_mem_append.mp hbytes
    rcases (matches_recursivePrefix hfront).mp hx with rfl | ⟨z, rfl⟩
    · exact Or.inl rfl
    · exact Or.inr ⟨z, by simp⟩
  · rintro (rfl | ⟨z, rfl⟩)
    · exact ⟨[], _, rfl, (matches_recursivePrefix (by simp)).mpr (Or.inl rfl), rfl⟩
    · rw [List.append_cons] at hbytes ⊢
      obtain ⟨hfront, -⟩ := List.forall_mem_append.mp hbytes
      exact ⟨_, _, rfl, (matches_recursivePrefix hfront).mpr (Or.inr ⟨z, rfl⟩), rfl⟩

/-- The text with a slash behind it and anything behind the slash. -/
theorem matches_end (l : List Char) (hbytes : ∀ n ∈ piece, n < 256) :
    (rowToExpr (l.map .literal ++ [.recursiveSuffix])).Matches before piece behind ↔
      ∃ x, piece = l.flatMap charBytes ++ slash :: x := by
  rw [matches_literals_append]
  simp only [matches_singleton]
  constructor
  · rintro ⟨rest, rfl, hrest⟩
    obtain ⟨-, hbelow⟩ := List.forall_mem_append.mp hbytes
    obtain ⟨x, rfl⟩ := (matches_recursiveSuffix hbelow).mp hrest
    exact ⟨x, rfl⟩
  · rintro ⟨x, rfl⟩
    obtain ⟨-, hbelow⟩ := List.forall_mem_append.mp hbytes
    exact ⟨_, rfl, (matches_recursiveSuffix hbelow).mpr ⟨x, rfl⟩⟩

/-- The two texts with one slash between them, or with two and anything between these. -/
theorem matches_between (l r : List Char) (hbytes : ∀ n ∈ piece, n < 256) :
    (rowToExpr (l.map .literal ++ .recursiveZeroOrMore :: r.map .literal)).Matches
        before piece behind ↔
      piece = l.flatMap charBytes ++ slash :: r.flatMap charBytes ∨
        ∃ x, piece = l.flatMap charBytes ++ slash :: (x ++ slash :: r.flatMap charBytes) := by
  rw [matches_literals_append]
  simp only [matches_cons, matches_literals]
  constructor
  · rintro ⟨_, rfl, y, _, rfl, hy, rfl⟩
    obtain ⟨-, hrest⟩ := List.forall_mem_append.mp hbytes
    obtain ⟨hmiddle, -⟩ := List.forall_mem_append.mp hrest
    rcases (matches_recursiveZeroOrMore hmiddle).mp hy with rfl | ⟨x, rfl⟩
    · exact Or.inl rfl
    · exact Or.inr ⟨x, by simp⟩
  · rintro (rfl | ⟨x, rfl⟩)
    · refine ⟨_, rfl, [slash], _, rfl, ?_, rfl⟩
      exact (matches_recursiveZeroOrMore (by simp [slash])).mpr (Or.inl rfl)
    · -- Both slashes belong to the double star, and so does what is between them.
      have hsplit : slash :: (x ++ slash :: r.flatMap charBytes) =
          slash :: (x ++ [slash]) ++ r.flatMap charBytes := by simp
      rw [hsplit] at hbytes ⊢
      obtain ⟨-, hrest⟩ := List.forall_mem_append.mp hbytes
      obtain ⟨hmiddle, -⟩ := List.forall_mem_append.mp hrest
      exact ⟨_, rfl, _, _, rfl, (matches_recursiveZeroOrMore hmiddle).mpr (Or.inr ⟨x, rfl⟩), rfl⟩

end Glob

/-! ## Matchers -/

namespace GlobMatcher

open Glob

theorem accepts_start {b : String} (hb : IsPlain b) (hne : b ≠ "") :
    ∃ m, compile ("**/" ++ b) = .ok m ∧ ∀ path : String, m.isMatch path = true ↔
      path = b ∨ ∃ front : String, path = front ++ "/" ++ b := by
  have hwhole : (.recursivePrefix :: b.toList.map .literal : List Token) ≠ [.recursivePrefix] := by
    simpa using hne
  refine ⟨_, compile_start hb, fun path => ?_⟩
  rw [isMatch_iff hwhole, matches_start _ fun n hn => Text.lt_of_mem_bytes hn, ← Text.ends_iff,
    ← Text.bytes_injective.eq_iff]
  rfl

theorem accepts_end {a : String} (ha : IsPlain a) :
    ∃ m, compile (a ++ "/**") = .ok m ∧ ∀ path : String, m.isMatch path = true ↔
      ∃ back : String, path = a ++ "/" ++ back := by
  refine ⟨_, compile_end ha, fun path => ?_⟩
  have hmem : Token.recursiveSuffix ∈ a.toList.map .literal ++ [.recursiveSuffix] := by simp
  rw [isMatch_iff (ne_of_mem hmem (by simp)), matches_end _ fun n hn => Text.lt_of_mem_bytes hn,
    ← Text.starts_iff]
  rfl

theorem accepts_between {a b : String} (ha : IsPlain a) (hb : IsPlain b) :
    ∃ m, compile (a ++ "/**/" ++ b) = .ok m ∧ ∀ path : String, m.isMatch path = true ↔
      path = a ++ "/" ++ b ∨ ∃ middle : String, path = a ++ "/" ++ middle ++ "/" ++ b := by
  refine ⟨_, compile_between ha hb, fun path => ?_⟩
  have hmem : Token.recursiveZeroOrMore ∈
      a.toList.map .literal ++ .recursiveZeroOrMore :: b.toList.map .literal := by simp
  rw [isMatch_iff (ne_of_mem hmem (by simp)),
    matches_between _ _ fun n hn => Text.lt_of_mem_bytes hn, ← Text.encloses_iff,
    ← Text.bytes_injective.eq_iff, Text.bytes_append, Text.bytes_append, Text.bytes_slash,
    List.append_assoc]
  rfl

/-- A double star crosses slashes in each of its places. At the start, in front of a slash and a
text, it accepts that text and whatever ends in a slash and the text. At the end, behind a text and
a slash, it accepts whatever starts with these. Between two texts with their slashes, it accepts the
two with one slash between them, or with two and anything in the middle. -/
theorem double_star_crosses_slashes {a b : String} (ha : IsPlain a) (hb : IsPlain b)
    (hne : b ≠ "") :
    (∃ m, compile ("**/" ++ b) = .ok m ∧ ∀ path : String, m.isMatch path = true ↔
        path = b ∨ ∃ front : String, path = front ++ "/" ++ b) ∧
      (∃ m, compile (a ++ "/**") = .ok m ∧ ∀ path : String, m.isMatch path = true ↔
        ∃ back : String, path = a ++ "/" ++ back) ∧
      ∃ m, compile (a ++ "/**/" ++ b) = .ok m ∧ ∀ path : String, m.isMatch path = true ↔
        path = a ++ "/" ++ b ∨ ∃ middle : String, path = a ++ "/" ++ middle ++ "/" ++ b :=
  ⟨accepts_start hb hne, accepts_end ha, accepts_between ha hb⟩

/-- Directories are skipped in front of a name with a character of two bytes, and an empty one
between two slashes. -/
theorem double_star_crosses_slashes_of_empty_directory :
    IsPlain "src" ∧ IsPlain "é!" ∧ "é!" ≠ "" ∧
      (∃ m, compile "**/é!" = .ok m ∧ m.isMatch "a/b/é!" = true) ∧
      (∃ m, compile "src/**" = .ok m ∧ m.isMatch "src/" = true) ∧
      ∃ m, compile "src/**/é!" = .ok m ∧ m.isMatch "src//é!" = true := by
  have hsrc : IsPlain "src" := by simp [IsPlain]
  have hname : IsPlain "é!" := by simp [IsPlain]
  have hne : "é!" ≠ "" := by decide
  obtain ⟨⟨m₁, hm₁, hstart⟩, ⟨m₂, hm₂, hend⟩, m₃, hm₃, hbetween⟩ :=
    double_star_crosses_slashes hsrc hname hne
  exact ⟨hsrc, hname, hne, ⟨m₁, hm₁, (hstart _).mpr (Or.inr ⟨"a/b", rfl⟩)⟩,
    ⟨m₂, hm₂, (hend _).mpr ⟨"", rfl⟩⟩, m₃, hm₃, (hbetween _).mpr (Or.inr ⟨"", rfl⟩)⟩

end GlobMatcher

end PathWatch
