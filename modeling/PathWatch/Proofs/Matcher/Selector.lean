import Mathlib
import PathWatch.Matcher.Registry
import PathWatch.Proofs.Text.Bytes
/-!
# Tags and selectors

Tags are compared by folding them, which tells two tags apart unless they differ in the case of
ASCII letters only. Folded tags are listed in the order of their bytes, and no two texts have the
same bytes. A selector with a colon is a tag and a pattern in one way only, as long as the tag has
no colon itself.
-/

namespace PathWatch

/-! ## The order of bytes -/

namespace Text

/-- Tags are in the order of their bytes. -/
theorem before_iff (a b : String) : before a b = true ↔ bytes a < bytes b := by
  simp [before]

theorem before_trans {a b c : String} (hab : before a b = true) (hbc : before b c = true) :
    before a c = true :=
  (before_iff a c).mpr (((before_iff a b).mp hab).trans ((before_iff b c).mp hbc))

/-- Of two texts one comes before the other one. -/
theorem before_of_not_before {a b : String} (hne : a ≠ b) (hnot : ¬ before a b = true) :
    before b a = true := by
  rw [before_iff] at hnot ⊢
  exact lt_of_le_of_ne (not_lt.mp hnot) fun hbytes => hne (bytes_injective hbytes).symm

/-! ## Cutting at the first mark -/

/-- Without the mark there is nothing to cut. -/
theorem cut_of_not_mem {mark : Char} {s : List Char} (hs : mark ∉ s) : cut mark s = (s, none) := by
  have hrest : s.dropWhile (· ≠ mark) = [] :=
    List.dropWhile_eq_nil_iff.mpr fun c hc => by simpa using fun h : c = mark => hs (h ▸ hc)
  simp only [cut, hrest]

/-- A text is cut at the first mark, whatever follows it. -/
theorem cut_append {mark : Char} {l : List Char} (hl : mark ∉ l) (r : List Char) :
    cut mark (l ++ mark :: r) = (l, some r) := by
  have hkept : ∀ c ∈ l, decide (c ≠ mark) = true := by
    intro c hc
    simpa using fun h : c = mark => hl (h ▸ hc)
  have hrest : (l ++ mark :: r).dropWhile (· ≠ mark) = mark :: r := by
    rw [List.dropWhile_append_of_pos hkept]
    simp
  have hfirst : (l ++ mark :: r).takeWhile (· ≠ mark) = l := by
    rw [List.takeWhile_append_of_pos hkept]
    simp
  simp only [cut, hrest, hfirst]

end Text

/-! ## Folding -/

/-- Whether two characters are the same up to the case of ASCII letters: they are equal, or one of
them is a capital and the other one is its small letter, which stands 32 places behind it. -/
def SameLetter (c d : Char) : Prop :=
  c = d ∨ (c.isUpper = true ∧ d.toNat = c.toNat + 32) ∨ (d.isUpper = true ∧ c.toNat = d.toNat + 32)

instance : DecidableRel SameLetter := fun _ _ => inferInstanceAs (Decidable (_ ∨ _ ∨ _))

/-- Whether two tags are the same up to the case of ASCII letters. -/
def SameTag (a b : String) : Prop :=
  List.Forall₂ SameLetter a.toList b.toList

instance : DecidableRel SameTag := fun a b =>
  inferInstanceAs (Decidable (List.Forall₂ SameLetter a.toList b.toList))

theorem isUpper_iff (c : Char) : c.isUpper = true ↔ 65 ≤ c.toNat ∧ c.toNat ≤ 90 := by
  simp only [Char.isUpper, decide_eq_true_eq, UInt32.le_iff_toNat_le]
  rfl

/-- Folding moves the capital letters A to Z by 32 and nothing else. -/
theorem toNat_toLower (c : Char) :
    c.toLower.toNat = if c.isUpper = true then c.toNat + 32 else c.toNat := by
  have hcapital : c.isUpper = true ↔ c.val ≥ 'A'.val ∧ c.val ≤ 'Z'.val := by simp [Char.isUpper]
  rw [Char.toLower]
  by_cases hc : c.isUpper = true
  · have hle : c.val.toNat ≤ 90 := ((isUpper_iff c).mp hc).2
    have hlt : c.val.toNat + 32 < 4294967296 := by omega
    rw [dif_pos (hcapital.mp hc), if_pos hc]
    show (c.val + ('a'.val - 'A'.val)).toNat = c.val.toNat + 32
    rw [UInt32.toNat_add]
    exact Nat.mod_eq_of_lt hlt
  · rw [dif_neg (fun h => hc (hcapital.mpr h)), if_neg hc]

/-- Folding forgets the case of ASCII letters and nothing else. -/
theorem toLower_eq_toLower_iff (c d : Char) : c.toLower = d.toLower ↔ SameLetter c d := by
  have heq : ∀ x y : Char, x = y ↔ x.toNat = y.toNat := fun x y => Char.toNat_inj.symm
  rw [SameLetter, heq c.toLower, heq c, toNat_toLower, toNat_toLower]
  simp only [isUpper_iff]
  split_ifs <;> omega

/-- Tags fold to the same one just if they differ in the case of letters only. -/
theorem foldTag_eq_foldTag_iff (a b : String) : foldTag a = foldTag b ↔ SameTag a b := by
  rw [foldTag, foldTag, String.ofList_inj, SameTag, ← List.forall₂_eq_eq_eq,
    List.forall₂_map_left_iff, List.forall₂_map_right_iff]
  simp only [toLower_eq_toLower_iff]

/-! ## Selectors -/

namespace Registry

variable {tag pattern selector : String}

/-- A selector without a colon names no tag. -/
theorem splitSelector_of_not_mem (hselector : ':' ∉ selector.toList) :
    splitSelector selector = none := by
  rw [splitSelector, Text.cut_of_not_mem hselector]

/-- A selector is cut at its first colon, whatever colons the pattern has. -/
theorem splitSelector_append (htag : ':' ∉ tag.toList) (pattern : String) :
    splitSelector (tag ++ ":" ++ pattern) = some (tag, pattern) := by
  have hlist : (tag ++ ":" ++ pattern).toList = tag.toList ++ ':' :: pattern.toList := by simp
  rw [splitSelector, hlist, Text.cut_append htag]
  simp

/-- A selector with a colon is a tag without a colon, a colon and a pattern, in one way only. -/
theorem existsUnique_split (hselector : ':' ∈ selector.toList) :
    ∃! parts : String × String,
      selector = parts.1 ++ ":" ++ parts.2 ∧ ':' ∉ parts.1.toList := by
  obtain ⟨l, r, hlist, hl⟩ := List.eq_append_cons_of_mem hselector
  have hfirst : ':' ∉ (String.ofList l).toList := by simpa using hl
  refine ⟨(String.ofList l, String.ofList r), ⟨?_, hfirst⟩, ?_⟩
  · rw [← String.toList_inj, hlist]
    simp
  · -- Both ways of parting it are what the cut gives.
    rintro ⟨tag, pattern⟩ ⟨hparts, htag⟩
    have hgiven := splitSelector_append htag pattern
    have hfound := splitSelector_append hfirst (String.ofList r)
    have hsame : tag ++ ":" ++ pattern = String.ofList l ++ ":" ++ String.ofList r := by
      rw [← hparts, ← String.toList_inj, hlist]
      simp
    rw [hsame, hfound] at hgiven
    exact (Option.some.inj hgiven).symm

end Registry

end PathWatch
