import Mathlib
import PathWatch.Proofs.Glob.Meaning
import PathWatch.Proofs.Glob.Reading
/-!
# Globs without double stars

A glob without classes and double stars is a row of items. Its matcher accepts a path just if the
bytes of the path can be cut into pieces, one for each item in order.
-/

namespace PathWatch

open Text (charBytes)

namespace Glob

/-! ## Items -/

/-- A part of a glob without classes and double stars. -/
inductive Item where
  | literal (w : Written)
  /-- A comma outside of groups, which stands for itself. -/
  | comma
  /-- A question mark. -/
  | any
  | star
  /-- Rows of characters between braces, of which one is taken. -/
  | group (rows : List (List Written)) (hne : rows ≠ []) (hrows : [] ∉ rows)

namespace Item

/-- The signs of an item. -/
def text : Item → List Char
  | .literal w => w.signs
  | .comma => [',']
  | .any => ['?']
  | .star => ['*']
  | .group rows _ _ => '{' :: (List.intercalate [','] (rows.map signsOf) ++ ['}'])

/-- What an item matches: a literal its own bytes, a question mark one byte other than a slash, a
star any number of them, and a group one of its rows. -/
def Takes : Item → List Nat → Prop
  | .literal w, piece => piece = charBytes w.char
  | .comma, piece => piece = charBytes ','
  | .any, piece => ∃ b, piece = [b] ∧ b ≠ slash
  | .star, piece => slash ∉ piece
  | .group rows _ _, piece => ∃ row ∈ rows, piece = (charsOf row).flatMap charBytes

/-- Whether an item stands for one character. -/
def isLiteral : Item → Bool
  | .literal _ | .comma => true
  | _ => false

/-- The characters that an item writes out. -/
def chars : Item → List Char
  | .literal w => [w.char]
  | .comma => [',']
  | .any | .star => []
  | .group rows _ _ => rows.flatMap charsOf

/-- The token of an item. -/
def token : Item → Token
  | .literal w => .literal w.char
  | .comma => .literal ','
  | .any => .any
  | .star => .zeroOrMore
  | .group rows _ _ => .alternates (rows.map fun row => (charsOf row).map .literal)

end Item

/-! ## Rows of items -/

/-- The text of a row of items. -/
def itemsText (items : List Item) : String :=
  String.ofList (items.flatMap Item.text)

/-- No two stars stand side by side. -/
def SingleStars (items : List Item) : Prop :=
  items.IsChain fun i j => ¬ (i = .star ∧ j = .star)

/-- Bytes can be cut into pieces that the items match in order. -/
def Cuts (items : List Item) (bytes : List Nat) : Prop :=
  ∃ pieces : List (List Nat), bytes = pieces.flatten ∧ List.Forall₂ Item.Takes items pieces

theorem cuts_nil {bytes : List Nat} : Cuts [] bytes ↔ bytes = [] := by
  constructor
  · rintro ⟨_, rfl, ⟨⟩⟩
    rfl
  · rintro rfl
    exact ⟨[], rfl, .nil⟩

/-- The first item takes the first part, and the other items cut the rest. -/
theorem cuts_cons {i : Item} {items : List Item} {bytes : List Nat} :
    Cuts (i :: items) bytes ↔ ∃ x y, bytes = x ++ y ∧ i.Takes x ∧ Cuts items y := by
  constructor
  · rintro ⟨_, rfl, _ | ⟨hx, hpieces⟩⟩
    exact ⟨_, _, List.flatten_cons, hx, _, rfl, hpieces⟩
  · rintro ⟨x, _, rfl, hx, pieces, rfl, hpieces⟩
    exact ⟨x :: pieces, List.flatten_cons.symm, .cons hx hpieces⟩

/-! ## Reading -/

namespace Item

/-- Only a star begins with a star. -/
theorem head?_text_append {i : Item} (hi : i ≠ .star) (s : List Char) :
    (i.text ++ s).head? ≠ some '*' := by
  cases i with
  | literal w =>
    cases w with
    | plain c hc =>
      rintro ⟨⟩
      simp [specialSigns] at hc
    | escaped c => rintro ⟨⟩
  | star => exact absurd rfl hi
  | _ => rintro ⟨⟩

/-- One item is read as one token, if no star follows a star. -/
theorem run_text (i : Item) (tokens : List Token) (previous : Option Char) {s : List Char}
    (hs : i = .star → s.head? ≠ some '*') :
    ∃ last, ({ tokens, previous } : Reader).run (i.text ++ s) =
      ({ tokens := i.token :: tokens, previous := last } : Reader).run s := by
  cases i with
  | literal w => exact ⟨_, Reader.run_written tokens [] previous s w⟩
  | comma => exact ⟨_, Reader.run_comma tokens previous s⟩
  | any => exact ⟨_, Reader.run_any tokens [] previous s⟩
  | star => exact ⟨_, Reader.run_star tokens [] previous (hs rfl)⟩
  | group rows hne hrows =>
    refine ⟨some '}', ?_⟩
    rw [text, List.cons_append, List.append_assoc]
    exact Reader.run_group tokens [] previous s hne

end Item

/-- A list of items is read as the list of their tokens. -/
theorem run_items {items : List Item} (hstars : SingleStars items) (tokens : List Token)
    (previous : Option Char) :
    ∃ last, ({ tokens, previous } : Reader).run (items.flatMap Item.text) =
      .ok { tokens := (items.map Item.token).reverse ++ tokens, previous := last } := by
  induction items generalizing tokens previous with
  | nil => exact ⟨previous, rfl⟩
  | cons i items ih =>
    -- What is read for a star hangs on the sign behind it, which is the next item's first one.
    have hnext : i = .star → (items.flatMap Item.text).head? ≠ some '*' := by
      rintro rfl
      cases items with
      | nil => simp
      | cons j items =>
        have hj : j ≠ .star := fun h => (List.isChain_cons_cons.mp hstars).1 ⟨rfl, h⟩
        exact Item.head?_text_append hj _
    obtain ⟨last, hi⟩ := i.run_text tokens previous hnext
    obtain ⟨last', hrest⟩ := ih (List.IsChain.tail hstars) (i.token :: tokens) last
    refine ⟨last', ?_⟩
    rw [List.flatMap_cons, hi, hrest]
    simp

/-! ## Matching -/

variable {before piece behind : List Nat}

/-- The token of an item takes the pieces that the item stands for. -/
theorem matches_token (i : Item) (hbytes : ∀ b ∈ piece, b < 256) :
    i.token.toExpr.Matches before piece behind ↔ i.Takes piece := by
  cases i with
  | literal w => exact matches_literal w.char
  | comma => exact matches_literal ','
  | any => exact matches_any hbytes
  | star => exact matches_zeroOrMore hbytes
  | group rows hne hrows =>
    have hne' : rows.map charsOf ≠ [] := by simpa using hne
    have hrows' : [] ∉ rows.map charsOf := by simpa [charsOf] using hrows
    have htoken : (Item.group rows hne hrows).token =
        .alternates ((rows.map charsOf).map fun l => l.map .literal) := by
      rw [List.map_map]
      rfl
    rw [htoken, matches_alternates hne' hrows', Item.Takes]
    simp only [List.mem_map, exists_exists_and_eq_and]

/-- The tokens of a list of items take what can be cut into pieces for them. -/
theorem matches_items (items : List Item) (hbytes : ∀ b ∈ piece, b < 256) :
    (rowToExpr (items.map Item.token)).Matches before piece behind ↔ Cuts items piece := by
  induction items generalizing before piece with
  | nil => exact cuts_nil.symm
  | cons i items ih =>
    rw [List.map_cons, matches_cons, cuts_cons]
    refine exists_congr fun x => exists_congr fun y => and_congr_right ?_
    rintro rfl
    obtain ⟨hfirst, hrest⟩ := List.forall_mem_append.mp hbytes
    rw [matches_token i hfirst, ih hrest]

/-! ## Special rows -/

theorem Item.takes_iff_of_isLiteral {i : Item} (hi : i.isLiteral = true) :
    i.Takes piece ↔ piece = i.chars.flatMap charBytes := by
  cases i with
  | literal w => rw [Item.Takes, Item.chars, List.flatMap_singleton]
  | comma => rw [Item.Takes, Item.chars, List.flatMap_singleton]
  | _ => cases hi

/-- Literals match the bytes of their characters and nothing else. -/
theorem cuts_literals {items : List Item} (hliterals : ∀ i ∈ items, i.isLiteral = true)
    (bytes : List Nat) :
    Cuts items bytes ↔ bytes = (items.flatMap Item.chars).flatMap charBytes := by
  induction items generalizing bytes with
  | nil => exact cuts_nil
  | cons i items ih =>
    obtain ⟨hi, hrest⟩ := List.forall_mem_cons.mp hliterals
    simp only [cuts_cons, Item.takes_iff_of_isLiteral hi, ih hrest, List.flatMap_cons,
      List.flatMap_append]
    constructor
    · rintro ⟨_, _, rfl, rfl, rfl⟩
      rfl
    · rintro rfl
      exact ⟨_, _, rfl, rfl, rfl⟩

/-- Among the bytes of characters there is a slash only for the slash itself. -/
theorem slash_mem_flatMap_iff (l : List Char) : slash ∈ l.flatMap charBytes ↔ '/' ∈ l := by
  have hbytes := Text.toNat_mem_bytes_iff (s := String.ofList l) (d := '/') (by decide)
  rwa [Text.bytes_ofList, String.toList_ofList] at hbytes

/-- Only a slash that is written out matches a slash. -/
theorem Item.Takes.slash_mem {i : Item} (htakes : i.Takes piece) (hslash : slash ∈ piece) :
    '/' ∈ i.chars := by
  cases i with
  | literal w =>
    exact (slash_mem_flatMap_iff _).mp ((Item.takes_iff_of_isLiteral rfl).mp htakes ▸ hslash)
  | comma =>
    exact (slash_mem_flatMap_iff _).mp ((Item.takes_iff_of_isLiteral rfl).mp htakes ▸ hslash)
  | any =>
    obtain ⟨b, rfl, hb⟩ := htakes
    exact absurd (List.mem_singleton.mp hslash).symm hb
  | star => exact absurd hslash htakes
  | group rows hne hrows =>
    obtain ⟨row, hrow, rfl⟩ := htakes
    exact List.mem_flatMap.mpr ⟨row, hrow, (slash_mem_flatMap_iff _).mp hslash⟩

/-- Nothing but a slash that is written out takes the slash of a piece. -/
theorem Cuts.slash_mem {items : List Item} (hcuts : Cuts items piece) (hslash : slash ∈ piece) :
    '/' ∈ items.flatMap Item.chars := by
  induction items generalizing piece with
  | nil =>
    rw [cuts_nil.mp hcuts] at hslash
    exact absurd hslash List.not_mem_nil
  | cons i items ih =>
    obtain ⟨x, y, rfl, hx, hy⟩ := cuts_cons.mp hcuts
    rw [List.flatMap_cons]
    rcases List.mem_append.mp hslash with hfirst | hrest
    · exact List.mem_append_left _ (hx.slash_mem hfirst)
    · exact List.mem_append_right _ (ih hy hrest)

end Glob

/-! ## Matchers -/

namespace GlobMatcher

open Glob

/-- A glob without classes and double stars can always be compiled, and its matcher accepts the
paths whose bytes can be cut into pieces that its items match in order. So a glob of literals
accepts only the text of its characters, and a path with a slash is accepted only if a slash is
written out. -/
theorem accepts_cut_paths (items : List Item) (hstars : SingleStars items) :
    ∃ m, compile (itemsText items) = .ok m ∧ m.pattern = itemsText items ∧
      (∀ path, m.isMatch path = true ↔ Cuts items (Text.bytes path)) ∧
      ((∀ i ∈ items, i.isLiteral = true) → ∀ path,
        m.isMatch path = true ↔ path = String.ofList (items.flatMap Item.chars)) ∧
      ∀ path, m.isMatch path = true → '/' ∈ path.toList → '/' ∈ items.flatMap Item.chars := by
  obtain ⟨last, hrun⟩ := run_items hstars [] none
  rw [List.append_nil, ← String.toList_ofList (l := items.flatMap Item.text)] at hrun
  have hne : items.map Item.token ≠ [.recursivePrefix] := by
    intro htokens
    obtain ⟨i, -, hi⟩ := List.mem_map.mp (htokens ▸ List.mem_singleton_self Token.recursivePrefix)
    cases i <;> cases hi
  refine ⟨_, compile_of_run ⟨last, hrun⟩, rfl, ?_⟩
  have hcuts : ∀ path, GlobMatcher.isMatch ⟨itemsText items, items.map Item.token⟩ path = true ↔
      Cuts items (Text.bytes path) := fun path =>
    (isMatch_iff hne path).trans (matches_items items fun b hb => Text.lt_of_mem_bytes hb)
  refine ⟨hcuts, fun hliterals path => ?_, fun path hmatch hslash => ?_⟩
  · rw [← Text.bytes_injective.eq_iff, Text.bytes_ofList]
    exact (hcuts path).trans (cuts_literals hliterals _)
  · exact ((hcuts path).mp hmatch).slash_mem
      ((Text.toNat_mem_bytes_iff (show ('/' : Char).toNat < 0x80 by decide)).mpr hslash)

/-- A star, an escaped star, a group with a character of two bytes, and a question mark. -/
theorem accepts_cut_paths_of_group :
    let items : List Item :=
      [.star, .literal (.escaped '*'), .literal (.plain '.' (by decide)),
        .group [[.plain 'r' (by decide), .plain 's' (by decide)], [.plain 'é' (by decide)]]
          (by simp) (by simp), .any]
    SingleStars items ∧ ∃ m, compile "*\\*.\x7brs,é\x7d?" = .ok m ∧
      m.isMatch ".a\n*.é~" = true ∧ m.isMatch "a/*.rs~" = false := by
  intro items
  have hstars : SingleStars items := by simp [SingleStars, items]
  obtain ⟨m, hm, -, hcuts, -, hslash⟩ := accepts_cut_paths items hstars
  have htext : itemsText items = "*\\*.\x7brs,é\x7d?" := by rfl
  refine ⟨hstars, m, htext ▸ hm, (hcuts _).mpr ?_, ?_⟩
  · exact ⟨[[0x2E, 0x61, 0x0A], [0x2A], [0x2E], [0xC3, 0xA9], [0x7E]], by decide,
      .cons (show slash ∉ _ by decide) <| .cons rfl <| .cons rfl <|
        .cons ⟨[.plain 'é' (by decide)], by simp, rfl⟩ <| .cons ⟨0x7E, rfl, by decide⟩ .nil⟩
  · by_contra hmatch
    have hwritten := hslash "a/*.rs~" (by simpa using hmatch) (by decide)
    revert hwritten
    decide

end GlobMatcher

end PathWatch
