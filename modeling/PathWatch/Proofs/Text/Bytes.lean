import Mathlib
import PathWatch.Text.Basic
/-!
# Texts and their bytes

No two texts have the same bytes. A character below 128 is one byte, and no other character has that
byte; so where the bytes of a text can be cut at such a character, the text itself can.
-/

namespace PathWatch.Text

/-! ## Texts -/

/-- No two texts have the same bytes. -/
theorem bytes_injective : Function.Injective bytes := by
  intro a b hab
  have hmap : ∀ s, bytes s = (s.toList.flatMap String.utf8EncodeChar).map UInt8.toNat := by
    intro s
    rw [bytes, List.map_flatMap]
    rfl
  rw [hmap, hmap] at hab
  have hencoded := List.map_injective_iff.mpr (fun _ _ => UInt8.toNat_inj.mp) hab
  rw [← String.toByteArray_inj, ← String.utf8Encode_toList, ← String.utf8Encode_toList]
  exact congrArg List.toByteArray hencoded

/-- The bytes of two texts stand one behind the other. -/
theorem bytes_append (a b : String) : bytes (a ++ b) = bytes a ++ bytes b := by
  rw [bytes, String.toList_append, List.flatMap_append]
  rfl

theorem bytes_ofList (l : List Char) : bytes (String.ofList l) = l.flatMap charBytes := by
  rw [bytes, String.toList_ofList]

theorem lt_of_mem_bytes {s : String} {b : Nat} (hb : b ∈ bytes s) : b < 256 := by
  obtain ⟨c, -, hc⟩ := List.mem_flatMap.mp hb
  obtain ⟨u, -, rfl⟩ := List.mem_map.mp hc
  exact u.toNat_lt

/-! ## Characters of one byte -/

/-- A character is one byte, or all of its bytes are above those of one byte. -/
theorem charBytes_cases (c : Char) :
    charBytes c = [c.toNat] ∨ ∀ b ∈ charBytes c, 0x80 ≤ b := by
  unfold charBytes String.utf8EncodeChar
  dsimp only
  split_ifs with hone
  · left
    rw [List.map_singleton, UInt8.toNat_ofNat', Nat.mod_eq_of_lt (by omega)]
    rfl
  all_goals
    right
    intro b hb
    simp only [List.map_cons, List.map_nil, List.mem_cons, List.not_mem_nil, or_false,
      UInt8.toNat_ofNat'] at hb
    omega

/-- A character below 128 is one byte. -/
theorem charBytes_of_lt {c : Char} (hc : c.toNat < 0x80) : charBytes c = [c.toNat] := by
  unfold charBytes String.utf8EncodeChar
  dsimp only
  rw [if_pos (show c.val.toNat ≤ 127 by change c.toNat ≤ 127; omega), List.map_singleton,
    UInt8.toNat_ofNat']
  exact congrArg (fun n => [n]) (Nat.mod_eq_of_lt (show c.toNat < 2 ^ 8 by omega))

/-- The byte of a character of one byte is no part of another character. -/
theorem eq_of_mem_charBytes {c d : Char} (hd : d.toNat < 0x80) (hmem : d.toNat ∈ charBytes c) :
    c = d := by
  rcases charBytes_cases c with hone | hmany
  · rw [hone, List.mem_singleton] at hmem
    rw [← Char.ofNat_toNat c, ← hmem, Char.ofNat_toNat]
  · have hle := hmany _ hmem
    omega

/-- A byte below 128 is a character of the text, never a part of another one. -/
theorem toNat_mem_bytes_iff {s : String} {d : Char} (hd : d.toNat < 0x80) :
    d.toNat ∈ bytes s ↔ d ∈ s.toList := by
  constructor
  · intro hmem
    obtain ⟨c, hc, hbyte⟩ := List.mem_flatMap.mp hmem
    exact eq_of_mem_charBytes hd hbyte ▸ hc
  · intro hmem
    refine List.mem_flatMap.mpr ⟨d, hmem, ?_⟩
    rw [charBytes_of_lt hd]
    exact List.mem_singleton_self _

/-! ## Cutting -/

/-- Where the bytes of characters are cut at a character of one byte, the characters are. -/
theorem exists_of_flatMap_charBytes_eq {d : Char} (hd : d.toNat < 0x80) {l : List Char}
    {x y : List Nat} (h : l.flatMap charBytes = x ++ d.toNat :: y) :
    ∃ before behind, l = before ++ d :: behind ∧ before.flatMap charBytes = x ∧
      behind.flatMap charBytes = y := by
  induction l generalizing x with
  | nil => simp at h
  | cons c l ih =>
    rw [List.flatMap_cons, List.append_eq_append_iff] at h
    rcases h with ⟨x', rfl, hrest⟩ | ⟨z, hchar, hrest⟩
    · obtain ⟨before, behind, rfl, rfl, rfl⟩ := ih hrest
      exact ⟨c :: before, behind, rfl, rfl, rfl⟩
    · rcases z with _ | ⟨b, z⟩
      · -- The cut is just behind the first character.
        obtain ⟨before, behind, rfl, hnil, rfl⟩ := ih (x := []) hrest.symm
        refine ⟨c :: before, behind, rfl, ?_, rfl⟩
        rw [List.flatMap_cons, hnil, hchar, List.append_nil, List.append_nil]
      · -- The cut is at the first character, which then is the one of the byte.
        obtain ⟨rfl, rfl⟩ := List.cons.inj hrest
        have hmem : d.toNat ∈ charBytes c := by
          rw [hchar]
          simp
        obtain rfl := eq_of_mem_charBytes hd hmem
        rw [charBytes_of_lt hd, eq_comm, List.append_eq_singleton_iff] at hchar
        rcases hchar with ⟨rfl, hz⟩ | ⟨-, hz⟩
        · obtain ⟨-, rfl⟩ := List.cons.inj hz
          exact ⟨[], l, rfl, rfl, rfl⟩
        · exact absurd hz (List.cons_ne_nil _ _)

/-- Where the bytes of a text are cut at a character of one byte, the text is. -/
theorem exists_of_bytes_eq {d : Char} (hd : d.toNat < 0x80) {s : String} {x y : List Nat}
    (h : bytes s = x ++ d.toNat :: y) :
    ∃ before behind : String, s = before ++ String.singleton d ++ behind ∧ bytes before = x ∧
      bytes behind = y := by
  obtain ⟨l, r, hl, rfl, rfl⟩ := exists_of_flatMap_charBytes_eq hd h
  refine ⟨String.ofList l, String.ofList r, ?_, bytes_ofList l, bytes_ofList r⟩
  rw [← String.ofList_toList (s := s), hl]
  simp [← String.toList_inj]

end PathWatch.Text
