/-
**UTF-8, with a replacement for what is ill-formed.**

The decoder reads a lead byte, which says how many bytes are owed and in what range the next one lies, and then the
bytes that are owed. U+FFFD stands for each byte that begins no sequence and for each sequence that is broken off or
left open: as far as it goes, it is one character.

* `utf8` — the decoder.
* `decode_encode` — the encoding of a text is decoded to the text.
* `whole_encoded` — between the encodings of texts no sequence is split.
-/

import Mathlib.Tactic.Common
import SkillArena.Strings.Decoder

namespace Strings

namespace Utf8

/-- **An open sequence**: the value read so far, the range of the next byte, and how many bytes are owed after it.
-/
structure Sequence where
  owed : ℕ
  value : ℕ
  lower : ℕ := 0x80
  upper : ℕ := 0xBF
  least : 0x80 ≤ lower := by decide
  most : upper ≤ 0xBF := by decide

/-- U+FFFD. -/
def replacement : Char := '�'

/-- A byte outside of a sequence. After E0 and F0 the next byte is not so low that a shorter sequence would do,
after ED not so high as a surrogate, and after F4 not beyond the last code point. -/
def first (b : ℕ) : Char ⊕ Sequence :=
  if b ≤ 0x7F then .inl (Char.ofNat b)
  else if b < 0xC2 then .inl replacement
  else if b ≤ 0xDF then .inr { owed := 0, value := b - 0xC0 }
  else if b ≤ 0xEF then .inr
    { owed := 1, value := b - 0xE0
      lower := if b = 0xE0 then 0xA0 else 0x80, upper := if b = 0xED then 0x9F else 0xBF
      least := by split <;> decide, most := by split <;> decide }
  else if b ≤ 0xF4 then .inr
    { owed := 2, value := b - 0xF0
      lower := if b = 0xF0 then 0x90 else 0x80, upper := if b = 0xF4 then 0x8F else 0xBF
      least := by split <;> decide, most := by split <;> decide }
  else .inl replacement

/-- The byte is in the range of the next one. -/
def Sequence.allows (sequence : Sequence) (b : ℕ) : Bool := sequence.lower ≤ b && b ≤ sequence.upper

/-- A byte that goes on with a sequence. -/
def Sequence.add (sequence : Sequence) (b : ℕ) : Char ⊕ Sequence :=
  let value := sequence.value * 64 + (b - 0x80)
  if sequence.owed = 0 then .inl (Char.ofNat value)
  else .inr { owed := sequence.owed - 1, value }

theorem Sequence.allows_iff {sequence : Sequence} {b : ℕ} :
    sequence.allows b = true ↔ sequence.lower ≤ b ∧ b ≤ sequence.upper := by
  simp [Sequence.allows]

theorem first_of_allows {sequence : Sequence} {b : ℕ} (allows : sequence.allows b = true) :
    first b = .inl replacement := by
  obtain ⟨low, high⟩ := Sequence.allows_iff.mp allows
  have least := sequence.least
  have most := sequence.most
  unfold first
  rw [if_neg (by omega), if_pos (by omega)]

end Utf8

/-- **The decoder of UTF-8.** -/
def utf8 : Decoder UInt8 Utf8.Sequence Char where
  replacement := Utf8.replacement
  first byte := Utf8.first byte.toNat
  next sequence byte := if sequence.allows byte.toNat then some (sequence.add byte.toNat) else none
  apart continues := ⟨_, Utf8.first_of_allows (Option.ite_none_right_eq_some.mp continues).1⟩

example : utf8.decode [0x61, 0xC3, 0xA9, 0xE2, 0x82, 0xFF] = ['a', 'é', '�', '�'] := by decide

/-! ### Encoded texts -/

/-- The encoding of a text. -/
def encode (text : List Char) : List UInt8 := text.flatMap String.utf8EncodeChar

namespace Utf8

theorem read_lead {n : ℕ} (byte : n < 256) (rest : List UInt8) :
    utf8.read none (UInt8.ofNat n :: rest) =
      ((Decoder.emit (first n)).1 ++ (utf8.read (Decoder.emit (first n)).2 rest).1,
        (utf8.read (Decoder.emit (first n)).2 rest).2) := by
  have value : (UInt8.ofNat n).toNat = n := Nat.mod_eq_of_lt byte
  have lead : utf8.first (UInt8.ofNat n) = first n := congrArg first value
  simp only [Decoder.read, Decoder.step, lead]

theorem read_next {n : ℕ} (byte : n < 256) {sequence : Sequence} (allows : sequence.allows n = true)
    (rest : List UInt8) : utf8.read (some sequence) (UInt8.ofNat n :: rest) =
      ((Decoder.emit (sequence.add n)).1 ++ (utf8.read (Decoder.emit (sequence.add n)).2 rest).1,
        (utf8.read (Decoder.emit (sequence.add n)).2 rest).2) := by
  have value : (UInt8.ofNat n).toNat = n := Nat.mod_eq_of_lt byte
  have continues : utf8.next sequence (UInt8.ofNat n) = some (sequence.add n) := by
    show (if sequence.allows (UInt8.ofNat n).toNat then _ else _) = _
    rw [value, if_pos allows]
  simp only [Decoder.read, Decoder.step_continuing continues]

theorem read_last {sequence : Sequence} (last : sequence.owed = 0) {d : ℕ} (tail : d < 64)
    (range : sequence.lower ≤ d + 0x80 ∧ d + 0x80 ≤ sequence.upper) :
    utf8.read (some sequence) [UInt8.ofNat (d + 0x80)] = ([Char.ofNat (sequence.value * 64 + d)], none) := by
  rw [read_next (by omega) (Sequence.allows_iff.mpr range), Sequence.add, if_pos last, Nat.add_sub_cancel]
  rfl

theorem read_tail {sequence : Sequence} {owed : ℕ} (more : sequence.owed = owed + 1) {d : ℕ} (tail : d < 64)
    (range : sequence.lower ≤ d + 0x80 ∧ d + 0x80 ≤ sequence.upper) (rest : List UInt8) :
    utf8.read (some sequence) (UInt8.ofNat (d + 0x80) :: rest) =
      utf8.read (some { owed, value := sequence.value * 64 + d }) rest := by
  rw [read_next (by omega) (Sequence.allows_iff.mpr range), Sequence.add, if_neg (by omega), Nat.add_sub_cancel,
    more, Nat.add_sub_cancel]
  rfl

theorem read_first {n : ℕ} {sequence : Sequence} (byte : n < 256) (lead : first n = .inr sequence)
    (rest : List UInt8) : utf8.read none (UInt8.ofNat n :: rest) = utf8.read (some sequence) rest := by
  rw [read_lead byte, lead]
  rfl

theorem first_two {lead : ℕ} (least : 2 ≤ lead) (most : lead < 32) :
    first (lead + 0xC0) = .inr { owed := 0, value := lead } := by
  rw [first, if_neg (by omega), if_neg (by omega), if_pos (by omega)]
  simp

theorem first_three {lead d : ℕ} (most : lead < 16) (tail : d < 64) (shortest : lead = 0 → 32 ≤ d)
    (unpaired : lead = 13 → d < 32) : ∃ sequence : Sequence, first (lead + 0xE0) = .inr sequence ∧
      sequence.owed = 1 ∧ sequence.value = lead ∧ sequence.lower ≤ d + 0x80 ∧ d + 0x80 ≤ sequence.upper := by
  rw [first, if_neg (by omega), if_neg (by omega), if_neg (by omega), if_pos (by omega)]
  refine ⟨_, rfl, rfl, Nat.add_sub_cancel _ _, ?_, ?_⟩
  · dsimp only
    split_ifs <;> omega
  · dsimp only
    split_ifs <;> omega

theorem first_four {lead d : ℕ} (most : lead ≤ 4) (tail : d < 64) (shortest : lead = 0 → 16 ≤ d)
    (last : lead = 4 → d < 16) : ∃ sequence : Sequence, first (lead + 0xF0) = .inr sequence ∧
      sequence.owed = 2 ∧ sequence.value = lead ∧ sequence.lower ≤ d + 0x80 ∧ d + 0x80 ≤ sequence.upper := by
  rw [first, if_neg (by omega), if_neg (by omega), if_neg (by omega), if_neg (by omega), if_pos (by omega)]
  refine ⟨_, rfl, rfl, Nat.add_sub_cancel _ _, ?_, ?_⟩
  · dsimp only
    split_ifs <;> omega
  · dsimp only
    split_ifs <;> omega

/-- **A character is read back from its encoding.** -/
theorem read_encoded (c : Char) : utf8.read none (String.utf8EncodeChar c) = ([c], none) := by
  have valid : c.val.toNat < 0xD800 ∨ 0xDFFF < c.val.toNat ∧ c.val.toNat < 0x110000 := c.valid
  have back : Char.ofNat c.val.toNat = c := Char.ofNat_toNat c
  unfold String.utf8EncodeChar
  generalize c.val.toNat = v at *
  dsimp only
  split_ifs with one two three
  · rw [read_lead (by omega), first, if_pos one, back]
    rfl
  · have value : v / 64 % 32 * 64 + v % 64 = v := by omega
    have begins := @first_two (v / 64 % 32) (by omega) (by omega)
    rw [read_first (by omega) begins, read_last rfl (by omega) (by dsimp only; omega), value, back]
  · have value : (v / 4096 % 16 * 64 + v / 64 % 64) * 64 + v % 64 = v := by omega
    obtain ⟨sequence, begins, owed, high, range⟩ :=
      @first_three (v / 4096 % 16) (v / 64 % 64) (by omega) (by omega) (by omega) (by omega)
    rw [read_first (by omega) begins, read_tail owed (by omega) range,
      read_last rfl (by omega) (by dsimp only; omega), high, value, back]
  · have value : ((v / 262144 % 8 * 64 + v / 4096 % 64) * 64 + v / 64 % 64) * 64 + v % 64 = v := by omega
    obtain ⟨sequence, begins, owed, high, range⟩ :=
      @first_four (v / 262144 % 8) (v / 4096 % 64) (by omega) (by omega) (by omega) (by omega)
    rw [read_first (by omega) begins, read_tail owed (by omega) range,
      read_tail rfl (by omega) (by dsimp only; omega), read_last rfl (by omega) (by dsimp only; omega), high, value,
      back]

end Utf8

/-- A text is read back from its encoding, and no sequence is left open. -/
theorem read_encode (text : List Char) : utf8.read none (encode text) = (text, none) := by
  induction text with
  | nil => rfl
  | cons c text ih =>
    rw [encode, List.flatMap_cons, Decoder.read_append, Utf8.read_encoded]
    exact congrArg (fun read => (c :: read.1, read.2)) ih

/-- **A text is decoded from its encoding.** -/
theorem decode_encode (text : List Char) : utf8.decode (encode text) = text := by
  rw [Decoder.decode, Decoder.decodeFrom, read_encode]
  exact List.append_nil text

theorem encode_flatten (texts : List (List Char)) : (texts.map encode).flatten = encode texts.flatten := by
  induction texts with
  | nil => rfl
  | cons text texts ih =>
    rw [List.map_cons, List.flatten_cons, List.flatten_cons, ih, encode, encode, encode, List.flatMap_append]

/-- **Between the encodings of texts no sequence is split.** -/
theorem whole_encoded (texts : List (List Char)) : utf8.Whole (texts.map encode) := by
  intro before after parts
  obtain ⟨earlier, later, rfl, rfl, rfl⟩ := List.map_eq_append_iff.mp parts
  unfold Decoder.splits
  rw [encode_flatten, read_encode]

end Strings
