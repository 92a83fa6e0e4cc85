/-
**Decoders that read one byte at a time.**

A decoder turns bytes into symbols. A byte outside of a sequence is a symbol by itself or begins a sequence. A byte
inside a sequence completes it, goes on with it, or breaks it off: then the replacement symbol stands for what was
read of the sequence, and the byte is read as one outside. The replacement also stands for a sequence that is left
open at the end.

* `decode_append`, `length_decode_split` — two parts can be decoded separately if the second does not go on with a
  sequence the first has left open (`splits`); otherwise there are more symbols.
* `decode_flatten_iff` — any number of parts can be decoded separately exactly if no boundary between them splits a
  sequence (`Whole`).
-/

import Mathlib.Data.List.Induction

namespace Strings

/-- **A decoder.** A byte that goes on with a sequence begins none. -/
structure Decoder (Byte State Symbol : Type) where
  replacement : Symbol
  first : Byte → Symbol ⊕ State
  next : State → Byte → Option (Symbol ⊕ State)
  apart : ∀ {state byte read}, next state byte = some read → ∃ symbol, first byte = .inl symbol

namespace Decoder

variable {Byte State Symbol : Type} (D : Decoder Byte State Symbol)

/-- A byte that was read: a symbol, or a sequence that is open. -/
def emit : Symbol ⊕ State → List Symbol × Option State
  | .inl symbol => ([symbol], none)
  | .inr state => ([], some state)

/-- One byte, outside of a sequence or inside. -/
def step : Option State → Byte → List Symbol × Option State
  | none, byte => emit (D.first byte)
  | some state, byte =>
    match D.next state byte with
    | some read => emit read
    | none => (D.replacement :: (emit (D.first byte)).1, (emit (D.first byte)).2)

/-- What is decoded of the bytes, and the sequence they leave open. -/
def read : Option State → List Byte → List Symbol × Option State
  | state, [] => ([], state)
  | state, byte :: rest => ((D.step state byte).1 ++ (read (D.step state byte).2 rest).1,
      (read (D.step state byte).2 rest).2)

/-- The replacement for a sequence that is left open. -/
def flush : Option State → List Symbol
  | none => []
  | some _ => [D.replacement]

/-- The decoding of the bytes that follow on a sequence. -/
def decodeFrom (state : Option State) (bytes : List Byte) : List Symbol :=
  (D.read state bytes).1 ++ D.flush (D.read state bytes).2

/-- **The decoding of the bytes.** -/
def decode (bytes : List Byte) : List Symbol := D.decodeFrom none bytes

/-- The bytes that follow go on with the sequence that is left open. -/
def splits (bytes rest : List Byte) : Bool :=
  match (D.read none bytes).2, rest with
  | some state, byte :: _ => (D.next state byte).isSome
  | _, _ => false

/-- No boundary between the parts splits a sequence. -/
def Whole (parts : List (List Byte)) : Prop :=
  ∀ before after, parts = before ++ after → D.splits before.flatten after.flatten = false

variable {D} {state : Option State} {bytes rest : List Byte}

theorem read_append (state : Option State) (bytes rest : List Byte) : D.read state (bytes ++ rest) =
    ((D.read state bytes).1 ++ (D.read (D.read state bytes).2 rest).1, (D.read (D.read state bytes).2 rest).2) := by
  induction bytes generalizing state with
  | nil => rfl
  | cons byte bytes ih => rw [List.cons_append, read, read, ih, List.append_assoc]

theorem decodeFrom_append (state : Option State) (bytes rest : List Byte) :
    D.decodeFrom state (bytes ++ rest) = (D.read state bytes).1 ++ D.decodeFrom (D.read state bytes).2 rest := by
  rw [decodeFrom, read_append, List.append_assoc, decodeFrom]

theorem decodeFrom_cons (state : Option State) (byte : Byte) (rest : List Byte) :
    D.decodeFrom state (byte :: rest) = (D.step state byte).1 ++ D.decodeFrom (D.step state byte).2 rest := by
  rw [decodeFrom, read, List.append_assoc, decodeFrom]

/-! ### One boundary -/

section Boundary

variable {state : State} {byte : Byte} {read : Symbol ⊕ State}

theorem step_continuing (continues : D.next state byte = some read) : D.step (some state) byte = emit read := by
  simp only [step, continues]

theorem step_broken (broken : D.next state byte = none) :
    D.step (some state) byte = (D.replacement :: (D.step none byte).1, (D.step none byte).2) := by
  simp only [step, broken]

/-- A byte that breaks a sequence off is read as if the sequence had ended before it. -/
theorem decodeFrom_broken (broken : D.next state byte = none) (rest : List Byte) :
    D.decodeFrom (some state) (byte :: rest) = D.replacement :: D.decode (byte :: rest) := by
  rw [decode, decodeFrom_cons, decodeFrom_cons, step_broken broken, List.cons_append]

/-- A byte that goes on with a sequence is a symbol of its own outside. -/
theorem length_decode_continuing (continues : D.next state byte = some read) (rest : List Byte) :
    (D.decode (byte :: rest)).length = (D.decode rest).length + 1 := by
  obtain ⟨symbol, single⟩ := D.apart continues
  rw [decode, decodeFrom_cons, step, single]
  rfl

/-- A byte that goes on with a sequence is no symbol of its own inside. -/
theorem length_decodeFrom_continuing (continues : D.next state byte = some read)
    (bound : ∀ state, (D.decodeFrom (some state) rest).length ≤ (D.decode rest).length + 1) :
    (D.decodeFrom (some state) (byte :: rest)).length ≤ (D.decode rest).length + 1 := by
  rw [decodeFrom_cons, step_continuing continues]
  cases read with
  | inl symbol => exact Nat.le_refl _
  | inr state => exact bound state

/-- A sequence that is left open takes nothing from the rest but its own bytes. -/
theorem length_decodeFrom_le (state : State) (rest : List Byte) :
    (D.decodeFrom (some state) rest).length ≤ (D.decode rest).length + 1 := by
  induction rest generalizing state with
  | nil => exact Nat.le_refl _
  | cons byte rest ih =>
    cases met : D.next state byte with
    | none => exact Nat.le_of_eq (congrArg List.length (decodeFrom_broken met rest))
    | some read =>
      have fewer := length_decodeFrom_continuing met ih
      rw [length_decode_continuing met]
      omega

end Boundary

theorem splits_iff : D.splits bytes rest = true ↔
    ∃ state byte later read, (D.read none bytes).2 = some state ∧ rest = byte :: later ∧
      D.next state byte = some read := by
  unfold splits
  constructor
  · intro split
    split at split
    · next state byte later left =>
      obtain ⟨read, continues⟩ := Option.isSome_iff_exists.mp split
      exact ⟨state, byte, later, read, left, rfl, continues⟩
    · cases split
  · rintro ⟨state, byte, later, read, left, rfl, continues⟩
    simp only [left, continues, Option.isSome_some]

/-- Where no sequence is split, the two parts are decoded separately. -/
theorem decode_append (whole : D.splits bytes rest = false) :
    D.decode (bytes ++ rest) = D.decode bytes ++ D.decode rest := by
  have parts : D.decode bytes ++ D.decode rest =
      (D.read none bytes).1 ++ (D.flush (D.read none bytes).2 ++ D.decode rest) := List.append_assoc _ _ _
  rw [parts, decode, decodeFrom_append]
  congr 1
  cases left : (D.read none bytes).2 with
  | none => rfl
  | some state =>
    cases rest with
    | nil => rfl
    | cons byte rest =>
      refine decodeFrom_broken (Option.eq_none_iff_forall_ne_some.mpr fun read continues => ?_) rest
      rw [splits_iff.mpr ⟨state, byte, rest, read, left, rfl, continues⟩] at whole
      cases whole

/-- Where a sequence is split, there are more symbols. -/
theorem length_decode_split (split : D.splits bytes rest = true) :
    (D.decode (bytes ++ rest)).length < (D.decode bytes).length + (D.decode rest).length := by
  obtain ⟨state, byte, later, read, left, rfl, continues⟩ := splits_iff.mp split
  have first : (D.decode bytes).length = (D.read none bytes).1.length + 1 := by
    rw [decode, decodeFrom, left, List.length_append]
    rfl
  have fewer := length_decodeFrom_continuing continues fun state => length_decodeFrom_le state later
  rw [decode, decodeFrom_append, left, List.length_append, first, length_decode_continuing continues]
  omega

/-! ### Any number of parts -/

theorem length_decode_append_le (bytes rest : List Byte) :
    (D.decode (bytes ++ rest)).length ≤ (D.decode bytes).length + (D.decode rest).length := by
  cases split : D.splits bytes rest with
  | false => exact Nat.le_of_eq (by rw [decode_append split, List.length_append])
  | true => exact Nat.le_of_lt (length_decode_split split)

theorem length_decode_flatten_le (parts : List (List Byte)) :
    (D.decode parts.flatten).length ≤ (parts.flatMap D.decode).length := by
  induction parts with
  | nil => exact Nat.le_refl _
  | cons part parts ih =>
    rw [List.flatten_cons, List.flatMap_cons, List.length_append]
    exact Nat.le_trans (length_decode_append_le part parts.flatten) (Nat.add_le_add_left ih _)

/-- Whether the rest goes on with a sequence is seen at its first byte. -/
theorem splits_append {later : List Byte} (split : D.splits bytes rest = true) :
    D.splits bytes (rest ++ later) = true := by
  obtain ⟨state, byte, rest, read, left, rfl, continues⟩ := splits_iff.mp split
  exact splits_iff.mpr ⟨state, byte, rest ++ later, read, left, rfl, continues⟩

/-- **Parts can be decoded one by one exactly if no boundary splits a sequence.** -/
theorem decode_flatten_iff (parts : List (List Byte)) :
    parts.flatMap D.decode = D.decode parts.flatten ↔ D.Whole parts := by
  constructor
  · -- one boundary that splits a sequence already makes the result longer
    rintro same before after rfl
    by_contra split
    have fewer := length_decode_split (Bool.of_not_eq_false split)
    have first := length_decode_flatten_le (D := D) before
    have second := length_decode_flatten_le (D := D) after
    have lengths := congrArg List.length same
    rw [List.flatMap_append, List.flatten_append, List.length_append] at lengths
    omega
  · -- the last part is split off first: the boundaries before it stay as they are
    intro whole
    induction parts using List.reverseRecOn with
    | nil => rfl
    | append_singleton parts part ih =>
      have earlier := ih fun before after same => by
        subst same
        have boundary := whole before (after ++ [part]) (List.append_assoc _ _ _)
        rw [List.flatten_append] at boundary
        by_contra split
        rw [splits_append (Bool.of_not_eq_false split)] at boundary
        cases boundary
      have last := whole parts [part] rfl
      rw [List.flatten_singleton] at last
      rw [List.flatMap_append, earlier, List.flatMap_singleton, List.flatten_append, List.flatten_singleton,
        decode_append last]

end Decoder

end Strings
