/-
**A key-value store whose keys expire.**

Every key has its own value type. A written key carries the last instant at which it can be read; it
is then gone for readers, while the store still remembers that it was written (`raw` cells are only
changed by writes and deletions). Time is an argument of the reader, so letting time pass changes no
cell.
-/

import Mathlib.Logic.Function.Basic
import Mathlib.Tactic.Common

namespace Expiring

variable {K : Type} {V : K → Type}

/-- A value and the last instant at which it can be read. -/
structure Cell (α : Type) where
  value : α
  expiresAt : ℕ

/-- **The store**: the cell last written under each key, if it was not deleted since. -/
abbrev Store (V : K → Type) : Type := (key : K) → Option (Cell (V key))

namespace Store

/-- What a reader finds at an instant. -/
def read (store : Store V) (now : ℕ) (key : K) : Option (V key) :=
  match store key with
  | some cell => if now ≤ cell.expiresAt then some cell.value else none
  | none => none

variable [DecidableEq K]

/-- Write a value that can be read until an instant. -/
def write (store : Store V) (key : K) (value : V key) (expiresAt : ℕ) : Store V :=
  Function.update store key (some ⟨value, expiresAt⟩)

def delete (store : Store V) (key : K) : Store V := Function.update store key none

@[simp] theorem write_self (store : Store V) (key : K) (value : V key) (expiresAt : ℕ) :
    store.write key value expiresAt key = some ⟨value, expiresAt⟩ :=
  Function.update_self _ _ _

@[simp] theorem write_of_ne {store : Store V} {key other : K} (different : other ≠ key)
    (value : V key) (expiresAt : ℕ) : store.write key value expiresAt other = store other :=
  Function.update_of_ne different _ _

@[simp] theorem delete_self (store : Store V) (key : K) : store.delete key key = none :=
  Function.update_self _ _ _

@[simp] theorem delete_of_ne {store : Store V} {key other : K} (different : other ≠ key) :
    store.delete key other = store other :=
  Function.update_of_ne different _ _

omit [DecidableEq K] in
/-- A key that reads has a live cell. -/
theorem read_eq_some {store : Store V} {now : ℕ} {key : K} {value : V key} :
    store.read now key = some value ↔
      ∃ cell, store key = some cell ∧ now ≤ cell.expiresAt ∧ cell.value = value := by
  unfold read
  cases store key with
  | none => simp
  | some cell =>
    by_cases live : now ≤ cell.expiresAt
    · simp [live]
    · simp [live]

omit [DecidableEq K] in
theorem read_of_none {store : Store V} {key : K} (absent : store key = none) (now : ℕ) :
    store.read now key = none := by
  unfold read
  rw [absent]

theorem read_write_self (store : Store V) (key : K) (value : V key) {now expiresAt : ℕ}
    (live : now ≤ expiresAt) : (store.write key value expiresAt).read now key = some value :=
  read_eq_some.mpr ⟨_, write_self _ _ _ _, live, rfl⟩

omit [DecidableEq K] in
theorem read_none_later {store : Store V} {now later : ℕ} {key : K} (after : now ≤ later)
    (absent : store.read now key = none) : store.read later key = none := by
  by_contra present
  obtain ⟨value, read⟩ := Option.ne_none_iff_exists'.mp present
  obtain ⟨cell, stored, live, rfl⟩ := read_eq_some.mp read
  rw [read_eq_some.mpr ⟨cell, stored, Nat.le_trans after live, rfl⟩] at absent
  cases absent

theorem read_write_of_ne {store : Store V} {key other : K} (different : other ≠ key)
    (value : V key) (expiresAt now : ℕ) :
    (store.write key value expiresAt).read now other = store.read now other := by
  unfold read
  rw [write_of_ne different]

end Store

end Expiring
