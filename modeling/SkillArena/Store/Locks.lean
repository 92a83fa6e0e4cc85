/-
**Exclusive locks, and who waits for whom.**

A lock table says who owns each row. An owner takes rows one at a time and gives all of them back at once, as a
transaction does. An owner that wants a row of another one waits for it; owners that wait for each other in a
circle never get on.

* `take`, `release` — a row is taken, all rows of an owner are given back.
* `Waits` — the waits-for relation of a table and of what each owner wants.
* `no_cycle` — if everyone wants only rows above those it owns, in an order of the rows, no one waits for itself
  through others.
-/

import Mathlib.Logic.Function.Basic
import Mathlib.Logic.Relation
import Mathlib.Order.Defs.PartialOrder

namespace Locks

variable {Row Owner : Type}

/-- The owner of each row that is locked. -/
abbrev Table (Row Owner : Type) := Row → Option Owner

namespace Table

def take [DecidableEq Row] (table : Table Row Owner) (row : Row) (owner : Owner) : Table Row Owner :=
  Function.update table row (some owner)

def release [DecidableEq Owner] (table : Table Row Owner) (owner : Owner) : Table Row Owner :=
  fun row => if table row = some owner then none else table row

theorem take_iff [DecidableEq Row] {table : Table Row Owner} {row row' : Row} {owner owner' : Owner} :
    table.take row owner row' = some owner' ↔
      (row' = row ∧ owner' = owner) ∨ (row' ≠ row ∧ table row' = some owner') := by
  unfold take
  by_cases here : row' = row
  · rw [here, Function.update_self]
    simp [eq_comm]
  · rw [Function.update_of_ne here]
    simp [here]

theorem release_iff [DecidableEq Owner] {table : Table Row Owner} {row : Row} {owner owner' : Owner} :
    table.release owner row = some owner' ↔ table row = some owner' ∧ owner' ≠ owner := by
  unfold release
  split
  · rename_i mine
    rw [mine]
    simp [eq_comm]
  · rename_i other
    constructor
    · intro owned
      exact ⟨owned, fun same => other (same ▸ owned)⟩
    · exact fun owned => owned.1

end Table

/-- **One owner waits for another**: it wants a row the other has. -/
def Waits (table : Table Row Owner) (wants : Owner → Row → Prop) (waiting owner : Owner) : Prop :=
  ∃ row, wants waiting row ∧ table row = some owner ∧ owner ≠ waiting

variable {table : Table Row Owner} {wants : Owner → Row → Prop}

/-- Along the waits the wanted rows do not go down. -/
theorem Waits.climbs {P : Type} [Preorder P] (rank : Row → P)
    (ordered : ∀ owner row row', table row = some owner → wants owner row' → table row' ≠ some owner →
      rank row < rank row') {first last : Owner} (path : Relation.TransGen (Waits table wants) first last) :
    ∃ row row', wants first row ∧ table row ≠ some first ∧ table row' = some last ∧ rank row ≤ rank row' := by
  induction path with
  | single waits =>
    obtain ⟨row, wanted, owned, other⟩ := waits
    exact ⟨row, row, wanted, fun mine => other (Option.some.inj (owned.symm.trans mine)), owned, le_refl _⟩
  | tail _ waits ih =>
    obtain ⟨row, row', wanted, free, owned, below⟩ := ih
    obtain ⟨next, wanted', owned', other⟩ := waits
    have free' := fun mine => other (Option.some.inj (owned'.symm.trans mine))
    have above := ordered _ row' next owned wanted' free'
    exact ⟨row, next, wanted, free, owned', le_trans below (le_of_lt above)⟩

/-- **Ordered locking has no deadlock.** -/
theorem no_cycle {P : Type} [Preorder P] (rank : Row → P)
    (ordered : ∀ owner row row', table row = some owner → wants owner row' → table row' ≠ some owner →
      rank row < rank row') (owner : Owner) : ¬ Relation.TransGen (Waits table wants) owner owner := by
  intro cycle
  obtain ⟨row, row', wanted, free, owned, below⟩ := Waits.climbs rank ordered cycle
  have above := ordered owner row' row owned wanted free
  exact lt_irrefl _ (lt_of_le_of_lt below above)

end Locks
