/-
**Stripping a list at both ends.**

`strip p` takes the elements with `p` off the two ends of a list. A rewriting replaces each element by a block. If
the elements with `p` are replaced by such elements only, and the others by blocks that begin and end with an
element without `p`, it does not matter whether a list is stripped before or after.

* `strip_surround` — elements with `p` around a list are stripped with it.
* `Rewrites.strip` — a rewriting that keeps the margin (`KeepsMargin`) also rewrites what is left of a stripped
  list.
-/

import Mathlib.Data.List.DropRight

namespace Strings

variable {α : Type*} {p : α → Bool}

/-- The list without the elements with `p` at its two ends. -/
def strip (p : α → Bool) (list : List α) : List α := (list.dropWhile p).rdropWhile p

theorem rdropWhile_append_of_pos {list after : List α} (outside : ∀ a ∈ after, p a = true) :
    (list ++ after).rdropWhile p = list.rdropWhile p := by
  unfold List.rdropWhile
  rw [List.reverse_append, List.dropWhile_append_of_pos fun a member => outside a (List.mem_reverse.mp member)]

theorem strip_surround {before after : List α} (left : ∀ a ∈ before, p a = true) (right : ∀ a ∈ after, p a = true)
    (list : List α) : strip p (before ++ list ++ after) = strip p list := by
  unfold strip
  rw [List.append_assoc, List.dropWhile_append_of_pos left, List.dropWhile_append]
  split
  · next nothing =>
    -- nothing is left of the list: what follows is stripped to nothing as well
    rw [List.isEmpty_iff.mp nothing, List.dropWhile_eq_nil_iff.mpr right]
  · exact rdropWhile_append_of_pos right

/-! ### Rewriting -/

/-- **A rewriting**: every element is replaced by a block it may be replaced by. -/
inductive Rewrites (R : α → List α → Prop) : List α → List α → Prop
  | nil : Rewrites R [] []
  | cons {a : α} {block list list' : List α} : R a block → Rewrites R list list' →
      Rewrites R (a :: list) (block ++ list')

namespace Rewrites

variable {R : α → List α → Prop} {first first' second second' list list' : List α}

theorem append (begins : Rewrites R first first') (ends : Rewrites R second second') :
    Rewrites R (first ++ second) (first' ++ second') := by
  induction begins with
  | nil => exact ends
  | cons replaced _ ih =>
    rw [List.append_assoc]
    exact .cons replaced ih

theorem reverse (rewrites : Rewrites R list list') :
    Rewrites (fun a block => R a block.reverse) list.reverse list'.reverse := by
  induction rewrites with
  | nil => exact .nil
  | @cons a block list list' replaced _ ih =>
    have last : Rewrites (fun a block => R a block.reverse) [a] (block.reverse ++ []) :=
      .cons (by rwa [List.reverse_reverse]) .nil
    rw [List.append_nil] at last
    rw [List.reverse_cons, List.reverse_append]
    exact ih.append last

end Rewrites

/-- **The margin is kept from the left**: elements with `p` are replaced by such elements, and a block for another
element begins with an element without `p`. -/
structure KeepsLeft (p : α → Bool) (R : α → List α → Prop) : Prop where
  inside : ∀ {a block}, R a block → p a = true → ∀ b ∈ block, p b = true
  begins : ∀ {a block}, R a block → p a = false → ∃ b rest, block = b :: rest ∧ p b = false

/-- The margin is kept from both sides. -/
structure KeepsMargin (p : α → Bool) (R : α → List α → Prop) : Prop where
  left : KeepsLeft p R
  right : KeepsLeft p fun a block => R a block.reverse

namespace Rewrites

variable {R : α → List α → Prop} {list list' : List α}

theorem dropWhile (keeps : KeepsLeft p R) (rewrites : Rewrites R list list') :
    Rewrites R (list.dropWhile p) (list'.dropWhile p) := by
  induction rewrites with
  | nil => exact .nil
  | @cons a block list list' replaced rewrites ih =>
    cases held : p a with
    | true =>
      rw [List.dropWhile_cons_of_pos held, List.dropWhile_append_of_pos (keeps.inside replaced held)]
      exact ih
    | false =>
      obtain ⟨b, rest, rfl, other⟩ := keeps.begins replaced held
      rw [List.dropWhile_cons_of_neg (by simp [held]), List.cons_append,
        List.dropWhile_cons_of_neg (by simp [other])]
      exact .cons replaced rewrites

/-- **Stripping and rewriting can be exchanged.** -/
theorem strip (keeps : KeepsMargin p R) (rewrites : Rewrites R list list') :
    Rewrites R (strip p list) (strip p list') := by
  have stripped := ((rewrites.dropWhile keeps.left).reverse.dropWhile keeps.right).reverse
  simp only [List.reverse_reverse] at stripped
  exact stripped

end Rewrites

end Strings
