/-
**`LIKE`.**

A pattern is read from its start: `%` stands for any text, `_` for any character, `\` for the next character as it
is, and every other character for itself.

* `like` — the texts a pattern matches.
* `like_append`, `like_percent` — a text matches itself, with any text around it under `%`.
* `like_contains_iff` — what is found by a pattern without `%` and `\` between two `%`: the texts with a part that
  fits it, where `_` fits any character (`Fits`).
-/

import Mathlib.Data.List.Forall2
import Mathlib.Data.List.Infix
import Mathlib.Tactic.Common

namespace Sql

/-- The texts a `LIKE` pattern matches. -/
def like : List Char → List Char → Bool
  | [] => fun text => text.isEmpty
  | '%' :: pattern => fun text => text.tails.any (like pattern)
  | '_' :: pattern => fun
    | [] => false
    | _ :: text => like pattern text
  | '\\' :: c :: pattern => fun
    | [] => false
    | d :: text => c = d && like pattern text
  | c :: pattern => fun
    | [] => false
    | d :: text => c = d && like pattern text

variable {c d : Char} {pattern rest text : List Char}

theorem like_cons (plain : c ≠ '\\') (matched : like pattern text = true) :
    like (c :: pattern) (c :: text) = true := by
  by_cases percent : c = '%'
  · subst percent
    refine List.any_eq_true.mpr ⟨text, ?_, matched⟩
    rw [List.mem_tails]
    exact List.suffix_cons _ _
  by_cases underscore : c = '_'
  · subst underscore
    exact matched
  · simp [like, plain, matched]

theorem like_append (plain : '\\' ∉ pattern) (matched : like rest text = true) :
    like (pattern ++ rest) (pattern ++ text) = true := by
  induction pattern with
  | nil => exact matched
  | cons c pattern ih =>
    rw [List.mem_cons, not_or] at plain
    exact like_cons (Ne.symm plain.1) (ih plain.2)

theorem like_percent {suffix : List Char} (inside : suffix <:+ text) (matched : like pattern suffix = true) :
    like ('%' :: pattern) text = true :=
  List.any_eq_true.mpr ⟨suffix, (List.mem_tails _ _).mpr inside, matched⟩

/-! ### Patterns without `%` -/

/-- **A text fits a pattern** character by character, where `_` fits any. -/
def Fits (pattern text : List Char) : Prop := List.Forall₂ (fun c d => c = '_' ∨ c = d) pattern text

theorem fits_cons_iff : Fits (c :: pattern) text ↔
    ∃ d rest, (c = '_' ∨ c = d) ∧ Fits pattern rest ∧ text = d :: rest := List.forall₂_cons_left_iff

theorem fits_iff (plain : '_' ∉ pattern) : Fits pattern text ↔ text = pattern := by
  induction pattern generalizing text with
  | nil => exact List.forall₂_nil_left_iff
  | cons c pattern ih =>
    rw [List.mem_cons, not_or] at plain
    rw [fits_cons_iff]
    constructor
    · rintro ⟨d, rest, underscore | rfl, fits, rfl⟩
      · exact absurd underscore.symm plain.1
      · rw [(ih plain.2).mp fits]
    · rintro rfl
      exact ⟨c, pattern, .inr rfl, (ih plain.2).mpr rfl, rfl⟩

theorem like_cons_iff (percent : c ≠ '%') (escape : c ≠ '\\') :
    like (c :: pattern) (d :: text) = true ↔ (c = '_' ∨ c = d) ∧ like pattern text = true := by
  by_cases underscore : c = '_'
  · subst underscore
    simp [like]
  · simp [like, escape, underscore]

theorem like_cons_nil (percent : c ≠ '%') (escape : c ≠ '\\') : like (c :: pattern) [] = false := by
  by_cases underscore : c = '_'
  · subst underscore
    rfl
  · simp [like, escape]

theorem like_append_percent_iff (percent : '%' ∉ pattern) (escape : '\\' ∉ pattern) :
    like (pattern ++ ['%']) text = true ↔ ∃ part after, text = part ++ after ∧ Fits pattern part := by
  induction pattern generalizing text with
  | nil =>
    refine ⟨fun _ => ⟨[], text, rfl, .nil⟩, fun _ => like_percent (List.nil_suffix (l := text)) rfl⟩
  | cons c pattern ih =>
    rw [List.mem_cons, not_or] at percent escape
    cases text with
    | nil =>
      rw [List.cons_append, like_cons_nil (Ne.symm percent.1) (Ne.symm escape.1)]
      refine ⟨nofun, ?_⟩
      rintro ⟨part, after, empty, fits⟩
      obtain ⟨rfl, -⟩ := List.append_eq_nil_iff.mp empty.symm
      cases fits
    | cons d text =>
      rw [List.cons_append, like_cons_iff (Ne.symm percent.1) (Ne.symm escape.1), ih percent.2 escape.2]
      constructor
      · rintro ⟨head, part, after, rfl, fits⟩
        exact ⟨d :: part, after, rfl, .cons head fits⟩
      · rintro ⟨part, after, same, fits⟩
        cases fits with
        | cons head fits =>
          obtain ⟨rfl, rfl⟩ := List.cons.inj same
          exact ⟨head, _, after, rfl, fits⟩

/-- **What is found between two `%`.** -/
theorem like_contains_iff (percent : '%' ∉ pattern) (escape : '\\' ∉ pattern) :
    like ('%' :: (pattern ++ ['%'])) text = true ↔ ∃ part, part <:+: text ∧ Fits pattern part := by
  constructor
  · intro found
    obtain ⟨suffix, inside, matched⟩ := List.any_eq_true.mp found
    obtain ⟨before, rfl⟩ := (List.mem_tails _ _).mp inside
    obtain ⟨part, after, rfl, fits⟩ := (like_append_percent_iff percent escape).mp matched
    exact ⟨part, ⟨before, after, List.append_assoc _ _ _⟩, fits⟩
  · rintro ⟨part, ⟨before, after, rfl⟩, fits⟩
    rw [List.append_assoc]
    exact like_percent (List.suffix_append _ _)
      ((like_append_percent_iff percent escape).mpr ⟨part, after, rfl, fits⟩)

end Sql
