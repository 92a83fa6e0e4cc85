/-
**Pairing from the front of a line.**

Entries wait in a line, each with an owner who has funds. An attempt looks at the first two: if they have one owner,
the first is dropped; if both owners can pay, both are served and pay; otherwise the line stays as it is.

* `attempt_cases` — where an attempt changes nothing: at most one entry is left, or the line is blocked by two
  owners of whom one cannot pay.
* `iterate_attempt_settled` — after as many attempts as there are entries this is so.
* `Covered.served` — where every owner can pay for all entries, at most one is left.
-/

import Mathlib.Data.List.Basic
import Mathlib.Logic.Function.Iterate

namespace Pairing

variable {α ι β : Type}

/-- **The rules of a line**: whose an entry is, which funds can pay, and what a payment leaves of them. -/
structure Rules (α ι β : Type) where
  owner : α → ι
  pays : β → Bool
  debit : β → β

/-- A line, with the funds of the owners. -/
structure Line (α ι β : Type) where
  queue : List α
  funds : ι → β

namespace Rules

variable [DecidableEq ι] (rules : Rules α ι β) {line : Line α ι β}

/-- The funds after a payment of one owner. -/
def charge (funds : ι → β) (owner : ι) : ι → β := Function.update funds owner (rules.debit (funds owner))

/-- **One attempt.** -/
def attempt (line : Line α ι β) : Line α ι β :=
  match line.queue with
  | first :: second :: rest =>
    if rules.owner first = rules.owner second then ⟨second :: rest, line.funds⟩
    else if rules.pays (line.funds (rules.owner first)) && rules.pays (line.funds (rules.owner second)) then
      ⟨rest, rules.charge (rules.charge line.funds (rules.owner first)) (rules.owner second)⟩
    else line
  | _ => line

/-- The first two entries are of two owners, of whom one cannot pay. -/
def Blocked (line : Line α ι β) : Prop :=
  ∃ first second rest, line.queue = first :: second :: rest ∧ rules.owner first ≠ rules.owner second ∧
    (rules.pays (line.funds (rules.owner first)) && rules.pays (line.funds (rules.owner second))) = false

section Attempts

variable {first second : α} {rest : List α} {funds : ι → β}

theorem attempt_same (same : rules.owner first = rules.owner second) :
    rules.attempt ⟨first :: second :: rest, funds⟩ = ⟨second :: rest, funds⟩ := if_pos same

theorem attempt_served (distinct : rules.owner first ≠ rules.owner second)
    (paid : (rules.pays (funds (rules.owner first)) && rules.pays (funds (rules.owner second))) = true) :
    rules.attempt ⟨first :: second :: rest, funds⟩ =
      ⟨rest, rules.charge (rules.charge funds (rules.owner first)) (rules.owner second)⟩ :=
  (if_neg distinct).trans (if_pos paid)

theorem attempt_blocked (distinct : rules.owner first ≠ rules.owner second)
    (unpaid : (rules.pays (funds (rules.owner first)) && rules.pays (funds (rules.owner second))) = false) :
    rules.attempt ⟨first :: second :: rest, funds⟩ = ⟨first :: second :: rest, funds⟩ :=
  (if_neg distinct).trans (if_neg (Bool.eq_false_iff.mp unpaid))

omit [DecidableEq ι] in
theorem blocked_cons_iff : rules.Blocked ⟨first :: second :: rest, funds⟩ ↔
    rules.owner first ≠ rules.owner second ∧
      (rules.pays (funds (rules.owner first)) && rules.pays (funds (rules.owner second))) = false := by
  constructor
  · rintro ⟨_, _, _, shape, blocked⟩
    cases shape
    exact blocked
  · exact fun blocked => ⟨first, second, rest, rfl, blocked⟩

end Attempts

/-- **An attempt takes entries off the line, unless it cannot**: it changes nothing exactly if at most one entry is
left or the line is blocked. -/
theorem attempt_cases (line : Line α ι β) :
    (rules.attempt line).queue.length < line.queue.length ∧ ¬ (line.queue.length ≤ 1 ∨ rules.Blocked line) ∨
      rules.attempt line = line ∧ (line.queue.length ≤ 1 ∨ rules.Blocked line) := by
  obtain ⟨queue, funds⟩ := line
  match queue with
  | [] => exact .inr ⟨rfl, .inl (Nat.zero_le 1)⟩
  | [entry] => exact .inr ⟨rfl, .inl (Nat.le_refl 1)⟩
  | first :: second :: rest =>
    have long : ¬ (first :: second :: rest).length ≤ 1 := by
      simp only [List.length_cons]
      omega
    by_cases same : rules.owner first = rules.owner second
    · rw [rules.attempt_same same]
      exact .inl ⟨Nat.lt_succ_self _, not_or.mpr ⟨long, fun blocked => (rules.blocked_cons_iff.mp blocked).1 same⟩⟩
    · cases paid : rules.pays (funds (rules.owner first)) && rules.pays (funds (rules.owner second)) with
      | true =>
        rw [rules.attempt_served same paid]
        refine .inl ⟨by simp only [List.length_cons]; omega, not_or.mpr ⟨long, fun blocked => ?_⟩⟩
        rw [(rules.blocked_cons_iff.mp blocked).2] at paid
        cases paid
      | false =>
        exact .inr ⟨rules.attempt_blocked same paid, .inr (rules.blocked_cons_iff.mpr ⟨same, paid⟩)⟩

/-- **After as many attempts as there are entries**, no more can be served. -/
theorem iterate_attempt_settled {n : ℕ} (enough : line.queue.length ≤ n) :
    (rules.attempt^[n] line).queue.length ≤ 1 ∨ rules.Blocked (rules.attempt^[n] line) := by
  induction n generalizing line with
  | zero => exact .inl (Nat.le_trans enough (Nat.zero_le 1))
  | succ n ih =>
    rcases rules.attempt_cases line with ⟨shorter, -⟩ | ⟨stays, settled⟩
    · rw [Function.iterate_succ_apply]
      exact ih (by omega)
    · rw [Function.iterate_fixed stays]
      exact settled

/-! ### Lines that are covered -/

/-- The funds last for a number of payments. -/
def Lasts : β → ℕ → Prop
  | _, 0 => True
  | funds, n + 1 => rules.pays funds = true ∧ Lasts (rules.debit funds) n

omit [DecidableEq ι] in
theorem Lasts.fewer {funds : β} {n : ℕ} (lasts : rules.Lasts funds (n + 1)) : rules.Lasts funds n := by
  induction n generalizing funds with
  | zero => trivial
  | succ n ih => exact ⟨lasts.1, ih lasts.2⟩

/-- **The funds of every owner last for all entries.** -/
def Covered (line : Line α ι β) : Prop :=
  ∀ owner, rules.Lasts (line.funds owner) ((line.queue.map rules.owner).count owner)

variable {rules}

theorem Covered.pays (covered : rules.Covered line) {entry : α} (member : entry ∈ line.queue) :
    rules.pays (line.funds (rules.owner entry)) = true := by
  have lasts := covered (rules.owner entry)
  have counted : 0 < (line.queue.map rules.owner).count (rules.owner entry) :=
    List.count_pos_iff.mpr (List.mem_map_of_mem member)
  obtain ⟨n, same⟩ := Nat.exists_eq_succ_of_ne_zero (Nat.ne_of_gt counted)
  rw [same] at lasts
  exact lasts.1

theorem Covered.attempt (covered : rules.Covered line) : rules.Covered (rules.attempt line) := by
  obtain ⟨queue, funds⟩ := line
  match queue with
  | [] => exact covered
  | [entry] => exact covered
  | first :: second :: rest =>
    by_cases same : rules.owner first = rules.owner second
    · rw [rules.attempt_same same]
      intro owner
      have lasts := covered owner
      simp only [List.map_cons, List.count_cons, same, beq_iff_eq] at lasts ⊢
      by_cases own : rules.owner second = owner
      · rw [if_pos own] at lasts ⊢
        exact Lasts.fewer rules lasts
      · rw [if_neg own] at lasts ⊢
        exact lasts
    · have paid : (rules.pays (funds (rules.owner first)) && rules.pays (funds (rules.owner second))) = true :=
        Bool.and_eq_true_iff.mpr ⟨covered.pays (.head _), covered.pays (.tail _ (.head _))⟩
      rw [rules.attempt_served same paid]
      intro owner
      have lasts := covered owner
      simp only [List.map_cons, List.count_cons, beq_iff_eq] at lasts
      show rules.Lasts (rules.charge (rules.charge funds (rules.owner first)) (rules.owner second) owner)
        ((rest.map rules.owner).count owner)
      unfold charge
      by_cases isSecond : owner = rules.owner second
      · subst isSecond
        rw [if_pos rfl, if_neg same] at lasts
        rw [Function.update_self, Function.update_of_ne (Ne.symm same)]
        exact lasts.2
      · by_cases isFirst : owner = rules.owner first
        · subst isFirst
          rw [if_neg (Ne.symm same), if_pos rfl] at lasts
          rw [Function.update_of_ne same, Function.update_self]
          exact lasts.2
        · rw [if_neg (Ne.symm isSecond), if_neg (Ne.symm isFirst)] at lasts
          rw [Function.update_of_ne isSecond, Function.update_of_ne isFirst]
          exact lasts

/-- **A covered line is served**: at most one entry is left. -/
theorem Covered.served (covered : rules.Covered line) {n : ℕ} (enough : line.queue.length ≤ n) :
    (rules.attempt^[n] line).queue.length ≤ 1 := by
  have kept : rules.Covered (rules.attempt^[n] line) := by
    clear enough
    induction n with
    | zero => exact covered
    | succ n ih =>
      rw [Function.iterate_succ_apply']
      exact ih.attempt
  refine (rules.iterate_attempt_settled enough).resolve_right ?_
  rintro ⟨first, second, rest, shape, -, unpaid⟩
  have firstPays := kept.pays (shape ▸ List.mem_cons_self : first ∈ _)
  have secondPays := kept.pays (shape ▸ List.mem_cons_of_mem _ List.mem_cons_self : second ∈ _)
  rw [firstPays, secondPays] at unpaid
  cases unpaid

end Rules

end Pairing
