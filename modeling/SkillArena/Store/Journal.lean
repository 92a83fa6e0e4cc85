/-
**Journals with running totals.**

Entries are appended to a journal, each with an owner, a change, and the total its owner has after it as the
entry records it. `Agrees` says of a table of balances and a journal that every balance is the total of its
owner's changes; `Audited` that moreover every recorded total is the running total. An entry that goes with the
change of its owner's balance keeps the one (`Agrees.post`), and the other if it records the new balance
(`Audited.post`). The entries of one owner then form a statement: each records the total of the one before it and
its own change (`Audited.chain`).
-/

import Mathlib.Algebra.BigOperators.Group.List.Basic
import Mathlib.Data.List.Chain
import Mathlib.Logic.Function.Basic

namespace Journal

variable {α ι M : Type} [DecidableEq ι] [AddMonoid M] {owner : α → ι} {change recorded : α → M}
  {balance : ι → Option M} {entries : List α} {entry : α} {amount : M}

/-- The sum of the changes of one owner. -/
def total (owner : α → ι) (change : α → M) (account : ι) (entries : List α) : M :=
  ((entries.filter fun entry => owner entry = account).map change).sum

@[simp] theorem total_nil (account : ι) : total owner change account [] = 0 := rfl

theorem total_append_self (entries : List α) (entry : α) :
    total owner change (owner entry) (entries ++ [entry]) =
      total owner change (owner entry) entries + change entry := by
  simp [total, List.filter_append]

theorem total_append_of_ne {account : ι} (other : owner entry ≠ account) (entries : List α) :
    total owner change account (entries ++ [entry]) = total owner change account entries := by
  simp [total, List.filter_append, other]

/-- **The balances agree with the journal.** -/
def Agrees (owner : α → ι) (change : α → M) (balance : ι → Option M) (entries : List α) : Prop :=
  ∀ account amount, balance account = some amount → amount = total owner change account entries

/-- **Posting**: the balance of the owner moves by the change of the entry. -/
theorem Agrees.post (agrees : Agrees owner change balance entries) (found : balance (owner entry) = some amount) :
    Agrees owner change (Function.update balance (owner entry) (some (amount + change entry)))
      (entries ++ [entry]) := by
  intro account current here
  by_cases same : account = owner entry
  · subst same
    rw [Function.update_self] at here
    cases here
    rw [total_append_self, ← agrees _ _ found]
  · rw [Function.update_of_ne same] at here
    rw [total_append_of_ne (Ne.symm same)]
    exact agrees account current here

/-- **The balances agree with the journal**, and so does every recorded total. -/
structure Audited (owner : α → ι) (change recorded : α → M) (balance : ι → Option M) (entries : List α) :
    Prop where
  agree : ∀ account amount, balance account = some amount → amount = total owner change account entries
  running : ∀ before entry after, entries = before ++ entry :: after →
    recorded entry = total owner change (owner entry) (before ++ [entry])

namespace Audited

theorem empty (zero : ∀ account amount, balance account = some amount → amount = 0) :
    Audited owner change recorded balance [] := by
  refine ⟨zero, fun before entry after split => ?_⟩
  have some := congrArg List.length split
  simp at some

/-- **Posting**: the balance of the owner moves by the change, and the entry records it. -/
theorem post (audited : Audited owner change recorded balance entries)
    (found : balance (owner entry) = some amount) (written : recorded entry = amount + change entry) :
    Audited owner change recorded (Function.update balance (owner entry) (some (amount + change entry)))
      (entries ++ [entry]) := by
  have agrees : Agrees owner change balance entries := audited.agree
  have before := agrees _ _ found
  refine ⟨agrees.post found, fun first posted rest split => ?_⟩
  -- the posted entry is the last one, or it was there before
  rcases List.eq_nil_or_concat rest with rfl | ⟨middle, last, rfl⟩
  · obtain ⟨rfl, same⟩ := List.append_inj' split rfl
    cases same
    rw [total_append_self, written, before]
  · have shorter : entries ++ [entry] = (first ++ posted :: middle) ++ [last] := by
      rw [split, List.concat_eq_append, List.append_assoc, List.cons_append]
    exact audited.running first posted middle (List.append_inj' shorter rfl).1

/-- **The entries of one owner are a statement.** The induction is on the last entry, with the total of the owner as
what the last entry of the owner records. -/
theorem chain (audited : Audited owner change recorded balance entries) (account : ι) :
    (entries.filter fun entry => owner entry = account).IsChain fun older newer =>
      recorded newer = recorded older + change newer := by
  have running := audited.running
  clear audited
  suffices both : (entries.filter fun entry => owner entry = account).IsChain (fun older newer =>
      recorded newer = recorded older + change newer) ∧
      ∀ last ∈ (entries.filter fun entry => owner entry = account).getLast?,
        recorded last = total owner change account entries from both.1
  induction entries using List.reverseRecOn with
  | nil => exact ⟨.nil, nofun⟩
  | append_singleton entries entry ih =>
    have earlier : ∀ before posted after, entries = before ++ posted :: after →
        recorded posted = total owner change (owner posted) (before ++ [posted]) := by
      intro before posted after split
      refine running before posted (after ++ [entry]) ?_
      rw [split, List.append_assoc, List.cons_append]
    obtain ⟨chain, last⟩ := ih earlier
    by_cases mine : owner entry = account
    · have written := running entries entry [] rfl
      rw [mine] at written
      have more : (entries ++ [entry]).filter (fun entry => owner entry = account) =
          entries.filter (fun entry => owner entry = account) ++ [entry] := by simp [List.filter_append, mine]
      rw [more]
      refine ⟨chain.append (.singleton _) ?_, ?_⟩
      · rintro older before newer new
        cases new
        rw [written, last older before, ← mine, total_append_self]
      · intro newest new
        rw [List.getLast?_concat] at new
        cases new
        exact written
    · have unchanged : (entries ++ [entry]).filter (fun entry => owner entry = account) =
          entries.filter fun entry => owner entry = account := by simp [List.filter_append, mine]
      rw [unchanged, total_append_of_ne mine]
      exact ⟨chain, last⟩

end Audited

end Journal
