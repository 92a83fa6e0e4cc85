/-
**Waiting lists with reservations.**

Entries join a line at its end, each with an owner and a stamp that grows. Some are taken in hand off the
front, to be served or to be put back. `Kept` says that the queue is the waiting list without what is in
hand: as if nothing had been taken that was not served. Joining, leaving, taking and serving keep it
(`Kept.join`, `Kept.leave`, `Kept.take`, `Kept.serve`); putting back keeps it where what is put back comes
before everything in the queue (`Kept.restore`), and letting go keeps it where nobody in hand waits any
more (`Kept.letGo`).
-/

import Mathlib.Data.List.Sort
import Mathlib.Data.List.Nodup
import Mathlib.Data.Nat.Basic

namespace Waitlist

variable {α ι : Type} {owner : α → ι} {stamp : α → ℕ} {queue waiting inHand taken others rest : List α}
  {entry : α}

/-- In the order of the stamps. -/
def InOrder (stamp : α → ℕ) (entries : List α) : Prop :=
  entries.Pairwise fun first second => stamp first < stamp second

theorem InOrder.nodup {entries : List α} (order : InOrder stamp entries) : entries.Nodup := by
  refine List.Pairwise.imp ?_ order
  rintro first second before rfl
  exact lt_irrefl _ before

theorem InOrder.cons_pair {first second : α} {entries : List α} (order : InOrder stamp entries)
    (pair : stamp first < stamp second) (before : ∀ other ∈ entries, stamp second < stamp other) :
    InOrder stamp ([first, second] ++ entries) := by
  refine List.pairwise_cons.mpr ⟨fun other inside => ?_, List.pairwise_cons.mpr ⟨before, order⟩⟩
  rcases List.mem_cons.mp inside with rfl | inside
  · exact pair
  · exact pair.trans (before other inside)

theorem InOrder.eq_of_mem_iff {first second : List α} (order : InOrder stamp first)
    (order' : InOrder stamp second) (same : ∀ entry, entry ∈ first ↔ entry ∈ second) : first = second := by
  have perm : first.Perm second := (List.perm_ext_iff_of_nodup order.nodup order'.nodup).mpr same
  refine List.Perm.eq_of_pairwise ?_ order order' perm
  intro a b _ _ before after
  exact absurd (before.trans after) (lt_irrefl _)

variable [DecidableEq α]

/-- **The queue is the waiting list without what is in hand**, in order, with one entry an owner. -/
structure Kept (owner : α → ι) (stamp : α → ℕ) (queue waiting inHand : List α) : Prop where
  queue_eq : queue = waiting.filter (· ∉ inHand)
  order : InOrder stamp waiting
  owners : ((queue ++ inHand).map owner).Nodup

namespace Kept

theorem mem_queue (kept : Kept owner stamp queue waiting inHand) :
    entry ∈ queue ↔ entry ∈ waiting ∧ entry ∉ inHand := by
  rw [kept.queue_eq, List.mem_filter, decide_eq_true_eq]

theorem mem_or (kept : Kept owner stamp queue waiting inHand) (waits : entry ∈ waiting) :
    entry ∈ queue ++ inHand := by
  by_cases held : entry ∈ inHand
  · exact List.mem_append_right _ held
  · exact List.mem_append_left _ (kept.mem_queue.mpr ⟨waits, held⟩)

theorem eq_of_owner (kept : Kept owner stamp queue waiting inHand) {first second : α}
    (here : first ∈ queue ++ inHand) (there : second ∈ queue ++ inHand)
    (same : owner first = owner second) : first = second :=
  List.inj_on_of_nodup_map kept.owners here there same

theorem nodup (kept : Kept owner stamp queue waiting inHand) : (queue ++ inHand).Nodup :=
  List.Nodup.of_map _ kept.owners

theorem owners_waiting (kept : Kept owner stamp queue waiting inHand) : (waiting.map owner).Nodup :=
  List.Nodup.map_on (fun _ here _ there same => kept.eq_of_owner (kept.mem_or here) (kept.mem_or there) same)
    kept.order.nodup

theorem in_order (kept : Kept owner stamp queue waiting inHand) : InOrder stamp queue := by
  rw [kept.queue_eq]
  exact List.Pairwise.filter _ kept.order

theorem congr (kept : Kept owner stamp queue waiting inHand) (same : inHand.Perm others) :
    Kept owner stamp queue waiting others := by
  refine ⟨?_, kept.order, ?_⟩
  · rw [kept.queue_eq]
    refine List.filter_congr fun entry _ => ?_
    rw [decide_eq_decide, same.mem_iff]
  · exact ((same.append_left queue).map owner).nodup_iff.mp kept.owners

/-- **Joining at the end.** -/
theorem join (kept : Kept owner stamp queue waiting inHand)
    (later : ∀ other ∈ queue ++ inHand, stamp other < stamp entry)
    (single : ∀ other ∈ queue ++ inHand, owner other ≠ owner entry) :
    Kept owner stamp (queue ++ [entry]) (waiting ++ [entry]) inHand := by
  have free : entry ∉ inHand := fun held => lt_irrefl _ (later entry (List.mem_append_right _ held))
  refine ⟨?_, ?_, ?_⟩
  · rw [List.filter_append, ← kept.queue_eq]
    simp [free]
  · refine List.pairwise_append.mpr ⟨kept.order, List.pairwise_singleton _ _, fun other waits last new => ?_⟩
    cases List.mem_singleton.mp new
    exact later other (kept.mem_or waits)
  · have moved : (queue ++ [entry] ++ inHand).Perm (entry :: (queue ++ inHand)) := by
      rw [List.append_assoc]
      exact List.perm_middle
    refine (moved.map owner).nodup_iff.mpr (List.nodup_cons.mpr ⟨fun twice => ?_, kept.owners⟩)
    obtain ⟨other, inside, same⟩ := List.mem_map.mp twice
    exact single other inside same

/-- **Leaving**, from the queue and from the waiting list. -/
theorem leave (kept : Kept owner stamp queue waiting inHand) (stays : α → Bool) :
    Kept owner stamp (queue.filter stays) (waiting.filter stays) inHand := by
  refine ⟨?_, List.Pairwise.filter _ kept.order, ?_⟩
  · rw [kept.queue_eq, List.filter_filter, List.filter_filter]
    exact List.filter_congr fun entry _ => Bool.and_comm _ _
  · exact kept.owners.sublist ((List.filter_sublist.append_right _).map _)

/-- **Taking in hand** off the front. -/
theorem take (kept : Kept owner stamp (taken ++ rest) waiting inHand) :
    Kept owner stamp rest waiting (taken ++ inHand) := by
  have apart : ∀ entry ∈ rest, entry ∉ taken := by
    intro entry inside first
    exact (List.nodup_append.mp (List.nodup_append.mp kept.nodup).1).2.2 entry first entry inside rfl
  refine ⟨?_, kept.order, ?_⟩
  · calc rest = (taken ++ rest).filter (· ∉ taken) := by
          rw [List.filter_append, List.filter_eq_nil_iff.mpr fun _ inside => by simpa using inside,
            List.nil_append, List.filter_eq_self.mpr fun entry inside => by simpa using apart entry inside]
      _ = waiting.filter (· ∉ taken ++ inHand) := by
          rw [kept.queue_eq, List.filter_filter]
          refine List.filter_congr fun entry _ => ?_
          simp [List.mem_append, not_or, Bool.decide_and]
  · have moved : (taken ++ rest ++ inHand).Perm (rest ++ (taken ++ inHand)) := by
      rw [← List.append_assoc]
      exact List.perm_append_comm.append_right inHand
    exact (moved.map owner).nodup_iff.mp kept.owners

/-- **Putting back** at the front, before everybody in the queue. -/
theorem restore (kept : Kept owner stamp queue waiting (taken ++ others))
    (waits : ∀ entry ∈ taken, entry ∈ waiting) (before : InOrder stamp (taken ++ queue)) :
    Kept owner stamp (taken ++ queue) waiting others := by
  have nodup := kept.nodup
  refine ⟨before.eq_of_mem_iff (List.Pairwise.filter _ kept.order) fun entry => ?_, kept.order, ?_⟩
  · rw [List.mem_append, List.mem_filter, decide_eq_true_eq, kept.mem_queue, List.mem_append, not_or]
    have apart : entry ∈ taken → entry ∉ others := fun inside other =>
      (List.nodup_append.mp (List.nodup_append.mp nodup).2.1).2.2 entry inside entry other rfl
    constructor
    · rintro (inside | ⟨waits', _, free⟩)
      · exact ⟨waits entry inside, apart inside⟩
      · exact ⟨waits', free⟩
    · rintro ⟨waits', free⟩
      by_cases inside : entry ∈ taken
      · exact .inl inside
      · exact .inr ⟨waits', inside, free⟩
  · have moved : (queue ++ (taken ++ others)).Perm (taken ++ queue ++ others) := by
      rw [← List.append_assoc]
      exact List.perm_append_comm.append_right others
    exact (moved.map owner).nodup_iff.mp kept.owners

/-- **Serving** what is in hand: it leaves the waiting list too. -/
theorem serve (kept : Kept owner stamp queue waiting (taken ++ others)) :
    Kept owner stamp queue (waiting.filter (· ∉ taken)) others := by
  refine ⟨?_, List.Pairwise.filter _ kept.order, ?_⟩
  · rw [kept.queue_eq, List.filter_filter]
    refine List.filter_congr fun entry _ => ?_
    simp [List.mem_append, not_or, Bool.decide_and, Bool.and_comm]
  · exact kept.owners.sublist (((List.sublist_append_right taken others).append_left queue).map _)

/-- **Letting go** of what is in hand and does not wait any more. -/
theorem letGo (kept : Kept owner stamp queue waiting (taken ++ others))
    (gone : ∀ entry ∈ taken, entry ∉ waiting) : Kept owner stamp queue waiting others := by
  have served := kept.serve
  rwa [List.filter_eq_self.mpr] at served
  intro entry waits
  rw [decide_eq_true_eq]
  exact fun inside => gone entry inside waits

end Kept

end Waitlist
