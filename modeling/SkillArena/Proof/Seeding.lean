/-
**Seeding settles.**

Whatever statements are rejected, `seed` leaves the other problems alone, and the rows it updates keep their ids and
time limits. What was answered is in the table as the file has it; once everything was, running the script again
changes nothing (`seeding_settles`).
-/

import SkillArena.Model.Seeding

namespace SkillArena

variable {turns : List SeedTurn} {table : String → Option Problem} {turn : SeedTurn} {slug : String}

theorem seedProblems_other (free : ∀ turn ∈ turns, turn.1.slug ≠ slug) :
    seedProblems turns table slug = table slug := by
  induction turns generalizing table with
  | nil => rfl
  | cons turn turns ih =>
    have rest : seedProblems turns (seedOne table turn) slug = seedOne table turn slug :=
      ih fun turn later => free turn (.tail _ later)
    exact rest.trans (Function.update_of_ne (free turn (.head _)).symm _ _)

/-- **What the loop does to each problem of the file** is what its turn does. -/
theorem seedProblems_turn (distinct : (turns.map (·.1.slug)).Nodup) (member : turn ∈ turns) :
    seedProblems turns table turn.1.slug = turn.write (table turn.1.slug) := by
  induction turns generalizing table with
  | nil => cases member
  | cons first turns ih =>
    obtain ⟨fresh, distinct⟩ := List.nodup_cons.mp distinct
    have apart : ∀ turn ∈ turns, turn.1.slug ≠ first.1.slug := fun turn later same =>
      fresh (List.mem_map.mpr ⟨turn, later, same⟩)
    rcases List.mem_cons.mp member with rfl | later
    · have rest : seedProblems turns (seedOne table turn) turn.1.slug = seedOne table turn turn.1.slug :=
        seedProblems_other apart
      exact rest.trans (Function.update_self _ _ _)
    · have rest : seedProblems turns (seedOne table first) turn.1.slug = _ := ih distinct later
      refine rest.trans (congrArg turn.write ?_)
      exact Function.update_of_ne (apart turn later) _ _

theorem write_again (first second : SeedTurn) (same : first.1 = second.1) (done : first.2.toBool = true)
    (row : Option Problem) : second.write (first.write row) = first.write row := by
  obtain ⟨seed, err | id⟩ := first
  · cases done
  · obtain ⟨_, err | id'⟩ := second
    · rfl
    · cases same
      cases row with
      | none => rfl
      | some row => rfl

/-- **Seeding settles**, whatever is rejected: the problems that are not in the file, or whose turn failed, are left
alone, a row that is updated keeps its id, its slug and its time limit, and another is inserted. Once every turn was
answered, a further run changes nothing, even if turns of it fail. -/
theorem seeding_settles (turns : List SeedTurn) (distinct : (turns.map (·.1.slug)).Nodup)
    (table : String → Option Problem) :
    (∀ slug, (∀ turn ∈ turns, turn.1.slug = slug → turn.2.toBool = false) →
      seedProblems turns table slug = table slug) ∧
    (∀ turn ∈ turns, turn.2.toBool = true → ∃ row, seedProblems turns table turn.1.slug = some row ∧
      turn.1.updated row = row ∧ ∀ old, table turn.1.slug = some old → row = turn.1.updated old) ∧
    ∀ again : List SeedTurn, again.map Prod.fst = turns.map Prod.fst → (∀ turn ∈ turns, turn.2.toBool = true) →
      seedProblems again (seedProblems turns table) = seedProblems turns table := by
  refine ⟨fun slug failed => ?_, ?_, fun again same done => funext fun slug => ?_⟩
  · by_cases listed : ∃ turn ∈ turns, turn.1.slug = slug
    · obtain ⟨turn, member, rfl⟩ := listed
      rw [seedProblems_turn distinct member]
      obtain ⟨seed, err | id⟩ := turn
      · rfl
      · cases failed _ member rfl
    · exact seedProblems_other fun turn member same => listed ⟨turn, member, same⟩
  · rintro ⟨seed, err | id⟩ member done
    · cases done
    · rw [seedProblems_turn distinct member]
      cases there : table seed.slug with
      | none => exact ⟨_, rfl, rfl, by rintro _ ⟨⟩⟩
      | some row => exact ⟨_, rfl, rfl, by rintro _ ⟨⟩; rfl⟩
  · have slugs : again.map (·.1.slug) = turns.map (·.1.slug) := by
      have mapped := congrArg (List.map Seed.slug) same
      rw [List.map_map, List.map_map] at mapped
      exact mapped
    by_cases listed : ∃ turn ∈ again, turn.1.slug = slug
    · obtain ⟨turn, member, rfl⟩ := listed
      obtain ⟨first, inside, equal⟩ := List.mem_map.mp (same ▸ List.mem_map_of_mem member)
      rw [seedProblems_turn (slugs ▸ distinct) member, ← equal, seedProblems_turn distinct inside]
      exact write_again first turn equal (done first inside) _
    · exact seedProblems_other fun turn member same => listed ⟨turn, member, same⟩

/-- A problem for concrete runs. -/
def sampleSeed (slug : String) : Seed := ⟨"Sum of Array", slug, "", "easy", "arrays", []⟩

theorem seeding_settles_failed : ∃ row, seedProblems [(sampleSeed "sum", .ok 1),
    (sampleSeed "max", .error .unavailable)] (fun _ => none) "sum" = some row ∧
      (sampleSeed "sum").updated row = row := by
  obtain ⟨row, there, same, _⟩ := (seeding_settles [(sampleSeed "sum", .ok 1),
    (sampleSeed "max", .error .unavailable)] (by decide) fun _ => none).2.1 _ (.head _) rfl
  exact ⟨row, there, same⟩

end SkillArena
