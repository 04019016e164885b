import CoopSched.Scheduler
/-!
# Tables of tasks and rosters of groups

What a look-up finds after an entry was made or taken out, and how an entry and a look-up belong
together when no id is entered twice.
-/

namespace CoopSched

namespace TableLemmas

theorem lookup_mem {α : Type} [BEq α] [LawfulBEq α] {β : Type} {entries : List (α × β)} {a : α}
    {b : β} (h : entries.lookup a = some b) : (a, b) ∈ entries := by
  obtain ⟨before, after, heq, _⟩ := List.lookup_eq_some_iff.mp h
  rw [heq]
  exact List.mem_append_right before List.mem_cons_self

theorem lookup_of_mem {α : Type} [BEq α] [LawfulBEq α] {β : Type} {entries : List (α × β)}
    (nodup : (entries.map (·.1)).Nodup) {a : α} {b : β} (h : (a, b) ∈ entries) :
    entries.lookup a = some b := by
  induction entries with
  | nil => cases h
  | cons entry rest ih =>
    obtain ⟨a', b'⟩ := entry
    rw [List.map_cons, List.nodup_cons] at nodup
    rw [List.lookup_cons]
    rcases List.mem_cons.mp h with heq | hmem
    · cases heq
      rw [beq_self_eq_true]
    · have hne : (a == a') = false := by
        refine beq_false_of_ne fun heq => nodup.1 ?_
        exact heq ▸ List.mem_map_of_mem (f := (·.1)) hmem
      rw [hne]
      exact ih nodup.2 hmem

end TableLemmas

namespace TaskTable

variable {tasks : TaskTable} {id : UInt64} {r : RoutineRef}

theorem find?_insert (new : tasks.find? id = none) (r : RoutineRef) (other : UInt64) :
    (tasks.insert id r).find? other = if other = id then some r else tasks.find? other := by
  simp only [find?, insert, List.lookup_append]
  split
  · next heq =>
    have absent : tasks.entries.lookup id = none := new
    simp [heq, absent]
  · next hne =>
    have unequal : (other == id) = false := beq_false_of_ne hne
    simp [List.lookup_cons, unequal]

theorem find?_erase (tasks : TaskTable) (id other : UInt64) :
    (tasks.erase id).find? other = if other = id then none else tasks.find? other := by
  obtain ⟨entries⟩ := tasks
  simp only [find?, erase]
  induction entries with
  | nil => simp
  | cons entry rest ih =>
    obtain ⟨a, b⟩ := entry
    rw [List.filter_cons]
    by_cases ha : a = id
    · subst ha
      simp only [bne_self_eq_false, Bool.false_eq_true, if_false]
      rw [ih, List.lookup_cons]
      by_cases ho : other = a
      · simp [ho]
      · simp [ho, beq_false_of_ne ho]
    · have keep : (a != id) = true := bne_iff_ne.mpr ha
      simp only [keep, if_true]
      rw [List.lookup_cons, List.lookup_cons, ih]
      by_cases ho : other = a
      · subst ho
        simp [ha]
      · simp [beq_false_of_ne ho]

theorem mem_entries_iff (nodup : tasks.ids.Nodup) :
    (id, r) ∈ tasks.entries ↔ tasks.find? id = some r :=
  ⟨fun h => TableLemmas.lookup_of_mem nodup h, fun h => TableLemmas.lookup_mem h⟩

theorem find?_of_mem_ids (h : id ∈ tasks.ids) : ∃ r, tasks.find? id = some r := by
  obtain ⟨entry, mem, heq⟩ := List.mem_map.mp h
  have found : (tasks.entries.lookup id).isSome :=
    List.lookup_isSome_iff.mpr ⟨entry, mem, beq_iff_eq.mpr heq.symm⟩
  exact Option.isSome_iff_exists.mp found

theorem nodup_insert (nodup : tasks.ids.Nodup) (new : tasks.find? id = none) (r : RoutineRef) :
    (tasks.insert id r).ids.Nodup := by
  have absent : id ∉ tasks.ids := fun h => by
    obtain ⟨q, hq⟩ := find?_of_mem_ids h
    rw [new] at hq
    cases hq
  simp only [ids, insert, List.map_append]
  refine List.nodup_append.mpr ⟨nodup, by simp, ?_⟩
  rintro a ha b hb rfl
  cases List.mem_singleton.mp hb
  exact absent ha

theorem nodup_erase (nodup : tasks.ids.Nodup) (id : UInt64) : (tasks.erase id).ids.Nodup :=
  (List.filter_sublist.map _).nodup nodup

end TaskTable

namespace Roster

/-- The groups of a roster. -/
def refs (roster : Roster) : List GroupRef := roster.groups.map (·.2)

variable {roster : Roster} {name : String} {g : GroupRef}

theorem mem_refs_of_find? (h : roster.find? name = some g) : g ∈ roster.refs :=
  List.mem_map_of_mem (f := (·.2)) (TableLemmas.lookup_mem h)

theorem findOrDefault_of_find? (h : roster.find? name = some g) :
    roster.findOrDefault name = g := by
  rw [findOrDefault, h, Option.getD_some]

theorem findOrDefault_mem (default : roster.default ∈ roster.refs) (name : String) :
    roster.findOrDefault name ∈ roster.refs := by
  unfold findOrDefault
  cases h : roster.find? name with
  | some g => exact mem_refs_of_find? h
  | none => exact default

end Roster

end CoopSched
