/-
What a bounded map remembers of the writes made to it.

The map is written under a key with a stamped value, brought back to its limit after every
write, and read; a read may throw away a stale entry.  An entry is always the last one
written under its key.  The last write under a key is lost for one of two reasons only: a
reading of the clock found it stale, or at least as many other keys as the map can hold were
written no earlier.  The order in which the map is scanned and the ties between stamps play
no part.
-/

import Mathlib.Data.List.Dedup
import Mathlib.Data.List.Induction
import Lightscale.Mesh.Caches

namespace Lightscale.Mesh

open Foundation

section

variable {V : Type}

def lastWritten (writes : List (String × V)) (key : String) : Option V :=
  (writes.reverse.find? fun write => decide (write.1 = key)).map Prod.snd

/-- The other keys with a write at the time or later. -/
def rivals (stamp : V → Nat) (writes : List (String × V)) (key : String) (time : Nat) :
    List String :=
  ((writes.filter fun write => decide (write.1 ≠ key ∧ time ≤ stamp write.2)).map Prod.fst).dedup

theorem lastWritten_snoc (writes : List (String × V)) (written key : String) (value : V) :
    lastWritten (writes ++ [(written, value)]) key =
      if written = key then some value else lastWritten writes key := by
  unfold lastWritten
  rw [List.reverse_append]
  by_cases same : written = key
  · simp [same]
  · simp [same]

theorem mem_of_lastWritten {writes : List (String × V)} {key : String} {value : V}
    (last : lastWritten writes key = some value) : (key, value) ∈ writes := by
  obtain ⟨⟨written, item⟩, found, rfl⟩ := Option.map_eq_some_iff.mp last
  have sameKey := List.find?_some found
  rw [decide_eq_true_eq] at sameKey
  subst sameKey
  exact List.mem_reverse.mp (List.mem_of_find?_eq_some found)

theorem exists_lastWritten_of_mem (stamp : V → Nat) {writes : List (String × V)}
    (ordered : writes.Pairwise fun earlier later => stamp earlier.2 ≤ stamp later.2)
    {key : String} {value : V} (member : (key, value) ∈ writes) :
    ∃ last, lastWritten writes key = some last ∧ stamp value ≤ stamp last := by
  induction writes using List.reverseRecOn with
  | nil => cases member
  | append_singleton writes newest ih =>
      obtain ⟨written, item⟩ := newest
      obtain ⟨earlierOrdered, -, notLater⟩ := List.pairwise_append.mp ordered
      rw [lastWritten_snoc]
      by_cases same : written = key
      · rw [if_pos same]
        refine ⟨item, rfl, ?_⟩
        rcases List.mem_append.mp member with old | isNew
        · exact notLater _ old _ List.mem_cons_self
        · cases List.mem_singleton.mp isNew
          exact Nat.le_refl _
      · rw [if_neg same]
        rcases List.mem_append.mp member with old | isNew
        · exact ih earlierOrdered old
        · cases List.mem_singleton.mp isNew
          exact absurd rfl same

theorem mem_rivals_iff {stamp : V → Nat} {writes : List (String × V)} {key other : String}
    {time : Nat} :
    other ∈ rivals stamp writes key time ↔
      other ≠ key ∧ ∃ value, (other, value) ∈ writes ∧ time ≤ stamp value := by
  unfold rivals
  simp only [List.mem_dedup, List.mem_map, List.mem_filter, decide_eq_true_eq, Prod.exists]
  constructor
  · rintro ⟨written, value, ⟨member, different, noEarlier⟩, rfl⟩
    exact ⟨different, value, member, noEarlier⟩
  · rintro ⟨different, value, member, noEarlier⟩
    exact ⟨other, value, ⟨member, different, noEarlier⟩, rfl⟩

theorem length_rivals_le_append (stamp : V → Nat) (writes more : List (String × V))
    (key : String) (time : Nat) :
    (rivals stamp writes key time).length ≤ (rivals stamp (writes ++ more) key time).length := by
  refine ((List.nodup_dedup _).subperm ?_).length_le
  intro other member
  obtain ⟨different, value, isWrite, noEarlier⟩ := mem_rivals_iff.mp member
  exact mem_rivals_iff.mpr ⟨different, value, List.mem_append_left _ isWrite, noEarlier⟩

/-- A map of at most `limit` entries after the given readings of the clock and writes. -/
structure CacheSpec (limit ttl : Nat) (stamp : V → Nat) (readings : List Nat)
    (writes : List (String × V)) (table : Table String V) : Prop where
  bounded : table.entries.length ≤ limit
  stored : ∀ key value, table.lookup key = some value → lastWritten writes key = some value
  kept : ∀ key value, lastWritten writes key = some value →
    table.lookup key = some value ∨ (∃ now ∈ readings, ttl < now - stamp value) ∨
      limit ≤ (rivals stamp writes key (stamp value)).length

variable {limit ttl : Nat} {stamp : V → Nat} {readings : List Nat}
  {writes : List (String × V)} {table : Table String V}

theorem CacheSpec.empty (limit ttl : Nat) (stamp : V → Nat) :
    CacheSpec limit ttl stamp [] [] ∅ := by
  refine ⟨Nat.zero_le limit, ?_, nofun⟩
  intro key value found
  cases found

theorem CacheSpec.read (spec : CacheSpec limit ttl stamp readings writes table) (now : Nat) :
    CacheSpec limit ttl stamp (readings ++ [now]) writes table := by
  refine ⟨spec.bounded, spec.stored, ?_⟩
  intro key value last
  rcases spec.kept key value last with stays | ⟨reading, member, stale⟩ | crowded
  · exact Or.inl stays
  · exact Or.inr (Or.inl ⟨reading, List.mem_append_left _ member, stale⟩)
  · exact Or.inr (Or.inr crowded)

theorem CacheSpec.expire (spec : CacheSpec limit ttl stamp readings writes table) {now : Nat}
    {key : String} {value : V} (found : table.lookup key = some value)
    (stale : ttl < now - stamp value) :
    CacheSpec limit ttl stamp (readings ++ [now]) writes (table.erase key) := by
  refine ⟨?_, ?_, ?_⟩
  · exact Nat.le_trans (List.kerase_sublist key table.entries).length_le spec.bounded
  · intro other item isStored
    exact spec.stored other item (Table.lookup_of_lookup_erase isStored).2
  · intro other item last
    rcases (spec.read now).kept other item last with stays | lost
    · by_cases same : other = key
      · subst same
        rw [found, Option.some.injEq] at stays
        subst stays
        exact Or.inr (Or.inl ⟨now, List.mem_append_right _ List.mem_cons_self, stale⟩)
      · refine Or.inl ?_
        rw [Table.lookup_erase_eq, if_neg same]
        exact stays
    · exact Or.inr lost

theorem CacheSpec.write (spec : CacheSpec limit ttl stamp readings writes table) (scan : Scan)
    (now : Nat) (key : String) (value : V) :
    CacheSpec limit ttl stamp (readings ++ [now]) (writes ++ [(key, value)])
      (evict scan limit ttl now stamp (table.insert key value)) := by
  have stored : ∀ other item, (table.insert key value).lookup other = some item →
      lastWritten (writes ++ [(key, value)]) other = some item := by
    intro other item found
    rw [Table.lookup_insert_eq] at found
    rw [lastWritten_snoc]
    by_cases same : other = key
    · rw [if_pos same] at found
      rw [if_pos same.symm]
      exact found
    · rw [if_neg same] at found
      rw [if_neg (Ne.symm same)]
      exact spec.stored other item found
  -- What is in the map before the eviction is there after it, unless it is lost.
  have survives : ∀ other item, (table.insert key value).lookup other = some item →
      (evict scan limit ttl now stamp (table.insert key value)).lookup other = some item ∨
        (∃ reading ∈ readings ++ [now], ttl < reading - stamp item) ∨
        limit ≤ (rivals stamp (writes ++ [(key, value)]) other (stamp item)).length := by
    intro other item found
    rcases lookup_evict scan limit ttl now stamp found with
      stays | stale | ⟨others, nodup, different, length, younger⟩
    · exact Or.inl stays
    · exact Or.inr (Or.inl ⟨now, List.mem_append_right _ List.mem_cons_self, stale⟩)
    · refine Or.inr (Or.inr ?_)
      rw [← length]
      refine (nodup.subperm ?_).length_le
      intro rival member
      obtain ⟨rivalItem, atRival, noEarlier⟩ := younger rival member
      refine mem_rivals_iff.mpr ⟨?_, rivalItem, ?_, noEarlier⟩
      · rintro rfl
        exact different member
      · exact mem_of_lastWritten (stored rival rivalItem atRival)
  refine ⟨length_evict_le scan limit ttl now stamp _, ?_, ?_⟩
  · intro other item found
    exact stored other item (lookup_of_lookup_evict found)
  · intro other item last
    rw [lastWritten_snoc] at last
    by_cases same : key = other
    · rw [if_pos same, Option.some.injEq] at last
      subst same last
      exact survives key value (AList.lookup_insert table)
    · rw [if_neg same] at last
      rcases (spec.read now).kept other item last with stays | lost | crowded
      · apply survives
        rw [Table.lookup_insert_eq, if_neg (Ne.symm same)]
        exact stays
      · exact Or.inr (Or.inl lost)
      · exact Or.inr (Or.inr (Nat.le_trans crowded (length_rivals_le_append ..)))

end

end Lightscale.Mesh
