/-
The two caches of a mesh server: the message ids it has seen, and the next hop it
has learned for a node.

Both are bounded in the same way.  When an insertion makes the map too large, stale
entries go first, and if it is still too large the oldest entries go.  Instants are
numbers of nanoseconds, and the difference of two instants stops at zero.
-/

import Mathlib.Algebra.Group.Nat.Defs
import Mathlib.Data.List.Perm.Subperm
import Mathlib.Data.List.Sort
import Lightscale.Foundation.Table

namespace Lightscale.Mesh

open Foundation

/-- The order in which a hash map is iterated, which nothing determines. -/
structure Scan where
  order : List (String × Nat) → List (String × Nat)
  perm : ∀ entries, (order entries).Perm entries

def inOrder : Scan where
  order entries := entries
  perm entries := List.Perm.refl entries

def seconds (count : Nat) : Nat := count * 10 ^ 9

def seenTtl : Nat := seconds 120

def maxSeenIds : Nat := 8192

def routeTtl : Nat := seconds 300

def maxRouteHints : Nat := 16384

/-- Bring a map back to its size limit after an insertion. -/
def evict {V : Type} (scan : Scan) (limit ttl now : Nat) (stamp : V → Nat)
    (table : Table String V) : Table String V :=
  if table.entries.length ≤ limit then table
  else
    let fresh := table.retain (fun _ value => decide (now - stamp value ≤ ttl))
    if fresh.entries.length ≤ limit then fresh
    else
      let entries :=
        (scan.order (fresh.entries.map fun entry => (entry.1, stamp entry.2))).mergeSort
          (fun left right => decide (left.2 ≤ right.2))
      let removeCount := fresh.entries.length - limit
      (entries.take removeCount).foldl (fun kept entry => kept.erase entry.1) fresh

theorem lookup_foldl_erase {V : Type} (removed : List (String × Nat)) (table : Table String V)
    {key : String} {value : V}
    (found : (removed.foldl (fun kept entry => kept.erase entry.1) table).lookup key =
      some value) : table.lookup key = some value := by
  induction removed generalizing table with
  | nil => exact found
  | cons entry rest ih =>
      have later := ih (table.erase entry.1) found
      exact (Table.lookup_of_lookup_erase later).2

theorem lookup_of_lookup_evict {V : Type} {scan : Scan} {limit ttl now : Nat}
    {stamp : V → Nat} {table : Table String V} {key : String} {value : V}
    (found : (evict scan limit ttl now stamp table).lookup key = some value) :
    table.lookup key = some value := by
  unfold evict at found
  by_cases small : table.entries.length ≤ limit
  · rw [if_pos small] at found
    exact found
  · rw [if_neg small] at found
    dsimp only at found
    split at found
    · exact ((Table.lookup_retain_eq_some_iff table _ key value).mp found).1
    · have fresh := lookup_foldl_erase _ _ found
      exact ((Table.lookup_retain_eq_some_iff table _ key value).mp fresh).1

/-! ### What eviction keeps -/

theorem lookup_foldl_erase_of_ne {V : Type} (removed : List (String × Nat))
    (table : Table String V) {key : String} (kept : ∀ entry ∈ removed, entry.1 ≠ key) :
    (removed.foldl (fun left entry => left.erase entry.1) table).lookup key =
      table.lookup key := by
  induction removed generalizing table with
  | nil => rfl
  | cons entry rest ih =>
      have later := ih (table.erase entry.1)
        (fun other member => kept other (List.mem_cons_of_mem _ member))
      refine later.trans ?_
      rw [Table.lookup_erase_eq, if_neg (kept entry List.mem_cons_self).symm]

section

variable {V : Type} (scan : Scan) (stamp : V → Nat) (table : Table String V)

def byAge : List (String × Nat) :=
  (scan.order (table.entries.map fun entry => (entry.1, stamp entry.2))).mergeSort
    (fun left right => decide (left.2 ≤ right.2))

theorem byAge_perm :
    (byAge scan stamp table).Perm (table.entries.map fun entry => (entry.1, stamp entry.2)) :=
  (List.mergeSort_perm _ _).trans (scan.perm _)

theorem byAge_sorted :
    (byAge scan stamp table).Pairwise (fun left right => left.2 ≤ right.2) := by
  have sorted : (byAge scan stamp table).Pairwise
      (fun left right => decide (left.2 ≤ right.2) = true) := by
    unfold byAge
    apply List.pairwise_mergeSort
    · intro first second third left right
      exact decide_eq_true (Nat.le_trans (of_decide_eq_true left) (of_decide_eq_true right))
    · intro first second
      rw [Bool.or_eq_true, decide_eq_true_eq, decide_eq_true_eq]
      exact Nat.le_total first.2 second.2
  exact sorted.imp of_decide_eq_true

theorem byAge_keys_nodup : ((byAge scan stamp table).map Prod.fst).Nodup := by
  refine (List.Perm.nodup_iff ((byAge_perm scan stamp table).map Prod.fst)).mpr ?_
  rw [List.map_map]
  exact table.keys_nodup

theorem lookup_of_mem_byAge {key : String} {time : Nat}
    (member : (key, time) ∈ byAge scan stamp table) :
    ∃ value, table.lookup key = some value ∧ stamp value = time := by
  obtain ⟨⟨stored, value⟩, isEntry, same⟩ :=
    List.mem_map.mp ((byAge_perm scan stamp table).mem_iff.mp member)
  obtain ⟨rfl, rfl⟩ := Prod.mk.inj same
  exact ⟨value, (Table.mem_entries_iff table stored value).mp isEntry, rfl⟩

theorem younger_of_taken {count : Nat} {entry : String × Nat}
    (taken : entry ∈ (byAge scan stamp table).take count) :
    let left := ((byAge scan stamp table).drop count).map Prod.fst
    left.Nodup ∧ entry.1 ∉ left ∧ left.length = table.entries.length - count ∧
      ∀ other ∈ left, ∃ value, table.lookup other = some value ∧ entry.2 ≤ stamp value := by
  have sorted := byAge_sorted scan stamp table
  have nodup := byAge_keys_nodup scan stamp table
  rw [← List.take_append_drop count (byAge scan stamp table)] at sorted nodup
  rw [List.map_append] at nodup
  obtain ⟨_, leftNodup, apart⟩ := List.nodup_append.mp nodup
  have older := (List.pairwise_append.mp sorted).2.2 entry taken
  refine ⟨leftNodup, ?_, ?_, ?_⟩
  · intro stays
    exact apart entry.1 (List.mem_map_of_mem taken) entry.1 stays rfl
  · rw [List.length_map, List.length_drop, (byAge_perm scan stamp table).length_eq,
      List.length_map]
  · intro other member
    obtain ⟨⟨key, time⟩, stays, rfl⟩ := List.mem_map.mp member
    obtain ⟨value, found, isTime⟩ :=
      lookup_of_mem_byAge scan stamp table (List.mem_of_mem_drop stays)
    refine ⟨value, found, ?_⟩
    rw [isTime]
    exact older (key, time) stays

end

/-- An entry is evicted only if it is too old, or if the map is full of others that are
at least as young. -/
theorem lookup_evict {V : Type} (scan : Scan) (limit ttl now : Nat) (stamp : V → Nat)
    {table : Table String V} {key : String} {value : V}
    (found : table.lookup key = some value) :
    (evict scan limit ttl now stamp table).lookup key = some value ∨
      ttl < now - stamp value ∨
      ∃ others : List String, others.Nodup ∧ key ∉ others ∧ others.length = limit ∧
        ∀ other ∈ others, ∃ item, table.lookup other = some item ∧ stamp value ≤ stamp item := by
  unfold evict
  by_cases small : table.entries.length ≤ limit
  · rw [if_pos small]
    exact Or.inl found
  · rw [if_neg small]
    dsimp only
    by_cases old : ttl < now - stamp value
    · exact Or.inr (Or.inl old)
    · have isFresh : (table.retain fun _ item => decide (now - stamp item ≤ ttl)).lookup key =
          some value :=
        (Table.lookup_retain_eq_some_iff table _ key value).mpr
          ⟨found, decide_eq_true (Nat.le_of_not_lt old)⟩
      generalize freshIs : (table.retain fun _ item => decide (now - stamp item ≤ ttl)) = fresh
        at isFresh
      split
      · exact Or.inl isFresh
      · rename_i large
        change (List.foldl _ fresh ((byAge scan stamp fresh).take _)).lookup key = _ ∨ _
        by_cases taken : ∃ entry ∈ (byAge scan stamp fresh).take (fresh.entries.length - limit),
            entry.1 = key
        · obtain ⟨⟨_, time⟩, taken, rfl⟩ := taken
          obtain ⟨nodup, notKey, length, younger⟩ := younger_of_taken scan stamp fresh taken
          obtain ⟨stored, storedAt, isTime⟩ :=
            lookup_of_mem_byAge scan stamp fresh (List.mem_of_mem_take taken)
          rw [isFresh, Option.some.injEq] at storedAt
          refine Or.inr (Or.inr ⟨_, nodup, notKey, ?_, ?_⟩)
          · rw [length]
            omega
          · intro other member
            obtain ⟨item, atOther, notOlder⟩ := younger other member
            rw [← freshIs] at atOther
            rw [storedAt, isTime]
            exact ⟨item, ((Table.lookup_retain_eq_some_iff table _ other item).mp atOther).1,
              notOlder⟩
        · refine Or.inl ?_
          rw [lookup_foldl_erase_of_ne]
          · exact isFresh
          · intro entry member same
            exact taken ⟨entry, member, same⟩

theorem lookup_foldl_erase_of_mem {V : Type} (removed : List (String × Nat))
    (table : Table String V) {entry : String × Nat} (member : entry ∈ removed) :
    (removed.foldl (fun left entry => left.erase entry.1) table).lookup entry.1 = none := by
  induction removed generalizing table with
  | nil => cases member
  | cons head rest ih =>
      rcases List.mem_cons.mp member with rfl | later
      · cases found : (rest.foldl (fun left entry => left.erase entry.1)
            (table.erase entry.1)).lookup entry.1 with
        | none => exact found
        | some value =>
            have stored := lookup_foldl_erase _ _ found
            rw [Table.lookup_erase_eq, if_pos rfl] at stored
            cases stored
      · exact ih (table.erase head.1) later

theorem length_foldl_erase_byAge_le {V : Type} (scan : Scan) (stamp : V → Nat)
    (table : Table String V) (count : Nat) :
    (((byAge scan stamp table).take count).foldl (fun kept entry => kept.erase entry.1)
      table).entries.length ≤ table.entries.length - count := by
  generalize leftIs : ((byAge scan stamp table).take count).foldl
    (fun kept entry => kept.erase entry.1) table = left
  have among : left.keys ⊆ ((byAge scan stamp table).drop count).map Prod.fst := by
    intro key member
    obtain ⟨value, found⟩ := Table.exists_lookup_of_mem (AList.mem_keys.mpr member)
    rw [← leftIs] at found
    have stored := lookup_foldl_erase _ _ found
    have listed : (key, stamp value) ∈ byAge scan stamp table :=
      (byAge_perm scan stamp table).mem_iff.mpr
        (List.mem_map.mpr ⟨⟨key, value⟩, (Table.mem_entries_iff table key value).mpr stored, rfl⟩)
    rw [← List.take_append_drop count (byAge scan stamp table)] at listed
    rcases List.mem_append.mp listed with taken | stays
    · rw [lookup_foldl_erase_of_mem _ _ taken] at found
      cases found
    · exact List.mem_map.mpr ⟨_, stays, rfl⟩
  have fewer := (left.keys_nodup.subperm among).length_le
  rw [List.length_map, List.length_drop, (byAge_perm scan stamp table).length_eq,
    List.length_map] at fewer
  unfold AList.keys List.keys at fewer
  rw [List.length_map] at fewer
  exact fewer

theorem length_evict_le {V : Type} (scan : Scan) (limit ttl now : Nat) (stamp : V → Nat)
    (table : Table String V) :
    (evict scan limit ttl now stamp table).entries.length ≤ limit := by
  unfold evict
  split
  · assumption
  · dsimp only
    generalize (table.retain fun _ item => decide (now - stamp item ≤ ttl)) = fresh
    split
    · assumption
    · have fewer := length_foldl_erase_byAge_le scan stamp fresh (fresh.entries.length - limit)
      refine Nat.le_trans fewer ?_
      omega

/-! ### Seen message ids -/

/-- Whether the message is new, and the ids remembered afterwards. -/
def rememberMessage (scan : Scan) (now : Nat) (messageId : String) (seen : Table String Nat) :
    Bool × Table String Nat :=
  let accepted := evict scan maxSeenIds seenTtl now id (seen.insert messageId now)
  match seen.lookup messageId with
  | some seenAt => if now - seenAt < seenTtl then (false, seen) else (true, accepted)
  | none => (true, accepted)

theorem rememberMessage_of_new (scan : Scan) (now : Nat) {messageId : String}
    {seen : Table String Nat} (new : seen.lookup messageId = none) :
    (rememberMessage scan now messageId seen).1 = true := by
  unfold rememberMessage
  dsimp only
  rw [new]

theorem rememberMessage_of_refused {scan : Scan} {now : Nat} {messageId : String}
    {seen : Table String Nat} (refused : (rememberMessage scan now messageId seen).1 = false) :
    (rememberMessage scan now messageId seen).2 = seen ∧ seen.lookup messageId ≠ none := by
  unfold rememberMessage at refused ⊢
  dsimp only at refused ⊢
  cases found : seen.lookup messageId with
  | none =>
      rw [found] at refused
      cases refused
  | some seenAt =>
      rw [found] at refused
      dsimp only at refused ⊢
      by_cases recent : now - seenAt < seenTtl
      · rw [if_pos recent]
        exact ⟨rfl, Option.some_ne_none seenAt⟩
      · rw [if_neg recent] at refused
        cases refused

theorem rememberMessage_of_accepted {scan : Scan} {now : Nat} {messageId : String}
    {seen : Table String Nat} (accepted : (rememberMessage scan now messageId seen).1 = true) :
    (rememberMessage scan now messageId seen).2 =
      evict scan maxSeenIds seenTtl now id (seen.insert messageId now) := by
  unfold rememberMessage at accepted ⊢
  dsimp only at accepted ⊢
  cases found : seen.lookup messageId with
  | none => rfl
  | some seenAt =>
      rw [found] at accepted
      dsimp only at accepted ⊢
      by_cases recent : now - seenAt < seenTtl
      · rw [if_pos recent] at accepted
        cases accepted
      · rw [if_neg recent]

theorem rememberMessage_of_recent {scan : Scan} {now seenAt : Nat} {messageId : String}
    {seen : Table String Nat} (found : seen.lookup messageId = some seenAt)
    (recent : now - seenAt < seenTtl) :
    (rememberMessage scan now messageId seen).1 = false := by
  unfold rememberMessage
  dsimp only
  rw [found]
  dsimp only
  rw [if_pos recent]

theorem rememberMessage_of_expired {scan : Scan} {now seenAt : Nat} {messageId : String}
    {seen : Table String Nat} (found : seen.lookup messageId = some seenAt)
    (expired : ¬ now - seenAt < seenTtl) :
    (rememberMessage scan now messageId seen).1 = true := by
  unfold rememberMessage
  dsimp only
  rw [found]
  dsimp only
  rw [if_neg expired]

theorem length_insert_le {V : Type} (table : Table String V) (key : String) (value : V) :
    (table.insert key value).entries.length ≤ table.entries.length + 1 := by
  rw [AList.entries_insert, List.length_cons]
  exact Nat.succ_le_succ (List.kerase_sublist key table.entries).length_le

theorem rememberMessage_of_room {scan : Scan} {now : Nat} {messageId : String}
    {seen : Table String Nat} (room : seen.entries.length < maxSeenIds) :
    ((rememberMessage scan now messageId seen).2 = seen ∧ seen.lookup messageId ≠ none) ∨
      (rememberMessage scan now messageId seen).2 = seen.insert messageId now := by
  have small : (seen.insert messageId now).entries.length ≤ maxSeenIds := by
    have grown := length_insert_le seen messageId now
    omega
  have kept : evict scan maxSeenIds seenTtl now id (seen.insert messageId now) =
      seen.insert messageId now := by
    unfold evict
    rw [if_pos small]
  cases accepted : (rememberMessage scan now messageId seen).1 with
  | false => exact Or.inl (rememberMessage_of_refused accepted)
  | true =>
      refine Or.inr ?_
      rw [rememberMessage_of_accepted accepted]
      exact kept

theorem seen_rememberMessage_of_room {scan : Scan} {now : Nat} {messageId other : String}
    {seen : Table String Nat} (room : seen.entries.length < maxSeenIds)
    (known : other = messageId ∨ seen.lookup other ≠ none) :
    (rememberMessage scan now messageId seen).2.lookup other ≠ none := by
  rcases rememberMessage_of_room room with ⟨same, stored⟩ | inserted
  · rw [same]
    rcases known with isId | old
    · rw [isId]
      exact stored
    · exact old
  · rw [inserted, Table.lookup_insert_eq]
    by_cases isId : other = messageId
    · rw [if_pos isId]
      exact Option.some_ne_none now
    · rw [if_neg isId]
      rcases known with same | old
      · exact absurd same isId
      · exact old

theorem length_rememberMessage_le (scan : Scan) (now : Nat) (messageId : String)
    {seen : Table String Nat} (room : seen.entries.length < maxSeenIds) :
    (rememberMessage scan now messageId seen).2.entries.length ≤ seen.entries.length + 1 := by
  rcases rememberMessage_of_room room with ⟨same, _⟩ | inserted
  · rw [same]
    exact Nat.le_succ _
  · rw [inserted]
    exact length_insert_le seen messageId now

theorem seen_of_rememberMessage {scan : Scan} {now : Nat} {messageId other : String}
    {seen : Table String Nat} (different : other ≠ messageId)
    (found : (rememberMessage scan now messageId seen).2.lookup other ≠ none) :
    seen.lookup other ≠ none := by
  cases accepted : (rememberMessage scan now messageId seen).1 with
  | false =>
      rw [(rememberMessage_of_refused accepted).1] at found
      exact found
  | true =>
      rw [rememberMessage_of_accepted accepted] at found
      obtain ⟨seenAt, atOther⟩ := Option.ne_none_iff_exists'.mp found
      have old := lookup_of_lookup_evict atOther
      rw [Table.lookup_insert_eq, if_neg different] at old
      rw [old]
      exact Option.some_ne_none seenAt

/-! ### Learned routes -/

structure RouteHint where
  peerId : String
  updatedAt : Nat
  deriving DecidableEq

def learnRoute (scan : Scan) (now : Nat) (nodeId peerId : String)
    (hints : Table String RouteHint) : Table String RouteHint :=
  if nodeId = "" ∨ peerId = "" then hints
  else
    evict scan maxRouteHints routeTtl now RouteHint.updatedAt
      (hints.insert nodeId { peerId := peerId, updatedAt := now })

/-- The live hint for a node; a stale one is removed. -/
def lookupRoute (now : Nat) (nodeId : String) (hints : Table String RouteHint) :
    Option String × Table String RouteHint :=
  match hints.lookup nodeId with
  | some route =>
      if now - route.updatedAt ≤ routeTtl then (some route.peerId, hints)
      else (none, hints.erase nodeId)
  | none => (none, hints)

theorem lookup_learnRoute_none {scan : Scan} {now : Nat} {nodeId peerId target : String}
    {hints : Table String RouteHint} (absent : hints.lookup target = none)
    (different : target ≠ nodeId) :
    (learnRoute scan now nodeId peerId hints).lookup target = none := by
  unfold learnRoute
  split
  · exact absent
  · cases found : (evict scan maxRouteHints routeTtl now RouteHint.updatedAt
        (hints.insert nodeId { peerId := peerId, updatedAt := now })).lookup target with
    | none => rfl
    | some route =>
        have old := lookup_of_lookup_evict found
        rw [Table.lookup_insert_eq, if_neg different, absent] at old
        cases old

theorem lookup_lookupRoute_none {now : Nat} {nodeId target : String}
    {hints : Table String RouteHint} (absent : hints.lookup target = none) :
    (lookupRoute now nodeId hints).2.lookup target = none := by
  unfold lookupRoute
  split
  · split
    · exact absent
    · dsimp only
      rw [Table.lookup_erase_eq, absent]
      split <;> rfl
  · exact absent

end Lightscale.Mesh
