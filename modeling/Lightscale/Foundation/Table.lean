/-
Finite maps keyed by an arbitrary type with decidable equality.

A table is an association list without repeated keys, so the values a program
reads back are determined by the key alone.  Two operations that hash maps offer
and association lists lack are added here: the list of stored values, and
retaining the entries that pass a test.  The order of the entries has no meaning
for a lookup.
-/

import Mathlib.Data.List.AList
import Mathlib.Data.List.Induction

namespace Lightscale.Foundation

abbrev Table (K V : Type) := AList (fun _ : K => V)

namespace Table

variable {K V : Type}

def values (table : Table K V) : List V :=
  table.entries.map (fun entry => entry.2)

def retain (keep : K → V → Bool) (table : Table K V) : Table K V :=
  ⟨table.entries.filter (fun entry => keep entry.1 entry.2),
    List.NodupKeys.sublist List.filter_sublist table.nodupKeys⟩

variable [DecidableEq K]

/-- Insert the pairs one after the other; a later pair replaces an earlier one of its key. -/
def ofPairs (pairs : List (K × V)) : Table K V :=
  pairs.foldl (fun table pair => table.insert pair.1 pair.2) ∅

theorem lookup_insert_eq (table : Table K V) (stored key : K) (value : V) :
    (table.insert stored value).lookup key =
      if key = stored then some value else table.lookup key := by
  by_cases same : key = stored
  · subst key
    rw [if_pos rfl, AList.lookup_insert]
  · rw [if_neg same, AList.lookup_insert_ne same]

private theorem dlookup_kreplace (entries : List (Sigma fun _ : K => V)) (stored key : K)
    (old value : V) (present : entries.dlookup stored = some old) :
    (entries.kreplace stored value).dlookup key =
      if key = stored then some value else entries.dlookup key := by
  induction entries with
  | nil => cases present
  | cons entry rest ih =>
      by_cases atHead : stored = entry.1
      · have replaced : List.kreplace stored value (entry :: rest) =
            ⟨stored, value⟩ :: rest := by
          unfold List.kreplace
          exact List.lookmap_cons_some _ rest (if_pos atHead)
        rw [replaced]
        by_cases same : key = stored
        · subst key
          rw [if_pos rfl, List.dlookup_cons_eq]
        · rw [if_neg same, List.dlookup_cons_ne rest ⟨stored, value⟩ same,
            List.dlookup_cons_ne rest entry (by rw [← atHead]; exact same)]
      · have kept : List.kreplace stored value (entry :: rest) =
            entry :: List.kreplace stored value rest := by
          unfold List.kreplace
          exact List.lookmap_cons_none _ rest (if_neg atHead)
        rw [List.dlookup_cons_ne rest entry atHead] at present
        rw [kept]
        by_cases found : key = entry.1
        · have different : key ≠ stored := fun same => atHead (same.symm.trans found)
          rcases entry with ⟨entryKey, entryValue⟩
          change key = entryKey at found
          subst found
          rw [if_neg different, List.dlookup_cons_eq, List.dlookup_cons_eq]
        · rw [List.dlookup_cons_ne _ entry found, List.dlookup_cons_ne _ entry found]
          exact ih present

theorem lookup_replace_eq {table : Table K V} {stored : K} {old : V}
    (present : table.lookup stored = some old) (value : V) (key : K) :
    (table.replace stored value).lookup key =
      if key = stored then some value else table.lookup key :=
  dlookup_kreplace table.entries stored key old value present

theorem lookup_erase_eq (table : Table K V) (erased key : K) :
    (table.erase erased).lookup key =
      if key = erased then none else table.lookup key := by
  by_cases same : key = erased
  · subst key
    rw [if_pos rfl, AList.lookup_erase]
  · rw [if_neg same, AList.lookup_erase_ne same]

theorem mem_of_lookup {table : Table K V} {key : K} {value : V}
    (found : table.lookup key = some value) : key ∈ table := by
  rw [← AList.lookup_isSome, found]
  rfl

theorem exists_lookup_of_mem {table : Table K V} {key : K} (member : key ∈ table) :
    ∃ value, table.lookup key = some value :=
  Option.isSome_iff_exists.mp (AList.lookup_isSome.mpr member)

theorem mem_entries_iff (table : Table K V) (key : K) (value : V) :
    (⟨key, value⟩ : Sigma fun _ : K => V) ∈ table.entries ↔
      table.lookup key = some value :=
  (AList.mem_lookup_iff (s := table) (a := key) (b := value)).symm

theorem mem_values_iff (table : Table K V) (value : V) :
    value ∈ table.values ↔ ∃ key, table.lookup key = some value := by
  unfold values
  rw [List.mem_map]
  constructor
  · rintro ⟨⟨key, stored⟩, member, rfl⟩
    exact ⟨key, (mem_entries_iff table key stored).mp member⟩
  · rintro ⟨key, found⟩
    exact ⟨⟨key, value⟩, (mem_entries_iff table key value).mpr found, rfl⟩

theorem lookup_retain_eq_some_iff (table : Table K V) (keep : K → V → Bool)
    (key : K) (value : V) :
    (table.retain keep).lookup key = some value ↔
      table.lookup key = some value ∧ keep key value = true := by
  rw [← mem_entries_iff, ← mem_entries_iff]
  exact List.mem_filter

theorem replace_self {table : Table K V} {key : K} {value : V}
    (found : table.lookup key = some value) : table.replace key value = table :=
  AList.ext (List.kreplace_self table.nodupKeys ((mem_entries_iff table key value).mpr found))

theorem lookup_of_lookup_insert {table : Table K V} {stored key : K} {value item : V}
    (found : (table.insert stored value).lookup key = some item) (different : item ≠ value) :
    key ≠ stored ∧ table.lookup key = some item := by
  rw [lookup_insert_eq] at found
  by_cases same : key = stored
  · rw [if_pos same, Option.some.injEq] at found
    exact absurd found.symm different
  · rw [if_neg same] at found
    exact ⟨same, found⟩

theorem forall_lookup_insert {table : Table K V} {stored : K} {value : V}
    {property : K → V → Prop}
    (old : ∀ key item, table.lookup key = some item → property key item)
    (new : property stored value) :
    ∀ key item, (table.insert stored value).lookup key = some item →
      property key item := by
  intro key item found
  rw [lookup_insert_eq] at found
  by_cases same : key = stored
  · subst key
    rw [if_pos rfl] at found
    cases found
    exact new
  · rw [if_neg same] at found
    exact old key item found

theorem forall_lookup_replace {table : Table K V} {stored : K} {old value : V}
    {property : K → V → Prop} (present : table.lookup stored = some old)
    (before : ∀ key item, table.lookup key = some item → property key item)
    (new : property stored value) :
    ∀ key item, (table.replace stored value).lookup key = some item →
      property key item := by
  intro key item found
  rw [lookup_replace_eq present, ← lookup_insert_eq] at found
  exact forall_lookup_insert before new key item found

/-- A symmetric relation between the values of different keys is kept when the new
value is related to the others. -/
theorem forall_pairs_insert {table : Table K V} {stored : K} {value : V}
    {related : V → V → Prop} (symmetric : ∀ left right, related left right → related right left)
    (old : ∀ leftKey left, table.lookup leftKey = some left →
      ∀ rightKey right, table.lookup rightKey = some right → leftKey ≠ rightKey →
        related left right)
    (new : ∀ key item, table.lookup key = some item → key ≠ stored → related value item) :
    ∀ leftKey left, (table.insert stored value).lookup leftKey = some left →
      ∀ rightKey right, (table.insert stored value).lookup rightKey = some right →
        leftKey ≠ rightKey → related left right := by
  intro leftKey left leftAt rightKey right rightAt different
  rw [lookup_insert_eq] at leftAt rightAt
  by_cases isLeft : leftKey = stored
  · have notRight : rightKey ≠ stored := fun isRight => different (isLeft.trans isRight.symm)
    rw [if_pos isLeft, Option.some.injEq] at leftAt
    rw [if_neg notRight] at rightAt
    subst leftAt
    exact new rightKey right rightAt notRight
  · rw [if_neg isLeft] at leftAt
    by_cases isRight : rightKey = stored
    · rw [if_pos isRight, Option.some.injEq] at rightAt
      subst rightAt
      exact symmetric _ _ (new leftKey left leftAt isLeft)
    · rw [if_neg isRight] at rightAt
      exact old leftKey left leftAt rightKey right rightAt different

theorem forall_pairs_replace {table : Table K V} {stored : K} {present value : V}
    {related : V → V → Prop} (found : table.lookup stored = some present)
    (symmetric : ∀ left right, related left right → related right left)
    (old : ∀ leftKey left, table.lookup leftKey = some left →
      ∀ rightKey right, table.lookup rightKey = some right → leftKey ≠ rightKey →
        related left right)
    (new : ∀ key item, table.lookup key = some item → key ≠ stored → related value item) :
    ∀ leftKey left, (table.replace stored value).lookup leftKey = some left →
      ∀ rightKey right, (table.replace stored value).lookup rightKey = some right →
        leftKey ≠ rightKey → related left right := by
  intro leftKey left leftAt rightKey right rightAt
  rw [lookup_replace_eq found, ← lookup_insert_eq] at leftAt rightAt
  exact forall_pairs_insert symmetric old new leftKey left leftAt rightKey right rightAt

theorem forall_lookup_erase {table : Table K V} {erased : K}
    {property : K → V → Prop}
    (old : ∀ key item, table.lookup key = some item → property key item) :
    ∀ key item, (table.erase erased).lookup key = some item →
      property key item := by
  intro key item found
  rw [lookup_erase_eq] at found
  by_cases same : key = erased
  · rw [if_pos same] at found
    cases found
  · rw [if_neg same] at found
    exact old key item found

theorem lookup_of_lookup_erase {table : Table K V} {erased key : K} {value : V}
    (found : (table.erase erased).lookup key = some value) :
    key ≠ erased ∧ table.lookup key = some value := by
  rw [lookup_erase_eq] at found
  by_cases same : key = erased
  · rw [if_pos same] at found
    cases found
  · rw [if_neg same] at found
    exact ⟨same, found⟩

theorem forall_pairs_erase {table : Table K V} {erased : K} {related : V → V → Prop}
    (old : ∀ leftKey left, table.lookup leftKey = some left →
      ∀ rightKey right, table.lookup rightKey = some right → leftKey ≠ rightKey →
        related left right) :
    ∀ leftKey left, (table.erase erased).lookup leftKey = some left →
      ∀ rightKey right, (table.erase erased).lookup rightKey = some right →
        leftKey ≠ rightKey → related left right := by
  intro leftKey left leftAt rightKey right rightAt
  exact old leftKey left (lookup_of_lookup_erase leftAt).2 rightKey right
    (lookup_of_lookup_erase rightAt).2

/-- Two tables with the same entries among those that pass a test list the same values
there, in some order. -/
theorem values_filter_perm {left right : Table K V} {test : V → Bool}
    (agree : ∀ key value, test value = true →
      (left.lookup key = some value ↔ right.lookup key = some value)) :
    (left.values.filter test).Perm (right.values.filter test) := by
  have entriesPerm :
      (left.entries.filter (fun entry => test entry.2)).Perm
        (right.entries.filter (fun entry => test entry.2)) := by
    apply (List.perm_ext_iff_of_nodup (left.nodupKeys.nodup.filter _)
      (right.nodupKeys.nodup.filter _)).mpr
    rintro ⟨key, value⟩
    rw [List.mem_filter, List.mem_filter, mem_entries_iff, mem_entries_iff]
    constructor
    · rintro ⟨found, passes⟩
      exact ⟨(agree key value passes).mp found, passes⟩
    · rintro ⟨found, passes⟩
      exact ⟨(agree key value passes).mpr found, passes⟩
  unfold values
  rw [List.filter_map, List.filter_map]
  exact entriesPerm.map _

theorem values_map_eq_keys {table : Table K V} {name : V → K}
    (keyed : ∀ key value, table.lookup key = some value → name value = key) :
    table.values.map name = table.keys := by
  unfold values
  rw [List.map_map]
  apply List.map_congr_left
  rintro ⟨key, value⟩ member
  exact keyed key value ((mem_entries_iff table key value).mp member)

/-- Two tables that differ at one key alone have the same entries with a property that
neither has at that key. -/
theorem lookup_iff_of_single_change {left right : Table K V} {changed : K}
    {property : V → Prop} (elsewhere : ∀ key, key ≠ changed → right.lookup key = left.lookup key)
    (old : ∀ value, left.lookup changed = some value → ¬ property value)
    (new : ∀ value, right.lookup changed = some value → ¬ property value)
    (key : K) (value : V) (holds : property value) :
    left.lookup key = some value ↔ right.lookup key = some value := by
  by_cases here : key = changed
  · subst here
    exact ⟨fun found => absurd holds (old value found),
      fun found => absurd holds (new value found)⟩
  · rw [elsewhere key here]

theorem ofPairs_snoc (pairs : List (K × V)) (pair : K × V) :
    ofPairs (pairs ++ [pair]) = (ofPairs pairs).insert pair.1 pair.2 := by
  simp only [ofPairs, List.foldl_append, List.foldl_cons, List.foldl_nil]

theorem mem_of_lookup_ofPairs {pairs : List (K × V)} {key : K} {value : V}
    (found : (ofPairs pairs).lookup key = some value) : (key, value) ∈ pairs := by
  induction pairs using List.reverseRecOn with
  | nil => cases found
  | append_singleton pairs pair ih =>
      rw [ofPairs_snoc, lookup_insert_eq] at found
      by_cases last : key = pair.1
      · rw [if_pos last, Option.some.injEq] at found
        rw [last, ← found]
        exact List.mem_append_right _ List.mem_cons_self
      · rw [if_neg last] at found
        exact List.mem_append_left _ (ih found)

theorem mem_ofPairs_iff (pairs : List (K × V)) (key : K) :
    key ∈ ofPairs pairs ↔ ∃ value, (key, value) ∈ pairs := by
  constructor
  · intro member
    obtain ⟨value, found⟩ := exists_lookup_of_mem member
    exact ⟨value, mem_of_lookup_ofPairs found⟩
  · rintro ⟨value, listed⟩
    induction pairs using List.reverseRecOn with
    | nil => cases listed
    | append_singleton pairs pair ih =>
        rw [ofPairs_snoc, AList.mem_insert]
        rcases List.mem_append.mp listed with earlier | last
        · exact Or.inr (ih earlier)
        · rw [← List.mem_singleton.mp last]
          exact Or.inl rfl

theorem lookup_ofPairs_of_unique {pairs : List (K × V)} {key : K} {value : V}
    (listed : (key, value) ∈ pairs)
    (unique : ∀ other, (key, other) ∈ pairs → other = value) :
    (ofPairs pairs).lookup key = some value := by
  obtain ⟨stored, found⟩ :=
    exists_lookup_of_mem ((mem_ofPairs_iff pairs key).mpr ⟨value, listed⟩)
  rw [found, unique stored (mem_of_lookup_ofPairs found)]

/-! ### What has changed between two tables -/

/-- Every entry is as before, or the value under its key, which is the old one if the entry
is gone, is allowed to change. -/
def ChangesOnly (before after : Table K V) (allowed : K → V → Prop) : Prop :=
  ∀ key, after.lookup key = before.lookup key ∨
    ∃ value, (after.lookup key).or (before.lookup key) = some value ∧ allowed key value

section

variable {table : Table K V} {allowed : K → V → Prop} {stored : K} {value : V}

theorem changesOnly_refl : ChangesOnly table table allowed :=
  fun _ => Or.inl rfl

theorem changesOnly_insert (ok : allowed stored value) :
    ChangesOnly table (table.insert stored value) allowed := by
  intro key
  rw [lookup_insert_eq]
  by_cases same : key = stored
  · subst same
    rw [if_pos rfl]
    exact Or.inr ⟨value, rfl, ok⟩
  · rw [if_neg same]
    exact Or.inl rfl

theorem changesOnly_replace {old : V} (present : table.lookup stored = some old)
    (ok : allowed stored value) : ChangesOnly table (table.replace stored value) allowed := by
  intro key
  rw [lookup_replace_eq present]
  by_cases same : key = stored
  · subst same
    rw [if_pos rfl]
    exact Or.inr ⟨value, rfl, ok⟩
  · rw [if_neg same]
    exact Or.inl rfl

theorem changesOnly_erase (ok : ∀ old, table.lookup stored = some old → allowed stored old) :
    ChangesOnly table (table.erase stored) allowed := by
  intro key
  rw [lookup_erase_eq]
  by_cases same : key = stored
  · subst same
    rw [if_pos rfl]
    cases present : table.lookup key with
    | none => exact Or.inl rfl
    | some old => exact Or.inr ⟨old, rfl, ok old present⟩
  · rw [if_neg same]
    exact Or.inl rfl

theorem changesOnly_retain {keep : K → V → Bool}
    (ok : ∀ key old, table.lookup key = some old → keep key old = false → allowed key old) :
    ChangesOnly table (table.retain keep) allowed := by
  intro key
  cases present : table.lookup key with
  | none =>
      refine Or.inl (Option.eq_none_iff_forall_ne_some.mpr ?_)
      intro kept found
      have stays := ((lookup_retain_eq_some_iff table keep key kept).mp found).1
      rw [present] at stays
      cases stays
  | some old =>
      cases decision : keep key old with
      | true =>
          exact Or.inl ((lookup_retain_eq_some_iff table keep key old).mpr ⟨present, decision⟩)
      | false =>
          have gone : (table.retain keep).lookup key = none := by
            refine Option.eq_none_iff_forall_ne_some.mpr ?_
            intro kept found
            obtain ⟨stays, isKept⟩ := (lookup_retain_eq_some_iff table keep key kept).mp found
            rw [present, Option.some.injEq] at stays
            rw [← stays, decision] at isKept
            cases isKept
          rw [gone]
          exact Or.inr ⟨old, rfl, ok key old present decision⟩

end

/-! ### Tables with the same entries -/

/-- The same value under every key; the order of the entries may differ. -/
def Alike (left right : Table K V) : Prop := ∀ key, left.lookup key = right.lookup key

namespace Alike

variable {left right : Table K V}

protected theorem refl (table : Table K V) : Alike table table := fun _ => rfl

protected theorem symm (alike : Alike left right) : Alike right left :=
  fun key => (alike key).symm

protected theorem trans {third : Table K V} (first : Alike left right)
    (second : Alike right third) : Alike left third :=
  fun key => (first key).trans (second key)

theorem insert (alike : Alike left right) (stored : K) (value : V) :
    Alike (left.insert stored value) (right.insert stored value) := by
  intro key
  rw [lookup_insert_eq, lookup_insert_eq, alike key]

theorem replace (alike : Alike left right) {stored : K} {old : V}
    (present : right.lookup stored = some old) (value : V) :
    Alike (left.replace stored value) (right.replace stored value) := by
  intro key
  rw [lookup_replace_eq ((alike stored).trans present), lookup_replace_eq present, alike key]

theorem erase (alike : Alike left right) (erased : K) :
    Alike (left.erase erased) (right.erase erased) := by
  intro key
  rw [lookup_erase_eq, lookup_erase_eq, alike key]

theorem retain (alike : Alike left right) (keep : K → V → Bool) :
    Alike (left.retain keep) (right.retain keep) := by
  intro key
  refine Option.ext fun value => ?_
  rw [lookup_retain_eq_some_iff, lookup_retain_eq_some_iff, alike key]

theorem values_perm (alike : Alike left right) : left.values.Perm right.values := by
  have all : (left.values.filter fun _ => true).Perm (right.values.filter fun _ => true) :=
    values_filter_perm fun key value _ => by rw [alike key]
  rw [List.filter_true, List.filter_true] at all
  exact all

theorem eq_empty (alike : Alike ∅ right) : right = ∅ := by
  refine AList.ext (List.eq_nil_iff_forall_not_mem.mpr ?_)
  intro entry member
  have found : right.lookup entry.1 = some entry.2 := AList.mem_lookup_iff.mpr member
  rw [← alike entry.1] at found
  cases found

end Alike

/-! ### Retaining after a change -/

section

variable {entries : List (Sigma fun _ : K => V)}

theorem kerase_eq_filter (nodup : entries.NodupKeys) (key : K) :
    entries.kerase key = entries.filter fun entry => decide (entry.1 ≠ key) := by
  induction entries with
  | nil => rfl
  | cons entry entries ih =>
      rw [List.nodupKeys_cons] at nodup
      by_cases same : key = entry.1
      · rw [List.kerase_cons_eq same, List.filter_cons_of_neg (by simp [same])]
        refine (List.filter_eq_self.mpr fun other member => decide_eq_true ?_).symm
        intro also
        exact nodup.1 (List.mem_map.mpr ⟨other, member, also.trans same⟩)
      · rw [List.kerase_cons_ne same, List.filter_cons_of_pos (by simp [Ne.symm same]), ih nodup.2]

theorem kreplace_eq_map (nodup : entries.NodupKeys) (key : K) (value : V) :
    entries.kreplace key value =
      entries.map fun entry => if entry.1 = key then ⟨key, value⟩ else entry := by
  induction entries with
  | nil => rfl
  | cons entry entries ih =>
      rw [List.nodupKeys_cons] at nodup
      unfold List.kreplace
      by_cases same : key = entry.1
      · rw [List.lookmap_cons_some _ entries (if_pos same), List.map_cons, if_pos same.symm]
        have unchanged : entries.map (fun other : Sigma fun _ : K => V =>
            if other.1 = key then ⟨key, value⟩ else other) = entries.map id := by
          refine List.map_congr_left fun other member => if_neg fun also => nodup.1 ?_
          exact List.mem_map.mpr ⟨other, member, also.trans same⟩
        rw [unchanged, List.map_id]
      · rw [List.lookmap_cons_none _ entries (if_neg same), List.map_cons, if_neg (Ne.symm same)]
        exact congrArg _ (ih nodup.2)

end

section

variable {table : Table K V} {keep : K → V → Bool} {stored : K} {value : V}

theorem lookup_retain (table : Table K V) (keep : K → V → Bool) (key : K) :
    (table.retain keep).lookup key = (table.lookup key).filter (keep key) := by
  cases found : table.lookup key with
  | none =>
      cases kept : (table.retain keep).lookup key with
      | none => rfl
      | some other =>
          have was := ((lookup_retain_eq_some_iff table keep key other).mp kept).1
          rw [found] at was
          cases was
  | some other =>
      cases test : keep key other with
      | true =>
          rw [Option.filter_some_pos test]
          exact (lookup_retain_eq_some_iff table keep key other).mpr ⟨found, test⟩
      | false =>
          rw [Option.filter_some_neg (by simp [test])]
          cases kept : (table.retain keep).lookup key with
          | none => rfl
          | some third =>
              obtain ⟨was, passes⟩ := (lookup_retain_eq_some_iff table keep key third).mp kept
              rw [found, Option.some.injEq] at was
              rw [was, passes] at test
              cases test

omit [DecidableEq K] in
theorem values_retain (table : Table K V) (test : V → Bool) :
    (table.retain fun _ value => test value).values = table.values.filter test := by
  unfold values retain
  rw [List.filter_map]
  rfl

omit [DecidableEq K] in
theorem retain_comm (table : Table K V) (first second : K → V → Bool) :
    (table.retain first).retain second = (table.retain second).retain first :=
  AList.ext (List.filter_comm _ _ _)

omit [DecidableEq K] in
theorem retain_retain_of_imp {first second : K → V → Bool}
    (implies : ∀ key value, second key value = true → first key value = true) :
    (table.retain first).retain second = table.retain second := by
  refine AList.ext ?_
  change (table.entries.filter _).filter _ = table.entries.filter _
  rw [List.filter_filter]
  refine List.filter_congr fun entry _ => ?_
  cases kept : second entry.1 entry.2 with
  | false => rfl
  | true => rw [implies _ _ kept]; rfl

theorem retain_erase (table : Table K V) (keep : K → V → Bool) (erased : K) :
    retain keep (table.erase erased) = (table.retain keep).erase erased := by
  refine AList.ext ?_
  change (table.entries.kerase erased).filter _ = (table.entries.filter _).kerase erased
  rw [kerase_eq_filter table.nodupKeys,
    kerase_eq_filter (List.NodupKeys.sublist List.filter_sublist table.nodupKeys),
    List.filter_comm]

theorem retain_erase_of_dropped {old : V} (found : table.lookup stored = some old)
    (dropped : keep stored old = false) :
    retain keep (table.erase stored) = table.retain keep := by
  have absent : (table.retain keep).lookup stored = none := by
    rw [lookup_retain, found, Option.filter_some_neg (by simp [dropped])]
  rw [retain_erase]
  exact AList.ext (List.kerase_of_notMem_keys (AList.lookup_eq_none.mp absent))

theorem retain_insert (kept : keep stored value = true) :
    retain keep (table.insert stored value) = (table.retain keep).insert stored value := by
  have erased := congrArg AList.entries (retain_erase table keep stored)
  refine AList.ext ?_
  change List.filter (fun entry => keep entry.1 entry.2)
    ((⟨stored, value⟩ : Sigma fun _ : K => V) :: table.entries.kerase stored) =
      ⟨stored, value⟩ :: (table.retain keep).entries.kerase stored
  rw [List.filter_cons, if_pos kept]
  exact congrArg _ erased

theorem retain_insert_of_dropped (absent : table.lookup stored = none)
    (dropped : keep stored value = false) :
    retain keep (table.insert stored value) = table.retain keep := by
  refine AList.ext ?_
  change List.filter (fun entry => keep entry.1 entry.2)
    ((⟨stored, value⟩ : Sigma fun _ : K => V) :: table.entries.kerase stored) =
      (table.retain keep).entries
  rw [List.filter_cons, if_neg (by simp [dropped]),
    List.kerase_of_notMem_keys (AList.lookup_eq_none.mp absent)]
  rfl

theorem retain_replace {old : V} (found : table.lookup stored = some old)
    (alike : keep stored value = keep stored old) :
    retain keep (table.replace stored value) = (table.retain keep).replace stored value := by
  refine AList.ext ?_
  change (table.entries.kreplace stored value).filter _ =
    (table.entries.filter _).kreplace stored value
  rw [kreplace_eq_map table.nodupKeys,
    kreplace_eq_map (List.NodupKeys.sublist List.filter_sublist table.nodupKeys),
    List.filter_map]
  refine congrArg _ (List.filter_congr fun entry member => ?_)
  by_cases same : entry.1 = stored
  · have isOld : table.lookup stored = some entry.2 := by
      rw [← same]
      exact (mem_entries_iff table _ _).mp member
    rw [found, Option.some.injEq] at isOld
    simp only [Function.comp_apply, if_pos same, alike]
    rw [same, isOld]
  · simp only [Function.comp_apply, if_neg same]

theorem retain_replace_of_dropped {old : V} (found : table.lookup stored = some old)
    (dropped : keep stored old = false) (also : keep stored value = false) :
    retain keep (table.replace stored value) = table.retain keep := by
  rw [retain_replace found (also.trans dropped.symm)]
  refine AList.ext ?_
  change (table.retain keep).entries.kreplace stored value = (table.retain keep).entries
  apply List.kreplace_of_forall_not
  intro other member
  have kept := (mem_entries_iff (table.retain keep) stored other).mp member
  rw [lookup_retain, found, Option.filter_some_neg (by simp [dropped])] at kept
  cases kept

end

end Table

end Lightscale.Foundation
