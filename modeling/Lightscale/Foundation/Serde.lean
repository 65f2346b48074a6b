/-
Typed values as JSON trees.

A format writes a value as a tree and reads one back.  Reading is as liberal as the derived
readers: a struct is read from an object, with its members in any order and with members it
does not know, or from an array of its fields in their order.  A field that occurs twice is an
error; a field that is missing is one unless it has a default.
-/

import Mathlib.Algebra.Group.Nat.Defs
import Mathlib.Algebra.Group.Int.Defs
import Lightscale.Foundation.Table
import Lightscale.Foundation.JsonText

namespace Lightscale.Foundation

structure Format (Value : Type) where
  toJson : Value → Json
  fromJson : Json → Option Value

variable {Value : Type}

namespace Format

structure Keeps (format : Format Value) (value : Value) : Prop where
  whole : (format.toJson value).isWhole = true
  read : format.fromJson (format.toJson value) = some value

/-! ### Simple values -/

def string : Format String where
  toJson := .text
  fromJson
    | .text value => some value
    | _ => none

def bool : Format Bool where
  toJson := .bool
  fromJson
    | .bool value => some value
    | _ => none

def unsigned (bits : Nat) : Format Nat where
  toJson value := .integer value
  fromJson
    | .integer value => if 0 ≤ value ∧ value < 2 ^ bits then some value.toNat else none
    | _ => none

/-- A signed integer of one more than so many bits. -/
def signed (bits : Nat) : Format Int where
  toJson := .integer
  fromJson
    | .integer value => if -(2 ^ bits) ≤ value ∧ value < 2 ^ bits then some value else none
    | _ => none

theorem string_keeps (value : String) : string.Keeps value where
  whole := by simp [string, Json.isWhole]
  read := rfl

theorem bool_keeps (value : Bool) : bool.Keeps value where
  whole := by simp [bool, Json.isWhole]
  read := rfl

theorem unsigned_keeps {bits value : Nat} (fits : value < 2 ^ bits) :
    (unsigned bits).Keeps value where
  whole := by simp [unsigned, Json.isWhole]
  read := by
    have inRange : (0 : Int) ≤ value ∧ (value : Int) < 2 ^ bits :=
      ⟨by omega, by exact_mod_cast fits⟩
    exact if_pos inRange

theorem signed_keeps {bits : Nat} {value : Int} (low : -(2 ^ bits) ≤ value)
    (high : value < 2 ^ bits) : (signed bits).Keeps value where
  whole := by simp [signed, Json.isWhole]
  read := if_pos ⟨low, high⟩

/-! ### Options, lists and enumerations -/

def option (format : Format Value) : Format (Option Value) where
  toJson
    | none => .null
    | some value => format.toJson value
  fromJson
    | .null => some none
    | json => (format.fromJson json).map some

def NeverNull (format : Format Value) : Prop := ∀ value, format.toJson value ≠ .null

theorem option_keeps {format : Format Value} (neverNull : format.NeverNull)
    {value : Option Value} (keeps : ∀ present, value = some present → format.Keeps present) :
    format.option.Keeps value := by
  cases value with
  | none => exact ⟨by simp [option, Json.isWhole], rfl⟩
  | some present =>
      have kept := keeps present rfl
      refine ⟨kept.whole, ?_⟩
      have written := neverNull present
      simp only [option]
      rw [kept.read]
      rfl

theorem string_neverNull : string.NeverNull := nofun

theorem signed_neverNull (bits : Nat) : (signed bits).NeverNull := nofun

theorem unsigned_neverNull (bits : Nat) : (unsigned bits).NeverNull := nofun

def list (format : Format Value) : Format (List Value) where
  toJson values := .array (values.map format.toJson)
  fromJson
    | .array items => items.mapM format.fromJson
    | _ => none

theorem areWhole_iff {items : List Json} :
    Json.areWhole items = true ↔ ∀ item ∈ items, item.isWhole = true := by
  induction items with
  | nil => simp [Json.areWhole]
  | cons item items ih => simp [Json.areWhole, ih]

theorem membersWhole_iff {members : List (String × Json)} :
    Json.membersWhole members = true ↔ ∀ member ∈ members, member.2.isWhole = true := by
  induction members with
  | nil => simp [Json.membersWhole]
  | cons member members ih => simp [Json.membersWhole, ih]

theorem mapM_map_eq_some {Source Item Target : Type} {write : Source → Item}
    {read : Item → Option Target} {result : Source → Target} {values : List Source}
    (each : ∀ value ∈ values, read (write value) = some (result value)) :
    (values.map write).mapM read = some (values.map result) := by
  induction values with
  | nil => rfl
  | cons value values ih =>
      rw [List.map_cons, List.mapM_cons, each value List.mem_cons_self,
        ih fun other member => each other (List.mem_cons_of_mem _ member)]
      rfl

theorem list_keeps {format : Format Value} {values : List Value}
    (keeps : ∀ value ∈ values, format.Keeps value) : format.list.Keeps values where
  whole := by
    simp only [list, Json.isWhole, areWhole_iff, List.forall_mem_map]
    exact fun value member => (keeps value member).whole
  read := by
    have all := mapM_map_eq_some fun value member => (keeps value member).read
    rw [List.map_id'] at all
    exact all

theorem list_read {format : Format Value} {related : Value → Value → Prop}
    {values : List Value}
    (each : ∀ value ∈ values, (format.toJson value).isWhole = true ∧
      ∃ loaded, format.fromJson (format.toJson value) = some loaded ∧ related loaded value) :
    (format.list.toJson values).isWhole = true ∧
      ∃ loaded, format.list.fromJson (format.list.toJson values) = some loaded ∧
        List.Forall₂ related loaded values := by
  refine ⟨?_, ?_⟩
  · simp only [list, Json.isWhole, areWhole_iff, List.forall_mem_map]
    exact fun value member => (each value member).1
  · simp only [list]
    induction values with
    | nil => exact ⟨[], rfl, .nil⟩
    | cons value values ih =>
        obtain ⟨loaded, read, alike⟩ := (each value List.mem_cons_self).2
        obtain ⟨others, othersRead, othersAlike⟩ :=
          ih fun other member => each other (List.mem_cons_of_mem _ member)
        refine ⟨loaded :: others, ?_, .cons alike othersAlike⟩
        rw [List.map_cons, List.mapM_cons, read, othersRead]
        rfl

theorem strings_keeps (values : List String) : string.list.Keeps values :=
  list_keeps fun value _ => string_keeps value

/-- The variants of an enumeration without data are written as their names; an object with
the name as its only key and nothing as its value is read as well. -/
def unitEnum (variants : List (String × Value)) (name : Value → String) : Format Value where
  toJson value := .text (name value)
  fromJson
    | .text text => variants.lookup text
    | .object [(text, .null)] => variants.lookup text
    | _ => none

theorem unitEnum_keeps {variants : List (String × Value)} {name : Value → String}
    {value : Value} (listed : variants.lookup (name value) = some value) :
    (unitEnum variants name).Keeps value where
  whole := by simp [unitEnum, Json.isWhole]
  read := listed

/-! ### Structs -/

def structJson (names : List String) (values : List Json) : Json := .object (names.zip values)

/-- The fields of a struct in the order of their names, from an object or from an array. -/
def structValues (names : List String) : Json → Option (List (Option Json))
  | .object members =>
      if names.all fun name => decide ((members.map Prod.fst).count name ≤ 1) then
        some (names.map fun name => members.lookup name)
      else none
  | .array items =>
      if items.length ≤ names.length then
        some (items.map some ++ List.replicate (names.length - items.length) none)
      else none
  | _ => none

def required (format : Format Value) (field : Option Json) : Option Value :=
  field.bind format.fromJson

def defaulted (format : Format Value) (fallback : Value) : Option Json → Option Value
  | none => some fallback
  | some json => format.fromJson json

theorem map_lookup_zip {names : List String} {values : List Json} (distinct : names.Nodup)
    (lengths : names.length = values.length) :
    (names.map fun name => (names.zip values).lookup name) = values.map some := by
  induction names generalizing values with
  | nil => rw [List.eq_nil_of_length_eq_zero lengths.symm]; rfl
  | cons name names ih =>
      cases values with
      | nil => cases lengths
      | cons value values =>
          rw [List.nodup_cons] at distinct
          have others : (names.map fun other => ((name, value) :: names.zip values).lookup other) =
              names.map fun other => (names.zip values).lookup other := by
            refine List.map_congr_left fun other member => ?_
            have differs : (other == name) = false :=
              beq_eq_false_iff_ne.mpr fun same => distinct.1 (same ▸ member)
            rw [List.lookup_cons, differs]
          rw [List.zip_cons_cons, List.map_cons, others, List.map_cons,
            ih distinct.2 (Nat.succ.inj lengths), List.lookup_cons_self]

theorem structValues_structJson {names : List String} {values : List Json}
    (distinct : names.Nodup) (lengths : names.length = values.length) :
    structValues names (structJson names values) = some (values.map some) := by
  have keys : (names.zip values).map Prod.fst = names := List.map_fst_zip (Nat.le_of_eq lengths)
  simp only [structValues, structJson]
  rw [if_pos, map_lookup_zip distinct lengths]
  refine List.all_eq_true.mpr fun name _ => decide_eq_true ?_
  rw [keys]
  exact List.nodup_iff_count_le_one.mp distinct name

theorem whole_structJson {names : List String} {values : List Json}
    (whole : Json.areWhole values = true) : (structJson names values).isWhole = true := by
  simp only [structJson, Json.isWhole, membersWhole_iff]
  intro member inside
  exact areWhole_iff.mp whole _ (List.of_mem_zip inside).2

theorem closed_structJson (names : List String) (values : List Json) :
    (Json.Part.value (structJson names values)).Closed := trivial

theorem required_read {format : Format Value} {json : Json} {value : Value}
    (read : format.fromJson json = some value) : required format (some json) = some value :=
  read

theorem defaulted_read {format : Format Value} {json : Json} {value : Value}
    (read : format.fromJson json = some value) (fallback : Value) :
    defaulted format fallback (some json) = some value :=
  read

theorem required_keeps {format : Format Value} {value : Value} (keeps : format.Keeps value) :
    required format (some (format.toJson value)) = some value :=
  required_read keeps.read

theorem defaulted_keeps {format : Format Value} {value : Value} (keeps : format.Keeps value)
    (fallback : Value) : defaulted format fallback (some (format.toJson value)) = some value :=
  defaulted_read keeps.read fallback

/-! ### Internally tagged enumerations -/

/-- The tag and what is left without it: the member with the tag's name among the others, or
the first item of an array. -/
def splitTag (tag : String) : Json → Option (String × Json)
  | .object members =>
      if (members.map Prod.fst).count tag = 1 then
        match members.lookup tag with
        | some (.text name) =>
            some (name, .object (members.filter fun member => decide (member.1 ≠ tag)))
        | _ => none
      else none
  | .array (.text name :: items) => some (name, .array items)
  | _ => none

theorem splitTag_structJson {tag : String} {names : List String} {values : List Json}
    (absent : tag ∉ names) (lengths : names.length = values.length) (name : String) :
    splitTag tag (structJson (tag :: names) (.text name :: values)) =
      some (name, structJson names values) := by
  have keys : (names.zip values).map Prod.fst = names := List.map_fst_zip (Nat.le_of_eq lengths)
  have others : (names.zip values).filter (fun member => decide (member.1 ≠ tag)) =
      names.zip values := by
    rw [List.filter_eq_self]
    intro member inside
    refine decide_eq_true fun same => absent ?_
    rw [← same]
    exact (List.of_mem_zip inside).1
  simp only [structJson, List.zip_cons_cons, splitTag, List.map_cons, keys,
    List.count_cons_self, List.count_eq_zero.mpr absent, List.lookup_cons_self]
  rw [if_pos trivial, List.filter_cons_of_neg (by simp), others]

/-- The variants of an enumeration without data as the fields of a tagged variant: these are
buffered, and an object with the name as its only key may also have an empty object as its
value. -/
def bufferedEnum (variants : List (String × Value)) (name : Value → String) : Format Value where
  toJson value := .text (name value)
  fromJson
    | .text text => variants.lookup text
    | .object [(text, .null)] => variants.lookup text
    | .object [(text, .object [])] => variants.lookup text
    | _ => none

theorem bufferedEnum_keeps {variants : List (String × Value)} {name : Value → String}
    {value : Value} (listed : variants.lookup (name value) = some value) :
    (bufferedEnum variants name).Keeps value where
  whole := by simp [bufferedEnum, Json.isWhole]
  read := listed

/-! ### Maps -/

/-- A map is written in the order in which it happens to be iterated; of two members with one
key the last one counts. -/
def map (format : Format Value) : Format (Table String Value) where
  toJson table := .object (table.entries.map fun entry => (entry.1, format.toJson entry.2))
  fromJson
    | .object members =>
        (members.mapM fun member =>
          (format.fromJson member.2).map fun value => (member.1, value)).map Table.ofPairs
    | _ => none

theorem whole_map {format : Format Value} {table : Table String Value}
    (keeps : ∀ key value, table.lookup key = some value → format.Keeps value) :
    (format.map.toJson table).isWhole = true := by
  simp only [map, Json.isWhole, membersWhole_iff, List.forall_mem_map]
  intro entry member
  exact (keeps entry.1 entry.2 ((Table.mem_entries_iff table entry.1 entry.2).mp member)).whole

theorem ofPairs_entries_alike (table : Table String Value) :
    Table.Alike (Table.ofPairs (table.entries.map fun entry => (entry.1, entry.2))) table := by
  intro key
  have listed : ∀ key value,
      (key, value) ∈ table.entries.map (fun entry => (entry.1, entry.2)) ↔
        table.lookup key = some value := by
    intro key value
    rw [← Table.mem_entries_iff, List.mem_map]
    constructor
    · rintro ⟨entry, member, same⟩
      cases same
      exact member
    · intro member
      exact ⟨_, member, rfl⟩
  cases found : table.lookup key with
  | some value =>
      refine Table.lookup_ofPairs_of_unique ((listed key value).mpr found) fun other also => ?_
      rw [listed, found, Option.some.injEq] at also
      exact also.symm
  | none =>
      rw [AList.lookup_eq_none, Table.mem_ofPairs_iff]
      rintro ⟨value, member⟩
      rw [listed, found] at member
      cases member

theorem map_read {format : Format Value} {table : Table String Value}
    (keeps : ∀ key value, table.lookup key = some value → format.Keeps value) :
    ∃ loaded, format.map.fromJson (format.map.toJson table) = some loaded ∧
      Table.Alike loaded table := by
  refine ⟨Table.ofPairs (table.entries.map fun entry => (entry.1, entry.2)), ?_,
    ofPairs_entries_alike table⟩
  simp only [map]
  rw [mapM_map_eq_some]
  · rfl
  · intro entry member
    have kept := keeps entry.1 entry.2 ((Table.mem_entries_iff table entry.1 entry.2).mp member)
    rw [kept.read]
    rfl

end Format

end Lightscale.Foundation
