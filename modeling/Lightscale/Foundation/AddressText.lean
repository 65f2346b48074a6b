/-
Texts of network addresses.

An IPv4 address is written as four decimal numbers with dots between them.  An IPv6
address is written as eight groups of hexadecimal digits with colons between them,
and the first of the longest runs of at least two zero groups is left out.  The
readers accept what is written this way and nothing else.
-/

import Mathlib.Algebra.Group.Nat.Defs
import Mathlib.Data.List.TakeWhile

namespace Lightscale.Foundation.AddressText

/-! ### Numbers in digits -/

def digitValue (char : Char) : Nat := "0123456789abcdef".toList.idxOf char

def numberOf (base : Nat) (digits : List Char) : Nat :=
  digits.foldl (fun number char => base * number + digitValue char) 0

theorem digitValue_digitChar {digit : Nat} (small : digit < 16) :
    digitValue (Nat.digitChar digit) = digit := by
  have all : ∀ digit < 16, digitValue (Nat.digitChar digit) = digit := by decide
  exact all digit small

section

variable {base : Nat} (large : 1 < base) (hexadecimal : base ≤ 16)

include large hexadecimal

theorem numberOf_toDigits (number : Nat) : numberOf base (Nat.toDigits base number) = number := by
  induction number using Nat.strongRecOn with
  | ind number ih =>
      by_cases small : number < base
      · rw [Nat.toDigits_of_lt_base small]
        simp [numberOf, digitValue_digitChar (Nat.lt_of_lt_of_le small hexadecimal)]
      · have last : number % base < 16 :=
          Nat.lt_of_lt_of_le (Nat.mod_lt number (by omega)) hexadecimal
        have higher := ih (number / base) (Nat.div_lt_self (by omega) large)
        rw [Nat.toDigits_of_base_le large (by omega), numberOf, List.foldl_append]
        change base * numberOf base _ + digitValue _ = number
        rw [higher, digitValue_digitChar last, Nat.div_add_mod]

theorem map_numberOf_toDigits (numbers : List Nat) :
    (numbers.map (Nat.toDigits base)).map (numberOf base) = numbers := by
  rw [List.map_map]
  exact List.map_id'' (fun number => numberOf_toDigits large hexadecimal number) numbers

theorem digitValue_of_mem_toDigits {number : Nat} {char : Char}
    (member : char ∈ Nat.toDigits base number) : digitValue char < 16 := by
  induction number using Nat.strongRecOn with
  | ind number ih =>
      by_cases small : number < base
      · rw [Nat.toDigits_of_lt_base small, List.mem_singleton] at member
        rw [member, digitValue_digitChar (by omega)]
        omega
      · have last : number % base < base := Nat.mod_lt number (by omega)
        rw [Nat.toDigits_of_base_le large (by omega), List.mem_append,
          List.mem_singleton] at member
        rcases member with member | rfl
        · exact ih (number / base) (Nat.div_lt_self (by omega) large) member
        · rw [digitValue_digitChar (by omega)]
          omega

theorem not_mem_toDigits {mark : Char} (isMark : 16 ≤ digitValue mark) (number : Nat) :
    mark ∉ Nat.toDigits base number := fun member =>
  Nat.not_lt_of_le isMark (digitValue_of_mem_toDigits large hexadecimal member)

end

/-! ### Addresses in groups of bits -/

def groups (bits : Nat) : Nat → Nat → List Nat
  | 0, _ => []
  | count + 1, address => groups bits count (address / 2 ^ bits) ++ [address % 2 ^ bits]

def ofGroups (bits : Nat) (groups : List Nat) : Nat :=
  groups.foldl (fun address group => address * 2 ^ bits + group) 0

theorem length_groups (bits count address : Nat) : (groups bits count address).length = count := by
  induction count generalizing address with
  | zero => rfl
  | succ count ih => rw [groups, List.length_append, ih, List.length_singleton]

theorem ofGroups_groups {bits count address : Nat} (inside : address < 2 ^ (bits * count)) :
    ofGroups bits (groups bits count address) = address := by
  induction count generalizing address with
  | zero =>
      rw [Nat.mul_zero, Nat.pow_zero, Nat.lt_one_iff] at inside
      rw [inside]
      rfl
  | succ count ih =>
      have higher : address / 2 ^ bits < 2 ^ (bits * count) := by
        rw [Nat.div_lt_iff_lt_mul (Nat.two_pow_pos bits), ← Nat.pow_add]
        exact inside
      rw [groups, ofGroups, List.foldl_append]
      change ofGroups bits _ * 2 ^ bits + address % 2 ^ bits = address
      rw [ih higher, Nat.mul_comm, Nat.div_add_mod]

/-! ### IPv4 -/

def ipv4Text (address : Nat) : String :=
  String.ofList (['.'].intercalate ((groups 8 4 address).map (Nat.toDigits 10)))

def readIpv4 (text : String) : Option Nat :=
  let address := ofGroups 8 ((text.toList.splitOn '.').map (numberOf 10))
  if ipv4Text address = text then some address else none

theorem splitOn_ipv4Text (address : Nat) :
    (ipv4Text address).toList.splitOn '.' = (groups 8 4 address).map (Nat.toDigits 10) := by
  rw [ipv4Text, String.toList_ofList]
  apply List.splitOn_intercalate
  · intro piece member
    obtain ⟨group, _, rfl⟩ := List.mem_map.mp member
    exact not_mem_toDigits (by decide) (by decide) (by decide) group
  · intro none
    have four := congrArg List.length none
    rw [List.length_map, length_groups] at four
    cases four

theorem readIpv4_ipv4Text {address : Nat} (inside : address < 2 ^ 32) :
    readIpv4 (ipv4Text address) = some address := by
  have read : ofGroups 8 (((ipv4Text address).toList.splitOn '.').map (numberOf 10)) =
      address := by
    rw [splitOn_ipv4Text, map_numberOf_toDigits (by decide) (by decide), ofGroups_groups inside]
  unfold readIpv4
  rw [read]
  exact if_pos rfl

theorem ipv4Text_inj {left right : Nat} (leftLt : left < 2 ^ 32) (rightLt : right < 2 ^ 32)
    (same : ipv4Text left = ipv4Text right) : left = right := by
  have read := readIpv4_ipv4Text leftLt
  rw [same, readIpv4_ipv4Text rightLt, Option.some.injEq] at read
  exact read.symm

/-! ### IPv6 -/

/-- The first group and the length of every possible gap, long gaps first. -/
def gaps : List (Nat × Nat) :=
  (List.range 7).flatMap fun others =>
    (List.range (others + 1)).map fun start => (start, 8 - others)

/-- The digits of groups on one side of a gap; an end of the text leaves an empty piece. -/
def side (groups : List Nat) : List (List Char) :=
  if groups = [] then [[]] else groups.map (Nat.toDigits 16)

def pieces (groups : List Nat) : List (List Char) :=
  match gaps.find? fun gap => (groups.drop gap.1).take gap.2 == List.replicate gap.2 0 with
  | some (start, length) => side (groups.take start) ++ [] :: side (groups.drop (start + length))
  | none => groups.map (Nat.toDigits 16)

def ipv6Text (address : Nat) : String :=
  String.ofList ([':'].intercalate (pieces (groups 16 8 address)))

def groupsOf (pieces : List (List Char)) : List Nat :=
  let before := pieces.takeWhile (· ≠ [])
  let after := (pieces.dropWhile (· ≠ [])).filter (· ≠ [])
  before.map (numberOf 16) ++ List.replicate (8 - (before.length + after.length)) 0 ++
    after.map (numberOf 16)

def readIpv6 (text : String) : Option Nat :=
  let address := ofGroups 16 (groupsOf (text.toList.splitOn ':'))
  if ipv6Text address = text then some address else none

theorem toDigits_filled (groups : List Nat) :
    ∀ piece ∈ groups.map (Nat.toDigits 16), decide (piece ≠ []) = true := by
  intro piece member
  obtain ⟨group, _, rfl⟩ := List.mem_map.mp member
  exact decide_eq_true Nat.toDigits_ne_nil

theorem filter_side (groups : List Nat) :
    (side groups).filter (· ≠ []) = groups.map (Nat.toDigits 16) := by
  unfold side
  split_ifs with none
  · rw [none]
    rfl
  · exact List.filter_eq_self.mpr (toDigits_filled groups)

theorem groupsOf_digits {groups : List Nat} (eight : groups.length = 8) :
    groupsOf (groups.map (Nat.toDigits 16)) = groups := by
  have filled := toDigits_filled groups
  unfold groupsOf
  dsimp only
  rw [List.takeWhile_eq_self_iff.mpr filled, List.dropWhile_eq_nil_iff.mpr filled,
    map_numberOf_toDigits (by decide) (by decide), List.length_map, eight]
  exact (List.append_nil _).trans (List.append_nil groups)

theorem groupsOf_gap {groups : List Nat} (eight : groups.length = 8) {start length : Nat}
    (zeros : (groups.drop start).take length = List.replicate length 0) :
    groupsOf (side (groups.take start) ++ [] :: side (groups.drop (start + length))) =
      groups := by
  have fits := congrArg List.length zeros
  rw [List.length_take, List.length_drop, List.length_replicate, eight] at fits
  have rest : groups = groups.take start ++ List.replicate length 0 ++
      groups.drop (start + length) := by
    rw [← zeros, ← List.drop_drop, List.append_assoc, List.take_append_drop,
      List.take_append_drop]
  have split : ∀ after : List (List Char),
      (side (groups.take start) ++ [] :: after).takeWhile (· ≠ []) =
          (groups.take start).map (Nat.toDigits 16) ∧
        ((side (groups.take start) ++ [] :: after).dropWhile (· ≠ [])).filter (· ≠ []) =
          after.filter (· ≠ []) := by
    intro after
    by_cases none : groups.take start = []
    · rw [none]
      exact ⟨rfl, rfl⟩
    · have filled := toDigits_filled (groups.take start)
      rw [side, if_neg none, List.takeWhile_append_of_pos filled,
        List.dropWhile_append_of_pos filled]
      refine ⟨?_, ?_⟩
      · rw [List.takeWhile_cons_of_neg (by decide), List.append_nil]
      · rw [List.dropWhile_cons_of_neg (by decide), List.filter_cons_of_neg (by decide)]
  unfold groupsOf
  dsimp only
  rw [(split _).1, (split _).2, filter_side, map_numberOf_toDigits (by decide) (by decide),
    map_numberOf_toDigits (by decide) (by decide), List.length_map, List.length_map,
    List.length_take, List.length_drop, eight]
  have gap : 8 - (min start 8 + (8 - (start + length))) = length := by omega
  rw [gap]
  exact rest.symm

theorem groupsOf_pieces {groups : List Nat} (eight : groups.length = 8) :
    groupsOf (pieces groups) = groups := by
  unfold pieces
  split
  · rename_i start length found
    have zeros := List.find?_some found
    exact groupsOf_gap eight (eq_of_beq zeros)
  · exact groupsOf_digits eight

theorem not_mem_pieces {mark : Char} (isMark : 16 ≤ digitValue mark) {groups : List Nat}
    {piece : List Char} (member : piece ∈ pieces groups) : mark ∉ piece := by
  have digits : ∀ groups : List Nat, piece ∈ groups.map (Nat.toDigits 16) → mark ∉ piece := by
    intro groups member
    obtain ⟨group, _, rfl⟩ := List.mem_map.mp member
    exact not_mem_toDigits (by decide) (by decide) isMark group
  have sides : ∀ groups : List Nat, piece ∈ side groups → mark ∉ piece := by
    intro groups member
    unfold side at member
    split_ifs at member with none
    · rw [List.mem_singleton.mp member]
      exact List.not_mem_nil
    · exact digits groups member
  unfold pieces at member
  split at member
  · rcases List.mem_append.mp member with before | after
    · exact sides _ before
    · rcases List.mem_cons.mp after with rfl | after
      · exact List.not_mem_nil
      · exact sides _ after
  · exact digits _ member

theorem pieces_ne_nil {groups : List Nat} (filled : groups ≠ []) : pieces groups ≠ [] := by
  unfold pieces
  split
  · exact List.append_ne_nil_of_right_ne_nil _ (List.cons_ne_nil _ _)
  · exact fun none => filled (List.map_eq_nil_iff.mp none)

theorem splitOn_ipv6Text (address : Nat) :
    (ipv6Text address).toList.splitOn ':' = pieces (groups 16 8 address) := by
  rw [ipv6Text, String.toList_ofList]
  apply List.splitOn_intercalate
  · exact fun piece member => not_mem_pieces (by decide) member
  · refine pieces_ne_nil fun none => ?_
    have eight := length_groups 16 8 address
    rw [none] at eight
    cases eight

theorem readIpv6_ipv6Text {address : Nat} (inside : address < 2 ^ 128) :
    readIpv6 (ipv6Text address) = some address := by
  have read : ofGroups 16 (groupsOf ((ipv6Text address).toList.splitOn ':')) = address := by
    rw [splitOn_ipv6Text, groupsOf_pieces (length_groups 16 8 address), ofGroups_groups inside]
  unfold readIpv6
  rw [read]
  exact if_pos rfl

theorem ipv6Text_inj {left right : Nat} (leftLt : left < 2 ^ 128) (rightLt : right < 2 ^ 128)
    (same : ipv6Text left = ipv6Text right) : left = right := by
  have read := readIpv6_ipv6Text leftLt
  rw [same, readIpv6_ipv6Text rightLt, Option.some.injEq] at read
  exact read.symm

example : ipv4Text 0x0A000002 = "10.0.0.2" := by decide +kernel

example : ipv6Text (0xFD00 * 2 ^ 112 + 2) = "fd00::2" := by decide +kernel

/-! ### Telling the two apart -/

theorem mem_of_mem_intercalate {mark char : Char} {pieces : List (List Char)}
    (member : char ∈ [mark].intercalate pieces) :
    char = mark ∨ ∃ piece ∈ pieces, char ∈ piece := by
  induction pieces with
  | nil => cases member
  | cons first rest ih =>
      cases rest with
      | nil =>
          rw [List.intercalate_singleton] at member
          exact Or.inr ⟨first, List.mem_cons_self, member⟩
      | cons second rest =>
          rw [List.intercalate_cons_cons, List.mem_append, List.mem_append,
            List.mem_singleton] at member
          rcases member with (member | same) | member
          · exact Or.inr ⟨first, List.mem_cons_self, member⟩
          · exact Or.inl same
          · rcases ih member with same | ⟨piece, isPiece, inside⟩
            · exact Or.inl same
            · exact Or.inr ⟨piece, List.mem_cons_of_mem _ isPiece, inside⟩

theorem readIpv4_ipv6Text (address : Nat) : readIpv4 (ipv6Text address) = none := by
  unfold readIpv4
  refine if_neg fun same => ?_
  have noDot : '.' ∉ (ipv6Text address).toList := by
    intro dot
    rw [ipv6Text, String.toList_ofList] at dot
    rcases mem_of_mem_intercalate dot with colon | ⟨piece, isPiece, inside⟩
    · exact absurd colon (by decide)
    · exact not_mem_pieces (by decide) isPiece inside
  have four : ((ipv6Text address).toList.splitOn '.').length = 4 := by
    rw [← same, splitOn_ipv4Text, List.length_map, length_groups]
  rw [List.splitOn_eq_singleton noDot] at four
  cases four

end Lightscale.Foundation.AddressText
