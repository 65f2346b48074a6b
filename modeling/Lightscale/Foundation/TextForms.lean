/-
Cutting, trimming and printing texts, and lists in their sorted form.

A text is cut at the first or at the last occurrence of a character.  The two parts are
characterised by what they are put together to and by the part that is free of the
character.
-/

import Mathlib.Data.List.Destutter
import Mathlib.Data.List.DropRight
import Mathlib.Data.List.Sort
import Mathlib.Data.String.Basic
import Lightscale.Foundation.Text

namespace Lightscale.Foundation

/-! ### Cutting -/

section

variable {Item : Type} [DecidableEq Item]

def cutAt (item : Item) : List Item → Option (List Item × List Item)
  | [] => none
  | first :: rest =>
      if first = item then some ([], rest)
      else (cutAt item rest).map fun cut => (first :: cut.1, cut.2)

theorem cutAt_eq_some_iff {item : Item} {items before after : List Item} :
    cutAt item items = some (before, after) ↔ item ∉ before ∧ items = before ++ item :: after := by
  induction items generalizing before with
  | nil => simp [cutAt]
  | cons first rest ih =>
      unfold cutAt
      by_cases here : first = item
      · rw [if_pos here, Option.some.injEq, Prod.mk.injEq, here]
        cases before with
        | nil => simp [eq_comm]
        | cons head tail =>
            constructor
            · rintro ⟨impossible, -⟩
              cases impossible
            · rintro ⟨absent, same⟩
              rw [List.cons_append, List.cons.injEq] at same
              exact absurd (same.1 ▸ List.mem_cons_self) absent
      · rw [if_neg here, Option.map_eq_some_iff]
        constructor
        · rintro ⟨⟨start, stop⟩, found, same⟩
          rw [Prod.mk.injEq] at same
          obtain ⟨rfl, rfl⟩ := same
          obtain ⟨absent, rfl⟩ := ih.mp found
          refine ⟨?_, rfl⟩
          rw [List.mem_cons, not_or]
          exact ⟨fun same => here same.symm, absent⟩
        · rintro ⟨absent, same⟩
          cases before with
          | nil => exact absurd (List.cons.inj same).1 here
          | cons head tail =>
              obtain ⟨rfl, isRest⟩ := List.cons.inj same
              rw [List.mem_cons, not_or] at absent
              exact ⟨(tail, after), ih.mpr ⟨absent.2, isRest⟩, rfl⟩

theorem cut_unique {item : Item} {left right afterLeft afterRight : List Item}
    (absentLeft : item ∉ left) (absentRight : item ∉ right)
    (same : left ++ item :: afterLeft = right ++ item :: afterRight) :
    left = right ∧ afterLeft = afterRight := by
  have cut : cutAt item (left ++ item :: afterLeft) = some (left, afterLeft) :=
    cutAt_eq_some_iff.mpr ⟨absentLeft, rfl⟩
  rw [cutAt_eq_some_iff.mpr ⟨absentRight, same⟩, Option.some.injEq, Prod.mk.injEq] at cut
  exact ⟨cut.1.symm, cut.2.symm⟩

theorem rcut_unique {item : Item} {left right afterLeft afterRight : List Item}
    (absentLeft : item ∉ afterLeft) (absentRight : item ∉ afterRight)
    (same : left ++ item :: afterLeft = right ++ item :: afterRight) :
    left = right ∧ afterLeft = afterRight := by
  have reversed := congrArg List.reverse same
  rw [List.reverse_append, List.reverse_append, List.reverse_cons, List.reverse_cons,
    List.append_assoc, List.append_assoc] at reversed
  have both := cut_unique (by rwa [List.mem_reverse]) (by rwa [List.mem_reverse]) reversed
  exact ⟨List.reverse_injective both.2, List.reverse_injective both.1⟩

theorem cutAt_eq_none_iff {item : Item} {items : List Item} :
    cutAt item items = none ↔ item ∉ items := by
  induction items with
  | nil => simp [cutAt]
  | cons first rest ih =>
      unfold cutAt
      by_cases here : first = item
      · simp [here]
      · rw [if_neg here, Option.map_eq_none_iff, ih, List.mem_cons, not_or]
        exact ⟨fun absent => ⟨fun same => here same.symm, absent⟩, fun both => both.2⟩

end

def splitOnce (char : Char) (text : String) : Option (String × String) :=
  (cutAt char text.toList).map fun cut => (String.ofList cut.1, String.ofList cut.2)

def rsplitOnce (char : Char) (text : String) : Option (String × String) :=
  (cutAt char text.toList.reverse).map fun cut =>
    (String.ofList cut.2.reverse, String.ofList cut.1.reverse)

theorem splitOnce_eq_some_iff {char : Char} {text before after : String} :
    splitOnce char text = some (before, after) ↔
      char ∉ before.toList ∧ text.toList = before.toList ++ char :: after.toList := by
  unfold splitOnce
  rw [← cutAt_eq_some_iff, Option.map_eq_some_iff]
  constructor
  · rintro ⟨cut, found, same⟩
    rw [Prod.mk.injEq, String.ofList_eq, String.ofList_eq] at same
    rw [found, ← same.1, ← same.2]
  · intro found
    exact ⟨_, found, by simp⟩

theorem rsplitOnce_eq_some_iff {char : Char} {text before after : String} :
    rsplitOnce char text = some (before, after) ↔
      char ∉ after.toList ∧ text.toList = before.toList ++ char :: after.toList := by
  have reversed : text.toList.reverse = after.toList.reverse ++ char :: before.toList.reverse ↔
      text.toList = before.toList ++ char :: after.toList := by
    rw [List.reverse_eq_iff]
    simp
  unfold rsplitOnce
  rw [← List.mem_reverse, ← reversed, ← cutAt_eq_some_iff, Option.map_eq_some_iff]
  constructor
  · rintro ⟨cut, found, same⟩
    rw [Prod.mk.injEq, String.ofList_eq, String.ofList_eq] at same
    rw [found, ← same.1, ← same.2, List.reverse_reverse, List.reverse_reverse]
  · intro found
    exact ⟨_, found, by simp⟩

theorem rsplitOnce_eq_none_iff {char : Char} {text : String} :
    rsplitOnce char text = none ↔ char ∉ text.toList := by
  unfold rsplitOnce
  rw [Option.map_eq_none_iff, cutAt_eq_none_iff, List.mem_reverse]

theorem dropStart?_eq_some_iff {start text rest : String} :
    dropStart? start text = some rest ↔ text.toList = start.toList ++ rest.toList := by
  unfold dropStart?
  by_cases begins : start.toList.isPrefixOf text.toList = true
  · rw [if_pos begins, Option.some.injEq, String.ofList_eq]
    obtain ⟨others, whole⟩ := List.isPrefixOf_iff_prefix.mp begins
    rw [← whole, List.drop_left]
    exact (List.append_cancel_left_eq _ _ _).to_iff.symm
  · rw [if_neg begins]
    constructor
    · exact nofun
    · intro whole
      exact absurd (List.isPrefixOf_iff_prefix.mpr ⟨rest.toList, whole.symm⟩) begins

theorem dropStart?_eq_none_iff {start text : String} :
    dropStart? start text = none ↔ ¬ start.toList <+: text.toList := by
  unfold dropStart?
  rw [← List.isPrefixOf_iff_prefix]
  split <;> simp_all

/-! ### Trimming -/

theorem toList_trim (text : String) :
    (trim text).toList =
      List.rdropWhile isWhitespace (text.toList.dropWhile isWhitespace) :=
  String.toList_ofList

theorem head_trim {text : String} {char : Char} (isHead : (trim text).toList.head? = some char) :
    isWhitespace char = false := by
  rw [toList_trim] at isHead
  obtain ⟨ending, whole⟩ := List.rdropWhile_prefix isWhitespace (text.toList.dropWhile isWhitespace)
  have sameHead : (text.toList.dropWhile isWhitespace).head? = some char := by
    rw [← whole, List.head?_append, isHead]
    rfl
  have notDropped := List.head?_dropWhile_not isWhitespace text.toList
  rw [sameHead] at notDropped
  exact notDropped

theorem getLast_trim {text : String} {char : Char}
    (isLast : (trim text).toList.getLast? = some char) : isWhitespace char = false := by
  rw [toList_trim] at isLast
  have nonempty : List.rdropWhile isWhitespace (text.toList.dropWhile isWhitespace) ≠ [] := by
    intro empty
    rw [empty] at isLast
    cases isLast
  rw [List.getLast?_eq_some_getLast nonempty, Option.some.injEq] at isLast
  rw [← isLast]
  exact Bool.eq_false_of_not_eq_true (List.rdropWhile_last_not _ _ nonempty)

theorem mem_of_mem_trim {text : String} {char : Char} (member : char ∈ (trim text).toList) :
    char ∈ text.toList := by
  rw [toList_trim] at member
  exact (List.dropWhile_sublist _).subset ((List.rdropWhile_prefix _ _).subset member)

theorem trim_eq_self {text : String}
    (start : ∀ char, text.toList.head? = some char → isWhitespace char = false)
    (stop : ∀ char, text.toList.getLast? = some char → isWhitespace char = false) :
    trim text = text := by
  apply String.toList_inj.mp
  have kept : text.toList.dropWhile isWhitespace = text.toList := by
    cases isText : text.toList with
    | nil => rfl
    | cons first rest =>
        rw [isText] at start
        exact List.dropWhile_cons_of_neg (by rw [start first rfl]; exact Bool.false_ne_true)
  rw [toList_trim, kept, List.rdropWhile_eq_self_iff]
  intro nonempty
  rw [stop _ (List.getLast?_eq_some_getLast nonempty)]
  exact Bool.false_ne_true

theorem trim_trim (text : String) : trim (trim text) = trim text :=
  trim_eq_self (fun _ isHead => head_trim isHead) (fun _ isLast => getLast_trim isLast)

/-! ### Numbers -/

def parseU16 (text : String) : Option UInt16 :=
  let digits :=
    match text.toList with
    | '+' :: rest => rest
    | other => other
  if digits = [] ∨ digits.all Char.isDigit = false then none
  else
    let value := Nat.ofDigitChars 10 digits 0
    if value < 2 ^ 16 then some (UInt16.ofNat value) else none

theorem isDigit_of_mem_toString {number : Nat} {char : Char}
    (member : char ∈ (toString number).toList) : char.isDigit = true := by
  rw [Nat.toString_eq_repr, Nat.toList_repr] at member
  exact Nat.isDigit_of_mem_toDigits (by decide) (by decide) member

theorem toString_toList_ne_nil (number : Nat) : (toString number).toList ≠ [] := by
  rw [Nat.toString_eq_repr, Nat.toList_repr]
  exact Nat.toDigits_ne_nil

theorem parseU16_toString (number : UInt16) : parseU16 (toString number.toNat) = some number := by
  have digits : ∀ char ∈ (toString number.toNat).toList, char.isDigit = true :=
    fun char member => isDigit_of_mem_toString member
  have noSign : (match (toString number.toNat).toList with
      | '+' :: rest => rest
      | other => other) = (toString number.toNat).toList := by
    split
    · rename_i rest isText
      have sign := digits '+' (by rw [isText]; exact List.mem_cons_self)
      exact absurd sign (by decide)
    · rfl
  unfold parseU16
  rw [noSign, if_neg]
  · rw [Nat.toString_eq_repr, Nat.toList_repr, Nat.ofDigitChars_ten_toDigits]
    dsimp only
    rw [if_pos number.toNat_lt, UInt16.ofNat_toNat]
  · rintro (empty | notDigits)
    · exact toString_toList_ne_nil _ empty
    · rw [List.all_eq_true.mpr digits] at notDigits
      cases notDigits

/-! ### Sorted lists -/

section

variable {Item : Type} [LinearOrder Item]

def sortDedup (items : List Item) : List Item :=
  (items.mergeSort (· ≤ ·)).destutter (· ≠ ·)

theorem mem_sortDedup {items : List Item} {item : Item} :
    item ∈ sortDedup items ↔ item ∈ items := by
  unfold sortDedup
  rw [(List.pairwise_mergeSort' (· ≤ ·) items).destutter_eq_dedup, List.mem_dedup]
  exact (List.mergeSort_perm _ _).mem_iff

theorem sortDedup_idem (items : List Item) : sortDedup (sortDedup items) = sortDedup items := by
  have sorted := (List.pairwise_mergeSort' (· ≤ ·) items).sublist
    (List.destutter_sublist (· ≠ ·) (items.mergeSort (· ≤ ·)))
  unfold sortDedup
  rw [List.mergeSort_eq_self _ sorted]
  exact List.destutter_idem _ _

end

end Lightscale.Foundation
