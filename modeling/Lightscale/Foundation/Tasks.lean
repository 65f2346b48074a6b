/-
Concurrent tasks as a list of their states.

A task is added at the end and stays at its position, so a position names it for ever.
Many tasks draw a number from a counter that they share; it identifies them in a table
that other tasks read.  A task draws once and keeps its number.
-/

import Mathlib.Data.List.Basic

namespace Lightscale.Foundation

variable {Task : Type}

theorem getElem?_set_cases {tasks : List Task} {index position : Nat} {moved task : Task}
    (found : (tasks.set index moved)[position]? = some task) :
    (position = index ∧ task = moved) ∨ (position ≠ index ∧ tasks[position]? = some task) := by
  by_cases same : index = position
  · subst same
    rw [List.getElem?_set_self'] at found
    cases atIndex : tasks[index]? with
    | none =>
        rw [atIndex] at found
        cases found
    | some old =>
        rw [atIndex] at found
        exact Or.inl ⟨rfl, (Option.some.inj found).symm⟩
  · rw [List.getElem?_set_ne same] at found
    exact Or.inr ⟨fun isIndex => same isIndex.symm, found⟩

theorem getElem?_set_of_ne {tasks : List Task} {index position : Nat} {moved task : Task}
    (different : position ≠ index) (found : tasks[position]? = some task) :
    (tasks.set index moved)[position]? = some task := by
  rw [List.getElem?_set_ne different.symm]
  exact found

theorem getElem?_set_moved {tasks : List Task} {index : Nat} {task moved : Task}
    (found : tasks[index]? = some task) : (tasks.set index moved)[index]? = some moved := by
  rw [List.getElem?_set_self', found]
  rfl

theorem getElem?_snoc_cases {tasks : List Task} {position : Nat} {new task : Task}
    (found : (tasks ++ [new])[position]? = some task) :
    (position = tasks.length ∧ task = new) ∨ tasks[position]? = some task := by
  by_cases inside : position < tasks.length
  · rw [List.getElem?_append_left inside] at found
    exact Or.inr found
  · have bound := (List.getElem?_eq_some_iff.mp found).1
    rw [List.length_append, List.length_singleton] at bound
    have isLast : position = tasks.length := by omega
    subst isLast
    rw [List.getElem?_concat_length] at found
    exact Or.inl ⟨rfl, (Option.some.inj found).symm⟩

theorem getElem?_snoc_of_some {tasks : List Task} {position : Nat} {task : Task} (new : Task)
    (found : tasks[position]? = some task) : (tasks ++ [new])[position]? = some task := by
  rw [List.getElem?_append_left (List.getElem?_eq_some_iff.mp found).1]
  exact found

/-- The numbers of the tasks are different and have all been drawn. -/
structure Numbered (numberOf : Task → Option Nat) (next : Nat) (tasks : List Task) : Prop where
  drawn : ∀ (index : Nat) task number, tasks[index]? = some task →
    numberOf task = some number → number < next
  distinct : ∀ (left right : Nat) first second number, tasks[left]? = some first →
    tasks[right]? = some second → numberOf first = some number →
    numberOf second = some number → left = right

namespace Numbered

variable {numberOf : Task → Option Nat} {next later : Nat} {tasks : List Task}

theorem nil (numberOf : Task → Option Nat) (next : Nat) : Numbered numberOf next [] :=
  ⟨nofun, nofun⟩

theorem spawn (numbered : Numbered numberOf next tasks) (grown : next ≤ later) {new : Task}
    (isNew : ∀ number, numberOf new = some number → next ≤ number ∧ number < later) :
    Numbered numberOf later (tasks ++ [new]) := by
  refine ⟨?_, ?_⟩
  · intro index task number found isNumber
    rcases getElem?_snoc_cases found with ⟨_, added⟩ | old
    · rw [added] at isNumber
      exact (isNew number isNumber).2
    · have before := numbered.drawn index task number old isNumber
      omega
  · intro left right first second number leftAt rightAt isFirst isSecond
    rcases getElem?_snoc_cases leftAt with ⟨leftEnd, leftAdded⟩ | leftOld
    · rcases getElem?_snoc_cases rightAt with ⟨rightEnd, _⟩ | rightOld
      · omega
      · rw [leftAdded] at isFirst
        have fresh := isNew number isFirst
        have before := numbered.drawn right second number rightOld isSecond
        omega
    · rcases getElem?_snoc_cases rightAt with ⟨_, rightAdded⟩ | rightOld
      · rw [rightAdded] at isSecond
        have fresh := isNew number isSecond
        have before := numbered.drawn left first number leftOld isFirst
        omega
      · exact numbered.distinct left right first second number leftOld rightOld isFirst isSecond

theorem move (numbered : Numbered numberOf next tasks) (grown : next ≤ later) {index : Nat}
    {task moved : Task} (atIndex : tasks[index]? = some task)
    (keeps : ∀ number, numberOf moved = some number →
      numberOf task = some number ∨ (next ≤ number ∧ number < later)) :
    Numbered numberOf later (tasks.set index moved) := by
  refine ⟨?_, ?_⟩
  · intro position other number found isNumber
    rcases getElem?_set_cases found with ⟨_, isMoved⟩ | ⟨_, old⟩
    · rw [isMoved] at isNumber
      rcases keeps number isNumber with kept | fresh
      · have before := numbered.drawn index task number atIndex kept
        omega
      · exact fresh.2
    · have before := numbered.drawn position other number old isNumber
      omega
  · intro left right first second number leftAt rightAt isFirst isSecond
    rcases getElem?_set_cases leftAt with ⟨leftHere, leftMoved⟩ | ⟨_, leftOld⟩
    · rcases getElem?_set_cases rightAt with ⟨rightHere, _⟩ | ⟨_, rightOld⟩
      · omega
      · rw [leftMoved] at isFirst
        rcases keeps number isFirst with kept | fresh
        · rw [leftHere]
          exact numbered.distinct index right task second number atIndex rightOld kept isSecond
        · have before := numbered.drawn right second number rightOld isSecond
          omega
    · rcases getElem?_set_cases rightAt with ⟨rightHere, rightMoved⟩ | ⟨_, rightOld⟩
      · rw [rightMoved] at isSecond
        rcases keeps number isSecond with kept | fresh
        · rw [rightHere]
          exact numbered.distinct left index first task number leftOld atIndex isFirst kept
        · have before := numbered.drawn left first number leftOld isFirst
          omega
      · exact numbered.distinct left right first second number leftOld rightOld isFirst isSecond

end Numbered

end Lightscale.Foundation
