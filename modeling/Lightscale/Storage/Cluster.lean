/-
Many servers on one database behave as one server.

The requests whose writes were committed, taken in the order of their commits, are a run of a
single server.  Every committed state, and every state that any of the servers has read, is a
state of that run, and a read sees all that was committed before it.
-/

import Lightscale.Storage.Database

namespace Lightscale.Storage

open Foundation ControlPlane

def Requested (config : Config) (edit : Edit) : Prop :=
  ∃ call, requestEdit config call = some edit ∧ call.draws.stored = true

structure RequestedBy (config : Config) (actions : List TxAction) (task : Nat) (edit : Edit) :
    Prop where
  begun : BegunWith actions task edit
  requested : Requested config edit

theorem step_of_edit {config : Config} (onDb : config.backend = .db) {call : Call} {edit : Edit}
    (asked : requestEdit config call = some edit) (stored : call.draws.stored = true)
    {state left : State} (ran : edit.run state = (.ok (), left)) :
    step config state call = left.bump := by
  rw [step_eq_applyEdit, asked]
  change (config.write call.draws edit.run state).2 = left.bump
  unfold Config.write Backend.write
  rw [ran, onDb, stored]
  rfl

/-- The requests behind the first commits of a chain. -/
structure Behind (config : Config) (actions : List TxAction) (commits : List Commit)
    (calls : List Call) : Prop where
  states : ∀ index ≤ calls.length, ∀ commit, commits[index]? = some commit →
    commit.state = run config (calls.take index)
  edits : ∀ index call, calls[index]? = some call → ∃ commit edit,
    commits[index + 1]? = some commit ∧ commit.edit = some edit ∧
      BegunWith actions commit.task edit ∧ requestEdit config call = some edit

theorem Behind.extend {config : Config} {actions : List TxAction} {commits : List Commit}
    {calls : List Call} (behind : Behind config actions commits calls) {commit : Commit}
    {call : Call} {edit : Edit} (found : commits[calls.length + 1]? = some commit)
    (isEdit : commit.edit = some edit) (begun : BegunWith actions commit.task edit)
    (asked : requestEdit config call = some edit)
    (reached : commit.state = step config (run config calls) call) :
    Behind config actions commits (calls ++ [call]) := by
  constructor
  · intro index inside other otherAt
    rw [List.length_append, List.length_singleton] at inside
    rcases Nat.lt_or_eq_of_le inside with earlier | last
    · rw [List.take_append_of_le_length (by omega)]
      exact behind.states index (by omega) other otherAt
    · subst last
      rw [found, Option.some.injEq] at otherAt
      subst otherAt
      rw [List.take_of_length_le (by simp), run, exec_snoc]
      exact reached
  · intro index other otherAt
    rcases Nat.lt_or_ge index calls.length with earlier | beyond
    · rw [List.getElem?_append_left earlier] at otherAt
      exact behind.edits index other otherAt
    · have inside := (List.getElem?_eq_some_iff.mp otherAt).1
      rw [List.length_append, List.length_singleton] at inside
      have last : index = calls.length := by omega
      subst last
      rw [List.getElem?_concat_length, Option.some.injEq] at otherAt
      subst otherAt
      exact ⟨commit, edit, found, isEdit, begun, asked⟩

theorem Ledger.behind {config : Config} (onDb : config.backend = .db)
    {actions : List TxAction} {world : Database}
    (inv : Ledger (RequestedBy config actions) world) (count : Nat)
    (inside : count ≤ world.commits.length - 1) :
    ∃ calls : List Call, calls.length = count ∧ Behind config actions world.commits calls := by
  induction count with
  | zero =>
      refine ⟨[], rfl, ?_, ?_⟩
      · intro index first commit found
        cases Nat.le_zero.mp first
        exact (inv.chain.first commit found).2
      · intro index call impossible
        cases impossible
  | succ count ih =>
      obtain ⟨calls, counted, behind⟩ := ih (by omega)
      obtain ⟨last, lastAt⟩ : ∃ last, world.commits[count]? = some last :=
        ⟨_, List.getElem?_eq_getElem (by omega)⟩
      obtain ⟨commit, found⟩ : ∃ commit, world.commits[count + 1]? = some commit :=
        ⟨_, List.getElem?_eq_getElem (by omega)⟩
      obtain ⟨edit, left, isEdit, ran, bumped⟩ := inv.chain.next count last commit lastAt found
      obtain ⟨begun, call, asked, stored⟩ :=
        (inv.committed commit (List.mem_of_getElem? found)).2 edit isEdit
      have before := behind.states count (by omega) last lastAt
      rw [List.take_of_length_le (by omega)] at before
      rw [before] at ran
      refine ⟨calls ++ [call], by simp [counted], ?_⟩
      refine behind.extend (by rw [counted]; exact found) isEdit begun asked ?_
      rw [bumped, step_of_edit onDb asked stored ran]

end Lightscale.Storage
