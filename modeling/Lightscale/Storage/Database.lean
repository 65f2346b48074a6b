/-
Several servers on one database.

The whole state is one row.  A starting server creates the table and inserts the row
if it finds none; a write locks the row, runs its closure on what it read and updates
the row in the same transaction; a read takes the committed row.  Transactions of
different servers interleave at every statement, and each of them may be rolled back
at any point, by an error or because its server dies.  The commits and the reads are
recorded, so that a run can be asked which states it has committed and shown.
-/

import Lightscale.ControlPlane.Edit

namespace Lightscale.Storage

open Foundation ControlPlane

/-! ### Transactions and their statements -/

/-- Where one call of `init_db` or `write_state_db` stands. -/
inductive TxPhase where
  /-- `init_db` has begun; whether it takes the advisory lock depends on the database. -/
  | initBegun (usesLock : Bool)
  | initReady
  | initCreated
  | initChecked (found : Bool)
  | initInserted
  | writeBegun (edit : Edit)
  /-- The row is locked, and this is what it held. -/
  | writeSelected (edit : Edit) (read : State)
  | writeEdited (edit : Edit) (read next : State)
  | writeUpdated (edit : Edit) (read next : State)
  | returned (ok : Bool)

structure Commit where
  task : Nat
  edit : Option Edit
  state : State

structure Database where
  /-- The committed row. -/
  row : Option State
  rowLock : Option Nat
  /-- The transaction whose insertion of the key is not committed yet. -/
  keyLock : Option Nat
  advisory : Option Nat
  tasks : Table Nat TxPhase
  commits : List Commit
  reads : List State

def Database.empty : Database where
  row := none
  rowLock := none
  keyLock := none
  advisory := none
  tasks := ∅
  commits := []
  reads := []

inductive TxAction where
  | beginInit (task : Nat) (usesLock : Bool)
  | lockInit (task : Nat)
  | createTable (task : Nat)
  /-- A transaction may look at a snapshot from before the row was committed. -/
  | checkRow (task : Nat) (sees : Bool)
  | insertRow (task : Nat)
  /-- The commit may take effect although its acknowledgement is lost. -/
  | commitInit (task : Nat) (acknowledged : Bool)
  | beginWrite (task : Nat) (edit : Edit)
  | selectForUpdate (task : Nat)
  | runClosure (task : Nat)
  | updateRow (task : Nat)
  | commitWrite (task : Nat) (acknowledged : Bool)
  | load
  | fail (task : Nat)

def released (lock : Option Nat) (task : Nat) : Option Nat :=
  if lock = some task then none else lock

/-- End a transaction, by a commit or a rollback: all its locks are dropped. -/
def Database.finish (world : Database) (task : Nat) (ok : Bool) : Database :=
  { world with
    rowLock := released world.rowLock task
    keyLock := released world.keyLock task
    advisory := released world.advisory task
    tasks := world.tasks.insert task (.returned ok) }

def Database.setPhase (world : Database) (task : Nat) (phase : TxPhase) : Database :=
  { world with tasks := world.tasks.insert task phase }

/-- One statement of one transaction.  An action that is not enabled, or has to wait for a
lock, changes nothing. -/
def Database.step (world : Database) : TxAction → Database
  | .beginInit task usesLock =>
      match world.tasks.lookup task with
      | none => world.setPhase task (.initBegun usesLock)
      | some _ => world
  | .lockInit task =>
      match world.tasks.lookup task, world.advisory with
      | some (.initBegun false), _ => world.setPhase task .initReady
      | some (.initBegun true), none =>
          ({ world with advisory := some task }).setPhase task .initReady
      | _, _ => world
  | .createTable task =>
      match world.tasks.lookup task with
      | some .initReady => world.setPhase task .initCreated
      | _ => world
  | .checkRow task sees =>
      match world.tasks.lookup task with
      | some .initCreated => world.setPhase task (.initChecked (world.row.isSome && sees))
      | _ => world
  | .insertRow task =>
      match world.tasks.lookup task, world.row, world.keyLock with
      | some (.initChecked false), none, none =>
          ({ world with keyLock := some task }).setPhase task .initInserted
      -- The key is taken: the insertion violates the primary key.
      | some (.initChecked false), some _, _ => world.finish task false
      | _, _, _ => world
  | .commitInit task acknowledged =>
      match world.tasks.lookup task with
      | some (.initChecked true) => world.finish task acknowledged
      | some .initInserted =>
          { world.finish task acknowledged with
            row := some State.default
            commits := world.commits ++ [⟨task, none, State.default⟩] }
      | _ => world
  | .beginWrite task edit =>
      match world.tasks.lookup task with
      | none => world.setPhase task (.writeBegun edit)
      | some _ => world
  | .selectForUpdate task =>
      match world.tasks.lookup task, world.row, world.rowLock with
      | some (.writeBegun edit), some state, none =>
          ({ world with rowLock := some task }).setPhase task (.writeSelected edit state)
      | some (.writeBegun _), none, _ => world.finish task false
      | _, _, _ => world
  | .runClosure task =>
      match world.tasks.lookup task with
      | some (.writeSelected edit read) =>
          match edit.run read with
          | (.error _, _) => world.finish task false
          | (.ok _, left) => world.setPhase task (.writeEdited edit read left.bump)
      | _ => world
  | .updateRow task =>
      match world.tasks.lookup task with
      | some (.writeEdited edit read next) => world.setPhase task (.writeUpdated edit read next)
      | _ => world
  | .commitWrite task acknowledged =>
      match world.tasks.lookup task with
      | some (.writeUpdated edit _ next) =>
          { world.finish task acknowledged with
            row := some next
            commits := world.commits ++ [⟨task, some edit, next⟩] }
      | _ => world
  | .load =>
      match world.row with
      | some state => { world with reads := world.reads ++ [state] }
      | none => world
  | .fail task =>
      match world.tasks.lookup task with
      | none => world
      | some (.returned _) => world
      | some _ => world.finish task false

/-! ### The chain of commits -/

/-- Each commit is one successful edit of the state committed before it, and the first is
the insertion of the default state. -/
structure Chain (commits : List Commit) : Prop where
  first : ∀ commit, commits[0]? = some commit → commit.edit = none ∧ commit.state = State.default
  next : ∀ index last commit, commits[index]? = some last → commits[index + 1]? = some commit →
    ∃ edit left, commit.edit = some edit ∧ edit.run last.state = (.ok (), left) ∧
      commit.state = left.bump

theorem chain_nil : Chain [] := by
  constructor
  · intro commit found
    cases found
  · intro index last commit found
    cases found

theorem chain_inserted (task : Nat) : Chain [⟨task, none, State.default⟩] := by
  constructor
  · intro commit found
    cases found
    exact ⟨rfl, rfl⟩
  · intro index last commit _ found
    cases found

theorem Chain.updated {commits : List Commit} {read left : State} {edit : Edit}
    (chain : Chain commits) (task : Nat)
    (current : commits.getLast?.map Commit.state = some read)
    (ran : edit.run read = (.ok (), left)) :
    Chain (commits ++ [⟨task, some edit, left.bump⟩]) := by
  obtain ⟨last, lastAt, lastState⟩ := Option.map_eq_some_iff.mp current
  have nonempty : commits ≠ [] := by
    rintro rfl
    cases lastAt
  have positive : 0 < commits.length := List.length_pos_iff.mpr nonempty
  rw [List.getLast?_eq_getElem?] at lastAt
  constructor
  · intro commit found
    rw [List.getElem?_append_left positive] at found
    exact chain.first commit found
  · intro index before commit beforeAt found
    by_cases inside : index + 1 < commits.length
    · rw [List.getElem?_append_left (by omega)] at beforeAt
      rw [List.getElem?_append_left inside] at found
      exact chain.next index before commit beforeAt found
    · rw [List.getElem?_append_right (by omega)] at found
      have atEnd : index + 1 - commits.length = 0 := by
        have bound := (List.getElem?_eq_some_iff.mp found).1
        simp only [List.length_singleton] at bound
        omega
      rw [atEnd, List.getElem?_cons_zero, Option.some.injEq] at found
      rw [List.getElem?_append_left (by omega)] at beforeAt
      have sameIndex : commits.length - 1 = index := by omega
      rw [sameIndex, beforeAt, Option.some.injEq] at lastAt
      subst found
      refine ⟨edit, left, rfl, ?_, rfl⟩
      rw [lastAt, lastState]
      exact ran

theorem Chain.revision {commits : List Commit} (chain : Chain commits) :
    ∀ index commit, commits[index]? = some commit →
      commit.state.revision = min index (2 ^ 64 - 1) := by
  intro index
  induction index with
  | zero =>
      intro commit found
      rw [(chain.first commit found).2]
      rfl
  | succ index ih =>
      intro commit found
      have inside := (List.getElem?_eq_some_iff.mp found).1
      obtain ⟨last, lastAt⟩ : ∃ last, commits[index]? = some last :=
        ⟨_, List.getElem?_eq_getElem (by omega)⟩
      obtain ⟨edit, left, _, ran, bumped⟩ := chain.next index last commit lastAt found
      have kept := edit.keepsRevision last.state
      rw [ran] at kept
      change left.revision = last.state.revision at kept
      rw [bumped]
      change min (left.revision + 1) (2 ^ 64 - 1) = _
      rw [kept, ih last lastAt]
      omega

/-! ### Locks, snapshots and the row -/

def TxPhase.read : TxPhase → Option State
  | .writeSelected _ read => some read
  | .writeEdited _ read _ => some read
  | .writeUpdated _ read _ => some read
  | _ => none

def TxPhase.edit : TxPhase → Option Edit
  | .writeBegun edit => some edit
  | .writeSelected edit _ => some edit
  | .writeEdited edit _ _ => some edit
  | .writeUpdated edit _ _ => some edit
  | _ => none

def TxPhase.Ran : TxPhase → Prop
  | .writeEdited edit read next => ∃ left, edit.run read = (.ok (), left) ∧ next = left.bump
  | .writeUpdated edit read next => ∃ left, edit.run read = (.ok (), left) ∧ next = left.bump
  | _ => True

/-- The row is the last commit, and whoever has read it for an update holds its lock.  The
tasks have edits that they are allowed to have. -/
structure Ledger (allowed : Nat → Edit → Prop) (world : Database) : Prop where
  phases : ∀ task phase, world.tasks.lookup task = some phase →
    phase.Ran ∧ ∀ edit, phase.edit = some edit → allowed task edit
  reader : ∀ task phase state, world.tasks.lookup task = some phase →
    phase.read = some state → world.rowLock = some task ∧ world.row = some state
  inserter : ∀ task, world.tasks.lookup task = some .initInserted →
    world.keyLock = some task ∧ world.row = none
  chain : Chain world.commits
  current : world.row = world.commits.getLast?.map Commit.state
  committed : ∀ commit ∈ world.commits,
    (∃ ok, world.tasks.lookup commit.task = some (.returned ok)) ∧
      ∀ edit, commit.edit = some edit → allowed commit.task edit
  once : (world.commits.map Commit.task).Nodup
  shown : ∀ state ∈ world.reads, ∃ commit ∈ world.commits, commit.state = state

theorem ledger_empty (allowed : Nat → Edit → Prop) : Ledger allowed Database.empty := by
  refine ⟨?_, ?_, ?_, chain_nil, rfl, ?_, List.nodup_nil, ?_⟩
  · intro task phase found
    cases found
  · intro task phase state found
    cases found
  · intro task found
    cases found
  · intro commit member
    cases member
  · intro state member
    cases member

section

variable {allowed : Nat → Edit → Prop} {world : Database} {task : Nat}

theorem Ledger.not_committed (inv : Ledger allowed world)
    (unfinished : ∀ ok, world.tasks.lookup task ≠ some (.returned ok)) {commit : Commit}
    (member : commit ∈ world.commits) : commit.task ≠ task := by
  intro same
  obtain ⟨ok, ended⟩ := (inv.committed commit member).1
  rw [same] at ended
  exact unfinished ok ended

theorem Ledger.proceed (inv : Ledger allowed world) {phase : TxPhase}
    {rowLock keyLock advisory : Option Nat}
    (unfinished : ∀ ok, world.tasks.lookup task ≠ some (.returned ok))
    (fits : phase.Ran ∧ ∀ edit, phase.edit = some edit → allowed task edit)
    (reads : ∀ state, phase.read = some state → rowLock = some task ∧ world.row = some state)
    (inserts : phase = .initInserted → keyLock = some task ∧ world.row = none)
    (keepsRow : ∀ other, other ≠ task → world.rowLock = some other → rowLock = some other)
    (keepsKey : ∀ other, other ≠ task → world.keyLock = some other → keyLock = some other) :
    Ledger allowed
      { world with
        rowLock := rowLock
        keyLock := keyLock
        advisory := advisory
        tasks := world.tasks.insert task phase } := by
  refine ⟨Table.forall_lookup_insert inv.phases fits, ?_, ?_, inv.chain, inv.current, ?_,
    inv.once, inv.shown⟩
  · intro other otherPhase state found isRead
    change (world.tasks.insert task phase).lookup other = _ at found
    rw [Table.lookup_insert_eq] at found
    by_cases same : other = task
    · rw [if_pos same, Option.some.injEq] at found
      rw [← found] at isRead
      rw [same]
      exact reads state isRead
    · rw [if_neg same] at found
      obtain ⟨locked, rowAt⟩ := inv.reader other otherPhase state found isRead
      exact ⟨keepsRow other same locked, rowAt⟩
  · intro other found
    change (world.tasks.insert task phase).lookup other = _ at found
    rw [Table.lookup_insert_eq] at found
    by_cases same : other = task
    · rw [if_pos same, Option.some.injEq] at found
      rw [same]
      exact inserts found
    · rw [if_neg same] at found
      obtain ⟨locked, absent⟩ := inv.inserter other found
      exact ⟨keepsKey other same locked, absent⟩
  · intro commit member
    obtain ⟨⟨ok, ended⟩, isAllowed⟩ := inv.committed commit member
    refine ⟨⟨ok, ?_⟩, isAllowed⟩
    change (world.tasks.insert task phase).lookup commit.task = _
    rw [Table.lookup_insert_eq, if_neg (inv.not_committed unfinished member)]
    exact ended

theorem released_of_ne {lock : Option Nat} {other : Nat} (different : other ≠ task)
    (locked : lock = some other) : released lock task = some other := by
  unfold released
  rw [locked, if_neg]
  intro same
  exact different (Option.some.inj same)

theorem Ledger.finish (inv : Ledger allowed world)
    (unfinished : ∀ ok, world.tasks.lookup task ≠ some (.returned ok)) (ok : Bool) :
    Ledger allowed (world.finish task ok) := by
  refine inv.proceed unfinished ⟨trivial, ?_⟩ ?_ ?_ ?_ ?_
  · intro edit isEdit
    cases isEdit
  · intro state isRead
    cases isRead
  · intro isInserted
    cases isInserted
  · intro other different locked
    exact released_of_ne different locked
  · intro other different locked
    exact released_of_ne different locked

theorem Ledger.commit (inv : Ledger allowed world) {edit : Option Edit} {next : State}
    (unfinished : ∀ ok, world.tasks.lookup task ≠ some (.returned ok)) (ok : Bool)
    (alone : ∀ other phase, other ≠ task → world.tasks.lookup other = some phase →
      phase.read = none ∧ phase ≠ .initInserted)
    (isAllowed : ∀ made, edit = some made → allowed task made)
    (chain : Chain (world.commits ++ [⟨task, edit, next⟩])) :
    Ledger allowed
      { world.finish task ok with
        row := some next
        commits := world.commits ++ [⟨task, edit, next⟩] } := by
  have ended := inv.finish unfinished ok
  refine ⟨ended.phases, ?_, ?_, chain, ?_, ?_, ?_, ?_⟩
  · intro other phase state found isRead
    change (world.tasks.insert task (.returned ok)).lookup other = _ at found
    rw [Table.lookup_insert_eq] at found
    by_cases same : other = task
    · rw [if_pos same, Option.some.injEq] at found
      rw [← found] at isRead
      cases isRead
    · rw [if_neg same] at found
      rw [(alone other phase same found).1] at isRead
      cases isRead
  · intro other found
    change (world.tasks.insert task (.returned ok)).lookup other = _ at found
    rw [Table.lookup_insert_eq] at found
    by_cases same : other = task
    · rw [if_pos same, Option.some.injEq] at found
      cases found
    · rw [if_neg same] at found
      exact absurd rfl (alone other .initInserted same found).2
  · rw [List.getLast?_concat]
    rfl
  · intro commit member
    rcases List.mem_append.mp member with old | new
    · exact ended.committed commit old
    · rw [List.mem_singleton.mp new]
      exact ⟨⟨ok, AList.lookup_insert _⟩, isAllowed⟩
  · rw [List.map_append, List.nodup_append]
    refine ⟨inv.once, List.nodup_singleton _, ?_⟩
    intro old oldMember new newMember
    obtain ⟨commit, member, rfl⟩ := List.mem_map.mp oldMember
    rw [List.mem_singleton.mp newMember]
    exact inv.not_committed unfinished member
  · intro state member
    obtain ⟨commit, committed, same⟩ := inv.shown state member
    exact ⟨commit, List.mem_append_left _ committed, same⟩

theorem Ledger.commit_inserted (inv : Ledger allowed world)
    (found : world.tasks.lookup task = some .initInserted) (ok : Bool) :
    Ledger allowed
      { world.finish task ok with
        row := some State.default
        commits := world.commits ++ [⟨task, none, State.default⟩] } := by
  obtain ⟨locked, absent⟩ := inv.inserter task found
  refine inv.commit ?_ ok ?_ ?_ ?_
  · intro ok ended
    rw [found] at ended
    cases ended
  · intro other phase different otherAt
    constructor
    · cases isRead : phase.read with
      | none => rfl
      | some state =>
          have rowAt := (inv.reader other phase state otherAt isRead).2
          rw [absent] at rowAt
          cases rowAt
    · rintro rfl
      have otherLock := (inv.inserter other otherAt).1
      rw [locked, Option.some.injEq] at otherLock
      exact different otherLock.symm
  · intro made impossible
    cases impossible
  · have none_yet : world.commits = [] := by
      have current := inv.current
      rw [absent] at current
      exact List.getLast?_eq_none_iff.mp (Option.map_eq_none_iff.mp current.symm)
    rw [none_yet]
    exact chain_inserted task

/-- The transaction that updates the row holds its lock, so what it read is still there. -/
theorem Ledger.commit_updated (inv : Ledger allowed world) {edit : Edit} {read next : State}
    (found : world.tasks.lookup task = some (.writeUpdated edit read next)) (ok : Bool) :
    Ledger allowed
      { world.finish task ok with
        row := some next
        commits := world.commits ++ [⟨task, some edit, next⟩] } := by
  obtain ⟨locked, rowAt⟩ := inv.reader task _ read found rfl
  obtain ⟨⟨left, ran, nextEq⟩, isAllowed⟩ := inv.phases task _ found
  refine inv.commit ?_ ok ?_ ?_ ?_
  · intro ok ended
    rw [found] at ended
    cases ended
  · intro other phase different otherAt
    constructor
    · cases isRead : phase.read with
      | none => rfl
      | some state =>
          have otherLock := (inv.reader other phase state otherAt isRead).1
          rw [locked, Option.some.injEq] at otherLock
          exact absurd otherLock.symm different
    · rintro rfl
      have absent := (inv.inserter other otherAt).2
      rw [rowAt] at absent
      cases absent
  · intro made isMade
    rw [← Option.some.inj isMade]
    exact isAllowed edit rfl
  · have current := inv.current
    rw [rowAt] at current
    rw [nextEq]
    exact inv.chain.updated task current.symm ran

theorem unfinished_of_found {phase : TxPhase} (found : world.tasks.lookup task = some phase)
    (going : ∀ ok, phase ≠ .returned ok) (ok : Bool) :
    world.tasks.lookup task ≠ some (.returned ok) := by
  intro ended
  rw [found, Option.some.injEq] at ended
  exact going ok ended

theorem unfinished_of_fresh (fresh : world.tasks.lookup task = none) (ok : Bool) :
    world.tasks.lookup task ≠ some (.returned ok) := by
  intro ended
  rw [fresh] at ended
  cases ended

theorem Ledger.setPhase (inv : Ledger allowed world) (phase : TxPhase) (advisory : Option Nat)
    (unfinished : ∀ ok, world.tasks.lookup task ≠ some (.returned ok))
    (fits : phase.Ran ∧ ∀ edit, phase.edit = some edit → allowed task edit)
    (reads : ∀ state, phase.read = some state →
      world.rowLock = some task ∧ world.row = some state)
    (notInserted : phase ≠ .initInserted) :
    Ledger allowed (({ world with advisory := advisory }).setPhase task phase) := by
  refine inv.proceed unfinished fits reads ?_ ?_ ?_
  · intro isInserted
    exact absurd isInserted notInserted
  · intro other _ locked
    exact locked
  · intro other _ locked
    exact locked

theorem Ledger.insertRow (inv : Ledger allowed world) :
    Ledger allowed (world.step (.insertRow task)) := by
  dsimp only [Database.step]
  split
  · rename_i found absent free
    refine inv.proceed (unfinished_of_found found nofun) ⟨trivial, nofun⟩ nofun ?_ ?_ ?_
    · intro _
      exact ⟨rfl, absent⟩
    · intro other _ locked
      exact locked
    · intro other _ locked
      rw [free] at locked
      cases locked
  · rename_i found _
    exact inv.finish (unfinished_of_found found nofun) false
  · exact inv

theorem Ledger.selectForUpdate (inv : Ledger allowed world) :
    Ledger allowed (world.step (.selectForUpdate task)) := by
  dsimp only [Database.step]
  split
  · rename_i edit state found rowAt free
    refine inv.proceed (unfinished_of_found found nofun)
      ⟨trivial, (inv.phases task _ found).2⟩ ?_ nofun ?_ ?_
    · intro read isRead
      rw [← Option.some.inj isRead]
      exact ⟨rfl, rowAt⟩
    · intro other _ locked
      rw [free] at locked
      cases locked
    · intro other _ locked
      exact locked
  · rename_i found _
    exact inv.finish (unfinished_of_found found nofun) false
  · exact inv

theorem Ledger.runClosure (inv : Ledger allowed world) :
    Ledger allowed (world.step (.runClosure task)) := by
  dsimp only [Database.step]
  split
  · rename_i edit read found
    split
    · exact inv.finish (unfinished_of_found found nofun) false
    · rename_i left ran
      refine inv.setPhase (.writeEdited edit read left.bump) world.advisory
        (unfinished_of_found found nofun) ⟨⟨left, ran, rfl⟩, (inv.phases task _ found).2⟩
        ?_ nofun
      intro state isRead
      exact inv.reader task _ state found isRead
  · exact inv

theorem Ledger.load (inv : Ledger allowed world) : Ledger allowed (world.step .load) := by
  dsimp only [Database.step]
  split
  · rename_i state rowAt
    refine { inv with shown := ?_ }
    intro seen member
    rcases List.mem_append.mp member with old | new
    · exact inv.shown seen old
    · rw [List.mem_singleton.mp new]
      have current := inv.current
      rw [rowAt] at current
      obtain ⟨last, lastAt, same⟩ := Option.map_eq_some_iff.mp current.symm
      exact ⟨last, List.mem_of_getLast? lastAt, same⟩
  · exact inv

def TxAction.Begins (allowed : Nat → Edit → Prop) (world : Database) : TxAction → Prop
  | .beginWrite task edit => world.tasks.lookup task = none → allowed task edit
  | _ => True

theorem ledger_step (inv : Ledger allowed world) (action : TxAction)
    (begins : action.Begins allowed world) : Ledger allowed (world.step action) := by
  cases action with
  | beginInit task usesLock =>
      dsimp only [Database.step]
      split
      · rename_i fresh
        exact inv.setPhase (.initBegun usesLock) world.advisory (unfinished_of_fresh fresh)
          ⟨trivial, nofun⟩ nofun nofun
      · exact inv
  | lockInit task =>
      dsimp only [Database.step]
      split
      · rename_i found
        exact inv.setPhase .initReady world.advisory (unfinished_of_found found nofun)
          ⟨trivial, nofun⟩ nofun nofun
      · rename_i found free
        exact inv.setPhase .initReady (some task) (unfinished_of_found found nofun)
          ⟨trivial, nofun⟩ nofun nofun
      · exact inv
  | createTable task =>
      dsimp only [Database.step]
      split
      · rename_i found
        exact inv.setPhase .initCreated world.advisory (unfinished_of_found found nofun)
          ⟨trivial, nofun⟩ nofun nofun
      · exact inv
  | checkRow task sees =>
      dsimp only [Database.step]
      split
      · rename_i found
        exact inv.setPhase (.initChecked _) world.advisory (unfinished_of_found found nofun)
          ⟨trivial, nofun⟩ nofun nofun
      · exact inv
  | insertRow task => exact inv.insertRow
  | commitInit task acknowledged =>
      dsimp only [Database.step]
      split
      · rename_i found
        exact inv.finish (unfinished_of_found found nofun) acknowledged
      · rename_i found
        exact inv.commit_inserted found acknowledged
      · exact inv
  | beginWrite task edit =>
      dsimp only [Database.step]
      split
      · rename_i fresh
        refine inv.setPhase (.writeBegun edit) world.advisory (unfinished_of_fresh fresh)
          ⟨trivial, ?_⟩ nofun nofun
        intro begun isBegun
        rw [← Option.some.inj isBegun]
        exact begins fresh
      · exact inv
  | selectForUpdate task => exact inv.selectForUpdate
  | runClosure task => exact inv.runClosure
  | updateRow task =>
      dsimp only [Database.step]
      split
      · rename_i edit read next found
        obtain ⟨ran, isAllowed⟩ := inv.phases task _ found
        refine inv.setPhase (.writeUpdated edit read next) world.advisory
          (unfinished_of_found found nofun) ⟨ran, isAllowed⟩ ?_ nofun
        intro state isRead
        exact inv.reader task _ state found isRead
      · exact inv
  | commitWrite task acknowledged =>
      dsimp only [Database.step]
      split
      · rename_i edit read next found
        exact inv.commit_updated found acknowledged
      · exact inv
  | load => exact inv.load
  | fail task =>
      dsimp only [Database.step]
      split
      · exact inv
      · exact inv
      · rename_i phase going found
        exact inv.finish (unfinished_of_found found going) false

end

def BegunWith (actions : List TxAction) (task : Nat) (edit : Edit) : Prop :=
  ∃ before after, actions = before ++ .beginWrite task edit :: after ∧
    (exec Database.step Database.empty before).tasks.lookup task = none

theorem run_ledger {allowed : Nat → Edit → Prop} {actions : List TxAction}
    (begun : ∀ task edit, BegunWith actions task edit → allowed task edit) :
    Ledger allowed (exec Database.step Database.empty actions) := by
  refine exec_invariant_when Database.step (fun world action => action.Begins allowed world)
    (Ledger allowed) ?_ Database.empty (ledger_empty allowed) actions ?_
  · intro world action met inv
    exact ledger_step inv action met
  · intro event member
    obtain ⟨before, after, split, isBefore⟩ := before_of_mem_trace Database.step member
    cases asked : event.input with
    | beginWrite task edit =>
        intro fresh
        rw [asked] at split
        rw [isBefore] at fresh
        exact begun task edit ⟨before, after, split, fresh⟩
    | _ => trivial

/-! ### Commits of one task -/

inductive TxStep (world after : Database) : Prop where
  | still (tasks : after.tasks = world.tasks) (commits : after.commits = world.commits)
  | moved (task : Nat) (phase : TxPhase)
      (unfinished : ∀ ok, world.tasks.lookup task ≠ some (.returned ok))
      (tasks : after.tasks = world.tasks.insert task phase)
      (commits : after.commits = world.commits ∨
        ∃ edit state, after.commits = world.commits ++ [⟨task, edit, state⟩])

theorem txStep (world : Database) (action : TxAction) : TxStep world (world.step action) := by
  cases action with
  | beginInit task usesLock =>
      dsimp only [Database.step]
      split
      · rename_i fresh
        exact .moved task _ (unfinished_of_fresh fresh) rfl (Or.inl rfl)
      · exact .still rfl rfl
  | beginWrite task edit =>
      dsimp only [Database.step]
      split
      · rename_i fresh
        exact .moved task _ (unfinished_of_fresh fresh) rfl (Or.inl rfl)
      · exact .still rfl rfl
  | lockInit task =>
      dsimp only [Database.step]
      split
      · rename_i found
        exact .moved task _ (unfinished_of_found found nofun) rfl (Or.inl rfl)
      · rename_i found _
        exact .moved task _ (unfinished_of_found found nofun) rfl (Or.inl rfl)
      · exact .still rfl rfl
  | createTable task | checkRow task _ | updateRow task =>
      dsimp only [Database.step]
      split
      · rename_i found
        exact .moved task _ (unfinished_of_found found nofun) rfl (Or.inl rfl)
      · exact .still rfl rfl
  | insertRow task =>
      dsimp only [Database.step]
      split
      · rename_i found _ _
        exact .moved task _ (unfinished_of_found found nofun) rfl (Or.inl rfl)
      · rename_i found _
        exact .moved task _ (unfinished_of_found found nofun) rfl (Or.inl rfl)
      · exact .still rfl rfl
  | selectForUpdate task =>
      dsimp only [Database.step]
      split
      · rename_i found _ _
        exact .moved task _ (unfinished_of_found found nofun) rfl (Or.inl rfl)
      · rename_i found _
        exact .moved task _ (unfinished_of_found found nofun) rfl (Or.inl rfl)
      · exact .still rfl rfl
  | runClosure task =>
      dsimp only [Database.step]
      split
      · rename_i found
        split <;> exact .moved task _ (unfinished_of_found found nofun) rfl (Or.inl rfl)
      · exact .still rfl rfl
  | commitInit task acknowledged =>
      dsimp only [Database.step]
      split
      · rename_i found
        exact .moved task _ (unfinished_of_found found nofun) rfl (Or.inl rfl)
      · rename_i found
        exact .moved task _ (unfinished_of_found found nofun) rfl (Or.inr ⟨_, _, rfl⟩)
      · exact .still rfl rfl
  | commitWrite task acknowledged =>
      dsimp only [Database.step]
      split
      · rename_i found
        exact .moved task _ (unfinished_of_found found nofun) rfl (Or.inr ⟨_, _, rfl⟩)
      · exact .still rfl rfl
  | load =>
      dsimp only [Database.step]
      split <;> exact .still rfl rfl
  | fail task =>
      dsimp only [Database.step]
      split
      · exact .still rfl rfl
      · exact .still rfl rfl
      · rename_i going found
        exact .moved task _ (unfinished_of_found found going) rfl (Or.inl rfl)

/-- Nothing that has been committed is taken back. -/
theorem commits_step (world : Database) (action : TxAction) :
    world.commits <+: (world.step action).commits := by
  cases txStep world action with
  | still tasks commits => exact ⟨[], (List.append_nil _).trans commits.symm⟩
  | moved task phase unfinished tasks commits =>
      rcases commits with same | ⟨edit, state, more⟩
      · exact ⟨[], (List.append_nil _).trans same.symm⟩
      · rw [more]
        exact List.prefix_append _ _

def EndedWithout (task : Nat) (world : Database) : Prop :=
  (∃ ok, world.tasks.lookup task = some (.returned ok)) ∧
    ∀ commit ∈ world.commits, commit.task ≠ task

theorem EndedWithout.step {task : Nat} {world : Database} (ended : EndedWithout task world)
    (action : TxAction) : EndedWithout task (world.step action) := by
  obtain ⟨⟨ok, returned⟩, without⟩ := ended
  cases txStep world action with
  | still tasks commits =>
      refine ⟨⟨ok, ?_⟩, ?_⟩
      · rw [tasks, returned]
      · rw [commits]
        exact without
  | moved other phase unfinished tasks commits =>
      have different : task ≠ other := by
        rintro rfl
        exact unfinished ok returned
      refine ⟨⟨ok, ?_⟩, ?_⟩
      · rw [tasks, AList.lookup_insert_ne different, returned]
      · rcases commits with same | ⟨edit, state, more⟩
        · rw [same]
          exact without
        · rw [more]
          intro commit member
          rcases List.mem_append.mp member with old | new
          · exact without commit old
          · rw [List.mem_singleton.mp new]
            exact different.symm

def Database.closureFails (world : Database) (task : Nat) : Bool :=
  match world.tasks.lookup task with
  | some (.writeSelected edit read) => !(edit.run read).1.isOk
  | _ => false

theorem closureFails_eq_true {world : Database} {task : Nat}
    (fails : world.closureFails task = true) :
    ∃ edit read error left, world.tasks.lookup task = some (.writeSelected edit read) ∧
      edit.run read = (.error error, left) := by
  unfold Database.closureFails at fails
  split at fails
  · rename_i edit read selected
    rcases ran : edit.run read with ⟨result, left⟩
    rw [ran] at fails
    cases result with
    | error error => exact ⟨edit, read, error, left, selected, ran⟩
    | ok value => cases fails
  · cases fails

theorem uncommitted_of_closureFails {actions before after : List TxAction} {task : Nat}
    (split : actions = before ++ .runClosure task :: after)
    (fails : (exec Database.step Database.empty before).closureFails task = true) :
    ∀ commit ∈ (exec Database.step Database.empty actions).commits, commit.task ≠ task := by
  obtain ⟨edit, read, error, left, selected, failed⟩ := closureFails_eq_true fails
  have inv : Ledger (fun _ _ => True) (exec Database.step Database.empty before) :=
    run_ledger fun _ _ _ => trivial
  have ended : EndedWithout task
      ((exec Database.step Database.empty before).step (.runClosure task)) := by
    simp only [Database.step, selected, failed]
    refine ⟨⟨false, AList.lookup_insert _⟩, ?_⟩
    intro commit member
    exact inv.not_committed (unfinished_of_found selected nofun) member
  rw [split, exec_append]
  exact (exec_invariant Database.step (EndedWithout task)
    (fun _ action ended => ended.step action) _ ended after).2

theorem commits_exec (world : Database) (actions : List TxAction) :
    world.commits <+: (exec Database.step world actions).commits := by
  refine exec_invariant Database.step (fun later => world.commits <+: later.commits) ?_ world
    List.prefix_rfl actions
  intro later action kept
  exact kept.trans (commits_step later action)

/-! ### What the servers show -/

theorem buildNetmap_revision {state : State} {nodeId : String} {relay : Option RelayConfig}
    {now generatedAt : Int} {netmap : NetMap}
    (built : buildNetmap state nodeId relay now generatedAt = .ok netmap) :
    netmap.revision = state.revision := by
  unfold buildNetmap at built
  split at built
  · cases built
  · split at built
    · cases built
    · cases built
      rfl

/-- A long poll answers with the netmap of one of its reads, which is past `since` unless
the deadline had passed. -/
theorem netmapLongpoll_ok {config : Config} {headers : Headers} {nodeId : String}
    {since : Option Nat} {netmap : NetMap} {polls : List Poll}
    (answered : netmapLongpoll config headers nodeId since polls = some (.ok netmap)) :
    ∃ poll ∈ polls,
      buildNetmap poll.state nodeId (relayOrNone config.relay) poll.draws.netmapNow
        poll.draws.generatedAt = .ok netmap ∧
      (poll.expired = false → since.getD 0 < poll.state.revision) := by
  induction polls with
  | nil => cases answered
  | cons poll rest ih =>
      unfold netmapLongpoll at answered
      cases allowed : readNode config headers poll.state nodeId with
      | error error =>
          rw [allowed] at answered
          cases answered
      | ok node =>
          rw [allowed] at answered
          dsimp only [Except.bind] at answered
          cases built : buildNetmap poll.state nodeId (relayOrNone config.relay)
              poll.draws.netmapNow poll.draws.generatedAt with
          | error error =>
              rw [built] at answered
              cases answered
          | ok shown =>
              rw [built] at answered
              dsimp only at answered
              by_cases returns : since.getD 0 < poll.state.revision ∨ poll.expired = true
              · rw [if_pos returns, Option.some.injEq, Except.ok.injEq] at answered
                subst answered
                refine ⟨poll, List.mem_cons_self, built, ?_⟩
                intro before
                rcases returns with past | expired
                · exact past
                · rw [before] at expired
                  cases expired
              · rw [if_neg returns] at answered
                obtain ⟨later, member, shownBy⟩ := ih answered
                exact ⟨later, List.mem_cons_of_mem _ member, shownBy⟩

theorem Ledger.shown_index {allowed : Nat → Edit → Prop} {world : Database}
    (inv : Ledger allowed world)
    (bounded : ∀ commit ∈ world.commits, commit.state.revision < 2 ^ 64 - 1) {state : State}
    (member : state ∈ world.reads) :
    ∃ index commit, world.commits[index]? = some commit ∧ commit.state = state ∧
      state.revision = index := by
  obtain ⟨commit, committed, same⟩ := inv.shown state member
  obtain ⟨index, found⟩ := List.getElem?_of_mem committed
  have counted := inv.chain.revision index commit found
  have below := bounded commit committed
  refine ⟨index, commit, found, same, ?_⟩
  rw [← same]
  omega

/-- Whatever the servers do and in whatever order, the committed states form one sequence:
the default state is inserted once, each later state is the one before under the closure that
its write was begun with, a closure that fails commits nothing, and every state a server reads
is one of them, with its number as revision. -/
theorem committed_states_serial (actions : List TxAction)
    (bounded : ∀ commit ∈ (exec Database.step Database.empty actions).commits,
      commit.state.revision < 2 ^ 64 - 1) :
    (∀ index commit,
      (exec Database.step Database.empty actions).commits[index]? = some commit →
        commit.state.revision = index ∧
        (index = 0 → commit.edit = none ∧ commit.state = State.default) ∧
        ∀ previous, index = previous + 1 → ∃ last edit left,
          (exec Database.step Database.empty actions).commits[previous]? = some last ∧
          commit.edit = some edit ∧ BegunWith actions commit.task edit ∧
          edit.run last.state = (.ok (), left) ∧
          commit.state = { left with revision := index }) ∧
    (∀ before after task, actions = before ++ .runClosure task :: after →
      (exec Database.step Database.empty before).closureFails task = true →
      ∀ commit ∈ (exec Database.step Database.empty actions).commits, commit.task ≠ task) ∧
    ((exec Database.step Database.empty actions).commits.map Commit.task).Nodup ∧
    (exec Database.step Database.empty actions).row =
      (exec Database.step Database.empty actions).commits.getLast?.map Commit.state ∧
    (∀ more, (exec Database.step Database.empty actions).commits <+:
      (exec Database.step Database.empty (actions ++ more)).commits) ∧
    (∀ state ∈ (exec Database.step Database.empty actions).reads, ∃ index commit,
      (exec Database.step Database.empty actions).commits[index]? = some commit ∧
      commit.state = state ∧ state.revision = index ∧
      ∀ nodeId relay now generatedAt netmap,
        buildNetmap state nodeId relay now generatedAt = .ok netmap →
          netmap.revision = index) ∧
    ∀ config headers nodeId since polls netmap,
      (∀ poll ∈ polls, poll.state ∈ (exec Database.step Database.empty actions).reads) →
      netmapLongpoll config headers nodeId since polls = some (.ok netmap) →
      ∃ poll ∈ polls, ∃ index commit,
        (exec Database.step Database.empty actions).commits[index]? = some commit ∧
        commit.state = poll.state ∧
        buildNetmap poll.state nodeId (relayOrNone config.relay) poll.draws.netmapNow
          poll.draws.generatedAt = .ok netmap ∧
        netmap.revision = index ∧ (poll.expired = false → since.getD 0 < index) := by
  have inv : Ledger (BegunWith actions) (exec Database.step Database.empty actions) :=
    run_ledger fun _ _ begun => begun
  refine ⟨?_, ?_, inv.once, inv.current, ?_, ?_, ?_⟩
  · intro index commit found
    have counted := inv.chain.revision index commit found
    have below := bounded commit (List.mem_of_getElem? found)
    have revision : commit.state.revision = index := by omega
    refine ⟨revision, ?_, ?_⟩
    · rintro rfl
      exact inv.chain.first commit found
    · rintro previous rfl
      have inside := (List.getElem?_eq_some_iff.mp found).1
      obtain ⟨last, lastAt⟩ : ∃ last,
          (exec Database.step Database.empty actions).commits[previous]? = some last :=
        ⟨_, List.getElem?_eq_getElem (by omega)⟩
      obtain ⟨edit, left, isEdit, ran, bumped⟩ :=
        inv.chain.next previous last commit lastAt found
      have begun := (inv.committed commit (List.mem_of_getElem? found)).2 edit isEdit
      refine ⟨last, edit, left, lastAt, isEdit, begun, ran, ?_⟩
      rw [← revision, bumped]
      rfl
  · intro before after task split fails
    exact uncommitted_of_closureFails split fails
  · intro more
    rw [exec_append]
    exact commits_exec _ more
  · intro state member
    obtain ⟨index, commit, found, same, revision⟩ := inv.shown_index bounded member
    refine ⟨index, commit, found, same, revision, ?_⟩
    intro nodeId relay now generatedAt netmap built
    exact (buildNetmap_revision built).trans revision
  · intro config headers nodeId since polls netmap seen answered
    obtain ⟨poll, member, built, past⟩ := netmapLongpoll_ok answered
    obtain ⟨index, commit, found, same, revision⟩ := inv.shown_index bounded (seen poll member)
    refine ⟨poll, member, index, commit, found, same, built,
      (buildNetmap_revision built).trans revision, ?_⟩
    intro before
    rw [← revision]
    exact past before

/-- Two servers start at once without an advisory lock, so that the second loses the race
for the key; then the first creates a network while the second waits for the row, and a
third call reads. -/
def sampleActions (edit : Edit) : List TxAction :=
  [.beginInit 0 false, .lockInit 0, .createTable 0, .checkRow 0 true,
    .beginInit 1 false, .lockInit 1, .createTable 1, .checkRow 1 true,
    .insertRow 0, .insertRow 1, .commitInit 0 true, .insertRow 1,
    .beginWrite 2 edit, .beginWrite 3 edit, .selectForUpdate 2, .selectForUpdate 3,
    .runClosure 2, .updateRow 2, .load, .commitWrite 2 true,
    .selectForUpdate 3, .runClosure 3, .load]

def sampleEdit : Edit :=
  (requestEdit sampleConfig (createSample 0)).get (by decide +kernel)

/-- The insertion and the network are committed; the second creation finds the network there
and commits nothing. -/
theorem sample_committed_states_serial :
    (exec Database.step Database.empty (sampleActions sampleEdit)).commits.length = 2 ∧
      (exec Database.step Database.empty (sampleActions sampleEdit)).reads.length = 2 ∧
      (∃ commit,
        (exec Database.step Database.empty (sampleActions sampleEdit)).commits[1]? = some commit ∧
        commit.state.revision = 1) ∧
      ∀ commit ∈ (exec Database.step Database.empty (sampleActions sampleEdit)).commits,
        commit.task ≠ 3 := by
  have bounded : ∀ commit ∈
      (exec Database.step Database.empty (sampleActions sampleEdit)).commits,
      commit.state.revision < 2 ^ 64 - 1 := by
    decide +kernel
  have two : (exec Database.step Database.empty (sampleActions sampleEdit)).commits.length = 2 := by
    decide +kernel
  have serial := committed_states_serial (sampleActions sampleEdit) bounded
  refine ⟨two, by decide +kernel, ⟨_, List.getElem?_eq_getElem (by omega), ?_⟩, ?_⟩
  · exact (serial.1 1 _ (List.getElem?_eq_getElem (by omega))).1
  · exact serial.2.1 ((sampleActions sampleEdit).take 21) [.load] 3 rfl (by decide +kernel)

end Lightscale.Storage
