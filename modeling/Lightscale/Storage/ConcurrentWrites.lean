/-
Concurrent writes to the file backend.

A write takes the lock and runs its closure on the shared state, advances the
revision and clones a snapshot, drops the lock, and writes the snapshot to the file
afterwards.  The lock orders the snapshots but not the file writes.  The file ends
up behind the shared state when an older snapshot is written over the newest one.
-/

import Lightscale.Storage.StateFile

namespace Lightscale.Storage

open Foundation ControlPlane

/-! ### Tasks and their steps -/

/-- Where one call of `write` stands. -/
inductive Phase where
  /-- The closure has succeeded; the task holds the lock. -/
  | editing
  /-- The snapshot has been cloned; the task still holds the lock. -/
  | cloned (snapshot : State)
  /-- The lock has been dropped; the file has not been written. -/
  | persisting (snapshot : State)
  | returned (ok : Bool)

structure World where
  memory : State
  disk : Disk
  lock : Option Nat
  tasks : Table Nat Phase

def World.start (codec : Codec) (path : String) (disk : Disk) : World where
  memory := load codec disk (some path)
  disk := disk
  lock := none
  tasks := ∅

inductive Action where
  | acquire (task : Nat) (closure : Handler Unit)
  | snapshot (task : Nat)
  | release (task : Nat)
  | persist (task : Nat) (accepted : Bool)

/-- One step of one task.  An action that is not enabled changes nothing. -/
def World.step (codec : Codec) (path : String) (world : World) : Action → World
  | .acquire task closure =>
      match world.lock, world.tasks.lookup task with
      | none, none =>
          match closure world.memory with
          | (.error _, left) =>
              { world with
                memory := left
                tasks := world.tasks.insert task (.returned false) }
          | (.ok _, left) =>
              { world with
                memory := left
                lock := some task
                tasks := world.tasks.insert task .editing }
      | _, _ => world
  | .snapshot task =>
      match world.tasks.lookup task with
      | some .editing =>
          { world with
            memory := world.memory.bump
            tasks := world.tasks.insert task (.cloned world.memory.bump) }
      | _ => world
  | .release task =>
      match world.tasks.lookup task with
      | some (.cloned snapshot) =>
          { world with
            lock := none
            tasks := world.tasks.insert task (.persisting snapshot) }
      | _ => world
  | .persist task accepted =>
      match world.tasks.lookup task with
      | some (.persisting snapshot) =>
          { world with
            disk := if accepted then persistFile codec (some path) snapshot world.disk
              else world.disk
            tasks := world.tasks.insert task (.returned accepted) }
      | _ => world

def World.Quiescent (world : World) : Prop :=
  ∀ task phase, world.tasks.lookup task = some phase → ∃ ok, phase = .returned ok

/-- A write that nobody interrupts edits the shared state as the store of the
request handlers does. -/
theorem memory_of_uninterrupted_write (codec : Codec) (path : String) (world : World)
    (task : Nat) (closure : Handler Unit) (accepted : Bool) (unlocked : world.lock = none)
    (fresh : world.tasks.lookup task = none) :
    (exec (World.step codec path) world
      [.acquire task closure, .snapshot task, .release task, .persist task accepted]).memory =
      (Backend.file.write accepted closure world.memory).2 := by
  change (World.step codec path (World.step codec path (World.step codec path
    (World.step codec path world (.acquire task closure)) (.snapshot task)) (.release task))
    (.persist task accepted)).memory = _
  rcases ran : closure world.memory with ⟨result, left⟩
  cases result with
  | error error =>
      simp only [World.step, unlocked, fresh, ran, AList.lookup_insert, Backend.write]
  | ok value =>
      simp only [World.step, unlocked, fresh, ran, AList.lookup_insert, Backend.write]
      cases accepted <;> rfl

/-! ### The order of the file writes -/

/-- Whether the task will still bring the given state to the file. -/
def Phase.Carries (memory : State) : Phase → Prop
  | .editing => True
  | .cloned snapshot => snapshot = memory
  | .persisting snapshot => snapshot = memory
  | .returned _ => False

/-- A failing closure leaves the state as it was, and a snapshot that is not the
current state is written only while another task still has the current one to
write. -/
def KeepsOrder (world : World) : Action → Prop
  | .acquire _ closure =>
      ∀ error left, closure world.memory = (.error error, left) → left = world.memory
  | .persist task _ =>
      ∀ snapshot, world.tasks.lookup task = some (.persisting snapshot) →
        snapshot = world.memory ∨
          ∃ other phase, other ≠ task ∧ world.tasks.lookup other = some phase ∧
            phase.Carries world.memory
  | _ => True

def KeepsRange : Action → Prop
  | .acquire _ closure => ∀ state : State, state.InRange → (closure state).2.InRange
  | _ => True

def Phase.snapshot? : Phase → Option State
  | .cloned snapshot => some snapshot
  | .persisting snapshot => some snapshot
  | _ => none

structure World.InRange (world : World) : Prop where
  memory : world.memory.InRange
  snapshots : ∀ task phase, world.tasks.lookup task = some phase →
    ∀ snapshot ∈ phase.snapshot?, snapshot.InRange

theorem World.InRange.enter {world : World} (inRange : world.InRange) {memory : State}
    (fits : memory.InRange) {disk : Disk} {lock : Option Nat} (task : Nat) {phase : Phase}
    (snapshots : ∀ snapshot ∈ phase.snapshot?, snapshot.InRange) :
    World.InRange
      { memory := memory, disk := disk, lock := lock, tasks := world.tasks.insert task phase } := by
  refine ⟨fits, ?_⟩
  intro other entered found
  change (world.tasks.insert task phase).lookup other = some entered at found
  rw [Table.lookup_insert_eq] at found
  split at found
  · cases found
    exact snapshots
  · exact inRange.snapshots other entered found

theorem World.InRange.step {world : World} (inRange : world.InRange) {action : Action}
    (keeps : KeepsRange action) (codec : Codec) (path : String) :
    (World.step codec path world action).InRange := by
  cases action with
  | acquire task closure =>
      have left := keeps world.memory inRange.memory
      dsimp only [World.step]
      split
      · split
        · rename_i ran
          rw [ran] at left
          exact inRange.enter left task nofun
        · rename_i ran
          rw [ran] at left
          exact inRange.enter left task nofun
      · exact inRange
  | snapshot task =>
      dsimp only [World.step]
      split
      · refine inRange.enter inRange.memory.bump task ?_
        rintro _ ⟨⟩
        exact inRange.memory.bump
      · exact inRange
  | release task =>
      dsimp only [World.step]
      split
      · rename_i snapshot atTask
        refine inRange.enter inRange.memory task ?_
        exact inRange.snapshots task (.cloned snapshot) atTask
      · exact inRange
  | persist task accepted =>
      dsimp only [World.step]
      split
      · exact inRange.enter inRange.memory task nofun
      · exact inRange

structure StoreInvariant (codec : Codec) (path : String) (world : World) : Prop where
  editingLocks : ∀ task, world.tasks.lookup task = some .editing → world.lock = some task
  clonedLocks : ∀ task snapshot, world.tasks.lookup task = some (.cloned snapshot) →
    world.lock = some task ∧ snapshot = world.memory
  current : SameState (load codec world.disk (some path)) world.memory ∨
    ∃ task phase, world.tasks.lookup task = some phase ∧ phase.Carries world.memory

theorem storeInvariant_start (codec : Codec) (path : String) (disk : Disk) :
    StoreInvariant codec path (World.start codec path disk) := by
  refine ⟨?_, ?_, Or.inl (.refl _)⟩
  · intro task found
    cases found
  · intro task snapshot found
    cases found

section

variable {codec : Codec} {path : String} {world : World} {task : Nat}

theorem StoreInvariant.not_locked (inv : StoreInvariant codec path world)
    (unlocked : world.lock = none) (other : Nat) :
    world.tasks.lookup other ≠ some .editing ∧
      ∀ snapshot, world.tasks.lookup other ≠ some (.cloned snapshot) := by
  constructor
  · intro found
    have locked := inv.editingLocks other found
    rw [unlocked] at locked
    cases locked
  · intro snapshot found
    have locked := (inv.clonedLocks other snapshot found).1
    rw [unlocked] at locked
    cases locked

theorem StoreInvariant.acquire_error (inv : StoreInvariant codec path world)
    (fresh : world.tasks.lookup task = none) :
    StoreInvariant codec path
      { world with tasks := world.tasks.insert task (.returned false) } := by
  refine ⟨?_, ?_, ?_⟩
  · intro other found
    exact inv.editingLocks other (Table.lookup_of_lookup_insert found nofun).2
  · intro other snapshot found
    exact inv.clonedLocks other snapshot (Table.lookup_of_lookup_insert found nofun).2
  · rcases inv.current with stored | ⟨other, phase, found, carries⟩
    · exact Or.inl stored
    · have different : other ≠ task := by
        intro same
        rw [same, fresh] at found
        cases found
      refine Or.inr ⟨other, phase, ?_, carries⟩
      change (world.tasks.insert task (.returned false)).lookup other = some phase
      rw [Table.lookup_insert_eq, if_neg different]
      exact found

theorem StoreInvariant.acquire_ok (inv : StoreInvariant codec path world)
    (unlocked : world.lock = none) (left : State) :
    StoreInvariant codec path
      { world with
        memory := left
        lock := some task
        tasks := world.tasks.insert task .editing } := by
  refine ⟨?_, ?_, ?_⟩
  · intro other found
    change (world.tasks.insert task .editing).lookup other = _ at found
    rw [Table.lookup_insert_eq] at found
    split at found
    · rename_i same
      rw [same]
    · exact absurd found (inv.not_locked unlocked other).1
  · intro other snapshot found
    exact absurd (Table.lookup_of_lookup_insert found nofun).2
      ((inv.not_locked unlocked other).2 snapshot)
  · refine Or.inr ⟨task, .editing, ?_, trivial⟩
    exact AList.lookup_insert world.tasks

theorem StoreInvariant.snapshot (inv : StoreInvariant codec path world)
    (atTask : world.tasks.lookup task = some .editing) :
    StoreInvariant codec path
      { world with
        memory := world.memory.bump
        tasks := world.tasks.insert task (.cloned world.memory.bump) } := by
  have holder := inv.editingLocks task atTask
  refine ⟨?_, ?_, ?_⟩
  · intro other found
    exact inv.editingLocks other (Table.lookup_of_lookup_insert found nofun).2
  · intro other snapshot found
    change (world.tasks.insert task (.cloned world.memory.bump)).lookup other = _ at found
    rw [Table.lookup_insert_eq] at found
    split at found
    · rename_i same
      cases found
      exact ⟨holder.trans (congrArg some same.symm), rfl⟩
    · rename_i different
      -- Another task in this phase would hold the same lock.
      have locked := (inv.clonedLocks other snapshot found).1
      rw [holder, Option.some.injEq] at locked
      exact absurd locked.symm different
  · refine Or.inr ⟨task, .cloned world.memory.bump, ?_, rfl⟩
    exact AList.lookup_insert world.tasks

theorem StoreInvariant.release (inv : StoreInvariant codec path world) {snapshot : State}
    (atTask : world.tasks.lookup task = some (.cloned snapshot)) :
    StoreInvariant codec path
      { world with
        lock := none
        tasks := world.tasks.insert task (.persisting snapshot) } := by
  obtain ⟨holder, isCurrent⟩ := inv.clonedLocks task snapshot atTask
  refine ⟨?_, ?_, ?_⟩
  · intro other found
    obtain ⟨different, old⟩ := Table.lookup_of_lookup_insert found nofun
    have locked := inv.editingLocks other old
    rw [holder, Option.some.injEq] at locked
    exact absurd locked.symm different
  · intro other cloned found
    obtain ⟨different, old⟩ := Table.lookup_of_lookup_insert found nofun
    have locked := (inv.clonedLocks other cloned old).1
    rw [holder, Option.some.injEq] at locked
    exact absurd locked.symm different
  · refine Or.inr ⟨task, .persisting snapshot, ?_, isCurrent⟩
    exact AList.lookup_insert world.tasks

theorem StoreInvariant.persist (faithful : codec.Faithful)
    (inv : StoreInvariant codec path world) {snapshot : State} (inRange : snapshot.InRange)
    (ordered : snapshot = world.memory ∨
      ∃ other phase, other ≠ task ∧ world.tasks.lookup other = some phase ∧
        phase.Carries world.memory) :
    StoreInvariant codec path
      { world with
        disk := persistFile codec (some path) snapshot world.disk
        tasks := world.tasks.insert task (.returned true) } := by
  refine ⟨?_, ?_, ?_⟩
  · intro other found
    exact inv.editingLocks other (Table.lookup_of_lookup_insert found nofun).2
  · intro other cloned found
    exact inv.clonedLocks other cloned (Table.lookup_of_lookup_insert found nofun).2
  · rcases ordered with isCurrent | ⟨other, phase, different, found, carries⟩
    · refine Or.inl ?_
      rw [isCurrent] at inRange ⊢
      exact load_persistFile faithful path inRange world.disk
    · refine Or.inr ⟨other, phase, ?_, carries⟩
      change (world.tasks.insert task (.returned true)).lookup other = some phase
      rw [Table.lookup_insert_eq, if_neg different]
      exact found

end

theorem storeInvariant_step {codec : Codec} (faithful : codec.Faithful) {path : String}
    {world : World} {action : Action} (ordered : KeepsOrder world action)
    (accepted : ∀ task, action ≠ .persist task false) (inRange : world.InRange)
    (inv : StoreInvariant codec path world) :
    StoreInvariant codec path (World.step codec path world action) := by
  cases action with
  | acquire task closure =>
      dsimp only [World.step]
      split
      · rename_i unlocked fresh
        split
        · rename_i error left ran
          have same := ordered error left ran
          subst same
          exact inv.acquire_error fresh
        · rename_i value left ran
          exact inv.acquire_ok unlocked left
      · exact inv
  | snapshot task =>
      dsimp only [World.step]
      split
      · rename_i atTask
        exact inv.snapshot atTask
      · exact inv
  | release task =>
      dsimp only [World.step]
      split
      · rename_i snapshot atTask
        exact inv.release atTask
      · exact inv
  | persist task result =>
      cases result with
      | false => exact absurd rfl (accepted task)
      | true =>
          dsimp only [World.step]
          split
          · rename_i snapshot atTask
            have fits := inRange.snapshots task (.persisting snapshot) atTask snapshot rfl
            exact inv.persist faithful fits (ordered snapshot atTask)
          · exact inv

/-- If failing closures change nothing and no older snapshot is written over the
newest one, then whenever no write is in flight the file holds the shared state. -/
theorem file_holds_memory_when_ordered (codec : Codec) (faithful : codec.Faithful)
    (path : String) (disk : Disk) (loaded : (load codec disk (some path)).InRange)
    (actions : List Action) (typed : ∀ action ∈ actions, KeepsRange action)
    (accepted : ∀ action ∈ actions, ∀ task, action ≠ .persist task false)
    (ordered : ∀ event ∈ trace (World.step codec path) (World.start codec path disk) actions,
      KeepsOrder event.before event.input)
    (quiescent :
      (exec (World.step codec path) (World.start codec path disk) actions).Quiescent) :
    SameState
      (load codec (exec (World.step codec path) (World.start codec path disk) actions).disk
        (some path))
      (exec (World.step codec path) (World.start codec path disk) actions).memory := by
  have start : (World.start codec path disk).InRange := ⟨loaded, nofun⟩
  have inv := exec_invariant_when (World.step codec path)
    (fun world action => KeepsOrder world action ∧ (∀ task, action ≠ .persist task false) ∧
      KeepsRange action)
    (fun world => StoreInvariant codec path world ∧ world.InRange)
    (fun world action met inv => ⟨storeInvariant_step faithful met.1 met.2.1 inv.2 inv.1,
      inv.2.step met.2.2 codec path⟩)
    (World.start codec path disk) ⟨storeInvariant_start codec path disk, start⟩ actions
    (by
      intro event member
      have asked := input_of_mem_trace (World.step codec path) member
      exact ⟨ordered event member, accepted _ asked, typed _ asked⟩)
  rcases inv.1.current with stored | ⟨task, phase, found, carries⟩
  · exact stored
  · obtain ⟨ok, isReturned⟩ := quiescent task phase found
    rw [isReturned] at carries
    exact absurd carries id

def sampleCreate : Handler Unit :=
  (check (planNetwork sampleExternals (sampleDraws 0 "net") sampleNetworkRequest)
    fun planned => createNetworkWrite sampleExternals (sampleDraws 0 "net")
      sampleNetworkRequest planned).respond fun _ => ()

def sampleRegister : Handler Unit :=
  (registerWrite sampleExternals (sampleDraws 1 "a") (sampleRegisterRequest "a" "alpha")
    "alpha").respond fun _ => ()

/-- Both writes have dropped the lock before either writes the file. -/
def overlapping (first second : Handler Unit) : List Action :=
  [.acquire 1 first, .snapshot 1, .release 1, .acquire 2 second, .snapshot 2, .release 2]

def bothPersisting (disk : Disk) (older newer : State) : World where
  memory := newer
  disk := disk
  lock := none
  tasks := ((((((∅ : Table Nat Phase).insert 1 .editing).insert 1 (.cloned older)).insert 1
    (.persisting older)).insert 2 .editing).insert 2 (.cloned newer)).insert 2
    (.persisting newer)

section

variable {codec : Codec} {path : String} {disk : Disk} {first second : Handler Unit}
  {older newer : State}

theorem exec_overlapping
    (ranFirst : first (load codec disk (some path)) = (.ok (), older))
    (ranSecond : second older.bump = (.ok (), newer)) :
    exec (World.step codec path) (World.start codec path disk) (overlapping first second) =
      bothPersisting disk older.bump newer.bump := by
  have twoNeOne : (2 : Nat) ≠ 1 := by decide
  simp only [exec, overlapping, List.foldl_cons, List.foldl_nil, World.step, World.start,
    ranFirst, ranSecond, AList.lookup_empty, AList.lookup_insert,
    AList.lookup_insert_ne twoNeOne, bothPersisting]

theorem keepsOrder_overlapping
    (ranFirst : first (load codec disk (some path)) = (.ok (), older))
    (ranSecond : second older.bump = (.ok (), newer)) :
    ∀ event ∈ trace (World.step codec path) (World.start codec path disk)
      (overlapping first second), KeepsOrder event.before event.input := by
  have twoNeOne : (2 : Nat) ≠ 1 := by decide
  simp only [overlapping, trace, eventAt, List.forall_mem_cons, World.step, World.start,
    ranFirst, ranSecond, AList.lookup_empty, AList.lookup_insert,
    AList.lookup_insert_ne twoNeOne, KeepsOrder, true_and]
  refine ⟨?_, ?_, List.forall_mem_nil _⟩
  · intro error left failed
    cases failed
  · intro error left failed
    cases failed

theorem keepsOrder_persist_both :
    ∀ event ∈ trace (World.step codec path) (bothPersisting disk older newer)
      [.persist 1 true, .persist 2 true], KeepsOrder event.before event.input := by
  have oneNeTwo : (1 : Nat) ≠ 2 := by decide
  have twoNeOne : (2 : Nat) ≠ 1 := by decide
  simp only [trace, eventAt, List.forall_mem_cons, World.step, bothPersisting,
    AList.lookup_insert, AList.lookup_insert_ne twoNeOne, AList.lookup_insert_ne oneNeTwo,
    KeepsOrder]
  refine ⟨?_, ?_, List.forall_mem_nil _⟩
  · intro snapshot found
    refine Or.inr ⟨2, .persisting newer, twoNeOne, ?_, rfl⟩
    rw [AList.lookup_insert]
  · intro snapshot found
    cases found
    exact Or.inl rfl

theorem lookup_persist {world : World} {task : Nat} {snapshot : State}
    (atTask : world.tasks.lookup task = some (.persisting snapshot)) (key : Nat) :
    (World.step codec path world (.persist task true)).tasks.lookup key =
      if key = task then some (.returned true) else world.tasks.lookup key := by
  simp only [World.step, atTask]
  exact Table.lookup_insert_eq world.tasks task key (.returned true)

theorem quiescent_after_both {world : World} {one two : Nat} {left right : State}
    (different : two ≠ one) (atOne : world.tasks.lookup one = some (.persisting left))
    (atTwo : world.tasks.lookup two = some (.persisting right))
    (only : ∀ task phase, world.tasks.lookup task = some phase → task = one ∨ task = two) :
    (exec (World.step codec path) world [.persist one true, .persist two true]).Quiescent := by
  intro task phase found
  change (World.step codec path (World.step codec path world (.persist one true))
    (.persist two true)).tasks.lookup task = some phase at found
  have stillTwo : (World.step codec path world (.persist one true)).tasks.lookup two =
      some (.persisting right) := by
    rw [lookup_persist atOne, if_neg different, atTwo]
  rw [lookup_persist stillTwo, lookup_persist atOne] at found
  by_cases isTwo : task = two
  · rw [if_pos isTwo, Option.some.injEq] at found
    exact ⟨true, found.symm⟩
  · rw [if_neg isTwo] at found
    by_cases isOne : task = one
    · rw [if_pos isOne, Option.some.injEq] at found
      exact ⟨true, found.symm⟩
    · rw [if_neg isOne] at found
      rcases only task phase found with same | same
      · exact absurd same isOne
      · exact absurd same isTwo

theorem lookup_bothPersisting :
    (bothPersisting disk older newer).tasks.lookup 1 = some (.persisting older) ∧
      (bothPersisting disk older newer).tasks.lookup 2 = some (.persisting newer) ∧
      ∀ task phase, (bothPersisting disk older newer).tasks.lookup task = some phase →
        task = 1 ∨ task = 2 := by
  refine ⟨rfl, rfl, ?_⟩
  intro task phase found
  by_cases isOne : task = 1
  · exact Or.inl isOne
  · by_cases isTwo : task = 2
    · exact Or.inr isTwo
    · simp only [bothPersisting, AList.lookup_insert_ne isOne, AList.lookup_insert_ne isTwo,
        AList.lookup_empty, reduceCtorEq] at found

/-- Two overlapping writes that reach the file in the wrong order leave the older
snapshot there. -/
theorem load_of_reversed_writes (faithful : codec.Faithful) (inRange : older.InRange)
    (ranFirst : first (load codec disk (some path)) = (.ok (), older))
    (ranSecond : second older.bump = (.ok (), newer)) :
    SameState (load codec (exec (World.step codec path) (World.start codec path disk)
        (overlapping first second ++ [.persist 2 true, .persist 1 true])).disk (some path))
        older.bump ∧
      (exec (World.step codec path) (World.start codec path disk)
        (overlapping first second ++ [.persist 2 true, .persist 1 true])).memory =
        newer.bump := by
  have oneNeTwo : (1 : Nat) ≠ 2 := by decide
  rw [exec_append, exec_overlapping ranFirst ranSecond]
  simp only [exec, List.foldl_cons, List.foldl_nil, World.step, bothPersisting,
    AList.lookup_insert, AList.lookup_insert_ne oneNeTwo, if_true, and_true]
  exact load_persistFile faithful path inRange.bump _

end

theorem sampleCreate_ok :
    sampleCreate (load jsonCodec (fun _ => none) (some "state.json")) =
      (.ok (), (sampleCreate State.default).2) :=
  Prod.ext (show (sampleCreate State.default).1 = .ok () by decide +kernel) rfl

theorem sampleRegister_ok :
    sampleRegister (sampleCreate State.default).2.bump =
      (.ok (), (sampleRegister (sampleCreate State.default).2.bump).2) :=
  Prod.ext (show (sampleRegister (sampleCreate State.default).2.bump).1 = .ok () by
    decide +kernel) rfl

theorem sampleDraws_inRange : (sampleDraws 0 "net").InRange ∧ (sampleDraws 1 "a").InRange :=
  ⟨⟨by decide, by decide, by decide⟩, ⟨by decide, by decide, by decide⟩⟩

theorem sampleCreate_inRange {state : State} (inRange : state.InRange) :
    (sampleCreate state).2.InRange := by
  unfold sampleCreate Handler.respond check
  cases plan : planNetwork sampleExternals (sampleDraws 0 "net") sampleNetworkRequest with
  | error error => exact inRange
  | ok planned =>
      refine createNetworkWrite_inRange inRange sampleDraws_inRange.1 ?_ ?_ plan
      · intro seconds given
        cases given
      · intro uses given
        cases given
        decide

theorem sampleRegister_inRange {state : State} (inRange : state.InRange) :
    (sampleRegister state).2.InRange :=
  registerWrite_inRange inRange sampleDraws_inRange.2 _ _ _

def sampleWorld (persists : List Action) : World :=
  exec (World.step jsonCodec "state.json")
    (World.start jsonCodec "state.json" fun _ => none)
    (overlapping sampleCreate sampleRegister ++ persists)

theorem sample_file_holds_memory :
    SameState
      (load jsonCodec (sampleWorld [.persist 1 true, .persist 2 true]).disk (some "state.json"))
      (sampleWorld [.persist 1 true, .persist 2 true]).memory := by
  refine file_holds_memory_when_ordered jsonCodec jsonCodec_faithful "state.json"
    (fun _ => none) State.default_inRange _ ?_ ?_ ?_ ?_
  · intro action member
    simp only [overlapping, List.cons_append, List.nil_append, List.mem_cons,
      List.not_mem_nil, or_false] at member
    rcases member with rfl | rfl | rfl | rfl | rfl | rfl | rfl | rfl
    · exact fun _ => sampleCreate_inRange
    · trivial
    · trivial
    · exact fun _ => sampleRegister_inRange
    · trivial
    · trivial
    · trivial
    · trivial
  · intro action member task same
    subst same
    simp only [overlapping, List.cons_append, List.nil_append, List.mem_cons, reduceCtorEq,
      Action.persist.injEq, Bool.false_eq_true, and_false, List.not_mem_nil, or_self] at member
  · intro event member
    rw [trace_append, exec_overlapping sampleCreate_ok sampleRegister_ok] at member
    rcases List.mem_append.mp member with early | late
    · exact keepsOrder_overlapping sampleCreate_ok sampleRegister_ok event early
    · exact keepsOrder_persist_both event late
  · rw [exec_append, exec_overlapping sampleCreate_ok sampleRegister_ok]
    obtain ⟨atOne, atTwo, only⟩ := lookup_bothPersisting
    exact quiescent_after_both (by decide) atOne atTwo only

/-- Two acknowledged writes, with the older snapshot written last: the file has lost
the node that the second write registered. -/
theorem older_snapshot_overwrites_newer :
    (sampleWorld [.persist 2 true, .persist 1 true]).Quiescent ∧
    (sampleWorld [.persist 2 true, .persist 1 true]).tasks.lookup 2 = some (.returned true) ∧
    ((sampleWorld [.persist 2 true, .persist 1 true]).memory.nodes.lookup "a").isSome = true ∧
    (load jsonCodec (sampleWorld [.persist 2 true, .persist 1 true]).disk
      (some "state.json")).nodes.lookup "a" = none := by
  have final := load_of_reversed_writes jsonCodec_faithful
    (sampleCreate_inRange State.default_inRange) sampleCreate_ok sampleRegister_ok
  obtain ⟨atOne, atTwo, only⟩ := lookup_bothPersisting
  refine ⟨?_, ?_, ?_, ?_⟩
  · unfold sampleWorld
    rw [exec_append, exec_overlapping sampleCreate_ok sampleRegister_ok]
    exact quiescent_after_both (by decide) atTwo atOne
      (fun task phase found => (only task phase found).symm)
  · unfold sampleWorld
    rw [exec_append, exec_overlapping sampleCreate_ok sampleRegister_ok]
    rfl
  · unfold sampleWorld
    rw [final.2]
    decide +kernel
  · unfold sampleWorld
    rw [final.1.nodes "a"]
    decide +kernel

end Lightscale.Storage
