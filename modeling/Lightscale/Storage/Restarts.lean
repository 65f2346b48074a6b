/-
A server with a state file that stops, or dies in the middle of a write, and is started again.

The file holds the state after the last request whose write of it was completed, and a start
reads it.  Requests come one after the other here.  A write that fails, or in which the process
dies, may have left the old file, a cut one or the new one.  The abstract server remembers two
states, the one it works on and the one it would come back with; the file server behaves like
it, whatever the order in which maps were read back.
-/

import Lightscale.Storage.StateFile

namespace Lightscale.Storage

open Foundation ControlPlane

/-! ### The server and its file -/

inductive Reached where
  | beforeOpening
  /-- The last `missing + 1` bytes are not written. -/
  | writing (missing : Nat)
  | afterwards

inductive ServerEvent where
  /-- A request, and how far the write it asks for comes if it fails. -/
  | request (call : Call) (reached : Reached)
  /-- The process ends between two requests and is started again. -/
  | restart
  /-- The process dies in the write a request asks for and is started again. -/
  | crash (call : Call) (reached : Reached)

def ServerEvent.call? : ServerEvent → Option Call
  | .request call _ => some call
  | .restart => none
  | .crash call _ => some call

/-- Whether the closure of a request succeeds, so that the store writes the file. -/
def writesFile (config : Config) (state : State) (call : Call) : Bool :=
  match requestEdit config call with
  | none => false
  | some edit => (edit.run state).1.isOk

def Reached.point (codec : Codec) (state : State) : Reached → CrashPoint
  | .beforeOpening => .unopened
  | .writing missing => .opened ((codec.toBytes state).length - (missing + 1))
  | .afterwards => .opened (codec.toBytes state).length

structure FileServer where
  memory : State
  disk : Disk

namespace FileServer

def start (codec : Codec) (path : String) (disk : Disk) : FileServer where
  memory := load codec disk (some path)
  disk := disk

def step (codec : Codec) (config : Config) (path : String) (server : FileServer) :
    ServerEvent → FileServer
  | .request call reached =>
      let memory := ControlPlane.step config server.memory call
      { memory := memory
        disk :=
          if writesFile config server.memory call then
            if call.draws.stored then persistFile codec (some path) memory server.disk
            else crashDisk codec path memory server.disk (reached.point codec memory)
          else server.disk }
  | .restart => start codec path server.disk
  | .crash call reached =>
      let memory := ControlPlane.step config server.memory call
      start codec path
        (if writesFile config server.memory call then
          crashDisk codec path memory server.disk (reached.point codec memory)
        else server.disk)

end FileServer

/-! ### The abstract server -/

/-- A server that knows the state it would come back with. -/
structure KeptServer where
  current : State
  saved : State

namespace KeptServer

def initial : KeptServer := ⟨State.default, State.default⟩

def start (saved : State) : KeptServer := ⟨saved, saved⟩

/-- What survives a write of `next` over `saved` that is not completed. -/
def survivor (saved next : State) : Reached → State
  | .beforeOpening => saved
  | .writing _ => State.default
  | .afterwards => next

def step (config : Config) (server : KeptServer) : ServerEvent → KeptServer
  | .request call reached =>
      let current := ControlPlane.step config server.current call
      { current := current
        saved :=
          if writesFile config server.current call then
            if call.draws.stored then current else survivor server.saved current reached
          else server.saved }
  | .restart => start server.saved
  | .crash call reached =>
      start
        (if writesFile config server.current call then
          survivor server.saved (ControlPlane.step config server.current call) reached
        else server.saved)

end KeptServer

/-! ### The file server behaves like the abstract one -/

theorem sameEntry_inRange {left right : AuditEntry} (same : SameEntry left right)
    (inRange : right.InRange) : left.InRange := by
  have timestamp := congrArg AuditEntry.timestamp same.fields
  dsimp only at timestamp
  have detail := same.detail
  refine ⟨timestamp ▸ inRange.timestamp, ?_, ?_⟩
  · intro pairs given pair member
    rw [Option.mem_def.mp given] at detail
    cases other : right.detail with
    | none => rw [other] at detail; cases detail
    | some others =>
        rw [other] at detail
        cases detail with
        | some alike => exact inRange.values others other pair (alike.subset member)
  · intro pairs given
    rw [Option.mem_def.mp given] at detail
    cases other : right.detail with
    | none => rw [other] at detail; cases detail
    | some others =>
        rw [other] at detail
        cases detail with
        | some alike => exact (alike.map Prod.fst).nodup_iff.mpr (inRange.keys others other)

theorem sameState_inRange {left right : State} (same : SameState left right)
    (inRange : right.InRange) : left.InRange where
  version := same.version ▸ inRange.version
  revision := same.revision ▸ inRange.revision
  networks key network found := inRange.networks key network ((same.networks key).symm.trans found)
  nodes key node found := inRange.nodes key node ((same.nodes key).symm.trans found)
  tokens key token found := inRange.tokens key token ((same.tokens key).symm.trans found)
  auditLog := by
    have log := same.auditLog
    have fits := inRange.auditLog
    generalize left.auditLog = entries at log ⊢
    generalize right.auditLog = others at log fits
    induction log with
    | nil => exact List.forall_mem_nil _
    | cons head tail ih =>
        rw [List.forall_mem_cons] at fits ⊢
        exact ⟨sameEntry_inRange head fits.1, ih fits.2⟩

theorem writesFile_same (config : Config) (call : Call) {left right : State}
    (same : SameState left right) : writesFile config left call = writesFile config right call := by
  unfold writesFile
  cases found : requestEdit config call with
  | none => rfl
  | some edit =>
      have outcome := ((closure_of_requestEdit found).same same).answer
      dsimp only
      generalize (edit.run left).1 = first at outcome
      generalize (edit.run right).1 = second at outcome
      cases outcome with
      | ok holds => rfl
      | error alike => rfl

theorem survivor_same {saved left right : State} (same : SameState left right)
    (reached : Reached) :
    SameState (KeptServer.survivor saved left reached)
      (KeptServer.survivor saved right reached) := by
  cases reached with
  | beforeOpening => exact .refl _
  | writing missing => exact .refl _
  | afterwards => exact same

theorem survivor_inRange {saved next : State} (before : saved.InRange) (after : next.InRange)
    (reached : Reached) : (KeptServer.survivor saved next reached).InRange := by
  cases reached with
  | beforeOpening => exact before
  | writing missing => exact State.default_inRange
  | afterwards => exact after

structure Follows (codec : Codec) (path : String) (server : FileServer) (kept : KeptServer) :
    Prop where
  memory : SameState server.memory kept.current
  disk : SameState (load codec server.disk (some path)) kept.saved
  inRange : kept.current.InRange
  savedInRange : kept.saved.InRange

theorem follows_start {codec : Codec} {path : String} {disk : Disk} {saved : State}
    (same : SameState (load codec disk (some path)) saved) (inRange : saved.InRange) :
    Follows codec path (.start codec path disk) (.start saved) :=
  ⟨same, same, inRange, inRange⟩

section

variable {codec : Codec} (faithful : codec.Faithful)

include faithful

theorem load_unfinished {saved next : State} (inRange : next.InRange) {path : String}
    {disk : Disk} (same : SameState (load codec disk (some path)) saved) (reached : Reached) :
    SameState
      (load codec (crashDisk codec path next disk (reached.point codec next)) (some path))
      (KeptServer.survivor saved next reached) := by
  cases reached with
  | beforeOpening => exact same
  | writing missing =>
      have positive := List.length_pos_iff.mpr (faithful.toBytes_ne_nil inRange)
      rw [Reached.point, load_crashDisk_short faithful path inRange disk (by omega)]
      exact .refl _
  | afterwards =>
      rw [Reached.point, crashDisk_complete codec path next disk _ (Nat.le_refl _)]
      exact load_persistFile faithful path inRange disk

theorem Follows.step {config : Config} {path : String} {server : FileServer} {kept : KeptServer}
    (follows : Follows codec path server kept) (event : ServerEvent)
    (fits : ∀ call ∈ event.call?, call.InRange) :
    Follows codec path (server.step codec config path event) (kept.step config event) := by
  -- What a write that was not completed leaves for the next start, for both kinds of event.
  have unfinished : ∀ call : Call, call.InRange → ∀ reached : Reached,
      let memory := ControlPlane.step config server.memory call
      let survives := KeptServer.survivor kept.saved (ControlPlane.step config kept.current call)
        reached
      SameState (load codec (crashDisk codec path memory server.disk
        (reached.point codec memory)) (some path)) survives ∧ survives.InRange := by
    intro call callFits reached
    have memory := step_same follows.memory config call
    have inRange : (ControlPlane.step config kept.current call).InRange :=
      step_inRange follows.inRange callFits
    have read := load_unfinished faithful (sameState_inRange memory inRange) follows.disk reached
    exact ⟨read.trans (survivor_same memory reached),
      survivor_inRange follows.savedInRange inRange reached⟩
  cases event with
  | restart => exact follows_start follows.disk follows.savedInRange
  | request call reached =>
      have memory := step_same follows.memory config call
      have inRange : (ControlPlane.step config kept.current call).InRange :=
        step_inRange follows.inRange (fits call rfl)
      simp only [FileServer.step, KeptServer.step, writesFile_same config call follows.memory]
      cases writesFile config kept.current call with
      | false => exact ⟨memory, follows.disk, inRange, follows.savedInRange⟩
      | true =>
          cases call.draws.stored with
          | true =>
              have fitsTypes := sameState_inRange memory inRange
              have written := load_persistFile faithful path fitsTypes server.disk
              exact ⟨memory, written.trans memory, inRange, inRange⟩
          | false =>
              obtain ⟨read, savedInRange⟩ := unfinished call (fits call rfl) reached
              exact ⟨memory, read, inRange, savedInRange⟩
  | crash call reached =>
      simp only [FileServer.step, KeptServer.step, writesFile_same config call follows.memory]
      cases writesFile config kept.current call with
      | false => exact follows_start follows.disk follows.savedInRange
      | true =>
          obtain ⟨read, savedInRange⟩ := unfinished call (fits call rfl) reached
          exact follows_start read savedInRange

end

/-- The requests of a run in which every write is completed or fails before the file is
opened. -/
inductive Calm : List ServerEvent → List Call → Prop
  | nil : Calm [] []
  | request {events : List ServerEvent} {calls : List Call} (calm : Calm events calls)
      (call : Call) : Calm (events ++ [.request call .beforeOpening]) (calls ++ [call])
  | restart {events : List ServerEvent} {calls : List Call} (calm : Calm events calls) :
      Calm (events ++ [.restart]) calls

theorem Calm.calls {events : List ServerEvent} {calls : List Call} (calm : Calm events calls) :
    events.filterMap ServerEvent.call? = calls := by
  induction calm with
  | nil => rfl
  | request calm call ih =>
      rw [List.filterMap_append, ih]
      rfl
  | restart calm ih =>
      rw [List.filterMap_append, ih]
      exact List.append_nil _

end Lightscale.Storage
