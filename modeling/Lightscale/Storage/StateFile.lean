/-
The state file: how it is read at startup, and what a crash in the middle of a
write leaves of it.

The JSON encoder and decoder and the UTF-8 check come from libraries and enter as
a codec.  Reading falls back to the empty default state twice: when the file cannot
be read as text, and when the text does not parse.  Writing opens the file, which
truncates it, and then writes the text from its first byte on.
-/

import Lightscale.Storage.StateJson

namespace Lightscale.Storage

open Foundation ControlPlane

abbrev Disk := String → Option (List UInt8)

/-! ### Loading and persisting -/

def readToString (codec : Codec) (disk : Disk) (path : String) : Option String :=
  (disk path).bind codec.utf8

/-- A file that cannot be read counts as the default state; a file that does not
parse is an error. -/
def loadState (codec : Codec) (disk : Disk) (path : String) : Except Unit State :=
  match readToString codec disk path with
  | some contents =>
      match codec.parse contents with
      | some state => .ok state
      | none => .error ()
  | none => .ok State.default

def load (codec : Codec) (disk : Disk) (path : Option String) : State :=
  match path with
  | some path => (loadState codec disk path).toOption.getD State.default
  | none => State.default

def persistFile (codec : Codec) (path : Option String) (state : State) (disk : Disk) : Disk :=
  match path with
  | none => disk
  | some path => Function.update disk path (some (codec.toBytes state))

theorem load_eq_read (codec : Codec) (disk : Disk) (path : String) (bytes : List UInt8)
    (stored : disk path = some bytes) :
    load codec disk (some path) = (codec.read bytes).getD State.default := by
  have text : readToString codec disk path = codec.utf8 bytes := by
    unfold readToString
    rw [stored]
    rfl
  unfold load loadState Codec.read
  dsimp only
  rw [text]
  cases codec.utf8 bytes with
  | none => rfl
  | some contents =>
      dsimp only
      rw [Option.bind_some]
      cases codec.parse contents with
      | none => rfl
      | some state => rfl

theorem load_of_stored {codec : Codec} (faithful : codec.Faithful) {disk : Disk}
    {path : String} {state : State} (inRange : state.InRange)
    (stored : disk path = some (codec.toBytes state)) :
    SameState (load codec disk (some path)) state := by
  obtain ⟨loaded, read, same⟩ := faithful.readsBack state inRange
  rw [load_eq_read codec disk path _ stored, read]
  exact same

theorem persistFile_self (codec : Codec) (path : String) (state : State) (disk : Disk) :
    persistFile codec (some path) state disk path = some (codec.toBytes state) :=
  Function.update_self path _ disk

theorem load_persistFile {codec : Codec} (faithful : codec.Faithful) (path : String)
    {state : State} (inRange : state.InRange) (disk : Disk) :
    SameState (load codec (persistFile codec (some path) state disk) (some path)) state :=
  load_of_stored faithful inRange (persistFile_self codec path state disk)

/-! ### A crash during a write -/

/-- How far a write of the file came: not yet opened, or opened and so many bytes
written. -/
inductive CrashPoint where
  | unopened
  | opened (written : Nat)
  deriving DecidableEq

def crashDisk (codec : Codec) (path : String) (state : State) (disk : Disk) :
    CrashPoint → Disk
  | .unopened => disk
  | .opened written =>
      Function.update disk path (some ((codec.toBytes state).take written))

def CrashPoint.atBoundary (codec : Codec) (state : State) : CrashPoint → Bool
  | .unopened => true
  | .opened written => decide ((codec.toBytes state).length ≤ written)

theorem crashDisk_complete (codec : Codec) (path : String) (state : State) (disk : Disk)
    (written : Nat) (all : (codec.toBytes state).length ≤ written) :
    crashDisk codec path state disk (.opened written) =
      persistFile codec (some path) state disk := by
  unfold crashDisk persistFile
  dsimp only
  rw [List.take_of_length_le all]

/-- A file that was cut short is read as the default state. -/
theorem load_crashDisk_short {codec : Codec} (faithful : codec.Faithful) (path : String)
    {state : State} (inRange : state.InRange) (disk : Disk) {written : Nat}
    (short : written < (codec.toBytes state).length) :
    load codec (crashDisk codec path state disk (.opened written)) (some path) =
      State.default := by
  have strict : (codec.toBytes state).drop written ≠ [] := by
    intro empty
    have all := List.drop_eq_nil_iff.mp empty
    omega
  have cut := faithful.noPrefix state inRange _ _ (List.take_append_drop written _).symm strict
  have stored : crashDisk codec path state disk (.opened written) path =
      some ((codec.toBytes state).take written) :=
    Function.update_self path _ disk
  rw [load_eq_read codec _ path _ stored, cut]
  rfl

theorem sameState_default_iff {state : State} :
    SameState State.default state ↔ state = State.default := by
  constructor
  · intro same
    have log := same.auditLog
    rw [show State.default.auditLog = [] from rfl, List.forall₂_nil_left_iff] at log
    refine State.ext same.version.symm same.revision.symm ?_ ?_ ?_ log
    · exact Table.Alike.eq_empty same.networks
    · exact Table.Alike.eq_empty same.nodes
    · exact Table.Alike.eq_empty same.tokens
  · rintro rfl
    exact .refl _

/-- After a crash the next start reads the old or the new state exactly when the
crash fell outside the writing of the bytes, or one of the two is the default. -/
theorem load_after_crash_iff (codec : Codec) (faithful : codec.Faithful) (path : String)
    (old next : State) (oldInRange : old.InRange) (nextInRange : next.InRange) (disk : Disk)
    (persisted : disk path = some (codec.toBytes old)) (point : CrashPoint) :
    (SameState (load codec (crashDisk codec path next disk point) (some path)) old ∨
      SameState (load codec (crashDisk codec path next disk point) (some path)) next) ↔
    (point.atBoundary codec next = true ∨ old = State.default ∨ next = State.default) := by
  cases point with
  | unopened =>
      refine iff_of_true (Or.inl ?_) (Or.inl rfl)
      exact load_of_stored faithful oldInRange persisted
  | opened written =>
      by_cases all : (codec.toBytes next).length ≤ written
      · refine iff_of_true (Or.inr ?_) (Or.inl (decide_eq_true all))
        rw [crashDisk_complete codec path next disk written all]
        exact load_persistFile faithful path nextInRange disk
      · rw [load_crashDisk_short faithful path nextInRange disk (by omega),
          sameState_default_iff, sameState_default_iff]
        refine ⟨Or.inr, ?_⟩
        rintro (boundary | isDefault)
        · exact absurd (of_decide_eq_true boundary) all
        · exact isDefault

def sampleCalls : List Call := [createSample 0, registerSample 1 "a" "alpha"]

def sampleOld : State := run sampleConfig [createSample 0]

def sampleNext : State := run sampleConfig sampleCalls

def sampleDisk : Disk :=
  persistFile jsonCodec (some "state.json") sampleOld (fun _ => none)

theorem sampleCalls_inRange : ∀ call ∈ sampleCalls, call.InRange := by
  rw [sampleCalls, List.forall_mem_cons, List.forall_mem_singleton]
  refine ⟨⟨⟨by decide, by decide, by decide⟩, ?_, ?_⟩, ⟨by decide, by decide, by decide⟩, trivial⟩
  · intro seconds given
    cases given
  · intro uses given
    cases given
    decide

theorem sampleOld_inRange : sampleOld.InRange :=
  run_inRange sampleConfig fun call member =>
    sampleCalls_inRange call (List.mem_of_mem_take (i := 1) member)

theorem sampleNext_inRange : sampleNext.InRange :=
  run_inRange sampleConfig sampleCalls_inRange

/-- A crash before the file is opened leaves the old state to be read. -/
theorem sample_load_after_crash :
    SameState (load jsonCodec (crashDisk jsonCodec "state.json" sampleNext sampleDisk .unopened)
        (some "state.json")) sampleOld ∨
      SameState (load jsonCodec (crashDisk jsonCodec "state.json" sampleNext sampleDisk .unopened)
        (some "state.json")) sampleNext :=
  (load_after_crash_iff jsonCodec jsonCodec_faithful "state.json" sampleOld sampleNext
    sampleOld_inRange sampleNext_inRange sampleDisk
    (persistFile_self jsonCodec "state.json" sampleOld _) .unopened).mpr (Or.inl rfl)

/-- A crash right after the file is opened leaves neither state, but the default. -/
theorem crash_after_opening_reads_default :
    load jsonCodec (crashDisk jsonCodec "state.json" sampleNext sampleDisk (.opened 0))
        (some "state.json") = State.default ∧
      sampleDisk "state.json" = some (jsonCodec.toBytes sampleOld) ∧
      ¬ SameState State.default sampleOld ∧ ¬ SameState State.default sampleNext := by
  refine ⟨?_, persistFile_self jsonCodec "state.json" sampleOld _, ?_, ?_⟩
  · exact load_crashDisk_short jsonCodec_faithful "state.json" sampleNext_inRange sampleDisk
      (List.length_pos_iff.mpr (jsonCodec_faithful.toBytes_ne_nil sampleNext_inRange))
  · intro same
    exact absurd same.revision (by decide +kernel)
  · intro same
    exact absurd same.revision (by decide +kernel)

end Lightscale.Storage
