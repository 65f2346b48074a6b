/-
The frames of a stream.

A frame is its length in four bytes, the most significant one first, and its body.  Reader
and writer refuse the same lengths, so that what one frame writes is what one read takes,
and a stream that was written frame by frame is read frame by frame.
-/

import Mathlib.Algebra.Group.Nat.Defs

namespace Lightscale.Relay

def maxFrameLen : Nat := 64 * 1024

inductive FrameError where
  /-- The stream ended within a frame or before it. -/
  | earlyEof
  | invalidLength (length : Nat)
  deriving DecidableEq

def FrameError.message : FrameError → String
  | .earlyEof => "early eof"
  | .invalidLength length => "invalid frame length " ++ toString length

def toBeBytes (value : Nat) : List UInt8 :=
  [UInt8.ofNat (value / 2 ^ 24), UInt8.ofNat (value / 2 ^ 16), UInt8.ofNat (value / 2 ^ 8),
    UInt8.ofNat value]

def fromBeBytes (bytes : List UInt8) : Nat :=
  bytes.foldl (fun value byte => value * 2 ^ 8 + byte.toNat) 0

def readExact (count : Nat) (stream : List UInt8) :
    Except FrameError (List UInt8 × List UInt8) :=
  if stream.length < count then .error .earlyEof
  else .ok (stream.take count, stream.drop count)

def readFrame (stream : List UInt8) : Except FrameError (List UInt8 × List UInt8) := do
  let (lenBuf, rest) ← readExact 4 stream
  let len := fromBeBytes lenBuf
  if len = 0 ∨ maxFrameLen < len then
    throw (.invalidLength len)
  readExact len rest

def writeFrame (body : List UInt8) : Except FrameError (List UInt8) :=
  if body = [] ∨ maxFrameLen < body.length then .error (.invalidLength body.length)
  else .ok (toBeBytes body.length ++ body)

/-! ### The length -/

theorem toBeBytes_length (value : Nat) : (toBeBytes value).length = 4 := rfl

theorem fromBeBytes_toBeBytes {value : Nat} (small : value < 2 ^ 32) :
    fromBeBytes (toBeBytes value) = value := by
  simp only [toBeBytes, fromBeBytes, List.foldl_cons, List.foldl_nil, UInt8.toNat_ofNat']
  omega

theorem toBeBytes_fromBeBytes {bytes : List UInt8} (four : bytes.length = 4) :
    toBeBytes (fromBeBytes bytes) = bytes := by
  match bytes, four with
  | [first, second, third, fourth], _ =>
      have firstLt := first.toNat_lt
      have secondLt := second.toNat_lt
      have thirdLt := third.toNat_lt
      have fourthLt := fourth.toNat_lt
      simp only [toBeBytes, fromBeBytes, List.foldl_cons, List.foldl_nil]
      refine List.cons_eq_cons.mpr ⟨?_, List.cons_eq_cons.mpr ⟨?_, List.cons_eq_cons.mpr
        ⟨?_, List.cons_eq_cons.mpr ⟨?_, rfl⟩⟩⟩⟩
      all_goals
        apply UInt8.toNat_inj.mp
        rw [UInt8.toNat_ofNat']
        omega

/-! ### One frame -/

theorem readExact_eq_ok_iff {count : Nat} {stream taken rest : List UInt8} :
    readExact count stream = .ok (taken, rest) ↔ taken.length = count ∧ stream = taken ++ rest := by
  unfold readExact
  constructor
  · intro done
    split at done
    · cases done
    · cases done
      refine ⟨?_, (List.take_append_drop count stream).symm⟩
      rw [List.length_take]
      omega
  · rintro ⟨rfl, rfl⟩
    rw [if_neg (by rw [List.length_append]; omega), List.take_left, List.drop_left]

theorem writeFrame_eq_ok_iff {body wire : List UInt8} :
    writeFrame body = .ok wire ↔
      1 ≤ body.length ∧ body.length ≤ maxFrameLen ∧ wire = toBeBytes body.length ++ body := by
  unfold writeFrame
  by_cases invalid : body = [] ∨ maxFrameLen < body.length
  · rw [if_pos invalid]
    constructor
    · exact nofun
    · rintro ⟨nonempty, short, -⟩
      rcases invalid with rfl | long
      · exact absurd nonempty (by decide)
      · omega
  · rw [if_neg invalid, Except.ok.injEq]
    rw [not_or, Nat.not_lt] at invalid
    have nonempty : 1 ≤ body.length := List.length_pos_iff.mpr invalid.1
    exact ⟨fun isWire => ⟨nonempty, invalid.2, isWire.symm⟩, fun both => both.2.2.symm⟩

theorem readFrame_eq_ok_iff {stream body rest : List UInt8} :
    readFrame stream = .ok (body, rest) ↔
      ∃ wire, writeFrame body = .ok wire ∧ stream = wire ++ rest := by
  unfold readFrame
  constructor
  · intro done
    cases header : readExact 4 stream with
    | error error =>
        rw [header] at done
        cases done
    | ok split =>
        obtain ⟨lenBuf, after⟩ := split
        obtain ⟨four, rfl⟩ := readExact_eq_ok_iff.mp header
        rw [header] at done
        simp only [bind, Except.bind] at done
        split at done
        · cases done
        · rename_i valid
          obtain ⟨isLength, rfl⟩ := readExact_eq_ok_iff.mp done
          refine ⟨lenBuf ++ body, writeFrame_eq_ok_iff.mpr ⟨by omega, by omega, ?_⟩, ?_⟩
          · rw [isLength, toBeBytes_fromBeBytes four]
          · rw [List.append_assoc]
  · rintro ⟨wire, written, rfl⟩
    obtain ⟨nonempty, short, rfl⟩ := writeFrame_eq_ok_iff.mp written
    have small : body.length < 2 ^ 32 := by
      unfold maxFrameLen at short
      omega
    have header : readExact 4 (toBeBytes body.length ++ body ++ rest) =
        .ok (toBeBytes body.length, body ++ rest) :=
      readExact_eq_ok_iff.mpr ⟨rfl, List.append_assoc ..⟩
    rw [header]
    simp only [bind, Except.bind]
    rw [fromBeBytes_toBeBytes small, if_neg (by omega)]
    exact readExact_eq_ok_iff.mpr ⟨rfl, rfl⟩

theorem length_of_readFrame {stream body rest : List UInt8}
    (read : readFrame stream = .ok (body, rest)) :
    1 ≤ body.length ∧ body.length ≤ maxFrameLen ∧ rest.length < stream.length := by
  obtain ⟨wire, written, rfl⟩ := readFrame_eq_ok_iff.mp read
  obtain ⟨nonempty, short, rfl⟩ := writeFrame_eq_ok_iff.mp written
  refine ⟨nonempty, short, ?_⟩
  simp only [List.length_append, toBeBytes_length]
  omega

/-! ### A stream of frames -/

/-- The bodies that are read before the first error, and that error. -/
def readFrames (stream : List UInt8) : List (List UInt8) × FrameError :=
  match _read : readFrame stream with
  | .error error => ([], error)
  | .ok (body, rest) =>
      let later := readFrames rest
      (body :: later.1, later.2)
termination_by stream.length
decreasing_by exact (length_of_readFrame _read).2.2

def writeFrames : List (List UInt8) → Except FrameError (List UInt8)
  | [] => .ok []
  | body :: later => do
      let wire ← writeFrame body
      let more ← writeFrames later
      return wire ++ more

theorem readFrames_of_error {stream : List UInt8} {error : FrameError}
    (failed : readFrame stream = .error error) : readFrames stream = ([], error) := by
  rw [readFrames]
  split
  · rename_i other isError
    rw [failed, Except.error.injEq] at isError
    rw [isError]
  · rename_i read
    rw [failed] at read
    cases read

theorem readFrames_of_ok {stream body rest : List UInt8}
    (read : readFrame stream = .ok (body, rest)) :
    readFrames stream = (body :: (readFrames rest).1, (readFrames rest).2) := by
  rw [readFrames.eq_def stream]
  split
  · rename_i failed
    rw [read] at failed
    cases failed
  · rename_i other after isRead
    rw [read, Except.ok.injEq, Prod.mk.injEq] at isRead
    obtain ⟨rfl, rfl⟩ := isRead
    rfl

theorem writeFrames_cons_eq_ok_iff {body : List UInt8} {later : List (List UInt8)}
    {stream : List UInt8} :
    writeFrames (body :: later) = .ok stream ↔
      ∃ wire more, writeFrame body = .ok wire ∧ writeFrames later = .ok more ∧
        stream = wire ++ more := by
  simp only [writeFrames, bind, Except.bind, pure, Except.pure]
  cases writeFrame body with
  | error error => simp
  | ok wire =>
      cases writeFrames later with
      | error error => simp
      | ok more => simp [eq_comm]

theorem readFrames_writeFrames {bodies : List (List UInt8)} {wire : List UInt8}
    (written : writeFrames bodies = .ok wire) (tail : List UInt8) :
    readFrames (wire ++ tail) = (bodies ++ (readFrames tail).1, (readFrames tail).2) := by
  induction bodies generalizing wire with
  | nil =>
      cases written
      rfl
  | cons body later ih =>
      obtain ⟨first, more, isFirst, isMore, rfl⟩ := writeFrames_cons_eq_ok_iff.mp written
      have read : readFrame (first ++ (more ++ tail)) = .ok (body, more ++ tail) :=
        readFrame_eq_ok_iff.mpr ⟨first, isFirst, rfl⟩
      rw [List.append_assoc, readFrames_of_ok read, ih isMore]
      rfl

theorem writeFrames_readFrames (stream : List UInt8) :
    ∃ written, writeFrames (readFrames stream).1 = .ok written ∧ written <+: stream := by
  induction stream using readFrames.induct with
  | case1 stream error failed =>
      rw [readFrames_of_error failed]
      exact ⟨[], rfl, List.nil_prefix⟩
  | case2 stream body rest read ih =>
      obtain ⟨more, isMore, isStart⟩ := ih
      obtain ⟨wire, isWire, isStream⟩ := readFrame_eq_ok_iff.mp read
      rw [readFrames_of_ok read, isStream]
      exact ⟨wire ++ more, writeFrames_cons_eq_ok_iff.mpr ⟨wire, more, isWire, isMore, rfl⟩,
        (List.prefix_append_right_inj wire).mpr isStart⟩

theorem length_of_mem_readFrames (stream : List UInt8) :
    ∀ body ∈ (readFrames stream).1, 1 ≤ body.length ∧ body.length ≤ maxFrameLen := by
  induction stream using readFrames.induct with
  | case1 stream error failed =>
      rw [readFrames_of_error failed]
      exact nofun
  | case2 stream body rest read ih =>
      rw [readFrames_of_ok read]
      obtain ⟨nonempty, short, -⟩ := length_of_readFrame read
      exact List.forall_mem_cons.mpr ⟨⟨nonempty, short⟩, ih⟩

structure FrameBody where
  bytes : List UInt8
  nonempty : 1 ≤ bytes.length
  short : bytes.length ≤ maxFrameLen

theorem exists_writeFrames (bodies : List FrameBody) :
    ∃ wire, writeFrames (bodies.map FrameBody.bytes) = .ok wire := by
  induction bodies with
  | nil => exact ⟨[], rfl⟩
  | cons body later ih =>
      obtain ⟨more, isMore⟩ := ih
      exact ⟨_, writeFrames_cons_eq_ok_iff.mpr
        ⟨_, more, writeFrame_eq_ok_iff.mpr ⟨body.nonempty, body.short, rfl⟩, isMore, rfl⟩⟩

/-- A stream of frames is read as it was written, and a stream of any bytes is read as the
frames that it begins with. -/
theorem framing_round_trip :
    (∀ bodies : List FrameBody, ∃ stream,
      writeFrames (bodies.map FrameBody.bytes) = .ok stream ∧
        readFrames stream = (bodies.map FrameBody.bytes, .earlyEof)) ∧
    ∀ stream,
      (∀ body ∈ (readFrames stream).1, 1 ≤ body.length ∧ body.length ≤ maxFrameLen) ∧
        ∃ written, writeFrames (readFrames stream).1 = .ok written ∧ written <+: stream := by
  constructor
  · intro bodies
    obtain ⟨wire, written⟩ := exists_writeFrames bodies
    refine ⟨wire, written, ?_⟩
    have atEnd : readFrames [] = ([], .earlyEof) := readFrames_of_error rfl
    have read := readFrames_writeFrames written []
    rw [List.append_nil, atEnd, List.append_nil] at read
    exact read
  · intro stream
    exact ⟨length_of_mem_readFrames stream, writeFrames_readFrames stream⟩

end Lightscale.Relay
