/-
What the cache of seen message ids remembers.

The calls of one server take their reading of the clock while they hold the cache, so
the readings never decrease.  After any such calls, a stored time is the time of an
accepted call, and an accepted call is forgotten for one of two reasons only: a later
call was made when it had expired, or as many other ids as the cache can hold were
accepted at the same time or later.
-/

import Lightscale.Foundation.Execution
import Lightscale.Mesh.CacheHistory

namespace Lightscale.Mesh

open Foundation

structure Remember where
  scan : Scan
  now : Nat
  messageId : String

def remember (seen : Table String Nat) (call : Remember) : Table String Nat :=
  (rememberMessage call.scan call.now call.messageId seen).2

def Remember.accepted (call : Remember) (seen : Table String Nat) : Bool :=
  (rememberMessage call.scan call.now call.messageId seen).1

def acceptedCalls (calls : List Remember) : List Remember :=
  ((trace remember ∅ calls).filter (fun event => event.input.accepted event.before)).map
    Event.input

def Ordered (calls : List Remember) : Prop :=
  calls.Pairwise fun earlier later => earlier.now ≤ later.now

theorem acceptedCalls_snoc (calls : List Remember) (call : Remember) :
    acceptedCalls (calls ++ [call]) =
      acceptedCalls calls ++ if call.accepted (exec remember ∅ calls) then [call] else [] := by
  unfold acceptedCalls
  rw [trace_snoc, List.filter_append, List.map_append]
  congr 1
  cases accepted : call.accepted (exec remember ∅ calls) with
  | true => simp [eventAt, accepted]
  | false => simp [eventAt, accepted]

theorem mem_of_mem_acceptedCalls {calls : List Remember} {call : Remember}
    (member : call ∈ acceptedCalls calls) : call ∈ calls := by
  obtain ⟨event, isEvent, rfl⟩ := List.mem_map.mp member
  exact input_of_mem_trace remember (List.mem_of_mem_filter isEvent)

theorem Ordered.le_last {calls : List Remember} {last : Remember}
    (ordered : Ordered (calls ++ [last])) :
    ∀ call ∈ calls, call.now ≤ last.now := by
  intro call member
  exact (List.pairwise_append.mp ordered).2.2 call member last List.mem_cons_self

/-- As many other ids as the cache can hold were accepted at the same time or later. -/
def Crowded (accepted : List Remember) (call : Remember) : Prop :=
  ∃ others : List String, others.Nodup ∧ call.messageId ∉ others ∧ others.length = maxSeenIds ∧
    ∀ other ∈ others, ∃ later ∈ accepted, later.messageId = other ∧ call.now ≤ later.now

structure SeenSpec (calls accepted : List Remember) (seen : Table String Nat) : Prop where
  stored : ∀ messageId time, seen.lookup messageId = some time →
    ∃ call ∈ accepted, call.messageId = messageId ∧ call.now = time
  kept : ∀ call ∈ accepted,
    (∃ time, call.now ≤ time ∧ seen.lookup call.messageId = some time) ∨
      (∃ later ∈ calls, call.now + seenTtl ≤ later.now) ∨ Crowded accepted call

def acceptedIds (calls : List Remember) : List (String × Nat) :=
  (acceptedCalls calls).map fun call => (call.messageId, call.now)

def lastAccepted (calls : List Remember) (messageId : String) : Option Nat :=
  lastWritten (acceptedIds calls) messageId

/-- The other ids that were accepted at the time or later, each once. -/
def othersAccepted (calls : List Remember) (messageId : String) (time : Nat) : List String :=
  rivals id (acceptedIds calls) messageId time

theorem seenCacheSpec (calls : List Remember) :
    CacheSpec maxSeenIds seenTtl id (calls.map Remember.now) (acceptedIds calls)
      (exec remember ∅ calls) := by
  induction calls using List.reverseRecOn with
  | nil => exact CacheSpec.empty maxSeenIds seenTtl id
  | append_singleton calls call ih =>
      rw [acceptedIds, acceptedCalls_snoc, exec_snoc, List.map_append]
      cases isAccepted : call.accepted (exec remember ∅ calls) with
      | false =>
          have same : remember (exec remember ∅ calls) call = exec remember ∅ calls :=
            (rememberMessage_of_refused isAccepted).1
          rw [same, if_neg Bool.false_ne_true, List.append_nil]
          exact ih.read call.now
      | true =>
          have left : remember (exec remember ∅ calls) call =
              evict call.scan maxSeenIds seenTtl call.now id
                ((exec remember ∅ calls).insert call.messageId call.now) :=
            rememberMessage_of_accepted isAccepted
          rw [left, if_pos rfl, List.map_append]
          exact ih.write call.scan call.now call.messageId call.now

theorem Ordered.acceptedIds {calls : List Remember} (ordered : Ordered calls) :
    (acceptedIds calls).Pairwise fun earlier later => earlier.2 ≤ later.2 := by
  have sublist : (acceptedCalls calls).Sublist calls := by
    unfold acceptedCalls
    conv_rhs => rw [← map_input_trace remember ∅ calls]
    exact List.filter_sublist.map Event.input
  exact List.pairwise_map.mpr (List.Pairwise.sublist sublist ordered)

theorem mem_acceptedIds_iff {calls : List Remember} {messageId : String} {time : Nat} :
    (messageId, time) ∈ acceptedIds calls ↔
      ∃ call ∈ acceptedCalls calls, call.messageId = messageId ∧ call.now = time := by
  simp only [acceptedIds, List.mem_map, Prod.mk.injEq]

theorem seenSpec (calls : List Remember) (ordered : Ordered calls) :
    SeenSpec calls (acceptedCalls calls) (exec remember ∅ calls) := by
  have spec := seenCacheSpec calls
  constructor
  · intro messageId time found
    exact mem_acceptedIds_iff.mp (mem_of_lastWritten (spec.stored messageId time found))
  · intro call isAccepted
    obtain ⟨last, isLast, notEarlier⟩ := exists_lastWritten_of_mem id ordered.acceptedIds
      (mem_acceptedIds_iff.mpr ⟨call, isAccepted, rfl, rfl⟩)
    change call.now ≤ last at notEarlier
    rcases spec.kept call.messageId last isLast with stays | ⟨now, reading, stale⟩ | crowded
    · exact Or.inl ⟨last, notEarlier, stays⟩
    · obtain ⟨later, isCall, rfl⟩ := List.mem_map.mp reading
      change seenTtl < later.now - last at stale
      exact Or.inr (Or.inl ⟨later, isCall, by omega⟩)
    · -- As many of the rivals as the cache can hold.
      refine Or.inr (Or.inr ⟨(rivals id (acceptedIds calls) call.messageId last).take maxSeenIds,
        ?_, ?_, ?_, ?_⟩)
      · exact (List.nodup_dedup _).sublist (List.take_sublist _ _)
      · intro member
        exact (mem_rivals_iff.mp (List.mem_of_mem_take member)).1 rfl
      · rw [List.length_take]
        exact Nat.min_eq_left crowded
      · intro other member
        obtain ⟨-, time, isWrite, noEarlier⟩ := mem_rivals_iff.mp (List.mem_of_mem_take member)
        obtain ⟨later, isLater, sameId, rfl⟩ := mem_acceptedIds_iff.mp isWrite
        exact ⟨later, isLater, sameId, Nat.le_trans notEarlier noEarlier⟩

/-- A call soon after an accepted one for the same id returns false, unless the cache is
crowded. -/
theorem refused_of_recent {calls : List Remember} {earlier call : Remember}
    (ordered : Ordered (calls ++ [call])) (isAccepted : earlier ∈ acceptedCalls calls)
    (sameId : earlier.messageId = call.messageId) (recent : call.now < earlier.now + seenTtl)
    (room : ¬ Crowded (acceptedCalls calls) earlier) :
    call.accepted (exec remember ∅ calls) = false := by
  have spec := seenSpec calls (List.pairwise_append.mp ordered).1
  rcases spec.kept earlier isAccepted with
    ⟨time, notEarlier, found⟩ | ⟨later, isCall, expired⟩ | crowded
  · rw [sameId] at found
    refine rememberMessage_of_recent found ?_
    have positive : 0 < seenTtl := by decide
    omega
  · have before := ordered.le_last later isCall
    omega
  · exact absurd crowded room

/-- The cache never outgrows its limit.  An id is accepted if it was never accepted or its
last acceptance has expired, and refused if its last acceptance is recent and fewer other
ids were accepted since than the cache can hold. -/
theorem seen_cache_spec (calls : List Remember) (call : Remember)
    (ordered : Ordered (calls ++ [call])) :
    (remember (exec remember ∅ calls) call).entries.length ≤ maxSeenIds ∧
    (lastAccepted calls call.messageId = none → call.accepted (exec remember ∅ calls) = true) ∧
    ∀ time, lastAccepted calls call.messageId = some time →
      (time + seenTtl ≤ call.now → call.accepted (exec remember ∅ calls) = true) ∧
      (call.now < time + seenTtl →
        (othersAccepted calls call.messageId time).length < maxSeenIds →
        call.accepted (exec remember ∅ calls) = false) := by
  have spec := seenCacheSpec calls
  have after := seenCacheSpec (calls ++ [call])
  rw [exec_snoc] at after
  refine ⟨after.bounded, ?_, ?_⟩
  · intro never
    cases found : (exec remember ∅ calls).lookup call.messageId with
    | none => exact rememberMessage_of_new call.scan call.now found
    | some time =>
        have last := spec.stored call.messageId time found
        rw [lastAccepted, last] at never
        cases never
  · intro time last
    constructor
    · intro expired
      cases found : (exec remember ∅ calls).lookup call.messageId with
      | none => exact rememberMessage_of_new call.scan call.now found
      | some stored =>
          have same := last.symm.trans (spec.stored call.messageId stored found)
          rw [Option.some.injEq] at same
          exact rememberMessage_of_expired found (by omega)
    · intro recent room
      rcases spec.kept call.messageId time last with stays | ⟨now, reading, stale⟩ | crowded
      · exact rememberMessage_of_recent stays (by
          have positive : 0 < seenTtl := by decide
          omega)
      · obtain ⟨earlier, isCall, rfl⟩ := List.mem_map.mp reading
        have before := ordered.le_last earlier isCall
        change seenTtl < earlier.now - time at stale
        omega
      · exact absurd room (Nat.not_lt.mpr crowded)

def sampleRemembered : List Remember :=
  [{ scan := inOrder, now := 0, messageId := "m" }]

theorem repeated_message_refused :
    Remember.accepted { scan := inOrder, now := seconds 60, messageId := "m" }
      (exec remember ∅ sampleRemembered) = false := by
  have ordered : Ordered
      (sampleRemembered ++ [{ scan := inOrder, now := seconds 60, messageId := "m" }]) := by
    unfold Ordered sampleRemembered
    decide
  refine ((seen_cache_spec sampleRemembered _ ordered).2.2 0 ?_).2 ?_ ?_
  · decide
  · decide
  · decide

end Lightscale.Mesh
