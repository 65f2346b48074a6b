/-
A server processes a message at most once.

Every copy of a message that a server handles, and the message it gives to the mesh
itself, passes through one call of `remember_message`.  The calls of a server are a run
of its cache of seen ids, so what is known of the cache applies: with readings of the
clock that do not decrease, with room in the cache, and with all copies handled in time,
only one call for the message returns true.  Packets handed to a local relay and runs of
`forward_to_target` are then counted against these calls.
-/

import Mathlib.Data.List.Dedup
import Lightscale.Mesh.Lineage
import Lightscale.Mesh.SeenCache

namespace Lightscale.Mesh

open Foundation

/-! ### The calls of one server -/

/-- The call of `remember_message` that a server makes in a turn. -/
def World.rememberCall (world : World) (server : String) : Turn → Option Remember
  | .act (.originate origin _ messageId scan rememberAt _) =>
      if origin = server then some ⟨scan, rememberAt, messageId⟩ else none
  | .act (.receive index scan rememberAt _) =>
      match world.inFlight[index]? with
      | none => none
      | some transit =>
          match transit.frame with
          | .hello _ => none
          | .relay frame =>
              if transit.dest = server then some ⟨scan, rememberAt, frame.messageId⟩ else none
  | _ => none

def serverCalls (base64 : Base64) (start : World) (turns : List Turn) (server : String) :
    List Remember :=
  (trace (World.turn base64) start turns).filterMap
    fun event => event.before.rememberCall server event.input

theorem seenIds_update (world : World) (changed server : String) (left : MeshContext) :
    (Function.update world.server changed left server).seenIds =
      if changed = server then left.seenIds else (world.server server).seenIds := by
  by_cases same : changed = server
  · subst same
    rw [Function.update_self, if_pos rfl]
  · rw [Function.update_of_ne (Ne.symm same), if_neg same]

theorem seenIds_update_same (world : World) {changed : String} (server : String)
    {left : MeshContext} (same : left.seenIds = (world.server changed).seenIds) :
    (Function.update world.server changed left server).seenIds =
      (world.server server).seenIds := by
  rw [seenIds_update, same]
  split
  · rename_i here
    rw [here]
  · rfl

theorem seenIds_turn (base64 : Base64) (world : World) (server : String) {turn : Turn}
    (kept : ∀ server seen, turn ≠ .forget server seen) :
    ((world.turn base64 turn).server server).seenIds =
      (world.rememberCall server turn).elim (world.server server).seenIds
        (remember (world.server server).seenIds) := by
  cases turn with
  | act action =>
      cases action with
      | originate origin packet messageId scan rememberAt lookupAt =>
          dsimp only [World.turn, World.step, World.originate, World.rememberCall]
          rw [seenIds_update, forwardToTarget_frame]
          by_cases here : origin = server
          · subst here
            rw [if_pos rfl, if_pos rfl]
            rfl
          · rw [if_neg here, if_neg here]
            rfl
      | receive index scan rememberAt learnAt =>
          dsimp only [World.turn, World.step, World.rememberCall]
          cases atIndex : world.inFlight[index]? with
          | none => rfl
          | some transit =>
              dsimp only
              cases isFrame : transit.frame with
              | hello serverId =>
                  simp only [World.receive, isFrame]
                  rfl
              | relay frame =>
                  dsimp only
                  rw [World.receive_server (world.takeFrame index) transit frame scan rememberAt
                    learnAt isFrame]
                  change (Function.update world.server transit.dest _ server).seenIds = _
                  rw [seenIds_update]
                  by_cases here : transit.dest = server
                  · subst here
                    rw [if_pos rfl, if_pos rfl]
                    exact (receiveFrame_frame base64 scan rememberAt learnAt transit.source frame
                      (world.server transit.dest)).1
                  · rw [if_neg here, if_neg here]
                    rfl
      | resume index delivered lookupAt =>
          dsimp only [World.turn, World.step, World.rememberCall]
          cases atIndex : world.awaiting[index]? with
          | none => rfl
          | some entry =>
              apply seenIds_update_same world server
              obtain ⟨hints, left⟩ := finishFrame_frame lookupAt entry.source entry.frame delivered
                (world.server entry.server)
              change (finishFrame lookupAt entry.source entry.frame delivered
                (world.server entry.server)).2.seenIds = _
              rw [left]
      | reconnect changed peers =>
          apply seenIds_update_same world server
          rfl
  | reroute changed hints =>
      apply seenIds_update_same world server
      rfl
  | forget changed seen => exact absurd rfl (kept changed seen)

theorem serverCalls_snoc (base64 : Base64) (start : World) (turns : List Turn) (turn : Turn)
    (server : String) :
    serverCalls base64 start (turns ++ [turn]) server =
      serverCalls base64 start turns server ++
        ((exec (World.turn base64) start turns).rememberCall server turn).toList := by
  unfold serverCalls
  rw [trace_snoc, List.filterMap_append]
  rfl

theorem seenIds_exec (base64 : Base64) {start : World} {turns : List Turn}
    (empty : ∀ server, (start.server server).seenIds = ∅)
    (kept : ∀ server seen, .forget server seen ∉ turns) (server : String) :
    ((exec (World.turn base64) start turns).server server).seenIds =
      exec remember ∅ (serverCalls base64 start turns server) := by
  induction turns using List.reverseRecOn with
  | nil => exact empty server
  | append_singleton turns turn ih =>
      have earlier := ih fun server seen member =>
        kept server seen (List.mem_append_left _ member)
      have notForgotten : ∀ server seen, turn ≠ .forget server seen := by
        rintro changed seen rfl
        exact kept changed seen (List.mem_append_right _ List.mem_cons_self)
      rw [exec_snoc, seenIds_turn base64 _ server notForgotten, serverCalls_snoc, exec_append,
        ← earlier]
      cases (exec (World.turn base64) start turns).rememberCall server turn with
      | none => rfl
      | some call => rfl

/-! ### One accepted call -/

/-- Fewer ids than the cache can hold are accepted within the lifetime of an entry. -/
def Paced (calls : List Remember) : Prop :=
  ∀ since, (((acceptedCalls calls).filter
    (fun call => since ≤ call.now ∧ call.now < since + seenTtl)).map
      Remember.messageId).dedup.length < maxSeenIds

/-- The calls for a message are made within the lifetime of an entry of its creation, as
the clock of the server shows it. -/
def Timely (calls : List Remember) (messageId : String) : Prop :=
  ∃ created, ∀ call ∈ calls, call.messageId = messageId →
    created ≤ call.now ∧ call.now < created + seenTtl

/-- At this pace the cache has room for an entry as long as it lives. -/
theorem Paced.not_crowded {calls early : List Remember} {earlier last : Remember}
    (paced : Paced calls) (known : ∀ call ∈ acceptedCalls early, call ∈ acceptedCalls calls)
    (notLater : ∀ call ∈ early, call.now ≤ last.now)
    (recent : last.now < earlier.now + seenTtl) :
    ¬ Crowded (acceptedCalls early) earlier := by
  rintro ⟨others, nodup, _, length, younger⟩
  have inWindow : others ⊆ (((acceptedCalls calls).filter
      (fun call => earlier.now ≤ call.now ∧ call.now < earlier.now + seenTtl)).map
        Remember.messageId).dedup := by
    intro other member
    obtain ⟨later, isAccepted, sameId, notEarlier⟩ := younger other member
    have before := notLater later (mem_of_mem_acceptedCalls isAccepted)
    rw [List.mem_dedup, List.mem_map]
    refine ⟨later, List.mem_filter.mpr ⟨known later isAccepted, ?_⟩, sameId⟩
    apply decide_eq_true
    exact ⟨notEarlier, by omega⟩
  have few := paced earlier.now
  have many := (nodup.subperm inWindow).length_le
  omega

theorem mem_acceptedCalls_append {early : List Remember} (late : List Remember)
    {call : Remember} (member : call ∈ acceptedCalls early) :
    call ∈ acceptedCalls (early ++ late) := by
  unfold acceptedCalls at member ⊢
  rw [trace_append, List.filter_append, List.map_append]
  exact List.mem_append_left _ member

theorem refused_again {early late calls : List Remember} {call earlier : Remember}
    {messageId : String} (split : early ++ call :: late = calls) (ordered : Ordered calls)
    (paced : Paced calls) (timely : Timely calls messageId)
    (isAccepted : earlier ∈ acceptedCalls early) (earlierId : earlier.messageId = messageId)
    (callId : call.messageId = messageId) : call.accepted (exec remember ∅ early) = false := by
  obtain ⟨created, inTime⟩ := timely
  have split : (early ++ [call]) ++ late = calls := by
    rw [List.append_assoc]
    exact split
  have known : ∀ other ∈ acceptedCalls early, other ∈ acceptedCalls calls := by
    intro other member
    rw [← split, List.append_assoc]
    exact mem_acceptedCalls_append _ member
  have isCall : call ∈ calls := by
    rw [← split]
    exact List.mem_append_left _ (List.mem_append_right _ List.mem_cons_self)
  have earlierInTime := inTime earlier (mem_of_mem_acceptedCalls (known earlier isAccepted))
    earlierId
  have callInTime := inTime call isCall callId
  have recent : call.now < earlier.now + seenTtl := by omega
  rw [← split] at ordered
  have orderedHere : Ordered (early ++ [call]) := (List.pairwise_append.mp ordered).1
  exact refused_of_recent orderedHere isAccepted (earlierId.trans callId.symm) recent
    (paced.not_crowded known orderedHere.le_last recent)

theorem accepted_at_most_once {calls : List Remember} {messageId : String}
    (ordered : Ordered calls) (paced : Paced calls) (timely : Timely calls messageId) :
    (acceptedCalls calls).countP (fun call => call.messageId = messageId) ≤ 1 := by
  suffices prefixes : ∀ early late, early ++ late = calls →
      (acceptedCalls early).countP (fun call => call.messageId = messageId) ≤ 1 from
    prefixes calls [] (List.append_nil calls)
  intro early
  induction early using List.reverseRecOn with
  | nil =>
      intro late _
      exact Nat.zero_le 1
  | append_singleton early call ih =>
      intro late split
      rw [List.append_assoc] at split
      have once := ih (call :: late) split
      rw [acceptedCalls_snoc, List.countP_append]
      cases isAccepted : call.accepted (exec remember ∅ early) with
      | false =>
          rw [if_neg Bool.false_ne_true]
          exact once
      | true =>
          rw [if_pos rfl]
          by_cases callId : call.messageId = messageId
          · have noEarlier : (acceptedCalls early).countP
                (fun earlier => earlier.messageId = messageId) = 0 := by
              rw [List.countP_eq_zero]
              intro earlier member earlierId
              have refused := refused_again split ordered paced timely member
                (of_decide_eq_true earlierId) callId
              rw [isAccepted] at refused
              cases refused
            rw [noEarlier, Nat.zero_add]
            exact List.countP_le_length
          · rw [List.countP_singleton, if_neg (by simpa using callId)]
            exact once

/-! ### Counting what a server does -/

def Accepted.isOf (server messageId : String) (entry : Accepted) : Bool :=
  decide (entry.server = server ∧ entry.frame.messageId = messageId)

def Turn.originates (server messageId : String) (turn : Turn) : Bool :=
  turn.origination.any fun given =>
    decide (given.server = server ∧ given.messageId = messageId)

def World.resumes (server messageId : String) (world : World) : Turn → Bool
  | .act (.resume index _ _) => (world.awaiting[index]?).any (Accepted.isOf server messageId)
  | _ => false

def World.runsForward (server messageId : String) (world : World) : Turn → Bool
  | .act (.originate origin _ drawn _ _ _) => decide (origin = server ∧ drawn = messageId)
  | .act (.resume index delivered _) =>
      (world.awaiting[index]?).any fun entry =>
        entry.isOf server messageId && !delivered && decide (entry.frame.hopsLeft ≠ 0)
  | _ => false

def World.accepts (server messageId : String) (world : World) (turn : Turn) : Bool :=
  (world.rememberCall server turn).any fun call =>
    decide (call.messageId = messageId) && call.accepted (world.server server).seenIds

theorem originates_or_resumes {server messageId : String} {world : World} {turn : Turn}
    (forward : world.runsForward server messageId turn = true) :
    turn.originates server messageId = true ∨ world.resumes server messageId turn = true := by
  unfold World.runsForward at forward
  split at forward
  · exact Or.inl forward
  · rename_i index delivered lookupAt
    obtain ⟨entry, atIndex, isCopy⟩ := (Option.any_eq_true _ _).mp forward
    rw [Bool.and_eq_true, Bool.and_eq_true] at isCopy
    refine Or.inr ?_
    dsimp only [World.resumes]
    rw [atIndex]
    exact isCopy.1.1
  · cases forward

theorem countP_append_singleton {Entry : Type} (test : Entry → Bool) (entries : List Entry)
    (last : Entry) :
    (entries ++ [last]).countP test = entries.countP test + (test last).toNat := by
  rw [List.countP_append]
  cases holds : test last with
  | false => simp [holds]
  | true => simp [holds]

theorem countP_eraseIdx {Entry : Type} (test : Entry → Bool) (entries : List Entry)
    (index : Nat) :
    entries.countP test =
      (entries.eraseIdx index).countP test + ((entries[index]?).any test).toNat := by
  by_cases inside : index < entries.length
  · have perm := (List.getElem_cons_eraseIdx_perm inside).countP_eq test
    rw [List.getElem?_eq_getElem inside, Option.any_some, ← perm]
    cases holds : test entries[index] with
    | false => simp [holds]
    | true => simp [holds]
  · rw [List.eraseIdx_of_length_le (Nat.le_of_not_lt inside),
      List.getElem?_eq_none_iff.mpr (Nat.le_of_not_lt inside)]
    rfl

theorem countP_le_add {Entry : Type} {test first second : Entry → Bool} {entries : List Entry}
    (covered : ∀ entry ∈ entries, test entry = true → first entry = true ∨ second entry = true) :
    entries.countP test ≤ entries.countP first + entries.countP second := by
  induction entries with
  | nil => exact Nat.zero_le _
  | cons entry rest ih =>
      have later := ih fun other member => covered other (List.mem_cons_of_mem _ member)
      have here := covered entry List.mem_cons_self
      rw [List.countP_cons, List.countP_cons, List.countP_cons]
      cases holds : test entry with
      | false =>
          rw [if_neg Bool.false_ne_true]
          omega
      | true =>
          rw [if_pos rfl]
          rcases here holds with isFirst | isSecond
          · rw [if_pos isFirst]
            omega
          · rw [if_pos isSecond]
            omega

section

variable {base64 : Base64} {world : World} {turn : Turn} {server messageId : String}

theorem Transit.length_taken_le (scan : Scan) (rememberAt learnAt : Nat) (context : MeshContext)
    (transit : Transit) : (transit.taken base64 scan rememberAt learnAt context).length ≤ 1 := by
  unfold Transit.taken
  split
  · exact Nat.zero_le 1
  · exact Option.length_toList_le

theorem length_takes_le : (world.takes base64 turn).length ≤ 1 := by
  unfold World.takes
  split
  · split
    · exact Nat.zero_le 1
    · exact Transit.length_taken_le _ _ _ _ _
  · exact Nat.zero_le 1

theorem accepts_of_takes {entry : Accepted} (member : entry ∈ world.takes base64 turn)
    (isCopy : entry.isOf server messageId = true) :
    world.accepts server messageId turn = true := by
  obtain ⟨index, scan, rememberAt, learnAt, transit, asked, atIndex, taken⟩ := mem_takes member
  obtain ⟨isRelay, isEntry, received⟩ := Transit.mem_taken taken
  obtain ⟨atServer, sameId⟩ := of_decide_eq_true isCopy
  have toServer : transit.dest = server := (congrArg Accepted.server isEntry).symm.trans atServer
  rw [toServer] at received
  unfold World.accepts
  rw [asked]
  dsimp only [World.rememberCall]
  rw [atIndex]
  dsimp only
  rw [isRelay]
  dsimp only
  rw [if_pos toServer]
  change (decide (entry.frame.messageId = messageId) && _) = true
  rw [Bool.and_eq_true]
  exact ⟨decide_eq_true sameId, (receiveFrame_taken received).1⟩

theorem takes_of_originates (originates : turn.originates server messageId = true) :
    world.takes base64 turn = [] := by
  cases turn with
  | act action =>
      cases action with
      | originate origin packet drawn scan rememberAt lookupAt => rfl
      | receive index scan rememberAt learnAt => cases originates
      | resume index delivered lookupAt => cases originates
      | reconnect changed peers => rfl
  | reroute changed hints => rfl
  | forget changed seen => rfl

/-- Every packet taken and every packet given costs the server one accepted call. -/
theorem countP_takes_le (base64 : Base64)
    (drawn : turn.originates server messageId = true → world.accepts server messageId turn = true) :
    (world.takes base64 turn).countP (Accepted.isOf server messageId) +
        (turn.originates server messageId).toNat ≤
      (world.accepts server messageId turn).toNat := by
  cases originates : turn.originates server messageId with
  | true =>
      rw [takes_of_originates originates, drawn originates]
      exact Nat.le_refl 1
  | false =>
      cases accepts : world.accepts server messageId turn with
      | true => exact Nat.le_trans List.countP_le_length length_takes_le
      | false =>
          apply Nat.le_of_eq
          rw [Bool.toNat_false, Nat.add_zero, List.countP_eq_zero]
          intro entry member isCopy
          rw [accepts_of_takes member isCopy] at accepts
          cases accepts

theorem countP_leftWaiting (world : World) (turn : Turn) (server messageId : String) :
    (world.leftWaiting turn).countP (Accepted.isOf server messageId) +
        (world.resumes server messageId turn).toNat =
      world.awaiting.countP (Accepted.isOf server messageId) := by
  unfold World.leftWaiting World.resumes
  cases turn with
  | act action =>
      cases action with
      | originate origin packet drawn scan rememberAt lookupAt => rfl
      | receive index scan rememberAt learnAt => rfl
      | resume index delivered lookupAt => exact (countP_eraseIdx _ world.awaiting index).symm
      | reconnect changed peers => rfl
  | reroute changed hints => rfl
  | forget changed seen => rfl

end

/-- What a server has done with a message, counted against its accepted calls. -/
structure Tally (server messageId : String) (past : List (Event World Turn)) (world : World) :
    Prop where
  accepted : world.accepted.countP (Accepted.isOf server messageId) +
      past.countP (fun event => event.input.originates server messageId) ≤
    past.countP (fun event => event.before.accepts server messageId event.input)
  waited : world.awaiting.countP (Accepted.isOf server messageId) +
      past.countP (fun event => event.before.resumes server messageId event.input) =
    world.accepted.countP (Accepted.isOf server messageId)
  handed : world.handed.countP (Accepted.isOf server messageId) ≤
    world.accepted.countP (Accepted.isOf server messageId)

theorem Tally.step (base64 : Base64) {server messageId : String}
    {past : List (Event World Turn)} {world : World} {turn : Turn}
    (tally : Tally server messageId past world)
    (drawn : turn.originates server messageId = true →
      world.accepts server messageId turn = true) :
    Tally server messageId (past ++ [eventAt (World.turn base64) world turn])
      (world.turn base64 turn) := by
  obtain ⟨awaiting, accepted, handed⟩ := lists_turn base64 world turn
  have taken := countP_takes_le base64 drawn
  have left := countP_leftWaiting world turn server messageId
  have before := tally.accepted
  have waited := tally.waited
  have wereHanded := tally.handed
  refine ⟨?_, ?_, ?_⟩
  · rw [accepted, List.countP_append, countP_append_singleton, countP_append_singleton]
    dsimp only [eventAt]
    omega
  · rw [accepted, awaiting, countP_append_singleton, List.countP_append, List.countP_append]
    dsimp only [eventAt]
    omega
  · have fewer := (List.filter_sublist (p := fun entry : Accepted =>
      (world.server entry.server).localOpen) (l := world.takes base64 turn)).countP_le
        (p := Accepted.isOf server messageId)
    rw [accepted, handed, List.countP_append, List.countP_append]
    omega

theorem countP_accepts (base64 : Base64) {start : World} {turns : List Turn}
    (empty : ∀ server, (start.server server).seenIds = ∅)
    (kept : ∀ server seen, .forget server seen ∉ turns) (server messageId : String) :
    (trace (World.turn base64) start turns).countP
        (fun event => event.before.accepts server messageId event.input) =
      (acceptedCalls (serverCalls base64 start turns server)).countP
        (fun call => call.messageId = messageId) := by
  induction turns using List.reverseRecOn with
  | nil => rfl
  | append_singleton turns turn ih =>
      have keptBefore : ∀ server seen, .forget server seen ∉ turns :=
        fun server seen member => kept server seen (List.mem_append_left _ member)
      rw [trace_snoc, countP_append_singleton, ih keptBefore, serverCalls_snoc]
      dsimp only [eventAt, World.accepts]
      rw [seenIds_exec base64 empty keptBefore server]
      cases (exec (World.turn base64) start turns).rememberCall server turn with
      | none =>
          rw [Option.any_none, Option.toList_none, List.append_nil]
          rfl
      | some call =>
          rw [Option.any_some, Option.toList_some, acceptedCalls_snoc, List.countP_append]
          cases isAccepted :
              call.accepted (exec remember ∅ (serverCalls base64 start turns server)) with
          | false =>
              rw [Bool.and_false]
              rfl
          | true =>
              rw [Bool.and_true, if_pos rfl, List.countP_cons, List.countP_nil, Nat.zero_add]
              cases decide (call.messageId = messageId) <;> rfl

theorem tally_exec {base64 : Base64} {start : World} {turns : List Turn}
    {server messageId : String} (blank : start.Blank)
    (drawn : ∀ event ∈ trace (World.turn base64) start turns,
      event.input.originates server messageId = true →
      event.before.accepts server messageId event.input = true) :
    Tally server messageId (trace (World.turn base64) start turns)
      (exec (World.turn base64) start turns) := by
  induction turns using List.reverseRecOn with
  | nil =>
      refine ⟨?_, ?_, ?_⟩
      · change start.accepted.countP _ + 0 ≤ 0
        rw [blank.accepted]
        exact Nat.le_refl 0
      · change start.awaiting.countP _ + 0 = start.accepted.countP _
        rw [blank.accepted, blank.awaiting, Nat.add_zero]
      · change start.handed.countP _ ≤ start.accepted.countP _
        rw [blank.accepted, blank.handed]
  | append_singleton turns turn ih =>
      rw [trace_snoc] at drawn ⊢
      rw [exec_snoc]
      apply Tally.step
      · apply ih
        intro event member
        exact drawn event (List.mem_append_left _ member)
      · exact drawn _ (List.mem_append_right _ List.mem_cons_self)

/-! ### Fresh ids -/

def drawnIds (turns : List Turn) : List String :=
  turns.filterMap fun turn => turn.origination.map Origination.messageId

def Origination.flood (base64 : Base64) (given : Origination) : Flood where
  base64 := base64
  messageId := given.messageId
  packet := given.packet
  origin := given.server
  home := given.server
  maxHops := 0
  Forwards _ _ _ := True
  Enough _ _ := True
  enough_refl _ := trivial

theorem Turn.of_origination {turn : Turn} {given : Origination}
    (isGiven : turn.origination = some given) :
    ∃ scan rememberAt lookupAt, turn = .act (.originate given.server given.packet
      given.messageId scan rememberAt lookupAt) := by
  unfold Turn.origination at isGiven
  split at isGiven
  · rename_i server packet messageId scan rememberAt lookupAt
    cases isGiven
    exact ⟨scan, rememberAt, lookupAt, rfl⟩
  · cases isGiven

theorem fresh_turn {base64 : Base64} {given : Origination} {world : World} {turn : Turn}
    (fresh : (given.flood base64).Fresh world)
    (kept : ∀ server seen, turn ≠ .forget server seen)
    (other : ∀ earlier, turn.origination = some earlier → earlier.messageId ≠ given.messageId) :
    (given.flood base64).Fresh (world.turn base64 turn) := by
  cases turn with
  | act action =>
      apply Flood.Fresh.step fresh
      rintro server packet scan rememberAt lookupAt rfl
      exact other ⟨server, given.messageId, packet⟩ rfl rfl
  | reroute changed hints =>
      refine ⟨fresh.inFlight, fresh.awaiting, fresh.accepted, ?_⟩
      intro server seen
      apply fresh.unseen server
      have same : ((world.turn base64 (.reroute changed hints)).server server).seenIds =
          (world.server server).seenIds := seenIds_update_same world server rfl
      unfold Flood.Seen at seen ⊢
      rw [same] at seen
      exact seen
  | forget changed seen => exact absurd rfl (kept changed seen)

theorem fresh_exec {base64 : Base64} {start : World} {turns : List Turn} {given : Origination}
    (blank : start.Blank) (empty : ∀ server, (start.server server).seenIds = ∅)
    (kept : ∀ server seen, .forget server seen ∉ turns)
    (unused : given.messageId ∉ drawnIds turns) :
    (given.flood base64).Fresh (exec (World.turn base64) start turns) := by
  induction turns using List.reverseRecOn with
  | nil =>
      refine ⟨?_, ?_, ?_, ?_⟩
      · change ∀ transit ∈ start.inFlight, _
        rw [blank.inFlight]
        exact nofun
      · change ∀ entry ∈ start.awaiting, _
        rw [blank.awaiting]
        exact nofun
      · change ∀ entry ∈ start.accepted, _
        rw [blank.accepted]
        exact nofun
      · intro server seen
        apply seen
        change (start.server server).seenIds.lookup given.messageId = none
        rw [empty]
        rfl
  | append_singleton turns turn ih =>
      rw [drawnIds, List.filterMap_append, List.mem_append, not_or] at unused
      have earlier := ih
        (fun server seen member => kept server seen (List.mem_append_left _ member)) unused.1
      rw [exec_snoc]
      refine fresh_turn earlier ?_ ?_
      · rintro server seen rfl
        exact kept server seen (List.mem_append_right _ List.mem_cons_self)
      · intro drawn isDrawn same
        apply unused.2
        rw [List.mem_filterMap]
        refine ⟨turn, List.mem_cons_self, ?_⟩
        rw [isDrawn, Option.map_some, same]

theorem accepts_of_drawn {base64 : Base64} {start : World} {turns : List Turn}
    (blank : start.Blank) (empty : ∀ server, (start.server server).seenIds = ∅)
    (kept : ∀ server seen, .forget server seen ∉ turns) (fresh : (drawnIds turns).Nodup)
    {server messageId : String} :
    ∀ event ∈ trace (World.turn base64) start turns,
      event.input.originates server messageId = true →
      event.before.accepts server messageId event.input = true := by
  intro event member originates
  obtain ⟨early, late, split, before⟩ := before_of_mem_trace (World.turn base64) member
  obtain ⟨given, isGiven, same⟩ := (Option.any_eq_true _ _).mp originates
  obtain ⟨rfl, rfl⟩ := of_decide_eq_true same
  rw [split, drawnIds, List.filterMap_append, List.filterMap_cons_some
    (b := given.messageId) (by rw [isGiven]; rfl)] at fresh
  have unused : given.messageId ∉ drawnIds early := fun earlier =>
    (List.nodup_append.mp fresh).2.2 given.messageId earlier given.messageId List.mem_cons_self rfl
  have freshHere : (given.flood base64).Fresh (exec (World.turn base64) start early) := by
    apply fresh_exec blank empty
    · intro changed seen isEarly
      apply kept changed seen
      rw [split]
      exact List.mem_append_left _ isEarly
    · exact unused
  obtain ⟨scan, rememberAt, lookupAt, asked⟩ := Turn.of_origination isGiven
  unfold World.accepts
  rw [asked, before]
  dsimp only [World.rememberCall]
  rw [if_pos rfl, Option.any_some, Bool.and_eq_true]
  refine ⟨decide_eq_true rfl, rememberMessage_of_new scan rememberAt ?_⟩
  exact Classical.not_not.mp (freshHere.unseen given.server)

/-! ### Every run -/

/-- Each server hands a message to its local relay and forwards it at most once, and the
server that gave it to the mesh does neither with a copy that comes back. -/
theorem message_processed_at_most_once (base64 : Base64) (start : World) (blank : start.Blank)
    (empty : ∀ server, (start.server server).seenIds = ∅) (turns : List Turn)
    (kept : ∀ server seen, .forget server seen ∉ turns) (fresh : (drawnIds turns).Nodup)
    (ordered : ∀ server, Ordered (serverCalls base64 start turns server))
    (paced : ∀ server, Paced (serverCalls base64 start turns server))
    (timely : ∀ server messageId, Timely (serverCalls base64 start turns server) messageId)
    (server messageId : String) :
    let events := trace (World.turn base64) start turns
    let handed := (exec (World.turn base64) start turns).handed.filter
      (Accepted.isOf server messageId)
    handed.length ≤ 1 ∧
      events.countP (fun event => event.before.runsForward server messageId event.input) ≤ 1 ∧
      ((∃ turn ∈ turns, turn.originates server messageId = true) →
        handed = [] ∧
          ∀ event ∈ events, event.before.runsForward server messageId event.input = true →
            event.input.originates server messageId = true) := by
  have tally : Tally server messageId (trace (World.turn base64) start turns)
      (exec (World.turn base64) start turns) :=
    tally_exec blank (accepts_of_drawn blank empty kept fresh)
  have once := accepted_at_most_once (ordered server) (paced server) (timely server messageId)
  rw [← countP_accepts base64 empty kept server messageId] at once
  have accepted := tally.accepted
  have waited := tally.waited
  have handed := tally.handed
  have forwards : (trace (World.turn base64) start turns).countP
        (fun event => event.before.runsForward server messageId event.input) ≤
      (trace (World.turn base64) start turns).countP
          (fun event => event.input.originates server messageId) +
        (trace (World.turn base64) start turns).countP
          (fun event => event.before.resumes server messageId event.input) :=
    countP_le_add fun event _ => originates_or_resumes
  dsimp only
  rw [← List.length_eq_zero_iff, ← List.countP_eq_length_filter]
  refine ⟨by omega, by omega, ?_⟩
  rintro ⟨turn, isTurn, originates⟩
  have given : 0 < (trace (World.turn base64) start turns).countP
      (fun event => event.input.originates server messageId) := by
    rw [← map_input_trace (World.turn base64) start turns] at isTurn
    obtain ⟨event, isEvent, rfl⟩ := List.mem_map.mp isTurn
    exact List.countP_pos_iff.mpr ⟨event, isEvent, originates⟩
  refine ⟨by omega, ?_⟩
  intro event isEvent forward
  rcases originates_or_resumes forward with isOwn | isCopy
  · exact isOwn
  · have resumed := List.countP_pos_iff.mpr
      (⟨event, isEvent, isCopy⟩ : ∃ event ∈ trace (World.turn base64) start turns,
        event.before.resumes server messageId event.input = true)
    omega

/-! ### Runs by one clock -/

def Turn.reading : Turn → Option Nat
  | .act (.originate _ _ _ _ rememberAt _) => some rememberAt
  | .act (.receive _ _ rememberAt _) => some rememberAt
  | _ => none

theorem reading_of_rememberCall {world : World} {server : String} {turn : Turn}
    {call : Remember} (called : world.rememberCall server turn = some call) :
    turn.reading = some call.now := by
  unfold World.rememberCall at called
  split at called
  · split at called
    · cases called
      rfl
    · cases called
  · split at called
    · cases called
    · split at called
      · cases called
      · split at called
        · cases called
          rfl
        · cases called
  · cases called

theorem readings_sublist (base64 : Base64) (start : World) (turns : List Turn)
    (server : String) :
    ((serverCalls base64 start turns server).map Remember.now).Sublist
      (turns.filterMap Turn.reading) := by
  induction turns using List.reverseRecOn with
  | nil => exact List.Sublist.refl _
  | append_singleton turns turn ih =>
      rw [serverCalls_snoc, List.map_append, List.filterMap_append]
      apply List.Sublist.append ih
      cases called : (exec (World.turn base64) start turns).rememberCall server turn with
      | none => exact List.nil_sublist _
      | some call =>
          rw [List.filterMap_cons_some (reading_of_rememberCall called)]
          exact List.Sublist.refl _

theorem paced_of_few {calls : List Remember} (few : calls.length < maxSeenIds) :
    Paced calls := by
  intro since
  have accepted : (acceptedCalls calls).length ≤ calls.length := by
    unfold acceptedCalls
    rw [List.length_map, ← congrArg List.length (map_input_trace remember ∅ calls),
      List.length_map]
    exact List.length_filter_le _ _
  have inWindow := List.length_filter_le (fun call : Remember =>
    decide (since ≤ call.now ∧ call.now < since + seenTtl)) (acceptedCalls calls)
  have distinct := (List.dedup_sublist (((acceptedCalls calls).filter
    (fun call => since ≤ call.now ∧ call.now < since + seenTtl)).map
      Remember.messageId)).length_le
  rw [List.length_map] at distinct
  omega

def triangleTurns : List Turn :=
  [.reroute "a" ((∅ : Table String RouteHint).insert "x" { peerId := "b", updatedAt := 0 }),
    .act (.originate "a" samplePacket "m" inOrder 0 0),
    .act (.receive 0 inOrder 1 1), .act (.resume 0 false 1),
    .act (.receive 0 inOrder 2 2), .act (.resume 0 false 2),
    .act (.receive 0 inOrder 3 3)]

def triangle : World := linkedMesh [("a", "b"), ("b", "c"), ("c", "a")] 5

theorem sample_message_processed_at_most_once :
    (exec (World.turn standardBase64) triangle triangleTurns).handed.map Accepted.server =
        ["b", "c"] ∧
      (trace (World.turn standardBase64) triangle triangleTurns).countP
        (fun event => event.before.runsForward "c" "m" event.input) ≤ 1 ∧
      (exec (World.turn standardBase64) triangle triangleTurns).handed.filter
        (Accepted.isOf "a" "m") = [] := by
  have kept : ∀ server seen, Turn.forget server seen ∉ triangleTurns := by
    intro server seen
    simp [triangleTurns]
  have readings := readings_sublist standardBase64 triangle triangleTurns
  have once := message_processed_at_most_once standardBase64 triangle ⟨rfl, rfl, rfl, rfl⟩
    (fun _ => rfl) triangleTurns kept (by decide)
    (fun server => List.pairwise_map.mp
      ((by decide : (triangleTurns.filterMap Turn.reading).Pairwise (· ≤ ·)).sublist
        (readings server)))
    (fun server => paced_of_few (by
      have few := (readings server).length_le
      rw [List.length_map] at few
      exact Nat.lt_of_le_of_lt few (by decide)))
    (fun server messageId => ⟨0, fun call member _ => ⟨Nat.zero_le _, by
      have early : ∀ reading ∈ triangleTurns.filterMap Turn.reading, reading < 0 + seenTtl := by
        decide
      exact early call.now ((readings server).subset (List.mem_map_of_mem member))⟩⟩)
  refine ⟨by decide +kernel, (once "c" "m").2.1, ((once "a" "m").2.2 ?_).1⟩
  decide

end Lightscale.Mesh
