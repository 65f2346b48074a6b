/-
The map of connections of the stream relay.

A connection is in the map from its registration to its end, under the node id of its
first frame and nowhere else.  The one way out of the read loop that would skip the end is
an error of the delivery, which can only come from an id that is too long for a packet;
the parser that read the id has excluded that.
-/

import Lightscale.Relay.Stream

namespace Lightscale.Relay

open Foundation

/-- The first frame that the connection read registers the node id. -/
def RegisteredAs (past : List (Event StreamRelay RelayAction)) (connId : Nat)
    (nodeId : String) : Prop :=
  ∃ event ∈ past, ∃ index frame, event.input = .read index (.ok frame) ∧
    event.before.clients[index]? = some ⟨connId, .waiting⟩ ∧
    parsePacket streamMagic frame = .ok (some (.register nodeId))

theorem RegisteredAs.mono {past : List (Event StreamRelay RelayAction)} {connId : Nat}
    {nodeId : String} (registered : RegisteredAs past connId nodeId)
    (event : Event StreamRelay RelayAction) : RegisteredAs (past ++ [event]) connId nodeId := by
  obtain ⟨earlier, member, found⟩ := registered
  exact ⟨earlier, List.mem_append_left _ member, found⟩

def Emission.CarriesFrom (nodeId : String) : Emission → Prop
  | .frame _ _ bytes =>
      ∃ payload, buildPacket streamMagic typeDeliver nodeId "" payload = .ok bytes
  | .mesh _ packet => packet.fromId = nodeId
  | .answer _ => True

/-- The connections, the map and the emissions fit together. -/
structure Registry (past : List (Event StreamRelay RelayAction)) (relay : StreamRelay) :
    Prop where
  numbered : Numbered (fun client : Client => some client.connId) relay.nextConnId relay.clients
  named : ∀ (index connId : Nat) phase nodeId, relay.clients[index]? = some ⟨connId, phase⟩ →
    phase.nodeId = some nodeId → RegisteredAs past connId nodeId
  nonempty : ∀ nodeId conns, relay.peers.lookup nodeId = some conns → conns ≠ []
  nodup : ∀ nodeId conns, relay.peers.lookup nodeId = some conns → conns.Nodup
  owned : ∀ nodeId conns connId, relay.peers.lookup nodeId = some conns → connId ∈ conns →
    ∃ (index : Nat) (phase : Phase), relay.clients[index]? = some ⟨connId, phase⟩ ∧
      phase.entered = some nodeId
  emitted : ∀ emission ∈ relay.emitted, ∀ reader, emission.reader = some reader →
    ∃ nodeId, RegisteredAs past reader nodeId ∧ emission.CarriesFrom nodeId

theorem initial_registry (hasMesh : Bool) : Registry [] (StreamRelay.initial hasMesh) := by
  refine ⟨Numbered.nil _ _, nofun, ?_, ?_, ?_, nofun⟩
  · intro nodeId conns found
    cases found
  · intro nodeId conns found
    cases found
  · intro nodeId conns connId found
    cases found

theorem RegisteredAs.short {past : List (Event StreamRelay RelayAction)} {connId : Nat}
    {nodeId : String} (registered : RegisteredAs past connId nodeId) :
    (utf8Bytes nodeId).length ≤ maxIdLen := by
  obtain ⟨event, _, index, frame, _, _, parsed⟩ := registered
  exact (isId_of_parsePacket rfl parsed).short

section

variable {past : List (Event StreamRelay RelayAction)} {relay after : StreamRelay}

theorem Registry.same_client (registry : Registry past relay) {left right connId : Nat}
    {first second : Phase} (leftAt : relay.clients[left]? = some ⟨connId, first⟩)
    (rightAt : relay.clients[right]? = some ⟨connId, second⟩) : left = right ∧ first = second := by
  have same := registry.numbered.distinct left right _ _ connId leftAt rightAt rfl rfl
  subst same
  rw [leftAt, Option.some.injEq, Client.mk.injEq] at rightAt
  exact ⟨rfl, rightAt.2⟩

theorem Registry.entered_of_mem (registry : Registry past relay) {index connId : Nat}
    {phase : Phase} (atIndex : relay.clients[index]? = some ⟨connId, phase⟩) {nodeId : String}
    {conns : List Nat} (found : relay.peers.lookup nodeId = some conns)
    (member : connId ∈ conns) : phase.entered = some nodeId := by
  obtain ⟨position, other, atPosition, entered⟩ := registry.owned nodeId conns connId found member
  rw [(registry.same_client atIndex atPosition).2]
  exact entered

theorem numbered_set (registry : Registry past relay) {index connId : Nat} {phase moved : Phase}
    (atIndex : relay.clients[index]? = some ⟨connId, phase⟩) :
    Numbered (fun client : Client => some client.connId) relay.nextConnId
      (relay.clients.set index ⟨connId, moved⟩) := by
  apply registry.numbered.move (Nat.le_refl _) atIndex
  intro number isNumber
  exact Or.inl isNumber

theorem named_set (registry : Registry past relay) {index connId : Nat} {phase moved : Phase}
    (event : Event StreamRelay RelayAction)
    (atIndex : relay.clients[index]? = some ⟨connId, phase⟩)
    (keeps : ∀ nodeId, moved.nodeId = some nodeId → phase.nodeId = some nodeId ∨
      RegisteredAs (past ++ [event]) connId nodeId) :
    ∀ (position other : Nat) otherPhase nodeId,
      (relay.clients.set index ⟨connId, moved⟩)[position]? = some ⟨other, otherPhase⟩ →
      otherPhase.nodeId = some nodeId → RegisteredAs (past ++ [event]) other nodeId := by
  intro position other otherPhase nodeId found isNamed
  rcases getElem?_set_cases found with ⟨_, isMoved⟩ | ⟨_, old⟩
  · cases isMoved
    rcases keeps nodeId isNamed with old | new
    · exact (registry.named index connId phase nodeId atIndex old).mono event
    · exact new
  · exact (registry.named position other otherPhase nodeId old isNamed).mono event

theorem owned_set (registry : Registry past relay) {index connId : Nat} {phase moved : Phase}
    (atIndex : relay.clients[index]? = some ⟨connId, phase⟩)
    (sameEntry : moved.entered = phase.entered) :
    ∀ nodeId conns number, relay.peers.lookup nodeId = some conns → number ∈ conns →
      ∃ (position : Nat) (other : Phase),
        (relay.clients.set index ⟨connId, moved⟩)[position]? = some ⟨number, other⟩ ∧
          other.entered = some nodeId := by
  intro nodeId conns number found member
  obtain ⟨position, other, atPosition, entered⟩ :=
    registry.owned nodeId conns number found member
  by_cases same : position = index
  · subst same
    rw [atIndex, Option.some.injEq, Client.mk.injEq] at atPosition
    obtain ⟨rfl, rfl⟩ := atPosition
    exact ⟨position, moved, getElem?_set_moved atIndex, sameEntry.trans entered⟩
  · exact ⟨position, other, getElem?_set_of_ne same atPosition, entered⟩

theorem owned_of_other (registry : Registry past relay) {index connId : Nat}
    {phase : Phase} (moved : Phase) (atIndex : relay.clients[index]? = some ⟨connId, phase⟩)
    {nodeId : String} {conns : List Nat} {number : Nat}
    (found : relay.peers.lookup nodeId = some conns) (member : number ∈ conns)
    (different : number ≠ connId) :
    ∃ (position : Nat) (other : Phase),
      (relay.clients.set index ⟨connId, moved⟩)[position]? = some ⟨number, other⟩ ∧
        other.entered = some nodeId := by
  obtain ⟨position, other, atPosition, entered⟩ :=
    registry.owned nodeId conns number found member
  refine ⟨position, other, getElem?_set_of_ne ?_ atPosition, entered⟩
  intro same
  rw [same, atIndex, Option.some.injEq, Client.mk.injEq] at atPosition
  exact different atPosition.1.symm

theorem emitted_mono (registry : Registry past relay) (event : Event StreamRelay RelayAction) :
    ∀ emission ∈ relay.emitted, ∀ reader, emission.reader = some reader →
      ∃ nodeId, RegisteredAs (past ++ [event]) reader nodeId ∧ emission.CarriesFrom nodeId := by
  intro emission member reader isReader
  obtain ⟨nodeId, registered, carries⟩ := registry.emitted emission member reader isReader
  exact ⟨nodeId, registered.mono event, carries⟩

theorem Registry.register (registry : Registry past relay) {index connId : Nat}
    {nodeId : String} (event : Event StreamRelay RelayAction)
    (atIndex : relay.clients[index]? = some ⟨connId, .registering nodeId⟩)
    (clients : after.clients = relay.clients.set index ⟨connId, .serving nodeId⟩)
    (peers : after.peers = pushConn relay.peers nodeId connId)
    (next : after.nextConnId = relay.nextConnId) (emitted : after.emitted = relay.emitted) :
    Registry (past ++ [event]) after := by
  -- The number is in no list yet, since its connection is not in a phase that says so.
  have absent : ∀ key conns, relay.peers.lookup key = some conns → connId ∉ conns := by
    intro key conns found member
    cases registry.entered_of_mem atIndex found member
  have stored : ∀ key conns, after.peers.lookup key = some conns →
      relay.peers.lookup key = some conns ∨
        ∃ list, key = nodeId ∧ conns = list ++ [connId] ∧
          (list = [] ∨ relay.peers.lookup nodeId = some list) := by
    intro key conns found
    rw [peers, lookup_pushConn] at found
    by_cases same : key = nodeId
    · rw [if_pos same, Option.some.injEq] at found
      refine Or.inr ⟨_, same, found.symm, ?_⟩
      cases relay.peers.lookup nodeId with
      | none => exact Or.inl rfl
      | some list => exact Or.inr rfl
    · rw [if_neg same] at found
      exact Or.inl found
  refine ⟨?_, ?_, ?_, ?_, ?_, ?_⟩
  · rw [clients, next]
    exact numbered_set registry atIndex
  · rw [clients]
    apply named_set registry event atIndex
    intro other isNamed
    exact Or.inl isNamed
  · intro key conns found
    rcases stored key conns found with old | ⟨list, _, rfl, _⟩
    · exact registry.nonempty key conns old
    · exact List.append_ne_nil_of_right_ne_nil _ (List.cons_ne_nil _ _)
  · intro key conns found
    rcases stored key conns found with old | ⟨list, _, rfl, rfl | before⟩
    · exact registry.nodup key conns old
    · exact List.nodup_singleton connId
    · apply List.nodup_append.mpr
      refine ⟨registry.nodup nodeId list before, List.nodup_singleton connId, ?_⟩
      intro left inList right isNew same
      rw [same, List.mem_singleton.mp isNew] at inList
      exact absent nodeId list before inList
  · intro key conns number found member
    rw [clients]
    have others : ∀ list, relay.peers.lookup key = some list → number ∈ list →
        ∃ (position : Nat) (other : Phase),
          (relay.clients.set index ⟨connId, .serving nodeId⟩)[position]? =
            some ⟨number, other⟩ ∧ other.entered = some key := by
      intro list before inList
      apply owned_of_other registry (.serving nodeId) atIndex before inList
      rintro rfl
      exact absent key list before inList
    rcases stored key conns found with old | ⟨list, rfl, rfl, before⟩
    · exact others conns old member
    · rcases List.mem_append.mp member with inList | isNew
      · rcases before with rfl | before
        · cases inList
        · exact others list before inList
      · rw [List.mem_singleton.mp isNew]
        exact ⟨index, .serving key, getElem?_set_moved atIndex, rfl⟩
  · rw [emitted]
    exact emitted_mono registry event

theorem Registry.leave (registry : Registry past relay) {index connId : Nat} {nodeId : String}
    (event : Event StreamRelay RelayAction)
    (atIndex : relay.clients[index]? = some ⟨connId, .leaving nodeId⟩)
    (clients : after.clients = relay.clients.set index ⟨connId, .returned (.ok ())⟩)
    (peers : after.peers = dropConn relay.peers nodeId connId)
    (next : after.nextConnId = relay.nextConnId) (emitted : after.emitted = relay.emitted) :
    Registry (past ++ [event]) after := by
  have stored : ∀ key conns, after.peers.lookup key = some conns →
      conns ≠ [] ∧ ∃ list, relay.peers.lookup key = some list ∧ conns.Sublist list ∧
        connId ∉ conns := by
    intro key conns found
    rw [peers] at found
    rcases lookup_dropConn found with ⟨different, old⟩ | ⟨isNode, isKept, list, before, isLeft⟩
    · refine ⟨registry.nonempty key conns old, conns, old, List.Sublist.refl _, ?_⟩
      intro member
      have entered := registry.entered_of_mem atIndex old member
      exact different (Option.some.inj entered).symm
    · subst isLeft
      rw [isNode]
      refine ⟨isKept, list, before, List.filter_sublist, ?_⟩
      intro member
      have different : connId ≠ connId := of_decide_eq_true (List.mem_filter.mp member).2
      exact different rfl
  refine ⟨?_, ?_, ?_, ?_, ?_, ?_⟩
  · rw [clients, next]
    exact numbered_set registry atIndex
  · rw [clients]
    apply named_set registry event atIndex
    intro other isNamed
    cases isNamed
  · intro key conns found
    exact (stored key conns found).1
  · intro key conns found
    obtain ⟨_, list, before, fewer, _⟩ := stored key conns found
    exact (registry.nodup key list before).sublist fewer
  · intro key conns number found member
    obtain ⟨_, list, before, fewer, gone⟩ := stored key conns found
    rw [clients]
    apply owned_of_other registry _ atIndex before (fewer.subset member)
    rintro rfl
    exact gone member
  · rw [emitted]
    exact emitted_mono registry event

theorem carriesFrom_of_emissions {connId : Nat} {nodeId toId : String} {payload : List UInt8}
    {sent : List (Nat × List UInt8)}
    (built : ∀ target ∈ sent,
      buildPacket streamMagic typeDeliver nodeId "" payload = .ok target.2)
    {emission : Emission} (member : emission ∈ relay.emissions connId nodeId toId payload sent) :
    emission.reader = some connId ∧ emission.CarriesFrom nodeId := by
  unfold StreamRelay.emissions at member
  rcases List.mem_append.mp member with isFrame | isMesh
  · obtain ⟨target, isSent, rfl⟩ := List.mem_map.mp isFrame
    exact ⟨rfl, payload, built target isSent⟩
  · split at isMesh
    · rw [List.mem_singleton.mp isMesh]
      exact ⟨rfl, rfl⟩
    · cases isMesh

theorem Registry.move (registry : Registry past relay) {index connId : Nat}
    {phase moved : Phase} (event : Event StreamRelay RelayAction)
    (atIndex : relay.clients[index]? = some ⟨connId, phase⟩)
    (clients : after.clients = relay.clients.set index ⟨connId, moved⟩)
    (peers : after.peers = relay.peers) (next : after.nextConnId = relay.nextConnId)
    (sameEntry : moved.entered = phase.entered)
    (named : ∀ nodeId, moved.nodeId = some nodeId → phase.nodeId = some nodeId ∨
      RegisteredAs (past ++ [event]) connId nodeId)
    (emitted : ∀ emission ∈ after.emitted, ∀ reader, emission.reader = some reader →
      ∃ nodeId, RegisteredAs (past ++ [event]) reader nodeId ∧ emission.CarriesFrom nodeId) :
    Registry (past ++ [event]) after := by
  refine ⟨?_, ?_, ?_, ?_, ?_, emitted⟩
  · rw [clients, next]
    exact numbered_set registry atIndex
  · rw [clients]
    exact named_set registry event atIndex named
  · rw [peers]
    exact registry.nonempty
  · rw [peers]
    exact registry.nodup
  · rw [clients, peers]
    exact owned_set registry atIndex sameEntry

theorem Registry.step (registry : Registry past relay) (action : RelayAction) :
    Registry (past ++ [eventAt StreamRelay.step relay action]) (relay.step action) := by
  cases relayStep relay action with
  | kept clients peers next new emitted noReader =>
      refine ⟨?_, ?_, ?_, ?_, ?_, ?_⟩
      · rw [clients, next]
        exact registry.numbered
      · rw [clients]
        intro index connId phase nodeId found isNamed
        exact (registry.named index connId phase nodeId found isNamed).mono _
      · rw [peers]
        exact registry.nonempty
      · rw [peers]
        exact registry.nodup
      · rw [clients, peers]
        exact registry.owned
      · rw [emitted]
        intro emission member reader isReader
        rcases List.mem_append.mp member with old | isNew
        · exact emitted_mono registry _ emission old reader isReader
        · rw [noReader emission isNew] at isReader
          cases isReader
  | accepted clients peers next emitted =>
      refine ⟨?_, ?_, ?_, ?_, ?_, ?_⟩
      · rw [clients, next]
        apply registry.numbered.spawn (Nat.le_succ _)
        intro number isNumber
        cases isNumber
        exact ⟨Nat.le_refl _, Nat.lt_succ_self _⟩
      · rw [clients]
        intro index connId phase nodeId found isNamed
        rcases getElem?_snoc_cases found with ⟨_, isNew⟩ | old
        · cases isNew
          cases isNamed
        · exact (registry.named index connId phase nodeId old isNamed).mono _
      · rw [peers]
        exact registry.nonempty
      · rw [peers]
        exact registry.nodup
      · rw [clients, peers]
        intro nodeId conns connId found member
        obtain ⟨index, phase, atIndex, entered⟩ := registry.owned nodeId conns connId found member
        exact ⟨index, phase, getElem?_snoc_of_some _ atIndex, entered⟩
      · rw [emitted]
        exact emitted_mono registry _
  | moved index connId phase moved atIndex clients peers next emitted sameEntry named =>
      apply registry.move _ atIndex clients peers next sameEntry
      · intro nodeId isNamed
        rcases named nodeId isNamed with old | ⟨isWaiting, frame, asked, parsed⟩
        · exact Or.inl old
        · rw [isWaiting] at atIndex
          exact Or.inr ⟨_, List.mem_append_right _ List.mem_cons_self, index, frame, asked,
            atIndex, parsed⟩
      · rw [emitted]
        exact emitted_mono registry _
  | registered index connId nodeId atIndex clients peers next emitted =>
      exact registry.register _ atIndex clients peers next emitted
  | delivered index connId nodeId toId payload sent atIndex wasSent clients peers next emitted =>
      have registered := registry.named index connId _ nodeId atIndex rfl
      obtain ⟨frames, isSent, built⟩ := deliverLocal_ok relay registered.short toId payload
      rw [wasSent, Except.ok.injEq] at isSent
      subst isSent
      apply registry.move _ atIndex clients peers next rfl
      · intro other isNamed
        exact Or.inl isNamed
      · rw [emitted]
        intro emission member reader isReader
        rcases List.mem_append.mp member with old | isNew
        · exact emitted_mono registry _ emission old reader isReader
        · obtain ⟨isOwn, carries⟩ := carriesFrom_of_emissions built isNew
          rw [isOwn, Option.some.injEq] at isReader
          rw [← isReader]
          exact ⟨nodeId, registered.mono _, carries⟩
  | failed index connId nodeId toId payload error atIndex notSent =>
      -- The early return needs an id that the parser does not let through.
      have registered := registry.named index connId _ nodeId atIndex rfl
      obtain ⟨sent, isSent, _⟩ := deliverLocal_ok relay registered.short toId payload
      rw [isSent] at notSent
      cases notSent
  | left index connId nodeId atIndex clients peers next emitted =>
      exact registry.leave _ atIndex clients peers next emitted

end

theorem run_registry (hasMesh : Bool) (actions : List RelayAction) :
    Registry (trace StreamRelay.step (StreamRelay.initial hasMesh) actions)
      (exec StreamRelay.step (StreamRelay.initial hasMesh) actions) :=
  trace_invariant StreamRelay.step Registry (StreamRelay.initial hasMesh)
    (initial_registry hasMesh) (fun _ _ action registry => registry.step action) actions

/-- In every run the map holds no empty list, a connection is in it at most once, under the
node id of its first frame and only until it returns, and what is emitted on account of a
connection comes from that node id. -/
theorem stream_registry_invariant (hasMesh : Bool) (actions : List RelayAction) :
    let relay := exec StreamRelay.step (StreamRelay.initial hasMesh) actions
    let events := trace StreamRelay.step (StreamRelay.initial hasMesh) actions
    (∀ nodeId conns, relay.peers.lookup nodeId = some conns → conns ≠ [] ∧ conns.Nodup) ∧
      (∀ nodeId conns connId, relay.peers.lookup nodeId = some conns → connId ∈ conns →
        RegisteredAs events connId nodeId ∧
          ∀ other otherConns, relay.peers.lookup other = some otherConns →
            connId ∈ otherConns → other = nodeId) ∧
      (∀ (index connId : Nat) result,
        relay.clients[index]? = some ⟨connId, .returned result⟩ →
        ∀ nodeId conns, relay.peers.lookup nodeId = some conns → connId ∉ conns) ∧
      ∀ emission ∈ relay.emitted, ∀ reader, emission.reader = some reader →
        ∃ nodeId, RegisteredAs events reader nodeId ∧ emission.CarriesFrom nodeId := by
  have registry := run_registry hasMesh actions
  refine ⟨?_, ?_, ?_, registry.emitted⟩
  · intro nodeId conns found
    exact ⟨registry.nonempty nodeId conns found, registry.nodup nodeId conns found⟩
  · intro nodeId conns connId found member
    obtain ⟨index, phase, atIndex, entered⟩ := registry.owned nodeId conns connId found member
    refine ⟨registry.named index connId phase nodeId atIndex ?_, ?_⟩
    · exact Phase.nodeId_of_entered entered
    · intro other otherConns otherFound otherMember
      have alsoEntered := registry.entered_of_mem atIndex otherFound otherMember
      rw [entered, Option.some.injEq] at alsoEntered
      exact alsoEntered.symm
  · intro index connId result atIndex nodeId conns found member
    cases registry.entered_of_mem atIndex found member

end Lightscale.Relay
