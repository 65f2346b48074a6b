/-
The connections of one mesh server.

Every connection runs as a task of its own.  After the exchange of hello frames it draws
a number, enters itself in the map of peers under the name the other side gave, starts a
writer, and reads lines until the other side closes.  The map keeps one sender a peer, so
a second connection to the same peer replaces the first, and a connection removes its
entry only if the number in the map is still its own.

Two servers that dial each other have two connections in the normal case.
-/

import Lightscale.Foundation.Execution
import Lightscale.Foundation.Tasks
import Lightscale.Mesh.Relay

namespace Lightscale.Mesh

open Foundation

/-- What a server knows about itself and its peers, and the JSON parser. -/
structure Membership where
  serverId : String
  allowedPeers : List String
  parse : String → Option MeshFrame

def validatePeer (membership : Membership) (expectedPeer : Option String) (peerId : String) :
    Except String Unit := do
  if peerId = "" then
    throw "mesh peer id is empty"
  if peerId = membership.serverId then
    throw "mesh peer id matched local server id"
  if let some expected := expectedPeer then
    if expected ≠ peerId then
      throw s!"mesh peer id mismatch: expected {expected}, got {peerId}"
  if membership.allowedPeers = [] then
    throw "mesh peer allowlist is empty"
  if peerId ∉ membership.allowedPeers then
    throw s!"mesh peer {peerId} is not in allowlist"

/-- What the next read of a line delivers.  Bytes that are not UTF-8 are an error. -/
inductive ReadLine where
  | line (text : String)
  | eof
  | error
  deriving DecidableEq

def greet (membership : Membership) (expectedPeer : Option String) (written : Bool)
    (helloLine : ReadLine) : Except String String :=
  if written = false then .error "mesh hello write failed"
  else
    match helloLine with
    | .error => .error "mesh hello read failed"
    | .eof => .error "mesh connection closed before hello"
    | .line text =>
        match membership.parse text with
        | none => .error "mesh hello parse failed"
        | some (.relay _) => .error "mesh expected hello frame"
        | some (.hello peerId) =>
            (validatePeer membership expectedPeer peerId).map fun _ => peerId

/-- How far `run_connection` has got. -/
inductive Connection where
  | greeting (expectedPeer : Option String)
  /-- The peer is known and the number drawn; the lock on the map is awaited. -/
  | admitted (peerId : String) (connId : Nat)
  | reading (peerId : String) (connId : Nat)
  /-- The read loop is over; the lock on the map is awaited. -/
  | closing (peerId : String) (connId : Nat)
  | returned (identity : Option (String × Nat)) (result : Except String Unit)
  deriving DecidableEq

def Connection.identity : Connection → Option (String × Nat)
  | .greeting _ => none
  | .admitted peerId connId => some (peerId, connId)
  | .reading peerId connId => some (peerId, connId)
  | .closing peerId connId => some (peerId, connId)
  | .returned identity _ => identity

def Connection.number (connection : Connection) : Option Nat :=
  connection.identity.map Prod.snd

/-- The connections of a server and what they share.  A sender is named by the number of
its connection; it works while the writer of that connection runs. -/
structure Hub where
  nextConnId : Nat
  peers : Table String Nat
  writers : List Nat
  connections : List Connection

def Hub.initial : Hub where
  nextConnId := 1
  peers := ∅
  writers := []
  connections := []

def Hub.senders (hub : Hub) : Table String PeerSender :=
  ⟨hub.peers.entries.map fun entry =>
      ⟨entry.1, { connId := entry.2, isOpen := decide (entry.2 ∈ hub.writers) }⟩, by
    change (List.map Sigma.fst (List.map _ hub.peers.entries)).Nodup
    rw [List.map_map]
    exact hub.peers.keys_nodup⟩

inductive HubAction where
  /-- A connection was accepted, or established to a configured peer. -/
  | start (expectedPeer : Option String)
  | greet (index : Nat) (written : Bool) (helloLine : ReadLine)
  | register (index : Nat)
  | read (index : Nat) (delivered : ReadLine)
  /-- The writer of a connection could not write a frame. -/
  | writeFailed (connId : Nat)
  | cleanUp (index : Nat)
  deriving DecidableEq

def Hub.set (hub : Hub) (index : Nat) (connection : Connection) : Hub :=
  { hub with connections := hub.connections.set index connection }

/-- One step of one connection.  A step that the connection is not ready for changes
nothing. -/
def Hub.step (membership : Membership) (hub : Hub) : HubAction → Hub
  | .start expectedPeer =>
      { hub with connections := hub.connections ++ [.greeting expectedPeer] }
  | .greet index written helloLine =>
      match hub.connections[index]? with
      | some (.greeting expectedPeer) =>
          match Mesh.greet membership expectedPeer written helloLine with
          | .error error => hub.set index (.returned none (.error error))
          | .ok peerId =>
              { hub.set index (.admitted peerId hub.nextConnId) with
                nextConnId := hub.nextConnId + 1 }
      | _ => hub
  | .register index =>
      match hub.connections[index]? with
      | some (.admitted peerId connId) =>
          { hub.set index (.reading peerId connId) with
            peers := hub.peers.insert peerId connId
            writers := connId :: hub.writers }
      | _ => hub
  | .read index delivered =>
      match hub.connections[index]? with
      | some (.reading peerId connId) =>
          match delivered with
          -- A line that does not parse and a frame that cannot be handled are logged.
          | .line _ => hub
          | .eof =>
              { hub.set index (.closing peerId connId) with
                writers := hub.writers.filter fun writer => decide (writer ≠ connId) }
          | .error =>
              hub.set index (.returned (some (peerId, connId)) (.error "mesh read failed"))
      | _ => hub
  | .writeFailed connId =>
      { hub with writers := hub.writers.filter fun writer => decide (writer ≠ connId) }
  | .cleanUp index =>
      match hub.connections[index]? with
      | some (.closing peerId connId) =>
          { hub.set index (.returned (some (peerId, connId)) (.ok ())) with
            peers :=
              if hub.peers.lookup peerId = some connId then hub.peers.erase peerId
              else hub.peers }
      | _ => hub

/-! ### What one step does -/

/-- Everything a step can do to the connections and the map of peers. -/
inductive HubStep (hub : Hub) (action : HubAction) (after : Hub) : Prop where
  | kept (connections : after.connections = hub.connections) (peers : after.peers = hub.peers)
      (next : after.nextConnId = hub.nextConnId)
  | started (expectedPeer : Option String)
      (connections : after.connections = hub.connections ++ [.greeting expectedPeer])
      (peers : after.peers = hub.peers) (next : after.nextConnId = hub.nextConnId)
  | refused (index : Nat) (expectedPeer : Option String) (error : String)
      (atIndex : hub.connections[index]? = some (.greeting expectedPeer))
      (connections : after.connections =
        hub.connections.set index (.returned none (.error error)))
      (peers : after.peers = hub.peers) (next : after.nextConnId = hub.nextConnId)
  | admitted (index : Nat) (expectedPeer : Option String) (peerId : String)
      (atIndex : hub.connections[index]? = some (.greeting expectedPeer))
      (connections : after.connections =
        hub.connections.set index (.admitted peerId hub.nextConnId))
      (peers : after.peers = hub.peers) (next : after.nextConnId = hub.nextConnId + 1)
  | registered (index : Nat) (peerId : String) (connId : Nat)
      (atIndex : hub.connections[index]? = some (.admitted peerId connId))
      (connections : after.connections = hub.connections.set index (.reading peerId connId))
      (peers : after.peers = hub.peers.insert peerId connId)
      (next : after.nextConnId = hub.nextConnId)
  | ended (index : Nat) (peerId : String) (connId : Nat) (asked : action = .read index .eof)
      (atIndex : hub.connections[index]? = some (.reading peerId connId))
      (connections : after.connections = hub.connections.set index (.closing peerId connId))
      (peers : after.peers = hub.peers) (next : after.nextConnId = hub.nextConnId)
  | failed (index : Nat) (peerId : String) (connId : Nat) (asked : action = .read index .error)
      (atIndex : hub.connections[index]? = some (.reading peerId connId))
      (connections : after.connections = hub.connections.set index
        (.returned (some (peerId, connId)) (.error "mesh read failed")))
      (peers : after.peers = hub.peers) (next : after.nextConnId = hub.nextConnId)
  | cleaned (index : Nat) (peerId : String) (connId : Nat)
      (atIndex : hub.connections[index]? = some (.closing peerId connId))
      (connections : after.connections = hub.connections.set index
        (.returned (some (peerId, connId)) (.ok ())))
      (peers : after.peers =
        if hub.peers.lookup peerId = some connId then hub.peers.erase peerId else hub.peers)
      (next : after.nextConnId = hub.nextConnId)

theorem hubStep (membership : Membership) (hub : Hub) (action : HubAction) :
    HubStep hub action (hub.step membership action) := by
  cases action with
  | start expectedPeer => exact .started expectedPeer rfl rfl rfl
  | greet index written helloLine =>
      dsimp only [Hub.step]
      split
      · rename_i expectedPeer atIndex
        split
        · rename_i error _
          exact .refused index expectedPeer error atIndex rfl rfl rfl
        · rename_i peerId _
          exact .admitted index expectedPeer peerId atIndex rfl rfl rfl
      · exact .kept rfl rfl rfl
  | register index =>
      dsimp only [Hub.step]
      split
      · rename_i peerId connId atIndex
        exact .registered index peerId connId atIndex rfl rfl rfl
      · exact .kept rfl rfl rfl
  | read index delivered =>
      dsimp only [Hub.step]
      split
      · rename_i peerId connId atIndex
        cases delivered with
        | line text => exact .kept rfl rfl rfl
        | eof => exact .ended index peerId connId rfl atIndex rfl rfl rfl
        | error => exact .failed index peerId connId rfl atIndex rfl rfl rfl
      · exact .kept rfl rfl rfl
  | writeFailed connId => exact .kept rfl rfl rfl
  | cleanUp index =>
      dsimp only [Hub.step]
      split
      · rename_i peerId connId atIndex
        exact .cleaned index peerId connId atIndex rfl rfl rfl
      · exact .kept rfl rfl rfl

/-! ### Numbers and entries -/

/-- Connections have different numbers, and an entry of the map names a connection to its
peer. -/
structure Hub.Sound (hub : Hub) : Prop where
  numbered : Numbered Connection.number hub.nextConnId hub.connections
  owned : ∀ peerId connId, hub.peers.lookup peerId = some connId →
    ∃ (index : Nat) (connection : Connection), hub.connections[index]? = some connection ∧
      connection.identity = some (peerId, connId)

theorem Connection.number_of_identity {connection : Connection} {peerId : String} {connId : Nat}
    (identity : connection.identity = some (peerId, connId)) :
    connection.number = some connId := by
  unfold Connection.number
  rw [identity]
  rfl

section

variable {hub : Hub}

theorem Hub.Sound.same_index (sound : hub.Sound) {left right : Nat} {first second : Connection}
    {leftPeer rightPeer : String} {connId : Nat} (leftAt : hub.connections[left]? = some first)
    (rightAt : hub.connections[right]? = some second)
    (isFirst : first.identity = some (leftPeer, connId))
    (isSecond : second.identity = some (rightPeer, connId)) : left = right :=
  sound.numbered.distinct left right first second connId leftAt rightAt
    (Connection.number_of_identity isFirst) (Connection.number_of_identity isSecond)

theorem Hub.Sound.own_peer (sound : hub.Sound) {index : Nat} {connection : Connection}
    {peerId other : String} {connId : Nat} (atIndex : hub.connections[index]? = some connection)
    (identity : connection.identity = some (peerId, connId))
    (found : hub.peers.lookup other = some connId) : other = peerId := by
  obtain ⟨position, owner, atPosition, isOwner⟩ := sound.owned other connId found
  have same := sound.same_index atPosition atIndex isOwner identity
  subst same
  rw [atIndex, Option.some.injEq] at atPosition
  subst atPosition
  rw [identity, Option.some.injEq] at isOwner
  exact (congrArg Prod.fst isOwner).symm

theorem owned_set {index : Nat} {connection moved : Connection}
    (owned : ∀ peerId connId, hub.peers.lookup peerId = some connId →
      ∃ (index : Nat) (connection : Connection), hub.connections[index]? = some connection ∧
        connection.identity = some (peerId, connId))
    (atIndex : hub.connections[index]? = some connection)
    (keeps : ∀ identity, connection.identity = some identity →
      moved.identity = some identity) :
    ∀ peerId connId, hub.peers.lookup peerId = some connId →
      ∃ (position : Nat) (owner : Connection),
        (hub.connections.set index moved)[position]? = some owner ∧
          owner.identity = some (peerId, connId) := by
  intro peerId connId found
  obtain ⟨position, owner, atPosition, isOwner⟩ := owned peerId connId found
  by_cases same : position = index
  · subst same
    rw [atIndex, Option.some.injEq] at atPosition
    subst atPosition
    exact ⟨position, moved, getElem?_set_moved atIndex, keeps _ isOwner⟩
  · exact ⟨position, owner, getElem?_set_of_ne same atPosition, isOwner⟩

theorem lookup_of_cleaned {after : Hub} {peerId : String} {connId : Nat}
    (peers : after.peers =
      if hub.peers.lookup peerId = some connId then hub.peers.erase peerId else hub.peers)
    {other : String} {number : Nat} (found : after.peers.lookup other = some number) :
    hub.peers.lookup other = some number := by
  rw [peers] at found
  split at found
  · exact (Table.lookup_of_lookup_erase found).2
  · exact found

theorem Hub.Sound.of_moved (sound : hub.Sound) {after : Hub} {index : Nat}
    {connection moved : Connection} (atIndex : hub.connections[index]? = some connection)
    (connections : after.connections = hub.connections.set index moved)
    (same : moved.identity = connection.identity)
    (peers : ∀ peerId connId, after.peers.lookup peerId = some connId →
      hub.peers.lookup peerId = some connId ∨ moved.identity = some (peerId, connId))
    (next : after.nextConnId = hub.nextConnId) : after.Sound := by
  refine ⟨?_, ?_⟩
  · rw [connections, next]
    apply sound.numbered.move (Nat.le_refl hub.nextConnId) atIndex
    intro number isNumber
    unfold Connection.number at isNumber ⊢
    rw [same] at isNumber
    exact Or.inl isNumber
  · intro peerId connId found
    rw [connections]
    rcases peers peerId connId found with old | isMoved
    · apply owned_set sound.owned atIndex _ peerId connId old
      intro identity isIdentity
      rw [same]
      exact isIdentity
    · exact ⟨index, moved, getElem?_set_moved atIndex, isMoved⟩

theorem Hub.Sound.of_moved_only (sound : hub.Sound) {after : Hub} {index : Nat}
    {connection moved : Connection} (atIndex : hub.connections[index]? = some connection)
    (connections : after.connections = hub.connections.set index moved)
    (same : moved.identity = connection.identity) (peers : after.peers = hub.peers)
    (next : after.nextConnId = hub.nextConnId) : after.Sound := by
  apply sound.of_moved atIndex connections same _ next
  intro peerId connId found
  rw [peers] at found
  exact Or.inl found

theorem Hub.Sound.step (sound : hub.Sound) (membership : Membership) (action : HubAction) :
    (hub.step membership action).Sound := by
  cases hubStep membership hub action with
  | kept connections peers next =>
      refine ⟨?_, ?_⟩
      · rw [connections, next]
        exact sound.numbered
      · rw [connections, peers]
        exact sound.owned
  | started expectedPeer connections peers next =>
      refine ⟨?_, ?_⟩
      · rw [connections, next]
        exact sound.numbered.spawn (Nat.le_refl _) nofun
      · rw [connections, peers]
        intro peerId connId found
        obtain ⟨index, owner, atIndex, isOwner⟩ := sound.owned peerId connId found
        exact ⟨index, owner, getElem?_snoc_of_some _ atIndex, isOwner⟩
  | refused index expectedPeer error atIndex connections peers next =>
      exact sound.of_moved_only atIndex connections rfl peers next
  | admitted index expectedPeer peerId atIndex connections peers next =>
      refine ⟨?_, ?_⟩
      · rw [connections, next]
        apply sound.numbered.move (Nat.le_succ _) atIndex
        intro number isNumber
        change some hub.nextConnId = some number at isNumber
        rw [Option.some.injEq] at isNumber
        omega
      · rw [connections, peers]
        exact owned_set sound.owned atIndex nofun
  | registered index peerId connId atIndex connections peers next =>
      apply sound.of_moved atIndex connections rfl _ next
      intro other number found
      rw [peers, Table.lookup_insert_eq] at found
      by_cases same : other = peerId
      · rw [if_pos same, Option.some.injEq] at found
        rw [same, ← found]
        exact Or.inr rfl
      · rw [if_neg same] at found
        exact Or.inl found
  | ended index peerId connId asked atIndex connections peers next =>
      exact sound.of_moved_only atIndex connections rfl peers next
  | failed index peerId connId asked atIndex connections peers next =>
      exact sound.of_moved_only atIndex connections rfl peers next
  | cleaned index peerId connId atIndex connections peers next =>
      apply sound.of_moved atIndex connections rfl _ next
      intro other number found
      exact Or.inl (lookup_of_cleaned peers found)

end

theorem Hub.initial_sound : Hub.initial.Sound := by
  refine ⟨Numbered.nil _ _, ?_⟩
  intro peerId connId found
  cases found

/-! ### Peers with an open connection -/

/-- The connection is open: it is in the map or was, and its read loop goes on. -/
def Hub.IsOpen (hub : Hub) (index : Nat) (peerId : String) (connId : Nat) : Prop :=
  hub.connections[index]? = some (.reading peerId connId)

def Connection.reads : Connection → Bool
  | .reading _ _ => true
  | _ => false

/-- A peer with an open connection has an entry, and it is of an open connection to it. -/
def Hub.Reachable (hub : Hub) : Prop :=
  ∀ index peerId connId, hub.IsOpen index peerId connId →
    ∃ entry position, hub.peers.lookup peerId = some entry ∧ hub.IsOpen position peerId entry

/-- The connection that the other side closes is not the one in the map, or it is the only
open one to its peer. -/
def Hub.ClosesSafely (hub : Hub) (action : HubAction) : Prop :=
  ∀ index peerId connId, action = .read index .eof → hub.IsOpen index peerId connId →
    hub.peers.lookup peerId = some connId →
    ∀ other otherId, hub.IsOpen other peerId otherId → other = index

section

variable {hub after : Hub}

theorem reachable_of_moved {index : Nat} {connection moved : Connection}
    (reachable : hub.Reachable) (atIndex : hub.connections[index]? = some connection)
    (notOpen : connection.reads = false) (notOpened : moved.reads = false)
    (connections : after.connections = hub.connections.set index moved)
    (peers : ∀ position peerId connId, hub.IsOpen position peerId connId →
      hub.peers.lookup peerId = some connId → after.peers.lookup peerId = some connId) :
    after.Reachable := by
  intro position peerId connId isOpen
  unfold Hub.IsOpen at isOpen ⊢
  rw [connections] at isOpen ⊢
  rcases getElem?_set_cases isOpen with ⟨_, isMoved⟩ | ⟨_, wasOpen⟩
  · rw [← isMoved] at notOpened
    cases notOpened
  · obtain ⟨entry, owner, found, ownerOpen⟩ := reachable position peerId connId wasOpen
    refine ⟨entry, owner, peers owner peerId entry ownerOpen found, ?_⟩
    apply getElem?_set_of_ne _ ownerOpen
    intro same
    rw [same] at ownerOpen
    rw [Option.some.inj (atIndex.symm.trans ownerOpen)] at notOpen
    cases notOpen

/-- When a connection has been closed, the open ones to its peer are reachable exactly if
it was closed safely. -/
theorem reachable_of_ended (sound : hub.Sound) (reachable : hub.Reachable) {index : Nat}
    {peerId : String} {connId : Nat} (isOpen : hub.IsOpen index peerId connId)
    (connections : after.connections = hub.connections.set index (.closing peerId connId))
    (peers : after.peers = hub.peers) :
    after.Reachable ↔ hub.ClosesSafely (.read index .eof) := by
  have notAfter : ∀ peer number, ¬ after.IsOpen index peer number := by
    intro peer number stillOpen
    unfold Hub.IsOpen at stillOpen
    rw [connections, getElem?_set_moved isOpen] at stillOpen
    cases stillOpen
  have otherOpen : ∀ position peer number, position ≠ index →
      (after.IsOpen position peer number ↔ hub.IsOpen position peer number) := by
    intro position peer number different
    unfold Hub.IsOpen
    rw [connections, List.getElem?_set_ne different.symm]
  constructor
  · intro still position peer number asked wasOpen found other otherId otherOpenBefore
    cases asked
    by_contra different
    obtain ⟨entry, owner, entryAt, ownerOpen⟩ :=
      still other peer otherId ((otherOpen other peer otherId different).mpr otherOpenBefore)
    rw [peers, found, Option.some.injEq] at entryAt
    subst entryAt
    by_cases isHere : owner = index
    · rw [isHere] at ownerOpen
      exact notAfter _ _ ownerOpen
    · have ownerBefore := (otherOpen owner peer number isHere).mp ownerOpen
      exact isHere (sound.same_index ownerBefore wasOpen rfl rfl)
  · intro safely position peer number openAfter
    by_cases isHere : position = index
    · rw [isHere] at openAfter
      exact absurd openAfter (notAfter _ _)
    · have openBefore := (otherOpen position peer number isHere).mp openAfter
      obtain ⟨entry, owner, found, ownerOpen⟩ := reachable position peer number openBefore
      refine ⟨entry, owner, by rw [peers]; exact found, ?_⟩
      apply (otherOpen owner peer entry _).mpr ownerOpen
      intro ownerHere
      subst ownerHere
      exact isHere (safely owner peer entry rfl ownerOpen found position number openBefore)

theorem reachable_step (membership : Membership) {action : HubAction}
    (clean : ∀ index, action ≠ .read index .error) (sound : hub.Sound)
    (reachable : hub.Reachable)
    (notEnded : ∀ index peerId connId, action = .read index .eof →
      ¬ hub.IsOpen index peerId connId) :
    (hub.step membership action).Reachable := by
  cases hubStep membership hub action with
  | kept connections peers next =>
      unfold Hub.Reachable Hub.IsOpen
      rw [connections, peers]
      exact reachable
  | started expectedPeer connections peers next =>
      intro position peerId connId isOpen
      unfold Hub.IsOpen at isOpen ⊢
      rw [connections] at isOpen ⊢
      rcases getElem?_snoc_cases isOpen with ⟨_, isNew⟩ | wasOpen
      · cases isNew
      · obtain ⟨entry, owner, found, ownerOpen⟩ := reachable position peerId connId wasOpen
        rw [peers]
        exact ⟨entry, owner, found, getElem?_snoc_of_some _ ownerOpen⟩
  | refused index expectedPeer error atIndex connections peers next =>
      apply reachable_of_moved reachable atIndex rfl rfl connections
      intro position peerId connId _ found
      rw [peers]
      exact found
  | admitted index expectedPeer peerId atIndex connections peers next =>
      apply reachable_of_moved reachable atIndex rfl rfl connections
      intro position other connId _ found
      rw [peers]
      exact found
  | registered index peerId connId atIndex connections peers next =>
      intro position other number isOpen
      by_cases same : other = peerId
      · subst same
        refine ⟨connId, index, ?_, ?_⟩
        · rw [peers, AList.lookup_insert]
        · unfold Hub.IsOpen
          rw [connections, getElem?_set_moved atIndex]
      · unfold Hub.IsOpen at isOpen ⊢
        rw [connections] at isOpen ⊢
        rcases getElem?_set_cases isOpen with ⟨_, isMoved⟩ | ⟨_, wasOpen⟩
        · cases isMoved
          exact absurd rfl same
        · obtain ⟨entry, owner, found, ownerOpen⟩ := reachable position other number wasOpen
          refine ⟨entry, owner, ?_, ?_⟩
          · rw [peers, AList.lookup_insert_ne same]
            exact found
          · apply getElem?_set_of_ne _ ownerOpen
            intro isHere
            rw [isHere] at ownerOpen
            cases atIndex.symm.trans ownerOpen
  | ended index peerId connId asked atIndex connections peers next =>
      exact absurd atIndex (notEnded index peerId connId asked)
  | failed index peerId connId asked atIndex connections peers next =>
      exact absurd asked (clean index)
  | cleaned index peerId connId atIndex connections peers next =>
      apply reachable_of_moved reachable atIndex rfl rfl connections
      intro position other number isOpen found
      rw [peers]
      split
      · rename_i isOwn
        have different : other ≠ peerId := by
          intro same
          subst same
          rw [found, Option.some.injEq] at isOwn
          subst isOwn
          have here := sound.same_index isOpen atIndex rfl rfl
          subst here
          cases atIndex.symm.trans isOpen
        rw [AList.lookup_erase_ne different]
        exact found
      · exact found

theorem reachable_step_iff (membership : Membership) (action : HubAction)
    (clean : ∀ index, action ≠ .read index .error) (sound : hub.Sound)
    (reachable : hub.Reachable) :
    (hub.step membership action).Reachable ↔ hub.ClosesSafely action := by
  by_cases ends : ∃ index peerId connId, action = .read index .eof ∧
      hub.IsOpen index peerId connId
  · obtain ⟨index, peerId, connId, asked, isOpen⟩ := ends
    subst asked
    have atIndex : hub.connections[index]? = some (.reading peerId connId) := isOpen
    apply reachable_of_ended sound reachable isOpen
    · simp only [Hub.step, atIndex, Hub.set]
    · simp only [Hub.step, atIndex, Hub.set]
  · constructor
    · intro _ index peerId connId asked isOpen
      exact absurd ⟨index, peerId, connId, asked, isOpen⟩ ends
    · intro _
      apply reachable_step membership clean sound reachable
      intro index peerId connId asked isOpen
      exact ends ⟨index, peerId, connId, asked, isOpen⟩

end

/-- In every run of connections that are opened and closed cleanly, peers with an open
connection are reachable all the time exactly if the connections are closed safely. -/
theorem open_peers_reachable_iff (membership : Membership) (actions : List HubAction)
    (clean : ∀ index, .read index .error ∉ actions) :
    (∀ early late, actions = early ++ late →
        (exec (Hub.step membership) Hub.initial early).Reachable) ↔
      ∀ event ∈ trace (Hub.step membership) Hub.initial actions,
        event.before.ClosesSafely event.input := by
  apply exec_always_iff (Hub.step membership) Hub.Sound Hub.Reachable
    (fun action => ∀ index, action ≠ .read index .error)
  · intro hub action sound
    exact sound.step membership action
  · intro hub action isClean sound reachable
    exact reachable_step_iff membership action isClean sound reachable
  · exact Hub.initial_sound
  · intro index peerId connId isOpen
    cases isOpen
  · intro action member index isError
    subst isError
    exact clean index member

def sampleHello : String := "\x7b\"type\":\"hello\",\"server_id\":\"b\"\x7d"

def sampleMembership : Membership where
  serverId := "a"
  allowedPeers := ["b"]
  parse text := if text = sampleHello then some (.hello "b") else none

def crossedDials : List HubAction :=
  [.start (some "b"), .start none, .greet 0 true (.line sampleHello),
    .greet 1 true (.line sampleHello), .register 0, .register 1]

def endsUnregistered (event : Event Hub HubAction) : Bool :=
  match event.input with
  | .read index .eof =>
      (event.before.connections[index]?).all fun connection =>
        connection.identity.all fun identity =>
          decide (event.before.peers.lookup identity.1 ≠ some identity.2)
  | _ => true

theorem sample_open_peers_reachable :
    (exec (Hub.step sampleMembership) Hub.initial
        (crossedDials ++ [.read 0 .eof, .cleanUp 0])).Reachable := by
  have unregistered : ∀ event ∈ trace (Hub.step sampleMembership) Hub.initial
      (crossedDials ++ [.read 0 .eof, .cleanUp 0]), endsUnregistered event = true := by
    decide +kernel
  refine (open_peers_reachable_iff sampleMembership
    (crossedDials ++ [.read 0 .eof, .cleanUp 0]) ?_).mpr ?_ _ [] (List.append_nil _).symm
  · intro index
    simp [crossedDials]
  · intro event member index peerId connId asked isOpen found
    have absent := unregistered event member
    unfold endsUnregistered at absent
    have atIndex : event.before.connections[index]? = some (.reading peerId connId) := isOpen
    rw [asked] at absent
    dsimp only at absent
    rw [atIndex] at absent
    exact absurd found (of_decide_eq_true absent)

/-- The connection in the map is closed, and the other one stays open without an entry. -/
theorem closed_connection_hides_open_one :
    (∀ index, .read index .error ∉ crossedDials ++ [.read 1 .eof, .cleanUp 1]) ∧
      ¬ (exec (Hub.step sampleMembership) Hub.initial
        (crossedDials ++ [.read 1 .eof, .cleanUp 1])).Reachable := by
  refine ⟨?_, ?_⟩
  · intro index
    simp [crossedDials]
  · intro reachable
    obtain ⟨entry, position, found, _⟩ := reachable 0 "b" 1 (by unfold Hub.IsOpen; decide +kernel)
    have absent : (exec (Hub.step sampleMembership) Hub.initial
        (crossedDials ++ [.read 1 .eof, .cleanUp 1])).peers.lookup "b" = none := by
      decide +kernel
    rw [absent] at found
    cases found

/-! ### Connections that have returned -/

/-- No entry of the map is of a connection that has returned. -/
def Hub.Cleared (hub : Hub) : Prop :=
  ∀ (index : Nat) peerId connId result,
    hub.connections[index]? = some (.returned (some (peerId, connId)) result) →
    ∀ other, hub.peers.lookup other ≠ some connId

/-- A read fails only on a connection that is not in the map. -/
def Hub.FailsUnregistered (hub : Hub) (action : HubAction) : Prop :=
  ∀ index peerId connId, action = .read index .error → hub.IsOpen index peerId connId →
    hub.peers.lookup peerId ≠ some connId

section

variable {hub after : Hub}

theorem cleared_of_moved {index : Nat} {moved : Connection} (cleared : hub.Cleared)
    (connections : after.connections = hub.connections.set index moved)
    (peers : ∀ other number, after.peers.lookup other = some number →
      hub.peers.lookup other = some number)
    (gone : ∀ peerId connId result, moved = .returned (some (peerId, connId)) result →
      ∀ other, after.peers.lookup other ≠ some connId) : after.Cleared := by
  intro position peerId connId result found other entryAt
  rw [connections] at found
  rcases getElem?_set_cases found with ⟨_, isMoved⟩ | ⟨_, old⟩
  · exact gone peerId connId result isMoved.symm other entryAt
  · exact cleared position peerId connId result old other (peers other connId entryAt)

theorem cleared_of_moved_only {index : Nat} {moved : Connection} (cleared : hub.Cleared)
    (connections : after.connections = hub.connections.set index moved)
    (peers : after.peers = hub.peers)
    (going : ∀ peerId connId result, moved ≠ .returned (some (peerId, connId)) result) :
    after.Cleared := by
  apply cleared_of_moved cleared connections
  · intro other number found
    rw [peers] at found
    exact found
  · intro peerId connId result isReturned
    exact absurd isReturned (going peerId connId result)

theorem cleared_step (membership : Membership) {action : HubAction} (sound : hub.Sound)
    (cleared : hub.Cleared)
    (notFailed : ∀ index peerId connId, action = .read index .error →
      ¬ hub.IsOpen index peerId connId) :
    (hub.step membership action).Cleared := by
  cases hubStep membership hub action with
  | kept connections peers next =>
      unfold Hub.Cleared
      rw [connections, peers]
      exact cleared
  | started expectedPeer connections peers next =>
      intro position peerId connId result found other
      rw [connections] at found
      rw [peers]
      rcases getElem?_snoc_cases found with ⟨_, isNew⟩ | old
      · cases isNew
      · exact cleared position peerId connId result old other
  | refused index expectedPeer error atIndex connections peers next =>
      exact cleared_of_moved_only cleared connections peers nofun
  | admitted index expectedPeer peerId atIndex connections peers next =>
      exact cleared_of_moved_only cleared connections peers nofun
  | registered index peerId connId atIndex connections peers next =>
      intro position owner number result found other
      rw [connections] at found
      rcases getElem?_set_cases found with ⟨_, isMoved⟩ | ⟨elsewhere, old⟩
      · cases isMoved
      · rw [peers, Table.lookup_insert_eq]
        by_cases same : other = peerId
        · rw [if_pos same]
          intro sameNumber
          cases sameNumber
          exact elsewhere (sound.same_index old atIndex rfl rfl)
        · rw [if_neg same]
          exact cleared position owner number result old other
  | ended index peerId connId asked atIndex connections peers next =>
      exact cleared_of_moved_only cleared connections peers nofun
  | failed index peerId connId asked atIndex connections peers next =>
      exact absurd atIndex (notFailed index peerId connId asked)
  | cleaned index peerId connId atIndex connections peers next =>
      apply cleared_of_moved cleared connections (fun _ _ => lookup_of_cleaned peers)
      intro owner number result isReturned other found
      cases isReturned
      have old := lookup_of_cleaned peers found
      have isOwn := sound.own_peer atIndex rfl old
      subst isOwn
      -- The entry under the own name is removed if it carries the own number.
      rw [peers, if_pos old, AList.lookup_erase] at found
      cases found

theorem cleared_step_iff (membership : Membership) (action : HubAction) (sound : hub.Sound)
    (cleared : hub.Cleared) :
    (hub.step membership action).Cleared ↔ hub.FailsUnregistered action := by
  by_cases fails : ∃ index peerId connId, action = .read index .error ∧
      hub.IsOpen index peerId connId
  · obtain ⟨index, peerId, connId, asked, isOpen⟩ := fails
    subst asked
    have atIndex : hub.connections[index]? = some (.reading peerId connId) := isOpen
    have connections : (hub.step membership (.read index .error)).connections =
        hub.connections.set index
          (.returned (some (peerId, connId)) (.error "mesh read failed")) := by
      simp only [Hub.step, atIndex, Hub.set]
    have peers : (hub.step membership (.read index .error)).peers = hub.peers := by
      simp only [Hub.step, atIndex, Hub.set]
    constructor
    · intro clearedAfter position owner number asked ownerOpen
      cases asked
      cases atIndex.symm.trans ownerOpen
      have gone := clearedAfter index peerId connId _
        (by rw [connections]; exact getElem?_set_moved atIndex) peerId
      rw [peers] at gone
      exact gone
    · intro unregistered
      apply cleared_of_moved cleared connections
      · intro other number found
        rw [peers] at found
        exact found
      · intro owner number result isReturned other found
        cases isReturned
        rw [peers] at found
        have isOwn := sound.own_peer atIndex rfl found
        subst isOwn
        exact unregistered index other connId rfl isOpen found
  · constructor
    · intro _ index peerId connId asked isOpen
      exact absurd ⟨index, peerId, connId, asked, isOpen⟩ fails
    · intro _
      apply cleared_step membership sound cleared
      intro index peerId connId asked isOpen
      exact fails ⟨index, peerId, connId, asked, isOpen⟩

end

/-- In every run, no entry of a connection that has returned is ever left in the map exactly
if reads fail on connections only that are not in it. -/
theorem returned_connections_cleared_iff (membership : Membership) (actions : List HubAction) :
    (∀ early late, actions = early ++ late →
        (exec (Hub.step membership) Hub.initial early).Cleared) ↔
      ∀ event ∈ trace (Hub.step membership) Hub.initial actions,
        event.before.FailsUnregistered event.input := by
  apply exec_always_iff (Hub.step membership) Hub.Sound Hub.Cleared (fun _ => True)
  · intro hub action sound
    exact sound.step membership action
  · intro hub action _ sound cleared
    exact cleared_step_iff membership action sound cleared
  · exact Hub.initial_sound
  · intro index peerId connId result found
    cases found
  · intro action _
    trivial

def brokenConnection : List HubAction :=
  [.start none, .greet 0 true (.line sampleHello), .register 0, .read 0 .error]

/-- The connection has returned, its entry is still there, and a frame for the peer goes to
the writer that it left behind. -/
theorem failed_connection_stays_registered :
    let hub := exec (Hub.step sampleMembership) Hub.initial brokenConnection
    hub.connections[0]? = some (.returned (some ("b", 1)) (.error "mesh read failed")) ∧
      hub.peers.lookup "b" = some 1 ∧ ¬ hub.Cleared ∧
      ∀ context : MeshContext,
        { context with peers := hub.senders }.sendToPeer "b" = true := by
  have returned : (exec (Hub.step sampleMembership) Hub.initial brokenConnection).connections[0]? =
      some (.returned (some ("b", 1)) (.error "mesh read failed")) := by
    decide +kernel
  have entry : (exec (Hub.step sampleMembership) Hub.initial brokenConnection).peers.lookup "b" =
      some 1 := by
    decide +kernel
  refine ⟨returned, entry, ?_, ?_⟩
  · intro cleared
    exact cleared 0 "b" 1 _ returned "b" entry
  · intro context
    rw [MeshContext.sendToPeer_iff]
    refine ⟨{ connId := 1, isOpen := true }, ?_, rfl⟩
    change (exec (Hub.step sampleMembership) Hub.initial brokenConnection).senders.lookup "b" = _
    decide +kernel

end Lightscale.Mesh
