/-
One message on its way through the mesh.

The invariant follows the copies of a single message.  Every copy was sent by the
server where the message entered or by a server that took a copy with one hop more;
a server has seen the message exactly if it is one of these; and whatever a server
forwarded to a peer is still in flight or has been dealt with there.

Two things are left open, since they differ between the uses of the invariant: to
which peers a server forwards, and which copy a server must hold to be right in
dropping another one.
-/

import Lightscale.Mesh.Relay

namespace Lightscale.Mesh

open Foundation

/-- A message, the server it entered at, and the server its target is connected to. -/
structure Flood where
  base64 : Base64
  messageId : String
  packet : Packet
  origin : String
  home : String
  maxHops : Nat
  /-- The peers that a server forwards to, given the peer it had the copy from. -/
  Forwards : String → Option String → List String → Prop
  /-- Whether a server that holds a copy with the second number of hops may drop one
  with the first. -/
  Enough : Nat → Nat → Prop
  enough_refl : ∀ hops, Enough hops hops

namespace Flood

variable (flood : Flood)

def copy (hops : Nat) : RelayFrame :=
  originFrame flood.base64 hops flood.messageId flood.packet

def Seen (world : World) (server : String) : Prop :=
  (world.server server).seenIds.lookup flood.messageId ≠ none

structure Took (world : World) (entry : Accepted) : Prop where
  member : entry ∈ world.accepted
  isCopy : entry.frame.messageId = flood.messageId

/-- The server may have sent a copy with so many hops left. -/
def Sent (world : World) (source : String) (hops : Nat) : Prop :=
  (source = flood.origin ∧ hops = flood.maxHops) ∨
    ∃ entry, flood.Took world entry ∧ entry.server = source ∧
      entry.frame.hopsLeft = hops + 1

def InFlight (world : World) (source dest : String) (hops : Nat) : Prop :=
  ∃ transit ∈ world.inFlight, transit.source = source ∧ transit.dest = dest ∧
    transit.frame = .relay (flood.copy hops)

/-- The server may drop a copy with so many hops left. -/
def Holds (world : World) (server : String) (hops : Nat) : Prop :=
  server = flood.origin ∨
    ∃ entry, flood.Took world entry ∧ entry.server = server ∧
      flood.Enough hops entry.frame.hopsLeft

def Reached (world : World) (source target : String) (hops : Nat) : Prop :=
  flood.InFlight world source target hops ∨ flood.Holds world target hops

def Served (world : World) (server : String) (source : Option String) (hops : Nat) : Prop :=
  ∃ targets, flood.Forwards server source targets ∧
    ∀ target ∈ targets, flood.Reached world server target hops

structure Invariant (world : World) : Prop where
  copies : ∀ transit ∈ world.inFlight, ∀ frame, transit.frame = .relay frame →
    frame.messageId = flood.messageId →
    frame = flood.copy frame.hopsLeft ∧ flood.Sent world transit.source frame.hopsLeft
  waits : ∀ entry ∈ world.awaiting, entry.frame.messageId = flood.messageId →
    entry ∈ world.accepted
  taken : ∀ entry, flood.Took world entry →
    entry.frame = flood.copy entry.frame.hopsLeft ∧ entry.packet = flood.packet ∧
      flood.Sent world entry.source entry.frame.hopsLeft ∧
      entry.server ≠ flood.origin ∧ flood.Seen world entry.server
  seen : ∀ server, flood.Seen world server →
    server = flood.origin ∨ ∃ entry, flood.Took world entry ∧ entry.server = server
  originSeen : flood.Seen world flood.origin
  once : ∀ left right, flood.Took world left → flood.Took world right →
    left.server = right.server → left = right
  originServed : flood.Served world flood.origin none flood.maxHops
  served : ∀ entry, flood.Took world entry →
    entry ∈ world.awaiting ∨ entry.frame.hopsLeft = 0 ∨ entry.server = flood.home ∨
      flood.Served world entry.server (some entry.source) (entry.frame.hopsLeft - 1)
  handed : ∀ entry, flood.Took world entry → entry.server = flood.home →
    entry ∈ world.handed

structure Quiet (world : World) : Prop where
  inFlight : ∀ transit ∈ world.inFlight, ∀ frame, transit.frame = .relay frame →
    frame.messageId ≠ flood.messageId
  awaiting : ∀ entry ∈ world.awaiting, entry.frame.messageId ≠ flood.messageId

/-! ### Growing worlds -/

variable {flood} {before after : World}

theorem took_iff (same : after.accepted = before.accepted) (entry : Accepted) :
    flood.Took after entry ↔ flood.Took before entry := by
  constructor
  · intro entryTook
    have member := entryTook.member
    rw [same] at member
    exact ⟨member, entryTook.isCopy⟩
  · intro entryTook
    have member := entryTook.member
    rw [← same] at member
    exact ⟨member, entryTook.isCopy⟩

theorem Sent.mono {source : String} {hops : Nat}
    (took : ∀ entry, flood.Took before entry → flood.Took after entry)
    (sent : flood.Sent before source hops) : flood.Sent after source hops := by
  rcases sent with isOrigin | ⟨entry, entryTook, atSource, oneMore⟩
  · exact Or.inl isOrigin
  · exact Or.inr ⟨entry, took entry entryTook, atSource, oneMore⟩

theorem Holds.mono {server : String} {hops : Nat}
    (took : ∀ entry, flood.Took before entry → flood.Took after entry)
    (holds : flood.Holds before server hops) : flood.Holds after server hops := by
  rcases holds with isOrigin | ⟨entry, entryTook, atServer, enough⟩
  · exact Or.inl isOrigin
  · exact Or.inr ⟨entry, took entry entryTook, atServer, enough⟩

theorem Reached.mono {source target : String} {hops : Nat}
    (took : ∀ entry, flood.Took before entry → flood.Took after entry)
    (kept : ∀ transit ∈ before.inFlight, ∀ copyHops,
      transit.frame = .relay (flood.copy copyHops) →
      transit ∈ after.inFlight ∨ flood.Holds after transit.dest copyHops)
    (reached : flood.Reached before source target hops) :
    flood.Reached after source target hops := by
  rcases reached with ⟨transit, member, fromSource, toTarget, isCopy⟩ | holds
  · rcases kept transit member hops isCopy with still | held
    · exact Or.inl ⟨transit, still, fromSource, toTarget, isCopy⟩
    · rw [toTarget] at held
      exact Or.inr held
  · exact Or.inr (holds.mono took)

theorem Served.mono {server : String} {source : Option String} {hops : Nat}
    (took : ∀ entry, flood.Took before entry → flood.Took after entry)
    (kept : ∀ transit ∈ before.inFlight, ∀ copyHops,
      transit.frame = .relay (flood.copy copyHops) →
      transit ∈ after.inFlight ∨ flood.Holds after transit.dest copyHops)
    (served : flood.Served before server source hops) :
    flood.Served after server source hops := by
  obtain ⟨targets, forwards, reached⟩ := served
  exact ⟨targets, forwards, fun target member => (reached target member).mono took kept⟩

theorem dealt_mono {entry : Accepted}
    (took : ∀ entry, flood.Took before entry → flood.Took after entry)
    (kept : ∀ transit ∈ before.inFlight, ∀ copyHops,
      transit.frame = .relay (flood.copy copyHops) →
      transit ∈ after.inFlight ∨ flood.Holds after transit.dest copyHops)
    (dealt : entry.frame.hopsLeft = 0 ∨ entry.server = flood.home ∨
      flood.Served before entry.server (some entry.source) (entry.frame.hopsLeft - 1)) :
    entry.frame.hopsLeft = 0 ∨ entry.server = flood.home ∨
      flood.Served after entry.server (some entry.source) (entry.frame.hopsLeft - 1) := by
  rcases dealt with spent | atHome | served
  · exact Or.inl spent
  · exact Or.inr (Or.inl atHome)
  · exact Or.inr (Or.inr (served.mono took kept))

theorem originOrTook_mono {server : String}
    (took : ∀ entry, flood.Took before entry → flood.Took after entry)
    (source : server = flood.origin ∨ ∃ entry, flood.Took before entry ∧ entry.server = server) :
    server = flood.origin ∨ ∃ entry, flood.Took after entry ∧ entry.server = server := by
  rcases source with isOrigin | ⟨entry, found, same⟩
  · exact Or.inl isOrigin
  · exact Or.inr ⟨entry, took entry found, same⟩

/-! ### What a step does to the message -/

/-- The step took no copy and finished no handler; copies may have been dropped. -/
structure Lost (flood : Flood) (before after : World) : Prop where
  took : ∀ entry, flood.Took after entry ↔ flood.Took before entry
  waits : ∀ entry, entry.frame.messageId = flood.messageId →
    (entry ∈ after.awaiting ↔ entry ∈ before.awaiting)
  noNew : ∀ transit ∈ after.inFlight, ∀ frame, transit.frame = .relay frame →
    frame.messageId = flood.messageId → transit ∈ before.inFlight
  kept : ∀ transit ∈ before.inFlight, ∀ hops, transit.frame = .relay (flood.copy hops) →
    transit ∈ after.inFlight ∨ flood.Holds after transit.dest hops
  seen : ∀ server, flood.Seen after server ↔ flood.Seen before server
  handed : ∀ entry ∈ before.handed, entry ∈ after.handed

theorem Invariant.of_lost (inv : flood.Invariant before) (lost : Lost flood before after) :
    flood.Invariant after := by
  have took : ∀ entry, flood.Took before entry → flood.Took after entry :=
    fun entry entryTook => (lost.took entry).mpr entryTook
  refine ⟨?_, ?_, ?_, ?_, ?_, ?_, ?_, ?_, ?_⟩
  · intro transit member frame isRelay isCopy
    obtain ⟨shape, sent⟩ := inv.copies transit
      (lost.noNew transit member frame isRelay isCopy) frame isRelay isCopy
    exact ⟨shape, sent.mono took⟩
  · intro entry member isCopy
    exact (took entry ⟨inv.waits entry ((lost.waits entry isCopy).mp member) isCopy,
      isCopy⟩).member
  · intro entry entryTook
    obtain ⟨shape, same, sent, notOrigin, seen⟩ :=
      inv.taken entry ((lost.took entry).mp entryTook)
    exact ⟨shape, same, sent.mono took, notOrigin, (lost.seen entry.server).mpr seen⟩
  · intro server seen
    exact originOrTook_mono took (inv.seen server ((lost.seen server).mp seen))
  · exact (lost.seen flood.origin).mpr inv.originSeen
  · intro left right leftTook rightTook
    exact inv.once left right ((lost.took left).mp leftTook) ((lost.took right).mp rightTook)
  · exact inv.originServed.mono took lost.kept
  · intro entry entryTook
    rcases inv.served entry ((lost.took entry).mp entryTook) with waits | dealt
    · exact Or.inl ((lost.waits entry entryTook.isCopy).mpr waits)
    · exact Or.inr (dealt_mono took lost.kept dealt)
  · intro entry entryTook atHome
    exact lost.handed entry (inv.handed entry ((lost.took entry).mp entryTook) atHome)

structure Taken (flood : Flood) (before after : World) (new : Accepted) : Prop where
  took : ∀ entry, flood.Took after entry ↔ flood.Took before entry ∨ entry = new
  waits : ∀ entry, entry.frame.messageId = flood.messageId →
    (entry ∈ after.awaiting ↔ entry ∈ before.awaiting ∨ entry = new)
  noNew : ∀ transit ∈ after.inFlight, transit ∈ before.inFlight
  kept : ∀ transit ∈ before.inFlight, ∀ hops, transit.frame = .relay (flood.copy hops) →
    transit ∈ after.inFlight ∨ (transit.dest = new.server ∧ hops = new.frame.hopsLeft)
  wasInFlight : ∃ transit ∈ before.inFlight, transit.source = new.source ∧
    transit.frame = .relay new.frame
  samePacket : new.packet = flood.packet
  unseen : ¬ flood.Seen before new.server
  seen : ∀ server, flood.Seen after server ↔ flood.Seen before server ∨ server = new.server
  handed : ∀ entry ∈ before.handed, entry ∈ after.handed
  handedNew : new.server = flood.home → new ∈ after.handed

theorem Taken.kept_or_held {new : Accepted} (taken : Taken flood before after new) :
    ∀ transit ∈ before.inFlight, ∀ hops, transit.frame = .relay (flood.copy hops) →
      transit ∈ after.inFlight ∨ flood.Holds after transit.dest hops := by
  intro transit member hops isCopy
  rcases taken.kept transit member hops isCopy with still | ⟨atNew, sameHops⟩
  · exact Or.inl still
  · refine Or.inr (Or.inr ⟨new, (taken.took new).mpr (Or.inr rfl), atNew.symm, ?_⟩)
    rw [sameHops]
    exact flood.enough_refl new.frame.hopsLeft

theorem Invariant.server_ne_of_taken (inv : flood.Invariant before) {new entry : Accepted}
    (taken : Taken flood before after new) (entryTook : flood.Took before entry) :
    entry.server ≠ new.server := by
  intro same
  have seen := (inv.taken entry entryTook).2.2.2.2
  rw [same] at seen
  exact taken.unseen seen

theorem Invariant.of_taken (inv : flood.Invariant before) {new : Accepted}
    (taken : Taken flood before after new) : flood.Invariant after := by
  have took : ∀ entry, flood.Took before entry → flood.Took after entry :=
    fun entry entryTook => (taken.took entry).mpr (Or.inl entryTook)
  have newTook : flood.Took after new := (taken.took new).mpr (Or.inr rfl)
  have kept := taken.kept_or_held
  obtain ⟨carrier, carrierIn, carrierFrom, carrierFrame⟩ := taken.wasInFlight
  obtain ⟨newShape, newSent⟩ := inv.copies carrier carrierIn new.frame carrierFrame
    newTook.isCopy
  rw [carrierFrom] at newSent
  refine ⟨?_, ?_, ?_, ?_, ?_, ?_, ?_, ?_, ?_⟩
  · intro transit member frame isRelay isCopy
    obtain ⟨shape, sent⟩ := inv.copies transit (taken.noNew transit member) frame isRelay isCopy
    exact ⟨shape, sent.mono took⟩
  · intro entry member isCopy
    rcases (taken.waits entry isCopy).mp member with old | isNew
    · exact (took entry ⟨inv.waits entry old isCopy, isCopy⟩).member
    · rw [isNew]
      exact newTook.member
  · intro entry entryTook
    rcases (taken.took entry).mp entryTook with old | isNew
    · obtain ⟨shape, same, sent, notOrigin, seen⟩ := inv.taken entry old
      exact ⟨shape, same, sent.mono took, notOrigin,
        (taken.seen entry.server).mpr (Or.inl seen)⟩
    · subst isNew
      refine ⟨newShape, taken.samePacket, newSent.mono took, ?_,
        (taken.seen entry.server).mpr (Or.inr rfl)⟩
      intro isOrigin
      apply taken.unseen
      rw [isOrigin]
      exact inv.originSeen
  · intro server seen
    rcases (taken.seen server).mp seen with old | isNew
    · exact originOrTook_mono took (inv.seen server old)
    · exact Or.inr ⟨new, newTook, isNew.symm⟩
  · exact (taken.seen flood.origin).mpr (Or.inl inv.originSeen)
  · intro left right leftTook rightTook sameServer
    rcases (taken.took left).mp leftTook with leftOld | leftNew
    · rcases (taken.took right).mp rightTook with rightOld | rightNew
      · exact inv.once left right leftOld rightOld sameServer
      · rw [rightNew] at sameServer
        exact absurd sameServer (inv.server_ne_of_taken taken leftOld)
    · rcases (taken.took right).mp rightTook with rightOld | rightNew
      · rw [leftNew] at sameServer
        exact absurd sameServer.symm (inv.server_ne_of_taken taken rightOld)
      · exact leftNew.trans rightNew.symm
  · exact inv.originServed.mono took kept
  · intro entry entryTook
    rcases (taken.took entry).mp entryTook with old | isNew
    · rcases inv.served entry old with waits | dealt
      · exact Or.inl ((taken.waits entry entryTook.isCopy).mpr (Or.inl waits))
      · exact Or.inr (dealt_mono took kept dealt)
    · exact Or.inl ((taken.waits entry entryTook.isCopy).mpr (Or.inr isNew))
  · intro entry entryTook atHome
    rcases (taken.took entry).mp entryTook with old | isNew
    · exact taken.handed entry (inv.handed entry old atHome)
    · rw [isNew] at atHome ⊢
      exact taken.handedNew atHome

structure Finished (flood : Flood) (before after : World) (done : Accepted) : Prop where
  took : ∀ entry, flood.Took after entry ↔ flood.Took before entry
  waits : ∀ entry ∈ after.awaiting, entry ∈ before.awaiting
  stillWaits : ∀ entry ∈ before.awaiting, entry ∈ after.awaiting ∨ entry = done
  new : ∀ transit ∈ after.inFlight, transit ∈ before.inFlight ∨
    (transit.source = done.server ∧ done.frame.hopsLeft ≠ 0 ∧
      transit.frame = .relay (flood.copy (done.frame.hopsLeft - 1)))
  doneTook : flood.Took before done
  kept : ∀ transit ∈ before.inFlight, transit ∈ after.inFlight
  served : done.frame.hopsLeft = 0 ∨ done.server = flood.home ∨
    flood.Served after done.server (some done.source) (done.frame.hopsLeft - 1)
  seen : ∀ server, flood.Seen after server ↔ flood.Seen before server
  handed : ∀ entry ∈ before.handed, entry ∈ after.handed

theorem Invariant.of_finished (inv : flood.Invariant before) {done : Accepted}
    (finished : Finished flood before after done) : flood.Invariant after := by
  have took : ∀ entry, flood.Took before entry → flood.Took after entry :=
    fun entry entryTook => (finished.took entry).mpr entryTook
  have kept : ∀ transit ∈ before.inFlight, ∀ hops,
      transit.frame = .relay (flood.copy hops) →
      transit ∈ after.inFlight ∨ flood.Holds after transit.dest hops :=
    fun transit member _ _ => Or.inl (finished.kept transit member)
  refine ⟨?_, ?_, ?_, ?_, ?_, ?_, ?_, ?_, ?_⟩
  · intro transit member frame isRelay isCopy
    rcases finished.new transit member with old | ⟨fromDone, hopsLeft, isNext⟩
    · obtain ⟨shape, sent⟩ := inv.copies transit old frame isRelay isCopy
      exact ⟨shape, sent.mono took⟩
    · rw [isRelay, MeshFrame.relay.injEq] at isNext
      subst isNext
      refine ⟨rfl, Or.inr ⟨done, took done finished.doneTook, fromDone.symm, ?_⟩⟩
      change done.frame.hopsLeft = done.frame.hopsLeft - 1 + 1
      omega
  · intro entry member isCopy
    exact (took entry ⟨inv.waits entry (finished.waits entry member) isCopy, isCopy⟩).member
  · intro entry entryTook
    obtain ⟨shape, same, sent, notOrigin, seen⟩ :=
      inv.taken entry ((finished.took entry).mp entryTook)
    exact ⟨shape, same, sent.mono took, notOrigin, (finished.seen entry.server).mpr seen⟩
  · intro server seen
    exact originOrTook_mono took (inv.seen server ((finished.seen server).mp seen))
  · exact (finished.seen flood.origin).mpr inv.originSeen
  · intro left right leftTook rightTook
    exact inv.once left right ((finished.took left).mp leftTook)
      ((finished.took right).mp rightTook)
  · exact inv.originServed.mono took kept
  · intro entry entryTook
    rcases inv.served entry ((finished.took entry).mp entryTook) with waits | dealt
    · rcases finished.stillWaits entry waits with still | isDone
      · exact Or.inl still
      · subst isDone
        exact Or.inr finished.served
    · exact Or.inr (dealt_mono took kept dealt)
  · intro entry entryTook atHome
    exact finished.handed entry (inv.handed entry ((finished.took entry).mp entryTook) atHome)

/-! ### The conditions on a step -/

/-- No seen id of the message expires or is evicted in this step. -/
structure Remembers (flood : Flood) (world : World) (action : Action) : Prop where
  kept : ∀ server, flood.Seen world server →
    flood.Seen (world.step flood.base64 action) server
  stored : ∀ index scan rememberAt learnAt transit frame,
    action = .receive index scan rememberAt learnAt → world.inFlight[index]? = some transit →
    transit.frame = .relay frame → frame.messageId = flood.messageId →
    flood.Seen (world.step flood.base64 action) transit.dest
  refused : ∀ index scan rememberAt learnAt transit frame,
    action = .receive index scan rememberAt learnAt → world.inFlight[index]? = some transit →
    transit.frame = .relay frame → frame.messageId = flood.messageId →
    flood.Seen world transit.dest →
    (rememberMessage scan rememberAt flood.messageId
      (world.server transit.dest).seenIds).1 = false

/-- A server drops a copy only when it holds one that is enough. -/
def DropsRightly (flood : Flood) (world : World) (action : Action) : Prop :=
  ∀ index scan rememberAt learnAt transit frame,
    action = .receive index scan rememberAt learnAt → world.inFlight[index]? = some transit →
    transit.frame = .relay frame → frame.messageId = flood.messageId →
    flood.Seen world transit.dest → flood.Holds world transit.dest frame.hopsLeft

/-- The target is connected at its home server only, whose local relay listens. -/
structure AtHome (flood : Flood) (world : World) (action : Action) : Prop where
  delivered : ∀ index lookupAt entry, action = .resume index true lookupAt →
    world.awaiting[index]? = some entry → entry.frame.messageId = flood.messageId →
    entry.server = flood.home
  listens : (world.server flood.home).localOpen = true

def ForwardsSo (flood : Flood) (world : World) (action : Action) : Prop :=
  ∀ index lookupAt entry, action = .resume index false lookupAt →
    world.awaiting[index]? = some entry → entry.frame.messageId = flood.messageId →
    entry.frame.hopsLeft ≠ 0 →
    flood.Forwards entry.server (some entry.source)
      ((world.server entry.server).forwardToTarget lookupAt (some entry.source)
        flood.packet.toId).1

def NotAgain (flood : Flood) (action : Action) : Prop :=
  ∀ server packet scan rememberAt lookupAt,
    action ≠ .originate server packet flood.messageId scan rememberAt lookupAt

/-! ### Every step keeps the invariant -/

variable {world : World}

theorem seen_update {server : String} {left : MeshContext} {other : String}
    {seenFrom : World} (servers : seenFrom.server = Function.update world.server server left) :
    flood.Seen seenFrom other ↔
      if other = server then left.seenIds.lookup flood.messageId ≠ none
      else flood.Seen world other := by
  unfold Seen
  rw [servers]
  by_cases same : other = server
  · rw [if_pos same, same, Function.update_self]
  · rw [if_neg same, Function.update_of_ne same]

theorem seen_update_same {server : String} {left : MeshContext} {seenFrom : World}
    (servers : seenFrom.server = Function.update world.server server left)
    (sameIds : left.seenIds = (world.server server).seenIds) (other : String) :
    flood.Seen seenFrom other ↔ flood.Seen world other := by
  rw [seen_update servers]
  by_cases same : other = server
  · rw [if_pos same, sameIds, same]
    exact Iff.rfl
  · rw [if_neg same]

theorem seen_of_update_remember {server messageId : String} {scan : Scan} {rememberAt : Nat}
    {left : MeshContext} {seenFrom : World}
    (servers : seenFrom.server = Function.update world.server server left)
    (ids : left.seenIds =
      (rememberMessage scan rememberAt messageId (world.server server).seenIds).2)
    (different : messageId ≠ flood.messageId) {other : String}
    (seen : flood.Seen seenFrom other) : flood.Seen world other := by
  rw [seen_update servers] at seen
  by_cases same : other = server
  · rw [if_pos same, ids] at seen
    rw [same]
    exact seen_of_rememberMessage different.symm seen
  · rw [if_neg same] at seen
    exact seen

/-- Removing a frame that is no copy of the message, and whatever its handler does to
the caches, loses nothing of the message. -/
theorem lost_of_other {index : Nat} {transit : Transit} {left : World}
    (atIndex : world.inFlight[index]? = some transit)
    (other : ∀ frame, transit.frame = .relay frame → frame.messageId ≠ flood.messageId)
    (inFlight : left.inFlight = world.inFlight.eraseIdx index)
    (took : ∀ entry, flood.Took left entry ↔ flood.Took world entry)
    (waits : ∀ entry, entry.frame.messageId = flood.messageId →
      (entry ∈ left.awaiting ↔ entry ∈ world.awaiting))
    (seen : ∀ server, flood.Seen left server ↔ flood.Seen world server)
    (handed : ∀ entry ∈ world.handed, entry ∈ left.handed) : Lost flood world left := by
  refine ⟨took, waits, ?_, ?_, seen, handed⟩
  · intro carrier member frame isRelay isCopy
    rw [inFlight] at member
    exact List.mem_of_mem_eraseIdx member
  · intro carrier member hops isCopy
    rw [inFlight]
    rcases mem_eraseIdx_or atIndex member with still | removed
    · exact Or.inl still
    · subst removed
      exact absurd rfl (other (flood.copy hops) isCopy)

theorem mem_append_singleton_of_other {entries : List Accepted} {new entry : Accepted}
    (other : new.frame.messageId ≠ flood.messageId)
    (isCopy : entry.frame.messageId = flood.messageId) :
    entry ∈ entries ++ [new] ↔ entry ∈ entries := by
  rw [List.mem_append, List.mem_singleton]
  constructor
  · rintro (old | isNew)
    · exact old
    · rw [isNew] at isCopy
      exact absurd isCopy other
  · exact Or.inl

theorem receive_other {index : Nat} {scan : Scan} {rememberAt learnAt : Nat}
    {transit : Transit} {frame : RelayFrame}
    (atIndex : world.inFlight[index]? = some transit) (isRelay : transit.frame = .relay frame)
    (other : frame.messageId ≠ flood.messageId)
    (kept : ∀ server, flood.Seen world server →
      flood.Seen ((world.takeFrame index).receive flood.base64 transit scan rememberAt learnAt)
        server) :
    Lost flood world
      ((world.takeFrame index).receive flood.base64 transit scan rememberAt learnAt) := by
  have otherRelay : ∀ found, transit.frame = .relay found →
      found.messageId ≠ flood.messageId := by
    intro found isFound
    rw [isRelay, MeshFrame.relay.injEq] at isFound
    rw [← isFound]
    exact other
  have ids := (receiveFrame_frame flood.base64 scan rememberAt learnAt transit.source frame
    (world.server transit.dest)).1
  cases outcome : (receiveFrame flood.base64 scan rememberAt learnAt transit.source frame
      (world.server transit.dest)).1 with
  | none =>
      rw [World.receive_none (world.takeFrame index) isRelay outcome] at kept ⊢
      refine lost_of_other atIndex otherRelay rfl (took_iff rfl) (fun _ _ => Iff.rfl) ?_
        (fun _ member => member)
      intro server
      exact ⟨seen_of_update_remember rfl ids other, kept server⟩
  | some packet =>
      rw [World.receive_some (world.takeFrame index) isRelay outcome] at kept ⊢
      refine lost_of_other atIndex otherRelay rfl ?_ ?_ ?_ ?_
      · intro entry
        constructor
        · intro entryTook
          exact ⟨(mem_append_singleton_of_other other entryTook.isCopy).mp entryTook.member,
            entryTook.isCopy⟩
        · intro entryTook
          exact ⟨List.mem_append_left _ entryTook.member, entryTook.isCopy⟩
      · intro entry isCopy
        exact mem_append_singleton_of_other other isCopy
      · intro server
        exact ⟨seen_of_update_remember rfl ids other, kept server⟩
      · intro entry member
        change entry ∈ if (world.server transit.dest).localOpen then _ else _
        split
        · exact List.mem_append_left _ member
        · exact member

theorem receive_seen {index : Nat} {scan : Scan} {rememberAt learnAt : Nat}
    {transit : Transit} {frame : RelayFrame}
    (atIndex : world.inFlight[index]? = some transit) (isRelay : transit.frame = .relay frame)
    (isCopy : frame.messageId = flood.messageId)
    (refused : (rememberMessage scan rememberAt flood.messageId
      (world.server transit.dest).seenIds).1 = false)
    (holds : flood.Holds world transit.dest frame.hopsLeft) :
    Lost flood world
      ((world.takeFrame index).receive flood.base64 transit scan rememberAt learnAt) := by
  rw [← isCopy] at refused
  rw [World.receive_none (world.takeFrame index) isRelay (receiveFrame_refused refused)]
  have ids : (receiveFrame flood.base64 scan rememberAt learnAt transit.source frame
      (world.server transit.dest)).2.seenIds = (world.server transit.dest).seenIds := by
    rw [(receiveFrame_frame flood.base64 scan rememberAt learnAt transit.source frame
      (world.server transit.dest)).1]
    exact (rememberMessage_of_refused refused).1
  refine ⟨took_iff rfl, fun _ _ => Iff.rfl, ?_, ?_, seen_update_same rfl ids,
    fun _ member => member⟩
  · intro carrier member _ _ _
    exact List.mem_of_mem_eraseIdx member
  · intro carrier member hops carries
    rcases mem_eraseIdx_or atIndex member with still | removed
    · exact Or.inl still
    · subst removed
      rw [isRelay, MeshFrame.relay.injEq] at carries
      rw [carries] at holds
      refine Or.inr (holds.mono ?_)
      intro entry entryTook
      exact ⟨entryTook.member, entryTook.isCopy⟩

theorem receive_unseen {index : Nat} {scan : Scan} {rememberAt learnAt : Nat}
    {transit : Transit} {frame : RelayFrame} (roundTrips : flood.base64.RoundTrips)
    (inv : flood.Invariant world)
    (atIndex : world.inFlight[index]? = some transit) (isRelay : transit.frame = .relay frame)
    (isCopy : frame.messageId = flood.messageId)
    (unseen : ¬ flood.Seen world transit.dest)
    (listens : (world.server flood.home).localOpen = true)
    (stored : flood.Seen
      ((world.takeFrame index).receive flood.base64 transit scan rememberAt learnAt)
      transit.dest) :
    Taken flood world
      ((world.takeFrame index).receive flood.base64 transit scan rememberAt learnAt)
      (transit.accept frame flood.packet) := by
  have member := List.mem_of_getElem? atIndex
  have shape := (inv.copies transit member frame isRelay isCopy).1
  have new : (world.server transit.dest).seenIds.lookup frame.messageId = none := by
    rw [isCopy]
    exact not_not.mp unseen
  have decoded : flood.base64.decode frame.payloadB64 = some flood.packet.payload := by
    rw [shape]
    exact roundTrips flood.packet.payload
  have taken : (receiveFrame flood.base64 scan rememberAt learnAt transit.source frame
      (world.server transit.dest)).1 = some flood.packet := by
    rw [receiveFrame_new new decoded, shape]
    rfl
  rw [World.receive_some (world.takeFrame index) isRelay taken] at stored ⊢
  refine ⟨?_, ?_, ?_, ?_, ⟨transit, member, rfl, isRelay⟩, rfl, unseen, ?_, ?_, ?_⟩
  · intro entry
    constructor
    · intro entryTook
      rcases List.mem_append.mp entryTook.member with old | isNew
      · exact Or.inl ⟨old, entryTook.isCopy⟩
      · exact Or.inr (List.mem_singleton.mp isNew)
    · rintro (old | isNew)
      · exact ⟨List.mem_append_left _ old.member, old.isCopy⟩
      · rw [isNew]
        exact ⟨List.mem_append_right _ List.mem_cons_self, isCopy⟩
  · intro entry _
    change entry ∈ world.awaiting ++ [transit.accept frame flood.packet] ↔ _
    rw [List.mem_append, List.mem_singleton]
  · intro carrier still
    exact List.mem_of_mem_eraseIdx still
  · intro carrier carrierIn hops carries
    rcases mem_eraseIdx_or atIndex carrierIn with still | removed
    · exact Or.inl still
    · subst removed
      rw [isRelay, MeshFrame.relay.injEq] at carries
      refine Or.inr ⟨rfl, ?_⟩
      change hops = frame.hopsLeft
      rw [carries]
      rfl
  · intro server
    by_cases same : server = transit.dest
    · subst same
      exact iff_of_true stored (Or.inr rfl)
    · rw [seen_update rfl, if_neg same]
      constructor
      · intro old
        exact Or.inl old
      · rintro (old | isNew)
        · exact old
        · exact absurd isNew same
  · intro entry old
    change entry ∈ if (world.server transit.dest).localOpen then _ else _
    split
    · exact List.mem_append_left _ old
    · exact old
  · intro atHome
    change transit.dest = flood.home at atHome
    change _ ∈ if (world.server transit.dest).localOpen then _ else _
    rw [atHome, if_pos listens]
    exact List.mem_append_right _ List.mem_cons_self

theorem mem_of_mem_append_sendTo {transits : List Transit} {transit : Transit}
    {source : String} {links : Nat} {sent frame : RelayFrame} {targets : List String}
    (other : sent.messageId ≠ flood.messageId)
    (member : transit ∈ transits ++ sendTo source links sent targets)
    (isRelay : transit.frame = .relay frame) (isCopy : frame.messageId = flood.messageId) :
    transit ∈ transits := by
  rcases List.mem_append.mp member with old | isNew
  · exact old
  · obtain ⟨target, _, same⟩ := List.mem_map.mp isNew
    rw [← same, MeshFrame.relay.injEq] at isRelay
    rw [← isRelay] at isCopy
    exact absurd isCopy other

theorem originate_other {server : String} {packet : Packet} {messageId : String} {scan : Scan}
    {rememberAt lookupAt : Nat} (other : messageId ≠ flood.messageId)
    (kept : ∀ seenAt, flood.Seen world seenAt →
      flood.Seen (world.originate flood.base64 server packet messageId scan rememberAt lookupAt)
        seenAt) :
    Lost flood world
      (world.originate flood.base64 server packet messageId scan rememberAt lookupAt) := by
  refine ⟨took_iff rfl, fun _ _ => Iff.rfl, ?_, ?_, ?_, fun _ member => member⟩
  · intro transit member frame isRelay isCopy
    exact mem_of_mem_append_sendTo other member isRelay isCopy
  · intro transit member hops isCopy
    exact Or.inl (List.mem_append_left _ member)
  · intro seenAt
    have ids : (MeshContext.forwardToTarget
        { world.server server with
          seenIds :=
            (rememberMessage scan rememberAt messageId (world.server server).seenIds).2 }
        lookupAt none packet.toId).2.seenIds =
        (rememberMessage scan rememberAt messageId (world.server server).seenIds).2 := by
      rw [forwardToTarget_frame]
    exact ⟨seen_of_update_remember rfl ids other, kept seenAt⟩

theorem reconnect_lost {server : String} {peers : Table String PeerSender} :
    Lost flood world (world.step flood.base64 (.reconnect server peers)) := by
  refine ⟨took_iff rfl, fun _ _ => Iff.rfl, fun _ member _ _ _ => member,
    fun _ member _ _ => Or.inl member, seen_update_same rfl rfl, fun _ member => member⟩

theorem seen_resume {index : Nat} {entry : Accepted} {delivered : Bool} {lookupAt : Nat}
    (server : String) :
    flood.Seen ((world.takeHandler index).resume flood.base64 entry delivered lookupAt)
      server ↔ flood.Seen world server := by
  obtain ⟨hints, left⟩ := finishFrame_frame lookupAt entry.source entry.frame delivered
    (world.server entry.server)
  refine seen_update_same rfl ?_ server
  change (finishFrame lookupAt entry.source entry.frame delivered
    (world.server entry.server)).2.seenIds = _
  rw [left]

theorem resume_other {index : Nat} {entry : Accepted} {delivered : Bool} {lookupAt : Nat}
    (atIndex : world.awaiting[index]? = some entry)
    (other : entry.frame.messageId ≠ flood.messageId) :
    Lost flood world
      ((world.takeHandler index).resume flood.base64 entry delivered lookupAt) := by
  refine ⟨took_iff rfl, ?_, ?_, ?_, seen_resume, fun _ member => member⟩
  · intro waiting isCopy
    constructor
    · intro member
      exact List.mem_of_mem_eraseIdx member
    · intro member
      rcases mem_eraseIdx_or atIndex member with still | removed
      · exact still
      · rw [removed] at isCopy
        exact absurd isCopy other
  · intro transit member frame isRelay isCopy
    have otherSent : (forwardedFrame flood.base64 entry.frame entry.packet.payload).messageId ≠
        flood.messageId := other
    exact mem_of_mem_append_sendTo otherSent member isRelay isCopy
  · intro transit member hops isCopy
    exact Or.inl (List.mem_append_left _ member)

theorem resume_copy {index : Nat} {entry : Accepted} {delivered : Bool} {lookupAt : Nat}
    (inv : flood.Invariant world) (atIndex : world.awaiting[index]? = some entry)
    (isCopy : entry.frame.messageId = flood.messageId)
    (home : delivered = true → entry.server = flood.home)
    (forwards : delivered = false → entry.frame.hopsLeft ≠ 0 →
      flood.Forwards entry.server (some entry.source)
        ((world.server entry.server).forwardToTarget lookupAt (some entry.source)
          flood.packet.toId).1) :
    Finished flood world
      ((world.takeHandler index).resume flood.base64 entry delivered lookupAt) entry := by
  have waiting := List.mem_of_getElem? atIndex
  have entryTook : flood.Took world entry := ⟨inv.waits entry waiting isCopy, isCopy⟩
  obtain ⟨shape, samePacket, _, _, _⟩ := inv.taken entry entryTook
  have next : forwardedFrame flood.base64 entry.frame entry.packet.payload =
      flood.copy (entry.frame.hopsLeft - 1) := by
    rw [samePacket, shape]
    rfl
  have target : entry.frame.toId = flood.packet.toId := by
    rw [shape]
    rfl
  have sent : ((world.takeHandler index).resume flood.base64 entry delivered
      lookupAt).inFlight = world.inFlight ++ sendTo entry.server (entry.links + 1)
        (flood.copy (entry.frame.hopsLeft - 1))
        (finishFrame lookupAt entry.source entry.frame delivered
          (world.server entry.server)).1 := by
    rw [← next]
    rfl
  refine ⟨took_iff rfl, ?_, ?_, ?_, entryTook, ?_, ?_, seen_resume, fun _ member => member⟩
  · intro other member
    exact List.mem_of_mem_eraseIdx member
  · intro other member
    exact mem_eraseIdx_or atIndex member
  · intro transit member
    rw [sent] at member
    rcases List.mem_append.mp member with old | isNew
    · exact Or.inl old
    · obtain ⟨peer, peerIn, same⟩ := List.mem_map.mp isNew
      exact Or.inr ⟨by rw [← same], (finishFrame_targets peerIn).2.1, by rw [← same]⟩
  · intro transit member
    rw [sent]
    exact List.mem_append_left _ member
  · by_cases spent : entry.frame.hopsLeft = 0
    · exact Or.inl spent
    · cases delivered with
      | true => exact Or.inr (Or.inl (home rfl))
      | false =>
          refine Or.inr (Or.inr ⟨_, forwards rfl spent, ?_⟩)
          intro peer peerIn
          refine Or.inl ⟨{ source := entry.server, dest := peer, links := entry.links + 1,
                           frame := .relay (flood.copy (entry.frame.hopsLeft - 1)) },
            ?_, rfl, rfl, rfl⟩
          rw [sent, finishFrame_forwards spent, target]
          exact List.mem_append_right _ (List.mem_map.mpr ⟨peer, peerIn, rfl⟩)

theorem invariant_step {action : Action} (roundTrips : flood.base64.RoundTrips)
    (remembers : Remembers flood world action) (drops : DropsRightly flood world action)
    (atHome : AtHome flood world action) (forwards : ForwardsSo flood world action)
    (notAgain : NotAgain flood action) (inv : flood.Invariant world) :
    flood.Invariant (world.step flood.base64 action) := by
  cases action with
  | originate server packet messageId scan rememberAt lookupAt =>
      have other : messageId ≠ flood.messageId := by
        intro same
        exact notAgain server packet scan rememberAt lookupAt (by rw [same])
      exact inv.of_lost (originate_other other remembers.kept)
  | receive index scan rememberAt learnAt =>
      cases atIndex : world.inFlight[index]? with
      | none =>
          have idle : world.step flood.base64 (.receive index scan rememberAt learnAt) =
              world := by
            simp only [World.step, atIndex]
          rw [idle]
          exact inv
      | some transit =>
          have taken : world.step flood.base64 (.receive index scan rememberAt learnAt) =
              (world.takeFrame index).receive flood.base64 transit scan rememberAt learnAt := by
            simp only [World.step, atIndex]
          cases isFrame : transit.frame with
          | hello serverId =>
              have left : (world.takeFrame index).receive flood.base64 transit scan rememberAt
                  learnAt = world.takeFrame index := by
                simp only [World.receive, isFrame]
              rw [taken, left]
              refine inv.of_lost (lost_of_other atIndex ?_ rfl (took_iff rfl)
                (fun _ _ => Iff.rfl) (fun _ => Iff.rfl) (fun _ member => member))
              intro frame isRelay
              rw [isFrame] at isRelay
              cases isRelay
          | relay frame =>
              have kept := remembers.kept
              rw [taken] at kept ⊢
              by_cases isCopy : frame.messageId = flood.messageId
              · by_cases seen : flood.Seen world transit.dest
                · exact inv.of_lost (receive_seen atIndex isFrame isCopy
                    (remembers.refused index scan rememberAt learnAt transit frame rfl atIndex
                      isFrame isCopy seen)
                    (drops index scan rememberAt learnAt transit frame rfl atIndex isFrame
                      isCopy seen))
                · have stored := remembers.stored index scan rememberAt learnAt transit frame rfl
                    atIndex isFrame isCopy
                  rw [taken] at stored
                  exact inv.of_taken (receive_unseen roundTrips inv atIndex isFrame isCopy seen
                    atHome.listens stored)
              · exact inv.of_lost (receive_other atIndex isFrame isCopy kept)
  | resume index delivered lookupAt =>
      cases atIndex : world.awaiting[index]? with
      | none =>
          have idle : world.step flood.base64 (.resume index delivered lookupAt) = world := by
            simp only [World.step, atIndex]
          rw [idle]
          exact inv
      | some entry =>
          have resumed : world.step flood.base64 (.resume index delivered lookupAt) =
              (world.takeHandler index).resume flood.base64 entry delivered lookupAt := by
            simp only [World.step, atIndex]
          rw [resumed]
          by_cases isCopy : entry.frame.messageId = flood.messageId
          · refine inv.of_finished (resume_copy inv atIndex isCopy ?_ ?_)
            · intro isDelivered
              rw [isDelivered] at atHome
              exact atHome.delivered index lookupAt entry rfl atIndex isCopy
            · intro notDelivered hopsLeft
              rw [notDelivered] at forwards
              exact forwards index lookupAt entry rfl atIndex isCopy hopsLeft
          · exact inv.of_lost (resume_other atIndex isCopy)
  | reconnect server peers => exact inv.of_lost reconnect_lost

/-- Nothing is forgotten while the caches have room and no copy comes later than the time
for which an id is remembered. -/
theorem remembers_of_room {action : Action}
    (room : ∀ server, (world.server server).seenIds.entries.length < maxSeenIds)
    (recent : ∀ index scan rememberAt learnAt transit seenAt,
      action = .receive index scan rememberAt learnAt →
      world.inFlight[index]? = some transit →
      (world.server transit.dest).seenIds.lookup flood.messageId = some seenAt →
      rememberAt - seenAt < seenTtl) : Remembers flood world action := by
  refine ⟨?_, ?_, ?_⟩
  · intro server seen
    unfold Seen at seen ⊢
    cases serverStep flood.base64 world action server with
    | kept same =>
        rw [same]
        exact seen
    | originated packet messageId scan rememberAt lookupAt asked left =>
        rw [left]
        exact seen_rememberMessage_of_room (room server) (Or.inr seen)
    | received index scan rememberAt learnAt transit frame asked atIndex isRelay toServer left =>
        rw [left, (receiveFrame_frame flood.base64 scan rememberAt learnAt transit.source frame
          (world.server server)).1]
        exact seen_rememberMessage_of_room (room server) (Or.inr seen)
    | looked now target left =>
        rw [left]
        exact seen
    | reconnected peers asked left =>
        rw [left]
        exact seen
  · intro index scan rememberAt learnAt transit frame asked atIndex isRelay isCopy
    unfold Seen
    rw [asked]
    simp only [World.step, atIndex]
    rw [World.receive_server (world.takeFrame index) transit frame scan rememberAt learnAt
      isRelay, Function.update_self, (receiveFrame_frame flood.base64 scan rememberAt learnAt
      transit.source frame _).1]
    exact seen_rememberMessage_of_room (room transit.dest) (Or.inl isCopy.symm)
  · intro index scan rememberAt learnAt transit frame asked atIndex isRelay isCopy seen
    obtain ⟨seenAt, found⟩ := Option.ne_none_iff_exists'.mp seen
    have soon := recent index scan rememberAt learnAt transit seenAt asked atIndex found
    unfold rememberMessage
    dsimp only
    rw [found]
    dsimp only
    rw [if_pos soon]

theorem remembers_of_short_run {start : World}
    (empty : ∀ server, (start.server server).seenIds.entries.length = 0) {actions : List Action}
    (few : actions.length ≤ maxSeenIds)
    (early : ∀ index scan rememberAt learnAt,
      .receive index scan rememberAt learnAt ∈ actions → rememberAt < seenTtl)
    {event : Event World Action}
    (member : event ∈ trace (World.step flood.base64) start actions) :
    Remembers flood event.before event.input := by
  obtain ⟨first, rest, split, before⟩ := before_of_mem_trace _ member
  rw [before]
  refine remembers_of_room ?_ ?_
  · intro server
    have shorter : first.length < actions.length := by
      rw [split, List.length_append, List.length_cons]
      omega
    have bound := length_seenIds_exec flood.base64 empty first (by omega) server
    omega
  · intro index scan rememberAt learnAt transit seenAt asked _ _
    have inTime := early index scan rememberAt learnAt (by
      rw [split, ← asked]
      exact List.mem_append_right _ List.mem_cons_self)
    omega

/-! ### A whole run -/

structure Fresh (flood : Flood) (world : World) : Prop where
  inFlight : ∀ transit ∈ world.inFlight, ∀ frame, transit.frame = .relay frame →
    frame.messageId ≠ flood.messageId
  awaiting : ∀ entry ∈ world.awaiting, entry.frame.messageId ≠ flood.messageId
  accepted : ∀ entry ∈ world.accepted, entry.frame.messageId ≠ flood.messageId
  unseen : ∀ server, ¬ flood.Seen world server

theorem Fresh.unseen_step {action : Action} (fresh : Fresh flood world)
    (notAgain : NotAgain flood action) (server : String) :
    ¬ flood.Seen (world.step flood.base64 action) server := by
  intro seen
  apply fresh.unseen server
  unfold Seen at seen ⊢
  cases serverStep flood.base64 world action server with
  | kept same =>
      rw [same] at seen
      exact seen
  | originated packet messageId scan rememberAt lookupAt asked left =>
      rw [left] at seen
      refine seen_of_rememberMessage ?_ seen
      intro same
      rw [← same] at asked
      exact notAgain server packet scan rememberAt lookupAt asked
  | received index scan rememberAt learnAt transit frame asked atIndex isRelay toServer left =>
      rw [left, (receiveFrame_frame flood.base64 scan rememberAt learnAt transit.source frame
        (world.server server)).1] at seen
      have other := fresh.inFlight transit (List.mem_of_getElem? atIndex) frame isRelay
      exact seen_of_rememberMessage other.symm seen
  | looked now target left =>
      rw [left] at seen
      exact seen
  | reconnected peers asked left =>
      rw [left] at seen
      exact seen

theorem Fresh.step {action : Action} (fresh : Fresh flood world)
    (notAgain : NotAgain flood action) : Fresh flood (world.step flood.base64 action) := by
  have unseen := fresh.unseen_step notAgain
  cases action with
  | originate server packet messageId scan rememberAt lookupAt =>
      have other : messageId ≠ flood.messageId := by
        intro same
        exact notAgain server packet scan rememberAt lookupAt (by rw [same])
      refine ⟨?_, fresh.awaiting, fresh.accepted, unseen⟩
      intro transit member frame isRelay isCopy
      have old := mem_of_mem_append_sendTo other member isRelay isCopy
      exact fresh.inFlight transit old frame isRelay isCopy
  | receive index scan rememberAt learnAt =>
      cases atIndex : world.inFlight[index]? with
      | none =>
          simp only [World.step, atIndex]
          exact fresh
      | some transit =>
          simp only [World.step, atIndex] at unseen ⊢
          obtain ⟨new, awaiting, accepted, fromFrame⟩ := entries_receive flood.base64
            (world.takeFrame index) transit scan rememberAt learnAt
          have newOther : ∀ entry ∈ new, entry.frame.messageId ≠ flood.messageId := by
            intro entry isNew
            exact fresh.inFlight transit (List.mem_of_getElem? atIndex) entry.frame
              (fromFrame entry isNew).1
          refine ⟨?_, ?_, ?_, unseen⟩
          · intro carrier member
            rw [inFlight_receive] at member
            exact fresh.inFlight carrier (List.mem_of_mem_eraseIdx member)
          · intro entry member
            rw [awaiting] at member
            rcases List.mem_append.mp member with old | isNew
            · exact fresh.awaiting entry old
            · exact newOther entry isNew
          · intro entry member
            rw [accepted] at member
            rcases List.mem_append.mp member with old | isNew
            · exact fresh.accepted entry old
            · exact newOther entry isNew
  | resume index delivered lookupAt =>
      cases atIndex : world.awaiting[index]? with
      | none =>
          simp only [World.step, atIndex]
          exact fresh
      | some entry =>
          simp only [World.step, atIndex] at unseen ⊢
          have other := fresh.awaiting entry (List.mem_of_getElem? atIndex)
          refine ⟨?_, ?_, fresh.accepted, unseen⟩
          · intro transit member frame isRelay isCopy
            have otherSent : (forwardedFrame flood.base64 entry.frame
                entry.packet.payload).messageId ≠ flood.messageId := other
            have old := mem_of_mem_append_sendTo otherSent member isRelay isCopy
            exact fresh.inFlight transit old frame isRelay isCopy
          · intro waiting member
            exact fresh.awaiting waiting (List.mem_of_mem_eraseIdx member)
  | reconnect server peers => exact ⟨fresh.inFlight, fresh.awaiting, fresh.accepted, unseen⟩

def entered (flood : Flood) (world : World) (scan : Scan) (rememberAt lookupAt : Nat) : World :=
  world.originate flood.base64 flood.origin flood.packet flood.messageId scan rememberAt lookupAt

theorem seen_entered {scan : Scan} {rememberAt lookupAt : Nat}
    (room : (world.server flood.origin).seenIds.entries.length < maxSeenIds) :
    flood.Seen (flood.entered world scan rememberAt lookupAt) flood.origin := by
  unfold entered
  rw [seen_update rfl, if_pos rfl, forwardToTarget_frame]
  exact seen_rememberMessage_of_room room (Or.inl rfl)

theorem quiet_of_empty (inFlight : world.inFlight = []) (awaiting : world.awaiting = []) :
    flood.Quiet world := by
  refine ⟨?_, ?_⟩
  · intro transit member
    rw [inFlight] at member
    cases member
  · intro entry member
    rw [awaiting] at member
    cases member

def originTargets (flood : Flood) (world : World) (scan : Scan) (rememberAt lookupAt : Nat) :
    List String :=
  (MeshContext.forwardToTarget
    { world.server flood.origin with
      seenIds := (rememberMessage scan rememberAt flood.messageId
        (world.server flood.origin).seenIds).2 }
    lookupAt none flood.packet.toId).1

theorem invariant_entered {scan : Scan} {rememberAt lookupAt : Nat}
    (fresh : Fresh flood world)
    (hops : (world.server flood.origin).maxHops = flood.maxHops)
    (stored : flood.Seen (flood.entered world scan rememberAt lookupAt) flood.origin)
    (forwards : flood.Forwards flood.origin none
      (flood.originTargets world scan rememberAt lookupAt)) :
    flood.Invariant (flood.entered world scan rememberAt lookupAt) := by
  have sent : (flood.entered world scan rememberAt lookupAt).inFlight =
      world.inFlight ++ sendTo flood.origin 1 (flood.copy flood.maxHops)
        (flood.originTargets world scan rememberAt lookupAt) := by
    rw [← hops]
    rfl
  have none : ∀ entry, ¬ flood.Took (flood.entered world scan rememberAt lookupAt) entry :=
    fun entry entryTook => fresh.accepted entry entryTook.member entryTook.isCopy
  refine ⟨?_, ?_, ?_, ?_, stored, ?_, ?_, ?_, ?_⟩
  · intro transit member frame isRelay isCopy
    rw [sent] at member
    rcases List.mem_append.mp member with old | isNew
    · exact absurd isCopy (fresh.inFlight transit old frame isRelay)
    · obtain ⟨target, _, same⟩ := List.mem_map.mp isNew
      rw [← same, MeshFrame.relay.injEq] at isRelay
      rw [← isRelay, ← same]
      exact ⟨rfl, Or.inl ⟨rfl, rfl⟩⟩
  · intro entry member isCopy
    exact absurd isCopy (fresh.awaiting entry member)
  · intro entry entryTook
    exact absurd entryTook (none entry)
  · intro server seen
    by_cases isOrigin : server = flood.origin
    · exact Or.inl isOrigin
    · unfold entered at seen
      rw [seen_update rfl, if_neg isOrigin] at seen
      exact absurd seen (fresh.unseen server)
  · intro left right leftTook
    exact absurd leftTook (none left)
  · refine ⟨_, forwards, ?_⟩
    intro target member
    refine Or.inl ⟨{ source := flood.origin, dest := target, links := 1,
                     frame := .relay (flood.copy flood.maxHops) }, ?_, rfl, rfl, rfl⟩
    rw [sent]
    exact List.mem_append_right _ (List.mem_map.mpr ⟨target, member, rfl⟩)
  · intro entry entryTook
    exact absurd entryTook (none entry)
  · intro entry entryTook
    exact absurd entryTook (none entry)

end Flood

end Lightscale.Mesh
