/-
Messages that follow learned routes.

A server that has a live hint for the target sends to the hinted peer alone.  A hint
says where the target's packets came from last, and it outlives the target's move to
another server, so the message may be sent away from the target for good.  It arrives
when the hints in use and the open connections go down one common ranking of the
servers: the copies then cannot stop anywhere but at the target's server.
-/

import Mathlib.Data.Finset.Card
import Lightscale.Mesh.Flooding

namespace Lightscale.Mesh

open Foundation

/-! ### Forwarding along a ranking -/

theorem sendToPeer_of_mem_forwardToTarget {context : MeshContext} {now : Nat}
    {excludePeer : Option String} {target peer : String}
    (member : peer ∈ (context.forwardToTarget now excludePeer target).1) :
    context.sendToPeer peer = true := by
  unfold MeshContext.forwardToTarget at member
  dsimp only at member
  split at member
  · rename_i hinted isHint
    split at member
    · rename_i usable
      rw [List.mem_singleton.mp member]
      exact usable.2
    · exact ((mem_broadcast _ _ _).mp member).2
  · exact ((mem_broadcast _ _ _).mp member).2

/-- The hint that a server uses for a target instead of sending to all peers. -/
def MeshContext.UsesHint (context : MeshContext) (now : Nat) (excludePeer : Option String)
    (target peer : String) : Prop :=
  (lookupRoute now target context.routeHints).1 = some peer ∧ excludePeer ≠ some peer ∧
    context.sendToPeer peer = true

/-- When the hint in use goes down the ranking, the message goes down to some peer, unless
it came from there. -/
theorem downhill_of_forwardToTarget {context : MeshContext} {now : Nat}
    {excludePeer : Option String} {target server : String} {rank : String → Nat}
    (lower : ∃ peer, context.sendToPeer peer = true ∧ rank peer < rank server)
    (leads : ∀ peer, context.UsesHint now excludePeer target peer → rank peer < rank server) :
    ∃ peer, rank peer < rank server ∧
      (peer ∈ (context.forwardToTarget now excludePeer target).1 ∨ excludePeer = some peer) := by
  obtain ⟨peer, usable, isLower⟩ := lower
  have sentToAll : peer ∈ context.broadcast excludePeer ∨ excludePeer = some peer := by
    by_cases cameFrom : excludePeer = some peer
    · exact Or.inr cameFrom
    · exact Or.inl ((mem_broadcast _ _ _).mpr ⟨cameFrom, usable⟩)
  unfold MeshContext.forwardToTarget
  dsimp only
  cases isHint : (lookupRoute now target context.routeHints).1 with
  | none => exact ⟨peer, isLower, sentToAll⟩
  | some hinted =>
      dsimp only
      split
      · rename_i both
        exact ⟨hinted, leads hinted ⟨isHint, both.1, both.2⟩, Or.inl List.mem_cons_self⟩
      · exact ⟨peer, isLower, sentToAll⟩

def rankFlood (rank : String → Nat) (base64 : Base64) (messageId : String) (packet : Packet)
    (origin home : String) (maxHops : Nat) : Flood where
  base64 := base64
  messageId := messageId
  packet := packet
  origin := origin
  home := home
  maxHops := maxHops
  Forwards server source targets :=
    server = home ∨ ∃ peer, rank peer < rank server ∧ (peer ∈ targets ∨ source = some peer)
  Enough _ _ := True
  enough_refl _ := trivial

/-- A set of servers without connections out of it, in which every server but the home
one has a connection down the ranking. -/
structure Downhill (servers : Finset String) (home : String) (rank : String → Nat)
    (world : World) : Prop where
  closed : ∀ server ∈ servers, ∀ peer, (world.server server).sendToPeer peer = true →
    peer ∈ servers
  lower : ∀ server ∈ servers, server ≠ home →
    ∃ peer, (world.server server).sendToPeer peer = true ∧ rank peer < rank server

theorem Downhill.step {servers : Finset String} {home : String} {rank : String → Nat}
    {world : World} {base64 : Base64} {action : Action}
    (downhill : Downhill servers home rank world)
    (fixed : ∀ server peers, action ≠ .reconnect server peers) :
    Downhill servers home rank (world.step base64 action) := by
  have same : ∀ server peer, ((world.step base64 action).server server).sendToPeer peer =
      (world.server server).sendToPeer peer := by
    intro server peer
    unfold MeshContext.sendToPeer
    rw [(sameServer_step base64 world fixed server).peers]
  constructor
  · intro server inside peer usable
    rw [same] at usable
    exact downhill.closed server inside peer usable
  · intro server inside notHome
    obtain ⟨peer, usable, isLower⟩ := downhill.lower server inside notHome
    exact ⟨peer, by rw [same]; exact usable, isLower⟩

/-! ### The message stays inside -/

structure Confined (servers : Finset String) (flood : Flood) (world : World) : Prop where
  inFlight : ∀ transit ∈ world.inFlight, ∀ frame, transit.frame = .relay frame →
    frame.messageId = flood.messageId → transit.dest ∈ servers
  accepted : ∀ entry, flood.Took world entry → entry.server ∈ servers

theorem Confined.step {servers : Finset String} {flood : Flood} {world : World}
    {action : Action} (confined : Confined servers flood world) (inv : flood.Invariant world)
    (closed : ∀ server ∈ servers, ∀ peer, (world.server server).sendToPeer peer = true →
      peer ∈ servers)
    (notAgain : flood.NotAgain action) :
    Confined servers flood (world.step flood.base64 action) := by
  cases action with
  | originate server packet messageId scan rememberAt lookupAt =>
      have other : messageId ≠ flood.messageId := by
        intro same
        exact notAgain server packet scan rememberAt lookupAt (by rw [same])
      refine ⟨?_, fun entry took => confined.accepted entry ⟨took.member, took.isCopy⟩⟩
      intro transit member frame isRelay isCopy
      have old := Flood.mem_of_mem_append_sendTo other member isRelay isCopy
      exact confined.inFlight transit old frame isRelay isCopy
  | receive index scan rememberAt learnAt =>
      cases atIndex : world.inFlight[index]? with
      | none =>
          simp only [World.step, atIndex]
          exact confined
      | some transit =>
          simp only [World.step, atIndex]
          obtain ⟨new, _, accepted, fromFrame⟩ := entries_receive flood.base64
            (world.takeFrame index) transit scan rememberAt learnAt
          constructor
          · intro carrier member
            rw [inFlight_receive] at member
            exact confined.inFlight carrier (List.mem_of_mem_eraseIdx member)
          · intro entry took
            have member := took.member
            rw [accepted] at member
            rcases List.mem_append.mp member with old | isNew
            · exact confined.accepted entry ⟨old, took.isCopy⟩
            · obtain ⟨isRelay, shape⟩ := fromFrame entry isNew
              rw [shape]
              exact confined.inFlight transit (List.mem_of_getElem? atIndex) entry.frame isRelay
                took.isCopy
  | resume index delivered lookupAt =>
      cases atIndex : world.awaiting[index]? with
      | none =>
          simp only [World.step, atIndex]
          exact confined
      | some entry =>
          simp only [World.step, atIndex]
          refine ⟨?_, fun other took => confined.accepted other ⟨took.member, took.isCopy⟩⟩
          intro transit member frame isRelay isCopy
          rcases List.mem_append.mp member with old | isNew
          · exact confined.inFlight transit old frame isRelay isCopy
          · obtain ⟨peer, peerIn, same⟩ := List.mem_map.mp isNew
            rw [← same, MeshFrame.relay.injEq] at isRelay
            rw [← isRelay] at isCopy
            have waiting := List.mem_of_getElem? atIndex
            have inside := confined.accepted entry ⟨inv.waits entry waiting isCopy, isCopy⟩
            rw [← same]
            change peer ∈ (finishFrame lookupAt entry.source entry.frame delivered
              (world.server entry.server)).1 at peerIn
            have forwarded := (finishFrame_targets peerIn).2.2
            exact closed entry.server inside peer (sendToPeer_of_mem_forwardToTarget forwarded)
  | reconnect server peers =>
      exact ⟨confined.inFlight, fun entry took => confined.accepted entry
        ⟨took.member, took.isCopy⟩⟩

/-! ### The hops suffice -/

section

variable {servers : Finset String} {flood : Flood} {world : World}

theorem exists_took_with_hops (inv : flood.Invariant world) {entry : Accepted}
    (took : flood.Took world entry) {hops : Nat} (above : entry.frame.hopsLeft ≤ hops)
    (within : hops ≤ flood.maxHops) :
    ∃ other, flood.Took world other ∧ other.frame.hopsLeft = hops := by
  induction hops, above using Nat.le_induction with
  | base => exact ⟨entry, took, rfl⟩
  | succ hops _ ih =>
      obtain ⟨other, otherTook, otherHops⟩ := ih (by omega)
      obtain ⟨_, _, sent, _, _⟩ := inv.taken other otherTook
      rcases sent with ⟨_, first⟩ | ⟨parent, parentTook, _, oneMore⟩
      · omega
      · exact ⟨parent, parentTook, by omega⟩

/-- With as many hops as servers no copy runs out: each step down is at a server of its
own, and none of them is the origin. -/
theorem hopsLeft_ne_zero (inv : flood.Invariant world) (confined : Confined servers flood world)
    (originIn : flood.origin ∈ servers) (enough : servers.card ≤ flood.maxHops)
    {entry : Accepted} (took : flood.Took world entry) : entry.frame.hopsLeft ≠ 0 := by
  intro spent
  have holder : ∀ hops, hops ∈ Finset.range (flood.maxHops + 1) →
      ∃ server, server ∈ servers.erase flood.origin ∧
        ∃ other, flood.Took world other ∧ other.server = server ∧ other.frame.hopsLeft = hops := by
    intro hops inRange
    have within := Finset.mem_range.mp inRange
    obtain ⟨other, otherTook, otherHops⟩ :=
      exists_took_with_hops inv took (by omega : entry.frame.hopsLeft ≤ hops) (by omega)
    have notOrigin := (inv.taken other otherTook).2.2.2.1
    refine ⟨other.server, ?_, other, otherTook, rfl, otherHops⟩
    exact Finset.mem_erase.mpr ⟨notOrigin, confined.accepted other otherTook⟩
  choose! server inside owner using holder
  have injective : Set.InjOn server (Finset.range (flood.maxHops + 1)) := by
    intro left leftIn right rightIn same
    obtain ⟨leftEntry, leftTook, leftServer, leftHops⟩ := owner left leftIn
    obtain ⟨rightEntry, rightTook, rightServer, rightHops⟩ := owner right rightIn
    have one : leftEntry = rightEntry := by
      apply inv.once leftEntry rightEntry leftTook rightTook
      rw [leftServer, rightServer, same]
    rw [← leftHops, ← rightHops, one]
  have bound := Finset.card_le_card_of_injOn server inside injective
  rw [Finset.card_range, Finset.card_erase_of_mem originIn] at bound
  omega

end

/-! ### The message arrives -/

section

variable {rank : String → Nat} {base64 : Base64} {messageId : String} {packet : Packet}
  {origin home : String} {maxHops : Nat} {servers : Finset String} {world : World}

theorem home_taken
    (inv : (rankFlood rank base64 messageId packet origin home maxHops).Invariant world)
    (quiet : (rankFlood rank base64 messageId packet origin home maxHops).Quiet world)
    (positive : ∀ entry,
      (rankFlood rank base64 messageId packet origin home maxHops).Took world entry →
      entry.frame.hopsLeft ≠ 0)
    (apart : origin ≠ home) {height : Nat} {server : String} (isHeight : rank server = height)
    (holder : server = origin ∨
      ∃ entry, (rankFlood rank base64 messageId packet origin home maxHops).Took world entry ∧
        entry.server = server) :
    ∃ entry, (rankFlood rank base64 messageId packet origin home maxHops).Took world entry ∧
      entry.server = home := by
  induction height using Nat.strong_induction_on generalizing server with
  | _ height ih =>
      -- Whoever a copy was sent to, or came from, holds one and ranks lower.
      have descend : ∀ peer, rank peer < rank server →
          (peer = origin ∨
            ∃ entry, (rankFlood rank base64 messageId packet origin home maxHops).Took world
              entry ∧ entry.server = peer) →
          ∃ entry, (rankFlood rank base64 messageId packet origin home maxHops).Took world
            entry ∧ entry.server = home := by
        intro peer isLower peerHolds
        rw [isHeight] at isLower
        exact ih (rank peer) isLower rfl peerHolds
      have holds : ∀ {source target : String} {hops : Nat},
          (rankFlood rank base64 messageId packet origin home maxHops).Reached world source target
            hops →
          target = origin ∨
            ∃ entry, (rankFlood rank base64 messageId packet origin home maxHops).Took world
              entry ∧ entry.server = target := by
        intro source target hops reached
        rcases reached.holds quiet with isOrigin | ⟨entry, took, atTarget, _⟩
        · exact Or.inl isOrigin
        · exact Or.inr ⟨entry, took, atTarget⟩
      rcases holder with isOrigin | ⟨entry, took, atServer⟩
      · obtain ⟨targets, forwards, reached⟩ := inv.originServed
        rcases forwards with isHome | ⟨peer, isLower, sentTo | cameFrom⟩
        · exact absurd isHome apart
        · rw [isOrigin] at descend
          exact descend peer isLower (holds (reached peer sentTo))
        · cases cameFrom
      · rcases inv.served entry took with waits | spent | atHome | served
        · exact absurd took.isCopy (quiet.awaiting entry waits)
        · exact absurd spent (positive entry took)
        · exact ⟨entry, took, atHome⟩
        · obtain ⟨targets, forwards, reached⟩ := served
          rcases forwards with isHome | ⟨peer, isLower, sentTo | cameFrom⟩
          · exact ⟨entry, took, isHome⟩
          · rw [atServer] at isLower
            exact descend peer isLower (holds (reached peer sentTo))
          · rw [atServer] at isLower
            obtain ⟨_, _, sent, _, _⟩ := inv.taken entry took
            rw [Option.some.inj cameFrom] at sent
            rcases sent with ⟨isOrigin, _⟩ | ⟨parent, parentTook, atPeer, _⟩
            · exact descend peer isLower (Or.inl isOrigin)
            · exact descend peer isLower (Or.inr ⟨parent, parentTook, atPeer⟩)

end

/-- The conditions on a step after the message has entered: the connections stay, no
seen id is forgotten, the id is not drawn again, only the home server delivers, and a
hint that is used for the message goes down the ranking. -/
structure FollowsRank (rank : String → Nat) (flood : Flood) (world : World) (action : Action) :
    Prop where
  fixed : ∀ server peers, action ≠ .reconnect server peers
  remembers : flood.Remembers world action
  notAgain : flood.NotAgain action
  delivered : ∀ index lookupAt entry, action = .resume index true lookupAt →
    world.awaiting[index]? = some entry → entry.frame.messageId = flood.messageId →
    entry.server = flood.home
  leads : ∀ index lookupAt entry, action = .resume index false lookupAt →
    world.awaiting[index]? = some entry → entry.frame.messageId = flood.messageId →
    ∀ peer, (world.server entry.server).UsesHint lookupAt (some entry.source)
      flood.packet.toId peer → rank peer < rank entry.server

structure HintState (servers : Finset String) (rank : String → Nat) (flood : Flood)
    (world : World) : Prop where
  inv : flood.Invariant world
  downhill : Downhill servers flood.home rank world
  confined : Confined servers flood world
  listens : (world.server flood.home).localOpen = true

theorem hintState_step {servers : Finset String} {rank : String → Nat} {base64 : Base64}
    {messageId : String} {packet : Packet} {origin home : String} {maxHops : Nat} {world : World}
    {action : Action} (roundTrips : base64.RoundTrips)
    (follows : FollowsRank rank (rankFlood rank base64 messageId packet origin home maxHops) world
      action)
    (state : HintState servers rank (rankFlood rank base64 messageId packet origin home maxHops)
      world) :
    HintState servers rank (rankFlood rank base64 messageId packet origin home maxHops)
      (world.step base64 action) := by
  have same := sameServer_step base64 world follows.fixed home
  refine ⟨?_, state.downhill.step follows.fixed, ?_, same.localOpen.trans state.listens⟩
  · refine Flood.invariant_step roundTrips follows.remembers ?_
      ⟨follows.delivered, state.listens⟩ ?_ follows.notAgain state.inv
    · intro index scan rememberAt learnAt transit frame _ _ _ _ seen
      rcases state.inv.seen transit.dest seen with isOrigin | ⟨entry, took, atDest⟩
      · exact Or.inl isOrigin
      · exact Or.inr ⟨entry, took, atDest, trivial⟩
    · intro index lookupAt entry asked atIndex isCopy _
      by_cases atHome : entry.server = home
      · exact Or.inl atHome
      · have waiting := List.mem_of_getElem? atIndex
        have inside := state.confined.accepted entry
          ⟨state.inv.waits entry waiting isCopy, isCopy⟩
        exact Or.inr (downhill_of_forwardToTarget
          (state.downhill.lower entry.server inside atHome)
          (follows.leads index lookupAt entry asked atIndex isCopy))
  · exact state.confined.step state.inv state.downhill.closed follows.notAgain

/-- A message whose hops are as many as the servers is handed to the local relay of the
target's server by the time no copy is left, in every run in which each hint that is
used for it goes down a ranking of the servers, as some open connection of every other
server does. -/
theorem hinted_message_reaches_home (rank : String → Nat) (base64 : Base64)
    (roundTrips : base64.RoundTrips) (messageId : String) (packet : Packet)
    (origin home : String) (apart : origin ≠ home) (maxHops : Nat) (servers : Finset String)
    (originIn : origin ∈ servers) (enough : servers.card ≤ maxHops) (start : World)
    (downhill : Downhill servers home rank start)
    (originHops : (start.server origin).maxHops = maxHops)
    (fresh : (rankFlood rank base64 messageId packet origin home maxHops).Fresh start)
    (listens : (start.server home).localOpen = true) (scan : Scan) (rememberAt lookupAt : Nat)
    (leads : ∀ peer, (start.server origin).UsesHint lookupAt none packet.toId peer →
      rank peer < rank origin)
    (stored : (rankFlood rank base64 messageId packet origin home maxHops).Seen
      (start.step base64 (.originate origin packet messageId scan rememberAt lookupAt)) origin)
    (rest : List Action)
    (follows : ∀ event ∈ trace (World.step base64)
        (start.step base64 (.originate origin packet messageId scan rememberAt lookupAt)) rest,
      FollowsRank rank (rankFlood rank base64 messageId packet origin home maxHops) event.before
        event.input)
    (quiet : (rankFlood rank base64 messageId packet origin home maxHops).Quiet
      (exec (World.step base64) start
        (.originate origin packet messageId scan rememberAt lookupAt :: rest))) :
    ∃ entry ∈ (exec (World.step base64) start
        (.originate origin packet messageId scan rememberAt lookupAt :: rest)).handed,
      entry.server = home ∧ entry.frame.messageId = messageId ∧ entry.packet = packet := by
  have fixed : ∀ server peers,
      Action.originate origin packet messageId scan rememberAt lookupAt ≠
        .reconnect server peers := nofun
  have initial : HintState servers rank
      (rankFlood rank base64 messageId packet origin home maxHops)
      (start.step base64 (.originate origin packet messageId scan rememberAt lookupAt)) := by
    refine ⟨?_, downhill.step fixed, ?_,
      (sameServer_step base64 start fixed home).localOpen.trans listens⟩
    · refine Flood.invariant_entered fresh originHops stored (Or.inr ?_)
      exact downhill_of_forwardToTarget (downhill.lower origin originIn apart) leads
    · constructor
      · intro transit member frame isRelay isCopy
        rcases List.mem_append.mp member with old | isNew
        · exact absurd isCopy (fresh.inFlight transit old frame isRelay)
        · obtain ⟨peer, peerIn, same⟩ := List.mem_map.mp isNew
          have usable := sendToPeer_of_mem_forwardToTarget peerIn
          rw [← same]
          exact downhill.closed origin originIn peer usable
      · intro entry took
        exact absurd took.isCopy (fresh.accepted entry took.member)
  have final := exec_invariant_when (World.step base64)
    (FollowsRank rank (rankFlood rank base64 messageId packet origin home maxHops))
    (HintState servers rank (rankFlood rank base64 messageId packet origin home maxHops))
    (fun world action met state => hintState_step roundTrips met state)
    (start.step base64 (.originate origin packet messageId scan rememberAt lookupAt)) initial
    rest follows
  obtain ⟨entry, took, atHome⟩ := home_taken final.inv quiet
    (fun entry took => hopsLeft_ne_zero final.inv final.confined originIn enough took) apart rfl
    (Or.inl rfl)
  exact ⟨entry, final.inv.handed entry took atHome, atHome, took.isCopy,
    (final.inv.taken entry took).2.1⟩

def replyPacket : Packet where
  transport := .stream
  fromId := "x"
  toId := "w"
  payload := [1]

def replyActions : List Action :=
  [.originate "c" replyPacket "r" inOrder 0 0, .receive 0 inOrder 0 0, .resume 0 false 0,
    .receive 0 inOrder 0 0, .resume 0 true 0]

def hintedChain : World :=
  exec (World.step standardBase64) (linkedMesh chainLinks 3) replyActions

def chainRank (server : String) : Nat :=
  if server = "a" then 2 else if server = "b" then 1 else 0

def staysOnRank (rank : String → Nat) (target home : String) (event : Event World Action) :
    Bool :=
  match event.input with
  | .resume index true _ =>
      (event.before.awaiting[index]?).all fun entry => decide (entry.server = home)
  | .resume index false lookupAt =>
      (event.before.awaiting[index]?).all fun entry =>
        (lookupRoute lookupAt target (event.before.server entry.server).routeHints).1.all
          fun peer => decide (rank peer < rank entry.server)
  | _ => true

theorem hintedChain_fresh (rank : String → Nat) :
    (rankFlood rank standardBase64 "m" samplePacket "a" "c" 3).Fresh hintedChain := by
  refine exec_invariant_when (World.step standardBase64)
    (fun _ action => (rankFlood rank standardBase64 "m" samplePacket "a" "c" 3).NotAgain action)
    (rankFlood rank standardBase64 "m" samplePacket "a" "c" 3).Fresh
    (fun world action notAgain fresh => fresh.step notAgain) (linkedMesh chainLinks 3)
    ⟨nofun, nofun, nofun, fun _ seen => seen rfl⟩ replyActions ?_
  intro event member server packet scan rememberAt lookupAt isOriginate
  have isAction := List.mem_map_of_mem (f := Event.input) member
  rw [map_input_trace, isOriginate] at isAction
  simp [replyActions, rankFlood] at isAction

theorem hintedChain_followsRank :
    ∀ event ∈ trace (World.step standardBase64)
        (hintedChain.step standardBase64 (.originate "a" samplePacket "m" inOrder 0 0))
        chainActions,
      FollowsRank chainRank (rankFlood chainRank standardBase64 "m" samplePacket "a" "c" 3)
        event.before event.input := by
  intro event member
  have whole : event ∈ trace (World.step standardBase64) (linkedMesh chainLinks 3)
      (replyActions ++ .originate "a" samplePacket "m" inOrder 0 0 :: chainActions) := by
    rw [trace_append]
    exact List.mem_append_right _ (List.mem_cons_of_mem _ member)
  have isAction : event.input ∈ chainActions := by
    have mapped := List.mem_map_of_mem (f := Event.input) member
    rwa [map_input_trace] at mapped
  have onRank : staysOnRank chainRank "x" "c" event = true := by
    have all : ∀ event ∈ trace (World.step standardBase64)
        (hintedChain.step standardBase64 (.originate "a" samplePacket "m" inOrder 0 0))
        chainActions,
        staysOnRank chainRank "x" "c" event = true := by decide +kernel
    exact all event member
  unfold staysOnRank at onRank
  refine ⟨?_, ?_, ?_, ?_, ?_⟩
  · intro server peers isReconnect
    rw [isReconnect] at isAction
    simp [chainActions] at isAction
  · refine Flood.remembers_of_short_run (fun _ => rfl) (by decide) ?_ whole
    intro index scan rememberAt learnAt isReceive
    simp only [replyActions, chainActions, List.cons_append, List.nil_append, List.mem_cons,
      Action.receive.injEq, reduceCtorEq, List.not_mem_nil, or_false, false_or] at isReceive
    have atZero : rememberAt = 0 := by omega
    rw [atZero]
    decide
  · intro server packet scan rememberAt lookupAt isOriginate
    rw [isOriginate] at isAction
    simp [chainActions] at isAction
  · intro index lookupAt entry asked atIndex _
    rw [asked] at onRank
    dsimp only at onRank
    rw [atIndex] at onRank
    exact of_decide_eq_true onRank
  · intro index lookupAt entry asked atIndex _ peer uses
    rw [asked] at onRank
    dsimp only at onRank
    rw [atIndex] at onRank
    have hinted := uses.1
    change (lookupRoute lookupAt "x" (event.before.server entry.server).routeHints).1 = _ at hinted
    dsimp only [Option.all] at onRank
    rw [hinted] at onRank
    exact of_decide_eq_true onRank

theorem hintedChain_downhill : Downhill {"a", "b", "c"} "c" chainRank hintedChain := by
  refine exec_invariant_when (World.step standardBase64)
    (fun _ action => ∀ server peers, action ≠ .reconnect server peers)
    (Downhill {"a", "b", "c"} "c" chainRank)
    (fun world action fixed downhill => downhill.step fixed) (linkedMesh chainLinks 3) ?_
    replyActions ?_
  · constructor
    · intro server _ peer usable
      have adjacent := (linkedMesh_wired 3 (by decide) server peer).mp usable
      rcases (SimpleGraph.fromRel_adj _ _ _).mp adjacent with ⟨_, forth | back⟩
      · simp only [chainLinks, List.mem_cons, Prod.mk.injEq, List.not_mem_nil, or_false] at forth
        rcases forth with ⟨_, isPeer⟩ | ⟨_, isPeer⟩ <;> simp [isPeer]
      · simp only [chainLinks, List.mem_cons, Prod.mk.injEq, List.not_mem_nil, or_false] at back
        rcases back with ⟨isPeer, _⟩ | ⟨isPeer, _⟩ <;> simp [isPeer]
    · intro server inside notHome
      simp only [Finset.mem_insert, Finset.mem_singleton] at inside
      rcases inside with rfl | rfl | rfl
      · exact ⟨"b", by decide +kernel, by decide⟩
      · exact ⟨"c", by decide +kernel, by decide⟩
      · exact absurd rfl notHome
  · intro event member server peers isReconnect
    have isAction := List.mem_map_of_mem (f := Event.input) member
    rw [map_input_trace, isReconnect] at isAction
    simp [replyActions] at isAction

theorem sample_hinted_message_reaches_home :
    (hintedChain.server "a").UsesHint 0 none "x" "b" ∧
      ∃ entry ∈ (exec (World.step standardBase64) hintedChain
          (.originate "a" samplePacket "m" inOrder 0 0 :: chainActions)).handed,
        entry.server = "c" ∧ entry.frame.messageId = "m" ∧ entry.packet = samplePacket := by
  refine ⟨⟨by decide +kernel, by decide, by decide +kernel⟩, ?_⟩
  refine hinted_message_reaches_home chainRank standardBase64 standardBase64_roundTrips "m"
    samplePacket "a" "c" (by decide) 3 {"a", "b", "c"} (by decide) (by decide) hintedChain
    hintedChain_downhill (by decide +kernel) (hintedChain_fresh chainRank) (by decide +kernel)
    inOrder 0 0 ?_ ?_ chainActions hintedChain_followsRank ?_
  · rintro peer ⟨hinted, _, _⟩
    have isHint : (lookupRoute 0 "x" (hintedChain.server "a").routeHints).1 = some "b" := by
      decide +kernel
    rw [show samplePacket.toId = "x" from rfl, isHint, Option.some.injEq] at hinted
    rw [← hinted]
    decide
  · refine Flood.seen_entered ?_
    decide +kernel
  · exact Flood.quiet_of_empty (by decide +kernel) (by decide +kernel)

def starLinks : List (String × String) := [("a", "b"), ("a", "c")]

def movedActions : List Action :=
  [.originate "b" replyPacket "r" inOrder 0 0, .receive 0 inOrder 0 0, .resume 0 true 0,
    .originate "a" samplePacket "m" inOrder 0 0, .receive 0 inOrder 0 0, .resume 0 false 0]

def unhintedActions : List Action :=
  [.originate "a" samplePacket "m" inOrder 0 0, .receive 0 inOrder 0 0, .resume 0 false 0,
    .receive 0 inOrder 0 0, .resume 0 true 0]

/-- The stale hint sends the packet to the old server only, although the new one is a
peer of the sender's server and a flood reaches it. -/
theorem stale_hint_loses_packet :
    ((linkedMesh starLinks 3).server "a").sendToPeer "c" = true ∧
      (exec (World.step standardBase64) (linkedMesh starLinks 3) movedActions).inFlight = [] ∧
      (exec (World.step standardBase64) (linkedMesh starLinks 3) movedActions).awaiting = [] ∧
      (∀ entry ∈ (exec (World.step standardBase64) (linkedMesh starLinks 3) movedActions).handed,
        entry.server ≠ "c") ∧
      ∃ entry ∈ (exec (World.step standardBase64) (linkedMesh starLinks 3) unhintedActions).handed,
        entry.server = "c" ∧ entry.packet = samplePacket := by
  refine ⟨by decide +kernel, by decide +kernel, by decide +kernel, by decide +kernel, ?_⟩
  decide +kernel

end Lightscale.Mesh
