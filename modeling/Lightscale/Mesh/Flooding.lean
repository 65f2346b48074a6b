/-
How far a flooded message gets.

Without a hint for the target every server that takes a copy sends it to all of its
peers but the one it came from, with one hop less.  A server keeps the first copy that
arrives and drops the others, whatever hops they have left.  The hop limit is therefore
a guarantee only if no server drops a copy with more hops left than the one it kept.
-/

import Mathlib.Combinatorics.SimpleGraph.Metric
import Lightscale.Foundation.Base64
import Lightscale.Mesh.Message

namespace Lightscale.Mesh

open Foundation

/-! ### Forwarding without hints -/

theorem mem_broadcast (context : MeshContext) (excludePeer : Option String) (peer : String) :
    peer ∈ context.broadcast excludePeer ↔
      excludePeer ≠ some peer ∧ context.sendToPeer peer = true := by
  unfold MeshContext.broadcast
  rw [List.mem_map, MeshContext.sendToPeer_iff]
  constructor
  · rintro ⟨⟨key, sender⟩, member, rfl⟩
    obtain ⟨inner, isOpen⟩ := List.mem_filter.mp member
    obtain ⟨stored, allowed⟩ := List.mem_filter.mp inner
    have found := (Table.mem_entries_iff context.peers key sender).mp stored
    exact ⟨of_decide_eq_true allowed, sender, found, isOpen⟩
  · rintro ⟨allowed, sender, found, isOpen⟩
    refine ⟨⟨peer, sender⟩, ?_, rfl⟩
    refine List.mem_filter.mpr ⟨List.mem_filter.mpr ⟨?_, decide_eq_true allowed⟩, isOpen⟩
    exact (Table.mem_entries_iff context.peers peer sender).mpr found

theorem forwardToTarget_of_no_hint {context : MeshContext} {now : Nat}
    {excludePeer : Option String} {target : String}
    (noHint : (lookupRoute now target context.routeHints).1 = none) :
    (context.forwardToTarget now excludePeer target).1 = context.broadcast excludePeer := by
  unfold MeshContext.forwardToTarget
  dsimp only
  rw [noHint]
  rfl

theorem lookupRoute_none {now : Nat} {target : String} {hints : Table String RouteHint}
    (absent : hints.lookup target = none) : (lookupRoute now target hints).1 = none := by
  unfold lookupRoute
  rw [absent]

/-! ### The topology -/

/-- The open connections are the edges of the graph. -/
def Wired (graph : SimpleGraph String) (world : World) : Prop :=
  ∀ server peer, (world.server server).sendToPeer peer = true ↔ graph.Adj server peer

theorem Wired.step {graph : SimpleGraph String} {world : World} {base64 : Base64}
    {action : Action} (wired : Wired graph world)
    (fixed : ∀ server peers, action ≠ .reconnect server peers) :
    Wired graph (world.step base64 action) := by
  intro server peer
  rw [← wired server peer]
  unfold MeshContext.sendToPeer
  rw [(sameServer_step base64 world fixed server).peers]

/-- A message that is flooded along the edges of a graph; a copy may be dropped for one
with at least as many hops left. -/
def graphFlood (graph : SimpleGraph String) (base64 : Base64) (messageId : String)
    (packet : Packet) (origin home : String) (maxHops : Nat) : Flood where
  base64 := base64
  messageId := messageId
  packet := packet
  origin := origin
  home := home
  maxHops := maxHops
  Forwards server source targets :=
    ∀ peer, graph.Adj server peer → source ≠ some peer → peer ∈ targets
  Enough hops kept := hops ≤ kept
  enough_refl := Nat.le_refl

section

variable {graph : SimpleGraph String} {base64 : Base64} {messageId : String}
  {packet : Packet} {origin home : String} {maxHops : Nat} {world : World}

theorem Wired.forwards (wired : Wired graph world) (server : String) (context : MeshContext)
    (samePeers : context.peers = (world.server server).peers) {now : Nat}
    {source : Option String} {target : String}
    (noHint : context.routeHints.lookup target = none) :
    ∀ peer, graph.Adj server peer → source ≠ some peer →
      peer ∈ (context.forwardToTarget now source target).1 := by
  intro peer adjacent notSource
  rw [forwardToTarget_of_no_hint (lookupRoute_none noHint), mem_broadcast]
  refine ⟨notSource, ?_⟩
  unfold MeshContext.sendToPeer
  rw [samePeers]
  exact (wired server peer).mpr adjacent

theorem Flood.Reached.holds {flood : Flood} (quiet : flood.Quiet world)
    {source target : String} {hops : Nat} (reached : flood.Reached world source target hops) :
    flood.Holds world target hops := by
  rcases reached with ⟨transit, member, _, _, isCopy⟩ | holds
  · exact absurd rfl (quiet.inFlight transit member (flood.copy hops) isCopy)
  · exact holds

/-- Along a walk every server has taken a copy with enough hops left to go on, unless
the message has come home on the way. -/
theorem reached_along_walk
    (inv : (graphFlood graph base64 messageId packet origin home maxHops).Invariant world)
    (quiet : (graphFlood graph base64 messageId packet origin home maxHops).Quiet world)
    {server last : String} (walk : graph.Walk server last) (isOrigin : last = origin)
    (within : walk.length ≤ maxHops + 1) :
    server = origin ∨
      (∃ entry, (graphFlood graph base64 messageId packet origin home maxHops).Took world entry ∧
        entry.server = home) ∨
      ∃ entry, (graphFlood graph base64 messageId packet origin home maxHops).Took world entry ∧
        entry.server = server ∧ maxHops + 1 ≤ entry.frame.hopsLeft + walk.length := by
  induction walk with
  | nil => exact Or.inl isOrigin
  | @cons server next last adjacent rest ih =>
      have lengthEq : (SimpleGraph.Walk.cons adjacent rest).length = rest.length + 1 :=
        SimpleGraph.Walk.length_cons adjacent rest
      rw [lengthEq] at within ⊢
      rcases ih isOrigin (by omega) with atOrigin | cameHome | ⟨entry, took, atNext, enough⟩
      · -- The next server is the origin, which sent to all of its peers.
        subst atOrigin
        obtain ⟨targets, forwards, reached⟩ := inv.originServed
        have member := forwards server adjacent.symm (Option.some_ne_none server).symm
        rcases (reached server member).holds quiet with same | ⟨entry, took, atServer, kept⟩
        · exact Or.inl same
        · change maxHops ≤ entry.frame.hopsLeft at kept
          exact Or.inr (Or.inr ⟨entry, took, atServer, by omega⟩)
      · exact Or.inr (Or.inl cameHome)
      · obtain ⟨_, _, sent, _, _⟩ := inv.taken entry took
        rcases inv.served entry took with waits | spent | atHome | served
        · exact absurd took.isCopy (quiet.awaiting entry waits)
        · omega
        · exact Or.inr (Or.inl ⟨entry, took, atHome⟩)
        · obtain ⟨targets, forwards, reached⟩ := served
          by_cases isSource : entry.source = server
          · -- The copy came from the server in question, which had one hop more.
            rw [isSource] at sent
            rcases sent with ⟨same, _⟩ | ⟨parent, parentTook, atServer, oneMore⟩
            · exact Or.inl same
            · exact Or.inr (Or.inr ⟨parent, parentTook, atServer, by omega⟩)
          · have notSource : some entry.source ≠ some server := by
              intro same
              exact isSource (Option.some.inj same)
            rw [← atNext] at adjacent
            have member := forwards server adjacent.symm notSource
            rcases (reached server member).holds quiet with same | ⟨held, heldTook, atServer, kept⟩
            · exact Or.inl same
            · change entry.frame.hopsLeft - 1 ≤ held.frame.hopsLeft at kept
              exact Or.inr (Or.inr ⟨held, heldTook, atServer, by omega⟩)

end

/-! ### A whole run -/

/-- The conditions on a step after the message has entered: the connections stay, no
server has a hint for the target, no seen id is forgotten, the id is not drawn again,
only the home server delivers, and a copy is dropped only for one with at least as
many hops left. -/
structure FloodsFreely (flood : Flood) (world : World) (action : Action) : Prop where
  fixed : ∀ server peers, action ≠ .reconnect server peers
  noHint : ∀ server, (world.server server).routeHints.lookup flood.packet.toId = none
  remembers : flood.Remembers world action
  notAgain : flood.NotAgain action
  delivered : ∀ index lookupAt entry, action = .resume index true lookupAt →
    world.awaiting[index]? = some entry → entry.frame.messageId = flood.messageId →
    entry.server = flood.home
  drops : flood.DropsRightly world action

structure FloodState (graph : SimpleGraph String) (flood : Flood) (world : World) : Prop where
  inv : flood.Invariant world
  wired : Wired graph world
  listens : (world.server flood.home).localOpen = true

theorem floodState_step {graph : SimpleGraph String} {base64 : Base64} {messageId : String}
    {packet : Packet} {origin home : String} {maxHops : Nat} {world : World} {action : Action}
    (roundTrips : base64.RoundTrips)
    (free : FloodsFreely (graphFlood graph base64 messageId packet origin home maxHops) world
      action)
    (state : FloodState graph (graphFlood graph base64 messageId packet origin home maxHops)
      world) :
    FloodState graph (graphFlood graph base64 messageId packet origin home maxHops)
      (world.step base64 action) := by
  have same := sameServer_step base64 world free.fixed home
  refine ⟨?_, state.wired.step free.fixed, same.localOpen.trans state.listens⟩
  refine Flood.invariant_step roundTrips free.remembers free.drops
    ⟨free.delivered, state.listens⟩ ?_ free.notAgain state.inv
  intro index lookupAt entry asked atIndex isCopy hopsLeft
  exact state.wired.forwards entry.server (world.server entry.server) rfl
    (free.noHint entry.server)

/-- In every run in which no server drops a copy with more hops left than the one it
kept, a message to a node within the hop limit is handed to the local relay of the
node's server by the time no copy is left. -/
theorem flood_reaches_home (graph : SimpleGraph String) (base64 : Base64)
    (roundTrips : base64.RoundTrips) (messageId : String) (packet : Packet)
    (origin home : String) (maxHops : Nat) (start : World) (wired : Wired graph start)
    (sameHops : ∀ server, (start.server server).maxHops = maxHops)
    (apart : 1 ≤ graph.dist origin home) (near : graph.dist origin home ≤ maxHops + 1)
    (fresh : (graphFlood graph base64 messageId packet origin home maxHops).Fresh start)
    (listens : (start.server home).localOpen = true)
    (noHint : ∀ server, (start.server server).routeHints.lookup packet.toId = none)
    (scan : Scan) (rememberAt lookupAt : Nat)
    (stored : (graphFlood graph base64 messageId packet origin home maxHops).Seen
      (start.step base64 (.originate origin packet messageId scan rememberAt lookupAt)) origin)
    (rest : List Action)
    (free : ∀ event ∈ trace (World.step base64)
        (start.step base64 (.originate origin packet messageId scan rememberAt lookupAt)) rest,
      FloodsFreely (graphFlood graph base64 messageId packet origin home maxHops) event.before
        event.input)
    (quiet : (graphFlood graph base64 messageId packet origin home maxHops).Quiet
      (exec (World.step base64) start
        (.originate origin packet messageId scan rememberAt lookupAt :: rest))) :
    ∃ entry ∈ (exec (World.step base64) start
        (.originate origin packet messageId scan rememberAt lookupAt :: rest)).handed,
      entry.server = home ∧ entry.frame.messageId = messageId ∧ entry.packet = packet := by
  have fixed : ∀ server peers,
      Action.originate origin packet messageId scan rememberAt lookupAt ≠
        .reconnect server peers := nofun
  have initial : FloodState graph (graphFlood graph base64 messageId packet origin home maxHops)
      (start.step base64 (.originate origin packet messageId scan rememberAt lookupAt)) := by
    refine ⟨?_, wired.step fixed, ?_⟩
    · refine Flood.invariant_entered fresh (sameHops origin) stored ?_
      exact wired.forwards origin
        { start.server origin with
          seenIds := (rememberMessage scan rememberAt messageId
            (start.server origin).seenIds).2 } rfl (noHint origin)
    · exact (sameServer_step base64 start fixed home).localOpen.trans listens
  have final := exec_invariant_when (World.step base64)
    (FloodsFreely (graphFlood graph base64 messageId packet origin home maxHops))
    (FloodState graph (graphFlood graph base64 messageId packet origin home maxHops))
    (fun world action met state => floodState_step roundTrips met state)
    (start.step base64 (.originate origin packet messageId scan rememberAt lookupAt)) initial
    rest free
  have reachable : graph.Reachable home origin := by
    by_contra unreachable
    have zero := SimpleGraph.dist_eq_zero_of_not_reachable unreachable
    rw [SimpleGraph.dist_comm] at zero
    omega
  obtain ⟨walk, shortest⟩ := reachable.exists_walk_length_eq_dist
  rw [SimpleGraph.dist_comm] at shortest
  have different : home ≠ origin := by
    intro same
    rw [same, SimpleGraph.dist_self] at apart
    omega
  have handed : ∀ entry,
      (graphFlood graph base64 messageId packet origin home maxHops).Took
        (exec (World.step base64) start
          (.originate origin packet messageId scan rememberAt lookupAt :: rest)) entry →
      entry.server = home →
      ∃ entry ∈ (exec (World.step base64) start
          (.originate origin packet messageId scan rememberAt lookupAt :: rest)).handed,
        entry.server = home ∧ entry.frame.messageId = messageId ∧ entry.packet = packet := by
    intro entry took atHome
    exact ⟨entry, final.inv.handed entry took atHome, atHome, took.isCopy,
      (final.inv.taken entry took).2.1⟩
  rcases reached_along_walk final.inv quiet walk rfl (by omega) with
    same | ⟨entry, took, atHome⟩ | ⟨entry, took, atHome, _⟩
  · exact absurd same different
  · exact handed entry took atHome
  · exact handed entry took atHome

/-! ### Sample meshes -/

/-- The engine with the standard alphabet and padding. -/
def standardBase64 : Base64 where
  encode payload := String.ofList (Foundation.Base64.encode payload)
  decode text := Foundation.Base64.decode text.toList

theorem standardBase64_roundTrips : standardBase64.RoundTrips := by
  intro payload
  unfold standardBase64
  dsimp only
  rw [String.toList_ofList, Foundation.Base64.decode_encode]

theorem standardBase64_canonical : standardBase64.Canonical := by
  intro text payload decoded
  unfold standardBase64 at decoded ⊢
  dsimp only at decoded ⊢
  rw [Foundation.Base64.encode_of_decode decoded, String.ofList_toList]

def linkedPeers (links : List (String × String)) (server : String) : Table String PeerSender :=
  links.foldr
    (fun link peers =>
      if link.1 = server then peers.insert link.2 { connId := 0, isOpen := true }
      else if link.2 = server then peers.insert link.1 { connId := 0, isOpen := true }
      else peers)
    ∅

def linkedMesh (links : List (String × String)) (maxHops : Nat) : World where
  server server :=
    { maxHops := maxHops
      peers := linkedPeers links server
      seenIds := ∅
      routeHints := ∅
      localOpen := true }
  inFlight := []
  awaiting := []
  accepted := []
  handed := []

def linkGraph (links : List (String × String)) : SimpleGraph String :=
  SimpleGraph.fromRel fun left right => (left, right) ∈ links

theorem lookup_linkedPeers {links : List (String × String)}
    (noLoop : ∀ link ∈ links, link.1 ≠ link.2) (server peer : String) :
    (linkedPeers links server).lookup peer =
      if (server, peer) ∈ links ∨ (peer, server) ∈ links then
        some { connId := 0, isOpen := true } else none := by
  induction links with
  | nil => simp [linkedPeers]
  | cons link rest ih =>
      obtain ⟨left, right⟩ := link
      have apart : left ≠ right := noLoop (left, right) List.mem_cons_self
      have before := ih fun link member => noLoop link (List.mem_cons_of_mem _ member)
      change (if left = server then
          (linkedPeers rest server).insert right { connId := 0, isOpen := true }
        else if right = server then
          (linkedPeers rest server).insert left { connId := 0, isOpen := true }
        else linkedPeers rest server).lookup peer = _
      by_cases isLeft : left = server
      · subst isLeft
        rw [if_pos rfl, Table.lookup_insert_eq, before]
        by_cases isPeer : peer = right
        · simp [isPeer]
        · simp [isPeer, apart]
      · rw [if_neg isLeft]
        by_cases isRight : right = server
        · subst isRight
          rw [if_pos rfl, Table.lookup_insert_eq, before]
          by_cases isPeer : peer = left
          · simp [isPeer]
          · simp [isPeer, Ne.symm apart]
        · rw [if_neg isRight, before]
          simp [Ne.symm isLeft, Ne.symm isRight]

theorem linkedMesh_wired {links : List (String × String)} (maxHops : Nat)
    (noLoop : ∀ link ∈ links, link.1 ≠ link.2) :
    Wired (linkGraph links) (linkedMesh links maxHops) := by
  intro server peer
  have looked := lookup_linkedPeers noLoop server peer
  rw [MeshContext.sendToPeer_iff, linkGraph, SimpleGraph.fromRel_adj]
  change (∃ sender, (linkedPeers links server).lookup peer = some sender ∧ _) ↔ _
  rw [looked]
  by_cases linked : (server, peer) ∈ links ∨ (peer, server) ∈ links
  · rw [if_pos linked]
    refine iff_of_true ⟨_, rfl, rfl⟩ ⟨?_, linked⟩
    rintro rfl
    rcases linked with loop | loop
    · exact noLoop _ loop rfl
    · exact noLoop _ loop rfl
  · rw [if_neg linked]
    constructor
    · rintro ⟨sender, isSome, _⟩
      cases isSome
    · intro adjacent
      exact absurd adjacent.2 linked

theorem linkedMesh_silent (links : List (String × String)) (maxHops : Nat) (target : String) :
    Silent target (linkedMesh links maxHops) :=
  ⟨nofun, nofun, fun _ => rfl⟩

def samplePacket : Packet where
  transport := .stream
  fromId := "w"
  toId := "x"
  payload := [7]

def chainLinks : List (String × String) := [("a", "b"), ("b", "c")]

def chainActions : List Action :=
  [.receive 0 inOrder 0 0, .resume 0 false 0, .receive 0 inOrder 0 0, .resume 0 true 0]

def arrivesNew (messageId home : String) (event : Event World Action) : Bool :=
  match event.input with
  | .receive index _ _ _ =>
      (event.before.inFlight[index]?).all fun transit =>
        (event.before.server transit.dest).seenIds.lookup messageId = none
  | .resume index true _ =>
      (event.before.awaiting[index]?).all fun entry => decide (entry.server = home)
  | _ => true

theorem chain_floodsFreely :
    ∀ event ∈ trace (World.step standardBase64)
        ((linkedMesh chainLinks 1).step standardBase64
          (.originate "a" samplePacket "m" inOrder 0 0)) chainActions,
      FloodsFreely (graphFlood (linkGraph chainLinks) standardBase64 "m" samplePacket "a" "c" 1)
        event.before event.input := by
  intro event member
  have whole : event ∈ trace (World.step standardBase64) (linkedMesh chainLinks 1)
      (.originate "a" samplePacket "m" inOrder 0 0 :: chainActions) :=
    List.mem_cons_of_mem _ member
  have isAction : event.input ∈ chainActions := by
    have mapped := List.mem_map_of_mem (f := Event.input) member
    rwa [map_input_trace] at mapped
  have new : arrivesNew "m" "c" event = true := by
    have all : ∀ event ∈ trace (World.step standardBase64)
        ((linkedMesh chainLinks 1).step standardBase64
          (.originate "a" samplePacket "m" inOrder 0 0)) chainActions,
        arrivesNew "m" "c" event = true := by decide +kernel
    exact all event member
  obtain ⟨early, late, split, before⟩ := before_of_mem_trace _ whole
  refine ⟨?_, ?_, ?_, ?_, ?_, ?_⟩
  · intro server peers isReconnect
    rw [isReconnect] at isAction
    simp [chainActions] at isAction
  · rw [before]
    refine (Silent.exec standardBase64 (linkedMesh_silent chainLinks 1 "x") early ?_).noHint
    intro server packet messageId scan rememberAt lookupAt isEarly
    have among : Action.originate server packet messageId scan rememberAt lookupAt ∈
        Action.originate "a" samplePacket "m" inOrder 0 0 :: chainActions := by
      rw [split]
      exact List.mem_append_left _ isEarly
    simp only [chainActions, List.mem_cons, Action.originate.injEq, reduceCtorEq,
      List.not_mem_nil, or_false] at among
    rw [among.2.1]
    decide
  · refine Flood.remembers_of_short_run (fun _ => rfl) (by decide) ?_ whole
    intro index scan rememberAt learnAt isReceive
    simp only [chainActions, List.mem_cons, Action.receive.injEq, reduceCtorEq,
      List.not_mem_nil, or_false, false_or] at isReceive
    have atZero : rememberAt = 0 := by omega
    rw [atZero]
    decide
  · intro server packet scan rememberAt lookupAt isOriginate
    rw [isOriginate] at isAction
    simp [chainActions] at isAction
  · intro index lookupAt entry asked atIndex _
    unfold arrivesNew at new
    rw [asked] at new
    dsimp only at new
    rw [atIndex] at new
    exact of_decide_eq_true new
  · intro index scan rememberAt learnAt transit frame asked atIndex _ _ seen
    unfold arrivesNew at new
    rw [asked] at new
    dsimp only at new
    rw [atIndex] at new
    exact absurd (of_decide_eq_true new) seen

theorem dist_of_common_peer {graph : SimpleGraph String} {left middle right : String}
    (first : graph.Adj left middle) (second : graph.Adj middle right)
    (different : left ≠ right) : 1 ≤ graph.dist left right ∧ graph.dist left right ≤ 2 := by
  have short := SimpleGraph.dist_le (SimpleGraph.Walk.cons first second.toWalk)
  exact ⟨(first.reachable.trans second.reachable).pos_dist_of_ne different, short⟩

theorem sample_flood_reaches_home :
    ∃ entry ∈ (exec (World.step standardBase64) (linkedMesh chainLinks 1)
        (.originate "a" samplePacket "m" inOrder 0 0 :: chainActions)).handed,
      entry.server = "c" ∧ entry.frame.messageId = "m" ∧ entry.packet = samplePacket := by
  have wired : Wired (linkGraph chainLinks) (linkedMesh chainLinks 1) :=
    linkedMesh_wired 1 (by decide)
  obtain ⟨apart, near⟩ := dist_of_common_peer
    ((wired "a" "b").mp (by decide +kernel)) ((wired "b" "c").mp (by decide +kernel))
    (by decide : "a" ≠ "c")
  refine flood_reaches_home (linkGraph chainLinks) standardBase64 standardBase64_roundTrips "m"
    samplePacket "a" "c" 1 (linkedMesh chainLinks 1) wired (fun _ => rfl) apart near
    ⟨nofun, nofun, nofun, fun _ seen => seen rfl⟩ rfl (fun _ => rfl) inOrder 0 0 ?_
    chainActions chain_floodsFreely ?_
  · refine Flood.seen_entered ?_
    decide
  · have inFlight : (exec (World.step standardBase64) (linkedMesh chainLinks 1)
        (.originate "a" samplePacket "m" inOrder 0 0 :: chainActions)).inFlight = [] := by
      decide +kernel
    have awaiting : (exec (World.step standardBase64) (linkedMesh chainLinks 1)
        (.originate "a" samplePacket "m" inOrder 0 0 :: chainActions)).awaiting = [] := by
      decide +kernel
    exact Flood.quiet_of_empty inFlight awaiting

def detourLinks : List (String × String) := [("a", "b"), ("a", "c"), ("c", "b"), ("b", "d")]

def detourActions : List Action :=
  [.originate "a" samplePacket "m" inOrder 0 0, .receive 1 inOrder 0 0, .resume 0 false 0,
    .receive 1 inOrder 0 0, .receive 0 inOrder 0 0, .resume 0 false 0]

/-- The target's server is within the hop limit, every frame has been handled, no
server has a hint for the target, and the packet has not arrived. -/
theorem late_copy_with_more_hops_dropped :
    Wired (linkGraph detourLinks) (linkedMesh detourLinks 1) ∧
      (∀ server, ((linkedMesh detourLinks 1).server server).maxHops = 1) ∧
      1 ≤ (linkGraph detourLinks).dist "a" "d" ∧
      (linkGraph detourLinks).dist "a" "d" ≤ 1 + 1 ∧
      (∀ early late, detourActions = early ++ late → ∀ server,
        ((exec (World.step standardBase64) (linkedMesh detourLinks 1) early).server
          server).routeHints.lookup samplePacket.toId = none) ∧
      (exec (World.step standardBase64) (linkedMesh detourLinks 1) detourActions).inFlight = [] ∧
      (exec (World.step standardBase64) (linkedMesh detourLinks 1) detourActions).awaiting = [] ∧
      ∀ entry ∈ (exec (World.step standardBase64) (linkedMesh detourLinks 1) detourActions).handed,
        entry.server ≠ "d" := by
  have wired : Wired (linkGraph detourLinks) (linkedMesh detourLinks 1) :=
    linkedMesh_wired 1 (by decide)
  obtain ⟨apart, near⟩ := dist_of_common_peer
    ((wired "a" "b").mp (by decide +kernel)) ((wired "b" "d").mp (by decide +kernel))
    (by decide : "a" ≠ "d")
  refine ⟨wired, fun _ => rfl, apart, near, ?_, by decide +kernel, by decide +kernel,
    by decide +kernel⟩
  intro early late split
  refine (Silent.exec standardBase64 (linkedMesh_silent detourLinks 1 "x") early ?_).noHint
  intro server packet messageId scan rememberAt lookupAt isEarly
  have among : Action.originate server packet messageId scan rememberAt lookupAt ∈
      detourActions := by
    rw [split]
    exact List.mem_append_left _ isEarly
  simp only [detourActions, List.mem_cons, Action.originate.injEq, reduceCtorEq,
    List.not_mem_nil, or_false] at among
  rw [among.2.1]
  decide

end Lightscale.Mesh
