/-
What the cache of route hints remembers.

The calls of one server take turns at the table: some learn a hop for a node, some look one
up and may find it stale.  A call with an empty id learns nothing.  After any calls with
readings of the clock that never decrease, a lookup answers with the last hop that was
learned for the node, unless that is stale or the table was full of hints that are no older.
-/

import Lightscale.Foundation.Execution
import Lightscale.Mesh.CacheHistory

namespace Lightscale.Mesh

open Foundation

inductive RouteCall where
  | learn (scan : Scan) (now : Nat) (nodeId peerId : String)
  | lookup (now : Nat) (nodeId : String)

def RouteCall.now : RouteCall → Nat
  | .learn _ now _ _ => now
  | .lookup now _ => now

/-- No call reads an earlier time than the calls before it. -/
def RouteCall.InTime (calls : List RouteCall) : Prop :=
  calls.Pairwise fun earlier later => earlier.now ≤ later.now

def routeStep (hints : Table String RouteHint) : RouteCall → Table String RouteHint
  | .learn scan now nodeId peerId => learnRoute scan now nodeId peerId hints
  | .lookup now nodeId => (lookupRoute now nodeId hints).2

def RouteCall.learned : RouteCall → Option (String × RouteHint)
  | .learn _ now nodeId peerId =>
      if nodeId = "" ∨ peerId = "" then none
      else some (nodeId, { peerId := peerId, updatedAt := now })
  | .lookup _ _ => none

def learnedHints (calls : List RouteCall) : List (String × RouteHint) :=
  calls.filterMap RouteCall.learned

def lastLearned (calls : List RouteCall) (nodeId : String) : Option RouteHint :=
  lastWritten (learnedHints calls) nodeId

/-- The other nodes for which a hint was learned at the time or later, each once. -/
def othersLearned (calls : List RouteCall) (nodeId : String) (time : Nat) : List String :=
  rivals RouteHint.updatedAt (learnedHints calls) nodeId time

/-! ### One call -/

section

variable {readings : List Nat} {learned : List (String × RouteHint)}
  {hints : Table String RouteHint}

theorem CacheSpec.routeStep
    (spec : CacheSpec maxRouteHints routeTtl RouteHint.updatedAt readings learned hints)
    (call : RouteCall) :
    CacheSpec maxRouteHints routeTtl RouteHint.updatedAt (readings ++ [call.now])
      (learned ++ call.learned.toList) (Mesh.routeStep hints call) := by
  cases call with
  | learn scan now nodeId peerId =>
      by_cases missing : nodeId = "" ∨ peerId = ""
      · simp only [RouteCall.learned, Mesh.routeStep, learnRoute, if_pos missing,
          Option.toList_none, List.append_nil]
        exact spec.read now
      · simp only [RouteCall.learned, Mesh.routeStep, learnRoute, if_neg missing,
          Option.toList_some]
        exact spec.write scan now nodeId { peerId := peerId, updatedAt := now }
  | lookup now nodeId =>
      simp only [RouteCall.learned, Mesh.routeStep, Option.toList_none, List.append_nil]
      unfold lookupRoute
      cases found : hints.lookup nodeId with
      | none => exact spec.read now
      | some route =>
          dsimp only
          by_cases fresh : now - route.updatedAt ≤ routeTtl
          · rw [if_pos fresh]
            exact spec.read now
          · rw [if_neg fresh]
            exact spec.expire found (Nat.lt_of_not_le fresh)

end

theorem lookupRoute_eq_some_iff {now : Nat} {nodeId peerId : String}
    {hints : Table String RouteHint} :
    (lookupRoute now nodeId hints).1 = some peerId ↔
      ∃ route, hints.lookup nodeId = some route ∧ route.peerId = peerId ∧
        now - route.updatedAt ≤ routeTtl := by
  unfold lookupRoute
  cases hints.lookup nodeId with
  | none => simp
  | some route =>
      dsimp only
      by_cases fresh : now - route.updatedAt ≤ routeTtl
      · rw [if_pos fresh]
        simp only [Option.some.injEq, exists_eq_left', fresh, and_true]
      · rw [if_neg fresh]
        simp only [reduceCtorEq, Option.some.injEq, exists_eq_left', fresh, and_false]

/-! ### All calls -/

theorem routeCacheSpec (calls : List RouteCall) :
    CacheSpec maxRouteHints routeTtl RouteHint.updatedAt (calls.map RouteCall.now)
      (learnedHints calls) (exec routeStep ∅ calls) := by
  induction calls using List.reverseRecOn with
  | nil => exact CacheSpec.empty maxRouteHints routeTtl RouteHint.updatedAt
  | append_singleton calls call ih =>
      have newest : learnedHints [call] = call.learned.toList := by
        unfold learnedHints
        cases isLearned : call.learned with
        | none => simp [isLearned]
        | some hint => simp [isLearned]
      rw [learnedHints, List.filterMap_append, List.map_append, exec_snoc]
      change CacheSpec _ _ _ _ (learnedHints calls ++ learnedHints [call]) _
      rw [newest]
      exact ih.routeStep call

/-- The table never outgrows its limit.  A lookup answers with nothing but the hop that was
last learned for the node, not at all if that is stale or there is none, and with that hop if
it is fresh and hints for fewer other nodes were learned since than the table can hold. -/
theorem route_cache_spec (calls : List RouteCall) (now : Nat) (nodeId : String)
    (inTime : RouteCall.InTime (calls ++ [.lookup now nodeId])) :
    (exec routeStep ∅ calls).entries.length ≤ maxRouteHints ∧
    (∀ peerId, (lookupRoute now nodeId (exec routeStep ∅ calls)).1 = some peerId →
      ∃ hint, lastLearned calls nodeId = some hint ∧ hint.peerId = peerId) ∧
    (lastLearned calls nodeId = none →
      (lookupRoute now nodeId (exec routeStep ∅ calls)).1 = none) ∧
    ∀ hint, lastLearned calls nodeId = some hint →
      (hint.updatedAt + routeTtl < now →
        (lookupRoute now nodeId (exec routeStep ∅ calls)).1 = none) ∧
      (now ≤ hint.updatedAt + routeTtl →
        (othersLearned calls nodeId hint.updatedAt).length < maxRouteHints →
        (lookupRoute now nodeId (exec routeStep ∅ calls)).1 = some hint.peerId) := by
  have spec := routeCacheSpec calls
  -- An answer comes from the last hint, and the hint is fresh.
  have answered : ∀ peerId, (lookupRoute now nodeId (exec routeStep ∅ calls)).1 = some peerId →
      ∃ hint, lastLearned calls nodeId = some hint ∧ hint.peerId = peerId ∧
        now - hint.updatedAt ≤ routeTtl := by
    intro peerId isAnswer
    obtain ⟨route, found, isPeer, fresh⟩ := lookupRoute_eq_some_iff.mp isAnswer
    exact ⟨route, spec.stored nodeId route found, isPeer, fresh⟩
  refine ⟨spec.bounded, ?_, ?_, ?_⟩
  · intro peerId isAnswer
    obtain ⟨hint, last, isPeer, -⟩ := answered peerId isAnswer
    exact ⟨hint, last, isPeer⟩
  · intro never
    cases isAnswer : (lookupRoute now nodeId (exec routeStep ∅ calls)).1 with
    | none => rfl
    | some peerId =>
        obtain ⟨hint, last, -⟩ := answered peerId isAnswer
        rw [never] at last
        cases last
  · intro hint last
    constructor
    · intro stale
      cases isAnswer : (lookupRoute now nodeId (exec routeStep ∅ calls)).1 with
      | none => rfl
      | some peerId =>
          obtain ⟨other, isLast, -, fresh⟩ := answered peerId isAnswer
          rw [last, Option.some.injEq] at isLast
          subst isLast
          omega
    · intro fresh room
      refine lookupRoute_eq_some_iff.mpr ?_
      rcases spec.kept nodeId hint last with stays | ⟨reading, member, stale⟩ | crowded
      · exact ⟨hint, stays, rfl, by omega⟩
      · obtain ⟨earlier, isCall, rfl⟩ := List.mem_map.mp member
        have before : earlier.now ≤ now :=
          (List.pairwise_append.mp inTime).2.2 earlier isCall _ List.mem_cons_self
        omega
      · exact absurd room (Nat.not_lt.mpr crowded)

def sampleRouteCalls : List RouteCall :=
  [.learn inOrder 0 "node" "east", .learn inOrder (seconds 10) "node" "west"]

theorem last_hop_answered :
    (lookupRoute (seconds 310) "node" (exec routeStep ∅ sampleRouteCalls)).1 = some "west" := by
  have inTime : RouteCall.InTime (sampleRouteCalls ++ [.lookup (seconds 310) "node"]) := by
    unfold RouteCall.InTime sampleRouteCalls
    decide
  refine ((route_cache_spec sampleRouteCalls (seconds 310) "node" inTime).2.2.2
    { peerId := "west", updatedAt := seconds 10 } ?_).2 ?_ ?_
  · decide
  · decide
  · decide

end Lightscale.Mesh
