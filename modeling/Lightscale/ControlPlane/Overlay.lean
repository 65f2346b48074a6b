/-
Overlay address blocks: deriving the default blocks of a network, comparing
blocks, and handing out node addresses by two counters.

Parsing and printing of addresses and the hash of a network id come from
libraries and enter as parameters.  The counters wrap at their machine widths, as
the additions of the allocator do; that no addition ever wraps is a theorem about
reachable networks, not a part of the definition.
-/

import Lightscale.Foundation.IpNet
import Lightscale.ControlPlane.Model

namespace Lightscale.ControlPlane

open Foundation

abbrev Ipv4Net := IpNet 32

abbrev Ipv6Net := IpNet 128

/-- Library functions the server calls on addresses and ids. -/
structure Externals where
  parseV4 : String → Option Ipv4Net
  parseV6 : String → Option Ipv6Net
  printV4 : Nat → String
  printV6 : Nat → String
  hashBytes : String → Fin 32 → UInt8

structure Externals.PrintsInjectively (externals : Externals) : Prop where
  printV4 : ∀ left right, left < 2 ^ 32 → right < 2 ^ 32 →
    externals.printV4 left = externals.printV4 right → left = right
  printV6 : ∀ left right, left < 2 ^ 128 → right < 2 ^ 128 →
    externals.printV6 left = externals.printV6 right → left = right

/-! ### Default overlays -/

def hexDigit (value : Nat) : Char :=
  "0123456789abcdef".toList.getD value '0'

def hexByte (byte : UInt8) : String :=
  String.ofList [hexDigit (byte.toNat / 16), hexDigit (byte.toNat % 16)]

def deriveIpv6Ula (bytes : Fin 32 → UInt8) : String :=
  "fd" ++ hexByte (bytes 0) ++ ":" ++ hexByte (bytes 1) ++ hexByte (bytes 2) ++ ":" ++
    hexByte (bytes 3) ++ hexByte (bytes 4) ++ "::/48"

def deriveIpv4Overlay (bytes : Fin 32 → UInt8) : String :=
  let raw := (bytes 5).toNat * 256 + (bytes 6).toNat
  let idx := raw % 2 ^ 14
  let second := 64 + idx / 256
  let third := idx % 256
  "100." ++ toString second ++ "." ++ toString third ++ ".0/24"

def deriveOverlayPrefixes (externals : Externals) (networkId : String) : String × String :=
  let hash := externals.hashBytes networkId
  (deriveIpv4Overlay hash, deriveIpv6Ula hash)

/-! ### Overlap and offsets -/

def netsOverlap {width : Nat} (left right : IpNet width) : Bool :=
  left.contains right.network || right.contains left.network

def ipv4NetsOverlap (left right : Ipv4Net) : Bool := netsOverlap left right

def ipv6NetsOverlap (left right : Ipv6Net) : Bool := netsOverlap left right

/-- The largest offset handed out: the one before the broadcast address. -/
def maxIpv4Offset (net : Ipv4Net) : Option Nat :=
  if 31 ≤ net.prefixLen then none
  else
    let hostBits := 32 - net.prefixLen
    let total := 2 ^ hostBits
    let lastUsable := total - 2
    if lastUsable < 2 ^ 32 then some lastUsable else none

def initialIpv4Offset (net : Ipv4Net) : Option Nat :=
  match maxIpv4Offset net with
  | none => none
  | some last =>
      if 10 ≤ last then some 10
      else if 1 ≤ last then some 1
      else none

def maxIpv6Offset (net : Ipv6Net) : Nat :=
  let hostBits := 128 - net.prefixLen
  if hostBits = 128 then 2 ^ 128 - 1
  else if hostBits = 0 then 0
  else 2 ^ hostBits - 1

def initialIpv6Offset (net : Ipv6Net) : Nat :=
  let last := maxIpv6Offset net
  if 10 ≤ last then 10
  else if 1 ≤ last then 1
  else 0

/-! ### The allocator -/

/-- The result of the allocator and the network record it leaves.  A failure for
the second address family leaves the first counter advanced. -/
def allocateNodeIps (externals : Externals) (network : NetworkState) :
    Except ApiError (String × String) × NetworkState :=
  match externals.parseV4 network.overlayV4, externals.parseV6 network.overlayV6 with
  | none, _ => (.error .internal, network)
  | some _, none => (.error .internal, network)
  | some v4Net, some v6Net =>
      match maxIpv4Offset v4Net with
      | none => (.error (.conflict "ipv4 subnet has no usable host addresses"), network)
      | some maxIpv4 =>
          if maxIpv4 < network.nextIpv4 then
            (.error (.conflict "ipv4 address space exhausted"), network)
          else
            let ip4 := (v4Net.network + network.nextIpv4) % 2 ^ 32
            let advanced := { network with nextIpv4 := (network.nextIpv4 + 1) % 2 ^ 32 }
            if maxIpv6Offset v6Net < network.nextIpv6 then
              (.error (.conflict "ipv6 address space exhausted"), advanced)
            else
              let ip6 := (v6Net.network + network.nextIpv6) % 2 ^ 128
              (.ok (externals.printV4 ip4, externals.printV6 ip6),
                { advanced with nextIpv6 := (network.nextIpv6 + 1) % 2 ^ 128 })

theorem allocateNodeIps_eq {externals : Externals} {network : NetworkState} {v4 : Ipv4Net}
    {v6 : Ipv6Net} {last : Nat} (parsedV4 : externals.parseV4 network.overlayV4 = some v4)
    (parsedV6 : externals.parseV6 network.overlayV6 = some v6)
    (lastAt : maxIpv4Offset v4 = some last) :
    allocateNodeIps externals network =
      if last < network.nextIpv4 then
        (.error (.conflict "ipv4 address space exhausted"), network)
      else if maxIpv6Offset v6 < network.nextIpv6 then
        (.error (.conflict "ipv6 address space exhausted"),
          { network with nextIpv4 := (network.nextIpv4 + 1) % 2 ^ 32 })
      else
        (.ok (externals.printV4 ((v4.network + network.nextIpv4) % 2 ^ 32),
            externals.printV6 ((v6.network + network.nextIpv6) % 2 ^ 128)),
          { network with
            nextIpv4 := (network.nextIpv4 + 1) % 2 ^ 32
            nextIpv6 := (network.nextIpv6 + 1) % 2 ^ 128 }) := by
  unfold allocateNodeIps
  rw [parsedV4, parsedV6]
  dsimp only
  rw [lastAt]

/-! ### Bounds of the counters -/

theorem maxIpv4Offset_eq_some {net : Ipv4Net} {last : Nat}
    (found : maxIpv4Offset net = some last) :
    net.prefixLen ≤ 30 ∧ last + 2 = 2 ^ net.hostBits := by
  unfold maxIpv4Offset at found
  by_cases long : 31 ≤ net.prefixLen
  · rw [if_pos long] at found
    cases found
  · rw [if_neg long] at found
    have short : net.prefixLen ≤ 30 := by omega
    have wide : 2 ≤ 2 ^ (32 - net.prefixLen) := by
      calc
        2 = 2 ^ 1 := rfl
        _ ≤ 2 ^ (32 - net.prefixLen) := Nat.pow_le_pow_right (by decide) (by omega)
    refine ⟨short, ?_⟩
    change (if 2 ^ (32 - net.prefixLen) - 2 < 2 ^ 32 then
      some (2 ^ (32 - net.prefixLen) - 2) else none) = some last at found
    by_cases fits : 2 ^ (32 - net.prefixLen) - 2 < 2 ^ 32
    · rw [if_pos fits, Option.some.injEq] at found
      unfold IpNet.hostBits
      omega
    · rw [if_neg fits] at found
      cases found

theorem initialIpv4Offset_eq_some {net : Ipv4Net} {first : Nat}
    (found : initialIpv4Offset net = some first) :
    ∃ last, maxIpv4Offset net = some last ∧ 1 ≤ first ∧ first ≤ last ∧ first ≤ 10 := by
  unfold initialIpv4Offset at found
  cases maxEq : maxIpv4Offset net with
  | none =>
      rw [maxEq] at found
      cases found
  | some last =>
      rw [maxEq] at found
      refine ⟨last, rfl, ?_⟩
      change (if 10 ≤ last then some 10 else if 1 ≤ last then some 1 else none) =
        some first at found
      split at found
      · cases found
        omega
      · split at found
        · cases found
          omega
        · cases found

theorem maxIpv6Offset_succ (net : Ipv6Net) :
    maxIpv6Offset net + 1 = 2 ^ net.hostBits := by
  have positive := net.hostSpace_pos
  unfold maxIpv6Offset
  change (if net.hostBits = 128 then 2 ^ 128 - 1
    else if net.hostBits = 0 then 0 else 2 ^ net.hostBits - 1) + 1 = 2 ^ net.hostBits
  by_cases all : net.hostBits = 128
  · rw [if_pos all, all]
    decide
  · rw [if_neg all]
    by_cases single : net.hostBits = 0
    · rw [if_pos single, single]
      decide
    · rw [if_neg single]
      omega

theorem initialIpv6Offset_le (net : Ipv6Net) :
    initialIpv6Offset net ≤ maxIpv6Offset net ∧ initialIpv6Offset net ≤ 10 := by
  unfold initialIpv6Offset
  dsimp only
  split
  · omega
  · split
    · omega
    · omega

theorem netsOverlap_iff {width : Nat} (left right : IpNet width) :
    netsOverlap left right = true ↔
      ∃ address, left.contains address = true ∧ right.contains address = true := by
  rw [IpNet.exists_common_iff]
  unfold netsOverlap
  rw [Bool.or_eq_true]

/-- Two blocks are reported to overlap exactly when an address has the prefixes of both. -/
theorem overlap_exact :
    (∀ left right : Ipv4Net, ipv4NetsOverlap left right = true ↔
      ∃ address, left.Member address ∧ right.Member address) ∧
    (∀ left right : Ipv6Net, ipv6NetsOverlap left right = true ↔
      ∃ address, left.Member address ∧ right.Member address) := by
  constructor
  · intro left right
    simp only [ipv4NetsOverlap, netsOverlap_iff, IpNet.contains_iff_member]
  · intro left right
    simp only [ipv6NetsOverlap, netsOverlap_iff, IpNet.contains_iff_member]

end Lightscale.ControlPlane
