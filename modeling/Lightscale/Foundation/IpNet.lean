/-
Address blocks in prefix notation over an address space of `2 ^ width` numbers.

A block is written as any address in it and a prefix length.  Clearing the host
bits gives its first address; the block is the interval from there to the last
address that shares the prefix.
-/

import Mathlib.Data.Nat.Basic
import Mathlib.Tactic.Ring

namespace Lightscale.Foundation

/-- An address with a prefix length, as written in a CIDR string. -/
structure IpNet (width : Nat) where
  addr : Nat
  prefixLen : Nat
  addr_lt : addr < 2 ^ width
  prefixLen_le : prefixLen ≤ width
  deriving DecidableEq

namespace IpNet

variable {width : Nat}

def hostBits (net : IpNet width) : Nat := width - net.prefixLen

/-- The first address: the written one with its host bits cleared. -/
def network (net : IpNet width) : Nat := net.addr - net.addr % 2 ^ net.hostBits

def broadcast (net : IpNet width) : Nat := net.network + (2 ^ net.hostBits - 1)

def contains (net : IpNet width) (address : Nat) : Bool :=
  decide (net.network ≤ address) && decide (address ≤ net.broadcast)

theorem contains_iff (net : IpNet width) (address : Nat) :
    net.contains address = true ↔ net.network ≤ address ∧ address ≤ net.broadcast := by
  unfold contains
  rw [Bool.and_eq_true, decide_eq_true_iff, decide_eq_true_iff]

theorem hostSpace_pos (net : IpNet width) : 0 < 2 ^ net.hostBits :=
  Nat.two_pow_pos _

theorem network_eq (net : IpNet width) :
    net.network = net.addr / 2 ^ net.hostBits * 2 ^ net.hostBits := by
  have division := Nat.div_add_mod net.addr (2 ^ net.hostBits)
  rw [Nat.mul_comm] at division
  unfold network
  omega

theorem network_add_hostSpace_le (net : IpNet width) :
    net.network + 2 ^ net.hostBits ≤ 2 ^ width := by
  have split : 2 ^ width = 2 ^ net.prefixLen * 2 ^ net.hostBits := by
    rw [← Nat.pow_add]
    congr 1
    have bound := net.prefixLen_le
    unfold hostBits
    omega
  have quotient : net.addr / 2 ^ net.hostBits < 2 ^ net.prefixLen := by
    rw [Nat.div_lt_iff_lt_mul net.hostSpace_pos, ← split]
    exact net.addr_lt
  calc
    net.network + 2 ^ net.hostBits
        = (net.addr / 2 ^ net.hostBits + 1) * 2 ^ net.hostBits := by rw [net.network_eq]; ring
    _ ≤ 2 ^ net.prefixLen * 2 ^ net.hostBits := Nat.mul_le_mul_right _ quotient
    _ = 2 ^ width := split.symm

/-- An address of the space with the same leading bits as the written one. -/
def Member (net : IpNet width) (address : Nat) : Prop :=
  address < 2 ^ width ∧ address / 2 ^ net.hostBits = net.addr / 2 ^ net.hostBits

/-- The interval of a block consists of the addresses that share its prefix. -/
theorem contains_iff_member (net : IpNet width) (address : Nat) :
    net.contains address = true ↔ net.Member address := by
  have space := net.hostSpace_pos
  have fits := net.network_add_hostSpace_le
  rw [contains_iff, broadcast, Member]
  constructor
  · rintro ⟨low, high⟩
    refine ⟨by omega, ?_⟩
    rw [net.network_eq] at low high
    exact Nat.div_eq_of_lt_le low (by rw [Nat.add_mul]; omega)
  · rintro ⟨-, sameBits⟩
    have division := Nat.div_add_mod address (2 ^ net.hostBits)
    have remainder := Nat.mod_lt address space
    rw [sameBits, Nat.mul_comm, ← net.network_eq] at division
    omega

theorem contains_network_add (net : IpNet width) {offset : Nat}
    (inside : offset < 2 ^ net.hostBits) :
    net.contains (net.network + offset) = true := by
  rw [contains_iff]
  unfold broadcast
  omega

theorem network_add_lt (net : IpNet width) {offset : Nat}
    (inside : offset < 2 ^ net.hostBits) :
    net.network + offset < 2 ^ width := by
  have fits := net.network_add_hostSpace_le
  omega

theorem exists_common_iff (left right : IpNet width) :
    (∃ address, left.contains address = true ∧ right.contains address = true) ↔
      left.contains right.network = true ∨ right.contains left.network = true := by
  have leftSpace := left.hostSpace_pos
  have rightSpace := right.hostSpace_pos
  simp only [contains_iff, broadcast]
  constructor
  · rintro ⟨address, inLeft, inRight⟩
    omega
  · rintro (inLeft | inRight)
    · exact ⟨right.network, inLeft, by omega⟩
    · exact ⟨left.network, by omega, inRight⟩

end IpNet

end Lightscale.Foundation
