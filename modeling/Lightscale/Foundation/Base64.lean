/-
The standard base64 alphabet with padding.

Three bytes become four symbols.  The decoder is strict: the padding must be there, and the
bits of the last symbol that no byte uses must be zero.  So it accepts exactly the texts that
the encoder writes.
-/

import Mathlib.Data.List.Basic

namespace Lightscale.Foundation.Base64

def alphabet : List Char :=
  "ABCDEFGHIJKLMNOPQRSTUVWXYZabcdefghijklmnopqrstuvwxyz0123456789+/".toList

def symbol (value : Nat) : Char := alphabet.getD value '='

def symbolValue (char : Char) : Option Nat := alphabet.idxOf? char

def encode : List UInt8 → List Char
  | [] => []
  | [first] =>
      [symbol (first.toNat / 4), symbol (first.toNat % 4 * 16), '=', '=']
  | [first, second] =>
      [symbol (first.toNat / 4), symbol (first.toNat % 4 * 16 + second.toNat / 16),
        symbol (second.toNat % 16 * 4), '=']
  | first :: second :: third :: rest =>
      symbol (first.toNat / 4) :: symbol (first.toNat % 4 * 16 + second.toNat / 16) ::
        symbol (second.toNat % 16 * 4 + third.toNat / 64) :: symbol (third.toNat % 64) ::
        encode rest

/-- The last four symbols when the last byte is the first of three. -/
def decodeOne (first second : Char) : Option (List UInt8) := do
  let high ← symbolValue first
  let low ← symbolValue second
  if low % 16 = 0 then some [UInt8.ofNat (high * 4 + low / 16)] else none

/-- The last four symbols when the last byte is the second of three. -/
def decodeTwo (first second third : Char) : Option (List UInt8) := do
  let high ← symbolValue first
  let middle ← symbolValue second
  let low ← symbolValue third
  if low % 4 = 0 then
    some [UInt8.ofNat (high * 4 + middle / 16), UInt8.ofNat (middle % 16 * 16 + low / 4)]
  else none

def decodeThree (first second third fourth : Char) : Option (List UInt8) := do
  let high ← symbolValue first
  let upper ← symbolValue second
  let lower ← symbolValue third
  let low ← symbolValue fourth
  some [UInt8.ofNat (high * 4 + upper / 16), UInt8.ofNat (upper % 16 * 16 + lower / 4),
    UInt8.ofNat (lower % 4 * 64 + low)]

def decode : List Char → Option (List UInt8)
  | [] => some []
  | [first, second, third, fourth] =>
      if fourth = '=' then
        if third = '=' then decodeOne first second else decodeTwo first second third
      else decodeThree first second third fourth
  | first :: second :: third :: fourth :: rest => do
      let bytes ← decodeThree first second third fourth
      let others ← decode rest
      some (bytes ++ others)
  | _ => none

/-! ### Symbols -/

theorem symbolValue_symbol {value : Nat} (small : value < 64) :
    symbolValue (symbol value) = some value := by
  revert value
  decide

theorem eq_symbol {char : Char} {value : Nat} (known : symbolValue char = some value) :
    value < 64 ∧ char = symbol value := by
  unfold symbolValue List.idxOf? at known
  obtain ⟨inside, same, _⟩ := List.findIdx?_eq_some_iff_getElem.mp known
  refine ⟨inside, ?_⟩
  rw [symbol, List.getD_eq_getElem?_getD, List.getElem?_eq_getElem inside]
  exact (eq_of_beq same).symm

theorem symbol_ne_pad {value : Nat} (small : value < 64) : symbol value ≠ '=' := by
  intro isPad
  have known := symbolValue_symbol small
  rw [isPad] at known
  cases known

theorem ofNat_eq {value : Nat} (byte : UInt8) (same : value = byte.toNat) :
    UInt8.ofNat value = byte := by
  rw [same, UInt8.ofNat_toNat]

theorem byte_toNat {value : Nat} (small : value < 256) : (UInt8.ofNat value).toNat = value :=
  UInt8.toNat_ofNat_of_lt small

/-! ### The decoder inverts the encoder -/

theorem decode_quad {first second third fourth : Char} (notPad : fourth ≠ '=')
    (rest : List Char) :
    decode (first :: second :: third :: fourth :: rest) =
      (decodeThree first second third fourth).bind fun bytes =>
        (decode rest).map fun others => bytes ++ others := by
  cases rest with
  | nil =>
      have last : decode [first, second, third, fourth] =
          decodeThree first second third fourth := if_neg notPad
      rw [last]
      cases decodeThree first second third fourth with
      | none => rfl
      | some bytes => simp [decode]
  | cons char rest =>
      rw [decode.eq_3 _ _ _ _ _ (List.cons_ne_nil char rest)]
      cases decodeThree first second third fourth with
      | none => rfl
      | some bytes => cases decode (char :: rest) <;> rfl

theorem decode_encode (bytes : List UInt8) : decode (encode bytes) = some bytes := by
  fun_induction encode bytes with
  | case1 => rfl
  | case2 first =>
      have small := first.toNat_lt
      rw [decode, if_pos rfl, if_pos rfl, decodeOne, symbolValue_symbol (by omega),
        symbolValue_symbol (by omega)]
      simp only [Option.bind_eq_bind, Option.bind_some]
      rw [if_pos (by omega), ofNat_eq first (by omega)]
  | case3 first second =>
      have small := first.toNat_lt
      have smallSecond := second.toNat_lt
      rw [decode, if_pos rfl, if_neg (symbol_ne_pad (by omega)), decodeTwo,
        symbolValue_symbol (by omega), symbolValue_symbol (by omega),
        symbolValue_symbol (by omega)]
      simp only [Option.bind_eq_bind, Option.bind_some]
      rw [if_pos (by omega), ofNat_eq first (by omega), ofNat_eq second (by omega)]
  | case4 first second third rest ih =>
      have small := first.toNat_lt
      have smallSecond := second.toNat_lt
      have smallThird := third.toNat_lt
      rw [decode_quad (symbol_ne_pad (by omega)), ih, decodeThree, symbolValue_symbol (by omega),
        symbolValue_symbol (by omega), symbolValue_symbol (by omega),
        symbolValue_symbol (by omega)]
      simp only [Option.bind_eq_bind, Option.bind_some, Option.map_some]
      rw [ofNat_eq first (by omega), ofNat_eq second (by omega), ofNat_eq third (by omega)]
      rfl

/-! ### What is accepted is what the encoder writes -/

theorem encode_of_decodeOne {first second : Char} {bytes : List UInt8}
    (decoded : decodeOne first second = some bytes) :
    encode bytes = [first, second, '=', '='] := by
  simp only [decodeOne, Option.bind_eq_bind, Option.bind_eq_some_iff] at decoded
  obtain ⟨high, isHigh, low, isLow, decoded⟩ := decoded
  obtain ⟨smallHigh, rfl⟩ := eq_symbol isHigh
  obtain ⟨smallLow, rfl⟩ := eq_symbol isLow
  split at decoded
  · cases decoded
    have number : (UInt8.ofNat (high * 4 + low / 16)).toNat = high * 4 + low / 16 :=
      byte_toNat (by omega)
    rw [encode, number, show (high * 4 + low / 16) / 4 = high by omega,
      show (high * 4 + low / 16) % 4 * 16 = low by omega]
  · cases decoded

theorem encode_of_decodeTwo {first second third : Char} {bytes : List UInt8}
    (decoded : decodeTwo first second third = some bytes) :
    encode bytes = [first, second, third, '='] := by
  simp only [decodeTwo, Option.bind_eq_bind, Option.bind_eq_some_iff] at decoded
  obtain ⟨high, isHigh, middle, isMiddle, low, isLow, decoded⟩ := decoded
  obtain ⟨smallHigh, rfl⟩ := eq_symbol isHigh
  obtain ⟨smallMiddle, rfl⟩ := eq_symbol isMiddle
  obtain ⟨smallLow, rfl⟩ := eq_symbol isLow
  split at decoded
  · cases decoded
    have one : (UInt8.ofNat (high * 4 + middle / 16)).toNat = high * 4 + middle / 16 :=
      byte_toNat (by omega)
    have two : (UInt8.ofNat (middle % 16 * 16 + low / 4)).toNat = middle % 16 * 16 + low / 4 :=
      byte_toNat (by omega)
    rw [encode, one, two, show (high * 4 + middle / 16) / 4 = high by omega,
      show (high * 4 + middle / 16) % 4 * 16 + (middle % 16 * 16 + low / 4) / 16 = middle by omega,
      show (middle % 16 * 16 + low / 4) % 16 * 4 = low by omega]
  · cases decoded

theorem encode_of_decodeThree {first second third fourth : Char} {bytes : List UInt8}
    (decoded : decodeThree first second third fourth = some bytes) (others : List UInt8) :
    encode (bytes ++ others) = first :: second :: third :: fourth :: encode others := by
  simp only [decodeThree, Option.bind_eq_bind, Option.bind_eq_some_iff] at decoded
  obtain ⟨high, isHigh, upper, isUpper, lower, isLower, low, isLow, decoded⟩ := decoded
  obtain ⟨smallHigh, rfl⟩ := eq_symbol isHigh
  obtain ⟨smallUpper, rfl⟩ := eq_symbol isUpper
  obtain ⟨smallLower, rfl⟩ := eq_symbol isLower
  obtain ⟨smallLow, rfl⟩ := eq_symbol isLow
  cases decoded
  have one : (UInt8.ofNat (high * 4 + upper / 16)).toNat = high * 4 + upper / 16 :=
    byte_toNat (by omega)
  have two : (UInt8.ofNat (upper % 16 * 16 + lower / 4)).toNat = upper % 16 * 16 + lower / 4 :=
    byte_toNat (by omega)
  have three : (UInt8.ofNat (lower % 4 * 64 + low)).toNat = lower % 4 * 64 + low :=
    byte_toNat (by omega)
  rw [List.cons_append, List.cons_append, List.cons_append, List.nil_append, encode, one, two,
    three, show (high * 4 + upper / 16) / 4 = high by omega,
    show (high * 4 + upper / 16) % 4 * 16 + (upper % 16 * 16 + lower / 4) / 16 = upper by omega,
    show (upper % 16 * 16 + lower / 4) % 16 * 4 + (lower % 4 * 64 + low) / 64 = lower by omega,
    show (lower % 4 * 64 + low) % 64 = low by omega]

theorem encode_of_decode {chars : List Char} {bytes : List UInt8}
    (decoded : decode chars = some bytes) : encode bytes = chars := by
  fun_induction decode chars generalizing bytes with
  | case1 => cases decoded; rfl
  | case2 first second => exact encode_of_decodeOne decoded
  | case3 first second third => exact encode_of_decodeTwo decoded
  | case4 first second third fourth =>
      have whole := encode_of_decodeThree decoded []
      rwa [List.append_nil] at whole
  | case5 first second third fourth rest _ ih =>
      simp only [Option.bind_eq_bind, Option.bind_eq_some_iff] at decoded
      obtain ⟨three, isThree, others, areOthers, same⟩ := decoded
      cases same
      rw [encode_of_decodeThree isThree others, ih areOthers]
  | case6 => cases decoded

end Lightscale.Foundation.Base64
