/-
Text operations and fixed-width integer operations of the standard library, over
characters and unbounded integers.

Trimming follows the Unicode `White_Space` property, comparison without case
folds the letters `A` to `Z` only, and sixty-four bit results are the
representatives modulo `2 ^ 64` that the machine keeps.
-/

import Mathlib.Algebra.Group.Int.Defs
import Mathlib.Algebra.Group.Nat.Defs
import Mathlib.Data.Int.Basic

namespace Lightscale.Foundation

/-- The characters with the Unicode property `White_Space`. -/
def isWhitespace (char : Char) : Bool :=
  let code := char.toNat
  (decide (9 ≤ code) && decide (code ≤ 13)) || code == 0x20 || code == 0x85 ||
    code == 0xA0 || code == 0x1680 || (decide (0x2000 ≤ code) && decide (code ≤ 0x200A)) ||
    code == 0x2028 || code == 0x2029 || code == 0x202F || code == 0x205F || code == 0x3000

def trim (text : String) : String :=
  String.ofList
    (((text.toList.dropWhile isWhitespace).reverse.dropWhile isWhitespace).reverse)

def trimEndMatches (char : Char) (text : String) : String :=
  String.ofList ((text.toList.reverse.dropWhile (fun last => last == char)).reverse)

def asciiFold (text : String) : List Char :=
  text.toList.map Char.toLower

def eqIgnoreAsciiCase (left right : String) : Bool :=
  asciiFold left == asciiFold right

def dropStart? (start text : String) : Option String :=
  if start.toList.isPrefixOf text.toList then
    some (String.ofList (text.toList.drop start.toList.length))
  else none

def endsWith (ending text : String) : Bool :=
  ending.toList.isSuffixOf text.toList

def dedup (items : List String) : List String :=
  items.foldl (fun kept item => if item ∈ kept then kept else kept ++ [item]) []

/-- The signed sixty-four bit value with the same low bits. -/
def wrapI64 (value : Int) : Int := Int.bmod value (2 ^ 64)

def maxI64 : Int := 2 ^ 63 - 1

def minI64 : Int := -(2 ^ 63)

/-- Signed subtraction that stops at the ends of the sixty-four bit range. -/
def saturatingSubI64 (left right : Int) : Int :=
  max minI64 (min maxI64 (left - right))

def saturatingAddU64 (left right : Nat) : Nat :=
  min (left + right) (2 ^ 64 - 1)

theorem wrapI64_of_lt {value : Int} (low : 0 ≤ value) (high : value < 2 ^ 63) :
    wrapI64 value = value := by
  unfold wrapI64
  rw [Int.bmod_def]
  omega

theorem wrapI64_of_ge {value : Int} (low : 2 ^ 63 ≤ value) (high : value < 2 ^ 64) :
    wrapI64 value = value - 2 ^ 64 := by
  unfold wrapI64
  rw [Int.bmod_def]
  omega

theorem saturatingSubI64_of_le {left right : Int} (ordered : right ≤ left) :
    saturatingSubI64 left right = min maxI64 (left - right) := by
  unfold saturatingSubI64 minI64 maxI64
  omega

/-! ### UTF-8 -/

def utf8Bytes (text : String) : List UInt8 :=
  text.toByteArray.data.toList

def fromUtf8 (bytes : List UInt8) : Option String :=
  String.fromUTF8? ⟨bytes.toArray⟩

theorem fromUtf8_eq_some_iff (bytes : List UInt8) (text : String) :
    fromUtf8 bytes = some text ↔ utf8Bytes text = bytes := by
  unfold fromUtf8 String.fromUTF8?
  constructor
  · intro decoded
    split at decoded
    · cases decoded
      rfl
    · cases decoded
  · intro encoded
    subst encoded
    have same : (⟨(utf8Bytes text).toArray⟩ : ByteArray) = text.toByteArray := rfl
    rw [same, dif_pos text.isValidUTF8]
    rfl

end Lightscale.Foundation
