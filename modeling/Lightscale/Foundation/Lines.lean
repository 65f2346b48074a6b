/-
Values written one on each line of a stream.

The writer puts the bytes of a value and a newline.  The reader gets the lines of what has
arrived when the stream ends, and parses each of them.  The two ends are library functions, of
which only this is used: a value that arrived whole is a line of its own, with its newline or
at the end of the stream, and a value that was cut short is not read.

So wherever the stream breaks off, the reader gets the values that arrived whole, in order.
-/

import Mathlib.Data.List.Infix

namespace Lightscale.Foundation

def newline : UInt8 := 10

/-- The bytes of a value, and the lines of the bytes that arrive; a line that is not a text is
an error. -/
structure LineCodec (Value : Type) where
  toVec : Value → List UInt8
  lines : List UInt8 → List (Option String)

namespace LineCodec

variable {Value : Type}

structure Faithful (codec : LineCodec Value) (parse : String → Option Value)
    (fits : Value → Prop) : Prop where
  nothing : codec.lines [] = []
  whole : ∀ value, fits value → ∀ rest, ∃ text,
    codec.lines (codec.toVec value ++ newline :: rest) = some text :: codec.lines rest ∧
      parse text = some value
  last : ∀ value, fits value → ∃ text,
    codec.lines (codec.toVec value) = [some text] ∧ parse text = some value
  cut : ∀ value, fits value → ∀ written rest, codec.toVec value = written ++ rest → rest ≠ [] →
    codec.lines written = [] ∨ ∃ line, codec.lines written = [line] ∧ line.bind parse = none

variable (codec : LineCodec Value)

def streamBytes (values : List Value) : List UInt8 :=
  values.flatMap fun value => codec.toVec value ++ [newline]

/-- The values whose bytes lie in the first so many bytes of the stream. -/
def arrived : List Value → Nat → List Value
  | [], _ => []
  | value :: rest, count =>
      if (codec.toVec value).length ≤ count then
        value :: arrived rest (count - ((codec.toVec value).length + 1))
      else []

variable {codec}

theorem arrived_isPrefix (values : List Value) (count : Nat) :
    codec.arrived values count <+: values := by
  fun_induction arrived codec values count with
  | case1 => exact List.prefix_refl _
  | case2 value rest count whole ih => exact List.prefix_cons_inj value |>.mpr ih
  | case3 => exact List.nil_prefix

theorem streamBytes_cons (value : Value) (values : List Value) :
    codec.streamBytes (value :: values) =
      codec.toVec value ++ newline :: codec.streamBytes values := by
  rw [streamBytes, List.flatMap_cons, List.append_assoc]
  rfl

/-- Lines that do not parse are skipped; a line that is not a text ends the reading. -/
def lineValues (parse : String → Option Value) : List (Option String) → List Value
  | [] => []
  | none :: _ => []
  | some text :: rest =>
      match parse text with
      | some value => value :: lineValues parse rest
      | none => lineValues parse rest

section

variable {parse : String → Option Value} {fits : Value → Prop}
  (faithful : codec.Faithful parse fits) {value : Value} (isFit : fits value)
  (values : List Value) {count : Nat}

include faithful isFit

theorem lines_of_arrived (whole : (codec.toVec value).length ≤ count) :
    ∃ text, parse text = some value ∧
      codec.lines ((codec.streamBytes (value :: values)).take count) =
        some text ::
          codec.lines ((codec.streamBytes values).take
            (count - ((codec.toVec value).length + 1))) := by
  rw [streamBytes_cons]
  rcases Nat.eq_or_lt_of_le whole with rfl | more
  · obtain ⟨text, one, parsed⟩ := faithful.last value isFit
    refine ⟨text, parsed, ?_⟩
    rw [List.take_left, one, Nat.sub_eq_zero_of_le (Nat.le_succ _), List.take_zero,
      faithful.nothing]
  · obtain ⟨extra, rfl⟩ := Nat.exists_eq_add_of_lt more
    obtain ⟨text, first, parsed⟩ := faithful.whole value isFit
      ((codec.streamBytes values).take extra)
    refine ⟨text, parsed, ?_⟩
    have behind : (codec.toVec value).length + extra + 1 - ((codec.toVec value).length + 1) =
        extra := by omega
    rw [behind, Nat.add_assoc, List.take_length_add_append, List.take_succ_cons, first]

theorem lines_of_cut (short : count < (codec.toVec value).length) :
    codec.lines ((codec.streamBytes (value :: values)).take count) = [] ∨
      ∃ line, codec.lines ((codec.streamBytes (value :: values)).take count) = [line] ∧
        line.bind parse = none := by
  have strict : (codec.toVec value).drop count ≠ [] := by
    intro empty
    have all := List.drop_eq_nil_iff.mp empty
    omega
  rw [streamBytes_cons, List.take_append_of_le_length (by omega)]
  exact faithful.cut value isFit _ _ (List.take_append_drop count _).symm strict

omit isFit

/-- Wherever the stream is cut, the values that arrived whole are read, in order, and nothing
else. -/
theorem lineValues_take {values : List Value} (fit : ∀ value ∈ values, fits value)
    (count : Nat) :
    lineValues parse (codec.lines ((codec.streamBytes values).take count)) =
      codec.arrived values count := by
  induction values generalizing count with
  | nil =>
      rw [streamBytes, List.flatMap_nil, List.take_nil, faithful.nothing]
      rfl
  | cons value values ih =>
      have first := fit value List.mem_cons_self
      have rest := ih fun other member => fit other (List.mem_cons_of_mem _ member)
      rw [arrived]
      split_ifs with whole
      · obtain ⟨text, parsed, read⟩ := lines_of_arrived faithful first values whole
        rw [read, lineValues, parsed, rest]
      · rcases lines_of_cut faithful first values (Nat.lt_of_not_le whole) with
          none | ⟨_ | text, one, unread⟩
        · rw [none]
          rfl
        · rw [one]
          rfl
        · rw [Option.bind_some] at unread
          rw [one, lineValues, unread]
          rfl

end

end LineCodec

end Lightscale.Foundation
