/-
JSON documents as bytes: one in a file, or one on each line of a stream.

The lines of a stream are cut at the newline byte, which no document in the compact form holds;
a carriage return in front of it is dropped, and what follows the last newline is a line, too.
So a stream of documents is one of those in which every value is a line.
-/

import Lightscale.Foundation.Lines
import Lightscale.Foundation.Serde
import Lightscale.Foundation.Text

namespace Lightscale.Foundation

/-! ### Bytes of a text -/

theorem utf8Bytes_ofList (chars : List Char) :
    utf8Bytes (String.ofList chars) = chars.flatMap String.utf8EncodeChar := by
  rw [utf8Bytes, String.toByteArray_ofList, List.utf8Encode, List.data_toByteArray]

/-- A character above the control characters is written without their bytes. -/
theorem visible_utf8EncodeChar {char : Char} (visible : 32 ≤ char.toNat) :
    ∀ byte ∈ String.utf8EncodeChar char, 32 ≤ byte.toNat := by
  change 32 ≤ char.val.toNat at visible
  unfold String.utf8EncodeChar
  dsimp only
  split_ifs <;> simp only [List.forall_mem_cons, UInt8.toNat_ofNat', List.not_mem_nil,
    false_implies, implies_true, and_true] <;> omega

theorem isPrefix_of_utf8Bytes {left right : String} {rest : List UInt8}
    (split : utf8Bytes right = utf8Bytes left ++ rest) : left.toList <+: right.toList := by
  refine List.isPrefix_of_utf8Encode_append_eq_utf8Encode ⟨rest.toArray⟩ ?_
  rw [String.utf8Encode_toList, String.utf8Encode_toList]
  apply ByteArray.ext
  rw [ByteArray.data_append]
  apply Array.toList_inj.mp
  rw [Array.toList_append]
  exact split.symm

/-! ### One document -/

namespace Format

variable {Value : Type}

def document (format : Format Value) (style : Json.Style) (value : Value) : String :=
  String.ofList (Json.print style 0 (format.toJson value))

def readDocument (format : Format Value) (text : String) : Option Value :=
  (Json.parse text.toList).bind format.fromJson

def Closed (format : Format Value) (value : Value) : Prop :=
  (Json.Part.value (format.toJson value)).Closed

variable {format : Format Value} {style : Json.Style} {value : Value}

theorem readDocument_document (isBlank : style.IsBlank)
    (whole : (format.toJson value).isWhole = true) :
    format.readDocument (format.document style value) =
      format.fromJson (format.toJson value) := by
  unfold readDocument document
  rw [String.toList_ofList, Json.parse_print isBlank whole, Option.bind_some]

theorem readDocument_cut (isBlank : style.IsBlank)
    (whole : (format.toJson value).isWhole = true) (closed : format.Closed value)
    {written rest : List UInt8}
    (split : utf8Bytes (format.document style value) = written ++ rest) (strict : rest ≠ []) :
    (fromUtf8 written).bind format.readDocument = none := by
  cases decoded : fromUtf8 written with
  | none => rfl
  | some text =>
      have encoded := (fromUtf8_eq_some_iff _ _).mp decoded
      rw [← encoded] at split
      obtain ⟨more, isText⟩ := isPrefix_of_utf8Bytes split
      have isStrict : more ≠ [] := by
        rintro rfl
        rw [List.append_nil] at isText
        rw [← String.toList_inj.mp isText] at split
        exact strict (List.self_eq_append_right.mp split)
      rw [document, String.toList_ofList] at isText
      rw [Option.bind_some, readDocument,
        Json.parse_beginning isBlank whole closed isText.symm isStrict, Option.bind_none]

theorem document_ne_nil (isBlank : style.IsBlank)
    (whole : (format.toJson value).isWhole = true) :
    utf8Bytes (format.document style value) ≠ [] := by
  intro empty
  have isDocument := (fromUtf8_eq_some_iff [] _).mpr empty
  rw [(fromUtf8_eq_some_iff [] "").mpr (by decide), Option.some.injEq, document] at isDocument
  have read := Json.parse_print isBlank whole
  rw [← String.toList_ofList (l := Json.print style 0 (format.toJson value)), ← isDocument] at read
  cases read

end Format

/-! ### Lines -/

def dropReturn (line : List UInt8) : List UInt8 :=
  if line.getLast? = some 13 then line.dropLast else line

/-- The lines of the bytes, with what has been read of the first one. -/
def linesFrom (held : List UInt8) : List UInt8 → List (List UInt8)
  | [] => if held = [] then [] else [held]
  | byte :: rest =>
      if byte = newline then dropReturn held :: linesFrom [] rest
      else linesFrom (held ++ [byte]) rest

def readLines (bytes : List UInt8) : List (Option String) :=
  (linesFrom [] bytes).map fromUtf8

theorem linesFrom_append (held : List UInt8) {body : List UInt8} (inside : newline ∉ body)
    (rest : List UInt8) : linesFrom held (body ++ rest) = linesFrom (held ++ body) rest := by
  induction body generalizing held with
  | nil => rw [List.append_nil]; rfl
  | cons byte body ih =>
      rw [List.mem_cons, not_or] at inside
      rw [List.cons_append, linesFrom, if_neg (Ne.symm inside.1), ih _ inside.2,
        List.append_assoc]
      rfl

theorem readLines_line {body : List UInt8} (inside : newline ∉ body) (rest : List UInt8) :
    readLines (body ++ newline :: rest) = fromUtf8 (dropReturn body) :: readLines rest := by
  unfold readLines
  rw [linesFrom_append [] inside, List.nil_append, linesFrom, if_pos rfl, List.map_cons]

theorem readLines_last {body : List UInt8} (inside : newline ∉ body) :
    readLines body = if body = [] then [] else [fromUtf8 body] := by
  have all := linesFrom_append [] inside []
  rw [List.append_nil, List.nil_append, linesFrom] at all
  unfold readLines
  rw [all]
  split <;> rfl

/-! ### One document on each line -/

namespace Format

variable {Value : Type} {format : Format Value}

theorem visible_document {value : Value} (whole : (format.toJson value).isWhole = true) :
    ∀ byte ∈ utf8Bytes (format.document Json.compactStyle value), 32 ≤ byte.toNat := by
  intro byte member
  rw [document, utf8Bytes_ofList, List.mem_flatMap] at member
  obtain ⟨char, inText, inChar⟩ := member
  exact visible_utf8EncodeChar (Json.visible_print 0 _ whole char inText) byte inChar

theorem dropReturn_of_visible {line : List UInt8} (visible : ∀ byte ∈ line, 32 ≤ byte.toNat) :
    dropReturn line = line := by
  refine if_neg fun ends => ?_
  have last := visible 13 (List.mem_of_getLast? ends)
  exact absurd last (by decide)

theorem newline_notMem_of_visible {line : List UInt8}
    (visible : ∀ byte ∈ line, 32 ≤ byte.toNat) : newline ∉ line :=
  fun member => absurd (visible newline member) (by decide)

section

variable {value : Value}

theorem readLines_documentLine (whole : (format.toJson value).isWhole = true) (rest : List UInt8) :
    readLines (utf8Bytes (format.document Json.compactStyle value) ++ newline :: rest) =
      some (format.document Json.compactStyle value) :: readLines rest := by
  have visible := visible_document whole
  have decoded := (fromUtf8_eq_some_iff _ (format.document Json.compactStyle value)).mpr rfl
  rw [readLines_line (newline_notMem_of_visible visible), dropReturn_of_visible visible, decoded]

theorem readLines_document (whole : (format.toJson value).isWhole = true) :
    readLines (utf8Bytes (format.document Json.compactStyle value)) =
      [some (format.document Json.compactStyle value)] := by
  have visible := visible_document whole
  have decoded := (fromUtf8_eq_some_iff _ (format.document Json.compactStyle value)).mpr rfl
  rw [readLines_last (newline_notMem_of_visible visible),
    if_neg (document_ne_nil Json.compactStyle_isBlank whole), decoded]

theorem readLines_cut (whole : (format.toJson value).isWhole = true)
    (closed : format.Closed value) {written rest : List UInt8}
    (split : utf8Bytes (format.document Json.compactStyle value) = written ++ rest)
    (strict : rest ≠ []) :
    readLines written = [] ∨
      ∃ line, readLines written = [line] ∧ line.bind format.readDocument = none := by
  have inside := newline_notMem_of_visible (visible_document whole)
  have cut := readDocument_cut Json.compactStyle_isBlank whole closed split strict
  rw [split] at inside
  rw [readLines_last fun member => inside (List.mem_append_left _ member)]
  split
  · exact Or.inl rfl
  · exact Or.inr ⟨_, rfl, cut⟩

end

def lineCodec (format : Format Value) : LineCodec Value where
  toVec value := utf8Bytes (format.document Json.compactStyle value)
  lines := readLines

theorem lineCodec_faithful {fits : Value → Prop} (keeps : ∀ value, fits value → format.Keeps value)
    (closed : ∀ value, fits value → format.Closed value) :
    format.lineCodec.Faithful format.readDocument fits := by
  have parsed : ∀ value, fits value →
      format.readDocument (format.document Json.compactStyle value) = some value := by
    intro value isFit
    rw [readDocument_document Json.compactStyle_isBlank (keeps value isFit).whole,
      (keeps value isFit).read]
  refine ⟨rfl, ?_, ?_, ?_⟩
  · intro value isFit rest
    exact ⟨_, readLines_documentLine (keeps value isFit).whole rest, parsed value isFit⟩
  · intro value isFit
    exact ⟨_, readLines_document (keeps value isFit).whole, parsed value isFit⟩
  · intro value isFit written rest split strict
    exact readLines_cut (keeps value isFit).whole (closed value isFit) split strict

end Format

end Lightscale.Foundation
