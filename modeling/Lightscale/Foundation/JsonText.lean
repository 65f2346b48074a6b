/-
What the JSON parser makes of a printed tree, and of a part of it.

A printed tree is read back with whatever whitespace its printer uses.  A value that has been
read is read in the same way from every longer text, unless it is a number that the longer text
goes on with.  So no strict beginning of the text of an array or an object is a text itself.
-/

import Mathlib.Data.List.TakeWhile
import Lightscale.Foundation.Json

namespace Lightscale.Foundation.Json

/-! ### Whitespace and marks -/

theorem skipSpace_append {input : List Char} {char : Char} {rest : List Char}
    (skipped : skipSpace input = char :: rest) (more : List Char) :
    skipSpace (input ++ more) = char :: (rest ++ more) := by
  unfold skipSpace at skipped ⊢
  rw [List.dropWhile_append, skipped]
  rfl

def Blank (chars : List Char) : Prop := ∀ char ∈ chars, isSpace char = true

theorem skipSpace_blank {blank : List Char} (isBlank : Blank blank) (input : List Char) :
    skipSpace (blank ++ input) = skipSpace input :=
  List.dropWhile_append_of_pos isBlank

theorem skipSpace_cons {char : Char} (visible : isSpace char = false) (rest : List Char) :
    skipSpace (char :: rest) = char :: rest :=
  List.dropWhile_cons_of_neg (by rw [visible]; exact Bool.false_ne_true)

theorem length_of_skipSpace {input : List Char} {char : Char} {rest : List Char}
    (skipped : skipSpace input = char :: rest) : rest.length < input.length := by
  have shorter := (List.dropWhile_suffix (p := isSpace) (l := input)).length_le
  change (skipSpace input).length ≤ input.length at shorter
  rw [skipped, List.length_cons] at shorter
  omega

theorem parseMark_eq_some_iff {mark : Char} {input rest : List Char} :
    parseMark mark input = some rest ↔ skipSpace input = mark :: rest := by
  unfold parseMark
  cases skipped : skipSpace input with
  | nil => simp
  | cons char tail =>
      by_cases same : char = mark
      · simp [same]
      · simp [same]

theorem parseMark_append {mark : Char} {input rest : List Char}
    (found : parseMark mark input = some rest) (more : List Char) :
    parseMark mark (input ++ more) = some (rest ++ more) := by
  rw [parseMark_eq_some_iff] at found ⊢
  exact skipSpace_append found more

theorem length_of_parseMark {mark : Char} {input rest : List Char}
    (found : parseMark mark input = some rest) : rest.length < input.length :=
  length_of_skipSpace (parseMark_eq_some_iff.mp found)

/-! ### Strings -/

theorem map_cons_eq_some_iff {parsed : Option (List Char × List Char)} {char : Char}
    {chars rest : List Char} :
    parsed.map (fun parsed => (char :: parsed.1, parsed.2)) = some (chars, rest) ↔
      ∃ tail, parsed = some (tail, rest) ∧ chars = char :: tail := by
  cases parsed with
  | none => simp
  | some pair =>
      simp only [Option.map_some, Option.some.injEq, Prod.mk.injEq]
      constructor
      · rintro ⟨rfl, rfl⟩
        exact ⟨pair.1, rfl, rfl⟩
      · rintro ⟨tail, rfl, rfl⟩
        exact ⟨rfl, rfl⟩

theorem parseString_append {input chars rest : List Char}
    (parsed : parseString input = some (chars, rest)) (more : List Char) :
    parseString (input ++ more) = some (chars, rest ++ more) := by
  fun_induction parseString input generalizing chars rest with
  | case1 => cases parsed
  | case2 after =>
      cases parsed
      rfl
  | case3 a b c d after noCode => cases parsed
  | case4 a b c d after code isCode isLow => cases parsed
  | case5 a b c d code isCode notLow isHigh e f g h after noLow => cases parsed
  | case6 a b c d code isCode notLow isHigh e f g h after low isCode' isLow ih =>
      obtain ⟨tail, parsedTail, rfl⟩ := map_cons_eq_some_iff.mp parsed
      simp only [List.cons_append, parseString, isCode, if_neg notLow, if_pos isHigh, isCode',
        if_pos isLow, ih parsedTail, Option.map_some]
  | case7 a b c d code isCode notLow isHigh e f g h after low isCode' isLow => cases parsed
  | case8 a b c d after code isCode notLow isHigh single => cases parsed
  | case9 a b c d after code isCode notLow notHigh ih =>
      obtain ⟨tail, parsedTail, rfl⟩ := map_cons_eq_some_iff.mp parsed
      simp only [List.cons_append, parseString, isCode, if_neg notLow, if_neg notHigh,
        ih parsedTail, Option.map_some]
  | case10 escape after notCode unknown => cases parsed
  | case11 escape after notCode char known ih =>
      obtain ⟨tail, parsedTail, rfl⟩ := map_cons_eq_some_iff.mp parsed
      have notU : escape ≠ 'u' := by
        rintro rfl
        have unknown : simpleEscape 'u' = none := by decide
        rw [unknown] at known
        cases known
      rw [List.cons_append, List.cons_append,
        parseString.eq_4 _ _ (fun _ _ _ _ _ same => absurd same notU), known]
      simp only [ih parsedTail, Option.map_some]
  | case12 char after notQuote notCode notEscape refused => cases parsed
  | case13 char after notQuote notCode notEscape plain ih =>
      obtain ⟨tail, parsedTail, rfl⟩ := map_cons_eq_some_iff.mp parsed
      have notSlash : char ≠ '\x5c' := fun same => plain (Or.inl same)
      rw [List.cons_append, parseString.eq_5 _ _ notQuote
        (fun _ _ _ _ _ same => absurd same notSlash)
        (fun _ _ same => absurd same notSlash), if_neg plain, ih parsedTail]
      rfl

theorem length_of_parseString {input chars rest : List Char}
    (parsed : parseString input = some (chars, rest)) : rest.length < input.length := by
  fun_induction parseString input generalizing chars rest with
  | case2 after =>
      cases parsed
      exact Nat.lt_succ_self _
  | case6 a b c d code isCode notLow isHigh e f g h after low isCode' isLow ih =>
      obtain ⟨tail, parsedTail, rfl⟩ := map_cons_eq_some_iff.mp parsed
      have shorter := ih parsedTail
      simp only [List.length_cons]
      omega
  | case9 a b c d after code isCode notLow notHigh ih =>
      obtain ⟨tail, parsedTail, rfl⟩ := map_cons_eq_some_iff.mp parsed
      have shorter := ih parsedTail
      simp only [List.length_cons]
      omega
  | case11 escape after notCode char known ih =>
      obtain ⟨tail, parsedTail, rfl⟩ := map_cons_eq_some_iff.mp parsed
      have shorter := ih parsedTail
      simp only [List.length_cons]
      omega
  | case13 char after notQuote notCode notEscape plain ih =>
      obtain ⟨tail, parsedTail, rfl⟩ := map_cons_eq_some_iff.mp parsed
      exact Nat.lt_succ_of_lt (ih parsedTail)
  | _ => cases parsed

theorem hexValue_digitChar {digit : Nat} (small : digit < 16) :
    hexValue (Nat.digitChar digit) = some digit := by
  have all : ∀ digit < 16, hexValue (Nat.digitChar digit) = some digit := by decide
  exact all digit small

theorem parseString_escapeChar (char : Char) (rest : List Char) :
    parseString (escapeChar char ++ rest) =
      (parseString rest).map fun parsed => (char :: parsed.1, parsed.2) := by
  unfold escapeChar
  split_ifs with quote slash backspace feed newline back tab control
  · rw [quote]
    rfl
  · rw [slash]
    rfl
  · rw [backspace]
    rfl
  · rw [feed]
    rfl
  · rw [newline]
    rfl
  · rw [back]
    rfl
  · rw [tab]
    rfl
  · have code : hexCode '0' '0' (Nat.digitChar (char.toNat / 16))
        (Nat.digitChar (char.toNat % 16)) = some char.toNat := by
      have zero : hexValue '0' = some 0 := by decide
      unfold hexCode
      rw [zero, hexValue_digitChar (by omega), hexValue_digitChar (by omega)]
      simp only [Option.some.injEq]
      omega
    have notLow : ¬ isLowSurrogate char.toNat = true := by
      simp [isLowSurrogate]
      omega
    have notHigh : ¬ isHighSurrogate char.toNat = true := by
      simp [isHighSurrogate]
      omega
    simp only [List.cons_append, List.nil_append, parseString, code, if_neg notLow,
      if_neg notHigh, Char.ofNat_toNat]
  · exact (parseString.eq_5 char rest quote (fun _ _ _ _ _ same => absurd same slash)
      (fun _ _ same => absurd same slash)).trans (if_neg (by
        rintro (same | small)
        · exact slash same
        · exact control small))

theorem parseString_escapeChars (chars rest : List Char) :
    parseString (escapeChars chars ++ '\x22' :: rest) = some (chars, rest) := by
  induction chars with
  | nil => rfl
  | cons char chars ih =>
      rw [escapeChars, List.append_assoc, parseString_escapeChar, ih]
      rfl

/-! ### Numbers -/

/-- What may follow a number without being taken for a part of it. -/
def EndsNumber : List Char → Prop
  | [] => True
  | char :: _ => isNumberChar char = false

theorem parseNumber_append {input rest : List Char} {value : Json}
    (parsed : parseNumber input = some (value, rest)) (goesOn : rest ≠ []) (more : List Char) :
    parseNumber (input ++ more) = some (value, rest ++ more) := by
  obtain ⟨read, isValue, same⟩ := Option.map_eq_some_iff.mp parsed
  obtain ⟨rfl, isRest⟩ := Prod.mk.inj same
  have split := congrArg List.length
    (List.takeWhile_append_dropWhile (p := isNumberChar) (l := input))
  rw [List.length_append, isRest] at split
  have longer := List.length_pos_iff.mpr goesOn
  unfold parseNumber
  rw [List.takeWhile_append, if_neg (by omega), isValue, List.dropWhile_append, isRest, if_neg]
  · rfl
  · rw [List.isEmpty_iff]
    exact goesOn

theorem length_of_parseNumber {input rest : List Char} {value : Json}
    (parsed : parseNumber input = some (value, rest)) : rest.length < input.length := by
  obtain ⟨read, isValue, same⟩ := Option.map_eq_some_iff.mp parsed
  obtain ⟨rfl, isRest⟩ := Prod.mk.inj same
  have split := congrArg List.length
    (List.takeWhile_append_dropWhile (p := isNumberChar) (l := input))
  rw [List.length_append, isRest] at split
  have some : input.takeWhile isNumberChar ≠ [] := by
    intro empty
    rw [empty] at isValue
    cases isValue
  have positive := List.length_pos_iff.mpr some
  omega

theorem head_toDigits {number : Nat} (positive : number ≠ 0) :
    (Nat.toDigits 10 number).head? ≠ some '0' := by
  induction number using Nat.strongRecOn with
  | ind number ih =>
      by_cases small : number < 10
      · have all : ∀ digit < 10, digit ≠ 0 → digit.digitChar ≠ '0' := by decide
        rw [Nat.toDigits_of_lt_base small]
        intro same
        exact all number small positive (Option.some.inj same)
      · rw [Nat.toDigits_of_base_le (by decide) (Nat.le_of_not_lt small),
          List.head?_append_of_ne_nil _ Nat.toDigits_ne_nil]
        exact ih (number / 10) (by omega) (by omega)

theorem isDigit_toDigits (number : Nat) :
    ∀ char ∈ Nat.toDigits 10 number, char.isDigit = true :=
  fun _ member => Nat.isDigit_of_mem_toDigits (by decide) (by decide) member

theorem unsignedOf_toDigits (negative : Bool) (number : Nat)
    (nonzero : negative = true → number ≠ 0) :
    unsignedOf negative (Nat.toDigits 10 number) =
      some (.integer (if negative then -(number : Int) else number)) := by
  have all := isDigit_toDigits number
  unfold unsignedOf
  rw [List.takeWhile_eq_self_iff.mpr all, List.dropWhile_eq_nil_iff.mpr all]
  dsimp only
  rw [Nat.ofDigitChars_ten_toDigits, if_neg, if_pos]
  · refine ⟨rfl, ?_⟩
    rintro ⟨isNegative, isZero⟩
    apply head_toDigits (nonzero isNegative)
    rw [isZero]
    rfl
  · rintro (empty | ⟨long, zero⟩)
    · exact Nat.toDigits_ne_nil empty
    · by_cases isZero : number = 0
      · subst isZero
        exact absurd long (by decide)
      · exact head_toDigits isZero zero

theorem isNumberChar_of_isDigit {char : Char} (digit : char.isDigit = true) :
    isNumberChar char = true := by
  simp [isNumberChar, digit]

theorem numberOf_printInteger (value : Int) :
    numberOf (printInteger value) = some (.integer value) := by
  cases value with
  | negSucc number => exact unsignedOf_toDigits true (number + 1) (fun _ => Nat.succ_ne_zero _)
  | ofNat number =>
      unfold printInteger numberOf
      dsimp only
      split
      · rename_i rest sign
        have digit := isDigit_toDigits number '-' (by rw [sign]; exact List.mem_cons_self)
        exact absurd digit (by decide)
      · exact unsignedOf_toDigits false number (fun isTrue => absurd isTrue Bool.false_ne_true)

theorem isNumberChar_of_mem_printInteger {value : Int} {char : Char}
    (member : char ∈ printInteger value) : isNumberChar char = true := by
  cases value with
  | ofNat number => exact isNumberChar_of_isDigit (isDigit_toDigits number char member)
  | negSucc number =>
      rcases List.mem_cons.mp member with rfl | digit
      · rfl
      · exact isNumberChar_of_isDigit (isDigit_toDigits _ char digit)

theorem printInteger_ne_nil (value : Int) : printInteger value ≠ [] := by
  cases value with
  | ofNat value => exact Nat.toDigits_ne_nil
  | negSucc value => exact List.cons_ne_nil _ _

theorem not_isSpace_of_isNumberChar {char : Char} (number : isNumberChar char = true) :
    isSpace char = false := by
  by_contra space
  rw [Bool.not_eq_false] at space
  simp only [isSpace, Bool.or_eq_true, beq_iff_eq] at space
  rcases space with ((rfl | rfl) | rfl) | rfl <;> exact absurd number (by decide)

theorem parseNumber_printInteger (value : Int) {rest : List Char} (ends : EndsNumber rest) :
    parseNumber (printInteger value ++ rest) = some (.integer value, rest) := by
  have own : ∀ char ∈ printInteger value, isNumberChar char = true :=
    fun _ member => isNumberChar_of_mem_printInteger member
  have stop : rest.takeWhile isNumberChar = [] ∧ rest.dropWhile isNumberChar = rest := by
    cases rest with
    | nil => exact ⟨rfl, rfl⟩
    | cons char tail =>
        have foreign : ¬ isNumberChar char = true := by
          rw [show isNumberChar char = false from ends]
          exact Bool.false_ne_true
        exact ⟨List.takeWhile_cons_of_neg foreign, List.dropWhile_cons_of_neg foreign⟩
  unfold parseNumber
  rw [List.takeWhile_append_of_pos own, List.dropWhile_append_of_pos own, stop.1, stop.2,
    List.append_nil, numberOf_printInteger]
  rfl

/-! ### Words and keys -/

theorem parseWord_eq_some_iff {word input rest : List Char} {value read : Json} :
    parseWord word value input = some (read, rest) ↔ read = value ∧ input = word ++ rest := by
  unfold parseWord
  by_cases begins : word.isPrefixOf input = true
  · rw [if_pos begins, Option.some.injEq, Prod.mk.injEq]
    obtain ⟨others, rfl⟩ := List.isPrefixOf_iff_prefix.mp begins
    rw [List.drop_left, List.append_cancel_left_eq, eq_comm]
  · rw [if_neg begins]
    constructor
    · exact nofun
    · rintro ⟨-, rfl⟩
      exact absurd (List.isPrefixOf_iff_prefix.mpr (List.prefix_append word rest)) begins

theorem parseKey_eq_some_iff {input rest : List Char} {key : String} :
    parseKey input = some (key, rest) ↔
      ∃ quoted chars after, parseMark '\x22' input = some quoted ∧
        parseString quoted = some (chars, after) ∧ parseMark ':' after = some rest ∧
        key = String.ofList chars := by
  unfold parseKey
  cases opened : parseMark '\x22' input with
  | none => simp
  | some quoted =>
      cases read : parseString quoted with
      | none => simp [read]
      | some parsed =>
          simp only [read]
          rw [Option.map_eq_some_iff]
          constructor
          · rintro ⟨behind, found, same⟩
            cases same
            exact ⟨quoted, parsed.1, parsed.2, rfl, read, found, rfl⟩
          · rintro ⟨_, _, _, isQuoted, isParsed, found, rfl⟩
            cases isQuoted
            rw [read] at isParsed
            cases isParsed
            exact ⟨rest, found, rfl⟩

theorem parseKey_append {input rest : List Char} {key : String}
    (parsed : parseKey input = some (key, rest)) (more : List Char) :
    parseKey (input ++ more) = some (key, rest ++ more) := by
  obtain ⟨quoted, chars, after, opened, read, closed, isKey⟩ := parseKey_eq_some_iff.mp parsed
  exact parseKey_eq_some_iff.mpr ⟨quoted ++ more, chars, after ++ more,
    parseMark_append opened more, parseString_append read more, parseMark_append closed more,
    isKey⟩

theorem length_of_parseKey {input rest : List Char} {key : String}
    (parsed : parseKey input = some (key, rest)) : rest.length < input.length := by
  obtain ⟨quoted, chars, after, opened, read, closed, -⟩ := parseKey_eq_some_iff.mp parsed
  have first := length_of_parseMark opened
  have second := length_of_parseString read
  have third := length_of_parseMark closed
  omega

/-! ### The grammar that the parser reads -/

/-- What the three functions of the parser read: a value, the items behind an item, and the
members behind a member. -/
inductive Part where
  | value (value : Json)
  | items (items : List Json)
  | members (members : List (String × Json))

/-- The part stands at the beginning of the input, and the rest follows it. -/
inductive Reads : Part → List Char → List Char → Prop
  | null {input rest : List Char} (word : skipSpace input = 'n' :: 'u' :: 'l' :: 'l' :: rest) :
      Reads (.value .null) input rest
  | yes {input rest : List Char} (word : skipSpace input = 't' :: 'r' :: 'u' :: 'e' :: rest) :
      Reads (.value (.bool true)) input rest
  | no {input rest : List Char}
      (word : skipSpace input = 'f' :: 'a' :: 'l' :: 's' :: 'e' :: rest) :
      Reads (.value (.bool false)) input rest
  | text {input after chars rest : List Char} (quote : skipSpace input = '\x22' :: after)
      (read : parseString after = some (chars, rest)) :
      Reads (.value (.text (String.ofList chars))) input rest
  | number {input after rest : List Char} {char : Char} {value : Json}
      (starts : skipSpace input = char :: after)
      (read : parseNumber (char :: after) = some (value, rest)) :
      Reads (.value value) input rest
  | emptyArray {input after rest : List Char} (bracket : skipSpace input = '[' :: after)
      (closed : parseMark ']' after = some rest) : Reads (.value (.array [])) input rest
  | array {input after between rest : List Char} {first : Json} {items : List Json}
      (bracket : skipSpace input = '[' :: after) (head : Reads (.value first) after between)
      (tail : Reads (.items items) between rest) :
      Reads (.value (.array (first :: items))) input rest
  | emptyObject {input after rest : List Char} (brace : skipSpace input = '\x7b' :: after)
      (closed : parseMark '\x7d' after = some rest) : Reads (.value (.object [])) input rest
  | object {input after behind between rest : List Char} {key : String} {value : Json}
      {members : List (String × Json)} (brace : skipSpace input = '\x7b' :: after)
      (named : parseKey after = some (key, behind))
      (head : Reads (.value value) behind between)
      (tail : Reads (.members members) between rest) :
      Reads (.value (.object ((key, value) :: members))) input rest
  | noItem {input rest : List Char} (closed : parseMark ']' input = some rest) :
      Reads (.items []) input rest
  | item {input after between rest : List Char} {item : Json} {items : List Json}
      (comma : parseMark ',' input = some after) (head : Reads (.value item) after between)
      (tail : Reads (.items items) between rest) : Reads (.items (item :: items)) input rest
  | noMember {input rest : List Char} (closed : parseMark '\x7d' input = some rest) :
      Reads (.members []) input rest
  | member {input after behind between rest : List Char} {key : String} {value : Json}
      {members : List (String × Json)} (comma : parseMark ',' input = some after)
      (named : parseKey after = some (key, behind))
      (head : Reads (.value value) behind between)
      (tail : Reads (.members members) between rest) :
      Reads (.members ((key, value) :: members)) input rest

theorem Reads.length_lt {part : Part} {input rest : List Char} (reads : Reads part input rest) :
    rest.length < input.length := by
  induction reads with
  | null word | yes word | no word =>
      have shorter := length_of_skipSpace word
      simp only [List.length_cons] at shorter
      omega
  | text quote read =>
      have first := length_of_skipSpace quote
      have second := length_of_parseString read
      omega
  | number starts read =>
      have first := length_of_skipSpace starts
      have second := length_of_parseNumber read
      rw [List.length_cons] at second
      omega
  | emptyArray starts closed | emptyObject starts closed =>
      have first := length_of_skipSpace starts
      have second := length_of_parseMark closed
      omega
  | array bracket _ _ head tail =>
      have first := length_of_skipSpace bracket
      omega
  | object brace named _ _ head tail =>
      have first := length_of_skipSpace brace
      have second := length_of_parseKey named
      omega
  | noItem closed | noMember closed => exact length_of_parseMark closed
  | item comma _ _ head tail =>
      have first := length_of_parseMark comma
      omega
  | member comma named _ _ head tail =>
      have first := length_of_parseMark comma
      have second := length_of_parseKey named
      omega

def Parses (fuel : Nat) : Part → List Char → List Char → Prop
  | .value value, input, rest => parseValue fuel input = some (value, rest)
  | .items items, input, rest => parseItems fuel input = some (items, rest)
  | .members members, input, rest => parseMembers fuel input = some (members, rest)

theorem reads_of_parseItems {fuel : Nat}
    (below : ∀ part input rest, Parses fuel part input rest → Reads part input rest)
    {input rest : List Char} {items : List Json}
    (parsed : parseItems (fuel + 1) input = some (items, rest)) :
    Reads (.items items) input rest := by
  rw [parseItems] at parsed
  cases closed : parseMark ']' input with
  | some behind =>
      rw [closed] at parsed
      cases parsed
      exact .noItem closed
  | none =>
      cases comma : parseMark ',' input with
      | none =>
          rw [closed, comma] at parsed
          cases parsed
      | some after =>
          cases head : parseValue fuel after with
          | none =>
              rw [closed, comma] at parsed
              simp only [head] at parsed
              cases parsed
          | some read =>
              rw [closed, comma] at parsed
              simp only [head] at parsed
              obtain ⟨⟨others, behind⟩, tail, same⟩ := Option.map_eq_some_iff.mp parsed
              cases same
              exact .item comma (below (.value read.1) after read.2 head)
                (below (.items others) read.2 _ tail)

theorem reads_of_parseMembers {fuel : Nat}
    (below : ∀ part input rest, Parses fuel part input rest → Reads part input rest)
    {input rest : List Char} {members : List (String × Json)}
    (parsed : parseMembers (fuel + 1) input = some (members, rest)) :
    Reads (.members members) input rest := by
  rw [parseMembers] at parsed
  cases closed : parseMark '\x7d' input with
  | some behind =>
      rw [closed] at parsed
      cases parsed
      exact .noMember closed
  | none =>
      cases comma : parseMark ',' input with
      | none =>
          rw [closed, comma] at parsed
          cases parsed
      | some after =>
          cases named : parseKey after with
          | none =>
              rw [closed, comma] at parsed
              simp only [named] at parsed
              cases parsed
          | some key =>
              cases head : parseValue fuel key.2 with
              | none =>
                  rw [closed, comma] at parsed
                  simp only [named, head] at parsed
                  cases parsed
              | some read =>
                  rw [closed, comma] at parsed
                  simp only [named, head] at parsed
                  obtain ⟨⟨others, behind⟩, tail, same⟩ := Option.map_eq_some_iff.mp parsed
                  cases same
                  exact .member comma named (below (.value read.1) key.2 read.2 head)
                    (below (.members others) read.2 _ tail)

theorem reads_of_parseValue {fuel : Nat}
    (below : ∀ part input rest, Parses fuel part input rest → Reads part input rest)
    {input rest : List Char} {value : Json}
    (parsed : parseValue (fuel + 1) input = some (value, rest)) :
    Reads (.value value) input rest := by
  rw [parseValue] at parsed
  cases starts : skipSpace input with
  | nil =>
      rw [starts] at parsed
      cases parsed
  | cons char after =>
      rw [starts] at parsed
      simp only at parsed
      split_ifs at parsed with isNull isTrue isFalse isText isArray isObject
      · obtain ⟨rfl, rfl⟩ := parseWord_eq_some_iff.mp parsed
        exact .null (by rw [starts, isNull]; rfl)
      · obtain ⟨rfl, rfl⟩ := parseWord_eq_some_iff.mp parsed
        exact .yes (by rw [starts, isTrue]; rfl)
      · obtain ⟨rfl, rfl⟩ := parseWord_eq_some_iff.mp parsed
        exact .no (by rw [starts, isFalse]; rfl)
      · obtain ⟨⟨chars, behind⟩, read, same⟩ := Option.map_eq_some_iff.mp parsed
        cases same
        exact .text (by rw [starts, isText]) read
      · rw [isArray] at starts
        cases closed : parseMark ']' after with
        | some behind =>
            rw [closed] at parsed
            cases parsed
            exact .emptyArray starts closed
        | none =>
            cases head : parseValue fuel after with
            | none =>
                rw [closed] at parsed
                simp only [head] at parsed
                cases parsed
            | some read =>
                rw [closed] at parsed
                simp only [head] at parsed
                obtain ⟨⟨others, behind⟩, tail, same⟩ := Option.map_eq_some_iff.mp parsed
                cases same
                exact .array starts (below (.value read.1) after read.2 head)
                  (below (.items others) read.2 _ tail)
      · rw [isObject] at starts
        cases closed : parseMark '\x7d' after with
        | some behind =>
            rw [closed] at parsed
            cases parsed
            exact .emptyObject starts closed
        | none =>
            cases named : parseKey after with
            | none =>
                rw [closed] at parsed
                simp only [named] at parsed
                cases parsed
            | some key =>
                cases head : parseValue fuel key.2 with
                | none =>
                    rw [closed] at parsed
                    simp only [named, head] at parsed
                    cases parsed
                | some read =>
                    rw [closed] at parsed
                    simp only [named, head] at parsed
                    obtain ⟨⟨others, behind⟩, tail, same⟩ := Option.map_eq_some_iff.mp parsed
                    cases same
                    exact .object starts named (below (.value read.1) key.2 read.2 head)
                      (below (.members others) read.2 _ tail)
      · exact .number starts parsed

/-- The parser reads nothing but the grammar. -/
theorem reads_of_parses (fuel : Nat) (part : Part) (input rest : List Char)
    (parsed : Parses fuel part input rest) : Reads part input rest := by
  induction fuel generalizing part input rest with
  | zero =>
      cases part with
      | value => rw [Parses, parseValue] at parsed; cases parsed
      | items => rw [Parses, parseItems] at parsed; cases parsed
      | members => rw [Parses, parseMembers] at parsed; cases parsed
  | succ fuel below =>
      cases part with
      | value => exact reads_of_parseValue below parsed
      | items => exact reads_of_parseItems below parsed
      | members => exact reads_of_parseMembers below parsed

/-! ### The parser reads all of the grammar -/

theorem isNumberChar_of_parseNumber {char : Char} {after rest : List Char} {value : Json}
    (read : parseNumber (char :: after) = some (value, rest)) : isNumberChar char = true := by
  by_contra other
  unfold parseNumber at read
  rw [List.takeWhile_cons_of_neg other] at read
  cases read

theorem parseMark_of_ne {mark char : Char} {input rest : List Char}
    (starts : skipSpace input = char :: rest) (other : char ≠ mark) :
    parseMark mark input = none := by
  unfold parseMark
  rw [starts]
  exact if_neg other

theorem Reads.not_closing {value : Json} {input rest : List Char}
    (reads : Reads (.value value) input rest) :
    parseMark ']' input = none ∧ parseMark '\x7d' input = none := by
  have other : ∀ char after, skipSpace input = char :: after → char ≠ ']' → char ≠ '\x7d' →
      parseMark ']' input = none ∧ parseMark '\x7d' input = none :=
    fun char after starts notBracket notBrace =>
      ⟨parseMark_of_ne starts notBracket, parseMark_of_ne starts notBrace⟩
  cases reads with
  | null starts | yes starts | no starts | text starts _ | emptyArray starts _
  | array starts _ _ | emptyObject starts _ | object starts _ _ _ =>
      exact other _ _ starts (by decide) (by decide)
  | number starts read =>
      have isNumber := isNumberChar_of_parseNumber read
      refine other _ _ starts ?_ ?_
      · rintro rfl
        exact absurd isNumber (by decide)
      · rintro rfl
        exact absurd isNumber (by decide)

theorem parseMark_of_parseKey {input rest : List Char} {key : String}
    (named : parseKey input = some (key, rest)) : parseMark '\x7d' input = none := by
  obtain ⟨_, _, _, opened, -⟩ := parseKey_eq_some_iff.mp named
  exact parseMark_of_ne (parseMark_eq_some_iff.mp opened) (by decide)

/-- The parser reads all of the grammar: the length of the input bounds how deep its calls go. -/
theorem Reads.parses {part : Part} {input rest : List Char} (reads : Reads part input rest)
    {fuel : Nat} (enough : input.length < fuel) : Parses fuel part input rest := by
  induction reads generalizing fuel with
  | null word | yes word | no word =>
      obtain ⟨fuel, rfl⟩ := Nat.exists_eq_succ_of_ne_zero (Nat.ne_zero_of_lt enough)
      rw [Parses, parseValue, word]
      rfl
  | text quote read =>
      obtain ⟨fuel, rfl⟩ := Nat.exists_eq_succ_of_ne_zero (Nat.ne_zero_of_lt enough)
      rw [Parses, parseValue, quote]
      simp [read]
  | number starts read =>
      obtain ⟨fuel, rfl⟩ := Nat.exists_eq_succ_of_ne_zero (Nat.ne_zero_of_lt enough)
      have other : ∀ mark, isNumberChar mark = false → _ ≠ mark :=
        fun mark foreign same => by
          rw [← same, isNumberChar_of_parseNumber read] at foreign
          cases foreign
      rw [Parses, parseValue, starts]
      dsimp only
      rw [if_neg (other _ (by decide)), if_neg (other _ (by decide)),
        if_neg (other _ (by decide)), if_neg (other _ (by decide)),
        if_neg (other _ (by decide)), if_neg (other _ (by decide))]
      exact read
  | emptyArray starts closed | emptyObject starts closed =>
      obtain ⟨fuel, rfl⟩ := Nat.exists_eq_succ_of_ne_zero (Nat.ne_zero_of_lt enough)
      rw [Parses, parseValue, starts]
      simp [closed]
  | array bracket first others head tail =>
      obtain ⟨fuel, rfl⟩ := Nat.exists_eq_succ_of_ne_zero (Nat.ne_zero_of_lt enough)
      have taken := length_of_skipSpace bracket
      have shorter := first.length_lt
      have readFirst : parseValue fuel _ = _ := head (by omega)
      have readOthers : parseItems fuel _ = _ := tail (by omega)
      rw [Parses, parseValue, bracket]
      simp [first.not_closing.1, readFirst, readOthers]
  | object brace named value others head tail =>
      obtain ⟨fuel, rfl⟩ := Nat.exists_eq_succ_of_ne_zero (Nat.ne_zero_of_lt enough)
      have taken := length_of_skipSpace brace
      have behindKey := length_of_parseKey named
      have shorter := value.length_lt
      have readValue : parseValue fuel _ = _ := head (by omega)
      have readOthers : parseMembers fuel _ = _ := tail (by omega)
      rw [Parses, parseValue, brace]
      simp [parseMark_of_parseKey named, named, readValue, readOthers]
  | noItem closed =>
      obtain ⟨fuel, rfl⟩ := Nat.exists_eq_succ_of_ne_zero (Nat.ne_zero_of_lt enough)
      rw [Parses, parseItems, closed]
  | noMember closed =>
      obtain ⟨fuel, rfl⟩ := Nat.exists_eq_succ_of_ne_zero (Nat.ne_zero_of_lt enough)
      rw [Parses, parseMembers, closed]
  | item comma first others head tail =>
      obtain ⟨fuel, rfl⟩ := Nat.exists_eq_succ_of_ne_zero (Nat.ne_zero_of_lt enough)
      have taken := length_of_parseMark comma
      have shorter := first.length_lt
      have readFirst : parseValue fuel _ = _ := head (by omega)
      have readOthers : parseItems fuel _ = _ := tail (by omega)
      rw [Parses, parseItems, parseMark_of_ne (parseMark_eq_some_iff.mp comma) (by decide), comma]
      simp [readFirst, readOthers]
  | member comma named value others head tail =>
      obtain ⟨fuel, rfl⟩ := Nat.exists_eq_succ_of_ne_zero (Nat.ne_zero_of_lt enough)
      have taken := length_of_parseMark comma
      have behindKey := length_of_parseKey named
      have shorter := value.length_lt
      have readValue : parseValue fuel _ = _ := head (by omega)
      have readOthers : parseMembers fuel _ = _ := tail (by omega)
      rw [Parses, parseMembers, parseMark_of_ne (parseMark_eq_some_iff.mp comma) (by decide),
        comma]
      simp [named, readValue, readOthers]

theorem parse_eq_some_iff {text : List Char} {value : Json} :
    parse text = some value ↔ ∃ rest, Reads (.value value) text rest ∧ skipSpace rest = [] := by
  unfold parse
  constructor
  · intro parsed
    cases read : parseValue (text.length + 1) text with
    | none => rw [read] at parsed; cases parsed
    | some result =>
        obtain ⟨found, rest⟩ := result
        rw [read] at parsed
        dsimp only at parsed
        split_ifs at parsed with ends
        cases parsed
        exact ⟨rest, reads_of_parses _ (.value value) text rest read, ends⟩
  · rintro ⟨rest, reads, ends⟩
    have read : parseValue (text.length + 1) text = some (value, rest) :=
      reads.parses (Nat.lt_succ_self _)
    rw [read]
    exact if_pos ends

theorem Reads.unique {first second : Json} {input rest other : List Char}
    (one : Reads (.value first) input rest) (two : Reads (.value second) input other) :
    first = second ∧ rest = other := by
  have here : parseValue (input.length + 1) input = some (first, rest) :=
    one.parses (Nat.lt_succ_self _)
  have there : parseValue (input.length + 1) input = some (second, other) :=
    two.parses (Nat.lt_succ_self _)
  rw [here] at there
  exact Prod.mk.inj (Option.some.inj there)

/-! ### Longer inputs -/

/-- The part ends with a mark, a quote or a word, and not with a number. -/
def Part.Closed : Part → Prop
  | .value (.integer _) => False
  | .value (.decimal _) => False
  | _ => True

theorem not_closed_of_parseNumber {input rest : List Char} {value : Json}
    (read : parseNumber input = some (value, rest)) : ¬ (Part.value value).Closed := by
  have isNumber : ∀ negative literal, unsignedOf negative literal = some value →
      ¬ (Part.value value).Closed := by
    intro negative literal found
    unfold unsignedOf at found
    dsimp only at found
    split_ifs at found <;> cases found <;> exact id
  obtain ⟨found, numbered, same⟩ := Option.map_eq_some_iff.mp read
  cases same
  unfold numberOf at numbered
  split at numbered
  · exact isNumber _ _ numbered
  · exact isNumber _ _ numbered

/-- What has been read is read in the same way from a longer input, a number at the very end
apart. -/
theorem Reads.append {part : Part} {input rest : List Char} (reads : Reads part input rest)
    (ends : part.Closed ∨ rest ≠ []) (more : List Char) :
    Reads part (input ++ more) (rest ++ more) := by
  have follows : ∀ {between rest : List Char} {other : Part},
      Reads other between rest → between ≠ [] := by
    intro between rest other reads isEmpty
    have shorter := reads.length_lt
    rw [isEmpty] at shorter
    exact Nat.not_lt_zero _ shorter
  induction reads with
  | null word => exact .null (skipSpace_append word more)
  | yes word => exact .yes (skipSpace_append word more)
  | no word => exact .no (skipSpace_append word more)
  | text quote read => exact .text (skipSpace_append quote more) (parseString_append read more)
  | number starts read =>
      have goesOn := ends.resolve_left (not_closed_of_parseNumber read)
      exact .number (skipSpace_append starts more) (parseNumber_append read goesOn more)
  | emptyArray starts closed =>
      exact .emptyArray (skipSpace_append starts more) (parseMark_append closed more)
  | emptyObject starts closed =>
      exact .emptyObject (skipSpace_append starts more) (parseMark_append closed more)
  | array bracket first others head tail =>
      exact .array (skipSpace_append bracket more) (head (.inr (follows others)))
        (tail (.inl trivial))
  | object brace named value others head tail =>
      exact .object (skipSpace_append brace more) (parseKey_append named more)
        (head (.inr (follows others))) (tail (.inl trivial))
  | noItem closed => exact .noItem (parseMark_append closed more)
  | noMember closed => exact .noMember (parseMark_append closed more)
  | item comma first others head tail =>
      exact .item (parseMark_append comma more) (head (.inr (follows others)))
        (tail (.inl trivial))
  | member comma named value others head tail =>
      exact .member (parseMark_append comma more) (parseKey_append named more)
        (head (.inr (follows others))) (tail (.inl trivial))

/-! ### Reading a printed tree -/

mutual

def isWhole : Json → Bool
  | .decimal _ => false
  | .array items => areWhole items
  | .object members => membersWhole members
  | _ => true

def areWhole : List Json → Bool
  | [] => true
  | item :: rest => isWhole item && areWhole rest

def membersWhole : List (String × Json) → Bool
  | [] => true
  | (_, value) :: rest => isWhole value && membersWhole rest

end

structure Style.IsBlank (style : Style) : Prop where
  lineBreak : ∀ depth, Blank (style.lineBreak depth)
  afterColon : Blank style.afterColon

theorem compactStyle_isBlank : compactStyle.IsBlank where
  lineBreak _ := List.forall_mem_nil _
  afterColon := List.forall_mem_nil _

theorem prettyStyle_isBlank : prettyStyle.IsBlank where
  lineBreak depth := by
    intro char member
    rcases List.mem_cons.mp member with rfl | inIndent
    · decide
    · rw [List.eq_of_mem_replicate inIndent]
      decide
  afterColon := by
    intro char member
    rw [List.mem_singleton.mp member]
    decide

theorem parseMark_blank {blank : List Char} (isBlank : Blank blank) (mark : Char)
    (input : List Char) : parseMark mark (blank ++ input) = parseMark mark input := by
  unfold parseMark
  rw [skipSpace_blank isBlank]

theorem Reads.blank_append {blank : List Char} (isBlank : Blank blank) {part : Part}
    {input rest : List Char} (reads : Reads part input rest) :
    Reads part (blank ++ input) rest := by
  cases reads with
  | null word => exact .null (by rw [skipSpace_blank isBlank, word])
  | yes word => exact .yes (by rw [skipSpace_blank isBlank, word])
  | no word => exact .no (by rw [skipSpace_blank isBlank, word])
  | text quote read => exact .text (by rw [skipSpace_blank isBlank, quote]) read
  | number starts read => exact .number (by rw [skipSpace_blank isBlank, starts]) read
  | emptyArray starts closed =>
      exact .emptyArray (by rw [skipSpace_blank isBlank, starts]) closed
  | emptyObject starts closed =>
      exact .emptyObject (by rw [skipSpace_blank isBlank, starts]) closed
  | array bracket head tail =>
      exact .array (by rw [skipSpace_blank isBlank, bracket]) head tail
  | object brace named head tail =>
      exact .object (by rw [skipSpace_blank isBlank, brace]) named head tail
  | noItem closed => exact .noItem (by rw [parseMark_blank isBlank, closed])
  | noMember closed => exact .noMember (by rw [parseMark_blank isBlank, closed])
  | item comma head tail => exact .item (by rw [parseMark_blank isBlank, comma]) head tail
  | member comma named head tail =>
      exact .member (by rw [parseMark_blank isBlank, comma]) named head tail

theorem parseMark_cons {mark : Char} (visible : isSpace mark = false) (rest : List Char) :
    parseMark mark (mark :: rest) = some rest :=
  parseMark_eq_some_iff.mpr (skipSpace_cons visible rest)

theorem endsNumber_blank_cons {blank : List Char} (isBlank : Blank blank) {mark : Char}
    (other : isNumberChar mark = false) (rest : List Char) :
    EndsNumber (blank ++ mark :: rest) := by
  cases blank with
  | nil => exact other
  | cons char tail =>
      have space := isBlank char List.mem_cons_self
      change isNumberChar char = false
      by_contra number
      rw [Bool.not_eq_false] at number
      rw [not_isSpace_of_isNumberChar number] at space
      cases space

theorem endsNumber_printItems {style : Style} (isBlank : style.IsBlank) (depth : Nat)
    (items : List Json) (rest : List Char) : EndsNumber (printItems style depth items ++ rest) := by
  cases items with
  | nil =>
      rw [printItems, List.append_assoc]
      exact endsNumber_blank_cons (isBlank.lineBreak depth) (by decide) _
  | cons item others =>
      rw [printItems]
      exact (by decide : isNumberChar ',' = false)

theorem endsNumber_printMembers {style : Style} (isBlank : style.IsBlank) (depth : Nat)
    (members : List (String × Json)) (rest : List Char) :
    EndsNumber (printMembers style depth members ++ rest) := by
  cases members with
  | nil =>
      rw [printMembers, List.append_assoc]
      exact endsNumber_blank_cons (isBlank.lineBreak depth) (by decide) _
  | cons member others =>
      rw [printMembers]
      exact (by decide : isNumberChar ',' = false)

theorem memberText_append (lineBreak afterColon text tail rest : List Char) (key : String) :
    lineBreak ++ printString key ++ ':' :: afterColon ++ text ++ tail ++ rest =
      lineBreak ++ (printString key ++ ':' :: (afterColon ++ (text ++ (tail ++ rest)))) := by
  simp only [List.append_assoc, List.cons_append]

theorem parseKey_printString {blank : List Char} (isBlank : Blank blank) (key : String)
    (rest : List Char) :
    parseKey (blank ++ (printString key ++ ':' :: rest)) = some (key, rest) := by
  refine parseKey_eq_some_iff.mpr ⟨escapeChars key.toList ++ '\x22' :: ':' :: rest, key.toList,
    ':' :: rest, ?_, parseString_escapeChars key.toList _, parseMark_cons (by decide) rest,
    String.ofList_toList.symm⟩
  rw [parseMark_blank isBlank, printString, List.cons_append, List.append_assoc]
  exact parseMark_cons (by decide) _

mutual

theorem reads_print {style : Style} (isBlank : style.IsBlank) (depth : Nat) :
    (value : Json) → isWhole value = true → (rest : List Char) → EndsNumber rest →
      Reads (.value value) (print style depth value ++ rest) rest
  | .null, _, rest, _ => .null (skipSpace_cons (by decide) _)
  | .bool true, _, rest, _ => .yes (skipSpace_cons (by decide) _)
  | .bool false, _, rest, _ => .no (skipSpace_cons (by decide) _)
  | .integer value, _, rest, ends => by
      obtain ⟨char, after, starts⟩ := List.exists_cons_of_ne_nil (printInteger_ne_nil value)
      have visible : isSpace char = false :=
        not_isSpace_of_isNumberChar
          (isNumberChar_of_mem_printInteger (starts ▸ List.mem_cons_self))
      have read := parseNumber_printInteger value ends
      rw [starts, List.cons_append] at read
      rw [print, starts, List.cons_append]
      exact .number (skipSpace_cons visible _) read
  | .text value, _, rest, _ => by
      have read := parseString_escapeChars value.toList rest
      have reads := Reads.text (skipSpace_cons (by decide : isSpace '\x22' = false) _) read
      rw [String.ofList_toList] at reads
      rw [print, printString, List.cons_append, List.append_assoc]
      exact reads
  | .array [], _, rest, _ =>
      .emptyArray (skipSpace_cons (by decide) _) (parseMark_cons (by decide) _)
  | .array (first :: others), whole, rest, _ => by
      rw [isWhole, areWhole, Bool.and_eq_true] at whole
      have head := reads_print isBlank (depth + 1) first whole.1 _
        (endsNumber_printItems isBlank depth others rest)
      have tail := reads_printItems isBlank depth others whole.2 rest
      rw [print, List.cons_append, List.append_assoc, List.append_assoc]
      exact .array (skipSpace_cons (by decide) _)
        (head.blank_append (isBlank.lineBreak (depth + 1))) tail
  | .object [], _, rest, _ =>
      .emptyObject (skipSpace_cons (by decide) _) (parseMark_cons (by decide) _)
  | .object ((key, value) :: others), whole, rest, _ => by
      rw [isWhole, membersWhole, Bool.and_eq_true] at whole
      have head := reads_print isBlank (depth + 1) value whole.1 _
        (endsNumber_printMembers isBlank depth others rest)
      have tail := reads_printMembers isBlank depth others whole.2 rest
      rw [print, List.cons_append, memberText_append]
      exact .object (skipSpace_cons (by decide) _)
        (parseKey_printString (isBlank.lineBreak (depth + 1)) key _)
        (head.blank_append isBlank.afterColon) tail

theorem reads_printItems {style : Style} (isBlank : style.IsBlank) (depth : Nat) :
    (items : List Json) → areWhole items = true → (rest : List Char) →
      Reads (.items items) (printItems style depth items ++ rest) rest
  | [], _, rest => by
      rw [printItems, List.append_assoc]
      exact (Reads.noItem (parseMark_cons (by decide) rest)).blank_append
        (isBlank.lineBreak depth)
  | item :: others, whole, rest => by
      rw [areWhole, Bool.and_eq_true] at whole
      have head := reads_print isBlank (depth + 1) item whole.1 _
        (endsNumber_printItems isBlank depth others rest)
      have tail := reads_printItems isBlank depth others whole.2 rest
      rw [printItems, List.cons_append, List.append_assoc, List.append_assoc]
      exact .item (parseMark_cons (by decide) _)
        (head.blank_append (isBlank.lineBreak (depth + 1))) tail

theorem reads_printMembers {style : Style} (isBlank : style.IsBlank) (depth : Nat) :
    (members : List (String × Json)) → membersWhole members = true → (rest : List Char) →
      Reads (.members members) (printMembers style depth members ++ rest) rest
  | [], _, rest => by
      rw [printMembers, List.append_assoc]
      exact (Reads.noMember (parseMark_cons (by decide) rest)).blank_append
        (isBlank.lineBreak depth)
  | (key, value) :: others, whole, rest => by
      rw [membersWhole, Bool.and_eq_true] at whole
      have head := reads_print isBlank (depth + 1) value whole.1 _
        (endsNumber_printMembers isBlank depth others rest)
      have tail := reads_printMembers isBlank depth others whole.2 rest
      rw [printMembers, List.cons_append, memberText_append]
      exact .member (parseMark_cons (by decide) _)
        (parseKey_printString (isBlank.lineBreak (depth + 1)) key _)
        (head.blank_append isBlank.afterColon) tail

end

/-- A printed tree is read back, whatever whitespace the printer uses. -/
theorem parse_print {style : Style} (isBlank : style.IsBlank) {value : Json}
    (whole : isWhole value = true) : parse (print style 0 value) = some value := by
  have reads := reads_print isBlank 0 value whole [] trivial
  rw [List.append_nil] at reads
  exact parse_eq_some_iff.mpr ⟨[], reads, rfl⟩

theorem Reads.not_closed {value : Json} {input after rest : List Char} {char : Char}
    (reads : Reads (.value value) input rest) (starts : skipSpace input = char :: after)
    (number : isNumberChar char = true) : ¬ (Part.value value).Closed := by
  have other : ∀ mark tail, skipSpace input = mark :: tail → isNumberChar mark = true := by
    intro mark tail begins
    rw [starts] at begins
    rw [← (List.cons.inj begins).1]
    exact number
  cases reads with
  | number _ read => exact not_closed_of_parseNumber read
  | null begins | yes begins | no begins | text begins _ | emptyArray begins _
  | array begins _ _ | emptyObject begins _ | object begins _ _ _ =>
      exact absurd (other _ _ begins) (by decide)

/-- The text of an object or an array ends with the mark that closes it, that of a string with
its quote: no strict beginning of it is a text. -/
theorem parse_beginning {style : Style} (isBlank : style.IsBlank) {value : Json}
    (whole : isWhole value = true) (closed : (Part.value value).Closed)
    {beginning more : List Char} (split : print style 0 value = beginning ++ more)
    (strict : more ≠ []) : parse beginning = none := by
  have all := reads_print isBlank 0 value whole [] trivial
  rw [List.append_nil, split] at all
  cases parsed : parse beginning with
  | none => rfl
  | some found =>
      exfalso
      obtain ⟨rest, reads, -⟩ := parse_eq_some_iff.mp parsed
      by_cases ends : (Part.value found).Closed ∨ rest ≠ []
      · have same := ((reads.append ends more).unique all).2
        exact strict (List.append_eq_nil_iff.mp same).2
      · -- A number up to the end of the beginning: then the whole text begins with it as well.
        cases reads with
        | number starts read =>
            exact all.not_closed (skipSpace_append starts more)
              (isNumberChar_of_parseNumber read) closed
        | _ => exact ends (.inl trivial)

/-! ### The compact text has no control characters -/

theorem visible_of_all {chars : List Char}
    (all : (chars.all fun char => decide (32 ≤ char.toNat)) = true) :
    ∀ written ∈ chars, 32 ≤ written.toNat :=
  fun written member => of_decide_eq_true (List.all_eq_true.mp all written member)

theorem visible_escapeChar (char : Char) : ∀ written ∈ escapeChar char, 32 ≤ written.toNat := by
  unfold escapeChar
  split_ifs with isQuote isBackslash isBackspace isFeed isNewline isReturn isTab isControl
  · exact visible_of_all (by decide)
  · exact visible_of_all (by decide)
  · exact visible_of_all (by decide)
  · exact visible_of_all (by decide)
  · exact visible_of_all (by decide)
  · exact visible_of_all (by decide)
  · exact visible_of_all (by decide)
  · have digits : ∀ value < 32, (['\x5c', 'u', '0', '0', Nat.digitChar (value / 16),
        Nat.digitChar (value % 16)].all fun char => decide (32 ≤ char.toNat)) = true := by decide
    exact visible_of_all (digits _ isControl)
  · rw [List.forall_mem_singleton]
    omega

theorem visible_printString (text : String) :
    ∀ written ∈ printString text, 32 ≤ written.toNat := by
  have escaped : ∀ chars, ∀ written ∈ escapeChars chars, 32 ≤ written.toNat := by
    intro chars
    induction chars with
    | nil => exact List.forall_mem_nil _
    | cons char chars ih =>
        rw [escapeChars, List.forall_mem_append]
        exact ⟨visible_escapeChar char, ih⟩
  rw [printString, List.forall_mem_cons, List.forall_mem_append]
  exact ⟨by decide, escaped _, visible_of_all (by decide)⟩

theorem visible_printInteger (value : Int) :
    ∀ written ∈ printInteger value, 32 ≤ written.toNat := by
  intro written member
  have isNumber := isNumberChar_of_mem_printInteger member
  by_contra control
  have none : ∀ code < 32, isNumberChar (Char.ofNat code) = false := by decide
  have absent := none written.toNat (by omega)
  rw [Char.ofNat_toNat] at absent
  rw [absent] at isNumber
  cases isNumber

mutual

theorem visible_print (depth : Nat) :
    (value : Json) → isWhole value = true →
      ∀ written ∈ print compactStyle depth value, 32 ≤ written.toNat
  | .null, _ => by rw [print]; exact visible_of_all (by decide)
  | .bool true, _ => by rw [print]; exact visible_of_all (by decide)
  | .bool false, _ => by rw [print]; exact visible_of_all (by decide)
  | .integer value, _ => by
      rw [print]
      exact visible_printInteger value
  | .text value, _ => by
      rw [print]
      exact visible_printString value
  | .array [], _ => by rw [print]; exact visible_of_all (by decide)
  | .array (first :: others), whole => by
      rw [isWhole, areWhole, Bool.and_eq_true] at whole
      have head := visible_print (depth + 1) first whole.1
      have tail := visible_printItems depth others whole.2
      rw [print, List.forall_mem_cons, List.forall_mem_append, List.forall_mem_append]
      exact ⟨by decide, ⟨List.forall_mem_nil _, head⟩, tail⟩
  | .object [], _ => by rw [print]; exact visible_of_all (by decide)
  | .object ((key, value) :: others), whole => by
      rw [isWhole, membersWhole, Bool.and_eq_true] at whole
      have head := visible_print (depth + 1) value whole.1
      have tail := visible_printMembers depth others whole.2
      have name := visible_printString key
      rw [print, List.forall_mem_cons, List.forall_mem_append, List.forall_mem_append,
        List.forall_mem_append, List.forall_mem_append, List.forall_mem_cons]
      exact ⟨by decide, ⟨⟨⟨List.forall_mem_nil _, name⟩, by decide, List.forall_mem_nil _⟩, head⟩,
        tail⟩

theorem visible_printItems (depth : Nat) :
    (items : List Json) → areWhole items = true →
      ∀ written ∈ printItems compactStyle depth items, 32 ≤ written.toNat
  | [], _ => by
      rw [printItems]
      exact (visible_of_all (by decide) : ∀ written ∈ [']'], 32 ≤ written.toNat)
  | item :: others, whole => by
      rw [areWhole, Bool.and_eq_true] at whole
      have head := visible_print (depth + 1) item whole.1
      have tail := visible_printItems depth others whole.2
      rw [printItems, List.forall_mem_cons, List.forall_mem_append, List.forall_mem_append]
      exact ⟨by decide, ⟨List.forall_mem_nil _, head⟩, tail⟩

theorem visible_printMembers (depth : Nat) :
    (members : List (String × Json)) → membersWhole members = true →
      ∀ written ∈ printMembers compactStyle depth members, 32 ≤ written.toNat
  | [], _ => by
      rw [printMembers]
      exact (visible_of_all (by decide) : ∀ written ∈ ['\x7d'], 32 ≤ written.toNat)
  | (key, value) :: others, whole => by
      rw [membersWhole, Bool.and_eq_true] at whole
      have head := visible_print (depth + 1) value whole.1
      have tail := visible_printMembers depth others whole.2
      have name := visible_printString key
      rw [printMembers, List.forall_mem_cons, List.forall_mem_append, List.forall_mem_append,
        List.forall_mem_append, List.forall_mem_append, List.forall_mem_cons]
      exact ⟨by decide, ⟨⟨⟨List.forall_mem_nil _, name⟩, by decide, List.forall_mem_nil _⟩, head⟩,
        tail⟩

end

end Lightscale.Foundation.Json
