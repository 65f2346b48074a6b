/-
JSON texts as trees, with the printers and the parser of the JSON library.

The compact printer and the pretty printer write the same tokens and differ in the whitespace
between them.  A string is written with the shortest escapes and everything from the space on
is left as it is.  The parser accepts all escapes and whitespace between any two tokens.  A
number without fraction and exponent is an integer; every other number, minus zero included,
is kept as its literal.
-/

import Mathlib.Data.List.Basic
import Mathlib.Data.Nat.Init

namespace Lightscale.Foundation

inductive Json where
  | null
  | bool (value : Bool)
  | integer (value : Int)
  | decimal (literal : List Char)
  | text (value : String)
  | array (items : List Json)
  | object (members : List (String × Json))

namespace Json

/-! ### Printing -/

def escapeChar (char : Char) : List Char :=
  if char = '\x22' then ['\x5c', '\x22']
  else if char = '\x5c' then ['\x5c', '\x5c']
  else if char = '\x08' then ['\x5c', 'b']
  else if char = '\x0c' then ['\x5c', 'f']
  else if char = '\n' then ['\x5c', 'n']
  else if char = '\r' then ['\x5c', 'r']
  else if char = '\t' then ['\x5c', 't']
  else if char.toNat < 32 then
    ['\x5c', 'u', '0', '0', Nat.digitChar (char.toNat / 16), Nat.digitChar (char.toNat % 16)]
  else [char]

def escapeChars : List Char → List Char
  | [] => []
  | char :: rest => escapeChar char ++ escapeChars rest

def printString (text : String) : List Char :=
  '\x22' :: (escapeChars text.toList ++ ['\x22'])

def printInteger : Int → List Char
  | .ofNat value => Nat.toDigits 10 value
  | .negSucc value => '-' :: Nat.toDigits 10 (value + 1)

/-- The whitespace of a printer: in front of a line at some depth, and behind a colon. -/
structure Style where
  lineBreak : Nat → List Char
  afterColon : List Char

def compactStyle : Style where
  lineBreak _ := []
  afterColon := []

def prettyStyle : Style where
  lineBreak depth := '\n' :: List.replicate (2 * depth) ' '
  afterColon := [' ']

mutual

def print (style : Style) (depth : Nat) : Json → List Char
  | .null => ['n', 'u', 'l', 'l']
  | .bool true => ['t', 'r', 'u', 'e']
  | .bool false => ['f', 'a', 'l', 's', 'e']
  | .integer value => printInteger value
  | .decimal literal => literal
  | .text value => printString value
  | .array [] => ['[', ']']
  | .array (first :: rest) =>
      '[' :: (style.lineBreak (depth + 1) ++ print style (depth + 1) first ++
        printItems style depth rest)
  | .object [] => ['\x7b', '\x7d']
  | .object ((key, value) :: rest) =>
      '\x7b' :: (style.lineBreak (depth + 1) ++ printString key ++ ':' :: style.afterColon ++
        print style (depth + 1) value ++ printMembers style depth rest)

def printItems (style : Style) (depth : Nat) : List Json → List Char
  | [] => style.lineBreak depth ++ [']']
  | item :: rest =>
      ',' :: (style.lineBreak (depth + 1) ++ print style (depth + 1) item ++
        printItems style depth rest)

def printMembers (style : Style) (depth : Nat) : List (String × Json) → List Char
  | [] => style.lineBreak depth ++ ['\x7d']
  | (key, value) :: rest =>
      ',' :: (style.lineBreak (depth + 1) ++ printString key ++ ':' :: style.afterColon ++
        print style (depth + 1) value ++ printMembers style depth rest)

end

/-! ### Parsing -/

def isSpace (char : Char) : Bool :=
  char == ' ' || char == '\n' || char == '\t' || char == '\r'

def skipSpace (input : List Char) : List Char := input.dropWhile isSpace

def hexValue (char : Char) : Option Nat :=
  if '0' ≤ char ∧ char ≤ '9' then some (char.toNat - 48)
  else if 'a' ≤ char ∧ char ≤ 'f' then some (char.toNat - 87)
  else if 'A' ≤ char ∧ char ≤ 'F' then some (char.toNat - 55)
  else none

def hexCode (first second third fourth : Char) : Option Nat :=
  match hexValue first, hexValue second, hexValue third, hexValue fourth with
  | some first, some second, some third, some fourth =>
      some (((first * 16 + second) * 16 + third) * 16 + fourth)
  | _, _, _, _ => none

def simpleEscape (char : Char) : Option Char :=
  if char = '\x22' then some '\x22'
  else if char = '\x5c' then some '\x5c'
  else if char = '/' then some '/'
  else if char = 'b' then some '\x08'
  else if char = 'f' then some '\x0c'
  else if char = 'n' then some '\n'
  else if char = 'r' then some '\r'
  else if char = 't' then some '\t'
  else none

def isHighSurrogate (code : Nat) : Bool := decide (0xD800 ≤ code) && decide (code ≤ 0xDBFF)

def isLowSurrogate (code : Nat) : Bool := decide (0xDC00 ≤ code) && decide (code ≤ 0xDFFF)

/-- The characters up to the closing quote, and what follows it. -/
def parseString : List Char → Option (List Char × List Char)
  | [] => none
  | '\x22' :: rest => some ([], rest)
  | '\x5c' :: 'u' :: a :: b :: c :: d :: rest =>
      match hexCode a b c d with
      | none => none
      | some code =>
          if isLowSurrogate code then none
          else if isHighSurrogate code then
            match rest with
            | '\x5c' :: 'u' :: e :: f :: g :: h :: rest =>
                match hexCode e f g h with
                | none => none
                | some low =>
                    if isLowSurrogate low then
                      (parseString rest).map fun parsed =>
                        (Char.ofNat ((code - 0xD800) * 1024 + (low - 0xDC00) + 0x10000) ::
                          parsed.1, parsed.2)
                    else none
            | _ => none
          else (parseString rest).map fun parsed => (Char.ofNat code :: parsed.1, parsed.2)
  | '\x5c' :: escape :: rest =>
      match simpleEscape escape with
      | none => none
      | some char => (parseString rest).map fun parsed => (char :: parsed.1, parsed.2)
  | char :: rest =>
      if char = '\x5c' ∨ char.toNat < 32 then none
      else (parseString rest).map fun parsed => (char :: parsed.1, parsed.2)

def isDecimals (literal : List Char) : Bool :=
  let afterFraction :=
    match literal with
    | '.' :: digit :: rest => if digit.isDigit then rest.dropWhile Char.isDigit else literal
    | other => other
  match afterFraction with
  | [] => true
  | mark :: exponent =>
      let digits :=
        match exponent with
        | '+' :: rest => rest
        | '-' :: rest => rest
        | other => other
      (mark == 'e' || mark == 'E') && digits != [] && digits.all Char.isDigit

def unsignedOf (negative : Bool) (literal : List Char) : Option Json :=
  let digits := literal.takeWhile Char.isDigit
  let decimals := literal.dropWhile Char.isDigit
  if digits = [] ∨ (2 ≤ digits.length ∧ digits.head? = some '0') then none
  else if decimals = [] ∧ ¬ (negative = true ∧ digits = ['0']) then
    let value : Int := Nat.ofDigitChars 10 digits 0
    some (.integer (if negative then -value else value))
  else if isDecimals decimals then
    some (.decimal (if negative then '-' :: literal else literal))
  else none

def numberOf : List Char → Option Json
  | '-' :: rest => unsignedOf true rest
  | other => unsignedOf false other

def isNumberChar (char : Char) : Bool :=
  char.isDigit || char == '-' || char == '+' || char == '.' || char == 'e' || char == 'E'

/-- A number reaches up to the first character that no number contains.  Only a mark or
whitespace can follow a value, so nothing is lost by looking at all of it at once. -/
def parseNumber (input : List Char) : Option (Json × List Char) :=
  (numberOf (input.takeWhile isNumberChar)).map fun value =>
    (value, input.dropWhile isNumberChar)

def parseWord (word : List Char) (value : Json) (input : List Char) :
    Option (Json × List Char) :=
  if word.isPrefixOf input then some (value, input.drop word.length) else none

def parseMark (mark : Char) (input : List Char) : Option (List Char) :=
  match skipSpace input with
  | [] => none
  | char :: rest => if char = mark then some rest else none

def parseKey (input : List Char) : Option (String × List Char) :=
  match parseMark '\x22' input with
  | none => none
  | some rest =>
      match parseString rest with
      | none => none
      | some (chars, rest) =>
          (parseMark ':' rest).map fun rest => (String.ofList chars, rest)

mutual

/-- The value at the beginning of the input and what follows it. -/
def parseValue : Nat → List Char → Option (Json × List Char)
  | 0, _ => none
  | fuel + 1, input =>
      match skipSpace input with
      | [] => none
      | char :: rest =>
          if char = 'n' then parseWord ['u', 'l', 'l'] .null rest
          else if char = 't' then parseWord ['r', 'u', 'e'] (.bool true) rest
          else if char = 'f' then parseWord ['a', 'l', 's', 'e'] (.bool false) rest
          else if char = '\x22' then
            (parseString rest).map fun parsed => (.text (String.ofList parsed.1), parsed.2)
          else if char = '[' then
            match parseMark ']' rest with
            | some rest => some (.array [], rest)
            | none =>
                match parseValue fuel rest with
                | none => none
                | some (first, rest) =>
                    (parseItems fuel rest).map fun parsed =>
                      (.array (first :: parsed.1), parsed.2)
          else if char = '\x7b' then
            match parseMark '\x7d' rest with
            | some rest => some (.object [], rest)
            | none =>
                match parseKey rest with
                | none => none
                | some (key, rest) =>
                    match parseValue fuel rest with
                    | none => none
                    | some (value, rest) =>
                        (parseMembers fuel rest).map fun parsed =>
                          (.object ((key, value) :: parsed.1), parsed.2)
          else parseNumber (char :: rest)

def parseItems : Nat → List Char → Option (List Json × List Char)
  | 0, _ => none
  | fuel + 1, input =>
      match parseMark ']' input with
      | some rest => some ([], rest)
      | none =>
          match parseMark ',' input with
          | none => none
          | some rest =>
              match parseValue fuel rest with
              | none => none
              | some (item, rest) =>
                  (parseItems fuel rest).map fun parsed => (item :: parsed.1, parsed.2)

def parseMembers : Nat → List Char → Option (List (String × Json) × List Char)
  | 0, _ => none
  | fuel + 1, input =>
      match parseMark '\x7d' input with
      | some rest => some ([], rest)
      | none =>
          match parseMark ',' input with
          | none => none
          | some rest =>
              match parseKey rest with
              | none => none
              | some (key, rest) =>
                  match parseValue fuel rest with
                  | none => none
                  | some (value, rest) =>
                      (parseMembers fuel rest).map fun parsed =>
                        ((key, value) :: parsed.1, parsed.2)

end

/-- A text is one value with whitespace around it.  Every call of the parser has taken a
character from the input of its caller, so the length of the text is enough. -/
def parse (text : List Char) : Option Json :=
  match parseValue (text.length + 1) text with
  | some (value, rest) => if skipSpace rest = [] then some value else none
  | none => none

end Json

end Lightscale.Foundation
