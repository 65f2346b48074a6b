/-
The DNS servers that the server advertises.

A value is a host with an optional port; a host may be put in brackets.  Values are read,
written again in one form and sorted, and clients read the written form.  The writer puts
brackets around a host with a colon, and only around such a host.  What was in brackets in
the value is taken as it stands, so it may be a host that cannot be written without them: an
empty one, one that begins with a bracket itself, or one that begins with a space.
-/

import Lightscale.Foundation.TextForms

namespace Lightscale.Dns

open Foundation

structure IpText where
  Addr : Type
  parse : String → Option Addr
  print : Addr → String

/-- What is assumed of the texts: printing and parsing round-trip, an address is made of
hexadecimal digits, points and colons, and has no colon or several. -/
structure IpText.Sound (ip : IpText) : Prop where
  roundTrips : ∀ addr, ip.parse (ip.print addr) = some addr
  alphabet : ∀ text addr, ip.parse text = some addr →
    ∀ char ∈ text.toList, char ∈ "0123456789abcdefABCDEF.:".toList
  colons : ∀ text addr, ip.parse text = some addr → text.toList.count ':' ≠ 1
  nonempty : ip.parse "" = none

def defaultDnsPort : UInt16 := 53

/-- The part of `split_host_port` behind an opening bracket. -/
def splitBracketed (stripped : String) : Except String (String × UInt16) :=
  match splitOnce ']' stripped with
  | none => .error "missing closing bracket"
  | some (host, rest) =>
      if rest = "" then .ok (host, defaultDnsPort)
      else
        match dropStart? ":" rest with
        | none => .error "invalid bracketed host"
        | some portRaw =>
            match parseU16 portRaw with
            | none => .error "invalid port"
            | some port => .ok (host, port)

/-- The part of `split_host_port` for a value without a bracket. -/
def splitUnbracketed (ip : IpText) (value : String) : Except String (String × UInt16) :=
  match ip.parse value with
  | some addr => .ok (ip.print addr, defaultDnsPort)
  | none =>
      match rsplitOnce ':' value with
      | none => .ok (value, defaultDnsPort)
      | some (host, portRaw) =>
          if host = "" then .error "missing host"
          else if ':' ∈ host.toList then .error "IPv6 addresses with port must be bracketed"
          else
            match parseU16 portRaw with
            | none => .error "invalid port"
            | some port => .ok (host, port)

def splitHostPort (ip : IpText) (value : String) : Except String (String × UInt16) :=
  let value := trim value
  if value = "" then .error "missing host"
  else
    match dropStart? "[" value with
    | some stripped => splitBracketed stripped
    | none => splitUnbracketed ip value

def formatHostPort (host : String) (port : UInt16) : String :=
  if ':' ∈ host.toList ∧ host.toList.head? ≠ some '[' then
    "[" ++ host ++ "]:" ++ toString port.toNat
  else host ++ ":" ++ toString port.toNat

/-- The loop of `normalize_dns_server_values`. -/
def formatEach (ip : IpText) : List String → Except String (List String)
  | [] => .ok []
  | raw :: rest =>
      let trimmed := trim raw
      if trimmed = "" then formatEach ip rest
      else
        match splitHostPort ip trimmed with
        | .error _ =>
            .error ("invalid dns server value " ++ trimmed ++
              "; expected HOST[:PORT] (IPv6 with port must use [addr]:port)")
        | .ok (host, port) => (formatEach ip rest).map fun later =>
            formatHostPort host port :: later

def normalizeDnsServerValues (ip : IpText) (values : List String) :
    Except String (List String) :=
  (formatEach ip values).map sortDedup

/-! ### What is read -/

theorem splitBracketed_eq_ok_iff {stripped host : String} {port : UInt16} :
    splitBracketed stripped = .ok (host, port) ↔
      ∃ rest, ']' ∉ host.toList ∧ stripped.toList = host.toList ++ ']' :: rest.toList ∧
        ((rest = "" ∧ port = defaultDnsPort) ∨
          ∃ raw, rest.toList = ':' :: raw.toList ∧ parseU16 raw = some port) := by
  unfold splitBracketed
  constructor
  · intro done
    cases cut : splitOnce ']' stripped with
    | none =>
        rw [cut] at done
        cases done
    | some parts =>
        obtain ⟨inner, rest⟩ := parts
        obtain ⟨closed, whole⟩ := splitOnce_eq_some_iff.mp cut
        rw [cut] at done
        dsimp only at done
        split at done
        · rename_i noRest
          cases done
          exact ⟨rest, closed, whole, Or.inl ⟨noRest, rfl⟩⟩
        · split at done
          · cases done
          · rename_i raw colon
            split at done
            · cases done
            · rename_i number isPort
              cases done
              exact ⟨rest, closed, whole,
                Or.inr ⟨raw, dropStart?_eq_some_iff.mp colon, isPort⟩⟩
  · rintro ⟨rest, closed, whole, isPort⟩
    rw [splitOnce_eq_some_iff.mpr ⟨closed, whole⟩]
    dsimp only
    rcases isPort with ⟨rfl, rfl⟩ | ⟨raw, colon, isPort⟩
    · rfl
    · have someRest : rest ≠ "" := by
        rintro rfl
        cases colon
      rw [if_neg someRest, dropStart?_eq_some_iff.mpr colon]
      dsimp only
      rw [isPort]

theorem splitUnbracketed_eq_ok_iff {ip : IpText} {value host : String} {port : UInt16} :
    splitUnbracketed ip value = .ok (host, port) ↔
      (∃ addr, ip.parse value = some addr ∧ host = ip.print addr ∧ port = defaultDnsPort) ∨
      (ip.parse value = none ∧ ':' ∉ value.toList ∧ host = value ∧ port = defaultDnsPort) ∨
      (ip.parse value = none ∧ host ≠ "" ∧ ':' ∉ host.toList ∧
        ∃ raw, ':' ∉ raw.toList ∧ value.toList = host.toList ++ ':' :: raw.toList ∧
          parseU16 raw = some port) := by
  unfold splitUnbracketed
  cases parsed : ip.parse value with
  | some addr => simp [eq_comm]
  | none =>
      dsimp only
      constructor
      · intro done
        cases cut : rsplitOnce ':' value with
        | none =>
            rw [cut] at done
            cases done
            exact Or.inr (Or.inl ⟨rfl, rsplitOnce_eq_none_iff.mp cut, rfl, rfl⟩)
        | some parts =>
            obtain ⟨before, raw⟩ := parts
            obtain ⟨rawNoColon, whole⟩ := rsplitOnce_eq_some_iff.mp cut
            rw [cut] at done
            dsimp only at done
            split at done
            · cases done
            · rename_i named
              split at done
              · cases done
              · rename_i noColon
                split at done
                · cases done
                · rename_i number isPort
                  cases done
                  exact Or.inr (Or.inr ⟨rfl, named, noColon, raw, rawNoColon, whole, isPort⟩)
      · rintro (⟨addr, impossible, -⟩ | ⟨-, noColon, rfl, rfl⟩ |
          ⟨-, named, noColon, raw, rawNoColon, whole, isPort⟩)
        · cases impossible
        · rw [rsplitOnce_eq_none_iff.mpr noColon]
        · rw [rsplitOnce_eq_some_iff.mpr ⟨rawNoColon, whole⟩]
          dsimp only
          rw [if_neg named, if_neg noColon, isPort]

theorem splitHostPort_of_bracket {ip : IpText} {value : String} {stripped : String}
    (whole : (trim value).toList = '[' :: stripped.toList) :
    splitHostPort ip value = splitBracketed stripped := by
  have someValue : trim value ≠ "" := by
    intro blank
    rw [blank] at whole
    cases whole
  unfold splitHostPort
  dsimp only
  rw [if_neg someValue, dropStart?_eq_some_iff.mpr (show _ = "[".toList ++ _ from whole)]

theorem splitHostPort_of_no_bracket {ip : IpText} {value : String} (someValue : trim value ≠ "")
    (unbracketed : (trim value).toList.head? ≠ some '[') :
    splitHostPort ip value = splitUnbracketed ip (trim value) := by
  have noStart : dropStart? "[" (trim value) = none := by
    rw [dropStart?_eq_none_iff]
    rintro ⟨rest, whole⟩
    rw [← whole] at unbracketed
    exact unbracketed rfl
  unfold splitHostPort
  dsimp only
  rw [if_neg someValue, noStart]

/-! ### What is written -/

/-- A host that can be written and read again. -/
structure Plain (host : String) : Prop where
  named : host ≠ ""
  unbracketed : host.toList.head? ≠ some '['
  /-- Brackets would keep a space at the beginning. -/
  unpadded : ∀ char, host.toList.head? = some char → isWhitespace char = true →
    ':' ∈ host.toList

theorem toList_formatHostPort_colon {host : String} (port : UInt16) (hasColon : ':' ∈ host.toList)
    (unbracketed : host.toList.head? ≠ some '[') :
    (formatHostPort host port).toList =
      '[' :: (host.toList ++ ']' :: ':' :: (toString port.toNat).toList) := by
  unfold formatHostPort
  rw [if_pos ⟨hasColon, unbracketed⟩]
  simp

theorem toList_formatHostPort {host : String} (port : UInt16)
    (unwritten : ':' ∉ host.toList ∨ host.toList.head? = some '[') :
    (formatHostPort host port).toList = host.toList ++ ':' :: (toString port.toNat).toList := by
  unfold formatHostPort
  rw [if_neg]
  · simp
  · rintro ⟨hasColon, unbracketed⟩
    rcases unwritten with noColon | bracketed
    · exact noColon hasColon
    · exact unbracketed bracketed

theorem isWhitespace_of_isDigit {char : Char} (digit : char.isDigit = true) :
    isWhitespace char = false := by
  have bounds : 48 ≤ char.toNat ∧ char.toNat ≤ 57 := by
    unfold Char.isDigit at digit
    rw [Bool.and_eq_true, decide_eq_true_eq, decide_eq_true_eq] at digit
    exact ⟨UInt32.le_iff_toNat_le.mp digit.1, UInt32.le_iff_toNat_le.mp digit.2⟩
  simp only [isWhitespace, Bool.or_eq_false_iff, Bool.and_eq_false_iff, decide_eq_false_iff_not,
    beq_eq_false_iff_ne]
  omega

theorem toList_formatHostPort_ending (host : String) (port : UInt16) :
    ∃ start, (formatHostPort host port).toList = start ++ (toString port.toNat).toList := by
  unfold formatHostPort
  split
  · exact ⟨("[" ++ host ++ "]:").toList, String.toList_append⟩
  · exact ⟨(host ++ ":").toList, String.toList_append⟩

theorem formatHostPort_ne_empty (host : String) (port : UInt16) :
    formatHostPort host port ≠ "" := by
  intro empty
  obtain ⟨start, whole⟩ := toList_formatHostPort_ending host port
  rw [empty] at whole
  exact toString_toList_ne_nil _ (List.append_eq_nil_iff.mp whole.symm).2

theorem getLast_formatHostPort {host : String} {port : UInt16} {char : Char}
    (isLast : (formatHostPort host port).toList.getLast? = some char) :
    isWhitespace char = false := by
  obtain ⟨start, whole⟩ := toList_formatHostPort_ending host port
  rw [whole, List.getLast?_append_of_ne_nil _ (toString_toList_ne_nil _)] at isLast
  exact isWhitespace_of_isDigit (isDigit_of_mem_toString (List.mem_of_getLast? isLast))

theorem not_mem_toString {number : Nat} {char : Char} (noDigit : char.isDigit = false) :
    char ∉ (toString number).toList := by
  intro member
  rw [isDigit_of_mem_toString member] at noDigit
  cases noDigit

/-! ### Values that are misread -/

/-- The value has brackets around a host that is empty, begins with a bracket, or begins with
whitespace and has no colon. -/
def Misbracketed (value : String) : Prop :=
  ∃ host rest, ']' ∉ host.toList ∧ value = "[" ++ host ++ "]" ++ rest ∧
    (host = "" ∨ host.toList.head? = some '[' ∨
      ∃ char, host.toList.head? = some char ∧ isWhitespace char = true ∧ ':' ∉ host.toList)

theorem plain_iff (host : String) :
    Plain host ↔ ¬ (host = "" ∨ host.toList.head? = some '[' ∨
      ∃ char, host.toList.head? = some char ∧ isWhitespace char = true ∧
        ':' ∉ host.toList) := by
  constructor
  · rintro plain (unnamed | bracketed | ⟨char, isHead, padded, noColon⟩)
    · exact plain.named unnamed
    · exact plain.unbracketed bracketed
    · exact noColon (plain.unpadded char isHead padded)
  · intro none
    rw [not_or, not_or] at none
    refine ⟨none.1, none.2.1, ?_⟩
    intro char isHead padded
    by_contra noColon
    exact none.2.2 ⟨char, isHead, padded, noColon⟩

theorem toList_bracketed (host rest : String) :
    ("[" ++ host ++ "]" ++ rest).toList = '[' :: (host.toList ++ ']' :: rest.toList) := by
  simp

theorem misbracketed_iff {value host rest : String} (closed : ']' ∉ host.toList)
    (whole : value.toList = '[' :: (host.toList ++ ']' :: rest.toList)) :
    Misbracketed value ↔ ¬ Plain host := by
  rw [plain_iff, not_not]
  constructor
  · rintro ⟨inner, after, innerClosed, rfl, wrong⟩
    rw [toList_bracketed, List.cons.injEq] at whole
    rw [← String.toList_inj.mp (cut_unique innerClosed closed whole.2).1]
    exact wrong
  · intro wrong
    refine ⟨host, rest, closed, ?_, wrong⟩
    apply String.toList_inj.mp
    rw [whole, toList_bracketed]

theorem not_misbracketed {value : String} (unbracketed : value.toList.head? ≠ some '[') :
    ¬ Misbracketed value := by
  rintro ⟨host, rest, -, rfl, -⟩
  rw [toList_bracketed] at unbracketed
  exact unbracketed rfl

theorem IpText.Sound.print {ip : IpText} (sound : ip.Sound) (addr : ip.Addr) :
    ']' ∉ (ip.print addr).toList ∧ Plain (ip.print addr) := by
  have letters := sound.alphabet _ addr (sound.roundTrips addr)
  have allPlain : ("0123456789abcdefABCDEF.:".toList.all fun char =>
      decide (char ≠ ']' ∧ char ≠ '[' ∧ isWhitespace char = false)) = true := by decide
  have plainLetters : ∀ char ∈ "0123456789abcdefABCDEF.:".toList,
      char ≠ ']' ∧ char ≠ '[' ∧ isWhitespace char = false :=
    fun char member => of_decide_eq_true (List.all_eq_true.mp allPlain char member)
  refine ⟨fun member => (plainLetters _ (letters _ member)).1 rfl, ?_, ?_, ?_⟩
  · intro empty
    have parsed := sound.roundTrips addr
    rw [empty, sound.nonempty] at parsed
    cases parsed
  · intro isHead
    exact (plainLetters _ (letters _ (List.mem_of_head? isHead))).2.1 rfl
  · intro char isHead padded
    rw [(plainLetters _ (letters _ (List.mem_of_head? isHead))).2.2] at padded
    cases padded

def Readable (host : String) : Prop :=
  ']' ∉ host.toList ∨ (':' ∉ host.toList ∧ Plain host)

theorem readable_of_splitHostPort {ip : IpText} (sound : ip.Sound) {value host : String}
    {port : UInt16} (split : splitHostPort ip value = .ok (host, port)) :
    Readable host ∧ (Plain host ↔ ¬ Misbracketed (trim value)) := by
  by_cases blank : trim value = ""
  · unfold splitHostPort at split
    rw [if_pos blank] at split
    cases split
  by_cases bracketed : (trim value).toList.head? = some '['
  · obtain ⟨stripped, whole⟩ : ∃ stripped : String,
        (trim value).toList = '[' :: stripped.toList := by
      obtain ⟨rest, isRest⟩ := List.head?_eq_some_iff.mp bracketed
      exact ⟨String.ofList rest, by rw [isRest, String.toList_ofList]⟩
    rw [splitHostPort_of_bracket whole] at split
    obtain ⟨rest, closed, isStripped, -⟩ := splitBracketed_eq_ok_iff.mp split
    rw [isStripped] at whole
    refine ⟨Or.inl closed, ?_⟩
    rw [misbracketed_iff closed whole, not_not]
  · have right := not_misbracketed bracketed
    have unpadded : ∀ char, (trim value).toList.head? = some char → isWhitespace char = true →
        ':' ∈ host.toList := by
      intro char isHead padded
      rw [head_trim isHead] at padded
      cases padded
    rw [splitHostPort_of_no_bracket blank bracketed] at split
    rcases splitUnbracketed_eq_ok_iff.mp split with
      ⟨addr, -, rfl, -⟩ | ⟨-, noColon, rfl, -⟩ | ⟨-, named, noColon, raw, -, whole, -⟩
    · obtain ⟨closed, plain⟩ := sound.print addr
      exact ⟨Or.inl closed, fun _ => right, fun _ => plain⟩
    · have plain : Plain (trim value) := ⟨blank, bracketed, unpadded⟩
      exact ⟨Or.inr ⟨noColon, plain⟩, fun _ => right, fun _ => plain⟩
    · have sameHead : (trim value).toList.head? = host.toList.head? := by
        rw [whole, List.head?_append_of_ne_nil]
        intro empty
        exact named (String.toList_eq_nil_iff.mp empty)
      rw [sameHead] at bracketed unpadded
      have plain : Plain host := ⟨named, bracketed, unpadded⟩
      exact ⟨Or.inr ⟨noColon, plain⟩, fun _ => right, fun _ => plain⟩

/-! ### Reading what was written -/

theorem trim_formatHostPort {host : String} (plain : Plain host) (port : UInt16) :
    trim (formatHostPort host port) = formatHostPort host port := by
  refine trim_eq_self ?_ fun char isLast => getLast_formatHostPort isLast
  intro char isHead
  by_cases hasColon : ':' ∈ host.toList
  · rw [toList_formatHostPort_colon port hasColon plain.unbracketed] at isHead
    cases isHead
    rfl
  · rw [toList_formatHostPort port (Or.inl hasColon), List.head?_append_of_ne_nil] at isHead
    · by_contra padded
      exact hasColon (plain.unpadded char isHead (Bool.eq_true_of_not_eq_false padded))
    · intro empty
      exact plain.named (String.toList_eq_nil_iff.mp empty)

theorem splitHostPort_formatHostPort {ip : IpText} (sound : ip.Sound) {host : String}
    (readable : Readable host) (plain : Plain host) (port : UInt16) :
    splitHostPort ip (formatHostPort host port) = .ok (host, port) := by
  have trimmed := trim_formatHostPort plain port
  by_cases hasColon : ':' ∈ host.toList
  · have closed : ']' ∉ host.toList := by
      rcases readable with closed | ⟨noColon, -⟩
      · exact closed
      · exact absurd hasColon noColon
    have written := toList_formatHostPort_colon port hasColon plain.unbracketed
    have whole : (trim (formatHostPort host port)).toList =
        '[' :: (host ++ "]" ++ ":" ++ toString port.toNat).toList := by
      rw [trimmed, written]
      simp
    rw [splitHostPort_of_bracket whole]
    refine splitBracketed_eq_ok_iff.mpr ⟨":" ++ toString port.toNat, closed, by simp, Or.inr ?_⟩
    exact ⟨toString port.toNat, by simp, parseU16_toString port⟩
  · have written := toList_formatHostPort port (Or.inl hasColon)
    have noDigitColon : ':' ∉ (toString port.toNat).toList := not_mem_toString rfl
    have someHost : host.toList ≠ [] := by
      intro empty
      exact plain.named (String.toList_eq_nil_iff.mp empty)
    -- There is one colon in what was written, so it is not an address.
    have noAddress : ip.parse (formatHostPort host port) = none := by
      cases parsed : ip.parse (formatHostPort host port) with
      | none => rfl
      | some addr =>
          refine absurd ?_ (sound.colons _ addr parsed)
          rw [written, List.count_append, List.count_eq_zero_of_not_mem hasColon,
            List.count_cons_self, List.count_eq_zero_of_not_mem noDigitColon]
    have unbracketed : (trim (formatHostPort host port)).toList.head? ≠ some '[' := by
      rw [trimmed, written, List.head?_append_of_ne_nil _ someHost]
      exact plain.unbracketed
    rw [splitHostPort_of_no_bracket (by rw [trimmed]; exact formatHostPort_ne_empty host port)
      unbracketed, trimmed]
    exact splitUnbracketed_eq_ok_iff.mpr (Or.inr (Or.inr ⟨noAddress, plain.named, hasColon,
      toString port.toNat, noDigitColon, written, parseU16_toString port⟩))

def ReadsBack (ip : IpText) (element : String) : Prop :=
  ∃ host port, splitHostPort ip element = .ok (host, port) ∧ host ≠ "" ∧
    formatHostPort host port = element

theorem plain_of_readsBack {ip : IpText} (sound : ip.Sound) {host : String}
    (readable : Readable host) {port : UInt16}
    (readsBack : ReadsBack ip (formatHostPort host port)) : Plain host := by
  obtain ⟨other, otherPort, split, -, same⟩ := readsBack
  by_contra notPlain
  have closed : ']' ∉ host.toList := readable.resolve_right fun both => notPlain both.2
  have unwritten : ':' ∉ host.toList ∨ host.toList.head? = some '[' := by
    rw [plain_iff, not_not] at notPlain
    rcases notPlain with rfl | bracketed | ⟨-, -, -, noColon⟩
    · exact Or.inl List.not_mem_nil
    · exact Or.inr bracketed
    · exact Or.inl noColon
  have written := toList_formatHostPort port unwritten
  have noBracket : ']' ∉ (formatHostPort host port).toList := by
    rw [written, List.mem_append, List.mem_cons, not_or, not_or]
    exact ⟨closed, by decide, not_mem_toString rfl⟩
  have otherPlain : Plain other := by
    refine (readable_of_splitHostPort sound split).2.mpr ?_
    rintro ⟨inner, rest, -, whole, -⟩
    apply noBracket
    apply mem_of_mem_trim
    rw [whole, toList_bracketed]
    simp
  have noColon : ':' ∉ other.toList := by
    intro hasColon
    apply noBracket
    rw [← same, toList_formatHostPort_colon otherPort hasColon otherPlain.unbracketed]
    simp
  have cuts : other.toList ++ ':' :: (toString otherPort.toNat).toList =
      host.toList ++ ':' :: (toString port.toNat).toList := by
    rw [← toList_formatHostPort otherPort (Or.inl noColon), same, written]
  have sameHost := (rcut_unique (not_mem_toString rfl) (not_mem_toString rfl) cuts).1
  rw [String.toList_inj] at sameHost
  exact notPlain (sameHost ▸ otherPlain)

/-! ### The whole list -/

theorem formatEach_cons_eq_ok_iff {ip : IpText} {raw : String} {rest out : List String} :
    formatEach ip (raw :: rest) = .ok out ↔
      (trim raw = "" ∧ formatEach ip rest = .ok out) ∨
      (trim raw ≠ "" ∧ ∃ host port later, splitHostPort ip (trim raw) = .ok (host, port) ∧
        formatEach ip rest = .ok later ∧ out = formatHostPort host port :: later) := by
  rw [formatEach.eq_def]
  dsimp only
  by_cases blank : trim raw = ""
  · simp [blank]
  · rw [if_neg blank]
    cases split : splitHostPort ip (trim raw) with
    | error error => simp [blank]
    | ok parts =>
        obtain ⟨host, port⟩ := parts
        cases formatEach ip rest with
        | error error => simp [blank, Except.map]
        | ok later => simp [blank, Except.map, eq_comm]

theorem mem_formatEach {ip : IpText} {values out : List String}
    (formatted : formatEach ip values = .ok out) :
    (∀ value ∈ values, trim value ≠ "" → ∃ host port,
        splitHostPort ip (trim value) = .ok (host, port) ∧ formatHostPort host port ∈ out) ∧
      ∀ element ∈ out, ∃ value ∈ values, ∃ host port,
        splitHostPort ip (trim value) = .ok (host, port) ∧ element = formatHostPort host port := by
  induction values generalizing out with
  | nil =>
      cases formatted
      exact ⟨nofun, nofun⟩
  | cons raw rest ih =>
      rcases formatEach_cons_eq_ok_iff.mp formatted with
        ⟨blank, formattedRest⟩ | ⟨-, host, port, later, split, formattedRest, rfl⟩
      · obtain ⟨read, written⟩ := ih formattedRest
        refine ⟨List.forall_mem_cons.mpr ⟨fun some => absurd blank some, read⟩, ?_⟩
        intro element member
        obtain ⟨value, isValue, found⟩ := written element member
        exact ⟨value, List.mem_cons_of_mem raw isValue, found⟩
      · obtain ⟨read, written⟩ := ih formattedRest
        constructor
        · refine List.forall_mem_cons.mpr ⟨fun _ => ⟨host, port, split, List.mem_cons_self⟩, ?_⟩
          intro value isValue some
          obtain ⟨host, port, split, member⟩ := read value isValue some
          exact ⟨host, port, split, List.mem_cons_of_mem _ member⟩
        · refine List.forall_mem_cons.mpr ⟨⟨raw, List.mem_cons_self, host, port, split, rfl⟩, ?_⟩
          intro element member
          obtain ⟨value, isValue, found⟩ := written element member
          exact ⟨value, List.mem_cons_of_mem raw isValue, found⟩

theorem formatEach_of_readsBack {ip : IpText} {values : List String}
    (fixed : ∀ value ∈ values, trim value = value ∧ value ≠ "" ∧ ReadsBack ip value) :
    formatEach ip values = .ok values := by
  induction values with
  | nil => rfl
  | cons value rest ih =>
      obtain ⟨⟨trimmed, someValue, host, port, split, -, same⟩, later⟩ :=
        List.forall_mem_cons.mp fixed
      rw [formatEach_cons_eq_ok_iff, trimmed]
      exact Or.inr ⟨someValue, host, port, rest, split, ih later, by rw [same]⟩

/-- The advertised list is its own normal form, and all of its elements are read back,
exactly if no value has a host in brackets that needs them without having a colon. -/
theorem dns_servers_fixed_iff (ip : IpText) (sound : ip.Sound) (values out : List String)
    (normalized : normalizeDnsServerValues ip values = .ok out) :
    (normalizeDnsServerValues ip out = .ok out ∧ ∀ element ∈ out, ReadsBack ip element) ↔
      ∀ value ∈ values, ¬ Misbracketed (trim value) := by
  unfold normalizeDnsServerValues at normalized
  cases formatted : formatEach ip values with
  | error error =>
      rw [formatted] at normalized
      cases normalized
  | ok forms =>
      rw [formatted] at normalized
      cases normalized
      obtain ⟨read, written⟩ := mem_formatEach formatted
      constructor
      · rintro ⟨-, readsBack⟩ value isValue wrong
        have someValue : trim value ≠ "" := by
          intro blank
          rw [blank] at wrong
          exact not_misbracketed (by decide) wrong
        obtain ⟨host, port, split, member⟩ := read value isValue someValue
        obtain ⟨readable, plainIff⟩ := readable_of_splitHostPort sound split
        rw [trim_trim] at plainIff
        have plain := plain_of_readsBack sound readable
          (readsBack _ (mem_sortDedup.mpr member))
        exact plainIff.mp plain wrong
      · intro right
        have fixed : ∀ element ∈ sortDedup forms,
            trim element = element ∧ element ≠ "" ∧ ReadsBack ip element := by
          intro element member
          obtain ⟨value, isValue, host, port, split, rfl⟩ :=
            written element (mem_sortDedup.mp member)
          obtain ⟨readable, plainIff⟩ := readable_of_splitHostPort sound split
          rw [trim_trim] at plainIff
          have plain := plainIff.mpr (right value isValue)
          exact ⟨trim_formatHostPort plain port, formatHostPort_ne_empty host port, host, port,
            splitHostPort_formatHostPort sound readable plain port, plain.named, rfl⟩
        refine ⟨?_, fun element member => (fixed element member).2.2⟩
        unfold normalizeDnsServerValues
        rw [formatEach_of_readsBack fixed]
        exact congrArg Except.ok (sortDedup_idem forms)

def sampleIp : IpText where
  Addr := Bool
  parse text :=
    if text = "192.0.2.1" then some false else if text = "2001:db8::1" then some true else none
  print addr := if addr then "2001:db8::1" else "192.0.2.1"

theorem sampleIp_sound : sampleIp.Sound := by
  have texts : ∀ text addr, sampleIp.parse text = some addr →
      text = "192.0.2.1" ∨ text = "2001:db8::1" := by
    intro text addr parsed
    by_contra neither
    rw [not_or] at neither
    simp [sampleIp, neither] at parsed
  refine ⟨?_, ?_, ?_, rfl⟩
  · intro addr
    cases addr <;> rfl
  · intro text addr parsed
    have letters : (text.toList.all fun char =>
        decide (char ∈ "0123456789abcdefABCDEF.:".toList)) = true := by
      rcases texts text addr parsed with rfl | rfl <;> decide
    exact fun char member => of_decide_eq_true (List.all_eq_true.mp letters char member)
  · intro text addr parsed
    rcases texts text addr parsed with rfl | rfl <;> decide

def sampleServers : List String := [" ", " [2001:db8::1] "]

theorem sample_servers_fixed :
    normalizeDnsServerValues sampleIp sampleServers = .ok ["[2001:db8::1]:53"] ∧
      normalizeDnsServerValues sampleIp ["[2001:db8::1]:53"] = .ok ["[2001:db8::1]:53"] := by
  have normalized : normalizeDnsServerValues sampleIp sampleServers =
      .ok ["[2001:db8::1]:53"] := by decide +kernel
  refine ⟨normalized, ((dns_servers_fixed_iff sampleIp sampleIp_sound sampleServers _
    normalized).mpr ?_).1⟩
  have plain : Plain "2001:db8::1" := ⟨by decide, by decide, fun _ _ _ => by decide⟩
  have whole : (trim " [2001:db8::1] ").toList =
      '[' :: ("2001:db8::1".toList ++ ']' :: "".toList) := by decide
  simp only [sampleServers, List.forall_mem_cons]
  refine ⟨not_misbracketed (by decide), ?_, nofun⟩
  rw [misbracketed_iff (by decide) whole, not_not]
  exact plain

/-- Hosts that are empty, begin with a bracket or begin with a space are accepted in brackets,
and what is advertised for them is refused or read as something else. -/
theorem brackets_misread :
    normalizeDnsServerValues sampleIp ["[]"] = .ok [":53"] ∧
      normalizeDnsServerValues sampleIp [":53"] =
        .error ("invalid dns server value :53; expected HOST[:PORT] " ++
          "(IPv6 with port must use [addr]:port)") ∧
      normalizeDnsServerValues sampleIp ["[[a]"] = .ok ["[a:53"] ∧
      normalizeDnsServerValues sampleIp ["[a:53"] =
        .error ("invalid dns server value [a:53; expected HOST[:PORT] " ++
          "(IPv6 with port must use [addr]:port)") ∧
      normalizeDnsServerValues sampleIp ["[ a]"] = .ok [" a:53"] ∧
      normalizeDnsServerValues sampleIp [" a:53"] = .ok ["a:53"] := by
  decide +kernel

end Lightscale.Dns
