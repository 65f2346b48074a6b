/-
How the responder answers a request.

One pass over the queries collects the answers and two flags: whether anything was
answered, and whether any name lies within a served domain.  The flags alone decide the
response code, so a name that exists without an address of the asked type is treated like a
name that does not exist.
-/

import Lightscale.Dns.Snapshot

namespace Lightscale.Dns

open Foundation ControlPlane

/-! ### Messages -/

inductive RecordType where
  | a
  | aaaa
  | any
  /-- Every other type, by its number. -/
  | other (code : Nat)
  deriving DecidableEq

inductive ResponseCode where
  | noError
  | nxDomain
  | refused
  deriving DecidableEq

inductive MessageType where
  | query
  | response
  deriving DecidableEq

structure Query where
  name : String
  queryType : RecordType
  queryClass : Nat
  deriving DecidableEq

structure Record where
  name : String
  ttl : Nat
  data : IpAddr
  deriving DecidableEq

structure Message where
  id : Nat
  messageType : MessageType
  opCode : Nat
  authoritative : Bool
  recursionDesired : Bool
  recursionAvailable : Bool
  responseCode : ResponseCode
  queries : List Query
  answers : List Record
  deriving DecidableEq

def dnsTtlSeconds : Nat := 30

/-! ### Building the response -/

def isWithinDomains (name : String) (domains : List String) : Bool :=
  domains.any fun domain => decide (name = domain) || endsWith ("." ++ domain) name

def buildRecord (name : String) (address : IpAddr) : Record :=
  { name := name, ttl := dnsTtlSeconds, data := address }

def matchesType : RecordType → IpAddr → Bool
  | .a, .v4 _ => true
  | .any, .v4 _ => true
  | .aaaa, .v6 _ => true
  | .any, .v6 _ => true
  | _, _ => false

structure Progress where
  queries : List Query
  answers : List Record
  answered : Bool
  anyWithinDomain : Bool

def addAddress (query : Query) (progress : Progress) (address : IpAddr) : Progress :=
  if matchesType query.queryType address then
    { progress with
      answers := progress.answers ++ [buildRecord query.name address]
      answered := true }
  else progress

def queryName (resolver : Resolver) (query : Query) : String :=
  normalizeName resolver query.name

def answerQuery (resolver : Resolver) (snapshot : DnsSnapshot) (progress : Progress)
    (query : Query) : Progress :=
  let noted :=
    { progress with
      queries := progress.queries ++ [query]
      anyWithinDomain := progress.anyWithinDomain ||
        isWithinDomains (queryName resolver query) snapshot.domains }
  match snapshot.records.lookup (queryName resolver query) with
  | none => noted
  | some addresses => addresses.foldl (addAddress query) noted

def buildResponse (resolver : Resolver) (state : State) (request : Message) : Message :=
  let progress := request.queries.foldl (answerQuery resolver (snapshot resolver state))
    { queries := [], answers := [], answered := false, anyWithinDomain := false }
  { id := request.id
    messageType := .response
    opCode := request.opCode
    authoritative := true
    recursionDesired := request.recursionDesired
    recursionAvailable := false
    responseCode :=
      if progress.answered then .noError
      else if progress.anyWithinDomain then .nxDomain
      else .refused
    queries := progress.queries
    answers := progress.answers }

/-! ### What the loop collects -/

section

variable (resolver : Resolver) (snapshot : DnsSnapshot)

def answersOf (query : Query) : List Record :=
  (((snapshot.records.lookup (queryName resolver query)).getD []).filter
    (matchesType query.queryType)).map (buildRecord query.name)

theorem foldl_addAddress (query : Query) (addresses : List IpAddr) (progress : Progress) :
    addresses.foldl (addAddress query) progress =
      { progress with
        answers := progress.answers ++
          (addresses.filter (matchesType query.queryType)).map (buildRecord query.name)
        answered := progress.answered || addresses.any (matchesType query.queryType) } := by
  induction addresses generalizing progress with
  | nil => simp
  | cons address rest ih =>
      rw [List.foldl_cons, ih]
      unfold addAddress
      cases asked : matchesType query.queryType address <;> simp [asked]

theorem answerQuery_eq (progress : Progress) (query : Query) :
    answerQuery resolver snapshot progress query =
      { queries := progress.queries ++ [query]
        answers := progress.answers ++ answersOf resolver snapshot query
        answered := progress.answered || !(answersOf resolver snapshot query).isEmpty
        anyWithinDomain := progress.anyWithinDomain ||
          isWithinDomains (queryName resolver query) snapshot.domains } := by
  unfold answerQuery answersOf
  cases found : snapshot.records.lookup (queryName resolver query) with
  | none => simp
  | some addresses =>
      have some_iff : addresses.any (matchesType query.queryType) =
          !((addresses.filter (matchesType query.queryType)).map
            (buildRecord query.name)).isEmpty := by
        rw [Bool.eq_iff_iff]
        simp
      dsimp only
      rw [foldl_addAddress, some_iff]
      simp

theorem foldl_answerQuery (queries : List Query) (progress : Progress) :
    queries.foldl (answerQuery resolver snapshot) progress =
      { queries := progress.queries ++ queries
        answers := progress.answers ++ queries.flatMap (answersOf resolver snapshot)
        answered := progress.answered ||
          queries.any fun query => !(answersOf resolver snapshot query).isEmpty
        anyWithinDomain := progress.anyWithinDomain ||
          queries.any fun query =>
            isWithinDomains (queryName resolver query) snapshot.domains } := by
  induction queries generalizing progress with
  | nil => simp
  | cons query rest ih =>
      rw [List.foldl_cons, ih, answerQuery_eq]
      simp [Bool.or_assoc]

def Answerable (query : Query) : Prop :=
  ∃ addresses, snapshot.records.lookup (queryName resolver query) = some addresses ∧
    ∃ address ∈ addresses, matchesType query.queryType address = true

/-- The name has a record, or it is a served domain itself. -/
def NameExists (query : Query) : Prop :=
  queryName resolver query ∈ snapshot.records ∨
    queryName resolver query ∈ snapshot.domains

theorem answersOf_ne_nil_iff (query : Query) :
    answersOf resolver snapshot query ≠ [] ↔ Answerable resolver snapshot query := by
  unfold answersOf Answerable
  cases found : snapshot.records.lookup (queryName resolver query) with
  | none => simp
  | some addresses => simp

end

/-! ### The response code -/

section

variable {resolver : Resolver} {state : State} {request : Message}

theorem buildResponse_answers :
    (buildResponse resolver state request).answers =
      request.queries.flatMap (answersOf resolver (snapshot resolver state)) := by
  unfold buildResponse
  rw [foldl_answerQuery]
  rfl

theorem responseCode_eq_noError_iff :
    (buildResponse resolver state request).responseCode = .noError ↔
      ∃ query ∈ request.queries, Answerable resolver (snapshot resolver state) query := by
  unfold buildResponse
  rw [foldl_answerQuery]
  simp only [Bool.false_or, ← answersOf_ne_nil_iff]
  split
  · rename_i answered
    simpa using answered
  · rename_i unanswered
    split <;> simpa using unanswered

/-- The response says that a name does not exist only of names that do not, and an existing
name without an address of the asked type gets an empty answer, exactly if some query is
answered or no queried name exists. -/
theorem nxDomain_sound_iff :
    (((buildResponse resolver state request).responseCode = .nxDomain →
        ∀ query ∈ request.queries, ¬ NameExists resolver (snapshot resolver state) query) ∧
      ((∃ query ∈ request.queries, NameExists resolver (snapshot resolver state) query) →
        (∀ query ∈ request.queries, ¬ Answerable resolver (snapshot resolver state) query) →
        (buildResponse resolver state request).responseCode = .noError ∧
          (buildResponse resolver state request).answers = [])) ↔
      (∃ query ∈ request.queries, Answerable resolver (snapshot resolver state) query) ∨
        ∀ query ∈ request.queries, ¬ NameExists resolver (snapshot resolver state) query := by
  constructor
  · rintro ⟨-, empty⟩
    by_cases answered :
        ∃ query ∈ request.queries, Answerable resolver (snapshot resolver state) query
    · exact Or.inl answered
    · refine Or.inr ?_
      intro query member nameExists
      have unanswered : ∀ other ∈ request.queries,
          ¬ Answerable resolver (snapshot resolver state) other := by
        intro other otherIn answerable
        exact answered ⟨other, otherIn, answerable⟩
      have said := (empty ⟨query, member, nameExists⟩ unanswered).1
      exact answered (responseCode_eq_noError_iff.mp said)
  · rintro (answered | absent)
    · have said := responseCode_eq_noError_iff.mpr answered
      constructor
      · intro denied
        rw [said] at denied
        cases denied
      · intro _ unanswered
        obtain ⟨query, member, answerable⟩ := answered
        exact absurd answerable (unanswered query member)
    · constructor
      · intro _
        exact absent
      · rintro ⟨query, member, nameExists⟩ _
        exact absurd nameExists (absent query member)

end

def sampleQuestion (name : String) (queryType : RecordType) : Message where
  id := 7
  messageType := .query
  opCode := 0
  authoritative := false
  recursionDesired := true
  recursionAvailable := false
  responseCode := .noError
  queries := [{ name := name, queryType := queryType, queryClass := 1 }]
  answers := []

def sampleServed : State :=
  run sampleConfig [createSample 0, registerSample 1 "alpha" "Alpha"]

theorem sampleServed_snapshot :
    snapshot sampleResolver sampleServed =
      { records := Table.ofPairs [("alpha.net-net.lightscale",
          [.v4 167772170, .v6 (253 * 2 ^ 120 + 10)])]
        domains := ["net-net.lightscale"] } := by
  have records : (snapshot sampleResolver sampleServed).records =
      Table.ofPairs [("alpha.net-net.lightscale",
        [.v4 167772170, .v6 (253 * 2 ^ 120 + 10)])] :=
    AList.ext (by decide +kernel)
  have domains : (snapshot sampleResolver sampleServed).domains =
      ["net-net.lightscale"] := by
    decide +kernel
  exact DnsSnapshot.ext records domains

/-- The responder of the small deployment has one answer for each family. -/
example :
    (buildResponse sampleResolver sampleServed
      (sampleQuestion "alpha.net-net.lightscale." .a)).answers =
      [⟨"alpha.net-net.lightscale.", 30, .v4 167772170⟩] := by
  rw [buildResponse_answers, sampleServed_snapshot]
  decide +kernel

theorem nxDomain_sound_unknown_name :
    (buildResponse sampleResolver sampleServed
        (sampleQuestion "beta.net-net.lightscale." .a)).responseCode = .nxDomain ∧
      "beta.net-net.lightscale" ∉ (snapshot sampleResolver sampleServed).records := by
  have code : (buildResponse sampleResolver sampleServed
      (sampleQuestion "beta.net-net.lightscale." .a)).responseCode = .nxDomain := by
    unfold buildResponse
    rw [sampleServed_snapshot]
    decide +kernel
  have absent : ∀ query ∈ (sampleQuestion "beta.net-net.lightscale." .a).queries,
      ¬ NameExists sampleResolver (snapshot sampleResolver sampleServed) query := by
    unfold NameExists
    rw [sampleServed_snapshot]
    decide +kernel
  have denied := (nxDomain_sound_iff.mpr (Or.inr absent)).1 code _ List.mem_cons_self
  refine ⟨code, ?_⟩
  intro member
  exact denied (Or.inl member)

/-- A name with records is denied when it is asked for a text record, and so is the domain of
the network itself. -/
theorem other_type_denies_existing_name :
    (buildResponse sampleResolver sampleServed
        (sampleQuestion "alpha.net-net.lightscale." (.other 16))).responseCode = .nxDomain ∧
      "alpha.net-net.lightscale" ∈ (snapshot sampleResolver sampleServed).records ∧
      (buildResponse sampleResolver sampleServed
        (sampleQuestion "net-net.lightscale." .a)).responseCode = .nxDomain ∧
      "net-net.lightscale" ∈ (snapshot sampleResolver sampleServed).domains := by
  unfold buildResponse
  rw [sampleServed_snapshot]
  refine ⟨?_, ?_, ?_, ?_⟩ <;> decide +kernel

end Lightscale.Dns
