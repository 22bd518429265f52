/-
Certificate chain building (`CertificateChainValidator::Validate`).

The validator looks for a path from the signer over a pool of issuer
candidates to one of the trust anchors, breadth first, keeping the set of DER
encodings it has already queued.  Decoding, signature verification and the
contents of the extensions are what cryptonite answers; they enter as a
`CertOracle`.

* `issuerCaRejectReason_antitone` — an issuer that is fit above `n`
  intermediates is fit above fewer, which is why the first visit of a
  certificate loses no path;
* `scanIssuers_toState`, `searchStep_simulates` — the loop is the breadth-first
  search of `BreadthFirst`, so its depth guard never fires;
* `chainValidator_sound_complete` — `trusted` is reported exactly when a path
  with valid links, validity windows and issuer constraints exists, and the
  loop ends after at most one round per candidate.
-/
import Tamga.BreadthFirst
import Tamga.IsoTime
import Tamga.PolicyTypes

namespace Tamga.Policy

open IsoTime List

/-! ### What cryptonite answers about certificates -/

/-- The `basicConstraints` extension of an issuer candidate. -/
structure IssuerBasicConstraints where
  present : Bool := false
  isCa : Bool := false
  hasPathLen : Bool := false
  pathLen : Int := 0
  deriving DecidableEq, Repr

/-- Decoded certificates and the answers of the library about them. -/
structure CertOracle (Cert : Type) where
  /-- `cert_decode` on a non-empty buffer. -/
  certDecode : Der → Option Cert
  /-- `cert_verify` of the first certificate under the key of the second. -/
  verifyByIssuer : Cert → Cert → Bool
  /-- `cert_check_validity_with_date`. -/
  checkValidityWithDate : Cert → Int → Bool
  readIssuerBasicConstraints : Cert → IssuerBasicConstraints
  /-- Whether `keyUsage` is absent or allows `keyCertSign`. -/
  issuerHasKeyCertSign : Cert → Bool
  /-- `std::time(nullptr)` during the call. -/
  now : Int

variable {Cert : Type}

variable (X : CertOracle Cert)

/-- `DecodeCertificateDer`: a certificate of no bytes does not exist. -/
def decodeCertificateDer (der : Der) : Option Cert :=
  if der = [] then none else X.certDecode der

/-- `IsValidAt`: a time that cannot be read stands for the current one. -/
def isValidAt (c : Cert) (validationTime : String) : Bool :=
  match parseIso8601Time validationTime with
  | some t => X.checkValidityWithDate c t
  | none => X.checkValidityWithDate c X.now

/-- `FindVerifiedIssuerImpl`: the first of at most 512 candidates that has the name of the issuer
and whose key verifies the certificate; no bytes stand for none. -/
def findVerifiedIssuerImpl (nameMatches : Cert → Cert → Bool) (tsaDer : Der)
    (candidates : List Der) : Der :=
  match decodeCertificateDer X tsaDer with
  | none => []
  | some tsa =>
    ((candidates.take 512).find? fun der =>
      match decodeCertificateDer X der with
      | none => false
      | some issuer => nameMatches tsa issuer && X.verifyByIssuer tsa issuer).getD []

theorem findVerifiedIssuerImpl_spec {X : CertOracle Cert} {nameMatches : Cert → Cert → Bool}
    {tsaDer : Der} {candidates : List Der}
    (h : findVerifiedIssuerImpl X nameMatches tsaDer candidates ≠ []) :
    findVerifiedIssuerImpl X nameMatches tsaDer candidates ∈ candidates ∧
      ∃ tsa issuer, decodeCertificateDer X tsaDer = some tsa ∧
        decodeCertificateDer X (findVerifiedIssuerImpl X nameMatches tsaDer candidates) =
          some issuer ∧ nameMatches tsa issuer = true ∧ X.verifyByIssuer tsa issuer = true := by
  rw [findVerifiedIssuerImpl] at h ⊢
  cases htsa : decodeCertificateDer X tsaDer with
  | none => exact absurd (by rw [htsa]) h
  | some tsa =>
    simp only [htsa] at h ⊢
    cases hfind : (candidates.take 512).find? _ with
    | none => exact absurd (by rw [hfind]; rfl) h
    | some der =>
      have hder := find?_some hfind
      refine ⟨mem_of_mem_take (mem_of_find?_eq_some hfind), tsa, ?_⟩
      cases hissuer : decodeCertificateDer X der with
      | none => simp [hissuer] at hder
      | some issuer =>
        rw [hissuer, Bool.and_eq_true] at hder
        exact ⟨issuer, rfl, hissuer, hder⟩

/-- `IssuerCaRejectReason`: why a candidate cannot be an intermediate issuer,
or the empty text. -/
def issuerCaRejectReason (c : Cert) (intermediatesBelow : Nat) : String :=
  let bc := X.readIssuerBasicConstraints c
  if !bc.isCa then "non-ca-issuer"
  else if !X.issuerHasKeyCertSign c then "issuer-missing-keyCertSign"
  else if bc.hasPathLen && decide ((intermediatesBelow : Int) > bc.pathLen) then "pathlen-exceeded"
  else ""

/-- A CA with `keyCertSign` whose path length leaves room for `below`
intermediates. -/
structure FitIssuer (c : Cert) (below : Nat) : Prop where
  isCa : (X.readIssuerBasicConstraints c).isCa = true
  keyCertSign : X.issuerHasKeyCertSign c = true
  pathLen : (X.readIssuerBasicConstraints c).hasPathLen = true →
    (below : Int) ≤ (X.readIssuerBasicConstraints c).pathLen

theorem issuerCaRejectReason_eq_empty {X : CertOracle Cert} {c : Cert} {below : Nat} :
    issuerCaRejectReason X c below = "" ↔ FitIssuer X c below := by
  unfold issuerCaRejectReason
  constructor
  · intro h
    cases hca : (X.readIssuerBasicConstraints c).isCa with
    | false => simp [hca] at h
    | true =>
      cases hku : X.issuerHasKeyCertSign c with
      | false => simp [hca, hku] at h
      | true =>
        refine ⟨hca, hku, fun hp => ?_⟩
        by_contra hlt
        simp [hca, hku, hp, hlt] at h
  · rintro ⟨hca, hku, hp⟩
    cases hh : (X.readIssuerBasicConstraints c).hasPathLen with
    | false => simp [hca, hku, hh]
    | true =>
      have := hp hh
      simp [hca, hku, hh, this]

theorem issuerCaRejectReason_antitone {X : CertOracle Cert} {c : Cert} {m n : Nat} (hmn : m ≤ n)
    (h : issuerCaRejectReason X c n = "") : issuerCaRejectReason X c m = "" := by
  rw [issuerCaRejectReason_eq_empty] at h ⊢
  refine ⟨h.isCa, h.keyCertSign, fun hp => ?_⟩
  have := h.pathLen hp
  omega

/-! ### The candidates -/

/-- A candidate that could be decoded, with its encoding and where it came from. -/
structure SourceCertificate where
  certificate : Cert
  der : Der
  source : String
  decoded : decodeCertificateDer X der = some certificate

def decodeGroup (X : CertOracle Cert) (source : String) : List Der → List (SourceCertificate X)
  | [] => []
  | der :: rest =>
    match h : decodeCertificateDer X der with
    | some c => ⟨c, der, source, h⟩ :: decodeGroup X source rest
    | none => decodeGroup X source rest

def decodeSourceCandidates (groups : List (List Der × String)) : List (SourceCertificate X) :=
  groups.flatMap fun g => decodeGroup X g.2 g.1

structure CertificateChainInput where
  signerCertificateDer : Der := []
  embeddedCertificatesDer : List Der := []
  intermediateCertificatesDer : List Der := []
  aiaCertificatesDer : List Der := []
  trustAnchorsDer : List Der := []
  trustAnchorSource : String := "trust-store"
  validationTime : String := ""

variable (input : CertificateChainInput)

structure CertificateChainResult where
  checked : Bool := false
  trusted : Bool := false
  chainValid : Bool := false
  status : ChainStatus := .notChecked
  signerCertificateTimeValid : Bool := false
  issuerCertificateDer : Der := []
  signerIssuerCertificateDer : Der := []
  message : String := ""

def kMaxIssuerCandidates : Nat := 256

def trustAnchors : List (SourceCertificate X) :=
  decodeSourceCandidates X [(input.trustAnchorsDer,
    if input.trustAnchorSource = "" then "trust-store" else input.trustAnchorSource)]

/-- The decodable issuer candidates, cut off at the verification budget. -/
def issuerCandidates : List (SourceCertificate X) :=
  (decodeSourceCandidates X [(input.embeddedCertificatesDer, "embedded"),
    (input.intermediateCertificatesDer, "intermediate-store"),
    (input.aiaCertificatesDer, "AIA")]).take kMaxIssuerCandidates

/-! ### The search -/

structure ChainNode where
  certificate : Cert
  der : Der
  signerIssuerDer : Option Der
  depth : Nat
  decoded : decodeCertificateDer X der = some certificate

structure SearchState where
  queue : List (ChainNode X)
  visited : List Der
  foundIssuerPath : Bool
  foundExpiredIssuerPath : Bool

/-- How the loop ends: at an anchor, or with an empty queue. -/
inductive SearchOutcome (X : CertOracle Cert) where
  | trusted (node : ChainNode X) (anchor : SourceCertificate X)
  | exhausted (foundIssuerPath foundExpiredIssuerPath : Bool)

/-- The loop over the issuer candidates for one node of the queue. -/
def scanIssuers (X : CertOracle Cert) (time : String) (current : ChainNode X) :
    List (SourceCertificate X) → SearchState X → SearchState X
  | [], st => st
  | issuer :: rest, st =>
    if issuer.der ∈ st.visited then scanIssuers X time current rest st
    else if !X.verifyByIssuer current.certificate issuer.certificate then
      scanIssuers X time current rest st
    else if !isValidAt X issuer.certificate time then
      scanIssuers X time current rest { st with foundExpiredIssuerPath := true }
    else if issuerCaRejectReason X issuer.certificate current.depth ≠ "" then
      scanIssuers X time current rest st
    else
      scanIssuers X time current rest
        { st with
          foundIssuerPath := true
          visited := issuer.der :: st.visited
          queue := st.queue ++ [{
            certificate := issuer.certificate
            der := issuer.der
            signerIssuerDer := current.signerIssuerDer.or (some issuer.der)
            depth := current.depth + 1
            decoded := issuer.decoded }] }

variable (time : String) (candidates anchors : List (SourceCertificate X))

/-- The anchor loop: the first anchor inside its validity window under whose
key the certificate verifies. -/
def matchAnchor (c : Cert) : Option (SourceCertificate X) :=
  anchors.find? fun a => isValidAt X a.certificate time && X.verifyByIssuer c a.certificate

def searchStep (st : SearchState X) : SearchState X ⊕ SearchOutcome X :=
  let maxDepth := candidates.length + anchors.length + 1
  match st.queue with
  | [] => .inr (.exhausted st.foundIssuerPath st.foundExpiredIssuerPath)
  | current :: rest =>
    let st := { st with queue := rest }
    if current.depth > maxDepth then .inl st
    else match matchAnchor X time anchors current.certificate with
      | some anchor => .inr (.trusted current anchor)
      | none =>
        if current.depth ≥ maxDepth then .inl st
        else .inl (scanIssuers X time current candidates st)

/-- The loop with a bound on its rounds; `none` means the bound was hit. -/
def searchLoop (X : CertOracle Cert) (time : String)
    (candidates anchors : List (SourceCertificate X)) :
    Nat → SearchState X → Option (SearchOutcome X)
  | 0, _ => none
  | n + 1, st =>
    match searchStep X time candidates anchors st with
    | .inl st' => searchLoop X time candidates anchors n st'
    | .inr o => some o

def initialState (signer : Cert) (der : Der) (h : decodeCertificateDer X der = some signer) :
    SearchState X :=
  { queue := [⟨signer, der, none, 0, h⟩]
    visited := [der]
    foundIssuerPath := false
    foundExpiredIssuerPath := false }

/-- The search of one call; the bound is the one `search_isSome` proves
sufficient. -/
def search (signer : Cert) (h : decodeCertificateDer X input.signerCertificateDer = some signer) :
    Option (SearchOutcome X) :=
  searchLoop X input.validationTime (issuerCandidates X input) (trustAnchors X input)
    ((issuerCandidates X input).length + 2) (initialState X signer input.signerCertificateDer h)

def outcomeResult {X : CertOracle Cert} : SearchOutcome X → CertificateChainResult
  | .trusted node anchor =>
    { checked := true
      signerCertificateTimeValid := true
      trusted := true
      chainValid := true
      status := .trusted
      issuerCertificateDer := anchor.der
      signerIssuerCertificateDer := node.signerIssuerDer.getD anchor.der
      message := if node.depth = 0 then "Signer certificate validates against trust anchor."
        else "Signer certificate validates through issuer certificates and trust anchor." }
  | .exhausted found expired =>
    if !found && expired then
      { checked := true
        signerCertificateTimeValid := true
        status := .expired
        message := "Issuer certificate is outside its validity window." }
    else
      { checked := true
        signerCertificateTimeValid := true
        status := if found then .incomplete else .untrusted
        message := if found then
            "Certificate chain has issuer certificates but does not reach a configured trust anchor."
          else "Certificate chain is not trusted by configured trust anchors." }

/-- `CertificateChainValidator::Validate`. -/
def chainValidate : CertificateChainResult :=
  if input.signerCertificateDer = [] then
    { checked := true, status := .signerMissing, message := "Signer certificate is missing." }
  else match h : decodeCertificateDer X input.signerCertificateDer with
    | none =>
      { checked := true
        status := .invalidSignature
        message := "Signer certificate DER cannot be decoded." }
    | some signer =>
      if !isValidAt X signer input.validationTime then
        { checked := true
          status := .expired
          message := "Signer certificate is outside its validity window." }
      else if input.trustAnchorsDer = [] then
        { checked := true
          signerCertificateTimeValid := true
          status := .untrusted
          message := "Trust store is empty." }
      else if (trustAnchors X input).isEmpty then
        { checked := true
          signerCertificateTimeValid := true
          status := .untrusted
          message := "Trust store does not contain decodable trust anchors." }
      else match search X input signer h with
        | some o => outcomeResult o
        | none => { checked := true, signerCertificateTimeValid := true }

/-! ### The loop is a breadth-first search -/

def chainProblem : BreadthFirst.Problem Der where
  pool := candidates.map (·.der)
  edge x y := ((decodeCertificateDer X x).bind fun cx =>
    (decodeCertificateDer X y).map fun cy => X.verifyByIssuer cx cy).getD false
  admits y d := ((decodeCertificateDer X y).map fun cy =>
    isValidAt X cy time && issuerCaRejectReason X cy d == "").getD false
  goal x := ((decodeCertificateDer X x).map fun cx =>
    (matchAnchor X time anchors cx).isSome).getD false

section Decoded

variable {X time candidates anchors} {x y : Der} {cx cy : Cert}

/-! The three parts of the problem at encodings that decode. -/

theorem edge_of_decoded (hx : decodeCertificateDer X x = some cx)
    (hy : decodeCertificateDer X y = some cy) :
    (chainProblem X time candidates anchors).edge x y = X.verifyByIssuer cx cy := by
  simp [chainProblem, hx, hy]

theorem admits_of_decoded (hy : decodeCertificateDer X y = some cy) (d : Nat) :
    (chainProblem X time candidates anchors).admits y d =
      (isValidAt X cy time && issuerCaRejectReason X cy d == "") := by
  simp [chainProblem, hy]

theorem goal_of_decoded (hx : decodeCertificateDer X x = some cx) :
    (chainProblem X time candidates anchors).goal x = (matchAnchor X time anchors cx).isSome := by
  simp [chainProblem, hx]

end Decoded

theorem chainProblem_monotone : (chainProblem X time candidates anchors).Monotone := by
  intro c m n hmn h
  cases hc : decodeCertificateDer X c with
  | none => simp [chainProblem, hc] at h
  | some cy =>
    rw [admits_of_decoded hc, Bool.and_eq_true, beq_iff_eq] at h ⊢
    exact ⟨h.1, issuerCaRejectReason_antitone hmn h.2⟩

/-- What the search sees of the loop's state. -/
def SearchState.toState {X : CertOracle Cert} (st : SearchState X) : BreadthFirst.State Der :=
  ⟨st.queue.map fun n => (n.der, n.depth), st.visited⟩

def SearchOutcome.toOutcome {X : CertOracle Cert} : SearchOutcome X → BreadthFirst.Outcome Der
  | .trusted node _ => .found node.der node.depth
  | .exhausted _ _ => .exhausted

theorem scanIssuers_toState (current : ChainNode X) :
    ∀ (cs : List (SourceCertificate X)) (st : SearchState X),
      let P := chainProblem X time candidates anchors
      let r := BreadthFirst.expand
        (fun c => P.edge current.der c && P.admits c current.depth) (cs.map (·.der)) st.visited
      (scanIssuers X time current cs st).toState
        = ⟨st.toState.queue ++ r.1.map (fun c => (c, current.depth + 1)), r.2⟩ := by
  intro cs
  induction cs with
  | nil =>
    intro st
    simp [scanIssuers, BreadthFirst.expand, SearchState.toState]
  | cons issuer rest ih =>
    intro st
    have hedge := @edge_of_decoded _ X time candidates anchors _ _ _ _ current.decoded issuer.decoded
    have hadm := @admits_of_decoded _ X time candidates anchors _ _ issuer.decoded current.depth
    simp only [map_cons, scanIssuers, BreadthFirst.expand]
    by_cases hv : issuer.der ∈ st.visited
    · rw [if_pos hv, if_pos hv]
      exact ih st
    rw [if_neg hv, if_neg hv]
    cases hver : X.verifyByIssuer current.certificate issuer.certificate with
    | false =>
      simp only [hedge, hver, Bool.not_false, if_true, Bool.false_and, Bool.false_eq_true, if_false]
      exact ih st
    | true =>
      cases hval : isValidAt X issuer.certificate time with
      | false =>
        simp only [hedge, hadm, hver, hval, Bool.not_true, Bool.not_false, Bool.false_eq_true,
          if_true, if_false, Bool.false_and, Bool.and_false]
        exact ih _
      | true =>
        by_cases hca : issuerCaRejectReason X issuer.certificate current.depth = ""
        · simp only [hedge, hadm, hver, hval, hca, Bool.not_true, Bool.false_eq_true, if_false,
            ne_eq, not_true_eq_false, BEq.rfl, Bool.and_self, if_true]
          rw [ih]
          simp [SearchState.toState]
        · simp only [hedge, hadm, hver, hval, hca, Bool.not_true, Bool.false_eq_true, if_false,
            ne_eq, not_false_eq_true, if_true, Bool.true_and, beq_iff_eq]
          exact ih st

theorem searchStep_simulates
    (st : SearchState X) (hdepth : ∀ n ∈ st.queue, n.depth ≤ candidates.length) :
    BreadthFirst.step (chainProblem X time candidates anchors) st.toState
      = (searchStep X time candidates anchors st).map SearchState.toState
          SearchOutcome.toOutcome := by
  obtain ⟨queue, visited, found, expired⟩ := st
  rcases queue with _ | ⟨current, rest⟩
  · rfl
  have hle : current.depth ≤ candidates.length := hdepth current (by simp)
  have hgoal := @goal_of_decoded _ X time candidates anchors _ _ current.decoded
  simp only [searchStep]
  -- the two depth guards of the loop never fire
  rw [if_neg (by omega)]
  cases hm : matchAnchor X time anchors current.certificate with
  | some anchor =>
    simp [BreadthFirst.step, SearchState.toState, hgoal, hm, SearchOutcome.toOutcome]
  | none =>
    rw [if_neg (by omega)]
    simp only [Sum.map_inl, scanIssuers_toState X time candidates anchors]
    simp only [BreadthFirst.step, SearchState.toState, map_cons, hgoal, hm,
      Option.isSome_none, Bool.false_eq_true, if_false]
    rfl

theorem searchLoop_simulates {X : CertOracle Cert} {time : String}
    {candidates anchors : List (SourceCertificate X)} {s : Der} :
    ∀ (n : Nat) {done : List (Der × Nat)} (st : SearchState X),
      BreadthFirst.Inv (chainProblem X time candidates anchors) s done st.toState →
      BreadthFirst.run (chainProblem X time candidates anchors) n st.toState
        = (searchLoop X time candidates anchors n st).map SearchOutcome.toOutcome := by
  intro n
  induction n with
  | zero => intro done st _; rfl
  | succ n ih =>
    intro done st h
    have hdepth : ∀ m ∈ st.queue, m.depth ≤ candidates.length := by
      intro m hm
      have := h.depth_le_pool (m.der, m.depth) (mem_map.mpr ⟨m, hm, rfl⟩)
      simpa [chainProblem] using this
    have hsim := searchStep_simulates X time candidates anchors st hdepth
    simp only [BreadthFirst.run, searchLoop, hsim]
    cases hst : searchStep X time candidates anchors st with
    | inl st' =>
      rw [hst] at hsim
      obtain ⟨done', h'⟩ := h.next hsim
      exact ih st' h'
    | inr o => rfl

theorem search_simulates (signer : Cert)
    (h : decodeCertificateDer X input.signerCertificateDer = some signer) :
    let P := chainProblem X input.validationTime (issuerCandidates X input) (trustAnchors X input)
    (search X input signer h).map SearchOutcome.toOutcome
      = BreadthFirst.run P (P.pool.length + 2) (BreadthFirst.init input.signerCertificateDer) := by
  intro P
  have hlen : P.pool.length = (issuerCandidates X input).length := length_map _
  rw [hlen]
  exact (searchLoop_simulates _ (initialState X signer input.signerCertificateDer h)
    (BreadthFirst.inv_init P input.signerCertificateDer)).symm

theorem search_isSome (signer : Cert)
    (h : decodeCertificateDer X input.signerCertificateDer = some signer) :
    (search X input signer h).isSome = true := by
  have hrun := BreadthFirst.run_isSome
    (chainProblem X input.validationTime (issuerCandidates X input) (trustAnchors X input))
    input.signerCertificateDer
  rw [← search_simulates X input signer h, Option.isSome_map] at hrun
  exact hrun

/-! ### Trusted paths -/

/-- A path from the signer over issuer candidates to a trust anchor with
everything a relying party asks of it. -/
structure TrustedPath (X : CertOracle Cert) (input : CertificateChainInput)
    (signer : SourceCertificate X) (cs : List (SourceCertificate X))
    (anchor : SourceCertificate X) : Prop where
  candidates : ∀ c ∈ cs, c ∈ issuerCandidates X input
  anchored : anchor ∈ trustAnchors X input
  /-- Every link's signature verifies under the next certificate. -/
  linked : List.IsChain (fun a b => X.verifyByIssuer a.certificate b.certificate = true)
    (signer :: cs ++ [anchor])
  validAt : ∀ c ∈ signer :: cs ++ [anchor], isValidAt X c.certificate input.validationTime = true
  /-- The issuer at index `i` has `i` intermediates below it. -/
  fit : ∀ i (hi : i < cs.length), FitIssuer X (cs.get ⟨i, hi⟩).certificate i

section Paths

variable {X time candidates anchors}

theorem chainProblem_edge (a b : SourceCertificate X) :
    (chainProblem X time candidates anchors).edge a.der b.der
      = X.verifyByIssuer a.certificate b.certificate :=
  edge_of_decoded a.decoded b.decoded

theorem chainProblem_admits (c : SourceCertificate X) (d : Nat) :
    (chainProblem X time candidates anchors).admits c.der d = true ↔
      isValidAt X c.certificate time = true ∧ FitIssuer X c.certificate d := by
  rw [admits_of_decoded c.decoded, Bool.and_eq_true, beq_iff_eq, issuerCaRejectReason_eq_empty]

theorem chainProblem_goal (c : SourceCertificate X) :
    (chainProblem X time candidates anchors).goal c.der = true ↔
      ∃ a ∈ anchors, isValidAt X a.certificate time = true ∧
        X.verifyByIssuer c.certificate a.certificate = true := by
  rw [goal_of_decoded c.decoded]
  simp [matchAnchor]

theorem exists_candidates_of_pooled (ds : List Der) (h : ∀ d ∈ ds, d ∈ candidates.map (·.der)) :
    ∃ cs : List (SourceCertificate X), (∀ c ∈ cs, c ∈ candidates) ∧ cs.map (·.der) = ds := by
  induction ds with
  | nil => exact ⟨[], by simp, rfl⟩
  | cons d ds ih =>
    obtain ⟨cs, hcs, rfl⟩ := ih fun x hx => h x (mem_cons_of_mem _ hx)
    obtain ⟨c, hc, rfl⟩ := mem_map.mp (h d mem_cons_self)
    exact ⟨c :: cs, forall_mem_cons.mpr ⟨hc, hcs⟩, rfl⟩

/-- Paths of the search problem, read over decoded certificates. -/
theorem chainProblem_path_iff (s : SourceCertificate X) (cs : List (SourceCertificate X))
    (hcs : ∀ c ∈ cs, c ∈ candidates) :
    BreadthFirst.Path (chainProblem X time candidates anchors) s.der (cs.map (·.der)) ↔
      List.IsChain (fun a b => X.verifyByIssuer a.certificate b.certificate = true) (s :: cs) ∧
      ∀ i (hi : i < cs.length), isValidAt X (cs.get ⟨i, hi⟩).certificate time = true ∧
        FitIssuer X (cs.get ⟨i, hi⟩).certificate i := by
  constructor
  · intro h
    refine ⟨?_, fun i hi => ?_⟩
    · have := h.linked
      rw [← map_cons (f := fun c : SourceCertificate X => c.der), isChain_map] at this
      simpa only [chainProblem_edge] using this
    · have := h.admitted i (by simpa using hi)
      simpa [chainProblem_admits] using this
  · rintro ⟨hlink, hfit⟩
    refine ⟨?_, ?_, fun i hi => ?_⟩
    · intro d hd
      obtain ⟨c, hc, rfl⟩ := mem_map.mp hd
      exact mem_map.mpr ⟨c, hcs c hc, rfl⟩
    · rw [← map_cons (f := fun c : SourceCertificate X => c.der), isChain_map]
      simpa only [chainProblem_edge] using hlink
    · have hi' : i < cs.length := by simpa using hi
      have : (chainProblem X time candidates anchors).admits (cs.get ⟨i, hi'⟩).der i = true :=
        (chainProblem_admits _ i).mpr (hfit i hi')
      simpa using this

end Paths

theorem exists_trustedPath_iff {X : CertOracle Cert} {input : CertificateChainInput}
    (s : SourceCertificate X) (hs : isValidAt X s.certificate input.validationTime = true) :
    (∃ cs anchor, TrustedPath X input s cs anchor) ↔
      ∃ x d, BreadthFirst.Reach (chainProblem X input.validationTime (issuerCandidates X input)
          (trustAnchors X input)) s.der d x ∧
        (chainProblem X input.validationTime (issuerCandidates X input)
          (trustAnchors X input)).goal x = true := by
  constructor
  · rintro ⟨cs, anchor, h⟩
    obtain ⟨hlink, -, hlast⟩ := isChain_append.mp h.linked
    have hpath : BreadthFirst.Path (chainProblem X input.validationTime (issuerCandidates X input)
        (trustAnchors X input)) s.der (cs.map (·.der)) :=
      (chainProblem_path_iff s cs h.candidates).mpr
        ⟨hlink, fun i hi => ⟨h.validAt _ (by simp), h.fit i hi⟩⟩
    obtain ⟨x, hx⟩ : ∃ x, (s :: cs).getLast? = some x := ⟨_, List.getLast?_eq_some_getLast (by simp)⟩
    refine ⟨x.der, cs.length, BreadthFirst.reach_iff_path.mpr ⟨_, hpath, by simp, ?_⟩, ?_⟩
    · rw [← map_cons (f := fun c : SourceCertificate X => c.der), List.getLast?_map, hx]
      rfl
    · rw [chainProblem_goal]
      exact ⟨anchor, h.anchored, h.validAt anchor (by simp), hlast x hx anchor rfl⟩
  · rintro ⟨y, d, hreach, hgoal⟩
    obtain ⟨ds, hpath, -, hlast⟩ := BreadthFirst.reach_iff_path.mp hreach
    obtain ⟨cs, hcs, rfl⟩ := exists_candidates_of_pooled ds hpath.pooled
    obtain ⟨hlink, hfit⟩ := (chainProblem_path_iff s cs hcs).mp hpath
    rw [← map_cons (f := fun c : SourceCertificate X => c.der), List.getLast?_map,
      Option.map_eq_some_iff] at hlast
    obtain ⟨x, hx, rfl⟩ := hlast
    obtain ⟨anchor, hmem, hval, hver⟩ := (chainProblem_goal x).mp hgoal
    refine ⟨cs, anchor, hcs, hmem, ?_, ?_, fun i hi => (hfit i hi).2⟩
    · refine isChain_append.mpr ⟨hlink, .singleton _, ?_⟩
      intro a ha b hb
      rw [hx, Option.mem_some_iff] at ha
      rw [List.head?_cons, Option.mem_some_iff] at hb
      exact ha ▸ hb ▸ hver
    · intro c hc
      rcases mem_append.mp hc with hc | hc
      · rcases mem_cons.mp hc with rfl | hc
        · exact hs
        · obtain ⟨i, hi, rfl⟩ := mem_iff_getElem.mp hc
          exact (hfit i hi).1
      · rw [mem_singleton.mp hc]
        exact hval

theorem outcomeResult_trusted {X : CertOracle Cert} (o : SearchOutcome X) :
    (outcomeResult o).trusted = true ↔ ∃ x d, o.toOutcome = .found x d := by
  cases o with
  | trusted node anchor => simp [outcomeResult, SearchOutcome.toOutcome]
  | exhausted found expired =>
    cases found <;> cases expired <;> simp [outcomeResult, SearchOutcome.toOutcome]

theorem chainValidate_trusted {X : CertOracle Cert} {input : CertificateChainInput} :
    (chainValidate X input).trusted = true ↔
      ∃ signer, ∃ h : decodeCertificateDer X input.signerCertificateDer = some signer,
        isValidAt X signer input.validationTime = true ∧ trustAnchors X input ≠ [] ∧
        ∃ o, search X input signer h = some o ∧ (outcomeResult o).trusted = true := by
  unfold chainValidate
  by_cases he : input.signerCertificateDer = []
  · simp [he, decodeCertificateDer]
  rw [if_neg he]
  split
  next hd => simp [hd]
  next signer hd =>
    by_cases hv : isValidAt X signer input.validationTime = true
    swap
    · rw [if_pos (by simpa using hv)]
      refine ⟨fun h => absurd h (by simp), ?_⟩
      rintro ⟨signer', hd', hv', -⟩
      obtain rfl : signer = signer' := Option.some.inj (hd.symm.trans hd')
      exact absurd hv' hv
    rw [if_neg (by simp [hv])]
    by_cases ha : input.trustAnchorsDer = []
    · -- an empty store has no decodable anchor either
      have hnil : trustAnchors X input = [] := by
        simp [trustAnchors, decodeSourceCandidates, ha, decodeGroup]
      rw [if_pos ha]
      simp [hnil]
    rw [if_neg ha]
    by_cases hnil : trustAnchors X input = []
    · rw [if_pos (by simp [hnil])]
      simp [hnil]
    rw [if_neg (by simpa using hnil)]
    obtain ⟨o, ho⟩ := Option.isSome_iff_exists.mp (search_isSome X input signer hd)
    rw [ho]
    constructor
    · intro h
      exact ⟨signer, hd, hv, hnil, o, ho, h⟩
    · rintro ⟨signer', hd', -, -, o', ho', h⟩
      obtain rfl : signer = signer' := Option.some.inj (hd.symm.trans hd')
      rw [ho, Option.some.injEq] at ho'
      exact ho' ▸ h

theorem chainValidate_trusted_iff_path {X : CertOracle Cert} {input : CertificateChainInput} :
    (chainValidate X input).trusted = true ↔
      ∃ signer : SourceCertificate X, signer.der = input.signerCertificateDer ∧
        ∃ cs anchor, TrustedPath X input signer cs anchor := by
  rw [chainValidate_trusted]
  have hfound : ∀ signer h, (∃ o, search X input signer h = some o ∧
      (outcomeResult o).trusted = true) ↔ ∃ x d, BreadthFirst.Reach (chainProblem X
        input.validationTime (issuerCandidates X input) (trustAnchors X input))
          input.signerCertificateDer d x ∧ (chainProblem X input.validationTime
            (issuerCandidates X input) (trustAnchors X input)).goal x = true := by
    intro signer h
    rw [← BreadthFirst.run_found_iff (chainProblem_monotone X _ _ _) input.signerCertificateDer,
      ← search_simulates X input signer h]
    simp only [outcomeResult_trusted, Option.map_eq_some_iff]
    constructor
    · rintro ⟨o, ho, x, d, hxd⟩
      exact ⟨x, d, o, ho, hxd⟩
    · rintro ⟨x, d, o, ho, hxd⟩
      exact ⟨o, ho, x, d, hxd⟩
  constructor
  · rintro ⟨signer, h, hv, -, ho⟩
    exact ⟨⟨signer, _, "signer", h⟩, rfl,
      (exists_trustedPath_iff _ hv).mpr ((hfound signer h).mp ho)⟩
  · rintro ⟨⟨signer, der, source, hdec⟩, hder, cs, anchor, hpath⟩
    obtain rfl : der = input.signerCertificateDer := hder
    have hv : isValidAt X signer input.validationTime = true := hpath.validAt _ mem_cons_self
    refine ⟨signer, hdec, hv, ne_nil_of_mem hpath.anchored, (hfound signer hdec).mpr ?_⟩
    exact (exists_trustedPath_iff _ hv).mp ⟨cs, anchor, hpath⟩

/-- **Chain building is sound and complete**: the validator reports `trusted`
exactly when the signer, a list of issuer candidates and a trust anchor form a
trusted path; and its loop ends, whatever cycles the pool contains. -/
theorem chainValidator_sound_complete (X : CertOracle Cert) (input : CertificateChainInput) :
    ((chainValidate X input).trusted = true ↔
      ∃ signer : SourceCertificate X, signer.der = input.signerCertificateDer ∧
        ∃ cs anchor, TrustedPath X input signer cs anchor) ∧
    ∀ (signer : Cert) (h : decodeCertificateDer X input.signerCertificateDer = some signer),
      (search X input signer h).isSome = true :=
  ⟨chainValidate_trusted_iff_path, search_isSome X input⟩

/-! ### The validation time -/

section Time

variable {X} {t t' : String}

section

variable (h : parseIso8601Time t = parseIso8601Time t')

include h

theorem isValidAt_congr_time (c : Cert) : isValidAt X c t = isValidAt X c t' := by
  rw [isValidAt, isValidAt, h]

theorem scanIssuers_congr_time (current : ChainNode X) :
    ∀ (cs : List (SourceCertificate X)) (st : SearchState X),
      scanIssuers X t current cs st = scanIssuers X t' current cs st := by
  intro cs
  induction cs with
  | nil => intro st; rfl
  | cons issuer rest ih =>
    intro st
    simp only [scanIssuers, isValidAt_congr_time h, ih]

theorem searchStep_congr_time
    (candidates anchors : List (SourceCertificate X)) (st : SearchState X) :
    searchStep X t candidates anchors st = searchStep X t' candidates anchors st := by
  simp only [searchStep, matchAnchor, isValidAt_congr_time h, scanIssuers_congr_time h]

theorem searchLoop_congr_time (candidates anchors : List (SourceCertificate X)) :
    ∀ (n : Nat) (st : SearchState X),
      searchLoop X t candidates anchors n st = searchLoop X t' candidates anchors n st := by
  intro n
  induction n with
  | zero => intro st; rfl
  | succ n ih =>
    intro st
    simp only [searchLoop, searchStep_congr_time h, ih]

end

theorem chainValidate_congr_time {input : CertificateChainInput}
    (h : parseIso8601Time t = parseIso8601Time t') :
    chainValidate X { input with validationTime := t }
      = chainValidate X { input with validationTime := t' } := by
  have hsearch : ∀ (signer : Cert)
      (hd : decodeCertificateDer X input.signerCertificateDer = some signer),
      search X { input with validationTime := t } signer hd
        = search X { input with validationTime := t' } signer hd := by
    intro signer hd
    exact searchLoop_congr_time h _ _ _ _
  unfold chainValidate
  simp only [isValidAt_congr_time h, hsearch]
  rfl

end Time

end Tamga.Policy
