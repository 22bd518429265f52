/-
Names along the chain that `CertificateChainValidator::Validate` accepts.

Every node of the validator's queue carries the path by which it was reached;
the path of the node that meets an anchor, closed by that anchor, is the chain
the call has accepted.  `trails` follows those paths beside the queue of
`searchStep`, so nothing of the search itself is repeated here.

* `acceptedChain_isSome` — there is an accepted chain exactly when the verdict
  is `trusted`;
* `acceptedChain_linked` — its links are those the signatures make, between
  certificates inside their validity windows;
* `name_chaining_iff` — over a population of certificates the accepted chains
  are chained by name exactly when no key of the population verifies a
  certificate that names another issuer.
-/
import Tamga.CertificateChain

namespace Tamga.Policy

open List

variable {Cert Name : Type}

/-- The two names of a certificate, up to `asn_equals`. -/
structure CertNames (Cert Name : Type) where
  issuer : Cert → Name
  subject : Cert → Name

/-- Each certificate names the next one as its issuer. -/
def NameChained (N : CertNames Cert Name) (chain : List Cert) : Prop :=
  chain.IsChain fun lower upper => N.issuer lower = N.subject upper

/-! ### The issuer search of the timestamp engine -/

/-- The search with the names of the certificates. -/
def findVerifiedIssuer [DecidableEq Name] (X : CertOracle Cert) (N : CertNames Cert Name) :
    Der → List Der → Der :=
  findVerifiedIssuerImpl X fun tsa issuer => decide (N.issuer tsa = N.subject issuer)

variable {X : CertOracle Cert} {input : CertificateChainInput}

/-! ### The path of each queued node -/

section Trails

variable {time : String} {candidates anchors : List (SourceCertificate X)}

/-- The paths of the queue after a round that removed its front node: those of
the nodes left, then the front path extended by each node the round queued. -/
def nextTrails (st st' : SearchState X) : List (List Cert) → List (List Cert)
  | [] => []
  | trail :: rest =>
    rest ++ (st'.queue.drop (st.queue.length - 1)).map fun n => trail ++ [n.certificate]

/-- `searchLoop` with the paths, returning the path of the node that meets an
anchor together with the anchor. -/
def chainLoop (X : CertOracle Cert) (time : String)
    (candidates anchors : List (SourceCertificate X)) :
    Nat → SearchState X → List (List Cert) → Option (List Cert)
  | 0, _, _ => none
  | n + 1, st, trails =>
    match searchStep X time candidates anchors st with
    | .inl st' => chainLoop X time candidates anchors n st' (nextTrails st st' trails)
    | .inr (.trusted _ anchor) => trails.head?.map (· ++ [anchor.certificate])
    | .inr (.exhausted _ _) => none

variable (X input) in
def acceptedChain : Option (List Cert) :=
  match h : decodeCertificateDer X input.signerCertificateDer with
  | none => none
  | some signer =>
    if isValidAt X signer input.validationTime then
      chainLoop X input.validationTime (issuerCandidates X input) (trustAnchors X input)
        ((issuerCandidates X input).length + 2)
        (initialState X signer input.signerCertificateDer h) [[signer]]
    else none

/-- A link the validator accepts: the upper key verifies the lower certificate,
both inside their validity windows, and both from the population `S`. -/
structure Link (X : CertOracle Cert) (time : String) (S : Der → Prop) (a b : Cert) : Prop where
  verified : X.verifyByIssuer a b = true
  lowerValid : isValidAt X a time = true
  upperValid : isValidAt X b time = true
  lowerFrom : ∃ der, S der ∧ decodeCertificateDer X der = some a
  upperFrom : ∃ der, S der ∧ decodeCertificateDer X der = some b

/-- What holds of the path of a queued node. -/
structure TrailTo (X : CertOracle Cert) (time : String) (S : Der → Prop) (trail : List Cert)
    (node : ChainNode X) : Prop where
  last : trail.getLast? = some node.certificate
  linked : trail.IsChain (Link X time S)
  valid : isValidAt X node.certificate time = true
  known : S node.der

theorem scanIssuers_extends (current : ChainNode X) : ∀ (cs : List (SourceCertificate X))
    (st : SearchState X), st.queue <+: (scanIssuers X time current cs st).queue := by
  intro cs
  induction cs with
  | nil => exact fun st => prefix_refl _
  | cons issuer rest ih =>
    intro st
    rw [scanIssuers]
    split_ifs
    · exact ih st
    · exact ih st
    · exact ih { st with foundExpiredIssuerPath := true }
    · exact ih st
    · refine List.IsPrefix.trans ?_ (ih _)
      exact prefix_append _ _

theorem scanIssuers_queue (current : ChainNode X) (cs : List (SourceCertificate X))
    (st : SearchState X) : ∃ new, (scanIssuers X time current cs st).queue = st.queue ++ new ∧
      ∀ n ∈ new, X.verifyByIssuer current.certificate n.certificate = true ∧
        isValidAt X n.certificate time = true ∧ ∃ c ∈ cs, c.der = n.der := by
  obtain ⟨new, hnew⟩ := @scanIssuers_extends _ X time current cs st
  refine ⟨new, hnew.symm, fun n hn => ?_⟩
  -- what the breadth-first search has queued
  have hqueue := congrArg BreadthFirst.State.queue (scanIssuers_toState X time cs [] current cs st)
  simp only [SearchState.toState, ← hnew, map_append, append_cancel_left_eq] at hqueue
  have hmem := mem_map_of_mem (f := fun m : ChainNode X => (m.der, m.depth)) hn
  rw [hqueue] at hmem
  obtain ⟨der, hder, heq⟩ := mem_map.mp hmem
  obtain ⟨hpool, hok, -⟩ := (BreadthFirst.mem_expand_fst _ _ _ _).mp hder
  obtain rfl : der = n.der := (Prod.mk.inj heq).1
  rw [edge_of_decoded current.decoded n.decoded, admits_of_decoded n.decoded] at hok
  simp only [Bool.and_eq_true] at hok
  exact ⟨hok.1, hok.2.1, mem_map.mp hpool⟩

theorem searchStep_inl_queue {st st' : SearchState X}
    (h : searchStep X time candidates anchors st = .inl st') :
    ∃ current rest new, st.queue = current :: rest ∧ st'.queue = rest ++ new ∧
      ∀ n ∈ new, X.verifyByIssuer current.certificate n.certificate = true ∧
        isValidAt X n.certificate time = true ∧ ∃ c ∈ candidates, c.der = n.der := by
  obtain ⟨queue, visited, found, expired⟩ := st
  rcases queue with _ | ⟨current, rest⟩
  · simp [searchStep] at h
  refine ⟨current, rest, ?_⟩
  simp only [searchStep] at h
  split at h
  · obtain rfl := Sum.inl.inj h
    exact ⟨[], rfl, (append_nil _).symm, by simp⟩
  cases hm : matchAnchor X time anchors current.certificate with
  | some anchor => simp [hm] at h
  | none =>
    simp only [hm] at h
    split at h
    · obtain rfl := Sum.inl.inj h
      exact ⟨[], rfl, (append_nil _).symm, by simp⟩
    · obtain rfl := Sum.inl.inj h
      obtain ⟨new, hnew, hall⟩ := scanIssuers_queue current candidates
        { queue := rest, visited := visited, foundIssuerPath := found,
          foundExpiredIssuerPath := expired }
      exact ⟨new, rfl, hnew, hall⟩

theorem searchStep_trusted {st : SearchState X} {node : ChainNode X} {anchor : SourceCertificate X}
    (h : searchStep X time candidates anchors st = .inr (.trusted node anchor)) :
    st.queue.head? = some node ∧ anchor ∈ anchors ∧
      isValidAt X anchor.certificate time = true ∧
      X.verifyByIssuer node.certificate anchor.certificate = true := by
  obtain ⟨queue, visited, found, expired⟩ := st
  rcases queue with _ | ⟨current, rest⟩
  · simp [searchStep] at h
  simp only [searchStep] at h
  split at h
  · simp at h
  cases hm : matchAnchor X time anchors current.certificate with
  | none =>
    simp only [hm] at h
    split at h <;> simp at h
  | some a =>
    simp only [hm, Sum.inr.injEq, SearchOutcome.trusted.injEq] at h
    obtain ⟨rfl, rfl⟩ := h
    have hp := List.find?_some hm
    rw [Bool.and_eq_true] at hp
    exact ⟨rfl, mem_of_find?_eq_some hm, hp.1, hp.2⟩

theorem TrailTo.link {S : Der → Prop} {trail : List Cert} {node : ChainNode X} {upper : Cert}
    (h : TrailTo X time S trail node) (hver : X.verifyByIssuer node.certificate upper = true)
    (hval : isValidAt X upper time = true)
    (hfrom : ∃ der, S der ∧ decodeCertificateDer X der = some upper) :
    (trail ++ [upper]).IsChain (Link X time S) := by
  refine isChain_append.mpr ⟨h.linked, .singleton _, ?_⟩
  intro a ha b hb
  rw [h.last, Option.mem_some_iff] at ha
  rw [List.head?_cons, Option.mem_some_iff] at hb
  subst ha hb
  exact ⟨hver, h.valid, hval, ⟨node.der, h.known, node.decoded⟩, hfrom⟩

theorem nextTrails_inv {S : Der → Prop} (hpool : ∀ c ∈ candidates, S c.der)
    {st st' : SearchState X} (hstep : searchStep X time candidates anchors st = .inl st')
    {trails : List (List Cert)} (h : List.Forall₂ (TrailTo X time S) trails st.queue) :
    List.Forall₂ (TrailTo X time S) (nextTrails st st' trails) st'.queue := by
  obtain ⟨current, rest, new, hq, hq', hall⟩ := searchStep_inl_queue hstep
  rw [hq] at h
  rcases h with _ | ⟨hcur, hrest⟩
  have hdrop : st'.queue.drop (st.queue.length - 1) = new := by
    rw [hq, hq', length_cons, Nat.add_sub_cancel, drop_left]
  rw [nextTrails, hdrop, hq']
  refine rel_append hrest ?_
  rw [forall₂_map_left_iff, forall₂_same]
  intro n hn
  obtain ⟨hver, hval, c, hc, hder⟩ := hall n hn
  have hknown : S n.der := hder ▸ hpool c hc
  exact ⟨by simp, hcur.link hver hval ⟨n.der, hknown, n.decoded⟩, hval, hknown⟩

theorem chainLoop_linked {S : Der → Prop} (hpool : ∀ c ∈ candidates, S c.der)
    (hanchor : ∀ a ∈ anchors, S a.der) :
    ∀ (n : Nat) (st : SearchState X) (trails : List (List Cert)) (chain : List Cert),
      List.Forall₂ (TrailTo X time S) trails st.queue →
      chainLoop X time candidates anchors n st trails = some chain →
      chain.IsChain (Link X time S) := by
  intro n
  induction n with
  | zero =>
    intro st trails chain _ h
    simp [chainLoop] at h
  | succ n ih =>
    intro st trails chain hinv h
    rw [chainLoop] at h
    cases hstep : searchStep X time candidates anchors st with
    | inl st' =>
      simp only [hstep] at h
      exact ih st' _ chain (nextTrails_inv hpool hstep hinv) h
    | inr o =>
      cases o with
      | exhausted found expired => simp [hstep] at h
      | trusted node anchor =>
        simp only [hstep, Option.map_eq_some_iff] at h
        obtain ⟨trail, htrail, rfl⟩ := h
        obtain ⟨hhead, hmem, hval, hver⟩ := searchStep_trusted hstep
        -- the front path belongs to the front node
        obtain ⟨rest, hq⟩ := List.head?_eq_some_iff.mp hhead
        rw [hq] at hinv
        rcases hinv with _ | ⟨hcur, -⟩
        rw [List.head?_cons, Option.some.injEq] at htrail
        subst htrail
        exact hcur.link hver hval ⟨anchor.der, hanchor anchor hmem, anchor.decoded⟩

theorem chainLoop_isSome : ∀ (n : Nat) (st : SearchState X) (trails : List (List Cert)),
      trails.length = st.queue.length →
      ((chainLoop X time candidates anchors n st trails).isSome = true ↔
        ∃ node anchor, searchLoop X time candidates anchors n st = some (.trusted node anchor)) := by
  intro n
  induction n with
  | zero =>
    intro st trails _
    simp [chainLoop, searchLoop]
  | succ n ih =>
    intro st trails hlen
    rw [chainLoop, searchLoop]
    cases hstep : searchStep X time candidates anchors st with
    | inl st' =>
      obtain ⟨current, rest, new, hq, hq', -⟩ := searchStep_inl_queue hstep
      refine ih st' _ ?_
      rcases trails with _ | ⟨trail, trails⟩
      · simp [hq] at hlen
      · have : trails.length = rest.length := by simpa [hq] using hlen
        simp [nextTrails, hq, hq', this]
    | inr o =>
      cases o with
      | exhausted found expired => simp
      | trusted node anchor =>
        obtain ⟨hhead, -⟩ := searchStep_trusted hstep
        rcases trails with _ | ⟨trail, trails⟩
        · have : st.queue = [] := eq_nil_of_length_eq_zero hlen.symm
          simp [this] at hhead
        · simp

end Trails

/-! ### The accepted chain -/

variable (X input) in
theorem acceptedChain_isSome :
    (acceptedChain X input).isSome = true ↔ (chainValidate X input).trusted = true := by
  rw [chainValidate_trusted, acceptedChain]
  split
  next hd => simp [hd]
  next signer hd =>
    have hiff := @chainLoop_isSome _ X input.validationTime (issuerCandidates X input)
      (trustAnchors X input) ((issuerCandidates X input).length + 2)
      (initialState X signer input.signerCertificateDer hd) [[signer]] rfl
    by_cases hv : isValidAt X signer input.validationTime = true
    swap
    · rw [if_neg hv]
      refine iff_of_false (by simp) ?_
      rintro ⟨signer', hd', hv', -⟩
      obtain rfl : signer = signer' := Option.some.inj (hd.symm.trans hd')
      exact hv hv'
    rw [if_pos hv, hiff]
    constructor
    · rintro ⟨node, anchor, hrun⟩
      refine ⟨signer, hd, hv, ?_, _, hrun, rfl⟩
      -- an anchor was met, so there is one
      intro hnil
      obtain ⟨cs, a, hpath⟩ : ∃ cs anchor, TrustedPath X input ⟨signer, _, "signer", hd⟩ cs anchor := by
        rw [exists_trustedPath_iff _ hv,
          ← BreadthFirst.run_found_iff (chainProblem_monotone X _ _ _) input.signerCertificateDer,
          ← search_simulates X input signer hd]
        exact ⟨node.der, node.depth, by rw [show search X input signer hd = _ from hrun]; rfl⟩
      exact ne_nil_of_mem hpath.anchored hnil
    · rintro ⟨signer', hd', -, -, o, ho, htrusted⟩
      obtain rfl : signer = signer' := Option.some.inj (hd.symm.trans hd')
      cases o with
      | exhausted found expired =>
        cases found <;> cases expired <;> simp [outcomeResult] at htrusted
      | trusted node anchor => exact ⟨node, anchor, ho⟩

/-- The certificates of a call all come from the population `S`. -/
structure CertificateChainInput.Within (input : CertificateChainInput) (S : Der → Prop) : Prop where
  signer : S input.signerCertificateDer
  embedded : ∀ der ∈ input.embeddedCertificatesDer, S der
  intermediate : ∀ der ∈ input.intermediateCertificatesDer, S der
  aia : ∀ der ∈ input.aiaCertificatesDer, S der
  anchors : ∀ der ∈ input.trustAnchorsDer, S der

theorem decodeGroup_der (X : CertOracle Cert) (source : String) (ders : List Der) :
    ∀ c ∈ decodeGroup X source ders, c.der ∈ ders := by
  induction ders with
  | nil => simp [decodeGroup]
  | cons der rest ih =>
    intro c hc
    rw [decodeGroup] at hc
    split at hc
    · rcases mem_cons.mp hc with rfl | hc
      · exact mem_cons_self
      · exact mem_cons_of_mem _ (ih c hc)
    · exact mem_cons_of_mem _ (ih c hc)

theorem issuerCandidates_within {S : Der → Prop} (h : input.Within S) :
    ∀ c ∈ issuerCandidates X input, S c.der := by
  intro c hc
  have hc := mem_of_mem_take hc
  simp only [decodeSourceCandidates, flatMap_cons, flatMap_nil, append_nil,
    mem_append] at hc
  rcases hc with hc | hc | hc
  · exact h.embedded _ (decodeGroup_der X _ _ c hc)
  · exact h.intermediate _ (decodeGroup_der X _ _ c hc)
  · exact h.aia _ (decodeGroup_der X _ _ c hc)

theorem trustAnchors_within {S : Der → Prop} (h : input.Within S) :
    ∀ c ∈ trustAnchors X input, S c.der := by
  intro c hc
  simp only [trustAnchors, decodeSourceCandidates, flatMap_cons, flatMap_nil,
    append_nil] at hc
  exact h.anchors _ (decodeGroup_der X _ _ c hc)

theorem acceptedChain_linked {S : Der → Prop} (hin : input.Within S) {chain : List Cert}
    (h : acceptedChain X input = some chain) : chain.IsChain (Link X input.validationTime S) := by
  rw [acceptedChain] at h
  split at h
  · simp at h
  next signer hd =>
    by_cases hv : isValidAt X signer input.validationTime = true
    · rw [if_pos hv] at h
      refine chainLoop_linked (issuerCandidates_within hin) (trustAnchors_within hin) _ _ _ _ ?_ h
      exact .cons ⟨rfl, .singleton _, hv, hin.signer⟩ .nil
    · rw [if_neg hv] at h
      simp at h

def pairInput (signer anchor : Der) (time : String) : CertificateChainInput :=
  { signerCertificateDer := signer, trustAnchorsDer := [anchor], validationTime := time }

theorem acceptedChain_pair {time : String} {derA derB : Der} {a b : Cert}
    (ha : decodeCertificateDer X derA = some a) (hb : decodeCertificateDer X derB = some b)
    (hva : isValidAt X a time = true) (hvb : isValidAt X b time = true)
    (hver : X.verifyByIssuer a b = true) :
    acceptedChain X (pairInput derA derB time) = some [a, b] := by
  have hanchors : decodeGroup X "trust-store" [derB] = [⟨b, derB, "trust-store", hb⟩] := by
    simp only [decodeGroup]
    split
    next c hc =>
      obtain rfl : c = b := Option.some.inj (hc.symm.trans hb)
      rfl
    next hc => simp [hb] at hc
  have htrust : trustAnchors X (pairInput derA derB time) = [⟨b, derB, "trust-store", hb⟩] := by
    simp [trustAnchors, decodeSourceCandidates, pairInput, hanchors]
  rw [acceptedChain, htrust]
  split
  next hd => simp [pairInput, ha] at hd
  next signer hd =>
    obtain rfl : signer = a := Option.some.inj (hd.symm.trans ha)
    rw [if_pos (show isValidAt X signer (pairInput derA derB time).validationTime = true from hva)]
    simp [chainLoop, searchStep, initialState, matchAnchor, pairInput, hvb, hver]

/-- **Name chaining.**  Every chain the validator accepts over a population is chained by name
exactly when no key of the population verifies, at a time when both certificates are valid, a
certificate that asks for an issuer of another name. -/
theorem name_chaining_iff (X : CertOracle Cert) (N : CertNames Cert Name) (S : Der → Prop) :
    (∀ input : CertificateChainInput, input.Within S → (chainValidate X input).trusted = true →
        ∃ chain, acceptedChain X input = some chain ∧ NameChained N chain) ↔
      ∀ derA derB a b time, S derA → S derB →
        decodeCertificateDer X derA = some a → decodeCertificateDer X derB = some b →
        isValidAt X a time = true → isValidAt X b time = true →
        X.verifyByIssuer a b = true → N.issuer a = N.subject b := by
  constructor
  · intro h derA derB a b time hA hB ha hb hva hvb hver
    have hin : (pairInput derA derB time).Within S :=
      ⟨hA, by simp [pairInput], by simp [pairInput], by simp [pairInput], by simpa [pairInput] using hB⟩
    have hpair := acceptedChain_pair ha hb hva hvb hver
    obtain ⟨chain, hchain, hnames⟩ :=
      h _ hin ((acceptedChain_isSome X _).mp (by rw [hpair]; rfl))
    obtain rfl : chain = [a, b] := Option.some.inj (hchain.symm.trans hpair)
    rw [NameChained, isChain_pair] at hnames
    exact hnames
  · intro h input hin htrusted
    obtain ⟨chain, hchain⟩ := Option.isSome_iff_exists.mp ((acceptedChain_isSome X input).mpr htrusted)
    refine ⟨chain, hchain, (acceptedChain_linked hin hchain).imp ?_⟩
    intro a b hlink
    obtain ⟨derA, hA, ha⟩ := hlink.lowerFrom
    obtain ⟨derB, hB, hb⟩ := hlink.upperFrom
    exact h derA derB a b input.validationTime hA hB ha hb hlink.lowerValid hlink.upperValid
      hlink.verified

/-- Two certificates, one byte each: the key of the second verifies the first,
which names another issuer. -/
def renamedCa : CertOracle Nat where
  certDecode der := der.head?.map UInt8.toNat
  verifyByIssuer a b := a == 1 && b == 2
  checkValidityWithDate _ _ := true
  readIssuerBasicConstraints _ := {}
  issuerHasKeyCertSign _ := true
  now := 0

def renamedCaNames : CertNames Nat String where
  issuer c := if c = 1 then "CN=CA" else "CN=Other CA"
  subject c := if c = 1 then "CN=Signer" else "CN=Other CA"

/-- A signer issued by `CN=CA` is trusted through an anchor named `CN=Other CA`
that holds the same key; the timestamp engine finds no issuer for it. -/
theorem renamed_anchor_trusted : (chainValidate renamedCa (pairInput [1] [2] "")).trusted = true ∧
    acceptedChain renamedCa (pairInput [1] [2] "") = some [1, 2] ∧
    renamedCaNames.issuer 1 ≠ renamedCaNames.subject 2 ∧
    findVerifiedIssuer renamedCa renamedCaNames [1] [[2]] = [] := by
  decide +kernel

end Tamga.Policy
