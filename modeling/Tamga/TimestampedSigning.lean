/-
Signing with a timestamp (`Session::SignData`, `Session::SignDataInternal`,
`TspClient::GetTimestamp`, `ResolveTspImprint`, `AppendTspToken`).

The client sends a request for the imprint of the signature value and puts the token of
the answer into the signature.  It looks at the status of the answer, but not at the
imprint and the nonce of the token.

A `SignedData` and a token are taken decoded; their DER forms are the business of the
cryptonite library, whose calls may all fail.

* `signWithTimestamp_required` — what a required timestamp rests on;
* `required_timestamp_iff` — the token is for this signature in every session exactly if
  the server answers every request with a token for it.
-/
import Tamga.VerifyReport
import Tamga.XmlReference

namespace Tamga.Session

open XmlDsig List

/-! ### Requests, answers and tokens -/

/-- A `TimeStampToken`: the message imprint, the nonce, and the rest. -/
structure TimeStampToken where
  digestOid : String
  imprint : Bytes
  nonce : Option Nat := none
  contents : Bytes := []
  deriving DecidableEq, Repr

structure TimeStampReq where
  digestOid : String
  hashedMessage : Bytes
  policyOid : String
  nonce : Option Nat
  certReq : Bool
  deriving DecidableEq, Repr

/-- A `TimeStampResp`: the status, if it is a number, and the token. -/
structure TimeStampResp where
  status : Except Int Int
  token : Option TimeStampToken

/-- The fields of `HttpPostResult` that the client reads. -/
structure HttpPostResult where
  succeeded : Bool
  statusCode : Int := 200
  message : String := ""
  body : Bytes := []

/-- A timestamp server: its answer at an address to a request, in the given time. -/
abbrev TimestampServer := String → TimeStampReq → Int → HttpPostResult

/-- What the client can do with any answer: decode it, and compute digests. -/
structure TspLibrary where
  /-- `tsresp_decode`, with the code of a failure. -/
  tsrespDecode : Bytes → Except Int TimeStampResp
  /-- `ComputeImprint`. -/
  computeImprint : ImprintDigest → Bytes → Except String Bytes

/-- How the calls of the cryptonite library turn out in a session: the code of each by its stage,
each allocation by its error text, and the nonce of a request. -/
structure LibraryCalls where
  rc : String → Int := fun _ => 0
  allocated : String → Bool := fun _ => true
  oidKnown : String → Bool := fun _ => true
  noSignersRc : Int := 1
  nonce : Option Nat := none

/-! ### `TspClient::GetTimestamp` -/

def buildTspRcError (action : String) (rc : Int) : String :=
  action ++ " failed with code " ++ toString rc

variable (calls : LibraryCalls)

/-- A call of the client whose code is not `RET_OK` ends it. -/
def tspCall (action : String) : Except String Unit :=
  require (calls.rc action = 0) (buildTspRcError action (calls.rc action))

def allocate (message : String) : Except String Unit :=
  require (calls.allocated message = true) message

def timestampRequest (digestOid : String) (hash : Bytes) (policyOid : String) : TimeStampReq where
  digestOid := digestOid
  hashedMessage := hash
  policyOid := if policyOid = "" then "1.2.804.2.1.1.1.2.3.1" else policyOid
  nonce := calls.nonce
  certReq := true

/-- Steps 1 to 5: the request in its encoded form. -/
def generateRequest (digestOid : String) (hash : Bytes)
    (policyOid : String) : Except String TimeStampReq := do
  allocate calls "Unable to allocate AlgorithmIdentifier"
  require (calls.oidKnown digestOid = true) ("Unsupported hash algorithm OID: " ++ digestOid)
  tspCall calls "setting hash OID"
  allocate calls "Unable to allocate ByteArray for hash"
  tspCall calls "creating policy OID"
  tspCall calls "generating TSP request"
  tspCall calls "encoding TSP request"
  .ok (timestampRequest calls digestOid hash policyOid)

variable (lib : TspLibrary) (server : TimestampServer)

def decodedAnswer (body : Bytes) : Except String TimeStampResp :=
  match lib.tsrespDecode body with
  | .error rc => .error (buildTspRcError "decoding TSP response" rc)
  | .ok response => .ok response

def pkiStatus (response : TimeStampResp) : Except String Int :=
  match response.status with
  | .error rc => .error (buildTspRcError "extracting PKI status" rc)
  | .ok status => .ok status

def getTimestamp (calls : LibraryCalls) (hash : Bytes) (digestOid url : String) (timeoutMs : Int)
    (policyOid : String) :
    Except String TimeStampToken := do
  let request ← generateRequest calls digestOid hash policyOid
  let answer := server url request timeoutMs
  require (answer.succeeded = true) ("HTTP POST to TSP server failed: " ++ answer.message ++
    " (status: " ++ toString answer.statusCode ++ ")")
  require (answer.body ≠ []) "TSP server returned empty response"
  allocate calls "Unable to allocate ByteArray for TSP response"
  allocate calls "Unable to allocate TimeStampResp struct"
  let response ← decodedAnswer lib answer.body
  let status ← pkiStatus response
  require (status = 0 ∨ status = 1)
    ("TSP server rejected request with PKI status " ++ toString status)
  tspCall calls "extracting TimeStampToken from response"
  let token ← orError response.token (buildTspRcError "extracting TimeStampToken from response" 0)
  tspCall calls "encoding TimeStampToken"
  .ok token

/-! ### The signature -/

/-- A `SignerInfo`: the fields that are read, and the timestamp tokens among its unsigned
attributes. -/
structure SignerInfo where
  signature : Bytes
  digestAlgorithm : String
  timestampTokens : List TimeStampToken := []
  deriving DecidableEq, Repr

structure SignedData where
  signerInfos : List SignerInfo
  content : Option Bytes := none
  deriving DecidableEq, Repr

def buildRcError (stage : String) (rc : Int) : String :=
  stage ++ " failed (cryptonite rc=" ++ toString rc ++ ")"

def cmsCall (stage : String) : Except String Unit :=
  require (calls.rc stage = 0) (buildRcError stage (calls.rc stage))

def firstSigner (function lookup : String) (cms : SignedData) : Except String SignerInfo := do
  allocate calls (function ++ ": unable to allocate ByteArray for CMS input")
  allocate calls (function ++ ": unable to allocate ContentInfo")
  cmsCall calls (function ++ ": ContentInfo decode")
  cmsCall calls (function ++ ": cinfo_get_signed_data")
  cmsCall calls (function ++ ": " ++ lookup)
  orError cms.signerInfos.head? (buildRcError (function ++ ": " ++ lookup) calls.noSignersRc)

def getSignatureValue (cms : SignedData) : Except String Bytes := do
  let signer ← firstSigner calls "GetSignatureValue" "sdata_get_signer_info_by_idx" cms
  require (signer.signature ≠ []) "GetSignatureValue: signature field is empty"
  .ok signer.signature

def getSignerDigestAlgorithmOid (cms : SignedData) : Except String String := do
  let signer ← firstSigner calls "GetSignerDigestAlgorithmOid" "sdata_get_signer_info_by_idx" cms
  require (signer.digestAlgorithm ≠ "")
    "GetSignerDigestAlgorithmOid: sinfo digestAlgorithm OID is empty"
  .ok signer.digestAlgorithm

/-- The SignedData with a token added to its first signer. -/
def SignedData.addToken (cms : SignedData) (token : TimeStampToken) : SignedData :=
  match cms.signerInfos with
  | [] => cms
  | signer :: rest =>
    { cms with signerInfos :=
        { signer with timestampTokens := signer.timestampTokens ++ [token] } :: rest }

def hasSignatureTimestampToken (cms : SignedData) : Except String Bool := do
  let signer ← firstSigner calls "HasSignatureTimestampToken" "sdata_get_signer_info_by_idx" cms
  cmsCall calls "HasSignatureTimestampToken: creating TSP OID"
  .ok (calls.rc "sinfo_get_unsigned_attr_by_oid" = 0 ∧ signer.timestampTokens ≠ [] : Bool)

/-- The check at the end of `AppendTspToken`. -/
def requireToken (cms : SignedData) : Except String Unit :=
  match hasSignatureTimestampToken calls cms with
  | .ok true => .ok ()
  | .ok false =>
    .error "AppendTspToken: encoded CMS does not contain id-aa-signatureTimeStampToken"
  | .error e =>
    .error ("AppendTspToken: encoded CMS does not contain id-aa-signatureTimeStampToken: " ++ e)

def appendTspToken (cms : SignedData) (token : TimeStampToken) : Except String SignedData := do
  let _ ← firstSigner calls "AppendTspToken" "sdata_get_signer_infos" cms
  allocate calls "AppendTspToken: unable to allocate Attribute for TSP"
  cmsCall calls "AppendTspToken: setting TSP OID"
  allocate calls "AppendTspToken: unable to allocate ANY for TSP token"
  allocate calls "AppendTspToken: unable to allocate ANY buffer"
  cmsCall calls "AppendTspToken: ASN_SET_ADD for TSP ANY"
  cmsCall calls "AppendTspToken: sinfo_add_unsigned_attr"
  cmsCall calls "AppendTspToken: sdata_set_signer_infos"
  allocate calls "AppendTspToken: unable to allocate output ContentInfo"
  cmsCall calls "AppendTspToken: cinfo_init_by_signed_data"
  cmsCall calls "AppendTspToken: cinfo_encode"
  requireToken calls (cms.addToken token)
  .ok (cms.addToken token)

/-! ### Signing -/

structure TspSettings where
  url : String := ""
  policyOid : String := ""
  timeoutMs : Int := 10000
  imprintDigestOid : String := ""
  deriving DecidableEq, Repr

/-- The hash of a request and the algorithm that it names. -/
structure ImprintResult where
  hash : Bytes
  digestOid : String
  deriving DecidableEq, Repr

/-- The algorithm of the imprint: the configured one, else that of the signer, else
Kupyna. -/
def resolvedImprintDigest (tsp : TspSettings) (cms : SignedData) : Except String ImprintDigest :=
  if tsp.imprintDigestOid ≠ "" ∧ tsp.imprintDigestOid ≠ "auto" then
    orError (imprintFromDigestOid tsp.imprintDigestOid)
      ("ResolveTspImprint: configured imprint digest OID '" ++ tsp.imprintDigestOid ++
        "' is unsupported")
  else
    match getSignerDigestAlgorithmOid calls cms with
    | .error _ => .ok .kupyna256
    | .ok oid => .ok ((imprintFromDigestOid oid).getD .kupyna256)

def resolveTspImprint (calls : LibraryCalls) (tsp : TspSettings) (dataToStamp : Bytes)
    (cms : SignedData) : Except String ImprintResult := do
  let alg ← resolvedImprintDigest calls tsp cms
  let hash ← lib.computeImprint alg dataToStamp
  .ok ⟨hash, imprintDigestOid alg⟩

inductive TimestampMode where
  | disabled
  | bestEffort
  | required
  deriving DecidableEq, Repr

/-- A session that signs.  `sign` is `SignDetached` for `SignData` and `SignAttached` for
`SignDataInternal`. -/
structure TspSession where
  initialized : Bool := true
  privateKeyLoaded : Bool := true
  tsp : TspSettings := {}
  offlineMode : Bool := false
  sign : Bytes → Except String SignedData
  /-- `ResolveDefaultTspUrlCombined` for the certificate of the key. -/
  defaultTspUrl : String := ""
  calls : LibraryCalls := {}

/-- What a call returns, what it leaves in its output (`none` for the empty vector), the
last error, and the address that is kept in the settings. -/
structure SignOutcome where
  executed : Bool
  signature : Option SignedData
  errorCode : ErrorCode := .none
  errorMessage : String := ""
  tspUrl : String := ""

variable (s : TspSession)

def timestampSignature (url : String) (cms : SignedData) : Except String SignedData := do
  let value ← labelled "TSP: GetSignatureValue failed: " (getSignatureValue s.calls cms)
  let imprint ← labelled "TSP: ResolveTspImprint failed: "
    (resolveTspImprint lib s.calls s.tsp value cms)
  let token ← labelled ("TSP [" ++ url ++ "]: ") (getTimestamp lib server s.calls imprint.hash
    imprint.digestOid url s.tsp.timeoutMs s.tsp.policyOid)
  labelled ("TSP [" ++ url ++ "]: AppendTspToken failed: ") (appendTspToken s.calls cms token)

def TspSession.tspUrl : String :=
  if s.tsp.url = "" then s.defaultTspUrl else s.tsp.url

/-- The address that the session keeps afterwards. -/
def TspSession.keptUrl : String :=
  if s.tspUrl ≠ "" ∧ s.offlineMode = false then s.tspUrl else s.tsp.url

/-- `SignData` and `SignDataInternal` after the signature was made. -/
def finishSigning (mode : TimestampMode) (cms : SignedData) : SignOutcome :=
  if mode = .disabled then { executed := true, signature := some cms, tspUrl := s.tsp.url }
  else if s.tspUrl ≠ "" ∧ s.offlineMode = false then
    match timestampSignature lib server s s.tspUrl cms with
    | .ok stamped => { executed := true, signature := some stamped, tspUrl := s.keptUrl }
    | .error e =>
      if mode = .required then ⟨false, none, .onlineServiceUnavailable, e, s.keptUrl⟩
      else { executed := true, signature := some cms, tspUrl := s.keptUrl }
  else if mode = .required then
    ⟨false, none, .onlineServiceUnavailable,
      if s.offlineMode then "TSP unavailable in offline mode" else "TSP URL is not configured",
      s.keptUrl⟩
  else { executed := true, signature := some cms, tspUrl := s.keptUrl }

/-- `SignData` and `SignDataInternal`. -/
def signWithTimestamp (mode : TimestampMode) (data : Bytes) : SignOutcome :=
  if s.initialized = false then
    ⟨false, none, .notInitialized, "Session is not initialized", s.tsp.url⟩
  else if s.privateKeyLoaded = false then
    ⟨false, none, .keyNotLoaded, "Private key is not loaded", s.tsp.url⟩
  else
    match s.sign data with
    | .error e => ⟨false, none, .internalError, e, s.tsp.url⟩
    | .ok cms => finishSigning lib server s mode cms

/-! ### What is asked of a required timestamp -/

/-- An answer that is granted and carries a token. -/
def Grants (answer : HttpPostResult) (token : TimeStampToken) : Prop :=
  answer.succeeded = true ∧ answer.body ≠ [] ∧ ∃ response, lib.tsrespDecode answer.body = .ok response ∧
    (response.status = .ok 0 ∨ response.status = .ok 1) ∧ response.token = some token

/-- The client checks of RFC 3161: the token has the imprint of the request, under its
algorithm, and the nonce that was sent. -/
def TimeStampToken.Answers (token : TimeStampToken) (request : TimeStampReq) : Prop :=
  token.digestOid = request.digestOid ∧ token.imprint = request.hashedMessage ∧
    ∀ n, request.nonce = some n → token.nonce = some n

/-- The signature carries a token for the requested imprint of its own value. -/
def Stamped (cms : SignedData) : Prop :=
  ∃ signer token imprint, cms.signerInfos.head? = some signer ∧ token ∈ signer.timestampTokens ∧
    resolveTspImprint lib s.calls s.tsp signer.signature cms = .ok imprint ∧
    token.Answers (timestampRequest s.calls imprint.digestOid imprint.hash s.tsp.policyOid)

/-- A call that requires a timestamp returns such a signature, or fails with an empty
output. -/
def TimestampIsOurs (data : Bytes) : Prop :=
  let outcome := signWithTimestamp lib server s .required data
  (outcome.executed = true → ∃ cms, outcome.signature = some cms ∧ Stamped lib s cms) ∧
    (outcome.executed = false → outcome.signature = none)

/-- A request that a session can send: for the imprint of a signature value. -/
def Sendable (request : TimeStampReq) : Prop :=
  request.certReq = true ∧ request.policyOid ≠ "" ∧ ∃ alg value, value ≠ [] ∧
    request.digestOid = imprintDigestOid alg ∧
    lib.computeImprint alg value = .ok request.hashedMessage

/-- Whenever the server grants a request, the token is for the request. -/
def AnswersRequests : Prop :=
  ∀ url request timeoutMs token, url ≠ "" → Sendable lib request →
    Grants lib (server url request timeoutMs) token → token.Answers request

/-! ### A timestamp that is for this signature -/

section Required

variable {lib server calls s}

theorem generateRequest_eq {digestOid policyOid : String} {hash : Bytes} {request : TimeStampReq}
    (h : generateRequest calls digestOid hash policyOid = .ok request) :
    request = timestampRequest calls digestOid hash policyOid := by
  simp only [generateRequest, bind_eq_ok] at h
  obtain ⟨_, -, _, -, _, -, _, -, _, -, _, -, _, -, hrequest⟩ := h
  exact (Except.ok.inj hrequest).symm

theorem getTimestamp_granted {hash : Bytes} {digestOid url policyOid : String} {timeoutMs : Int}
    {token : TimeStampToken}
    (h : getTimestamp lib server calls hash digestOid url timeoutMs policyOid = .ok token) :
    Grants lib (server url (timestampRequest calls digestOid hash policyOid) timeoutMs) token := by
  simp only [getTimestamp, bind_eq_ok, require_eq_ok, orError_eq_ok, exists_const] at h
  obtain ⟨request, hrequest, hsent, hbody, _, -, _, -, response, hdecode, status, hstatus, hgranted,
    _, -, token', htoken, _, -, hresult⟩ := h
  obtain rfl := Except.ok.inj hresult
  obtain rfl := generateRequest_eq hrequest
  refine ⟨hsent, hbody, response, ?_, ?_, htoken⟩
  · rw [decodedAnswer] at hdecode
    split at hdecode
    · cases hdecode
    · next response' hdecoded => rw [hdecoded, Except.ok.inj hdecode]
  · rw [pkiStatus] at hstatus
    split at hstatus
    · cases hstatus
    · next status' hnumber =>
      rw [hnumber, Except.ok.inj hstatus]
      exact hgranted.imp (congrArg _) (congrArg _)

variable {cms : SignedData}

theorem firstSigner_head {function lookup : String} {signer : SignerInfo}
    (h : firstSigner calls function lookup cms = .ok signer) :
    cms.signerInfos.head? = some signer := by
  simp only [firstSigner, bind_eq_ok, orError_eq_ok] at h
  obtain ⟨_, -, _, -, _, -, _, -, _, -, hhead⟩ := h
  exact hhead

theorem getSignatureValue_head {value : Bytes} (h : getSignatureValue calls cms = .ok value) :
    ∃ signer, cms.signerInfos.head? = some signer ∧ signer.signature = value ∧ value ≠ [] := by
  simp only [getSignatureValue, bind_eq_ok, require_eq_ok, exists_const] at h
  obtain ⟨signer, hsigner, hne, hvalue⟩ := h
  obtain rfl := Except.ok.inj hvalue
  exact ⟨signer, firstSigner_head hsigner, rfl, hne⟩

theorem appendTspToken_eq {out : SignedData} {token : TimeStampToken}
    (h : appendTspToken calls cms token = .ok out) : out = cms.addToken token := by
  simp only [appendTspToken, bind_eq_ok] at h
  obtain ⟨_, -, _, -, _, -, _, -, _, -, _, -, _, -, _, -, _, -, _, -, _, -, _, -, hout⟩ := h
  exact (Except.ok.inj hout).symm

theorem addToken_head {signer : SignerInfo} (token : TimeStampToken)
    (h : cms.signerInfos.head? = some signer) :
    (cms.addToken token).signerInfos.head? =
      some { signer with timestampTokens := signer.timestampTokens ++ [token] } := by
  rw [SignedData.addToken]
  cases hinfos : cms.signerInfos with
  | nil =>
    rw [hinfos] at h
    cases h
  | cons first rest =>
    rw [hinfos, List.head?_cons, Option.some.injEq] at h
    rw [h]
    rfl

theorem getSignerDigestAlgorithmOid_addToken (cms : SignedData) (token : TimeStampToken) :
    getSignerDigestAlgorithmOid calls (cms.addToken token) =
      getSignerDigestAlgorithmOid calls cms := by
  obtain ⟨infos, content⟩ := cms
  cases infos with
  | nil => rfl
  | cons signer rest =>
    simp only [getSignerDigestAlgorithmOid, firstSigner, SignedData.addToken, List.head?_cons,
      orError, bind_assoc]
    rfl

theorem resolveTspImprint_addToken (tsp : TspSettings) (value : Bytes) (cms : SignedData)
    (token : TimeStampToken) :
    resolveTspImprint lib calls tsp value (cms.addToken token) =
      resolveTspImprint lib calls tsp value cms := by
  rw [resolveTspImprint, resolveTspImprint, resolvedImprintDigest, resolvedImprintDigest,
    getSignerDigestAlgorithmOid_addToken]

theorem resolveTspImprint_eq {tsp : TspSettings} {value : Bytes} {imprint : ImprintResult}
    (h : resolveTspImprint lib calls tsp value cms = .ok imprint) :
    ∃ alg, imprint.digestOid = imprintDigestOid alg ∧
      lib.computeImprint alg value = .ok imprint.hash := by
  simp only [resolveTspImprint, bind_eq_ok] at h
  obtain ⟨alg, -, hash, hhash, himprint⟩ := h
  obtain rfl := Except.ok.inj himprint
  exact ⟨alg, rfl, hhash⟩

/-- A stamped signature is the one that was made, with a token that was granted for the
imprint of its value. -/
theorem timestampSignature_granted {url : String} {out : SignedData}
    (h : timestampSignature lib server s url cms = .ok out) :
    ∃ signer imprint token, cms.signerInfos.head? = some signer ∧ signer.signature ≠ [] ∧
      resolveTspImprint lib s.calls s.tsp signer.signature cms = .ok imprint ∧
      Grants lib (server url (timestampRequest s.calls imprint.digestOid imprint.hash
        s.tsp.policyOid) s.tsp.timeoutMs) token ∧ out = cms.addToken token := by
  simp only [timestampSignature, bind_eq_ok, labelled_eq_ok] at h
  obtain ⟨value, hvalue, imprint, himprint, token, htoken, hout⟩ := h
  obtain ⟨signer, hsigner, rfl, hne⟩ := getSignatureValue_head hvalue
  exact ⟨signer, imprint, token, hsigner, hne, himprint, getTimestamp_granted htoken,
    appendTspToken_eq hout⟩

theorem sendable_timestampRequest {alg : ImprintDigest} {value hash : Bytes} (policyOid : String)
    (hvalue : value ≠ []) (hhash : lib.computeImprint alg value = .ok hash) :
    Sendable lib (timestampRequest calls (imprintDigestOid alg) hash policyOid) := by
  refine ⟨rfl, ?_, alg, value, hvalue, rfl, hhash⟩
  show (if policyOid = "" then "1.2.804.2.1.1.1.2.3.1" else policyOid) ≠ ""
  split
  · decide
  · assumption

/-- The server is believed: a stamped signature carries a token for its own value if the
server answers requests with tokens for them. -/
theorem stamped_of_answersRequests (hserver : AnswersRequests lib server) {url : String}
    (hurl : url ≠ "") {out : SignedData} (h : timestampSignature lib server s url cms = .ok out) :
    Stamped lib s out := by
  obtain ⟨signer, imprint, token, hsigner, hne, himprint, hgranted, rfl⟩ :=
    timestampSignature_granted h
  obtain ⟨alg, hoid, hhash⟩ := resolveTspImprint_eq himprint
  have hsendable := @sendable_timestampRequest s.calls lib alg _ _ s.tsp.policyOid hne hhash
  rw [← hoid] at hsendable
  refine ⟨_, token, imprint, addToken_head token hsigner, ?_, ?_,
    hserver _ _ _ _ hurl hsendable hgranted⟩
  · exact mem_append_right _ mem_cons_self
  · rw [resolveTspImprint_addToken]
    exact himprint

theorem signWithTimestamp_required (data : Bytes) :
    ((signWithTimestamp lib server s .required data).executed = false ∧
      (signWithTimestamp lib server s .required data).signature = none) ∨
    ∃ cms out, s.sign data = .ok cms ∧ s.tspUrl ≠ "" ∧
      timestampSignature lib server s s.tspUrl cms = .ok out ∧
      (signWithTimestamp lib server s .required data).executed = true ∧
      (signWithTimestamp lib server s .required data).signature = some out := by
  rw [signWithTimestamp]
  split
  · exact Or.inl ⟨rfl, rfl⟩
  split
  · exact Or.inl ⟨rfl, rfl⟩
  cases hsign : s.sign data with
  | error e => exact Or.inl ⟨rfl, rfl⟩
  | ok cms =>
    simp only [finishSigning, reduceCtorEq, if_false, if_true]
    by_cases hurl : s.tspUrl ≠ "" ∧ s.offlineMode = false
    · rw [if_pos hurl]
      cases hstamp : timestampSignature lib server s s.tspUrl cms with
      | error e => exact Or.inl ⟨rfl, rfl⟩
      | ok out => exact Or.inr ⟨cms, out, rfl, hurl.1, hstamp, rfl, rfl⟩
    · rw [if_neg hurl]
      exact Or.inl ⟨rfl, rfl⟩

theorem timestampIsOurs_of_answersRequests (hserver : AnswersRequests lib server)
    (s : TspSession) (data : Bytes) : TimestampIsOurs lib server s data := by
  rcases @signWithTimestamp_required lib server s data with
    ⟨hexecuted, hempty⟩ | ⟨cms, out, -, hurl, hstamp, hexecuted, hsignature⟩
  · exact ⟨fun h => absurd (hexecuted.symm.trans h) (by decide), fun _ => hempty⟩
  · exact ⟨fun _ => ⟨out, hsignature, stamped_of_answersRequests hserver hurl hstamp⟩,
      fun h => absurd (hexecuted.symm.trans h) (by decide)⟩

end Required

/-! ### A server that answers with another token -/

section Mismatch

variable {lib server}

theorem imprintFromDigestOid_imprintDigestOid (alg : ImprintDigest) :
    imprintFromDigestOid (imprintDigestOid alg) = some alg ∧ imprintDigestOid alg ≠ "" ∧
      imprintDigestOid alg ≠ "auto" := by
  cases alg <;> decide +kernel

/-- A session that sends the request to the address, all of whose calls succeed. -/
def sessionSending (url : String) (request : TimeStampReq) (timeoutMs : Int)
    (value : Bytes) : TspSession where
  tsp := ⟨url, request.policyOid, timeoutMs, request.digestOid⟩
  sign _ := .ok ⟨[⟨value, "", []⟩], none⟩
  calls := { nonce := request.nonce }

variable {request : TimeStampReq}

theorem timestampRequest_self (hcert : request.certReq = true) (hpolicy : request.policyOid ≠ "") :
    timestampRequest { nonce := request.nonce } request.digestOid request.hashedMessage
      request.policyOid = request := by
  rw [timestampRequest, if_neg hpolicy, ← hcert]

theorem resolveTspImprint_sessionSending {url : String} {timeoutMs : Int} {alg : ImprintDigest}
    {value : Bytes} (hoid : request.digestOid = imprintDigestOid alg)
    (hhash : lib.computeImprint alg value = .ok request.hashedMessage) (calls : LibraryCalls)
    (cms : SignedData) :
    resolveTspImprint lib calls (sessionSending url request timeoutMs value).tsp value cms =
      .ok ⟨request.hashedMessage, request.digestOid⟩ := by
  obtain ⟨hfrom, hempty, hauto⟩ := imprintFromDigestOid_imprintDigestOid alg
  refine bind_eq_ok.mpr ⟨alg, ?_, bind_eq_ok.mpr ⟨_, hhash, by rw [hoid]⟩⟩
  show resolvedImprintDigest _ ⟨url, request.policyOid, timeoutMs, request.digestOid⟩ _ = _
  rw [hoid, resolvedImprintDigest, if_pos ⟨hempty, hauto⟩]
  exact orError_eq_ok.mpr hfrom

theorem getTimestamp_of_grants {url : String} {timeoutMs : Int} {token : TimeStampToken}
    (hcert : request.certReq = true) (hpolicy : request.policyOid ≠ "")
    (hgranted : Grants lib (server url request timeoutMs) token) :
    getTimestamp lib server { nonce := request.nonce } request.hashedMessage request.digestOid url
      timeoutMs request.policyOid = .ok token := by
  obtain ⟨hsent, hbody, response, hdecode, hstatus, htoken⟩ := hgranted
  have hnumber : ∃ status, pkiStatus response = .ok status ∧ (status = 0 ∨ status = 1) := by
    rw [pkiStatus]
    rcases hstatus with hstatus | hstatus
    · rw [hstatus]
      exact ⟨0, rfl, Or.inl rfl⟩
    · rw [hstatus]
      exact ⟨1, rfl, Or.inr rfl⟩
  obtain ⟨status, hpki, hgranted⟩ := hnumber
  simp only [getTimestamp, bind_eq_ok, require_eq_ok, orError_eq_ok, exists_const]
  refine ⟨request, congrArg Except.ok (timestampRequest_self hcert hpolicy), hsent, hbody, (), rfl,
    (), rfl, response, ?_, status, hpki, hgranted, (), rfl, token, htoken, (), rfl, rfl⟩
  rw [decodedAnswer, hdecode]

/-- Such a session puts into the signature whatever token the server grants. -/
theorem signWithTimestamp_sessionSending {url : String} {timeoutMs : Int} {token : TimeStampToken}
    {alg : ImprintDigest} {value : Bytes} (hurl : url ≠ "") (hcert : request.certReq = true)
    (hpolicy : request.policyOid ≠ "") (hvalue : value ≠ [])
    (hoid : request.digestOid = imprintDigestOid alg)
    (hhash : lib.computeImprint alg value = .ok request.hashedMessage)
    (hgranted : Grants lib (server url request timeoutMs) token) (data : Bytes) :
    signWithTimestamp lib server (sessionSending url request timeoutMs value) .required data =
      { executed := true, signature := some ⟨[⟨value, "", [token]⟩], none⟩, tspUrl := url } := by
  have htsp : (sessionSending url request timeoutMs value).tspUrl = url := if_neg hurl
  have hstamp : timestampSignature lib server (sessionSending url request timeoutMs value) url
      ⟨[⟨value, "", []⟩], none⟩ = .ok ⟨[⟨value, "", [token]⟩], none⟩ := by
    simp only [timestampSignature, bind_eq_ok, labelled_eq_ok]
    refine ⟨value, ?_, _, resolveTspImprint_sessionSending hoid hhash _ _, token,
      getTimestamp_of_grants hcert hpolicy hgranted, rfl⟩
    exact bind_eq_ok.mpr ⟨_, rfl, bind_eq_ok.mpr ⟨(), require_eq_ok.mpr hvalue, rfl⟩⟩
  show finishSigning lib server _ .required ⟨[⟨value, "", []⟩], none⟩ = _
  simp only [finishSigning, TspSession.keptUrl, htsp, hstamp, reduceCtorEq, if_false]
  rw [if_pos ⟨hurl, rfl⟩, if_pos ⟨hurl, rfl⟩]

end Mismatch

/-- **The timestamp of every signature that requires one is for that signature exactly if the server
answers requests with tokens for them.** -/
theorem required_timestamp_iff (lib : TspLibrary) (server : TimestampServer) :
    (∀ (s : TspSession) (data : Bytes), TimestampIsOurs lib server s data) ↔
      AnswersRequests lib server := by
  refine ⟨fun hours => ?_, timestampIsOurs_of_answersRequests⟩
  intro url request timeoutMs token hurl hsendable hgranted
  obtain ⟨hcert, hpolicy, alg, value, hvalue, hoid, hhash⟩ := hsendable
  -- a session that sends this request ends up with this token
  obtain ⟨hstamped, -⟩ := hours (sessionSending url request timeoutMs value) []
  rw [signWithTimestamp_sessionSending hurl hcert hpolicy hvalue hoid hhash hgranted] at hstamped
  obtain ⟨cms, hcms, signer, token', imprint, hsigner, htoken, himprint, hanswers⟩ := hstamped rfl
  obtain rfl := Option.some.inj hcms
  obtain rfl := Option.some.inj hsigner
  obtain rfl := mem_singleton.mp htoken
  rw [resolveTspImprint_sessionSending hoid hhash] at himprint
  obtain rfl := Except.ok.inj himprint
  have hrequest := timestampRequest_self hcert hpolicy
  exact hrequest ▸ hanswers

/-- A server that answers every request with one token, for other data. -/
def replayingServer : TimestampServer := fun _ _ _ => { succeeded := true, body := [0] }

/-- A library that decodes such an answer, with a digest for the example. -/
def replayedAnswer : TspLibrary where
  tsrespDecode _ := .ok ⟨.ok 0, some ⟨"2.16.840.1.101.3.4.2.1", [9, 9, 9], none, []⟩⟩
  computeImprint _ data := .ok data

def replaySession : TspSession where
  tsp := { url := "http://tsa" }
  sign _ := .ok ⟨[⟨[1, 2, 3], "", []⟩], none⟩

theorem other_token_accepted :
    (signWithTimestamp replayedAnswer replayingServer replaySession .required [7]).executed = true ∧
    (signWithTimestamp replayedAnswer replayingServer replaySession .required [7]).signature =
      some ⟨[⟨[1, 2, 3], "", [⟨"2.16.840.1.101.3.4.2.1", [9, 9, 9], none, []⟩]⟩], none⟩ ∧
    ¬ TimestampIsOurs replayedAnswer replayingServer replaySession [7] := by
  have hexecuted : (signWithTimestamp replayedAnswer replayingServer replaySession .required
      [7]).executed = true := by decide +kernel
  have hsignature : (signWithTimestamp replayedAnswer replayingServer replaySession .required
      [7]).signature =
        some ⟨[⟨[1, 2, 3], "", [⟨"2.16.840.1.101.3.4.2.1", [9, 9, 9], none, []⟩]⟩], none⟩ := by
    decide +kernel
  refine ⟨hexecuted, hsignature, fun hours => ?_⟩
  obtain ⟨cms, hcms, signer, token, imprint, hsigner, htoken, himprint, hanswers⟩ :=
    hours.1 hexecuted
  obtain rfl := Option.some.inj (hsignature.symm.trans hcms)
  obtain rfl := Option.some.inj hsigner
  obtain rfl := mem_singleton.mp htoken
  obtain ⟨alg, -, hhash⟩ := resolveTspImprint_eq himprint
  have himprint : [9, 9, 9] = imprint.hash := hanswers.2.1
  rw [← Except.ok.inj hhash] at himprint
  exact absurd himprint (by decide)

end Tamga.Session
