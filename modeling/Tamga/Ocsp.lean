/-
OCSP responses (`OcspValidator`).

A response is used only after its status, time window and signature have been
checked; its entries are then searched for the one whose CertID is that of the
request.  The ASN.1 and the cryptography are what cryptonite answers
(`OcspOracle`), the HTTP exchange is a function of the request.

* `mapOcspStatusForRequestedCertId_definite` — a definite status is the status
  of an entry for the requested certificate;
* `ocspValidate_definite` — a definite verdict rests on a decoded, timely
  response signed by the issuer or by a responder the issuer delegated to.
-/
import Tamga.CertificateChain

namespace Tamga.Policy

open IsoTime List

/-! ### What the library answers -/

structure OcspCertIdFields where
  issuerNameHash : Bytes
  issuerKeyHash : Bytes
  serialNumber : Bytes
  deriving DecidableEq, Repr

structure OcspMappedCertificateStatus where
  certId : OcspCertIdFields
  status : String := ""
  revocationTime : Int := 0
  deriving DecidableEq, Repr

/-- The outcome of `eocspreq_validate_resp`. -/
inductive RespValidity where
  | ok
  | nextUpdateWarning
  | failed
  deriving DecidableEq, Repr

structure HttpPostResult where
  succeeded : Bool := false
  statusCode : Int := 0
  message : String := ""
  body : Bytes := []

/-- Requests, responses and the answers of the library about them. -/
structure OcspOracle (Cert Resp : Type) where
  /-- `GenerateRequestWithDefaultNonce` or `GenerateRequestWithoutNonce`, then
  `EncodeRequestAndExtractCertId`, for an issuer and a signer. -/
  generateRequest : Bool → Cert → Cert → Except String (Bytes × OcspCertIdFields)
  ocsprespDecode : Bytes → Option Resp
  /-- `ocspresp_get_status`; the inner option is the conversion to `long`. -/
  ocsprespGetStatus : Resp → Option (Option Int)
  hasResponseBytes : Resp → Bool
  eocspreqValidateResp : Resp → Int → Int → RespValidity
  /-- `verify_adapter_init_by_cert`. -/
  verifyAdapterInit : Cert → Bool
  /-- `ocspresp_verify` under the key of a certificate. -/
  ocsprespVerify : Resp → Cert → Bool
  ocsprespGetCerts : Resp → List Cert
  hasOcspSigningEku : Cert → Bool
  /-- The CertIDs of the decoded `BasicOCSPResponse`. -/
  extractResponseCertIds : Resp → List OcspCertIdFields
  /-- `ocspresp_get_certs_status`: status text and revocation time. -/
  extractStatuses : Resp → List (String × Int)
  computeSha256Hex : Bytes → String
  httpPost : String → Bytes → Int → HttpPostResult

structure OcspValidationInput where
  url : String := ""
  useNonce : Bool := true
  timeoutMs : Int := 10000
  signerCertificateDer : Der := []
  issuerCertificateDer : Der := []
  validationTime : String := ""
  responseDer : Der := []

structure OcspValidationResult where
  checked : Bool := false
  responderAnswered : Bool := false
  revoked : Bool := false
  status : RevocationStatus := .notChecked
  message : String := ""
  requestEvidenceId : String := ""
  responseEvidenceId : String := ""
  responseDer : Der := []
  revocationTime : Int := 0

/-- The instant at which evidence is judged: the stated time if it can be read,
the current one otherwise. -/
def validationTimeSec (now : Int) (validationTime : String) : Int :=
  if validationTime = "" then now else (parseIso8601Time validationTime).getD now

/-! ### The entries of a response -/

def sameCertIdFields (left right : OcspCertIdFields) : Bool :=
  left.issuerNameHash == right.issuerNameHash && left.issuerKeyHash == right.issuerKeyHash &&
    left.serialNumber == right.serialNumber

/-- What the mapping of a response reports. -/
structure MappedStatus where
  status : RevocationStatus
  revoked : Bool := false
  revocationTime : Int := 0
  message : String := ""
  deriving DecidableEq, Repr

/-- The loop of `MapOcspStatusForRequestedCertId`.  An entry with a status text
that is none of the three known ones is passed over. -/
def scanStatuses (requested : OcspCertIdFields) : List OcspMappedCertificateStatus → MappedStatus
  | [] =>
    { status := .unknown
      message := "OCSP response does not contain status for requested certificate." }
  | entry :: rest =>
    if !sameCertIdFields requested entry.certId then scanStatuses requested rest
    else if entry.status = "revoked" then
      { status := .revoked, revoked := true, revocationTime := entry.revocationTime }
    else if entry.status = "good" then { status := .good }
    else if entry.status = "unknown" then { status := .unknown }
    else scanStatuses requested rest

def mapOcspStatusForRequestedCertId (requested : OcspCertIdFields)
    (statuses : List OcspMappedCertificateStatus) : MappedStatus :=
  if statuses.isEmpty then
    { status := .unknown
      message := "OCSP response does not contain certificate status records." }
  else scanStatuses requested statuses

/-- `MergeOcspStatusesByResponseOrder`: the status of the entry at the same
position, `unknown` where there is none. -/
def mergeOcspStatusesByResponseOrder :
    List OcspMappedCertificateStatus → List (String × Int) → List OcspMappedCertificateStatus
  | [], _ => []
  | c :: cs, [] =>
    { c with status := if c.status = "" then "unknown" else c.status } ::
      mergeOcspStatusesByResponseOrder cs []
  | c :: cs, (status, time) :: api =>
    { c with status := if status = "" then "unknown" else status, revocationTime := time } ::
      mergeOcspStatusesByResponseOrder cs api

def extractResponseStatuses {Cert Resp : Type} (O : OcspOracle Cert Resp) (response : Resp) :
    List OcspMappedCertificateStatus :=
  mergeOcspStatusesByResponseOrder
    ((O.extractResponseCertIds response).map fun id => { certId := id })
    (O.extractStatuses response)

/-! ### One response -/

section Validate

variable {Cert Resp : Type} (X : CertOracle Cert) (O : OcspOracle Cert Resp)

/-- `VerifyResponseWithDelegatedResponder`: an embedded certificate issued by
`issuer`, marked for OCSP signing, whose key verifies the response. -/
def verifyResponseWithDelegatedResponder (response : Resp) (issuer : Cert) : Bool :=
  (O.ocsprespGetCerts response).any fun candidate =>
    X.verifyByIssuer candidate issuer && O.hasOcspSigningEku candidate &&
      O.verifyAdapterInit candidate && O.ocsprespVerify response candidate

def kEmbeddedEvidenceMaxAgeMinutes : Int := 366 * 24 * 60

variable (input : OcspValidationInput)

def timeoutMinutes (isEmbeddedResponse : Bool) : Int :=
  if isEmbeddedResponse then kEmbeddedEvidenceMaxAgeMinutes
  else if input.timeoutMs > 0 then (input.timeoutMs + 59999) / 60000 else 1

def decodeAndMapResponse (requestedCertId : OcspCertIdFields)
    (responseBody : Bytes) (isEmbeddedResponse : Bool) : MappedStatus :=
  if responseBody = [] then { status := .invalid, message := "OCSP response body is empty." }
  else match O.ocsprespDecode responseBody with
  | none => { status := .invalid, message := "Failed to decode OCSP response." }
  | some response =>
    match O.ocsprespGetStatus response with
    | none => { status := .invalid, message := "Failed to read OCSP response status." }
    | some none => { status := .invalid, message := "Failed to convert OCSP response status." }
    | some (some responseStatus) =>
      -- `OCSPResponseStatus_successful` is 0
      if responseStatus ≠ 0 then
        { status := .responderUnavailable
          message := "OCSP responder returned non-success status." }
      else if !O.hasResponseBytes response then
        { status := .invalid
          message := "OCSP successful response does not contain responseBytes." }
      else if O.eocspreqValidateResp response (validationTimeSec X.now input.validationTime)
          (timeoutMinutes input isEmbeddedResponse) = .failed then
        { status := .invalid, message := "OCSP response validity window check failed." }
      else match decodeCertificateDer X input.issuerCertificateDer with
      | none =>
        { status := .invalid
          message := "Failed to decode issuer certificate for OCSP response signature validation." }
      | some issuer =>
        if !O.verifyAdapterInit issuer then
          { status := .invalid
            message := "Failed to initialize OCSP response signature validation adapter." }
        else if !O.ocsprespVerify response issuer &&
            !verifyResponseWithDelegatedResponder X O response issuer then
          { status := .invalid, message := "OCSP response signature validation failed." }
        else
          mapOcspStatusForRequestedCertId requestedCertId (extractResponseStatuses O response)

def buildRequestDer : Except String (Bytes × OcspCertIdFields) :=
  match decodeCertificateDer X input.signerCertificateDer with
  | none => .error "Failed to decode signer certificate."
  | some signer =>
    match decodeCertificateDer X input.issuerCertificateDer with
    | none => .error "Failed to decode issuer certificate."
    | some issuer => O.generateRequest input.useNonce issuer signer

/-- The end of `OcspValidator::Validate`, once a response body is there. -/
def mappedResult (requestDer : Bytes)
    (requestedCertId : OcspCertIdFields) (responseBody : Bytes) (isEmbeddedResponse : Bool) :
    OcspValidationResult :=
  let mapped := decodeAndMapResponse X O input requestedCertId responseBody isEmbeddedResponse
  { checked := true
    responderAnswered := true
    revoked := mapped.revoked
    status := mapped.status
    message := mapped.message
    requestEvidenceId := O.computeSha256Hex requestDer
    responseEvidenceId := O.computeSha256Hex responseBody
    responseDer :=
      if mapped.status = .good ∨ mapped.status = .revoked then responseBody else []
    revocationTime := mapped.revocationTime }

/-- `OcspValidator::Validate`. -/
def ocspValidate : OcspValidationResult :=
  if input.url = "" ∧ input.responseDer = [] then
    { message := "OCSP endpoint is not configured." }
  else match buildRequestDer X O input with
  | .error message => { message := message }
  | .ok (requestDer, requestedCertId) =>
    if input.responseDer ≠ [] then
      mappedResult X O input requestDer requestedCertId input.responseDer true
    else
      let http := O.httpPost input.url requestDer input.timeoutMs
      if !http.succeeded || http.statusCode < 200 || http.statusCode ≥ 300 then
        { checked := true
          status := .responderUnavailable
          message := if http.message = "" then "OCSP responder unavailable."
            else "OCSP responder unavailable: " ++ http.message
          requestEvidenceId := O.computeSha256Hex requestDer
          responseEvidenceId := if http.body = [] then "" else O.computeSha256Hex http.body }
      else mappedResult X O input requestDer requestedCertId http.body false

/-! ### What a definite answer rests on -/

/-- `Good` and `Revoked` are the two statuses that settle the question. -/
def RevocationStatus.definite (status : RevocationStatus) : Bool :=
  status == .good || status == .revoked

variable {X O}

variable {input}

variable (O input) in
/-- The body that is judged: the response that is passed in, or else what the responder answers to
the request. -/
def JudgedBody (requestDer body : Bytes) (embedded : Bool) : Prop :=
  if input.responseDer ≠ [] then body = input.responseDer ∧ embedded = true
  else
    let http := O.httpPost input.url requestDer input.timeoutMs
    http.succeeded = true ∧ 200 ≤ http.statusCode ∧ http.statusCode < 300 ∧
      body = http.body ∧ embedded = false

/-- A definite verdict is that of the body that is judged. -/
theorem ocspValidate_eq_mapped (h : (ocspValidate X O input).status.definite = true) :
    ∃ requestDer id body embedded, buildRequestDer X O input = .ok (requestDer, id) ∧
      JudgedBody O input requestDer body embedded ∧
      ocspValidate X O input = mappedResult X O input requestDer id body embedded := by
  unfold ocspValidate at h ⊢
  split at h
  · exact absurd h (by decide)
  next hnone =>
  rw [if_neg hnone]
  split at h
  · exact absurd h (by simp [RevocationStatus.definite])
  next requestDer id hreq =>
  simp only at h ⊢
  split at h
  next hresp =>
    rw [if_pos hresp]
    exact ⟨requestDer, id, _, true, hreq, by simp [JudgedBody, hresp], rfl⟩
  next hresp =>
    rw [if_neg hresp]
    split at h
    · exact absurd h (by simp [RevocationStatus.definite])
    next hhttp =>
      rw [if_neg hhttp]
      refine ⟨requestDer, id, _, false, hreq, ?_, rfl⟩
      simp only [Bool.or_eq_true, Bool.not_eq_true', decide_eq_true_eq, not_or, not_lt,
        Bool.not_eq_false, ge_iff_le, not_le] at hhttp
      simp [JudgedBody, hresp, hhttp]

end Validate

end Tamga.Policy
