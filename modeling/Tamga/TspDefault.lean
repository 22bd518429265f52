/-
The timestamp service of a session that was not given one (`ResolveDefaultTspUrlCombined` in
`SessionCertificateOps.ipp`, and its callers `SignData`, `SignDataInternal`, `SignXml` and
`SignPdf`).

Without a configured address a call resolves one from the trust-list metadata in the work
directory, or else from a table by the issuer of the certificate.  `SignXml` and `SignPdf` use
it for the call.  `SignData` and `SignDataInternal` write it into the settings of the session.

* `signWithTimestamp_congr` — `SignData` asks no server but the one of `cmsContact`;
* `signingStep_eq_effect` — a signing call that does not remember an address leaves the session
  alone;
* `resolved_afresh_iff` — in which histories every call resolves the address afresh, and
  `stale_service_contacted` one in which a call asks the service of an earlier key.
-/
import Tamga.TimestampedSigning
import Tamga.PadesVerifier

namespace Tamga.Session

open Pades List

/-! ### The default address -/

/-- A record of `trust-store-metadata.json`, in the fields that are extracted from it. -/
structure TrustStoreRecord where
  serviceType : Option String
  granted : Option Bool
  tspUrls : List String
  deriving DecidableEq, Repr

def TrustStoreRecord.isTsaService (record : TrustStoreRecord) : Bool :=
  record.serviceType == some "http://czo.gov.ua/TrstSvc/Svctype/MR-TSA/QTST" ||
    record.serviceType == some "http://czo.gov.ua/TrstSvc/Svctype/National-TSA/QTST"

/-- The address of a record, if it is of use. -/
def TrustStoreRecord.grantedTspUrl (record : TrustStoreRecord) : Option String :=
  if record.isTsaService && record.granted == some true then
    record.tspUrls.head?.filter (· != "")
  else none

/-- `PolicyCache::ResolveGrantedTspUrl`, for the records of the file if it can be read. -/
def resolveGrantedTspUrl (metadata : Option (List TrustStoreRecord)) : String :=
  ((metadata.getD []).findSome? TrustStoreRecord.grantedTspUrl).getD ""

/-- Parts of issuer names, in the order in which they are tried, with their addresses. -/
def issuerTable : List (List String × String) :=
  [(["ПРИВАТБАНК", "PRIVATBANK"], "https://acsk.privatbank.ua/services/tsp/"),
   (["Дія", "DIIA", "юстиції"], "http://ca.informjust.ua/services/tsp/"),
   (["ДПС", "TAX", "ІДД"], "http://ca.tax.gov.ua/services/tsp/"),
   (["Ощадбанк", "Oschadbank"], "http://ca.oschadbank.ua/public/tsp"),
   (["Казначейств", "treasury"], "http://ca.treasury.gov.ua:43221"),
   (["Вчасно", "Vchasno"], "http://ca.vchasno.ua/services/tsp/dstu/"),
   (["ДЕПОЗИТ САЙН", "DEPOSIT SIGN"], "http://ca.depositsign.com/services/tsp/dstu/"),
   (["Україна", "uakey"], "http://uakey.com.ua/services/tsp/"),
   (["monobank"], "https://ca.monobank.ua/services/tsp/dstu/"),
   (["MASTERKEY", "АРТ-МАСТЕР", "Арт-мастер"], "http://masterkey.ua/services/tsp/"),
   (["Укрзалізниці"], "http://csk.uz.gov.ua/services/tsp/")]

/-- What a session signs with: the client and its server, and the name of the issuer of a
certificate, if it can be decoded and is not empty.  It is taken as text; the parts are found at the
same places in UTF-8. -/
structure TspEnv where
  lib : TspLibrary
  server : TimestampServer
  issuerDn : Der → Option String

variable (env : TspEnv)

def resolveDefaultTspUrlFromIssuerTable (certificate : Der) : String :=
  if certificate = [] then ""
  else
    match env.issuerDn certificate with
    | none => ""
    | some issuer =>
      ((issuerTable.find? fun row => row.1.any (containsText issuer)).map Prod.snd).getD ""

def resolveDefaultTspUrlFromTrustList (metadata : String → Option (List TrustStoreRecord))
    (workDir : String) : String :=
  if workDir = "" then "" else resolveGrantedTspUrl (metadata workDir)

def resolveDefaultTspUrlCombined
    (metadata : String → Option (List TrustStoreRecord)) (certificate : Der) (workDir : String) :
    String :=
  let url := resolveDefaultTspUrlFromTrustList metadata workDir
  if url ≠ "" then url else resolveDefaultTspUrlFromIssuerTable env certificate

/-! ### Sessions and what happens to them -/

/-- The state of a session that signing reads, and the metadata files. -/
structure SigningSession where
  initialized : Bool := true
  privateKeyLoaded : Bool := false
  /-- `loaded_certificate_`. -/
  certificate : Der := []
  /-- What `ExtractSignerCertificate` finds in the container of the key. -/
  containerCertificate : Option Der := none
  tsp : TspSettings := {}
  offlineMode : Bool := true
  workDir : String := ""
  metadata : String → Option (List TrustStoreRecord) := fun _ => none

/-- A call of `SignData` or `SignDataInternal`: the mode, what `SignDetached` or `SignAttached`
returns, and how the calls of the library turn out. -/
structure CmsSigning where
  mode : TimestampMode := .bestEffort
  signed : Except String SignedData
  calls : LibraryCalls := {}

/-- A call of `SignXml` or `SignPdf`: the profile, and the data that the builder gives to the
timestamp provider, one after the other. -/
structure BuilderSigning where
  profile : String
  stamped : List Bytes
  calls : LibraryCalls := {}

/-- What can happen in a session that is given no address.  Key loads that fail change
nothing. -/
inductive SessionEvent where
  | updateTrustList (workDir : String) (metadata : Option (List TrustStoreRecord))
  | loadKey (certificate : Der) (containerCertificate : Option Der)
  | configure (offlineMode : Bool) (workDir : String)
  | configureTsp (policyOid : String) (timeoutMs : Int) (imprintDigestOid : String)
  | signData (call : CmsSigning)
  | signDataInternal (call : CmsSigning)
  | signXml (call : BuilderSigning)
  | signPdf (call : BuilderSigning)

def parsePadesProfileName (text : String) : Option PadesProfile :=
  match String.ofList (text.toList.map Char.toLower) with
  | "" | "b" | "pades-b" => some .b
  | "t" | "pades-t" => some .t
  | "lt" | "pades-lt" => some .lt
  | "lta" | "pades-lta" => some .lta
  | _ => none

def xmlNeedsTimestamp (profile : String) : Bool := profile == "xades-t"

def pdfNeedsTimestamp (profile : String) : Bool :=
  (parsePadesProfileName profile).any (· != .b)

/-! ### The requests of a call -/

variable (st : SigningSession)

def SigningSession.cmsSession (call : CmsSigning) : TspSession where
  initialized := st.initialized
  privateKeyLoaded := st.privateKeyLoaded
  tsp := st.tsp
  offlineMode := st.offlineMode
  sign := fun _ => call.signed
  defaultTspUrl := resolveDefaultTspUrlCombined env st.metadata st.certificate st.workDir
  calls := call.calls

def SigningSession.signerCertificate : Der :=
  if st.certificate = [] then st.containerCertificate.getD [] else st.certificate

/-- The request of the client for data to be stamped, if it comes to one. -/
def clientRequest (calls : LibraryCalls) (tsp : TspSettings)
    (data : Bytes) (cms : SignedData) : Except String TimeStampReq := do
  let imprint ← resolveTspImprint env.lib calls tsp data cms
  generateRequest calls imprint.digestOid imprint.hash tsp.policyOid

/-- The request that `SignData` sends if it takes an address to be the one of the service. -/
def cmsContact (call : CmsSigning) (url : String) : List (String × TimeStampReq) :=
  if st.initialized = false ∨ st.privateKeyLoaded = false ∨ call.mode = .disabled ∨ url = "" ∨
      st.offlineMode = true then []
  else
    match (do
      let cms ← call.signed
      let value ← getSignatureValue call.calls cms
      clientRequest env call.calls st.tsp value cms : Except String TimeStampReq) with
    | .ok request => [(url, request)]
    | .error _ => []

/-- The requests of the timestamp provider of `SignXml` and `SignPdf`.  The provider is given no
CMS. -/
def builderContacts (call : BuilderSigning)
    (needsTimestamp : Bool) (url : String) : List (String × TimeStampReq) :=
  if st.initialized = false ∨ st.privateKeyLoaded = false ∨ needsTimestamp = false ∨ url = "" ∨
      st.offlineMode = true then []
  else
    call.stamped.filterMap fun data =>
      match clientRequest env call.calls st.tsp data ⟨[], none⟩ with
      | .ok request => some (url, request)
      | .error _ => none

variable (event : SessionEvent)

/-- The requests of a call that takes an address to be the one of the service. -/
def contactsAt (url : String) : List (String × TimeStampReq) :=
  match event with
  | .signData call | .signDataInternal call => cmsContact env st call url
  | .signXml call => builderContacts env st call (xmlNeedsTimestamp call.profile) url
  | .signPdf call => builderContacts env st call (pdfNeedsTimestamp call.profile) url
  | _ => []

/-- The address that `ResolveDefaultTspUrlCombined` gives at the time of a call. -/
def freshUrl : String :=
  match event with
  | .signXml _ | .signPdf _ =>
    resolveDefaultTspUrlCombined env st.metadata st.signerCertificate st.workDir
  | _ => resolveDefaultTspUrlCombined env st.metadata st.certificate st.workDir

def chosenUrl : String :=
  if st.tsp.url = "" then freshUrl env st event else st.tsp.url

def contacts : List (String × TimeStampReq) :=
  contactsAt env st event (chosenUrl env st event)

/-! ### Steps -/

/-- What an event that is not a signing call does. -/
def SessionEvent.effect (st : SigningSession) : SigningSession :=
  match event with
  | .updateTrustList workDir metadata =>
    { st with metadata := fun dir => if dir = workDir then metadata else st.metadata dir }
  | .loadKey certificate containerCertificate =>
    { st with
      privateKeyLoaded := true
      certificate := certificate
      containerCertificate := containerCertificate }
  | .configure offlineMode workDir => { st with offlineMode := offlineMode, workDir := workDir }
  | .configureTsp policyOid timeoutMs imprintDigestOid =>
    { st with tsp := ⟨"", policyOid, timeoutMs, imprintDigestOid⟩ }
  | _ => st

/-- `SignData` and `SignDataInternal` keep the address that `SignOutcome` names; `SignXml` and
`SignPdf` only read the settings. -/
def signingStep : SigningSession :=
  match event with
  | .signData call | .signDataInternal call =>
    let outcome := signWithTimestamp env.lib env.server (st.cmsSession env call) call.mode []
    { st with tsp := { st.tsp with url := outcome.tspUrl } }
  | _ => event.effect st

def SessionEvent.isSigning : SessionEvent → Bool
  | .signData _ | .signDataInternal _ | .signXml _ | .signPdf _ => true
  | _ => false

/-! ### The server that is asked -/

section Congr

variable {env st} {call : CmsSigning}

theorem getTimestamp_congr {lib : TspLibrary} {server server' : TimestampServer}
    {calls : LibraryCalls} {hash : Bytes} {digestOid url policyOid : String} {timeoutMs : Int}
    (h : ∀ request, generateRequest calls digestOid hash policyOid = .ok request →
      server url request timeoutMs = server' url request timeoutMs) :
    getTimestamp lib server calls hash digestOid url timeoutMs policyOid =
      getTimestamp lib server' calls hash digestOid url timeoutMs policyOid := by
  rw [getTimestamp, getTimestamp]
  cases hrequest : generateRequest calls digestOid hash policyOid with
  | error e => rfl
  | ok request =>
    show (do require _ _; _) = (do require _ _; _)
    rw [h request hrequest]

theorem timestampSignature_congr {lib : TspLibrary} {server server' : TimestampServer}
    {s : TspSession} {url : String} {cms : SignedData}
    (h : ∀ value imprint request, getSignatureValue s.calls cms = .ok value →
      resolveTspImprint lib s.calls s.tsp value cms = .ok imprint →
      generateRequest s.calls imprint.digestOid imprint.hash s.tsp.policyOid = .ok request →
      server url request s.tsp.timeoutMs = server' url request s.tsp.timeoutMs) :
    timestampSignature lib server s url cms = timestampSignature lib server' s url cms := by
  rw [timestampSignature, timestampSignature]
  cases hvalue : getSignatureValue s.calls cms with
  | error e => rfl
  | ok value =>
    show (do let _ ← labelled _ (resolveTspImprint lib s.calls s.tsp value cms); _) =
      (do let _ ← labelled _ (resolveTspImprint lib s.calls s.tsp value cms); _)
    cases himprint : resolveTspImprint lib s.calls s.tsp value cms with
    | error e => rfl
    | ok imprint =>
      show (do let _ ← labelled _ (getTimestamp lib server _ _ _ _ _ _); _) =
        (do let _ ← labelled _ (getTimestamp lib server' _ _ _ _ _ _); _)
      rw [getTimestamp_congr (h value imprint · hvalue himprint)]

/-- **One server**: `SignData` and `SignDataInternal` ask only at the address of `cmsContact`,
and only with its request. -/
theorem signWithTimestamp_congr (server' : TimestampServer)
    (h : ∀ c ∈ cmsContact env st call (st.cmsSession env call).tspUrl,
      env.server c.1 c.2 st.tsp.timeoutMs = server' c.1 c.2 st.tsp.timeoutMs) :
    signWithTimestamp env.lib env.server (st.cmsSession env call) call.mode [] =
      signWithTimestamp env.lib server' (st.cmsSession env call) call.mode [] := by
  rw [signWithTimestamp, signWithTimestamp]
  refine ite_congr rfl (fun _ => rfl) fun hinit => ite_congr rfl (fun _ => rfl) fun hkey => ?_
  cases hsigned : (st.cmsSession env call).sign [] with
  | error e => rfl
  | ok cms =>
    show finishSigning _ _ _ _ cms = finishSigning _ _ _ _ cms
    rw [finishSigning, finishSigning]
    refine ite_congr rfl (fun _ => rfl) fun hmode => ite_congr rfl (fun hurl => ?_) fun _ => rfl
    rw [timestampSignature_congr]
    intro value imprint request hvalue himprint hrequest
    refine h (_, request) ?_
    have hreached : ¬(st.initialized = false ∨ st.privateKeyLoaded = false ∨
        call.mode = .disabled ∨ (st.cmsSession env call).tspUrl = "" ∨ st.offlineMode = true) := by
      rintro (h | h | h | h | h)
      · exact hinit h
      · exact hkey h
      · exact hmode h
      · exact hurl.1 h
      · exact Bool.false_ne_true (hurl.2.symm.trans h)
    have hsigned' : call.signed = .ok cms := hsigned
    have hsent : (do
        let cms ← call.signed
        let value ← getSignatureValue call.calls cms
        clientRequest env call.calls st.tsp value cms : Except String TimeStampReq) = .ok request :=
      bind_eq_ok.mpr ⟨cms, hsigned', bind_eq_ok.mpr ⟨value, hvalue,
        bind_eq_ok.mpr ⟨imprint, himprint, hrequest⟩⟩⟩
    rw [cmsContact, if_neg hreached, hsent]
    exact mem_singleton_self _

end Congr

/-! ### Histories -/

/-- A call sends its requests to the address that is the default at that moment, and signing
leaves the settings as they are. -/
structure ResolvedAfresh : Prop where
  service : contacts env st event = contactsAt env st event (freshUrl env st event)
  settings : event.isSigning = true → (signingStep env st event).tsp = st.tsp

def AllResolvedAfresh (env : TspEnv) : SigningSession → List SessionEvent → Prop
  | _, [] => True
  | st, event :: events =>
    ResolvedAfresh env st event ∧ AllResolvedAfresh env (signingStep env st event) events

/-- A call of `SignData` or `SignDataInternal` that comes to its timestamp online, with a default
address to be had. -/
def Remembers : SessionEvent → Prop
  | .signData call | .signDataInternal call =>
    st.initialized = true ∧ st.privateKeyLoaded = true ∧ st.offlineMode = false ∧
      call.signed.isOk = true ∧ call.mode ≠ .disabled ∧
      resolveDefaultTspUrlCombined env st.metadata st.certificate st.workDir ≠ ""
  | _ => False

def NeverRemembers (env : TspEnv) : SigningSession → List SessionEvent → Prop
  | _, [] => True
  | st, event :: events => ¬Remembers env st event ∧ NeverRemembers env (event.effect st) events

section History

variable {env st}

theorem contacts_of_unset (h : st.tsp.url = "") (event : SessionEvent) :
    contacts env st event = contactsAt env st event (freshUrl env st event) := by
  rw [contacts, chosenUrl, if_pos h]

theorem effect_unset (h : st.tsp.url = "") (event : SessionEvent) :
    (event.effect st).tsp.url = "" := by
  cases event <;> first | exact h | rfl

theorem effect_of_isSigning {event : SessionEvent} (h : event.isSigning = true) :
    event.effect st = st := by
  cases event <;> first | rfl | cases h

/-- Which address the settings of a session have after `SignData` or `SignDataInternal`. -/
theorem signWithTimestamp_tspUrl (lib : TspLibrary) (server : TimestampServer) (s : TspSession)
    (mode : TimestampMode) (data : Bytes) :
    (signWithTimestamp lib server s mode data).tspUrl =
      if s.initialized = false ∨ s.privateKeyLoaded = false ∨ (s.sign data).isOk = false ∨
        mode = .disabled then s.tsp.url
      else s.keptUrl := by
  rw [signWithTimestamp]
  by_cases hinit : s.initialized = false
  · rw [if_pos hinit, if_pos (.inl hinit)]
  by_cases hkey : s.privateKeyLoaded = false
  · rw [if_neg hinit, if_pos hkey, if_pos (.inr (.inl hkey))]
  rw [if_neg hinit, if_neg hkey]
  cases hsign : s.sign data with
  | error e => rw [if_pos (.inr (.inr (.inl rfl)))]
  | ok cms =>
    show (finishSigning lib server s mode cms).tspUrl = _
    rw [finishSigning]
    by_cases hmode : mode = .disabled
    · rw [if_pos hmode, if_pos (.inr (.inr (.inr hmode)))]
    have hreached : ¬(s.initialized = false ∨ s.privateKeyLoaded = false ∨
        (Except.ok cms : Except String SignedData).isOk = false ∨ mode = .disabled) := by
      rintro (h | h | h | h)
      · exact hinit h
      · exact hkey h
      · cases h
      · exact hmode h
    rw [if_neg hmode, if_neg hreached]
    -- every way to end comes with the same address
    repeat' split
    all_goals rfl

theorem cmsSession_keptUrl (h : st.tsp.url = "") (call : CmsSigning) :
    (st.cmsSession env call).keptUrl = if st.offlineMode = false then
      resolveDefaultTspUrlCombined env st.metadata st.certificate st.workDir else "" := by
  have hdefault : (st.cmsSession env call).tspUrl =
      resolveDefaultTspUrlCombined env st.metadata st.certificate st.workDir := if_pos h
  have hunset : (st.cmsSession env call).tsp.url = "" := h
  have hoffline : (st.cmsSession env call).offlineMode = st.offlineMode := rfl
  rw [TspSession.keptUrl, hdefault, hunset, hoffline]
  by_cases hurl : resolveDefaultTspUrlCombined env st.metadata st.certificate st.workDir = ""
  · rw [hurl, ite_self, ite_self]
  · simp only [ne_eq, hurl, not_false_eq_true, true_and]

/-- **The address after a call** of `SignData` or `SignDataInternal`. -/
theorem cmsSigning_tspUrl (h : st.tsp.url = "") (call : CmsSigning) :
    (Remembers env st (.signData call) →
      (signWithTimestamp env.lib env.server (st.cmsSession env call) call.mode []).tspUrl =
        resolveDefaultTspUrlCombined env st.metadata st.certificate st.workDir) ∧
    (¬Remembers env st (.signData call) →
      (signWithTimestamp env.lib env.server (st.cmsSession env call) call.mode []).tspUrl = "") := by
  rw [signWithTimestamp_tspUrl, cmsSession_keptUrl h]
  have hunset : (st.cmsSession env call).tsp.url = "" := h
  constructor
  · rintro ⟨hinit, hkey, hoffline, hsigned, hmode, -⟩
    rw [if_neg, if_pos hoffline]
    rintro (hf | hf | hf | hf)
    · exact Bool.false_ne_true (hf.symm.trans hinit)
    · exact Bool.false_ne_true (hf.symm.trans hkey)
    · exact Bool.false_ne_true (hf.symm.trans hsigned)
    · exact hmode hf
  · intro hnot
    split
    · exact hunset
    next hreached =>
      split
      next hoffline =>
        by_contra hurl
        refine hnot ⟨?_, ?_, hoffline, ?_, fun hmode => hreached (.inr (.inr (.inr hmode))), hurl⟩
        · exact Bool.of_not_eq_false fun hf => hreached (.inl hf)
        · exact Bool.of_not_eq_false fun hf => hreached (.inr (.inl hf))
        · exact Bool.of_not_eq_false fun hf => hreached (.inr (.inr (.inl hf)))
      · rfl

theorem signingStep_eq_effect (h : st.tsp.url = "") {event : SessionEvent}
    (hevent : ¬Remembers env st event) : signingStep env st event = event.effect st := by
  have hsame : ∀ url, url = "" → { st with tsp := { st.tsp with url := url } } = st := by
    rintro _ rfl
    rw [← h]
  cases event with
  | signData call | signDataInternal call => exact hsame _ ((cmsSigning_tspUrl h call).2 hevent)
  | _ => rfl

theorem signingStep_url_of_remembers (h : st.tsp.url = "") {event : SessionEvent}
    (hevent : Remembers env st event) :
    event.isSigning = true ∧ (signingStep env st event).tsp.url ≠ "" := by
  have hkept : ∀ call, Remembers env st (.signData call) →
      (signWithTimestamp env.lib env.server (st.cmsSession env call) call.mode []).tspUrl ≠ "" := by
    intro call hcall
    rw [(cmsSigning_tspUrl h call).1 hcall]
    exact hcall.2.2.2.2.2
  cases event with
  | signData call | signDataInternal call => exact ⟨rfl, hkept call hevent⟩
  | _ => cases hevent

/-- The step: a session without an address resolves one afresh exactly if the call does not
remember it. -/
theorem resolvedAfresh_iff (h : st.tsp.url = "") (event : SessionEvent) :
    ResolvedAfresh env st event ↔ ¬Remembers env st event := by
  constructor
  · intro hfresh hevent
    obtain ⟨hsigning, hurl⟩ := signingStep_url_of_remembers h hevent
    rw [hfresh.settings hsigning] at hurl
    exact hurl h
  · intro hevent
    refine ⟨contacts_of_unset h event, fun hsigning => ?_⟩
    rw [signingStep_eq_effect h hevent, effect_of_isSigning hsigning]

end History

/-- **The default service is resolved afresh** in every call of a history without a configured
address exactly if no call of `SignData` or `SignDataInternal` comes to its timestamp online
with a default address to be had. -/
theorem resolved_afresh_iff (env : TspEnv) (st : SigningSession) (events : List SessionEvent)
    (h : st.tsp.url = "") : AllResolvedAfresh env st events ↔ NeverRemembers env st events := by
  induction events generalizing st with
  | nil => exact Iff.rfl
  | cons event events ih =>
    rw [AllResolvedAfresh, NeverRemembers, resolvedAfresh_iff h]
    refine and_congr_right fun hevent => ?_
    rw [signingStep_eq_effect h hevent]
    exact ih _ (effect_unset h event)

/-! ### A service of an earlier key -/

def exampleSigningEnv : TspEnv where
  lib := replayedAnswer
  server := replayingServer
  issuerDn := fun certificate => some (if certificate = [1] then "monobank" else "uakey")

def exampleSigned : SignedData := ⟨[⟨[1, 2, 3], "", []⟩], none⟩

def exampleSession : SigningSession where
  privateKeyLoaded := true
  certificate := [1]
  offlineMode := false

theorem signWithTimestamp_congr_monobank :
    let call : CmsSigning := ⟨.required, .ok exampleSigned, {}⟩
    let s := exampleSession.cmsSession exampleSigningEnv call
    (cmsContact exampleSigningEnv exampleSession call s.tspUrl).map Prod.fst = [s.tspUrl] ∧
      signWithTimestamp replayedAnswer replayingServer s .required [] =
        signWithTimestamp replayedAnswer (fun url request timeoutMs =>
          if url = s.tspUrl then replayingServer url request timeoutMs else ⟨false, 404, "", []⟩)
          s .required [] := by
  intro call s
  have haddress : (cmsContact exampleSigningEnv exampleSession call s.tspUrl).map Prod.fst =
    [s.tspUrl] := by decide +kernel
  refine ⟨haddress, @signWithTimestamp_congr exampleSigningEnv exampleSession call _ fun c hc => ?_⟩
  have hc' := mem_map_of_mem (f := Prod.fst) hc
  rw [haddress, mem_singleton] at hc'
  exact (if_pos hc').symm

/-- XAdES and PAdES signatures with two keys, and a CMS without a timestamp. -/
theorem builders_resolve_afresh : AllResolvedAfresh exampleSigningEnv exampleSession
    [.signXml ⟨"xades-t", [[1]], {}⟩, .loadKey [2] none, .signPdf ⟨"pades-lta", [[1], [2]], {}⟩,
      .signData ⟨.disabled, .ok exampleSigned, {}⟩] :=
  (resolved_afresh_iff _ _ _ rfl).mpr
    ⟨id, id, id, fun hremembers => hremembers.2.2.2.2.1 rfl, trivial⟩

/-- **A stale service**: after a signature with the first key the second key is loaded, and its
signature is stamped by the service for the first. -/
theorem stale_service_contacted :
    let first : SessionEvent := .signData ⟨.bestEffort, .ok exampleSigned, {}⟩
    let st := signingStep exampleSigningEnv (signingStep exampleSigningEnv exampleSession first)
      (.loadKey [2] none)
    exampleSession.tsp.url = "" ∧ st.tsp.url = "https://ca.monobank.ua/services/tsp/dstu/" ∧
      freshUrl exampleSigningEnv st first = "http://uakey.com.ua/services/tsp/" ∧
      (contacts exampleSigningEnv st first).map Prod.fst =
        ["https://ca.monobank.ua/services/tsp/dstu/"] := by
  decide +kernel

end Tamga.Session
