/-
Finding the certificate for a private key (`core/net/CertificateResolver.cpp`).

Candidates come from the caller, from files beside the key, from a cache and from the network; one
check decides about all of them.  It takes a certificate for a key that the container lists, unless
its key usage can be read and rules signing out.

* `resolve_found` — the result is the first candidate that the check takes;
* `resolve_cacheWrites`, `resolve_contacted_of_offline` — what a call writes, and whom it asks;
* `resolve_first_usable_iff` — where that is the first certificate for a key of the container that
  may sign, and `misjudged_candidates` two requests where it is not.
-/
import Tamga.Encoding
import Tamga.FirstDecision
import Tamga.KeyPairing
import Tamga.Slice

namespace Tamga.Resolver

open FirstDecision Keys Slices Util List

/-! ### Files -/

/-- A directory, empty if the path has none, and the name of a file in it. -/
structure FilePath where
  dir : String
  name : String
  deriving DecidableEq, Repr

def FilePath.text (path : FilePath) : String :=
  if path.dir = "" then path.name else path.dir ++ "/" ++ path.name

structure FileSystem where
  currentDirectory : Option String
  isDirectory : String → Bool
  isRegularFile : FilePath → Bool
  /-- The names in a directory, in the order of iteration. -/
  listing : String → List String
  /-- The content of a regular file, unless it is larger than the limit. -/
  content : FilePath → Option Bytes

def readBinary (fs : FileSystem) (path : FilePath) : Option Bytes :=
  (fs.content path).filter (· != [])

/-- The stem and the extension of a name, as `std::filesystem` splits it. -/
def splitExtension (name : String) : String × String :=
  let chars := name.toList
  let after := (chars.reverse.takeWhile (· != '.')).reverse
  let stem := chars.take (chars.length - after.length - 1)
  if '.' ∉ chars ∨ stem = [] ∨ name = ".." then (name, "")
  else (String.ofList stem, "." ++ String.ofList after)

def kExtensions : List String := [".cer", ".crt", ".der", ".pem"]

def lowerAscii (value : String) : String := String.ofList (value.toList.map Char.toLower)

/-- The files with the name of the key, and then the other certificates of its directory. -/
def collectSidecarCandidates (fs : FileSystem) : Option FilePath → List FilePath
  | none => []
  | some keyPath =>
    let dir := if keyPath.dir = "" then fs.currentDirectory.getD "" else keyPath.dir
    if dir = "" ∨ fs.isDirectory dir = false then []
    else
      let siblings := (kExtensions.map fun ext =>
        (⟨dir, (splitExtension keyPath.name).1 ++ ext⟩ : FilePath)).filter fs.isRegularFile
      let others := ((fs.listing dir).map (FilePath.mk dir)).filter fun path =>
        fs.isRegularFile path && kExtensions.contains (lowerAscii (splitExtension path.name).2)
      siblings ++ others.filter fun path => !siblings.contains path

/-- The DER of a certificate, or that in the first PEM block. -/
def normalizeCertificateBytes (raw : Bytes) : Option Bytes :=
  if raw = [] then none
  else if raw.head? = some 0x30 then some raw
  else
    let text := (bytesText raw).toList
    match findSlice "-----BEGIN".toList text with
    | none => none
    | some start =>
      match findFrom ['\n'] start text with
      | none => none
      | some headerEnd =>
        match findFrom "-----END".toList headerEnd text with
        | none => none
        | some footer =>
          let body := (text.drop (headerEnd + 1)).take (footer - headerEnd - 1)
          let decoded := base64Decode (String.ofList body)
          if decoded.ok = true ∧ decoded.bytes.head? = some 0x30 then some decoded.bytes else none

/-! ### Requests and sources -/

structure CertificateResolveRequest where
  keyMaterial : Bytes
  password : String := ""
  explicitCertificateDer : Bytes := []
  explicitCertificatePath : Option FilePath := none
  keyFilePath : Option FilePath := none
  workDir : String := ""
  offlineMode : Bool := true
  networkTimeoutMs : Int := 10000
  preferredCaHint : String := ""
  ldapUrl : String := ""
  ldapBaseDn : String := ""
  httpCertificateUrl : String := ""
  cmpUrl : String := ""
  subjectIdentifier : String := ""
  caRegistryUrl : String := ""

structure CertificateResolveResult where
  succeeded : Bool := false
  certificateDer : Bytes := []
  source : String := ""
  sourceDetail : String := ""
  spkiSha256 : String := ""
  rejectedCandidates : Nat := 0
  message : String := ""
  deriving DecidableEq, Repr

structure CertificateFetchRequest where
  url : String
  baseDn : String := ""
  subjectHint : String := ""
  timeoutMs : Int := 10000
  deriving DecidableEq, Repr

structure CertificateFetchResult where
  executed : Bool := false
  candidates : List Bytes := []
  message : String := ""
  deriving DecidableEq, Repr

/-- Whom a call asks over the network.  The registry of authorities gives the CMP address of the
one that a hint names, if it names one. -/
structure Network where
  registry : CertificateResolveRequest → Except String (Option String)
  ldap : CertificateFetchRequest → CertificateFetchResult
  http : CertificateFetchRequest → CertificateFetchResult
  cmp : CertificateFetchRequest → CertificateFetchResult

inductive Contact
  | registry
  | ldap
  | http
  | cmp
  deriving DecidableEq, Repr

/-- What a call returns, writes into the cache, and whom it asks. -/
structure ResolveOutcome where
  result : CertificateResolveResult := {}
  cacheWrites : List (FilePath × Bytes) := []
  contacted : List Contact := []
  deriving DecidableEq, Repr

/-- Bytes that a source offers. -/
structure Candidate where
  source : String
  detail : String
  content : Bytes
  deriving DecidableEq, Repr

def kMissingCertificateMessage : String :=
  "Не знайдено відкритий сертифікат для закритого ключа. " ++
  "Покладіть файл сертифіката (.cer/.crt) поруч із ключем або передайте " ++
  "через параметр certificatePath"

/-! ### The check -/

/-- What the check has counted so far. -/
structure Rejections where
  count : Nat := 0
  byKeyUsage : Bool := false

section Resolve

variable (lib : PairingLib) (keys : List Bytes)

def certificateAllowsSigningUsage (der : Bytes) : Bool :=
  match lib.certDecode der with
  | .error _ => false
  | .ok facts => certificateAllowsSigning facts.keyUsage

/-- The closure `accept`. -/
def accept (st : Rejections) (candidate : Candidate) : Rejections × Option Bytes :=
  match normalizeCertificateBytes candidate.content with
  | none => (st, none)
  | some der =>
    if matchesKeys lib keys der = false then ({ st with count := st.count + 1 }, none)
    else if certificateAllowsSigningUsage lib der = false then
      ({ count := st.count + 1, byKeyUsage := true }, none)
    else (st, some der)

def tryCandidates (st : Rejections) : List Candidate → Rejections × Option (Candidate × Bytes)
  | [] => (st, none)
  | candidate :: rest =>
    match accept lib keys st candidate with
    | (st, some der) => (st, some (candidate, der))
    | (st, none) => tryCandidates st rest

/-- A network source: its name in the result and in messages, and the request for it. -/
structure NetworkStep where
  contact : Contact
  source : String
  label : String
  request : CertificateFetchRequest
  fetch : CertificateFetchRequest → CertificateFetchResult

def NetworkStep.candidates (step : NetworkStep) : List Candidate :=
  (step.fetch step.request).candidates.map (Candidate.mk step.source step.request.url)

def NetworkStep.attempt (step : NetworkStep) : String :=
  let fetched := step.fetch step.request
  step.label ++ ": " ++ (if fetched.executed then
    "no matching certificate among " ++ toString fetched.candidates.length ++ " candidate(s)"
    else fetched.message)

/-- The network sources one after the other, with the attempts and the contacts so far. -/
def tryNetwork (st : Rejections) (attempts : List String) (contacted : List Contact) :
    List NetworkStep →
      (Rejections × Option (Candidate × Bytes)) × List String × List Contact
  | [] => ((st, none), attempts, contacted)
  | step :: steps =>
    match tryCandidates lib keys st step.candidates with
    | (st, some hit) => ((st, some hit), attempts, contacted ++ [step.contact])
    | (st, none) => tryNetwork st (attempts ++ [step.attempt]) (contacted ++ [step.contact]) steps

end Resolve

/-! ### The cascade -/

section Cascade

variable (lib : PairingLib) (sha256 : Bytes → Bytes) (fs : FileSystem) (net : Network)
  (request : CertificateResolveRequest)

def computeSpkiFingerprint : Except String String :=
  match extractSubjectPublicKeyInfo lib request.keyMaterial request.password with
  | .error e => .error e
  | .ok spki => .ok (hexEncode (sha256 spki))

variable (keys : List Bytes) (spkiSha256 : String) (st : Rejections)

def cacheFile : Option FilePath :=
  if request.workDir = "" then none
  else some ⟨request.workDir ++ "/cert-cache", spkiSha256 ++ ".cer"⟩

def fileCandidates (source : String) (paths : List FilePath) : List Candidate :=
  paths.filterMap fun path => (readBinary fs path).map (Candidate.mk source path.text)

/-- The CMP address, with what the registry of authorities has to do with it. -/
def cmpAddress : String × List String × List Contact :=
  if (request.ldapUrl = "" ∨ request.cmpUrl = "") ∧ request.preferredCaHint ≠ "" then
    match net.registry request with
    | .error e => (request.cmpUrl, ["ca-registry: " ++ e], [.registry])
    | .ok none => (request.cmpUrl,
        ["ca-registry: no CA matches hint '" ++ request.preferredCaHint ++ "'"], [.registry])
    | .ok (some url) => (if request.cmpUrl = "" then url else request.cmpUrl, [], [.registry])
  else (request.cmpUrl, [], [])

def networkSteps : List NetworkStep :=
  let fetch (url : String) (baseDn : String) : CertificateFetchRequest :=
    { url := url, baseDn := baseDn, subjectHint := request.subjectIdentifier
      timeoutMs := request.networkTimeoutMs }
  [⟨.ldap, "ldap", "ldap", fetch request.ldapUrl request.ldapBaseDn, net.ldap⟩,
    ⟨.http, "czo-http", "http", fetch request.httpCertificateUrl "", net.http⟩,
    ⟨.cmp, "cmp", "cmp", fetch (cmpAddress net request).1 "", net.cmp⟩].filter
      fun step => step.request.url != ""

def taken (hit : Candidate × Bytes) : CertificateResolveResult where
  succeeded := true
  certificateDer := hit.2
  source := hit.1.source
  sourceDetail := hit.1.detail
  spkiSha256 := spkiSha256
  rejectedCandidates := st.count

def notFound (message : String) : CertificateResolveResult where
  spkiSha256 := spkiSha256
  rejectedCandidates := st.count
  message := message

/-- A certificate that the caller gave: it is taken, or nothing is. -/
def resolveExplicit (candidate : Candidate) (usageMessage otherMessage : String) : ResolveOutcome :=
  match accept lib keys {} candidate with
  | (st, some der) => { result := taken spkiSha256 st (candidate, der) }
  | (st, none) =>
    { result := notFound spkiSha256 st (if st.byKeyUsage then usageMessage else otherMessage) }

def cacheWrite (der : Bytes) : List (FilePath × Bytes) :=
  ((cacheFile request spkiSha256).map fun path => (path, der)).toList

def attemptsMessage (attempts : List String) : String :=
  if attempts = [] then
    " (no network source configured: set ldap_url, http_certificate_url, cmp_url, " ++
      "or a CA hint resolvable via CAs.json)"
  else " (" ++ "; ".intercalate attempts ++ ")"

def resolveNetwork : ResolveOutcome :=
  let address := cmpAddress net request
  match tryNetwork lib keys st address.2.1 address.2.2 (networkSteps net request) with
  | ((st, some hit), _, contacted) =>
    { result := taken spkiSha256 st hit
      cacheWrites := cacheWrite request spkiSha256 hit.2
      contacted := contacted }
  | ((st, none), attempts, contacted) =>
    { result := notFound spkiSha256 st (kMissingCertificateMessage ++ " (spki=" ++ spkiSha256 ++
        ")" ++ attemptsMessage attempts)
      contacted := contacted }

def sidecarCandidates : List Candidate :=
  fileCandidates fs "sidecar" (collectSidecarCandidates fs request.keyFilePath)

def cacheCandidates : List Candidate :=
  fileCandidates fs "cache" (cacheFile request spkiSha256).toList

def resolveSearch : ResolveOutcome :=
  match tryCandidates lib keys {} (sidecarCandidates fs request) with
  | (st, some hit) =>
    { result := taken spkiSha256 st hit, cacheWrites := cacheWrite request spkiSha256 hit.2 }
  | (st, none) =>
    match tryCandidates lib keys st (cacheCandidates fs request spkiSha256) with
    | (st, some hit) => { result := taken spkiSha256 st hit }
    | (st, none) =>
      if request.offlineMode then
        { result := notFound spkiSha256 st
            (kMissingCertificateMessage ++ " (offline, spki=" ++ spkiSha256 ++ ")") }
      else resolveNetwork lib net request keys spkiSha256 st

def resolve : ResolveOutcome :=
  if request.keyMaterial = [] then
    { result := { message := "Certificate resolution requires the private key material" } }
  else match computeSpkiFingerprint lib sha256 request with
  | .error e =>
    { result := { message := "Unable to derive the public key from the container: " ++ e } }
  | .ok spkiSha256 =>
    match load lib request.keyMaterial request.password with
    | .error e =>
      { result := { spkiSha256 := spkiSha256
                    message := "Unable to enumerate the container public keys: " ++ e } }
    | .ok keys =>
      if request.explicitCertificateDer ≠ [] then
        resolveExplicit lib keys spkiSha256
          ⟨"explicit-der", "descriptor", request.explicitCertificateDer⟩
          "Сертифікат відповідає ключу, але його keyUsage не дозволяє підпис"
          "The supplied certificate does not match the private key in the container"
      else match request.explicitCertificatePath with
      | some path =>
        match readBinary fs path with
        | none =>
          { result := notFound spkiSha256 {} ("Certificate file cannot be read: " ++ path.text) }
        | some raw =>
          resolveExplicit lib keys spkiSha256 ⟨"explicit-path", path.text, raw⟩
            ("Сертифікат відповідає ключу, але його keyUsage не дозволяє підпис: " ++ path.text)
            ("The certificate at " ++ path.text ++
              " does not match the private key in the container")
      | none => resolveSearch lib fs net request keys spkiSha256

/-! ### The first candidate taken -/

def takenDer (candidate : Candidate) : Option Bytes :=
  (normalizeCertificateBytes candidate.content).filter fun der =>
    matchesKeys lib keys der && certificateAllowsSigningUsage lib der

/-- Source, detail and certificate of what a call returns. -/
abbrev Answer := String × String × Bytes

def Candidate.answer (candidate : Candidate) (der : Bytes) : Answer :=
  (candidate.source, candidate.detail, der)

def judged (candidate : Candidate) : Option Answer :=
  (takenDer lib keys candidate).map candidate.answer

def found (result : CertificateResolveResult) : Option Answer :=
  if result.succeeded then some (result.source, result.sourceDetail, result.certificateDer)
  else none

variable {lib sha256 fs net request keys} (candidate : Candidate)

theorem accept_snd : (accept lib keys st candidate).2 = takenDer lib keys candidate := by
  rw [accept, takenDer]
  rcases normalizeCertificateBytes candidate.content with - | der
  · rfl
  · dsimp only
    rw [Option.filter_some]
    cases hmatch : matchesKeys lib keys der
    · rw [if_pos rfl]
      rfl
    · rw [if_neg (by decide)]
      cases husage : certificateAllowsSigningUsage lib der <;> rfl

theorem tryCandidates_snd (candidates : List Candidate) :
    ((tryCandidates lib keys st candidates).2.map fun hit => hit.1.answer hit.2) =
      candidates.findSome? (judged lib keys) := by
  induction candidates generalizing st with
  | nil => rfl
  | cons candidate candidates ih =>
    have hhead := @accept_snd lib keys st candidate
    rw [tryCandidates, List.findSome?_cons, judged]
    rcases haccept : accept lib keys st candidate with ⟨st', taken⟩
    rw [haccept] at hhead
    rw [← hhead]
    rcases taken with - | der
    · exact ih st'
    · rfl

theorem tryNetwork_snd (attempts : List String) (contacted : List Contact)
    (steps : List NetworkStep) :
    ((tryNetwork lib keys st attempts contacted steps).1.2.map fun hit => hit.1.answer hit.2) =
      (steps.flatMap NetworkStep.candidates).findSome? (judged lib keys) := by
  induction steps generalizing st attempts contacted with
  | nil => rfl
  | cons step steps ih =>
    have hhead := @tryCandidates_snd lib keys st step.candidates
    rw [tryNetwork, flatMap_cons, List.findSome?_append, ← hhead]
    rcases tryCandidates lib keys st step.candidates with ⟨st', - | hit⟩
    · exact ih st' _ _
    · rfl

variable (lib sha256 fs net request) in
/-- What the request lets the sources offer, in the order of the cascade. -/
def offered : List Candidate :=
  if request.explicitCertificateDer ≠ [] then
    [⟨"explicit-der", "descriptor", request.explicitCertificateDer⟩]
  else match request.explicitCertificatePath with
  | some path => fileCandidates fs "explicit-path" [path]
  | none =>
    sidecarCandidates fs request ++
      (match computeSpkiFingerprint lib sha256 request with
        | .error _ => []
        | .ok spkiSha256 => cacheCandidates fs request spkiSha256) ++
      (if request.offlineMode then [] else
        (networkSteps net request).flatMap NetworkStep.candidates)

variable (lib sha256 request) in
def listedKeys : List Bytes :=
  match computeSpkiFingerprint lib sha256 request,
    load lib request.keyMaterial request.password with
  | .ok _, .ok keys => keys
  | _, _ => []

theorem resolveExplicit_found (usageMessage otherMessage : String) :
    found (resolveExplicit lib keys spkiSha256 candidate usageMessage otherMessage).result =
      judged lib keys candidate := by
  have hhead := @accept_snd lib keys {} candidate
  rw [resolveExplicit, judged, ← hhead]
  rcases accept lib keys {} candidate with ⟨st, - | der⟩ <;> rfl

theorem resolveNetwork_found : found (resolveNetwork lib net request keys spkiSha256 st).result =
      ((networkSteps net request).flatMap NetworkStep.candidates).findSome? (judged lib keys) := by
  rw [← tryNetwork_snd st (cmpAddress net request).2.1 (cmpAddress net request).2.2, resolveNetwork]
  rcases tryNetwork lib keys st (cmpAddress net request).2.1 (cmpAddress net request).2.2
    (networkSteps net request) with ⟨⟨st', - | hit⟩, attempts, contacted⟩ <;> rfl

theorem resolveSearch_found : found (resolveSearch lib fs net request keys spkiSha256).result =
      (sidecarCandidates fs request ++ cacheCandidates fs request spkiSha256 ++
        (if request.offlineMode then [] else
          (networkSteps net request).flatMap NetworkStep.candidates)).findSome?
        (judged lib keys) := by
  rw [List.findSome?_append, List.findSome?_append, ← @tryCandidates_snd lib keys {}, resolveSearch]
  rcases tryCandidates lib keys {} (sidecarCandidates fs request) with ⟨st, - | hit⟩
  · dsimp only
    rw [← @tryCandidates_snd lib keys st]
    rcases tryCandidates lib keys st (cacheCandidates fs request spkiSha256) with ⟨st', - | hit⟩
    · dsimp only
      split
      · rfl
      · exact resolveNetwork_found spkiSha256 st'
    · rfl
  · rfl

theorem judged_nil : judged lib [] candidate = none := by
  have hnone : ∀ der, matchesKeys lib [] der = false := by
    intro der
    rw [Bool.eq_false_iff]
    intro h
    obtain ⟨-, facts, -, -, hmem⟩ := matchesKeys_iff.mp h
    exact absurd hmem not_mem_nil
  rw [judged, takenDer, Option.map_eq_none_iff, Option.filter_eq_none_iff]
  intro der _
  rw [hnone]
  exact Bool.false_ne_true

theorem findSome_judged_nil (candidates : List Candidate) :
    candidates.findSome? (judged lib []) = none := by
  rw [List.findSome?_eq_none_iff]
  exact fun candidate _ => judged_nil candidate

/-- **A call returns the first candidate that the check takes.** -/
theorem resolve_found : found (resolve lib sha256 fs net request).result =
    (offered lib sha256 fs net request).findSome? (judged lib (listedKeys lib sha256 request)) := by
  rw [resolve, listedKeys]
  split
  · next hempty =>
    have herror : ∃ e, computeSpkiFingerprint lib sha256 request = .error e := by
      rw [computeSpkiFingerprint, hempty]
      exact ⟨_, rfl⟩
    obtain ⟨e, he⟩ := herror
    rw [he, findSome_judged_nil]
    rfl
  · rcases hprint : computeSpkiFingerprint lib sha256 request with e | spkiSha256
    · rw [findSome_judged_nil]
      rfl
    rcases load lib request.keyMaterial request.password with e | keys
    · rw [findSome_judged_nil]
      rfl
    dsimp only
    rw [offered, hprint]
    split
    · rw [resolveExplicit_found, List.findSome?_cons, List.findSome?_nil]
      rcases judged lib keys _ <;> rfl
    rcases request.explicitCertificatePath with - | path
    · exact resolveSearch_found spkiSha256
    dsimp only
    rw [fileCandidates, filterMap_cons]
    rcases readBinary fs path with - | raw
    · rfl
    · dsimp only [Option.map_some]
      rw [resolveExplicit_found, filterMap_nil, List.findSome?_cons,
        List.findSome?_nil]
      rcases judged lib keys _ <;> rfl

theorem exists_offered_of_found {answer : Answer}
    (h : found (resolve lib sha256 fs net request).result = some answer) :
    ∃ candidate ∈ offered lib sha256 fs net request,
      normalizeCertificateBytes candidate.content = some answer.2.2 ∧
      matchesKeys lib (listedKeys lib sha256 request) answer.2.2 = true := by
  rw [resolve_found] at h
  obtain ⟨candidate, hmem, hjudged⟩ := exists_of_findSome?_eq_some h
  obtain ⟨der, hder, rfl⟩ := Option.map_eq_some_iff.mp hjudged
  obtain ⟨hnormal, hcheck⟩ := Option.filter_eq_some_iff.mp hder
  exact ⟨candidate, hmem, hnormal, (Bool.and_eq_true _ _).mp hcheck |>.1⟩

theorem listedKeys_subset {spki : Bytes} (h : spki ∈ listedKeys lib sha256 request) :
    spki ∈ containerKeys lib request.keyMaterial request.password := by
  rw [listedKeys] at h
  split at h
  · next hload => exact mem_containerKeys_of_load hload h
  · exact absurd h not_mem_nil

theorem resolve_matches {answer : Answer}
    (h : found (resolve lib sha256 fs net request).result = some answer) :
    ∃ facts, lib.certDecode answer.2.2 = .ok facts ∧
      facts.spki ∈ containerKeys lib request.keyMaterial request.password := by
  obtain ⟨-, -, -, hmatches⟩ := exists_offered_of_found h
  obtain ⟨-, facts, hfacts, -, hmem⟩ := matchesKeys_iff.mp hmatches
  exact ⟨facts, hfacts, listedKeys_subset hmem⟩

/-! ### The cache and the network -/

theorem resolve_cases {P : ResolveOutcome → Prop}
    (hfail : ∀ result, result.succeeded = false → P { result := result })
    (hexplicit : ∀ keys spkiSha256 candidate usageMessage otherMessage,
      request.explicitCertificateDer ≠ [] ∨ request.explicitCertificatePath ≠ none →
      candidate.source = "explicit-der" ∨ candidate.source = "explicit-path" →
      P (resolveExplicit lib keys spkiSha256 candidate usageMessage otherMessage))
    (hsearch : ∀ keys spkiSha256, request.explicitCertificateDer = [] →
      request.explicitCertificatePath = none →
      P (resolveSearch lib fs net request keys spkiSha256)) :
    P (resolve lib sha256 fs net request) := by
  rw [resolve]
  split
  · exact hfail _ rfl
  rcases computeSpkiFingerprint lib sha256 request with e | spkiSha256
  · exact hfail _ rfl
  rcases load lib request.keyMaterial request.password with e | keys
  · exact hfail _ rfl
  dsimp only
  split
  · next hder => exact hexplicit _ _ _ _ _ (Or.inl hder) (Or.inl rfl)
  next hder =>
  rcases hpath : request.explicitCertificatePath with - | path
  · exact hsearch _ _ (not_not.mp hder) hpath
  · dsimp only
    rcases readBinary fs path with - | raw
    · exact hfail _ rfl
    · refine hexplicit _ _ _ _ _ (Or.inr ?_) (Or.inr rfl)
      rw [hpath]
      exact Option.some_ne_none path

/-- Whatever is written is the certificate that is returned, under the name of the container. -/
def WritesOwn (request : CertificateResolveRequest) (outcome : ResolveOutcome) : Prop :=
  ∀ write ∈ outcome.cacheWrites, outcome.result.succeeded = true ∧
    write.2 = outcome.result.certificateDer ∧
    cacheFile request outcome.result.spkiSha256 = some write.1

theorem writesOwn_of_nil {outcome : ResolveOutcome} (h : outcome.cacheWrites = []) :
    WritesOwn request outcome := by
  intro write hwrite
  rw [h] at hwrite
  exact absurd hwrite not_mem_nil

theorem writesOwn_taken (hit : Candidate × Bytes) (contacted : List Contact) : WritesOwn request
      ⟨taken spkiSha256 st hit, cacheWrite request spkiSha256 hit.2, contacted⟩ := by
  intro write hwrite
  rw [cacheWrite, Option.mem_toList, Option.map_eq_some_iff] at hwrite
  obtain ⟨path, hpath, rfl⟩ := hwrite
  exact ⟨rfl, rfl, hpath⟩

theorem writesOwn_resolveSearch (keys : List Bytes) (spkiSha256 : String) :
    WritesOwn request (resolveSearch lib fs net request keys spkiSha256) := by
  rw [resolveSearch]
  rcases tryCandidates lib keys {} (sidecarCandidates fs request) with ⟨st, - | hit⟩
  · dsimp only
    rcases tryCandidates lib keys st (cacheCandidates fs request spkiSha256) with ⟨st', - | hit⟩
    · dsimp only
      split
      · exact writesOwn_of_nil rfl
      · rw [resolveNetwork]
        rcases tryNetwork lib keys st' (cmpAddress net request).2.1 (cmpAddress net request).2.2
          (networkSteps net request) with ⟨⟨st'', - | hit⟩, attempts, contacted⟩
        · exact writesOwn_of_nil rfl
        · exact writesOwn_taken spkiSha256 st'' hit contacted
    · exact writesOwn_of_nil rfl
  · exact writesOwn_taken spkiSha256 st hit []

variable (keys) in
theorem resolveExplicit_silent (usageMessage otherMessage : String) :
    (resolveExplicit lib keys spkiSha256 candidate usageMessage otherMessage).cacheWrites = [] ∧
      (resolveExplicit lib keys spkiSha256 candidate usageMessage otherMessage).contacted = [] := by
  rw [resolveExplicit]
  rcases accept lib keys {} candidate with ⟨st, - | der⟩ <;> exact ⟨rfl, rfl⟩

theorem resolve_cacheWrites : WritesOwn request (resolve lib sha256 fs net request) := by
  refine resolve_cases (fun result _ => writesOwn_of_nil rfl) ?_
    (fun keys spkiSha256 _ _ => writesOwn_resolveSearch keys spkiSha256)
  intro keys spkiSha256 candidate usageMessage otherMessage _ _
  exact writesOwn_of_nil (resolveExplicit_silent _ _ _ _ _).1

theorem resolve_contacted_of_offline (h : request.offlineMode = true) :
    (resolve lib sha256 fs net request).contacted = [] := by
  refine resolve_cases (P := fun outcome => outcome.contacted = []) (fun result _ => rfl) ?_ ?_
  · intro keys spkiSha256 candidate usageMessage otherMessage _ _
    exact (resolveExplicit_silent _ _ _ _ _).2
  intro keys spkiSha256 _ _
  rw [resolveSearch]
  rcases tryCandidates lib keys {} (sidecarCandidates fs request) with ⟨st, - | hit⟩
  · dsimp only
    rcases tryCandidates lib keys st (cacheCandidates fs request spkiSha256) with ⟨st', - | hit⟩
    · dsimp only
      rw [if_pos h]
    · rfl
  · rfl

theorem resolve_source_of_explicit
    (h : request.explicitCertificateDer ≠ [] ∨ request.explicitCertificatePath ≠ none) :
    ∀ answer ∈ found (resolve lib sha256 fs net request).result,
      answer.1 = "explicit-der" ∨ answer.1 = "explicit-path" := by
  refine resolve_cases (P := fun outcome => ∀ answer ∈ found outcome.result,
    answer.1 = "explicit-der" ∨ answer.1 = "explicit-path") ?_ ?_ ?_
  · intro result hfailed answer hanswer
    rw [found, hfailed] at hanswer
    cases hanswer
  · intro keys spkiSha256 candidate usageMessage otherMessage _ hsource answer hanswer
    rw [resolveExplicit_found] at hanswer
    obtain ⟨der, -, rfl⟩ := Option.map_eq_some_iff.mp hanswer
    exact hsource
  · intro keys spkiSha256 hder hpath
    exact absurd h (not_or.mpr ⟨not_not.mpr hder, not_not.mpr hpath⟩)

/-! ### The first usable certificate -/

/-- The key usage allows signing: it says so, or there is none. -/
def KeyUsage.allows : KeyUsage → Bool
  | .absent => true
  | .unreadable => false
  | .bits digitalSignature nonRepudiation => digitalSignature || nonRepudiation

variable (lib request) in
/-- A certificate for a key of the container that may sign. -/
def usableCertificate (der : Bytes) : Bool :=
  match lib.certDecode der with
  | .error _ => false
  | .ok facts =>
    (containerKeys lib request.keyMaterial request.password).contains facts.spki &&
      KeyUsage.allows facts.keyUsage

variable (lib request) in
def usable : Option Answer :=
  ((normalizeCertificateBytes candidate.content).filter (usableCertificate lib request)).map
    candidate.answer

variable (lib sha256 request) in
/-- The check takes a certificate whose key usage cannot be read, or passes over one for a key that
the container holds and does not list. -/
def MisjudgedFacts (facts : CertificateFacts) : Prop :=
  (facts.spki ∈ listedKeys lib sha256 request ∧ facts.keyUsage = .unreadable) ∨
    (facts.spki ∈ containerKeys lib request.keyMaterial request.password ∧
      facts.spki ∉ listedKeys lib sha256 request ∧ KeyUsage.allows facts.keyUsage = true)

variable (lib sha256 request) in
def Misjudged (candidate : Candidate) : Prop :=
  ∃ der facts, normalizeCertificateBytes candidate.content = some der ∧
    lib.certDecode der = .ok facts ∧ MisjudgedFacts lib sha256 request facts

theorem normalizeCertificateBytes_ne_nil {raw der : Bytes}
    (h : normalizeCertificateBytes raw = some der) : der ≠ [] := by
  have hhead : der.head? = some 0x30 := by
    rw [normalizeCertificateBytes] at h
    split at h
    · cases h
    split at h
    · next hhead =>
      cases h
      exact hhead
    · dsimp only at h
      split at h
      · cases h
      split at h
      · cases h
      · split at h
        · cases h
        · split at h
          · next hok =>
            cases h
            exact hok.2
          · cases h
  rintro rfl
  cases hhead

theorem check_iff {der : Bytes} {facts : CertificateFacts} (hder : der ≠ [])
    (hfacts : lib.certDecode der = .ok facts) :
    (matchesKeys lib (listedKeys lib sha256 request) der && certificateAllowsSigningUsage lib der) =
      true ↔ facts.spki ∈ listedKeys lib sha256 request ∧
        certificateAllowsSigning facts.keyUsage = true := by
  rw [Bool.and_eq_true, matchesKeys_iff, certificateAllowsSigningUsage, hfacts]
  constructor
  · rintro ⟨⟨-, facts', hfacts', -, hmem⟩, husage⟩
    cases hfacts'
    exact ⟨hmem, husage⟩
  · rintro ⟨hmem, husage⟩
    exact ⟨⟨hder, facts, rfl, containerKeys_ne_nil (listedKeys_subset hmem), hmem⟩, husage⟩

theorem usableCertificate_iff {der : Bytes} {facts : CertificateFacts}
    (hfacts : lib.certDecode der = .ok facts) :
    usableCertificate lib request der = true ↔
      facts.spki ∈ containerKeys lib request.keyMaterial request.password ∧
        KeyUsage.allows facts.keyUsage = true := by
  rw [usableCertificate, hfacts]
  simp only [Bool.and_eq_true, contains_iff_mem]

theorem check_eq_usable_iff {der : Bytes} {facts : CertificateFacts} (hder : der ≠ [])
    (hfacts : lib.certDecode der = .ok facts) :
    (matchesKeys lib (listedKeys lib sha256 request) der && certificateAllowsSigningUsage lib der) =
      usableCertificate lib request der ↔ ¬ MisjudgedFacts lib sha256 request facts := by
  rw [Bool.eq_iff_iff, check_iff hder hfacts, usableCertificate_iff hfacts, MisjudgedFacts]
  have hsub : facts.spki ∈ listedKeys lib sha256 request →
      facts.spki ∈ containerKeys lib request.keyMaterial request.password := listedKeys_subset
  rcases facts.keyUsage with - | - | ⟨digitalSignature, nonRepudiation⟩
  · simp only [certificateAllowsSigning, KeyUsage.allows, reduceCtorEq]
    tauto
  · simp only [certificateAllowsSigning, KeyUsage.allows, Bool.false_eq_true]
    tauto
  · simp only [certificateAllowsSigning, KeyUsage.allows, reduceCtorEq]
    tauto

theorem judged_eq_usable_iff :
    judged lib (listedKeys lib sha256 request) candidate = usable lib request candidate ↔
      ¬ Misjudged lib sha256 request candidate := by
  rw [judged, usable, takenDer, Misjudged]
  rcases hnormal : normalizeCertificateBytes candidate.content with - | der
  · refine ⟨fun _ => ?_, fun _ => rfl⟩
    rintro ⟨der, facts, hder, -⟩
    cases hder
  · have hder := normalizeCertificateBytes_ne_nil hnormal
    rcases hdecode : lib.certDecode der with rc | facts
    · -- nobody takes what is no certificate
      have hcheck : (matchesKeys lib (listedKeys lib sha256 request) der &&
          certificateAllowsSigningUsage lib der) = false := by
        rw [certificateAllowsSigningUsage, hdecode, Bool.and_false]
      have husable : usableCertificate lib request der = false := by
        rw [usableCertificate, hdecode]
      rw [Option.filter_some, Option.filter_some, hcheck, husable]
      refine ⟨fun _ => ?_, fun _ => rfl⟩
      rintro ⟨der', facts, hder', hfacts, -⟩
      cases hder'
      rw [hdecode] at hfacts
      cases hfacts
    · have hmis : (∃ der' facts', some der = some der' ∧ lib.certDecode der' = .ok facts' ∧
          MisjudgedFacts lib sha256 request facts') ↔ MisjudgedFacts lib sha256 request facts := by
        constructor
        · rintro ⟨der', facts', hder', hfacts', h⟩
          cases hder'
          rw [hdecode] at hfacts'
          cases hfacts'
          exact h
        · exact fun h => ⟨der, facts, rfl, hdecode, h⟩
      rw [hmis, ← check_eq_usable_iff hder hdecode, Option.filter_some, Option.filter_some]
      rcases (matchesKeys lib (listedKeys lib sha256 request) der &&
        certificateAllowsSigningUsage lib der) <;>
        rcases usableCertificate lib request der <;> simp

theorem judged_usable_consonant :
    Consonant (judged lib (listedKeys lib sha256 request)) (usable lib request) := by
  intro a b answer ha hb
  obtain ⟨der, hder, rfl⟩ := Option.map_eq_some_iff.mp ha
  obtain ⟨der', hder', hanswer⟩ := Option.map_eq_some_iff.mp hb
  obtain ⟨hsource, hdetail, rfl⟩ : b.source = a.source ∧ b.detail = a.detail ∧ der' = der := by
    simpa [Candidate.answer, Prod.ext_iff] using hanswer
  obtain ⟨hnormal, hcheck⟩ := Option.filter_eq_some_iff.mp hder
  obtain ⟨hnormal', husable⟩ := Option.filter_eq_some_iff.mp hder'
  refine ⟨?_, ?_⟩
  · rw [usable, hnormal, Option.filter_some, if_pos husable]
    rfl
  · rw [judged, takenDer, hnormal', Option.filter_some, if_pos hcheck, ← hanswer]
    rfl

variable (lib sha256 fs net request) in
/-- What is asked of a call: it returns the first certificate for a key of the container that may
sign, if there is one; it replaces no certificate of the caller, asks nobody without the network,
and writes only what it returns. -/
structure ResolvesFirstUsable : Prop where
  first : found (resolve lib sha256 fs net request).result =
    (offered lib sha256 fs net request).findSome? (usable lib request)
  explicit : request.explicitCertificateDer ≠ [] ∨ request.explicitCertificatePath ≠ none →
    ∀ answer ∈ found (resolve lib sha256 fs net request).result,
      answer.1 = "explicit-der" ∨ answer.1 = "explicit-path"
  offline : request.offlineMode = true → (resolve lib sha256 fs net request).contacted = []
  cached : WritesOwn request (resolve lib sha256 fs net request)

/-- **A call returns the first usable certificate exactly when no candidate up to that one is
misjudged.** -/
theorem resolve_first_usable_iff (lib : PairingLib) (sha256 : Bytes → Bytes) (fs : FileSystem)
    (net : Network) (request : CertificateResolveRequest) :
    ResolvesFirstUsable lib sha256 fs net request ↔
      ∀ pre candidate post, offered lib sha256 fs net request = pre ++ candidate :: post →
        (∀ earlier ∈ pre, usable lib request earlier = none) →
        ¬ Misjudged lib sha256 request candidate := by
  have hfirst : found (resolve lib sha256 fs net request).result =
      (offered lib sha256 fs net request).findSome? (usable lib request) ↔
      ∀ pre candidate post, offered lib sha256 fs net request = pre ++ candidate :: post →
        (∀ earlier ∈ pre, usable lib request earlier = none) →
        ¬ Misjudged lib sha256 request candidate := by
    rw [resolve_found, findSome_eq_iff judged_usable_consonant]
    simp only [judged_eq_usable_iff]
  rw [← hfirst]
  refine ⟨fun h => h.first, fun h => ⟨h, ?_, ?_, ?_⟩⟩
  · exact resolve_source_of_explicit
  · exact resolve_contacted_of_offline
  · exact resolve_cacheWrites

end Cascade

/-! ### Two candidates that are misjudged -/

/-- Containers with one key and with two keys of one alias; certificates for their keys, the first
with a key usage that cannot be read. -/
def examplePairing : PairingLib where
  pkcs12Decode material _ :=
    if material = [1] then some (.ok [⟨some "key1", .ok [0xA1]⟩])
    else some (.ok [⟨some "key", .ok [0xA1]⟩, ⟨some "key", .ok [0xA2]⟩])
  pkcs8PublicKey _ := .error 1
  certDecode der :=
    if der = [0x30, 0x01] then .ok ⟨[0xA1], .unreadable⟩
    else if der = [0x30, 0x02] then .ok ⟨[0xA1], .bits true false⟩
    else .error 1

def noFiles : FileSystem where
  currentDirectory := none
  isDirectory _ := false
  isRegularFile _ := false
  listing _ := []
  content _ := none

def exampleNetwork : Network where
  registry _ := .error "unavailable"
  ldap _ := { executed := true, candidates := [[0x30, 0x01]] }
  http _ := {}
  cmp _ := {}

def ldapRequest : CertificateResolveRequest where
  keyMaterial := [1]
  offlineMode := false
  ldapUrl := "ldap://ca.example"

def twoKeysRequest : CertificateResolveRequest where
  keyMaterial := [2]
  explicitCertificateDer := [0x30, 0x02]

/-- A certificate whose key usage cannot be read is returned, and one for the first of two keys
with one alias is refused. -/
theorem misjudged_candidates :
    (found (resolve examplePairing id noFiles exampleNetwork ldapRequest).result =
        some ("ldap", "ldap://ca.example", [0x30, 0x01]) ∧
      ¬ ResolvesFirstUsable examplePairing id noFiles exampleNetwork ldapRequest) ∧
    (found (resolve examplePairing id noFiles exampleNetwork twoKeysRequest).result = none ∧
      ¬ ResolvesFirstUsable examplePairing id noFiles exampleNetwork twoKeysRequest) := by
  have hldap : found (resolve examplePairing id noFiles exampleNetwork ldapRequest).result =
      some ("ldap", "ldap://ca.example", [0x30, 0x01]) := by decide +kernel
  have htwo : found (resolve examplePairing id noFiles exampleNetwork twoKeysRequest).result =
      none := by decide +kernel
  refine ⟨⟨hldap, fun h => ?_⟩, htwo, fun h => ?_⟩
  · have hfirst := h.first
    exact absurd hfirst (by decide +kernel)
  · have hfirst := h.first
    exact absurd hfirst (by decide +kernel)

end Tamga.Resolver
