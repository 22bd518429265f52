/-
Fetching missing issuer certificates (`AiaIssuerFetcher.cpp`).

A certificate names addresses at which its issuer can be had.  The fetcher asks them level by
level, reads certificates out of the answers, and goes on with those whose hash it has not seen.
The hash is FNV-1a with 64 bits, which is made for tables and not against an adversary: another
certificate with the hash of a seed, or of one that was fetched before, is taken for known.

* `FetchInv.runLevels` — what holds after any number of levels, whatever the servers answer;
* `fetch_loses_nothing_iff` — nothing is lost exactly where the hash tells apart what can be
  obtained, and `colliding_issuer_lost` two certificates that it does not.
-/
import Mathlib.Algebra.Group.Nat.Defs
import Mathlib.Data.List.Dedup
import Mathlib.Data.List.Perm.Subperm
import Mathlib.Logic.Function.Basic
import Tamga.HttpClient
import Tamga.KeyedCollection
import Tamga.PemLoader

namespace Tamga.Aia

open KeyedCollection Keys Net Util List

/-! ### The hash -/

def hexFromUInt64 (value : UInt64) : String :=
  String.ofList ((List.range 16).map fun i =>
    "0123456789abcdef".toList.getD (value.toNat / 16 ^ (15 - i) % 16) '0')

def stableDerHash (data : Bytes) : String :=
  hexFromUInt64 (data.foldl (fun hash byte => (hash ^^^ byte.toUInt64) * 1099511628211)
    1469598103934665603)

/-! ### Addresses in a certificate -/

/-- What the ASN.1 library finds in a certificate and in a `SignedData`.  Neither is empty. -/
structure CertificateLib where
  isDecodable : Bytes → Bool
  /-- The URIs of the descriptions with the access method `caIssuers`. -/
  caIssuersUris : Bytes → List String
  pkcs7Certificates : Bytes → List Bytes
  isDecodable_nil : isDecodable [] = false
  pkcs7Certificates_nil : pkcs7Certificates [] = []

def isLikelyHttpUrl (url : String) : Bool :=
  "http://".toList.isPrefixOf url.toList || "https://".toList.isPrefixOf url.toList

def addUniqueUrl (urls : List String) (url : String) : List String :=
  if url = "" ∨ isLikelyHttpUrl url = false then urls
  else if url ∈ urls then urls
  else urls ++ [url]

def kAiaOid : Bytes := [0x06, 0x08, 0x2b, 0x06, 0x01, 0x05, 0x05, 0x07, 0x01, 0x01]

def kCaIssuersOid : Bytes := [0x06, 0x08, 0x2b, 0x06, 0x01, 0x05, 0x05, 0x07, 0x30, 0x02]

/-- The places at which the needle begins, overlapping ones included. -/
def occurrences (needle data : Bytes) : List Nat :=
  (List.range data.length).filter fun i => needle.isPrefixOf (data.drop i)

def uriAt (der : Bytes) (uriTag : Nat) : Option String :=
  if uriTag + 2 ≤ der.length ∧ der.getD uriTag 0 = 0x86 then
    let uriLen := (der.getD (uriTag + 1) 0).toNat
    if uriTag + 2 + uriLen ≤ der.length then
      some (bytesText ((der.drop (uriTag + 2)).take uriLen))
    else none
  else none

/-- What `AppendRawScannedAiaUrls` offers: from each AIA identifier to the next, the URIs that
follow an identifier of `caIssuers`. -/
def rawScannedUrls (der : Bytes) : List String :=
  let starts := occurrences kAiaOid der
  (starts.zip (starts.tail ++ [der.length])).flatMap fun (searchStart, searchEnd) =>
    ((occurrences kCaIssuersOid der).filter fun caPos =>
      searchStart ≤ caPos ∧ caPos + kCaIssuersOid.length ≤ searchEnd).filterMap fun caPos =>
        uriAt der (caPos + kCaIssuersOid.length)

def extractCaIssuersUrls (lib : CertificateLib) (certificateDer : Bytes) : List String :=
  (lib.caIssuersUris certificateDer ++ rawScannedUrls certificateDer).foldl addUniqueUrl []

/-! ### Certificates in an answer -/

variable (lib : CertificateLib)

def blockCertificates (block : PemBlock) : List Bytes :=
  if containsText block.type "CERTIFICATE" then
    if lib.isDecodable block.derPayload then [block.derPayload] else []
  else if containsText block.type "PKCS7" ∨ containsText block.type "PKCS #7" ∨
      containsText block.type "CMS" then
    lib.pkcs7Certificates block.derPayload
  else []

def parseDownloadedCertificates (body : Bytes) : List Bytes × String :=
  if body = [] then ([], "AIA issuer response is empty")
  else if body.head? = some 0x30 then
    if lib.isDecodable body then ([body], "")
    else
      let certificates := lib.pkcs7Certificates body
      (certificates, if certificates = [] then
        "AIA issuer response is neither DER certificate nor supported PKCS#7" else "")
  else match loadAll body false with
  | .error e => ([], e)
  | .ok blocks =>
    let certificates := blocks.flatMap (blockCertificates lib)
    (certificates, if certificates = [] then
      "AIA issuer PEM response does not contain certificates" else "")

def Obtainable (certificate : Bytes) : Prop :=
  lib.isDecodable certificate = true ∨ ∃ payload, certificate ∈ lib.pkcs7Certificates payload

variable {lib}

theorem obtainable_of_mem_block {block : PemBlock} {certificate : Bytes}
    (h : certificate ∈ blockCertificates lib block) : Obtainable lib certificate := by
  rw [blockCertificates] at h
  split at h
  · split at h
    · next hdecodes =>
      rw [mem_singleton.mp h]
      exact Or.inl hdecodes
    · exact absurd h not_mem_nil
  · split at h
    · exact Or.inr ⟨_, h⟩
    · exact absurd h not_mem_nil

theorem obtainable_of_mem_parse {body certificate : Bytes}
    (h : certificate ∈ (parseDownloadedCertificates lib body).1) : Obtainable lib certificate := by
  rw [parseDownloadedCertificates] at h
  split at h
  · exact absurd h not_mem_nil
  split at h
  · split at h
    · next hdecodes =>
      rw [mem_singleton.mp h]
      exact Or.inl hdecodes
    · exact Or.inr ⟨_, h⟩
  · split at h
    · exact absurd h not_mem_nil
    · obtain ⟨block, -, h⟩ := mem_flatMap.mp h
      exact obtainable_of_mem_block h

theorem writable_of_label {label : String} {payload : Bytes}
    (hlabel : label.toList.all (fun c => c != '-' && decide (c.toNat < 256)) = true)
    (hpayload : payload ≠ []) : PemBlock.Writable ⟨label, payload⟩ := by
  have hchar : ∀ c ∈ label.toList, c ≠ '-' ∧ c.toNat < 256 := by
    intro c hc
    simpa using all_eq_true.mp hlabel c hc
  exact ⟨fun hmem => (hchar _ hmem).1 rfl, fun c hc => (hchar c hc).2, hpayload⟩

theorem exists_block {certificate : Bytes} (h : Obtainable lib certificate) :
    ∃ block : PemBlock, block.Writable ∧ certificate ∈ blockCertificates lib block := by
  rcases h with hdecodes | ⟨payload, hmem⟩
  · refine ⟨⟨"CERTIFICATE", certificate⟩, writable_of_label (by decide) ?_, ?_⟩
    · rintro rfl
      rw [lib.isDecodable_nil] at hdecodes
      cases hdecodes
    · have hcertificate : containsText "CERTIFICATE" "CERTIFICATE" = true := by decide
      rw [blockCertificates, if_pos hcertificate, if_pos hdecodes]
      exact mem_cons_self
  · refine ⟨⟨"PKCS7", payload⟩, writable_of_label (by decide) ?_, ?_⟩
    · rintro rfl
      rw [lib.pkcs7Certificates_nil] at hmem
      exact absurd hmem not_mem_nil
    · have hcertificate : ¬ containsText "PKCS7" "CERTIFICATE" = true := by decide
      have hpkcs7 : containsText "PKCS7" "PKCS7" = true := by decide
      rw [blockCertificates, if_neg hcertificate, if_pos (Or.inl hpkcs7)]
      exact hmem

theorem exists_body {c d : Bytes} (hc : Obtainable lib c) (hd : Obtainable lib d) :
    ∃ body, c ∈ (parseDownloadedCertificates lib body).1 ∧
      d ∈ (parseDownloadedCertificates lib body).1 := by
  obtain ⟨b₁, hb₁, hc⟩ := exists_block hc
  obtain ⟨b₂, hb₂, hd⟩ := exists_block hd
  have hall : ∀ block ∈ [b₁, b₂], block.Writable :=
    forall_mem_cons.mpr ⟨hb₁, forall_mem_singleton.mpr hb₂⟩
  obtain ⟨hhead, hload⟩ := loadAll_pemBytes (cons_ne_nil b₁ [b₂]) hall
  have hparse : (parseDownloadedCertificates lib (pemBytes [b₁, b₂])).1 =
      [b₁, b₂].flatMap (blockCertificates lib) := by
    rw [parseDownloadedCertificates, if_neg, if_neg, hload]
    · rw [hhead]
      decide
    · intro hnil
      rw [hnil] at hhead
      cases hhead
  refine ⟨pemBytes [b₁, b₂], ?_, ?_⟩ <;> rw [hparse, mem_flatMap]
  · exact ⟨b₁, mem_cons_self, hc⟩
  · exact ⟨b₂, mem_cons_of_mem _ mem_cons_self, hd⟩

/-! ### Fetching -/

structure AiaIssuerFetchInput where
  networkEnabled : Bool := false
  workDir : String := ""
  timeoutMs : Int := 10000
  maxDepth : Nat := 6
  maxUrls : Nat := 16
  maxRetries : Nat := 2
  seedCertificatesDer : List Bytes := []

structure AiaIssuerFetchResult where
  attempted : Bool := false
  downloadedCount : Nat := 0
  cachedCount : Nat := 0
  message : String := ""
  certificatesDer : List Bytes := []
  deriving DecidableEq, Repr

/-- The files of the directory `intermediate-store`, and which writes succeed. -/
structure IntermediateStore where
  files : String → Option Bytes
  accepts : String → Bytes → Bool

/-- Where the fetcher stands.  Kept besides its variables: the requests in their order, all
certificates that were parsed, and the number of levels. -/
structure FetchState where
  attemptedUrls : List String
  seenCertHashes : List String
  certificatesDer : List Bytes
  cachedCount : Nat
  files : String → Option Bytes
  requests : List String
  parsed : List Bytes
  levels : Nat

def isHttpSuccess (response : HttpPostResult) : Bool :=
  response.succeeded && 200 ≤ response.statusCode && response.statusCode < 300

def cacheName (certificate : Bytes) : String := "aia-" ++ stableDerHash certificate ++ ".cer"

/-- The servers: the answer to a request may depend on how many came before it. -/
abbrev Servers := Nat → String → HttpPostResult

/-- The number of requests for a URL, and the last answer. -/
def getWithRetries (servers : Servers) (url : String) : Nat → Nat → Nat × HttpPostResult
  | 0, _ => (0, {})
  | attempts + 1, sent =>
    let response := servers sent url
    if isHttpSuccess response = true ∨ attempts = 0 then (1, response)
    else
      let later := getWithRetries servers url attempts (sent + 1)
      (later.1 + 1, later.2)

section Fetch

variable (lib : CertificateLib) (accepts : String → Bytes → Bool) (input : AiaIssuerFetchInput)
  (servers : Servers)

variable (st : FetchState)

def keepCertificate (certificate : Bytes) : FetchState :=
  let hash := stableDerHash certificate
  if hash ∈ st.seenCertHashes then st
  else
    let written := accepts (cacheName certificate) certificate
    { st with
      seenCertHashes := st.seenCertHashes ++ [hash]
      files := if written then Function.update st.files (cacheName certificate) (some certificate)
        else st.files
      cachedCount := if written then st.cachedCount + 1 else st.cachedCount
      certificatesDer := st.certificatesDer ++ [certificate] }

def keepDownloaded (downloaded : List Bytes) : FetchState :=
  downloaded.foldl (keepCertificate accepts) { st with parsed := st.parsed ++ downloaded }

def fetchUrl (url : String) : FetchState :=
  if input.maxUrls ≤ st.attemptedUrls.length ∨ url ∈ st.attemptedUrls then st
  else
    let got := getWithRetries servers url (max 1 input.maxRetries) st.requests.length
    let st := { st with
      attemptedUrls := st.attemptedUrls ++ [url]
      requests := st.requests ++ List.replicate got.1 url }
    if isHttpSuccess got.2 then
      keepDownloaded accepts st (parseDownloadedCertificates lib got.2.body).1
    else st

def processCertificate (certificate : Bytes) : FetchState :=
  if input.maxUrls ≤ st.attemptedUrls.length then st
  else (extractCaIssuersUrls lib certificate).foldl (fetchUrl lib accepts input servers) st

/-- The levels.  A level goes through the seeds and what was fetched when it begins; one that the
limit on URLs cuts short is the last. -/
def runLevels : Nat → Nat → FetchState → FetchState
  | 0, _, st => st
  | depth + 1, processed, st =>
    let queue := input.seedCertificatesDer ++ st.certificatesDer
    if processed < queue.length ∧ st.attemptedUrls.length < input.maxUrls then
      let after := (queue.drop processed).foldl (processCertificate lib accepts input servers) st
      runLevels depth queue.length { after with levels := after.levels + 1 }
    else st

def initialState (files : String → Option Bytes) : FetchState where
  attemptedUrls := []
  seenCertHashes := input.seedCertificatesDer.map stableDerHash
  certificatesDer := []
  cachedCount := 0
  files := files
  requests := []
  parsed := []
  levels := 0

/-- The result, and the state at the end. -/
def fetchMissingIssuers (store : IntermediateStore) : AiaIssuerFetchResult × FetchState :=
  let start := initialState input store.files
  if input.networkEnabled = false then
    ({ message := "AIA issuer fetch skipped: network access was not explicitly enabled" }, start)
  else if input.workDir = "" ∨ input.seedCertificatesDer = [] ∨ input.maxDepth = 0 ∨
      input.maxUrls = 0 then
    ({ message := "AIA issuer fetch skipped: empty input" }, start)
  else
    let st := runLevels lib store.accepts input servers input.maxDepth 0 start
    ({ attempted := st.attemptedUrls != []
       downloadedCount := st.certificatesDer.length
       cachedCount := st.cachedCount
       message := "AIA issuer fallback downloaded " ++ toString st.certificatesDer.length ++
        " certificate(s), cached " ++ toString st.cachedCount ++ "."
       certificatesDer := st.certificatesDer }, st)

/-! ### The certificates of one answer -/

variable {lib accepts input servers}

/-- The hashes seen are those of the seeds and of what was fetched, and each file that was written
still holds its certificate. -/
structure Consistent (accepts : String → Bytes → Bool) (seeds : List Bytes) (st : FetchState) :
    Prop where
  seen : st.seenCertHashes = (seeds ++ st.certificatesDer).map stableDerHash
  stored : ∀ c ∈ st.certificatesDer, accepts (cacheName c) c = true →
    st.files (cacheName c) = some c

theorem cacheName_eq_iff {c d : Bytes} :
    cacheName c = cacheName d ↔ stableDerHash c = stableDerHash d := by
  refine ⟨fun h => ?_, fun h => by rw [cacheName, cacheName, h]⟩
  have hlist := congrArg String.toList h
  simp only [cacheName, String.toList_append] at hlist
  exact String.toList_inj.mp (append_cancel_left (append_cancel_right hlist))

variable {st : FetchState}

theorem keepCertificate_certificatesDer {seeds : List Bytes} (h : Consistent accepts seeds st)
    (c : Bytes) :
    (keepCertificate accepts st c).certificatesDer =
      keep stableDerHash seeds st.certificatesDer c := by
  rw [keepCertificate, keep, ← h.seen]
  split <;> rfl

theorem Consistent.keepCertificate {seeds : List Bytes} {st : FetchState}
    (h : Consistent accepts seeds st) (c : Bytes) :
    Consistent accepts seeds (keepCertificate accepts st c) := by
  rw [Aia.keepCertificate]
  split
  · exact h
  next hnew =>
  refine ⟨?_, fun d hd haccepts => ?_⟩
  · show st.seenCertHashes ++ _ = _
    rw [h.seen]
    simp only [map_append, append_assoc, map_singleton]
  · rcases mem_append.mp hd with hd | hd
    · -- an earlier certificate has another name
      have hname : cacheName d ≠ cacheName c := by
        intro heq
        refine hnew ?_
        rw [h.seen, ← cacheName_eq_iff.mp heq]
        exact mem_map_of_mem (mem_append_right _ hd)
      show (if _ then _ else _ : String → Option Bytes) _ = _
      split
      · rw [Function.update_of_ne hname]
        exact h.stored d hd haccepts
      · exact h.stored d hd haccepts
    · rw [mem_singleton.mp hd] at haccepts ⊢
      show (if _ then _ else _ : String → Option Bytes) _ = _
      rw [if_pos haccepts, Function.update_self]

/-- What the certificates of an answer do: they leave the requests alone, and those with a new hash
are kept. -/
structure Keeps (accepts : String → Bytes → Bool) (downloaded : List Bytes) (st st' : FetchState) :
    Prop where
  attemptedUrls : st'.attemptedUrls = st.attemptedUrls
  requests : st'.requests = st.requests
  parsed : st'.parsed = st.parsed
  levels : st'.levels = st.levels
  kept : ∀ {seeds}, Consistent accepts seeds st → Consistent accepts seeds st' ∧
    st'.certificatesDer = downloaded.foldl (keep stableDerHash seeds) st.certificatesDer

theorem foldl_keepCertificate (downloaded : List Bytes) (st : FetchState) :
    Keeps accepts downloaded st (downloaded.foldl (keepCertificate accepts) st) := by
  induction downloaded generalizing st with
  | nil => exact ⟨rfl, rfl, rfl, rfl, fun h => ⟨h, rfl⟩⟩
  | cons c downloaded ih =>
    have hsame : (keepCertificate accepts st c).attemptedUrls = st.attemptedUrls ∧
        (keepCertificate accepts st c).requests = st.requests ∧
        (keepCertificate accepts st c).parsed = st.parsed ∧
        (keepCertificate accepts st c).levels = st.levels := by
      rw [keepCertificate]
      split <;> exact ⟨rfl, rfl, rfl, rfl⟩
    obtain ⟨h₁, h₂, h₃, h₄, hkept⟩ := ih (keepCertificate accepts st c)
    refine ⟨h₁.trans hsame.1, h₂.trans hsame.2.1, h₃.trans hsame.2.2.1, h₄.trans hsame.2.2.2,
      fun h => ?_⟩
    obtain ⟨hcons, heq⟩ := hkept (h.keepCertificate c)
    rw [keepCertificate_certificatesDer h] at heq
    exact ⟨hcons, heq⟩

/-! ### One URL -/

theorem getWithRetries_le (servers : Servers) (url : String) : ∀ attempts sent,
    (getWithRetries servers url attempts sent).1 ≤ attempts
  | 0, _ => Nat.le_refl 0
  | attempts + 1, sent => by
    rw [getWithRetries]
    dsimp only
    split
    · exact Nat.succ_le_succ (Nat.zero_le _)
    · exact Nat.succ_le_succ (getWithRetries_le servers url attempts (sent + 1))

theorem fetchUrl_cases (url : String) : fetchUrl lib accepts input servers st url = st ∨
    ∃ count downloaded, st.attemptedUrls.length < input.maxUrls ∧ url ∉ st.attemptedUrls ∧
      count ≤ max 1 input.maxRetries ∧ (∀ c ∈ downloaded, Obtainable lib c) ∧
      Keeps accepts downloaded
        { st with
          attemptedUrls := st.attemptedUrls ++ [url]
          requests := st.requests ++ List.replicate count url
          parsed := st.parsed ++ downloaded } (fetchUrl lib accepts input servers st url) := by
  rw [fetchUrl]
  split
  · exact Or.inl rfl
  next hnew =>
  rw [not_or, Nat.not_le] at hnew
  have hle := getWithRetries_le servers url (max 1 input.maxRetries) st.requests.length
  right
  dsimp only
  split
  · exact ⟨_, _, hnew.1, hnew.2, hle, fun c hc => obtainable_of_mem_parse hc,
      foldl_keepCertificate _ _⟩
  · refine ⟨_, [], hnew.1, hnew.2, hle, fun c hc => absurd hc not_mem_nil, ?_⟩
    rw [append_nil]
    exact foldl_keepCertificate [] _

variable (lib accepts input st) in
structure FetchInv : Prop where
  consistent : Consistent accepts input.seedCertificatesDer st
  urls : st.attemptedUrls.length ≤ input.maxUrls
  requested : ∀ url ∈ st.requests, url ∈ st.attemptedUrls
  retries : ∀ url, st.requests.count url ≤ max 1 input.maxRetries
  distinct : Distinct stableDerHash input.seedCertificatesDer st.certificatesDer
  obtainable : ∀ c ∈ st.parsed, Obtainable lib c
  parsed : ∀ c ∈ st.certificatesDer, c ∈ st.parsed
  complete : Separates stableDerHash input.seedCertificatesDer (Obtainable lib) →
    ∀ c ∈ st.parsed, c ∉ input.seedCertificatesDer → c ∈ st.certificatesDer

theorem FetchInv.fetchUrl {st : FetchState} (h : FetchInv lib accepts input st) (url : String) :
    FetchInv lib accepts input (fetchUrl lib accepts input servers st url) := by
  rcases @fetchUrl_cases lib accepts input servers st url with
    heq | ⟨count, downloaded, hurls, hnew, hcount, hobtain, hsame₁, hsame₂, hsame₃, -, hkept⟩
  · rwa [heq]
  obtain ⟨hafter, hcerts⟩ := hkept ⟨h.consistent.seen, h.consistent.stored⟩
  have hall : ∀ c ∈ st.parsed ++ downloaded, Obtainable lib c := by
    intro c hc
    rcases mem_append.mp hc with hc | hc
    · exact h.obtainable c hc
    · exact hobtain c hc
  refine ⟨hafter, ?_, ?_, ?_, ?_, ?_, ?_, ?_⟩
  · rw [hsame₁, length_append, length_singleton]
    omega
  · rw [hsame₁, hsame₂]
    intro u hu
    rcases mem_append.mp hu with hu | hu
    · exact mem_append_left _ (h.requested u hu)
    · rw [eq_of_mem_replicate hu]
      exact mem_append_right _ mem_cons_self
  · intro u
    rw [hsame₂, count_append, count_replicate]
    split
    · next heq =>
      -- a new URL has not been requested before
      have hzero : st.requests.count u = 0 := by
        rw [count_eq_zero, ← beq_iff_eq.mp heq]
        exact fun hmem => hnew (h.requested _ hmem)
      omega
    · exact h.retries u
  · rw [hcerts]
    exact h.distinct.foldl_keep downloaded
  · rw [hsame₃]
    exact hall
  · rw [hsame₃, hcerts]
    intro c hc
    rcases mem_or_mem_of_mem_foldl_keep hc with hc | hc
    · exact mem_append_left _ (h.parsed c hc)
    · exact mem_append_right _ hc
  · rw [hsame₃, hcerts]
    intro hsep c hc hseed
    rcases mem_append.mp hc with hc | hc
    · exact mem_foldl_keep_of_mem downloaded (h.complete hsep c hc hseed)
    · exact mem_foldl_keep hsep h.distinct (fun d hd => h.obtainable d (h.parsed d hd)) hobtain hc
        hseed

theorem fetchUrl_levels (st : FetchState) (url : String) :
    (fetchUrl lib accepts input servers st url).levels = st.levels := by
  rcases @fetchUrl_cases lib accepts input servers st url with
    heq | ⟨count, downloaded, -, -, -, -, hkeeps⟩
  · rw [heq]
  · exact hkeeps.levels

/-! ### Whole runs -/

theorem processCertificates_induction {P : FetchState → Prop}
    (hurl : ∀ st url, P st → P (fetchUrl lib accepts input servers st url)) (certs : List Bytes)
    (hst : P st) : P (certs.foldl (processCertificate lib accepts input servers) st) := by
  refine List.foldlRecOn _ _ hst fun st hst certificate _ => ?_
  rw [processCertificate]
  split
  · exact hst
  · exact List.foldlRecOn _ _ hst fun st hst url _ => hurl st url hst

theorem runLevels_induction {P : FetchState → Prop}
    (hlevel : ∀ st n, P st → P { st with levels := n })
    (hurl : ∀ st url, P st → P (fetchUrl lib accepts input servers st url)) (depth processed : Nat)
    (hst : P st) : P (runLevels lib accepts input servers depth processed st) := by
  induction depth generalizing processed st with
  | zero => exact hst
  | succ depth ih =>
    rw [runLevels]
    split
    · exact ih _ (hlevel _ _ (processCertificates_induction hurl _ hst))
    · exact hst

theorem runLevels_levels (depth processed : Nat) (st : FetchState) :
    (runLevels lib accepts input servers depth processed st).levels ≤ st.levels + depth := by
  induction depth generalizing processed st with
  | zero => exact Nat.le_refl _
  | succ depth ih =>
    rw [runLevels]
    split
    · refine Nat.le_trans (ih _ _) ?_
      have hsame : ((input.seedCertificatesDer ++ st.certificatesDer).drop processed |>.foldl
          (processCertificate lib accepts input servers) st).levels = st.levels :=
        processCertificates_induction (P := fun s => s.levels = st.levels)
          (fun s url hs => (fetchUrl_levels s url).trans hs) _ rfl
      show _ + 1 + depth ≤ _
      omega
    · exact Nat.le_add_right _ _

theorem FetchInv.runLevels {st : FetchState} (h : FetchInv lib accepts input st)
    (depth processed : Nat) :
    FetchInv lib accepts input (runLevels lib accepts input servers depth processed st) := by
  refine runLevels_induction (fun st n hst => ?_) (fun st url hst => hst.fetchUrl url) _ _ h
  exact ⟨⟨hst.consistent.seen, hst.consistent.stored⟩, hst.urls, hst.requested, hst.retries,
    hst.distinct, hst.obtainable, hst.parsed, hst.complete⟩

theorem fetchInv_initialState (files : String → Option Bytes) :
    FetchInv lib accepts input (initialState input files) := by
  have hnone : ∀ {c : Bytes} {p : Prop}, c ∈ ([] : List Bytes) → p := fun h =>
    absurd h not_mem_nil
  refine ⟨⟨?_, fun c hc => hnone hc⟩, Nat.zero_le _, fun u hu => absurd hu not_mem_nil,
    fun u => Nat.zero_le _, Distinct.nil, fun c hc => hnone hc, fun c hc => hnone hc,
    fun _ c hc => hnone hc⟩
  rw [initialState, append_nil]

/-! ### Servers that always bring the same -/

theorem mem_parsed_fetchUrl {c : Bytes} (h : c ∈ st.parsed) (url : String) :
    c ∈ (fetchUrl lib accepts input servers st url).parsed := by
  rcases @fetchUrl_cases lib accepts input servers st url with
    heq | ⟨count, downloaded, -, -, -, -, hkeeps⟩
  · rwa [heq]
  · rw [hkeeps.parsed]
    exact mem_append_left _ h

def servingAlways (body : Bytes) : Servers := fun _ _ =>
  { attempted := true, succeeded := true, statusCode := 200, body := body }

theorem getWithRetries_servingAlways (body : Bytes) (url : String) (attempts sent : Nat)
    (h : attempts ≠ 0) : (getWithRetries (servingAlways body) url attempts sent).2 =
      servingAlways body sent url := by
  obtain ⟨n, rfl⟩ := Nat.exists_eq_succ_of_ne_zero h
  have hsuccess : isHttpSuccess (servingAlways body sent url) = true := rfl
  rw [getWithRetries]
  rw [if_pos (Or.inl hsuccess)]

theorem mem_parsed_fetchUrl_new {body c : Bytes} {url : String}
    (hurls : st.attemptedUrls.length < input.maxUrls) (hnew : url ∉ st.attemptedUrls)
    (hc : c ∈ (parseDownloadedCertificates lib body).1) :
    c ∈ (fetchUrl lib accepts input (servingAlways body) st url).parsed := by
  have hsuccess : ∀ sent, isHttpSuccess (servingAlways body sent url) = true := fun _ => rfl
  rw [fetchUrl, if_neg (not_or.mpr ⟨Nat.not_le.mpr hurls, hnew⟩)]
  dsimp only
  rw [getWithRetries_servingAlways body url _ _ (by omega), if_pos (hsuccess _), keepDownloaded,
    (foldl_keepCertificate _ _).parsed]
  exact mem_append_right _ hc

theorem processCertificates_of_nil {certs : List Bytes} (st : FetchState)
    (h : ∀ s ∈ certs, extractCaIssuersUrls lib s = []) :
    certs.foldl (processCertificate lib accepts input servers) st = st := by
  induction certs with
  | nil => rfl
  | cons s certs ih =>
    have hfirst : processCertificate lib accepts input servers st s = st := by
      rw [processCertificate, h s mem_cons_self, foldl_nil, ite_self]
    rw [foldl_cons, hfirst]
    exact ih fun s hs => h s (mem_cons_of_mem _ hs)

theorem runLevels_of_nil (h : ∀ s ∈ input.seedCertificatesDer, extractCaIssuersUrls lib s = [])
    (depth processed : Nat) (hst : st.certificatesDer = []) :
    (runLevels lib accepts input servers depth processed st).parsed = st.parsed := by
  induction depth generalizing processed st with
  | zero => rfl
  | succ depth ih =>
    rw [runLevels]
    split
    · rw [hst, append_nil, processCertificates_of_nil st fun s hs =>
        h s (mem_of_mem_drop hs)]
      exact ih _ hst
    · rfl

theorem mem_parsed_processCertificates {body c : Bytes} {certs : List Bytes}
    (hurls : 0 < input.maxUrls) (hst : st.attemptedUrls = [])
    (hsome : ∃ s ∈ certs, extractCaIssuersUrls lib s ≠ [])
    (hc : c ∈ (parseDownloadedCertificates lib body).1) :
    c ∈ (certs.foldl (processCertificate lib accepts input (servingAlways body)) st).parsed := by
  induction certs with
  | nil =>
    obtain ⟨s, hs, -⟩ := hsome
    exact absurd hs not_mem_nil
  | cons s certs ih =>
    rw [foldl_cons]
    have hstart : ¬ input.maxUrls ≤ st.attemptedUrls.length := by
      rw [hst]
      exact Nat.not_le.mpr hurls
    rcases hextract : extractCaIssuersUrls lib s with - | ⟨url, urls⟩
    · have hfirst : processCertificate lib accepts input (servingAlways body) st s = st := by
        rw [processCertificate, hextract, foldl_nil, ite_self]
      rw [hfirst]
      obtain ⟨t, ht, hne⟩ := hsome
      rcases mem_cons.mp ht with rfl | ht
      · exact absurd hextract hne
      · exact ih ⟨t, ht, hne⟩
    · refine processCertificates_induction (P := fun st => c ∈ st.parsed)
        (fun st url h => mem_parsed_fetchUrl h url) certs ?_
      rw [processCertificate, if_neg hstart, hextract, foldl_cons]
      refine List.foldlRecOn (motive := fun st : FetchState => c ∈ st.parsed) urls _ ?_
        fun st h url _ => mem_parsed_fetchUrl h url
      refine mem_parsed_fetchUrl_new (Nat.not_le.mp hstart) ?_ hc
      rw [hst]
      exact not_mem_nil

end Fetch

/-! ### What a call promises -/

structure WithinLimits (input : AiaIssuerFetchInput) (st : FetchState) : Prop where
  urls : st.requests.dedup.length ≤ input.maxUrls
  retries : ∀ url, st.requests.count url ≤ max 1 input.maxRetries
  levels : st.levels ≤ input.maxDepth

/-- What was parsed and is no seed is returned once; its file holds it, where the write succeeds,
and is the file of nothing else that is returned. -/
def LosesNothing (input : AiaIssuerFetchInput) (store : IntermediateStore)
    (run : AiaIssuerFetchResult × FetchState) : Prop :=
  ∀ c ∈ run.2.parsed, c ∉ input.seedCertificatesDer →
    run.1.certificatesDer.count c = 1 ∧
    (store.accepts (cacheName c) c = true → run.2.files (cacheName c) = some c) ∧
    ∀ d ∈ run.1.certificatesDer, cacheName d = cacheName c → d = c

/-- There is something to fetch, and the limits leave room for it. -/
structure Fetches (lib : CertificateLib) (input : AiaIssuerFetchInput) : Prop where
  networkEnabled : input.networkEnabled = true
  workDir : input.workDir ≠ ""
  maxDepth : input.maxDepth ≠ 0
  maxUrls : input.maxUrls ≠ 0
  address : ∃ seed ∈ input.seedCertificatesDer, extractCaIssuersUrls lib seed ≠ []

section Promise

variable {input : AiaIssuerFetchInput} {servers : Servers} {store : IntermediateStore}

variable (lib input servers store) in
theorem fetchMissingIssuers_cases :
    ((fetchMissingIssuers lib input servers store).1.certificatesDer = [] ∧
      (fetchMissingIssuers lib input servers store).2 = initialState input store.files ∧
      ¬ Fetches lib input) ∨
    ((fetchMissingIssuers lib input servers store).1.certificatesDer =
        (fetchMissingIssuers lib input servers store).2.certificatesDer ∧
      (fetchMissingIssuers lib input servers store).2 =
        runLevels lib store.accepts input servers input.maxDepth 0
          (initialState input store.files) ∧
      ((∃ seed ∈ input.seedCertificatesDer, extractCaIssuersUrls lib seed ≠ []) →
        Fetches lib input)) := by
  rw [fetchMissingIssuers]
  split
  · next hnetwork =>
    refine Or.inl ⟨rfl, rfl, fun h => ?_⟩
    rw [h.networkEnabled] at hnetwork
    cases hnetwork
  · split
    · next hempty =>
      refine Or.inl ⟨rfl, rfl, fun h => ?_⟩
      rcases hempty with hempty | hempty | hempty | hempty
      · exact h.workDir hempty
      · obtain ⟨seed, hseed, -⟩ := h.address
        rw [hempty] at hseed
        exact absurd hseed not_mem_nil
      · exact h.maxDepth hempty
      · exact h.maxUrls hempty
    · next hnetwork hempty =>
      simp only [not_or] at hempty
      obtain ⟨hdir, -, hdepth, hurls⟩ := hempty
      exact Or.inr ⟨rfl, rfl, fun haddress => ⟨by simpa using hnetwork, hdir, hdepth, hurls, haddress⟩⟩

theorem fetchInv_fetchMissingIssuers :
    FetchInv lib store.accepts input (fetchMissingIssuers lib input servers store).2 := by
  rcases fetchMissingIssuers_cases lib input servers store with ⟨-, heq, -⟩ | ⟨-, heq, -⟩
  · rw [heq]
    exact fetchInv_initialState _
  · rw [heq]
    exact (fetchInv_initialState _).runLevels _ _

theorem certificatesDer_fetchMissingIssuers :
    (fetchMissingIssuers lib input servers store).1.certificatesDer =
      (fetchMissingIssuers lib input servers store).2.certificatesDer := by
  rcases fetchMissingIssuers_cases lib input servers store with ⟨hnil, heq, -⟩ | ⟨hsame, -, -⟩
  · rw [hnil, heq]
    rfl
  · exact hsame

theorem withinLimits_fetchMissingIssuers :
    WithinLimits input (fetchMissingIssuers lib input servers store).2 := by
  have hinv : FetchInv lib store.accepts input (fetchMissingIssuers lib input servers store).2 :=
    fetchInv_fetchMissingIssuers
  refine ⟨?_, hinv.retries, ?_⟩
  · refine Nat.le_trans (List.Subperm.length_le ?_) hinv.urls
    refine (nodup_dedup _).subperm fun url hurl => hinv.requested url ?_
    exact mem_dedup.mp hurl
  · rcases fetchMissingIssuers_cases lib input servers store with ⟨-, heq, -⟩ | ⟨-, heq, -⟩
    · rw [heq]
      exact Nat.zero_le _
    · rw [heq]
      refine Nat.le_trans (runLevels_levels _ _ _) ?_
      show 0 + input.maxDepth ≤ _
      omega

theorem losesNothing_of_separates
    (hsep : Separates stableDerHash input.seedCertificatesDer (Obtainable lib)) :
    LosesNothing input store (fetchMissingIssuers lib input servers store) := by
  have hinv : FetchInv lib store.accepts input (fetchMissingIssuers lib input servers store).2 :=
    fetchInv_fetchMissingIssuers
  intro c hc hseed
  have hmem := hinv.complete hsep c hc hseed
  rw [certificatesDer_fetchMissingIssuers]
  refine ⟨?_, hinv.consistent.stored c hmem, fun d hd hname => ?_⟩
  · exact count_eq_one_of_mem (List.Nodup.of_map _ hinv.distinct.nodup) hmem
  · exact hinv.distinct.eq_of_key hd hmem (cacheName_eq_iff.mp hname)

theorem losesNothing_of_not_fetches (h : ¬ Fetches lib input) :
    LosesNothing input store (fetchMissingIssuers lib input servers store) := by
  have hnone : (fetchMissingIssuers lib input servers store).2.parsed = [] := by
    rcases fetchMissingIssuers_cases lib input servers store with ⟨-, heq, -⟩ | ⟨-, heq, hfetches⟩
    · rw [heq]
      rfl
    · rw [heq]
      refine runLevels_of_nil (fun s hs => ?_) _ _ rfl
      by_contra hne
      exact h (hfetches ⟨s, hs, hne⟩)
  intro c hc
  rw [hnone] at hc
  exact absurd hc not_mem_nil

theorem mem_parsed_servingAlways {body c : Bytes} (h : Fetches lib input)
    (hc : c ∈ (parseDownloadedCertificates lib body).1) :
    c ∈ (fetchMissingIssuers lib input (servingAlways body) store).2.parsed := by
  rcases fetchMissingIssuers_cases lib input (servingAlways body) store with
    ⟨-, -, hnot⟩ | ⟨-, heq, -⟩
  · exact absurd h hnot
  rw [heq]
  obtain ⟨depth, hdepth⟩ := Nat.exists_eq_succ_of_ne_zero h.maxDepth
  have hurls := Nat.pos_of_ne_zero h.maxUrls
  have hqueue : input.seedCertificatesDer ++ (initialState input store.files).certificatesDer =
      input.seedCertificatesDer := append_nil _
  have hpos : 0 < input.seedCertificatesDer.length := by
    obtain ⟨seed, hseed, -⟩ := h.address
    exact length_pos_of_mem hseed
  rw [hdepth, runLevels]
  rw [hqueue, if_pos ⟨hpos, hurls⟩, drop_zero]
  refine runLevels_induction (P := fun st => c ∈ st.parsed) (fun st n hst => hst)
    (fun st url hst => mem_parsed_fetchUrl hst url) depth _ ?_
  exact mem_parsed_processCertificates hurls rfl h.address hc

/-- **Fetching stays within its limits and loses no certificate, whatever the servers answer,
exactly where nothing is fetched or the hash tells the seeds and all certificates that can be
obtained apart.** -/
theorem fetch_loses_nothing_iff (lib : CertificateLib) (input : AiaIssuerFetchInput)
    (store : IntermediateStore) :
    (∀ servers, WithinLimits input (fetchMissingIssuers lib input servers store).2 ∧
      LosesNothing input store (fetchMissingIssuers lib input servers store)) ↔
    (Fetches lib input →
      Separates stableDerHash input.seedCertificatesDer (Obtainable lib)) := by
  constructor
  · intro hall hfetches
    -- an answer with both certificates; what is parsed is returned, and has a hash of its own
    have hreturned : ∀ {body c : Bytes}, c ∈ (parseDownloadedCertificates lib body).1 →
        c ∉ input.seedCertificatesDer →
        c ∈ (fetchMissingIssuers lib input (servingAlways body) store).2.certificatesDer := by
      intro body c hc hseed
      have honce := ((hall (servingAlways body)).2 c (mem_parsed_servingAlways hfetches hc) hseed).1
      rw [certificatesDer_fetchMissingIssuers] at honce
      exact count_pos_iff.mp (by omega)
    have hdistinct : ∀ body, Distinct stableDerHash input.seedCertificatesDer
        (fetchMissingIssuers lib input (servingAlways body) store).2.certificatesDer := by
      intro body
      have hinv : FetchInv lib store.accepts input
          (fetchMissingIssuers lib input (servingAlways body) store).2 :=
        fetchInv_fetchMissingIssuers
      exact hinv.distinct
    refine ⟨fun c hc hseed => ?_, fun c d hc hd hcseed hdseed hhash => ?_⟩
    · obtain ⟨body, hbody, -⟩ := exists_body hc hc
      exact (hdistinct body).fresh c (hreturned hbody hseed)
    · obtain ⟨body, hcbody, hdbody⟩ := exists_body hc hd
      exact (hdistinct body).eq_of_key (hreturned hcbody hcseed) (hreturned hdbody hdseed) hhash
  · intro hsep servers
    refine ⟨withinLimits_fetchMissingIssuers, ?_⟩
    by_cases hfetches : Fetches lib input
    · exact losesNothing_of_separates (hsep hfetches)
    · exact losesNothing_of_not_fetches hfetches

end Promise

/-! ### Two certificates with one hash -/

/-- The octets of a number. -/
def bigEndian (length value : Nat) : Bytes :=
  (List.range length).map fun i => (value >>> (8 * (length - 1 - i))).toUInt8

/-- An X.509 certificate of `CN=CA`, from 2026 to 2036, with an Ed25519 key, an address for its
issuer, and the last nine octets of the signature as given. -/
def issuerCertificate (ending : Nat) : Bytes :=
  bigEndian 36 0x3081ff3081b2a003020102020101300506032b6570300d310b300906035504030c024341 ++
  bigEndian 32 0x301e170d3236303130313030303030305a170d3336303130313030303030305a ++
  bigEndian 15 0x300d310b300906035504030c024341 ++
  -- the public key
  bigEndian 12 0x302a300506032b6570032100 ++
  bigEndian 32 0x88dde3eb59751a3d36e9393f70ebdb503d3c7893d0199952c45b4546b59b2934 ++
  -- the extension with the address, and the signature
  bigEndian 30 0xa3373035303306082b0601050507010104273025302306082b0601050507 ++
  bigEndian 27 0x30028617687474703a2f2f63612e6578616d706c652f692e636572 ++
  bigEndian 32 0x300506032b6570034100457114df2ebfdfd543c1f57f9d230a3cb65941aa25f6 ++
  bigEndian 33 0xdb09d5faecbd7890c8d48a167f258c6498924f799e6eaa3f73d074d652733a2a9a ++
  bigEndian 9 ending

/-- This one verifies under its own key. -/
def firstIssuer : Bytes := issuerCertificate 0x5e235380d9e2744708

def secondIssuer : Bytes := issuerCertificate 0x06bd0be52e0ef1307a

/-- A library that decodes the two. -/
def issuersLib : CertificateLib where
  isDecodable der := der == firstIssuer || der == secondIssuer
  caIssuersUris der :=
    if der == firstIssuer || der == secondIssuer then ["http://ca.example/i.cer"] else []
  pkcs7Certificates _ := []
  isDecodable_nil := by decide
  pkcs7Certificates_nil := rfl

def issuersInput : AiaIssuerFetchInput where
  networkEnabled := true
  workDir := "/var/tamga"
  seedCertificatesDer := [firstIssuer]

/-- The answer brings another certificate with the hash of the seed; it is not returned. -/
theorem colliding_issuer_lost :
    firstIssuer ≠ secondIssuer ∧ stableDerHash firstIssuer = "fe3e4779a951e845" ∧
      stableDerHash secondIssuer = "fe3e4779a951e845" ∧
      (fetchMissingIssuers issuersLib issuersInput (servingAlways secondIssuer)
        ⟨fun _ => none, fun _ _ => true⟩).1.certificatesDer = [] ∧
      ¬ LosesNothing issuersInput ⟨fun _ => none, fun _ _ => true⟩
        (fetchMissingIssuers issuersLib issuersInput (servingAlways secondIssuer)
          ⟨fun _ => none, fun _ _ => true⟩) := by
  have hrun : (fetchMissingIssuers issuersLib issuersInput (servingAlways secondIssuer)
      ⟨fun _ => none, fun _ _ => true⟩).1.certificatesDer = [] := by decide +kernel
  have hparsed : secondIssuer ∈ (fetchMissingIssuers issuersLib issuersInput
      (servingAlways secondIssuer) ⟨fun _ => none, fun _ _ => true⟩).2.parsed := by decide +kernel
  refine ⟨by decide +kernel, by decide +kernel, by decide +kernel, hrun, fun h => ?_⟩
  have honce := (h secondIssuer hparsed (by decide +kernel)).1
  exact absurd honce (by rw [hrun]; decide)

end Tamga.Aia
