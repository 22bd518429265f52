/-
Loading a private key into a session (`SessionKeyLoading.ipp`, and the normalization of key
containers in `SessionStateAndNormalization.ipp`).

Some containers bring a certificate along.  Of a Java key store the first certificate of the chain
is taken if none belongs to the key, and of a PEM file the first certificate whatever it is; the
certificate that the caller names is looked at only if the container brings none.

* `normalizeKeyContainer_certificate` — what a container brings;
* `loaded_key_fits_iff` — where the loaded certificate fits the key and is the one that the caller
  gave, and `issuer_loaded_with_key` a key store where it is not.
-/
import Tamga.CertificateResolver
import Tamga.DerTlv
import Tamga.PemLoader

namespace Tamga.KeyLoading

open Keys Resolver Util List

/-! ### The session -/

/-- The container a key came from. -/
inductive KeyFormat
  | unknown
  | jks
  | pem
  | der
  | pkcs12
  deriving DecidableEq, Repr

/-- The key of a session. -/
structure LoadedKey where
  key : Bytes := []
  keyMaterial : Bytes := []
  certificate : Bytes := []
  password : String := ""
  format : KeyFormat := .unknown
  isLoaded : Bool := false
  deriving DecidableEq, Repr

/-- The settings that loading reads. -/
structure KeySettings where
  workDir : String := ""
  offlineMode : Bool := true
  ocspTimeoutMs : Int := 10000
  ldapUrl : String := ""
  ldapBaseDn : String := ""
  ldapTimeoutMs : Int := 0
  deriving DecidableEq, Repr

/-- The error is the message of an `InvalidArgument`; loading knows no other. -/
structure KeySession where
  loaded : LoadedKey := {}
  settings : KeySettings := {}
  lastError : Option String := none
  deriving DecidableEq, Repr

/-- What the caller says about the certificate. -/
structure CertificateHints where
  certificatePath : String := ""
  certificateBase64 : String := ""
  caHint : String := ""
  subjectIdentifier : String := ""
  keyFilePath : Option FilePath := none
  deriving DecidableEq, Repr

/-- A private key entry of a Java key store; the other private keys of the store are not opened. -/
structure PrivateKeyEntry where
  privateKeyPkcs8 : Bytes
  certificate : Bytes
  certificateChain : List Bytes
  otherPrivateKeys : List Bytes := []
  deriving DecidableEq, Repr

/-- The parsers of containers, the files, and what the resolver needs. -/
structure KeyEnv where
  pairing : PairingLib
  sha256 : Bytes → Bytes
  fs : FileSystem
  net : Network
  /-- The bytes of `std::size_t`. -/
  w : Nat
  loadJksEntry : Bytes → String → String → String → Except String PrivateKeyEntry
  iitMatches : Bytes → Bool
  iitDecrypt : Bytes → String → Except String Bytes
  zs2Matches : Bytes → Bool
  toPath : String → FilePath
  resolveFilePath : String → Option FilePath
  readKeyFile : Option FilePath → Except String Bytes

/-! ### Containers -/

/-- The data starts like a PEM file. -/
def isLikelyPem (data : Bytes) : Bool := (textBytes "-----BEGIN ").isPrefixOf data

/-- The element at the offset, if it has this tag. -/
def parseOuter (w : Nat) (data : Bytes) (offset : Nat) (tag : UInt8) : Option TlvView :=
  (parseTlvAt w data offset data.length).filter fun view => view.tag == tag

/-- A SEQUENCE of a version and an `authSafe` that starts with an OID. -/
def isPkcs12Der (w : Nat) (der : Bytes) : Bool :=
  ((parseOuter w der 0 0x30).bind fun outer =>
    (parseOuter w der outer.valueOffset 0x02).bind fun version =>
      (parseOuter w der version.nextOffset 0x30).bind fun authSafe =>
        parseOuter w der authSafe.valueOffset 0x06).isSome

/-- One SEQUENCE that fills the data. -/
def isValidDerContainer (w : Nat) (der : Bytes) : Except String Unit :=
  if der.length < 4 ∨ der.head? ≠ some 0x30 then .error "DER container must start with SEQUENCE"
  else match parseOuter w der 0 0x30 with
  | none => .error "DER container has invalid ASN.1 layout"
  | some outer =>
    if outer.nextOffset ≠ der.length then .error "DER container has invalid ASN.1 layout"
    else .ok ()

/-- A key after its container was opened. -/
structure NormalizedKey where
  normalized : Bytes
  keyMaterial : Bytes
  certificate : Bytes
  format : KeyFormat
  deriving DecidableEq, Repr

/-- The arguments of a load. -/
structure LoadArgs where
  keyData : Bytes
  storePassword : String := ""
  keyPassword : String := ""
  jksAlias : String := ""
  strictPem : Bool := false
  hints : CertificateHints := {}
  deriving DecidableEq, Repr

/-- The first bytes of a Java key store. -/
def kJksMagic : Bytes := [0xFE, 0xED, 0xFE, 0xED]

/-- A block with a private key. -/
def isKeyBlock (block : PemBlock) : Bool :=
  containsText block.type "PRIVATE KEY" || block.type == "DER"

/-- A block with a certificate. -/
def isCertificateBlock (block : PemBlock) : Bool := block.type == "CERTIFICATE"

section Load

variable (env : KeyEnv)

/-- The certificate of the chain for the key, otherwise the first one. -/
def jksCertificate (entry : PrivateKeyEntry) : Bytes :=
  (findMatchingCertificate env.pairing entry.privateKeyPkcs8 entry.certificateChain).getD
    entry.certificate

variable (st : KeySession) (args : LoadArgs)

/-- A Java key store, opened with one of the passwords. -/
def normalizeJks : Except String NormalizedKey := do
  require (args.storePassword ≠ "" ∨ args.keyPassword ≠ "")
    "JKS key store requires store password or key password"
  let entry ← env.loadJksEntry args.keyData args.storePassword args.keyPassword args.jksAlias
  let certificate := jksCertificate env entry
  isValidDerContainer env.w entry.privateKeyPkcs8
  if certificate ≠ [] then isValidDerContainer env.w certificate
  return ⟨entry.privateKeyPkcs8, entry.privateKeyPkcs8, certificate, .jks⟩

/-- An IIT container, which is decrypted here. -/
def normalizeIit : Except String NormalizedKey := do
  let password := if args.storePassword = "" then args.keyPassword else args.storePassword
  require (password ≠ "") "IIT key container requires password"
  let decrypted ← env.iitDecrypt args.keyData password
  isValidDerContainer env.w decrypted
  return ⟨decrypted, decrypted, [], .der⟩

/-- A ZS2 container, which stays as it is. -/
def normalizeZs2 : Except String NormalizedKey := do
  let password := if args.storePassword = "" then args.keyPassword else args.storePassword
  require (password ≠ "") "ZS2 key container requires password"
  isValidDerContainer env.w args.keyData
  return ⟨args.keyData, args.keyData, [], .pkcs12⟩

/-- The first certificate block, or nothing. -/
def firstCertificate (blocks : List PemBlock) : Bytes :=
  ((blocks.find? isCertificateBlock).map (·.derPayload)).getD []

/-- What the key block of a PEM or DER container gives. -/
def blockKey (blocks : List PemBlock) (keyBlock : PemBlock) : NormalizedKey :=
  if keyBlock.type = "DER" then
    if isPkcs12Der env.w keyBlock.derPayload = true then
      ⟨keyBlock.derPayload, args.keyData, [], .pkcs12⟩
    else ⟨keyBlock.derPayload, keyBlock.derPayload, firstCertificate blocks, .der⟩
  else ⟨keyBlock.derPayload, keyBlock.derPayload, firstCertificate blocks, .pem⟩

/-- PEM blocks, or DER as one block. -/
def normalizePemDer : Except String NormalizedKey := do
  let blocks ← loadAll args.keyData args.strictPem
  let keyBlock ← orError (blocks.find? isKeyBlock) "PEM/DER does not contain PRIVATE KEY block"
  isValidDerContainer env.w keyBlock.derPayload
  return blockKey env args blocks keyBlock

/-- The container is recognised by its first bytes. -/
def normalizeKeyContainer : Except String NormalizedKey :=
  if args.keyData = [] then .error "Key container is empty"
  else if kJksMagic.isPrefixOf args.keyData then normalizeJks env args
  else if env.iitMatches args.keyData then normalizeIit env args
  else if env.zs2Matches args.keyData then normalizeZs2 env args
  else if isLikelyPem args.keyData ∨ args.keyData.head? = some 0x30 then normalizePemDer env args
  else .error "Unsupported key format"

/-! ### Loading -/

/-- The path of the certificate, if one is given. -/
def explicitPath (hints : CertificateHints) : Option FilePath :=
  if hints.certificatePath = "" then none else some (env.toPath hints.certificatePath)

/-- What the resolver is asked for. -/
def resolveRequest (settings : KeySettings) (keyMaterial : Bytes) (password : String)
    (hints : CertificateHints) (explicitCertificateDer : Bytes) : CertificateResolveRequest where
  keyMaterial := keyMaterial
  password := password
  explicitCertificateDer := explicitCertificateDer
  explicitCertificatePath := explicitPath env hints
  keyFilePath := hints.keyFilePath
  workDir := settings.workDir
  offlineMode := settings.offlineMode
  networkTimeoutMs := if settings.ldapTimeoutMs > 0 then settings.ldapTimeoutMs
    else settings.ocspTimeoutMs
  preferredCaHint := hints.caHint
  ldapUrl := settings.ldapUrl
  ldapBaseDn := settings.ldapBaseDn
  subjectIdentifier := hints.subjectIdentifier

/-- The certificate that is given in base64. -/
def explicitDer (hints : CertificateHints) : Bytes :=
  if hints.certificateBase64 = "" then [] else (base64Decode hints.certificateBase64).bytes

/-- The certificate for a container without one. -/
def resolveMissingCertificate (settings : KeySettings) (keyMaterial : Bytes) (password : String)
    (hints : CertificateHints) : Except String Bytes :=
  if hints.certificateBase64 ≠ "" ∧ (base64Decode hints.certificateBase64).ok = false then
    .error "Descriptor certificateBase64 is invalid"
  else
    let resolved := (resolve env.pairing env.sha256 env.fs env.net
      (resolveRequest env settings keyMaterial password hints (explicitDer hints))).result
    if resolved.succeeded then .ok resolved.certificateDer else .error resolved.message

/-- The call fails, and the key stays. -/
def KeySession.fail (message : String) : KeySession × Bool :=
  ({ st with lastError := some message }, false)

/-- The new key takes the place of the old one. -/
def commitLoadedKey (key : NormalizedKey) (certificate : Bytes) (password : String) : KeySession :=
  { st with
    loaded :=
      { key := key.normalized, keyMaterial := key.keyMaterial, certificate := certificate
        password := password, format := key.format, isLoaded := true }
    lastError := none }

/-- The key password is the store password where none is given. -/
def LoadArgs.withKeyPassword : LoadArgs :=
  if args.keyPassword = "" then { args with keyPassword := args.storePassword } else args

/-- The password for the resolver. -/
def LoadArgs.effectivePassword : String :=
  if args.storePassword = "" then args.withKeyPassword.keyPassword else args.storePassword

/-- Opens the container, finds the certificate and keeps both. -/
def loadPrivateKeyPayload : KeySession × Bool :=
  if args.keyData = [] then st.fail "Key container is empty"
  else match normalizeKeyContainer env args.withKeyPassword with
  | .error e => st.fail e
  | .ok key =>
    if key.certificate ≠ [] then
      (commitLoadedKey st key key.certificate args.effectivePassword, true)
    else match resolveMissingCertificate env st.settings key.keyMaterial args.effectivePassword
        args.hints with
    | .ok certificate => (commitLoadedKey st key certificate args.effectivePassword, true)
    | .error e =>
      if args.hints.certificatePath ≠ "" ∨ args.hints.certificateBase64 ≠ "" then st.fail e
      else (commitLoadedKey st key [] args.effectivePassword, true)

/-! ### Calls -/

/-- A media descriptor: its fields with a text, and with a boolean. -/
structure Descriptor where
  text : String → Option String
  bool : String → Option Bool

/-- The text of the first of these fields that is there. -/
def Descriptor.firstOf (descriptor : Descriptor) (names : List String) : Option String :=
  names.findSome? descriptor.text

/-- The fields about the certificate. -/
def Descriptor.hints (descriptor : Descriptor) : CertificateHints where
  certificatePath := (descriptor.firstOf ["certificatePath", "certPath"]).getD ""
  certificateBase64 := (descriptor.firstOf ["certificateBase64", "certBase64"]).getD ""
  caHint := (descriptor.firstOf ["ca", "provider"]).getD ""
  subjectIdentifier := (descriptor.firstOf ["edrpou", "drfo", "subject"]).getD ""

/-- The bytes of a key file, with its path. -/
def readKeyFile (path : String) : Except String (Bytes × Option FilePath) := do
  require (path ≠ "") "Path is empty"
  let resolvedKeyPath := env.resolveFilePath path
  let keyData ← env.readKeyFile resolvedKeyPath
  require (keyData ≠ []) "Key file is empty"
  return (keyData, resolvedKeyPath)

/-- What `ReadPrivateKey` hands over to the loader. -/
def descriptorArgs (descriptor : Descriptor) (password : String) : Except String LoadArgs := do
  let password := if password = "" then (descriptor.text "password").getD "" else password
  let args : LoadArgs :=
    { keyData := []
      storePassword := password
      keyPassword := (descriptor.firstOf ["keyPassword", "entryPassword"]).getD password
      jksAlias := (descriptor.text "alias").getD ""
      strictPem := (descriptor.bool "strictPem").getD false
      hints := descriptor.hints }
  match descriptor.text "base64" with
  | some payload =>
    let decoded := base64Decode payload
    require (decoded.ok = true) "Descriptor base64 is invalid"
    return { args with keyData := decoded.bytes }
  | none =>
    match descriptor.firstOf ["path", "filePath"] with
    | none => .error "Unsupported key media descriptor"
    | some path =>
      let (keyData, resolvedKeyPath) ← readKeyFile env path
      return { args with
        keyData := keyData, hints := { args.hints with keyFilePath := resolvedKeyPath } }

/-- The calls that load a key. -/
inductive KeyCall
  | readPrivateKey (descriptor : Descriptor) (password : String)
  | readPrivateKeyBinary (keyData : Bytes) (storePassword keyPassword jksAlias : String)
  | readPrivateKeyFile (path storePassword keyPassword jksAlias : String)

/-- What a call hands over to the loader. -/
def KeyCall.arguments : KeyCall → Except String LoadArgs
  | .readPrivateKey descriptor password => descriptorArgs env descriptor password
  | .readPrivateKeyBinary keyData storePassword keyPassword jksAlias =>
    .ok { keyData, storePassword, keyPassword, jksAlias }
  | .readPrivateKeyFile path storePassword keyPassword jksAlias => do
    let (keyData, resolvedKeyPath) ← readKeyFile env path
    return { keyData, storePassword, keyPassword, jksAlias, hints.keyFilePath := resolvedKeyPath }

/-- A call, on the session before it. -/
def KeyCall.run (call : KeyCall) : KeySession × Bool :=
  match call.arguments env with
  | .error e => st.fail e
  | .ok args => loadPrivateKeyPayload env st args

end Load

/-! ### What a container brings along -/

section Brings

variable (env : KeyEnv) (args : LoadArgs) (certificate : Bytes)

/-- A Java key store that opens and whose entry comes with this certificate. -/
def JksBrings : Prop :=
  ∃ entry, kJksMagic.isPrefixOf args.keyData = true ∧
    (args.storePassword ≠ "" ∨ args.keyPassword ≠ "") ∧
    env.loadJksEntry args.keyData args.storePassword args.keyPassword args.jksAlias = .ok entry ∧
    isValidDerContainer env.w entry.privateKeyPkcs8 = .ok () ∧
    isValidDerContainer env.w certificate = .ok () ∧ jksCertificate env entry = certificate

/-- PEM or DER blocks with a key and this certificate. -/
def PemBrings : Prop :=
  ∃ blocks keyBlock, kJksMagic.isPrefixOf args.keyData = false ∧
    env.iitMatches args.keyData = false ∧ env.zs2Matches args.keyData = false ∧
    (isLikelyPem args.keyData = true ∨ args.keyData.head? = some 0x30) ∧
    loadAll args.keyData args.strictPem = .ok blocks ∧ blocks.find? isKeyBlock = some keyBlock ∧
    isValidDerContainer env.w keyBlock.derPayload = .ok () ∧
    ¬ (keyBlock.type = "DER" ∧ isPkcs12Der env.w keyBlock.derPayload = true) ∧
    firstCertificate blocks = certificate

/-- A container of some kind that comes with this certificate. -/
def Brings : Prop :=
  certificate ≠ [] ∧ (JksBrings env args certificate ∨ PemBrings env args certificate)

variable {env args certificate} {key : NormalizedKey}

theorem normalizeJks_ok_iff : normalizeJks env args = .ok key ↔
    (args.storePassword ≠ "" ∨ args.keyPassword ≠ "") ∧ ∃ entry,
      env.loadJksEntry args.keyData args.storePassword args.keyPassword args.jksAlias = .ok entry ∧
      isValidDerContainer env.w entry.privateKeyPkcs8 = .ok () ∧
      (jksCertificate env entry ≠ [] →
        isValidDerContainer env.w (jksCertificate env entry) = .ok ()) ∧
      key = ⟨entry.privateKeyPkcs8, entry.privateKeyPkcs8, jksCertificate env entry, .jks⟩ := by
  simp only [normalizeJks, bind_eq_ok, require_eq_ok]
  constructor
  · rintro ⟨-, hpassword, entry, hentry, ⟨⟩, hvalid, hrest⟩
    refine ⟨hpassword, entry, hentry, hvalid, ?_⟩
    split at hrest
    · obtain ⟨⟨⟩, hcertificate, hkey⟩ := bind_eq_ok.mp hrest
      exact ⟨fun _ => hcertificate, (Except.ok.inj hkey).symm⟩
    · next hnil => exact ⟨fun h => absurd h hnil, (Except.ok.inj hrest).symm⟩
  · rintro ⟨hpassword, entry, hentry, hvalid, hcertificate, rfl⟩
    refine ⟨(), hpassword, entry, hentry, (), hvalid, ?_⟩
    split
    · next hne => exact bind_eq_ok.mpr ⟨(), hcertificate hne, rfl⟩
    · rfl

theorem normalizePemDer_ok_iff : normalizePemDer env args = .ok key ↔
    ∃ blocks keyBlock, loadAll args.keyData args.strictPem = .ok blocks ∧
      blocks.find? isKeyBlock = some keyBlock ∧
      isValidDerContainer env.w keyBlock.derPayload = .ok () ∧
      key = blockKey env args blocks keyBlock := by
  simp only [normalizePemDer, bind_eq_ok, orError_eq_ok]
  constructor
  · rintro ⟨blocks, hblocks, keyBlock, hkey, ⟨⟩, hvalid, hrest⟩
    exact ⟨blocks, keyBlock, hblocks, hkey, hvalid, (Except.ok.inj hrest).symm⟩
  · rintro ⟨blocks, keyBlock, hblocks, hkey, hvalid, rfl⟩
    exact ⟨blocks, hblocks, keyBlock, hkey, (), hvalid, rfl⟩

theorem blockKey_certificate {blocks : List PemBlock} {keyBlock : PemBlock} :
    (blockKey env args blocks keyBlock).certificate =
      if keyBlock.type = "DER" ∧ isPkcs12Der env.w keyBlock.derPayload = true then []
      else firstCertificate blocks := by
  rw [blockKey]
  by_cases htype : keyBlock.type = "DER"
  · rw [if_pos htype]
    by_cases hpkcs12 : isPkcs12Der env.w keyBlock.derPayload = true
    · rw [if_pos hpkcs12, if_pos ⟨htype, hpkcs12⟩]
    · rw [if_neg hpkcs12, if_neg fun h => hpkcs12 h.2]
  · rw [if_neg htype, if_neg fun h => htype h.1]

theorem blockKey_keyMaterial {blocks : List PemBlock} {keyBlock : PemBlock} :
    (blockKey env args blocks keyBlock).keyMaterial = args.keyData ∨
      (blockKey env args blocks keyBlock).keyMaterial = keyBlock.derPayload := by
  rw [blockKey]
  split
  · split
    · exact Or.inl rfl
    · exact Or.inr rfl
  · exact Or.inr rfl

theorem normalizeIit_ok (h : normalizeIit env args = .ok key) :
    ∃ decrypted, env.iitDecrypt args.keyData
        (if args.storePassword = "" then args.keyPassword else args.storePassword) =
          .ok decrypted ∧ key = ⟨decrypted, decrypted, [], .der⟩ := by
  simp only [normalizeIit, bind_eq_ok, require_eq_ok] at h
  obtain ⟨-, -, decrypted, hdecrypted, -, -, hkey⟩ := h
  exact ⟨decrypted, hdecrypted, (Except.ok.inj hkey).symm⟩

theorem normalizeZs2_ok (h : normalizeZs2 env args = .ok key) :
    key = ⟨args.keyData, args.keyData, [], .pkcs12⟩ := by
  simp only [normalizeZs2, bind_eq_ok, require_eq_ok] at h
  obtain ⟨-, -, -, -, hkey⟩ := h
  exact (Except.ok.inj hkey).symm

theorem normalizeKeyContainer_ok_iff : normalizeKeyContainer env args = .ok key ↔
    args.keyData ≠ [] ∧ (kJksMagic.isPrefixOf args.keyData = true ∧ normalizeJks env args = .ok key ∨
      kJksMagic.isPrefixOf args.keyData = false ∧
        (env.iitMatches args.keyData = true ∧ normalizeIit env args = .ok key ∨
          env.iitMatches args.keyData = false ∧
            (env.zs2Matches args.keyData = true ∧ normalizeZs2 env args = .ok key ∨
              env.zs2Matches args.keyData = false ∧
                (isLikelyPem args.keyData = true ∨ args.keyData.head? = some 0x30) ∧
                  normalizePemDer env args = .ok key))) := by
  rw [normalizeKeyContainer]
  grind

/-- **A container normalizes with a certificate exactly when it brings that one along.** -/
theorem normalizeKeyContainer_certificate (hne : certificate ≠ []) :
    (∃ key, normalizeKeyContainer env args = .ok key ∧ key.certificate = certificate) ↔
      Brings env args certificate := by
  rw [Brings]
  constructor
  · rintro ⟨key, hkey, rfl⟩
    rcases (normalizeKeyContainer_ok_iff.mp hkey).2 with ⟨hmagic, hjks⟩ | ⟨hmagic, ⟨-, hiit⟩ |
      ⟨hiit, ⟨-, hzs2⟩ | ⟨hzs2, hkind, hpem⟩⟩⟩
    · obtain ⟨hpassword, entry, hentry, hvalid, hcertificate, rfl⟩ := normalizeJks_ok_iff.mp hjks
      exact ⟨hne, Or.inl ⟨entry, hmagic, hpassword, hentry, hvalid, hcertificate hne, rfl⟩⟩
    · obtain ⟨decrypted, -, rfl⟩ := normalizeIit_ok hiit
      exact absurd rfl hne
    · rw [normalizeZs2_ok hzs2] at hne
      exact absurd rfl hne
    · obtain ⟨blocks, keyBlock, hblocks, hfind, hvalid, rfl⟩ := normalizePemDer_ok_iff.mp hpem
      rw [blockKey_certificate] at hne ⊢
      by_cases hpkcs12 : keyBlock.type = "DER" ∧ isPkcs12Der env.w keyBlock.derPayload = true
      · rw [if_pos hpkcs12] at hne
        exact absurd rfl hne
      · rw [if_neg hpkcs12] at hne ⊢
        exact ⟨hne, Or.inr ⟨blocks, keyBlock, hmagic, hiit, hzs2, hkind, hblocks, hfind, hvalid,
          hpkcs12, rfl⟩⟩
  · rintro ⟨-, ⟨entry, hmagic, hpassword, hentry, hvalid, hcertificate, rfl⟩ | ⟨blocks, keyBlock,
      hmagic, hiit, hzs2, hkind, hblocks, hfind, hvalid, hpkcs12, rfl⟩⟩
    · refine ⟨_, normalizeKeyContainer_ok_iff.mpr ⟨fun hempty => ?_, Or.inl ⟨hmagic,
        normalizeJks_ok_iff.mpr ⟨hpassword, entry, hentry, hvalid, fun _ => hcertificate, rfl⟩⟩⟩, rfl⟩
      rw [hempty] at hmagic
      exact absurd hmagic (by decide)
    · refine ⟨_, normalizeKeyContainer_ok_iff.mpr ⟨fun hempty => ?_, Or.inr ⟨hmagic, Or.inr ⟨hiit,
        Or.inr ⟨hzs2, hkind, normalizePemDer_ok_iff.mpr
          ⟨blocks, keyBlock, hblocks, hfind, hvalid, rfl⟩⟩⟩⟩⟩, ?_⟩
      · rw [hempty] at hkind
        exact absurd hkind (by decide)
      · rw [blockKey_certificate, if_neg hpkcs12]

/-! ### Keys and certificates that fit -/

/-- The private keys of a container. -/
def privateKeyParts (env : KeyEnv) (args : LoadArgs) : List Bytes :=
  if kJksMagic.isPrefixOf args.keyData then
    match env.loadJksEntry args.keyData args.storePassword args.keyPassword args.jksAlias with
    | .error _ => []
    | .ok entry => entry.privateKeyPkcs8 :: entry.otherPrivateKeys
  else if env.iitMatches args.keyData then
    match env.iitDecrypt args.keyData
      (if args.storePassword = "" then args.keyPassword else args.storePassword) with
    | .error _ => []
    | .ok decrypted => [decrypted]
  else
    args.keyData :: match loadAll args.keyData args.strictPem with
      | .error _ => []
      | .ok blocks => (blocks.filter isKeyBlock).map (·.derPayload)

/-- The certificate is for a private key in the container, whatever password opens it. -/
def Fits (env : KeyEnv) (args : LoadArgs) (certificate : Bytes) : Prop :=
  ∃ facts, env.pairing.certDecode certificate = .ok facts ∧
    ∃ part ∈ privateKeyParts env args, ∃ password,
      facts.spki ∈ containerKeys env.pairing part password

/-- The certificate that the caller gives, as bytes or as a file. -/
def suppliedCertificate (env : KeyEnv) (hints : CertificateHints) : Option Bytes :=
  let decoded := base64Decode hints.certificateBase64
  if hints.certificateBase64 ≠ "" ∧ decoded.ok = true ∧ decoded.bytes ≠ [] then
    normalizeCertificateBytes decoded.bytes
  else (explicitPath env hints).bind fun path =>
    (readBinary env.fs path).bind normalizeCertificateBytes

theorem keyMaterial_mem_privateKeyParts (h : normalizeKeyContainer env args = .ok key) :
    key.keyMaterial ∈ privateKeyParts env args := by
  rw [privateKeyParts]
  rcases (normalizeKeyContainer_ok_iff.mp h).2 with ⟨hmagic, hjks⟩ | ⟨hmagic, ⟨hiit, hdecrypt⟩ |
    ⟨hiit, ⟨-, hzs2⟩ | ⟨-, -, hpem⟩⟩⟩
  · obtain ⟨-, entry, hentry, -, -, rfl⟩ := normalizeJks_ok_iff.mp hjks
    rw [if_pos hmagic, hentry]
    exact mem_cons_self
  · obtain ⟨decrypted, hdecrypted, rfl⟩ := normalizeIit_ok hdecrypt
    rw [hmagic, if_neg Bool.false_ne_true, if_pos hiit, hdecrypted]
    exact mem_cons_self
  · rw [hmagic, hiit, normalizeZs2_ok hzs2]
    exact mem_cons_self
  · obtain ⟨blocks, keyBlock, hblocks, hfind, -, rfl⟩ := normalizePemDer_ok_iff.mp hpem
    have hpayload : keyBlock.derPayload ∈ (blocks.filter isKeyBlock).map (·.derPayload) :=
      mem_map_of_mem (mem_filter.mpr
        ⟨mem_of_find?_eq_some hfind, List.find?_some hfind⟩)
    rw [hmagic, hiit, hblocks]
    rcases @blockKey_keyMaterial env args blocks keyBlock with heq | heq
    · rw [heq]
      exact mem_cons_self
    · rw [heq]
      exact mem_cons_of_mem _ hpayload

theorem resolveMissingCertificate_ok {settings : KeySettings} {keyMaterial : Bytes}
    {password : String} {hints : CertificateHints}
    (h : resolveMissingCertificate env settings keyMaterial password hints = .ok certificate) :
    (∃ facts, env.pairing.certDecode certificate = .ok facts ∧
      facts.spki ∈ containerKeys env.pairing keyMaterial password) ∧
    ∀ supplied, suppliedCertificate env hints = some supplied → certificate = supplied := by
  rw [resolveMissingCertificate] at h
  dsimp only at h
  split at h
  · cases h
  next hdecodes =>
  split at h
  · next hsucceeded =>
    cases h
    set request := resolveRequest env settings keyMaterial password hints (explicitDer hints)
    have hfound : found (resolve env.pairing env.sha256 env.fs env.net request).result = some
        ((resolve env.pairing env.sha256 env.fs env.net request).result.source,
          (resolve env.pairing env.sha256 env.fs env.net request).result.sourceDetail,
          (resolve env.pairing env.sha256 env.fs env.net request).result.certificateDer) := by
      rw [found, if_pos hsucceeded]
    refine ⟨resolve_matches hfound, fun supplied hsupplied => ?_⟩
    obtain ⟨candidate, hoffered, hnormal, -⟩ := exists_offered_of_found hfound
    have hcontent : normalizeCertificateBytes candidate.content = some supplied := by
      rw [suppliedCertificate] at hsupplied
      rw [offered] at hoffered
      split at hsupplied
      · next hbase64 =>
        -- the bytes that the caller gave are the only candidate
        have hder : request.explicitCertificateDer = (base64Decode hints.certificateBase64).bytes :=
          if_neg hbase64.1
        rw [hder, if_pos hbase64.2.2, mem_singleton] at hoffered
        rw [hoffered]
        exact hsupplied
      · next hbase64 =>
        obtain ⟨path, hpath, hfile⟩ := Option.bind_eq_some_iff.mp hsupplied
        obtain ⟨raw, hraw, hnormalized⟩ := Option.bind_eq_some_iff.mp hfile
        have hder : request.explicitCertificateDer = [] := by
          show explicitDer hints = []
          rw [explicitDer]
          by_cases hblank : hints.certificateBase64 = ""
          · rw [if_pos hblank]
          · rw [if_neg hblank]
            have hok : (base64Decode hints.certificateBase64).ok = true := by
              by_contra hok
              exact hdecodes ⟨hblank, by simpa using hok⟩
            by_contra hbytes
            exact hbase64 ⟨hblank, hok, hbytes⟩
        have hexplicit : request.explicitCertificatePath = some path := hpath
        rw [hder, if_neg (by simp), hexplicit] at hoffered
        obtain ⟨path', hpath', hcandidate⟩ := mem_filterMap.mp hoffered
        rw [mem_singleton.mp hpath', hraw] at hcandidate
        cases hcandidate
        exact hnormalized
    rw [hcontent] at hnormal
    exact (Option.some.inj hnormal).symm
  · cases h

/-! ### What loading promises -/

/-- A key that is loaded comes with no certificate or with one that fits and that the caller gave,
if they gave one; a call that fails leaves the loaded key alone. -/
structure LoadsFitting (env : KeyEnv) (st : KeySession) (call : KeyCall) : Prop where
  fits : ∀ args, call.arguments env = .ok args → (call.run env st).2 = true →
    (call.run env st).1.loaded.certificate = [] ∨
      Fits env args.withKeyPassword (call.run env st).1.loaded.certificate
  explicit : ∀ args, call.arguments env = .ok args → (call.run env st).2 = true →
    ∀ supplied, suppliedCertificate env args.hints = some supplied →
      (call.run env st).1.loaded.certificate = supplied
  unchanged : (call.run env st).2 = false → (call.run env st).1.loaded = st.loaded

theorem loadPrivateKeyPayload_cases (st : KeySession) (args : LoadArgs) :
    (∃ message, loadPrivateKeyPayload env st args = st.fail message) ∨
    ∃ key, normalizeKeyContainer env args.withKeyPassword = .ok key ∧
      ((key.certificate ≠ [] ∧ loadPrivateKeyPayload env st args =
          (commitLoadedKey st key key.certificate args.effectivePassword, true)) ∨
        (key.certificate = [] ∧ ∃ certificate, loadPrivateKeyPayload env st args =
            (commitLoadedKey st key certificate args.effectivePassword, true) ∧
          (resolveMissingCertificate env st.settings key.keyMaterial args.effectivePassword
              args.hints = .ok certificate ∨
            (certificate = [] ∧ args.hints.certificatePath = "" ∧
              args.hints.certificateBase64 = "")))) := by
  rw [loadPrivateKeyPayload]
  split
  · exact Or.inl ⟨_, rfl⟩
  rcases normalizeKeyContainer env args.withKeyPassword with e | key
  · exact Or.inl ⟨_, rfl⟩
  dsimp only
  by_cases hbrought : key.certificate = []
  · rw [if_neg (not_not.mpr hbrought)]
    rcases hresolved : resolveMissingCertificate env st.settings key.keyMaterial
      args.effectivePassword args.hints with e | certificate
    · dsimp only
      split
      · exact Or.inl ⟨_, rfl⟩
      · next hhints =>
        rw [not_or, not_not, not_not] at hhints
        exact Or.inr ⟨key, rfl, Or.inr ⟨hbrought, [], rfl, Or.inr ⟨rfl, hhints⟩⟩⟩
    · exact Or.inr ⟨key, rfl, Or.inr ⟨hbrought, certificate, rfl, Or.inl hresolved⟩⟩
  · rw [if_pos hbrought]
    exact Or.inr ⟨key, rfl, Or.inl ⟨hbrought, rfl⟩⟩

theorem suppliedCertificate_of_no_hints {hints : CertificateHints}
    (hpath : hints.certificatePath = "") (hbase64 : hints.certificateBase64 = "") :
    suppliedCertificate env hints = none := by
  rw [suppliedCertificate, explicitPath, if_pos hpath]
  exact if_neg fun h => h.1 hbase64

/-- **Loading a key keeps key and certificate together exactly when a certificate that the
container brings along is for a key in it, and is the one that the caller gave, if they gave
one.** -/
theorem loaded_key_fits_iff (env : KeyEnv) (st : KeySession) (call : KeyCall) :
    LoadsFitting env st call ↔
      ∀ args, call.arguments env = .ok args → ∀ certificate,
        Brings env args.withKeyPassword certificate →
        Fits env args.withKeyPassword certificate ∧
          ∀ supplied, suppliedCertificate env args.hints = some supplied →
            certificate = supplied := by
  constructor
  · -- what the container brings is what gets loaded
    intro h args hargs certificate hbrings
    obtain ⟨key, hkey, rfl⟩ := (normalizeKeyContainer_certificate hbrings.1).mpr hbrings
    have hrun : call.run env st =
        (commitLoadedKey st key key.certificate args.effectivePassword, true) := by
      have hdata : args.keyData ≠ [] := by
        have hread := (normalizeKeyContainer_ok_iff.mp hkey).1
        rw [LoadArgs.withKeyPassword] at hread
        split at hread <;> exact hread
      rw [KeyCall.run, hargs]
      dsimp only
      rw [loadPrivateKeyPayload, if_neg hdata, hkey]
      dsimp only
      rw [if_pos hbrings.1]
    have hfits := h.fits args hargs (by rw [hrun])
    have hexplicit := h.explicit args hargs (by rw [hrun])
    rw [hrun] at hfits hexplicit
    exact ⟨hfits.resolve_left hbrings.1, hexplicit⟩
  · intro hbrought
    -- one fact for both fields about a call that succeeds
    have hsuccess : ∀ args, call.arguments env = .ok args → (call.run env st).2 = true →
        ((call.run env st).1.loaded.certificate = [] ∨
          Fits env args.withKeyPassword (call.run env st).1.loaded.certificate) ∧
        ∀ supplied, suppliedCertificate env args.hints = some supplied →
          (call.run env st).1.loaded.certificate = supplied := by
      intro args hargs hok
      have hrun : call.run env st = loadPrivateKeyPayload env st args := by
        rw [KeyCall.run, hargs]
      rw [hrun] at hok ⊢
      rcases @loadPrivateKeyPayload_cases env st args with ⟨message, heq⟩ |
        ⟨key, hkey, ⟨hne, heq⟩ | ⟨-, certificate, heq, hresolved | ⟨rfl, hhints⟩⟩⟩
      · rw [heq] at hok
        cases hok
      · rw [heq]
        have hbrings : Brings env args.withKeyPassword key.certificate :=
          (normalizeKeyContainer_certificate hne).mp ⟨key, hkey, rfl⟩
        obtain ⟨hfits, hexplicit⟩ := hbrought args hargs key.certificate hbrings
        exact ⟨Or.inr hfits, hexplicit⟩
      · rw [heq]
        obtain ⟨⟨facts, hfacts, hspki⟩, hexplicit⟩ := resolveMissingCertificate_ok hresolved
        exact ⟨Or.inr ⟨facts, hfacts, key.keyMaterial, keyMaterial_mem_privateKeyParts hkey,
          args.effectivePassword, hspki⟩, hexplicit⟩
      · rw [heq]
        refine ⟨Or.inl rfl, fun supplied hsupplied => ?_⟩
        rw [suppliedCertificate_of_no_hints hhints.1 hhints.2] at hsupplied
        cases hsupplied
    refine ⟨fun args hargs hok => (hsuccess args hargs hok).1,
      fun args hargs hok => (hsuccess args hargs hok).2, fun hfailed => ?_⟩
    rw [KeyCall.run] at hfailed ⊢
    cases hargs : call.arguments env with
    | error e => rfl
    | ok args =>
      rw [hargs] at hfailed
      dsimp only at hfailed ⊢
      rcases @loadPrivateKeyPayload_cases env st args with ⟨message, heq⟩ |
        ⟨key, -, ⟨-, heq⟩ | ⟨-, certificate, heq, -⟩⟩
      · rw [heq]
        rfl
      · rw [heq] at hfailed
        cases hfailed
      · rw [heq] at hfailed
        cases hfailed

end Brings

/-! ### A key store with the certificate of the issuer only -/

/-- `SEQUENCE { NULL }`, for a key. -/
def exampleKey : Bytes := [0x30, 0x02, 0x05, 0x00]

def ownCertificate : Bytes := [0x30, 0x02, 0x01, 0x01]

def issuerCertificate : Bytes := [0x30, 0x02, 0x01, 0x02]

def examplePairing : PairingLib where
  pkcs12Decode _ _ := none
  pkcs8PublicKey material := if material = exampleKey then .ok [0xA1] else .error 1
  certDecode der :=
    if der = ownCertificate then .ok ⟨[0xA1], .bits true true⟩
    else if der = issuerCertificate then .ok ⟨[0xA2], .bits false false⟩
    else .error 1

/-- A store whose entry comes with the certificate of the issuer. -/
def exampleEnv : KeyEnv where
  pairing := examplePairing
  sha256 := id
  fs :=
    { currentDirectory := none
      isDirectory := fun _ => false
      isRegularFile := fun _ => false
      listing := fun _ => []
      content := fun path => if path = ⟨"", "own.cer"⟩ then some ownCertificate else none }
  net :=
    { registry := fun _ => .error ""
      ldap := fun _ => {}
      http := fun _ => {}
      cmp := fun _ => {} }
  w := 8
  loadJksEntry _ _ _ _ := .ok ⟨exampleKey, issuerCertificate, [issuerCertificate], []⟩
  iitMatches _ := false
  iitDecrypt _ _ := .error ""
  zs2Matches _ := false
  toPath name := ⟨"", name⟩
  resolveFilePath name := some ⟨"", name⟩
  readKeyFile _ := .ok kJksMagic

/-- The caller names the right certificate besides. -/
def exampleDescriptor : Descriptor where
  text name :=
    if name = "path" then some "key.jks"
    else if name = "certificatePath" then some "own.cer"
    else none
  bool _ := none

def exampleCall : KeyCall := .readPrivateKey exampleDescriptor "password"

theorem issuer_loaded_with_key : (exampleCall.run exampleEnv {}).2 = true ∧
      (exampleCall.run exampleEnv {}).1.loaded.certificate = issuerCertificate ∧
      ¬ LoadsFitting exampleEnv {} exampleCall := by
  have hrun : (exampleCall.run exampleEnv {}).2 = true ∧
      (exampleCall.run exampleEnv {}).1.loaded.certificate = issuerCertificate := by decide +kernel
  refine ⟨hrun.1, hrun.2, fun h => ?_⟩
  have hhints : (exampleCall.arguments exampleEnv).toOption.map
      (fun args => suppliedCertificate exampleEnv args.hints) = some (some ownCertificate) := by
    decide +kernel
  rcases hargs : exampleCall.arguments exampleEnv with e | args
  · rw [hargs] at hhints
    cases hhints
  · rw [hargs] at hhints
    have hsupplied := h.explicit args hargs hrun.1 ownCertificate (Option.some.inj hhints)
    exact absurd hsupplied (by decide)

end Tamga.KeyLoading
