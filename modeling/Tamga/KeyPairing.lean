/-
Which certificate belongs to which private key (`core/cryptonite/KeyPairing.cpp`).

The one criterion is that the `SubjectPublicKeyInfo` of the certificate is that of a key in the
container.  The keys of a PKCS#12 container are asked for by their aliases, and the library finds
the last key with an alias; so a key is not listed when a later one has its alias.

* `mem_containerKeys_of_load` — every listed key is a key of the container;
* `matchesKeys_iff` — what a match says.
-/
import Tamga.Basic
import Tamga.KeyedCollection

namespace Tamga.Keys

open KeyedCollection List

/-! ### What the library tells -/

/-- The extension `keyUsage` of a certificate. -/
inductive KeyUsage
  | absent
  | unreadable
  | bits (digitalSignature nonRepudiation : Bool)
  deriving DecidableEq, Repr

/-- Of a decoded certificate: its encoded `SubjectPublicKeyInfo` and its key usage. -/
structure CertificateFacts where
  spki : Bytes
  keyUsage : KeyUsage
  deriving DecidableEq, Repr

/-- A key of a PKCS#12 container, with what selecting it and deriving its public key gives. -/
structure ContainerKey where
  keyAlias : Option String
  publicKey : Except Int Bytes

/-- The decoders.  A number is the return code of a failure. -/
structure PairingLib where
  /-- `none` if the bytes are no PKCS#12 container for the password; otherwise its keys, if they
  can be enumerated. -/
  pkcs12Decode : Bytes → String → Option (Except Int (List ContainerKey))
  pkcs8PublicKey : Bytes → Except Int Bytes
  certDecode : Bytes → Except Int CertificateFacts

/-- `RET_INVALID_PARAM`. -/
def retInvalidParam : Int := 2

/-- `RET_STORAGE_NO_KEY`. -/
def retStorageNoKey : Int := 0x02a0

/-- The stage that failed, with the code of the library. -/
def buildRcError (stage : String) (rc : Int) : String :=
  stage ++ " failed (cryptonite rc=" ++ toString rc ++ ")"

/-- `CertificateAllowsSigning`: an extension that is missing or cannot be read restricts
nothing. -/
def certificateAllowsSigning : KeyUsage → Bool
  | .absent => true
  | .unreadable => true
  | .bits digitalSignature nonRepudiation => digitalSignature || nonRepudiation

/-! ### The keys of a container -/

/-- An empty encoding counts as an error. -/
def encodeSpki : Except Int Bytes → Except Int Bytes
  | .error rc => .error rc
  | .ok spki => if spki = [] then .error retInvalidParam else .ok spki

variable (keys : List ContainerKey)

/-- `pkcs12_select_key`: the first key, or the last one with an alias. -/
def selectKey : Option String → Option ContainerKey
  | none => keys.head?
  | some name => keys.reverse.find? fun key => key.keyAlias == some name

/-- Each alias of the keys once. -/
def aliases : List String :=
  (keys.filterMap (·.keyAlias)).foldl (keep id []) []

/-- The public keys that the aliases give; a failure hides no other key. -/
def aliasSpkis : List Bytes :=
  (aliases keys).filterMap fun name =>
    (selectKey keys (some name)).bind fun key => (encodeSpki key.publicKey).toOption

/-- The public key of the first key. -/
def firstSpki : Except Int (List Bytes) :=
  match selectKey keys none with
  | none => .error retStorageNoKey
  | some key => (encodeSpki key.publicKey).map ([·])

section Pairing

variable (lib : PairingLib)

variable (keyMaterial : Bytes) (password : String)

/-- The public keys of a PKCS#12 container, or that of a plain key. -/
def collectSpkiFromKeyContainer (allKeys : Bool) : Except Int (List Bytes) :=
  match lib.pkcs12Decode keyMaterial password with
  | some (.error rc) => .error rc
  | some (.ok keys) =>
    if allKeys = false ∨ aliases keys = [] then firstSpki keys
    else if aliasSpkis keys = [] then .error retInvalidParam
    else .ok (aliasSpkis keys)
  | none => (encodeSpki (lib.pkcs8PublicKey keyMaterial)).map ([·])

/-- The first public key of the key material. -/
def extractSubjectPublicKeyInfo : Except String Bytes :=
  if keyMaterial = [] then .error "ExtractSubjectPublicKeyInfo: key material is empty"
  else match collectSpkiFromKeyContainer lib keyMaterial password false with
  | .error rc => .error (buildRcError "ExtractSubjectPublicKeyInfo: private key decode" rc)
  | .ok [] =>
    .error (buildRcError "ExtractSubjectPublicKeyInfo: private key decode" retInvalidParam)
  | .ok (spki :: _) =>
    if spki = [] then .error (buildRcError "ExtractSubjectPublicKeyInfo: private key decode" 0)
    else .ok spki

/-- The public keys that a certificate is compared with. -/
def load : Except String (List Bytes) :=
  if keyMaterial = [] then .error "ContainerPublicKeys::Load: key material is empty"
  else match collectSpkiFromKeyContainer lib keyMaterial password true with
  | .error rc => .error (buildRcError "ContainerPublicKeys::Load: private key decode" rc)
  | .ok spkiList =>
    if spkiList = [] then
      .error (buildRcError "ContainerPublicKeys::Load: private key decode" 0)
    else .ok spkiList

/-- The public key of a certificate. -/
def extractCertificateSubjectPublicKeyInfo (certificateDer : Bytes) : Except String Bytes :=
  if certificateDer = [] then
    .error "ExtractCertificateSubjectPublicKeyInfo: certificate is empty"
  else match lib.certDecode certificateDer with
  | .error rc => .error (buildRcError "ExtractCertificateSubjectPublicKeyInfo: cert_decode" rc)
  | .ok facts =>
    if facts.spki = [] then
      .error "ExtractCertificateSubjectPublicKeyInfo: unable to encode SubjectPublicKeyInfo"
    else .ok facts.spki

/-- The certificate has one of these public keys. -/
def matchesKeys (spkiList : List Bytes) (certificateDer : Bytes) : Bool :=
  match extractCertificateSubjectPublicKeyInfo lib certificateDer with
  | .error _ => false
  | .ok certSpki => spkiList.any fun keySpki => keySpki != [] && keySpki == certSpki

/-- The first certificate of a chain for a key that is not encrypted any more. -/
def findMatchingCertificate (chain : List Bytes) : Option Bytes :=
  match load lib keyMaterial "" with
  | .error _ => none
  | .ok keys => chain.find? (matchesKeys lib keys)

/-! ### What a match says -/

/-- The public keys of all private keys in a container, as far as they can be derived. -/
def containerKeys : List Bytes :=
  match lib.pkcs12Decode keyMaterial password with
  | some (.error _) => []
  | some (.ok keys) => keys.filterMap fun key => (encodeSpki key.publicKey).toOption
  | none => (encodeSpki (lib.pkcs8PublicKey keyMaterial)).toOption.toList

variable {lib}

variable {x : Except Int Bytes} {spki : Bytes}

theorem encodeSpki_ne_nil (h : encodeSpki x = .ok spki) : spki ≠ [] := by
  rcases x with rc | s
  · cases h
  · rw [encodeSpki] at h
    split at h
    · cases h
    · next hne =>
      cases h
      exact hne

theorem toOption_eq_some : x.toOption = some spki ↔ x = .ok spki := by
  rcases x with rc | s
  · constructor <;> intro h <;> cases h
  · exact ⟨fun h => congrArg _ (Option.some.inj h), fun h => congrArg _ (Except.ok.inj h)⟩

variable {spkis : List Bytes}

theorem map_singleton_eq_ok
    (h : x.map ([·]) = .ok spkis) : ∃ spki, x = .ok spki ∧ spkis = [spki] := by
  rcases x with rc | s
  · cases h
  · exact ⟨s, rfl, (Except.ok.inj h).symm⟩

theorem mem_of_selectKey {keys : List ContainerKey} {name : Option String} {key : ContainerKey}
    (h : selectKey keys name = some key) : key ∈ keys := by
  cases name with
  | none => exact mem_of_mem_head? h
  | some name => exact mem_reverse.mp (mem_of_find?_eq_some h)

variable {keyMaterial password}

theorem mem_containerKeys_of_collect {allKeys : Bool}
    (h : collectSpkiFromKeyContainer lib keyMaterial password allKeys = .ok spkis)
    (hspki : spki ∈ spkis) : spki ∈ containerKeys lib keyMaterial password := by
  rw [collectSpkiFromKeyContainer] at h
  rw [containerKeys]
  split at h
  · cases h
  · next keys hdecode =>
    rw [mem_filterMap]
    split at h
    · rw [firstSpki] at h
      split at h
      · cases h
      · next key hkey =>
        obtain ⟨s, hs, rfl⟩ := map_singleton_eq_ok h
        rw [mem_singleton.mp hspki]
        exact ⟨key, mem_of_selectKey hkey, toOption_eq_some.mpr hs⟩
    · split at h
      · cases h
      · cases h
        obtain ⟨name, -, hname⟩ := mem_filterMap.mp hspki
        obtain ⟨key, hkey, hs⟩ := Option.bind_eq_some_iff.mp hname
        exact ⟨key, mem_of_selectKey hkey, hs⟩
  · next hdecode =>
    obtain ⟨s, hs, rfl⟩ := map_singleton_eq_ok h
    rw [mem_singleton.mp hspki, hs]
    exact mem_singleton_self s

theorem mem_containerKeys_of_load (h : load lib keyMaterial password = .ok spkis)
    (hspki : spki ∈ spkis) :
    spki ∈ containerKeys lib keyMaterial password := by
  rw [load] at h
  split at h
  · cases h
  · split at h
    · cases h
    · next hcollect =>
      split at h
      · cases h
      · cases h
        exact mem_containerKeys_of_collect hcollect hspki

theorem containerKeys_ne_nil (h : spki ∈ containerKeys lib keyMaterial password) : spki ≠ [] := by
  rw [containerKeys] at h
  split at h
  · exact absurd h not_mem_nil
  · obtain ⟨key, -, hkey⟩ := mem_filterMap.mp h
    exact encodeSpki_ne_nil (toOption_eq_some.mp hkey)
  · exact encodeSpki_ne_nil (toOption_eq_some.mp (Option.mem_toList.mp h))

theorem matchesKeys_iff {spkiList : List Bytes} {certificateDer : Bytes} :
    matchesKeys lib spkiList certificateDer = true ↔ certificateDer ≠ [] ∧
      ∃ facts, lib.certDecode certificateDer = .ok facts ∧ facts.spki ≠ [] ∧
        facts.spki ∈ spkiList := by
  rw [matchesKeys, extractCertificateSubjectPublicKeyInfo]
  by_cases hder : certificateDer = []
  · rw [if_pos hder]
    exact ⟨fun h => absurd h Bool.false_ne_true, fun h => absurd hder h.1⟩
  rw [if_neg hder]
  rcases hdecode : lib.certDecode certificateDer with rc | facts
  · refine ⟨fun h => absurd h Bool.false_ne_true, ?_⟩
    rintro ⟨-, facts, hfacts, -⟩
    cases hfacts
  · dsimp only
    by_cases hspki : facts.spki = []
    · rw [if_pos hspki]
      refine ⟨fun h => absurd h Bool.false_ne_true, ?_⟩
      rintro ⟨-, facts', hfacts, hne, -⟩
      cases hfacts
      exact absurd hspki hne
    · rw [if_neg hspki]
      simp only [any_eq_true, Bool.and_eq_true, bne_iff_ne, beq_iff_eq]
      constructor
      · rintro ⟨key, hkey, -, rfl⟩
        exact ⟨hder, facts, rfl, hspki, hkey⟩
      · rintro ⟨-, facts', hfacts, hne, hmem⟩
        cases hfacts
        exact ⟨facts.spki, hmem, hne, rfl⟩

end Pairing

end Tamga.Keys
