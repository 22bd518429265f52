/-
The trust path of the signer (`PathBuilder`, `PathValidator`, `PathSelector`)
and the trust-list entry of its service (`TrustServiceEvaluator`).

The policy decides which anchor sets are tried: the current trust list, the
historical one, or a set of one's own.  Every attempt is a run of the chain
validator at the evaluation time; the first trusted one that the policy admits
is selected.

* `pathSelect_selected` — what a selection can be;
* `selectedPath_sound` — a selected trusted path is one of the attempts, and a
  historical one only where the policy allows historical trust;
* `pathResults_congr` — the attempts depend on the time only through the instant
  it denotes;
* `selectSnapshot_congr` — the choice of a snapshot depends on the time only
  through its comparison with the months of the history;
* `selectSnapshot_nearest` — the choice for a month is the snapshot nearest below.
-/
import Tamga.CertificateChain
import Tamga.NearestBelow
import Tamga.ValidationTypes
import Mathlib.Data.Char
import Mathlib.Data.List.Lex

namespace Tamga.Validation

open Policy IsoTime List

/-! ### Paths -/

structure PathBuilderInput where
  signerCertificateDer : Der := []
  embeddedCertificatesDer : List Der := []
  intermediateStoreCertificatesDer : List Der := []
  aiaCertificatesDer : List Der := []
  currentTrustAnchorsDer : List Der := []
  historicalTrustAnchorsDer : List Der := []
  customTrustAnchorsDer : List Der := []
  pinnedTrustAnchorsDer : List Der := []
  policy : ValidationPolicy := {}
  validationTime : String := ""

structure PathCandidate where
  candidateId : String := ""
  trustAnchorSource : String := ""
  signerCertificateDer : Der := []
  embeddedCertificatesDer : List Der := []
  intermediateCertificatesDer : List Der := []
  aiaCertificatesDer : List Der := []
  trustAnchorsDer : List Der := []
  usesHistoricalTrust : Bool := false
  validationTime : String := ""

structure PathValidationResult where
  candidateId : String := ""
  trustAnchorSource : String := ""
  attempted : Bool := false
  checked : Bool := false
  trusted : Bool := false
  chainValid : Bool := false
  signerCertificateTimeValid : Bool := false
  status : ChainStatus := .notChecked
  message : String := ""
  issuerCertificateDer : Der := []
  signerIssuerCertificateDer : Der := []
  usesHistoricalTrust : Bool := false

/-- The selected index, or `none` for `npos`. -/
structure PathSelection where
  selectedIndex : Option Nat := none
  selectedResult : PathValidationResult := {}
  reason : String := "no-candidates"

variable (input : PathBuilderInput)

def makeCandidate (candidateId trustAnchorSource : String)
    (trustAnchors : List Der) (usesHistoricalTrust : Bool) : PathCandidate :=
  { candidateId := candidateId
    trustAnchorSource := trustAnchorSource
    signerCertificateDer := input.signerCertificateDer
    embeddedCertificatesDer := input.embeddedCertificatesDer
    intermediateCertificatesDer := input.intermediateStoreCertificatesDer
    aiaCertificatesDer := input.aiaCertificatesDer
    trustAnchorsDer := trustAnchors
    usesHistoricalTrust := usesHistoricalTrust
    validationTime := input.validationTime }

/-- `AddCurrentCandidate`. -/
def currentCandidate (candidateId trustAnchorSource : String) : List PathCandidate :=
  [makeCandidate input candidateId trustAnchorSource input.currentTrustAnchorsDer false]

/-- `AddHistoricalCandidateIfAllowed`. -/
def historicalCandidateIfAllowed (candidateId : String) : List PathCandidate :=
  if input.policy.allowHistoricalTrust && !input.historicalTrustAnchorsDer.isEmpty then
    [makeCandidate input candidateId "historical-tl" input.historicalTrustAnchorsDer true]
  else []

/-- `PathBuilder::Build`. -/
def pathBuild : List PathCandidate :=
  match input.policy.trustAnchorPolicy with
  | .currentTLOnly => currentCandidate input "current-tl" "current-tl"
  | .explicitLegacyAnchorBundle =>
    currentCandidate input "current-tl" "current-tl" ++
      historicalCandidateIfAllowed input "historical-tl"
  | .historicalAtSigningTime =>
    currentCandidate input "current-tl" "current-tl" ++
      historicalCandidateIfAllowed input "historical-tl"
  | .customTrustStore =>
    [makeCandidate input "custom-trust-store" "custom-trust-store" input.customTrustAnchorsDer
      false]
  | .pinnedAnchors =>
    [makeCandidate input "pinned-anchors" "pinned-anchors" input.pinnedTrustAnchorsDer false]
  | .forensicAllPossible =>
    (if !input.currentTrustAnchorsDer.isEmpty || input.historicalTrustAnchorsDer.isEmpty then
      currentCandidate input "forensic-current-tl" "current-tl" else []) ++
    (if !input.historicalTrustAnchorsDer.isEmpty then
      [makeCandidate input "forensic-historical-tl" "historical-tl"
        input.historicalTrustAnchorsDer true] else [])

section Paths

variable {Cert : Type} (X : CertOracle Cert)

def PathCandidate.chainInput (candidate : PathCandidate) : CertificateChainInput :=
  { signerCertificateDer := candidate.signerCertificateDer
    embeddedCertificatesDer := candidate.embeddedCertificatesDer
    intermediateCertificatesDer := candidate.intermediateCertificatesDer
    aiaCertificatesDer := candidate.aiaCertificatesDer
    trustAnchorsDer := candidate.trustAnchorsDer
    trustAnchorSource := candidate.trustAnchorSource
    validationTime := candidate.validationTime }

def pathValidate (candidate : PathCandidate) : PathValidationResult :=
  let chain := chainValidate X candidate.chainInput
  { candidateId := candidate.candidateId
    trustAnchorSource := candidate.trustAnchorSource
    attempted := true
    checked := chain.checked
    trusted := chain.trusted
    chainValid := chain.chainValid
    signerCertificateTimeValid := chain.signerCertificateTimeValid
    status := chain.status
    message := chain.message
    issuerCertificateDer := chain.issuerCertificateDer
    signerIssuerCertificateDer := chain.signerIssuerCertificateDer
    usesHistoricalTrust := candidate.usesHistoricalTrust }

def pathResults (input : PathBuilderInput) : List PathValidationResult :=
  (pathBuild input).map (pathValidate X)

def isAuthoritativeCandidateAllowed (result : PathValidationResult) (policy : ValidationPolicy) :
    Bool :=
  !result.usesHistoricalTrust || policy.allowHistoricalTrust

/-- The first result that satisfies `p`, as a selection. -/
def selectFirst (results : List PathValidationResult) (p : PathValidationResult → Bool)
    (reason : String) : Option PathSelection :=
  (results.find? p).map fun r =>
    { selectedIndex := some (results.findIdx p), selectedResult := r, reason := reason }

def pathSelect (results : List PathValidationResult) (policy : ValidationPolicy) : PathSelection :=
  if results.isEmpty then { reason := "no-candidates" }
  else
    ((selectFirst results
        (fun r => r.trusted && isAuthoritativeCandidateAllowed r policy) "trusted-candidate").or
      (selectFirst results
        (fun r => isAuthoritativeCandidateAllowed r policy)
        "fallback-untrusted-candidate")).getD
      { reason := "no-authoritative-candidate" }

theorem pathSelect_selected {results : List PathValidationResult} {policy : ValidationPolicy}
    {i : Nat} (h : (pathSelect results policy).selectedIndex = some i) :
    (pathSelect results policy).selectedResult ∈ results ∧
      isAuthoritativeCandidateAllowed (pathSelect results policy).selectedResult policy = true := by
  unfold pathSelect at h ⊢
  split at h
  · simp at h
  next hne =>
  rw [if_neg hne]
  simp only [selectFirst] at h ⊢
  cases htrusted : results.find?
      (fun r => r.trusted && isAuthoritativeCandidateAllowed r policy) with
  | some r =>
    have hr := List.find?_some htrusted
    exact ⟨mem_of_find?_eq_some htrusted, (Bool.and_eq_true_iff.mp hr).2⟩
  | none =>
    cases hfall : results.find? (fun r => isAuthoritativeCandidateAllowed r policy) with
    | some r =>
      have hr := List.find?_some hfall
      exact ⟨mem_of_find?_eq_some hfall, hr⟩
    | none => simp [htrusted, hfall] at h

theorem pathSelect_singleton {r : PathValidationResult} {policy : ValidationPolicy}
    (h : isAuthoritativeCandidateAllowed r policy = true) :
    (pathSelect [r] policy).selectedIndex = some 0 ∧
      (pathSelect [r] policy).selectedResult = r := by
  cases ht : r.trusted <;> simp [pathSelect, selectFirst, h, ht]

theorem pathBuild_mem {input : PathBuilderInput} {c : PathCandidate} (h : c ∈ pathBuild input) :
    ∃ id source anchors historical, c = makeCandidate input id source anchors historical := by
  have hcur : ∀ id source, c ∈ currentCandidate input id source →
      ∃ id source anchors historical, c = makeCandidate input id source anchors historical :=
    fun _ _ h => ⟨_, _, _, _, mem_singleton.mp h⟩
  have hhist : ∀ id, c ∈ historicalCandidateIfAllowed input id →
      ∃ id source anchors historical, c = makeCandidate input id source anchors historical := by
    intro id h
    unfold historicalCandidateIfAllowed at h
    split at h
    · exact ⟨_, _, _, _, mem_singleton.mp h⟩
    · simp at h
  unfold pathBuild at h
  cases hp : input.policy.trustAnchorPolicy <;> simp only [hp, mem_append] at h
  case currentTLOnly => exact hcur _ _ h
  case explicitLegacyAnchorBundle => exact h.elim (hcur _ _) (hhist _)
  case historicalAtSigningTime => exact h.elim (hcur _ _) (hhist _)
  case customTrustStore => exact ⟨_, _, _, _, mem_singleton.mp h⟩
  case pinnedAnchors => exact ⟨_, _, _, _, mem_singleton.mp h⟩
  case forensicAllPossible =>
    rcases h with h | h
    · split at h
      · exact hcur _ _ h
      · simp at h
    · split at h
      · exact ⟨_, _, _, _, mem_singleton.mp h⟩
      · simp at h

/-- **A selected trusted path is a real one**: it is the verdict of the chain
validator on one of the candidates of the policy, taken at the time of the
input, and a historical one only where the policy allows it. -/
theorem selectedPath_sound {Cert : Type} (X : CertOracle Cert) (input : PathBuilderInput)
    {i : Nat} (h : (pathSelect (pathResults X input) input.policy).selectedIndex = some i) :
    ∃ c ∈ pathBuild input,
      (pathSelect (pathResults X input) input.policy).selectedResult = pathValidate X c ∧
      c.validationTime = input.validationTime ∧
      c.signerCertificateDer = input.signerCertificateDer ∧
      (c.usesHistoricalTrust = true → input.policy.allowHistoricalTrust = true) := by
  obtain ⟨hmem, hallowed⟩ := pathSelect_selected h
  obtain ⟨c, hc, heq⟩ := mem_map.mp hmem
  obtain ⟨id, source, anchors, historical, hmake⟩ := pathBuild_mem hc
  refine ⟨c, hc, heq.symm, by rw [hmake]; rfl, by rw [hmake]; rfl, ?_⟩
  intro hhist
  rw [← heq] at hallowed
  have : (pathValidate X c).usesHistoricalTrust = true := hhist
  simpa [isAuthoritativeCandidateAllowed, this] using hallowed

/-! ### The paths and the evaluation time -/

variable {X}

def PathBuilderInput.atTime (time : String) : PathBuilderInput :=
  { input with validationTime := time }

def PathCandidate.atTime (candidate : PathCandidate) (time : String) : PathCandidate :=
  { candidate with validationTime := time }

theorem pathBuild_atTime (time : String) :
    pathBuild (input.atTime time) = (pathBuild input).map (·.atTime time) := by
  have hmake : ∀ id source anchors historical,
      makeCandidate (input.atTime time) id source anchors historical
        = (makeCandidate input id source anchors historical).atTime time :=
    fun _ _ _ _ => rfl
  have hcur : ∀ id source, currentCandidate (input.atTime time) id source
      = (currentCandidate input id source).map (·.atTime time) := fun _ _ => rfl
  have hhist : ∀ id, historicalCandidateIfAllowed (input.atTime time) id
      = (historicalCandidateIfAllowed input id).map (·.atTime time) := by
    intro id
    show (if input.policy.allowHistoricalTrust && !input.historicalTrustAnchorsDer.isEmpty
      then _ else _) = _
    unfold historicalCandidateIfAllowed
    split <;> rfl
  unfold pathBuild
  show (match input.policy.trustAnchorPolicy with
    | .currentTLOnly => _ | .explicitLegacyAnchorBundle => _ | .historicalAtSigningTime => _
    | .customTrustStore => _ | .pinnedAnchors => _ | .forensicAllPossible => _) = _
  cases input.policy.trustAnchorPolicy with
  | currentTLOnly => exact hcur _ _
  | explicitLegacyAnchorBundle | historicalAtSigningTime => simp only [hcur, hhist, map_append]
  | customTrustStore => rfl
  | pinnedAnchors => rfl
  | forensicAllPossible =>
    simp only [hcur, hmake, map_append]
    show (if !input.currentTrustAnchorsDer.isEmpty || input.historicalTrustAnchorsDer.isEmpty
        then _ else _) ++ (if !input.historicalTrustAnchorsDer.isEmpty then _ else _) = _
    congr 1
    · split <;> rfl
    · split <;> rfl

theorem pathResults_congr {input : PathBuilderInput} {t t' : String}
    (h : parseIso8601Time t = parseIso8601Time t') :
    pathResults X (input.atTime t) = pathResults X (input.atTime t') := by
  simp only [pathResults, pathBuild_atTime, map_map]
  refine map_congr_left fun c _ => ?_
  have hchain : chainValidate X ({ c.chainInput with validationTime := t })
      = chainValidate X ({ c.chainInput with validationTime := t' }) := chainValidate_congr_time h
  show pathValidate X (c.atTime t) = pathValidate X (c.atTime t')
  unfold pathValidate
  rw [show (c.atTime t).chainInput = { c.chainInput with validationTime := t } from rfl,
    show (c.atTime t').chainInput = { c.chainInput with validationTime := t' } from rfl, hchain]
  rfl

end Paths

/-! ### The snapshot of the trust list -/

/-- The trust list that is consulted: the current one or a file of the history. -/
inductive Snapshot where
  | current
  | history (filename : String)
  deriving DecidableEq, Repr

structure DirEntry where
  filename : String
  isRegularFile : Bool := true
  deriving DecidableEq, Repr

/-- The checks on the seven characters `YYYY-MM`. -/
def isMonth (month : List Char) : Bool :=
  month[4]? == some '-' && (month.take 4).all isDigit && (month.drop 5).all isDigit

def snapshotHead : List Char := "TL-UA-EC-".toList

def snapshotTail : List Char := ".xml".toList

/-- The month of a file `TL-UA-EC-YYYY-MM.xml`. -/
def snapshotMonth (filename : String) : Option (List Char) :=
  let name := filename.toList
  let month := (name.drop 9).take 7
  if name.length = 20 ∧ name.take 9 = snapshotHead ∧ name.drop 16 = snapshotTail ∧
      isMonth month = true then
    some month
  else none

/-- The directory entries that are snapshots, with their months. -/
def snapshotEntries (entries : List DirEntry) : List (List Char × String) :=
  (entries.filter (·.isRegularFile)).filterMap fun e =>
    (snapshotMonth e.filename).map fun month => (month, e.filename)

/-- `TrustServiceEvaluator::SelectSnapshot` on the listing of the history
directory, `none` where there is no such directory. -/
def selectSnapshot (history : Option (List DirEntry)) (trustListReferenceTime : String)
    (strictCurrentTl : Bool) : Snapshot :=
  let reference := trustListReferenceTime.toList
  if reference = [] ∨ strictCurrentTl = true then .current
  else if reference.length < 7 then .current
  else match history with
  | none => .current
  | some entries =>
    match NearestBelow.select (reference.take 7) (snapshotEntries entries) with
    | some (_, filename) => .history filename
    | none => .current

def snapshotName (month : List Char) : String :=
  String.ofList (snapshotHead ++ (month ++ snapshotTail))

theorem snapshotHead_length : snapshotHead.length = 9 := by decide

theorem snapshotTail_length : snapshotTail.length = 4 := by decide

theorem snapshotMonth_eq_some {filename : String} {month : List Char}
    (h : snapshotMonth filename = some month) :
    filename = snapshotName month ∧ month.length = 7 ∧ isMonth month = true := by
  simp only [snapshotMonth] at h
  split at h
  next hc =>
    obtain ⟨hlen, hpre, hsuf, hmonth⟩ := hc
    rw [Option.some.injEq] at h
    subst h
    refine ⟨?_, by simp [hlen], hmonth⟩
    -- the name is its three pieces
    rw [snapshotName, ← hpre, ← hsuf]
    have hmid : (filename.toList.drop 9).take 7 ++ filename.toList.drop 16
        = filename.toList.drop 9 := by
      rw [show filename.toList.drop 16 = (filename.toList.drop 9).drop 7 by rw [drop_drop]]
      exact take_append_drop 7 _
    rw [hmid, take_append_drop, String.ofList_toList]
  · simp at h

theorem snapshotMonth_snapshotName {month : List Char} (hlen : month.length = 7)
    (h : isMonth month = true) : snapshotMonth (snapshotName month) = some month := by
  have hname : (snapshotName month).toList = snapshotHead ++ (month ++ snapshotTail) :=
    String.toList_ofList
  have hdrop : (snapshotName month).toList.drop 9 = month ++ snapshotTail := by
    rw [hname, ← snapshotHead_length, drop_left]
  have hmid : ((snapshotName month).toList.drop 9).take 7 = month := by
    rw [hdrop, ← hlen, take_left]
  have htail : (snapshotName month).toList.drop 16 = snapshotTail := by
    rw [show (snapshotName month).toList.drop 16 = ((snapshotName month).toList.drop 9).drop 7 by
      rw [drop_drop], hdrop, ← hlen, drop_left]
  have hhead : (snapshotName month).toList.take 9 = snapshotHead := by
    rw [hname, ← snapshotHead_length, take_left]
  simp only [snapshotMonth, hmid, hhead, htail]
  rw [if_pos]
  refine ⟨?_, trivial, trivial, h⟩
  rw [hname, length_append, length_append, hlen, snapshotHead_length,
    snapshotTail_length]

/-- Two reference times that no history of snapshots can tell apart: both too
short, or both comparing alike with every month that has an earlier one. -/
structure SameSnapshotReference (t t' : String) : Prop where
  short : t.toList.length < 7 ↔ t'.toList.length < 7
  months : 7 ≤ t.toList.length → ∀ older month : List Char,
    older.length = 7 → isMonth older = true → month.length = 7 → isMonth month = true →
    older < month → (month ≤ t.toList.take 7 ↔ month ≤ t'.toList.take 7)

theorem mem_snapshotEntries {entries : List DirEntry} {e : List Char × String}
    (h : e ∈ snapshotEntries entries) :
    e.2 = snapshotName e.1 ∧ e.1.length = 7 ∧ isMonth e.1 = true := by
  obtain ⟨d, -, hd⟩ := mem_filterMap.mp h
  obtain ⟨month, hmonth, rfl⟩ := Option.map_eq_some_iff.mp hd
  exact snapshotMonth_eq_some hmonth

theorem select_eq_map_key {entries : List DirEntry} {k : List Char} :
    NearestBelow.select k (snapshotEntries entries)
      = ((NearestBelow.select k (snapshotEntries entries)).map Prod.fst).map
          fun month => (month, snapshotName month) := by
  cases h : NearestBelow.select k (snapshotEntries entries) with
  | none => rfl
  | some e =>
    have hname := (mem_snapshotEntries (NearestBelow.select_spec h).1).1
    simp [← hname]

theorem selectSnapshot_of_long {t : String} (ht : ¬t.toList.length < 7)
    (history : Option (List DirEntry)) (strict : Bool) :
    selectSnapshot history t strict = if strict = true then .current else
      (NearestBelow.select (t.toList.take 7) (snapshotEntries (history.getD []))).elim .current
        fun e => .history e.2 := by
  have hne : t.toList ≠ [] := by
    intro hnil
    simp [hnil] at ht
  simp only [selectSnapshot, hne, false_or, if_neg ht]
  cases history with
  | none => rfl
  | some entries =>
    simp only [Option.getD_some]
    cases NearestBelow.select (t.toList.take 7) (snapshotEntries entries) <;> rfl

theorem selectSnapshot_congr {t t' : String} (h : SameSnapshotReference t t')
    (history : Option (List DirEntry)) (strict : Bool) :
    selectSnapshot history t strict = selectSnapshot history t' strict := by
  by_cases hshort : t.toList.length < 7
  · have hshort' := h.short.mp hshort
    simp [selectSnapshot, hshort, hshort']
  rw [selectSnapshot_of_long hshort, selectSnapshot_of_long fun hc => hshort (h.short.mpr hc)]
  have hkey : (NearestBelow.select (t.toList.take 7) (snapshotEntries (history.getD []))).map
      Prod.fst = (NearestBelow.select (t'.toList.take 7) (snapshotEntries (history.getD []))).map
      Prod.fst := by
    refine NearestBelow.select_key_congr fun a ha b hb hlt => ?_
    obtain ⟨-, halen, hamonth⟩ := mem_snapshotEntries ha
    obtain ⟨-, hblen, hbmonth⟩ := mem_snapshotEntries hb
    exact h.months (Nat.not_lt.mp hshort) a.1 b.1 halen hamonth hblen hbmonth hlt
  rw [select_eq_map_key, hkey, ← select_eq_map_key]

def monthEntry (month : List Char) : DirEntry := { filename := snapshotName month }

theorem snapshotEntries_months {months : List (List Char)}
    (h : ∀ m ∈ months, m.length = 7 ∧ isMonth m = true) :
    snapshotEntries (months.map monthEntry)
      = months.map fun m => (m, snapshotName m) := by
  induction months with
  | nil => rfl
  | cons m rest ih =>
    obtain ⟨hlen, hmonth⟩ := h m mem_cons_self
    have hrest := ih fun x hx => h x (mem_cons_of_mem _ hx)
    simp only [snapshotEntries, map_cons, monthEntry, filter_cons_of_pos,
      filterMap_cons, snapshotMonth_snapshotName hlen hmonth, Option.map_some] at hrest ⊢
    rw [hrest]

theorem snapshotName_injective {m m' : List Char} (hlen : m.length = 7) (hm : isMonth m = true)
    (hlen' : m'.length = 7) (hm' : isMonth m' = true) (h : snapshotName m = snapshotName m') :
    m = m' := by
  have := snapshotMonth_snapshotName hlen hm
  rw [h, snapshotMonth_snapshotName hlen' hm'] at this
  exact (Option.some.inj this).symm

theorem selectSnapshot_single {month : List Char} (hlen : month.length = 7)
    (hmonth : isMonth month = true) (t : String) :
    selectSnapshot (some [monthEntry month]) t false
      = if t.toList.length < 7 then .current else .history (snapshotName month) := by
  have hentries : snapshotEntries [monthEntry month] = [(month, snapshotName month)] :=
    @snapshotEntries_months [month] (by simpa using ⟨hlen, hmonth⟩)
  by_cases hshort : t.toList.length < 7
  · simp [selectSnapshot, hshort]
  simp [selectSnapshot_of_long hshort, if_neg hshort, hentries, NearestBelow.select_singleton]

theorem selectSnapshot_pair {older month : List Char} (holder : older.length = 7)
    (hold : isMonth older = true) (hlen : month.length = 7) (hmonth : isMonth month = true)
    (hlt : older < month) {t : String} (ht : 7 ≤ t.toList.length) :
    selectSnapshot (some [monthEntry older, monthEntry month]) t false
      = .history (snapshotName (if month ≤ t.toList.take 7 then month else older)) := by
  have hentries : snapshotEntries [monthEntry older, monthEntry month]
      = [(older, snapshotName older), (month, snapshotName month)] :=
    @snapshotEntries_months [older, month] (by simp [holder, hold, hlen, hmonth])
  have hselect := @NearestBelow.select_pair (List Char) String _ (older, snapshotName older)
    (month, snapshotName month) hlt (t.toList.take 7)
  simp only [selectSnapshot_of_long (Nat.not_lt.mpr ht), Option.getD_some, hentries, hselect]
  by_cases hle : month ≤ t.toList.take 7 <;> simp [hle]

/-! ### The choice of the snapshot -/

/-- The characters `YYYY-MM`. -/
structure Month where
  chars : List Char
  length : chars.length = 7
  digits : isMonth chars = true

def Month.number (m : Month) : Nat :=
  (m.chars.filter isDigit).foldl (fun n c => 10 * n + digitValue c) 0

/-- The months of the regular files `TL-UA-EC-YYYY-MM.xml` in the history directory. -/
def snapshotMonths (history : Option (List DirEntry)) : Set Month :=
  { m | ∃ e ∈ history.getD [], e.isRegularFile = true ∧ e.filename = snapshotName m.chars }

/-- The snapshot that should be used: the latest one that is not after the reference, or else
the earliest one, or else the current list. -/
inductive Selected (months : Set Month) (reference : Month) : Snapshot → Prop
  | history (m : Month) (mem : m ∈ months)
      (near : m.number ≤ reference.number ∨
        (∀ x ∈ months, reference.number < x.number) ∧ ∀ x ∈ months, m.number ≤ x.number)
      (latest : ∀ x ∈ months, x.number ≤ reference.number → x.number ≤ m.number) :
      Selected months reference (.history (snapshotName m.chars))
  | current (none : ∀ x, x ∉ months) : Selected months reference .current

theorem Month.exists_chars (m : Month) : ∃ a b c d e f, m.chars = [a, b, c, d, '-', e, f] ∧
    ∀ x ∈ [a, b, c, d, e, f], isDigit x = true := by
  obtain ⟨chars, hlen, hdigits⟩ := m
  simp only [length_eq_succ_iff, length_eq_zero_iff] at hlen
  obtain ⟨a, _, rfl, b, _, rfl, c, _, rfl, d, _, rfl, s, _, rfl, e, _, rfl, f, _, rfl, rfl⟩ := hlen
  simp [isMonth] at hdigits
  obtain ⟨⟨rfl, ha⟩, he⟩ := hdigits
  exact ⟨a, b, c, d, e, f, rfl, by simp [ha, he]⟩

theorem isDigit_iff {c : Char} : isDigit c = true ↔ 48 ≤ c.toNat ∧ c.toNat ≤ 57 := by
  simp [isDigit, Char.le_def, UInt32.le_iff_toNat_le]

theorem Month.number_lt_iff (m m' : Month) : m.number < m'.number ↔ m.chars < m'.chars := by
  obtain ⟨a, b, c, d, e, f, hm, hdigits⟩ := m.exists_chars
  obtain ⟨a', b', c', d', e', f', hm', hdigits'⟩ := m'.exists_chars
  have hsep : isDigit '-' = false := by decide
  simp only [forall_mem_cons] at hdigits hdigits'
  simp [Month.number, hm, hm', hdigits, hdigits', hsep, digitValue, cons_lt_cons_iff,
    Char.lt_def, UInt32.lt_iff_toNat_lt, ← Char.toNat_inj]
  simp only [isDigit_iff] at hdigits hdigits'
  omega

theorem Month.number_le_iff (m m' : Month) : m.number ≤ m'.number ↔ m.chars ≤ m'.chars := by
  rw [← not_lt, ← not_lt, Month.number_lt_iff]

theorem mem_snapshotMonths {history : Option (List DirEntry)} {e : List Char × String} :
    e ∈ snapshotEntries (history.getD []) ↔
      ∃ m ∈ snapshotMonths history, (m.chars, snapshotName m.chars) = e := by
  constructor
  · intro h
    obtain ⟨hname, hlen, hmonth⟩ := mem_snapshotEntries h
    obtain ⟨d, hd, hmap⟩ := mem_filterMap.mp h
    obtain ⟨month, -, rfl⟩ := Option.map_eq_some_iff.mp hmap
    obtain ⟨hmem, hregular⟩ := mem_filter.mp hd
    exact ⟨⟨month, hlen, hmonth⟩, ⟨d, hmem, hregular, hname⟩, Prod.ext rfl hname.symm⟩
  · rintro ⟨m, ⟨d, hd, hregular, hname⟩, rfl⟩
    refine mem_filterMap.mpr ⟨d, mem_filter.mpr ⟨hd, hregular⟩, ?_⟩
    rw [hname, snapshotMonth_snapshotName m.length m.digits]
    rfl

theorem Selected.unique {months : Set Month} {reference : Month} {s s' : Snapshot}
    (h : Selected months reference s) (h' : Selected months reference s') : s = s' := by
  cases h with
  | history m mem near latest =>
    cases h' with
    | history m' mem' near' latest' =>
      have hle : m.number ≤ m'.number := near.elim (latest' m mem) fun h => h.2 m' mem'
      have hge : m'.number ≤ m.number := near'.elim (latest m' mem') fun h => h.2 m mem
      rw [le_antisymm ((m.number_le_iff m').mp hle) ((m'.number_le_iff m).mp hge)]
    | current none => exact absurd mem (none m)
  | current none =>
    cases h' with
    | history m' mem' => exact absurd mem' (none m')
    | current => rfl

theorem selectSnapshot_selected (history : Option (List DirEntry)) (reference : Month)
    (rest : List Char) : Selected (snapshotMonths history) reference
      (selectSnapshot history (String.ofList (reference.chars ++ rest)) false) := by
  have htake : (reference.chars ++ rest).take 7 = reference.chars := by
    rw [← reference.length, take_left]
  have hlong : ¬(String.ofList (reference.chars ++ rest)).toList.length < 7 := by
    rw [String.toList_ofList, length_append, reference.length]
    omega
  rw [selectSnapshot_of_long hlong, String.toList_ofList, htake]
  have hentry : ∀ x ∈ snapshotMonths history,
      (x.chars, snapshotName x.chars) ∈ snapshotEntries (history.getD []) := fun x hx =>
    mem_snapshotMonths.mpr ⟨x, hx, rfl⟩
  cases hsel : NearestBelow.select reference.chars (snapshotEntries (history.getD [])) with
  | none =>
    refine .current fun x hx => ?_
    have hmem := hentry x hx
    rw [NearestBelow.select_eq_none.mp hsel] at hmem
    cases hmem
  | some e =>
    obtain ⟨hmem, hnear, hlatest⟩ := NearestBelow.select_spec hsel
    obtain ⟨m, hm, rfl⟩ := mem_snapshotMonths.mp hmem
    refine .history m hm (hnear.imp (m.number_le_iff reference).mpr ?_) fun x hx hle => ?_
    · rintro ⟨hafter, hleast⟩
      refine ⟨fun x hx => ?_, fun x hx => (m.number_le_iff x).mpr (hleast _ (hentry x hx))⟩
      exact (reference.number_lt_iff x).mpr (not_le.mp (hafter _ (hentry x hx)))
    · exact (x.number_le_iff m).mpr (hlatest _ (hentry x hx) ((x.number_le_iff reference).mp hle))

/-- **The snapshot nearest below the reference is chosen.**  The choice depends on the months
of the snapshots only, not on their order or on other names. -/
theorem selectSnapshot_nearest (history : Option (List DirEntry)) (reference : Month)
    (rest : List Char) :
    Selected (snapshotMonths history) reference
      (selectSnapshot history (String.ofList (reference.chars ++ rest)) false) ∧
    ∀ other, snapshotMonths other = snapshotMonths history →
      selectSnapshot other (String.ofList (reference.chars ++ rest)) false =
        selectSnapshot history (String.ofList (reference.chars ++ rest)) false := by
  refine ⟨selectSnapshot_selected history reference rest, fun other hsame => ?_⟩
  refine Selected.unique ?_ (selectSnapshot_selected history reference rest)
  rw [← hsame]
  exact selectSnapshot_selected other reference rest

/-! ### The service of the signer -/

structure TrustListServiceRecord where
  serviceType : String := ""
  status : String := ""
  certificates : List Der := []
  deriving DecidableEq, Repr

/-- What `TrustListParser::Parse` returns of a list, as far as it is used here. -/
structure TrustListParseResult where
  ok : Bool := false
  message : String := ""
  services : List TrustListServiceRecord := []
  deriving DecidableEq, Repr

structure TrustServiceDecision where
  checked : Bool := false
  serviceTrusted : Bool := false
  serviceType : String := ""
  status : String := ""
  snapshotEvidenceId : String := ""
  limitations : List String := []
  deriving DecidableEq, Repr

/-- `TrustServiceEvaluator::Evaluate`; the first service with a certificate
equal to the signer's decides. -/
def trustServiceEvaluate (parse : String → TrustListParseResult) (certificateDer : Der)
    (trustListXml snapshotEvidenceId : String) : TrustServiceDecision :=
  let decision : TrustServiceDecision :=
    { checked := true, snapshotEvidenceId := snapshotEvidenceId }
  if certificateDer = [] then { decision with limitations := ["empty certificate provided"] }
  else
    let result := parse trustListXml
    if !result.ok then
      { decision with limitations := ["failed to parse trust list: " ++ result.message] }
    else match result.services.find? fun s => s.certificates.contains certificateDer with
    | some service =>
      let granted := containsText service.status "/granted"
      { decision with
        serviceType := service.serviceType
        status := service.status
        serviceTrusted := granted
        limitations := if granted then []
          else ["service status is not granted: " ++ service.status] }
    | none => { decision with limitations := ["service record not found in trust list"] }

end Tamga.Validation
