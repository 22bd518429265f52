/-
The report of the last verification under concurrent calls (`VerifyReportOwnership.h`,
`VerifyReportCommit.cpp`, `SessionStateAndNormalization.ipp`, `SessionCryptoOps.ipp`,
`SessionAsicOps.ipp`, `SessionLifecycle.ipp`).

Every `Verify*` call holds the mutex of the session only for short sections: it checks that
the session is initialized, replaces the report, and later refines fields of it.  Between
the sections other threads run.  The results of the work outside the mutex are the data of
a `SessionCall`; its sections are a process of `OwnedCell.lean`.

* `process_conforms` — what the sections of each operation do;
* `one_report_one_call_iff` — between which operations the report stays that of one call.
-/
import Tamga.AsicVerification
import Tamga.OwnedCell

namespace Tamga.Session

open OwnedCell List

/-! ### The report as a cell -/

/-- The fields that a refinement writes; `rest` stands for all others, which only a whole
report brings. -/
inductive ReportField where
  | operation
  | containerType
  | containerCoverageComplete
  | coverageStatus
  | timestampChecked
  | tspChecked
  | timestampDetails
  | timestampValid
  | timestampStatus
  | signatures
  | trustValid
  | trustStatus
  | errorCode
  | message
  | rest
  deriving DecidableEq, Repr

/-- `MakeClearedVerifyReport` is the report without a result. -/
def reportContent : Content VerifyReport where
  blank := {}
  filled := VerifyReport.hasResult
  blank_filled := rfl

theorem reportContent_filled (r : VerifyReport) : reportContent.filled r = r.hasResult := rfl

abbrev ReportProcess := Process reportContent ReportField

abbrev ReportPatch := Patch reportContent ReportField

def notInitializedReport (operation : String) : VerifyReport :=
  setVerifyReport operation false false .notInitialized "Session is not initialized"

def invalidArgumentReport (operation message : String) : VerifyReport :=
  setVerifyReport operation false false .invalidArgument message

def operationPatch (operation : String) : ReportPatch where
  fields := [.operation]
  apply := fun r => { r with operation := operation }
  filled_apply := fun _ => rfl

def overrideVerifyReportOperation (operation : String) (next : ReportProcess) : ReportProcess :=
  .patch .ownedFilled (operationPatch operation) next

/-! ### The operations on CMS -/

/-- What comes out of the work on a CMS: the reason why it could not be checked, or the
report. -/
abbrev CmsOutcome := Except String VerifyReport

/-- The sections of `VerifyData` and `VerifyDataInternal`. -/
def verifyCmsProcess (operation : String) (outcome : CmsOutcome) (k : Bool → ReportProcess) :
    ReportProcess :=
  .gate (some (notInitializedReport operation)) (k false)
    (match outcome with
    | .error message => .store (invalidArgumentReport operation message) (k false)
    | .ok report => .store report (k true))

def verifyDataProcess : CmsOutcome → (Bool → ReportProcess) → ReportProcess :=
  verifyCmsProcess "VerifyData"

def verifyDataInternalProcess : CmsOutcome → (Bool → ReportProcess) → ReportProcess :=
  verifyCmsProcess "VerifyDataInternal"

/-- An operation that prepares the input of another one and puts its name on the report. -/
def preparedProcess {α : Type} (operation : String) (inner : α → (Bool → ReportProcess) →
    ReportProcess) (outcome : Except String α) (k : Bool → ReportProcess) : ReportProcess :=
  match outcome with
  | .error message => .store (invalidArgumentReport operation message) (k false)
  | .ok o => inner o fun result => overrideVerifyReportOperation operation (k result)

def verifyDataBase64Process (decoded : Option CmsOutcome) : ReportProcess :=
  preparedProcess "VerifyDataBase64" verifyDataProcess
    (decoded.elim (.error "Signature Base64 is invalid") .ok) fun _ => .done

def verifyDataInternalBase64Process (decoded : Option CmsOutcome) (k : Bool → ReportProcess) :
    ReportProcess :=
  preparedProcess "VerifyDataInternalBase64" verifyDataInternalProcess
    (decoded.elim (.error "Internal Base64 payload is invalid") .ok) k

/-- The end of the operations that return the content as a string: after a success the
name is written without any check. -/
def stringProcess (operation : String) (result : Bool) : ReportProcess :=
  if result then .patch .unchecked (operationPatch operation) .done
  else overrideVerifyReportOperation operation .done

def verifyDataInternalStringProcess (outcome : CmsOutcome) : ReportProcess :=
  verifyDataInternalProcess outcome (stringProcess "VerifyDataInternalStr")

def verifyDataInternalBase64StringProcess (decoded : Option CmsOutcome) : ReportProcess :=
  verifyDataInternalBase64Process decoded (stringProcess "VerifyDataInternalBase64Str")

/-- `VerifyFile`; the file may be missing or empty. -/
def verifyFileProcess (data : Except String CmsOutcome) (k : Bool → ReportProcess) :
    ReportProcess :=
  preparedProcess "VerifyFile" verifyDataProcess data k

def rawVerifyFileProcess (signature : Except String (Except String CmsOutcome)) : ReportProcess :=
  preparedProcess "RawVerifyFile" verifyFileProcess signature fun _ => .done

/-! ### The operations on containers -/

/-- `VerifyFileAsicEXades`, with the report it ends with. -/
def verifyFileAsicEXadesProcess (report : VerifyReport) : ReportProcess :=
  .gate (some (notInitializedReport "VerifyFileAsicEXades")) .done (.store report .done)

/-- What was found out about the timestamp of a container. -/
structure ContainerTimestamp where
  detail : TimestampEntry
  cryptoValid : Bool
  canonicalFull : Bool
  reason : String

theorem applyTimestampDetailsVerdict_hasResult (r : VerifyReport) :
    (applyTimestampDetailsVerdict r).hasResult = r.hasResult :=
  congrArg ReportCore.hasResult (applyTimestampDetailsVerdict_core r)

def containerTimestampPatch (c : ContainerTimestamp) : ReportPatch where
  fields := [.timestampChecked, .tspChecked, .timestampDetails, .timestampValid, .timestampStatus,
    .message]
  apply := fun r => appendContainerTimestampMessage c.reason (applyFormatTimestampVerdict
    { r with
      timestampChecked := true
      tspChecked := true
      timestampDetails := r.timestampDetails ++ [{ c.detail with kind := "container" }] }
    c.cryptoValid c.canonicalFull)
  filled_apply := fun r => by
    have h := congrArg ReportCore.hasResult
      (appendVerifyReportNote_core "ASiC container timestamp: " c.reason
        (applyFormatTimestampVerdict { r with
          timestampChecked := true
          tspChecked := true
          timestampDetails := r.timestampDetails ++ [{ c.detail with kind := "container" }] }
          c.cryptoValid c.canonicalFull))
    rw [applyFormatTimestampVerdict_core] at h
    exact h

/-- The timestamp of the container, where there is one. -/
def containerTimestampProcess : Option ContainerTimestamp → ReportProcess
  | none => .done
  | some c => .patch .owned (containerTimestampPatch c) .done

/-- `ASiC-S` covers its one object. -/
def asicSPatch : ReportPatch where
  fields := [.containerType, .containerCoverageComplete, .coverageStatus]
  apply := fun r => { r with
    containerType := "ASiC-S"
    containerCoverageComplete := true
    coverageStatus := "complete" }
  filled_apply := fun _ => rfl

inductive AsicSOutcome where
  | unreadable (message : String)
  | xades (report : VerifyReport)
  | malformed (message : String)
  | unpacked (cms : CmsOutcome) (timestamp : Option ContainerTimestamp)

/-- `VerifyFileAsicS`; the operation to which it hands the data checks the session again. -/
def verifyFileAsicSProcess (outcome : AsicSOutcome) : ReportProcess :=
  .gate (some (notInitializedReport "VerifyFileAsicS")) .done
    (match outcome with
    | .unreadable message => .store (invalidArgumentReport "VerifyFileAsicS" message) .done
    | .xades report => verifyFileAsicEXadesProcess report
    | .malformed message =>
      .store (invalidArgumentReport "VerifyFileAsicS" ("ASiC-S unpack failed: " ++ message)) .done
    | .unpacked cms timestamp =>
      verifyDataProcess cms fun result =>
        overrideVerifyReportOperation "VerifyFileAsicS" (.patch .owned asicSPatch
          (if result then containerTimestampProcess timestamp else .done)))

/-- What was found out about one signature of an ASiC-E container; a rejection gives its
reason. -/
inductive SignatureOutcome where
  | rejected (error : String) (named : error ≠ "")
  | checked (files : List Asic.AsicFileEntry) (cms : CmsOutcome) (digests : Except String Unit)

/-- The loop over the signatures: each one that is checked replaces the report, from which
its timestamps are then read. -/
def asicESignaturesProcess : List SignatureOutcome → LoopState → (LoopState → ReportProcess) →
    ReportProcess
  | [], st, k => k st
  | .rejected error _ :: rest, st, k => asicESignaturesProcess rest (st.reject error) k
  | .checked files cms digests :: rest, st, k =>
    let isValid := ((cms.toOption).map VerifyReport.signatureValid).getD false
    verifyDataProcess cms fun executed =>
      if executed then
        .look fun report => asicESignaturesProcess rest
          (st.record files ⟨true, isValid, report.getD {}⟩ digests) k
      else asicESignaturesProcess rest (st.record files ⟨false, false, {}⟩ digests) k

theorem aggregatePerSignerTimestamps_hasResult (r : VerifyReport) :
    (aggregatePerSignerTimestamps r).hasResult = r.hasResult := by
  simp only [aggregatePerSignerTimestamps, applyTimestampFailureToTrust]
  split
  · split <;> exact applyTimestampDetailsVerdict_hasResult _
  · exact applyTimestampDetailsVerdict_hasResult _

def asicEPatch (total : Nat) (uncovered : List String) (st : LoopState) : ReportPatch where
  fields := [.signatures, .timestampDetails, .timestampChecked, .tspChecked, .timestampValid,
    .timestampStatus, .trustValid, .trustStatus, .errorCode, .containerType,
    .containerCoverageComplete, .coverageStatus, .message]
  apply := fun r =>
    let complete := uncovered.isEmpty
    let r := aggregatePerSignerTimestamps { r with signatures := st.signatureEntries }
    { r with
      containerType := "ASiC-E"
      containerCoverageComplete := complete
      coverageStatus := if complete then "complete" else "container-object-not-signed"
      message := r.message ++ "; signaturesTotal=" ++ toString total ++
        "; signaturesValid=" ++ toString st.validCount ++ "; containerCoverageComplete=" ++
        (if complete then "true"
          else "false; uncovered=[" ++ ", ".intercalate uncovered ++ "]") }
  filled_apply := fun _ => aggregatePerSignerTimestamps_hasResult _

/-- What was found out about an ASiC-E container; without a signature it is `empty`. -/
inductive AsicEOutcome where
  | unreadable (message : String)
  | xades (report : VerifyReport)
  | malformed (message : String)
  | empty (message : String)
  | unpacked (files : List String) (signatures : List SignatureOutcome)
      (signed : signatures ≠ []) (timestamp : Option ContainerTimestamp)

def asicEConclusion (files : List String) (total : Nat) (timestamp : Option ContainerTimestamp)
    (st : LoopState) : ReportProcess :=
  let uncovered := files.filter fun name => name ∉ st.coveredFiles
  let isValid := st.allValid && total != 0 && uncovered.isEmpty
  let next := .patch .owned (asicEPatch total uncovered st)
    (if isValid then containerTimestampProcess timestamp else .done)
  if st.structuralError ≠ "" then
    .store { setVerifyReport "VerifyFileAsicE" true false .invalidArgument st.structuralError with
      containerMalformed := true } next
  else overrideVerifyReportOperation "VerifyFileAsicE" next

def verifyFileAsicEProcess (outcome : AsicEOutcome) : ReportProcess :=
  .gate (some (notInitializedReport "VerifyFileAsicE")) .done
    (match outcome with
    | .unreadable message => .store (invalidArgumentReport "VerifyFileAsicE" message) .done
    | .xades report => verifyFileAsicEXadesProcess report
    | .malformed message =>
      .store (invalidArgumentReport "VerifyFileAsicE" ("ASiC-E unpack failed: " ++ message)) .done
    | .empty message => .store (setVerifyReport "VerifyFileAsicE" true false .none message) .done
    | .unpacked files signatures _ timestamp =>
      asicESignaturesProcess signatures {} (asicEConclusion files signatures.length timestamp))

/-- `VerifyXml` and `VerifyPdf`, which leave the report as it is when they fail. -/
def verifyFormatProcess (report : Option VerifyReport) : ReportProcess :=
  .gate none .done (report.elim .done fun r => .store r .done)

/-! ### Calls -/

/-- The operations of a session that concern the report. -/
inductive Operation where
  | verifyData
  | verifyDataBase64
  | verifyDataInternal
  | verifyDataInternalBase64
  | verifyDataInternalString
  | verifyDataInternalBase64String
  | verifyFile
  | rawVerifyFile
  | verifyFileAsicS
  | verifyFileAsicE
  | verifyFileAsicEXades
  | verifyXml
  | verifyPdf
  | recordVerifyFailure
  | initializeSession
  | configureSession
  | finalizeSession
  deriving DecidableEq, Repr

/-- A call, with what comes out of its work outside the mutex. -/
inductive SessionCall where
  | verifyData (outcome : CmsOutcome)
  | verifyDataBase64 (decoded : Option CmsOutcome)
  | verifyDataInternal (outcome : CmsOutcome)
  | verifyDataInternalBase64 (decoded : Option CmsOutcome)
  | verifyDataInternalString (outcome : CmsOutcome)
  | verifyDataInternalBase64String (decoded : Option CmsOutcome)
  | verifyFile (data : Except String CmsOutcome)
  | rawVerifyFile (signature : Except String (Except String CmsOutcome))
  | verifyFileAsicS (outcome : AsicSOutcome)
  | verifyFileAsicE (outcome : AsicEOutcome)
  | verifyFileAsicEXades (report : VerifyReport)
  | verifyXml (report : Option VerifyReport)
  | verifyPdf (report : Option VerifyReport)
  | recordVerifyFailure (operation : String) (errorCode : ErrorCode) (message : String)
  | initializeSession
  | configureSession
  | finalizeSession

namespace SessionCall

def operation : SessionCall → Operation
  | .verifyData _ => .verifyData
  | .verifyDataBase64 _ => .verifyDataBase64
  | .verifyDataInternal _ => .verifyDataInternal
  | .verifyDataInternalBase64 _ => .verifyDataInternalBase64
  | .verifyDataInternalString _ => .verifyDataInternalString
  | .verifyDataInternalBase64String _ => .verifyDataInternalBase64String
  | .verifyFile _ => .verifyFile
  | .rawVerifyFile _ => .rawVerifyFile
  | .verifyFileAsicS _ => .verifyFileAsicS
  | .verifyFileAsicE _ => .verifyFileAsicE
  | .verifyFileAsicEXades _ => .verifyFileAsicEXades
  | .verifyXml _ => .verifyXml
  | .verifyPdf _ => .verifyPdf
  | .recordVerifyFailure _ _ _ => .recordVerifyFailure
  | .initializeSession => .initializeSession
  | .configureSession => .configureSession
  | .finalizeSession => .finalizeSession

/-- The sections of a call.  `ClearVerifyReport` of the lifecycle operations keeps the
epoch; `SetSettings` does not touch the report. -/
def process : SessionCall → ReportProcess
  | .verifyData outcome => verifyDataProcess outcome fun _ => .done
  | .verifyDataBase64 decoded => verifyDataBase64Process decoded
  | .verifyDataInternal outcome => verifyDataInternalProcess outcome fun _ => .done
  | .verifyDataInternalBase64 decoded => verifyDataInternalBase64Process decoded fun _ => .done
  | .verifyDataInternalString outcome => verifyDataInternalStringProcess outcome
  | .verifyDataInternalBase64String decoded => verifyDataInternalBase64StringProcess decoded
  | .verifyFile data => verifyFileProcess data fun _ => .done
  | .rawVerifyFile signature => rawVerifyFileProcess signature
  | .verifyFileAsicS outcome => verifyFileAsicSProcess outcome
  | .verifyFileAsicE outcome => verifyFileAsicEProcess outcome
  | .verifyFileAsicEXades report => verifyFileAsicEXadesProcess report
  | .verifyXml report => verifyFormatProcess report
  | .verifyPdf report => verifyFormatProcess report
  | .recordVerifyFailure operation errorCode message =>
    .store (setVerifyReport operation false false errorCode message) .done
  | .initializeSession => .reset true .done
  | .configureSession => .done
  | .finalizeSession => .reset false .done

end SessionCall

namespace Operation

def resets (op : Operation) : Bool := op == .initializeSession || op == .finalizeSession

def stores (op : Operation) : Bool := !op.resets && op != .configureSession

/-- The operation refines the report after it has only compared the epochs. -/
def comparesEpochs (op : Operation) : Bool := op == .verifyFileAsicS || op == .verifyFileAsicE

/-- The operation refines the report without any check. -/
def unchecked (op : Operation) : Bool :=
  op == .verifyDataInternalString || op == .verifyDataInternalBase64String

def profile (op : Operation) : Profile where
  stores := op.stores = true
  resets := op.resets = true
  ownedPatches := op.comparesEpochs = true
  rawPatches := op.unchecked = true

end Operation

/-! ### What the sections do -/

section Conforms

variable {pr : Profile} {stored : Bool}

variable {operation : String} {k : Bool → ReportProcess}

section

variable {outcome : CmsOutcome} (hstores : pr.stores) (hk : ∀ result, (k result).Conforms pr true)

include hstores hk

theorem verifyCmsProcess_conforms : (verifyCmsProcess operation outcome k).Conforms pr stored := by
  refine ⟨fun _ => hstores, ?_, ?_⟩
  · rw [Option.isSome_some, Bool.or_true]
    exact hk false
  · cases outcome with
    | error message => exact ⟨hstores, hk false⟩
    | ok report => exact ⟨hstores, hk true⟩

theorem verifyDataProcess_conforms : (verifyDataProcess outcome k).Conforms pr stored :=
  verifyCmsProcess_conforms hstores hk

theorem verifyDataInternalProcess_conforms :
    (verifyDataInternalProcess outcome k).Conforms pr stored :=
  verifyCmsProcess_conforms hstores hk

end

theorem overrideVerifyReportOperation_conforms {next : ReportProcess}
    (hnext : next.Conforms pr true) :
    (overrideVerifyReportOperation operation next).Conforms pr true :=
  ⟨rfl, nofun, nofun, hnext⟩

theorem preparedProcess_conforms {α : Type} {inner : α → (Bool → ReportProcess) → ReportProcess}
    {outcome : Except String α} (hstores : pr.stores)
    (hinner : ∀ o k, (∀ result, (k result : ReportProcess).Conforms pr true) →
      (inner o k).Conforms pr stored) (hk : ∀ result, (k result).Conforms pr true) :
    (preparedProcess operation inner outcome k).Conforms pr stored := by
  cases outcome with
  | error message => exact ⟨hstores, hk false⟩
  | ok o => exact hinner o _ fun result => overrideVerifyReportOperation_conforms (hk result)

theorem verifyDataInternalBase64Process_conforms {decoded : Option CmsOutcome} (hstores : pr.stores)
    (hk : ∀ result, (k result).Conforms pr true) :
    (verifyDataInternalBase64Process decoded k).Conforms pr stored :=
  preparedProcess_conforms hstores (fun _ _ hk => verifyDataInternalProcess_conforms hstores hk) hk

theorem stringProcess_conforms (hraw : pr.rawPatches) (result : Bool) :
    (stringProcess operation result).Conforms pr true := by
  cases result with
  | true => exact ⟨rfl, nofun, fun _ => hraw, trivial⟩
  | false => exact overrideVerifyReportOperation_conforms trivial

theorem verifyFileProcess_conforms {data : Except String CmsOutcome} (hstores : pr.stores)
    (hk : ∀ result, (k result).Conforms pr true) : (verifyFileProcess data k).Conforms pr stored :=
  preparedProcess_conforms hstores (fun _ _ hk => verifyDataProcess_conforms hstores hk) hk

theorem verifyDataBase64Process_conforms {decoded : Option CmsOutcome} (hstores : pr.stores) :
    (verifyDataBase64Process decoded).Conforms pr stored :=
  preparedProcess_conforms hstores (fun _ _ hk => verifyDataProcess_conforms hstores hk)
    fun _ => trivial

theorem rawVerifyFileProcess_conforms {signature : Except String (Except String CmsOutcome)}
    (hstores : pr.stores) : (rawVerifyFileProcess signature).Conforms pr stored :=
  preparedProcess_conforms hstores (fun _ _ hk => verifyFileProcess_conforms hstores hk)
    fun _ => trivial

theorem verifyFileAsicEXadesProcess_conforms {report : VerifyReport} (hstores : pr.stores) :
    (verifyFileAsicEXadesProcess report).Conforms pr stored :=
  ⟨fun _ => hstores, trivial, hstores, trivial⟩

theorem ownedPatch_conforms {p : ReportPatch} {next : ReportProcess} (howned : pr.ownedPatches)
    (hnext : next.Conforms pr true) : (Process.patch .owned p next).Conforms pr true :=
  ⟨rfl, fun _ => howned, nofun, hnext⟩

theorem containerTimestampProcess_conforms {timestamp : Option ContainerTimestamp}
    (howned : pr.ownedPatches) : (containerTimestampProcess timestamp).Conforms pr true := by
  cases timestamp with
  | none => exact trivial
  | some c => exact ownedPatch_conforms howned trivial

theorem ite_conforms {c : Prop} [Decidable c] {p q : ReportProcess} (hp : p.Conforms pr stored)
    (hq : q.Conforms pr stored) : (if c then p else q).Conforms pr stored := by
  split
  · exact hp
  · exact hq

theorem verifyFileAsicSProcess_conforms {outcome : AsicSOutcome} (hstores : pr.stores)
    (howned : pr.ownedPatches) : (verifyFileAsicSProcess outcome).Conforms pr stored := by
  refine ⟨fun _ => hstores, trivial, ?_⟩
  cases outcome with
  | unreadable message => exact ⟨hstores, trivial⟩
  | xades report => exact verifyFileAsicEXadesProcess_conforms hstores
  | malformed message => exact ⟨hstores, trivial⟩
  | unpacked cms timestamp =>
    refine verifyCmsProcess_conforms hstores fun result => ?_
    refine overrideVerifyReportOperation_conforms (ownedPatch_conforms howned ?_)
    exact ite_conforms (containerTimestampProcess_conforms howned) trivial

/-- After the loop the call has stored a report, or it is about to store one for an error
in the structure of the container. -/
theorem asicESignaturesProcess_conforms (hstores : pr.stores) {k : LoopState → ReportProcess}
    (hk : ∀ stored st, stored = true ∨ st.structuralError ≠ "" → (k st).Conforms pr stored) :
    ∀ (signatures : List SignatureOutcome) (stored : Bool) (st : LoopState),
      signatures ≠ [] ∨ stored = true ∨ st.structuralError ≠ "" →
      (asicESignaturesProcess signatures st k).Conforms pr stored
  | [], stored, st, h => hk stored st (h.resolve_left fun hne => hne rfl)
  | .rejected error named :: rest, stored, st, _ => by
    rw [asicESignaturesProcess]
    exact asicESignaturesProcess_conforms hstores hk rest stored _
      (.inr (.inr (firstError_eq_empty named)))
  | .checked files cms digests :: rest, stored, st, _ => by
    rw [asicESignaturesProcess]
    refine verifyCmsProcess_conforms hstores fun executed => ?_
    split
    · intro report
      exact asicESignaturesProcess_conforms hstores hk rest true _ (.inr (.inl rfl))
    · exact asicESignaturesProcess_conforms hstores hk rest true _ (.inr (.inl rfl))

theorem asicEConclusion_conforms (hstores : pr.stores) (howned : pr.ownedPatches)
    {files : List String} {total : Nat} {timestamp : Option ContainerTimestamp} (stored : Bool)
    (st : LoopState) (h : stored = true ∨ st.structuralError ≠ "") :
    (asicEConclusion files total timestamp st).Conforms pr stored := by
  have hnext : ∀ uncovered, (Process.patch .owned (asicEPatch total uncovered st)
      (if (st.allValid && total != 0 && uncovered.isEmpty) = true then
        containerTimestampProcess timestamp else .done)).Conforms pr true :=
    fun _ => ownedPatch_conforms howned
      (ite_conforms (containerTimestampProcess_conforms howned) trivial)
  rw [asicEConclusion]
  split
  · exact ⟨hstores, hnext _⟩
  next herror =>
    rw [h.resolve_right herror]
    exact overrideVerifyReportOperation_conforms (hnext _)

theorem verifyFileAsicEProcess_conforms {outcome : AsicEOutcome} (hstores : pr.stores)
    (howned : pr.ownedPatches) : (verifyFileAsicEProcess outcome).Conforms pr stored := by
  refine ⟨fun _ => hstores, trivial, ?_⟩
  cases outcome with
  | unreadable message => exact ⟨hstores, trivial⟩
  | xades report => exact verifyFileAsicEXadesProcess_conforms hstores
  | malformed message | empty message => exact ⟨hstores, trivial⟩
  | unpacked files signatures signed timestamp =>
    exact asicESignaturesProcess_conforms hstores (asicEConclusion_conforms hstores howned)
      signatures stored {} (.inl signed)

theorem verifyFormatProcess_conforms {report : Option VerifyReport} (hstores : pr.stores) :
    (verifyFormatProcess report).Conforms pr stored := by
  refine ⟨nofun, trivial, ?_⟩
  cases report with
  | none => exact trivial
  | some r => exact ⟨hstores, trivial⟩

/-- **What the sections of each call do.** -/
theorem process_conforms (call : SessionCall) :
    call.process.Conforms call.operation.profile false := by
  cases call with
  | verifyData outcome => exact verifyDataProcess_conforms rfl fun _ => trivial
  | verifyDataBase64 decoded => exact verifyDataBase64Process_conforms rfl
  | verifyDataInternal outcome => exact verifyDataInternalProcess_conforms rfl fun _ => trivial
  | verifyDataInternalBase64 decoded =>
    exact verifyDataInternalBase64Process_conforms rfl fun _ => trivial
  | verifyDataInternalString outcome =>
    exact verifyDataInternalProcess_conforms rfl (stringProcess_conforms rfl)
  | verifyDataInternalBase64String decoded =>
    exact verifyDataInternalBase64Process_conforms rfl (stringProcess_conforms rfl)
  | verifyFile data => exact verifyFileProcess_conforms rfl fun _ => trivial
  | rawVerifyFile signature => exact rawVerifyFileProcess_conforms rfl
  | verifyFileAsicS outcome => exact verifyFileAsicSProcess_conforms rfl rfl
  | verifyFileAsicE outcome => exact verifyFileAsicEProcess_conforms rfl rfl
  | verifyFileAsicEXades report => exact verifyFileAsicEXadesProcess_conforms rfl
  | verifyXml report | verifyPdf report => exact verifyFormatProcess_conforms rfl
  | recordVerifyFailure operation errorCode message | initializeSession => exact ⟨rfl, trivial⟩
  | configureSession => exact trivial
  | finalizeSession => exact ⟨rfl, trivial⟩

end Conforms

/-! ### One report, one call -/

/-- The session after its construction, and the threads with their calls; the numbers of
the epochs may come from other sessions. -/
def startSession (initialized : Bool) (counter : Nat) (lastCommit : Nat → Nat)
    (calls : Nat → List SessionCall) : Config reportContent ReportField :=
  start reportContent ReportField initialized counter lastCommit
    fun t => (calls t).map SessionCall.process

/-- Whatever the schedule of threads that make only the calls they may make, as long as the 64-bit
counter of the epochs has not started again, every field of the report comes from one call, and no
call writes to a report that it does not hold. -/
def OneReportOneCall (allowed : Nat → Operation → Prop) : Prop :=
  ∀ (initialized : Bool) (counter : Nat) (lastCommit : Nat → Nat) (calls : Nat → List SessionCall)
    (schedule : List Nat), (∀ t, lastCommit t ≤ counter) →
    (∀ t, ∀ call ∈ calls t, allowed t call.operation) →
    let cfg := run (startSession initialized counter lastCommit calls) schedule
    cfg.cell.commits < 2 ^ 64 → OneWriter cfg

/-- An operation during which another thread must not execute the second one. -/
def Operation.disturbedBy (op other : Operation) : Bool :=
  (op.unchecked && (other.stores || other.resets)) || (op.comparesEpochs && other.resets)

/-- What the threads may do between them. -/
def threadProfile (allowed : Nat → Operation → Prop) (t : Nat) : Profile where
  stores := ∃ op, allowed t op ∧ op.stores = true
  resets := ∃ op, allowed t op ∧ op.resets = true
  ownedPatches := ∃ op, allowed t op ∧ op.comparesEpochs = true
  rawPatches := ∃ op, allowed t op ∧ op.unchecked = true

variable {allowed : Nat → Operation → Prop}

theorem threadProfile_compatible (h : ∀ t t', t ≠ t' → ∀ op other, allowed t op → allowed t' other →
      op.disturbedBy other = false) : Compatible (threadProfile allowed) := by
  constructor
  · rintro t t' hne ⟨op, hop, hraw⟩
    constructor
    · rintro ⟨other, hother, hstores⟩
      have := h t t' hne op other hop hother
      simp [Operation.disturbedBy, hraw, hstores] at this
    · rintro ⟨other, hother, hresets⟩
      have := h t t' hne op other hop hother
      simp [Operation.disturbedBy, hraw, hresets] at this
  · rintro t t' hne ⟨op, hop, howned⟩ ⟨other, hother, hresets⟩
    have := h t t' hne op other hop hother
    simp [Operation.disturbedBy, howned, hresets] at this

theorem process_conforms_thread {t : Nat} {call : SessionCall} (h : allowed t call.operation) :
    call.process.Conforms (threadProfile allowed t) false := by
  refine Process.Conforms.mono ?_ ?_ ?_ ?_ (process_conforms call)
  · exact fun hstores => ⟨_, h, hstores⟩
  · exact fun hresets => ⟨_, h, hresets⟩
  · exact fun howned => ⟨_, h, howned⟩
  · exact fun hraw => ⟨_, h, hraw⟩

theorem oneReportOneCall_of_undisturbed
    (h : ∀ t t', t ≠ t' → ∀ op other, allowed t op → allowed t' other →
      op.disturbedBy other = false) : OneReportOneCall allowed := by
  intro initialized counter lastCommit calls schedule hmark hcalls cfg hlt
  refine oneWriter_of_compatible (threadProfile_compatible h) hmark (fun t p hp => ?_) schedule hlt
  obtain ⟨call, hcall, rfl⟩ := mem_map.mp hp
  exact process_conforms_thread (hcalls t call hcall)

/-! ### Disturbed calls -/

/-- A call of each operation that comes to its report without a detour. -/
def Operation.briefCall : Operation → SessionCall
  | .verifyData => .verifyData (.error "")
  | .verifyDataBase64 => .verifyDataBase64 none
  | .verifyDataInternal => .verifyDataInternal (.error "")
  | .verifyDataInternalBase64 => .verifyDataInternalBase64 none
  | .verifyDataInternalString => .verifyDataInternalString (.error "")
  | .verifyDataInternalBase64String => .verifyDataInternalBase64String none
  | .verifyFile => .verifyFile (.error "")
  | .rawVerifyFile => .rawVerifyFile (.error "")
  | .verifyFileAsicS => .verifyFileAsicS (.unreadable "")
  | .verifyFileAsicE => .verifyFileAsicE (.unreadable "")
  | .verifyFileAsicEXades => .verifyFileAsicEXades { hasResult := true }
  | .verifyXml => .verifyXml (some { hasResult := true })
  | .verifyPdf => .verifyPdf (some { hasResult := true })
  | .recordVerifyFailure => .recordVerifyFailure "" .invalidArgument ""
  | .initializeSession => .initializeSession
  | .configureSession => .configureSession
  | .finalizeSession => .finalizeSession

theorem briefCall_operation (op : Operation) : op.briefCall.operation = op := by
  cases op <;> rfl

theorem briefCall_storesAtOnce {op : Operation} (h : op.stores = true) :
    StoresAtOnce op.briefCall.process := by
  cases op with
  | verifyDataBase64 | verifyDataInternalBase64 | verifyDataInternalBase64String | verifyFile
  | rawVerifyFile | recordVerifyFailure =>
    exact .store _ _
  | initializeSession => cases h
  | configureSession => cases h
  | finalizeSession => cases h
  | _ => exact .gate _ _ _ _

theorem briefCall_reset {op : Operation} (h : op.resets = true) :
    ∃ initialized, op.briefCall.process = .reset initialized .done := by
  cases op with
  | initializeSession => exact ⟨true, rfl⟩
  | finalizeSession => exact ⟨false, rfl⟩
  | _ => cases h

/-- Two threads with one call each, in a session that is initialized. -/
def duel (t t' : Nat) (call other : SessionCall) : Config reportContent ReportField :=
  startSession true 0 (fun _ => 0) fun u =>
    if u = t then [call] else if u = t' then [other] else []

/-- A call of an operation that refines the report, up to the section in which it does. -/
structure Refining (op : Operation) (check : Check) where
  call : SessionCall
  operation_eq : call.operation = op
  steps : Nat
  few : steps ≤ 6
  reaches : ∀ t t' other, t ≠ t' →
    let cfg := run (duel t t' call other) (List.replicate steps t)
    (∃ p next, cfg.threads t = ⟨.patch check p next, [], 1⟩) ∧ cfg.cell.isOpen = true ∧
      cfg.cell.ownedBy t = true

theorem refining_unchecked {op : Operation} (h : op.unchecked = true) :
    Nonempty (Refining op .unchecked) := by
  cases op with
  | verifyDataInternalString =>
    refine ⟨⟨.verifyDataInternalString (.ok { hasResult := true }), rfl, 3, by decide, ?_⟩⟩
    intro t t' other hne
    simp [duel, startSession, start, run, step, List.replicate, SessionCall.process,
      verifyDataInternalStringProcess, verifyDataInternalProcess, verifyCmsProcess, Process.exec,
      stringProcess, Cell.store, Cell.ownedBy]
  | verifyDataInternalBase64String =>
    refine ⟨⟨.verifyDataInternalBase64String (some (.ok { hasResult := true })), rfl, 4, by decide, ?_⟩⟩
    intro t t' other hne
    simp [duel, startSession, start, run, step, List.replicate, SessionCall.process,
      verifyDataInternalBase64StringProcess, verifyDataInternalBase64Process, preparedProcess,
      overrideVerifyReportOperation, verifyDataInternalProcess, verifyCmsProcess, Process.exec,
      stringProcess, Cell.store, Cell.ownedBy, Cell.permits, reportContent_filled, Cell.write]
  | _ => cases h

theorem refining_owned {op : Operation} (h : op.comparesEpochs = true) :
    Nonempty (Refining op .owned) := by
  cases op with
  | verifyFileAsicS =>
    refine ⟨⟨.verifyFileAsicS (.unpacked (.ok { hasResult := true }) none), rfl, 5, by decide, ?_⟩⟩
    intro t t' other hne
    simp [duel, startSession, start, run, step, List.replicate, SessionCall.process,
      verifyFileAsicSProcess, overrideVerifyReportOperation, verifyDataProcess, verifyCmsProcess,
      Process.exec, Cell.store, Cell.ownedBy, Cell.permits, reportContent_filled, Cell.write]
  | verifyFileAsicE =>
    refine ⟨⟨.verifyFileAsicE (.unpacked [] [.checked [] (.ok { hasResult := true }) (.ok ())]
      (by simp) none), rfl, 6, by decide, ?_⟩⟩
    intro t t' other hne
    simp [duel, startSession, start, run, step, List.replicate, SessionCall.process,
      verifyFileAsicEProcess, asicESignaturesProcess, asicEConclusion, LoopState.record,
      overrideVerifyReportOperation, verifyDataProcess, verifyCmsProcess,
      Process.exec, Cell.store, Cell.ownedBy, Cell.permits, reportContent_filled, Cell.write]
  | _ => cases h

section Duel

variable {t t' : Nat} {op other : Operation} {check : Check}

theorem duel_other (hne : t ≠ t') (call : SessionCall) (steps : Nat) :
    (run (duel t t' call other.briefCall) (List.replicate steps t)).threads t'
      = ⟨.done, [other.briefCall.process], 0⟩ := by
  rw [run_threads_of_notMem]
  · simp [duel, startSession, start, hne.symm]
  · exact fun hmem => hne (eq_of_mem_replicate hmem).symm

section

variable (hne : t ≠ t') (hop : allowed t op) (hother : allowed t' other)

include hne hop hother

/-- A call that writes after another one has taken the report from it. -/
theorem not_oneReportOneCall (r : Refining op check) {n : Nat} (hn : n ≤ 3)
    (hholder : (run (run (duel t t' r.call other.briefCall) (List.replicate r.steps t))
      (List.replicate n t')).cell.holder ≠ some (t, 1))
    (hpermits : (run (run (duel t t' r.call other.briefCall) (List.replicate r.steps t))
      (List.replicate n t')).cell.permits reportContent t check = true) :
    ¬OneReportOneCall allowed := by
  intro h
  obtain ⟨⟨p, next, hthread⟩, -, -⟩ := r.reaches t t' other.briefCall hne
  have hsame : (run (run (duel t t' r.call other.briefCall) (List.replicate r.steps t))
      (List.replicate n t')).threads t = ⟨.patch check p next, [], 1⟩ := by
    rw [run_threads_of_notMem _ fun hmem => hne (eq_of_mem_replicate hmem)]
    exact hthread
  have hcalls : ∀ u, ∀ call ∈ (if u = t then [r.call] else if u = t' then [other.briefCall] else []),
      allowed u call.operation := by
    intro u call hcall
    split at hcall
    next hu =>
      rw [mem_singleton.mp hcall, r.operation_eq, hu]
      exact hop
    next =>
      split at hcall
      next hu =>
        rw [mem_singleton.mp hcall, briefCall_operation, hu]
        exact hother
      next => cases hcall
  have hrun := h true 0 (fun _ => 0) _ (List.replicate r.steps t ++ List.replicate n t' ++ [t])
    (fun _ => Nat.le_refl _) hcalls (by
      refine Nat.lt_of_le_of_lt (run_commits _ _).2 ?_
      have hfew := r.few
      simp only [startSession, start, length_append, length_replicate, length_singleton]
      omega)
  rw [run, foldl_append, foldl_append] at hrun
  refine not_oneWriter_of_late (by rw [hsame]) hpermits ?_ hrun
  rw [hsame]
  exact hholder

/-- Nobody else may replace or reset the report during an operation without a check. -/
theorem not_oneReportOneCall_of_unchecked (hunchecked : op.unchecked = true)
    (htouch : other.stores = true ∨ other.resets = true) : ¬OneReportOneCall allowed := by
  obtain ⟨r⟩ := refining_unchecked hunchecked
  rcases htouch with hstores | hresets
  · obtain ⟨n, hn, hholder⟩ := holder_of_storesAtOnce (briefCall_storesAtOnce hstores)
      (duel_other hne r.call r.steps) (r.reaches t t' other.briefCall hne).2.1
    refine @not_oneReportOneCall _ _ _ _ _ _ hne hop hother r n hn ?_ rfl
    rw [hholder]
    exact fun heq => hne (Prod.mk.inj (Option.some.inj heq)).1.symm
  · obtain ⟨initialized, hreset⟩ := briefCall_reset hresets
    have hthread := @duel_other t t' other hne r.call r.steps
    rw [hreset] at hthread
    refine @not_oneReportOneCall _ _ _ _ _ _ hne hop hother r 2 (by decide) ?_ rfl
    rw [cell_of_reset hthread]
    exact nofun

/-- Nobody else may reset the report during an operation that only compares the epochs. -/
theorem not_oneReportOneCall_of_owned (howned : op.comparesEpochs = true)
    (hresets : other.resets = true) : ¬OneReportOneCall allowed := by
  obtain ⟨r⟩ := refining_owned howned
  obtain ⟨initialized, hreset⟩ := briefCall_reset hresets
  have hthread := @duel_other t t' other hne r.call r.steps
  rw [hreset] at hthread
  refine @not_oneReportOneCall _ _ _ _ _ _ hne hop hother r 2 (by decide) ?_ ?_
  · rw [cell_of_reset hthread]
    exact nofun
  · -- the reset has kept the epoch, so that the comparison succeeds
    rw [cell_of_reset hthread]
    exact (r.reaches t t' other.briefCall hne).2.2

end

end Duel

/-- **One report, one call.**  Whatever the calls find and however the threads are scheduled, with
fewer than 2 ^ 64 commits every field of the report comes from one call and no call writes to a
report that is not its own, exactly if beside `VerifyDataInternalString` and
`VerifyDataInternalBase64String` no other thread may verify, initialize or finalize, and beside
`VerifyFileAsicS` and `VerifyFileAsicE` none may initialize or finalize. -/
theorem one_report_one_call_iff (allowed : Nat → Operation → Prop) : OneReportOneCall allowed ↔
      ∀ t t', t ≠ t' → ∀ op other, allowed t op → allowed t' other →
        op.disturbedBy other = false := by
  constructor
  · intro h t t' hne op other hop hother
    by_contra hdisturbed
    rw [Bool.not_eq_false, Operation.disturbedBy, Bool.or_eq_true, Bool.and_eq_true,
      Bool.and_eq_true, Bool.or_eq_true] at hdisturbed
    rcases hdisturbed with ⟨hunchecked, htouch⟩ | ⟨howned, hresets⟩
    · exact not_oneReportOneCall_of_unchecked hne hop hother hunchecked htouch h
    · exact not_oneReportOneCall_of_owned hne hop hother howned hresets h
  · exact oneReportOneCall_of_undisturbed

/-- Thread 0 returns an attached content as a string while thread 1 verifies an XML
document. -/
def stringDuringXml : Nat → List SessionCall
  | 0 => [.verifyDataInternalString (.ok
      { hasResult := true, signatureValid := true, operation := "VerifyDataInternal" })]
  | 1 => [.verifyXml (some
      { hasResult := true, operation := "VerifyXml", signatureFormat := "XAdES" })]
  | _ => []

/-- The report of the XML document carries the name of the other operation. -/
theorem report_of_two_calls :
    let cfg := run (startSession true 0 (fun _ => 0) stringDuringXml) [0, 0, 0, 1, 1, 1, 0]
    cfg.cell.value.operation = "VerifyDataInternalStr" ∧
      cfg.cell.value.signatureFormat = "XAdES" ∧
      cfg.cell.origin .operation = some (0, 1) ∧ cfg.cell.origin .rest = some (1, 1) := by
  refine ⟨by decide, by decide, by decide, by decide⟩

end Tamga.Session
