/-
The C API (`core/TamgaCApi.cpp`): the verdict of a call and the report that a session keeps.

A handle wraps a session.  `tamga_session_verify_file` and `tamga_session_verify_data` choose
an operation of the session by the format, or refuse the call and record the refusal.  An
exception of an inner operation is caught and becomes an error code.  What the operations do
to the report is described in `ReportOwnership.lean`; here one thread makes the calls, each of
which runs to its end or is left by an exception after some of its sections.

* `exec_flag` — the flag is set only together with `TAMGA_C_OK`;
* `Handle.Inv.step` — what every sequence of calls preserves;
* `verdict_and_report_iff` — after which calls the report is that of the call, and
  `earlier_report_survives` a call after which it is not.
-/
import Tamga.ReportOwnership

namespace Tamga.CApi

open Session OwnedCell

/-! ### Codes and formats -/

/-- `tamga_c_error_code_t`. -/
inductive CErrorCode where
  | ok
  | notInitialized
  | settingsRequired
  | invalidArgument
  | keyNotLoaded
  | onlineUnavailable
  | revocationFailed
  | trustFailed
  | timestampFailed
  | policyInvalid
  | notSupported
  | guiNotAvailable
  | internal
  deriving DecidableEq, Repr

def mapErrorCode : ErrorCode → CErrorCode
  | .none => .ok
  | .notInitialized => .notInitialized
  | .settingsRequired => .settingsRequired
  | .invalidArgument => .invalidArgument
  | .keyNotLoaded => .keyNotLoaded
  | .onlineServiceUnavailable => .onlineUnavailable
  | .revocationCheckFailed => .revocationFailed
  | .trustValidationFailed => .trustFailed
  | .timestampValidationFailed => .timestampFailed
  | .policyValidationFailed => .policyInvalid
  | .notSupported => .notSupported
  | .guiNotAvailable => .guiNotAvailable
  | .internalError => .internal

inductive CApiFormat where
  | cmsDetached
  | cmsAttached
  | cadesBes
  | cadesT
  | xadesBes
  | xadesT
  | pades
  | asicS
  | asicE
  | asicEXades
  | invalid
  deriving DecidableEq, Repr

/-- `ParseFormat`; `none` is the null pointer. -/
def parseFormat (raw : Option String) : CApiFormat :=
  match raw.getD "" with
  | "" | "cms" | "cms-detached" => .cmsDetached
  | "cms-attached" => .cmsAttached
  | "cades-bes" => .cadesBes
  | "cades-t" => .cadesT
  | "xades" | "xades-bes" => .xadesBes
  | "xades-t" => .xadesT
  | "pades" => .pades
  | "asic-s" => .asicS
  | "asic-e" => .asicE
  | "asic-e-xades" => .asicEXades
  | "xmldsig" => .xadesBes
  | _ => .invalid

def isXadesFormat (raw : Option String) : Bool :=
  raw == some "xades" || raw == some "xades-bes" || raw == some "xades-t"

def isXmlDsigFormat (raw : Option String) : Bool := raw == some "xmldsig"

def isDetachedCmsFormat (format : CApiFormat) : Bool :=
  format == .cmsDetached || format == .cadesBes || format == .cadesT

/-! ### Handles -/

/-- `tamga_session_opaque`: the report of the session and its error, and the error of the
handle.  `begun` counts the calls. -/
structure Handle where
  cell : Cell VerifyReport ReportField
  sessionError : ErrorCode × String
  lastErrorCode : CErrorCode
  lastErrorMessage : String
  begun : Nat

namespace Handle

def setLastError (h : Handle) (code : CErrorCode) (message : String) : Handle :=
  { h with lastErrorCode := code, lastErrorMessage := message }

/-- `SetInternalErrorNoThrow`, for the text of the exception if it has one. -/
def setInternalErrorNoThrow (h : Handle) (what : Option String) : Handle :=
  h.setLastError .internal (what.getD "Unhandled exception in Tamga C API")

/-- `SyncSessionError`; copying the error of the session may itself throw. -/
def syncSessionError (h : Handle) (throws : Bool) : Handle :=
  if throws then h.setInternalErrorNoThrow (some "Failed to read the session error")
  else h.setLastError (mapErrorCode h.sessionError.1) h.sessionError.2

def callId (h : Handle) : CallId := (0, h.begun + 1)

end Handle

/-- How an exception leaves an operation: the sections that were complete, whether the report
had been cleared and not yet filled, and the text of the exception. -/
structure Interruption where
  sections : Nat
  cleared : Bool := false
  what : Option String := none
  deriving DecidableEq, Repr

def perform (id : CallId) (call : SessionCall) (interruption : Option Interruption)
    (cell : Cell VerifyReport ReportField) : Cell VerifyReport ReportField :=
  match interruption with
  | none => call.process.finish id cell
  | some i =>
    let left := call.process.advance id i.sections cell
    if i.cleared then left.reset reportContent left.isOpen else left

/-- The operation returns `true`.  `VerifyFileAsicEXades` does so exactly if its report says
that it was executed. -/
def executes : SessionCall → Bool
  | .verifyData outcome | .verifyDataInternal outcome | .verifyDataInternalString outcome =>
    outcome.isOk
  | .verifyDataBase64 decoded | .verifyDataInternalBase64 decoded
  | .verifyDataInternalBase64String decoded => decoded.any Except.isOk
  | .verifyFile data => data.toOption.any Except.isOk
  | .rawVerifyFile signature => signature.toOption.any fun data => data.toOption.any Except.isOk
  | .verifyFileAsicS (.xades report) => report.executionSucceeded
  | .verifyFileAsicS (.unpacked cms _) => cms.isOk
  | .verifyFileAsicS _ => false
  | .verifyFileAsicE (.xades report) => report.executionSucceeded
  | .verifyFileAsicE (.empty _) | .verifyFileAsicE (.unpacked _ _ _ _) => true
  | .verifyFileAsicE _ => false
  | .verifyFileAsicEXades report => report.executionSucceeded
  | .verifyXml report | .verifyPdf report => report.isSome
  | .recordVerifyFailure _ _ _ | .initializeSession | .configureSession | .finalizeSession => true

/-! ### `tamga_session_verify_file` and `tamga_session_verify_data` -/

/-- What the inner operations of one call come to.  Only the one that the call chooses
matters. -/
structure Outcomes where
  /-- `ReadBinaryFileArg` and `ReadTextFile`, which may throw. -/
  readInput : Except (Option String) Bool
  rawVerifyFile : Except String (Except String CmsOutcome)
  verifyData : CmsOutcome
  verifyDataInternal : CmsOutcome
  verifyXml : Option VerifyReport
  verifyPdf : Option VerifyReport
  verifyFileAsicS : AsicSOutcome
  verifyFileAsicE : AsicEOutcome
  verifyFileAsicEXades : VerifyReport
  /-- What an operation that returns `true` leaves in `is_valid`; at the other exits it is
  `false`. -/
  isValid : Bool
  /-- The error that the operation leaves in the session. -/
  sessionError : ErrorCode × String
  interruption : Option Interruption
  /-- An exception in `RecordVerifyFailure`, which `RejectVerify` swallows. -/
  recordInterruption : Option Interruption
  syncThrows : Bool

structure VerifyFileArgs where
  inputPath : Option String
  signaturePath : Option String
  format : Option String
  /-- The pointer `out_valid` is given. -/
  outValid : Bool

/-- A pointer with a length. -/
structure Buffer where
  given : Bool
  length : Nat

structure VerifyDataArgs where
  data : Buffer
  signature : Buffer
  format : Option String
  outValid : Bool

/-- The choice of a call: an exception, a message with which it is refused, or an operation. -/
abbrev Choice := Except (Option String) (Except String SessionCall)

namespace Choice

def refuse (message : String) : Choice := .ok (.error message)

def choose (call : SessionCall) : Choice := .ok (.ok call)

end Choice

def pathGiven (path : Option String) : Bool := path.getD "" != ""

def readThen (inputPath : Option String) (o : Outcomes) (message : String) (call : SessionCall) :
    Choice :=
  if pathGiven inputPath then
    o.readInput.bind fun readable =>
      if readable then Choice.choose call else Choice.refuse message
  else .refuse message

def chooseForFile (args : VerifyFileArgs) (o : Outcomes) : Choice :=
  if args.inputPath.isNone || !args.outValid then
    .refuse "tamga_session_verify_file requires a session, an input path and an output flag"
  else if parseFormat args.format = .invalid then .refuse "Unsupported verification format"
  else if !isDetachedCmsFormat (parseFormat args.format) && pathGiven args.signaturePath then
    .refuse "This verification format does not accept a detached signature path"
  else match parseFormat args.format with
  | .cmsDetached | .cadesBes | .cadesT =>
    if pathGiven args.signaturePath then .choose (.rawVerifyFile o.rawVerifyFile)
    else .refuse "CMS detached requires signature path"
  | .cmsAttached =>
    readThen args.inputPath o "Cannot read attached CMS file"
      (.verifyDataInternal o.verifyDataInternal)
  | .xadesBes | .xadesT =>
    if isXadesFormat args.format || isXmlDsigFormat args.format then
      readThen args.inputPath o "Cannot read XML file" (.verifyXml o.verifyXml)
    else .refuse "Unsupported verification format"
  | .pades => readThen args.inputPath o "Cannot read PDF file" (.verifyPdf o.verifyPdf)
  | .asicS => .choose (.verifyFileAsicS o.verifyFileAsicS)
  | .asicE => .choose (.verifyFileAsicE o.verifyFileAsicE)
  | .asicEXades => .choose (.verifyFileAsicEXades o.verifyFileAsicEXades)
  | .invalid => .refuse "Unsupported verification format"

def chooseForData (args : VerifyDataArgs) (o : Outcomes) : Choice :=
  let signed := args.signature.given || args.signature.length != 0
  if !args.data.given || args.data.length == 0 || !args.outValid then
    .refuse "tamga_session_verify_data requires a session, non-empty data and an output flag"
  else match parseFormat args.format with
  | .invalid | .asicS | .asicE | .asicEXades | .xadesT =>
    .refuse "Unsupported verification format for data"
  | .xadesBes =>
    if isXadesFormat args.format || isXmlDsigFormat args.format then
      if signed then .refuse "XAdES verification does not accept a detached signature"
      else .choose (.verifyXml o.verifyXml)
    else .refuse "Unsupported verification format for data"
  | .pades =>
    if signed then .refuse "PAdES verification does not accept a detached signature"
    else .choose (.verifyPdf o.verifyPdf)
  | .cmsAttached =>
    if signed then .refuse "Attached CMS verification requires no detached signature"
    else .choose (.verifyDataInternal o.verifyDataInternal)
  | .cmsDetached | .cadesBes | .cadesT =>
    if !args.signature.given || args.signature.length == 0 then
      .refuse "CMS detached verification requires a non-empty signature"
    else .choose (.verifyData o.verifyData)

/-- What a call returns: the code, and the flag if there is one. -/
structure VerifyResult where
  handle : Handle
  code : CErrorCode
  outValid : Option Bool

variable (h : Handle)

/-- The session after an operation that was chosen. -/
def Handle.performed (call : SessionCall) (o : Outcomes) : Handle :=
  { h with
    cell := perform h.callId call o.interruption h.cell
    sessionError := o.sessionError }

/-- `RejectVerify`.  The report that it records may be lost to an exception. -/
def rejectVerify (operation message : String) (o : Outcomes) : Handle :=
  { h with
    cell := perform h.callId (.recordVerifyFailure operation .invalidArgument message)
      o.recordInterruption h.cell
    sessionError :=
      if o.recordInterruption.isNone then (.invalidArgument, message) else h.sessionError
    }.setLastError .invalidArgument message

def failureCode : CErrorCode :=
  if h.lastErrorCode ≠ .ok then h.lastErrorCode else .internal

/-- Both functions: the flag is cleared first; `keepFlag` tells whether the flag takes the
value of `valid` before the return value of the operation is looked at. -/
def conclude (keepFlag : Bool) (operation : String) (h : Handle) (outValid : Bool) (o : Outcomes)
    (choice : Choice) : VerifyResult :=
  let flag (b : Bool) : Option Bool := if outValid then some b else none
  match choice with
  | .error what => ⟨h.setInternalErrorNoThrow what, .internal, flag false⟩
  | .ok (.error message) =>
    ⟨rejectVerify h operation message o, .invalidArgument, flag false⟩
  | .ok (.ok call) =>
    let h := h.performed call o
    match o.interruption with
    | some i => ⟨h.setInternalErrorNoThrow i.what, .internal, flag false⟩
    | none =>
      let executionOk := executes call
      let valid := executionOk && o.isValid
      if executionOk then ⟨h.setLastError .ok "", .ok, flag valid⟩
      else
        let h := h.syncSessionError o.syncThrows
        ⟨h, failureCode h, flag (keepFlag && valid)⟩

def kVerifyFileOperation : String := "tamga_session_verify_file"

def kVerifyDataOperation : String := "tamga_session_verify_data"

def tamgaSessionVerifyFile (args : VerifyFileArgs) (o : Outcomes) : VerifyResult :=
  conclude true kVerifyFileOperation h args.outValid o (chooseForFile args o)

def tamgaSessionVerifyData (args : VerifyDataArgs) (o : Outcomes) : VerifyResult :=
  conclude false kVerifyDataOperation h args.outValid o (chooseForData args o)

/-! ### Sequences of calls -/

inductive VerifyCall where
  | file (args : VerifyFileArgs) (o : Outcomes)
  | data (args : VerifyDataArgs) (o : Outcomes)

namespace VerifyCall

def exec : VerifyCall → VerifyResult
  | .file args o => tamgaSessionVerifyFile h args o
  | .data args o => tamgaSessionVerifyData h args o

def outcomes : VerifyCall → Outcomes
  | .file _ o => o
  | .data _ o => o

def choice : VerifyCall → Choice
  | .file args o => chooseForFile args o
  | .data args o => chooseForData args o

end VerifyCall

/-- How `tamga_session_configure` ends: `SetSettings` refuses, `Initialize` clears the report,
or an exception comes before or after that. -/
inductive ConfigureOutcome where
  | refused (error : ErrorCode × String) (syncThrows : Bool)
  | initialized
  | thrown (cleared : Bool) (what : Option String)

/-- The calls on a handle.  Those that load keys, sign, synchronise the trust list or only read
leave the report alone. -/
inductive ApiCall where
  | configure (outcome : ConfigureOutcome)
  | verify (call : VerifyCall)
  | other (sessionError : ErrorCode × String) (code : CErrorCode) (message : String)

def tamgaSessionConfigure : ConfigureOutcome → Handle
  | .refused error syncThrows => { h with sessionError := error }.syncSessionError syncThrows
  | .initialized =>
    { h with
      cell := SessionCall.initializeSession.process.finish h.callId h.cell
      sessionError := (.none, "") }.setLastError .ok ""
  | .thrown cleared what =>
    { h with cell := if cleared then h.cell.reset reportContent true else h.cell
      }.setInternalErrorNoThrow what

def step (call : ApiCall) : Handle :=
  let h' := match call with
    | .configure outcome => tamgaSessionConfigure h outcome
    | .verify call => (call.exec h).handle
    | .other sessionError code message =>
      { h with sessionError := sessionError }.setLastError code message
  { h' with begun := h.begun + 1 }

/-- `tamga_session_create`; the numbers of the epochs may come from other sessions. -/
def tamgaSessionCreate (counter : Nat) (lastCommit : Nat → Nat) : Handle where
  cell := (start reportContent ReportField true counter lastCommit fun _ => []).cell
  sessionError := (.none, "")
  lastErrorCode := .ok
  lastErrorMessage := ""
  begun := 0

def run (calls : List ApiCall) : Handle := calls.foldl step h

/-! ### What the calls preserve -/

/-- The session is initialized, and no field comes from a call that is still to be made. -/
structure Handle.Inv : Prop where
  isOpen : h.cell.isOpen = true
  origin : ∀ f id, h.cell.origin f = some id → id.2 ≤ h.begun

variable {call : SessionCall}

theorem not_resets_of_stores (h : call.operation.stores = true) :
    ¬call.operation.profile.resets := by
  intro hresets
  rw [Operation.stores, hresets] at h
  cases h

theorem perform_origin {id : CallId}
    (hstores : call.operation.stores = true) (interruption : Option Interruption)
    (cell : Cell VerifyReport ReportField) :
    (perform id call interruption cell).isOpen = cell.isOpen ∧
      ∀ f id', (perform id call interruption cell).origin f = some id' →
        cell.origin f = some id' ∨ id' = id := by
  have htouched : ∀ {cell'}, Touches id cell cell' → ∀ f id', cell'.origin f = some id' →
      cell.origin f = some id' ∨ id' = id := by
    intro cell' h f id' hf
    rcases h.origin f with hold | hnew
    · exact .inl (hold.symm.trans hf)
    · exact .inr (Option.some.inj (hf.symm.trans hnew))
  cases interruption with
  | none =>
    have h := @Process.finish_touches _ _ _ _ id cell _ _ _ (not_resets_of_stores hstores)
      (process_conforms call)
    exact ⟨h.isOpen, htouched h⟩
  | some i =>
    have h := @Process.advance_touches _ _ _ _ id _ (not_resets_of_stores hstores) i.sections _ _ cell
      (process_conforms call)
    rw [perform]
    split
    · exact ⟨h.isOpen, fun f id' hf => by cases hf⟩
    · exact ⟨h.isOpen, htouched h⟩

theorem readThen_eq_ok {path : Option String} {o : Outcomes} {message : String}
    {call call' : SessionCall} (h : readThen path o message call = .ok (.ok call')) :
    call' = call := by
  rw [readThen] at h
  split at h
  · cases hread : o.readInput with
    | error what =>
      rw [hread] at h
      cases h
    | ok readable =>
      rw [hread] at h
      cases readable with
      | false => cases h
      | true =>
        cases h
        rfl
  · cases h

theorem choice_stores {verify : VerifyCall}
    (h : verify.choice = .ok (.ok call)) : call.operation.stores = true := by
  cases verify with
  | file args o =>
    simp only [VerifyCall.choice, chooseForFile] at h
    repeat' split at h
    all_goals first
      | (rw [readThen_eq_ok h]; rfl)
      | (cases h; done)
      | (cases h; rfl)
  | data args o =>
    simp only [VerifyCall.choice, chooseForData] at h
    repeat' split at h
    all_goals first
      | (cases h; done)
      | (cases h; rfl)

variable (verify : VerifyCall)

/-- **What a call returns**, by what it chooses. -/
theorem exec_eq : ∃ keepFlag operation outValid,
    verify.exec h = conclude keepFlag operation h outValid verify.outcomes verify.choice := by
  cases verify with
  | file args o | data args o => exact ⟨_, _, _, rfl⟩

section Conclude

variable (keepFlag : Bool) (operation : String) (h : Handle) (outValid : Bool) (o : Outcomes)

@[simp]
theorem syncSessionError_cell (throws : Bool) : (h.syncSessionError throws).cell = h.cell := by
  rw [Handle.syncSessionError]
  split <;> rfl

theorem conclude_cell (choice : Choice) :
    (conclude keepFlag operation h outValid o choice).handle.cell = match choice with
      | .error _ => h.cell
      | .ok (.error message) =>
        perform h.callId (.recordVerifyFailure operation .invalidArgument message)
          o.recordInterruption h.cell
      | .ok (.ok call) => perform h.callId call o.interruption h.cell := by
  rcases choice with what | message | call
  · rfl
  · rfl
  · rw [conclude]
    dsimp only
    split
    · rfl
    · split
      · rfl
      · exact syncSessionError_cell _ _

theorem conclude_flag (choice : Choice)
    (hflag : (conclude keepFlag operation h outValid o choice).outValid = some true) :
    (conclude keepFlag operation h outValid o choice).code = .ok := by
  have hunset : (if outValid = true then some false else none) ≠ some true := by
    split <;> exact nofun
  rcases choice with what | message | call
  · exact absurd hflag hunset
  · exact absurd hflag hunset
  · rw [conclude] at hflag ⊢
    dsimp only at hflag ⊢
    cases hint : o.interruption with
    | some i =>
      rw [hint] at hflag
      exact absurd hflag hunset
    | none =>
      rw [hint] at hflag
      cases hexec : executes call with
      | true => rfl
      | false =>
        rw [hexec] at hflag
        rw [Bool.false_and, Bool.and_false] at hflag
        exact absurd hflag hunset

end Conclude

theorem exec_flag (hflag : (verify.exec h).outValid = some true) : (verify.exec h).code = .ok := by
  obtain ⟨keepFlag, operation, outValid, heq⟩ := exec_eq h verify
  rw [heq] at hflag ⊢
  exact conclude_flag _ _ _ _ _ _ hflag

theorem exec_origin : (verify.exec h).handle.cell.isOpen = h.cell.isOpen ∧
      ∀ f id, (verify.exec h).handle.cell.origin f = some id →
        h.cell.origin f = some id ∨ id = h.callId := by
  obtain ⟨keepFlag, operation, outValid, heq⟩ := exec_eq h verify
  rw [heq, conclude_cell]
  cases hchoice : verify.choice with
  | error what => exact ⟨rfl, fun f id hf => .inl hf⟩
  | ok result =>
    cases result with
    | error message => exact perform_origin rfl _ _
    | ok call => exact perform_origin (choice_stores hchoice) _ _

theorem configure_origin (hopen : h.cell.isOpen = true) (outcome : ConfigureOutcome) :
    (tamgaSessionConfigure h outcome).cell.isOpen = true ∧
      ∀ f id, (tamgaSessionConfigure h outcome).cell.origin f = some id →
        h.cell.origin f = some id := by
  cases outcome with
  | refused error syncThrows =>
    rw [tamgaSessionConfigure, syncSessionError_cell]
    exact ⟨hopen, fun _ _ hf => hf⟩
  | initialized => exact ⟨rfl, fun _ _ hf => by cases hf⟩
  | thrown cleared what =>
    cases cleared with
    | true => exact ⟨rfl, fun _ _ hf => by cases hf⟩
    | false => exact ⟨hopen, fun _ _ hf => hf⟩

/-- **One call keeps the invariant.** -/
theorem Handle.Inv.step {h : Handle} (hinv : h.Inv) (call : ApiCall) : (step h call).Inv := by
  cases call with
  | configure outcome =>
    obtain ⟨hopen, horigin⟩ := configure_origin h hinv.isOpen outcome
    exact ⟨hopen, fun f id hf => Nat.le_succ_of_le (hinv.origin f id (horigin f id hf))⟩
  | verify call =>
    obtain ⟨hopen, horigin⟩ := exec_origin h call
    refine ⟨hopen.trans hinv.isOpen, fun f id hf => ?_⟩
    rcases horigin f id hf with hold | rfl
    · exact Nat.le_succ_of_le (hinv.origin f id hold)
    · exact Nat.le_refl _
  | other sessionError code message =>
    exact ⟨hinv.isOpen, fun f id hf => Nat.le_succ_of_le (hinv.origin f id hf)⟩

theorem Handle.Inv.run : ∀ (calls : List ApiCall) {h : Handle}, h.Inv → (run h calls).Inv
  | [], _, hinv => hinv
  | call :: calls, _, hinv => Handle.Inv.run calls (hinv.step call)

theorem create_inv (counter : Nat) (lastCommit : Nat → Nat) :
    (tamgaSessionCreate counter lastCommit).Inv :=
  ⟨rfl, fun _ _ hf => by cases hf⟩

/-! ### The report of the call -/

/-- The operation comes to store its report: it is not a `VerifyXml` or `VerifyPdf` that fails, and
an exception leaves it only after the first report was stored and not while one is cleared. -/
def Commits (call : SessionCall) (interruption : Option Interruption) : Prop :=
  ∃ k, call.process.beforeStore = some k ∧
    ∀ i, interruption = some i → k < i.sections ∧ i.cleared = false

/-- The call comes to store a report: no exception while the input is read, and the refusal or
the chosen operation is recorded. -/
def VerifyCall.Recorded : Prop :=
  match verify.choice with
  | .error _ => False
  | .ok (.error _) =>
    ∀ i, verify.outcomes.recordInterruption = some i → 0 < i.sections ∧ i.cleared = false
  | .ok (.ok call) => Commits call verify.outcomes.interruption

/-- The flag is set only if the code is `TAMGA_C_OK`, and the report is that of the call, in
every field. -/
def BelongTogether : Prop :=
  ((verify.exec h).outValid = some true → (verify.exec h).code = .ok) ∧
    (verify.exec h).handle.cell.WrittenBy h.callId

theorem Handle.Inv.not_writtenBy {h : Handle} (hinv : h.Inv) : ¬h.cell.WrittenBy h.callId := by
  intro hwritten
  have hle := hinv.origin .rest h.callId (hwritten .rest)
  exact absurd hle (Nat.not_succ_le_self h.begun)

theorem asicESignaturesProcess_beforeStore {k : LoopState → ReportProcess}
    (hk : ∀ st, st.structuralError ≠ "" → (k st).beforeStore.isSome = true) :
    ∀ (signatures : List SignatureOutcome) (st : LoopState),
      signatures ≠ [] ∨ st.structuralError ≠ "" →
      (asicESignaturesProcess signatures st k).beforeStore.isSome = true
  | [], st, h => hk st (h.resolve_left fun hne => hne rfl)
  | .rejected error named :: rest, st, _ =>
    asicESignaturesProcess_beforeStore hk rest _ (.inr (firstError_eq_empty named))
  | .checked files cms digests :: rest, st, _ => by
    cases cms <;> rfl

theorem beforeStore_isSome (h : call.operation.stores = true) :
    call.process.beforeStore.isSome = true ∨ call = .verifyXml none ∨ call = .verifyPdf none := by
  cases call with
  | verifyData outcome => exact .inl (by cases outcome <;> rfl)
  | verifyDataBase64 decoded => exact .inl (by rcases decoded with _ | _ | _ <;> rfl)
  | verifyDataInternal outcome => exact .inl (by cases outcome <;> rfl)
  | verifyDataInternalBase64 decoded => exact .inl (by rcases decoded with _ | _ | _ <;> rfl)
  | verifyDataInternalString outcome => exact .inl (by cases outcome <;> rfl)
  | verifyDataInternalBase64String decoded => exact .inl (by rcases decoded with _ | _ | _ <;> rfl)
  | verifyFile data => exact .inl (by rcases data with _ | _ | _ <;> rfl)
  | rawVerifyFile signature => exact .inl (by rcases signature with _ | _ | _ | _ <;> rfl)
  | verifyFileAsicS outcome =>
    left
    cases outcome with
    | unpacked cms timestamp => cases cms <;> rfl
    | _ => rfl
  | verifyFileAsicE outcome =>
    left
    cases outcome with
    | unpacked files signatures signed timestamp =>
      show Option.isSome (Option.map _ _) = true
      rw [Option.isSome_map]
      refine asicESignaturesProcess_beforeStore (fun st herror => ?_) signatures {} (.inl signed)
      rw [asicEConclusion]
      rw [if_pos herror]
      rfl
    | _ => rfl
  | verifyFileAsicEXades report => exact .inl rfl
  | verifyXml report =>
    cases report with
    | none => exact .inr (.inl rfl)
    | some r => exact .inl rfl
  | verifyPdf report =>
    cases report with
    | none => exact .inr (.inr rfl)
    | some r => exact .inl rfl
  | recordVerifyFailure operation errorCode message => exact .inl rfl
  | initializeSession => cases h
  | configureSession => cases h
  | finalizeSession => cases h

theorem verifyFormatProcess_none_finish (id : CallId) (cell : Cell VerifyReport ReportField) :
    (verifyFormatProcess none).finish id cell = cell := by
  show (if cell.isOpen then cell else cell) = cell
  exact ite_self _

theorem verifyFormatProcess_none_advance (id : CallId) (cell : Cell VerifyReport ReportField)
    (n : Nat) : (verifyFormatProcess none).advance id n cell = cell := by
  cases n with
  | zero => rfl
  | succ n =>
    rw [verifyFormatProcess, Process.advance, Process.exec]
    split <;> exact Process.advance_done n cell

/-- **The report of an operation**: it is that of the call exactly if the operation comes to
store one. -/
theorem perform_writtenBy_iff {h : Handle} (hinv : h.Inv)
    (hstores : call.operation.stores = true) (interruption : Option Interruption) :
    (perform h.callId call interruption h.cell).WrittenBy h.callId ↔ Commits call interruption := by
  have hkeeps := not_resets_of_stores hstores
  rcases beforeStore_isSome hstores with hsome | hsilent
  · obtain ⟨k, hk⟩ := Option.isSome_iff_exists.mp hsome
    cases interruption with
    | none =>
      refine iff_of_true ?_ ⟨k, hk, fun i hi => by cases hi⟩
      exact Process.finish_writtenBy hkeeps (process_conforms call) hk hinv.isOpen
    | some i =>
      rw [perform]
      cases hcleared : i.cleared with
      | true =>
        refine iff_of_false (fun hwritten => ?_) ?_
        · cases hwritten .rest
        · rintro ⟨_, -, hi⟩
          rw [(hi i rfl).2] at hcleared
          cases hcleared
      | false =>
        constructor
        · intro hwritten
          refine ⟨k, hk, ?_⟩
          rintro _ ⟨⟩
          refine ⟨Nat.lt_of_not_le fun hle => hinv.not_writtenBy ?_, hcleared⟩
          rwa [Process.advance_eq_of_le hk hinv.isOpen hle] at hwritten
        · rintro ⟨k', hk', hi⟩
          exact Process.advance_writtenBy hkeeps (process_conforms call) hk' hinv.isOpen (hi i rfl).1
  · -- the operation ends before it stores anything
    have hprocess : call.process = verifyFormatProcess none := by
      rcases hsilent with rfl | rfl <;> rfl
    refine iff_of_false (fun hwritten => ?_) ?_
    · cases interruption with
      | none =>
        rw [perform, hprocess, verifyFormatProcess_none_finish] at hwritten
        exact hinv.not_writtenBy hwritten
      | some i =>
        rw [perform, hprocess, verifyFormatProcess_none_advance] at hwritten
        split at hwritten
        · cases hwritten .rest
        · exact hinv.not_writtenBy hwritten
    · rintro ⟨k, hk, -⟩
      rw [hprocess] at hk
      cases hk

/-- **The verdict and the report belong together** after a call exactly if the call comes to
store a report, whatever was called before. -/
theorem verdict_and_report_iff (counter : Nat) (lastCommit : Nat → Nat) (calls : List ApiCall)
    (verify : VerifyCall) :
    BelongTogether (run (tamgaSessionCreate counter lastCommit) calls) verify ↔
      verify.Recorded := by
  have hinv := (create_inv counter lastCommit).run calls
  generalize run (tamgaSessionCreate counter lastCommit) calls = h at hinv
  obtain ⟨keepFlag, operation, outValid, heq⟩ := exec_eq h verify
  rw [BelongTogether, and_iff_right (exec_flag h verify), heq, conclude_cell, VerifyCall.Recorded]
  cases hchoice : verify.choice with
  | error what => exact iff_of_false hinv.not_writtenBy id
  | ok result =>
    cases result with
    | error message =>
      refine (perform_writtenBy_iff hinv rfl _).trans ?_
      constructor
      · rintro ⟨k, hk, hi⟩
        cases hk
        exact hi
      · exact fun hi => ⟨0, rfl, hi⟩
    | ok call => exact perform_writtenBy_iff hinv (choice_stores hchoice) _

/-! ### A failed call that leaves the report of an earlier one -/

def goodReport : VerifyReport where
  hasResult := true
  executionSucceeded := true
  signatureValid := true
  operation := "VerifyData"

/-- A detached CMS can be verified, the other formats cannot. -/
def cmsOutcomes : Outcomes where
  readInput := .ok true
  rawVerifyFile := .ok (.ok (.ok goodReport))
  verifyData := .error ""
  verifyDataInternal := .error ""
  verifyXml := none
  verifyPdf := none
  verifyFileAsicS := .unreadable ""
  verifyFileAsicE := .unreadable ""
  verifyFileAsicEXades := {}
  isValid := true
  sessionError := (.none, "")
  interruption := none
  recordInterruption := none
  syncThrows := false

def goodCmsCall : VerifyCall :=
  .file ⟨some "contract.txt", some "contract.txt.p7s", some "cms", true⟩ cmsOutcomes

def badXmlCall : VerifyCall :=
  .file ⟨some "broken.xml", none, some "xades", true⟩
    { cmsOutcomes with sessionError := (.internalError, "XML parse error") }

/-- **An earlier report survives**: the second call fails, and the report is still the one of
the first, with a valid signature. -/
theorem earlier_report_survives :
    let h := run (tamgaSessionCreate 0 fun _ => 0) [.verify goodCmsCall]
    let result := badXmlCall.exec h
    result.code = .internal ∧ result.outValid = some false ∧
      (∀ f, result.handle.cell.origin f = some (0, 1)) ∧ h.callId = (0, 2) ∧
      result.handle.cell.value.operation = "RawVerifyFile" ∧
      result.handle.cell.value.signatureValid = true :=
  ⟨by decide, by decide, fun f => by cases f <;> rfl, rfl, by decide, by decide⟩

end Tamga.CApi
