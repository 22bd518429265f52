/-
Files that `SignPdf` has signed, and what `VerifyPdf` says of them.

The builder and the verifier meet in the bytes of the file.  qpdf stands between them and is
believed: it finds the signature dictionaries that were in the input and those that were appended.

* `signPdf_tipped` — a run with another profile than LT ends with a signed revision;
* `Sealed.signatureField_object`, `Sealed.cmsOf_field` — what the verifier makes of a signature
  dictionary that the builder has filled in;
* `signatureValid_prefix` — a signature stays valid when the file grows;
* `signPdf_verifies` — the verifier checks what the signer was asked about.
-/
import Tamga.PadesBuilder

namespace Tamga.Pades

open Spans Util List

variable {env : BuilderEnv} {params : PadesParameters} {content : Bytes} {p : Prepared}
  {st st' : BuilderState}

/-! ### Runs -/

theorem signPdf_sealing (h : signPdf env params content = .ok st) :
    ∃ root, Sealing env params content root st ∧ ∃ r ∈ st.revisions, r.kind = .signature := by
  simp only [signPdf, bind_eq_ok] at h
  obtain ⟨p, -, st₁, hmain, st₂, hevidence, hrun⟩ := h
  obtain ⟨h₁, r, hr, hkind⟩ := mainRevision_sealing (initialState_sealing params content p) hmain
  obtain ⟨h₂, hr₂⟩ : Sealing env params content p.document.root st₂ ∧ r ∈ st₂.revisions := by
    rw [evidenceRevision] at hevidence
    split at hevidence
    · have happ := appendDssRevision_appends hevidence
      exact ⟨h₁.append happ, happ.revisions ▸ hr⟩
    · rw [← Except.ok.inj hevidence]
      exact ⟨h₁, hr⟩
  split at hrun
  · obtain ⟨h₃, hprefix⟩ := timestampLoop_sealing h₂ hrun
    exact ⟨_, h₃, r, hprefix.subset hr₂, hkind⟩
  · rw [← Except.ok.inj hrun]
    exact ⟨_, h₂, r, hr₂, hkind⟩

/-- The file ends with a signed revision. -/
def Tipped (st : BuilderState) : Prop := ∃ r ∈ st.revisions, r.file = st.pdf

theorem closeRevision_tipped {kind : SigKind} {o : OpenRevision} {der : Bytes}
    (h : closeRevision kind o der st = .ok st') : Tipped st' := by
  simp only [closeRevision, bind_eq_ok, Except.ok.injEq] at h
  obtain ⟨pdf, -, rfl⟩ := h
  exact ⟨_, mem_append_right _ mem_cons_self, rfl⟩

/-- Only the profile LT leaves evidence behind the last signature. -/
theorem signPdf_tipped (hlt : params.profile ≠ .lt) (h : signPdf env params content = .ok st) :
    Tipped st := by
  simp only [signPdf, bind_eq_ok] at h
  obtain ⟨p, -, st₁, hmain, st₂, hevidence, hrun⟩ := h
  by_cases hlta : params.profile = .lta
  · rw [if_pos hlta] at hrun
    refine timestampLoop_induction (P := fun _ _ st' => Tipped st') (fun _ st st' hstep => ?_)
      (fun _ _ _ _ _ _ _ ih => ih) hrun
    simp only [timestampRevision, bind_eq_ok, Prod.exists] at hstep
    obtain ⟨_, _, -, _, _, -, _, _, -, _, -, _, -, _, _, -, mid, hclose, hevidence⟩ := hstep
    obtain ⟨hpdf, happ⟩ := collectEvidence_frame hevidence
    rw [Tipped, hpdf, happ.revisions]
    exact closeRevision_tipped hclose
  · have hprofile : params.profile.wantLt = false := by
      cases hp : params.profile <;> simp_all [PadesProfile.wantLt]
    rw [evidenceRevision, hprofile] at hevidence
    rw [if_neg hlta] at hrun
    obtain rfl := Except.ok.inj hevidence
    obtain rfl := Except.ok.inj hrun
    simp only [mainRevision, bind_eq_ok, Prod.exists] at hmain
    obtain ⟨_, _, -, _, _, -, _, _, -, _, -, _, -, _, -, _, _, -, hclose⟩ := hmain
    exact closeRevision_tipped hclose

/-! ### A revision as a field -/

/-- The signature dictionary of a revision as qpdf reads it. -/
def Revision.object (r : Revision) : PdfObject :=
  .dictionary [
    ("/Type", .name ("/" ++ r.kind.type)),
    ("/SubFilter", .name ("/" ++ r.kind.subFilter)),
    ("/ByteRange", .array [.integer r.range.offset1, .integer r.range.length1,
      .integer r.range.offset2, .integer r.range.length2]),
    ("/Contents", .string (hexDecode (cut r.file ⟨r.range.length1 + 1, kContentsHexLen⟩))
      (some ⟨r.range.length1, kContentsHexLen + 2⟩))]

/-- Its field. -/
def Revision.field (r : Revision) : PdfSignatureDictionary where
  byteRange := r.range
  signature := hexDecode (cut r.file ⟨r.range.length1 + 1, kContentsHexLen⟩)
  subFilter := r.kind.subFilter
  contentsLiteral := some ⟨r.range.length1, kContentsHexLen + 2⟩

theorem Revision.isDocTimestamp_field (r : Revision) :
    isDocTimestamp r.field = (r.kind == .docTimestamp) := by
  show (r.kind.subFilter == _) = _
  cases r.kind <;> decide

/-- The signature of a revision is accepted for the bytes that were handed out. -/
def Revision.Accepted (V : PadesEnv) (r : Revision) : Prop :=
  ∃ verdict, V.verifyDetached r.handed r.der = .ok verdict ∧ verdict.isValid = true

section Field

variable {r : Revision} (h : Sealed env params content r)
include h

theorem Sealed.revisionEnd : r.range.revisionEnd = r.file.length := by
  obtain ⟨left, right, hcut, hfile, -⟩ := h.parts
  rw [hfile, hcut.range_eq, length_append, length_append, length_contentsLiteral h.fits]
  rfl

theorem Sealed.proper {pdf : Bytes} (hpdf : r.file <+: pdf) : r.range.Proper pdf.length := by
  refine ⟨?_, ?_, h.revisionEnd.trans_le hpdf.length_le⟩ <;>
    obtain ⟨left, right, hcut, -⟩ := h.parts <;> rw [hcut.range_eq]
  exact Nat.lt_add_of_pos_right (Nat.succ_pos _)

theorem Sealed.long : kContentsHexLen < r.file.length := by
  obtain ⟨left, right, hcut, hfile, -⟩ := h.parts
  rw [hfile, length_append, length_append, length_contentsLiteral h.fits]
  omega

theorem Sealed.digits : cut r.file ⟨r.range.length1 + 1, kContentsHexLen⟩ =
    hexUpper r.der ++ List.replicate (kContentsHexLen - (hexUpper r.der).length) 48 := by
  obtain ⟨left, right, hcut, hfile, -⟩ := h.parts
  have hfits := h.fits
  have hone : (left ++ textBytes "<").length = left.length + 1 := by
    rw [length_append]
    rfl
  have hwhole : r.file = left ++ textBytes "<" ++ ((hexUpper r.der ++
      List.replicate (kContentsHexLen - (hexUpper r.der).length) 48) ++ (textBytes ">" ++ right)) := by
    rw [hfile, contentsLiteral]
    simp only [append_assoc]
  rw [hcut.range_eq, cut, hwhole]
  dsimp only
  rw [← hone, drop_left, take_left']
  rw [length_append, length_replicate]
  omega

theorem Sealed.signatureField_object (hsize : r.file.length < 2 ^ 64) (hder : r.der ≠ []) :
    signatureField r.object = some r.field := by
  have hend := h.revisionEnd
  obtain ⟨hstart, hgap, -⟩ := h.proper (prefix_refl _)
  rw [ByteRange.revisionEnd] at hend
  have hrange : byteRangeOf (.array [.integer r.range.offset1, .integer r.range.length1,
      .integer r.range.offset2, .integer r.range.length2]) = r.range := by
    have huint : ∀ n : Nat, n < 2 ^ 64 → (PdfObject.integer n).uintValue = n := by
      intro n hn
      show ((n : Int) % 2 ^ 64).toNat = n
      omega
    rw [byteRangeOf, huint _ (by omega), huint _ (by omega), huint _ (by omega), huint _ (by omega)]
  have hsub : subFilterOf (.name ("/" ++ r.kind.subFilter)) = r.kind.subFilter := by
    cases r.kind <;> decide
  have hdigits : hexDecode (cut r.file ⟨r.range.length1 + 1, kContentsHexLen⟩) ≠ [] := by
    rw [h.digits, hexDecode_hexUpper]
    exact append_ne_nil_of_left_ne_nil hder _
  have hleft : 0 < r.range.length1 := by
    obtain ⟨left, right, hcut, -⟩ := h.parts
    obtain ⟨before, -, hleft⟩ := hcut.written
    rw [hcut.range_eq, hleft, leftOf]
    exact length_pos_of_ne_nil (append_ne_nil_of_right_ne_nil _ (by decide))
  have hkeys : (r.object.hasKey "/SubFilter" && r.object.hasKey "/ByteRange" &&
      r.object.hasKey "/Contents") = true := rfl
  have hname : r.object.getKey "/SubFilter" = .name _ := rfl
  have harray : r.object.getKey "/ByteRange" = .array _ := rfl
  rw [signatureField, if_pos hkeys, hname, harray, hrange, hsub]
  exact if_pos ⟨hdigits, hleft⟩

/-- The zeros after the signature are not read as a part of it. -/
theorem Sealed.cmsOf_field (hder : DerSequence r.der) {V : PadesEnv}
    (hsize : kContentsHexLen < sizeRange V.sizeOfSizeT) : cmsOf V r.field = r.der := by
  have hfits := h.fits
  have hlength : (hexUpper r.der).length = 2 * r.der.length := by
    simp [hexUpper, length_flatMap, Nat.mul_comm]
  show trimDer _ (hexDecode _) = _
  rw [h.digits, hexDecode_hexUpper, hexDecode_zeros]
  exact trimDer_padded hder _ (by omega)

theorem Sealed.signatureValid_iff {V : PadesEnv} (hcms : cmsOf V r.field = r.der) {pdf : Bytes}
    (hpdf : r.file <+: pdf) (certs : List Der) :
    (evidence V pdf certs r.field).signatureValid = true ↔ r.Accepted V := by
  have hrange : byteRangeValid pdf.length r.field.byteRange = true :=
    byteRangeValid_iff.mpr (h.proper hpdf)
  have hsigned : extractSignedBytes pdf r.field.byteRange = r.handed := h.extract hpdf
  rw [evidence, hrange, Bool.and_true, sigValid, detachedVerdict, hsigned, hcms, Revision.Accepted]
  cases V.verifyDetached r.handed r.der <;> simp

end Field

/-! ### The signed file is verified -/

/-- qpdf finds the fields of the input and the dictionaries of the revisions, in whatever order. -/
def ReadsBack (qpdf : Qpdf) (content : Bytes) (st : BuilderState) : Prop :=
  ((qpdf.allObjects st.pdf).objects.filterMap signatureField).Perm
    (extractSignatureFields qpdf content ++ (st.revisions.map Revision.object).filterMap signatureField)

theorem mem_extractSignatureFields {qpdf : Qpdf} (hread : ReadsBack qpdf content st)
    (hpdf : st.pdf ≠ []) (hfield : ∀ r ∈ st.revisions, signatureField r.object = some r.field)
    {f : PdfSignatureDictionary} : f ∈ extractSignatureFields qpdf st.pdf ↔
      f ∈ extractSignatureFields qpdf content ∨ ∃ r ∈ st.revisions, r.field = f := by
  have hfields : (st.revisions.map Revision.object).filterMap signatureField =
      st.revisions.map Revision.field := by
    rw [filterMap_map, ← filterMap_eq_map]
    exact filterMap_congr hfield
  rw [← mem_map, ← hfields, ← mem_append, ← hread.mem_iff,
    extractSignatureFields.eq_def qpdf st.pdf, if_neg hpdf]
  dsimp only
  split
  · rfl
  · exact mem_insertionSort _

theorem Sealing.read_back {root : Handle} (h : Sealing env params content root st) {V : PadesEnv}
    (hw : V.sizeOfSizeT ≤ 8) (hsize : st.pdf.length < sizeRange V.sizeOfSizeT) {r : Revision}
    (hr : r ∈ st.revisions) (hder : DerSequence r.der) :
    signatureField r.object = some r.field ∧ cmsOf V r.field = r.der := by
  obtain ⟨hsealed, hfile⟩ := h.revisions r hr
  have hlength := hfile.length_le.trans_lt hsize
  refine ⟨hsealed.signatureField_object (hlength.trans_le ?_) ?_,
    hsealed.cmsOf_field hder (hsealed.long.trans hlength)⟩
  · exact Nat.pow_le_pow_right (by decide) (by omega)
  · intro hnil
    have htag := hder.tag
    rw [hnil] at htag
    cases htag

/-- A range inside a file selects the same bytes when the file has grown. -/
theorem extractSignedBytes_prefix {pdf pdf' : Bytes} (h : pdf <+: pdf') {br : ByteRange}
    (hbr : br.Proper pdf.length) : extractSignedBytes pdf' br = extractSignedBytes pdf br := by
  obtain ⟨later, rfl⟩ := h
  obtain ⟨hstart, hgap, hinside⟩ := hbr
  have hsame : ∀ s : Span, s.finish ≤ pdf.length → s.fits (pdf ++ later).length = true ∧
      s.fits pdf.length = true ∧ cut (pdf ++ later) s = cut pdf s := fun s hs =>
    ⟨Span.fits_iff.mpr (hs.trans (by simp)), Span.fits_iff.mpr hs,
      cut_eq_iff.mpr fun i hi => List.getElem?_append_left (hi.2.trans_le hs)⟩
  have hfirst : br.first.finish ≤ pdf.length := by
    simp only [Span.finish, ByteRange.first, ByteRange.revisionEnd] at hinside ⊢
    omega
  obtain ⟨h₁, h₂, h₃⟩ := hsame _ hfirst
  obtain ⟨h₄, h₅, h₆⟩ := hsame br.second hinside
  rw [extractSignedBytes, extractSignedBytes, if_pos h₁, if_pos h₂, if_pos h₄, if_pos h₅, h₃, h₆]

/-- A main signature that passes its check passes it when the file has grown. -/
theorem signatureValid_prefix {V : PadesEnv} {pdf pdf' : Bytes} (h : pdf <+: pdf') {certs : List Der}
    {f : PdfSignatureDictionary} (hf : (evidence V pdf certs f).signatureValid = true)
    (certs' : List Der) : (evidence V pdf' certs' f).signatureValid = true := by
  obtain ⟨hvalid, hrange⟩ := Bool.and_eq_true_iff.mp hf
  obtain ⟨hstart, hgap, hinside⟩ := byteRangeValid_iff.mp hrange
  refine Bool.and_eq_true_iff.mpr
    ⟨?_, byteRangeValid_iff.mpr ⟨hstart, hgap, hinside.trans h.length_le⟩⟩
  rwa [sigValid, detachedVerdict, extractSignedBytes_prefix h ⟨hstart, hgap, hinside⟩]

/-- The covered part is the whole file if a signed revision ends it. -/
theorem coverageEnd_of_tipped {fields : List PdfSignatureDictionary} {size : Nat}
    {f : PdfSignatureDictionary} (hf : f ∈ fields) (hend : f.byteRange.revisionEnd = size) :
    coverageEnd size fields = size := by
  rw [coverageEnd_eq]
  refine le_antisymm (furthest_le_iff.mpr fun e he => ?_) (le_furthest ?_)
  · obtain ⟨g, hg, rfl⟩ := mem_map.mp he
    exact Span.fits_iff.mp (mem_filter.mp hg).2
  · exact mem_map.mpr ⟨f, mem_filter.mpr ⟨hf, Span.fits_iff.mpr hend.le⟩, hend⟩

/-- **A signed file verifies.**  qpdf reads the dictionaries back, the signatures are DER, and the
signatures that were there before are valid.  Then `VerifyPdf` calls the signatures of the output
valid exactly if the CMS library accepts what the signer returned, for the bytes that the signer was
given; it hands on the document timestamps with the bytes that they were asked for; and nothing is
uncovered, except by the evidence of the profile LT. -/
theorem signPdf_verifies (V : PadesEnv) (hrun : signPdf env params content = .ok st)
    (hread : ReadsBack V.qpdf content st) (hw : V.sizeOfSizeT ≤ 8)
    (hsize : st.pdf.length < sizeRange V.sizeOfSizeT)
    (hder : ∀ r ∈ st.revisions, DerSequence r.der)
    (hold : ∀ f ∈ mainSigs (extractSignatureFields V.qpdf content),
      fieldVerified V content f = true) :
    ∃ report, verifyPdf V st.pdf = .ok report ∧ (∀ r ∈ st.revisions, Asked env params r) ∧
      (report.signatureValid = true ↔
        ∀ r ∈ st.revisions, r.kind = .signature → r.Accepted V) ∧
      (∀ r ∈ st.revisions, r.kind = .docTimestamp → (r.der, r.handed) ∈
        report.documentTimestampTokensDer.zip report.documentTimestampImprintSources) ∧
      (params.profile ≠ .lt → report.coverageComplete = true) := by
  obtain ⟨root, hsealing, s, hs, hmain⟩ := signPdf_sealing hrun
  have hlong : kContentsHexLen < st.pdf.length :=
    (hsealing.revisions s hs).1.long.trans_le (hsealing.revisions s hs).2.length_le
  have hfields := @mem_extractSignatureFields content st V.qpdf hread
    (ne_nil_of_length_pos (Nat.zero_lt_of_lt hlong))
    fun r hr => (hsealing.read_back hw hsize hr (hder r hr)).1
  have hlisted : ∀ r ∈ st.revisions, r.field ∈ extractSignatureFields V.qpdf st.pdf :=
    fun r hr => hfields.mpr (Or.inr ⟨r, hr, rfl⟩)
  have hsig : ∀ r ∈ st.revisions, r.kind = .signature →
      r.field ∈ mainSigs (extractSignatureFields V.qpdf st.pdf) := by
    intro r hr hkind
    refine mem_filter.mpr ⟨hlisted r hr, ?_⟩
    rw [r.isDocTimestamp_field, hkind]
    rfl
  have hcms : ∀ r ∈ st.revisions, cmsOf V r.field = r.der := fun r hr =>
    (hsealing.read_back hw hsize hr (hder r hr)).2
  have hvalid : ∀ r ∈ st.revisions, ∀ certs, _ := fun r hr =>
    (hsealing.revisions r hr).1.signatureValid_iff (hcms r hr) (hsealing.revisions r hr).2
  refine ⟨_, verifyPdf_ok_iff.mpr ⟨ne_nil_of_mem (hsig s hs hmain), rfl⟩,
    fun r hr => (hsealing.revisions r hr).1.asked, ?_, ?_, ?_⟩
  · show (mainPass _ _ _ _).allSigsValid = true ↔ _
    rw [(mainPass_spec V st.pdf _ _).2, all_eq_true]
    refine ⟨fun hall r hr hkind => (hvalid r hr _).mp (hall _ (hsig r hr hkind)), ?_⟩
    intro haccepted f hf
    obtain ⟨hmem, hnot⟩ := mem_filter.mp hf
    rcases hfields.mp hmem with hf' | ⟨r, hr, rfl⟩
    · have hverified := hold f (mem_filter.mpr ⟨hf', hnot⟩)
      rw [fieldVerified, if_neg (by simpa using hnot)] at hverified
      exact signatureValid_prefix hsealing.start hverified _
    · refine (hvalid r hr _).mpr (haccepted r hr ?_)
      rw [r.isDocTimestamp_field] at hnot
      cases hkind : r.kind with
      | signature => rfl
      | docTimestamp => rw [hkind] at hnot; cases hnot
  · intro r hr hstamp
    show _ ∈ (List.map _ _).zip (List.map _ _)
    have hmem : r.field ∈ docTimestamps (extractSignatureFields V.qpdf st.pdf) := by
      refine mem_filter.mpr ⟨hlisted r hr, ?_⟩
      rw [r.isDocTimestamp_field, hstamp]
      rfl
    obtain ⟨hsealed, hfile⟩ := hsealing.revisions r hr
    rw [zip_map', ← hcms r hr, ← hsealed.extract hfile]
    exact mem_map_of_mem hmem
  · intro hlt
    obtain ⟨r, hr, hfile⟩ := signPdf_tipped hlt hrun
    show (classifyCoverage _ _ (coverageEnd _ _)).complete = true
    rw [coverageEnd_of_tipped (hlisted r hr)
      ((hsealing.revisions r hr).1.revisionEnd.trans (congrArg List.length hfile)),
      classifyCoverage, if_pos rfl]

/-- Every CMS is accepted, and qpdf finds these objects, but none in the file that was signed. -/
def readingEnv (objects : List PdfObject) : PadesEnv :=
  { examplePadesEnv objects with
    qpdf := { (examplePadesEnv objects).qpdf with
      allObjects := fun pdf => if pdf = plainPdf then ⟨[], false⟩ else ⟨objects, false⟩ } }

/-- The main signature and two document timestamps. -/
theorem signPdf_verifies_stamped : ∃ V st report,
    signPdf (plainBuilder archivedDocument) (stampedParameters 1 2) plainPdf = .ok st ∧
      st.revisions.length = 3 ∧ verifyPdf V st.pdf = .ok report ∧ report.signatureValid = true ∧
      report.coverageComplete = true := by
  obtain ⟨st, hst, hlength, hcount, -⟩ := stamped_signed 1 2
  have hseq : DerSequence plainCms := ⟨by decide, by decide, by decide, by decide⟩
  obtain ⟨root, hsealing, s, hs, -⟩ := signPdf_sealing hst
  have hder : ∀ r ∈ st.revisions, r.der = plainCms := by
    intro r hr
    have hasked := (hsealing.revisions r hr).1.asked
    rw [Asked] at hasked
    split at hasked
    · obtain ⟨cms, hcms, ⟨hb, -⟩ | ⟨token, htoken⟩⟩ := hasked
      · cases hb
      · rw [← Except.ok.inj htoken]
        exact (Except.ok.inj hcms).symm
    · obtain ⟨provider, call, hprovider, hanswer⟩ := hasked
      rw [← Option.some.inj hprovider] at hanswer
      exact (Except.ok.inj hanswer).symm
  have hother : st.pdf ≠ plainPdf := by
    intro heq
    have hlong := (hsealing.revisions s hs).1.long.trans_le (hsealing.revisions s hs).2.length_le
    rw [heq] at hlong
    exact absurd hlong (by decide +kernel)
  set V : PadesEnv := readingEnv (st.revisions.map Revision.object)
  have hnone : extractSignatureFields V.qpdf plainPdf = [] := by
    show (if plainPdf = [] then _ else _) = _
    rw [if_neg (by decide)]
    show (if (ite _ _ _ : ObjectScan).threw = true then _ else List.insertionSort _ _) = _
    rw [if_pos rfl]
    rfl
  have hread : ReadsBack V.qpdf plainPdf st := by
    rw [ReadsBack, hnone]
    show (List.filterMap _ (ite _ _ _ : ObjectScan).objects).Perm _
    rw [if_neg hother]
    exact List.Perm.refl _
  obtain ⟨report, hreport, -, hvalid, -, hcomplete⟩ := signPdf_verifies V hst hread le_rfl
    (hlength.trans_lt (show _ < sizeRange 8 by decide +kernel)) (fun r hr => hder r hr ▸ hseq) (by
      rw [hnone]
      exact fun f hf => absurd hf not_mem_nil)
  exact ⟨V, st, report, hst, hcount, hreport, hvalid.mpr fun r _ _ => ⟨_, rfl, rfl⟩,
    hcomplete (by decide)⟩

end Tamga.Pades
