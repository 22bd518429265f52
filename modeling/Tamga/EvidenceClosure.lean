/-
The evidence of a PDF file that is signed with the profile LTA.

A document timestamp may bring evidence that the file does not have.  Then a new `/DSS`
with all evidence and another timestamp over it follow, three times at most.

* `mergeEvidence_spec` — merging keeps what is there and adds what is new, once;
* `timestampLoop_closed` — the loop ends with a timestamp over all the evidence;
* `signPdf_lta_iff` — the `/DSS` has each blob once exactly when the caller passes none twice
  and nothing that is collected is in the `/DSS` of the document already.
-/
import Tamga.CrossReference

namespace Tamga.Pades

open Util Slices List

/-! ### Merging -/

/-- The arrays of a `/DSS`. -/
inductive DssArray where
  | certs
  | crls
  | ocsps
  deriving DecidableEq, Repr

def DssArray.key : DssArray → String
  | .certs => "/Certs"
  | .crls => "/CRLs"
  | .ocsps => "/OCSPs"

/-- What `append_dss_streams` gets for an array. -/
def DssArray.blobs (evidence : PadesValidationEvidence) : DssArray → List Bytes
  | .certs => evidence.certificateChain
  | .crls => evidence.crls
  | .ocsps => evidence.ocspResponses

def Within (incoming evidence : PadesValidationEvidence) : Prop :=
  ∀ a : DssArray, written (a.blobs incoming) ⊆ a.blobs evidence

/-- No blob is there twice, the empty one apart. -/
def PadesValidationEvidence.Once (evidence : PadesValidationEvidence) : Prop :=
  ∀ a : DssArray, (written (a.blobs evidence)).Nodup

theorem forall_dssArray {P : DssArray → Prop} : (∀ a, P a) ↔ P .certs ∧ P .crls ∧ P .ocsps :=
  ⟨fun h => ⟨h _, h _, h _⟩, fun h a => by cases a <;> simp [h]⟩

theorem mem_written {blob : Bytes} {blobs : List Bytes} :
    blob ∈ written blobs ↔ blob ∈ blobs ∧ blob ≠ [] := by
  rw [written, mem_filter, decide_eq_true_eq]

theorem written_snoc {blob : Bytes} (hblob : blob ≠ []) (blobs : List Bytes) :
    written (blobs ++ [blob]) = written blobs ++ [blob] := by
  rw [written, filter_append, filter_cons_of_pos (by simpa using hblob)]
  rfl

/-- What merging does to one array. -/
theorem mergeBlobs_spec (target incoming : List Bytes) : target ⊆ (mergeBlobs target incoming).1 ∧
      written incoming ⊆ (mergeBlobs target incoming).1 ∧
      (mergeBlobs target incoming).1 ⊆ target ++ incoming ∧
      ((written (mergeBlobs target incoming).1).Nodup ↔ (written target).Nodup) ∧
      ((mergeBlobs target incoming).2 = false → (mergeBlobs target incoming).1 = target) := by
  -- by induction on the blobs that come in, for any state of the loop
  suffices h : ∀ (target : List Bytes) (changed : Bool),
      let merged := incoming.foldl (fun (state : List Bytes × Bool) blob =>
        if blob ≠ [] ∧ blob ∉ state.1 then (state.1 ++ [blob], true) else state) (target, changed)
      target ⊆ merged.1 ∧ written incoming ⊆ merged.1 ∧ merged.1 ⊆ target ++ incoming ∧
        ((written merged.1).Nodup ↔ (written target).Nodup) ∧
        (merged.2 = false → changed = false ∧ merged.1 = target) by
    obtain ⟨h₁, h₂, h₃, h₄, h₅⟩ := h target false
    exact ⟨h₁, h₂, h₃, h₄, fun hchanged => (h₅ hchanged).2⟩
  induction incoming with
  | nil =>
    intro target changed
    exact ⟨fun _ h => h, nil_subset _, by simp, Iff.rfl, fun h => ⟨h, rfl⟩⟩
  | cons blob rest ih =>
    intro target changed
    rw [foldl_cons]
    by_cases hnew : blob ≠ [] ∧ blob ∉ target
    · rw [if_pos hnew]
      obtain ⟨hkept, hrest, hfrom, hnodup, hsame⟩ := ih (target ++ [blob]) true
      refine ⟨fun x hx => hkept (mem_append_left _ hx), fun x hx => ?_, ?_, ?_, fun h => ?_⟩
      · obtain ⟨hx, hne⟩ := mem_written.mp hx
        rcases mem_cons.mp hx with rfl | hx
        · exact hkept (mem_append_right _ mem_cons_self)
        · exact hrest (mem_written.mpr ⟨hx, hne⟩)
      · rw [append_assoc] at hfrom
        exact hfrom
      · rw [hnodup, written_snoc hnew.1, nodup_append]
        refine ⟨fun h => h.1, fun h => ⟨h, pairwise_singleton _ _, fun x hx y hy hxy => ?_⟩⟩
        rw [hxy, mem_singleton.mp hy] at hx
        exact hnew.2 (mem_written.mp hx).1
      · cases (hsame h).1
    · rw [if_neg hnew]
      obtain ⟨hkept, hrest, hfrom, hnodup, hsame⟩ := ih target changed
      refine ⟨hkept, fun x hx => ?_, fun x hx => ?_, hnodup, hsame⟩
      · obtain ⟨hx, hne⟩ := mem_written.mp hx
        rcases mem_cons.mp hx with rfl | hx
        · exact hkept (by_contra fun hmem => hnew ⟨hne, hmem⟩)
        · exact hrest (mem_written.mpr ⟨hx, hne⟩)
      · have hx := hfrom hx
        rw [mem_append] at hx ⊢
        exact hx.imp_right (mem_cons_of_mem _)

theorem blobs_mergeEvidence (target incoming : PadesValidationEvidence) (a : DssArray) :
    a.blobs (mergeEvidence target incoming).1 = (mergeBlobs (a.blobs target) (a.blobs incoming)).1 := by
  cases a <;> rfl

theorem mergeEvidence_spec (target incoming : PadesValidationEvidence) :
    Within target (mergeEvidence target incoming).1 ∧
      Within incoming (mergeEvidence target incoming).1 ∧
      (∀ a : DssArray, a.blobs (mergeEvidence target incoming).1 ⊆ a.blobs target ++ a.blobs incoming) ∧
      ((mergeEvidence target incoming).1.Once ↔ target.Once) ∧
      ((mergeEvidence target incoming).2 = false → (mergeEvidence target incoming).1 = target) := by
  have hspec := fun a : DssArray => mergeBlobs_spec (a.blobs target) (a.blobs incoming)
  simp only [← blobs_mergeEvidence] at hspec
  refine ⟨fun a x hx => (hspec a).1 (mem_written.mp hx).1, fun a => (hspec a).2.1,
    fun a => (hspec a).2.2.1, forall_congr' fun a => (hspec a).2.2.2.1, fun h => ?_⟩
  simp only [mergeEvidence, Bool.or_eq_false_iff] at h
  have hcerts := (mergeBlobs_spec target.certificateChain incoming.certificateChain).2.2.2.2 h.1.1
  have hcrls := (mergeBlobs_spec target.crls incoming.crls).2.2.2.2 h.1.2
  have hocsps := (mergeBlobs_spec target.ocspResponses incoming.ocspResponses).2.2.2.2 h.2
  rw [mergeEvidence, hcerts, hcrls, hocsps]

theorem Within.trans {a b c : PadesValidationEvidence} (h : Within a b) (h' : Within b c) :
    Within a c := by
  intro a x hx
  exact h' a (mem_written.mpr ⟨h a hx, (mem_written.mp hx).2⟩)

/-! ### What has been collected -/

variable (env : BuilderEnv) (params : PadesParameters)

/-- The evidence of a run so far: what the caller passes in, and all answers of the provider, of
which there is one for the signature timestamp and one for each document timestamp. -/
structure Collected (st : BuilderState) : Prop where
  given : Within params.evidence st.evidence
  answered : ∀ actual ∈ st.answers, Within actual st.evidence
  brought : ∀ (a : DssArray), ∀ blob ∈ a.blobs st.evidence,
    ∃ evidence ∈ params.evidence :: st.answers, blob ∈ a.blobs evidence
  once : st.evidence.Once ↔ params.evidence.Once
  calls : params.timestampEvidenceProvider ≠ none → st.answers.length = st.revisions.length
  signature : ∀ provider, params.timestampEvidenceProvider = some provider →
    ∃ cms sigval token, env.getSignatureValue cms = .ok sigval ∧
      (∃ stamp, params.timestampProvider = some stamp ∧ stamp 0 sigval = .ok token) ∧
      ∃ actual ∈ st.answers, provider 0 token sigval = .ok actual
  timestamps : ∀ provider, params.timestampEvidenceProvider = some provider →
    ∀ i r, st.revisions[i + 1]? = some r →
      ∃ actual ∈ st.answers, provider (i + 1) r.der r.handed = .ok actual

/-- One array of a `/DSS`: the entries that the document had, and a stream of the revision
for each blob. -/
def ArrayHolds (root : Handle) (dss : PdfMap) (objects : List IncrementalObject) (key : String)
    (blobs : List Bytes) : Prop :=
  ∃ streams : List IncrementalObject, streams ⊆ objects ∧
    (streams.map fun o => o.body) = blobs.map streamObj ∧
    (streams.map fun o => o.object.obj).Nodup ∧
    (originalItems root key ++ streams.map refTo ≠ [] →
      dss.lookup key = some (.array none (originalItems root key ++ streams.map refTo)))

/-- The file has a revision with a `/DSS` that holds the evidence and everything that the
`/DSS` of the document held. -/
def DssIn (root : Handle) (evidence : PadesValidationEvidence) (dssRef : Handle)
    (file : Bytes) : Prop :=
  ∃ before objects rest dss, file = before ++ (objects.flatMap objectText ++ rest) ∧
    ⟨dssRef.getObjGen, env.unparse (.dictionary none dss)⟩ ∈ objects ∧
    (∀ a : DssArray, ArrayHolds root dss objects a.key (written (a.blobs evidence))) ∧
    ∀ key, key ≠ "/Type" → (∀ a : DssArray, key ≠ a.key) →
      dss.lookup key = (originalDss root).lookup key

/-- Each blob of the evidence is in its array once.  The array begins with the entries of the
document, of which `held` is what they hold. -/
def HeldOnce (held : Handle → Option Bytes) (root : Handle)
    (evidence : PadesValidationEvidence) : Prop :=
  ∀ a : DssArray, ∀ blob ∈ written (a.blobs evidence),
    ((originalItems root a.key).filterMap held ++ written (a.blobs evidence)).count blob = 1

/-- The last revision is a document timestamp over a file that has the evidence and whose catalog
names that `/DSS`; at most four timestamps follow the main signature; each blob is in the `/DSS`
once. -/
structure LtaClosed (held : Handle → Option Bytes) (root : Handle) (st : BuilderState) :
    Prop where
  collected : Collected env params st
  last : ∃ earlier r covered, st.revisions = earlier ++ [r] ∧ r.kind = .docTimestamp ∧
    r.file = st.pdf ∧ covered <+: st.pdf ∧ covered.length ≤ r.range.length1 ∧
    DssIn env root st.evidence st.dssRef covered ∧
    ∃ (objects : List IncrementalObject) (form : Handle) (rest : Bytes),
      st.pdf = covered ++ (objects.flatMap objectText ++ rest) ∧
      ⟨root.getObjGen, catalogBody env root.getDictAsMap form st.dssRef⟩ ∈ objects
  bounded : ∃ main timestamps, st.revisions = main :: timestamps ∧ main.kind = .signature ∧
    (∀ r ∈ timestamps, r.kind = .docTimestamp) ∧ timestamps.length ≤ 4
  once : HeldOnce held root st.evidence

/-- The caller passes no blob twice, and neither they nor an answer of the provider bring one that
the `/DSS` of the document holds. -/
def BringsNew (held : Handle → Option Bytes) (root : Handle) (st : BuilderState) : Prop :=
  params.evidence.Once ∧ ∀ evidence ∈ params.evidence :: st.answers, ∀ a : DssArray,
    ∀ blob ∈ written (a.blobs evidence), blob ∉ (originalItems root a.key).filterMap held

theorem count_append_eq_one_iff {old blobs : List Bytes} :
    (∀ blob ∈ blobs, (old ++ blobs).count blob = 1) ↔
      blobs.Nodup ∧ ∀ blob ∈ blobs, blob ∉ old := by
  simp only [count_append]
  constructor
  · intro h
    refine ⟨nodup_iff_count_le_one.mpr fun blob => ?_, fun blob hblob hold => ?_⟩
    · by_cases hblob : blob ∈ blobs
      · exact (h blob hblob).le.trans' (Nat.le_add_left _ _)
      · rw [count_eq_zero.mpr hblob]
        exact Nat.zero_le 1
    · have hpos := count_pos_iff.mpr hold
      have hpos' := count_pos_iff.mpr hblob
      have hone := h blob hblob
      omega
  · rintro ⟨hnodup, hfresh⟩ blob hblob
    rw [count_eq_zero.mpr (hfresh blob hblob), count_eq_one_of_mem hnodup hblob]

/-- Merging keeps the repetitions of the caller and adds none, so it is what is brought that
counts. -/
theorem Collected.heldOnce_iff {env : BuilderEnv} {params : PadesParameters} {st : BuilderState}
    (h : Collected env params st) (held : Handle → Option Bytes) (root : Handle) :
    HeldOnce held root st.evidence ↔ BringsNew params held root st := by
  simp only [HeldOnce, count_append_eq_one_iff, forall_and]
  refine and_congr h.once ⟨fun hnew evidence hevidence a blob hblob => ?_, fun hnew a blob hblob => ?_⟩
  · refine hnew a blob (mem_written.mpr ⟨?_, (mem_written.mp hblob).2⟩)
    rcases mem_cons.mp hevidence with rfl | hanswer
    · exact h.given a hblob
    · exact h.answered evidence hanswer a hblob
  · obtain ⟨hmem, hne⟩ := mem_written.mp hblob
    obtain ⟨evidence, hevidence, hbrought⟩ := h.brought a blob hmem
    exact hnew evidence hevidence a blob (mem_written.mpr ⟨hbrought, hne⟩)

/-! ### The `/DSS` -/

theorem bodies_streamsFrom (blobs : List Bytes) : ∀ n : Nat,
    ((streamsFrom n blobs).map fun o => o.body) = blobs.map streamObj := by
  induction blobs with
  | nil => exact fun n => rfl
  | cons blob rest ih => exact fun n => congrArg (streamObj blob :: ·) (ih (n + 1))

theorem lookup_withArray_ne {root : Handle} {key key' : String} (h : key' ≠ key) (dss : PdfMap)
    (streams : List IncrementalObject) :
    (withArray root key dss streams).lookup key' = dss.lookup key' := by
  rw [withArray]
  split
  · rfl
  · exact PdfMap.lookup_set_ne h _

theorem lookup_withArray_self {root : Handle} {key : String} {streams : List IncrementalObject}
    (h : originalItems root key ++ streams.map refTo ≠ []) (dss : PdfMap) :
    (withArray root key dss streams).lookup key =
      some (.array none (originalItems root key ++ streams.map refTo)) := by
  rw [withArray, if_neg h, PdfMap.lookup_set_self]

section Run

variable {env params} {content : Bytes} {st st' : BuilderState} {root : Handle}
  {held : Handle → Option Bytes}

theorem appendDssRevision_holds (hcounted : root.getObjGen.obj ≤ st.objectCount)
    (h : appendDssRevision env root st = .ok st') :
    DssIn env root st'.evidence st'.dssRef st'.pdf ∧ st'.evidence = st.evidence ∧
      st'.revisions = st.revisions ∧ st'.answers = st.answers := by
  obtain ⟨objects, htiled, hstreams, hdss, hst, -⟩ := appendDssRevision_tiled hcounted h
  have hevidence : st'.evidence = st.evidence := by rw [hst]
  refine ⟨?_, hevidence, by rw [hst], by rw [hst]⟩
  have harray : ∀ (n : Nat) (key : String) (blobs : List Bytes) (dss : PdfMap),
      (∀ o ∈ streamsFrom n blobs, o ∈ objects) →
      (originalItems root key ++ (streamsFrom n blobs).map refTo ≠ [] → dss.lookup key =
        some (.array none (originalItems root key ++ (streamsFrom n blobs).map refTo))) →
      ArrayHolds root dss objects key blobs := by
    intro n key blobs dss hmem hlookup
    refine ⟨streamsFrom n blobs, hmem, bodies_streamsFrom _ _, ?_, hlookup⟩
    rw [numbers_streamsFrom]
    exact nodup_range'
  rw [hevidence]
  refine ⟨st.pdf, objects, _, _, htiled.pdf, hdss, forall_dssArray.mpr ⟨?_, ?_, ?_⟩,
    fun key htype hkey => ?_⟩
  · refine harray st.objectCount _ _ _ (fun o ho => hstreams o (Or.inl ho)) fun hne => ?_
    rw [evidenceDss, lookup_withArray_ne (by decide), lookup_withArray_ne (by decide)]
    exact lookup_withArray_self hne _
  · refine harray _ _ _ _ (fun o ho => hstreams o (Or.inr (Or.inl ho))) fun hne => ?_
    rw [evidenceDss, lookup_withArray_ne (by decide)]
    exact lookup_withArray_self hne _
  · refine harray _ _ _ _ (fun o ho => hstreams o (Or.inr (Or.inr ho))) fun hne => ?_
    exact lookup_withArray_self hne _
  · obtain ⟨hcerts, hcrls, hocsps⟩ := forall_dssArray.mp hkey
    simp only [DssArray.key] at hcerts hcrls hocsps
    rw [evidenceDss, lookup_withArray_ne hocsps, lookup_withArray_ne hcrls,
      lookup_withArray_ne hcerts, PdfMap.lookup_set_ne htype]

/-! ### The steps -/

/-- One call for evidence, for the revision that was appended last. -/
theorem Collected.timestamp {r : Revision} {mid : BuilderState} {changed : Bool}
    (h : Collected env params st)
    (hcall : collectEvidence params r.der r.handed mid = .ok (st', changed))
    (hevidence : mid.evidence = st.evidence) (hanswers : mid.answers = st.answers)
    (hrevisions : mid.revisions = st.revisions ++ [r]) :
    Collected env params st' ∧ st'.revisions = st.revisions ++ [r] ∧ st'.pdf = mid.pdf ∧
      st'.dssRef = mid.dssRef ∧ (changed = false → st'.evidence = st.evidence) := by
  rcases collectEvidence_spec hcall with ⟨hnone, rfl, rfl⟩ | ⟨provider, actual, hsome, hanswer, rfl, rfl⟩
  · refine ⟨⟨?_, ?_, ?_, ?_, fun h => absurd hnone h, fun p hp => ?_, fun p hp => ?_⟩, hrevisions, rfl,
      rfl, fun _ => hevidence⟩
    · exact hevidence ▸ h.given
    · exact hevidence ▸ hanswers ▸ h.answered
    · exact hevidence ▸ hanswers ▸ h.brought
    · exact hevidence ▸ h.once
    all_goals
      rw [hnone] at hp
      cases hp
  · have hcalls := h.calls (by rw [hsome]; exact Option.some_ne_none _)
    rw [hanswers, hcalls] at hanswer
    rw [hevidence, hanswers]
    obtain ⟨hkept, hnew, hfrom, honce, hsame⟩ := mergeEvidence_spec st.evidence actual
    have hold : ∀ {x}, x ∈ st.answers → x ∈ st.answers ++ [actual] := mem_append_left _
    have hlast : actual ∈ st.answers ++ [actual] := mem_append_right _ mem_cons_self
    refine ⟨⟨h.given.trans hkept, fun x hx => ?_, fun a blob hblob => ?_, honce.trans h.once,
      fun _ => ?_, fun p hp => ?_, fun p hp i x hx => ?_⟩, hrevisions, rfl, rfl, hsame⟩
    · rcases mem_append.mp hx with hx | hx
      · exact (h.answered x hx).trans hkept
      · rwa [mem_singleton.mp hx]
    · rcases mem_append.mp (hfrom a hblob) with hblob | hblob
      · obtain ⟨evidence, hmem, hbrought⟩ := h.brought a blob hblob
        exact ⟨evidence, mem_cons.mpr ((mem_cons.mp hmem).imp_right hold), hbrought⟩
      · exact ⟨actual, mem_cons_of_mem _ hlast, hblob⟩
    · show (st.answers ++ [actual]).length = mid.revisions.length
      rw [hrevisions, length_append, length_append, hcalls]
      rfl
    · obtain ⟨cms, sigval, token, h₁, h₂, answer, hmem, h₃⟩ := h.signature p hp
      exact ⟨cms, sigval, token, h₁, h₂, answer, hold hmem, h₃⟩
    · change mid.revisions[i + 1]? = some x at hx
      rw [hrevisions] at hx
      by_cases hi : i + 1 < st.revisions.length
      · rw [List.getElem?_append_left hi] at hx
        obtain ⟨answer, hmem, h₁⟩ := h.timestamps p hp i x hx
        exact ⟨answer, hold hmem, h₁⟩
      · -- the new revision, whose call this was
        obtain ⟨hlt, hget⟩ := List.getElem?_eq_some_iff.mp hx
        rw [length_append, length_singleton] at hlt
        have hi : i + 1 = st.revisions.length := by omega
        rw [getElem_append_right (by omega), getElem_singleton] at hget
        rw [hsome, Option.some.injEq] at hp
        subst hp hget
        rw [hi]
        exact ⟨actual, hlast, hanswer⟩

theorem Collected.congr (h : Collected env params st) (hevidence : st'.evidence = st.evidence)
    (hrevisions : st'.revisions = st.revisions) (hanswers : st'.answers = st.answers) :
    Collected env params st' := by
  constructor
  · exact hevidence ▸ h.given
  · exact hevidence ▸ hanswers ▸ h.answered
  · exact hevidence ▸ hanswers ▸ h.brought
  · exact hevidence ▸ h.once
  · exact hanswers ▸ hrevisions ▸ h.calls
  · exact hanswers ▸ h.signature
  · exact hanswers ▸ hrevisions ▸ h.timestamps

variable (env params content root) in
structure LoopReady (st : BuilderState) : Prop where
  sealing : Sealing env params content root st
  collected : Collected env params st
  dss : DssIn env root st.evidence st.dssRef st.pdf
  shape : ∃ main timestamps, st.revisions = main :: timestamps ∧ main.kind = .signature ∧
    ∀ r ∈ timestamps, r.kind = .docTimestamp

theorem shape_snoc {revisions : List Revision} {r : Revision} (hr : r.kind = .docTimestamp)
    (h : ∃ main timestamps, revisions = main :: timestamps ∧ main.kind = .signature ∧
      ∀ x ∈ timestamps, x.kind = .docTimestamp) :
    ∃ main timestamps, revisions ++ [r] = main :: timestamps ∧ main.kind = .signature ∧
      ∀ x ∈ timestamps, x.kind = .docTimestamp := by
  obtain ⟨main, timestamps, rfl, hmain, htimestamps⟩ := h
  refine ⟨main, timestamps ++ [r], rfl, hmain, fun x hx => ?_⟩
  rcases mem_append.mp hx with hx | hx
  · exact htimestamps x hx
  · rw [mem_singleton.mp hx]
    exact hr

theorem LoopReady.closes {p : Prepared} (h : LoopReady env params content p.document.root st)
    (hsize : st.revisions.length ≤ 4)
    (hrun : timestampRevision env params p st = .ok (st', false)) :
    LtaClosed env params held p.document.root st' ↔ BringsNew params held p.document.root st' := by
  obtain ⟨-, r, mid, hcall, hevidence, hcalls, hdssRef, hrevisions, hfile, hkind, hrange⟩ :=
    timestampRevision_sealing h.sealing hrun
  obtain ⟨hcollected, hrevisions', hpdf, hdssRef', hsame⟩ :=
    h.collected.timestamp hcall hevidence hcalls hrevisions
  obtain ⟨objects, form, htiled, hcatalog⟩ := timestampRevision_tiled h.sealing.counted hrun
  rw [hdssRef] at hdssRef'
  refine ⟨fun hclosed => (hcollected.heldOnce_iff held _).mp hclosed.once, fun honce => ⟨hcollected,
    ?_, ?_, (hcollected.heldOnce_iff held _).mpr honce⟩⟩
  · refine ⟨st.revisions, r, st.pdf, hrevisions', hkind, hfile.trans hpdf.symm, ?_, hrange, ?_,
      objects, form, _, htiled.pdf, ?_⟩
    · rw [htiled.pdf]
      exact prefix_append _ _
    · rw [hsame rfl, hdssRef']
      exact h.dss
    · rw [hdssRef']
      exact hcatalog
  · obtain ⟨main, timestamps, heq, hmain, htimestamps⟩ := shape_snoc hkind h.shape
    refine ⟨main, timestamps, hrevisions'.trans heq, hmain, htimestamps, ?_⟩
    have hlength := congrArg List.length heq
    rw [length_append, length_singleton, length_cons] at hlength
    omega

theorem LoopReady.renews {p : Prepared} {st₁ : BuilderState}
    (h : LoopReady env params content p.document.root st)
    (hrun : timestampRevision env params p st = .ok (st₁, true))
    (hdss : appendDssRevision env p.document.root st₁ = .ok st') :
    LoopReady env params content p.document.root st' ∧
      st'.revisions.length = st.revisions.length + 1 := by
  obtain ⟨hsealing, r, mid, hcall, hevidence, hcalls, -, hrevisions, -, hkind, -⟩ :=
    timestampRevision_sealing h.sealing hrun
  obtain ⟨hcollected, hrevisions', -⟩ :=
    h.collected.timestamp hcall hevidence hcalls hrevisions
  obtain ⟨hholds, hsame, hkept, hcount⟩ := appendDssRevision_holds hsealing.counted hdss
  refine ⟨⟨hsealing.append (appendDssRevision_appends hdss), hcollected.congr hsame hkept hcount,
    hholds, ?_⟩, ?_⟩
  · rw [hkept, hrevisions']
    exact shape_snoc hkind h.shape
  · rw [hkept, hrevisions', length_append]
    rfl

theorem timestampLoop_closed {p : Prepared} {left : Nat}
    (h : LoopReady env params content p.document.root st) (hsize : st.revisions.length + left ≤ 4)
    (hrun : timestampLoop env params p left st = .ok st') :
    LtaClosed env params held p.document.root st' ↔ BringsNew params held p.document.root st' := by
  refine timestampLoop_induction (P := fun left st st' =>
    LoopReady env params content p.document.root st → st.revisions.length + left ≤ 4 →
      (LtaClosed env params held p.document.root st' ↔ BringsNew params held p.document.root st'))
    (fun _ st st' hstep h hsize => h.closes (by omega) hstep)
    (fun _ st st₁ st₂ st' hstep hdss ih h hsize => ?_) hrun h hsize
  obtain ⟨hready, hlength⟩ := h.renews hstep hdss
  exact ih hready (by omega)

theorem mainRevision_collected {p : Prepared} (hlta : params.profile = .lta)
    (hrun : mainRevision env params p (initialState params content p) = .ok st) :
    Collected env params st ∧ ∃ r, st.revisions = [r] ∧ r.kind = .signature := by
  simp only [mainRevision, bind_eq_ok, Prod.exists] at hrun
  obtain ⟨signature, st₁, h₁, widget, st₂, h₂, form, st₃, h₃, pdfDate, -, o, -, cms, -,
    cms', st₄, htimestamp, hclose⟩ := hrun
  obtain ⟨-, rfl, rfl, rfl, rfl⟩ := newIndirect_three h₁ h₂ h₃
  rw [timestampedCms, if_neg (by rw [hlta]; decide)] at htimestamp
  simp only [bind_eq_ok, Except.ok.injEq, Prod.mk.injEq, Prod.exists, signatureEvidence, hlta,
    reduceCtorEq, if_false] at htimestamp
  obtain ⟨sigval, hsigval, token, st₅, hrequest, st₆, changed, hcall, cms₂, -, rfl, rfl⟩ := htimestamp
  obtain ⟨stamp, hstamp, htoken, rfl⟩ := requestTimestamp_eq_ok hrequest
  simp only [closeRevision, bind_eq_ok, Except.ok.injEq] at hclose
  obtain ⟨pdf, -, rfl⟩ := hclose
  have hself : Within params.evidence params.evidence := fun _ _ h => (mem_written.mp h).1
  have hbrought : ∀ (a : DssArray), ∀ blob ∈ a.blobs params.evidence,
      ∃ evidence ∈ params.evidence :: [], blob ∈ a.blobs evidence := fun a blob h =>
    ⟨_, mem_cons_self, h⟩
  rcases collectEvidence_spec hcall with ⟨hnone, rfl, -⟩ | ⟨provider, actual, hsome, hanswer, rfl, -⟩
  · refine ⟨⟨hself, fun _ h => absurd h not_mem_nil, hbrought, Iff.rfl,
      fun h => absurd hnone h, fun q hq => ?_, fun q hq => ?_⟩, _, rfl, rfl⟩
    all_goals
      rw [hnone] at hq
      cases hq
  · obtain ⟨hkept, hnew, hfrom, honce, -⟩ := mergeEvidence_spec params.evidence actual
    refine ⟨⟨hkept, fun x hx => ?_, fun a blob hblob => ?_, honce, fun _ => rfl, fun q hq => ?_,
      fun q hq i r hr => ?_⟩, _, rfl, rfl⟩
    · rwa [mem_singleton.mp hx]
    · rcases mem_append.mp (hfrom a hblob) with hblob | hblob
      · exact ⟨_, mem_cons_self, hblob⟩
      · exact ⟨actual, mem_cons_of_mem _ mem_cons_self, hblob⟩
    · rw [hsome, Option.some.injEq] at hq
      subst hq
      exact ⟨cms, sigval, token, hsigval, ⟨stamp, hstamp, htoken⟩, actual, mem_cons_self, hanswer⟩
    · cases hr

end Run

/-- With the profile LTA everything but the repetitions of evidence is as it should be. -/
theorem closed_iff_bringsNew {env : BuilderEnv} {params : PadesParameters} {content : Bytes}
    {p : Prepared} {st : BuilderState} (held : Handle → Option Bytes) (hlta : params.profile = .lta)
    (hprepare : prepare env params content = .ok p) (h : signPdf env params content = .ok st) :
    LtaClosed env params held p.document.root st ↔ BringsNew params held p.document.root st := by
  simp only [signPdf, bind_eq_ok, hlta, if_true] at h
  obtain ⟨p', hprepare', st₁, hmain, st₂, hevidence, hloop⟩ := h
  obtain rfl := Except.ok.inj (hprepare.symm.trans hprepare')
  have hsealing := (mainRevision_sealing (initialState_sealing params content p) hmain).1
  obtain ⟨hcollected, r, hrevisions, hkind⟩ := mainRevision_collected hlta hmain
  rw [evidenceRevision, hlta, if_pos (by decide)] at hevidence
  obtain ⟨hholds, hsame, hkept, hanswers⟩ := appendDssRevision_holds hsealing.counted hevidence
  have hready : LoopReady env params content p.document.root st₂ := by
    refine ⟨hsealing.append (appendDssRevision_appends hevidence),
      hcollected.congr hsame hkept hanswers, hholds, ?_⟩
    rw [hkept, hrevisions]
    exact ⟨r, [], rfl, hkind, fun x hx => absurd hx not_mem_nil⟩
  refine timestampLoop_closed hready ?_ hloop
  rw [hkept, hrevisions]
  exact Nat.le_refl 4

/-- **The evidence of a file with the profile LTA.**  The last revision is a document timestamp over
a `/DSS` with everything that the `/DSS` of the input had and with the evidence for the signature
and for all timestamps, the last one included, so a run whose evidence does not settle has no
output; there are at most four timestamps.  Each blob is there once exactly when the caller passes
none twice and nobody brings one that the `/DSS` of the input has. -/
theorem signPdf_lta_iff (held : Handle → Option Bytes) (content : Bytes)
    (p : Prepared) (st : BuilderState) (hlta : params.profile = .lta)
    (hprepare : prepare env params content = .ok p) (h : signPdf env params content = .ok st) :
    LtaClosed env params held p.document.root st ↔ BringsNew params held p.document.root st :=
  closed_iff_bringsNew held hlta hprepare h

/-- The object 2 is the certificate 9. -/
def archivedCertificate (h : Handle) : Option Bytes :=
  if h.getObjGen = ⟨2, 0⟩ then some [9] else none

theorem stamped_bringsNew {st : BuilderState} {a b : UInt8}
    (hanswers : st.answers = [{}, { crls := [[3]] }, {}]) :
    BringsNew (stampedParameters a b) archivedCertificate archivedDocument.root st ↔
      a ≠ b ∧ a ≠ 9 ∧ b ≠ 9 := by
  have hcerts : originalItems archivedDocument.root "/Certs" = [.other (some ⟨2, 0⟩) []] := rfl
  have hcrls : originalItems archivedDocument.root "/CRLs" = [] := rfl
  have hheld : archivedCertificate (.other (some ⟨2, 0⟩) []) = some [9] := rfl
  simp [BringsNew, PadesValidationEvidence.Once, forall_dssArray, DssArray.blobs, DssArray.key,
    stampedParameters, hanswers, written, hcerts, hcrls, hheld, @eq_comm _ (9 : UInt8)]

/-- Two certificates and the CRL of the first timestamp are there once each. -/
theorem signPdf_lta_distinct : ∃ st,
    signPdf (plainBuilder archivedDocument) (stampedParameters 1 2) plainPdf = .ok st ∧
    st.revisions.length = 3 ∧ LtaClosed (plainBuilder archivedDocument) (stampedParameters 1 2)
      archivedCertificate archivedDocument.root st := by
  obtain ⟨st, hst, -, hlength, hanswers⟩ := stamped_signed 1 2
  exact ⟨st, hst, hlength, (signPdf_lta_iff _ _ archivedCertificate _ _ st rfl (stamped_prepare 1 2)
    hst).mpr ((stamped_bringsNew hanswers).mpr (by decide))⟩

theorem stamped_not_closed {a b : UInt8} (h : ¬ (a ≠ b ∧ a ≠ 9 ∧ b ≠ 9)) :
    ∃ st, signPdf (plainBuilder archivedDocument) (stampedParameters a b) plainPdf = .ok st ∧
      ¬ LtaClosed (plainBuilder archivedDocument) (stampedParameters a b) archivedCertificate
        archivedDocument.root st := by
  obtain ⟨st, hst, -, -, hanswers⟩ := stamped_signed a b
  refine ⟨st, hst, fun hclosed => h ((stamped_bringsNew hanswers).mp ?_)⟩
  exact (closed_iff_bringsNew archivedCertificate rfl (stamped_prepare a b) hst).mp hclosed

/-- A certificate that the caller passes twice gets two streams, and one that the document has gets
another one. -/
theorem certificate_written_twice :
    (∃ st, signPdf (plainBuilder archivedDocument) (stampedParameters 1 1) plainPdf = .ok st ∧
      ¬ LtaClosed (plainBuilder archivedDocument) (stampedParameters 1 1) archivedCertificate
        archivedDocument.root st) ∧
    ∃ st, signPdf (plainBuilder archivedDocument) (stampedParameters 9 1) plainPdf = .ok st ∧
      ¬ LtaClosed (plainBuilder archivedDocument) (stampedParameters 9 1) archivedCertificate
        archivedDocument.root st :=
  ⟨stamped_not_closed (by decide), stamped_not_closed (by decide)⟩

end Tamga.Pades
