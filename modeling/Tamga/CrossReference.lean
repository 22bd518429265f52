/-
The cross-reference sections of the revisions that `SignPdf` appends.

Offsets are taken while the text of a revision is assembled, and the blank places are
written over afterwards.  Since nothing moves then, the offsets still are those of the
finished file.

* `Tiled` — a revision is its objects, one after the other, a table of their places, and
  a trailer; `mainRevision_tiled`, `timestampRevision_tiled`, `appendDssRevision_tiled`;
* `signPdf_xref_iff` — all tables are right, and each `/Prev` is the section before it
  exactly when the input states the place of its last section as it is in the file.
-/
import Mathlib.Data.String.Basic
import Tamga.PadesBuilder

namespace Tamga.Pades

open Util Slices List

/-! ### Maps -/

theorem PdfMap.lookup_set_self (map : PdfMap) (key : String) (value : Handle) :
    (map.set key value).lookup key = some value := by
  have hnone : (map.filter fun e => e.1 < key).lookup key = none := by
    rw [lookup_eq_none_iff]
    intro e he
    have hlt := (mem_filter.mp he).2
    rw [decide_eq_true_eq] at hlt
    exact bne_iff_ne.mpr hlt.ne'
  rw [PdfMap.set, lookup_append, hnone, Option.none_or, lookup_cons_self]

theorem PdfMap.lookup_filter {map : PdfMap} {key : String} {keep : String × Handle → Bool}
    (h : ∀ e : String × Handle, e.1 = key → keep e = true) :
    (map.filter keep).lookup key = map.lookup key := by
  induction map with
  | nil => rfl
  | cons e map ih =>
    obtain ⟨k, v⟩ := e
    by_cases hk : key = k
    · rw [filter_cons_of_pos (h _ hk.symm), hk, lookup_cons_self, lookup_cons_self]
    · have hfalse : (key == k) = false := beq_false_of_ne hk
      rw [filter_cons]
      split
      · rw [lookup_cons, lookup_cons, hfalse, ih]
      · rw [lookup_cons, hfalse, ih]

theorem PdfMap.lookup_set_ne {map : PdfMap} {key key' : String} (h : key' ≠ key) (value : Handle) :
    (map.set key value).lookup key' = map.lookup key' := by
  have hfalse : (key' == key) = false := beq_false_of_ne h
  rw [PdfMap.set, lookup_append, lookup_cons, hfalse]
  rcases lt_or_gt_of_ne h with hlt | hgt
  · rw [PdfMap.lookup_filter fun e he => decide_eq_true (he ▸ hlt)]
    have hnone : (map.filter fun e => key < e.1).lookup key' = none := by
      rw [lookup_eq_none_iff]
      intro e he
      have hgt := of_decide_eq_true (mem_filter.mp he).2
      exact bne_iff_ne.mpr (hlt.trans hgt).ne
    rw [hnone, Option.or_none]
  · have hnone : (map.filter fun e => e.1 < key).lookup key' = none := by
      rw [lookup_eq_none_iff]
      intro e he
      have hlt := of_decide_eq_true (mem_filter.mp he).2
      exact bne_iff_ne.mpr (hlt.trans hgt).ne'
    rw [hnone, Option.none_or, PdfMap.lookup_filter fun e he => decide_eq_true (he ▸ hgt)]

/-! ### The table -/

def entryText (e : XrefEntry) : Bytes :=
  textBytes (zeroPadded 10 e.offset) ++ textBytes " " ++ textBytes (zeroPadded 5 e.generation) ++
    textBytes " n \n"

/-- A cross-reference section: its subsections, each the number of its first object and
the entries of that object and the next ones. -/
abbrev XrefSection := List (Nat × List XrefEntry)

def XrefSection.text (subsections : XrefSection) : Bytes :=
  textBytes "xref\n" ++ subsections.flatMap fun s =>
    decimal s.1 ++ textBytes " " ++ decimal s.2.length ++ textBytes "\n" ++ s.2.flatMap entryText

/-- What a section lists: the entries with the numbers of their objects. -/
def XrefSection.listed (subsections : XrefSection) : List (Nat × XrefEntry) :=
  subsections.flatMap fun s => (List.range' s.1 s.2.length).zip s.2

def subsectionOf (run : List (Nat × XrefEntry)) : Nat × List XrefEntry :=
  ((run.head?.map Prod.fst).getD 0, run.map Prod.snd)

theorem xrefRuns_numbered (entries : List (Nat × XrefEntry)) : ∀ run ∈ xrefRuns entries,
    (List.range' (subsectionOf run).1 run.length).zip (run.map Prod.snd) = run := by
  induction entries with
  | nil => exact fun run hrun => absurd hrun not_mem_nil
  | cons e rest ih =>
    rw [xrefRuns]
    split
    · next f run runs heq =>
      rw [heq] at ih
      split
      · next hnext =>
        -- the run of the next entry begins one number later
        refine forall_mem_cons.mpr ⟨?_, (forall_mem_cons.mp ih).2⟩
        show (e.1, e.2) :: (List.range' (e.1 + 1) (f :: run).length).zip
          ((f :: run).map Prod.snd) = _
        rw [← hnext]
        exact congrArg (e :: ·) (ih _ mem_cons_self)
      · exact forall_mem_cons.mpr ⟨rfl, ih⟩
    · exact forall_mem_cons.mpr ⟨rfl, ih⟩

theorem xrefTable_eq (entries : List (Nat × XrefEntry)) :
    xrefTable entries = XrefSection.text ((xrefRuns entries).map subsectionOf) ∧
      XrefSection.listed ((xrefRuns entries).map subsectionOf) = entries := by
  have hruns := xrefRuns_numbered entries
  have hflatten := (xrefRuns_flatten entries).1
  constructor
  · rw [xrefTable, XrefSection.text, flatMap_map]
    refine congrArg (fun text => textBytes "xref\n" ++ (xrefRuns entries).flatMap text)
      (funext fun run => ?_)
    rw [xrefSubsection, subsectionOf, length_map, flatMap_map]
    rfl
  · rw [XrefSection.listed, flatMap_map, flatMap_def]
    conv_rhs => rw [← hflatten]
    congr 1
    refine (map_congr_left fun run hrun => ?_).trans (map_id _)
    rw [subsectionOf, length_map]
    exact hruns run hrun

/-! ### The text of a revision -/

def entriesFrom (start : Nat) (objects : List IncrementalObject) : List (Nat × XrefEntry) :=
  (placesFrom objectText start objects).map fun place =>
    (place.2.object.obj, ⟨place.1, place.2.object.gen⟩)

theorem map_fst_entriesFrom (start : Nat) (objects : List IncrementalObject) :
    (entriesFrom start objects).map Prod.fst = objects.map fun o => o.object.obj := by
  conv_rhs => rw [← map_snd_placesFrom objectText objects start]
  rw [entriesFrom, map_map, map_map]
  rfl

theorem entriesFrom_replace (start : Nat) (front back : List IncrementalObject) (object : ObjGen)
    {body body' : Bytes} (h : body.length = body'.length) :
    entriesFrom start (front ++ ⟨object, body⟩ :: back) =
      entriesFrom start (front ++ ⟨object, body'⟩ :: back) := by
  have htext : (objectText ⟨object, body⟩).length = (objectText ⟨object, body'⟩).length := by
    simp only [objectText, length_append, h]
  rw [entriesFrom, entriesFrom, placesFrom_append, placesFrom_append, map_append,
    map_append, placesFrom, placesFrom, htext]
  rfl

theorem offsets_foldl_assembleObject (baseOffset : Nat) (signatureObject : ObjGen)
    (objects : List IncrementalObject) : ∀ a : Assembly,
      (a.offsets.map Prod.fst ++ objects.map fun o => o.object.obj).Nodup →
      (objects.foldl (assembleObject baseOffset signatureObject) a).offsets =
        a.offsets ++ entriesFrom (baseOffset + a.bytes.length) objects := by
  induction objects with
  | nil => exact fun a _ => (append_nil _).symm
  | cons o rest ih =>
    intro a hnodup
    have hfresh : (a.offsets.map Prod.fst).contains o.object.obj = false := by
      rw [contains_eq_mem, decide_eq_false_iff_not]
      exact fun hmem => (nodup_append.mp hnodup).2.2 _ hmem _ mem_cons_self rfl
    have hoffsets : (assembleObject baseOffset signatureObject a o).offsets = a.offsets ++
        [(o.object.obj, ⟨baseOffset + a.bytes.length, o.object.gen⟩)] := by
      show (if (a.offsets.map Prod.fst).contains o.object.obj = true then _ else _) = _
      rw [if_neg (by rw [hfresh]; exact Bool.false_ne_true)]
    have hlength : (assembleObject baseOffset signatureObject a o).bytes.length =
        a.bytes.length + (objectText o).length := by
      show (a.bytes ++ objectHeader o.object ++ _).length = _
      rw [append_assoc, length_append]
      rfl
    rw [foldl_cons, ih, hoffsets, hlength, append_assoc, ← Nat.add_assoc]
    · rfl
    · rw [hoffsets, map_append, append_assoc]
      exact hnodup

variable (env : BuilderEnv)

def trailerText (trailer : PdfMap) (startxref : Nat) : Bytes :=
  textBytes "trailer\n" ++ env.unparse (.dictionary none trailer) ++ textBytes "\nstartxref\n" ++
    decimal startxref ++ textBytes "\n%%EOF\n"

theorem assembleRevision_eq (baseOffset previousStartxref : Nat)
    {objects : List IncrementalObject} (root : Handle) (signatureObject : ObjGen) (trailer : PdfMap)
    (h : (objects.map fun o => o.object.obj).Nodup) {layout : RevisionLayout × PdfMap}
    (hlayout : layout = assembleRevision env baseOffset previousStartxref objects root
      signatureObject trailer) :
    layout.1.bytes = (sortedObjects objects).flatMap objectText ++
        (xrefTable (entriesFrom baseOffset (sortedObjects objects)) ++
          trailerText env layout.2 layout.1.startxref) ∧
      layout.1.startxref = baseOffset + ((sortedObjects objects).flatMap objectText).length ∧
      layout.2.lookup "/Prev" = some (.integer none (toLongLong previousStartxref)) := by
  subst hlayout
  have hnodup : ((sortedObjects objects).map fun o => o.object.obj).Nodup :=
    ((perm_insertionSort _ _).map _).nodup_iff.mpr h
  have hbytes := bytes_foldl_assembleObject baseOffset signatureObject (sortedObjects objects)
    { maxObjectId := root.getObjGen.obj }
  have hoffsets := offsets_foldl_assembleObject baseOffset signatureObject (sortedObjects objects)
    { maxObjectId := root.getObjGen.obj } hnodup
  rw [nil_append] at hbytes hoffsets
  rw [sortedObjects] at *
  rw [assembleRevision]
  refine ⟨?_, ?_, ?_⟩
  · rw [hbytes, hoffsets, append_assoc]
    rfl
  · rw [hbytes]
  · rw [identifiedTrailer, PdfMap.lookup_set_ne (by decide), revisedTrailer,
      PdfMap.lookup_set_self]

/-- One revision on top of a file. -/
structure Tiled (st st' : BuilderState) (objects : List IncrementalObject) : Prop where
  pdf : st'.pdf = st.pdf ++ (objects.flatMap objectText ++
    (xrefTable (entriesFrom st.pdf.length objects) ++
      trailerText env st'.trailer st'.previousStartxref))
  startxref : st'.previousStartxref = st.pdf.length + (objects.flatMap objectText).length
  distinct : (objects.map fun o => o.object.obj).Nodup
  prev : st'.trailer.lookup "/Prev" = some (.integer none (toLongLong st.previousStartxref))

section Steps

variable {env : BuilderEnv} {params : PadesParameters} {st st' : BuilderState} {root : Handle}

theorem signed_tiled {kind : SigKind} {signatureObject : ObjGen} {extra : Bytes}
    {others : List IncrementalObject} {message : String} {o : OpenRevision} {der : Bytes}
    {mid : BuilderState} (hdistinct : Distinct (⟨signatureObject, sigDictBody kind extra⟩ :: others))
    (hopen : openRevision env st (⟨signatureObject, sigDictBody kind extra⟩ :: others) root
      signatureObject message = .ok o) (hclose : closeRevision kind o der mid = .ok st') :
    ∃ objects, Tiled env st st' objects ∧
      objects.Perm (⟨signatureObject, filledDict kind extra o.range der⟩ :: others) := by
  obtain ⟨left, right, -, hpdf, -, hlt, hgt, ⟨hfield, front, back, rest, hsplit, hbytes, hfilled⟩,
    hlayout⟩ := openRevision_spec hdistinct hopen
  obtain ⟨hfits, hpdf', -, -, htrailer, hstartxref⟩ := closeRevision_spec hpdf hlt hgt hclose
  obtain ⟨htext, hplace, hprev⟩ := assembleRevision_eq env _ _ root signatureObject _ hdistinct
    hlayout
  set signature : IncrementalObject := ⟨signatureObject, sigDictBody kind extra⟩
  have hlength := length_filledDict kind extra hfield hfits
  have hrest := append_cancel_left (hbytes.symm.trans htext)
  have hperm : (front ++ signature :: back).Perm (signature :: others) :=
    hsplit ▸ perm_insertionSort _ _
  have hback := List.Perm.cons_inv (perm_middle.symm.trans hperm)
  refine ⟨front ++ ⟨signatureObject, filledDict kind extra o.range der⟩ :: back,
    ⟨?_, ?_, ?_, ?_⟩, perm_middle.trans (hback.cons _)⟩
  · rw [hpdf', hfilled, hrest, hsplit, htrailer, hstartxref,
      entriesFrom_replace _ front back signatureObject hlength]
  · rw [hstartxref, hplace, hsplit]
    simp only [flatMap_append, flatMap_cons, length_append, objectText,
      signature, hlength]
  · have hnumbers := (hperm.map fun o : IncrementalObject => o.object.obj).nodup_iff.mpr hdistinct
    rw [map_append, map_cons] at hnumbers ⊢
    exact hnumbers
  · rw [htrailer]
    exact hprev

theorem mainRevision_tiled {p : Prepared} (hcounted : p.document.root.getObjGen.obj ≤ st.objectCount)
    (h : mainRevision env params p st = .ok st') : ∃ objects, Tiled env st st' objects := by
  simp only [mainRevision, bind_eq_ok, Prod.exists] at h
  obtain ⟨signature, st₁, h₁, widget, st₂, h₂, form, st₃, h₃, pdfDate, -, o, hopen, cms, -,
    cms', st₄, -, hclose⟩ := h
  obtain ⟨-, rfl, rfl, rfl, rfl⟩ := newIndirect_three h₁ h₂ h₃
  obtain ⟨objects, htiled, -⟩ := signed_tiled (distinct_signedObjects hcounted _ _ _ _ _ _) hopen
    hclose
  exact ⟨objects, htiled.pdf, htiled.startxref, htiled.distinct, htiled.prev⟩

theorem timestampRevision_tiled {p : Prepared} {changed : Bool}
    (hcounted : p.document.root.getObjGen.obj ≤ st.objectCount)
    (h : timestampRevision env params p st = .ok (st', changed)) :
    ∃ objects form, Tiled env st st' objects ∧ (⟨p.document.root.getObjGen,
      catalogBody env p.document.root.getDictAsMap form st.dssRef⟩ : IncrementalObject) ∈
        objects := by
  simp only [timestampRevision, bind_eq_ok, Prod.exists] at h
  obtain ⟨signature, st₁, h₁, widget, st₂, h₂, form, st₃, h₃, pdfDate, -, o, hopen, token, st₄,
    hrequest, st₅, hclose, hevidence⟩ := h
  obtain ⟨-, rfl, rfl, rfl, rfl⟩ := newIndirect_three h₁ h₂ h₃
  obtain ⟨objects, htiled, hperm⟩ := signed_tiled (distinct_signedObjects hcounted _ _ _ _ _ _)
    hopen hclose
  have hframe : st'.pdf = st₅.pdf ∧ st'.trailer = st₅.trailer ∧
      st'.previousStartxref = st₅.previousStartxref := by
    rcases collectEvidence_spec hevidence with ⟨-, rfl, -⟩ | ⟨provider, actual, -, -, rfl, -⟩ <;>
      exact ⟨rfl, rfl, rfl⟩
  refine ⟨objects, .null (some ⟨st.objectCount + 1 + 1 + 1, 0⟩), ⟨?_, ?_, htiled.distinct, ?_⟩,
    hperm.mem_iff.mpr ?_⟩
  · rw [hframe.1, hframe.2.1, hframe.2.2]
    exact htiled.pdf
  · rw [hframe.2.2]
    exact htiled.startxref
  · rw [hframe.2.1]
    exact htiled.prev
  · exact mem_cons_of_mem _ (mem_cons_of_mem _ (mem_cons_of_mem _ mem_cons_self))

/-! ### Evidence -/

theorem numbers_streamsFrom (blobs : List Bytes) : ∀ n : Nat,
    ((streamsFrom n blobs).map fun o => o.object.obj) = List.range' (n + 1) blobs.length := by
  induction blobs with
  | nil => exact fun n => rfl
  | cons blob rest ih => exact fun n => congrArg ((n + 1) :: ·) (ih (n + 1))

def originalDss (root : Handle) : PdfMap :=
  if root.hasKey "/DSS" then (root.getKey "/DSS").getDictAsMap else []

/-- The streams of evidence, in the order of the three arrays. -/
def evidenceStreams (n : Nat) (evidence : PadesValidationEvidence) :
    List IncrementalObject × List IncrementalObject × List IncrementalObject :=
  let certs := written evidence.certificateChain
  let crls := written evidence.crls
  (streamsFrom n certs, streamsFrom (n + certs.length) crls,
    streamsFrom (n + certs.length + crls.length) (written evidence.ocspResponses))

def evidenceDss (root : Handle) (n : Nat) (evidence : PadesValidationEvidence) : PdfMap :=
  let streams := evidenceStreams n evidence
  withArray root "/OCSPs" (withArray root "/CRLs" (withArray root "/Certs"
    ((originalDss root).set "/Type" (.name none "/DSS")) streams.1) streams.2.1) streams.2.2

theorem distinct_numbers {n r : Nat} (a b c : Nat) (h : r ≤ n) :
    (List.range' (n + 1) a ++ List.range' (n + a + 1) b ++ List.range' (n + a + b + 1) c ++
      [n + a + b + c + 1, r]).Nodup := by
  have hb : n + a + 1 = n + 1 + a := by omega
  have hc : n + a + b + 1 = n + 1 + (a + b) := by omega
  rw [hb, hc, range'_append_1, range'_append_1, nodup_append]
  refine ⟨nodup_range', ?_, ?_⟩
  · rw [nodup_cons, mem_singleton]
    exact ⟨by omega, pairwise_singleton _ _⟩
  · intro x hx y hy
    rw [mem_range'_1] at hx
    simp only [mem_cons, not_mem_nil, or_false] at hy
    omega

theorem appendDssRevision_tiled (hcounted : root.getObjGen.obj ≤ st.objectCount)
    (h : appendDssRevision env root st = .ok st') :
    ∃ objects, Tiled env st st' objects ∧
      (∀ o, (o ∈ (evidenceStreams st.objectCount st.evidence).1 ∨
        o ∈ (evidenceStreams st.objectCount st.evidence).2.1 ∨
        o ∈ (evidenceStreams st.objectCount st.evidence).2.2) → o ∈ objects) ∧
      ⟨st'.dssRef.getObjGen, env.unparse
        (.dictionary none (evidenceDss root st.objectCount st.evidence))⟩ ∈ objects ∧
      st' = { st with
        pdf := st'.pdf
        trailer := st'.trailer
        previousStartxref := st'.previousStartxref
        objectCount := st'.objectCount
        dssRef := st'.dssRef } ∧ st'.dssRef.isIndirect = true := by
  simp only [appendDssRevision, bind_eq_ok, Prod.exists, Except.ok.injEq] at h
  obtain ⟨-, -, dss₁, certs, st₁, h₁, dss₂, crls, st₂, h₂, dss₃, ocsps, st₃, h₃, dssRef, st₄, h₄,
    hst⟩ := h
  obtain ⟨rfl, rfl, rfl⟩ := dssArray_eq_ok h₁
  obtain ⟨rfl, rfl, rfl⟩ := dssArray_eq_ok h₂
  obtain ⟨rfl, rfl, rfl⟩ := dssArray_eq_ok h₃
  obtain ⟨rfl, rfl⟩ := newIndirect_eq_ok h₄
  dsimp only at hst
  set objects := streamsFrom st.objectCount (written st.evidence.certificateChain) ++ _ ++ _ ++ _
    with hobjects
  have hdistinct : (objects.map fun o => o.object.obj).Nodup := by
    rw [hobjects]
    simp only [map_append, numbers_streamsFrom, map_cons, map_nil]
    exact distinct_numbers _ _ _ hcounted
  obtain ⟨hbytes, hplace, hprev⟩ := assembleRevision_eq env st.pdf.length st.previousStartxref root
    {} st.trailer hdistinct rfl
  have hmem : ∀ o, o ∈ sortedObjects objects ↔ o ∈ objects := fun o =>
    (perm_insertionSort _ _).mem_iff
  subst hst
  refine ⟨sortedObjects objects, ⟨congrArg (st.pdf ++ ·) hbytes, hplace, ?_, hprev⟩,
    fun o ho => (hmem o).mpr ?_, (hmem _).mpr ?_, rfl, rfl⟩
  · exact ((perm_insertionSort _ _).map _).nodup_iff.mpr hdistinct
  · rw [hobjects, mem_append, mem_append, mem_append]
    rcases ho with ho | ho | ho
    · exact Or.inl (Or.inl (Or.inl ho))
    · exact Or.inl (Or.inl (Or.inr ho))
    · exact Or.inl (Or.inr ho)
  · exact mem_append_right _ mem_cons_self

end Steps

/-! ### Soundness -/

/-- A revision from the file of `st` to that of `st'` with a sound cross-reference section: it
stands where `startxref` says, lists the objects of the revision once each, at an entry's offset
stands the object of its number, in ten digits below 10 ^ 10 bytes, and `/Prev` is `previous`. -/
structure XrefSound (previous : Int) (st st' : BuilderState)
    (objects : List IncrementalObject) (subsections : XrefSection) : Prop where
  pdf : st'.pdf = st.pdf ++ (objects.flatMap objectText ++
    (subsections.text ++ trailerText env st'.trailer st'.previousStartxref))
  startxref : subsections.text <+: st'.pdf.drop st'.previousStartxref
  listed : subsections.listed.map Prod.fst = objects.map fun o => o.object.obj
  once : (objects.map fun o => o.object.obj).Nodup
  offsets : ∀ e ∈ subsections.listed, ∃ o ∈ objects, o.object = ⟨e.1, e.2.generation⟩ ∧
    objectText o <+: st'.pdf.drop e.2.offset
  width : st'.pdf.length < 10 ^ 10 → ∀ e ∈ subsections.listed,
    (textBytes (zeroPadded 10 e.2.offset)).length = 10
  prev : st'.trailer.lookup "/Prev" = some (.integer none previous)

/-- A step of the run that appends a sound revision, after the one before it. -/
def SoundStep (st st' : BuilderState) : Prop :=
  ∃ objects subsections, XrefSound env (toLongLong st.previousStartxref) st st' objects subsections

theorem length_zeroPadded {width n : Nat} (hwidth : 0 < width) (h : n < 10 ^ width) :
    (textBytes (zeroPadded width n)).length = width := by
  have hdigits : (Nat.toDigits 10 n).length ≤ width :=
    (Nat.length_toDigits_le_iff (by decide) hwidth).mpr h
  rw [textBytes, length_map, String.length_toList, zeroPadded, String.length_ofList,
    length_append, length_replicate]
  omega

theorem Tiled.sound {env : BuilderEnv} {st st' : BuilderState} {objects : List IncrementalObject}
    (h : Tiled env st st' objects) : SoundStep env st st' := by
  obtain ⟨htable, hlisted⟩ := xrefTable_eq (entriesFrom st.pdf.length objects)
  set subsections : XrefSection := (xrefRuns (entriesFrom st.pdf.length objects)).map subsectionOf
  have hpdf := h.pdf
  rw [htable] at hpdf
  have hplaced : ∀ e ∈ subsections.listed, ∃ o ∈ objects, o.object = ⟨e.1, e.2.generation⟩ ∧
      objectText o <+: st'.pdf.drop e.2.offset := by
    intro e he
    rw [hlisted, entriesFrom, mem_map] at he
    obtain ⟨⟨k, o⟩, hplace, rfl⟩ := he
    refine ⟨o, ?_, rfl, ?_⟩
    · rw [← map_snd_placesFrom objectText objects st.pdf.length]
      exact mem_map_of_mem hplace
    · rw [hpdf]
      exact prefix_of_mem_placesFrom objectText objects st.pdf hplace
  refine ⟨objects, subsections, hpdf, ?_, ?_, h.distinct, hplaced, fun hsize e he => ?_, h.prev⟩
  · rw [hpdf, h.startxref, ← length_append, ← append_assoc, drop_left]
    exact prefix_append _ _
  · rw [hlisted, map_fst_entriesFrom]
  · -- the entry points into the file, since something stands there
    obtain ⟨o, -, -, hprefix⟩ := hplaced e he
    have hpos : 0 < (objectText o).length := by
      rw [objectText, length_append, length_append]
      exact Nat.add_pos_right _ (Nat.add_pos_right _ (by decide))
    have hle := hprefix.length_le
    rw [length_drop] at hle
    exact length_zeroPadded (by decide) (by omega)

section Run

variable {env : BuilderEnv} {params : PadesParameters} {p : Prepared}

theorem timestampLoop_sound {content : Bytes} {left : Nat} {st st' : BuilderState}
    (h : Sealing env params content p.document.root st)
    (hrun : timestampLoop env params p left st = .ok st') :
    Relation.ReflTransGen (SoundStep env) st st' := by
  refine timestampLoop_induction (P := fun _ st st' => Sealing env params content p.document.root st →
    Relation.ReflTransGen (SoundStep env) st st') (fun _ st st' hstep h => ?_)
    (fun _ st st₁ st₂ st' hstep hdss ih h => ?_) hrun h
  · obtain ⟨objects, -, htiled, -⟩ := timestampRevision_tiled h.counted hstep
    exact Relation.ReflTransGen.single htiled.sound
  · obtain ⟨objects, -, htiled, -⟩ := timestampRevision_tiled h.counted hstep
    have h₁ := (timestampRevision_sealing h hstep).1
    obtain ⟨objects₂, htiled₂, -⟩ := appendDssRevision_tiled h₁.counted hdss
    exact ((Relation.ReflTransGen.single htiled.sound).tail htiled₂.sound).trans
      (ih (h₁.append (appendDssRevision_appends hdss)))

end Run

/-- A successful run: the main signature with the given `/Prev`, and then one sound
revision after the other up to the output. -/
def SoundRun (params : PadesParameters) (content : Bytes) (previous : Nat)
    (st : BuilderState) : Prop :=
  ∃ p st₁, prepare env params content = .ok p ∧
    mainRevision env params p (initialState params content p) = .ok st₁ ∧
    (∃ objects subsections, XrefSound env previous (initialState params content p) st₁ objects
      subsections) ∧
    Relation.ReflTransGen (SoundStep env) st₁ st

def statedNumber (rest : Bytes) : Nat :=
  ((rest.dropWhile isSpaceByte).takeWhile isDigitByte).foldl
    (fun n b => n * 10 + (b.toNat - 48)) 0

def StatesSection (pdf : Bytes) (place : Nat) : Prop :=
  ∃ before rest, pdf = before ++ textBytes "startxref" ++ rest ∧
    (∀ before' rest', pdf = before' ++ textBytes "startxref" ++ rest' →
      before'.length ≤ before.length) ∧
    statedNumber rest = place

theorem parseUint64_eq {bytes : Bytes} : ∀ {parsed value : Nat},
    parseUint64 bytes parsed = some value →
      (bytes.takeWhile isDigitByte).foldl (fun n b => n * 10 + (b.toNat - 48)) parsed = value := by
  induction bytes with
  | nil => exact fun h => Option.some.inj h
  | cons b rest ih =>
    intro parsed value h
    rw [parseUint64] at h
    by_cases hdigit : isDigitByte b = true
    · rw [if_pos hdigit] at h
      dsimp only at h
      split at h
      · cases h
      · rw [takeWhile_cons_of_pos hdigit]
        exact ih h
    · rw [if_neg hdigit] at h
      rw [takeWhile_cons_of_neg hdigit]
      exact Option.some.inj h

theorem parseUint64_lt {bytes : Bytes} : ∀ {parsed value : Nat}, parsed < 2 ^ 64 →
    parseUint64 bytes parsed = some value → value < 2 ^ 64 := by
  induction bytes with
  | nil => exact fun hlt h => Option.some.inj h ▸ hlt
  | cons b rest ih =>
    intro parsed value hlt h
    rw [parseUint64] at h
    dsimp only at h
    split at h
    · split at h
      · cases h
      · have hbyte := b.toNat_lt
        exact ih (by omega) h
    · exact Option.some.inj h ▸ hlt

theorem parseLastStartXref_lt {pdf : Bytes} {value : Nat} (h : parseLastStartXref pdf = some value) :
    value < 2 ^ 64 := by
  simp only [parseLastStartXref, Option.bind_eq_bind, Option.bind_eq_some_iff] at h
  obtain ⟨_, -, hvalue⟩ := h
  split at hvalue
  · exact parseUint64_lt (by decide) hvalue
  · cases hvalue

theorem toLongLong_eq_iff {n place : Nat} (h : n < 2 ^ 64) :
    toLongLong n = place ↔ n = place ∧ place < 2 ^ 63 := by
  rw [toLongLong]
  split <;> omega

theorem parseLastStartXref_states {pdf : Bytes} {value : Nat}
    (h : parseLastStartXref pdf = some value) (place : Nat) :
    StatesSection pdf place ↔ place = value := by
  simp only [parseLastStartXref, Option.bind_eq_bind, Option.bind_eq_some_iff] at h
  obtain ⟨marker, hmarker, hvalue⟩ := h
  split at hvalue
  swap
  · cases hvalue
  have hnumber := parseUint64_eq hvalue
  obtain ⟨⟨pre, post, hpdf, rfl⟩, hlast⟩ := findLast_spec hmarker
  have hnine : (textBytes "startxref").length = 9 := by decide
  have hdrop : ∀ {before rest : Bytes}, pdf = before ++ textBytes "startxref" ++ rest →
      pdf.drop (before.length + 9) = rest := by
    intro before rest heq
    rw [heq, ← hnine, ← length_append, drop_left]
  rw [hdrop hpdf] at hnumber
  constructor
  · rintro ⟨before, rest, hbefore, hmax, rfl⟩
    have hsame : before.length = pre.length :=
      Nat.le_antisymm (hlast _ _ hbefore) (hmax _ _ hpdf)
    rw [← hnumber, statedNumber, ← hdrop hbefore, hsame, hdrop hpdf]
  · rintro rfl
    exact ⟨pre, post, hpdf, hlast, hnumber⟩

theorem prepare_startxref {env : BuilderEnv} {params : PadesParameters} {content : Bytes}
    {p : Prepared} (h : prepare env params content = .ok p) :
    parseLastStartXref content = some p.startxref := by
  simp only [prepare, bind_eq_ok, orError_eq_ok, Prod.exists, Except.ok.injEq] at h
  obtain ⟨-, -, -, -, _, -, -, -, -, -, _, -, startxref, hparse, _, _, -, rfl⟩ := h
  exact hparse

/-- The tables are always sound, so only `/Prev` of the first revision is in question. -/
theorem soundRun_iff_startxref {env : BuilderEnv} {params : PadesParameters} {content : Bytes}
    (place : Nat) {st : BuilderState} (h : signPdf env params content = .ok st) :
    SoundRun env params content place st ↔ parseLastStartXref content = some place ∧ place < 2 ^ 63 := by
  simp only [signPdf, bind_eq_ok] at h
  obtain ⟨p, hprepare, st₁, hmain, st₂, hevidence, hlta⟩ := h
  obtain ⟨objects, htiled⟩ := mainRevision_tiled (show _ ≤
    (initialState params content p).objectCount from p.document.root_counted) hmain
  have hsealing := (mainRevision_sealing (initialState_sealing params content p) hmain).1
  have hstartxref := prepare_startxref hprepare
  rw [hstartxref, Option.some.injEq, ← toLongLong_eq_iff (parseLastStartXref_lt hstartxref)]
  constructor
  · rintro ⟨p', st₁', hprepare', hmain', ⟨objects', subsections, hsound⟩, -⟩
    obtain rfl := Except.ok.inj (hprepare.symm.trans hprepare')
    obtain rfl := Except.ok.inj (hmain.symm.trans hmain')
    have hprev := htiled.prev.symm.trans hsound.prev
    simp only [Option.some.injEq, Handle.integer.injEq, true_and] at hprev
    exact hprev
  · intro hplace
    refine ⟨p, st₁, hprepare, hmain, hplace ▸ htiled.sound, ?_⟩
    have hdss : Sealing env params content p.document.root st₂ ∧
        Relation.ReflTransGen (SoundStep env) st₁ st₂ := by
      rw [evidenceRevision] at hevidence
      split at hevidence
      · obtain ⟨objects₂, htiled₂, -⟩ := appendDssRevision_tiled hsealing.counted hevidence
        exact ⟨hsealing.append (appendDssRevision_appends hevidence),
          Relation.ReflTransGen.single htiled₂.sound⟩
      · obtain rfl := Except.ok.inj hevidence
        exact ⟨hsealing, Relation.ReflTransGen.refl⟩
    split at hlta
    · exact hdss.2.trans (timestampLoop_sound hdss.1 hlta)
    · obtain rfl := Except.ok.inj hlta
      exact hdss.2

/-- **The cross-reference sections of a signed file.**  Every revision of the output has a sound
section, whose `/Prev` is the section of the revision before it; for the first one it is the last
section of the input exactly when the last `startxref` of the input states its place, and this is
a `long long`. -/
theorem signPdf_xref_iff (params : PadesParameters) (content : Bytes)
    (place : Nat) (st : BuilderState) (h : signPdf env params content = .ok st) :
    SoundRun env params content place st ↔ StatesSection content place ∧ place < 2 ^ 63 := by
  rw [soundRun_iff_startxref place h]
  have hread : ∃ value, parseLastStartXref content = some value := by
    simp only [signPdf, bind_eq_ok] at h
    obtain ⟨p, hprepare, -⟩ := h
    exact ⟨_, prepare_startxref hprepare⟩
  obtain ⟨value, hvalue⟩ := hread
  rw [parseLastStartXref_states hvalue, hvalue, Option.some.injEq, eq_comm]

/-- A file with the catalog as its object 1 and a table, which its `startxref 29` finds
from the beginning of the header on. -/
def headedPdf : Bytes :=
  textBytes ("%PDF-1.4\n1 0 obj\n<<>>\nendobj\nxref\n0 2\n0000000000 65535 f \n" ++
    "0000000009 00000 n \ntrailer\n<</Size 2/Root 1 0 R>>\nstartxref\n29\n%%EOF\n")

theorem headed_prepare {content : Bytes} (h : content = headedPdf ∨ content = 10 :: headedPdf) :
    prepare (plainBuilder plainDocument) {} content = .ok (plainPrepared plainDocument 29) := by
  simp only [prepare, bind_eq_ok, require_eq_ok, orError_eq_ok]
  refine ⟨(), fun h => absurd rfl h, (), ?_, plainDocument, rfl, (), rfl, (), ⟨rfl, rfl⟩,
    [], rfl, 29, ?_, ([], []), rfl, rfl⟩
  all_goals rcases h with h | h <;> rw [h] <;> decide +kernel

/-- With the header at its beginning the file states the place of its section. -/
theorem signPdf_xref_headed : ∃ st, signPdf (plainBuilder plainDocument) {} headedPdf = .ok st ∧
    textBytes "xref\n" <+: headedPdf.drop 29 ∧
    SoundRun (plainBuilder plainDocument) {} headedPdf 29 st := by
  obtain ⟨st, hst⟩ := plain_signed (by decide +kernel) (headed_prepare (Or.inl rfl))
  refine ⟨st, hst, by decide +kernel, ?_⟩
  have hread : parseLastStartXref headedPdf = some 29 := by decide +kernel
  exact (signPdf_xref_iff _ {} headedPdf 29 st hst).mpr
    ⟨(parseLastStartXref_states hread 29).mpr rfl, by decide⟩

/-- A line break before the header: the section stands one byte further on than
`/Prev` says. -/
theorem prev_before_section : ∃ st,
    signPdf (plainBuilder plainDocument) {} (10 :: headedPdf) = .ok st ∧
    textBytes "xref\n" <+: (10 :: headedPdf).drop 30 ∧
    ¬ textBytes "xref" <+: (10 :: headedPdf).drop 29 ∧
    ¬ SoundRun (plainBuilder plainDocument) {} (10 :: headedPdf) 30 st := by
  obtain ⟨st, hst⟩ := @plain_signed (10 :: headedPdf) _ (by decide +kernel)
    (headed_prepare (Or.inr rfl))
  refine ⟨st, hst, by decide +kernel, by decide +kernel, ?_⟩
  rw [soundRun_iff_startxref 30 hst]
  decide +kernel

end Tamga.Pades
