/-
What the references of a signature say about the elements of a document.

A reference with at most one C14N transform selects its elements by an XPath expression, any
other one serialises a single element and reads it again.  The Id is looked for in two ways, too.

* `mem_digestedElements_iff` — a verified reference digests an element exactly if its URI is
  empty and the element the root, or if it names the Id of the element;
* `referenceOctets_signedContent` — what is digested, for every same-document reference whose
  transforms keep to node sets;
* `sameSignedContent` — a reference that is verified in two documents stands for the same
  content in both.
-/
import Tamga.XmlSignature

namespace Tamga.XmlDsig

open OrderedTree Util Xml List

variable (lib : LibXml2) (doc : XmlDocument) (ref : XmlReference)

/-! ### The elements of a reference -/

/-- The elements whose canonical form is digested for a same-document reference.
A reference with at most one C14N transform selects its elements by XPath, any
other one by `FindElementById`. -/
def digestedElements : List XmlNode :=
  match idFragment ref.uri, isCanonicalizationOnlyTransform ref.transforms with
  | some id, true => doc.elements.filter (matching (hasXPathId id))
  | _, _ => (referenceTarget doc ref).toList

/-- The reference names the element: its URI is `#id` for an Id of the element, as
the search it goes by reads Ids, or it is `#` and the element is the first one
with an empty Id. -/
def ReferenceNames (e : XmlNode) : Prop :=
  (∃ id, idFragment ref.uri = some id ∧
      if isCanonicalizationOnlyTransform ref.transforms then hasXPathId id e.label = true
      else hasIdAttr id e.label = true) ∨
    (ref.uri = "#" ∧ findElementById doc.root "" = some e)

/-- The markup of the elements is digested, not only their text: every transform is
enveloped-signature or C14N.  A base64 transform keeps the text alone. -/
def DigestsMarkup : Prop := ∀ uri ∈ ref.transforms, isNodeSetTransform uri = true

/-- The element `e` below `holder` is not removed with a signature. -/
def KeptBelow (holder e : XmlNode) : Prop :=
  e ∈ holder.preorder ∧
    (envelopedTransform ∈ ref.transforms →
      ∀ s ∈ holder.preorder, isDsigElementNamed "Signature" s.label = true → e ∉ s.preorder)

/-- The element `e` is under the digest of the reference. -/
def ReferenceCovers (e : XmlNode) : Prop :=
  DigestsMarkup ref ∧ ∃ holder ∈ digestedElements doc ref, KeptBelow ref holder e

variable {lib doc ref} {env : XmlEnv} {external : List (String × Bytes)}

theorem count_of_verified {certDer : Der} {id : String}
    (h : ReferenceVerified env doc external certDer ref) (hid : idFragment ref.uri = some id) :
    countElementsById doc.root id = 1 := by
  obtain ⟨octets, hoctets, -⟩ := h
  exact ((referenceOctets_fragment hid).mp hoctets).1

theorem uri_eq_hash {uri : String} (hhash : startsWithText uri "#" = true)
    (hxpointer : ¬startsWithText (dropText uri 1) "xpointer" = true)
    (hnone : idFragment uri = none) : uri = "#" := by
  rw [idFragment] at hnone
  by_cases hlen : uri.length < 2
  · obtain ⟨rest, hrest⟩ : ∃ rest, uri.toList = '#' :: rest := by
      rw [startsWithText, isPrefixOf_iff_prefix] at hhash
      obtain ⟨rest, hrest⟩ := hhash
      exact ⟨rest, hrest.symm⟩
    rw [← String.length_toList, hrest, length_cons] at hlen
    have hnil : rest = [] := length_eq_zero_iff.mp (by omega)
    rw [hnil] at hrest
    exact String.toList_injective hrest
  · rw [if_neg (by simp [hlen, hhash]), if_neg hxpointer] at hnone
    cases hnone

theorem referenceTarget_fragment {id : String} (hid : idFragment ref.uri = some id) :
    referenceTarget doc ref = findElementById doc.root id := by
  obtain ⟨hlen, hhash, hpointer, rfl⟩ := idFragment_eq_some hid
  rw [referenceTarget, if_neg, if_pos ⟨hhash, hpointer⟩]
  rintro hempty
  rw [hempty] at hlen
  exact absurd hlen (by decide)

theorem digestedElements_xpath {id : String} (hid : idFragment ref.uri = some id)
    (hc14n : isCanonicalizationOnlyTransform ref.transforms = true) :
    digestedElements doc ref = doc.elements.filter (matching (hasXPathId id)) := by
  rw [digestedElements, hid, hc14n]

theorem digestedElements_target (h : (idFragment ref.uri).isSome = true →
    isCanonicalizationOnlyTransform ref.transforms = false) :
    digestedElements doc ref = (referenceTarget doc ref).toList := by
  rw [digestedElements]
  cases hid : idFragment ref.uri with
  | none => rfl
  | some id => rw [h (by rw [hid]; rfl)]

theorem mem_elements_of_digested {e : XmlNode} (h : e ∈ digestedElements doc ref) :
    e ∈ doc.elements := by
  rw [digestedElements] at h
  split at h
  · exact (mem_filter.mp h).1
  · rw [Option.mem_toList, referenceTarget] at h
    rw [← preorder_root]
    split at h
    · rw [XmlSiblings.preorder, preorderForest_eq_flatMap]
      exact mem_flatMap.mpr ⟨e, mem_of_head? h, mem_cons_self⟩
    · split at h
      · exact (findFirstElementBy_mem h).1
      · cases h

/-- **The elements of a verified reference**: the root element, or those that it names. -/
theorem mem_digestedElements_iff {certDer : Der} {e : XmlNode}
    (hverified : ReferenceVerified env doc external certDer ref) (he : e ∈ doc.root.preorder) :
    e ∈ digestedElements doc ref ↔
      (ref.uri = "" ∧ doc.rootNode = some e) ∨ ReferenceNames doc ref e := by
  rw [ReferenceNames]
  cases hid : idFragment ref.uri with
  | some id =>
    have hempty : ref.uri ≠ "" := by
      intro huri
      rw [huri, show idFragment "" = none by decide] at hid
      cases hid
    have hhash : ref.uri ≠ "#" := by
      intro huri
      rw [huri, show idFragment "#" = none by decide] at hid
      cases hid
    simp only [Option.some.injEq, exists_eq_left', hhash, hempty, false_and, or_false, false_or]
    cases hc14n : isCanonicalizationOnlyTransform ref.transforms with
    | true =>
      rw [digestedElements_xpath hid hc14n, if_pos rfl, mem_filter, ← preorder_root]
      exact and_iff_right he
    | false =>
      rw [digestedElements_target fun _ => hc14n, referenceTarget_fragment hid, Option.mem_toList,
        if_neg Bool.false_ne_true]
      refine ⟨fun hfind => (findFirstElementBy_mem hfind).2, fun hattr => ?_⟩
      -- the search finds something, and only `e` carries the Id
      cases hfind : findElementById doc.root id with
      | none =>
        rw [findElementById, findFirstElementBy_eq_find, List.find?_eq_none] at hfind
        exact absurd hattr (hfind e he)
      | some e' =>
        obtain ⟨hmem, hattr'⟩ := findFirstElementBy_mem hfind
        rw [unique_of_countElementsBy (count_of_verified hverified hid) hmem hattr' he hattr]
  | none =>
    rw [digestedElements_target (by rw [hid]; nofun), Option.mem_toList, referenceTarget]
    simp only [reduceCtorEq, false_and, exists_false, false_or]
    by_cases hempty : ref.uri = ""
    · simp [hempty]
    · simp only [hempty, if_false, false_and, false_or]
      constructor
      · intro htarget
        split at htarget
        · next hfragment =>
          have huri := uri_eq_hash hfragment.1 hfragment.2 hid
          rw [huri] at htarget
          exact ⟨huri, htarget⟩
        · cases htarget
      · rintro ⟨huri, hfind⟩
        rw [huri]
        exact hfind

/-! ### The content of a reference -/

variable (lib doc ref) in
/-- The canonical content that a same-document reference digests: that of the selected subtrees, or
of the one element that is serialised, read again and freed of its signatures. -/
def SignedContent (content : String) : Prop :=
  match idFragment ref.uri, isCanonicalizationOnlyTransform ref.transforms with
  | some _, true =>
    lib.c14nSubtrees doc (digestedElements doc ref) (finalMode ref.transforms).1
      (finalMode ref.transforms).2 = some content
  | _, _ => ∃ target, digestedElements doc ref = [target] ∧
    match parseHardened lib (lib.serializeNode doc target) with
    -- what cannot be read again is digested as it is, if there is no transform
    | .error _ => ref.transforms = [] ∧ content = lib.serializeNode doc target
    | .ok body =>
      lib.c14nDocument (removeSignatures^[ref.transforms.count envelopedTransform] body)
        (finalMode ref.transforms).1 (finalMode ref.transforms).2 = some content

theorem finalMode_canonicalizationOnly {transforms : List String}
    (h : isCanonicalizationOnlyTransform transforms = true) :
    finalMode transforms = c14nModeOrDefault (transforms.headD "") := by
  match transforms, h with
  | [], _ => rfl
  | [t], h =>
    obtain ⟨mode, hmode⟩ := Option.isSome_iff_exists.mp h
    rw [finalMode, List.findSome?_cons, headD_cons, c14nModeOrDefault, hmode]

theorem resolveSameDocument_ok {text : String} (h : resolveSameDocument lib doc ref = .ok text) :
    ∃ target, referenceTarget doc ref = some target ∧ text = lib.serializeNode doc target := by
  rw [resolveSameDocument] at h
  rw [referenceTarget]
  cases hroot : doc.rootNode with
  | none => simp [hroot] at h
  | some root =>
    simp only [hroot] at h
    split at h
    · next huri => exact ⟨root, if_pos huri, (Except.ok.inj h).symm⟩
    · next huri =>
      rw [if_neg huri]
      split at h
      · next hhash =>
        split at h
        · cases h
        · next hpointer =>
          rw [if_pos ⟨hhash, hpointer⟩]
          split at h
          · cases h
          · next target hfind => exact ⟨target, hfind, (Except.ok.inj h).symm⟩
      · cases h

/-- **What is digested** for a same-document reference that keeps the markup. -/
theorem referenceOctets_signedContent {octets : String} (huri : isExternalUri ref.uri = false)
    (hmarkup : DigestsMarkup ref) (h : referenceOctets lib doc external ref = .ok octets) :
    SignedContent lib doc ref octets := by
  -- the way through the serialised text
  have hthrough : ((idFragment ref.uri).isSome = true →
      isCanonicalizationOnlyTransform ref.transforms = false) →
      resolveAndTransform lib doc external ref = .ok octets →
      ∃ target, digestedElements doc ref = [target] ∧
        match parseHardened lib (lib.serializeNode doc target) with
        | .error _ => ref.transforms = [] ∧ octets = lib.serializeNode doc target
        | .ok body =>
          lib.c14nDocument (removeSignatures^[ref.transforms.count envelopedTransform] body)
            (finalMode ref.transforms).1 (finalMode ref.transforms).2 = some octets := by
    intro hway hout
    obtain ⟨text, hresolve, happly⟩ := (resolveAndTransform_eq_ok huri).mp hout
    obtain ⟨target, htarget, rfl⟩ := resolveSameDocument_ok hresolve
    refine ⟨target, by rw [digestedElements_target hway, htarget]; rfl, ?_⟩
    cases hparse : parseHardened lib (lib.serializeNode doc target) with
    | ok body => exact applyTransforms_octets huri hmarkup hparse happly
    | error e =>
      rw [applyTransforms, if_neg (by simp [huri]), hparse] at happly
      dsimp only at happly ⊢
      split at happly
      · next hnone => exact ⟨hnone, (Except.ok.inj happly).symm⟩
      · cases happly
  rw [SignedContent]
  cases hid : idFragment ref.uri with
  | none =>
    rw [referenceOctets, hid] at h
    exact hthrough (by rw [hid]; exact fun h => absurd h Bool.false_ne_true) h
  | some id =>
    obtain ⟨-, hout⟩ := (referenceOctets_fragment hid).mp h
    cases hc14n : isCanonicalizationOnlyTransform ref.transforms with
    | true =>
      rw [if_pos hc14n, ← finalMode_canonicalizationOnly hc14n, canonicalizeSubtreeById_eq_ok] at hout
      dsimp only
      rw [digestedElements_xpath hid hc14n]
      exact hout.2
    | false =>
      rw [hc14n, if_neg Bool.false_ne_true] at hout
      exact hthrough (fun _ => hc14n) hout

variable (lib doc ref) in
/-- The reference stands for the same octets in two documents, and these are what the two
documents hold at its elements. -/
def SameSignedContent (doc' : XmlDocument) (external external' : List (String × Bytes)) : Prop :=
  ∃ octets octets', referenceOctets lib doc external ref = .ok octets ∧
    referenceOctets lib doc' external' ref = .ok octets' ∧ textBytes octets = textBytes octets' ∧
    (isExternalUri ref.uri = false → DigestsMarkup ref →
      SignedContent lib doc ref octets ∧ SignedContent lib doc' ref octets')

/-- **Digests protect content.**  With collision-free digests a reference that is verified in two
documents stands for the same content in both. -/
theorem sameSignedContent (hfree : env.crypto.CollisionFree) {doc' : XmlDocument}
    {external' : List (String × Bytes)} {certDer : Der}
    (h : ReferenceVerified env doc external certDer ref)
    (h' : ReferenceVerified env doc' external' certDer ref) :
    SameSignedContent env.lib doc ref doc' external external' := by
  obtain ⟨octets, octets', hoctets, hoctets', heq⟩ := octets_eq_of_verified hfree h h'
  exact ⟨octets, octets', hoctets, hoctets', heq, fun huri hmarkup =>
    ⟨referenceOctets_signedContent huri hmarkup hoctets,
      referenceOctets_signedContent huri hmarkup hoctets'⟩⟩

end Tamga.XmlDsig
