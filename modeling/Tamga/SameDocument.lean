/-
The element that a reference with a fragment `#id` is about.

A fragment that is only canonicalised is found by an XPath expression in the document itself, every
other one by `xmlGetProp`; a guard counts the elements with the Id before.

* `selectsOnly_iff` — which Ids the guard on Ids protects.
-/
import Tamga.XmlSignature

namespace Tamga.XmlDsig

open OrderedTree Xml List

variable (doc : XmlDocument)

/-- The elements that the XPath expression for an Id selects. -/
def xpathMatches (id : String) : List XmlNode :=
  doc.elements.filter (matching (hasXPathId id))

variable {doc} {ref : XmlReference} {lib : LibXml2} {id : String}

theorem exists_root_of_found {n : XmlNode} (h : findElementById doc.root id = some n) :
    ∃ root, doc.rootNode = some root := by
  cases hdrop : doc.nodes.drop doc.rootIndex with
  | nil =>
    have hnone : findElementById doc.root id = none := by
      rw [findElementById, findFirstElementBy, XmlDocument.root, hdrop]
      rfl
    rw [hnone] at h
    cases h
  | cons t ts =>
    have hlt : doc.rootIndex < doc.nodes.length := by
      by_contra hge
      rw [drop_eq_nil_of_le (by omega)] at hdrop
      cases hdrop
    have helement : isElementTree t = true := by
      have hget := findIdx_getElem (w := hlt)
      rw [drop_eq_getElem_cons hlt] at hdrop
      rw [← (List.cons.inj hdrop).1]
      exact hget
    cases t with
    | leaf b => cases helement
    | node e cs =>
      refine ⟨⟨[doc.rootIndex], e, cs⟩, ?_⟩
      rw [XmlDocument.rootNode, XmlDocument.root, hdrop]
      rfl

def serializedElement (doc : XmlDocument) (ref : XmlReference) : Option XmlNode :=
  match idFragment ref.uri with
  | none => doc.rootNode
  | some id => findElementById doc.root id

theorem not_external (huri : ref.uri = "" ∨ (idFragment ref.uri).isSome) :
    isExternalUri ref.uri = false := by
  rcases huri with hempty | hfragment
  · rw [hempty]
    decide
  · obtain ⟨id, hid⟩ := Option.isSome_iff_exists.mp hfragment
    obtain ⟨-, hhash, -, -⟩ := idFragment_eq_some hid
    simp [isExternalUri, hhash]

theorem fragment_ne_empty {uri id : String} (hid : idFragment uri = some id) :
    uri ≠ "" ∧ id ≠ "" := by
  obtain ⟨hlen, -, -, rfl⟩ := idFragment_eq_some hid
  refine ⟨fun hempty => absurd (hempty ▸ hlen) (by decide), fun hempty => ?_⟩
  have hzero := congrArg String.length hempty
  rw [Util.dropText, String.length_ofList, length_drop, String.length_toList] at hzero
  have : ("" : String).length = 0 := rfl
  omega

theorem resolveSameDocument_eq_ok {text : String}
    (huri : ref.uri = "" ∨ (idFragment ref.uri).isSome) :
    resolveSameDocument lib doc ref = .ok text ↔
      ∃ n, serializedElement doc ref = some n ∧ lib.serializeNode doc n = text := by
  rw [resolveSameDocument, serializedElement]
  cases hid : idFragment ref.uri with
  | none =>
    have hempty : ref.uri = "" := huri.resolve_right (by simp [hid])
    cases doc.rootNode <;> simp [hempty]
  | some id =>
    obtain ⟨-, hhash, hpointer, rfl⟩ := idFragment_eq_some hid
    obtain ⟨hne, -⟩ := fragment_ne_empty hid
    cases htarget : findElementById doc.root (Util.dropText ref.uri 1) with
    | none => cases doc.rootNode <;> simp [hne, hhash, hpointer, htarget]
    | some target =>
      obtain ⟨root, hroot⟩ := exists_root_of_found htarget
      simp [hroot, hne, hhash, hpointer, htarget]

/-! ### The element with an Id -/

/-- The value stands in an attribute `Id`, `ID` or `id`, in whatever namespace. -/
def carriesId (value : String) (e : XmlElement) : Bool :=
  e.attrs.any fun a => ["Id", "ID", "id"].contains a.name && a.value == value

/-- The element that a reference `#id` is about: the only one that carries the value, and the one
whose octets are digested whichever way they are computed. -/
structure SelectsOnly (doc : XmlDocument) (id : String) (n : XmlNode) : Prop where
  carries : doc.elements.filter (matching (carriesId id)) = [n]
  xpath : xpathMatches doc id = [n]
  found : findElementById doc.root id = some n
  octets : ∀ lib external ref octets, idFragment ref.uri = some id →
    referenceOctets lib doc external ref = .ok octets →
    if isCanonicalizationOnlyTransform ref.transforms then
      lib.c14nSubtrees doc [n] (c14nModeOrDefault (ref.transforms.headD "")).1
        (c14nModeOrDefault (ref.transforms.headD "")).2 = some octets
    else applyTransforms lib (lib.serializeNode doc n) ref = .ok octets

/-- An element that carries the value has it in the first attribute of one of the names, which
`xmlGetProp` reads, and in one without a namespace, which XPath reads. -/
def IdInReach (doc : XmlDocument) (id : String) : Prop :=
  ∀ n ∈ doc.elements, carriesId id n.label = true →
    hasIdAttr id n.label = true ∧ hasXPathId id n.label = true

theorem carriesId_of_hasIdAttr {e : XmlElement} (h : hasIdAttr id e = true) :
    carriesId id e = true := by
  obtain ⟨name, hname, hprop⟩ := any_eq_true.mp h
  rw [beq_iff_eq, getProp, Option.map_eq_some_iff] at hprop
  obtain ⟨a, ha, rfl⟩ := hprop
  have hmatch := List.find?_some ha
  refine any_eq_true.mpr ⟨a, mem_of_find?_eq_some ha, ?_⟩
  rw [beq_iff_eq.mp hmatch]
  simp at hname ⊢
  exact hname

theorem carriesId_of_hasXPathId {e : XmlElement} (h : hasXPathId id e = true) :
    carriesId id e = true := by
  obtain ⟨a, ha, hmatch⟩ := any_eq_true.mp h
  refine any_eq_true.mpr ⟨a, ha, ?_⟩
  simp at hmatch ⊢
  exact ⟨or_assoc.mp hmatch.1.2, hmatch.2⟩

/-- **The guard on Ids** is enough exactly if `xmlGetProp` and XPath see every Id that is there. -/
theorem selectsOnly_iff (doc : XmlDocument) (id : String) :
    (countElementsById doc.root id = 1 → ∃ n, SelectsOnly doc id n) ↔
      (countElementsById doc.root id = 1 → IdInReach doc id) := by
  refine forall_congr' fun hcount => ?_
  constructor
  · rintro ⟨n, h⟩ m hm hcarries
    have hmem : m ∈ doc.elements.filter (matching (carriesId id)) :=
      mem_filter.mpr ⟨hm, hcarries⟩
    rw [h.carries] at hmem
    obtain rfl := mem_singleton.mp hmem
    rw [← h.xpath] at hmem
    exact ⟨(findFirstElementBy_mem h.found).2, (mem_filter.mp hmem).2⟩
  · intro h
    -- the three notions of having the Id pick the same elements
    have hsame : ∀ test : XmlElement → Bool,
        (∀ n ∈ doc.elements, carriesId id n.label = true → test n.label = true) →
        (∀ e, test e = true → carriesId id e = true) →
        doc.elements.filter (matching test) = doc.elements.filter (matching (carriesId id)) :=
      fun test hto hof => filter_congr fun n hn =>
        Bool.eq_iff_iff.mpr ⟨hof n.label, hto n hn⟩
    have hown := hsame (hasIdAttr id) (fun n hn hc => (h n hn hc).1) fun _ => carriesId_of_hasIdAttr
    have hxpath := hsame (hasXPathId id) (fun n hn hc => (h n hn hc).2) fun _ =>
      carriesId_of_hasXPathId
    have hlength : (doc.elements.filter (matching (hasIdAttr id))).length = 1 := by
      rw [← countP_eq_length_filter, ← preorder_root, ← countElementsBy_eq_countP]
      exact hcount
    obtain ⟨n, hn⟩ := length_eq_one_iff.mp hlength
    have hfound : findElementById doc.root id = some n := by
      rw [findElementById, findFirstElementBy_eq_find, preorder_root, ← List.head?_filter, hn]
      rfl
    have hmatches : xpathMatches doc id = [n] := by rw [xpathMatches, hxpath, ← hown, hn]
    refine ⟨n, hown ▸ hn, hmatches, hfound, fun lib external ref octets hid hoctets => ?_⟩
    have hrest := ((referenceOctets_fragment hid).mp hoctets).2
    by_cases honly : isCanonicalizationOnlyTransform ref.transforms = true
    · rw [if_pos honly, canonicalizeSubtreeById_eq_ok] at hrest
      rw [if_pos honly, ← hmatches]
      exact hrest.2
    · have huri : ref.uri = "" ∨ (idFragment ref.uri).isSome := .inr (by rw [hid]; rfl)
      rw [if_neg honly, resolveAndTransform_eq_ok (not_external huri)] at hrest
      obtain ⟨text, htext, happly⟩ := hrest
      obtain ⟨m, hm, rfl⟩ := (resolveSameDocument_eq_ok huri).mp htext
      rw [serializedElement, hid] at hm
      rw [if_neg honly, Option.some.inj (hfound.symm.trans hm)]
      exact happly

/-- The first element has its Id behind an attribute of another namespace, the second one has it
in such an attribute only. -/
def shadowedIds : XmlDocument where
  nodes := [.node ⟨"root", none, [], "", []⟩
    [.node ⟨"a", none, [⟨"Id", some "urn:x", "decoy", "x"⟩, ⟨"Id", none, "t", ""⟩], "", []⟩ [],
     .node ⟨"b", none, [⟨"Id", some "urn:x", "t", "x"⟩], "", []⟩ []]]

/-- The guard is passed, and the two ways digest different elements. -/
theorem other_element_digested : countElementsById shadowedIds.root "t" = 1 ∧
    (xpathMatches shadowedIds "t").map (fun n => n.label.name) = ["a"] ∧
    (findElementById shadowedIds.root "t").map (fun n => n.label.name) = some "b" ∧
    ¬∃ n, SelectsOnly shadowedIds "t" n := by
  refine ⟨by decide +kernel, by decide +kernel, by decide +kernel, ?_⟩
  rintro ⟨n, h⟩
  have hpath : (xpathMatches shadowedIds "t").map Node.path = [[0, 0]] := by decide +kernel
  have hfound : (findElementById shadowedIds.root "t").map Node.path = some [1, 0] := by
    decide +kernel
  rw [h.xpath] at hpath
  rw [h.found] at hfound
  simp at hpath hfound
  simp [hpath] at hfound

end Tamga.XmlDsig
