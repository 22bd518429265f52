/-
XML documents as `xml/XmlCore.h` and `xmldsig/detail/XmlDocUtil.h` see them.

libxml2 itself is an oracle: it turns a text into a tree, serialises a node and
canonicalises a set of subtrees.  Everything the sources do on the tree (finding,
counting and collecting elements, evaluating their XPath expressions) is computed
here on the tree that libxml2 returned.

* `findFirstElementBy_eq_find`, `countElementsBy_eq_countP` — the recursive
  searches are searches in document order;
* `preorder_root` — a search from the root element sees every element of the
  document;
* `collectTopLevelSignatureNodes_mem` — what the collector returns are
  `ds:Signature` elements of the document;
* `forEachElement_preorder` — the traversal with a stack visits every element once, in
  document order.
-/
import Tamga.Encoding
import Tamga.TreeRemoval

namespace Tamga.Xml

open OrderedTree Util List

/-! ### Nodes and documents -/

/-- An `xmlNs`: a namespace declaration. -/
structure XmlNs where
  nsPrefix : String
  href : String
  deriving DecidableEq, Repr

/-- An attribute; `nsPrefix` is the one it is written with. -/
structure XmlAttr where
  name : String
  ns : Option String
  value : String
  nsPrefix : String := ""
  deriving DecidableEq, Repr

/-- An element node without its children: local name, namespace, attributes, the prefix it
is written with and the namespaces it declares. -/
structure XmlElement where
  name : String
  ns : Option String
  attrs : List XmlAttr
  nsPrefix : String := ""
  nsDef : List XmlNs := []
  deriving DecidableEq, Repr

/-- The node types without children. -/
inductive XmlLeaf where
  | text (content : String)
  | cdata (content : String)
  | comment (content : String)
  | pi (target content : String)
  deriving DecidableEq, Repr

abbrev XmlTree := Tree XmlElement XmlLeaf

/-- An element at its place in the document: an `xmlNodePtr` to an element. -/
abbrev XmlNode := Node XmlElement XmlLeaf

/-- An `xmlNodePtr` from which a loop follows `next`: a node and its following
siblings, below `parent` from index `index` on.  The null pointer has no nodes. -/
structure XmlSiblings where
  parent : List Nat
  index : Nat
  nodes : List XmlTree

/-- An `xmlDoc`: its top-level nodes in order, and whether it has a DTD. -/
structure XmlDocument where
  nodes : List XmlTree
  hasDtd : Bool := false

inductive C14nMode where
  | c14n10
  | exclusive10
  deriving DecidableEq, Repr

structure LibXml2 where
  /-- `xmlReadMemory` with the options of `ParseHardened`. -/
  readMemory : String → Option XmlDocument
  /-- `SerializeNode`. -/
  serializeNode : XmlDocument → XmlNode → String
  /-- `xmlC14NDocDumpMemory` on the node set of the given elements with all their
  descendants, attributes and namespaces. -/
  c14nSubtrees : XmlDocument → List XmlNode → C14nMode → Bool → Option String
  /-- `xmlC14NDocDumpMemory` on the whole document. -/
  c14nDocument : XmlDocument → C14nMode → Bool → Option String

/-- `kMaxXmlBytes`, 64 MiB. -/
def maxXmlBytes : Nat := 67108864

def parseHardened (lib : LibXml2) (xml : String) : Except String XmlDocument :=
  if xml = "" then .error "XML порожній"
  else if xml.length > maxXmlBytes then
    .error ("XML завеликий для розбору: розмір перевищує межу 67108864 байт")
  else
    match lib.readMemory xml with
    | none =>
      .error "Не вдалося розпарсити XML (некоректний документ або заблоковані небезпечні конструкції)"
    | some doc => if doc.hasDtd then .error "XML містить DTD, що заборонено" else .ok doc

def isElementTree : XmlTree → Bool
  | .node _ _ => true
  | .leaf _ => false

variable (doc : XmlDocument)

/-- The place of `xmlDocGetRootElement` among the top-level nodes. -/
def XmlDocument.rootIndex : Nat := doc.nodes.findIdx isElementTree

/-- `xmlDocGetRootElement` as the start of a loop over siblings. -/
def XmlDocument.root : XmlSiblings :=
  ⟨[], doc.rootIndex, doc.nodes.drop doc.rootIndex⟩

def XmlDocument.rootNode : Option XmlNode :=
  (nodesAt [] doc.root.index doc.root.nodes).head?

/-- Every element of the document, in document order: the XPath `//*`. -/
def XmlDocument.elements : List XmlNode := preorderForest [] 0 doc.nodes

variable (n : XmlNode)

def firstChild : XmlSiblings := ⟨n.path, 0, n.children⟩

/-- The elements a recursive search from `s` visits. -/
def XmlSiblings.preorder (s : XmlSiblings) : List XmlNode := preorderForest s.parent s.index s.nodes

def XmlLeaf.content : XmlLeaf → String
  | .text s => s
  | .cdata s => s
  | .comment _ => ""
  | .pi _ _ => ""

/-- `xmlNodeGetContent`: the text and CDATA below the element. -/
def nodeContent : String := String.join ((leavesForest n.children).map XmlLeaf.content)

/-- `TrimmedText`, and `ElementText` with the same body. -/
def trimmedText : String := trimmed (nodeContent n)

/-- `xmlGetProp`: the first attribute with the local name, in any namespace. -/
def getProp (e : XmlElement) (name : String) : Option String :=
  (e.attrs.find? fun a => a.name == name).map XmlAttr.value

def getAttr (name : String) : String := (getProp n.label name).getD ""

/-! ### Element tests -/

def dsigNamespace : String := "http://www.w3.org/2000/09/xmldsig#"

def isElementNamed (localName : String) (e : XmlElement) : Bool := e.name == localName

def isElementInNamespace (nsUri : String) (e : XmlElement) : Bool := e.ns == some nsUri

def isDsigElementNamed (localName : String) (e : XmlElement) : Bool :=
  isElementNamed localName e && isElementInNamespace dsigNamespace e

def isXadesNamespaceUri (href : Option String) : Bool :=
  href == some "http://uri.etsi.org/01903/v1.3.2#" ||
    href == some "http://uri.etsi.org/01903/v1.4.1#"

def isXadesElementNamed (localName : String) (e : XmlElement) : Bool :=
  isElementNamed localName e && isXadesNamespaceUri e.ns

/-- `HasIdAttr`: one of the attributes `Id`, `ID`, `id` has the value. -/
def hasIdAttr (value : String) (e : XmlElement) : Bool :=
  ["Id", "ID", "id"].any fun name => getProp e name == some value

/-- The XPath predicate `[@Id='v' or @ID='v' or @id='v']`, which looks only at
attributes in no namespace. -/
def hasXPathId (value : String) (e : XmlElement) : Bool :=
  e.attrs.any fun a =>
    a.ns == none && (a.name == "Id" || a.name == "ID" || a.name == "id") && a.value == value

theorem isElementNamed_of_isDsigElementNamed {localName : String} {e : XmlElement}
    (h : isDsigElementNamed localName e = true) : isElementNamed localName e = true :=
  (Bool.and_eq_true_iff.mp h).1

/-! ### Searches -/

/-- `FindFirstElementBy`: the pointer and its following siblings, depth first. -/
def findFirstElementBy (test : XmlElement → Bool) (root : XmlSiblings) : Option XmlNode :=
  firstInForest test root.parent root.index root.nodes

/-- `FindFirstElementInSubtreeBy`: the node and its descendants only. -/
def findFirstElementInSubtreeBy (test : XmlElement → Bool) (n : XmlNode) : Option XmlNode :=
  n.first test

/-- The loop of `CountElementsByLocalName` and `CountElementsById`. -/
def countElementsBy (test : XmlElement → Bool) (root : XmlSiblings) : Nat :=
  countInForest test root.nodes

def countElementsInSubtreeBy (test : XmlElement → Bool) (n : XmlNode) : Nat := n.count test

variable (root : XmlSiblings) (localName : String)

def findFirstElement : Option XmlNode :=
  findFirstElementBy (isElementNamed localName) root

def findFirstElementInSubtree : Option XmlNode :=
  findFirstElementInSubtreeBy (isElementNamed localName) n

def findFirstDsigElement : Option XmlNode :=
  findFirstElementBy (isDsigElementNamed localName) root

def findFirstDsigElementInSubtree : Option XmlNode :=
  findFirstElementInSubtreeBy (isDsigElementNamed localName) n

def findFirstXadesElement : Option XmlNode :=
  findFirstElementBy (isXadesElementNamed localName) root

def findFirstXadesElementInSubtree : Option XmlNode :=
  findFirstElementInSubtreeBy (isXadesElementNamed localName) n

def findElementById (id : String) : Option XmlNode :=
  findFirstElementBy (hasIdAttr id) root

def countElementsByLocalName : Nat :=
  countElementsBy (isElementNamed localName) root

def countElementsById (id : String) : Nat :=
  countElementsBy (hasIdAttr id) root

def countElementsInSubtree : Nat :=
  countElementsInSubtreeBy (isElementNamed localName) n

/-- `CollectElementNodes` of the XAdES verifier: every match, in document order. -/
def collectElementNodes : List XmlNode :=
  root.preorder.filter (matching (isXadesElementNamed localName))

/-- `CollectTopLevelSignatureNodes`: the `ds:Signature` elements that stand in no
other one, and whether one of them has an element named `Signature` below it. -/
def collectTopLevelSignatureNodes : List XmlNode × Bool :=
  let nodes := outermostInForest (isDsigElementNamed "Signature") root.parent root.index root.nodes
  (nodes, nodes.any fun n => (findFirstElement (firstChild n) "Signature").isSome)

theorem findFirstElementBy_eq_find (test : XmlElement → Bool) (root : XmlSiblings) :
    findFirstElementBy test root = root.preorder.find? (matching test) :=
  firstInForest_eq_find _ _ _

theorem countElementsBy_eq_countP (test : XmlElement → Bool) (root : XmlSiblings) :
    countElementsBy test root = root.preorder.countP (matching test) :=
  countInForest_eq_countP _ _ _

variable {root} {test : XmlElement → Bool}

theorem findFirstElementBy_mem {n : XmlNode}
    (h : findFirstElementBy test root = some n) : n ∈ root.preorder ∧ test n.label = true := by
  rw [findFirstElementBy_eq_find] at h
  have hmatch : matching test n = true := List.find?_some h
  exact ⟨mem_of_find?_eq_some h, hmatch⟩

theorem findFirstElementInSubtreeBy_mem {m n : XmlNode}
    (h : findFirstElementInSubtreeBy test m = some n) : n ∈ m.preorder ∧ test n.label = true := by
  rw [findFirstElementInSubtreeBy, Node.first_eq_find] at h
  have hmatch : matching test n = true := List.find?_some h
  exact ⟨mem_of_find?_eq_some h, hmatch⟩

theorem unique_of_countElementsBy
    (hcount : countElementsBy test root = 1) {x y : XmlNode} (hx : x ∈ root.preorder)
    (hmx : test x.label = true) (hy : y ∈ root.preorder) (hmy : test y.label = true) : x = y :=
  forest_unique hcount hx hmx hy hmy

theorem collectTopLevelSignatureNodes_mem {n : XmlNode}
    (h : n ∈ (collectTopLevelSignatureNodes root).1) :
    n ∈ root.preorder ∧ isDsigElementNamed "Signature" n.label = true := by
  have hfilter : n ∈ root.preorder.filter (matching (isDsigElementNamed "Signature")) :=
    (outermostInForest_sublist _ _ _).mem h
  exact mem_filter.mp hfilter

theorem collectTopLevelSignatureNodes_flat (h : (collectTopLevelSignatureNodes root).2 = false) :
    (∀ n ∈ (collectTopLevelSignatureNodes root).1, ∀ d ∈ n.descendants,
      isElementNamed "Signature" d.label = false) ∧
    (collectTopLevelSignatureNodes root).1 =
      root.preorder.filter (matching (isDsigElementNamed "Signature")) := by
  have hbelow : ∀ n ∈ (collectTopLevelSignatureNodes root).1, ∀ d ∈ n.descendants,
      isElementNamed "Signature" d.label = false := by
    intro n hn d hd
    have hnone := any_eq_false.mp h n hn
    rw [Option.not_isSome_iff_eq_none, findFirstElement, findFirstElementBy_eq_find,
      List.find?_eq_none] at hnone
    exact Bool.not_eq_true _ ▸ hnone d hd
  refine ⟨hbelow, outermostInForest_eq_filter fun n hn d hd => ?_⟩
  rw [isDsigElementNamed, hbelow n hn d hd, Bool.false_and]

/-! ### The root element -/

theorem preorder_drop_findIdx (i : Nat) (ts : List XmlTree) :
    preorderForest [] (i + ts.findIdx isElementTree) (ts.drop (ts.findIdx isElementTree)) =
      preorderForest [] i ts := by
  induction ts generalizing i with
  | nil => rfl
  | cons t ts ih =>
    cases t with
    | node e cs => rfl
    | leaf b =>
      rw [findIdx_cons, show isElementTree (Tree.leaf b) = false from rfl, cond_false,
        drop_succ_cons, preorderForest, preorderTree, nil_append, ← ih (i + 1)]
      congr 1
      omega

theorem preorder_root : doc.root.preorder = doc.elements := by
  have h := preorder_drop_findIdx 0 doc.nodes
  rw [Nat.zero_add] at h
  exact h

/-! ### Canonicalisation -/

/-- `C14nUriToMode` and `C14nParams`, which list the same four URIs. -/
def c14nUriToMode (uri : String) : Option (C14nMode × Bool) :=
  if uri = "http://www.w3.org/TR/2001/REC-xml-c14n-20010315" then some (.c14n10, false)
  else if uri = "http://www.w3.org/TR/2001/REC-xml-c14n-20010315#WithComments" then
    some (.c14n10, true)
  else if uri = "http://www.w3.org/2001/10/xml-exc-c14n#" then some (.exclusive10, false)
  else if uri = "http://www.w3.org/2001/10/xml-exc-c14n#WithComments" then
    some (.exclusive10, true)
  else none

/-- The mode a URI leaves in variables initialised to inclusive C14N 1.0 without
comments: an unknown URI is ignored. -/
def c14nModeOrDefault (uri : String) : C14nMode × Bool := (c14nUriToMode uri).getD (.c14n10, false)

/-- `DsigSignatureScopeXPath`: the `n`-th `ds:Signature` of the document, nested
ones included. -/
def dsigSignatureScope (position : Nat) : Option XmlNode :=
  (doc.elements.filter (matching (isDsigElementNamed "Signature")))[position - 1]?

/-- The elements `localName` strictly below the `n`-th `ds:Signature`. -/
def elementsWithinSignature (position : Nat) (localName : String) : List XmlNode :=
  match dsigSignatureScope doc position with
  | none => []
  | some s => s.descendants.filter (matching (isElementNamed localName))

def canonicalizeSubtreeWithinSignature (lib : LibXml2) (doc : XmlDocument) (position : Nat)
    (localName : String) (mode : C14nMode) (withComments : Bool) : Except String String :=
  match elementsWithinSignature doc position localName with
  | [] =>
    .error ("Не знайдено елемент для канонікалізації в межах підпису #" ++ toString position ++
      ": " ++ localName)
  | nodes =>
    match lib.c14nSubtrees doc nodes mode withComments with
    | none => .error ("Помилка канонікалізації піддерева в межах підпису: " ++ localName)
    | some out => .ok out

theorem canonicalizeSubtreeWithinSignature_ok {lib : LibXml2} {doc : XmlDocument} {position : Nat}
    {localName : String} {mode : C14nMode} {withComments : Bool} {out : String}
    (h : canonicalizeSubtreeWithinSignature lib doc position localName mode withComments = .ok out) :
    lib.c14nSubtrees doc (elementsWithinSignature doc position localName) mode withComments =
      some out := by
  rw [canonicalizeSubtreeWithinSignature] at h
  split at h
  · cases h
  · split at h
    · cases h
    · next hout => rw [hout, Except.ok.inj h]

def canonicalizeSubtreeById (lib : LibXml2) (doc : XmlDocument) (id : String) (mode : C14nMode)
    (withComments : Bool) : Except String String :=
  if id = "" ∨ '\'' ∈ id.toList then
    .error "Некоректний ідентифікатор для XPath-пошуку елемента"
  else
    match doc.elements.filter (matching (hasXPathId id)) with
    | [] => .error ("Не знайдено елемент з Id=" ++ id ++ " для канонікалізації")
    | nodes =>
      match lib.c14nSubtrees doc nodes mode withComments with
      | none => .error ("Помилка канонікалізації елемента з Id=" ++ id)
      | some out => .ok out

theorem canonicalizeSubtreeById_eq_ok {lib : LibXml2} {doc : XmlDocument} {id : String}
    {mode : C14nMode} {withComments : Bool} {out : String} :
    canonicalizeSubtreeById lib doc id mode withComments = .ok out ↔
      ¬ (id = "" ∨ '\'' ∈ id.toList ∨ doc.elements.filter (matching (hasXPathId id)) = []) ∧
        lib.c14nSubtrees doc (doc.elements.filter (matching (hasXPathId id))) mode withComments =
          some out := by
  rw [canonicalizeSubtreeById, ← or_assoc, not_or]
  by_cases hid : id = "" ∨ '\'' ∈ id.toList
  · simp [hid]
  · rw [if_neg hid]
    cases doc.elements.filter (matching (hasXPathId id)) with
    | nil => simp
    | cons n l => cases hout : lib.c14nSubtrees doc (n :: l) mode withComments <;> simp [hid, hout]

/-- `RemoveSignatures` from the root element on. -/
def removeSignatures : XmlDocument :=
  { doc with
    nodes := doc.nodes.take doc.rootIndex ++
      pruneForest (isDsigElementNamed "Signature") (doc.nodes.drop doc.rootIndex) }

/-! ### `ForEachElement` -/

/-- An `xmlNode` of any type at its place. -/
structure PlacedTree where
  path : List Nat
  tree : XmlTree

def PlacedTree.element : PlacedTree → List XmlNode
  | ⟨path, .node label children⟩ => [⟨path, label, children⟩]
  | ⟨_, .leaf _⟩ => []

def PlacedTree.ofNode : PlacedTree := ⟨n.path, .node n.label n.children⟩

/-- The children that are elements, as the loop over `next` pushes them. -/
def PlacedTree.pushed (t : PlacedTree) : List PlacedTree :=
  t.element.flatMap fun n => n.childNodes.map .ofNode

/-- The loop of `ForEachElement` on the stack `pending`, whose top is its end, with the elements
visited so far. -/
def forEachLoop : Nat → List PlacedTree → List XmlNode → Option (List XmlNode)
  | 0, _, _ => none
  | fuel + 1, pending, visited =>
    match pending.getLast? with
    | none => some visited
    | some node =>
      let rest := pending.dropLast
      let grown := rest ++ node.pushed
      forEachLoop fuel (grown.take rest.length ++ (grown.drop rest.length).reverse)
        (visited ++ node.element)

/-- `ForEachElement`: the elements in the order in which they are visited. -/
def forEachElement (fuel : Nat) : Option PlacedTree → Option (List XmlNode)
  | none => some []
  | some root => forEachLoop fuel [root] []

theorem forEachLoop_top (fuel : Nat) (rest : List PlacedTree) (top : PlacedTree)
    (visited : List XmlNode) :
    forEachLoop (fuel + 1) (rest ++ [top]) visited =
      forEachLoop fuel (rest ++ top.pushed.reverse) (visited ++ top.element) := by
  simp only [forEachLoop, List.getLast?_concat, dropLast_concat, take_left,
    drop_left]

theorem forEachLoop_forest (p : List Nat) (i : Nat) (ts : List XmlTree) :
    ∃ turns, ∀ fuel rest visited,
      forEachLoop (fuel + turns) (rest ++ ((nodesAt p i ts).map PlacedTree.ofNode).reverse) visited =
        forEachLoop fuel rest (visited ++ preorderForest p i ts) := by
  induction ts using forest_induction generalizing p i with
  | nil => exact ⟨0, fun fuel rest visited => by simp [nodesAt, preorderForest]⟩
  | leaf b ts ih => exact ih p (i + 1)
  | node a cs ts below ih =>
    obtain ⟨inner, hinner⟩ := below (i :: p) 0
    obtain ⟨outer, houter⟩ := ih p (i + 1)
    refine ⟨outer + inner + 1, fun fuel rest visited => ?_⟩
    rw [nodesAt, map_cons, reverse_cons, ← append_assoc, ← Nat.add_assoc,
      forEachLoop_top]
    -- the children of the first node stand on top of its following siblings
    simp only [PlacedTree.ofNode, PlacedTree.pushed, PlacedTree.element, flatMap_singleton,
      Node.childNodes]
    rw [← Nat.add_assoc, hinner, houter, preorderForest_node]
    simp [Node.preorder, Node.descendants]

/-- **Document order.**  `ForEachElement` comes to an end and visits the elements of the subtree
as the recursive traversal does, each of them once; without a root it visits nothing. -/
theorem forEachElement_preorder (root : PlacedTree) : (∃ turns, ∀ fuel, turns ≤ fuel →
      forEachElement fuel (some root) = some (preorderTree root.path root.tree)) ∧
    (preorderTree root.path root.tree).Nodup ∧ ∀ fuel, forEachElement fuel none = some [] := by
  obtain ⟨path, tree⟩ := root
  refine ⟨?_, ?_, fun _ => rfl⟩
  · cases tree with
    | leaf b =>
      refine ⟨2, fun fuel hfuel => ?_⟩
      obtain ⟨extra, rfl⟩ := Nat.exists_eq_add_of_le' hfuel
      rfl
    | node a cs =>
      obtain ⟨turns, hturns⟩ := forEachLoop_forest path 0 cs
      refine ⟨turns + 2, fun fuel hfuel => ?_⟩
      obtain ⟨extra, rfl⟩ := Nat.exists_eq_add_of_le' hfuel
      have h := forEachLoop_top (extra + 1 + turns) [] ⟨path, .node a cs⟩ []
      simp only [PlacedTree.pushed, PlacedTree.element, flatMap_singleton, Node.childNodes,
        hturns] at h
      rw [show extra + (turns + 2) = extra + 1 + turns + 1 by omega]
      exact h
  · cases tree with
    | leaf b => exact nodup_nil
    | node a cs =>
      exact nodup_cons.mpr ⟨fun hself =>
        absurd (length_lt_of_mem_preorderForest hself) (Nat.lt_irrefl _), nodup_preorderForest path 0 cs⟩

/-! ### Documents written out -/

def elementTree (ns : Option String) (name : String) (attrs : List (String × String))
    (children : List XmlTree) : XmlTree :=
  .node { name, ns, attrs := attrs.map fun a => { name := a.1, ns := none, value := a.2 } } children

def dsElement (name : String) (attrs : List (String × String)) (children : List XmlTree) : XmlTree :=
  elementTree (some dsigNamespace) name attrs children

def dsText (name text : String) : XmlTree := dsElement name [] [.leaf (.text text)]

end Tamga.Xml
