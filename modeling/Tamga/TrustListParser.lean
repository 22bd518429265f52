/-
Reading a trust list (`policy/TrustListParser.cpp`).

A service record is read off the whole subtree of the service: its type and its status
are the first ones there, its certificates are all of them.  In a service of
ETSI TS 119 612 the `ServiceInformation` stands first, and a `ServiceHistory` may follow.

* `trustListParse_congr` — nothing is read outside the elements of five names;
* `trustListParse_services` — the records are built service by service;
* `carriesOnly_iff` — what the record of one service has of its history;
* `trustListParse_current_iff` — when every record is about the current information
  only.
-/
import Tamga.TrustPath
import Tamga.XmlDocument

namespace Tamga.TrustList

open OrderedTree Util Xml Validation List

def trim (value : String) : String :=
  String.ofList (((value.toList.dropWhile isSpace).reverse.dropWhile isSpace).reverse)

variable (root : XmlNode)

/-- `ElementsNamed`, on the elements that `ForEachElement` visits. -/
def elementsNamed (localName : String) : List XmlNode :=
  root.preorder.filter (matching (isElementNamed localName))

def elementValues (localName : String) : List String :=
  (elementsNamed root localName).map fun n => trim (nodeContent n)

def firstElementValue (localName : String) : String :=
  (elementValues root localName).head?.getD ""

/-- The body of the loop of `DecodeCertificates`. -/
def decodeCertificate (encoded : String) : Option Der :=
  let decoded := base64Decode encoded
  if decoded.ok = true ∧ decoded.bytes ≠ [] then some decoded.bytes else none

def decodeCertificates : List Der :=
  (elementValues root "X509Certificate").filterMap decodeCertificate

structure TrustListEndpoints where
  crlUrls : List String := []
  ocspUrls : List String := []
  tspUrls : List String := []
  deriving DecidableEq, Repr

def extractEndpoints : TrustListEndpoints :=
  let nonEmpty := fun localName => (elementValues root localName).filter (· ≠ "")
  ⟨nonEmpty "CRL", nonEmpty "OCSP", nonEmpty "TSP"⟩

/-- A service record with the fields that the evaluation does not read. -/
structure ServiceRecord extends TrustListServiceRecord where
  providerName : String
  subjectName : String
  endpoints : TrustListEndpoints
  deriving DecidableEq, Repr

def buildServiceRecord (serviceNode : XmlNode) (providerName : String) : ServiceRecord :=
  let serviceType := firstElementValue serviceNode "ServiceTypeIdentifier"
  { serviceType :=
      if serviceType = "" then firstElementValue serviceNode "ServiceType" else serviceType
    status := firstElementValue serviceNode "ServiceStatus"
    certificates := decodeCertificates serviceNode
    providerName := providerName
    subjectName := firstElementValue serviceNode "X509SubjectName"
    endpoints := extractEndpoints serviceNode }

def keepsRecord (s : ServiceRecord) : Bool :=
  s.certificates ≠ [] ∨ s.serviceType ≠ "" ∨ s.status ≠ ""

def collectServices (providerNode : XmlNode) (serviceLocalName providerName : String) :
    List ServiceRecord :=
  ((elementsNamed providerNode serviceLocalName).map (buildServiceRecord · providerName)).filter
    keepsRecord

/-- `TrustListParseResult` in full. -/
structure ParsedTrustList where
  ok : Bool := false
  message : String
  certificates : List Der := []
  endpoints : TrustListEndpoints := {}
  services : List ServiceRecord := []

/-- `TrustListParser::Parse`. -/
def trustListParse (lib : LibXml2) (xml : String) : ParsedTrustList :=
  match parseHardened lib xml with
  | .error parseError => { message := parseError }
  | .ok doc =>
    match doc.rootNode with
    | none => { message := "Trust list XML is empty or has no root element" }
    | some root =>
      let certificates := decodeCertificates root
      let endpoints := extractEndpoints root
      let services := (elementsNamed root "TrustServiceProvider").flatMap fun provider =>
        let providerName := firstElementValue provider "Name"
        collectServices provider "TSPService" providerName ++
          collectServices provider "Service" providerName
      let ok := certificates ≠ [] ∨ endpoints.crlUrls ≠ [] ∨ endpoints.ocspUrls ≠ [] ∨
        endpoints.tspUrls ≠ [] ∨ services ≠ []
      { ok := ok
        message := if ok then "Trust list parsed"
          else "Trust list does not contain supported entries"
        certificates := certificates
        endpoints := endpoints
        services := services }

/-- The elements that are looked for from the root on: all that is read stands in one of them. -/
def readNames : List String := ["X509Certificate", "CRL", "OCSP", "TSP", "TrustServiceProvider"]

/-- **What is read.**  Two lists with the same elements of these names are read alike. -/
theorem trustListParse_congr {lib : LibXml2} {xml xml' : String} {doc doc' : XmlDocument}
    {root root' : XmlNode} (hparse : parseHardened lib xml = .ok doc)
    (hparse' : parseHardened lib xml' = .ok doc') (hroot : doc.rootNode = some root)
    (hroot' : doc'.rootNode = some root')
    (h : ∀ name ∈ readNames, elementsNamed root name = elementsNamed root' name) :
    trustListParse lib xml = trustListParse lib xml' := by
  simp only [readNames, forall_mem_cons] at h
  obtain ⟨hcertificates, hcrl, hocsp, htsp, hproviders, -⟩ := h
  have hdecoded : decodeCertificates root = decodeCertificates root' := by
    rw [decodeCertificates, elementValues, hcertificates]
    rfl
  have hendpoints : extractEndpoints root = extractEndpoints root' := by
    simp only [extractEndpoints, elementValues, hcrl, hocsp, htsp]
  rw [trustListParse, trustListParse, hparse, hparse']
  dsimp only
  rw [hroot, hroot']
  dsimp only
  rw [hdecoded, hendpoints, hproviders]

/-! ### The parts of a service -/

/-- A service of ETSI TS 119 612: the current information, with its type and its status,
and then the history. -/
structure EtsiParts (service information : XmlNode) (history : List XmlNode) : Prop where
  children : service.childNodes = information :: history
  current : information.label.name = "ServiceInformation"
  former : ∀ h ∈ history, h.label.name = "ServiceHistory"
  typed : firstElementValue information "ServiceTypeIdentifier" ≠ ""
  status : elementsNamed information "ServiceStatus" ≠ []

/-- The record has the type, the status and the certificates of `information` and no
others. -/
structure CarriesOnly (information : XmlNode) (record : ServiceRecord) : Prop where
  serviceType : record.serviceType = firstElementValue information "ServiceTypeIdentifier"
  status : record.status = firstElementValue information "ServiceStatus"
  certificates : ∀ c, c ∈ record.certificates ↔ c ∈ decodeCertificates information

/-- The services that are looked at, each with the name of its provider. -/
def listedServices : List (XmlNode × String) :=
  (elementsNamed root "TrustServiceProvider").flatMap fun provider =>
    (elementsNamed provider "TSPService" ++ elementsNamed provider "Service").map
      fun service => (service, firstElementValue provider "Name")

def EtsiTrustList : Prop :=
  ∀ s ∈ listedServices root, ∃ information history, EtsiParts s.1 information history

/-- The record is about the current information of the service. -/
def CurrentOnly (service : XmlNode × String) (record : ServiceRecord) : Prop :=
  ∀ information history, EtsiParts service.1 information history → CarriesOnly information record

/-- No service has a certificate in its history that its current information does not
have. -/
def NoFormerCertificate : Prop :=
  ∀ s ∈ listedServices root, ∀ information history, EtsiParts s.1 information history →
    ∀ n ∈ history, ∀ c ∈ decodeCertificates n, c ∈ decodeCertificates information

section Parts

variable {service information : XmlNode} {history : List XmlNode} {localName : String}

theorem listedServices_name {root : XmlNode} {s : XmlNode × String}
    (h : s ∈ listedServices root) : s.1.label.name ∈ ["TSPService", "Service"] := by
  obtain ⟨provider, -, hs⟩ := mem_flatMap.mp h
  obtain ⟨n, hn, rfl⟩ := mem_map.mp hs
  rcases mem_append.mp hn with hn | hn
  · exact mem_cons.mpr (.inl (beq_iff_eq.mp (mem_filter.mp hn).2))
  · exact mem_cons_of_mem _ (mem_singleton.mpr (beq_iff_eq.mp (mem_filter.mp hn).2))

section

variable (h : EtsiParts service information history)

include h

/-- In document order the information comes before the history. -/
theorem EtsiParts.elementsNamed_eq (hname : service.label.name ≠ localName) :
    elementsNamed service localName =
      elementsNamed information localName ++ history.flatMap (elementsNamed · localName) := by
  have hself : ¬ matching (isElementNamed localName) service = true := by
    rw [matching, isElementNamed, beq_iff_eq]
    exact hname
  rw [elementsNamed, Node.preorder, filter_cons_of_neg hself, Node.descendants,
    preorderForest_eq_flatMap, show nodesAt service.path 0 service.children = _ from h.children,
    flatMap_cons, filter_append, filter_flatMap]
  rfl

theorem EtsiParts.firstElementValue_eq
    (hname : service.label.name ≠ localName) (hfirst : elementsNamed information localName ≠ []) :
    firstElementValue service localName = firstElementValue information localName := by
  obtain ⟨n, rest, hn⟩ := exists_cons_of_ne_nil hfirst
  simp only [firstElementValue, elementValues, h.elementsNamed_eq hname, hn]
  rfl

theorem EtsiParts.mem_decodeCertificates
    (hname : service.label.name ≠ "X509Certificate") {c : Der} :
    c ∈ decodeCertificates service ↔
      c ∈ decodeCertificates information ∨ ∃ n ∈ history, c ∈ decodeCertificates n := by
  simp only [decodeCertificates, elementValues, h.elementsNamed_eq hname, map_append,
    filterMap_append, mem_append, map_flatMap, filterMap_flatMap,
    mem_flatMap]

theorem EtsiParts.serviceType_eq
    (hname : service.label.name ∈ ["TSPService", "Service"]) (providerName : String) :
    (buildServiceRecord service providerName).serviceType =
      firstElementValue information "ServiceTypeIdentifier" := by
  have htyped : elementsNamed information "ServiceTypeIdentifier" ≠ [] := by
    intro hnil
    exact h.typed (by rw [firstElementValue, elementValues, hnil]; rfl)
  rw [buildServiceRecord, h.firstElementValue_eq (ne_of_mem_of_not_mem hname (by decide)) htyped]
  exact if_neg h.typed

theorem carriesOnly_iff
    (hname : service.label.name ∈ ["TSPService", "Service"]) (providerName : String) :
    CarriesOnly information (buildServiceRecord service providerName) ↔
      ∀ n ∈ history, ∀ c ∈ decodeCertificates n, c ∈ decodeCertificates information := by
  have hne : ∀ {field : String}, field ∉ ["TSPService", "Service"] → service.label.name ≠ field :=
    fun hfield => ne_of_mem_of_not_mem hname hfield
  constructor
  · intro hcarries n hn c hc
    refine (hcarries.certificates c).mp ?_
    exact (h.mem_decodeCertificates (hne (by decide))).mpr (.inr ⟨n, hn, hc⟩)
  · intro hhistory
    refine ⟨h.serviceType_eq hname providerName, h.firstElementValue_eq (hne (by decide)) h.status,
      fun c => (h.mem_decodeCertificates (hne (by decide))).trans (or_iff_left_of_imp ?_)⟩
    rintro ⟨n, hn, hc⟩
    exact hhistory n hn c hc

end

end Parts

/-! ### The records of a list -/

theorem trustListParse_services {lib : LibXml2} {xml : String} {doc : XmlDocument} {root : XmlNode}
    (hparse : parseHardened lib xml = .ok doc) (hroot : doc.rootNode = some root)
    (hetsi : EtsiTrustList root) :
    (trustListParse lib xml).services =
      (listedServices root).map fun s => buildServiceRecord s.1 s.2 := by
  have hkept : ∀ s ∈ listedServices root, (buildServiceRecord s.1 s.2).serviceType ≠ "" := by
    intro s hs
    obtain ⟨information, history, hparts⟩ := hetsi s hs
    rw [hparts.serviceType_eq (listedServices_name hs)]
    exact hparts.typed
  have hall : ∀ s ∈ listedServices root, keepsRecord (buildServiceRecord s.1 s.2) = true :=
    fun s hs => decide_eq_true (.inr (.inl (hkept s hs)))
  rw [trustListParse, hparse]
  dsimp only
  rw [hroot]
  show ((elementsNamed root "TrustServiceProvider").flatMap fun provider => _) = _
  simp only [collectServices, ← filter_append, ← map_append]
  rw [listedServices, map_flatMap]
  refine flatMap_congr fun provider hprovider => ?_
  rw [map_map]
  refine filter_eq_self.mpr fun r hr => ?_
  obtain ⟨s, hs, rfl⟩ := mem_map.mp hr
  exact hall (s, _) (mem_flatMap.mpr ⟨provider, hprovider, mem_map_of_mem hs⟩)

/-- **The records of a trust list.**  The record of each service has the type and the
status of its current `ServiceInformation`; it has the certificates of that part only
exactly when every certificate of the history is among them. -/
theorem trustListParse_current_iff (lib : LibXml2) (xml : String) (doc : XmlDocument)
    (root : XmlNode) (hparse : parseHardened lib xml = .ok doc)
    (hroot : doc.rootNode = some root) (hetsi : EtsiTrustList root) :
    List.Forall₂ CurrentOnly (listedServices root) (trustListParse lib xml).services ↔
      NoFormerCertificate root := by
  rw [trustListParse_services hparse hroot hetsi, forall₂_map_right_iff, forall₂_same]
  refine forall₂_congr fun s hs => forall_congr' fun information => forall_congr' fun history => ?_
  exact forall_congr' fun hparts => carriesOnly_iff hparts (listedServices_name hs) s.2

/-! ### A service with a history -/

def element (name : String) (children : List XmlTree) : XmlTree :=
  .node ⟨name, none, [], "", []⟩ children

def serviceEntries (certificate status : String) : List XmlTree :=
  [element "ServiceTypeIdentifier" [.leaf (.text "CA/QC")],
    element "ServiceDigitalIdentity" [element "X509Certificate" [.leaf (.text certificate)]],
    element "ServiceStatus" [.leaf (.text status)]]

def currentInformation : XmlNode :=
  ⟨[0, 0, 0, 0], ⟨"ServiceInformation", none, [], "", []⟩, serviceEntries "AQ==" "granted"⟩

variable (former : String)

def formerHistory : XmlNode :=
  ⟨[1, 0, 0, 0], ⟨"ServiceHistory", none, [], "", []⟩,
    [element "ServiceHistoryInstance" (serviceEntries former "withdrawn")]⟩

/-- A service granted with the certificate `AQ==`, withdrawn before with `former`. -/
def replacedService : XmlNode :=
  ⟨[0, 0, 0], ⟨"TSPService", none, [], "", []⟩,
    [element "ServiceInformation" currentInformation.children,
      element "ServiceHistory" (formerHistory former).children]⟩

def replacedRoot : XmlNode :=
  ⟨[0], ⟨"TrustServiceStatusList", none, [], "", []⟩,
    [element "TrustServiceProvider" [element "TSPService" (replacedService former).children]]⟩

def replacedList : XmlDocument where
  nodes := [element "TrustServiceStatusList" (replacedRoot former).children]

/-- A libxml2 that reads every text as this list. -/
def replacedLib : LibXml2 where
  readMemory _ := some (replacedList former)
  serializeNode _ _ := ""
  c14nSubtrees _ _ _ _ := none
  c14nDocument _ _ _ := none

theorem listedServices_replacedRoot :
    listedServices (replacedRoot former) = [(replacedService former, "")] := rfl

theorem etsiParts_replacedService :
    EtsiParts (replacedService former) currentInformation [formerHistory former] where
  children := rfl
  current := rfl
  former := by simp [formerHistory]
  typed := by decide +kernel
  status := by decide +kernel

theorem etsiTrustList_replacedRoot : EtsiTrustList (replacedRoot former) := by
  intro s hs
  rw [listedServices_replacedRoot, mem_singleton] at hs
  exact hs ▸ ⟨_, _, etsiParts_replacedService former⟩

/-- The certificate `Ag==` of a history is recorded as granted. -/
theorem replacedList_not_current : EtsiTrustList (replacedRoot "Ag==") ∧
      (trustListParse (replacedLib "Ag==") "list").services.map
        (fun s => (s.status, s.certificates)) = [("granted", [[1], [2]])] ∧
      decodeCertificates currentInformation = [[1]] ∧
      ¬ List.Forall₂ CurrentOnly (listedServices (replacedRoot "Ag=="))
        (trustListParse (replacedLib "Ag==") "list").services := by
  refine ⟨etsiTrustList_replacedRoot _, by decide +kernel, by decide +kernel, fun h => ?_⟩
  rw [trustListParse_services rfl rfl (etsiTrustList_replacedRoot _), listedServices_replacedRoot,
    forall₂_map_right_iff, forall₂_same] at h
  have hcarries := h _ mem_cons_self _ _ (etsiParts_replacedService "Ag==")
  have hformer := (carriesOnly_iff (etsiParts_replacedService "Ag==") (by decide) "").mp hcarries
  exact absurd (hformer _ mem_cons_self [2] (by decide +kernel)) (by decide +kernel)

/-- A service that was withdrawn and granted again with the same certificate. -/
theorem trustListParse_current_regranted : EtsiTrustList (replacedRoot "AQ==") ∧
      List.Forall₂ CurrentOnly (listedServices (replacedRoot "AQ=="))
        (trustListParse (replacedLib "AQ==") "list").services := by
  refine ⟨etsiTrustList_replacedRoot _, (trustListParse_current_iff (replacedLib "AQ==") "list"
    (replacedList "AQ==") (replacedRoot "AQ==") rfl rfl (etsiTrustList_replacedRoot _)).mpr ?_⟩
  intro s hs information history hparts n hn c hc
  rw [listedServices_replacedRoot, mem_singleton] at hs
  subst hs
  obtain ⟨rfl, rfl⟩ : information = currentInformation ∧ history = [formerHistory "AQ=="] :=
    List.cons.inj (hparts.children.symm.trans (etsiParts_replacedService "AQ==").children)
  have hsame : decodeCertificates (formerHistory "AQ==") =
      decodeCertificates currentInformation := by decide +kernel
  rw [mem_singleton] at hn
  rwa [hn, hsame] at hc

end Tamga.TrustList
