/-
The ASiC-E manifest (`asic/AsicContainers.cpp`): the document that names a
signature and the data objects it covers.

The manifest is parsed by libxml2 and then read off the tree: the first
`SigReference` of the document, and the `DataObjectReference` elements that come
after it in document order.

* `parseAsicManifestXml_empty` — an empty text is no manifest.
-/
import Tamga.XmlDocument

namespace Tamga.Asic

open Util Xml

def kAsicManifestNamespace : String := "http://uri.etsi.org/02918/v1.2.1#"

structure AsicDataObjectRef where
  uri : String
  mimeType : String := ""
  digestUri : String := ""
  digestBase64 : String := ""
  deriving DecidableEq, Repr

/-- What `ParseAsicManifestXml` leaves in its two results. -/
structure AsicManifest where
  sigUri : String
  dataRefs : List AsicDataObjectRef
  deriving DecidableEq, Repr

/-! ### Reading -/

/-- `MatchesElement`; without a namespace only the local name is compared. -/
def matchesElement (n : XmlNode) (localName : String) (nsUri : Option String) : Bool :=
  n.label.name == localName && (nsUri == none || n.label.ns == nsUri)

/-- `GetAttribute`: an attribute in no namespace. -/
def getAttribute (n : XmlNode) (name : String) : Option String :=
  (n.label.attrs.find? fun a => a.name == name && a.ns == none).map XmlAttr.value

/-- What the visitor of the children keeps: the algorithm and the value that were
written last. -/
def readDigest (n : XmlNode) : String × String :=
  n.descendants.foldl (fun digest child =>
    if matchesElement child "DigestMethod" (some dsigNamespace) then
      ((getAttribute child "Algorithm").getD digest.1, digest.2)
    else if matchesElement child "DigestValue" (some dsigNamespace) then
      (digest.1, nodeContent child)
    else digest) ("", "")

/-- The loop over the `DataObjectReference` elements; one without `URI` ends it. -/
def readDataRefs : List XmlNode → List AsicDataObjectRef
  | [] => []
  | n :: rest =>
    match getAttribute n "URI" with
    | none => []
    | some uri =>
      ⟨uri, (getAttribute n "MimeType").getD "", (readDigest n).1, (readDigest n).2⟩ ::
        readDataRefs rest

/-- `ParseAsicManifestXml`, whose result counts only when it returns true. -/
def parseAsicManifestXml (lib : LibXml2) (xml : Bytes) : Option AsicManifest :=
  match parseHardened lib (bytesText xml) with
  | .error _ => none
  | .ok doc =>
    match doc.rootNode with
    | none => none
    | some root =>
      match root.preorder.dropWhile fun n => !matchesElement n "SigReference" none with
      | [] => none
      | sigNode :: later =>
        if !matchesElement sigNode "SigReference" (some kAsicManifestNamespace) then none
        else
          match getAttribute sigNode "URI" with
          | none => none
          | some sigUri =>
            let dataRefs := readDataRefs (later.filter fun n =>
              matchesElement n "DataObjectReference" (some kAsicManifestNamespace))
            if sigUri ≠ "" ∧ dataRefs ≠ [] then some ⟨sigUri, dataRefs⟩ else none

theorem parseAsicManifestXml_empty (lib : LibXml2) : parseAsicManifestXml lib [] = none := rfl

/-! ### Writing -/

def escapeXmlAttribute (text : String) : String :=
  String.join (text.toList.map fun ch =>
    match ch with
    | '&' => "&amp;"
    | '<' => "&lt;"
    | '>' => "&gt;"
    | '"' => "&quot;"
    | '\'' => "&apos;"
    | c => String.ofList [c])

def getMimeTypeFromFilename (filename : String) : String :=
  if '.' ∉ filename.toList then "application/octet-stream"
  else
    let ext := toLower (String.ofList
      (filename.toList.reverse.takeWhile (· != '.')).reverse)
    if ext = "pdf" then "application/pdf"
    else if ext = "xml" then "text/xml"
    else if ext = "txt" then "text/plain"
    else if ext = "png" then "image/png"
    else if ext = "jpg" ∨ ext = "jpeg" then "image/jpeg"
    else if ext = "zip" then "application/zip"
    else "application/octet-stream"

def dataObjectReferenceXml (ref : AsicDataObjectRef) : String :=
  "  <asic:DataObjectReference URI=\"" ++ escapeXmlAttribute ref.uri ++ "\"" ++
    (if ref.mimeType = "" then "" else " MimeType=\"" ++ escapeXmlAttribute ref.mimeType ++ "\"") ++
    ">\n" ++
    "    <ds:DigestMethod Algorithm=\"" ++ escapeXmlAttribute ref.digestUri ++ "\"/>\n" ++
    "    <ds:DigestValue>" ++ escapeXmlAttribute ref.digestBase64 ++ "</ds:DigestValue>\n" ++
    "  </asic:DataObjectReference>\n"

def generateAsicManifestXml (sigUri : String) (dataRefs : List AsicDataObjectRef) : String :=
  "<?xml version=\"1.0\" encoding=\"UTF-8\"?>\n" ++
  "<asic:ASiCManifest xmlns:asic=\"http://uri.etsi.org/02918/v1.2.1#\"" ++
  " xmlns:ds=\"http://www.w3.org/2000/09/xmldsig#\"" ++
  " xmlns:xsi=\"http://www.w3.org/2001/XMLSchema-instance\">\n" ++
  "  <asic:SigReference URI=\"" ++ escapeXmlAttribute sigUri ++
  "\" MimeType=\"application/x-pkcs7-signature\"/>\n" ++
  String.join (dataRefs.map dataObjectReferenceXml) ++
  "</asic:ASiCManifest>"

theorem generateAsicManifestXml_ne_nil (sigUri : String) (refs : List AsicDataObjectRef) :
    textBytes (generateAsicManifestXml sigUri refs) ≠ [] := by
  intro h
  rw [textBytes, List.map_eq_nil_iff, String.toList_eq_nil_iff] at h
  unfold generateAsicManifestXml at h
  rw [String.append_eq_empty_iff] at h
  exact absurd h.2 (by decide)

end Tamga.Asic
