import SigVal.Lib.LinkedDom
import SigVal.Lib.Mutating
import SigVal.Svt.TokenValidator

/-!
# The data of an XML signature

`DefaultXMLSignatureContext` reads from a signature element what validation and SVT
issuing work with. The octets each `ds:Reference` stands for, after its transforms, come
from the XML security library and are put into a map under the URI of the reference.

To have the library find elements by identifier, attributes are declared to be of type ID
on the way. Nothing else in the document changes.
-/

namespace SigVal.Xml

open SigVal.Java SigVal.LinkedDom
open Svt.XMLSVTValidator (xmldsigNS xmlSvtNS)

variable {Cert : Type}

def xmldsigV2Transform : String := "http://www.w3.org/2010/xmldsig2#transform"

/-! ## The XML security library -/

/-- `KeyInfo`: what its getters return or throw. Every certificate of every `X509Data` is
read and decoded on its own. -/
structure KeyInfo (Cert : Type) where
  getX509Certificate : Outcome (Option Cert)
  x509Data : List (Outcome (Option (List (Outcome (Option Cert)))))

/-- `XMLSignature` over a signature element. It reads the document at the time of the
call. -/
structure SignatureObject (Cert : Type) where
  /-- The `SignedInfo` element. -/
  signedInfo : Key
  getId : Heap → Option String
  getReferencedContentAfterTransformsItem : Heap → Nat → Outcome Bytes
  getSignatureValue : Heap → Outcome Bytes
  /-- Of the `SignedInfo` element. -/
  getCanonicalizedOctetStream : Heap → Outcome Bytes
  getKeyInfo : Heap → Outcome (Option (KeyInfo Cert))

/-- The XML libraries behind signature contexts. -/
structure XMLSecurity (Cert : Type) where
  newXMLSignature : Heap → Key → Outcome (SignatureObject Cert)
  /-- `XMLDocumentBuilder.getDocument`. -/
  getDocument : Bytes → Outcome Document
  /-- `XMLDocumentBuilder.getCanonicalDocBytes`. -/
  getCanonicalDocBytes : Heap → Outcome Bytes

/-- `SignatureData` as a context fills it in. `refDataMap` has distinct keys, and `null`
for a reference without data. -/
structure RawSignatureData (Cert : Type) where
  signature : SignatureObject Cert
  refDataMap : List (String × Option Bytes)
  coversWholeDoc : Bool
  signedDocument : Option Bytes
  signatureBytes : Option Bytes
  signedInfoBytes : Option Bytes
  signerCertificate : Option Cert
  signatureCertChain : Option (List Cert)

/-! ## `DefaultXMLSignatureContext` -/

structure DefaultXMLSignatureContext where
  documentBytes : Bytes
  rootNamespaceURI : String
  rootElementName : String
  rootIdAttrVal : Option String

namespace DefaultXMLSignatureContext

def idNames : List String := ["iD", "id", "Id", "ID"]

/-- The value of the last of the attributes that has one. -/
def getIdAttrVal (element : Content) : Option String :=
  idNames.foldl
    (fun idAttrValCandidate idName =>
      let attributeVal := element.getAttribute idName
      if attributeVal ≠ "" then some attributeVal else idAttrValCandidate)
    none

theorem getIdAttrVal_eq_some {content : Content} {v : String}
    (h : getIdAttrVal content = some v) :
    v ≠ "" ∧ ∃ idName ∈ idNames, content.getAttribute idName = v := by
  have hfold : ∀ (names : List String) (seed : Option String),
      names.foldl (fun candidate idName =>
        if content.getAttribute idName ≠ "" then some (content.getAttribute idName)
        else candidate) seed = some v →
      seed = some v ∨ v ≠ "" ∧ ∃ idName ∈ names, content.getAttribute idName = v := by
    intro names
    induction names with
    | nil => exact fun _ h => .inl h
    | cons idName rest ih =>
        intro seed hseed
        rw [List.foldl_cons] at hseed
        rcases ih _ hseed with hfirst | ⟨hv, name, hname, heq⟩
        · split at hfirst
          · rename_i hne
            cases hfirst
            exact .inr ⟨hne, idName, List.mem_cons_self, rfl⟩
          · exact .inl hfirst
        · exact .inr ⟨hv, name, List.mem_cons_of_mem _ hname, heq⟩
  rcases hfold idNames none h with hnone | hsome
  · cases hnone
  · exact hsome

/-- The constructor, which wraps all exceptions. -/
def new (lib : XMLSecurity Cert) (document : Heap) : Outcome DefaultXMLSignatureContext :=
  let body : Outcome DefaultXMLSignatureContext := do
    let documentBytes ← lib.getCanonicalDocBytes document
    let documentElement ← deref document.getDocumentElement
    let content := document.contentOf documentElement
    pure ⟨documentBytes, content.namespaceURI, content.localName, getIdAttrVal content⟩
  match body with
  | .ok context => .ok context
  | .error ex => .error ⟨.io, ex.msg⟩

/-- `refDataMap.containsKey`. -/
def containsKey (refDataMap : List (String × Option Bytes)) (ref : String) : Bool :=
  (refDataMap.lookup ref).isSome

def isCoversWholeDocument (context : DefaultXMLSignatureContext)
    (refDataMap : List (String × Option Bytes)) : Bool :=
  containsKey refDataMap "" ||
    containsKey refDataMap ("#" ++ context.rootIdAttrVal.getD "null")

/-- A fragment without a document element does not match. -/
def isFragmentMatchingRootElement (context : DefaultXMLSignatureContext)
    (parsedFragment : Document) (refDataMap : List (String × Option Bytes)) : Bool :=
  match parsedFragment.getDocumentElement with
  | none => false
  | some signedDocDocumentElement =>
      let content := parsedFragment.contentOf signedDocDocumentElement
      let idMatch :=
        match context.rootIdAttrVal with
        | none => containsKey refDataMap ""
        | some "" => containsKey refDataMap ""
        | some rootIdAttrVal => containsKey refDataMap ("#" ++ rootIdAttrVal)
      content.namespaceURI == context.rootNamespaceURI &&
        content.localName == context.rootElementName && idMatch

/-- The first referenced data that parses as a document with the root of this one.
Exceptions end in `null`. -/
def getSignedDocument (jvm : Jvm) (lib : XMLSecurity Cert) (context : DefaultXMLSignatureContext)
    (refDataMap : List (String × Option Bytes)) : Option Bytes :=
  let documents := (jvm.entriesInOrder refDataMap).filterMap fun ref =>
    ref.2.bind fun bytes => (lib.getDocument bytes).toOption
  match documents.find? fun parsedFrag =>
      isFragmentMatchingRootElement context parsedFrag refDataMap with
  | some document => (lib.getCanonicalDocBytes document.toHeap).toOption
  | none => none

def registerIdInElement (document : Heap) (element : Key) (referenceUri : String) : Heap :=
  idNames.foldl
    (fun document idName =>
      let signatureUriReference := (document.contentOf element).getAttribute idName
      if signatureUriReference ≠ "" ∧ "#" ++ signatureUriReference = referenceUri then
        document.setIdAttribute element idName
      else document)
    document

/-- The document element and all elements below it. -/
def candidateElements (document : Heap) : List Key :=
  match document.getDocumentElement with
  | none => []
  | some documentElement =>
      documentElement ::
        ((document.below documentElement).filter (·.content.isElement)).map (·.key)

/-- An identifier that is found in one element only is registered there. -/
def registerId (document : Heap) (referenceUri : String) : Heap :=
  let matchingElements := (candidateElements document).filter fun element =>
    match getIdAttrVal (document.contentOf element) with
    | some idAttrVal => idAttrVal != "" && referenceUri == "#" ++ idAttrVal
    | none => false
  match matchingElements with
  | [element] => registerIdInElement document element referenceUri
  | _ => document

def getTransformAlgorithm (document : Heap) (refElement : Key) : Option String :=
  match document.getElementsByTagNameNS refElement xmldsigNS "Transform" with
  | [] => none
  | transformElement :: _ =>
      let algorithm := (document.contentOf transformElement).getAttribute "Algorithm"
      if algorithm ≠ "" then some algorithm else none

/-- The certificates of one `X509Data`, up to the first that cannot be read. -/
def readCertificates : List (Outcome (Option Cert)) → List Cert
  | [] => []
  | .ok (some cert) :: rest => cert :: readCertificates rest
  | .ok none :: rest => readCertificates rest
  | .error _ :: _ => []

def getAllSignatureCertificates (keyInfo : KeyInfo Cert) : List Cert :=
  keyInfo.x509Data.flatMap fun x509data =>
    match x509data with
    | .ok (some certificates) => readCertificates certificates
    | .ok none => []
    | .error _ => []

/-- `StringUtils.isNotEmpty(uri.trim())`: the text has a character beyond the space. -/
def isNotBlank (uri : String) : Bool := uri.toList.any fun c => decide (' ' < c)

/-- The registration of identifiers before a reference is resolved. -/
def registerUri (document : Heap) (uri : String) : Heap :=
  if isNotBlank uri then registerId document uri else document

/-- `refElement.getAttribute("URI")`. -/
def uriOf (document : Heap) (refElement : Key) : String :=
  (document.contentOf refElement).getAttribute "URI"

/-- The loop over the references. A reference that cannot be resolved has `null`. -/
def collectReferences (jvm : Jvm) (signature : SignatureObject Cert) :
    List Key → Nat → List (String × Option Bytes) →
      Mutating Heap (List (String × Option Bytes))
  | [], _, referencedDataMap => pure referencedDataMap
  | refElement :: rest, i, referencedDataMap => do
      let document ← get
      let transform := getTransformAlgorithm document refElement
      if transform.any (jvm.equalsIgnoreCase xmldsigV2Transform) then
        throw ⟨.io, "XMLDsig version 2.0 signatures not supported"⟩
      let uri := uriOf document refElement
      modify (registerUri · uri)
      let document ← get
      let signedData := (signature.getReferencedContentAfterTransformsItem document i).toOption
      collectReferences jvm signature rest (i + 1) (putEntry referencedDataMap uri signedData)

/-- The `Reference` elements of a signature. -/
def referenceElements (document : Heap) (signature : SignatureObject Cert) : List Key :=
  document.getElementsByTagNameNS signature.signedInfo xmldsigNS "Reference"

/-- The body of `getSignatureData`. -/
def readSignatureData (jvm : Jvm) (lib : XMLSecurity Cert) (context : DefaultXMLSignatureContext)
    (sigNode : Key) : Mutating Heap (RawSignatureData Cert) := do
  let document ← get
  let signature ← Mutating.call (lib.newXMLSignature document sigNode)
  let refDataMap ← collectReferences jvm signature (referenceElements document signature) 0 []
  let document ← get
  let signatureBytes ← Mutating.call (signature.getSignatureValue document)
  let signedInfoBytes ← Mutating.call (signature.getCanonicalizedOctetStream document)
  let data : RawSignatureData Cert :=
    { signature := signature
      refDataMap := refDataMap
      coversWholeDoc := isCoversWholeDocument context refDataMap
      signedDocument := getSignedDocument jvm lib context refDataMap
      signatureBytes := some signatureBytes
      signedInfoBytes := some signedInfoBytes
      signerCertificate := none
      signatureCertChain := none }
  match ← Mutating.call (signature.getKeyInfo document) with
  | none => pure data
  | some keyInfo => do
      let signerCertificate ← Mutating.call keyInfo.getX509Certificate
      pure
        { data with
          signerCertificate := signerCertificate
          signatureCertChain := some (getAllSignatureCertificates keyInfo) }

/-- `getSignatureData`, which rethrows every exception as one. -/
def getSignatureData (jvm : Jvm) (lib : XMLSecurity Cert) (context : DefaultXMLSignatureContext)
    (sigNode : Key) : Mutating Heap (RawSignatureData Cert) :=
  Mutating.catching (readSignatureData jvm lib context sigNode)
    fun _ => throw ⟨.io, "Error parsing ref URI from signature"⟩

/-! ## What is read -/

/-- The elements, attributes and texts of the two are the same. -/
def SameContent (before after : Heap) : Prop :=
  after.nodes = before.nodes ∧ after.nextKey = before.nextKey

theorem SameContent.refl (document : Heap) : SameContent document document := ⟨rfl, rfl⟩

theorem SameContent.symm {a b : Heap} (hab : SameContent a b) : SameContent b a :=
  ⟨hab.1.symm, hab.2.symm⟩

theorem SameContent.trans {a b c : Heap} (hab : SameContent a b) (hbc : SameContent b c) :
    SameContent a c := ⟨hbc.1.trans hab.1, hbc.2.trans hab.2⟩

theorem contentOf_of_sameContent {document before : Heap} (hsame : SameContent document before)
    (k : Key) : before.contentOf k = document.contentOf k := by
  unfold Heap.contentOf Heap.node?
  rw [hsame.1]

theorem sameContent_registerIdInElement (document : Heap) (element : Key) (referenceUri : String) :
    SameContent document (registerIdInElement document element referenceUri) := by
  unfold registerIdInElement
  -- each name at most declares an attribute
  induction idNames generalizing document with
  | nil => exact .refl _
  | cons idName rest ih =>
      rw [List.foldl_cons]
      refine .trans ?_ (ih _)
      dsimp only
      split
      · exact ⟨rfl, rfl⟩
      · exact .refl _

theorem sameContent_registerUri (document : Heap) (uri : String) :
    SameContent document (registerUri document uri) := by
  unfold registerUri registerId
  split
  · dsimp only
    split
    · exact sameContent_registerIdInElement _ _ _
    · exact .refl _
  · exact .refl _

/-- What each reference stands for: its URI and its own octets after the transforms, if
it can be resolved. -/
def referencedData (signature : SignatureObject Cert) :
    Heap → List Key → Nat → List (String × Option Bytes)
  | _, [], _ => []
  | document, refElement :: rest, i =>
      let uri := uriOf document refElement
      let registered := registerUri document uri
      (uri, (signature.getReferencedContentAfterTransformsItem registered i).toOption) ::
        referencedData signature registered rest (i + 1)

section Reads

variable {jvm : Jvm} {lib : XMLSecurity Cert} {context : DefaultXMLSignatureContext}
  {signature : SignatureObject Cert} {document : Heap} {sigNode : Key}

theorem wp_collectReferences (refElements : List Key) (i : Nat)
    (referencedDataMap : List (String × Option Bytes)) (document : Heap) :
    Mutating.wp (collectReferences jvm signature refElements i referencedDataMap)
      (fun refDataMap after =>
        refDataMap =
            putEntries referencedDataMap (referencedData signature document refElements i) ∧
          SameContent document after)
      (fun _ after => SameContent document after) document := by
  induction refElements generalizing i referencedDataMap document with
  | nil => exact ⟨rfl, .refl _⟩
  | cons refElement rest ih =>
      unfold collectReferences
      rw [Mutating.wp_bind, Mutating.wp_get]
      dsimp only
      split
      · exact .refl _
      · have hsame := sameContent_registerUri document (uriOf document refElement)
        refine Mutating.wp_mono (ih (i + 1) _ _) ?_ ?_
        · rintro refDataMap after ⟨rfl, hafter⟩
          exact ⟨rfl, hsame.trans hafter⟩
        · intro ex after hafter
          exact hsame.trans hafter

/-- The data that is returned, and that reading it changes no content. -/
structure Reads (lib : XMLSecurity Cert) (document : Heap) (sigNode : Key)
    (data : RawSignatureData Cert) (after : Heap) : Prop where
  signature : lib.newXMLSignature document sigNode = .ok data.signature
  refDataMap : data.refDataMap = putEntries []
    (referencedData data.signature document (referenceElements document data.signature) 0)
  signatureBytes : ∃ bytes, data.signatureBytes = some bytes
  signedInfoBytes : ∃ bytes, data.signedInfoBytes = some bytes
  sameContent : SameContent document after

/-- The verdicts on the document are those on the references that were read. -/
structure Judged (jvm : Jvm) (lib : XMLSecurity Cert) (context : DefaultXMLSignatureContext)
    (data : RawSignatureData Cert) : Prop where
  coversWholeDoc : data.coversWholeDoc = isCoversWholeDocument context data.refDataMap
  signedDocument : data.signedDocument = getSignedDocument jvm lib context data.refDataMap

theorem wp_getSignatureData_judged (document : Heap) (sigNode : Key) :
    Mutating.wp (getSignatureData jvm lib context sigNode)
      (fun data after => Reads lib document sigNode data after ∧ Judged jvm lib context data)
      (fun _ after => SameContent document after) document := by
  unfold getSignatureData
  rw [Mutating.wp_catching]
  simp only [Mutating.wp_throw]
  unfold readSignatureData
  rw [Mutating.wp_bind, Mutating.wp_get, Mutating.wp_bind, Mutating.wp_call]
  refine ⟨?_, fun _ _ => .refl _⟩
  intro signature hsignature
  rw [Mutating.wp_bind]
  refine Mutating.wp_mono (wp_collectReferences _ _ _ _) ?_ (fun _ _ h => h)
  rintro refDataMap after ⟨hmap, hsame⟩
  rw [Mutating.wp_bind, Mutating.wp_get, Mutating.wp_bind, Mutating.wp_call]
  refine ⟨?_, fun _ _ => hsame⟩
  intro signatureBytes _
  rw [Mutating.wp_bind, Mutating.wp_call]
  refine ⟨?_, fun _ _ => hsame⟩
  intro signedInfoBytes _
  dsimp only
  rw [Mutating.wp_bind, Mutating.wp_call]
  refine ⟨?_, fun _ _ => hsame⟩
  intro keyInfo _
  cases keyInfo with
  | none => exact ⟨⟨hsignature, hmap, ⟨_, rfl⟩, ⟨_, rfl⟩, hsame⟩, rfl, rfl⟩
  | some keyInfo =>
      dsimp only
      rw [Mutating.wp_bind, Mutating.wp_call]
      refine ⟨?_, fun _ _ => hsame⟩
      intro signerCertificate _
      exact ⟨⟨hsignature, hmap, ⟨_, rfl⟩, ⟨_, rfl⟩, hsame⟩, rfl, rfl⟩

theorem wp_getSignatureData (document : Heap) (sigNode : Key) :
    Mutating.wp (getSignatureData jvm lib context sigNode) (Reads lib document sigNode)
      (fun _ after => SameContent document after) document :=
  Mutating.wp_mono (wp_getSignatureData_judged document sigNode) (fun _ _ h => h.1)
    fun _ _ h => h

end Reads

end DefaultXMLSignatureContext

end SigVal.Xml
