import SigVal.Lib.DomChanges
import SigVal.Xml.SvtClaimsIssuer

/-!
# Extending XML signatures with SVT tokens

`XMLDocumentSVTIssuer.issueSvt` has a token issued for each signature of a document and
then puts the tokens into the document, each in a new `ds:SignatureProperty` of its
signature. The document is changed in place, one signature after the other, and what was
changed stays changed when a later step throws.
-/

namespace SigVal.Xml

open SigVal.Java SigVal.LinkedDom SigVal.Commons SigVal.Svt
open Svt.XMLSVTValidator (xmldsigNS xmlSvtNS)
open Jose (SVTExtendpolicy)

variable {Cert : Type}

/-- The libraries behind the extension of a document. -/
structure XmlExtensionEnv (Cert : Type) extends XmlIssuerEnv Cert where
  /-- `SignedJWT.serialize`. -/
  serialize : SignedJWT → String
  /-- The number that is drawn for a signature element without an identifier. -/
  secureRandom : Key → String

/-- `SVTExtensionData`. -/
structure SVTExtensionData where
  element : Key
  signedJWT : SignedJWT
  svtMethod : SVTExtendpolicy

namespace XMLDocumentSVTIssuer

/-- `XMLSigUtils.getSignatures`. -/
def getSignatures (document : Heap) : List Key :=
  document.getElementsByTagNameNS documentKey xmldsigNS "Signature"

/-- The tokens below an element. -/
def svtElements (document : Heap) (sigPropElement : Key) : List Key :=
  document.getElementsByTagNameNS sigPropElement xmlSvtNS "SignatureValidationToken"

def getSvtSignaturePropertyElements (document : Heap) (contextRoot : Key) : List Key :=
  (document.getElementsByTagNameNS contextRoot xmldsigNS "SignatureProperty").filter
    fun sigPropElement => decide (0 < (svtElements document sigPropElement).length)

/-! ## Removing -/

/-- An element that is removed when it is left without children. -/
def isPrunable (jvm : Jvm) (content : Content) : Bool :=
  content.isElement && !jvm.equalsIgnoreCase content.localName "Signature"

/-- `emptyParentElement`. -/
def emptyParentElement (jvm : Jvm) (document : Heap) (parentNode : Key) : Bool :=
  isPrunable jvm (document.contentOf parentNode) && (document.children parentNode).isEmpty

/-- `removeElement` of an element with these ancestors. A parent that is left empty is
removed next; without a parent the call fails. -/
def removeAlong (jvm : Jvm) : Key → List Key → Mutating Heap Unit
  | _, [] => throw Exn.nullPointer
  | elementToRemove, parentNode :: rest => do
      modify (·.removeChild elementToRemove)
      let document ← get
      if emptyParentElement jvm document parentNode then removeAlong jvm parentNode rest

def removeElement (jvm : Jvm) (elementToRemove : Key) : Mutating Heap Unit := do
  let document ← get
  removeAlong jvm elementToRemove (document.chain elementToRemove)

/-- The elements one after the other. -/
def removeElements (jvm : Jvm) : List Key → Mutating Heap Unit
  | [] => pure ()
  | element :: rest => do
      removeElement jvm element
      removeElements jvm rest

/-! ## Adding -/

/-- A `ds` element with the prefix of the signature. -/
def dsContent (document : Heap) (sigElement : Key) (localName : String) : Content :=
  .element xmldsigNS localName (document.contentOf sigElement).getPrefix []

/-- The `SignatureProperties` that `getTargetSignaturePropertiesElement` finds: the
parent of a property that holds a token, or else the first one. -/
def existingTarget (jvm : Jvm) (document : Heap) (sigElement : Key) : Option Key :=
  let sigPropertiesNodeList :=
    document.getElementsByTagNameNS sigElement xmldsigNS "SignatureProperties"
  let svtSigPropElementList :=
    sigPropertiesNodeList.flatMap (getSvtSignaturePropertyElements document)
  let parentNode := svtSigPropElementList.head?.bind fun element => (document.chain element).head?
  match parentNode with
  | some parentNode =>
      if jvm.equalsIgnoreCase (document.contentOf parentNode).localName "SignatureProperties" then
        some parentNode
      else sigPropertiesNodeList.head?
  | none => sigPropertiesNodeList.head?

/-- The target, and the document with it. -/
def getTargetSignaturePropertiesElement (jvm : Jvm) (document : Heap) (sigElement : Key) :
    Key × Heap :=
  match existingTarget jvm document sigElement with
  | some target => (target, document)
  | none =>
      let svtObject := document.nextKey
      let withObject := document.appendChild sigElement (dsContent document sigElement "Object")
      (withObject.nextKey, withObject.appendChild svtObject
        (dsContent withObject sigElement "SignatureProperties"))

/-- The identifier of the signature, and the document with it. -/
def ensureId (secureRandom : Key → String) (document : Heap) (sigElement : Key) : String × Heap :=
  let sigId := (document.contentOf sigElement).getAttribute "Id"
  if sigId = "" then
    let sigId := "id_" ++ secureRandom sigElement
    (sigId, document.setAttribute sigElement "Id" sigId)
  else (sigId, document)

/-- The new property of a signature below the target. -/
def fillTarget (secureRandom : Key → String) (sigElement : Key) (token : String)
    (targetSignaturePropertiesElement : Key) (document : Heap) : Heap :=
  let signatureProperty := document.nextKey
  let document := document.appendChild targetSignaturePropertiesElement
    (dsContent document sigElement "SignatureProperty")
  let (sigId, document) := ensureId secureRandom document sigElement
  let document := document.setAttribute signatureProperty "Target" ("#" ++ sigId)
  let signatureValidationToken := document.nextKey
  let document := document.appendChild signatureProperty
    (.element xmlSvtNS "SignatureValidationToken" "svt" [])
  document.setTextContent signatureValidationToken token

/-- The part of a turn that does not throw. -/
def addSignatureProperty (jvm : Jvm) (secureRandom : Key → String) (sigElement : Key)
    (token : String) (document : Heap) : Heap :=
  let (target, document) := getTargetSignaturePropertiesElement jvm document sigElement
  fillTarget secureRandom sigElement token target document

/-- One turn of the loop of `extendDocumentSignature`. -/
def extendSignature (env : XmlExtensionEnv Cert) (svtExtensionData : SVTExtensionData) :
    Mutating Heap Unit := do
  let sigElement := svtExtensionData.element
  let document ← get
  let svtSignaturePropertyElements := getSvtSignaturePropertyElements document sigElement
  if svtExtensionData.svtMethod = .REPLACE then
    removeElements env.jvm svtSignaturePropertyElements
  modify (addSignatureProperty env.jvm env.secureRandom sigElement
    (env.serialize svtExtensionData.signedJWT))

/-- The loop. -/
def extendSignatures (env : XmlExtensionEnv Cert) : List SVTExtensionData → Mutating Heap Unit
  | [] => pure ()
  | svtExtensionData :: rest => do
      extendSignature env svtExtensionData
      extendSignatures env rest

def extendDocumentSignature (env : XmlExtensionEnv Cert)
    (svtExtensionDataList : List SVTExtensionData) : Mutating Heap Bytes := do
  extendSignatures env svtExtensionDataList
  let document ← get
  Mutating.call (env.lib.getCanonicalDocBytes document)

/-! ## Issuing -/

variable [DecidableEq Cert]

/-- The token of a signature. An exception on the way is logged, and there is no token
then. -/
def signedSvtJWT (env : XmlExtensionEnv Cert) (svtClaimsIssuer : XMLSVTSigValClaimsIssuer Cert)
    (document : Heap) (sigValInput : XMLSigValInput Cert) : Option SignedJWT :=
  match XMLSVTSigValClaimsIssuer.getSignedSvtJWT env.toXmlIssuerEnv svtClaimsIssuer document
      sigValInput with
  | .ok signedSvtJWT => signedSvtJWT
  | .error _ => none

/-- The body of the loop of `issueSvt`. -/
def extensionData (env : XmlExtensionEnv Cert) (svtClaimsIssuer : XMLSVTSigValClaimsIssuer Cert)
    (context : DefaultXMLSignatureContext) (svtMethod : SVTExtendpolicy)
    (issueSvtOnFailedValidation : Bool) (signature : Key) :
    Mutating Heap (Option SVTExtensionData) := do
  let signatureData ←
    DefaultXMLSignatureContext.getSignatureData env.jvm env.lib context signature
  let document ← get
  let signedSvtJWT := signedSvtJWT env svtClaimsIssuer document
    ⟨signature, signatureData, svtMethod⟩
  let shouldBeIssued ← Mutating.call
    (SVTUtils.checkIfSVTShouldBeIssued signedSvtJWT issueSvtOnFailedValidation)
  if shouldBeIssued then
    pure (signedSvtJWT.map fun signedSvtJWT => ⟨signature, signedSvtJWT, svtMethod⟩)
  else throw ⟨.io, "SVT request for document with invalid signatures"⟩

def issueSvt (env : XmlExtensionEnv Cert) (svtClaimsIssuer : XMLSVTSigValClaimsIssuer Cert)
    (svtMethod : SVTExtendpolicy) (issueSvtOnFailedValidation : Bool) :
    Mutating Heap Bytes := do
  let document ← get
  let signatures := getSignatures document
  let signatureContext ← Mutating.call (DefaultXMLSignatureContext.new env.lib document)
  let svtExtensionDataList ← signatures.mapM
    (extensionData env svtClaimsIssuer signatureContext svtMethod issueSvtOnFailedValidation)
  extendDocumentSignature env (svtExtensionDataList.filterMap id)

end XMLDocumentSVTIssuer

end SigVal.Xml
