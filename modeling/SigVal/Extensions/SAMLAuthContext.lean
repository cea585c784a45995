import SigVal.Lib.Dom
import SigVal.Lib.Java

/-!
# Authentication contexts

The contents of a `SAMLAuthContext` element: what identified the signer, and how the
attributes of the assertion became names in the certificate. A value holds elements and
attributes of a document by reference, so its type leaves open what a reference is. Reading
only looks at a document, and here a reference that was read is the subtree itself.

Every class reads the fields of its element first and checks what it requires after that.
Elements are searched for among all descendants, extension elements among the children.
-/

namespace SigVal.Extensions.Saci

open SigVal.Java SigVal.Dom

def SACI_NS : String := "http://id.elegnamnden.se/auth-cont/1.0/saci"
def SAML_ASSERTION_NS : String := "urn:oasis:names:tc:SAML:2.0:assertion"

def SAML_AUTH_CONTEXT_ELEMENT : String := "SAMLAuthContext"
def AUTH_CONTEXT_INFO_ELEMENT : String := "AuthContextInfo"
def ID_ATTRIBUTES_ELEMENT : String := "IdAttributes"
def ATTRIBUTE_MAPPING_ELEMENT : String := "AttributeMapping"
def ATTRIBUTE_ELEMENT : String := "Attribute"
def ATTRIBUTE_VALUE_ELEMENT : String := "AttributeValue"

def IDENTITY_PROVIDER : String := "IdentityProvider"
def AUTHENTICATION_INSTANT : String := "AuthenticationInstant"
def AUTHN_CONTEXT_CLASS_REF : String := "AuthnContextClassRef"
def ASSERTION_REF : String := "AssertionRef"
def SERVICE_ID : String := "ServiceID"
def TYPE : String := "Type"
def REF : String := "Ref"
def NAME : String := "Name"
def NAME_FORMAT : String := "NameFormat"
def FRIENDLY_NAME : String := "FriendlyName"

/-! ## Values -/

variable {E A Instant : Type}

/-- A date and time with its offset from UTC, in seconds. -/
structure OffsetDateTime where
  year : Int
  month : Nat
  day : Nat
  hour : Nat
  minute : Nat
  second : Nat
  nano : Nat
  offset : Int
deriving DecidableEq, Repr

/-- The XML parser and printer, ISO 8601 date-times, and the time zone of the system. -/
structure Platform (Instant : Type) where
  /-- `DOMUtils.getDocument` of the UTF-8 bytes of a text, down to the document element. -/
  getDocument : String → Outcome Node
  /-- The text `DOMUtils.getCanonicalDocText` prints of a document element. -/
  getCanonicalDocText : Node → String
  /-- The indented text of `DOMUtils.getStyledDocText`. -/
  getStyledDocText : Node → String
  /-- `OffsetDateTime.parse`. -/
  parse : String → Outcome OffsetDateTime
  /-- `Instant.from`, of a date-time. -/
  toInstant : OffsetDateTime → Instant
  /-- An instant in the zone of the system. -/
  atZone : Instant → OffsetDateTime
  isoText : OffsetDateTime → String

/-- `Attribute` of an assertion, with elements `E` and attribute nodes `A`. -/
structure Attribute (E A : Type) where
  name : Option String := none
  nameFormat : Option String := none
  friendlyName : Option String := none
  anyAttrList : Option (List A) := none
  attributeValues : Option (List E) := none

/-- `AttributeMapping.Type`. -/
inductive MappingType where
  | rdn
  | san
  | sda
deriving DecidableEq, Repr

namespace MappingType

/-- `name()`. -/
def name : MappingType → String
  | rdn => "rdn"
  | san => "san"
  | sda => "sda"

def values : List MappingType := [rdn, san, sda]

def getTypeFromName (name : Option String) : Option MappingType :=
  values.find? fun type => some type.name == name

end MappingType

/-- `samlAttribute` is the field `attribute`. -/
structure AttributeMapping (E A : Type) where
  type : Option MappingType := none
  ref : Option String := none
  samlAttribute : Option (Attribute E A) := none
  anyList : Option (List E) := none

structure IdAttributes (E A : Type) where
  attributeMappings : Option (List (AttributeMapping E A)) := none

structure AuthContextInfo (E Instant : Type) where
  identityProvider : Option String := none
  authenticationInstant : Option Instant := none
  authnContextClassRef : Option String := none
  assertionRef : Option String := none
  serviceID : Option String := none
  anyList : Option (List E) := none

structure SAMLAuthContext (E A Instant : Type) where
  authContextInfo : Option (AuthContextInfo E Instant) := none
  idAttributes : Option (IdAttributes E A) := none

/-- An attribute node that was read: its qualified name and its value. -/
abbrev Attr := String × String

/-! ## Reading -/

/-- `getAttributeValue`: an attribute with an empty value is taken for an absent one. -/
def getAttributeValue (element : Node) (name : String) : Option String :=
  let val := element.getAttribute name
  if val.length > 0 then some val else none

/-- `getSingleElement`: the first match. -/
def getSingleElement (parent : Node) (namespaceUri elementName : String) : Option Node :=
  (parent.getElementsByTagNameNS namespaceUri elementName).head?

/-- `getOtherAttributes`. -/
def getOtherAttributes (element : Node) (excludeList : List String) : List Attr :=
  element.attributes.filter fun attr => !excludeList.contains attr.1

/-- `Objects.requireNonNull` inside a `try` whose `catch` wraps the exception in a
`CertificateException`. -/
def required {α : Type} (value : Option α) (message : String) : Outcome Unit :=
  match value with
  | some _ => pure ()
  | none => .error ⟨.security, "java.lang.NullPointerException: " ++ message⟩

def parseTime (platform : Platform Instant) (xmlTimeStr : Option String) :
    Outcome (Option Instant) :=
  match xmlTimeStr with
  | none => pure none
  | some text => do
      let dateTime ← platform.parse text
      pure (some (platform.toInstant dateTime))

def Attribute.validate (strictMode : Bool) (x : Attribute E A) : Outcome Unit :=
  if strictMode then required x.name "Name attribute must be present" else pure ()

def Attribute.setValuesFromElement (element : Node) : Attribute Node Attr where
  name := getAttributeValue element NAME
  nameFormat := getAttributeValue element NAME_FORMAT
  friendlyName := getAttributeValue element FRIENDLY_NAME
  anyAttrList := some (getOtherAttributes element [NAME, NAME_FORMAT, FRIENDLY_NAME])
  attributeValues :=
    some (element.getElementsByTagNameNS SAML_ASSERTION_NS ATTRIBUTE_VALUE_ELEMENT)

/-- The constructor that reads an element, as for the classes below. -/
def Attribute.ofElement (strictMode : Bool) (element : Node) : Outcome (Attribute Node Attr) := do
  let samlAttribute := setValuesFromElement element
  samlAttribute.validate strictMode
  pure samlAttribute

def AttributeMapping.validate (x : AttributeMapping E A) : Outcome Unit := do
  required x.type "Type attribute must be present in AttributeMapping"
  required x.ref "Ref attribute must be present in AttributeMapping"
  required x.samlAttribute "Attribute element must be present in AttributeMapping"

/-- Whether a child of a mapping is an extension element. A child without a namespace
throws. -/
def isExtension (child : Node) : Outcome Bool :=
  if child.namespaceURI = "" then .error Exn.nullPointer
  else pure !(child.hasName SAML_ASSERTION_NS ATTRIBUTE_ELEMENT)

def AttributeMapping.setValuesFromElement (strictMode : Bool) (element : Node) :
    Outcome (AttributeMapping Node Attr) := do
  let attributeElm := getSingleElement element SAML_ASSERTION_NS ATTRIBUTE_ELEMENT
  let samlAttribute ← attributeElm.mapM (Attribute.ofElement strictMode)
  let anyList ← element.childElements.filterM isExtension
  pure
    { type := MappingType.getTypeFromName (getAttributeValue element TYPE)
      ref := getAttributeValue element REF
      samlAttribute := samlAttribute
      anyList := some anyList }

def AttributeMapping.ofElement (strictMode : Bool) (element : Node) :
    Outcome (AttributeMapping Node Attr) := do
  let attributeMapping ← setValuesFromElement strictMode element
  attributeMapping.validate
  pure attributeMapping

/-- At least one mapping is required. -/
def IdAttributes.validate (x : IdAttributes E A) : Outcome Unit :=
  match x.attributeMappings with
  | some (_ :: _) => pure ()
  | _ =>
      .error ⟨.security, "No AttributeMapping present in IdAttributes. " ++
        "At least one Attribute mapping must be present in IdAttributes"⟩

def IdAttributes.ofElement (strictMode : Bool) (element : Node) :
    Outcome (IdAttributes Node Attr) := do
  let elements := element.getElementsByTagNameNS SACI_NS ATTRIBUTE_MAPPING_ELEMENT
  let attributeMappings ← elements.mapM (AttributeMapping.ofElement strictMode)
  let idAttributes : IdAttributes Node Attr := { attributeMappings := some attributeMappings }
  idAttributes.validate
  pure idAttributes

def AuthContextInfo.validate (x : AuthContextInfo E Instant) : Outcome Unit := do
  required x.identityProvider "IdentityProvider attribute must be present"
  required x.authenticationInstant "AuthenticationInstant attribute must be present"
  required x.authnContextClassRef "AuthnContextClassRef attribute must be present"

def AuthContextInfo.setValuesFromElement (platform : Platform Instant) (element : Node) :
    Outcome (AuthContextInfo Node Instant) := do
  let authenticationInstant ← parseTime platform (getAttributeValue element AUTHENTICATION_INSTANT)
  pure
    { identityProvider := getAttributeValue element IDENTITY_PROVIDER
      authenticationInstant := authenticationInstant
      authnContextClassRef := getAttributeValue element AUTHN_CONTEXT_CLASS_REF
      assertionRef := getAttributeValue element ASSERTION_REF
      serviceID := getAttributeValue element SERVICE_ID
      anyList := some element.childElements }

def AuthContextInfo.ofElement (platform : Platform Instant) (element : Node) :
    Outcome (AuthContextInfo Node Instant) := do
  let authContextInfo ← setValuesFromElement platform element
  authContextInfo.validate
  pure authContextInfo

namespace SAMLAuthContext

/-- `setValuesFromElement`, whose class requires nothing. -/
def setValuesFromElement (platform : Platform Instant) (strictMode : Bool) (element : Node) :
    Outcome (SAMLAuthContext Node Attr Instant) := do
  let authContextInfoElm := getSingleElement element SACI_NS AUTH_CONTEXT_INFO_ELEMENT
  let authContextInfo ← authContextInfoElm.mapM (AuthContextInfo.ofElement platform)
  let idAttributesElm := getSingleElement element SACI_NS ID_ATTRIBUTES_ELEMENT
  let idAttributes ← idAttributesElm.mapM (IdAttributes.ofElement strictMode)
  pure { authContextInfo := authContextInfo, idAttributes := idAttributes }

/-- A root is refused when neither its namespace nor its name is the expected one. -/
def validateDocument (root : Node) : Outcome Unit :=
  if SACI_NS ≠ root.namespaceURI ∧ SAML_AUTH_CONTEXT_ELEMENT ≠ root.localName then
    .error ⟨.security, "Illegal root element name"⟩
  else pure ()

/-- The constructor that reads a document. -/
def ofDocument (platform : Platform Instant) (strictMode : Bool) (root : Node) :
    Outcome (SAMLAuthContext Node Attr Instant) := do
  let context ← setValuesFromElement platform strictMode root
  validateDocument root
  pure context

end SAMLAuthContext

end SigVal.Extensions.Saci
