import SigVal.Extensions.AuthnContext
import SigVal.Lib.Mutating
import SigVal.Lib.SharedDom

/-!
# Printing an authentication context

A value that is printed holds elements and attributes of other documents by reference. A
new document is made for it, and every referenced node is adopted by the new document and
put in its place there. So a node leaves the place where it was, and where it was can be in
another element of the same value, or in the new document.
-/

namespace SigVal.Extensions.Saci

open SigVal.Java SigVal.Dom SigVal.SharedDom

variable {E A Instant : Type}

/-! ## Getters

A getter that finds no list makes an empty one. -/

def Attribute.getAnyAttrList (x : Attribute E A) : List A := x.anyAttrList.getD []

def Attribute.getAttributeValues (x : Attribute E A) : List E := x.attributeValues.getD []

def AttributeMapping.getAnyList (x : AttributeMapping E A) : List E := x.anyList.getD []

def IdAttributes.getAttributeMappings (x : IdAttributes E A) : List (AttributeMapping E A) :=
  x.attributeMappings.getD []

def AuthContextInfo.getAnyList (x : AuthContextInfo E Instant) : List E := x.anyList.getD []

/-! ## Times -/

/-- The letter `y` of a pattern stands for the year of the era. -/
def yearOfEra (year : Int) : Int := if 0 < year then year else 1 - year

/-- What the pattern of `XML_DATE_TIME_FORMATTER` shows: the year of the era, and a fraction in
milliseconds. -/
def toPattern (dateTime : OffsetDateTime) : OffsetDateTime :=
  { dateTime with
    year := yearOfEra dateTime.year
    nano := dateTime.nano / 1000000 * 1000000 }

def instantToString (platform : Platform Instant) (instant : Option Instant) : Option String :=
  instant.map fun instant => platform.isoText (toPattern (platform.atZone instant))

/-! ## Elements of the new document -/

def createElementNS (namespaceUri name : String) : Mutating Heap Key := do
  let h ← get
  modify fun h => h.create (.element namespaceUri name [] [])
  pure h.nextKey

/-- `setAttribute`, on an element without an attribute of that name. -/
def setAttribute (element : Key) (name : String) (value : Option String) :
    Mutating Heap PUnit :=
  match value with
  | none => pure ()
  | some value => modify fun h => (h.create (.attr name value)).setAttributeNode element h.nextKey

def adoptElements (adoptingElement : Key) (toBeAdoptedList : Option (List Key)) :
    Mutating Heap PUnit :=
  match toBeAdoptedList with
  | none => pure ()
  | some elements => modify fun h =>
      elements.foldl (fun h element => (h.adoptNode element).appendChild adoptingElement element) h

def adoptAttributes (adoptingElement : Key) (toBeAdoptedList : Option (List Key)) :
    Mutating Heap PUnit :=
  match toBeAdoptedList with
  | none => pure ()
  | some attrs => modify fun h =>
      attrs.foldl (fun h attr => (h.adoptNode attr).setAttributeNode adoptingElement attr) h

def Attribute.getElement (x : Attribute Key Key) : Mutating Heap Key := do
  let samlAttribute ← createElementNS SAML_ASSERTION_NS ATTRIBUTE_ELEMENT
  setAttribute samlAttribute NAME x.name
  setAttribute samlAttribute NAME_FORMAT x.nameFormat
  setAttribute samlAttribute FRIENDLY_NAME x.friendlyName
  adoptAttributes samlAttribute x.anyAttrList
  adoptElements samlAttribute x.attributeValues
  pure samlAttribute

def AttributeMapping.getElement (x : AttributeMapping Key Key) : Mutating Heap Key := do
  let attributeMapping ← createElementNS SACI_NS ATTRIBUTE_MAPPING_ELEMENT
  let type ← Mutating.call (deref x.type)
  setAttribute attributeMapping TYPE (some type.name)
  setAttribute attributeMapping REF x.ref
  let samlAttribute ← Mutating.call (deref x.samlAttribute)
  let element ← samlAttribute.getElement
  modify fun h => h.appendChild attributeMapping element
  adoptElements attributeMapping x.anyList
  pure attributeMapping

/-- The loop over the mappings. -/
def appendMappings (idAttributes : Key) :
    List (AttributeMapping Key Key) → Mutating Heap PUnit
  | [] => pure ()
  | attributeMapping :: rest => do
      let element ← attributeMapping.getElement
      modify fun h => h.appendChild idAttributes element
      appendMappings idAttributes rest

def IdAttributes.getElement (x : IdAttributes Key Key) : Mutating Heap Key := do
  let idAttributes ← createElementNS SACI_NS ID_ATTRIBUTES_ELEMENT
  appendMappings idAttributes x.getAttributeMappings
  pure idAttributes

def AuthContextInfo.getElement (platform : Platform Instant) (x : AuthContextInfo Key Instant) :
    Mutating Heap Key := do
  let authContextInfo ← createElementNS SACI_NS AUTH_CONTEXT_INFO_ELEMENT
  setAttribute authContextInfo IDENTITY_PROVIDER x.identityProvider
  setAttribute authContextInfo AUTHENTICATION_INSTANT
    (instantToString platform x.authenticationInstant)
  setAttribute authContextInfo AUTHN_CONTEXT_CLASS_REF x.authnContextClassRef
  setAttribute authContextInfo ASSERTION_REF x.assertionRef
  setAttribute authContextInfo SERVICE_ID x.serviceID
  adoptElements authContextInfo x.anyList
  pure authContextInfo

/-- `parent.appendChild(value.getElement(document))`, for a value that is there. -/
def appendElement {α : Type} (parent : Key) (getElement : α → Mutating Heap Key) :
    Option α → Mutating Heap PUnit
  | none => pure ()
  | some value => do
      let element ← getElement value
      modify fun h => h.appendChild parent element

namespace SAMLAuthContext

def getElement (platform : Platform Instant) (x : SAMLAuthContext Key Key Instant) :
    Mutating Heap Key := do
  let samlAuthContext ← createElementNS SACI_NS SAML_AUTH_CONTEXT_ELEMENT
  appendElement samlAuthContext (AuthContextInfo.getElement platform) x.authContextInfo
  appendElement samlAuthContext IdAttributes.getElement x.idAttributes
  pure samlAuthContext

/-- `getDocument`, down to the document element of the new document. -/
def getDocument (platform : Platform Instant) (x : SAMLAuthContext Key Key Instant) :
    Mutating Heap Key := x.getElement platform

end SAMLAuthContext

/-- `AuthnContext.printAuthnContext`. -/
def printAuthnContext (platform : Platform Instant) (authnContext : SAMLAuthContext Key Key Instant)
    (formatted : Bool) : Mutating Heap String := do
  let document ← authnContext.getDocument platform
  let h ← get
  pure (if formatted then platform.getStyledDocText (h.tree document)
    else platform.getCanonicalDocText (h.tree document))

/-! ## What a value holds -/

variable {E' A' : Type}

/-- The value with what its references show. -/
def Attribute.map (f : E → E') (g : A → A') (x : Attribute E A) : Attribute E' A' where
  name := x.name
  nameFormat := x.nameFormat
  friendlyName := x.friendlyName
  anyAttrList := x.anyAttrList.map (List.map g)
  attributeValues := x.attributeValues.map (List.map f)

def AttributeMapping.map (f : E → E') (g : A → A') (x : AttributeMapping E A) :
    AttributeMapping E' A' where
  type := x.type
  ref := x.ref
  samlAttribute := x.samlAttribute.map (Attribute.map f g)
  anyList := x.anyList.map (List.map f)

def IdAttributes.map (f : E → E') (g : A → A') (x : IdAttributes E A) : IdAttributes E' A' where
  attributeMappings := x.attributeMappings.map (List.map (AttributeMapping.map f g))

def AuthContextInfo.map (f : E → E') (x : AuthContextInfo E Instant) :
    AuthContextInfo E' Instant where
  identityProvider := x.identityProvider
  authenticationInstant := x.authenticationInstant
  authnContextClassRef := x.authnContextClassRef
  assertionRef := x.assertionRef
  serviceID := x.serviceID
  anyList := x.anyList.map (List.map f)

def SAMLAuthContext.map (f : E → E') (g : A → A') (x : SAMLAuthContext E A Instant) :
    SAMLAuthContext E' A' Instant where
  authContextInfo := x.authContextInfo.map (AuthContextInfo.map f)
  idAttributes := x.idAttributes.map (IdAttributes.map f g)

/-- The content of a value. -/
def SAMLAuthContext.content (h : Heap) (x : SAMLAuthContext Key Key Instant) :
    SAMLAuthContext Node Attr Instant :=
  x.map h.tree h.attrOf

/-! The nodes that printing moves, in the order of the moves. -/

def Attribute.moved (x : Attribute E E) : List E := x.getAnyAttrList ++ x.getAttributeValues

def AttributeMapping.moved (x : AttributeMapping E E) : List E :=
  (x.samlAttribute.map Attribute.moved).getD [] ++ x.getAnyList

def IdAttributes.moved (x : IdAttributes E E) : List E :=
  x.getAttributeMappings.flatMap AttributeMapping.moved

def SAMLAuthContext.moved (x : SAMLAuthContext E E Instant) : List E :=
  (x.authContextInfo.map AuthContextInfo.getAnyList).getD [] ++
    (x.idAttributes.map IdAttributes.moved).getD []

end SigVal.Extensions.Saci
