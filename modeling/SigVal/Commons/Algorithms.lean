import SigVal.Lib.Java

/-!
# Digest algorithms and their registry

`DigestAlgorithm` and `DigestAlgorithmRegistry` of `sigval-commons`. The
registry is a static map from URI to algorithm; a registration under a URI
that is already taken is ignored. It is modelled as the list of registered
algorithms, so that the state of the registry is an explicit argument.
-/

namespace SigVal.Commons

open SigVal.Java

/-- A digest algorithm: its URI and its object identifier. -/
structure DigestAlgorithm where
  uri : String
  oid : String
deriving DecidableEq, Repr

namespace DigestAlgorithm

/-! The identifiers, from the constants `DigestAlgorithm` takes out of the XML
security and BouncyCastle libraries. The SHA-384 URI is the SHA3-384 constant
in the source, and stays so here. -/

def idSHA1 : String := "http://www.w3.org/2000/09/xmldsig#sha1"
def idSHA224 : String := "http://www.w3.org/2001/04/xmldsig-more#sha224"
def idSHA256 : String := "http://www.w3.org/2001/04/xmlenc#sha256"
def idSHA384 : String := "http://www.w3.org/2007/05/xmldsig-more#sha3-384"
def idSHA512 : String := "http://www.w3.org/2001/04/xmlenc#sha512"
def idSHA3224 : String := "http://www.w3.org/2007/05/xmldsig-more#sha3-224"
def idSHA3256 : String := "http://www.w3.org/2007/05/xmldsig-more#sha3-256"
def idSHA3384 : String := "http://www.w3.org/2007/05/xmldsig-more#sha3-384"
def idSHA3512 : String := "http://www.w3.org/2007/05/xmldsig-more#sha3-512"

def oidSHA1 : String := "1.3.14.3.2.26"
def oidSHA224 : String := "2.16.840.1.101.3.4.2.4"
def oidSHA256 : String := "2.16.840.1.101.3.4.2.1"
def oidSHA384 : String := "2.16.840.1.101.3.4.2.2"
def oidSHA512 : String := "2.16.840.1.101.3.4.2.3"
def oidSHA3224 : String := "2.16.840.1.101.3.4.2.7"
def oidSHA3256 : String := "2.16.840.1.101.3.4.2.8"
def oidSHA3384 : String := "2.16.840.1.101.3.4.2.9"
def oidSHA3512 : String := "2.16.840.1.101.3.4.2.10"

end DigestAlgorithm

/-- The content of `digestAlgorithmMap`, in the map's iteration order. -/
abbrev DigestRegistry := List DigestAlgorithm

namespace DigestAlgorithmRegistry

open DigestAlgorithm

/-- `registerDigestAlgorithm`: a taken URI keeps its algorithm. -/
def registerDigestAlgorithm (reg : DigestRegistry) (uri oid : String) : DigestRegistry :=
  if reg.any (fun a => a.uri == uri) then reg else reg ++ [⟨uri, oid⟩]

/-- The registry after the static initializer. -/
def initial : DigestRegistry :=
  [(idSHA1, oidSHA1), (idSHA224, oidSHA224), (idSHA256, oidSHA256), (idSHA384, oidSHA384),
    (idSHA512, oidSHA512), (idSHA3224, oidSHA3224), (idSHA3256, oidSHA3256),
    (idSHA3384, oidSHA3384), (idSHA3512, oidSHA3512)].foldl
    (fun reg p => registerDigestAlgorithm reg p.1 p.2) []

/-- `get(String uri)`. -/
def get (reg : DigestRegistry) (uri : Option String) : Outcome DigestAlgorithm :=
  match uri with
  | none => .error ⟨.noSuchAlgorithm, "Null digest algorithm"⟩
  | some uri =>
      match reg.find? (fun a => a.uri == uri) with
      | some a => .ok a
      | none => .error ⟨.noSuchAlgorithm, "Digest algorithm " ++ uri ++ " is not registered"⟩

/-- `get(ASN1ObjectIdentifier oid)`. -/
def getByOid (reg : DigestRegistry) (oid : Option String) : Outcome DigestAlgorithm :=
  match oid with
  | none => .error ⟨.noSuchAlgorithm, "Null digest algorithm"⟩
  | some oid =>
      match reg.find? (fun a => a.oid == oid) with
      | some a => .ok a
      | none => .error ⟨.noSuchAlgorithm, "Digest algorithm " ++ oid ++ " is not registered"⟩

end DigestAlgorithmRegistry

end SigVal.Commons
