import SigVal.Lib.Java

/-!
# Validation results and SVT claims

The data that validators hand to each other: conclusions and statuses of
signature validation, the claims of a Signature Validation Token, and the
signed JWT that carries them. The field names are the source's, in camel case.
Every list or text a parser may leave out is an `Option`.
-/

namespace SigVal.Commons

open SigVal.Java

/-! ## Conclusions and statuses -/

/-- `ValidationConclusion` of a policy check. -/
inductive ValidationConclusion where
  | PASSED
  | FAILED
  | INDETERMINATE
deriving DecidableEq, Repr

/-- `SignatureValidationResult.Status`. -/
inductive Status where
  | SUCCESS
  | INTERDETERMINE
  | ERROR_BAD_FORMAT
  | ERROR_SIGNER_NOT_ACCEPTED
  | ERROR_INVALID_SIGNATURE
  | ERROR_SIGNER_INVALID
  | ERROR_NOT_TRUSTED
deriving DecidableEq, Repr

/-! The identifiers of `SigValIdentifiers` that the modelled code writes. -/

def timeVerificationTypeSigTimestamp : String :=
  "http://id.swedenconnect.se/svt/timeval-type/sig-timestamp/01"
def timeVerificationTypePdfDocTimestamp : String :=
  "http://id.swedenconnect.se/svt/timeval-type/pdf-doc-timestamp/01"
def timeVerificationTypeSvt : String := "http://id.swedenconnect.se/svt/timeval-type/svt/01"
def sigValidationPolicyBasicValidation : String :=
  "http://id.swedenconnect.se/svt/sigval-policy/basic/01"
def sigValidationPolicyPkixValidation : String :=
  "http://id.swedenconnect.se/svt/sigval-policy/pkix/01"
def sigValidationPolicyTimestampedPkixValidation : String :=
  "http://id.swedenconnect.se/svt/sigval-policy/ts-pkix/01"

/-! ## SVT claims -/

structure PolicyValidationClaims where
  pol : String
  res : ValidationConclusion
  msg : Option String
deriving DecidableEq, Repr

/-- `PolicyValidationResult`: the claims of a policy and the status it sets. -/
structure PolicyValidationResult where
  policyValidationClaims : PolicyValidationClaims
  status : Status
deriving DecidableEq, Repr

/-- `TimeValidationClaims`; the builder leaves the hash of the timestamp out. -/
structure TimeValidationClaims where
  id : Option String
  iss : Option String
  time : Int
  type : String
  val : List PolicyValidationClaims
  hash : Option String := none
deriving DecidableEq, Repr

structure SigReferenceClaims where
  id : Option String
  sigHash : String
  sbHash : String
deriving DecidableEq, Repr

structure SignedDataClaims where
  ref : String
  hash : String
deriving DecidableEq, Repr

structure SignatureClaims where
  sigRef : SigReferenceClaims
  sigDataRef : List SignedDataClaims
  sigVal : Option (List PolicyValidationClaims)
  timeVal : Option (List TimeValidationClaims)
deriving DecidableEq, Repr

structure SVTClaims where
  hashAlgo : Option String
  sig : Option (List SignatureClaims)
deriving DecidableEq, Repr

/-! ## The signed JWT -/

/-- A JWS algorithm name, an open set in the JOSE library. -/
abbrev JWSAlgorithm := String

structure JWSHeader where
  algorithm : JWSAlgorithm
  keyID : Option String
  x509CertChain : Option (List Bytes)
deriving DecidableEq, Repr

/-- The registered claims the code reads, and the `sig_val_claims` object when
it is present and maps to `SVTClaims`. -/
structure JWTClaimsSet where
  issuer : Option String
  jwtID : Option String
  issueTime : Option Date
  expirationTime : Option Date
  sigValClaims : Option SVTClaims
deriving DecidableEq, Repr

/-- A parsed token. `claimsSet` is `none` when the payload is not a JSON
object, and `getJWTClaimsSet` throws then. -/
structure SignedJWT where
  header : JWSHeader
  claimsSet : Option JWTClaimsSet
  signingInput : Bytes
  signature : Bytes
deriving DecidableEq, Repr

def SignedJWT.getJWTClaimsSet (jwt : SignedJWT) : Outcome JWTClaimsSet :=
  match jwt.claimsSet with
  | some claims => .ok claims
  | none => .error ⟨.parse, "Payload of JWS object is not a valid JSON object"⟩

theorem SignedJWT.getJWTClaimsSet_ok_iff {jwt : SignedJWT} {cs : JWTClaimsSet} :
    jwt.getJWTClaimsSet = .ok cs ↔ jwt.claimsSet = some cs := by
  unfold getJWTClaimsSet
  cases jwt.claimsSet <;> simp

/-- What SVT validation collects about one signature (`SignatureSVTData`). -/
structure SignatureSVTData where
  signedJWT : SignedJWT
  signatureReference : SigReferenceClaims
  signatureClaims : SignatureClaims
  signedDataRefList : List SignedDataClaims
  signerCertChain : List Bytes
deriving DecidableEq, Repr

end SigVal.Commons
