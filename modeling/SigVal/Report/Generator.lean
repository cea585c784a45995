import SigVal.Report.ValidationObjects

/-!
# The validation report

`AbstractSigValReportGenerator`: the validation objects of all results come first, then
one report for each signature, with references to them. What an implementation for one
document format decides is in `SigValReportGenerator`.
-/

namespace SigVal.Report

open SigVal.Java SigVal.Cert SigVal.Commons ValidationObjectProcessor

variable {Cert : Type}

inductive MainIndication where
  | TOTAL_PASSED
  | TOTAL_FAILED
  | INDETERMINATE
deriving DecidableEq, Repr

/-- The sub indications that are reported. -/
inductive SubIndication where
  | FORMAT_FAILURE
  | SIG_CRYPTO_FAILURE
  | REVOKED
  | CERTIFICATE_CHAIN_GENERAL_FAILURE
  | EXPIRED
  | NOT_YET_VALID
  | POLICY_PROCESSING_ERROR
  | NO_SIGNING_CERTIFICATE_FOUND
  | NO_CERTIFICATE_CHAIN_FOUND
  | DOCUMENT_PARTIALLY_SIGNED
deriving DecidableEq, Repr

/-- `ValidationStatusType`, with the messages of its report data. -/
structure ValidationStatusType where
  mainIndication : MainIndication
  subIndications : List SubIndication
  messages : List String
deriving DecidableEq, Repr

structure DigestAlgAndValue where
  algorithm : Option String
  digestValue : Bytes
deriving DecidableEq, Repr

/-! ## The parts of a report -/

/-- `ValidationObjectRepresentationType`. -/
inductive Representation where
  | base64 (bytes : Option Bytes)
  | digestAlgAndValue (algorithm : Option String) (digestValue : Option Bytes)
deriving DecidableEq, Repr

/-- `POEType`; all proofs are of the type `validation`. -/
structure POE where
  poeTime : Date
  poeObject : Option String := none
deriving DecidableEq, Repr

/-- `SignatureAttributesType`; the certificate and the timestamps are references. -/
structure SignatureAttributes where
  signingTime : Option Date
  dataObjectFormat : String
  signingCertificate : String
  signatureTimeStamps : List String
  signatureMethod : Option String
  authnContext : Option String
deriving DecidableEq, Repr

/-- The libraries behind a report. -/
structure ReportEnv (Cert : Type) extends ObjectEnv Cert where
  jvm : Jvm
  now : Date
  getNotBefore : Cert → Date
  getNotAfter : Cert → Date
  getSubject : Cert → String
  /-- The authentication context extension, when the certificate has one that parses.
  A certificate that cannot be parsed itself is an exception. -/
  getAuthnContext : Cert → Outcome (Option String)

/-- What the generator of a document format adds. -/
structure SigValReportGenerator (Cert : Type) where
  defaultHashAlgo : Option String
  getSignatureQuality : SigValResult Cert → String
  getSignatureValidationProcess : SigValResult Cert → Option String → Outcome String
  dataObjectFormat : String
  getSignatureDtbsDigestAndValue : SigValResult Cert → Option String → Outcome DigestAlgAndValue
  getSignatureValue : SigValResult Cert → Outcome Bytes
  /-- The last change of the status. -/
  applyValidationPolicy : SigValResult Cert → ValidationStatusType → ValidationStatusType

namespace AbstractSigValReportGenerator

variable (env : ReportEnv Cert) (generator : SigValReportGenerator Cert)

/-- The hash algorithm of the token, or the default one. -/
def getHashAlgo (validationResult : SigValResult Cert) : Option String :=
  let svtClaims : Outcome SVTClaims := do
    let svtJWT ← deref validationResult.svtJWT
    let claimsSet ← svtJWT.getJWTClaimsSet
    SVAUtils.getSVTClaims claimsSet
  match svtClaims with
  | .ok svtClaims => svtClaims.hashAlgo
  | .error _ => generator.defaultHashAlgo

/-! ## Collecting the objects -/

def representationOf (object : ValidationObject) : Option Representation :=
  match object.representationType with
  | .base64 => some (.base64 object.validationObject)
  | .hash => some (.digestAlgAndValue object.hashAlgorithm object.hashValue)
  | .direct | .resourceUri => none

def isValidTime (timeValidationResult : Option (TimeValidationResult Cert)) : Outcome Bool := do
  let timeValidationResult ← deref timeValidationResult
  match timeValidationResult.timeValidationClaims with
  | none => pure false
  | some claims => anyPassed (claims.val.getD [])

/-- `filter(isValidTime)`. -/
def validTimes : List (Option (TimeValidationResult Cert)) →
    Outcome (List (Option (TimeValidationResult Cert)))
  | [] => .ok []
  | t :: rest => do
      let valid ← isValidTime t
      let times ← validTimes rest
      pure (if valid then t :: times else times)

def getTime (timeValidationResult : Option (TimeValidationResult Cert)) : Outcome Int := do
  let timeValidationResult ← deref timeValidationResult
  let claims ← deref timeValidationResult.timeValidationClaims
  pure claims.time

/-- The difference is cast to `int`. -/
def compareTimes (o1 o2 : Option (TimeValidationResult Cert)) : Outcome Int := do
  let time1 ← getTime o1
  let time2 ← getTime o2
  pure (toInt (toLong (time1 - time2)))

def getBestSignatureTime (sigValResult : SigValResult Cert) (hashAlgoId : Option String) :
    Outcome POE := do
  let valid ← validTimes (sigValResult.timeValidationResults.getD [])
  let sorted ← sortWith compareTimes valid
  match sorted.head? with
  | none => pure ⟨env.now, none⟩
  | some timeValidationResult => do
      let time ← getTime timeValidationResult
      pure ⟨toLong (time * 1000), getTimeId env.toObjectEnv timeValidationResult hashAlgoId⟩

/-- The reference to a certificate. -/
def certificateReference (cert : Cert) (hashAlgoId : Option String) : Outcome String := do
  let encoded ← env.getEncoded cert
  getId env.toObjectEnv encoded hashAlgoId .certificate

/-- `addSignerAttributes` with a signer certificate. -/
def signerAttributes (sigValResult : SigValResult Cert) (signerCertificate : Cert)
    (hashAlgoId : Option String) : Outcome SignatureAttributes := do
  let signingCertificate ← certificateReference env signerCertificate hashAlgoId
  let authnContext ← env.getAuthnContext signerCertificate
  pure
    { signingTime := sigValResult.claimedSigningTime
      dataObjectFormat := generator.dataObjectFormat
      signingCertificate := signingCertificate
      signatureTimeStamps := (sigValResult.timeValidationResults.getD []).filterMap fun t =>
        getTimeId env.toObjectEnv t hashAlgoId
      signatureMethod := sigValResult.signatureAlgorithm
      authnContext := authnContext }

end AbstractSigValReportGenerator

end SigVal.Report
