import SigVal.Svt.TokenValidator
import SigVal.Policy.PkixPolicy
import SigVal.Jose.EtsiUComponent

/-!
# Validation of a JOSE signature

`JOSESignatureDataValidatorImpl`. The signature value has been checked when the
document was parsed, so validation starts from that verdict; path validation,
timestamps and policy follow as for XML. Signature timestamps are looked for in
the `etsiU` parameter of the unprotected header.
-/

namespace SigVal.Jose

open SigVal.Java SigVal.Cert SigVal.Commons SigVal.Policy
open SigVal.Svt.JOSESVTValidator (JsonValue)

variable {Cert : Type}

/-- `JOSESignatureData`. The custom parameters are those of the protected
header, when there is one. -/
structure JOSESignatureData (Cert : Type) extends
    Svt.JOSESVTValidator.JOSESignatureData Cert where
  verified : Bool
  customParams : Option (List (String × JsonValue))
  signatureAlgorithm : Option String
  signerCertificate : Option Cert

/-- The libraries a JOSE signature is validated with. -/
structure JoseEnv (Cert : Type) where
  getPublicKey : Cert → PublicKey
  getPkParams : PublicKey → Outcome Unit
  /-- The claimed signing time in RFC 3339 form, `none` when it does not parse. -/
  parseDate : String → Option Date
  /-- The JSON value at the start of a text, as `OBJECT_MAPPER.readValue` parses it. -/
  readJson : String → Outcome (Json JsonScalar)
  /-- The same on the base64url decoded text. -/
  readDecodedJson : String → Outcome (Json JsonScalar)
  base64Decode : String → Outcome Bytes
  base64URLEncode : Bytes → String
  ts : TsEnv Cert
  svt : SvtResultEnv Cert

/-- Results of JOSE validation hold plain timestamps. -/
abbrev JoseResult (Cert : Type) := ExtendedSigValResult Cert (TimeStamp Cert)

/-- `JOSESignatureDataValidatorImpl`, with its collaborators. -/
structure JOSESignatureDataValidator (Cert : Type) where
  certificateValidator : Option (CertificateValidator Cert)
  signaturePolicyValidator : JoseResult Cert → Outcome PolicyValidationResult
  timeStampPolicyVerifier : TimeStampPolicyVerifier Cert
  svtValidator :
    Option (JOSESignatureData Cert → Outcome (Option (List SignatureSVTValidationResult)))

namespace JOSESignatureDataValidator

def getClaimedSigningTime (env : JoseEnv Cert)
    (customParams : Option (List (String × JsonValue))) : Option Date :=
  match customParams.bind (·.lookup "sigT") with
  | some (.string sigT) => env.parseDate sigT
  | _ => none

def etsiUParam (signatureData : JOSESignatureData Cert) : Option JsonValue :=
  signatureData.unprotectedHeader.bind (·.lookup "etsiU")

/-- One item: JSON text, or else its base64url form. -/
def readItem (env : JoseEnv Cert) (etsiUItem : String) : Outcome (Option EtsiUComponent) :=
  match env.readJson etsiUItem >>= EtsiUComponent.ofJson with
  | .ok etsiUComponent => .ok etsiUComponent
  | .error _ => env.readDecodedJson etsiUItem >>= EtsiUComponent.ofJson

/-- The components of the list. Items that are no strings are passed over; one
string that cannot be read in either form empties the whole list. -/
def readComponents (env : JoseEnv Cert) : List JsonValue → Option (List (Option EtsiUComponent))
  | [] => some []
  | .string etsiUItem :: rest =>
      match readItem env etsiUItem with
      | .ok component => (readComponents env rest).map (component :: ·)
      | .error _ => none
  | _ :: rest => readComponents env rest

/-- `Base64.decode(tstToken.getVal())`, with every exception caught. -/
def decodeToken (env : JoseEnv Cert) (tstToken : Option TimeStampToken) : Option Bytes :=
  match (do
    let tstToken ← deref tstToken
    let val ← deref tstToken.val
    env.base64Decode val : Outcome Bytes) with
  | .ok bytes => some bytes
  | .error _ => none

/-- `getSignatureTimestampList`: tokens that do not decode are left out. A component
that was read from `null` throws. -/
def getSignatureTimestampList (env : JoseEnv Cert) (signatureData : JOSESignatureData Cert) :
    Outcome (List Bytes) :=
  match etsiUParam signatureData with
  | some (.list items) => do
      let etsiUComponentList := (readComponents env items).getD []
      let timestampDataLists ← etsiUComponentList.mapM fun etsiUComponent => do
        let etsiUComponent ← deref etsiUComponent
        return etsiUComponent.tokens.filterMap (decodeToken env)
      return timestampDataLists.flatten
  | _ => .ok []

/-- The verified times of the signature timestamps. -/
def timeValidationResults (env : JoseEnv Cert) (v : JOSESignatureDataValidator Cert)
    (signatureData : JOSESignatureData Cert) :
    Outcome (List (TimeValidationResult Cert (TimeStamp Cert))) := do
  let signatureTimeStampDataList ← getSignatureTimestampList env signatureData
  let timestampedBytes := (env.base64URLEncode signatureData.signatureBytes).toUTF8.toList
  let timeStampList :=
    (signatureTimeStampDataList.map fun tsData =>
      TimeStamp.ofToken env.ts v.timeStampPolicyVerifier tsData (some timestampedBytes)).filter
      fun timeStamp => timeStamp.tstInfo.isSome
  return timeStampList.filterMap
    (getTimeValidationResult env.ts.getSubject timeVerificationTypeSigTimestamp)

/-- `validateSignatureData`. Every exception on the way has a handler of its
own, so the result is written out case by case. -/
def validateSignatureData (env : JoseEnv Cert) (signatureData : JOSESignatureData Cert) :
    JoseResult Cert :=
  let result : JoseResult Cert := { signedDocument := some signatureData.payload }
  match signatureData.signerCertificate with
  | none =>
      result.setError .ERROR_BAD_FORMAT "No certificate or public key found in signature's KeyInfo"
        none
  | some validationCertificate =>
      let result :=
        { result with
          signerCertificate := some validationCertificate
          signatureCertificateChain := some signatureData.signatureCertChain }
      match env.getPkParams (env.getPublicKey validationCertificate) with
      | .error ex =>
          result.setError .ERROR_INVALID_SIGNATURE ("Signature is invalid - " ++ ex.msg) (some ex)
      | .ok () =>
          let result := { result with signatureAlgorithm := signatureData.signatureAlgorithm }
          if signatureData.verified then { result with status := .SUCCESS }
          else
            result.setError .ERROR_INVALID_SIGNATURE
              ("Signature is invalid - signature value did not validate correctly or reference " ++
                "digest comparison failed") none

/-- What is reported besides the verdicts; a JOSE signature covers the whole
document. -/
def takeHeaders (env : JoseEnv Cert) (signatureData : JOSESignatureData Cert)
    (result : JoseResult Cert) : JoseResult Cert :=
  { result with
    coversDocument := true
    etsiAdes := (etsiUParam signatureData).isSome
    claimedSigningTime := getClaimedSigningTime env signatureData.customParams }

def parseFailed (ex : Exn) (result : JoseResult Cert) : JoseResult Cert :=
  result.setError .ERROR_INVALID_SIGNATURE "Failed to parse signature data" (some ex)

/-- What follows the timestamps: the policy has the last word. A policy that throws is
an error of the whole validation. -/
def conclude (v : JOSESignatureDataValidator Cert) (result : JoseResult Cert)
    (times : List (TimeValidationResult Cert (TimeStamp Cert))) : JoseResult Cert :=
  let result := { result with timeValidationResults := some times }
  match v.signaturePolicyValidator result with
  | .ok policyValidationResult => result.takePolicyResult policyValidationResult
  | .error ex => parseFailed ex result

/-- Validation without SVT: the direct way through `validateSignature`. -/
def validateDirectly (env : JoseEnv Cert) (v : JOSESignatureDataValidator Cert)
    (signatureData : JOSESignatureData Cert) : JoseResult Cert :=
  let result :=
    takeHeaders env signatureData
      ((validateSignatureData env signatureData).validatePath v.certificateValidator)
  match timeValidationResults env v signatureData with
  | .ok times => conclude v result times
  | .error ex => parseFailed ex result

/-- `compileJOSESigValResultsFromSvtValidation`. -/
def compileJOSESigValResultsFromSvtValidation (env : JoseEnv Cert)
    (svtValResult : SignatureSVTValidationResult) (signatureData : JOSESignatureData Cert) :
    JoseResult Cert :=
  Mutating.tryCatch
    (takeSvtValidation env.svt svtValResult
      (.ok (signatureData.signerCertificate, signatureData.signatureCertChain)))
    svtProcessingFailed
    { takeHeaders env signatureData {} with
      signedDocument := some signatureData.payload
      invalidSignCert := !signatureData.verified }

/-- `validateSignature`. -/
def validateSignature (env : JoseEnv Cert) (v : JOSESignatureDataValidator Cert)
    (signatureData : JOSESignatureData Cert) : JoseResult Cert :=
  let svtValidationResultList : Outcome (Option (List SignatureSVTValidationResult)) :=
    match v.svtValidator with
    | none => .ok none
    | some svtValidate => svtValidate signatureData
  match svtValidationResultList with
  | .error ex => parseFailed ex {}
  | .ok results =>
      match firstValidSvt results with
      | some svtValResult =>
          compileJOSESigValResultsFromSvtValidation env svtValResult signatureData
      | none => validateDirectly env v signatureData

/-! ## When the signature value verifies -/

/-- The signature was verified under the key of its signer certificate. -/
structure DataVerifies (env : JoseEnv Cert) (signatureData : JOSESignatureData Cert)
    (signer : Cert) : Prop where
  signerCertificate : signatureData.signerCertificate = some signer
  pkParams : env.getPkParams (env.getPublicKey signer) = .ok ()
  value : signatureData.verified = true

variable {env : JoseEnv Cert} {signatureData : JOSESignatureData Cert}

/-- The state a verified signature leaves behind. -/
def verifiedResult (signatureData : JOSESignatureData Cert) (signer : Cert) : JoseResult Cert :=
  { status := .SUCCESS
    signedDocument := some signatureData.payload
    signerCertificate := some signer
    signatureCertificateChain := some signatureData.signatureCertChain
    signatureAlgorithm := signatureData.signatureAlgorithm }

theorem validateSignatureData_of_verifies {signer : Cert}
    (h : DataVerifies env signatureData signer) :
    validateSignatureData env signatureData = verifiedResult signatureData signer := by
  unfold validateSignatureData
  simp only [h.signerCertificate, h.pkParams, h.value, if_true]
  rfl

theorem verifies_of_success
    (h : (validateSignatureData env signatureData).status = .SUCCESS) :
    ∃ signer, DataVerifies env signatureData signer := by
  unfold validateSignatureData at h
  cases hsigner : signatureData.signerCertificate with
  | none => simp [hsigner, ExtendedSigValResult.setError] at h
  | some signer =>
      cases hpk : env.getPkParams (env.getPublicKey signer) with
      | error ex => simp [hsigner, hpk, ExtendedSigValResult.setError] at h
      | ok u =>
          cases hverified : signatureData.verified with
          | false => simp [hsigner, hpk, hverified, ExtendedSigValResult.setError] at h
          | true => exact ⟨signer, hsigner, hpk, hverified⟩

end JOSESignatureDataValidator

end SigVal.Jose
