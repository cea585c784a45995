import SigVal.Commons.DocumentResult
import SigVal.Jose.SvtClaimsIssuer

/-!
# Validation of a signed JOSE document

`JOSESignedDocumentValidator` reads the signatures of a document and has each of them
validated. The parser leaves `null` in the data of a signature that it could not read, and
`JOSESignatureDataValidatorImpl` is given that data too, so it is modelled on the data as the
parser fills it in. The tokens of a signature are validated by `JOSESVTValidator`, of which
the superclass `SVTValidator` is a library.
-/

namespace SigVal.Svt

open SigVal.Java SigVal.Commons

/-- `SVTValidator`: what `validate` makes of what `getSignatureSVTData` came to. -/
structure SVTValidator where
  validate : Outcome (List SignatureSVTData) → Outcome (Option (List SignatureSVTValidationResult))

/-- What is documented of the library: every item that was collected is validated. -/
def SVTValidator.Validates (svtValidator : SVTValidator)
    (validateSvtData : SignatureSVTData → SignatureSVTValidationResult) : Prop :=
  ∀ svtDataList, svtValidator.validate (.ok svtDataList) =
    .ok (some (svtDataList.map validateSvtData))

/-- `JOSESVTValidator`, at a time. -/
structure JOSESVTValidator (Cert : Type) where
  svt : SvtEnv Cert
  config : SVTValidatorConfig Cert
  now : Date
  svtValidator : SVTValidator

end SigVal.Svt

namespace SigVal.Jose

open SigVal.Java SigVal.Cert SigVal.Commons SigVal.Policy SigVal.Svt
open SigVal.Svt.JOSESVTValidator (JsonValue)

variable {Cert S : Type}

/-- `JOSESignatureDataValidatorImpl`, with the validator of tokens it was given. -/
structure JOSESignatureDataValidatorImpl (Cert : Type) where
  env : JoseEnv Cert
  /-- `JWSHeader.getCustomParams`. -/
  getCustomParams : JWSHeader → List (String × JsonValue)
  certificateValidator : Option (CertificateValidator Cert)
  signaturePolicyValidator : JoseResult Cert → Outcome PolicyValidationResult
  timeStampPolicyVerifier : TimeStampPolicyVerifier Cert
  svtValidator : Option (JOSESVTValidator Cert)

namespace JOSESignatureDataValidatorImpl

/-- The data of a signature that was read. -/
def signatureDataOf (impl : JOSESignatureDataValidatorImpl Cert) (lib : JoseLibrary S)
    (signatureData : RawJOSESignatureData Cert S) : Option (JOSESignatureData Cert) :=
  (signatureData.toSvtData lib).map fun svtData =>
    { svtData with
      verified := signatureData.isVerified
      customParams := signatureData.header.map impl.getCustomParams
      signatureAlgorithm := signatureData.signatureAlgorithm
      signerCertificate := signatureData.signerCertificate }

/-- `svtValidator.validate`, over the `getSignatureSVTData` of the subclass. -/
def svtValidate (svtValidator : JOSESVTValidator Cert) (signatureData : JOSESignatureData Cert) :
    Outcome (Option (List SignatureSVTValidationResult)) :=
  svtValidator.svtValidator.validate
    (JOSESVTValidator.getSignatureSVTData svtValidator.svt svtValidator.config svtValidator.now
      signatureData.toJOSESignatureData)

/-- The validator on signatures that were read. -/
def onRead (impl : JOSESignatureDataValidatorImpl Cert) : JOSESignatureDataValidator Cert where
  certificateValidator := impl.certificateValidator
  signaturePolicyValidator := impl.signaturePolicyValidator
  timeStampPolicyVerifier := impl.timeStampPolicyVerifier
  svtValidator := impl.svtValidator.map svtValidate

/-- A signature that was not read has no header and no payload. No token is found for it, and
the most recent one of none is `null`. In the normal validation, the payload is asked for its
bytes before anything is checked, and the policy is asked nevertheless. -/
def validateUnread (impl : JOSESignatureDataValidatorImpl Cert) : JoseResult Cert :=
  let svtValidationResultList : Outcome (Option (List SignatureSVTValidationResult)) :=
    match impl.svtValidator with
    | none => .ok none
    | some svtValidator => svtValidator.svtValidator.validate (.error Exn.nullPointer)
  match svtValidationResultList with
  | .error ex => JOSESignatureDataValidator.parseFailed ex {}
  | .ok results =>
      match firstValidSvt results with
      | some _ => svtProcessingFailed Exn.nullPointer {}
      | none =>
          let result : JoseResult Cert := {}
          let result := result.setError .ERROR_BAD_FORMAT Exn.nullPointer.msg
            (some Exn.nullPointer)
          JOSESignatureDataValidator.conclude impl.onRead
            { result with coversDocument := true } []

/-- `validateSignature`. -/
def validateSignature (impl : JOSESignatureDataValidatorImpl Cert) (lib : JoseLibrary S)
    (signatureData : RawJOSESignatureData Cert S) : JoseResult Cert :=
  match impl.signatureDataOf lib signatureData with
  | some read => JOSESignatureDataValidator.validateSignature impl.env impl.onRead read
  | none => impl.validateUnread

end JOSESignatureDataValidatorImpl

namespace JOSESignedDocumentValidator

/-- `validate`. The validator of the single signatures is an interface. -/
def validate (env : DocumentEnv Cert S)
    (joseSignatureDataValidator : RawJOSESignatureData Cert S → Outcome (JoseResult Cert))
    (document : Bytes) (detachedPayload : Option Payload) : Outcome (List (JoseResult Cert)) := do
  let signatureDataList ← getJOSEDocumentSignatureData env document detachedPayload
  match signatureDataList.mapM joseSignatureDataValidator with
  | .ok results => pure results
  | .error ex => throw ⟨.signature, ex.msg⟩

/-- `extendedResultValidation`. -/
def extendedResultValidation (env : DocumentEnv Cert S)
    (joseSignatureDataValidator : RawJOSESignatureData Cert S → Outcome (JoseResult Cert))
    (document : Bytes) (detachedPayload : Option Payload) :
    Outcome (SignedDocumentValidationResult (JoseResult Cert)) := do
  let results ← validate env joseSignatureDataValidator document detachedPayload
  pure (getConcludingSigVerifyResult results)

/-- With a validator that does not throw there is a result for each signature, in order. -/
theorem validate_ok {env : DocumentEnv Cert S} {document : Bytes}
    {detachedPayload : Option Payload} {signatureDataList : List (RawJOSESignatureData Cert S)}
    (hparse : getJOSEDocumentSignatureData env document detachedPayload = .ok signatureDataList)
    (validateSignature : RawJOSESignatureData Cert S → JoseResult Cert) :
    validate env (fun signatureData => .ok (validateSignature signatureData)) document
        detachedPayload =
      .ok (signatureDataList.map validateSignature) := by
  have hall : signatureDataList.mapM
      (fun signatureData => (.ok (validateSignature signatureData) : Outcome (JoseResult Cert))) =
        .ok (signatureDataList.map validateSignature) := List.mapM_pure
  unfold validate
  rw [hparse]
  simp only [bind, Except.bind, hall]
  rfl

end JOSESignedDocumentValidator

end SigVal.Jose
