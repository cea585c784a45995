import SigVal.Svt.TokenValidator
import SigVal.Policy.PkixPolicy

/-!
# Validation of an XML signature

`XMLSignatureElementValidatorImpl` and the `XAdESObjectParser` it uses. The
signature value is checked first, then the certificate path, then the XAdES
properties and the timestamps; the policy validator has the last word. The XML
security library, the JAXB objects and the canonicalizer are in `XmlEnv`.
-/

namespace SigVal.Xml

open SigVal.Java SigVal.Dom SigVal.Cert SigVal.Commons SigVal.Policy

variable {Cert : Type}

/-- `SignatureData` of an XML signature. -/
structure SignatureData (Cert : Type) extends Svt.XMLSVTValidator.SignatureData Cert where
  signerCertificate : Option Cert
  signedDocument : Option Bytes
  coversWholeDoc : Bool

/-! ## XAdES properties -/

structure DigestAlgAndValue where
  algorithm : Option String
  digestValue : Bytes

structure XadesSignatureTimestampData where
  canonicalizationMethod : String
  timeStampSignatureBytes : Bytes

structure SignedProperties where
  id : Option String
  signingTime : Option Date
  signingCertificateV2 : Option (List DigestAlgAndValue)
  signingCertificate : Option (List DigestAlgAndValue)

/-- The JAXB object of a `QualifyingProperties` element, with the signature
timestamps of its unsigned properties. -/
structure QualifyingProperties where
  signedProperties : Option SignedProperties
  signatureTimeStamps : List XadesSignatureTimestampData

/-- `XMLSignature` of the XML security library. -/
structure XMLSignature where
  /-- `getKeyInfo().getPublicKey()`. -/
  keyInfoPublicKey : Outcome (Option PublicKey)
  signatureMethodURI : Outcome String
  checkSignatureValue : PublicKey → Outcome Bool

/-- The libraries an XML signature is validated with. -/
structure XmlEnv (Cert : Type) where
  newXMLSignature : Node → Outcome XMLSignature
  getPublicKey : Cert → PublicKey
  getEncoded : Cert → Outcome Bytes
  getPkParams : PublicKey → Outcome Unit
  unmarshal : Node → Outcome QualifyingProperties
  /-- The canonical form of the `SignatureValue` element, `none` on failure. -/
  getTimestampedBytes : Node → String → Option Bytes
  ts : TsEnv Cert
  svt : SvtResultEnv Cert

/-- `XAdESObjectParser`: what it found in a signature. -/
structure XAdESObjectParser where
  qualifyingProperties : Option QualifyingProperties

namespace XAdESObjectParser

def xadesNamespace : String := "http://uri.etsi.org/01903/v1.3.2#"

/-- The first properties whose signed properties the signature refers to. -/
def findQualifyingProperties (env : XmlEnv Cert) (signatureData : SignatureData Cert) :
    List Node → Outcome (Option QualifyingProperties)
  | [] => .ok none
  | node :: rest => do
      let qp ← env.unmarshal node
      let referenced := qp.signedProperties.any fun sp =>
        signatureData.refDataMap.any fun ref => ref.1 == "#" ++ sp.id.getD "null"
      if referenced then pure (some qp) else findQualifyingProperties env signatureData rest

def parse (env : XmlEnv Cert) (sigNode : Node) (signatureData : SignatureData Cert) :
    Outcome XAdESObjectParser := do
  let qp ← findQualifyingProperties env signatureData
    (sigNode.getElementsByTagNameNS xadesNamespace "QualifyingProperties")
  pure ⟨qp⟩

def signedProperties (xades : XAdESObjectParser) : Option SignedProperties :=
  xades.qualifyingProperties.bind (·.signedProperties)

def claimedSigningTime (xades : XAdESObjectParser) : Option Date :=
  xades.signedProperties.bind (·.signingTime)

/-- The certificate references; the second version of the property has
precedence. -/
def certHashList (xades : XAdESObjectParser) : Option (List DigestAlgAndValue) :=
  xades.signedProperties.bind fun sp => sp.signingCertificateV2.or sp.signingCertificate

def signatureTimeStampDataList (xades : XAdESObjectParser) :
    Option (List XadesSignatureTimestampData) :=
  xades.qualifyingProperties.map (·.signatureTimeStamps)

/-- One reference: an error while comparing counts as no match. -/
def matchesCert (env : XmlEnv Cert) (signerCert : Option Cert) (ref : DigestAlgAndValue) : Bool :=
  let compared : Outcome Bool := do
    let algorithm ← DigestAlgorithmRegistry.get env.ts.registry ref.algorithm
    let cert ← deref signerCert
    let encoded ← env.getEncoded cert
    let digest ← env.ts.digest algorithm encoded
    pure (digest == ref.digestValue)
  match compared with
  | .ok b => b
  | .error _ => false

def isXadesVerified (env : XmlEnv Cert) (xades : XAdESObjectParser) (signerCert : Option Cert) :
    Bool :=
  (xades.certHashList.getD []).any (matchesCert env signerCert)

end XAdESObjectParser

/-! ## The validator -/

/-- Results of XML validation hold plain timestamps. -/
abbrev XmlResult (Cert : Type) := ExtendedSigValResult Cert (TimeStamp Cert)

/-- `XMLSignatureElementValidatorImpl`, with its collaborators. -/
structure XMLSignatureElementValidator (Cert : Type) where
  certificateValidator : Option (CertificateValidator Cert)
  signaturePolicyValidator : XmlResult Cert → Outcome PolicyValidationResult
  timeStampPolicyVerifier : TimeStampPolicyVerifier Cert
  xmlsvtValidator :
    Option (Node → SignatureData Cert → Outcome (Option (List SignatureSVTValidationResult)))

namespace XMLSignatureElementValidator

/-- The check of the signature value, `true` when it verified. Of the
exceptions only the two classes the `catch` clause names end here. -/
def checkValue (env : XmlEnv Cert) (xmlSignature : XMLSignature) (validationKey : PublicKey) :
    Mutating (XmlResult Cert) Bool :=
  Mutating.catching
    (do
      Mutating.call (env.getPkParams validationKey)
      let uri ← Mutating.call xmlSignature.signatureMethodURI
      modify ({ · with signatureAlgorithm := some uri })
      if ← Mutating.call (xmlSignature.checkSignatureValue validationKey) then pure true
      else
        modify
          (·.setError .ERROR_INVALID_SIGNATURE
            ("Signature is invalid - signature value did not validate correctly or reference " ++
              "digest comparison failed") none)
        pure false)
    fun ex =>
      if ex.cls = .xmlSignature ∨ ex.cls = .io then do
        modify
          (·.setError .ERROR_INVALID_SIGNATURE ("Signature is invalid - " ++ ex.msg) (some ex))
        pure false
      else throw ex

/-- The body of `validateSignatureElement`. -/
def checkElement (env : XmlEnv Cert) (signature : Node) (signatureData : SignatureData Cert) :
    Mutating (XmlResult Cert) Unit := do
  let xmlSignature ← Mutating.call (env.newXMLSignature signature)
  let validationKey ←
    match signatureData.signerCertificate with
    | none => Mutating.call xmlSignature.keyInfoPublicKey
    | some validationCertificate => do
        modify
          ({ · with
            signerCertificate := some validationCertificate
            signatureCertificateChain := some signatureData.signatureCertChain })
        pure (some (env.getPublicKey validationCertificate))
  match validationKey with
  | none =>
      modify
        (·.setError .ERROR_BAD_FORMAT "No certificate or public key found in signature's KeyInfo"
          none)
  | some validationKey =>
      if ← checkValue env xmlSignature validationKey then
        match signatureData.signerCertificate with
        | none =>
            modify
              (·.setError .ERROR_SIGNER_NOT_ACCEPTED "No signer certificate provided with signature"
                none)
        | some _ => modify ({ · with status := .SUCCESS })

/-- `validateSignatureElement`. -/
def validateSignatureElement (env : XmlEnv Cert) (signature : Node)
    (signatureData : SignatureData Cert) : XmlResult Cert :=
  Mutating.tryCatch (checkElement env signature signatureData)
    (fun ex result => result.setError .ERROR_BAD_FORMAT ex.msg (some ex)) {}

/-- The verified times of the signature timestamps. Timestamps without content
are dropped. -/
def timeValidationResults (env : XmlEnv Cert) (v : XMLSignatureElementValidator Cert)
    (signature : Node) (xades : XAdESObjectParser) :
    List (TimeValidationResult Cert (TimeStamp Cert)) :=
  let timeStampList :=
    ((xades.signatureTimeStampDataList.getD []).map fun tsData =>
      TimeStamp.ofToken env.ts v.timeStampPolicyVerifier tsData.timeStampSignatureBytes
        (env.getTimestampedBytes signature tsData.canonicalizationMethod)).filter
      fun timeStamp => timeStamp.tstInfo.isSome
  timeStampList.filterMap
    (getTimeValidationResult env.ts.getSubject timeVerificationTypeSigTimestamp)

def xadesMismatch : String :=
  "Signature is XAdES signature, but signature certificate does not match signed certificate digest"

/-- What is reported of the XAdES properties. -/
def takeXades (env : XmlEnv Cert) (signatureData : SignatureData Cert)
    (xades : XAdESObjectParser) (result : XmlResult Cert) : XmlResult Cert :=
  let result :=
    { result with
      signedDocument := signatureData.signedDocument
      coversDocument := signatureData.coversWholeDoc
      etsiAdes := xades.qualifyingProperties.isSome
      invalidSignCert := !xades.isXadesVerified env result.signerCertificate
      claimedSigningTime := xades.claimedSigningTime }
  if result.etsiAdes && result.invalidSignCert then
    result.setError .ERROR_SIGNER_INVALID xadesMismatch (some ⟨.certPathBuilder, xadesMismatch⟩)
  else result

def parseFailed (ex : Exn) (result : XmlResult Cert) : XmlResult Cert :=
  result.setError .ERROR_INVALID_SIGNATURE "Failed to parse signature data" (some ex)

/-- The steps of `validateSignature` after path validation. A policy that throws is an
error of the whole validation. -/
def conclude (env : XmlEnv Cert) (v : XMLSignatureElementValidator Cert) (signature : Node)
    (signatureData : SignatureData Cert) (xades : XAdESObjectParser) (result : XmlResult Cert) :
    XmlResult Cert :=
  let result :=
    { takeXades env signatureData xades result with
      timeValidationResults := some (timeValidationResults env v signature xades) }
  match v.signaturePolicyValidator result with
  | .ok policyValidationResult => result.takePolicyResult policyValidationResult
  | .error ex => parseFailed ex result

/-- `compileXMLSigValResultsFromSvtValidation`. The XAdES references are
compared before the signer certificate is set. -/
def compileXMLSigValResultsFromSvtValidation (env : XmlEnv Cert)
    (svtValResult : SignatureSVTValidationResult) (signature : Node)
    (signatureData : SignatureData Cert) : XmlResult Cert :=
  Mutating.tryCatch
    (do
      let xades ← Mutating.call (XAdESObjectParser.parse env signature signatureData)
      modify fun result =>
        { result with
          signedDocument := signatureData.signedDocument
          coversDocument := signatureData.coversWholeDoc
          etsiAdes := xades.qualifyingProperties.isSome
          invalidSignCert := !xades.isXadesVerified env result.signerCertificate
          claimedSigningTime := xades.claimedSigningTime }
      takeSvtValidation env.svt svtValResult
        (.ok (signatureData.signerCertificate, signatureData.signatureCertChain)))
    svtProcessingFailed {}

/-- Validation without SVT: the direct way through `validateSignature`. -/
def validateDirectly (env : XmlEnv Cert) (v : XMLSignatureElementValidator Cert)
    (signature : Node) (signatureData : SignatureData Cert) : XmlResult Cert :=
  let result :=
    (validateSignatureElement env signature signatureData).validatePath v.certificateValidator
  match XAdESObjectParser.parse env signature signatureData with
  | .ok xades => conclude env v signature signatureData xades result
  | .error ex => parseFailed ex result

/-- `validateSignature`. -/
def validateSignature (env : XmlEnv Cert) (v : XMLSignatureElementValidator Cert)
    (signature : Node) (signatureData : SignatureData Cert) : XmlResult Cert :=
  let svtValidationResultList : Outcome (Option (List SignatureSVTValidationResult)) :=
    match v.xmlsvtValidator with
    | none => .ok none
    | some svtValidate => svtValidate signature signatureData
  match svtValidationResultList with
  | .error ex => parseFailed ex {}
  | .ok results =>
      match firstValidSvt results with
      | some svtValResult =>
          compileXMLSigValResultsFromSvtValidation env svtValResult signature signatureData
      | none => validateDirectly env v signature signatureData

/-! ## When the signature value verifies -/

/-- The signature verifies under the key of its signer certificate. -/
structure ElementVerifies (env : XmlEnv Cert) (signature : Node)
    (signatureData : SignatureData Cert) (signer : Cert) : Prop where
  signerCertificate : signatureData.signerCertificate = some signer
  pkParams : env.getPkParams (env.getPublicKey signer) = .ok ()
  value : ∃ xmlSignature uri, env.newXMLSignature signature = .ok xmlSignature ∧
    xmlSignature.signatureMethodURI = .ok uri ∧
    xmlSignature.checkSignatureValue (env.getPublicKey signer) = .ok true

variable {env : XmlEnv Cert} {signature : Node} {signatureData : SignatureData Cert}

/-- The state a verified signature leaves behind. -/
def verifiedResult (signatureData : SignatureData Cert) (signer : Cert) (uri : String) :
    XmlResult Cert :=
  { status := .SUCCESS
    signerCertificate := some signer
    signatureCertificateChain := some signatureData.signatureCertChain
    signatureAlgorithm := some uri }

theorem checkValue_run {xmlSignature : XMLSignature} {key : PublicKey}
    {result : XmlResult Cert} {uri : String} (hpk : env.getPkParams key = .ok ())
    (huri : xmlSignature.signatureMethodURI = .ok uri)
    (hvalue : xmlSignature.checkSignatureValue key = .ok true) :
    (checkValue env xmlSignature key).run result =
      (.ok true, { result with signatureAlgorithm := some uri }) := by
  unfold checkValue
  rw [Mutating.run_catching]
  simp only [Mutating.run_bind, Mutating.run_call, Mutating.run_modify, Mutating.run_pure, hpk,
    huri, hvalue, if_true]

theorem validateSignatureElement_of_verifies {signer : Cert}
    (h : ElementVerifies env signature signatureData signer) :
    ∃ uri, validateSignatureElement env signature signatureData =
      verifiedResult signatureData signer uri := by
  obtain ⟨hsigner, hpk, xmlSignature, uri, hnew, huri, hvalue⟩ := h
  refine ⟨uri, ?_⟩
  have hcheck : (checkElement env signature signatureData).run {} =
      (.ok (), verifiedResult signatureData signer uri) := by
    unfold checkElement
    simp only [hnew, hsigner, Mutating.run_bind, Mutating.run_call, Mutating.run_modify,
      Mutating.run_pure, checkValue_run hpk huri hvalue, if_true]
    rfl
  unfold validateSignatureElement Mutating.tryCatch
  rw [hcheck]

/-- A result that says success comes from a verified value. -/
def SuccessVerified (env : XmlEnv Cert) (signature : Node) (signatureData : SignatureData Cert)
    (result : XmlResult Cert) : Prop :=
  result.status = .SUCCESS → ∃ signer, ElementVerifies env signature signatureData signer

theorem successVerified_setError {status : Status} {msg : String} {ex : Option Exn}
    {result : XmlResult Cert} (h : status ≠ .SUCCESS) :
    SuccessVerified env signature signatureData (result.setError status msg ex) :=
  fun hsuccess => absurd hsuccess h

/-- What the check of the value leaves: `true` only when the library said so,
and otherwise an error. -/
def ValueChecked (env : XmlEnv Cert) (xmlSignature : XMLSignature) (key : PublicKey)
    (verified : Bool) (result : XmlResult Cert) : Prop :=
  if verified then
    env.getPkParams key = .ok () ∧ (∃ uri, xmlSignature.signatureMethodURI = .ok uri) ∧
      xmlSignature.checkSignatureValue key = .ok true
  else result.status ≠ .SUCCESS

theorem wp_checkValue {xmlSignature : XMLSignature} {key : PublicKey}
    {result : XmlResult Cert} :
    Mutating.wp (checkValue env xmlSignature key) (ValueChecked env xmlSignature key)
      (fun _ _ => True) result := by
  unfold checkValue
  have hcaught : ∀ (ex : Exn) (t : XmlResult Cert),
      Mutating.wp
        (if ex.cls = .xmlSignature ∨ ex.cls = .io then do
            modify (·.setError .ERROR_INVALID_SIGNATURE ("Signature is invalid - " ++ ex.msg)
              (some ex))
            pure false
          else throw ex : Mutating (XmlResult Cert) Bool)
        (ValueChecked env xmlSignature key) (fun _ _ => True) t := by
    intro ex t
    split
    · exact fun h => Status.noConfusion h
    · trivial
  rw [Mutating.wp_catching]
  simp only [Mutating.wp_bind, Mutating.wp_call, Mutating.wp_modify]
  refine ⟨?_, fun ex _ => hcaught ex _⟩
  intro _ hpk
  refine ⟨?_, fun ex _ => hcaught ex _⟩
  intro uri huri
  refine ⟨?_, fun ex _ => hcaught ex _⟩
  intro verified hverified
  cases verified with
  | true => exact ⟨hpk, ⟨uri, huri⟩, hverified⟩
  | false => exact fun h => Status.noConfusion h

theorem validateSignatureElement_successVerified :
    SuccessVerified env signature signatureData
      (validateSignatureElement env signature signatureData) := by
  unfold validateSignatureElement
  apply Mutating.tryCatch_of_wp
  unfold checkElement
  rw [Mutating.wp_bind, Mutating.wp_call]
  refine ⟨?_, fun _ _ => successVerified_setError (by decide)⟩
  intro xmlSignature hnew
  have hthrown : ∀ (ex : Exn) (t : XmlResult Cert), True →
      SuccessVerified env signature signatureData (t.setError .ERROR_BAD_FORMAT ex.msg (some ex)) :=
    fun _ _ _ => successVerified_setError (by decide)
  -- without a signer certificate every way out is an error
  cases hsigner : signatureData.signerCertificate with
  | none =>
      rw [Mutating.wp_bind, Mutating.wp_call]
      refine ⟨?_, fun ex _ => hthrown ex _ trivial⟩
      rintro (_ | key) _
      · exact successVerified_setError (by decide)
      · rw [Mutating.wp_bind]
        refine Mutating.wp_mono wp_checkValue ?_ hthrown
        rintro (_ | _) t ht
        · exact fun hsuccess => absurd hsuccess ht
        · exact successVerified_setError (by decide)
  | some signer =>
      simp only [Mutating.wp_bind, Mutating.wp_modify, Mutating.wp_pure]
      refine Mutating.wp_mono wp_checkValue ?_ hthrown
      rintro (_ | _) t ht
      · exact fun hsuccess => absurd hsuccess ht
      · obtain ⟨hpk, ⟨uri, huri⟩, hvalue⟩ := ht
        exact fun _ => ⟨signer, hsigner, hpk, xmlSignature, uri, hnew, huri, hvalue⟩

end XMLSignatureElementValidator

end SigVal.Xml
