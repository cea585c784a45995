import SigVal.Policy.DirectSoundness
import SigVal.Jose.ByTheBook

/-!
# Direct validation of XML and JOSE signatures fails closed

Status, exception and policy verdict of a signature are set in nested `try` blocks, and a
timestamp, a certificate path, the XAdES properties or the policy can end a block early.
What a success stands for is collected here, for every policy validator that is built on
the abstract class of its format and for every outcome of the libraries and of path
validation.
-/

namespace SigVal.Policy

open SigVal.Java SigVal.Dom SigVal.Cert SigVal.Commons
open SigVal.Xml (XmlEnv XMLSignatureElementValidator XAdESObjectParser QualifyingProperties
  DigestAlgAndValue)
open SigVal.Jose (JoseEnv JOSESignatureDataValidator JOSESignatureData DocumentEnv JWSVerifier
  RawJOSESignatureData)
open SigVal.Jose.JOSESignedDocumentValidator (getVerifierAndCerts signatureDataOf takeSignature)

variable {Cert S : Type}

/-! ## The abstract policy classes -/

/-- A subclass of `AbstractBasicXMLSignaturePolicyChecks` or of its JOSE twin. Its verdicts
give the status `SUCCESS` only together with the conclusion `PASSED`. -/
structure AbstractBasicSignaturePolicyChecks (Cert : Type) where
  getValidationPolicy : String
  performAdditionalValidityChecks :
    ExtendedSigValResult Cert (TimeStamp Cert) → Outcome PolicyValidationResult
  passed_of_success : ∀ result verdict, performAdditionalValidityChecks result = .ok verdict →
    verdict.status = .SUCCESS → verdict.policyValidationClaims.res = .PASSED

namespace AbstractBasicSignaturePolicyChecks

/-- `validatePolicy`. -/
def validatePolicy (checks : AbstractBasicSignaturePolicyChecks Cert)
    (result : ExtendedSigValResult Cert (TimeStamp Cert)) : Outcome PolicyValidationResult :=
  let pol := checks.getValidationPolicy
  let noPath : PolicyValidationResult :=
    ⟨⟨pol, .INDETERMINATE, some "No certificate path found to a trusted root"⟩,
      .ERROR_NOT_TRUSTED⟩
  let failed : PolicyValidationResult := ⟨⟨pol, .FAILED, result.statusMessage⟩, result.status⟩
  match result.status with
  | .ERROR_NOT_TRUSTED => .ok noPath
  | .ERROR_INVALID_SIGNATURE => .ok failed
  | .ERROR_SIGNER_INVALID => .ok failed
  | .ERROR_SIGNER_NOT_ACCEPTED => .ok failed
  | .ERROR_BAD_FORMAT => .ok failed
  | .SUCCESS | .INTERDETERMINE =>
      if result.pathOf.isEmpty then .ok noPath else checks.performAdditionalValidityChecks result

end AbstractBasicSignaturePolicyChecks

/-- `BasicXmlSignaturePolicyValidator` and `BasicJOSESignaturePolicyValidator`. -/
def basicSignaturePolicyValidator : AbstractBasicSignaturePolicyChecks Cert where
  getValidationPolicy := sigValidationPolicyBasicValidation
  performAdditionalValidityChecks := fun result =>
    if result.isSuccess then
      .ok ⟨⟨sigValidationPolicyBasicValidation, .PASSED, some "OK"⟩, .SUCCESS⟩
    else
      .ok ⟨⟨sigValidationPolicyBasicValidation, .FAILED, result.statusMessage⟩, result.status⟩
  passed_of_success := by
    intro result verdict h hstatus
    split at h
    · cases h
      rfl
    · rename_i hfailed
      cases h
      exact absurd (by simpa [ExtendedSigValResult.isSuccess] using hstatus) hfailed

/-- `PkixXmlSignaturePolicyValidator` and `PkixJOSESignaturePolicyValidator`. -/
def pkixSignaturePolicyValidator (policy : PkixPolicy) (now : Date) :
    AbstractBasicSignaturePolicyChecks Cert where
  getValidationPolicy := policy.getValidationPolicy
  performAdditionalValidityChecks := fun result =>
    .ok (policy.performAdditionalValidityChecks now result)
  passed_of_success := by
    intro result verdict h hstatus
    cases h
    by_contra hnot
    exact PkixPolicy.performAdditionalValidityChecks_status hnot hstatus

/-- The PKIX policy of the other modules is the one of the abstract class. -/
theorem pkix_validatePolicy_eq (policy : PkixPolicy) (now : Date)
    (result : ExtendedSigValResult Cert (TimeStamp Cert)) :
    (pkixSignaturePolicyValidator policy now).validatePolicy result =
      .ok (PkixXmlSignaturePolicyValidator.validatePolicy policy now result) := by
  unfold AbstractBasicSignaturePolicyChecks.validatePolicy
    PkixXmlSignaturePolicyValidator.validatePolicy basicValidatePolicy
  cases result.status with
  | SUCCESS =>
      dsimp only
      split
      · rfl
      · rfl
  | INTERDETERMINE =>
      dsimp only
      split
      · rfl
      · rfl
  | _ => rfl

/-- A signature that is still a success after the verdict has been copied was one before,
passed, and has a path. -/
theorem validatePolicy_established {checks : AbstractBasicSignaturePolicyChecks Cert}
    {result : ExtendedSigValResult Cert (TimeStamp Cert)} {verdict : PolicyValidationResult}
    (h : checks.validatePolicy result = .ok verdict)
    (hstatus : (result.takePolicyResult verdict).status = .SUCCESS) :
    result.status = .SUCCESS ∧ verdict.policyValidationClaims.res = .PASSED ∧
      result.pathOf ≠ [] := by
  rw [ExtendedSigValResult.takePolicyResult_status] at hstatus
  unfold AbstractBasicSignaturePolicyChecks.validatePolicy at h
  cases hbefore : result.status with
  | SUCCESS =>
      rw [hbefore] at h
      dsimp only at h
      split at h
      · cases h
        cases hstatus
      · rename_i hpath
        refine ⟨rfl, ?_, by simpa using hpath⟩
        by_contra hnot
        rw [if_neg hnot] at hstatus
        exact hnot (checks.passed_of_success _ _ h hstatus)
  | INTERDETERMINE =>
      rw [hbefore] at h hstatus
      dsimp only at h
      split at h
      · cases h
        cases hstatus
      · by_cases hpassed : verdict.policyValidationClaims.res = .PASSED
        · rw [if_pos hpassed] at hstatus
          cases hstatus
        · rw [if_neg hpassed] at hstatus
          exact absurd (checks.passed_of_success _ _ h hstatus) hpassed
  | _ =>
      rw [hbefore] at h
      cases h
      cases hstatus

/-- The verdict is reported, and nothing else of the result changes. -/
theorem takePolicyResult_reports (result : ExtendedSigValResult Cert (TimeStamp Cert))
    (verdict : PolicyValidationResult) :
    (result.takePolicyResult verdict).validationPolicyResultList =
        some [verdict.policyValidationClaims] ∧
      (result.takePolicyResult verdict).signerCertificate = result.signerCertificate ∧
      (result.takePolicyResult verdict).pathOf = result.pathOf := by
  unfold ExtendedSigValResult.takePolicyResult ExtendedSigValResult.pathOf
  dsimp only
  split
  · exact ⟨rfl, rfl, rfl⟩
  · exact ⟨rfl, rfl, rfl⟩

/-- The last step of both validators: the verdict is copied, or what the policy threw is
recorded as an error. -/
theorem concluded_established (checks : AbstractBasicSignaturePolicyChecks Cert)
    {before final : ExtendedSigValResult Cert (TimeStamp Cert)}
    (hfinal : final = match checks.validatePolicy before with
      | .ok verdict => before.takePolicyResult verdict
      | .error ex => before.setError .ERROR_INVALID_SIGNATURE "Failed to parse signature data"
          (some ex))
    (h : final.status = .SUCCESS) :
    before.status = .SUCCESS ∧ final.signerCertificate = before.signerCertificate ∧
      (∃ claims, final.validationPolicyResultList = some [claims] ∧ claims.res = .PASSED) ∧
      final.pathOf ≠ [] := by
  cases hverdict : checks.validatePolicy before with
  | error ex =>
      rw [hfinal, hverdict] at h
      cases h
  | ok verdict =>
      rw [hverdict] at hfinal
      subst hfinal
      obtain ⟨hstatus, hpassed, hpath⟩ := validatePolicy_established hverdict h
      obtain ⟨hreported, hsigner, hsamePath⟩ := takePolicyResult_reports before verdict
      refine ⟨hstatus, hsigner, ⟨_, hreported, hpassed⟩, ?_⟩
      rw [hsamePath]
      exact hpath

/-! ## XML -/

section Xml

open SigVal.Xml.XMLSignatureElementValidator

/-- The signature has a reference to the signed properties, by their identifier. -/
def RefersTo (signatureData : Xml.SignatureData Cert) (qp : QualifyingProperties) : Prop :=
  ∃ sp id data, qp.signedProperties = some sp ∧ sp.id = some id ∧
    ("#" ++ id, data) ∈ signatureData.refDataMap

/-- The element holds qualifying properties that the signature refers to. -/
def QualifiedBy (env : XmlEnv Cert) (signature : Node) (signatureData : Xml.SignatureData Cert)
    (qp : QualifyingProperties) : Prop :=
  ∃ node ∈ signature.getElementsByTagNameNS XAdESObjectParser.xadesNamespace
      "QualifyingProperties",
    env.unmarshal node = .ok qp ∧ RefersTo signatureData qp

/-- Among the certificate digests of the properties is the one of the signer. -/
def NamesSigner (env : XmlEnv Cert) (qp : QualifyingProperties) (signer : Cert) : Prop :=
  ∃ sp refs, qp.signedProperties = some sp ∧
    sp.signingCertificateV2.or sp.signingCertificate = some refs ∧ ∃ ref ∈ refs,
      ∃ algorithm encoded,
        DigestAlgorithmRegistry.get env.ts.registry ref.algorithm = .ok algorithm ∧
        env.getEncoded signer = .ok encoded ∧ env.ts.digest algorithm encoded = .ok ref.digestValue

/-- What a success of an XML signature stands for. -/
structure XmlEstablished (env : XmlEnv Cert) (signature : Node)
    (signatureData : Xml.SignatureData Cert) (result : Xml.XmlResult Cert) : Prop where
  /-- The certificate that is reported came with the signature, and the signature value
  verifies under its key. -/
  signer : ∃ signer, result.signerCertificate = some signer ∧
    ElementVerifies env signature signatureData signer
  /-- A XAdES signature names that certificate. -/
  named : (∃ qp, QualifiedBy env signature signatureData qp) → ∃ qp signer,
    result.signerCertificate = some signer ∧ QualifiedBy env signature signatureData qp ∧
      NamesSigner env qp signer
  policy : ∃ claims, result.validationPolicyResultList = some [claims] ∧ claims.res = .PASSED
  path : result.pathOf ≠ []

/-- An XML validator whose policy is built on the abstract class. -/
def basicChecksXmlValidator (checks : AbstractBasicSignaturePolicyChecks Cert)
    (certificateValidator : Option (CertificateValidator Cert))
    (timeStampPolicyVerifier : TimeStampPolicyVerifier Cert)
    (xmlsvtValidator : Option (Node → Xml.SignatureData Cert →
      Outcome (Option (List SignatureSVTValidationResult)))) :
    XMLSignatureElementValidator Cert where
  certificateValidator := certificateValidator
  signaturePolicyValidator := checks.validatePolicy
  timeStampPolicyVerifier := timeStampPolicyVerifier
  xmlsvtValidator := xmlsvtValidator

variable {env : XmlEnv Cert} {signature : Node} {signatureData : Xml.SignatureData Cert}

/-- The test the parser makes. Without an identifier it looks for the text `null`. -/
def parserRefers (signatureData : Xml.SignatureData Cert) (qp : QualifyingProperties) : Bool :=
  qp.signedProperties.any fun sp =>
    signatureData.refDataMap.any fun ref => ref.1 == "#" ++ sp.id.getD "null"

theorem parserRefers_of_refersTo {qp : QualifyingProperties} (h : RefersTo signatureData qp) :
    parserRefers signatureData qp = true := by
  obtain ⟨sp, id, data, hsp, hid, hmem⟩ := h
  unfold parserRefers
  rw [hsp]
  simp only [Option.any_some, List.any_eq_true, beq_iff_eq, hid, Option.getD_some]
  exact ⟨("#" ++ id, data), hmem, rfl⟩

/-- A reference the parser sees and the signature does not make: without an identifier the
text `null` is looked for. -/
theorem unnamed_of_parserRefers {qp : QualifyingProperties}
    (h : parserRefers signatureData qp = true) (hnot : ¬ RefersTo signatureData qp) :
    ∃ sp data, qp.signedProperties = some sp ∧ sp.id = none ∧
      ("#null", data) ∈ signatureData.refDataMap := by
  unfold parserRefers at h
  cases hsp : qp.signedProperties with
  | none =>
      rw [hsp] at h
      cases h
  | some sp =>
      rw [hsp] at h
      simp only [Option.any_some, List.any_eq_true, beq_iff_eq] at h
      obtain ⟨⟨uri, data⟩, hmem, huri⟩ := h
      dsimp only at huri
      cases hid : sp.id with
      | none =>
          rw [hid, Option.getD_none] at huri
          subst huri
          exact ⟨sp, data, rfl, hid, hmem⟩
      | some id =>
          rw [hid, Option.getD_some] at huri
          subst huri
          exact absurd ⟨sp, id, data, hsp, hid, hmem⟩ hnot

/-- What the parser finds is the first of the properties it takes for referenced. -/
theorem findQualifyingProperties_first {nodes : List Node} {found : Option QualifyingProperties}
    (h : XAdESObjectParser.findQualifyingProperties env signatureData nodes = .ok found) :
    match found with
    | some qp => ∃ pre node post, nodes = pre ++ node :: post ∧ env.unmarshal node = .ok qp ∧
        parserRefers signatureData qp = true ∧
        ∀ earlier ∈ pre, ∀ qp', env.unmarshal earlier = .ok qp' →
          parserRefers signatureData qp' = false
    | none => ∀ node ∈ nodes, ∀ qp, env.unmarshal node = .ok qp →
        parserRefers signatureData qp = false := by
  induction nodes with
  | nil =>
      cases h
      intro node hnode
      cases hnode
  | cons first rest ih =>
      unfold XAdESObjectParser.findQualifyingProperties at h
      obtain ⟨qp, hqp, h⟩ := bind_ok_iff.mp h
      dsimp only at h
      split at h
      · rename_i hrefers
        cases h
        exact ⟨[], first, rest, rfl, hqp, hrefers, by simp⟩
      · rename_i hrefers
        have hfirst : ∀ qp', env.unmarshal first = .ok qp' →
            parserRefers signatureData qp' = false := by
          intro qp' hqp'
          rw [hqp] at hqp'
          cases hqp'
          exact Bool.eq_false_iff.mpr hrefers
        have hrest := ih h
        cases found with
        | none =>
            intro node hnode qp' hqp'
            rcases List.mem_cons.mp hnode with rfl | hnode
            · exact hfirst qp' hqp'
            · exact hrest node hnode qp' hqp'
        | some qp' =>
            obtain ⟨pre, node, post, rfl, hnode, hrefers', hearlier⟩ := hrest
            refine ⟨first :: pre, node, post, rfl, hnode, hrefers', ?_⟩
            intro earlier hmem qp'' hqp''
            rcases List.mem_cons.mp hmem with rfl | hmem
            · exact hfirst qp'' hqp''
            · exact hearlier earlier hmem qp'' hqp''

theorem namesSigner_of_isXadesVerified {qp : QualifyingProperties} {signer : Cert}
    (h : (⟨some qp⟩ : XAdESObjectParser).isXadesVerified env (some signer) = true) :
    NamesSigner env qp signer := by
  unfold XAdESObjectParser.isXadesVerified at h
  obtain ⟨ref, href, hmatch⟩ := List.any_eq_true.mp h
  cases hrefs : (⟨some qp⟩ : XAdESObjectParser).certHashList with
  | none =>
      rw [hrefs] at href
      cases href
  | some refs =>
      rw [hrefs, Option.getD_some] at href
      obtain ⟨sp, hsp, hlist⟩ := Option.bind_eq_some_iff.mp hrefs
      refine ⟨sp, refs, hsp, hlist, ref, href, ?_⟩
      unfold XAdESObjectParser.matchesCert at hmatch
      dsimp only at hmatch
      split at hmatch
      · rename_i compared hcompared
        subst hmatch
        obtain ⟨algorithm, halgorithm, hwithCert⟩ := bind_ok_iff.mp hcompared
        obtain ⟨cert, hcert, hwithBytes⟩ := bind_ok_iff.mp hwithCert
        obtain ⟨encoded, hencoded, hwithDigest⟩ := bind_ok_iff.mp hwithBytes
        obtain ⟨digest, hdigest, hlast⟩ := bind_ok_iff.mp hwithDigest
        cases deref_ok_iff.mp hcert
        have hequal : (digest == ref.digestValue) = true := Except.ok.inj hlast
        rw [beq_iff_eq] at hequal
        exact ⟨algorithm, encoded, halgorithm, hencoded, hequal ▸ hdigest⟩
      · cases hmatch

/-- Properties without an identifier come before all that the signature refers to, and it
has a reference to the identifier `null`. -/
def TakesUnnamed (env : XmlEnv Cert) (signature : Node) (signatureData : Xml.SignatureData Cert) :
    Prop :=
  ∃ pre node post qp sp data,
    signature.getElementsByTagNameNS XAdESObjectParser.xadesNamespace "QualifyingProperties" =
      pre ++ node :: post ∧
    env.unmarshal node = .ok qp ∧ qp.signedProperties = some sp ∧ sp.id = none ∧
    ("#null", data) ∈ signatureData.refDataMap ∧
    ∀ earlier ∈ pre, ∀ qp', env.unmarshal earlier = .ok qp' → ¬ RefersTo signatureData qp'

/-- The properties that are checked are not those the signature refers to, and none of
these names the signer certificate. -/
structure Mistaken (env : XmlEnv Cert) (signature : Node) (signatureData : Xml.SignatureData Cert) :
    Prop where
  unnamed : TakesUnnamed env signature signatureData
  referred : ∃ qp, QualifiedBy env signature signatureData qp
  other : ∀ qp signer, QualifiedBy env signature signatureData qp →
    signatureData.signerCertificate = some signer → ¬ NamesSigner env qp signer

theorem named_of_not_mistaken {xades : XAdESObjectParser} {signer : Cert}
    (hparse : XAdESObjectParser.parse env signature signatureData = .ok xades)
    (hverified : xades.qualifyingProperties.isSome = true →
      xades.isXadesVerified env (some signer) = true)
    (hsigner : signatureData.signerCertificate = some signer)
    (hnot : ¬ Mistaken env signature signatureData)
    (hreferred : ∃ qp, QualifiedBy env signature signatureData qp) :
    ∃ qp, QualifiedBy env signature signatureData qp ∧ NamesSigner env qp signer := by
  obtain ⟨found, hfound, hxades⟩ := bind_ok_iff.mp hparse
  cases hxades
  have hfirst := findQualifyingProperties_first hfound
  obtain ⟨qp₁, node₁, hmem₁, hqp₁, hrefers₁⟩ := hreferred
  cases found with
  | none =>
      have hnone := hfirst node₁ hmem₁ qp₁ hqp₁
      rw [parserRefers_of_refersTo hrefers₁] at hnone
      cases hnone
  | some qp =>
      obtain ⟨pre, node, post, hsplit, hqp, hrefers, hearlier⟩ := hfirst
      have hnames : NamesSigner env qp signer := namesSigner_of_isXadesVerified (hverified rfl)
      by_cases htruly : RefersTo signatureData qp
      · refine ⟨qp, ⟨node, ?_, hqp, htruly⟩, hnames⟩
        rw [hsplit]
        exact List.mem_append_right _ List.mem_cons_self
      · obtain ⟨sp, data, hsp, hid, hnull⟩ := unnamed_of_parserRefers hrefers htruly
        have hunnamed : TakesUnnamed env signature signatureData := by
          refine ⟨pre, node, post, qp, sp, data, hsplit, hqp, hsp, hid, hnull, ?_⟩
          intro earlier hmem qp' hqp' hrefers'
          have hfalse := hearlier earlier hmem qp' hqp'
          rw [parserRefers_of_refersTo hrefers'] at hfalse
          cases hfalse
        by_contra hnone
        refine hnot ⟨hunnamed, ⟨qp₁, node₁, hmem₁, hqp₁, hrefers₁⟩, ?_⟩
        intro qp' signer' hqualified hsigner' hnames'
        rw [hsigner] at hsigner'
        cases hsigner'
        exact hnone ⟨qp', hqualified, hnames'⟩

/-- No token settles the matter: the validator has no SVT validator, or it finds nothing
valid. -/
def NoValidSvt {α : Type} (svtValidator :
    Option (α → Outcome (Option (List SignatureSVTValidationResult)))) (input : α) : Prop :=
  ∀ svtValidate results, svtValidator = some svtValidate → svtValidate input = .ok results →
    firstValidSvt results = none

theorem xml_success_direct {v : XMLSignatureElementValidator Cert}
    (hdirect : NoValidSvt (v.xmlsvtValidator.map fun f (x : Node × Xml.SignatureData Cert) =>
      f x.1 x.2) (signature, signatureData))
    (h : (validateSignature env v signature signatureData).status = .SUCCESS) :
    validateSignature env v signature signatureData =
      validateDirectly env v signature signatureData := by
  unfold validateSignature at h ⊢
  cases hsvt : v.xmlsvtValidator with
  | none => rfl
  | some svtValidate =>
      rw [hsvt] at h hdirect
      dsimp only at h ⊢
      cases houtcome : svtValidate signature signatureData with
      | error ex =>
          rw [houtcome] at h
          cases h
      | ok results =>
          have hnone : firstValidSvt results = none := hdirect _ results rfl houtcome
          dsimp only
          rw [hnone]

theorem takeXades_signerCertificate {xades : XAdESObjectParser} {result : Xml.XmlResult Cert} :
    (takeXades env signatureData xades result).signerCertificate = result.signerCertificate := by
  unfold takeXades
  dsimp only
  split
  · rfl
  · rfl

section Direct

variable (checks : AbstractBasicSignaturePolicyChecks Cert)
  (certificateValidator : Option (CertificateValidator Cert))
  (verifier : TimeStampPolicyVerifier Cert)
  (svt : Option (Node → Xml.SignatureData Cert →
    Outcome (Option (List SignatureSVTValidationResult))))

/-- A success rests on properties that could be parsed, and everything that is checked
before the policy went well. -/
theorem xml_direct_established
    (h : (validateDirectly env (basicChecksXmlValidator checks certificateValidator verifier svt)
      signature signatureData).status = .SUCCESS) :
    ∃ signer xades, ElementVerifies env signature signatureData signer ∧
      XAdESObjectParser.parse env signature signatureData = .ok xades ∧
      (xades.qualifyingProperties.isSome = true →
        xades.isXadesVerified env (some signer) = true) ∧
      (validateDirectly env (basicChecksXmlValidator checks certificateValidator verifier svt)
        signature signatureData).signerCertificate = some signer ∧
      (∃ claims, (validateDirectly env
          (basicChecksXmlValidator checks certificateValidator verifier svt)
          signature signatureData).validationPolicyResultList = some [claims] ∧
        claims.res = .PASSED) ∧
      (validateDirectly env (basicChecksXmlValidator checks certificateValidator verifier svt)
        signature signatureData).pathOf ≠ [] := by
  unfold validateDirectly at h ⊢
  cases hparse : XAdESObjectParser.parse env signature signatureData with
  | error ex =>
      rw [hparse] at h
      cases h
  | ok xades =>
      rw [hparse] at h
      dsimp only at h ⊢
      obtain ⟨hstatus, hkept, hpolicy, hpath⟩ := concluded_established checks rfl h
      obtain ⟨hbefore, hnamed⟩ := takeXades_status_iff.mp hstatus
      obtain ⟨signer, hver⟩ := validateSignatureElement_successVerified
        (ExtendedSigValResult.status_of_validatePath hbefore)
      obtain ⟨uri, hbase⟩ := validateSignatureElement_of_verifies hver
      have hsigner : ((validateSignatureElement env signature signatureData).validatePath
          certificateValidator).signerCertificate = some signer := by
        rw [ExtendedSigValResult.validatePath_signerCertificate, hbase]
        rfl
      have hnamed' : xades.qualifyingProperties.isSome = true →
          xades.isXadesVerified env (some signer) = true := by
        intro hsome
        rw [← hsigner]
        exact hnamed hsome
      refine ⟨signer, xades, hver, rfl, hnamed', ?_, hpolicy, hpath⟩
      exact hkept.trans (takeXades_signerCertificate.trans hsigner)

end Direct

/-- The XML half: of what a success stands for, only the certificate digest can fail. -/
theorem xml_established_iff (checks : AbstractBasicSignaturePolicyChecks Cert)
    (certificateValidator : Option (CertificateValidator Cert))
    (verifier : TimeStampPolicyVerifier Cert)
    (svt : Option (Node → Xml.SignatureData Cert →
      Outcome (Option (List SignatureSVTValidationResult))))
    (hdirect : NoValidSvt (svt.map fun f (x : Node × Xml.SignatureData Cert) => f x.1 x.2)
      (signature, signatureData))
    (h : (validateSignature env (basicChecksXmlValidator checks certificateValidator verifier svt)
      signature signatureData).status = .SUCCESS) :
    XmlEstablished env signature signatureData
        (validateSignature env (basicChecksXmlValidator checks certificateValidator verifier svt)
          signature signatureData) ↔
      ¬ Mistaken env signature signatureData := by
  have heq := xml_success_direct hdirect h
  rw [heq] at h ⊢
  obtain ⟨signer, xades, hver, hparse, hverified, hsigner, hpolicy, hpath⟩ :=
    xml_direct_established checks certificateValidator verifier svt h
  constructor
  · rintro hestablished ⟨-, hreferred, hother⟩
    obtain ⟨qp, signer', hsigner', hqualified, hnames⟩ := hestablished.named hreferred
    rw [hsigner] at hsigner'
    cases hsigner'
    exact hother qp signer hqualified hver.signerCertificate hnames
  · intro hnot
    refine ⟨⟨signer, hsigner, hver⟩, ?_, hpolicy, hpath⟩
    intro hreferred
    obtain ⟨qp, hqualified, hnames⟩ :=
      named_of_not_mistaken hparse hverified hver.signerCertificate hnot hreferred
    exact ⟨qp, signer, hsigner, hqualified, hnames⟩

end Xml

/-! ## JOSE -/

section Jose

open SigVal.Jose.JOSESignatureDataValidator

/-- The verdict on the value and the signer certificate were read off a signature of the
document. -/
structure TakenFrom (docEnv : DocumentEnv Cert S) (payload : Jose.Payload) (detached : Bool)
    (sig : Jose.Signature S) (signatureData : JOSESignatureData Cert) : Prop where
  verified : signatureData.verified = (signatureDataOf docEnv payload detached sig).isVerified
  signerCertificate : signatureData.signerCertificate =
    (signatureDataOf docEnv payload detached sig).signerCertificate

/-- The certificate is the first one of the protected header, and the signature value
verifies under its key. -/
structure SignedUnder (docEnv : DocumentEnv Cert S) (payload : Jose.Payload)
    (sig : Jose.Signature S) (signer : Cert) : Prop where
  present : ∃ encoded rest, sig.header.x509CertChain = some (encoded :: rest) ∧
    docEnv.getCertificate encoded = .ok signer
  value : ∃ verifier,
    (Jose.JOSESignedDocumentValidator.newECDSAVerifier docEnv (docEnv.getPublicKey signer) =
        .ok verifier ∨
      Jose.JOSESignedDocumentValidator.newRSASSAVerifier docEnv (docEnv.getPublicKey signer) =
        .ok verifier) ∧
    docEnv.lib.verify sig.header payload sig.signature verifier = .ok true

/-- What a success of a JOSE signature stands for. -/
structure JoseEstablished (docEnv : DocumentEnv Cert S) (payload : Jose.Payload)
    (sig : Jose.Signature S) (result : Jose.JoseResult Cert) : Prop where
  signer : ∃ signer, result.signerCertificate = some signer ∧
    SignedUnder docEnv payload sig signer
  policy : ∃ claims, result.validationPolicyResultList = some [claims] ∧ claims.res = .PASSED
  path : result.pathOf ≠ []

variable {docEnv : DocumentEnv Cert S} {payload : Jose.Payload} {detached : Bool}
  {sig : Jose.Signature S}

/-- The verifier is made for the first certificate, and the flag is not touched. -/
theorem wp_getVerifierAndCerts (docEnv : DocumentEnv Cert S) (header : Jose.JWSHeader)
    (start : RawJOSESignatureData Cert S) :
    Mutating.wp (getVerifierAndCerts docEnv header)
      (fun verifier signatureData => signatureData.isVerified = start.isVerified ∧
        ∃ signer encoded rest, signatureData.signerCertificate = some signer ∧
          header.x509CertChain = some (encoded :: rest) ∧
          docEnv.getCertificate encoded = .ok signer ∧
          (Jose.JOSESignedDocumentValidator.newECDSAVerifier docEnv (docEnv.getPublicKey signer) =
              .ok verifier ∨
            Jose.JOSESignedDocumentValidator.newRSASSAVerifier docEnv
              (docEnv.getPublicKey signer) = .ok verifier))
      (fun _ signatureData => signatureData.isVerified = start.isVerified) start := by
  unfold getVerifierAndCerts
  rw [Mutating.wp_bind, Mutating.wp_call]
  refine ⟨fun uri _ => ?_, fun _ _ => rfl⟩
  rw [Mutating.wp_bind, Mutating.wp_call]
  refine ⟨fun x509CertChain hchain => ?_, fun _ _ => rfl⟩
  rw [Mutating.wp_bind, Mutating.wp_call]
  refine ⟨fun certificateChain hcerts => ?_, fun _ _ => rfl⟩
  cases certificateChain with
  | nil => rfl
  | cons signer others =>
      have hdecoded := forall₂_of_mapM_ok hcerts
      rw [deref_ok_iff] at hchain
      cases hdecoded with
      | @cons encoded _ rest _ hfirst _ =>
          dsimp only
          rw [Mutating.wp_bind, Mutating.wp_modify]
          split
          · rw [Mutating.wp_bind, Mutating.wp_modify, Mutating.wp_call]
            exact ⟨fun verifier hverifier =>
              ⟨rfl, signer, encoded, rest, rfl, hchain, hfirst, .inl hverifier⟩, fun _ _ => rfl⟩
          · split
            · rw [Mutating.wp_bind, Mutating.wp_modify, Mutating.wp_call]
              exact ⟨fun verifier hverifier =>
                ⟨rfl, signer, encoded, rest, rfl, hchain, hfirst, .inr hverifier⟩, fun _ _ => rfl⟩
            · rfl

/-- A signature that is marked as verified is, under the certificate that is reported. -/
def SoundlyMarked (docEnv : DocumentEnv Cert S) (payload : Jose.Payload) (sig : Jose.Signature S)
    (signatureData : RawJOSESignatureData Cert S) : Prop :=
  signatureData.isVerified = true → ∀ signer, signatureData.signerCertificate = some signer →
    SignedUnder docEnv payload sig signer

theorem signatureDataOf_soundlyMarked :
    SoundlyMarked docEnv payload sig (signatureDataOf docEnv payload detached sig) := by
  unfold signatureDataOf
  apply Mutating.tryCatch_of_wp
  unfold takeSignature
  rw [Mutating.wp_bind]
  -- the mark is set after everything that can throw
  refine Mutating.wp_mono (wp_getVerifierAndCerts docEnv sig.header {}) ?_ ?_
  · rintro verifier signatureData
      ⟨hflag, signer, encoded, rest, hcert, hchain, hencoded, hverifier⟩
    rw [Mutating.wp_bind, Mutating.wp_call]
    refine ⟨?_, ?_⟩
    · intro verified hvalue htrue signer' hsigner'
      have hverifies : verified = true := htrue
      subst hverifies
      have hsame : signatureData.signerCertificate = some signer' := hsigner'
      rw [hcert] at hsame
      cases hsame
      exact ⟨⟨encoded, rest, hchain, hencoded⟩, verifier, hverifier, hvalue⟩
    · intro ex _ htrue
      have hfalse : signatureData.isVerified = true := htrue
      rw [hflag] at hfalse
      cases hfalse
  · intro ex signatureData hflag htrue
    have hfalse : signatureData.isVerified = true := htrue
    rw [hflag] at hfalse
    cases hfalse

/-- A JOSE validator whose policy is built on the abstract class. -/
def basicChecksJoseValidator (checks : AbstractBasicSignaturePolicyChecks Cert)
    (certificateValidator : Option (CertificateValidator Cert))
    (timeStampPolicyVerifier : TimeStampPolicyVerifier Cert)
    (svtValidator : Option (JOSESignatureData Cert →
      Outcome (Option (List SignatureSVTValidationResult)))) :
    JOSESignatureDataValidator Cert where
  certificateValidator := certificateValidator
  signaturePolicyValidator := checks.validatePolicy
  timeStampPolicyVerifier := timeStampPolicyVerifier
  svtValidator := svtValidator

variable {env : JoseEnv Cert} {signatureData : JOSESignatureData Cert}

theorem jose_success_direct {v : JOSESignatureDataValidator Cert}
    (hdirect : NoValidSvt v.svtValidator signatureData)
    (h : (validateSignature env v signatureData).status = .SUCCESS) :
    validateSignature env v signatureData = validateDirectly env v signatureData := by
  unfold validateSignature at h ⊢
  cases hsvt : v.svtValidator with
  | none => rfl
  | some svtValidate =>
      rw [hsvt] at h
      dsimp only at h ⊢
      cases houtcome : svtValidate signatureData with
      | error ex =>
          rw [houtcome] at h
          cases h
      | ok results =>
          have hnone : firstValidSvt results = none := hdirect svtValidate results hsvt houtcome
          dsimp only
          rw [hnone]

/-- The JOSE half. -/
theorem jose_established (checks : AbstractBasicSignaturePolicyChecks Cert)
    (certificateValidator : Option (CertificateValidator Cert))
    (verifier : TimeStampPolicyVerifier Cert)
    (svt : Option (JOSESignatureData Cert → Outcome (Option (List SignatureSVTValidationResult))))
    (htaken : TakenFrom docEnv payload detached sig signatureData)
    (hdirect : NoValidSvt svt signatureData)
    (h : (validateSignature env (basicChecksJoseValidator checks certificateValidator verifier svt)
      signatureData).status = .SUCCESS) :
    JoseEstablished docEnv payload sig
      (validateSignature env (basicChecksJoseValidator checks certificateValidator verifier svt)
        signatureData) := by
  have heq := jose_success_direct hdirect h
  rw [heq] at h ⊢
  -- a success has collected its timestamps
  obtain ⟨tokens, htokens⟩ : ∃ tokens,
      getSignatureTimestampList env signatureData = .ok tokens := by
    cases htokens : getSignatureTimestampList env signatureData with
    | ok tokens => exact ⟨tokens, rfl⟩
    | error ex =>
        rw [validateDirectly_of_error htokens] at h
        cases h
  rw [validateDirectly_of_tokens htokens] at h ⊢
  obtain ⟨hstatus, hkept, hpolicy, hpath⟩ := concluded_established checks rfl h
  have hbefore : ((validateSignatureData env signatureData).validatePath
      certificateValidator).status = .SUCCESS := hstatus
  obtain ⟨signer, hver⟩ :=
    verifies_of_success (ExtendedSigValResult.status_of_validatePath hbefore)
  have hsigner : ((validateSignatureData env signatureData).validatePath
      certificateValidator).signerCertificate = some signer := by
    rw [ExtendedSigValResult.validatePath_signerCertificate, validateSignatureData_of_verifies hver]
    rfl
  refine ⟨⟨signer, hkept.trans hsigner, ?_⟩, hpolicy, hpath⟩
  exact signatureDataOf_soundlyMarked (htaken.verified.symm.trans hver.value) signer
    (htaken.signerCertificate.symm.trans hver.signerCertificate)

end Jose

/-! ## Both formats -/

/-- **Fail-closed direct validation.** When an XML or JOSE signature is a success without an
SVT, its value verified under the key of the certificate that is reported and came with it,
the policy passed and there is a certificate path. Of an XML signature with qualifying
properties it also holds that these name the certificate, unless properties without an
identifier are mistaken for them. -/
theorem success_fails_closed_iff (checks : AbstractBasicSignaturePolicyChecks Cert)
    (certificateValidator : Option (CertificateValidator Cert))
    (verifier : TimeStampPolicyVerifier Cert) :
    (∀ (env : XmlEnv Cert) (signature : Node) (signatureData : Xml.SignatureData Cert)
      (svt : Option (Node → Xml.SignatureData Cert →
        Outcome (Option (List SignatureSVTValidationResult)))),
      NoValidSvt (svt.map fun f (x : Node × Xml.SignatureData Cert) => f x.1 x.2)
        (signature, signatureData) →
      (XMLSignatureElementValidator.validateSignature env
        (basicChecksXmlValidator checks certificateValidator verifier svt) signature
        signatureData).status = .SUCCESS →
      (XmlEstablished env signature signatureData
          (XMLSignatureElementValidator.validateSignature env
            (basicChecksXmlValidator checks certificateValidator verifier svt) signature
            signatureData) ↔
        ¬ Mistaken env signature signatureData)) ∧
    ∀ (env : JoseEnv Cert) (docEnv : DocumentEnv Cert S) (payload : Jose.Payload)
      (detached : Bool) (sig : Jose.Signature S) (signatureData : JOSESignatureData Cert)
      (svt : Option (JOSESignatureData Cert →
        Outcome (Option (List SignatureSVTValidationResult)))),
      TakenFrom docEnv payload detached sig signatureData → NoValidSvt svt signatureData →
      (JOSESignatureDataValidator.validateSignature env
        (basicChecksJoseValidator checks certificateValidator verifier svt)
        signatureData).status = .SUCCESS →
      JoseEstablished docEnv payload sig (JOSESignatureDataValidator.validateSignature env
        (basicChecksJoseValidator checks certificateValidator verifier svt) signatureData) := by
  refine ⟨?_, ?_⟩
  · intro env signature signatureData svt hdirect h
    exact xml_established_iff checks certificateValidator verifier svt hdirect h
  · intro env docEnv payload detached sig signatureData svt htaken hdirect h
    exact jose_established checks certificateValidator verifier svt htaken hdirect h

/-! A signature of certificate 1 that refers to its signed properties and to an element with
the identifier `null`. Before the properties stand others without identifier. -/

/-- The properties, with the digest of a certificate. -/
def propertiesFor (id : Option String) (digestValue : Bytes) : QualifyingProperties where
  signedProperties := some
    { id := id
      signingTime := none
      signingCertificateV2 := some [⟨some DigestAlgorithm.idSHA256, digestValue⟩]
      signingCertificate := none }
  signatureTimeStamps := []

/-- Elements without attributes hold the properties without identifier. -/
def propertiesEnv : XmlEnv Nat where
  newXMLSignature := fun _ =>
    .ok ⟨.ok none, .ok "http://www.w3.org/2001/04/xmldsig-more#rsa-sha256", fun _ => .ok true⟩
  getPublicKey := fun _ => .rsa [1]
  getEncoded := fun _ => .ok [1]
  getPkParams := fun _ => .ok ()
  unmarshal := fun node =>
    match node with
    | .element _ _ [] _ => .ok (propertiesFor none [1])
    | .element _ _ ((_, "other") :: _) _ => .ok (propertiesFor (some "sp") [2])
    | _ => .ok (propertiesFor (some "sp") [1])
  getTimestampedBytes := fun _ _ => none
  ts := quietTsEnv
  svt := quietSvtEnv

def propertiesElement (attrs : List (String × String)) : Node :=
  .element XAdESObjectParser.xadesNamespace "QualifyingProperties" attrs []

def signatureWith (properties : List Node) : Node :=
  .element "http://www.w3.org/2000/09/xmldsig#" "Signature" []
    [.element "http://www.w3.org/2000/09/xmldsig#" "Object" [] properties]

def referringData (refs : List String) : Xml.SignatureData Nat where
  signatureId := none
  refDataMap := refs.map fun ref => (ref, [])
  signatureBytes := [3]
  signedInfoBytes := []
  signatureCertChain := [1]
  signerCertificate := some 1
  signedDocument := none
  coversWholeDoc := true

def anchoredPath : CertificateValidator Nat := fun _ _ => .ok (.default [1, 2])

/-- A library that accepts the value `[9]`, over one trusted header. -/
def bookDocumentEnv : DocumentEnv Nat Unit where
  lib := Jose.Book.library ⟨[], fun _ _ bytes _ => bytes == [9], fun _ => ""⟩
  jvm := plainJvm
  jwsAlgorithmMap := Jose.JWSAlgorithmRegistry.initial
  supportedCritHeaderParams := Jose.JOSESignedDocumentValidator.initialCritHeaderParams
  getCertificate := fun _ => .ok 1
  getPublicKey := fun _ => .rsa [1]

def bookSignature : Jose.Signature Unit where
  header :=
    ⟨⟨"RS256", none, some [[1]]⟩, "eyJhbGciOiJSUzI1NiIsIng1YyI6WyJBUT09Il19", ["alg", "x5c"]⟩
  unprotectedHeader := none
  signature := "CQ"

/-- Both formats, with properties that the signature does refer to. -/
theorem success_fails_closed_referred :
    XmlEstablished propertiesEnv (signatureWith [propertiesElement [("Target", "#s")]])
      (referringData ["", "#sp"])
      (XMLSignatureElementValidator.validateSignature propertiesEnv
        (basicChecksXmlValidator basicSignaturePolicyValidator (some anchoredPath) noTimestamps
          none)
        (signatureWith [propertiesElement [("Target", "#s")]]) (referringData ["", "#sp"])) ∧
    JoseEstablished bookDocumentEnv ⟨"e30"⟩ bookSignature
      (JOSESignatureDataValidator.validateSignature joseEnv
        (basicChecksJoseValidator basicSignaturePolicyValidator (some anchoredPath) noTimestamps
          none) verifiedJose) := by
  have hmain := success_fails_closed_iff (S := Unit) basicSignaturePolicyValidator
    (some anchoredPath) noTimestamps
  refine ⟨(hmain.1 _ _ _ none (by rintro _ _ ⟨⟩) rfl).mpr ?_,
    hmain.2 joseEnv bookDocumentEnv ⟨"e30"⟩ false bookSignature verifiedJose none ⟨rfl, rfl⟩
      (by rintro _ _ ⟨⟩) rfl⟩
  rintro ⟨⟨pre, node, post, qp, sp, data, -, -, -, -, hnull, -⟩, -, -⟩
  simp [referringData] at hnull

/-- The digest in the properties that are referred to is not the signer's, and the
signature is a success. -/
theorem unnamed_properties_accepted :
    (XMLSignatureElementValidator.validateSignature propertiesEnv
      (basicChecksXmlValidator basicSignaturePolicyValidator (some anchoredPath) noTimestamps none)
      (signatureWith [propertiesElement [], propertiesElement [("Target", "other")]])
      (referringData ["", "#sp", "#null"])).status = .SUCCESS ∧
    QualifiedBy propertiesEnv
      (signatureWith [propertiesElement [], propertiesElement [("Target", "other")]])
      (referringData ["", "#sp", "#null"]) (propertiesFor (some "sp") [2]) ∧
    ¬ XmlEstablished propertiesEnv
      (signatureWith [propertiesElement [], propertiesElement [("Target", "other")]])
      (referringData ["", "#sp", "#null"])
      (XMLSignatureElementValidator.validateSignature propertiesEnv
        (basicChecksXmlValidator basicSignaturePolicyValidator (some anchoredPath) noTimestamps
          none)
        (signatureWith [propertiesElement [], propertiesElement [("Target", "other")]])
        (referringData ["", "#sp", "#null"])) := by
  have hqualified : QualifiedBy propertiesEnv
      (signatureWith [propertiesElement [], propertiesElement [("Target", "other")]])
      (referringData ["", "#sp", "#null"]) (propertiesFor (some "sp") [2]) :=
    ⟨propertiesElement [("Target", "other")], List.mem_cons_of_mem _ List.mem_cons_self, rfl,
      _, "sp", [], rfl, rfl, by decide⟩
  refine ⟨rfl, hqualified, ?_⟩
  intro hestablished
  obtain ⟨qp, signer, -, ⟨node, hnode, hqp, hrefers⟩, hnames⟩ := hestablished.named ⟨_, hqualified⟩
  have hnodes : node ∈ [propertiesElement [], propertiesElement [("Target", "other")]] := hnode
  rcases List.mem_cons.mp hnodes with rfl | hnodes
  · -- no identifier to refer to
    cases hqp
    obtain ⟨sp, id, data, hsp, hid, -⟩ := hrefers
    cases hsp
    cases hid
  · cases List.mem_singleton.mp hnodes
    cases hqp
    obtain ⟨sp, refs, hsp, hrefs, ref, href, algorithm, encoded, -, hencoded, hdigest⟩ := hnames
    cases hsp
    cases hrefs
    cases List.mem_singleton.mp href
    cases hencoded
    cases hdigest

end SigVal.Policy
