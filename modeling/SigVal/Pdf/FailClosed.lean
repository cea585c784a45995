import SigVal.Policy.DirectSoundness

/-!
# Direct validation fails closed

`PDFSingleSignatureValidatorImpl.verifySignature` sets the status of a signature
early, lets the PAdES check lower and raise it again, swallows the exceptions of
timestamps and path validation, and leaves the last word to the policy. What a
success stands for is collected here for every policy validator that is built on
`AbstractBasicPDFSignaturePolicyChecks`, with any outcome of the libraries and of
path validation.
-/

namespace SigVal.Pdf

open SigVal.Java SigVal.Cert SigVal.Commons SigVal.Policy PDFSingleSignatureValidator

variable {Cert : Type}

/-! ## The abstract policy class -/

/-- A subclass of `AbstractBasicPDFSignaturePolicyChecks`. Its verdicts give the
status `SUCCESS` only together with the conclusion `PASSED`. -/
structure AbstractBasicPDFSignaturePolicyChecks (Cert : Type) where
  getValidationPolicy : String
  performAdditionalValidityChecks :
    ExtendedPdfSigValResult Cert → DefaultPDFSignatureContext → Outcome PolicyValidationResult
  passed_of_success : ∀ sigResult signatureContext verdict,
    performAdditionalValidityChecks sigResult signatureContext = .ok verdict →
      verdict.status = .SUCCESS → verdict.policyValidationClaims.res = .PASSED

namespace AbstractBasicPDFSignaturePolicyChecks

/-- `validatePolicy`. -/
def validatePolicy (checks : AbstractBasicPDFSignaturePolicyChecks Cert)
    (verifyResultSignature : ExtendedPdfSigValResult Cert)
    (signatureContext : DefaultPDFSignatureContext) : Outcome PolicyValidationResult := do
  let pol := checks.getValidationPolicy
  if !verifyResultSignature.isSuccess then
    pure ⟨⟨pol, .FAILED, verifyResultSignature.statusMessage⟩, .ERROR_INVALID_SIGNATURE⟩
  else
    let signature ← deref verifyResultSignature.pdfSignature
    if ← signatureContext.isSignatureExtendedByNonSafeUpdates signature then
      pure ⟨⟨pol, .FAILED, some "Document content was altered after signing"⟩,
        .ERROR_INVALID_SIGNATURE⟩
    else if verifyResultSignature.pathOf.isEmpty then
      pure ⟨⟨pol, .INDETERMINATE, some "No valid certificate path was found"⟩, .ERROR_NOT_TRUSTED⟩
    else checks.performAdditionalValidityChecks verifyResultSignature signatureContext

end AbstractBasicPDFSignaturePolicyChecks

/-- `BasicPdfSignaturePolicyValidator`. -/
def basicPdfSignaturePolicyValidator : AbstractBasicPDFSignaturePolicyChecks Cert where
  getValidationPolicy := sigValidationPolicyBasicValidation
  performAdditionalValidityChecks := fun _ _ =>
    .ok ⟨⟨sigValidationPolicyBasicValidation, .PASSED, some "OK"⟩, .SUCCESS⟩
  passed_of_success := by
    intro sigResult signatureContext verdict h _
    cases h
    rfl

/-- `PkixPdfSignaturePolicyValidator`. -/
def pkixPdfSignaturePolicyValidator (policy : PkixPolicy) (now : Date) :
    AbstractBasicPDFSignaturePolicyChecks Cert where
  getValidationPolicy := policy.getValidationPolicy
  performAdditionalValidityChecks := fun sigResult _ =>
    .ok (policy.performAdditionalValidityChecks now sigResult.toExtendedSigValResult)
  passed_of_success := by
    intro sigResult signatureContext verdict h hstatus
    cases h
    by_contra hnot
    exact PkixPolicy.performAdditionalValidityChecks_status hnot hstatus

/-- A PDF validator with a policy that is built on the abstract class. -/
def basicChecksPdfValidator (checks : AbstractBasicPDFSignaturePolicyChecks Cert)
    (certificateValidator : CertificateValidator Cert)
    (timeStampPolicyVerifier : TimeStampPolicyVerifier Cert) :
    PDFSingleSignatureValidator Cert where
  certificateValidator := certificateValidator
  sigPolicyVerifier := checks.validatePolicy
  timeStampPolicyVerifier := timeStampPolicyVerifier

/-- The PKIX policy of the other modules is the one of the abstract class. -/
theorem pkixPdfValidator_eq (policy : PkixPolicy) (now : Date)
    (validate : CertificateValidator Cert) (verifier : TimeStampPolicyVerifier Cert) :
    basicChecksPdfValidator (pkixPdfSignaturePolicyValidator policy now) validate verifier =
      pkixPdfValidator policy now validate verifier := by
  unfold basicChecksPdfValidator pkixPdfValidator
  congr 1
  ext sigResult signatureContext
  unfold AbstractBasicPDFSignaturePolicyChecks.validatePolicy
    PkixPdfSignaturePolicyValidator.validatePolicy
  cases hsuccess : sigResult.isSuccess with
  | false => rfl
  | true =>
      cases sigResult.pdfSignature with
      | none => rfl
      | some signature =>
          cases hext : signatureContext.isSignatureExtendedByNonSafeUpdates signature with
          | error ex => simp [deref, hext, bind, Except.bind]
          | ok altered =>
              cases altered with
              | true =>
                  simp only [deref, hext, bind, Except.bind, Bool.not_true, Bool.false_eq_true,
                    if_false, if_true]
                  rfl
              | false =>
                  simp only [deref, hext, bind, Except.bind, Bool.not_true, Bool.false_eq_true,
                    if_false]
                  split
                  · rfl
                  · rfl

/-- What the basic checks have established when the signature is still a success after
the verdict has been copied. -/
theorem validatePolicy_success {checks : AbstractBasicPDFSignaturePolicyChecks Cert}
    {sigResult : ExtendedPdfSigValResult Cert} {signatureContext : DefaultPDFSignatureContext}
    {verdict : PolicyValidationResult}
    (h : checks.validatePolicy sigResult signatureContext = .ok verdict)
    (hstatus : (takePolicyResult verdict sigResult).status = .SUCCESS) :
    sigResult.status = .SUCCESS ∧ verdict.policyValidationClaims.res = .PASSED ∧
      sigResult.pathOf ≠ [] ∧ ∃ signature, sigResult.pdfSignature = some signature ∧
        signatureContext.isSignatureExtendedByNonSafeUpdates signature = .ok false := by
  have hcopied : (if verdict.policyValidationClaims.res = .PASSED then sigResult.status
      else verdict.status) = .SUCCESS := by
    rw [← ExtendedSigValResult.takePolicyResult_status]
    exact hstatus
  unfold AbstractBasicPDFSignaturePolicyChecks.validatePolicy at h
  dsimp only at h
  split at h
  · cases h
    cases hcopied
  · rename_i hsuccess
    have hbefore : sigResult.status = .SUCCESS := by
      simpa [ExtendedSigValResult.isSuccess] using hsuccess
    obtain ⟨signature, hsignature, h⟩ := bind_ok_iff.mp h
    obtain ⟨altered, haltered, h⟩ := bind_ok_iff.mp h
    rw [deref_ok_iff] at hsignature
    cases altered with
    | true =>
        cases h
        cases hcopied
    | false =>
        simp only [Bool.false_eq_true, if_false] at h
        split at h
        · cases h
          cases hcopied
        · rename_i hpath
          refine ⟨hbefore, ?_, by simpa using hpath, signature, hsignature, haltered⟩
          by_contra hnot
          rw [if_neg hnot] at hcopied
          exact hnot (checks.passed_of_success _ _ _ h hcopied)

/-! ## What a success stands for -/

/-- The digest of the signer certificate under an algorithm is the hash of the
reference. -/
def HashesTo (env : PdfEnv Cert) (hashAlgo : Outcome DigestAlgorithm) (signer : Cert)
    (certHash : Bytes) : Prop :=
  ∃ algorithm encoded, hashAlgo = .ok algorithm ∧ env.getEncoded signer = .ok encoded ∧
    env.ts.digest algorithm encoded = .ok certHash

/-- The algorithm an `ESSCertIDv2` declares, SHA-256 unless it names one. -/
def declaredAlgorithm (env : PdfEnv Cert) (essCertID : ESSCertID) : Outcome DigestAlgorithm :=
  match essCertID.hashAlgorithm with
  | some oid => DigestAlgorithmRegistry.getByOid env.ts.registry (some oid)
  | none => DigestAlgorithmRegistry.get env.ts.registry (some DigestAlgorithm.idSHA256)

/-- The second version of the attribute, when present, is about the signer. -/
def SigningCertificateV2Names (env : PdfEnv Cert) (attrs : SignedAttributes) (signer : Cert) :
    Prop :=
  ∀ reference, attrs.signingCertificateV2 = some reference → ∃ essCertID,
    reference = .ok essCertID ∧
      HashesTo env (declaredAlgorithm env essCertID) signer essCertID.certHash

/-- The first version of the attribute, when present, is about the signer. Its
algorithm is SHA-1. -/
def SigningCertificateV1Names (env : PdfEnv Cert) (attrs : SignedAttributes) (signer : Cert) :
    Prop :=
  ∀ reference, attrs.signingCertificateV1 = some reference → ∃ essCertID,
    reference = .ok essCertID ∧
      HashesTo env (DigestAlgorithmRegistry.get env.ts.registry (some DigestAlgorithm.idSHA1))
        signer essCertID.certHash

/-- What stands behind a success, but for the references to the signer certificate. -/
structure Established (env : PdfEnv Cert) (checks : AbstractBasicPDFSignaturePolicyChecks Cert)
    (signature : PDSignature) (pdfDocument : Bytes)
    (signatureContext : DefaultPDFSignatureContext) (cms : CMSSignature Cert)
    (attrs : SignedAttributes) (result : ExtendedPdfSigValResult Cert) : Prop where
  parsed : signatureCMS env signature pdfDocument = .ok cms
  value : cms.verify = .ok true
  attributes : cms.signedAttributes = some attrs
  /-- The algorithm pair is registered, and the algorithm protection attribute names
  the same algorithm. -/
  algorithm : ∃ uri,
    env.getAlgorithmURI (some cms.encryptionAlgOID) (some cms.digestAlgOID) = .ok uri ∧
      AlgorithmsConsistent env uri attrs
  /-- The verdict on the collected result is the one the result shows. -/
  policy : ∃ sigResult verdict, checks.validatePolicy sigResult signatureContext = .ok verdict ∧
    verdict.policyValidationClaims.res = .PASSED ∧ result = takePolicyResult verdict sigResult
  path : result.pathOf ≠ []
  pdfSignature : result.pdfSignature = some signature
  unaltered : signatureContext.isSignatureExtendedByNonSafeUpdates signature = .ok false

theorem hashesTo_of_compared {env : PdfEnv Cert} {hashAlgo : Outcome DigestAlgorithm}
    {signer : Cert} {certHash : Bytes}
    (h : (do
      let algorithm ← hashAlgo
      let encoded ← env.getEncoded signer
      let computed ← env.ts.digest algorithm encoded
      pure (computed == certHash) : Outcome Bool) = .ok true) :
    HashesTo env hashAlgo signer certHash := by
  obtain ⟨algorithm, halgo, h⟩ := bind_ok_iff.mp h
  obtain ⟨encoded, hencoded, h⟩ := bind_ok_iff.mp h
  obtain ⟨computed, hcomputed, h⟩ := bind_ok_iff.mp h
  have heq : computed = certHash := by simpa [pure, Except.pure] using h
  subst heq
  exact ⟨algorithm, encoded, halgo, hencoded, hcomputed⟩

theorem essCertMatches_v2 {env : PdfEnv Cert} {attrs : SignedAttributes} {signer : Cert}
    (h : essCertMatches env attrs (some signer) = .ok true) :
    SigningCertificateV2Names env attrs signer := by
  intro reference hreference
  unfold essCertMatches at h
  rw [hreference] at h
  cases reference with
  | error ex => cases h
  | ok essCertID =>
      refine ⟨essCertID, rfl, hashesTo_of_compared ?_⟩
      unfold declaredAlgorithm
      cases hoid : essCertID.hashAlgorithm with
      | none =>
          simp only [hoid, bind, Except.bind] at h
          exact h
      | some oid =>
          simp only [hoid, bind, Except.bind] at h
          exact h

theorem essCertMatches_v1 {env : PdfEnv Cert} {attrs : SignedAttributes} {signer : Cert}
    (hnone : attrs.signingCertificateV2 = none)
    (h : essCertMatches env attrs (some signer) = .ok true) :
    SigningCertificateV1Names env attrs signer := by
  intro reference hreference
  unfold essCertMatches at h
  rw [hnone, hreference] at h
  cases reference with
  | error ex => cases h
  | ok essCertID => exact ⟨essCertID, rfl, hashesTo_of_compared h⟩

/-- A signer that is named by the attributes is named by the version that was
looked at. -/
theorem names_of_signerNamed {env : PdfEnv Cert} {attrs : SignedAttributes} {signer : Cert}
    (h : SignerNamed env attrs (some signer)) :
    SigningCertificateV2Names env attrs signer ∧
      (attrs.signingCertificateV2 = none → SigningCertificateV1Names env attrs signer) := by
  constructor
  · intro reference hreference
    exact essCertMatches_v2 (h (.inl (by rw [hreference]; rfl))) reference hreference
  · intro hnone reference hreference
    exact essCertMatches_v1 hnone (h (.inr (by rw [hreference]; rfl))) reference hreference

/-! ## The way to a success -/

section Success

variable {env : PdfEnv Cert} {checks : AbstractBasicPDFSignaturePolicyChecks Cert}
  {validate : CertificateValidator Cert} {verifier : TimeStampPolicyVerifier Cert}
  {signature : PDSignature} {pdfDocument : Bytes}
  {documentTimestamps : List (PDFDocTimeStamp Cert)}
  {signatureContext : DefaultPDFSignatureContext} {cms : CMSSignature Cert}
  {sigResult result : ExtendedPdfSigValResult Cert}

@[simp] theorem takePolicyResult_pathOf (verdict : PolicyValidationResult)
    (sigResult : ExtendedPdfSigValResult Cert) :
    (takePolicyResult verdict sigResult).pathOf = sigResult.pathOf := by
  unfold takePolicyResult ExtendedSigValResult.takePolicyResult ExtendedSigValResult.pathOf
  dsimp only
  split <;> rfl

@[simp] theorem takePolicyResult_pdfSignature (verdict : PolicyValidationResult)
    (sigResult : ExtendedPdfSigValResult Cert) :
    (takePolicyResult verdict sigResult).pdfSignature = sigResult.pdfSignature := rfl

/-- Collecting keeps the dictionary, and ends in a success exactly when the signature
was one and names its signer. -/
theorem collect_status_iff (env : PdfEnv Cert) (v : PDFSingleSignatureValidator Cert)
    (signature : PDSignature) (documentTimestamps : List (PDFDocTimeStamp Cert))
    (cms : CMSSignature Cert) (attrs : SignedAttributes)
    (hcert : sigResult.certificateValidationResult = none) (hex : sigResult.exception = none) :
    (v.collect env signature documentTimestamps cms attrs sigResult).pdfSignature =
        sigResult.pdfSignature ∧
      ((v.collect env signature documentTimestamps cms attrs sigResult).status = .SUCCESS ↔
        sigResult.status = .SUCCESS ∧ SignerNamed env attrs sigResult.signerCertificate) := by
  obtain ⟨mid, hcollect, hmid, _, hmidCert, hmidEx, hmidPdf⟩ :=
    collect_eq env v signature documentTimestamps cms attrs sigResult hcert hex
  obtain ⟨hstatus, _, _, _⟩ := pdf_takePathOutcome_fields
    (v.certificateValidator sigResult.signerCertificate sigResult.signatureCertificateChain)
    mid hmidCert hmidEx
  rw [hcollect]
  refine ⟨pdf_takePathOutcome_pdfSignature.trans hmidPdf, ?_⟩
  rw [hstatus]
  exact hmid

/-- The steps from the algorithm protection attribute on. -/
theorem checkConsistency_success {attrs : SignedAttributes} {uri : String}
    (halgo : sigResult.signatureAlgorithm = some uri)
    (hcert : sigResult.certificateValidationResult = none) (hex : sigResult.exception = none)
    (h : checkConsistency env (basicChecksPdfValidator checks validate verifier) signature
      documentTimestamps signatureContext cms attrs sigResult = .ok result)
    (hstatus : result.status = .SUCCESS) :
    sigResult.status = .SUCCESS ∧ AlgorithmsConsistent env uri attrs ∧
      SignerNamed env attrs sigResult.signerCertificate ∧
      (∃ collected verdict, checks.validatePolicy collected signatureContext = .ok verdict ∧
        verdict.policyValidationClaims.res = .PASSED ∧
        result = takePolicyResult verdict collected) ∧
      result.pathOf ≠ [] ∧ result.pdfSignature = sigResult.pdfSignature ∧
      ∃ signature, result.pdfSignature = some signature ∧
        signatureContext.isSignatureExtendedByNonSafeUpdates signature = .ok false := by
  by_cases hconsistent : AlgorithmsConsistent env uri attrs
  · obtain ⟨base, hbase, hbasePdf, hrun⟩ := checkConsistency_consistent _ halgo hconsistent
    rw [hrun] at h
    obtain ⟨verdict, hverdict, h⟩ := bind_ok_iff.mp h
    cases h
    obtain ⟨hcollectPdf, hcollect⟩ := collect_status_iff env
      (basicChecksPdfValidator checks validate verifier) signature documentTimestamps cms attrs
      (hbase ▸ hcert : base.certificateValidationResult = none)
      (hbase ▸ hex : base.exception = none)
    obtain ⟨hsuccess, hpassed, hpath, named, hnamed, hunaltered⟩ :=
      validatePolicy_success hverdict hstatus
    rw [hcollect, hbase] at hsuccess
    refine ⟨hsuccess.1, hconsistent, hsuccess.2, ⟨_, verdict, hverdict, hpassed, rfl⟩, ?_, ?_,
      named, ?_, hunaltered⟩
    · rw [takePolicyResult_pathOf]
      exact hpath
    · rw [takePolicyResult_pdfSignature, hcollectPdf, hbasePdf]
    · rw [takePolicyResult_pdfSignature, hnamed]
  · obtain ⟨hinvalid, -⟩ := checkConsistency_inconsistent halgo hconsistent h
    rw [hstatus] at hinvalid
    cases hinvalid

/-- A success of `verifySignature` is established, with a signer that is named by the
signed attributes. -/
theorem established_of_success
    (h : verifySignature env (basicChecksPdfValidator checks validate verifier) signature
      pdfDocument documentTimestamps signatureContext = .ok result)
    (hstatus : result.status = .SUCCESS) :
    ∃ cms attrs,
      Established env checks signature pdfDocument signatureContext cms attrs result ∧
      SignerNamed env attrs (some cms.sigCert) := by
  obtain ⟨contents, hcontents, h⟩ := bind_ok_iff.mp h
  obtain ⟨covers, _, h⟩ := bind_ok_iff.mp h
  obtain ⟨signedContent, hsigned, h⟩ := bind_ok_iff.mp h
  obtain ⟨cms, hparse, h⟩ := bind_ok_iff.mp h
  have hcms : signatureCMS env signature pdfDocument = .ok cms :=
    bind_ok_iff.mpr ⟨contents, hcontents, bind_ok_iff.mpr ⟨signedContent, hsigned, hparse⟩⟩
  cases hverify : cms.verify with
  | error ex =>
      simp only [hverify] at h
      cases h
      cases hstatus
  | ok verified =>
      simp only [hverify] at h
      obtain ⟨_, _, h⟩ := bind_ok_iff.mp h
      cases huri : env.getAlgorithmURI (some cms.encryptionAlgOID) (some cms.digestAlgOID) with
      | error ex =>
          simp only [huri] at h
          cases h
          cases hstatus
      | ok uri =>
          simp only [huri] at h
          obtain ⟨attrs, hattrs, h⟩ := bind_ok_iff.mp h
          rw [deref_ok_iff] at hattrs
          obtain ⟨hsuccess, hcons, hnamed, hpolicy, hpath, hpdf, named, hnamedPdf, hunaltered⟩ :=
            checkConsistency_success rfl rfl rfl h hstatus
          -- the dictionary of the result is the one that was given
          have hsame : result.pdfSignature = some signature := hpdf
          rw [hsame] at hnamedPdf
          cases hnamedPdf
          have hvalue : cms.verify = .ok true := by
            cases verified with
            | true => exact hverify
            | false => cases hsuccess
          exact ⟨cms, attrs, ⟨hcms, hvalue, hattrs, ⟨uri, huri, hcons⟩, hpolicy, hpath, hsame,
            hunaltered⟩, hnamed⟩

/-- **Direct validation fails closed.** For every outcome of the CMS library, the
algorithm registry, the timestamps, path validation and the policy: a success has a
signature value that verifies, consistent and registered algorithms, a signer that
is named by the reference that was looked at (the second version of the attribute
when there is one), a policy that passed on a validated path, and no unsafe update
after it. -/
theorem direct_success_established
    (h : verifySignature env (basicChecksPdfValidator checks validate verifier) signature
      pdfDocument documentTimestamps signatureContext = .ok result)
    (hstatus : result.status = .SUCCESS) :
    ∃ cms attrs,
      Established env checks signature pdfDocument signatureContext cms attrs result ∧
      SigningCertificateV2Names env attrs cms.sigCert ∧
      (attrs.signingCertificateV2 = none → SigningCertificateV1Names env attrs cms.sigCert) := by
  obtain ⟨cms, attrs, hestablished, hnamed⟩ := established_of_success h hstatus
  exact ⟨cms, attrs, hestablished, names_of_signerNamed hnamed⟩

end Success

/-! A signature with both versions of the certificate reference. The second one is the
SHA-256 of the signer certificate, and the first one is the hash of another
certificate. -/

def twoReferences : SignedAttributes where
  cmsAlgorithmProtect := none
  signingCertificateV2 := some (.ok ⟨none, [2, 5, 6]⟩)
  signingCertificateV1 := some (.ok ⟨none, [7]⟩)
  signingTime := none

def twoReferencesEnv : PdfEnv Nat :=
  { pdfEnv with
    parseCMS := fun _ _ => .ok { plainCMS with signedAttributes := some twoReferences }
    ts :=
      { quietTsEnv with
        digest := fun algorithm _ =>
          .ok (if algorithm.oid = DigestAlgorithm.oidSHA256 then [2, 5, 6] else [1]) } }

def confirmedPath : PathEnv Nat :=
  { revokedPath with
    checkValidity := fun certificate issuer =>
      .ok { revokedStatus certificate issuer 0 with validity := .VALID, revocationTime := none } }

theorem twoReferences_success :
    ∃ result,
      verifySignature twoReferencesEnv
        (basicChecksPdfValidator (pkixPdfSignaturePolicyValidator {} 2000)
          (pathCertificateValidator confirmedPath) noTimestamps)
        signedRange [] [] signedContext = .ok result ∧
      result.status = .SUCCESS :=
  ⟨_, rfl, rfl⟩

theorem direct_success_established_two_references :
    ∃ result,
      verifySignature twoReferencesEnv
        (basicChecksPdfValidator (pkixPdfSignaturePolicyValidator {} 2000)
          (pathCertificateValidator confirmedPath) noTimestamps)
        signedRange [] [] signedContext = .ok result ∧
      result.status = .SUCCESS ∧ ∃ cms attrs,
        Established twoReferencesEnv (pkixPdfSignaturePolicyValidator {} 2000) signedRange []
          signedContext cms attrs result ∧
        SigningCertificateV2Names twoReferencesEnv attrs cms.sigCert ∧
        (attrs.signingCertificateV2 = none →
          SigningCertificateV1Names twoReferencesEnv attrs cms.sigCert) := by
  obtain ⟨result, hok, hstatus⟩ := twoReferences_success
  exact ⟨result, hok, hstatus, direct_success_established hok hstatus⟩

/-- The reference of the first version is not compared, and does not match. -/
theorem first_reference_not_compared :
    ∃ result,
      verifySignature twoReferencesEnv
        (basicChecksPdfValidator (pkixPdfSignaturePolicyValidator {} 2000)
          (pathCertificateValidator confirmedPath) noTimestamps)
        signedRange [] [] signedContext = .ok result ∧
      result.status = .SUCCESS ∧
      ¬ ∃ cms attrs,
        Established twoReferencesEnv (pkixPdfSignaturePolicyValidator {} 2000) signedRange []
          signedContext cms attrs result ∧
        SigningCertificateV2Names twoReferencesEnv attrs cms.sigCert ∧
        SigningCertificateV1Names twoReferencesEnv attrs cms.sigCert := by
  obtain ⟨result, hok, hstatus⟩ := twoReferences_success
  refine ⟨result, hok, hstatus, ?_⟩
  rintro ⟨cms, attrs, hestablished, _, hfirst⟩
  have hparsed := hestablished.parsed
  cases hparsed
  have hattrs := hestablished.attributes
  cases hattrs
  obtain ⟨essCertID, hread, algorithm, encoded, halgo, hencoded, hdigest⟩ := hfirst _ rfl
  cases hread
  cases hencoded
  have hsha1 : algorithm = ⟨DigestAlgorithm.idSHA1, DigestAlgorithm.oidSHA1⟩ := by
    have hget : DigestAlgorithmRegistry.get twoReferencesEnv.ts.registry
        (some DigestAlgorithm.idSHA1) =
        .ok ⟨DigestAlgorithm.idSHA1, DigestAlgorithm.oidSHA1⟩ := by decide
    rw [hget] at halgo
    cases halgo
    rfl
  subst hsha1
  exact absurd hdigest (by decide)

end SigVal.Pdf
