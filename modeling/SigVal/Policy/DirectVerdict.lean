import SigVal.Xml.ElementValidator
import SigVal.Jose.DataValidator
import SigVal.Pdf.SingleValidator

/-!
# What a direct success says about the certificate path

The verdict on a signature is split over the exception of the path validator,
what a signature validator copies out of it, the basic policy checks and the
PKIX policy. This module puts the pieces together: for each format it says on
which inputs the result is `SUCCESS`, and from that when a success means that
every certificate status is valid and signed.
-/

namespace SigVal.Policy

open SigVal.Java SigVal.Dom SigVal.Cert SigVal.Commons
open SigVal.Xml (XmlEnv XMLSignatureElementValidator XAdESObjectParser)
open SigVal.Jose (JoseEnv JOSESignatureDataValidator JOSESignatureData)
open SigVal.Pdf

variable {Cert : Type}

/-! ## What a success is taken to mean -/

/-- Every status of the path result is confirmed; a revoked one is tolerated
only by a policy that looks at the time of signing. -/
def StatusesHold (policy : PkixPolicy) (outcome : PathOutcome Cert) : Prop :=
  ∀ r statuses, carried outcome = some r → r.validationStatusList = some statuses →
    ∀ status ∈ statuses, status.Confirmed ∨
      (policy.enforceCurrentTimeValidation = false ∧ status.validity = .REVOKED)

/-- The signer certificate is a trust anchor itself. -/
def SignerTrusted (trustAnchors : List Cert) (signer : Option Cert) : Prop :=
  ∃ cert ∈ trustAnchors, signer = some cert

/-- A status that nobody signed says valid, or a status says revoked although the
certificate must be good now. -/
def HasBadStatus (policy : PkixPolicy) (statuses : List (ValidationStatus Cert)) : Prop :=
  ∃ status ∈ statuses, (status.validity = .VALID ∧ status.statusSignatureValid = false) ∨
    (policy.enforceCurrentTimeValidation = true ∧ status.validity = .REVOKED)

/-- An outcome of path validation that the policy lets through: it carries a path
and statuses that are accepted next to the recorded exception. -/
structure GetsThrough {TS : Type} [IsTimeStamp TS Cert] (policy : PkixPolicy) (now : Date)
    (times : List (TimeValidationResult Cert TS)) (exception : Option Exn)
    (outcome : PathOutcome Cert) (statuses : List (ValidationStatus Cert)) : Prop where
  result : ∃ r path, carried outcome = some r ∧ r.validatedCertificatePath = some path ∧
    path ≠ [] ∧ r.validationStatusList = some statuses
  accepts : policy.Accepts now (some times) exception statuses

/-- Among decided statuses the bad ones are those that break the promise. -/
theorem statusesHold_iff {policy : PkixPolicy} {outcome : PathOutcome Cert}
    {r : PathValidationResult Cert} {statuses : List (ValidationStatus Cert)}
    (hr : carried outcome = some r) (hlist : r.validationStatusList = some statuses)
    (hdec : PkixPolicy.Decided statuses) :
    StatusesHold policy outcome ↔ ¬ HasBadStatus policy statuses := by
  constructor
  · rintro hhold ⟨status, hmem, ⟨hvalid, hunsigned⟩ | ⟨henf, hrev⟩⟩
    · rcases hhold r statuses hr hlist status hmem with ⟨_, hsigned⟩ | ⟨_, hrev⟩
      · rw [hunsigned] at hsigned
        cases hsigned
      · rw [hvalid] at hrev
        cases hrev
    · rcases hhold r statuses hr hlist status hmem with ⟨hvalid, _⟩ | ⟨hfalse, _⟩
      · rw [hrev] at hvalid
        cases hvalid
      · rw [henf] at hfalse
        cases hfalse
  · intro hbad r' statuses' hr' hlist' status hmem
    rw [hr] at hr'
    cases hr'
    rw [hlist] at hlist'
    cases hlist'
    rcases hdec status hmem with hvalid | hrev
    · cases hsigned : status.statusSignatureValid with
      | true => exact .inl ⟨hvalid, hsigned⟩
      | false => exact absurd ⟨status, hmem, .inl ⟨hvalid, hsigned⟩⟩ hbad
    · cases henf : policy.enforceCurrentTimeValidation with
      | false => exact .inr ⟨rfl, hrev⟩
      | true => exact absurd ⟨status, hmem, .inr ⟨henf, hrev⟩⟩ hbad

/-- The step from the inputs that succeed to the inputs on which a success keeps
its promise, the same for every format. -/
theorem success_sound_iff {TS : Type} [IsTimeStamp TS Cert] {success verified trusted : Prop}
    {policy : PkixPolicy} {now : Date} {times : List (TimeValidationResult Cert TS)}
    {exception : Option Exn} {outcome : PathOutcome Cert}
    (hsuccess : success ↔ verified ∧
      ∃ statuses, GetsThrough policy now times exception outcome statuses) :
    (success → trusted ∨ StatusesHold policy outcome) ↔
      ¬ (verified ∧ ¬ trusted ∧ ∃ statuses,
        GetsThrough policy now times exception outcome statuses ∧
          HasBadStatus policy statuses) := by
  have hiff : ∀ statuses, GetsThrough policy now times exception outcome statuses →
      (StatusesHold policy outcome ↔ ¬ HasBadStatus policy statuses) := by
    intro statuses h
    obtain ⟨⟨r, path, hr, _, _, hlist⟩, hacc⟩ := h
    exact statusesHold_iff hr hlist hacc.decided
  constructor
  · rintro hsound ⟨hverified, htrusted, statuses, hthrough, hbad⟩
    rcases hsound (hsuccess.mpr ⟨hverified, statuses, hthrough⟩) with h | h
    · exact htrusted h
    · exact (hiff statuses hthrough).mp h hbad
  · intro hnot hs
    obtain ⟨hverified, statuses, hthrough⟩ := hsuccess.mp hs
    by_contra hcontra
    obtain ⟨htrusted, hhold⟩ := not_or.mp hcontra
    refine hnot ⟨hverified, htrusted, statuses, hthrough, ?_⟩
    by_contra hbad
    exact hhold ((hiff statuses hthrough).mpr hbad)

/-- From a result before path validation to the one the policy sees, in XML and
JOSE: with the fields that `f` sets it passes exactly when the outcome gets
through. -/
theorem passes_after_path_iff {TS : Type} [IsTimeStamp TS Cert] {policy : PkixPolicy}
    {now : Date} {times : List (TimeValidationResult Cert TS)} {outcome : PathOutcome Cert}
    (base : ExtendedSigValResult Cert TS) {final : ExtendedSigValResult Cert TS}
    (hcert : base.certificateValidationResult = none)
    (hfinal : ∀ c, base.takePathOutcome outcome =
        { base with certificateValidationResult := c } →
      final.status = .SUCCESS ∧ final.certificateValidationResult = c ∧
        final.timeValidationResults = some times ∧ final.exception = none)
    (hkept : final.status = .SUCCESS → (base.takePathOutcome outcome).status = .SUCCESS) :
    (∃ r statuses, Passes policy now final r statuses) ↔
      ∃ statuses, GetsThrough policy now times none outcome statuses := by
  constructor
  · rintro ⟨r, statuses, hpass⟩
    obtain ⟨_, c, hc⟩ := ExtendedSigValResult.takePathOutcome_of_success (hkept hpass.status)
    obtain ⟨_, hfc, hft, hfe⟩ := hfinal (some c) hc
    have hr : carried outcome = some r := by
      apply ExtendedSigValResult.carried_of_takePathOutcome hcert
      rw [hc]
      exact hfc.symm.trans hpass.certificateValidationResult
    obtain ⟨path, hpath, hne⟩ := hpass.path
    refine ⟨statuses, ⟨r, path, hr, hpath, hne, hpass.validationStatusList⟩, ?_⟩
    have hacc := hpass.accepts
    rw [hft, hfe] at hacc
    exact hacc
  · rintro ⟨statuses, ⟨r, path, hr, hpath, hne, hlist⟩, hacc⟩
    obtain ⟨hfs, hfc, hft, hfe⟩ :=
      hfinal _ (ExtendedSigValResult.takePathOutcome_of_carried hr hpath hne)
    refine ⟨r, statuses, hfs, hfc, ⟨path, hpath, hne⟩, hlist, ?_⟩
    rw [hft, hfe]
    exact hacc

/-! ## XML -/

/-- An XML validator without SVT, with the PKIX policy. -/
def pkixXmlValidator (policy : PkixPolicy) (now : Date)
    (certificateValidator : CertificateValidator Cert)
    (timeStampPolicyVerifier : TimeStampPolicyVerifier Cert) :
    XMLSignatureElementValidator Cert where
  certificateValidator := some certificateValidator
  signaturePolicyValidator := fun result =>
    .ok (PkixXmlSignaturePolicyValidator.validatePolicy policy now result)
  timeStampPolicyVerifier := timeStampPolicyVerifier
  xmlsvtValidator := none

/-- The verified times of the timestamps in the XAdES properties. -/
def xmlTimes (env : XmlEnv Cert) (v : XMLSignatureElementValidator Cert) (signature : Node)
    (signatureData : Xml.SignatureData Cert) :
    List (TimeValidationResult Cert (TimeStamp Cert)) :=
  match XAdESObjectParser.parse env signature signatureData with
  | .ok xades => v.timeValidationResults env signature xades
  | .error _ => []

/-- The signature value verifies, and its XAdES properties, when it has any, name
the signer certificate. -/
structure XmlVerified (env : XmlEnv Cert) (signature : Node)
    (signatureData : Xml.SignatureData Cert) : Prop where
  element : ∃ signer,
    XMLSignatureElementValidator.ElementVerifies env signature signatureData signer
  signerNamed : ∃ xades, XAdESObjectParser.parse env signature signatureData = .ok xades ∧
    (xades.qualifyingProperties.isSome = true →
      xades.isXadesVerified env signatureData.signerCertificate = true)

section Xml

open SigVal.Xml.XMLSignatureElementValidator

variable {env : XmlEnv Cert} {signature : Node} {signatureData : Xml.SignatureData Cert}
  {xades : XAdESObjectParser}

theorem takeXades_status_iff {result : Xml.XmlResult Cert} :
    (takeXades env signatureData xades result).status = .SUCCESS ↔
      result.status = .SUCCESS ∧ (xades.qualifyingProperties.isSome = true →
        xades.isXadesVerified env result.signerCertificate = true) := by
  unfold takeXades
  dsimp only
  cases xades.qualifyingProperties.isSome with
  | false => simp
  | true =>
      cases xades.isXadesVerified env result.signerCertificate with
      | true => simp
      | false => simp [ExtendedSigValResult.setError]

theorem takeXades_kept (signatureData : Xml.SignatureData Cert) (result : Xml.XmlResult Cert)
    (h : xades.qualifyingProperties.isSome = true →
      xades.isXadesVerified env result.signerCertificate = true) :
    (takeXades env signatureData xades result).exception = result.exception ∧
      (takeXades env signatureData xades result).certificateValidationResult =
        result.certificateValidationResult := by
  unfold takeXades
  dsimp only
  cases hqp : xades.qualifyingProperties.isSome with
  | false => simp
  | true => simp [h hqp]

/-- The inputs on which direct validation of an XML signature succeeds. -/
theorem xml_success_iff {policy : PkixPolicy} {now : Date}
    {validate : CertificateValidator Cert} {verifier : TimeStampPolicyVerifier Cert} :
    (validateSignature env (pkixXmlValidator policy now validate verifier) signature
        signatureData).status = .SUCCESS ↔
      XmlVerified env signature signatureData ∧ ∃ statuses,
        GetsThrough policy now
          (xmlTimes env (pkixXmlValidator policy now validate verifier) signature signatureData)
          none
          (validate signatureData.signerCertificate (some signatureData.signatureCertChain))
          statuses := by
  show (validateDirectly env (pkixXmlValidator policy now validate verifier) signature
    signatureData).status = .SUCCESS ↔ _
  unfold validateDirectly xmlTimes
  cases hparse : XAdESObjectParser.parse env signature signatureData with
  | error ex =>
      constructor
      · intro h
        cases h
      · rintro ⟨⟨_, xades, hok, _⟩, _⟩
        rw [hparse] at hok
        cases hok
  | ok xades =>
      show (conclude env _ signature signatureData xades _).status = .SUCCESS ↔ _
      unfold conclude
      dsimp only
      refine Iff.trans takePolicyResult_success_iff ?_
      by_cases hxml : XmlVerified env signature signatureData
      · rw [and_iff_right hxml]
        obtain ⟨⟨signer, hver⟩, xades', hparse', hnamed⟩ := hxml
        rw [hparse] at hparse'
        cases hparse'
        rw [hver.signerCertificate] at hnamed
        obtain ⟨uri, hbase⟩ := validateSignatureElement_of_verifies hver
        rw [hbase, hver.signerCertificate]
        -- the verified result is a success, so path validation is made
        have hpath : (verifiedResult signatureData signer uri).validatePath
            (pkixXmlValidator policy now validate verifier).certificateValidator =
            (verifiedResult signatureData signer uri).takePathOutcome
              (validate (some signer) (some signatureData.signatureCertChain)) := rfl
        rw [hpath]
        refine passes_after_path_iff (verifiedResult signatureData signer uri) rfl ?_ ?_
        · intro c hc
          rw [hc]
          have hkept := takeXades_kept signatureData
            { verifiedResult signatureData signer uri with certificateValidationResult := c } hnamed
          exact ⟨takeXades_status_iff.mpr ⟨rfl, hnamed⟩, hkept.2, rfl, hkept.1⟩
        · intro h
          exact (takeXades_status_iff.mp h).1
      · rw [iff_false_right (fun h => hxml h.1)]
        rintro ⟨r, statuses, hpass⟩
        obtain ⟨hstatus, hnamed⟩ := takeXades_status_iff.mp hpass.status
        obtain ⟨signer, hver⟩ := validateSignatureElement_successVerified
          (ExtendedSigValResult.status_of_validatePath hstatus)
        obtain ⟨uri, hbase⟩ := validateSignatureElement_of_verifies hver
        rw [ExtendedSigValResult.validatePath_signerCertificate, hbase] at hnamed
        refine hxml ⟨⟨signer, hver⟩, xades, hparse, ?_⟩
        rw [hver.signerCertificate]
        exact hnamed

end Xml

/-! ## JOSE -/

/-- A JOSE validator without SVT, with the PKIX policy. -/
def pkixJoseValidator (policy : PkixPolicy) (now : Date)
    (certificateValidator : CertificateValidator Cert)
    (timeStampPolicyVerifier : TimeStampPolicyVerifier Cert) :
    JOSESignatureDataValidator Cert where
  certificateValidator := some certificateValidator
  signaturePolicyValidator := fun result =>
    .ok (PkixJOSESignaturePolicyValidator.validatePolicy policy now result)
  timeStampPolicyVerifier := timeStampPolicyVerifier
  svtValidator := none

/-- The verified times of the timestamps in `etsiU`. -/
def joseTimes (env : JoseEnv Cert) (v : JOSESignatureDataValidator Cert)
    (signatureData : JOSESignatureData Cert) :
    List (TimeValidationResult Cert (TimeStamp Cert)) :=
  match v.timeValidationResults env signatureData with
  | .ok times => times
  | .error _ => []

/-- The signature value verifies, and the timestamps can be collected. -/
structure JoseVerified (env : JoseEnv Cert) (signatureData : JOSESignatureData Cert) : Prop where
  value : ∃ signer, JOSESignatureDataValidator.DataVerifies env signatureData signer
  tokens : ∃ tokens,
    JOSESignatureDataValidator.getSignatureTimestampList env signatureData = .ok tokens

section Jose

open SigVal.Jose.JOSESignatureDataValidator

variable {env : JoseEnv Cert} {signatureData : JOSESignatureData Cert}

/-- With the timestamps collected the policy concludes. -/
theorem validateDirectly_of_tokens {v : JOSESignatureDataValidator Cert} {tokens : List Bytes}
    (htokens : getSignatureTimestampList env signatureData = .ok tokens) :
    validateDirectly env v signatureData =
      conclude v (takeHeaders env signatureData
        ((validateSignatureData env signatureData).validatePath v.certificateValidator))
        (joseTimes env v signatureData) := by
  unfold validateDirectly joseTimes timeValidationResults
  rw [htokens]
  rfl

/-- Timestamps that cannot be collected fail the validation. -/
theorem validateDirectly_of_error {v : JOSESignatureDataValidator Cert} {ex : Exn}
    (htokens : getSignatureTimestampList env signatureData = .error ex) :
    (validateDirectly env v signatureData).status = .ERROR_INVALID_SIGNATURE := by
  unfold validateDirectly timeValidationResults
  rw [htokens]
  rfl

/-- The inputs on which direct validation of a JOSE signature succeeds. -/
theorem jose_success_iff {policy : PkixPolicy} {now : Date}
    {validate : CertificateValidator Cert} {verifier : TimeStampPolicyVerifier Cert} :
    (validateSignature env (pkixJoseValidator policy now validate verifier)
        signatureData).status = .SUCCESS ↔
      JoseVerified env signatureData ∧ ∃ statuses,
        GetsThrough policy now
          (joseTimes env (pkixJoseValidator policy now validate verifier) signatureData)
          none
          (validate signatureData.signerCertificate (some signatureData.signatureCertChain))
          statuses := by
  show (validateDirectly env (pkixJoseValidator policy now validate verifier)
    signatureData).status = .SUCCESS ↔ _
  cases htokens : getSignatureTimestampList env signatureData with
  | error ex =>
      rw [validateDirectly_of_error htokens]
      apply iff_of_false (by simp)
      rintro ⟨⟨-, tokens, hok⟩, -⟩
      rw [htokens] at hok
      cases hok
  | ok tokens =>
      have hverified : JoseVerified env signatureData ↔
          ∃ signer, DataVerifies env signatureData signer :=
        ⟨fun h => h.value, fun h => ⟨h, tokens, htokens⟩⟩
      rw [validateDirectly_of_tokens htokens, hverified]
      unfold conclude
      refine Iff.trans takePolicyResult_success_iff ?_
      by_cases hverifies : ∃ signer, DataVerifies env signatureData signer
      · rw [and_iff_right hverifies]
        obtain ⟨signer, hver⟩ := hverifies
        rw [validateSignatureData_of_verifies hver, hver.signerCertificate]
        have hpath : (verifiedResult signatureData signer).validatePath
            (pkixJoseValidator policy now validate verifier).certificateValidator =
            (verifiedResult signatureData signer).takePathOutcome
              (validate (some signer) (some signatureData.signatureCertChain)) := rfl
        rw [hpath]
        refine passes_after_path_iff (verifiedResult signatureData signer) rfl ?_ ?_
        · intro c hc
          rw [hc]
          exact ⟨rfl, rfl, rfl, rfl⟩
        · intro h
          exact h
      · rw [iff_false_right (fun h => hverifies h.1)]
        rintro ⟨r, statuses, hpass⟩
        exact hverifies (verifies_of_success
          (ExtendedSigValResult.status_of_validatePath hpass.status))

end Jose

/-! ## PDF -/

/-- A PDF validator with the PKIX policy. -/
def pkixPdfValidator (policy : PkixPolicy) (now : Date)
    (certificateValidator : CertificateValidator Cert)
    (timeStampPolicyVerifier : TimeStampPolicyVerifier Cert) :
    PDFSingleSignatureValidator Cert where
  certificateValidator := certificateValidator
  sigPolicyVerifier := fun sigResult signatureContext =>
    PkixPdfSignaturePolicyValidator.validatePolicy policy now
      (do
        let signature ← deref sigResult.pdfSignature
        signatureContext.isSignatureExtendedByNonSafeUpdates signature)
      sigResult.toExtendedSigValResult
  timeStampPolicyVerifier := timeStampPolicyVerifier

/-- The exception the PDF validator records for an outcome. -/
def recordedException : PathOutcome Cert → Option Exn
  | .ok _ => none
  | .error failure => some failure.toExn

section Pdf

open SigVal.Pdf.PDFSingleSignatureValidator

/-- The verified times of a PDF signature. -/
def pdfTimes (env : PdfEnv Cert) (v : PDFSingleSignatureValidator Cert) (cms : CMSSignature Cert)
    (documentTimestamps : List (PDFDocTimeStamp Cert)) :
    List (TimeValidationResult Cert (PdfTimeStamp Cert)) :=
  addVerifiedTimes env (v.checkTimeStamps env cms) documentTimestamps

/-- Everything about the signature but its path verifies, and the document was
not altered after signing. -/
structure PdfVerified (env : PdfEnv Cert) (signature : PDSignature)
    (signatureContext : DefaultPDFSignatureContext) (cms : CMSSignature Cert) : Prop where
  located : ∃ covers, signatureContext.isCoversWholeDocument signature = .ok covers
  value : cms.verify = .ok true
  pkParams : env.getPkParams cms.sigCert = .ok ()
  attributes : ∃ uri attrs,
    env.getAlgorithmURI (some cms.encryptionAlgOID) (some cms.digestAlgOID) = .ok uri ∧
    cms.signedAttributes = some attrs ∧ AlgorithmsConsistent env uri attrs ∧
    SignerNamed env attrs (some cms.sigCert)
  unaltered : signatureContext.isSignatureExtendedByNonSafeUpdates signature = .ok false

variable {env : PdfEnv Cert} {signature : PDSignature}

/-- What the PDF validator takes over from path validation. -/
theorem pdf_takePathOutcome_fields (outcome : PathOutcome Cert)
    (sigResult : ExtendedPdfSigValResult Cert)
    (hcert : sigResult.certificateValidationResult = none) (hex : sigResult.exception = none) :
    (takePathOutcome outcome sigResult).status = sigResult.status ∧
      (takePathOutcome outcome sigResult).timeValidationResults =
        sigResult.timeValidationResults ∧
      (takePathOutcome outcome sigResult).exception = recordedException outcome ∧
      ∀ r, (takePathOutcome outcome sigResult).certificateValidationResult =
        some (.pathValidation r) ↔ carried outcome = some r := by
  unfold takePathOutcome
  split
  · rename_i validationResult
    refine ⟨rfl, rfl, hex, ?_⟩
    intro r
    cases validationResult with
    | pathValidation result => simp [carried]
    | default path => simp [carried]
  · refine ⟨rfl, rfl, rfl, ?_⟩
    intro r
    simp [carried]
  · refine ⟨rfl, rfl, rfl, ?_⟩
    intro r
    simp [carried, hcert]

/-- The result before path validation: a success exactly when the PAdES check
agrees, with the verified times set. -/
theorem collect_eq (env : PdfEnv Cert) (v : PDFSingleSignatureValidator Cert)
    (signature : PDSignature) (documentTimestamps : List (PDFDocTimeStamp Cert))
    (cms : CMSSignature Cert) (attrs : SignedAttributes)
    (sigResult : ExtendedPdfSigValResult Cert)
    (hcert : sigResult.certificateValidationResult = none) (hex : sigResult.exception = none) :
    ∃ mid : ExtendedPdfSigValResult Cert,
      v.collect env signature documentTimestamps cms attrs sigResult =
        takePathOutcome
          (v.certificateValidator sigResult.signerCertificate sigResult.signatureCertificateChain)
          mid ∧
      (mid.status = .SUCCESS ↔
        sigResult.status = .SUCCESS ∧ SignerNamed env attrs sigResult.signerCertificate) ∧
      mid.timeValidationResults = some (pdfTimes env v cms documentTimestamps) ∧
      mid.certificateValidationResult = none ∧ mid.exception = none ∧
      mid.pdfSignature = sigResult.pdfSignature := by
  by_cases hstatus : sigResult.status = .SUCCESS
  · obtain ⟨hkex, hkcert, hksigner, hkchain, hkpdf⟩ :=
      verifyPadesProperties_kept env attrs sigResult
    refine ⟨{ verifyPadesProperties env attrs sigResult with
        claimedSigningTime := getClaimedSigningTime (env.getSignDate signature) attrs.signingTime
        timeValidationResults := some (pdfTimes env v cms documentTimestamps) },
      ?_, ?_, rfl, hkcert.trans hcert, hkex.trans hex, hkpdf⟩
    · unfold collect ExtendedSigValResult.isSuccess
      simp only [hstatus, beq_self_eq_true, if_true, hksigner, hkchain]
      rfl
    · rw [and_iff_right hstatus]
      exact verifyPadesProperties_status_iff hstatus
  · refine ⟨{ sigResult with
        claimedSigningTime := getClaimedSigningTime (env.getSignDate signature) attrs.signingTime
        timeValidationResults := some (pdfTimes env v cms documentTimestamps) },
      ?_, ?_, rfl, hcert, hex, rfl⟩
    · have hne : (sigResult.status == Status.SUCCESS) = false := by simpa using hstatus
      unfold collect ExtendedSigValResult.isSuccess
      simp only [hne, Bool.false_eq_true, if_false]
      rfl
    · simp [hstatus]

/-- The collected result passes exactly when the signature does and the outcome
of path validation gets through. -/
theorem collect_passes_iff (env : PdfEnv Cert) (v : PDFSingleSignatureValidator Cert)
    (signature : PDSignature) (policy : PkixPolicy) (now : Date)
    (documentTimestamps : List (PDFDocTimeStamp Cert)) (cms : CMSSignature Cert)
    (attrs : SignedAttributes) (sigResult : ExtendedPdfSigValResult Cert)
    (hcert : sigResult.certificateValidationResult = none) (hex : sigResult.exception = none) :
    (∃ r statuses, Passes policy now
        (v.collect env signature documentTimestamps cms attrs sigResult).toExtendedSigValResult
        r statuses) ↔
      (sigResult.status = .SUCCESS ∧ SignerNamed env attrs sigResult.signerCertificate) ∧
        ∃ statuses, GetsThrough policy now (pdfTimes env v cms documentTimestamps)
          (recordedException
            (v.certificateValidator sigResult.signerCertificate
              sigResult.signatureCertificateChain))
          (v.certificateValidator sigResult.signerCertificate sigResult.signatureCertificateChain)
          statuses := by
  obtain ⟨mid, hcollect, hmid, hmidTimes, hmidCert, hmidEx, _⟩ :=
    collect_eq env v signature documentTimestamps cms attrs sigResult hcert hex
  obtain ⟨hstatus, htimes, hrec, hpath⟩ := pdf_takePathOutcome_fields
    (v.certificateValidator sigResult.signerCertificate sigResult.signatureCertificateChain)
    mid hmidCert hmidEx
  rw [hcollect, ← hmid, ← hstatus, ← hrec]
  have htimes := htimes.trans hmidTimes
  constructor
  · rintro ⟨r, statuses, hpass⟩
    obtain ⟨path, hp, hne⟩ := hpass.path
    have hacc := hpass.accepts
    rw [htimes] at hacc
    exact ⟨hpass.status, statuses,
      ⟨r, path, (hpath r).mp hpass.certificateValidationResult, hp, hne,
        hpass.validationStatusList⟩, hacc⟩
  · rintro ⟨hsuccess, statuses, ⟨r, path, hr, hp, hne, hlist⟩, hacc⟩
    refine ⟨r, statuses, hsuccess, (hpath r).mpr hr, ⟨path, hp, hne⟩, hlist, ?_⟩
    rw [htimes]
    exact hacc

@[simp] theorem pdf_takePathOutcome_pdfSignature {outcome : PathOutcome Cert}
    {sigResult : ExtendedPdfSigValResult Cert} :
    (takePathOutcome outcome sigResult).pdfSignature = sigResult.pdfSignature := by
  unfold takePathOutcome
  split <;> rfl

/-- The verdict of the policy on a collected result. -/
theorem pdf_policy_success_iff (policy : PkixPolicy) (now : Date)
    (validate : CertificateValidator Cert) (verifier : TimeStampPolicyVerifier Cert)
    (signatureContext : DefaultPDFSignatureContext) (sigResult : ExtendedPdfSigValResult Cert)
    (hpdf : sigResult.pdfSignature = some signature) :
    (∃ result,
        (do
          let verdict ← (pkixPdfValidator policy now validate verifier).sigPolicyVerifier sigResult
            signatureContext
          pure (takePolicyResult verdict sigResult) : Outcome (ExtendedPdfSigValResult Cert)) =
          .ok result ∧ result.status = .SUCCESS) ↔
      signatureContext.isSignatureExtendedByNonSafeUpdates signature = .ok false ∧
        ∃ r statuses, Passes policy now sigResult.toExtendedSigValResult r statuses := by
  have hext : (do
      let signature ← deref sigResult.pdfSignature
      signatureContext.isSignatureExtendedByNonSafeUpdates signature : Outcome Bool) =
      signatureContext.isSignatureExtendedByNonSafeUpdates signature := by
    rw [hpdf]
    rfl
  rw [← takePdfPolicyResult_success_iff]
  constructor
  · rintro ⟨result, hok, hstatus⟩
    obtain ⟨verdict, hverdict, hresult⟩ := bind_ok_iff.mp hok
    cases hresult
    refine ⟨verdict, ?_, hstatus⟩
    rw [← hext]
    exact hverdict
  · rintro ⟨verdict, hverdict, hstatus⟩
    refine ⟨takePolicyResult verdict sigResult, bind_ok_iff.mpr ⟨verdict, ?_, rfl⟩, hstatus⟩
    rw [← hext] at hverdict
    exact hverdict

/-- The end of the checks, once the algorithm and the attributes are known. -/
theorem pdf_conclude_success_iff {policy : PkixPolicy} {now : Date}
    {validate : CertificateValidator Cert} {verifier : TimeStampPolicyVerifier Cert}
    {documentTimestamps : List (PDFDocTimeStamp Cert)}
    {signatureContext : DefaultPDFSignatureContext} {cms : CMSSignature Cert}
    {sigResult : ExtendedPdfSigValResult Cert} {attrs : SignedAttributes} {uri : String}
    (halgo : sigResult.signatureAlgorithm = some uri)
    (hcert : sigResult.certificateValidationResult = none) (hex : sigResult.exception = none)
    (hsigner : sigResult.signerCertificate = some cms.sigCert)
    (hchain : sigResult.signatureCertificateChain = some cms.chain)
    (hpdf : sigResult.pdfSignature = some signature) :
    (∃ result,
        checkConsistency env (pkixPdfValidator policy now validate verifier) signature
          documentTimestamps signatureContext cms attrs sigResult = .ok result ∧
        result.status = .SUCCESS) ↔
      (AlgorithmsConsistent env uri attrs ∧
        (sigResult.status = .SUCCESS ∧ SignerNamed env attrs (some cms.sigCert)) ∧
        signatureContext.isSignatureExtendedByNonSafeUpdates signature = .ok false) ∧
      ∃ statuses, GetsThrough policy now
        (pdfTimes env (pkixPdfValidator policy now validate verifier) cms documentTimestamps)
        (recordedException (validate (some cms.sigCert) (some cms.chain)))
        (validate (some cms.sigCert) (some cms.chain)) statuses := by
  by_cases hyes : AlgorithmsConsistent env uri attrs
  · obtain ⟨base, hbase, hbasePdf, hrun⟩ := checkConsistency_consistent
      (pkixPdfValidator policy now validate verifier) halgo hyes
    have hcert' : base.certificateValidationResult = none := by rw [hbase, hcert]
    have hex' : base.exception = none := by rw [hbase, hex]
    have hcollectPdf : ((pkixPdfValidator policy now validate verifier).collect env signature
        documentTimestamps cms attrs base).pdfSignature = some signature :=
      collect_keepsSource.pdfSignature.trans (hbasePdf.trans hpdf)
    have hpolicy :=
      pdf_policy_success_iff policy now validate verifier signatureContext _ hcollectPdf
    have hpasses := collect_passes_iff env (pkixPdfValidator policy now validate verifier) signature
      policy now documentTimestamps cms attrs base hcert' hex'
    rw [hbase, hsigner, hchain] at hpasses
    rw [hrun, hpolicy, hpasses]
    constructor
    · rintro ⟨hunaltered, hsuccess, hthrough⟩
      exact ⟨⟨hyes, hsuccess, hunaltered⟩, hthrough⟩
    · rintro ⟨⟨_, hsuccess, hunaltered⟩, hthrough⟩
      exact ⟨hunaltered, hsuccess, hthrough⟩
  · rw [iff_false_right (fun h => hyes h.1.1)]
    rintro ⟨result, hok, hstatus⟩
    obtain ⟨hinvalid, -⟩ := checkConsistency_inconsistent halgo hyes hok
    rw [hstatus] at hinvalid
    cases hinvalid

/-- The result of the checks on the CMS of a signature. -/
theorem pdf_checkAlgorithms_success_iff {policy : PkixPolicy} {now : Date}
    {validate : CertificateValidator Cert} {verifier : TimeStampPolicyVerifier Cert}
    {documentTimestamps : List (PDFDocTimeStamp Cert)}
    {signatureContext : DefaultPDFSignatureContext} {cms : CMSSignature Cert}
    (sigResult : ExtendedPdfSigValResult Cert)
    (hcert : sigResult.certificateValidationResult = none) (hex : sigResult.exception = none)
    (hsigner : sigResult.signerCertificate = some cms.sigCert)
    (hchain : sigResult.signatureCertificateChain = some cms.chain)
    (hpdf : sigResult.pdfSignature = some signature) :
    (∃ result,
        checkAlgorithms env (pkixPdfValidator policy now validate verifier) signature
          documentTimestamps signatureContext cms sigResult = .ok result ∧
        result.status = .SUCCESS) ↔
      (sigResult.status = .SUCCESS ∧ env.getPkParams cms.sigCert = .ok () ∧
        (∃ uri attrs,
          env.getAlgorithmURI (some cms.encryptionAlgOID) (some cms.digestAlgOID) = .ok uri ∧
          cms.signedAttributes = some attrs ∧ AlgorithmsConsistent env uri attrs ∧
          SignerNamed env attrs (some cms.sigCert)) ∧
        signatureContext.isSignatureExtendedByNonSafeUpdates signature = .ok false) ∧
      ∃ statuses, GetsThrough policy now
        (pdfTimes env (pkixPdfValidator policy now validate verifier) cms documentTimestamps)
        (recordedException (validate (some cms.sigCert) (some cms.chain)))
        (validate (some cms.sigCert) (some cms.chain)) statuses := by
  unfold checkAlgorithms
  cases hpk : env.getPkParams cms.sigCert with
  | error ex => simp [bind, Except.bind]
  | ok u =>
      cases huri : env.getAlgorithmURI (some cms.encryptionAlgOID) (some cms.digestAlgOID) with
      | error ex => simp [bind, Except.bind, pure, Except.pure]
      | ok uri =>
          cases hattrs : cms.signedAttributes with
          | none => simp [bind, Except.bind, deref]
          | some attrs =>
              have hiff : (sigResult.status = .SUCCESS ∧
                  Except.ok u = (Except.ok () : Outcome Unit) ∧
                  (∃ uri' attrs', (Except.ok uri : Outcome String) = .ok uri' ∧
                    some attrs = some attrs' ∧ AlgorithmsConsistent env uri' attrs' ∧
                    SignerNamed env attrs' (some cms.sigCert)) ∧
                  signatureContext.isSignatureExtendedByNonSafeUpdates signature = .ok false) ↔
                AlgorithmsConsistent env uri attrs ∧
                  (sigResult.status = .SUCCESS ∧ SignerNamed env attrs (some cms.sigCert)) ∧
                  signatureContext.isSignatureExtendedByNonSafeUpdates signature = .ok false := by
                simp only [Except.ok.injEq, Option.some.injEq, true_and, exists_and_left,
                  exists_eq_left']
                tauto
              rw [hiff]
              exact pdf_conclude_success_iff rfl hcert hex hsigner hchain hpdf

/-- The inputs on which validation of a PDF signature succeeds. -/
theorem pdf_success_iff {policy : PkixPolicy} {now : Date} {validate : CertificateValidator Cert}
    {verifier : TimeStampPolicyVerifier Cert} {pdfDocument : Bytes}
    {documentTimestamps : List (PDFDocTimeStamp Cert)}
    {signatureContext : DefaultPDFSignatureContext} {cms : CMSSignature Cert}
    (hcms : signatureCMS env signature pdfDocument = .ok cms) :
    (∃ result,
        verifySignature env (pkixPdfValidator policy now validate verifier) signature pdfDocument
          documentTimestamps signatureContext = .ok result ∧ result.status = .SUCCESS) ↔
      PdfVerified env signature signatureContext cms ∧
      ∃ statuses, GetsThrough policy now
        (pdfTimes env (pkixPdfValidator policy now validate verifier) cms documentTimestamps)
        (recordedException (validate (some cms.sigCert) (some cms.chain)))
        (validate (some cms.sigCert) (some cms.chain)) statuses := by
  obtain ⟨contents, hcontents, hcms⟩ := bind_ok_iff.mp hcms
  obtain ⟨signedContent, hsigned, hparse⟩ := bind_ok_iff.mp hcms
  unfold verifySignature
  cases hcovers : signatureContext.isCoversWholeDocument signature with
  | error ex =>
      rw [iff_false_right]
      · simp [hcontents, bind, Except.bind]
      · rintro ⟨⟨⟨covers, h⟩, _⟩, _⟩
        rw [hcovers] at h
        cases h
  | ok covers =>
      simp only [hcontents, hsigned, hparse, bind, Except.bind]
      cases hverify : cms.verify with
      | error ex =>
          rw [iff_false_right]
          · simp [pure, Except.pure]
          · rintro ⟨h, _⟩
            have := h.value
            rw [hverify] at this
            cases this
      | ok verified =>
          refine Iff.trans (pdf_checkAlgorithms_success_iff _ rfl rfl rfl rfl rfl) ?_
          apply and_congr_left
          intro _
          constructor
          · rintro ⟨hstatus, hpk, hattrs, hunaltered⟩
            have htrue : verified = true := by
              cases verified with
              | true => rfl
              | false => cases hstatus
            subst htrue
            exact ⟨⟨covers, hcovers⟩, hverify, hpk, hattrs, hunaltered⟩
          · rintro ⟨_, hvalue, hpk, hattrs, hunaltered⟩
            rw [hverify] at hvalue
            cases hvalue
            exact ⟨rfl, hpk, hattrs, hunaltered⟩

end Pdf

end SigVal.Policy
