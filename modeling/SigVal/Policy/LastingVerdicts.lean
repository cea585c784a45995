import SigVal.Svt.Generations
import SigVal.Pdf.DocumentVerdict

/-!
# Verdicts that last

The validators of the three formats record a verdict twice: as the status of the result, and
as the conclusion of a policy. A token has the policies only, and a validation by the token
computes the status from them. Here it is shown that nothing is lost or gained on the way: at
the end of any number of generations of tokens a signature is a success exactly when the
complete validation at the start said so.
-/

namespace SigVal.Policy

open SigVal.Java SigVal.Dom SigVal.Cert SigVal.Commons SigVal.Runs SigVal.Svt
open SigVal.Xml (XmlEnv)
open SigVal.Jose (JoseEnv JOSESignatureData)

variable {Cert TS : Type}

/-- The status is a success exactly when some policy passed. -/
def Consistent (result : ExtendedSigValResult Cert TS) : Prop :=
  result.status = .SUCCESS ↔ ∃ policies, result.validationPolicyResultList = some policies ∧
    ∃ p ∈ policies, p.res = .PASSED

/-! ## One generation -/

section Generation

variable {before after : ExtendedSigValResult Cert TS} {jwt : SignedJWT}

/-- The claims of a consistent result have a passed policy exactly when it is a success. -/
theorem passed_iff_success {claims : IssuedSignatureClaims} (hmade : MadeFrom before claims)
    (hconsistent : Consistent before) :
    (∃ p ∈ claims.sigVal, p.res = .PASSED) ↔ before.status = .SUCCESS := by
  obtain ⟨_, defaultBasicValidation, _, hsigVal, -⟩ := hmade
  unfold AbstractSVTSigValClaimsIssuer.getSignaturePolicyValidations at hsigVal
  obtain ⟨pvList, hpvList, hsigVal⟩ := bind_ok_iff.mp hsigVal
  rw [deref_ok_iff] at hpvList
  have hstatus : before.status = .SUCCESS ↔ ∃ p ∈ pvList, p.res = .PASSED := by
    unfold Consistent at hconsistent
    rw [hconsistent, hpvList]
    simp
  split at hsigVal
  · rename_i hdefault
    rw [Bool.and_eq_true, List.isEmpty_iff] at hdefault
    rw [hdefault.1] at hstatus
    have hfailed : before.isSuccess = false := by
      unfold ExtendedSigValResult.isSuccess
      simpa using hstatus
    rw [← Except.ok.inj hsigVal, hstatus, hfailed]
    simp
  · rw [← Except.ok.inj hsigVal, hstatus]

/-- One generation keeps the verdict. -/
theorem renewal_keeps (h : Renewal before jwt after) (hconsistent : Consistent before) :
    Consistent after ∧ (after.status = .SUCCESS ↔ before.status = .SUCCESS) := by
  obtain ⟨claims, hmade, stamp, -, hcarries⟩ := h
  have hafter : after.status = .SUCCESS ↔ ∃ p ∈ claims.sigVal, p.res = .PASSED := by
    rw [hcarries.status, getStatusFromPolicyValidationClaims_success_iff]
    simp
  refine ⟨?_, hafter.trans (passed_iff_success hmade hconsistent)⟩
  unfold Consistent
  rw [hafter, hcarries.policyResults]
  simp

/-- Any number of generations does. -/
theorem trace_keeps {first last : ExtendedSigValResult Cert TS} {tokens : List SignedJWT}
    (hrun : Trace Renewal first tokens last) :
    Consistent first → (last.status = .SUCCESS ↔ first.status = .SUCCESS) := by
  induction hrun with
  | refl s => exact fun _ => Iff.rfl
  | step hfirst _ ih =>
      intro hconsistent
      obtain ⟨hafter, hsame⟩ := renewal_keeps hfirst hconsistent
      exact (ih hafter).trans hsame

end Generation

/-! ## The last step of the XML and JOSE validators -/

/-- Before the policy speaks: the signature value has been judged, and no policy has. -/
structure Unconcluded (result : ExtendedSigValResult Cert TS) : Prop where
  judged : result.status ≠ .INTERDETERMINE
  noPolicies : result.validationPolicyResultList = some []

namespace Unconcluded

variable {result : ExtendedSigValResult Cert TS}

theorem setError {status : Status} {message : String} {ex : Option Exn}
    (hpolicies : result.validationPolicyResultList = some []) (hstatus : status ≠ .INTERDETERMINE) :
    Unconcluded (result.setError status message ex) := ⟨hstatus, hpolicies⟩

theorem takePathOutcome (h : Unconcluded result) (outcome : PathOutcome Cert) :
    Unconcluded (result.takePathOutcome outcome) := by
  unfold ExtendedSigValResult.takePathOutcome
  split
  · exact ⟨h.judged, h.noPolicies⟩
  · dsimp only
    split
    · exact setError h.noPolicies (by decide)
    · exact ⟨h.judged, h.noPolicies⟩
  · split
    · exact setError h.noPolicies (by decide)
    · exact setError h.noPolicies (by decide)

theorem validatePath (h : Unconcluded result) (v : Option (CertificateValidator Cert)) :
    Unconcluded (result.validatePath v) := by
  unfold ExtendedSigValResult.validatePath
  split
  · split
    · exact h.takePathOutcome _
    · exact h
  · exact h

theorem withTimes (h : Unconcluded result) (times : Option (List (TimeValidationResult Cert TS))) :
    Unconcluded { result with timeValidationResults := times } := ⟨h.judged, h.noPolicies⟩

/-- An error without a policy is no success. -/
theorem consistent_of_error (hpolicies : result.validationPolicyResultList = some [])
    (hstatus : result.status ≠ .SUCCESS) : Consistent result := by
  apply iff_of_false hstatus
  rintro ⟨policies, hsome, p, hp, -⟩
  rw [hpolicies] at hsome
  cases hsome
  cases hp

end Unconcluded

/-- A policy of the abstract class passes only what is a success so far. -/
theorem success_of_passed {checks : AbstractBasicSignaturePolicyChecks Cert}
    {before : ExtendedSigValResult Cert (TimeStamp Cert)} {verdict : PolicyValidationResult}
    (hbefore : Unconcluded before) (hverdict : checks.validatePolicy before = .ok verdict)
    (hpassed : verdict.policyValidationClaims.res = .PASSED) : before.status = .SUCCESS := by
  unfold AbstractBasicSignaturePolicyChecks.validatePolicy at hverdict
  cases hstatus : before.status with
  | SUCCESS => rfl
  | INTERDETERMINE => exact absurd hstatus hbefore.judged
  | _ =>
      rw [hstatus] at hverdict
      cases hverdict
      cases hpassed

theorem concluded_consistent (checks : AbstractBasicSignaturePolicyChecks Cert)
    {before final : ExtendedSigValResult Cert (TimeStamp Cert)} (hbefore : Unconcluded before)
    (hfinal : final = match checks.validatePolicy before with
      | .ok verdict => before.takePolicyResult verdict
      | .error ex => before.setError .ERROR_INVALID_SIGNATURE "Failed to parse signature data"
          (some ex)) :
    Consistent final := by
  cases hverdict : checks.validatePolicy before with
  | error ex =>
      rw [hverdict] at hfinal
      subst hfinal
      exact Unconcluded.consistent_of_error hbefore.noPolicies Status.noConfusion
  | ok verdict =>
      rw [hverdict] at hfinal
      subst hfinal
      have hreported := (takePolicyResult_reports before verdict).1
      constructor
      · intro h
        exact ⟨_, hreported, _, List.mem_singleton_self _,
          (validatePolicy_established hverdict h).2.1⟩
      · rintro ⟨policies, hpolicies, p, hp, hpassed⟩
        rw [hreported] at hpolicies
        cases hpolicies
        cases List.mem_singleton.mp hp
        rw [ExtendedSigValResult.takePolicyResult_status, if_pos hpassed]
        exact success_of_passed hbefore hverdict hpassed

/-! ## Complete validation of an XML signature -/

section Xml

open SigVal.Xml (XMLSignature XAdESObjectParser)
open SigVal.Xml.XMLSignatureElementValidator

variable {env : XmlEnv Cert} {signature : Node} {signatureData : Xml.SignatureData Cert}

theorem wp_checkValue_unconcluded {xmlSignature : XMLSignature} {key : PublicKey}
    {result : Xml.XmlResult Cert} (hresult : result.validationPolicyResultList = some []) :
    Mutating.wp (checkValue env xmlSignature key)
      (fun verified after => after.validationPolicyResultList = some [] ∧
        (verified = false → Unconcluded after))
      (fun _ after => after.validationPolicyResultList = some []) result := by
  unfold checkValue
  have hcaught : ∀ (ex : Exn) (t : Xml.XmlResult Cert),
      t.validationPolicyResultList = some [] →
      Mutating.wp
        (if ex.cls = .xmlSignature ∨ ex.cls = .io then do
            modify (·.setError .ERROR_INVALID_SIGNATURE ("Signature is invalid - " ++ ex.msg)
              (some ex))
            pure false
          else throw ex : Mutating (Xml.XmlResult Cert) Bool)
        (fun verified after => after.validationPolicyResultList = some [] ∧
          (verified = false → Unconcluded after))
        (fun _ after => after.validationPolicyResultList = some []) t := by
    intro ex t ht
    split
    · exact ⟨ht, fun _ => Unconcluded.setError ht (by decide)⟩
    · exact ht
  rw [Mutating.wp_catching]
  simp only [Mutating.wp_bind, Mutating.wp_call, Mutating.wp_modify]
  refine ⟨?_, fun ex _ => hcaught ex _ hresult⟩
  intro _ _
  refine ⟨?_, fun ex _ => hcaught ex _ hresult⟩
  intro uri _
  refine ⟨?_, fun ex _ => hcaught ex _ hresult⟩
  intro verified _
  cases verified with
  | true => exact ⟨hresult, fun h => by cases h⟩
  | false => exact ⟨hresult, fun _ => Unconcluded.setError hresult (by decide)⟩

/-- The signature value of an XML signature is judged one way or the other. -/
theorem validateSignatureElement_unconcluded (env : XmlEnv Cert) (signature : Node)
    (signatureData : Xml.SignatureData Cert) :
    Unconcluded (validateSignatureElement env signature signatureData) := by
  unfold validateSignatureElement
  apply Mutating.tryCatch_of_wp
  have hthrown : ∀ (ex : Exn) (t : Xml.XmlResult Cert), t.validationPolicyResultList = some [] →
      Unconcluded (t.setError .ERROR_BAD_FORMAT ex.msg (some ex)) :=
    fun _ _ ht => Unconcluded.setError ht (by decide)
  unfold checkElement
  rw [Mutating.wp_bind, Mutating.wp_call]
  refine ⟨?_, fun ex _ => hthrown ex _ rfl⟩
  intro xmlSignature _
  cases signatureData.signerCertificate with
  | none =>
      rw [Mutating.wp_bind, Mutating.wp_call]
      refine ⟨?_, fun ex _ => hthrown ex _ rfl⟩
      rintro (_ | key) _
      · exact Unconcluded.setError rfl (by decide)
      · rw [Mutating.wp_bind]
        apply Mutating.wp_mono (wp_checkValue_unconcluded rfl) _ hthrown
        rintro (_ | _) t ⟨hpolicies, hjudged⟩
        · exact hjudged rfl
        · exact Unconcluded.setError hpolicies (by decide)
  | some signer =>
      simp only [Mutating.wp_bind, Mutating.wp_modify, Mutating.wp_pure]
      apply Mutating.wp_mono (wp_checkValue_unconcluded rfl) _ hthrown
      rintro (_ | _) t ⟨hpolicies, hjudged⟩
      · exact hjudged rfl
      · exact ⟨Status.noConfusion, hpolicies⟩

theorem takeXades_unconcluded (env : XmlEnv Cert) (signatureData : Xml.SignatureData Cert)
    (xades : XAdESObjectParser) {result : Xml.XmlResult Cert} (h : Unconcluded result) :
    Unconcluded (takeXades env signatureData xades result) := by
  unfold takeXades
  dsimp only
  split
  · exact Unconcluded.setError h.noPolicies (by decide)
  · exact ⟨h.judged, h.noPolicies⟩

theorem xml_direct_consistent (checks : AbstractBasicSignaturePolicyChecks Cert)
    (certificateValidator : Option (CertificateValidator Cert))
    (verifier : TimeStampPolicyVerifier Cert)
    (svt : Option (Node → Xml.SignatureData Cert →
      Outcome (Option (List SignatureSVTValidationResult)))) :
    Consistent (validateDirectly env
      (basicChecksXmlValidator checks certificateValidator verifier svt) signature
      signatureData) := by
  have hbefore :=
    (validateSignatureElement_unconcluded env signature signatureData).validatePath
      certificateValidator
  unfold validateDirectly
  dsimp only
  cases XAdESObjectParser.parse env signature signatureData with
  | error ex => exact Unconcluded.consistent_of_error hbefore.noPolicies Status.noConfusion
  | ok xades =>
      have htaken := takeXades_unconcluded env signatureData xades hbefore
      exact concluded_consistent checks (htaken.withTimes _) rfl

/-- A validation of an XML signature without a valid token is consistent. -/
theorem xml_consistent (checks : AbstractBasicSignaturePolicyChecks Cert)
    (certificateValidator : Option (CertificateValidator Cert))
    (verifier : TimeStampPolicyVerifier Cert)
    (svt : Option (Node → Xml.SignatureData Cert →
      Outcome (Option (List SignatureSVTValidationResult))))
    (hdirect : NoValidSvt (svt.map fun f (x : Node × Xml.SignatureData Cert) => f x.1 x.2)
      (signature, signatureData)) :
    Consistent (validateSignature env
      (basicChecksXmlValidator checks certificateValidator verifier svt) signature
      signatureData) := by
  unfold validateSignature
  cases hsvt : svt with
  | none => exact xml_direct_consistent checks certificateValidator verifier none
  | some svtValidate =>
      have hnone : ∀ results, svtValidate signature signatureData = .ok results →
          firstValidSvt results = none := by
        intro results hresults
        exact hdirect _ results (congrArg (Option.map _) hsvt) hresults
      cases houtcome : svtValidate signature signatureData with
      | error ex =>
          simp only [basicChecksXmlValidator, houtcome]
          exact Unconcluded.consistent_of_error rfl Status.noConfusion
      | ok results =>
          simp only [basicChecksXmlValidator, houtcome, hnone results houtcome]
          exact xml_direct_consistent checks certificateValidator verifier (some svtValidate)

end Xml

/-! ## Complete validation of a JOSE signature -/

section Jose

open SigVal.Jose.JOSESignatureDataValidator

variable {env : JoseEnv Cert} {signatureData : JOSESignatureData Cert}

theorem validateSignatureData_unconcluded (env : JoseEnv Cert)
    (signatureData : JOSESignatureData Cert) :
    Unconcluded (validateSignatureData env signatureData) := by
  unfold validateSignatureData
  dsimp only
  split
  · exact Unconcluded.setError rfl (by decide)
  · split
    · exact Unconcluded.setError rfl (by decide)
    · split
      · exact ⟨Status.noConfusion, rfl⟩
      · exact Unconcluded.setError rfl (by decide)

theorem jose_direct_consistent (checks : AbstractBasicSignaturePolicyChecks Cert)
    (certificateValidator : Option (CertificateValidator Cert))
    (verifier : TimeStampPolicyVerifier Cert)
    (svt : Option (JOSESignatureData Cert →
      Outcome (Option (List SignatureSVTValidationResult)))) :
    Consistent (validateDirectly env
      (basicChecksJoseValidator checks certificateValidator verifier svt) signatureData) := by
  have hbefore :=
    (validateSignatureData_unconcluded env signatureData).validatePath certificateValidator
  have htaken : Unconcluded (takeHeaders env signatureData
      ((validateSignatureData env signatureData).validatePath certificateValidator)) :=
    ⟨hbefore.judged, hbefore.noPolicies⟩
  unfold validateDirectly
  dsimp only
  split
  · exact concluded_consistent checks (htaken.withTimes _) rfl
  · exact Unconcluded.consistent_of_error hbefore.noPolicies Status.noConfusion

/-- A validation of a JOSE signature without a valid token is consistent. -/
theorem jose_consistent (checks : AbstractBasicSignaturePolicyChecks Cert)
    (certificateValidator : Option (CertificateValidator Cert))
    (verifier : TimeStampPolicyVerifier Cert)
    (svt : Option (JOSESignatureData Cert →
      Outcome (Option (List SignatureSVTValidationResult))))
    (hdirect : NoValidSvt svt signatureData) :
    Consistent (validateSignature env
      (basicChecksJoseValidator checks certificateValidator verifier svt) signatureData) := by
  unfold validateSignature
  cases hsvt : svt with
  | none => exact jose_direct_consistent checks certificateValidator verifier none
  | some svtValidate =>
      have hnone : ∀ results, svtValidate signatureData = .ok results →
          firstValidSvt results = none := fun results => hdirect svtValidate results hsvt
      cases houtcome : svtValidate signatureData with
      | error ex =>
          simp only [basicChecksJoseValidator, houtcome]
          exact Unconcluded.consistent_of_error rfl Status.noConfusion
      | ok results =>
          simp only [basicChecksJoseValidator, houtcome, hnone results houtcome]
          exact jose_direct_consistent checks certificateValidator verifier (some svtValidate)

end Jose

/-! ## Complete validation of a PDF signature -/

section Pdf

open SigVal.Pdf SigVal.Pdf.PDFSingleSignatureValidator

variable {env : PdfEnv Cert} {checks : AbstractBasicPDFSignaturePolicyChecks Cert}
  {validate : CertificateValidator Cert} {verifier : TimeStampPolicyVerifier Cert}
  {signature : PDSignature} {documentTimestamps : List (PDFDocTimeStamp Cert)}
  {signatureContext : DefaultPDFSignatureContext} {cms : CMSSignature Cert}
  {sigResult result : ExtendedPdfSigValResult Cert}

/-- The policy of a PDF signature asks for a success first. -/
theorem takePolicyResult_consistent {verdict : PolicyValidationResult}
    (h : checks.validatePolicy sigResult signatureContext = .ok verdict) :
    Consistent (takePolicyResult verdict sigResult).toExtendedSigValResult := by
  have hreported : (takePolicyResult verdict sigResult).validationPolicyResultList =
      some [verdict.policyValidationClaims] := rfl
  constructor
  · intro hstatus
    exact ⟨_, hreported, _, List.mem_singleton_self _, (validatePolicy_success h hstatus).2.1⟩
  · rintro ⟨policies, hpolicies, p, hp, hpassed⟩
    rw [hreported] at hpolicies
    cases hpolicies
    cases List.mem_singleton.mp hp
    have hstatus : (takePolicyResult verdict sigResult).status =
        if verdict.policyValidationClaims.res = .PASSED then sigResult.status
        else verdict.status := ExtendedSigValResult.takePolicyResult_status
    rw [hstatus, if_pos hpassed]
    unfold AbstractBasicPDFSignaturePolicyChecks.validatePolicy at h
    dsimp only at h
    split at h
    · cases h
      cases hpassed
    · rename_i hsuccess
      simpa [ExtendedSigValResult.isSuccess] using hsuccess

theorem checkConsistency_policies {attrs : SignedAttributes} {uri : String}
    (halgo : sigResult.signatureAlgorithm = some uri)
    (hpolicies : sigResult.validationPolicyResultList = some [])
    (h : checkConsistency env (basicChecksPdfValidator checks validate verifier) signature
      documentTimestamps signatureContext cms attrs sigResult = .ok result) :
    Consistent result.toExtendedSigValResult := by
  by_cases hconsistent : AlgorithmsConsistent env uri attrs
  · obtain ⟨base, -, -, hrun⟩ := checkConsistency_consistent _ halgo hconsistent
    rw [hrun] at h
    obtain ⟨verdict, hverdict, h⟩ := bind_ok_iff.mp h
    cases h
    exact takePolicyResult_consistent hverdict
  · obtain ⟨consistent, hcheck, h⟩ := bind_ok_iff.mp h
    have hbase :=
      CMSVerifyUtils.getCMSAlgoritmProtectionData_base attrs.cmsAlgorithmProtect sigResult
    cases consistent with
    | true => exact absurd ((checkAlgoritmConsistency_iff env attrs halgo).mp hcheck) hconsistent
    | false =>
        cases h
        refine Unconcluded.consistent_of_error ?_ Status.noConfusion
        rw [← hpolicies, ← hbase]

theorem verifySignature_consistent {pdfDocument : Bytes}
    (h : verifySignature env (basicChecksPdfValidator checks validate verifier) signature
      pdfDocument documentTimestamps signatureContext = .ok result) :
    Consistent result.toExtendedSigValResult := by
  obtain ⟨contents, -, h⟩ := bind_ok_iff.mp h
  obtain ⟨covers, -, h⟩ := bind_ok_iff.mp h
  obtain ⟨signedContent, -, h⟩ := bind_ok_iff.mp h
  obtain ⟨cms, -, h⟩ := bind_ok_iff.mp h
  cases hverify : cms.verify with
  | error ex =>
      simp only [hverify] at h
      cases h
      exact Unconcluded.consistent_of_error rfl Status.noConfusion
  | ok verified =>
      simp only [hverify] at h
      obtain ⟨_, -, h⟩ := bind_ok_iff.mp h
      cases huri : env.getAlgorithmURI (some cms.encryptionAlgOID) (some cms.digestAlgOID) with
      | error ex =>
          simp only [huri] at h
          cases h
          exact Unconcluded.consistent_of_error rfl Status.noConfusion
      | ok uri =>
          simp only [huri] at h
          obtain ⟨attrs, -, h⟩ := bind_ok_iff.mp h
          exact checkConsistency_policies rfl rfl h

/-- A complete validation of a PDF signature is consistent, also when it ends in an
exception. -/
theorem pdf_consistent (env : PdfSvtEnv Cert) (pdfsvtValidator : Option (PDFSVTValidator Cert))
    (checks : AbstractBasicPDFSignaturePolicyChecks Cert) (validate : CertificateValidator Cert)
    (verifier : TimeStampPolicyVerifier Cert) (pdfDocBytes : Bytes)
    (signatureContext : DefaultPDFSignatureContext) (docTimestamps : List PDSignature)
    (svtResults : Option (List SignatureSVTValidationResult)) (signature : PDSignature)
    (hdirect : SVTenabledPDFDocumentSigVerifier.matchingSvtValidation env pdfDocBytes svtResults
      signature = none) :
    Consistent (SVTenabledPDFDocumentSigVerifier.validateSignature env
      (basicChecksVerifier pdfsvtValidator checks validate verifier) pdfDocBytes signatureContext
      docTimestamps svtResults signature).toExtendedSigValResult := by
  unfold SVTenabledPDFDocumentSigVerifier.validateSignature
  rw [hdirect]
  dsimp only
  split
  · rename_i directVerifyResult hverify
    exact verifySignature_consistent hverify
  · exact Unconcluded.consistent_of_error rfl Status.noConfusion

end Pdf

/-! ## The three formats -/

/-- **Verdicts last.** In each format, a signature that is validated completely under a policy
of the abstract class, and has had any number of tokens one after the other since, is a success
in the end exactly when it was one at the start. -/
theorem verdicts_last [DecidableEq Cert] (tokens : List SignedJWT)
    (verifier : TimeStampPolicyVerifier Cert) :
    (∀ (checks : AbstractBasicSignaturePolicyChecks Cert)
      (certificateValidator : Option (CertificateValidator Cert))
      (svt : Option (Node → Xml.SignatureData Cert →
        Outcome (Option (List SignatureSVTValidationResult))))
      (env : XmlEnv Cert) (signature : Node) (signatureData : Xml.SignatureData Cert)
      (first last : Xml.XmlResult Cert),
      NoValidSvt (svt.map fun f (x : Node × Xml.SignatureData Cert) => f x.1 x.2)
        (signature, signatureData) →
      first = Xml.XMLSignatureElementValidator.validateSignature env
        (basicChecksXmlValidator checks certificateValidator verifier svt) signature
        signatureData →
      Trace XmlGeneration first tokens last →
      (last.status = .SUCCESS ↔ first.status = .SUCCESS)) ∧
    (∀ (checks : AbstractBasicSignaturePolicyChecks Cert)
      (certificateValidator : Option (CertificateValidator Cert))
      (svt : Option (JOSESignatureData Cert →
        Outcome (Option (List SignatureSVTValidationResult))))
      (env : JoseEnv Cert) (signatureData : JOSESignatureData Cert)
      (first last : Jose.JoseResult Cert),
      NoValidSvt svt signatureData →
      first = Jose.JOSESignatureDataValidator.validateSignature env
        (basicChecksJoseValidator checks certificateValidator verifier svt) signatureData →
      Trace JoseGeneration first tokens last →
      (last.status = .SUCCESS ↔ first.status = .SUCCESS)) ∧
    ∀ (env : Pdf.PdfSvtEnv Cert) (pdfsvtValidator : Option (Pdf.PDFSVTValidator Cert))
      (checks : Pdf.AbstractBasicPDFSignaturePolicyChecks Cert)
      (certificateValidator : CertificateValidator Cert) (pdfDocBytes : Bytes)
      (signatureContext : Pdf.DefaultPDFSignatureContext) (docTimestamps : List Pdf.PDSignature)
      (svtResults : Option (List SignatureSVTValidationResult)) (signature : Pdf.PDSignature)
      (first last : Pdf.ExtendedPdfSigValResult Cert),
      Pdf.SVTenabledPDFDocumentSigVerifier.matchingSvtValidation env pdfDocBytes svtResults
        signature = none →
      first = Pdf.SVTenabledPDFDocumentSigVerifier.validateSignature env
        (Pdf.basicChecksVerifier pdfsvtValidator checks certificateValidator verifier) pdfDocBytes
        signatureContext docTimestamps svtResults signature →
      Trace PdfGeneration first tokens last →
      (last.status = .SUCCESS ↔ first.status = .SUCCESS) := by
  refine ⟨?_, ?_, ?_⟩
  · rintro checks certificateValidator svt env signature signatureData _ last hdirect rfl hrun
    exact trace_keeps (hrun.map id fun _ _ _ h => h.renewal)
      (xml_consistent checks certificateValidator verifier svt hdirect)
  · rintro checks certificateValidator svt env signatureData _ last hdirect rfl hrun
    exact trace_keeps (hrun.map id fun _ _ _ h => h.renewal)
      (jose_consistent checks certificateValidator verifier svt hdirect)
  · rintro env pdfsvtValidator checks certificateValidator pdfDocBytes signatureContext
      docTimestamps svtResults signature _ last hdirect rfl hrun
    exact trace_keeps
      (hrun.map Pdf.ExtendedPdfSigValResult.toExtendedSigValResult fun _ _ _ h => h.renewal)
      (pdf_consistent env pdfsvtValidator checks certificateValidator verifier pdfDocBytes
        signatureContext docTimestamps svtResults signature hdirect)

/-- A success that has had two tokens. -/
theorem verdicts_last_two :
    ∃ tokens last, tokens.length = 2 ∧ Trace JoseGeneration (validatedWith none) tokens last ∧
      last.status = .SUCCESS := by
  obtain ⟨tokens, last, hlength, hrun⟩ := exists_two_generations
  refine ⟨tokens, last, hlength, hrun, ?_⟩
  apply ((verdicts_last tokens noTimestamps).2.1 basicSignaturePolicyValidator (some anchoredPath)
    none joseEnv verifiedJose (validatedWith none) last ?_ rfl hrun).mpr
  · rfl
  · rintro _ _ ⟨⟩

end SigVal.Policy
