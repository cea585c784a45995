import SigVal.Policy.DirectSoundness

/-!
# One verdict for three formats

The PKIX policy classes of PDF, XML and JOSE are the same text, but what they are
given is not: the XML and JOSE validators turn an exception of path validation into
a status or forget it, and the PDF validator records it and keeps the status. This
module computes the conclusion of each format as a function of the outcome of path
validation, and says on which outcomes the functions differ.
-/

namespace SigVal.Policy

open SigVal.Java SigVal.Dom SigVal.Cert SigVal.Commons
open SigVal.Xml (XmlEnv XMLSignatureElementValidator XAdESObjectParser)
open SigVal.Jose (JoseEnv JOSESignatureDataValidator JOSESignatureData)
open SigVal.Pdf

variable {Cert : Type}

/-! ## What the PKIX checks depend on -/

section Checks

variable {TS : Type} [IsTimeStamp TS Cert]

/-- The timestamps of a list of time validation results. -/
def timeStampsOf (results : List (TimeValidationResult Cert TS)) : List (Option (TimeStamp Cert)) :=
  results.map fun result => result.timeStamp.map IsTimeStamp.toTimeStamp

/-- The conclusion of the PKIX checks on a certificate result, next to a recorded
exception. -/
def checksConclusion (policy : PkixPolicy) (now : Date)
    (times : List (TimeValidationResult Cert TS))
    (certificateValidationResult : Option (CertificateValidationResult Cert))
    (exception : Option Exn) : ValidationConclusion :=
  (policy.performAdditionalValidityChecks now
    { certificateValidationResult := certificateValidationResult
      timeValidationResults := some times
      exception := exception : ExtendedSigValResult Cert TS }).policyValidationClaims.res

/-- Nothing else of the result is looked at. -/
theorem checksConclusion_eq {policy : PkixPolicy} {now : Date}
    {times : List (TimeValidationResult Cert TS)} {result : ExtendedSigValResult Cert TS}
    (htimes : result.timeValidationResults = some times) :
    (policy.performAdditionalValidityChecks now result).policyValidationClaims.res =
      checksConclusion policy now times result.certificateValidationResult result.exception := by
  unfold checksConclusion PkixPolicy.performAdditionalValidityChecks PkixPolicy.pathChecks
  rw [htimes]

theorem validTimestamps_eq (results : List (TimeValidationResult Cert TS)) :
    PkixPolicy.validTimestamps results =
      (do
        let timeStamps ← (timeStampsOf results).mapM deref
        pure (timeStamps.filter (·.hasVerifiedTimestamp)) : Outcome (List (TimeStamp Cert))) := by
  have hmap : ∀ l : List (TimeValidationResult Cert TS),
      (timeStampsOf l).mapM deref =
        (do
          let timeStamps ← l.mapM fun result => deref result.timeStamp
          pure (timeStamps.map IsTimeStamp.toTimeStamp) : Outcome (List (TimeStamp Cert))) := by
    intro l
    induction l with
    | nil => rfl
    | cons result rest ih =>
        unfold timeStampsOf at ih ⊢
        rw [List.map_cons, List.mapM_cons, List.mapM_cons, ih]
        cases result.timeStamp with
        | none => rfl
        | some timeStamp =>
            cases (rest.mapM fun result => deref result.timeStamp) with
            | error ex => rfl
            | ok timeStamps => rfl
  rw [hmap]
  unfold PkixPolicy.validTimestamps
  cases (results.mapM fun result => deref result.timeStamp) with
  | error ex => rfl
  | ok timeStamps => rfl

/-- The checks of two formats agree on the same timestamps. -/
theorem checksConclusion_congr {TS' : Type} [IsTimeStamp TS' Cert] (policy : PkixPolicy)
    (now : Date)
    {times : List (TimeValidationResult Cert TS)} {times' : List (TimeValidationResult Cert TS')}
    (h : timeStampsOf times = timeStampsOf times')
    (certificateValidationResult : Option (CertificateValidationResult Cert))
    (exception : Option Exn) :
    checksConclusion policy now times certificateValidationResult exception =
      checksConclusion policy now times' certificateValidationResult exception := by
  have hcheck : ∀ status : ValidationStatus Cert,
      PkixPolicy.checkRevocationTime policy now status (some times) =
        PkixPolicy.checkRevocationTime policy now status (some times') := by
    intro status
    unfold PkixPolicy.checkRevocationTime
    cases status.revocationTime with
    | none => rfl
    | some revocationTime =>
        dsimp only
        rw [validTimestamps_eq, validTimestamps_eq, h]
  have hlater : ∀ statuses : List (ValidationStatus Cert),
      PkixPolicy.revokedLater policy now (some times) statuses =
        PkixPolicy.revokedLater policy now (some times') statuses := by
    intro statuses
    induction statuses with
    | nil => rfl
    | cons status rest ih => rw [PkixPolicy.revokedLater, PkixPolicy.revokedLater, hcheck, ih]
  unfold checksConclusion PkixPolicy.performAdditionalValidityChecks PkixPolicy.pathChecks
  simp only [hlater]

/-- An exception changes the conclusion exactly on decided statuses among which no
revocation is looked at. -/
theorem checksConclusion_exception_iff {policy : PkixPolicy} {now : Date}
    {times : List (TimeValidationResult Cert TS)} {r : PathValidationResult Cert} (ex : Exn) :
    checksConclusion policy now times (some (.pathValidation r)) none =
        checksConclusion policy now times (some (.pathValidation r)) (some ex) ↔
      ¬ ∃ statuses, r.validationStatusList = some statuses ∧ PkixPolicy.Decided statuses ∧
        ¬ policy.LooksAtRevocations statuses := by
  unfold checksConclusion PkixPolicy.performAdditionalValidityChecks PkixPolicy.pathChecks
  simp only [PkixPolicy.castPathValidationResult, bind, Except.bind]
  cases hlist : r.validationStatusList with
  | none => simp [deref]
  | some statuses =>
      simp only [deref, Option.some.injEq, exists_eq_left']
      by_cases hdec : PkixPolicy.Decided statuses
      · obtain ⟨hinvalid, hunknown⟩ := PkixPolicy.decided_iff.mp hdec
        simp only [hinvalid, hunknown, Bool.false_eq_true, if_false]
        by_cases hlook : policy.LooksAtRevocations statuses
        · simp [hlook, PkixPolicy.looksAtRevocations_iff.mp hlook]
        · rw [if_neg (mt PkixPolicy.looksAtRevocations_iff.mpr hlook),
            if_neg (mt PkixPolicy.looksAtRevocations_iff.mpr hlook)]
          simp [hdec, hlook, pure, Except.pure]
      · -- an undecided status ends the checks before the exception is looked at
        simp only [hdec, false_and, not_false_eq_true, iff_true]
        by_cases hinvalid : statuses.any (·.validity == .INVALID) = true
        · simp [hinvalid]
        · by_cases hunknown : statuses.any (·.validity == .UNKNOWN) = true
          · simp [hinvalid, hunknown]
          · exact absurd (PkixPolicy.decided_iff.mpr
              ⟨by simpa using hinvalid, by simpa using hunknown⟩) hdec

end Checks

/-! ## The conclusion as a function of the outcome -/

theorem pathOf_isEmpty_of_eq {TS : Type} {c : CertificateValidationResult Cert}
    {result : ExtendedSigValResult Cert TS} (h : result.certificateValidationResult = some c) :
    result.pathOf.isEmpty = (c.getValidatedCertificatePath.getD []).isEmpty := by
  unfold ExtendedSigValResult.pathOf
  rw [h]
  rfl

section Conclusions

variable {TS : Type} [IsTimeStamp TS Cert]

/-- The conclusion in XML and JOSE. -/
def basicConclusion (policy : PkixPolicy) (now : Date)
    (times : List (TimeValidationResult Cert TS)) : PathOutcome Cert → ValidationConclusion
  | .ok c =>
      if (c.getValidatedCertificatePath.getD []).isEmpty then .INDETERMINATE
      else checksConclusion policy now times (some c) none
  | .error (.extended _ r) =>
      if (r.validatedCertificatePath.getD []).isEmpty then .INDETERMINATE
      else checksConclusion policy now times (some (.pathValidation r)) none
  | .error (.other ex) => if ex.cls = .certPathBuilder then .INDETERMINATE else .FAILED

/-- The conclusion in PDF. -/
def pdfConclusion (policy : PkixPolicy) (now : Date)
    (times : List (TimeValidationResult Cert TS)) : PathOutcome Cert → ValidationConclusion
  | .ok c =>
      if (c.getValidatedCertificatePath.getD []).isEmpty then .INDETERMINATE
      else checksConclusion policy now times (some c) none
  | .error (.extended message r) =>
      if (r.validatedCertificatePath.getD []).isEmpty then .INDETERMINATE
      else
        checksConclusion policy now times (some (.pathValidation r))
          (some ⟨.certPathValidator, message⟩)
  | .error (.other _) => .INDETERMINATE

/-- The outcomes on which the exception handling of the formats shows: an exception
that brings no result and is not about path building, and one that carries a path with
decided statuses among which no revocation is looked at. -/
inductive HandledApart (policy : PkixPolicy) : PathOutcome Cert → Prop where
  | other {ex : Exn} : ex.cls ≠ .certPathBuilder → HandledApart policy (.error (.other ex))
  | extended {message : String} {r : PathValidationResult Cert} {path : List Cert}
      {statuses : List (ValidationStatus Cert)} :
      r.validatedCertificatePath = some path → path ≠ [] →
      r.validationStatusList = some statuses → PkixPolicy.Decided statuses →
      ¬ policy.LooksAtRevocations statuses →
      HandledApart policy (.error (.extended message r))

theorem basicConclusion_eq_pdfConclusion_iff {TS' : Type} [IsTimeStamp TS' Cert]
    (policy : PkixPolicy) (now : Date) {times : List (TimeValidationResult Cert TS)}
    {times' : List (TimeValidationResult Cert TS')} (h : timeStampsOf times = timeStampsOf times')
    (outcome : PathOutcome Cert) :
    basicConclusion policy now times outcome = pdfConclusion policy now times' outcome ↔
      ¬ HandledApart policy outcome := by
  cases outcome with
  | ok c =>
      have hnot : ¬ HandledApart policy (.ok c) := nofun
      simp only [hnot, not_false_eq_true, basicConclusion, pdfConclusion,
        checksConclusion_congr policy now h]
  | error failure =>
      cases failure with
      | other ex =>
          unfold basicConclusion pdfConclusion
          by_cases hcls : ex.cls = .certPathBuilder
          · simp only [hcls, if_true, true_iff]
            rintro (hne | _)
            exact hne hcls
          · simp only [hcls, if_false, reduceCtorEq, false_iff, not_not]
            exact .other hcls
      | extended message r =>
          unfold basicConclusion pdfConclusion
          dsimp only
          rw [← checksConclusion_congr policy now h]
          cases hpath : (r.validatedCertificatePath.getD []).isEmpty with
          | true =>
              simp only [if_true, true_iff]
              rintro (_ | ⟨hsome, hne, _⟩)
              rw [hsome] at hpath
              exact hne (List.isEmpty_iff.mp hpath)
          | false =>
              simp only [Bool.false_eq_true, if_false]
              rw [checksConclusion_exception_iff]
              apply not_congr
              constructor
              · rintro ⟨statuses, hlist, hdec, hlook⟩
                cases hsome : r.validatedCertificatePath with
                | none => simp [hsome] at hpath
                | some path =>
                    refine .extended hsome ?_ hlist hdec hlook
                    simpa [hsome] using hpath
              · rintro (_ | ⟨_, _, hlist, hdec, hlook⟩)
                exact ⟨_, hlist, hdec, hlook⟩

theorem basicValidatePolicy_of_success {policy : PkixPolicy} {now : Date}
    {times : List (TimeValidationResult Cert TS)} {c : CertificateValidationResult Cert}
    {result : ExtendedSigValResult Cert TS} (hstatus : result.status = .SUCCESS)
    (htimes : result.timeValidationResults = some times)
    (hcert : result.certificateValidationResult = some c) :
    (basicValidatePolicy policy.getValidationPolicy (policy.performAdditionalValidityChecks now)
        result).policyValidationClaims.res =
      if (c.getValidatedCertificatePath.getD []).isEmpty then .INDETERMINATE
      else checksConclusion policy now times (some c) result.exception := by
  unfold basicValidatePolicy
  simp only [hstatus, pathOf_isEmpty_of_eq hcert]
  split
  · rfl
  · rw [checksConclusion_eq htimes, hcert]

/-- The policy of XML and JOSE on a result with the fields that path validation left. -/
theorem basicValidatePolicy_conclusion {policy : PkixPolicy} {now : Date}
    {times : List (TimeValidationResult Cert TS)} {outcome : PathOutcome Cert}
    (base final : ExtendedSigValResult Cert TS) (hstatus : base.status = .SUCCESS)
    (hex : base.exception = none) (htimes : final.timeValidationResults = some times)
    (hfstatus : final.status = (base.takePathOutcome outcome).status)
    (hfex : final.exception = (base.takePathOutcome outcome).exception)
    (hfcert : final.certificateValidationResult =
      (base.takePathOutcome outcome).certificateValidationResult) :
    (basicValidatePolicy policy.getValidationPolicy (policy.performAdditionalValidityChecks now)
        final).policyValidationClaims.res = basicConclusion policy now times outcome := by
  unfold ExtendedSigValResult.takePathOutcome at hfstatus hfex hfcert
  cases outcome with
  | ok c =>
      rw [basicValidatePolicy_of_success (hfstatus.trans hstatus) htimes hfcert]
      rw [show final.exception = none from hfex.trans hex]
      rfl
  | error failure =>
      cases failure with
      | extended message r =>
          unfold basicConclusion
          dsimp only at hfstatus hfex hfcert ⊢
          cases hpath : (r.validatedCertificatePath.getD []).isEmpty with
          | true =>
              simp only [hpath, if_true, ExtendedSigValResult.setError] at hfstatus
              simp [basicValidatePolicy, hfstatus]
          | false =>
              simp only [hpath, Bool.false_eq_true, if_false] at hfstatus hfex hfcert ⊢
              rw [basicValidatePolicy_of_success (hfstatus.trans hstatus) htimes hfcert,
                show final.exception = none from hfex.trans hex]
              exact if_neg (by rw [CertificateValidationResult.getValidatedCertificatePath, hpath]
                               exact Bool.false_ne_true)
      | other ex =>
          unfold basicConclusion
          dsimp only at hfstatus ⊢
          by_cases hcls : ex.cls = .certPathBuilder
          · simp only [hcls, if_true, ExtendedSigValResult.setError] at hfstatus
            simp [basicValidatePolicy, hfstatus, hcls]
          · simp only [hcls, if_false, ExtendedSigValResult.setError] at hfstatus
            simp [basicValidatePolicy, hfstatus, hcls]

end Conclusions

/-! ## The three formats -/

/-- The one policy claim of a result has the conclusion. -/
def Concludes {TS : Type} (result : ExtendedSigValResult Cert TS)
    (conclusion : ValidationConclusion) : Prop :=
  ∃ claims, result.validationPolicyResultList = some [claims] ∧ claims.res = conclusion

theorem concludes_takePolicyResult {TS : Type} (verdict : PolicyValidationResult)
    (result : ExtendedSigValResult Cert TS) :
    Concludes (result.takePolicyResult verdict) verdict.policyValidationClaims.res :=
  ⟨verdict.policyValidationClaims, rfl, rfl⟩

theorem Concludes.unique {TS : Type} {result : ExtendedSigValResult Cert TS}
    {c c' : ValidationConclusion} (h : Concludes result c) (h' : Concludes result c') : c = c' := by
  obtain ⟨claims, hlist, rfl⟩ := h
  obtain ⟨claims', hlist', rfl⟩ := h'
  rw [hlist] at hlist'
  cases hlist'
  rfl

section Formats

variable (policy : PkixPolicy) (now : Date) (validate : CertificateValidator Cert)
  (verifier : TimeStampPolicyVerifier Cert)

theorem takeXades_status {env : XmlEnv Cert} {xades : XAdESObjectParser}
    (signatureData : Xml.SignatureData Cert) (result : Xml.XmlResult Cert)
    (h : xades.qualifyingProperties.isSome = true →
      xades.isXadesVerified env result.signerCertificate = true) :
    (XMLSignatureElementValidator.takeXades env signatureData xades result).status =
      result.status := by
  unfold XMLSignatureElementValidator.takeXades
  dsimp only
  cases hqp : xades.qualifyingProperties.isSome with
  | false => simp
  | true => simp [h hqp]

theorem xml_concludes {env : XmlEnv Cert} {signature : Node}
    {signatureData : Xml.SignatureData Cert} (h : XmlVerified env signature signatureData) :
    Concludes
      (XMLSignatureElementValidator.validateSignature env
        (pkixXmlValidator policy now validate verifier) signature signatureData)
      (basicConclusion policy now
        (xmlTimes env (pkixXmlValidator policy now validate verifier) signature signatureData)
        (validate signatureData.signerCertificate (some signatureData.signatureCertChain))) := by
  obtain ⟨⟨signer, hver⟩, xades, hparse, hnamed⟩ := h
  obtain ⟨uri, hbase⟩ := XMLSignatureElementValidator.validateSignatureElement_of_verifies hver
  show Concludes (XMLSignatureElementValidator.validateDirectly env
    (pkixXmlValidator policy now validate verifier) signature signatureData) _
  unfold XMLSignatureElementValidator.validateDirectly xmlTimes
  rw [hver.signerCertificate] at hnamed
  rw [hparse, hbase, hver.signerCertificate]
  dsimp only
  -- the verified result is a success, so path validation is made
  have hpath : (XMLSignatureElementValidator.verifiedResult signatureData signer uri).validatePath
      (pkixXmlValidator policy now validate verifier).certificateValidator =
      (XMLSignatureElementValidator.verifiedResult signatureData signer uri).takePathOutcome
        (validate (some signer) (some signatureData.signatureCertChain)) := rfl
  rw [hpath]
  have hsigner : xades.qualifyingProperties.isSome = true →
      xades.isXadesVerified env
        ((XMLSignatureElementValidator.verifiedResult signatureData signer uri).takePathOutcome
          (validate (some signer) (some signatureData.signatureCertChain))).signerCertificate =
        true := by
    rw [ExtendedSigValResult.takePathOutcome_signerCertificate]
    exact hnamed
  obtain ⟨hfex, hfcert⟩ := takeXades_kept signatureData _ hsigner
  have hfstatus := takeXades_status signatureData _ hsigner
  unfold XMLSignatureElementValidator.conclude
  dsimp only
  rw [← basicValidatePolicy_conclusion
    (XMLSignatureElementValidator.verifiedResult signatureData signer uri)
    { XMLSignatureElementValidator.takeXades env signatureData xades
        ((XMLSignatureElementValidator.verifiedResult signatureData signer uri).takePathOutcome
          (validate (some signer) (some signatureData.signatureCertChain))) with
      timeValidationResults := some (XMLSignatureElementValidator.timeValidationResults env
        (pkixXmlValidator policy now validate verifier) signature xades) }
    rfl rfl rfl hfstatus hfex hfcert]
  exact concludes_takePolicyResult _ _

theorem jose_concludes {env : JoseEnv Cert} {signatureData : JOSESignatureData Cert}
    (h : JoseVerified env signatureData) :
    Concludes
      (JOSESignatureDataValidator.validateSignature env
        (pkixJoseValidator policy now validate verifier) signatureData)
      (basicConclusion policy now
        (joseTimes env (pkixJoseValidator policy now validate verifier) signatureData)
        (validate signatureData.signerCertificate (some signatureData.signatureCertChain))) := by
  obtain ⟨⟨signer, hver⟩, tokens, htokens⟩ := h
  show Concludes (JOSESignatureDataValidator.validateDirectly env
    (pkixJoseValidator policy now validate verifier) signatureData) _
  rw [validateDirectly_of_tokens htokens]
  unfold JOSESignatureDataValidator.conclude
  rw [JOSESignatureDataValidator.validateSignatureData_of_verifies hver, hver.signerCertificate]
  have hpath : (JOSESignatureDataValidator.verifiedResult signatureData signer).validatePath
      (pkixJoseValidator policy now validate verifier).certificateValidator =
      (JOSESignatureDataValidator.verifiedResult signatureData signer).takePathOutcome
        (validate (some signer) (some signatureData.signatureCertChain)) := rfl
  rw [hpath]
  dsimp only
  rw [← basicValidatePolicy_conclusion
    (JOSESignatureDataValidator.verifiedResult signatureData signer)
    { JOSESignatureDataValidator.takeHeaders env signatureData
        ((JOSESignatureDataValidator.verifiedResult signatureData signer).takePathOutcome
          (validate (some signer) (some signatureData.signatureCertChain))) with
      timeValidationResults := some
        (joseTimes env (pkixJoseValidator policy now validate verifier) signatureData) }
    rfl rfl rfl rfl rfl rfl]
  exact concludes_takePolicyResult _ _

/-- With the basic checks passed and the document unaltered, the path and then the
statuses decide. -/
theorem pkixPdfVerifier_of_success {signature : PDSignature}
    {signatureContext : DefaultPDFSignatureContext} {result : ExtendedPdfSigValResult Cert}
    (hsuccess : result.isSuccess = true) (hpdf : result.pdfSignature = some signature)
    (hunaltered : signatureContext.isSignatureExtendedByNonSafeUpdates signature = .ok false) :
    (pkixPdfValidator policy now validate verifier).sigPolicyVerifier result signatureContext =
      .ok (if result.pathOf.isEmpty then
        ⟨⟨policy.getValidationPolicy, .INDETERMINATE, some "No valid certificate path was found"⟩,
          .ERROR_NOT_TRUSTED⟩
      else policy.performAdditionalValidityChecks now result.toExtendedSigValResult) := by
  have hext : (do
      let signature ← deref result.pdfSignature
      signatureContext.isSignatureExtendedByNonSafeUpdates signature : Outcome Bool) =
      .ok false := by
    rw [hpdf]
    exact hunaltered
  unfold pkixPdfValidator
  dsimp only
  rw [hext]
  unfold PkixPdfSignaturePolicyValidator.validatePolicy
  simp only [hsuccess, Bool.not_true, Bool.false_eq_true, if_false, bind, Except.bind]
  split
  · rfl
  · rfl

open SigVal.Pdf.PDFSingleSignatureValidator in
/-- The PDF policy on a collected result. -/
theorem pdfPolicy_concludes {signature : PDSignature}
    {signatureContext : DefaultPDFSignatureContext}
    {times : List (TimeValidationResult Cert (PdfTimeStamp Cert))} (outcome : PathOutcome Cert)
    {mid : ExtendedPdfSigValResult Cert} (hstatus : mid.status = .SUCCESS)
    (htimes : mid.timeValidationResults = some times)
    (hcert : mid.certificateValidationResult = none) (hex : mid.exception = none)
    (hpdf : mid.pdfSignature = some signature)
    (hunaltered : signatureContext.isSignatureExtendedByNonSafeUpdates signature = .ok false) :
    ∃ verdict,
      (pkixPdfValidator policy now validate verifier).sigPolicyVerifier
        (takePathOutcome outcome mid) signatureContext = .ok verdict ∧
      verdict.policyValidationClaims.res = pdfConclusion policy now times outcome := by
  obtain ⟨hkstatus, hktimes, hrecorded, _⟩ := pdf_takePathOutcome_fields outcome mid hcert hex
  have hsuccess : (takePathOutcome outcome mid).isSuccess = true := by
    simp [ExtendedSigValResult.isSuccess, hkstatus, hstatus]
  have hverdict := pkixPdfVerifier_of_success policy now validate verifier hsuccess
    (pdf_takePathOutcome_pdfSignature.trans hpdf) hunaltered
  refine ⟨_, hverdict, ?_⟩
  have hchecks : (policy.performAdditionalValidityChecks now
      (takePathOutcome outcome mid).toExtendedSigValResult).policyValidationClaims.res = _ :=
    checksConclusion_eq (hktimes.trans htimes)
  rw [apply_ite PolicyValidationResult.policyValidationClaims,
    apply_ite PolicyValidationClaims.res, hchecks, hrecorded]
  cases outcome with
  | ok c =>
      rw [pathOf_isEmpty_of_eq (c := c) rfl]
      rfl
  | error failure =>
      cases failure with
      | extended message r =>
          rw [pathOf_isEmpty_of_eq (c := .pathValidation r) rfl]
          rfl
      | other ex =>
          have hempty : (takePathOutcome (.error (.other ex)) mid).pathOf.isEmpty = true := by
            unfold ExtendedSigValResult.pathOf takePathOutcome
            rw [hcert]
            rfl
          rw [if_pos hempty]
          rfl

open SigVal.Pdf.PDFSingleSignatureValidator in
/-- The end of the checks on a verified PDF signature. -/
theorem checkConsistency_concludes {env : PdfEnv Cert} {signature : PDSignature}
    {documentTimestamps : List (PDFDocTimeStamp Cert)}
    {signatureContext : DefaultPDFSignatureContext} {cms : CMSSignature Cert}
    {attrs : SignedAttributes} {uri : String} (sigResult : ExtendedPdfSigValResult Cert)
    (hstatus : sigResult.status = .SUCCESS) (halgo : sigResult.signatureAlgorithm = some uri)
    (hcert : sigResult.certificateValidationResult = none) (hex : sigResult.exception = none)
    (hsigner : sigResult.signerCertificate = some cms.sigCert)
    (hchain : sigResult.signatureCertificateChain = some cms.chain)
    (hpdf : sigResult.pdfSignature = some signature)
    (hconsistent : AlgorithmsConsistent env uri attrs)
    (hnamed : SignerNamed env attrs (some cms.sigCert))
    (hunaltered : signatureContext.isSignatureExtendedByNonSafeUpdates signature = .ok false) :
    ∃ result,
      checkConsistency env (pkixPdfValidator policy now validate verifier) signature
        documentTimestamps signatureContext cms attrs sigResult = .ok result ∧
      Concludes result.toExtendedSigValResult
        (pdfConclusion policy now
          (pdfTimes env (pkixPdfValidator policy now validate verifier) cms documentTimestamps)
          (validate (some cms.sigCert) (some cms.chain))) := by
  obtain ⟨base, hbase, hbasePdf, hrun⟩ := checkConsistency_consistent
    (pkixPdfValidator policy now validate verifier) halgo hconsistent
  obtain ⟨mid, hcollect, hmid, hmidTimes, hmidCert, hmidEx, hmidPdf⟩ :=
    collect_eq env (pkixPdfValidator policy now validate verifier) signature documentTimestamps cms
      attrs base (by rw [hbase, hcert]) (by rw [hbase, hex])
  rw [hbase, hsigner] at hmid
  rw [hbase, hsigner, hchain] at hcollect
  obtain ⟨verdict, hverdict, hconclusion⟩ := pdfPolicy_concludes policy now validate verifier
    (validate (some cms.sigCert) (some cms.chain)) (hmid.mpr ⟨hstatus, hnamed⟩) hmidTimes hmidCert
    hmidEx (hmidPdf.trans (hbasePdf.trans hpdf)) hunaltered
  refine ⟨takePolicyResult verdict (collect env (pkixPdfValidator policy now validate verifier)
    signature documentTimestamps cms attrs base), ?_, ?_⟩
  · rw [hrun]
    refine bind_ok_iff.mpr ⟨verdict, ?_, rfl⟩
    rw [hcollect]
    exact hverdict
  · rw [← hconclusion]
    exact concludes_takePolicyResult _ _

open SigVal.Pdf.PDFSingleSignatureValidator in
theorem pdf_concludes {env : PdfEnv Cert} {signature : PDSignature} {pdfDocument : Bytes}
    (documentTimestamps : List (PDFDocTimeStamp Cert))
    {signatureContext : DefaultPDFSignatureContext} {cms : CMSSignature Cert}
    (hcms : signatureCMS env signature pdfDocument = .ok cms)
    (h : PdfVerified env signature signatureContext cms) :
    ∃ result,
      verifySignature env (pkixPdfValidator policy now validate verifier) signature pdfDocument
        documentTimestamps signatureContext = .ok result ∧
      Concludes result.toExtendedSigValResult
        (pdfConclusion policy now
          (pdfTimes env (pkixPdfValidator policy now validate verifier) cms documentTimestamps)
          (validate (some cms.sigCert) (some cms.chain))) := by
  obtain ⟨⟨covers, hcovers⟩, hvalue, hpk, ⟨uri, attrs, huri, hattrs, hcons, hnamed⟩,
    hunaltered⟩ := h
  obtain ⟨contents, hcontents, hcms⟩ := bind_ok_iff.mp hcms
  obtain ⟨signedContent, hsigned, hparse⟩ := bind_ok_iff.mp hcms
  unfold verifySignature
  simp only [hcontents, hcovers, hsigned, hparse, hvalue, bind, Except.bind]
  unfold checkAlgorithms
  simp only [hpk, huri, hattrs, deref, bind, Except.bind]
  exact checkConsistency_concludes policy now validate verifier _ rfl rfl rfl rfl rfl rfl rfl hcons
    hnamed hunaltered

open SigVal.Pdf.PDFSingleSignatureValidator in
/-- **One verdict for three formats.** For every three signatures that verify, in a PDF
that was not altered afterwards, with the same timestamps and the same outcome of path
validation, and for every PKIX policy: the validators reach the same conclusion exactly
when the outcome is not one whose exception they handle apart. -/
theorem same_conclusion_iff {xmlEnv : XmlEnv Cert} {signatureElement : Node}
    {xmlData : Xml.SignatureData Cert} {joseEnv : JoseEnv Cert} {joseData : JOSESignatureData Cert}
    {pdfEnv : PdfEnv Cert} {signature : PDSignature} {pdfDocument : Bytes}
    {documentTimestamps : List (PDFDocTimeStamp Cert)}
    {signatureContext : DefaultPDFSignatureContext} {cms : CMSSignature Cert}
    {outcome : PathOutcome Cert}
    (hxml : XmlVerified xmlEnv signatureElement xmlData)
    (hjose : JoseVerified joseEnv joseData)
    (hcms : signatureCMS pdfEnv signature pdfDocument = .ok cms)
    (hpdf : PdfVerified pdfEnv signature signatureContext cms)
    (hxmlPath : validate xmlData.signerCertificate (some xmlData.signatureCertChain) = outcome)
    (hjosePath : validate joseData.signerCertificate (some joseData.signatureCertChain) = outcome)
    (hpdfPath : validate (some cms.sigCert) (some cms.chain) = outcome)
    (hxmlTimes : timeStampsOf (xmlTimes xmlEnv (pkixXmlValidator policy now validate verifier)
        signatureElement xmlData) =
      timeStampsOf (pdfTimes pdfEnv (pkixPdfValidator policy now validate verifier) cms
        documentTimestamps))
    (hjoseTimes : timeStampsOf (joseTimes joseEnv
        (pkixJoseValidator policy now validate verifier) joseData) =
      timeStampsOf (pdfTimes pdfEnv (pkixPdfValidator policy now validate verifier) cms
        documentTimestamps)) :
    (∃ result conclusion,
      verifySignature pdfEnv (pkixPdfValidator policy now validate verifier) signature pdfDocument
        documentTimestamps signatureContext = .ok result ∧
      Concludes result.toExtendedSigValResult conclusion ∧
      Concludes (XMLSignatureElementValidator.validateSignature xmlEnv
        (pkixXmlValidator policy now validate verifier) signatureElement xmlData) conclusion ∧
      Concludes (JOSESignatureDataValidator.validateSignature joseEnv
        (pkixJoseValidator policy now validate verifier) joseData) conclusion) ↔
      ¬ HandledApart policy outcome := by
  have hxmlConcl := xml_concludes policy now validate verifier hxml
  have hjoseConcl := jose_concludes policy now validate verifier hjose
  obtain ⟨result, hok, hpdfConcl⟩ :=
    pdf_concludes policy now validate verifier documentTimestamps hcms hpdf
  rw [hxmlPath] at hxmlConcl
  rw [hjosePath] at hjoseConcl
  rw [hpdfPath] at hpdfConcl
  have hxmlIff := basicConclusion_eq_pdfConclusion_iff policy now hxmlTimes outcome
  have hjoseIff := basicConclusion_eq_pdfConclusion_iff policy now hjoseTimes outcome
  constructor
  · rintro ⟨result', conclusion, hok', hpdf', hxml', _⟩
    rw [hok] at hok'
    cases hok'
    rw [← hxmlIff, hxmlConcl.unique hxml', hpdfConcl.unique hpdf']
  · intro hnot
    refine ⟨result, _, hok, hpdfConcl, ?_, ?_⟩
    · rw [← hxmlIff.mpr hnot]
      exact hxmlConcl
    · rw [← hjoseIff.mpr hnot]
      exact hjoseConcl

end Formats

/-! The same revoked signer in the three formats, under a policy that enforces current
validity. Path validation throws with a revoked status in its result. -/

def plainXmlEnv : XmlEnv Nat where
  newXMLSignature := fun _ =>
    .ok ⟨.ok none, .ok "http://www.w3.org/2001/04/xmldsig-more#rsa-sha256", fun _ => .ok true⟩
  getPublicKey := fun _ => .rsa [1]
  getEncoded := fun _ => .ok [1]
  getPkParams := fun _ => .ok ()
  unmarshal := fun _ => .error ⟨.runtime, "no qualifying properties"⟩
  getTimestampedBytes := fun _ _ => none
  ts := quietTsEnv
  svt := quietSvtEnv

def signatureNode : Node := .element "http://www.w3.org/2000/09/xmldsig#" "Signature" [] []

def plainXmlData : Xml.SignatureData Nat where
  signatureId := none
  refDataMap := []
  signatureBytes := [3]
  signedInfoBytes := []
  signatureCertChain := [1]
  signerCertificate := some 1
  signedDocument := none
  coversWholeDoc := true

theorem plainXml_verified : XmlVerified plainXmlEnv signatureNode plainXmlData :=
  ⟨⟨1, rfl, rfl, _, _, rfl, rfl, rfl⟩, ⟨none⟩, rfl, nofun⟩

theorem verifiedJose_verified : JoseVerified joseEnv verifiedJose :=
  ⟨⟨1, rfl, rfl, rfl⟩, [], rfl⟩

theorem plainPdf_verified : PdfVerified pdfEnv signedRange signedContext plainCMS :=
  ⟨⟨true, rfl⟩, rfl, rfl, ⟨_, _, rfl, rfl, ⟨rfl, nofun⟩, by rintro (h | h) <;> cases h⟩, rfl⟩

open SigVal.Pdf.PDFSingleSignatureValidator in
theorem same_conclusion_iff_revoked :
    XmlVerified plainXmlEnv signatureNode plainXmlData ∧
    JoseVerified joseEnv verifiedJose ∧
    PdfVerified pdfEnv signedRange signedContext plainCMS ∧
    ((∃ result conclusion,
      verifySignature pdfEnv
        (pkixPdfValidator enforcing 2000 (pathCertificateValidator revokedPath) noTimestamps)
        signedRange [] [] signedContext = .ok result ∧
      Concludes result.toExtendedSigValResult conclusion ∧
      Concludes (XMLSignatureElementValidator.validateSignature plainXmlEnv
        (pkixXmlValidator enforcing 2000 (pathCertificateValidator revokedPath) noTimestamps)
        signatureNode plainXmlData) conclusion ∧
      Concludes (JOSESignatureDataValidator.validateSignature joseEnv
        (pkixJoseValidator enforcing 2000 (pathCertificateValidator revokedPath) noTimestamps)
        verifiedJose) conclusion) ↔
      ¬ HandledApart enforcing (pathCertificateValidator revokedPath (some 1) (some [1]))) :=
  ⟨plainXml_verified, verifiedJose_verified, plainPdf_verified,
    same_conclusion_iff enforcing 2000 (pathCertificateValidator revokedPath) noTimestamps
      plainXml_verified verifiedJose_verified rfl plainPdf_verified rfl rfl rfl rfl rfl⟩

open SigVal.Pdf.PDFSingleSignatureValidator in
/-- The PDF signature fails, and the XML and JOSE signatures pass. -/
theorem revoked_signer_judged_apart :
    XmlVerified plainXmlEnv signatureNode plainXmlData ∧
    JoseVerified joseEnv verifiedJose ∧
    PdfVerified pdfEnv signedRange signedContext plainCMS ∧
    (∃ result,
      verifySignature pdfEnv
        (pkixPdfValidator enforcing 2000 (pathCertificateValidator revokedPath) noTimestamps)
        signedRange [] [] signedContext = .ok result ∧
      Concludes result.toExtendedSigValResult .FAILED) ∧
    Concludes (XMLSignatureElementValidator.validateSignature plainXmlEnv
      (pkixXmlValidator enforcing 2000 (pathCertificateValidator revokedPath) noTimestamps)
      signatureNode plainXmlData) .PASSED ∧
    Concludes (JOSESignatureDataValidator.validateSignature joseEnv
      (pkixJoseValidator enforcing 2000 (pathCertificateValidator revokedPath) noTimestamps)
      verifiedJose) .PASSED :=
  ⟨plainXml_verified, verifiedJose_verified, plainPdf_verified, ⟨_, rfl, _, rfl, rfl⟩,
    ⟨_, rfl, rfl⟩, ⟨_, rfl, rfl⟩⟩

end SigVal.Policy
