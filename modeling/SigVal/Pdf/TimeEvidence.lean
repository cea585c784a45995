import SigVal.Policy.DirectSoundness

/-!
# The times a PDF signature is given

Document timestamps are attached to a PDF signature as evidence of its time, and
the policy takes the earliest verified one. A timestamp says something about a
signature only when it covers it: one made for an earlier revision is older than
the signature may be. `PDFDocTimeStamp.isSignatureCovered` decides that, and
`addVerifiedTimes` does not ask.
-/

namespace SigVal.Pdf

open SigVal.Java SigVal.Cert SigVal.Commons SigVal.Policy PDFSingleSignatureValidator

variable {Cert : Type}

/-! ## Which times are attached -/

/-- A document timestamp from which a time can be read. -/
def PDFDocTimeStamp.Timed (docTimeStamp : PDFDocTimeStamp Cert) : Prop :=
  ∃ tstInfo time cert, docTimeStamp.tstInfo = some tstInfo ∧ tstInfo.genTime = some time ∧
    docTimeStamp.sigCert = some cert

/-- The checks that come before the times are collected all end, whatever they
say about the signature value. -/
structure Evaluated (env : PdfEnv Cert) (signature : PDSignature)
    (signatureContext : DefaultPDFSignatureContext) (cms : CMSSignature Cert) : Prop where
  located : ∃ covers, signatureContext.isCoversWholeDocument signature = .ok covers
  value : ∃ verified, cms.verify = .ok verified
  pkParams : env.getPkParams cms.sigCert = .ok ()
  algorithms : ∃ uri attrs,
    env.getAlgorithmURI (some cms.encryptionAlgOID) (some cms.digestAlgOID) = .ok uri ∧
    cms.signedAttributes = some attrs ∧ AlgorithmsConsistent env uri attrs

theorem timed_iff (getSubject : Cert → String) (type : String)
    {docTimeStamp : PDFDocTimeStamp Cert} :
    (∃ result, getTimeValidationResult getSubject type
      (PdfTimeStamp.docTimeStamp docTimeStamp) = some result) ↔ docTimeStamp.Timed := by
  have hclaims : (∃ result, getTimeValidationResult getSubject type
      (PdfTimeStamp.docTimeStamp docTimeStamp) = some result) ↔
      ∃ claims, getVerifiedTimeFromTimeStamp getSubject docTimeStamp.toTimeStamp type =
        some claims := by
    simp only [getTimeValidationResult, IsTimeStamp.toTimeStamp, Option.map_eq_some_iff]
    constructor
    · rintro ⟨_, claims, hclaims, _⟩
      exact ⟨claims, hclaims⟩
    · rintro ⟨claims, hclaims⟩
      exact ⟨_, claims, hclaims, rfl⟩
  rw [hclaims]
  unfold getVerifiedTimeFromTimeStamp PDFDocTimeStamp.Timed
  cases docTimeStamp.tstInfo with
  | none => simp
  | some tstInfo =>
      cases docTimeStamp.sigCert with
      | none => simp
      | some cert =>
          cases htime : tstInfo.genTime with
          | none => simp [htime]
          | some time => simp [htime]

/-- The attached results of the document timestamp type are those of the timed
document timestamps, all of them. -/
theorem mem_pdfTimes_doc {env : PdfEnv Cert} {v : PDFSingleSignatureValidator Cert}
    {cms : CMSSignature Cert} {docs : List (PDFDocTimeStamp Cert)}
    {tvr : TimeValidationResult Cert (PdfTimeStamp Cert)} (hmem : tvr ∈ pdfTimes env v cms docs)
    {claims : TimeValidationClaims} (hclaims : tvr.timeValidationClaims = some claims)
    (htype : claims.type = timeVerificationTypePdfDocTimestamp) :
    ∃ doc ∈ docs, doc.Timed ∧ tvr.timeStamp = some (.docTimeStamp doc) := by
  unfold pdfTimes addVerifiedTimes at hmem
  rcases List.mem_append.mp hmem with hsig | hdoc
  · -- a signature timestamp is of the other type
    obtain ⟨result, _, hbind⟩ := List.mem_filterMap.mp hsig
    obtain ⟨ts, _, hresult⟩ := Option.bind_eq_some_iff.mp hbind
    obtain ⟨_, claims', hclaims', htype'⟩ := getTimeValidationResult_some hresult
    rw [hclaims] at hclaims'
    cases hclaims'
    rw [htype] at htype'
    exact absurd htype' (by decide)
  · obtain ⟨doc, hdoc, hresult⟩ := List.mem_filterMap.mp hdoc
    exact ⟨doc, hdoc, (timed_iff _ _).mp ⟨tvr, hresult⟩, (getTimeValidationResult_some hresult).1⟩

theorem pdfTimes_of_timed {env : PdfEnv Cert} {v : PDFSingleSignatureValidator Cert}
    {cms : CMSSignature Cert} {docs : List (PDFDocTimeStamp Cert)} {doc : PDFDocTimeStamp Cert}
    (hmem : doc ∈ docs) (htimed : doc.Timed) :
    ∃ tvr ∈ pdfTimes env v cms docs, tvr.timeStamp = some (.docTimeStamp doc) ∧
      ∃ claims, tvr.timeValidationClaims = some claims ∧
        claims.type = timeVerificationTypePdfDocTimestamp := by
  obtain ⟨tvr, htvr⟩ :=
    (timed_iff env.ts.getSubject timeVerificationTypePdfDocTimestamp).mpr htimed
  obtain ⟨hts, hclaims⟩ := getTimeValidationResult_some htvr
  refine ⟨tvr, ?_, hts, hclaims⟩
  exact List.mem_append_right _ (List.mem_filterMap.mpr ⟨doc, hmem, htvr⟩)

/-- Leaving out timestamps without a time changes nothing. -/
theorem pdfTimes_filter {env : PdfEnv Cert} {v : PDFSingleSignatureValidator Cert}
    {cms : CMSSignature Cert} {docs : List (PDFDocTimeStamp Cert)}
    {p : PDFDocTimeStamp Cert → Bool} (h : ∀ doc ∈ docs, doc.Timed → p doc = true) :
    pdfTimes env v cms (docs.filter p) = pdfTimes env v cms docs := by
  unfold pdfTimes addVerifiedTimes
  congr 1
  induction docs with
  | nil => rfl
  | cons doc docs ih =>
      have ih := ih fun doc' hmem => h doc' (List.mem_cons_of_mem _ hmem)
      by_cases hp : p doc = true
      · rw [List.filter_cons_of_pos hp, List.filterMap_cons, List.filterMap_cons, ih]
      · rw [List.filter_cons_of_neg hp]
        have hnone : getTimeValidationResult env.ts.getSubject timeVerificationTypePdfDocTimestamp
            (PdfTimeStamp.docTimeStamp doc) = none := by
          cases hres : getTimeValidationResult env.ts.getSubject
            timeVerificationTypePdfDocTimestamp (PdfTimeStamp.docTimeStamp doc) with
          | none => rfl
          | some result => exact absurd (h doc List.mem_cons_self ((timed_iff _ _).mp ⟨_, hres⟩)) hp
        rw [ih, List.filterMap_cons, hnone]

/-! ## The times of a result -/

section Times

variable {env : PdfEnv Cert} {policy : PkixPolicy} {now : Date}
  {validate : CertificateValidator Cert} {verifier : TimeStampPolicyVerifier Cert}
  {signature : PDSignature} {pdfDocument : Bytes}
  {documentTimestamps : List (PDFDocTimeStamp Cert)}
  {signatureContext : DefaultPDFSignatureContext}

/-- Path validation and the copy of the verdict leave the times alone. -/
theorem collect_times (env : PdfEnv Cert) (signature : PDSignature)
    (documentTimestamps : List (PDFDocTimeStamp Cert)) (v : PDFSingleSignatureValidator Cert)
    (cms : CMSSignature Cert) (attrs : SignedAttributes) (sigResult : ExtendedPdfSigValResult Cert)
    (hcert : sigResult.certificateValidationResult = none) (hex : sigResult.exception = none) :
    (v.collect env signature documentTimestamps cms attrs sigResult).timeValidationResults =
        some (pdfTimes env v cms documentTimestamps) ∧
      (v.collect env signature documentTimestamps cms attrs sigResult).pdfSignature =
        sigResult.pdfSignature := by
  obtain ⟨mid, hcollect, _, hmidTimes, hmidCert, hmidEx, hmidPdf⟩ :=
    collect_eq env v signature documentTimestamps cms attrs sigResult hcert hex
  obtain ⟨_, htimes, _, _⟩ := pdf_takePathOutcome_fields
    (v.certificateValidator sigResult.signerCertificate sigResult.signatureCertificateChain)
    mid hmidCert hmidEx
  rw [hcollect]
  exact ⟨htimes.trans hmidTimes, pdf_takePathOutcome_pdfSignature.trans hmidPdf⟩

theorem takePolicyResult_times (verdict : PolicyValidationResult)
    (sigResult : ExtendedPdfSigValResult Cert) :
    (takePolicyResult verdict sigResult).timeValidationResults =
      sigResult.timeValidationResults := by
  unfold takePolicyResult ExtendedSigValResult.takePolicyResult
  dsimp only
  split <;> rfl

/-- A signature whose revision was found has an answer to the question for later
updates. -/
theorem extended_of_located {covers : Bool}
    (h : signatureContext.isCoversWholeDocument signature = .ok covers) :
    ∃ altered, signatureContext.isSignatureExtendedByNonSafeUpdates signature = .ok altered := by
  unfold DefaultPDFSignatureContext.isCoversWholeDocument at h
  obtain ⟨idx, hidx, h⟩ := bind_ok_iff.mp h
  cases idx with
  | none => cases h
  | some idx =>
      refine ⟨DefaultPDFSignatureContext.extendedBy
        (signatureContext.pdfDocRevisions.drop (idx + 1)), ?_⟩
      unfold DefaultPDFSignatureContext.isSignatureExtendedByNonSafeUpdates
      rw [rethrowAs_ok_iff, hidx]
      rfl

/-- The PKIX policy returns a verdict when that answer is there. -/
theorem pkixPdf_verdict (policy : PkixPolicy) (now : Date)
    (validate : CertificateValidator Cert) (verifier : TimeStampPolicyVerifier Cert)
    {altered : Bool}
    (h : signatureContext.isSignatureExtendedByNonSafeUpdates signature = .ok altered)
    (sigResult : ExtendedPdfSigValResult Cert) (hpdf : sigResult.pdfSignature = some signature) :
    ∃ verdict, (pkixPdfValidator policy now validate verifier).sigPolicyVerifier sigResult
      signatureContext = .ok verdict := by
  have hext : (do
      let signature ← deref sigResult.pdfSignature
      signatureContext.isSignatureExtendedByNonSafeUpdates signature : Outcome Bool) =
      .ok altered := by
    rw [hpdf]
    exact h
  unfold pkixPdfValidator
  dsimp only
  rw [hext]
  unfold PkixPdfSignaturePolicyValidator.validatePolicy
  split
  · exact ⟨_, rfl⟩
  · cases altered with
    | true => exact ⟨_, rfl⟩
    | false =>
        simp only [bind, Except.bind, Bool.false_eq_true, if_false]
        split
        · exact ⟨_, rfl⟩
        · exact ⟨_, rfl⟩

/-- The last part of the checks: an inconsistent algorithm ends them before the
times, and otherwise the times are attached. -/
theorem checkConsistency_times {v : PDFSingleSignatureValidator Cert} {cms : CMSSignature Cert}
    {attrs : SignedAttributes} {uri : String} {sigResult result : ExtendedPdfSigValResult Cert}
    (halgo : sigResult.signatureAlgorithm = some uri)
    (hcert : sigResult.certificateValidationResult = none) (hex : sigResult.exception = none)
    (h : checkConsistency env v signature documentTimestamps signatureContext cms attrs sigResult =
      .ok result) :
    result.timeValidationResults = sigResult.timeValidationResults ∨
      (AlgorithmsConsistent env uri attrs ∧
        result.timeValidationResults = some (pdfTimes env v cms documentTimestamps)) := by
  by_cases hconsistent : AlgorithmsConsistent env uri attrs
  · obtain ⟨base, hbase, -, hrun⟩ := checkConsistency_consistent v halgo hconsistent
    rw [hrun] at h
    obtain ⟨verdict, -, h⟩ := bind_ok_iff.mp h
    cases h
    refine .inr ⟨hconsistent, ?_⟩
    rw [takePolicyResult_times]
    exact (collect_times env signature documentTimestamps v cms attrs base (by rw [hbase, hcert])
      (by rw [hbase, hex])).1
  · obtain ⟨-, htimes⟩ := checkConsistency_inconsistent halgo hconsistent h
    exact .inl htimes

theorem checkConsistency_of_consistent {cms : CMSSignature Cert} {attrs : SignedAttributes}
    {uri : String} {altered : Bool} (sigResult : ExtendedPdfSigValResult Cert)
    (halgo : sigResult.signatureAlgorithm = some uri)
    (hcert : sigResult.certificateValidationResult = none) (hex : sigResult.exception = none)
    (hpdf : sigResult.pdfSignature = some signature)
    (halt : signatureContext.isSignatureExtendedByNonSafeUpdates signature = .ok altered)
    (hconsistent : AlgorithmsConsistent env uri attrs) :
    ∃ result,
      checkConsistency env (pkixPdfValidator policy now validate verifier) signature
        documentTimestamps signatureContext cms attrs sigResult = .ok result ∧
      result.timeValidationResults =
        some (pdfTimes env (pkixPdfValidator policy now validate verifier) cms
          documentTimestamps) := by
  obtain ⟨base, hbase, hbasePdf, hrun⟩ := checkConsistency_consistent
    (pkixPdfValidator policy now validate verifier) halgo hconsistent
  obtain ⟨htimes, hcollectPdf⟩ := collect_times env signature documentTimestamps
    (pkixPdfValidator policy now validate verifier) cms attrs base (by rw [hbase, hcert])
    (by rw [hbase, hex])
  obtain ⟨verdict, hverdict⟩ := pkixPdf_verdict policy now validate verifier halt _
    (hcollectPdf.trans (hbasePdf.trans hpdf))
  refine ⟨takePolicyResult verdict _, ?_, (takePolicyResult_times verdict _).trans htimes⟩
  rw [hrun]
  exact bind_ok_iff.mpr ⟨verdict, hverdict, rfl⟩

/-- Where the checks before it end, the times are attached. -/
theorem verifySignature_of_evaluated {cms : CMSSignature Cert}
    (hcms : signatureCMS env signature pdfDocument = .ok cms)
    (hev : Evaluated env signature signatureContext cms) :
    ∃ result,
      verifySignature env (pkixPdfValidator policy now validate verifier) signature pdfDocument
        documentTimestamps signatureContext = .ok result ∧
      result.timeValidationResults =
        some (pdfTimes env (pkixPdfValidator policy now validate verifier) cms
          documentTimestamps) := by
  obtain ⟨⟨covers, hcovers⟩, ⟨verified, hverify⟩, hpk, uri, attrs, huri, hattrs, hcons⟩ := hev
  obtain ⟨contents, hcontents, hcms⟩ := bind_ok_iff.mp hcms
  obtain ⟨signedContent, hsigned, hparse⟩ := bind_ok_iff.mp hcms
  obtain ⟨altered, halt⟩ := extended_of_located hcovers
  unfold verifySignature
  simp only [hcontents, hcovers, hsigned, hparse, hverify, bind, Except.bind]
  unfold checkAlgorithms
  simp only [hpk, huri, hattrs, deref, bind, Except.bind]
  exact checkConsistency_of_consistent _ rfl rfl rfl rfl halt hcons

/-- A result has no times, or the checks ended and it has those of every timed
document timestamp. -/
theorem verifySignature_times {v : PDFSingleSignatureValidator Cert}
    {result : ExtendedPdfSigValResult Cert}
    (h : verifySignature env v signature pdfDocument documentTimestamps signatureContext =
      .ok result) :
    result.timeValidationResults = some [] ∨ ∃ cms,
      signatureCMS env signature pdfDocument = .ok cms ∧
      Evaluated env signature signatureContext cms ∧
      result.timeValidationResults = some (pdfTimes env v cms documentTimestamps) := by
  obtain ⟨contents, hcontents, h⟩ := bind_ok_iff.mp h
  obtain ⟨covers, hcovers, h⟩ := bind_ok_iff.mp h
  obtain ⟨signedContent, hsigned, h⟩ := bind_ok_iff.mp h
  obtain ⟨cms, hparse, h⟩ := bind_ok_iff.mp h
  have hcms : signatureCMS env signature pdfDocument = .ok cms :=
    bind_ok_iff.mpr ⟨contents, hcontents, bind_ok_iff.mpr ⟨signedContent, hsigned, hparse⟩⟩
  cases hverify : cms.verify with
  | error ex =>
      simp only [hverify] at h
      cases h
      exact .inl rfl
  | ok verified =>
      simp only [hverify] at h
      obtain ⟨_, hpk, h⟩ := bind_ok_iff.mp h
      cases huri : env.getAlgorithmURI (some cms.encryptionAlgOID) (some cms.digestAlgOID) with
      | error ex =>
          simp only [huri] at h
          cases h
          exact .inl rfl
      | ok uri =>
          simp only [huri] at h
          obtain ⟨attrs, hattrs, h⟩ := bind_ok_iff.mp h
          rw [deref_ok_iff] at hattrs
          rcases checkConsistency_times rfl rfl rfl h with hnone | ⟨hcons, htimes⟩
          · exact .inl hnone
          · exact .inr ⟨cms, hcms, ⟨⟨covers, hcovers⟩, ⟨verified, hverify⟩, hpk, uri, attrs, huri,
              hattrs, hcons⟩, htimes⟩

end Times

/-! ## Coverage -/

section Coverage

variable (env : PdfEnv Cert) (policy : PkixPolicy) (now : Date)
  (validate : CertificateValidator Cert) (verifier : TimeStampPolicyVerifier Cert)
  (signature : PDSignature) (pdfDocument : Bytes)
  (documentTimestamps : List (PDFDocTimeStamp Cert))
  (signatureContext : DefaultPDFSignatureContext)

/-- Every attached time of the document timestamp type comes from a document
timestamp that covers the signature. -/
def DocTimesCover : Prop :=
  ∀ result,
    verifySignature env (pkixPdfValidator policy now validate verifier) signature pdfDocument
      documentTimestamps signatureContext = .ok result →
    ∀ times, result.timeValidationResults = some times → ∀ tvr ∈ times,
      ∀ claims, tvr.timeValidationClaims = some claims →
        claims.type = timeVerificationTypePdfDocTimestamp →
        ∃ doc ∈ documentTimestamps, tvr.timeStamp = some (.docTimeStamp doc) ∧
          doc.isSignatureCovered signature = true

/-- Revocations that a success tolerates are tolerated on the signature
timestamps and the covering document timestamps alone. -/
def RevocationEvidenceCovers : Prop :=
  PdfSucceeds policy now validate verifier env signature pdfDocument documentTimestamps
      signatureContext →
    policy.enforceCurrentTimeValidation = false →
    ∀ cms r statuses, signatureCMS env signature pdfDocument = .ok cms →
      carried (validate (some cms.sigCert) (some cms.chain)) = some r →
      r.validationStatusList = some statuses →
      policy.RevocationsTolerated now
        (some (pdfTimes env (pkixPdfValidator policy now validate verifier) cms
          (documentTimestamps.filter (·.isSignatureCovered signature)))) statuses

/-- The times are collected for a document timestamp that does not cover the
signature. -/
def StrayTimestamp : Prop :=
  ∃ cms, signatureCMS env signature pdfDocument = .ok cms ∧
    Evaluated env signature signatureContext cms ∧
    ∃ doc ∈ documentTimestamps, doc.Timed ∧ doc.isSignatureCovered signature = false

variable {env policy now validate verifier signature pdfDocument documentTimestamps
  signatureContext}

/-- A success has come past all the checks that stand before the times. -/
theorem evaluated_of_pdfVerified {cms : CMSSignature Cert}
    (h : PdfVerified env signature signatureContext cms) :
    Evaluated env signature signatureContext cms := by
  obtain ⟨hlocated, hvalue, hpk, ⟨uri, attrs, huri, hattrs, hcons, _⟩, _⟩ := h
  exact ⟨hlocated, ⟨true, hvalue⟩, hpk, uri, attrs, huri, hattrs, hcons⟩

theorem evidenceCovers_of_not_stray
    (h : ¬ StrayTimestamp env signature pdfDocument documentTimestamps signatureContext) :
    RevocationEvidenceCovers env policy now validate verifier signature pdfDocument
      documentTimestamps signatureContext := by
  intro hsuccess henforce cms r statuses hcms hr hlist
  obtain ⟨hverified, statuses', ⟨r', _, hr', _, _, hlist'⟩, hacc⟩ :=
    (pdf_success_iff hcms).mp hsuccess
  rw [hr] at hr'
  cases hr'
  rw [hlist] at hlist'
  cases hlist'
  have hall : ∀ doc ∈ documentTimestamps, doc.Timed → doc.isSignatureCovered signature = true := by
    intro doc hmem htimed
    by_contra hnot
    exact h ⟨cms, hcms, evaluated_of_pdfVerified hverified, doc, hmem, htimed, by simpa using hnot⟩
  rw [pdfTimes_filter hall]
  rcases hacc.revocations with ⟨_, _, htol⟩ | ⟨henforced | hnone, _⟩
  · exact htol
  · rw [henforce] at henforced
    cases henforced
  · exact fun status hmem hrev => absurd hrev (hnone status hmem)

variable (env policy now validate verifier signature pdfDocument documentTimestamps
  signatureContext)

/-- **Times that cover the signature.** For every document, signature, list of
document timestamps and outcome of path validation: the attached document
timestamps cover the signature, and so does the evidence on which a revocation is
tolerated, exactly when no timestamp with a time in it fails to cover. -/
theorem doc_times_cover_iff :
    DocTimesCover env policy now validate verifier signature pdfDocument documentTimestamps
        signatureContext ∧
      RevocationEvidenceCovers env policy now validate verifier signature pdfDocument
        documentTimestamps signatureContext ↔
      ¬ StrayTimestamp env signature pdfDocument documentTimestamps signatureContext := by
  constructor
  · rintro ⟨hcover, _⟩ ⟨cms, hcms, hev, doc, hmem, htimed, hnot⟩
    obtain ⟨result, hok, htimes⟩ := verifySignature_of_evaluated hcms hev
    obtain ⟨tvr, htvr, hts, claims, hclaims, htype⟩ := pdfTimes_of_timed hmem htimed
    obtain ⟨doc', _, hts', hcovered⟩ := hcover result hok _ htimes tvr htvr claims hclaims htype
    rw [hts] at hts'
    cases hts'
    rw [hnot] at hcovered
    cases hcovered
  · intro hstray
    refine ⟨?_, evidenceCovers_of_not_stray hstray⟩
    intro result hok times htimes tvr htvr claims hclaims htype
    rcases verifySignature_times hok with hnone | ⟨cms, hcms, hev, hset⟩
    · rw [hnone] at htimes
      cases htimes
      cases htvr
    · rw [hset] at htimes
      cases htimes
      obtain ⟨doc, hmem, htimed, hts⟩ := mem_pdfTimes_doc htvr hclaims htype
      refine ⟨doc, hmem, hts, ?_⟩
      by_contra hnot
      exact hstray ⟨cms, hcms, hev, doc, hmem, htimed, by simpa using hnot⟩

end Coverage

/-! A document timestamp of the first revision, made long before the signature,
and a signer certificate that was revoked in between. -/

/-- The byte range ends well before the signature, whose signed bytes end at
500. -/
def earlyTimestamp : PDFDocTimeStamp Nat where
  sigValid := true
  certList := some [5]
  sigCert := some 5
  tstInfo := some ⟨"2a", some 1000, DigestAlgorithm.oidSHA256, [], none⟩
  policyValidationClaimsList := [⟨sigValidationPolicyPkixValidation, .PASSED, none⟩]
  documentTimestampSig := ⟨[0, 40, 60, 20], none⟩

def revokedLaterPath : PathEnv Nat :=
  { revokedPath with
    now := 2000000000
    checkValidity := fun certificate issuer => .ok (revokedStatus certificate issuer 1000000000) }

/-- The revoked signature is a success on the strength of the early timestamp,
and would not be one without it. -/
theorem early_timestamp_accepted :
    earlyTimestamp.isSignatureCovered signedRange = false ∧
      PdfSucceeds {} 2000000000 (pathCertificateValidator revokedLaterPath) noTimestamps pdfEnv
        signedRange [] [earlyTimestamp] signedContext ∧
      ¬ DocTimesCover pdfEnv {} 2000000000 (pathCertificateValidator revokedLaterPath)
        noTimestamps signedRange [] [earlyTimestamp] signedContext ∧
      ¬ RevocationEvidenceCovers pdfEnv {} 2000000000 (pathCertificateValidator revokedLaterPath)
        noTimestamps signedRange [] [earlyTimestamp] signedContext := by
  have hsuccess : PdfSucceeds {} 2000000000 (pathCertificateValidator revokedLaterPath)
      noTimestamps pdfEnv signedRange [] [earlyTimestamp] signedContext := ⟨_, rfl, rfl⟩
  have hnot : earlyTimestamp.isSignatureCovered signedRange = false := by decide
  refine ⟨hnot, hsuccess, ?_, ?_⟩
  · intro h
    obtain ⟨doc, hdoc, _, hcovered⟩ :=
      h _ rfl _ rfl _ List.mem_cons_self _ rfl rfl
    rw [List.mem_singleton] at hdoc
    subst hdoc
    rw [hnot] at hcovered
    cases hcovered
  · intro h
    have htol := h hsuccess rfl plainCMS _ _ rfl rfl rfl _ List.mem_cons_self rfl
    exact absurd htol (by decide)

end SigVal.Pdf
