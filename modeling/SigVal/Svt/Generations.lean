import SigVal.Lib.Runs
import SigVal.Svt.ReissuedTimes
import SigVal.Jose.TokenIssuance
import SigVal.Policy.FailClosed
import SigVal.Pdf.FailClosed

/-!
# Generations of tokens

A signature that was validated by its token gets the next token from the result of that
validation, and so on for as long as the signature is kept. Each token lives shorter than the
evidence it stands for, so what matters is what comes through many generations: the policy
results, the verdict, and the times at which the signature is known to have existed.
-/

namespace SigVal.Svt

open SigVal.Java SigVal.Cert SigVal.Commons SigVal.Runs AbstractSVTSigValClaimsIssuer

variable {Cert TS : Type}

/-! ## What a token is made from -/

/-- The policy results and the times of the claims are those of the validation result. -/
def MadeFrom (result : ExtendedSigValResult Cert TS) (claims : IssuedSignatureClaims) : Prop :=
  ∃ env defaultBasicValidation hashAlgoUri,
    getSignaturePolicyValidations defaultBasicValidation result = .ok claims.sigVal ∧
      timeVal env result hashAlgoUri = .ok claims.timeVal

/-- A time without the hash of its timestamp, which an issuer may compute anew. -/
def withoutHash (claims : TimeValidationClaims) : TimeValidationClaims :=
  { claims with hash := none }

/-- The verified times of a validation result. -/
def verifiedTimes (result : ExtendedSigValResult Cert TS) : List TimeValidationClaims :=
  ((result.timeValidationResults.getD []).filterMap (·.timeValidationClaims)).filter
    fun claims => isVerifiedTime (some claims)

section Making

variable {result : ExtendedSigValResult Cert TS} {claims : IssuedSignatureClaims}

@[simp] theorem isVerifiedTime_withoutHash (claims : TimeValidationClaims) :
    isVerifiedTime (some (withoutHash claims)) = isVerifiedTime (some claims) := rfl

/-- Policy results that are there are taken over. -/
theorem MadeFrom.policies (h : MadeFrom result claims) {policies : List PolicyValidationClaims}
    (hpolicies : result.validationPolicyResultList = some policies) (hsome : policies ≠ []) :
    claims.sigVal = policies := by
  obtain ⟨_, defaultBasicValidation, _, hsigVal, -⟩ := h
  unfold getSignaturePolicyValidations at hsigVal
  rw [hpolicies] at hsigVal
  obtain ⟨pvList, hpvList, hsigVal⟩ := bind_ok_iff.mp hsigVal
  cases hpvList
  have hne : policies.isEmpty = false := List.isEmpty_eq_false_iff.mpr hsome
  rw [hne, Bool.false_and] at hsigVal
  exact (Except.ok.inj hsigVal).symm

/-- But for the hash the claims of a time are extracted as they are. -/
theorem extractTimeValClaims_withoutHash {env : ClaimsIssuerEnv Cert TS} {hashAlgoUri : String}
    {timeValidationResult : TimeValidationResult Cert TS} {extracted : Option TimeValidationClaims}
    (h : extractTimeValClaims env timeValidationResult hashAlgoUri = .ok extracted) :
    extracted.map withoutHash = timeValidationResult.timeValidationClaims.map withoutHash := by
  cases extracted with
  | some claims =>
      rcases extractTimeValClaims_cases h with ⟨-, hclaims⟩ | ⟨_, _, old, -, -, hold, rfl⟩
      · rw [hclaims]
      · rw [hold]
        rfl
  | none =>
      -- a hash is put into claims that are there
      unfold extractTimeValClaims at h
      split at h
      · rw [Except.ok.inj h]
      · obtain ⟨hash, -, h⟩ := bind_ok_iff.mp h
        cases hash with
        | none => rw [Except.ok.inj h]
        | some hash =>
            obtain ⟨old, -, h⟩ := bind_ok_iff.mp h
            cases h

theorem filter_withoutHash {env : ClaimsIssuerEnv Cert TS} {hashAlgoUri : String}
    {results : List (TimeValidationResult Cert TS)} {extracted : List (Option TimeValidationClaims)}
    (hall : List.Forall₂ (fun t e => extractTimeValClaims env t hashAlgoUri = .ok e) results
      extracted) :
    ((extracted.filter isVerifiedTime).filterMap id).map withoutHash =
      ((results.filterMap (·.timeValidationClaims)).filter fun claims =>
        isVerifiedTime (some claims)).map withoutHash := by
  induction hall with
  | nil => rfl
  | @cons t e _ _ hfirst _ ih =>
      have hkept := extractTimeValClaims_withoutHash hfirst
      cases e with
      | none =>
          have hnone : t.timeValidationClaims = none := Option.map_eq_none_iff.mp hkept.symm
          rw [List.filterMap_cons_none hnone, List.filter_cons_of_neg Bool.false_ne_true]
          exact ih
      | some c =>
          obtain ⟨c', hc', hsame⟩ := Option.map_eq_some_iff.mp hkept.symm
          have hverified : isVerifiedTime (some c') = isVerifiedTime (some c) := by
            rw [← isVerifiedTime_withoutHash c', hsame, isVerifiedTime_withoutHash]
          rw [List.filterMap_cons_some hc', List.filter_cons, List.filter_cons, hverified]
          split
          · have hhead : id (some c) = some c := rfl
            rw [List.filterMap_cons_some hhead, List.map_cons, List.map_cons, hsame, ih]
          · exact ih

/-- The times of the claims are the verified times of the result, in their order. -/
theorem MadeFrom.times (h : MadeFrom result claims) :
    claims.timeVal.map withoutHash = (verifiedTimes result).map withoutHash := by
  obtain ⟨env, _, hashAlgoUri, -, htimes⟩ := h
  unfold timeVal at htimes
  obtain ⟨results, hresults, htimes⟩ := bind_ok_iff.mp htimes
  rw [deref_ok_iff] at hresults
  obtain ⟨extracted, hextracted, htimes⟩ := bind_ok_iff.mp htimes
  unfold verifiedTimes
  rw [← Except.ok.inj htimes, hresults]
  exact filter_withoutHash (forall₂_of_mapM_ok hextracted)

/-- Every time of the claims is verified. -/
theorem MadeFrom.verified (h : MadeFrom result claims) :
    ∀ c ∈ claims.timeVal, isVerifiedTime (some c) = true := by
  obtain ⟨env, _, hashAlgoUri, -, htimes⟩ := h
  unfold timeVal at htimes
  obtain ⟨results, -, htimes⟩ := bind_ok_iff.mp htimes
  obtain ⟨extracted, -, htimes⟩ := bind_ok_iff.mp htimes
  rw [← Except.ok.inj htimes]
  intro c hc
  obtain ⟨e, hmem, rfl⟩ := List.mem_filterMap.mp hc
  exact (List.mem_filter.mp hmem).2

theorem mapM_carried (env : ClaimsIssuerEnv Cert TS) (hashAlgoUri : String)
    (times : List TimeValidationClaims) :
    ((times.map fun c => (⟨some c, none, none⟩ : TimeValidationResult Cert TS)).mapM
      fun t => extractTimeValClaims env t hashAlgoUri) = .ok (times.map some) := by
  induction times with
  | nil => rfl
  | cons c rest ih =>
      rw [List.map_cons, List.mapM_cons, extractTimeValClaims_of_carried (.inl rfl), ih]
      rfl

/-- Claims without timestamps behind them are handed on with their hashes. -/
theorem MadeFrom.handed_on (h : MadeFrom result claims) {times : List TimeValidationClaims}
    (htimes : result.timeValidationResults = some (times.map fun c => ⟨some c, none, none⟩))
    (hverified : ∀ c ∈ times, isVerifiedTime (some c) = true) : claims.timeVal = times := by
  obtain ⟨env, _, hashAlgoUri, -, hval⟩ := h
  have hkept : (times.map some).filter isVerifiedTime = times.map some := by
    apply List.filter_eq_self.mpr
    intro c hc
    obtain ⟨c', hc', rfl⟩ := List.mem_map.mp hc
    exact hverified c' hc'
  unfold timeVal at hval
  rw [htimes] at hval
  obtain ⟨_, hresults, hval⟩ := bind_ok_iff.mp hval
  cases hresults
  rw [mapM_carried] at hval
  obtain ⟨_, hextracted, hval⟩ := bind_ok_iff.mp hval
  cases hextracted
  rw [← Except.ok.inj hval, hkept, List.filterMap_map]
  exact List.filterMap_some

end Making

/-! ## What a validation by a token shows -/

/-- The time a token vouches for, once it has one. -/
def tokenTime (jwt : SignedJWT) : Option TimeValidationClaims := do
  let claimsSet ← jwt.claimsSet
  let issueTime ← claimsSet.issueTime
  pure (svtTimeValidationClaims claimsSet issueTime)

/-- The result shows these policy results and times, and the status that goes with them. -/
structure Carries (policies : List PolicyValidationClaims) (times : List TimeValidationClaims)
    (result : ExtendedSigValResult Cert TS) : Prop where
  policyResults : result.validationPolicyResultList = some policies
  status : result.status = getStatusFromPolicyValidationClaims (some policies)
  timeResults : result.timeValidationResults =
    some (times.map fun claims => ⟨some claims, none, none⟩)

/-- Nothing was thrown when the result was compiled. -/
def Processed (result : ExtendedSigValResult Cert TS) : Prop :=
  result.statusMessage ≠ some "Unable to process SVA token or signature data"

/-- The result shows what the entry says, and the time of the token after its times. -/
def ShowsEntry (jwt : SignedJWT) (claims : IssuedSignatureClaims)
    (result : ExtendedSigValResult Cert TS) : Prop :=
  ∃ stamp, tokenTime jwt = some stamp ∧ Carries claims.sigVal (claims.timeVal ++ [stamp]) result

/-- A validation result about the entry of a token. -/
structure AboutEntry (jwt : SignedJWT) (claims : IssuedSignatureClaims)
    (svtValResult : SignatureSVTValidationResult) : Prop where
  signedJWT : svtValResult.signedJWT = jwt
  signatureClaims : svtValResult.signatureClaims = claims.toSignatureClaims
  success : svtValResult.svtValidationSuccess = true

section Showing

variable {jwt : SignedJWT} {claims : IssuedSignatureClaims}
  {svtValResult : SignatureSVTValidationResult}

theorem takeSvtValidation_shows (habout : AboutEntry jwt claims svtValResult)
    (env : SvtResultEnv Cert) (signerCerts : Outcome (Option Cert × List Cert))
    (result : ExtendedSigValResult Cert TS) :
    Mutating.wp (takeSvtValidation env svtValResult signerCerts)
      (fun _ after => ShowsEntry jwt claims after) (fun _ _ => True) result := by
  unfold takeSvtValidation
  simp only [Mutating.wp_bind, Mutating.wp_call, implies_true, and_true, Mutating.wp_modify,
    habout.success, if_true]
  rintro uri - cert - - - certs - claimsSet hclaimsSet issueTime hissueTime timeVal htimeVal
  rw [habout.signedJWT, SignedJWT.getJWTClaimsSet_ok_iff] at hclaimsSet
  rw [deref_ok_iff] at hissueTime
  rw [habout.signatureClaims] at htimeVal ⊢
  cases htimeVal
  refine ⟨svtTimeValidationClaims claimsSet issueTime, ?_, rfl, rfl, rfl⟩
  unfold tokenTime
  rw [hclaimsSet]
  simp only [Option.bind_eq_bind, Option.bind_some, hissueTime, Option.pure_def]

/-- No message is written, and nothing is thrown any more once the certificates are there, when
the token has its time. -/
theorem takeSvtValidation_progress (habout : AboutEntry jwt claims svtValResult)
    (env : SvtResultEnv Cert) (signerCerts : Outcome (Option Cert × List Cert))
    (result : ExtendedSigValResult Cert TS) :
    Mutating.wp (takeSvtValidation env svtValResult signerCerts)
      (fun _ after => after.statusMessage = result.statusMessage)
      (fun _ after => (∃ stamp, tokenTime jwt = some stamp) →
        after.certificateValidationResult = result.certificateValidationResult) result := by
  unfold takeSvtValidation
  simp only [Mutating.wp_bind, Mutating.wp_call, Mutating.wp_modify, habout.success, if_true,
    implies_true, and_true, true_and]
  rintro uri - cert - - - certs -
  have hnone : ∀ claimsSet ex, svtValResult.signedJWT.getJWTClaimsSet = .ok claimsSet →
      deref claimsSet.issueTime = .error ex → ¬ ∃ stamp, tokenTime jwt = some stamp := by
    rintro claimsSet ex hset hissue ⟨stamp, hstamp⟩
    unfold tokenTime at hstamp
    obtain ⟨claimsSet', hset', hstamp⟩ := Option.bind_eq_some_iff.mp hstamp
    obtain ⟨issueTime, hissueTime, -⟩ := Option.bind_eq_some_iff.mp hstamp
    rw [habout.signedJWT, SignedJWT.getJWTClaimsSet_ok_iff, hset'] at hset
    cases hset
    rw [hissueTime] at hissue
    cases hissue
  refine ⟨?_, ?_⟩
  · intro claimsSet hset
    refine ⟨?_, ?_⟩
    · intro issueTime _ ex htimeVal
      rw [habout.signatureClaims] at htimeVal
      cases htimeVal
    · exact fun ex hissue hstamp => absurd hstamp (hnone claimsSet ex hset hissue)
  · rintro ex hset ⟨stamp, hstamp⟩
    obtain ⟨claimsSet, hset', -⟩ := Option.bind_eq_some_iff.mp hstamp
    rw [habout.signedJWT, SignedJWT.getJWTClaimsSet_ok_iff.mpr hset'] at hset
    cases hset

theorem not_processed_failed (ex : Exn) (result : ExtendedSigValResult Cert TS) :
    ¬ Processed (svtProcessingFailed ex result) := fun h => h rfl

theorem joseResult_shows (habout : AboutEntry jwt claims svtValResult) (env : Jose.JoseEnv Cert)
    (signatureData : Jose.JOSESignatureData Cert)
    (h : Processed (Jose.JOSESignatureDataValidator.compileJOSESigValResultsFromSvtValidation env
      svtValResult signatureData)) :
    ShowsEntry jwt claims
      (Jose.JOSESignatureDataValidator.compileJOSESigValResultsFromSvtValidation env svtValResult
        signatureData) := by
  revert h
  unfold Jose.JOSESignatureDataValidator.compileJOSESigValResultsFromSvtValidation
  apply Mutating.tryCatch_of_wp (P := fun result => Processed result → ShowsEntry jwt claims result)
  apply Mutating.wp_mono (takeSvtValidation_shows habout _ _ _)
  · intro _ after hshows _
    exact hshows
  · intro ex after _ hprocessed
    exact absurd hprocessed (not_processed_failed ex after)

theorem xmlResult_shows (habout : AboutEntry jwt claims svtValResult) (env : Xml.XmlEnv Cert)
    (signature : Dom.Node) (signatureData : Xml.SignatureData Cert)
    (h : Processed (Xml.XMLSignatureElementValidator.compileXMLSigValResultsFromSvtValidation env
      svtValResult signature signatureData)) :
    ShowsEntry jwt claims
      (Xml.XMLSignatureElementValidator.compileXMLSigValResultsFromSvtValidation env svtValResult
        signature signatureData) := by
  revert h
  unfold Xml.XMLSignatureElementValidator.compileXMLSigValResultsFromSvtValidation
  apply Mutating.tryCatch_of_wp (P := fun result => Processed result → ShowsEntry jwt claims result)
  rw [Mutating.wp_bind, Mutating.wp_call]
  constructor
  · intro xades _
    rw [Mutating.wp_bind, Mutating.wp_modify]
    apply Mutating.wp_mono (takeSvtValidation_shows habout _ _ _)
    · intro _ after hshows _
      exact hshows
    · intro ex after _ hprocessed
      exact absurd hprocessed (not_processed_failed ex after)
  · intro ex _ hprocessed
    exact absurd hprocessed (not_processed_failed ex _)

theorem pdfResult_shows (habout : AboutEntry jwt claims svtValResult) (env : Pdf.PdfSvtEnv Cert)
    (signature : Pdf.PDSignature) (pdfDocBytes : Bytes)
    (signatureContext : Pdf.DefaultPDFSignatureContext)
    (h : Processed (Pdf.SVTenabledPDFDocumentSigVerifier.compliePDFSigValResultsFromSvtValidation
      env svtValResult signature pdfDocBytes signatureContext).toExtendedSigValResult) :
    ShowsEntry jwt claims
      (Pdf.SVTenabledPDFDocumentSigVerifier.compliePDFSigValResultsFromSvtValidation env
        svtValResult signature pdfDocBytes signatureContext).toExtendedSigValResult := by
  revert h
  unfold Pdf.SVTenabledPDFDocumentSigVerifier.compliePDFSigValResultsFromSvtValidation
  have hthrown : ∀ (ex : Exn) (result : ExtendedSigValResult Cert (Pdf.PdfTimeStamp Cert)),
      Processed (svtProcessingFailed ex result) →
        ShowsEntry jwt claims (svtProcessingFailed ex result) :=
    fun ex result hprocessed => absurd hprocessed (not_processed_failed ex result)
  refine Mutating.tryCatch_of_wp (P := fun result : Pdf.ExtendedPdfSigValResult Cert =>
    Processed result.toExtendedSigValResult →
      ShowsEntry jwt claims result.toExtendedSigValResult) ?_
  unfold Pdf.SVTenabledPDFDocumentSigVerifier.svtValidationBody
  simp only [Mutating.wp_bind, Mutating.wp_call, Mutating.wp_modify, Mutating.wp_zoom]
  refine ⟨?_, fun ex _ => hthrown ex _⟩
  intro sigBytes _
  refine ⟨?_, fun ex _ => hthrown ex _⟩
  intro signedData _
  refine ⟨?_, fun ex _ => hthrown ex _⟩
  intro subFilter _
  refine ⟨?_, fun ex _ => hthrown ex _⟩
  intro claimedSigningTime _
  refine ⟨?_, fun ex _ => hthrown ex _⟩
  intro coversDocument _
  apply Mutating.wp_mono (takeSvtValidation_shows habout _ _ _)
  · intro _ base hshows _
    exact hshows
  · intro ex base _
    exact hthrown ex base

end Showing

/-! ## One generation -/

/-- A token was made from the first result, and the second one shows its entry. -/
def Renewal (before : ExtendedSigValResult Cert TS) (jwt : SignedJWT)
    (after : ExtendedSigValResult Cert TS) : Prop :=
  ∃ claims, MadeFrom before claims ∧ ShowsEntry jwt claims after

/-- The first success of the SVT validator is about an entry of the token. -/
def Found (results : Outcome (Option (List SignatureSVTValidationResult))) (jwt : SignedJWT) :
    Prop :=
  ∃ svtValidationResultList svtValResult sig, results = .ok svtValidationResultList ∧
    firstValidSvt svtValidationResultList = some svtValResult ∧ svtValResult.signedJWT = jwt ∧
    SVTUtils.Entries jwt sig ∧ svtValResult.signatureClaims ∈ sig

/-- What is found for a token with one entry is about that entry. -/
theorem aboutEntry_of_found {results : Outcome (Option (List SignatureSVTValidationResult))}
    {jwt : SignedJWT} (hfound : Found results jwt) {hashAlgoUri : String}
    {claims : IssuedSignatureClaims} (hcarries : Jose.CarriesClaims jwt hashAlgoUri [claims]) :
    ∃ svtValidationResultList svtValResult, results = .ok svtValidationResultList ∧
      firstValidSvt svtValidationResultList = some svtValResult ∧
      AboutEntry jwt claims svtValResult := by
  obtain ⟨l, svtValResult, sig, hresults, hfirst, hjwt, hentries, hmem⟩ := hfound
  obtain ⟨claimsSet, hclaimsSet, hsvtClaims⟩ := hcarries
  have hown : SVTUtils.Entries jwt [claims.toSignatureClaims] :=
    ⟨claimsSet, _, hclaimsSet, hsvtClaims, rfl⟩
  rw [hentries.unique hown] at hmem
  refine ⟨l, svtValResult, hresults, hfirst, hjwt, List.mem_singleton.mp hmem, ?_⟩
  unfold firstValidSvt at hfirst
  obtain ⟨results', -, hfind⟩ := Option.bind_eq_some_iff.mp hfirst
  exact List.find?_some hfind

section Formats

variable [DecidableEq Cert]

/-- A JOSE signature got a token on the strength of one result, and was validated with the
other one by that token. -/
def JoseGeneration (before : Jose.JoseResult Cert) (jwt : SignedJWT)
    (after : Jose.JoseResult Cert) : Prop :=
  (∃ (S : Type) (env : Jose.JoseIssuerEnv Cert S) (issuer : Jose.JOSESVTSigValClaimsIssuer Cert S)
    (sigValInput : Jose.JOSESVTValInput Cert S),
    issuer.svtIssuer.Lawful ∧ issuer.signatureVerifier sigValInput.signatureData = .ok before ∧
    Jose.JOSESVTSigValClaimsIssuer.getSignedSvtJWT env issuer sigValInput = .ok (some jwt)) ∧
  ∃ (env : Jose.JoseEnv Cert) (v : Jose.JOSESignatureDataValidator Cert)
    (signatureData : Jose.JOSESignatureData Cert)
    (svtValidate : Jose.JOSESignatureData Cert →
      Outcome (Option (List SignatureSVTValidationResult))),
    v.svtValidator = some svtValidate ∧ Found (svtValidate signatureData) jwt ∧
    after = Jose.JOSESignatureDataValidator.validateSignature env v signatureData ∧ Processed after

/-- The same for an XML signature. -/
def XmlGeneration (before : Xml.XmlResult Cert) (jwt : SignedJWT) (after : Xml.XmlResult Cert) :
    Prop :=
  (∃ (env : Xml.XmlIssuerEnv Cert) (issuer : Xml.XMLSVTSigValClaimsIssuer Cert)
    (document : LinkedDom.Heap) (sigValInput : Xml.XMLSigValInput Cert),
    issuer.svtIssuer.Lawful ∧
    issuer.signatureVerifier document sigValInput.signatureElement sigValInput.signatureData =
      .ok before ∧
    Xml.XMLSVTSigValClaimsIssuer.getSignedSvtJWT env issuer document sigValInput =
      .ok (some jwt)) ∧
  ∃ (env : Xml.XmlEnv Cert) (v : Xml.XMLSignatureElementValidator Cert) (signature : Dom.Node)
    (signatureData : Xml.SignatureData Cert)
    (svtValidate : Dom.Node → Xml.SignatureData Cert →
      Outcome (Option (List SignatureSVTValidationResult))),
    v.xmlsvtValidator = some svtValidate ∧ Found (svtValidate signature signatureData) jwt ∧
    after = Xml.XMLSignatureElementValidator.validateSignature env v signature signatureData ∧
    Processed after

/-- The same for a signature of a PDF document, whose token has entries for other signatures
too. -/
def PdfGeneration (before : Pdf.ExtendedPdfSigValResult Cert) (jwt : SignedJWT)
    (after : Pdf.ExtendedPdfSigValResult Cert) : Prop :=
  ∃ claims,
    (∃ (env : Pdf.PdfIssuerEnv Cert) (now : Date) (issuer : Pdf.PDFSVTSigValClaimsIssuer Cert)
      (signedDocument : Bytes) (hashAlgoUri : String),
      PdfIssued env now issuer signedDocument hashAlgoUri before claims) ∧
    ∃ (env : Pdf.PdfSvtEnv Cert) (v : Pdf.SVTenabledPDFDocumentSigVerifier Cert)
      (pdfDocBytes : Bytes) (signatureContext : Pdf.DefaultPDFSignatureContext)
      (docTimestamps : List Pdf.PDSignature)
      (svtValidationResults : Option (List SignatureSVTValidationResult))
      (signature : Pdf.PDSignature) (svtValResult : SignatureSVTValidationResult),
      Pdf.SVTenabledPDFDocumentSigVerifier.matchingSvtValidation env pdfDocBytes
        svtValidationResults signature = some svtValResult ∧
      AboutEntry jwt claims svtValResult ∧
      after = Pdf.SVTenabledPDFDocumentSigVerifier.validateSignature env v pdfDocBytes
        signatureContext docTimestamps svtValidationResults signature ∧
      Processed after.toExtendedSigValResult

theorem JoseGeneration.renewal {before after : Jose.JoseResult Cert} {jwt : SignedJWT}
    (h : JoseGeneration before jwt after) : Renewal before jwt after := by
  obtain ⟨⟨S, issuerEnv, issuer, sigValInput, hlawful, hbefore, hissued⟩, env, v, signatureData,
    svtValidate, hvalidator, hfound, rfl, hprocessed⟩ := h
  obtain ⟨claimsList, hverify, hcarries⟩ := hlawful _ _ hissued
  obtain ⟨claims, _, rfl, hresult, -, -, hsigVal, -, htimes⟩ :=
    Jose.JOSESVTSigValClaimsIssuer.verify_some hverify
  rw [hbefore] at hresult
  cases hresult
  refine ⟨claims, ⟨_, _, _, hsigVal, htimes⟩, ?_⟩
  obtain ⟨l, svtValResult, hresults, hfirst, habout⟩ := aboutEntry_of_found hfound hcarries
  have hcompiled : Jose.JOSESignatureDataValidator.validateSignature env v signatureData =
      Jose.JOSESignatureDataValidator.compileJOSESigValResultsFromSvtValidation env svtValResult
        signatureData := by
    unfold Jose.JOSESignatureDataValidator.validateSignature
    simp only [hvalidator, hresults, hfirst]
  rw [hcompiled] at hprocessed ⊢
  exact joseResult_shows habout env signatureData hprocessed

theorem XmlGeneration.renewal {before after : Xml.XmlResult Cert} {jwt : SignedJWT}
    (h : XmlGeneration before jwt after) : Renewal before jwt after := by
  obtain ⟨⟨issuerEnv, issuer, document, sigValInput, hlawful, hbefore, hissued⟩, env, v, signature,
    signatureData, svtValidate, hvalidator, hfound, rfl, hprocessed⟩ := h
  obtain ⟨claimsList, hverify, hcarries⟩ := hlawful _ _ hissued
  obtain ⟨claims, _, rfl, hresult, -, -, hsigVal, -, htimes⟩ :=
    Xml.XMLSVTSigValClaimsIssuer.verify_some hverify
  rw [hbefore] at hresult
  cases hresult
  refine ⟨claims, ⟨_, _, _, hsigVal, htimes⟩, ?_⟩
  obtain ⟨l, svtValResult, hresults, hfirst, habout⟩ := aboutEntry_of_found hfound hcarries
  have hcompiled : Xml.XMLSignatureElementValidator.validateSignature env v signature
      signatureData =
      Xml.XMLSignatureElementValidator.compileXMLSigValResultsFromSvtValidation env svtValResult
        signature signatureData := by
    unfold Xml.XMLSignatureElementValidator.validateSignature
    simp only [hvalidator, hresults, hfirst]
  rw [hcompiled] at hprocessed ⊢
  exact xmlResult_shows habout env signature signatureData hprocessed

theorem PdfGeneration.renewal {before after : Pdf.ExtendedPdfSigValResult Cert} {jwt : SignedJWT}
    (h : PdfGeneration before jwt after) :
    Renewal before.toExtendedSigValResult jwt after.toExtendedSigValResult := by
  obtain ⟨claims, ⟨issuerEnv, now, issuer, signedDocument, hashAlgoUri, hissued⟩, env, v,
    pdfDocBytes, signatureContext, docTimestamps, svtValidationResults, signature, svtValResult,
    hmatching, habout, rfl, hprocessed⟩ := h
  have htimes := hissued.timeVal_ok
  obtain ⟨_, _, -, -, -, -, hclaims⟩ := hissued
  obtain ⟨-, hsigVal, -, -⟩ := Pdf.PDFSVTSigValClaimsIssuer.claimsData_ok hclaims
  refine ⟨claims, ⟨_, _, _, hsigVal, htimes⟩, ?_⟩
  have hcompiled : Pdf.SVTenabledPDFDocumentSigVerifier.validateSignature env v pdfDocBytes
      signatureContext docTimestamps svtValidationResults signature =
      Pdf.SVTenabledPDFDocumentSigVerifier.compliePDFSigValResultsFromSvtValidation env
        svtValResult signature pdfDocBytes signatureContext := by
    unfold Pdf.SVTenabledPDFDocumentSigVerifier.validateSignature
    rw [hmatching]
  rw [hcompiled] at hprocessed ⊢
  exact pdfResult_shows habout env signature pdfDocBytes signatureContext hprocessed

end Formats

/-! ## Many generations -/

/-- What a result shows after the tokens: the policy results of the first validation, its
verified times, and after them the times of the tokens. -/
def HandedOn (first : ExtendedSigValResult Cert TS) (policies : List PolicyValidationClaims)
    (tokens : List SignedJWT) (last : ExtendedSigValResult Cert TS) : Prop :=
  ∃ evidence stamps, evidence.map withoutHash = (verifiedTimes first).map withoutHash ∧
    List.Forall₂ (fun jwt stamp => tokenTime jwt = some stamp) tokens stamps ∧
    Carries policies (evidence ++ stamps) last

/-- The times a result shows are verified, so that the next token takes them over. -/
structure Renewable (policies : List PolicyValidationClaims) (times : List TimeValidationClaims)
    (result : ExtendedSigValResult Cert TS) : Prop where
  carries : Carries policies times result
  verified : ∀ c ∈ times, isVerifiedTime (some c) = true

section Run

variable {policies : List PolicyValidationClaims} {jwt : SignedJWT}
  {before after first last : ExtendedSigValResult Cert TS} {tokens : List SignedJWT}

theorem tokenTime_verified {stamp : TimeValidationClaims} (h : tokenTime jwt = some stamp) :
    isVerifiedTime (some stamp) = true := by
  unfold tokenTime at h
  obtain ⟨claimsSet, -, h⟩ := Option.bind_eq_some_iff.mp h
  obtain ⟨issueTime, -, h⟩ := Option.bind_eq_some_iff.mp h
  cases h
  rfl

theorem verified_append {times : List TimeValidationClaims} {stamp : TimeValidationClaims}
    (htimes : ∀ c ∈ times, isVerifiedTime (some c) = true) (hstamp : tokenTime jwt = some stamp) :
    ∀ c ∈ times ++ [stamp], isVerifiedTime (some c) = true := by
  intro c hc
  rcases List.mem_append.mp hc with hc | hc
  · exact htimes c hc
  · cases List.mem_singleton.mp hc
    exact tokenTime_verified hstamp

/-- The first token records what the validation has found. -/
theorem Renewal.recorded (h : Renewal before jwt after)
    (hpolicies : before.validationPolicyResultList = some policies) (hsome : policies ≠ []) :
    ∃ evidence stamp, evidence.map withoutHash = (verifiedTimes before).map withoutHash ∧
      tokenTime jwt = some stamp ∧ Renewable policies (evidence ++ [stamp]) after := by
  obtain ⟨claims, hmade, stamp, hstamp, hcarries⟩ := h
  refine ⟨claims.timeVal, stamp, hmade.times, hstamp, ?_, verified_append hmade.verified hstamp⟩
  rw [hmade.policies hpolicies hsome] at hcarries
  exact hcarries

/-- A later token adds its time. -/
theorem Renewal.added (hsome : policies ≠ []) {times : List TimeValidationClaims}
    (h : Renewal before jwt after) (hbefore : Renewable policies times before) :
    ∃ stamp, tokenTime jwt = some stamp ∧ Renewable policies (times ++ [stamp]) after := by
  obtain ⟨claims, hmade, stamp, hstamp, hcarries⟩ := h
  refine ⟨stamp, hstamp, ?_, verified_append hbefore.verified hstamp⟩
  rw [hmade.policies hbefore.carries.policyResults hsome,
    hmade.handed_on hbefore.carries.timeResults hbefore.verified] at hcarries
  exact hcarries

theorem handedOn_of_trace (hsome : policies ≠ []) (htokens : tokens ≠ [])
    (hrun : Trace Renewal first tokens last)
    (hpolicies : first.validationPolicyResultList = some policies) :
    HandedOn first policies tokens last := by
  cases hrun with
  | refl s => exact absurd rfl htokens
  | step hfirst hrest =>
      obtain ⟨evidence, stamp, hevidence, hstamp, hafter⟩ := Renewal.recorded hfirst hpolicies hsome
      obtain ⟨stamps, hstamps, hlast⟩ := Trace.accumulates
        (I := fun result times => Renewable policies times result)
        (fun _ _ _ _ hstep hbefore => Renewal.added hsome hstep hbefore) hrest hafter
      refine ⟨evidence, stamp :: stamps, hevidence, .cons hstamp hstamps, ?_⟩
      rw [List.append_cons]
      exact hlast.carries

end Run

/-- **Generations of tokens.** In each format, however many tokens a signature has had one
after the other, its last validation shows the policy results of the first one with the status
that goes with them, the times that were verified then, and the time of every token. -/
theorem generations_hand_on [DecidableEq Cert] {policies : List PolicyValidationClaims}
    {tokens : List SignedJWT} (hsome : policies ≠ []) (htokens : tokens ≠ []) :
    (∀ first last : Jose.JoseResult Cert, Trace JoseGeneration first tokens last →
      first.validationPolicyResultList = some policies → HandedOn first policies tokens last) ∧
    (∀ first last : Xml.XmlResult Cert, Trace XmlGeneration first tokens last →
      first.validationPolicyResultList = some policies → HandedOn first policies tokens last) ∧
    ∀ first last : Pdf.ExtendedPdfSigValResult Cert, Trace PdfGeneration first tokens last →
      first.validationPolicyResultList = some policies →
      HandedOn first.toExtendedSigValResult policies tokens last.toExtendedSigValResult := by
  refine ⟨?_, ?_, ?_⟩
  · intro first last hrun
    exact handedOn_of_trace hsome htokens (hrun.map id fun _ _ _ h => h.renewal)
  · intro first last hrun
    exact handedOn_of_trace hsome htokens (hrun.map id fun _ _ _ h => h.renewal)
  · intro first last hrun
    exact handedOn_of_trace hsome htokens
      (hrun.map Pdf.ExtendedPdfSigValResult.toExtendedSigValResult fun _ _ _ h => h.renewal)

/-! ## Two tokens

A JOSE signature of certificate 1 is validated completely and gets a token, and another one
from the validation by the first. -/

section Demo

open Policy (bookDocumentEnv bookSignature anchoredPath basicChecksJoseValidator
  basicSignaturePolicyValidator joseEnv noTimestamps verifiedJose)

def reissuingEnv : Jose.JoseIssuerEnv Nat Unit where
  toDocumentEnv := bookDocumentEnv
  claims :=
    { getMessageDigestInstance := fun _ => .ok id
      encodeBase64String := fun bytes => toString (bytes.map UInt8.toNat)
      getEncoded := fun _ => .ok [1]
      registry := DigestAlgorithmRegistry.initial
      getInstance := fun _ => .ok id
      getTimeStampSigBytes := fun _ => none }

def reissuingInput : Jose.JOSESVTValInput Nat Unit where
  signatureData :=
    Jose.JOSESignedDocumentValidator.signatureDataOf bookDocumentEnv ⟨"e30"⟩ false bookSignature
  svtExtendpolicy := .REPLACE

/-- An issuer whose validator has come to this result. -/
def issuerFor (sigResult : Jose.JoseResult Nat) : Jose.JOSESVTSigValClaimsIssuer Nat Unit where
  svtIssuer := Jose.JOSEDocumentSVTIssuer.demoIssuer.svtIssuer
  signatureVerifier := fun _ => .ok sigResult

/-- The complete validation, or the one by a token. -/
def validatedWith (svtValResult : Option SignatureSVTValidationResult) : Jose.JoseResult Nat :=
  Jose.JOSESignatureDataValidator.validateSignature joseEnv
    (basicChecksJoseValidator basicSignaturePolicyValidator (some anchoredPath) noTimestamps
      (svtValResult.map fun svtValResult _ => .ok (some [svtValResult])))
    verifiedJose

theorem generation_of_issued {before : Jose.JoseResult Nat} {jwt : SignedJWT}
    {sig : List SignatureClaims} {svtValResult : SignatureSVTValidationResult}
    (hissued : Jose.JOSESVTSigValClaimsIssuer.getSignedSvtJWT reissuingEnv (issuerFor before)
      reissuingInput = .ok (some jwt))
    (hjwt : svtValResult.signedJWT = jwt) (hentries : SVTUtils.Entries jwt sig)
    (hmem : svtValResult.signatureClaims ∈ sig)
    (hsuccess : svtValResult.svtValidationSuccess = true)
    (hprocessed : Processed (validatedWith (some svtValResult))) :
    JoseGeneration before jwt (validatedWith (some svtValResult)) := by
  constructor
  · exact ⟨Unit, reissuingEnv, issuerFor before, reissuingInput,
      Jose.JOSEDocumentSVTIssuer.demoIssuer_lawful, rfl, hissued⟩
  · refine ⟨joseEnv, _, verifiedJose, _, rfl, ⟨_, svtValResult, sig, rfl, ?_, hjwt, hentries, hmem⟩,
      rfl, hprocessed⟩
    exact List.find?_cons_of_pos hsuccess

/-- What the issuer makes of a result, and the validator of the token. -/
def tokenOver (sigResult : Jose.JoseResult Nat) : Option SignatureSVTValidationResult :=
  match Jose.JOSESVTSigValClaimsIssuer.getSignedSvtJWT reissuingEnv (issuerFor sigResult)
    reissuingInput with
  | .ok (some jwt) => do
      let claimsSet ← jwt.claimsSet
      let svtClaims ← claimsSet.sigValClaims
      let sig ← svtClaims.sig
      let signatureClaims ← sig.head?
      pure ⟨jwt, signatureClaims, [1], [[1]], true⟩
  | _ => none

theorem generation_of_tokenOver {before : Jose.JoseResult Nat}
    {svtValResult : SignatureSVTValidationResult} (h : tokenOver before = some svtValResult)
    (hprocessed : Processed (validatedWith (some svtValResult))) :
    JoseGeneration before svtValResult.signedJWT (validatedWith (some svtValResult)) := by
  unfold tokenOver at h
  split at h
  · rename_i jwt hissued
    obtain ⟨claimsSet, hclaimsSet, h⟩ := Option.bind_eq_some_iff.mp h
    obtain ⟨svtClaims, hsvtClaims, h⟩ := Option.bind_eq_some_iff.mp h
    obtain ⟨sig, hsig, h⟩ := Option.bind_eq_some_iff.mp h
    obtain ⟨signatureClaims, hhead, h⟩ := Option.bind_eq_some_iff.mp h
    cases h
    exact generation_of_issued hissued rfl ⟨claimsSet, svtClaims, hclaimsSet, hsvtClaims, hsig⟩
      (List.mem_of_mem_head? hhead) rfl hprocessed
  · cases h

/-- Two tokens, one after the other. -/
theorem exists_two_generations :
    ∃ tokens last, tokens.length = 2 ∧ Trace JoseGeneration (validatedWith none) tokens last := by
  obtain ⟨a, ha⟩ : ∃ a, tokenOver (validatedWith none) = some a := ⟨_, rfl⟩
  have hpa : Processed (validatedWith (some a)) := by
    cases ha
    exact fun h => by cases h
  obtain ⟨b, hb⟩ : ∃ b, tokenOver (validatedWith (some a)) = some b := by
    cases ha
    exact ⟨_, rfl⟩
  have hpb : Processed (validatedWith (some b)) := by
    cases ha
    cases hb
    exact fun h => by cases h
  exact ⟨[a.signedJWT, b.signedJWT], _, rfl,
    .step (generation_of_tokenOver ha hpa) (.step (generation_of_tokenOver hb hpb) (.refl _))⟩

theorem generations_hand_on_two :
    ∃ tokens last, tokens.length = 2 ∧ Trace JoseGeneration (validatedWith none) tokens last ∧
      HandedOn (validatedWith none)
        [⟨sigValidationPolicyBasicValidation, .PASSED, some "OK"⟩] tokens last := by
  obtain ⟨tokens, last, hlength, hrun⟩ := exists_two_generations
  refine ⟨tokens, last, hlength, hrun, ?_⟩
  have htokens : tokens ≠ [] := by
    rintro rfl
    cases hlength
  exact (generations_hand_on (by decide) htokens).1 _ _ hrun rfl

end Demo

end SigVal.Svt
