import SigVal.Commons.DocumentResult
import SigVal.Pdf.SvtBinding
import SigVal.Pdf.FailClosed
import SigVal.Pdf.TimeEvidence

/-!
# The verdict on a PDF document

`SVTenabledPDFDocumentSigVerifier.validate` sends each signature of a document
through complete validation or through a result of the SVT validator, and
`getConcludingSigVerifyResult` sums the results up. Two things are asked of the
whole: that a document altered after signing is noticed on both ways, and that
every signature of the document has a result.
-/

namespace SigVal.Pdf

open SigVal.Java SigVal.Cert SigVal.Commons SigVal.Policy PDFSVAUtils PDFSVTValidator
open SVTenabledPDFDocumentSigVerifier

variable {Cert : Type}

/-! ## Results and their dictionaries -/

/-- On both ways a result names the dictionary it is for. -/
theorem validateSignature_pdfSignature (env : PdfSvtEnv Cert)
    (v : SVTenabledPDFDocumentSigVerifier Cert) (pdfDocBytes : Bytes)
    (signatureContext : DefaultPDFSignatureContext) (docTimestamps : List PDSignature)
    (svtResults : Option (List SignatureSVTValidationResult)) (signature : PDSignature) :
    (validateSignature env v pdfDocBytes signatureContext docTimestamps svtResults
      signature).pdfSignature = some signature := by
  unfold validateSignature
  split
  · exact (complie_fromToken env _ signature pdfDocBytes signatureContext).pdfSignature
  · dsimp only
    split
    · rename_i directVerifyResult hdirect
      exact (verifySignature_origin hdirect).2
    · rfl

/-! ## Alterations after signing -/

section Alteration

/-- A document verifier whose direct validation has a policy of the abstract class. -/
def basicChecksVerifier (pdfsvtValidator : Option (PDFSVTValidator Cert))
    (checks : AbstractBasicPDFSignaturePolicyChecks Cert)
    (certificateValidator : CertificateValidator Cert)
    (timeStampPolicyVerifier : TimeStampPolicyVerifier Cert) :
    SVTenabledPDFDocumentSigVerifier Cert where
  pdfsvtValidator := pdfsvtValidator
  pdfSingleSignatureValidator :=
    basicChecksPdfValidator checks certificateValidator timeStampPolicyVerifier

variable (env : PdfSvtEnv Cert) (now : Date) (v : SVTenabledPDFDocumentSigVerifier Cert)
  (pdfDocBytes : Bytes)

/-- A signature that is reported as a success was not extended by an update that is
not safe. -/
def AlterationsNoticed : Prop :=
  ∀ results, validate env now v pdfDocBytes = .ok results → ∀ result ∈ results,
    result.status = .SUCCESS → ∃ signatureContext signature,
      env.getPdfSignatureContext pdfDocBytes = .ok signatureContext ∧
      result.pdfSignature = some signature ∧
      signatureContext.isSignatureExtendedByNonSafeUpdates signature = .ok false

/-- The signature is reported as a success on the strength of the selected SVT: an
entry of the token vouches for its signature value, and the dictionary can be read
and located. -/
structure ReportedFromSvt (signatureContext : DefaultPDFSignatureContext)
    (signature : PDSignature) : Prop where
  context : env.getPdfSignatureContext pdfDocBytes = .ok signatureContext
  listed : ∃ allSignatureList, env.getSignatureDictionaries pdfDocBytes = .ok allSignatureList ∧
    signature ∈ signatureList env pdfDocBytes allSignatureList
  vouched : ∃ typed svtTs sigValueBytes sigValueHash entry,
    SvtSelected env now v pdfDocBytes typed svtTs ∧
    getSignatureValueBytes env signature pdfDocBytes = .ok sigValueBytes ∧
    env.messageDigest svtTs.signedJWT.header.algorithm sigValueBytes = .ok sigValueHash ∧
    (svtEntries env svtTs typed pdfDocBytes).find? (vouchesFor sigValueHash) = some entry ∧
    Reportable env (env.validateSvtData entry.2) signature pdfDocBytes signatureContext

variable {env now v pdfDocBytes}

/-- The matched result of a signature, in terms of the token. -/
theorem matched_iff (hsvt : ComparesReferences env.validateSvtData)
    {svtResults : Option (List SignatureSVTValidationResult)}
    (hresults : svtValidationResults env now v pdfDocBytes = .ok svtResults)
    {signatureContext : DefaultPDFSignatureContext} {signature : PDSignature} :
    (∃ svtValResult, matchingSvtValidation env pdfDocBytes svtResults signature =
        some svtValResult ∧
      (compliePDFSigValResultsFromSvtValidation env svtValResult signature pdfDocBytes
        signatureContext).status = .SUCCESS) ↔
    ∃ typed svtTs sigValueBytes sigValueHash entry,
      SvtSelected env now v pdfDocBytes typed svtTs ∧
      getSignatureValueBytes env signature pdfDocBytes = .ok sigValueBytes ∧
      env.messageDigest svtTs.signedJWT.header.algorithm sigValueBytes = .ok sigValueHash ∧
      (svtEntries env svtTs typed pdfDocBytes).find? (vouchesFor sigValueHash) = some entry ∧
      Reportable env (env.validateSvtData entry.2) signature pdfDocBytes signatureContext := by
  constructor
  · rintro ⟨svtValResult, hmatching, hstatus⟩
    obtain ⟨typed, svtTs, hselected⟩ := selected_of_matching hresults hmatching
    rw [svtValidationResults_of_selected hselected] at hresults
    cases hresults
    obtain ⟨sigValueBytes, sigValueHash, entry, hvalue, hhash, hfind, rfl⟩ :=
      (matchingSvtValidation_some_iff hsvt (svtEntries_signedJWT svtTs typed pdfDocBytes)).mp
        hmatching
    have hmatch := (hsvt.success entry.2).mpr (referencesMatch_of_find hfind)
    exact ⟨typed, svtTs, sigValueBytes, sigValueHash, entry, hselected, hvalue, hhash, hfind,
      (complie_success_iff hmatch).mp hstatus⟩
  · rintro ⟨typed, svtTs, sigValueBytes, sigValueHash, entry, hselected, hvalue, hhash, hfind,
      hreportable⟩
    rw [svtValidationResults_of_selected hselected] at hresults
    cases hresults
    have hmatch := (hsvt.success entry.2).mpr (referencesMatch_of_find hfind)
    exact ⟨_, (matchingSvtValidation_some_iff hsvt
      (svtEntries_signedJWT svtTs typed pdfDocBytes)).mpr
        ⟨sigValueBytes, sigValueHash, entry, hvalue, hhash, hfind, rfl⟩,
      (complie_success_iff hmatch).mpr hreportable⟩

theorem success_of_reportedFromSvt (hsvt : ComparesReferences env.validateSvtData)
    {signatureContext : DefaultPDFSignatureContext} {signature : PDSignature}
    (h : ReportedFromSvt env now v pdfDocBytes signatureContext signature) :
    ∃ results, validate env now v pdfDocBytes = .ok results ∧ ∃ result ∈ results,
      result.status = .SUCCESS ∧ result.pdfSignature = some signature := by
  obtain ⟨hcontext, ⟨allSignatureList, hall, hmem⟩, hvouched⟩ := h
  obtain ⟨typed, svtTs, _, _, _, hselected, _⟩ := id hvouched
  have hresults := svtValidationResults_of_selected hselected
  obtain ⟨svtValResult, hmatching, hstatus⟩ := (matched_iff hsvt hresults).mpr hvouched
  refine ⟨_, validate_ok_iff.mpr ⟨signatureContext, allSignatureList, _, hcontext, hall, hresults,
    rfl⟩, _, List.mem_map_of_mem hmem, ?_, validateSignature_pdfSignature _ _ _ _ _ _ _⟩
  unfold validateSignature
  rw [hmatching]
  exact hstatus

/-- A success is reported from an SVT, or direct validation has asked for later
updates. -/
theorem success_cases (hsvt : ComparesReferences env.validateSvtData)
    {pdfsvtValidator : Option (PDFSVTValidator Cert)}
    {checks : AbstractBasicPDFSignaturePolicyChecks Cert} {validatePath : CertificateValidator Cert}
    {verifier : TimeStampPolicyVerifier Cert} {results : List (ExtendedPdfSigValResult Cert)}
    (h : validate env now (basicChecksVerifier pdfsvtValidator checks validatePath verifier)
      pdfDocBytes = .ok results)
    {result : ExtendedPdfSigValResult Cert} (hmem : result ∈ results)
    (hstatus : result.status = .SUCCESS) :
    ∃ signatureContext signature,
      env.getPdfSignatureContext pdfDocBytes = .ok signatureContext ∧
      result.pdfSignature = some signature ∧
      (ReportedFromSvt env now (basicChecksVerifier pdfsvtValidator checks validatePath verifier)
          pdfDocBytes signatureContext signature ∨
        signatureContext.isSignatureExtendedByNonSafeUpdates signature = .ok false) := by
  obtain ⟨signatureContext, allSignatureList, svtResults, hcontext, hall, hresults, rfl⟩ :=
    validate_ok_iff.mp h
  obtain ⟨signature, hsignature, rfl⟩ := List.mem_map.mp hmem
  refine ⟨signatureContext, signature, hcontext, validateSignature_pdfSignature _ _ _ _ _ _ _, ?_⟩
  unfold validateSignature at hstatus
  split at hstatus
  · rename_i svtValResult hmatching
    exact .inl ⟨hcontext, ⟨allSignatureList, hall, hsignature⟩,
      (matched_iff hsvt hresults).mp ⟨svtValResult, hmatching, hstatus⟩⟩
  · dsimp only at hstatus
    split at hstatus
    · rename_i directVerifyResult hdirect
      obtain ⟨cms, attrs, hestablished, _⟩ := established_of_success hdirect hstatus
      exact .inr hestablished.unaltered
    · cases hstatus

theorem not_alterationsNoticed {v : SVTenabledPDFDocumentSigVerifier Cert}
    {signatureContext : DefaultPDFSignatureContext} {signature : PDSignature}
    {results : List (ExtendedPdfSigValResult Cert)} {result : ExtendedPdfSigValResult Cert}
    (hcontext : env.getPdfSignatureContext pdfDocBytes = .ok signatureContext)
    (hok : validate env now v pdfDocBytes = .ok results) (hmem : result ∈ results)
    (hstatus : result.status = .SUCCESS) (hpdf : result.pdfSignature = some signature)
    (haltered : signatureContext.isSignatureExtendedByNonSafeUpdates signature = .ok true) :
    ¬ AlterationsNoticed env now v pdfDocBytes := by
  intro hnoticed
  obtain ⟨signatureContext', signature', hcontext', hpdf', hunaltered⟩ :=
    hnoticed results hok result hmem hstatus
  rw [hcontext] at hcontext'
  cases hcontext'
  rw [hpdf] at hpdf'
  cases hpdf'
  rw [haltered] at hunaltered
  cases hunaltered

/-- **Alterations after signing.** For every document, policy, certificate validator
and outcome of the libraries: a reported success excludes an update that is not safe
exactly when no signature that is reported from an SVT was extended by one. -/
theorem alterations_noticed_iff (hsvt : ComparesReferences env.validateSvtData)
    (pdfsvtValidator : Option (PDFSVTValidator Cert))
    (checks : AbstractBasicPDFSignaturePolicyChecks Cert)
    (validatePath : CertificateValidator Cert) (verifier : TimeStampPolicyVerifier Cert) :
    AlterationsNoticed env now
        (basicChecksVerifier pdfsvtValidator checks validatePath verifier) pdfDocBytes ↔
      ¬ ∃ signatureContext signature,
        ReportedFromSvt env now
          (basicChecksVerifier pdfsvtValidator checks validatePath verifier) pdfDocBytes
          signatureContext signature ∧
        signatureContext.isSignatureExtendedByNonSafeUpdates signature = .ok true := by
  constructor
  · rintro hnoticed ⟨signatureContext, signature, hreported, haltered⟩
    obtain ⟨results, hok, result, hmem, hstatus, hpdf⟩ := success_of_reportedFromSvt hsvt hreported
    exact not_alterationsNoticed hreported.context hok hmem hstatus hpdf haltered hnoticed
  · intro hnone results hok result hmem hstatus
    obtain ⟨signatureContext, signature, hcontext, hpdf, hreported | hunaltered⟩ :=
      success_cases hsvt hok hmem hstatus
    · refine ⟨signatureContext, signature, hcontext, hpdf, ?_⟩
      -- a reported dictionary has been located, so there is an answer
      obtain ⟨_, _, _, _, _, _, _, _, _, hreportable⟩ := hreported.vouched
      obtain ⟨covers, hcovers⟩ := hreportable.located
      obtain ⟨altered, haltered⟩ := extended_of_located hcovers
      cases altered with
      | false => exact haltered
      | true => exact absurd ⟨signatureContext, signature, hreported, haltered⟩ hnone
    · exact ⟨signatureContext, signature, hcontext, hpdf, hunaltered⟩

end Alteration

/-! The document with an SVT timestamp, and a last revision that gives the signed page another
height. -/

def rewrittenUpdate : Bytes :=
  ofLines
    ["3 0 obj", "<</Type/Page/Parent 2 0 R/MediaBox[0 0 72 36]>>", "endobj", "xref", "3 1",
     "0000005824 00000 n ", "trailer", "<</Size 8/Root 1 0 R/Prev 5689>>", "startxref", "5887",
     "%%EOF"]

def rewrittenPdf : Bytes := svtFile.bytes ++ rewrittenUpdate

def rewrittenRevisions : List PDFDocRevision :=
  revisionsOf [1909, 5824] ++ [{ rewrittenRevision with length := 5978 }]

def rewrittenEnv : PdfSvtEnv Nat := vouchedEnv [] rewrittenRevisions

def pkixVerifier : SVTenabledPDFDocumentSigVerifier Nat :=
  basicChecksVerifier trustingVerifier.pdfsvtValidator (pkixPdfSignaturePolicyValidator {} 2000)
    (fun _ _ => .ok (.pathValidation {})) noTimestamps

theorem pkixVerifier_validator : pkixVerifier.pdfsvtValidator = some trustingValidator :=
  trustingVerifier_validator

theorem rewrittenEnv_comparesReferences : ComparesReferences rewrittenEnv.validateSvtData :=
  fileEnv_comparesReferences _ _

theorem alterations_noticed_iff_rewritten :
    ComparesReferences rewrittenEnv.validateSvtData ∧
      (AlterationsNoticed rewrittenEnv 1795100500000 pkixVerifier rewrittenPdf ↔
        ¬ ∃ signatureContext signature,
          ReportedFromSvt rewrittenEnv 1795100500000 pkixVerifier rewrittenPdf
            signatureContext signature ∧
          signatureContext.isSignatureExtendedByNonSafeUpdates signature = .ok true) :=
  ⟨rewrittenEnv_comparesReferences,
    alterations_noticed_iff rewrittenEnv_comparesReferences _ _ _ _⟩

theorem rewritten_located :
    (DefaultPDFSignatureContext.mk (svtFile.bytes ++ rewrittenUpdate)
      rewrittenRevisions).isCoversWholeDocument signedDictionary = .ok false := rfl

theorem rewritten_altered :
    (DefaultPDFSignatureContext.mk (svtFile.bytes ++ rewrittenUpdate)
      rewrittenRevisions).isSignatureExtendedByNonSafeUpdates signedDictionary = .ok true := rfl

/-- The signature is a success although its page was rewritten. -/
theorem rewritten_page_accepted :
    ComparesReferences rewrittenEnv.validateSvtData ∧
      (∃ signatureContext result,
        rewrittenEnv.getPdfSignatureContext rewrittenPdf = .ok signatureContext ∧
        validate rewrittenEnv 1795100500000 pkixVerifier rewrittenPdf = .ok [result] ∧
        result.pdfSignature = some signedDictionary ∧ result.status = .SUCCESS ∧
        signatureContext.isSignatureExtendedByNonSafeUpdates signedDictionary = .ok true) ∧
      ¬ AlterationsNoticed rewrittenEnv 1795100500000 pkixVerifier rewrittenPdf := by
  unfold rewrittenEnv rewrittenPdf
  have hcontext := getPdfSignatureContext_vouched [] rewrittenRevisions rewrittenUpdate
  obtain ⟨docTimestamps, svtResults, hvalidate, -⟩ :=
    validate_vouched (List.mapM_nil ..) rfl pkixVerifier_validator rewritten_located
  rw [signatureList_nil, List.map_nil] at hvalidate
  exact ⟨fileEnv_comparesReferences _ _,
    ⟨_, _, hcontext, hvalidate, rfl, rfl, rewritten_altered⟩,
    not_alterationsNoticed hcontext hvalidate List.mem_cons_self rfl rfl rewritten_altered⟩

/-! ## The concluding result -/

/-- `getConcludingSigVerifyResult`. -/
def getConcludingSigVerifyResult (sigVerifyResultList : List (ExtendedPdfSigValResult Cert)) :
    SignedDocumentValidationResult (ExtendedPdfSigValResult Cert) :=
  concludingResult (·.toExtendedSigValResult) sigVerifyResultList

/-- `extendedResultValidation`. -/
def extendedResultValidation (env : PdfSvtEnv Cert) (now : Date)
    (v : SVTenabledPDFDocumentSigVerifier Cert) (pdfDocBytes : Bytes) :
    Outcome (SignedDocumentValidationResult (ExtendedPdfSigValResult Cert)) := do
  let validationResults ← validate env now v pdfDocBytes
  pure (getConcludingSigVerifyResult validationResults)

/-- Complete success is success of every result, and of at least one. -/
theorem completeSuccess_iff {results : List (ExtendedPdfSigValResult Cert)} :
    (getConcludingSigVerifyResult results).completeSuccess = true ↔
      results ≠ [] ∧ ∀ result ∈ results, result.status = .SUCCESS :=
  concludingResult_completeSuccess_iff _ results

/-! ## Every signature has a result -/

section Completeness

variable (env : PdfSvtEnv Cert)

/-- The dictionary of a document timestamp, by its sub filter. -/
def isDocTimestamp (signature : PDSignature) : Bool :=
  signature.subFilter.map env.toLowerCase == some timestampSubfilterLc

/-- The results that are for a signature and not for a document timestamp. -/
def signatureResults (results : List (ExtendedPdfSigValResult Cert)) :
    List (ExtendedPdfSigValResult Cert) :=
  results.filter fun result => !result.pdfSignature.any (isDocTimestamp env)

variable (now : Date) (v : SVTenabledPDFDocumentSigVerifier Cert) (pdfDocBytes : Bytes)

/-- Validation returns with one result for each signature dictionary, in their order,
and the document is a complete success only when all of these are successes. -/
def NoneDropped : Prop :=
  ∃ allSignatureList results,
    env.getSignatureDictionaries pdfDocBytes = .ok allSignatureList ∧
    validate env now v pdfDocBytes = .ok results ∧
    (signatureResults env results).map (·.pdfSignature) =
      (allSignatureList.filter fun signature => !isDocTimestamp env signature).map some ∧
    ((getConcludingSigVerifyResult results).completeSuccess = true →
      ((signatureResults env results).filter (·.isSuccess)).map (·.pdfSignature) =
        (allSignatureList.filter fun signature => !isDocTimestamp env signature).map some)

/-- The document can be loaded, and the SVT validator, when there is one, returns. -/
structure Processable : Prop where
  context : ∃ signatureContext, env.getPdfSignatureContext pdfDocBytes = .ok signatureContext
  dictionaries : ∃ allSignatureList,
    env.getSignatureDictionaries pdfDocBytes = .ok allSignatureList
  svt : ∀ pdfsvtValidator, v.pdfsvtValidator = some pdfsvtValidator →
    ∃ svtDataList, getSignatureSVTData env now pdfsvtValidator pdfDocBytes = .ok svtDataList

variable {env now v pdfDocBytes}

theorem typeOf_ok_iff {signature : PDSignature} {type : SignatureType} :
    typeOf env pdfDocBytes signature = .ok type ↔ ∃ contents,
      env.pdf.getContents signature pdfDocBytes = .ok contents ∧
      getSignatureType env signature contents = .ok type := by
  unfold typeOf
  exact bind_ok_iff

/-- Document timestamps are the dictionaries with the sub filter of one. -/
theorem isDocTimestamp_of_type {signature : PDSignature} {contents : Bytes} {type : SignatureType}
    (h : getSignatureType env signature contents = .ok type) :
    isDocTimestamp env signature = true ↔ type = .SVT_TYPE ∨ type = .DOC_TIMESTAMP_TYPE := by
  obtain ⟨subFilter, hsubFilter, h⟩ := bind_ok_iff.mp h
  rw [deref_ok_iff] at hsubFilter
  unfold isDocTimestamp
  rw [hsubFilter]
  dsimp only at h
  split at h
  · rename_i hsig
    cases h
    rcases hsig with hsig | hsig <;> simp [hsig, pdfSigSubfilterLc, cadesSigSubfilterLc,
      timestampSubfilterLc]
  · split at h
    · rename_i hts
      cases h
      simp only [Option.map_some, hts, beq_self_eq_true, true_iff]
      split <;> simp
    · rename_i hts
      cases h
      simp [hts]

/-- A dictionary that is no document timestamp is reported on unless its type is
unknown. -/
theorem listed_iff {signature : PDSignature} :
    isDocTimestamp env signature = false →
      ((typeOrIllegal env pdfDocBytes signature = .SIGNATURE_TYPE ∨
          typeOrIllegal env pdfDocBytes signature = .ILLEGAL_SIGNATURE_TYPE) ↔
        typeOf env pdfDocBytes signature ≠ .ok .UNKNOWN_TYPE) := by
  intro hsig
  unfold typeOrIllegal
  cases htype : typeOf env pdfDocBytes signature with
  | error ex => simp
  | ok type =>
      obtain ⟨contents, _, hget⟩ := typeOf_ok_iff.mp htype
      have hts := isDocTimestamp_of_type hget
      rw [hsig] at hts
      cases type with
      | SIGNATURE_TYPE => simp
      | ILLEGAL_SIGNATURE_TYPE => simp
      | UNKNOWN_TYPE => simp
      | SVT_TYPE => simp at hts
      | DOC_TIMESTAMP_TYPE => simp at hts

theorem not_isDocTimestamp_of_unknown {signature : PDSignature}
    (h : typeOf env pdfDocBytes signature = .ok .UNKNOWN_TYPE) :
    isDocTimestamp env signature = false := by
  obtain ⟨contents, _, hget⟩ := typeOf_ok_iff.mp h
  have hts := isDocTimestamp_of_type hget
  simpa using hts

theorem validate_ok_of_processable (h : Processable env now v pdfDocBytes) :
    ∃ allSignatureList results, env.getSignatureDictionaries pdfDocBytes = .ok allSignatureList ∧
      validate env now v pdfDocBytes = .ok results := by
  obtain ⟨⟨signatureContext, hcontext⟩, ⟨allSignatureList, hall⟩, hsvt⟩ := h
  have hresults : ∃ svtResults, svtValidationResults env now v pdfDocBytes = .ok svtResults := by
    unfold svtValidationResults
    cases hvalidator : v.pdfsvtValidator with
    | none => exact ⟨none, rfl⟩
    | some pdfsvtValidator =>
        obtain ⟨svtDataList, hdata⟩ := hsvt pdfsvtValidator hvalidator
        unfold PDFSVTValidator.validate
        dsimp only
        rw [hdata]
        exact ⟨_, rfl⟩
  obtain ⟨svtResults, hresults⟩ := hresults
  exact ⟨allSignatureList, _, hall, validate_ok_iff.mpr ⟨signatureContext, allSignatureList,
    svtResults, hcontext, hall, hresults, rfl⟩⟩

theorem processable_of_validate_ok {results : List (ExtendedPdfSigValResult Cert)}
    (h : validate env now v pdfDocBytes = .ok results) : Processable env now v pdfDocBytes := by
  obtain ⟨signatureContext, allSignatureList, svtResults, hcontext, hall, hresults, _⟩ :=
    validate_ok_iff.mp h
  refine ⟨⟨signatureContext, hcontext⟩, ⟨allSignatureList, hall⟩, ?_⟩
  intro pdfsvtValidator hvalidator
  unfold svtValidationResults at hresults
  rw [hvalidator] at hresults
  obtain ⟨validated, hvalidated, _⟩ := bind_ok_iff.mp hresults
  obtain ⟨svtDataList, hdata, _⟩ := bind_ok_iff.mp hvalidated
  exact ⟨svtDataList, hdata⟩

/-- The dictionaries of the signature results, whatever the results say. -/
theorem signatureResults_pdfSignature (f : PDSignature → ExtendedPdfSigValResult Cert)
    (hf : ∀ signature, (f signature).pdfSignature = some signature) (l : List PDSignature) :
    (signatureResults env (l.map f)).map (·.pdfSignature) =
      (l.filter fun signature => !isDocTimestamp env signature).map some := by
  unfold signatureResults
  rw [List.filter_map, List.map_map]
  have hp : (fun result : ExtendedPdfSigValResult Cert =>
      !result.pdfSignature.any (isDocTimestamp env)) ∘ f =
      fun signature => !isDocTimestamp env signature := by
    ext signature
    simp [hf]
  rw [hp]
  apply List.map_congr_left
  intro signature _
  exact hf signature

/-- The signatures that are reported on are all signatures exactly when none is of an
unknown type. -/
theorem signatureList_filter_iff (allSignatureList : List PDSignature) :
    (signatureList env pdfDocBytes allSignatureList).filter
        (fun signature => !isDocTimestamp env signature) =
      allSignatureList.filter (fun signature => !isDocTimestamp env signature) ↔
    ∀ signature ∈ allSignatureList, typeOf env pdfDocBytes signature ≠ .ok .UNKNOWN_TYPE := by
  unfold signatureList
  rw [List.filter_comm, List.filter_eq_self]
  constructor
  · intro h signature hmem hunknown
    have hsig := not_isDocTimestamp_of_unknown hunknown
    have hlisted := h signature (List.mem_filter.mpr ⟨hmem, by simp [hsig]⟩)
    exact (listed_iff hsig).mp (of_decide_eq_true hlisted) hunknown
  · intro h signature hmem
    obtain ⟨hmem, hsig⟩ := List.mem_filter.mp hmem
    exact decide_eq_true ((listed_iff (by simpa using hsig)).mpr (h signature hmem))

variable (env now v pdfDocBytes)

/-- **No signature is dropped.** For every document, verifier and outcome of the
libraries: validation returns one result for each signature dictionary, and complete
success means success of all of them, exactly when the document can be processed and
no dictionary is of an unknown type. -/
theorem none_dropped_iff :
    NoneDropped env now v pdfDocBytes ↔
      Processable env now v pdfDocBytes ∧
        ∀ allSignatureList, env.getSignatureDictionaries pdfDocBytes = .ok allSignatureList →
          ∀ signature ∈ allSignatureList,
            typeOf env pdfDocBytes signature ≠ .ok .UNKNOWN_TYPE := by
  constructor
  · rintro ⟨allSignatureList, results, hall, hok, heach, _⟩
    refine ⟨processable_of_validate_ok hok, ?_⟩
    intro allSignatureList' hall'
    rw [hall] at hall'
    cases hall'
    obtain ⟨signatureContext, allSignatureList', svtResults, _, hall', _, rfl⟩ :=
      validate_ok_iff.mp hok
    rw [hall] at hall'
    cases hall'
    rw [signatureResults_pdfSignature _ (validateSignature_pdfSignature env v pdfDocBytes _ _ _)]
      at heach
    exact (signatureList_filter_iff allSignatureList).mp
      (List.map_injective_iff.mpr (fun _ _ => Option.some.inj) heach)
  · rintro ⟨hprocessable, hknown⟩
    obtain ⟨allSignatureList, results, hall, hok⟩ := validate_ok_of_processable hprocessable
    have hlisted := (signatureList_filter_iff allSignatureList).mpr (hknown _ hall)
    have heach : (signatureResults env results).map (·.pdfSignature) =
        (allSignatureList.filter fun signature => !isDocTimestamp env signature).map some := by
      obtain ⟨signatureContext, allSignatureList', svtResults, _, hall', _, rfl⟩ :=
        validate_ok_iff.mp hok
      rw [hall] at hall'
      cases hall'
      rw [signatureResults_pdfSignature _ (validateSignature_pdfSignature env v pdfDocBytes _ _ _),
        hlisted]
    refine ⟨allSignatureList, results, hall, hok, heach, ?_⟩
    intro hcomplete
    -- all results are successes, so the filter keeps them all
    obtain ⟨_, hsuccess⟩ := completeSuccess_iff.mp hcomplete
    have hself : (signatureResults env results).filter (·.isSuccess) =
        signatureResults env results := by
      rw [List.filter_eq_self]
      intro result hmem
      have hstatus := hsuccess result (List.mem_filter.mp hmem).1
      simp [ExtendedSigValResult.isSuccess, hstatus]
    rw [hself, heach]

/-- A document with more signatures than results has lost one. -/
theorem not_noneDropped {allSignatureList : List PDSignature}
    {results : List (ExtendedPdfSigValResult Cert)}
    (hall : env.getSignatureDictionaries pdfDocBytes = .ok allSignatureList)
    (hok : validate env now v pdfDocBytes = .ok results)
    (hfewer : results.length <
      (allSignatureList.filter fun signature => !isDocTimestamp env signature).length) :
    ¬ NoneDropped env now v pdfDocBytes := by
  rintro ⟨allSignatureList', results', hall', hok', heach, -⟩
  rw [hall] at hall'
  cases hall'
  rw [hok] at hok'
  cases hok'
  have hlength := congrArg List.length heach
  rw [List.length_map, List.length_map] at hlength
  have hmost : (signatureResults env results).length ≤ results.length := List.length_filter_le _ _
  rw [hlength] at hmost
  exact absurd hfewer (Nat.not_lt.mpr hmost)

end Completeness

/-! The document with an SVT timestamp, and a last revision with a signature of the old RSA
sub filter. -/

@[irreducible] def rsaCertificate : Bytes :=
  ofNumbers 44
    [0x3082010B3081B6020101300D06092A864886F70D01010B05003011310F300D06035504030C065369676E6572,
     0x301E170D3236313131393035343833305A170D3336313131363035343833305A3011310F300D06035504030C,
     0x065369676E6572305C300D06092A864886F70D0101010500034B003048024100BB8A7FD1E4BBF44E366D147B,
     0x88C013EAD170CAED5FB3CA25BB8168B6655398743AF901126A65996D31F59B66375DA205114CB85568BB1044,
     0xDB93E14BC293A83D0203010001300D06092A864886F70D01010B050003410006835D4A20E73CAE2EC457783E,
     0x39F7B1DD2A8E98BF82689B486DA9324775F9BC1D7C70C5E289F52569FC5FC8EB33E883A65F91CC38D70F8031] ++
  ofNumbers 7
    [0xD985660F5363F2]

@[irreducible] def rsaSignature : Bytes :=
  ofNumbers 44
    [0x0440B3013D1D5EF4C25B692499ED75F1553BF846D68A088B3A7BEBD9AD48BDB41F5426B9CE89AF6381AA52A4] ++
  ofNumbers 22
    [0x76259C0902779A845F032FE7A35284954223100D59E0]

def rsaHead : Bytes :=
  ofLines (fieldHead ++ ["<</Type/Sig/Filter/Adobe.PPKLite/SubFilter/adbe.x509.rsa_sha1"]) ++
    ofText ["/Cert"] ++ hexString rsaCertificate ++
    ofLines ["", "/ByteRange[0 6671 6805 146]/Contents"]

theorem rsa_lengths : rsaHead.length = 847 ∧ rsaSignature.length = 66 ∧
    (ofLines (fieldTail "6815")).length = 146 := by
  decide +kernel

theorem rsaFile_head : (svtFile.bytes ++ rsaHead).length = 6671 := by
  rw [List.length_append, svtFile_length, rsa_lengths.1]

def rsaFile : SignedFile where
  head := svtFile.bytes ++ rsaHead
  cms := rsaSignature
  tail := ofLines (fieldTail "6815")
  size := by
    rw [rsaFile_head, rsa_lengths.2.1, rsa_lengths.2.2]
    decide

def rsaDictionary : PDSignature := ⟨[0, 6671, 6805, 146], some "adbe.x509.rsa_sha1"⟩

theorem rsaDictionary_byteRange : rsaDictionary.byteRange = rsaFile.byteRange := by
  rw [rsaFile.byteRange_of rsaFile_head rsa_lengths.2.1 rsa_lengths.2.2]
  rfl

def rsaUpdate : Bytes := rsaHead ++ hexString rsaSignature ++ ofLines (fieldTail "6815")

theorem rsa_contents :
    readContents rsaDictionary (svtFile.bytes ++ rsaUpdate) = .ok rsaSignature := by
  have hbytes : svtFile.bytes ++ rsaUpdate = rsaFile.bytes ++ [] := by
    show _ = svtFile.bytes ++ rsaHead ++ hexString rsaSignature ++ ofLines (fieldTail "6815") ++ []
    unfold rsaUpdate
    simp only [List.append_assoc, List.append_nil]
  rw [hbytes]
  exact SignedFile.readContents_bytes rsaDictionary_byteRange []

def rsaRevisions : List PDFDocRevision := revisionsOf [1909, 5824, 6951]

def rsaEnv : PdfSvtEnv Nat := vouchedEnv [rsaDictionary] rsaRevisions

theorem typeOf_rsa : typeOf (vouchedEnv [rsaDictionary] rsaRevisions) (svtFile.bytes ++ rsaUpdate)
    rsaDictionary = .ok .UNKNOWN_TYPE := by
  unfold typeOf
  rw [vouched_getContents, rsa_contents]
  rfl

theorem typed_rsa : ([rsaDictionary].mapM fun signature => do
    let type ← typeOf (vouchedEnv [rsaDictionary] rsaRevisions) (svtFile.bytes ++ rsaUpdate)
      signature
    pure (signature, type)) = .ok [(rsaDictionary, .UNKNOWN_TYPE)] :=
  mapM_ok_cons (typed_of typeOf_rsa) (List.mapM_nil ..)

theorem rsa_located :
    (DefaultPDFSignatureContext.mk (svtFile.bytes ++ rsaUpdate)
      rsaRevisions).isCoversWholeDocument signedDictionary = .ok false := rfl

theorem rsa_signatures :
    [signedDictionary, svtDictionary, rsaDictionary].filter (fun signature =>
      !isDocTimestamp (vouchedEnv [rsaDictionary] rsaRevisions) signature) =
      [signedDictionary, rsaDictionary] := rfl

/-- The document is a complete success with one result, and the second signature has
none. -/
theorem rsa_signature_dropped :
    isDocTimestamp rsaEnv rsaDictionary = false ∧
      (∃ result,
        validate rsaEnv 1795100500000 pkixVerifier (svtFile.bytes ++ rsaUpdate) = .ok [result] ∧
        result.pdfSignature = some signedDictionary ∧
        (getConcludingSigVerifyResult [result]).completeSuccess = true) ∧
      ¬ NoneDropped rsaEnv 1795100500000 pkixVerifier (svtFile.bytes ++ rsaUpdate) := by
  unfold rsaEnv
  obtain ⟨docTimestamps, svtResults, hvalidate, -⟩ :=
    validate_vouched typed_rsa rfl pkixVerifier_validator rsa_located
  rw [signatureList_cons_unknown typeOf_rsa, signatureList_nil, List.map_nil] at hvalidate
  refine ⟨rfl, ⟨_, hvalidate, rfl, ?_⟩, ?_⟩
  · exact completeSuccess_iff.mpr ⟨List.cons_ne_nil _ _, by simp [svtResult]⟩
  · refine not_noneDropped _ _ _ _ (getSignatureDictionaries_vouched _ _ _) hvalidate ?_
    rw [rsa_signatures]
    exact Nat.lt_succ_self 1

end SigVal.Pdf
