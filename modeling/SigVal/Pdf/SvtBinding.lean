import SigVal.Lib.Base64Url
import SigVal.Pdf.ByteRanges
import SigVal.Pdf.SignedFiles
import SigVal.Pdf.SvtVerifier

/-!
# Binding of SVT results to signatures

The claims of a token are about signed bytes: they hold the byte range and the
digest of one signature. A result made from them is about the signature that is
reported with it. The two are the same as long as no other dictionary of the
document has the same signature value.
-/

namespace SigVal.Pdf

open SigVal.Java SigVal.Cert SigVal.Commons PDFSVAUtils PDFSVTValidator
open SVTenabledPDFDocumentSigVerifier

variable {Cert : Type}

/-! ## The SVT library -/

/-- The references and hashes collected for a signature are those of its claims. -/
def ReferencesMatch (data : SignatureSVTData) : Prop :=
  data.signatureReference.sigHash = data.signatureClaims.sigRef.sigHash ∧
    data.signatureReference.sbHash = data.signatureClaims.sigRef.sbHash ∧
    (∀ d ∈ data.signedDataRefList, d ∈ data.signatureClaims.sigDataRef) ∧
    ∀ d ∈ data.signatureClaims.sigDataRef, d ∈ data.signedDataRefList

instance (data : SignatureSVTData) : Decidable (ReferencesMatch data) :=
  inferInstanceAs (Decidable (_ ∧ _ ∧ _ ∧ _))

/-- What is relied on of the SVT library: a result is about its entry, and is a
success exactly when the references match. -/
structure ComparesReferences
    (validateSvtData : SignatureSVTData → SignatureSVTValidationResult) : Prop where
  signedJWT : ∀ data, (validateSvtData data).signedJWT = data.signedJWT
  signatureClaims : ∀ data, (validateSvtData data).signatureClaims = data.signatureClaims
  success : ∀ data, (validateSvtData data).svtValidationSuccess = true ↔ ReferencesMatch data

/-! ## Entries and the signatures they come from -/

/-- The covered signatures with the data collected for them. -/
def svtEntries (env : PdfSvtEnv Cert) (svtTs : PDFSVTDocTimeStamp Cert)
    (typed : List (PDSignature × SignatureType)) (pdfDocBytes : Bytes) :
    List (PDSignature × SignatureSVTData) :=
  (ofType .SIGNATURE_TYPE typed).filterMap fun signature =>
    (svtDataOf env svtTs pdfDocBytes signature).map fun data => (signature, data)

/-- An entry whose references match, for claims with the given hash. -/
def vouchesFor (sigValueHash : String) (entry : PDSignature × SignatureSVTData) : Bool :=
  sigValueHash == entry.2.signatureClaims.sigRef.sigHash && decide (ReferencesMatch entry.2)

/-- What is collected is about the token of the timestamp and the signed bytes of the
signature. -/
theorem collectSVTData_some {env : PdfSvtEnv Cert} {signature : PDSignature}
    {svtTs : PDFSVTDocTimeStamp Cert} {pdfDocBytes : Bytes} {data : SignatureSVTData}
    (h : collectSVTData env signature svtTs pdfDocBytes = .ok (some data)) :
    data.signedJWT = svtTs.signedJWT ∧ ∃ digestAlgorithm own,
      DigestAlgorithmRegistry.get env.svt.registry svtTs.svtClaims.hashAlgo = .ok digestAlgorithm ∧
      signedDataRef env digestAlgorithm signature pdfDocBytes = .ok own ∧
      data.signedDataRefList = [own] := by
  unfold collectSVTData at h
  obtain ⟨sigContentInfo, _, h⟩ := bind_ok_iff.mp h
  obtain ⟨signedData, _, h⟩ := bind_ok_iff.mp h
  obtain ⟨signerInfo, _, h⟩ := bind_ok_iff.mp h
  obtain ⟨digestAlgorithm, halgo, h⟩ := bind_ok_iff.mp h
  obtain ⟨signatureHash, _, h⟩ := bind_ok_iff.mp h
  obtain ⟨sigClaims, _, h⟩ := bind_ok_iff.mp h
  split at h
  · cases h
  · obtain ⟨sigAttrs, _, h⟩ := bind_ok_iff.mp h
    obtain ⟨signedAttrHash, _, h⟩ := bind_ok_iff.mp h
    obtain ⟨own, hown, h⟩ := bind_ok_iff.mp h
    obtain ⟨certs, _, h⟩ := bind_ok_iff.mp h
    cases h
    exact ⟨rfl, digestAlgorithm, own, halgo, hown, rfl⟩

theorem mem_svtEntries {env : PdfSvtEnv Cert} {svtTs : PDFSVTDocTimeStamp Cert}
    {typed : List (PDSignature × SignatureType)} {pdfDocBytes : Bytes}
    {entry : PDSignature × SignatureSVTData}
    (h : entry ∈ svtEntries env svtTs typed pdfDocBytes) :
    svtTs.isSignatureCovered entry.1 = true ∧ entry.2.signedJWT = svtTs.signedJWT ∧
      ∃ digestAlgorithm own,
        DigestAlgorithmRegistry.get env.svt.registry svtTs.svtClaims.hashAlgo =
          .ok digestAlgorithm ∧
        signedDataRef env digestAlgorithm entry.1 pdfDocBytes = .ok own ∧
        entry.2.signedDataRefList = [own] := by
  obtain ⟨signature, _, hentry⟩ := List.mem_filterMap.mp h
  obtain ⟨data, hdata, rfl⟩ := Option.map_eq_some_iff.mp hentry
  clear hentry
  unfold svtDataOf at hdata
  split at hdata
  · cases hdata
  · rename_i hcovered
    split at hdata
    · rename_i collected hcollect
      subst hdata
      exact ⟨by simpa using hcovered, collectSVTData_some hcollect⟩
    · cases hdata

theorem svtEntries_signedJWT {env : PdfSvtEnv Cert} (svtTs : PDFSVTDocTimeStamp Cert)
    (typed : List (PDSignature × SignatureType)) (pdfDocBytes : Bytes) :
    ∀ entry ∈ svtEntries env svtTs typed pdfDocBytes, entry.2.signedJWT = svtTs.signedJWT := by
  intro entry hmem
  exact (mem_svtEntries hmem).2.1

theorem svtEntries_cons {env : PdfSvtEnv Cert} {svtTs : PDFSVTDocTimeStamp Cert}
    {typed : List (PDSignature × SignatureType)} {pdfDocBytes : Bytes} {signature : PDSignature}
    {signatures : List PDSignature} {data : SignatureSVTData}
    (htyped : ofType .SIGNATURE_TYPE typed = signature :: signatures)
    (hdata : svtDataOf env svtTs pdfDocBytes signature = some data) :
    ∃ entries, svtEntries env svtTs typed pdfDocBytes = (signature, data) :: entries := by
  unfold svtEntries
  rw [htyped, List.filterMap_cons, hdata]
  exact ⟨_, rfl⟩

theorem referencesMatch_of_find {sigValueHash : String}
    {entries : List (PDSignature × SignatureSVTData)} {entry : PDSignature × SignatureSVTData}
    (h : entries.find? (vouchesFor sigValueHash) = some entry) : ReferencesMatch entry.2 := by
  have hvouches := List.find?_some h
  simp only [vouchesFor, Bool.and_eq_true, decide_eq_true_eq] at hvouches
  exact hvouches.2

/-- The entries are what the SVT library is given. -/
theorem getSignatureSVTData_eq {env : PdfSvtEnv Cert} {now : Date} {v : PDFSVTValidator Cert}
    {pdfDocBytes : Bytes} {typed : List (PDSignature × SignatureType)}
    (htyped : typedSignatures env pdfDocBytes = .ok typed) {svtTs : PDFSVTDocTimeStamp Cert}
    (hts : svtTimeStamp env now v typed pdfDocBytes = .ok (some svtTs)) :
    getSignatureSVTData env now v pdfDocBytes =
      .ok ((svtEntries env svtTs typed pdfDocBytes).map (·.2)) := by
  unfold getSignatureSVTData svtEntries
  rw [htyped]
  simp only [bind, Except.bind, hts, pure, Except.pure, List.map_filterMap, Option.map_map]
  congr 2
  funext signature
  exact (Option.map_id').symm

/-! ## The lookup -/

section Lookup

variable {env : PdfSvtEnv Cert} (hsvt : ComparesReferences env.validateSvtData)
  {jwt : SignedJWT} {sigValueBytes : Bytes}

include hsvt

/-- With a digest of the signature value, the lookup finds the first entry that
vouches for it. -/
theorem getMatchingSvtValidation_eq {sigValueHash : String}
    (hhash : env.messageDigest jwt.header.algorithm sigValueBytes = .ok sigValueHash)
    {entries : List (PDSignature × SignatureSVTData)}
    (hjwt : ∀ entry ∈ entries, entry.2.signedJWT = jwt) :
    getMatchingSvtValidation env sigValueBytes
        (entries.map fun entry => env.validateSvtData entry.2) =
      .ok ((entries.find? (vouchesFor sigValueHash)).map fun entry =>
        env.validateSvtData entry.2) := by
  induction entries with
  | nil => rfl
  | cons entry entries ih =>
      have ih := ih fun e he => hjwt e (List.mem_cons_of_mem _ he)
      have hsuccess : (env.validateSvtData entry.2).svtValidationSuccess =
          decide (ReferencesMatch entry.2) := by
        rw [Bool.eq_iff_iff, decide_eq_true_iff]
        exact hsvt.success entry.2
      rw [List.map_cons]
      unfold getMatchingSvtValidation
      rw [hsvt.signedJWT, hjwt entry List.mem_cons_self, hhash]
      dsimp only
      rw [hsvt.signatureClaims, hsuccess]
      by_cases hvouches : vouchesFor sigValueHash entry = true
      · rw [List.find?_cons_of_pos hvouches]
        exact if_pos hvouches
      · rw [List.find?_cons_of_neg hvouches, ← ih]
        exact if_neg hvouches

/-- Without one it finds nothing: it ends empty or throws. -/
theorem getMatchingSvtValidation_error {ex : Exn}
    (hhash : env.messageDigest jwt.header.algorithm sigValueBytes = .error ex)
    {entries : List (PDSignature × SignatureSVTData)}
    (hjwt : ∀ entry ∈ entries, entry.2.signedJWT = jwt)
    (svtValResult : SignatureSVTValidationResult) :
    getMatchingSvtValidation env sigValueBytes
      (entries.map fun entry => env.validateSvtData entry.2) ≠ .ok (some svtValResult) := by
  induction entries with
  | nil =>
      intro h
      cases h
  | cons entry entries ih =>
      have ih := ih fun e he => hjwt e (List.mem_cons_of_mem _ he)
      rw [List.map_cons]
      unfold getMatchingSvtValidation
      rw [hsvt.signedJWT, hjwt entry List.mem_cons_self, hhash]
      dsimp only
      split
      · exact ih
      · intro h
        cases h

end Lookup

/-! ## The result of a signature -/

section Report

variable {env : PdfSvtEnv Cert} {svtValResult : SignatureSVTValidationResult}
  {signature : PDSignature} {pdfDocBytes : Bytes} {signatureContext : DefaultPDFSignatureContext}

/-- The dictionary can be read, its revision is found, and the result is built from
claims with a policy that passed. -/
structure Reportable (env : PdfSvtEnv Cert) (svtValResult : SignatureSVTValidationResult)
    (signature : PDSignature) (pdfDocBytes : Bytes)
    (signatureContext : DefaultPDFSignatureContext) : Prop where
  read : ∃ sigBytes signedData, env.pdf.getContents signature pdfDocBytes = .ok sigBytes ∧
    env.getSignedDataFromSignature sigBytes = .ok signedData ∧
    ∃ time, getClaimedSigningTime (env.pdf.getSignDate signature) signedData = .ok time
  subFilter : ∃ subFilter, signature.subFilter = some subFilter
  located : ∃ covers, signatureContext.isCoversWholeDocument signature = .ok covers
  accepted : SvtAccepted env.result svtValResult (cmsSigCerts env signature pdfDocBytes)

theorem complie_success_iff (hsuccess : svtValResult.svtValidationSuccess = true) :
    (compliePDFSigValResultsFromSvtValidation env svtValResult signature pdfDocBytes
        signatureContext).status = .SUCCESS ↔
      Reportable env svtValResult signature pdfDocBytes signatureContext := by
  unfold compliePDFSigValResultsFromSvtValidation
  refine Iff.trans (Mutating.tryCatch_iff_wp
    (P := fun result : ExtendedPdfSigValResult Cert => result.status = .SUCCESS) ?_) ?_
  · intro ex result h
    cases h
  unfold svtValidationBody
  simp only [Mutating.wp_bind, Mutating.wp_modify, Mutating.wp_call_total, Mutating.wp_zoom,
    deref_ok_iff, takeSvtValidation_success_iff hsuccess]
  constructor
  · rintro ⟨sigBytes, hbytes, signedData, hdata, subFilter, hfilter, time, htime, covers, hcovers,
      haccepted⟩
    exact ⟨⟨sigBytes, signedData, hbytes, hdata, time, htime⟩, ⟨subFilter, hfilter⟩,
      ⟨covers, hcovers⟩, haccepted⟩
  · rintro ⟨⟨sigBytes, signedData, hbytes, hdata, time, htime⟩, ⟨subFilter, hfilter⟩,
      ⟨covers, hcovers⟩, haccepted⟩
    exact ⟨sigBytes, hbytes, signedData, hdata, subFilter, hfilter, time, htime, covers, hcovers,
      haccepted⟩

/-- The result names the dictionary, and as a success it has the token and the
references of its claims. -/
structure FromToken (svtValResult : SignatureSVTValidationResult) (signature : PDSignature)
    (result : ExtendedPdfSigValResult Cert) : Prop where
  pdfSignature : result.pdfSignature = some signature
  token : result.status = .SUCCESS → result.svtJWT = some svtValResult.signedJWT ∧
    ∃ claims, result.signatureClaims = some claims ∧
      claims.sigDataRef = svtValResult.signatureClaims.sigDataRef

theorem complie_fromToken (env : PdfSvtEnv Cert) (svtValResult : SignatureSVTValidationResult)
    (signature : PDSignature) (pdfDocBytes : Bytes)
    (signatureContext : DefaultPDFSignatureContext) :
    FromToken svtValResult signature
      (compliePDFSigValResultsFromSvtValidation env svtValResult signature pdfDocBytes
        signatureContext) := by
  -- after the `catch` the status is an error, so only the dictionary matters there
  have hfailed : ∀ result : ExtendedPdfSigValResult Cert, result.pdfSignature = some signature →
      result.status = .ERROR_INVALID_SIGNATURE → FromToken svtValResult signature result := by
    intro result hpdf hstatus
    refine ⟨hpdf, fun h => ?_⟩
    rw [hstatus] at h
    cases h
  unfold compliePDFSigValResultsFromSvtValidation
  apply Mutating.tryCatch_of_wp
  unfold svtValidationBody
  simp only [Mutating.wp_bind, Mutating.wp_modify, Mutating.wp_call, Mutating.wp_zoom]
  refine ⟨?_, fun ex _ => hfailed _ rfl rfl⟩
  intro sigBytes _
  refine ⟨?_, fun ex _ => hfailed _ rfl rfl⟩
  intro signedData _
  refine ⟨?_, fun ex _ => hfailed _ rfl rfl⟩
  intro subFilter _
  refine ⟨?_, fun ex _ => hfailed _ rfl rfl⟩
  intro time _
  refine ⟨?_, fun ex _ => hfailed _ rfl rfl⟩
  intro covers _
  apply Mutating.wp_mono (takeSvtValidation_claims env.result svtValResult _ _)
  · intro _ base hbase
    exact ⟨rfl, fun _ => hbase⟩
  · intro ex base _
    exact hfailed _ rfl rfl

end Report

/-! ## Validation without SVT -/

section Direct

open PDFSingleSignatureValidator

variable {env : PdfEnv Cert} {v : PDFSingleSignatureValidator Cert} {signature : PDSignature}
  {documentTimestamps : List (PDFDocTimeStamp Cert)}
  {signatureContext : DefaultPDFSignatureContext} {cms : CMSSignature Cert}
  {sigResult result : ExtendedPdfSigValResult Cert}

/-- The two results name the same dictionary and hold the same token. -/
def SameOrigin (result sigResult : ExtendedPdfSigValResult Cert) : Prop :=
  result.svtJWT = sigResult.svtJWT ∧ result.pdfSignature = sigResult.pdfSignature

theorem PDFSingleSignatureValidator.KeepsSource.sameOrigin (h : KeepsSource sigResult result) :
    SameOrigin result sigResult := ⟨h.svtJWT, h.pdfSignature⟩

/-- Validation without SVT names the dictionary, and leaves no token in the result. -/
theorem verifySignature_origin {pdfDocument : Bytes}
    (h : verifySignature env v signature pdfDocument documentTimestamps signatureContext =
      .ok result) : result.svtJWT = none ∧ result.pdfSignature = some signature := by
  obtain ⟨_, _, _, _, -, -, -, -, hsource⟩ := verifySignature_source h
  exact hsource.sameOrigin

end Direct

/-! ## Binding -/

section Binding

variable (env : PdfSvtEnv Cert) (now : Date) (v : SVTenabledPDFDocumentSigVerifier Cert)
  (pdfDocBytes : Bytes)

/-- The SVT timestamp the signatures of the document are validated on. -/
def SvtSelected (typed : List (PDSignature × SignatureType)) (svtTs : PDFSVTDocTimeStamp Cert) :
    Prop :=
  ∃ pdfsvtValidator, v.pdfsvtValidator = some pdfsvtValidator ∧
    typedSignatures env pdfDocBytes = .ok typed ∧
    svtTimeStamp env now pdfsvtValidator typed pdfDocBytes = .ok (some svtTs)

/-- The signed data reference of the claims is the signature's own: its byte range,
and the digest of its signed bytes under the algorithm of the token. -/
def OwnReference (svtTs : PDFSVTDocTimeStamp Cert) (signature : PDSignature)
    (sigDataRef : List SignedDataClaims) : Prop :=
  ∃ digestAlgorithm own,
    DigestAlgorithmRegistry.get env.svt.registry svtTs.svtClaims.hashAlgo = .ok digestAlgorithm ∧
    signedDataRef env digestAlgorithm signature pdfDocBytes = .ok own ∧
    ∀ d, d ∈ sigDataRef ↔ d = own

/-- The bytes that the SVT timestamp signs cover the signature. -/
def CoveredBy (svtTs : PDFSVTDocTimeStamp Cert) (signature : PDSignature) : Prop :=
  CoversBytes svtTs.documentTimestampSig.byteRange signature.byteRange

/-- The result is about the signed bytes its claims are about, and its signature is
covered by the SVT timestamp. -/
def ResultBound (result : ExtendedPdfSigValResult Cert) : Prop :=
  ∃ signature claims typed svtTs,
    result.pdfSignature = some signature ∧ result.signatureClaims = some claims ∧
    SvtSelected env now v pdfDocBytes typed svtTs ∧
    OwnReference env pdfDocBytes svtTs signature claims.sigDataRef ∧
    CoveredBy svtTs signature

/-- Every success that rests on an SVT is bound to its signature. -/
def SvtResultsBound : Prop :=
  ∀ results, validate env now v pdfDocBytes = .ok results → ∀ result ∈ results,
    result.status = .SUCCESS → ∀ jwt, result.svtJWT = some jwt →
      ResultBound env now v pdfDocBytes result

/-- The two dictionaries have the same byte range and the same digest of what it
covers. -/
def SameSignedData (svtTs : PDFSVTDocTimeStamp Cert) (signature vouched : PDSignature) : Prop :=
  ∃ digestAlgorithm,
    DigestAlgorithmRegistry.get env.svt.registry svtTs.svtClaims.hashAlgo = .ok digestAlgorithm ∧
    signedDataRef env digestAlgorithm signature pdfDocBytes =
      signedDataRef env digestAlgorithm vouched pdfDocBytes

/-- A dictionary has the signature value of one the SVT vouches for, which may be itself,
with other signed bytes or out of the reach of the SVT timestamp, and nothing else keeps
it from being reported. -/
structure Replayed (typed : List (PDSignature × SignatureType)) (svtTs : PDFSVTDocTimeStamp Cert)
    (signature vouched : PDSignature) : Prop where
  selected : SvtSelected env now v pdfDocBytes typed svtTs
  reported : ∃ signatureContext allSignatureList sigValueBytes sigValueHash data,
    env.getPdfSignatureContext pdfDocBytes = .ok signatureContext ∧
    env.getSignatureDictionaries pdfDocBytes = .ok allSignatureList ∧
    signature ∈ signatureList env pdfDocBytes allSignatureList ∧
    getSignatureValueBytes env signature pdfDocBytes = .ok sigValueBytes ∧
    env.messageDigest svtTs.signedJWT.header.algorithm sigValueBytes = .ok sigValueHash ∧
    (svtEntries env svtTs typed pdfDocBytes).find? (vouchesFor sigValueHash) =
      some (vouched, data) ∧
    Reportable env (env.validateSvtData data) signature pdfDocBytes signatureContext
  stray : ¬ (SameSignedData env pdfDocBytes svtTs signature vouched ∧ CoveredBy svtTs signature)

variable {env now v pdfDocBytes}

theorem SvtSelected.unique {typed typed' : List (PDSignature × SignatureType)}
    {svtTs svtTs' : PDFSVTDocTimeStamp Cert} (h : SvtSelected env now v pdfDocBytes typed svtTs)
    (h' : SvtSelected env now v pdfDocBytes typed' svtTs') : svtTs = svtTs' := by
  obtain ⟨validator, hvalidator, htyped, hts⟩ := h
  obtain ⟨validator', hvalidator', htyped', hts'⟩ := h'
  rw [hvalidator] at hvalidator'
  cases hvalidator'
  rw [htyped] at htyped'
  cases htyped'
  rw [hts] at hts'
  cases hts'
  rfl

/-- The claims of a vouched entry hold the reference of its own signature, so they
are about another one exactly when it shares that reference. -/
theorem ownReference_iff {typed : List (PDSignature × SignatureType)}
    {svtTs : PDFSVTDocTimeStamp Cert} {entry : PDSignature × SignatureSVTData}
    (hmem : entry ∈ svtEntries env svtTs typed pdfDocBytes) (hmatch : ReferencesMatch entry.2)
    (signature : PDSignature) :
    OwnReference env pdfDocBytes svtTs signature entry.2.signatureClaims.sigDataRef ↔
      SameSignedData env pdfDocBytes svtTs signature entry.1 := by
  obtain ⟨_, _, digestAlgorithm, own, halgo, hown, hrefs⟩ := mem_svtEntries hmem
  obtain ⟨_, _, hin, hout⟩ := hmatch
  rw [hrefs] at hin hout
  have hclaims : ∀ d, d ∈ entry.2.signatureClaims.sigDataRef ↔ d = own := by
    intro d
    constructor
    · intro hd
      exact List.mem_singleton.mp (hout d hd)
    · rintro rfl
      exact hin d List.mem_cons_self
  constructor
  · rintro ⟨algorithm, own', halgo', hown', hclaims'⟩
    rw [halgo] at halgo'
    cases halgo'
    have heq : own = own' := (hclaims' own).mp ((hclaims own).mpr rfl)
    exact ⟨digestAlgorithm, halgo, by rw [hown', hown, heq]⟩
  · rintro ⟨algorithm, halgo', hsame⟩
    rw [halgo] at halgo'
    cases halgo'
    exact ⟨digestAlgorithm, own, halgo, hsame.trans hown, hclaims⟩

/-- What the lookup finds for a signature. -/
theorem matchingSvtValidation_some_iff (hsvt : ComparesReferences env.validateSvtData)
    {jwt : SignedJWT} {entries : List (PDSignature × SignatureSVTData)}
    (hjwt : ∀ entry ∈ entries, entry.2.signedJWT = jwt) {signature : PDSignature}
    {svtValResult : SignatureSVTValidationResult} :
    matchingSvtValidation env pdfDocBytes
        (some (entries.map fun entry => env.validateSvtData entry.2)) signature =
      some svtValResult ↔
    ∃ sigValueBytes sigValueHash entry,
      getSignatureValueBytes env signature pdfDocBytes = .ok sigValueBytes ∧
      env.messageDigest jwt.header.algorithm sigValueBytes = .ok sigValueHash ∧
      entries.find? (vouchesFor sigValueHash) = some entry ∧
      env.validateSvtData entry.2 = svtValResult := by
  unfold matchingSvtValidation
  constructor
  · intro h
    cases hvalue : getSignatureValueBytes env signature pdfDocBytes with
    | error ex => simp [hvalue, bind, Except.bind] at h
    | ok sigValueBytes =>
        simp only [hvalue, bind, Except.bind] at h
        cases hhash : env.messageDigest jwt.header.algorithm sigValueBytes with
        | error ex =>
            split at h
            · rename_i found hfound
              rw [h] at hfound
              exact absurd hfound (getMatchingSvtValidation_error hsvt hhash hjwt svtValResult)
            · cases h
        | ok sigValueHash =>
            rw [getMatchingSvtValidation_eq hsvt hhash hjwt] at h
            obtain ⟨entry, hentry, hresult⟩ := Option.map_eq_some_iff.mp h
            exact ⟨sigValueBytes, sigValueHash, entry, rfl, hhash, hentry, hresult⟩
  · rintro ⟨sigValueBytes, sigValueHash, entry, hvalue, hhash, hentry, rfl⟩
    simp only [hvalue, bind, Except.bind]
    rw [getMatchingSvtValidation_eq hsvt hhash hjwt, hentry]
    rfl

/-- The results of the SVT validator are those of the entries. -/
theorem svtValidationResults_of_selected {typed : List (PDSignature × SignatureType)}
    {svtTs : PDFSVTDocTimeStamp Cert} (h : SvtSelected env now v pdfDocBytes typed svtTs) :
    svtValidationResults env now v pdfDocBytes =
      .ok (some ((svtEntries env svtTs typed pdfDocBytes).map fun entry =>
        env.validateSvtData entry.2)) := by
  obtain ⟨validator, hvalidator, htyped, hts⟩ := h
  unfold svtValidationResults PDFSVTValidator.validate
  rw [hvalidator]
  dsimp only
  rw [getSignatureSVTData_eq htyped hts]
  simp only [bind, Except.bind, pure, Except.pure, List.map_map]
  rfl

/-- A signature that is matched with a result has a selected SVT timestamp. -/
theorem selected_of_matching {svtResults : Option (List SignatureSVTValidationResult)}
    (h : svtValidationResults env now v pdfDocBytes = .ok svtResults) {signature : PDSignature}
    {svtValResult : SignatureSVTValidationResult}
    (hmatching : matchingSvtValidation env pdfDocBytes svtResults signature = some svtValResult) :
    ∃ typed svtTs, SvtSelected env now v pdfDocBytes typed svtTs := by
  -- without results there is nothing to match with
  have hempty : ∀ results, results = none ∨ results = some [] →
      matchingSvtValidation env pdfDocBytes results signature ≠ some svtValResult := by
    intro results hresults
    unfold matchingSvtValidation
    cases getSignatureValueBytes env signature pdfDocBytes with
    | error ex => simp [bind, Except.bind]
    | ok sigValueBytes =>
        rcases hresults with rfl | rfl
        · simp [bind, Except.bind, pure, Except.pure]
        · simp [bind, Except.bind, getMatchingSvtValidation]
  unfold svtValidationResults at h
  cases hvalidator : v.pdfsvtValidator with
  | none =>
      rw [hvalidator] at h
      cases h
      exact absurd hmatching (hempty none (.inl rfl))
  | some validator =>
      rw [hvalidator] at h
      obtain ⟨results, hresults, h⟩ := bind_ok_iff.mp h
      cases h
      obtain ⟨dataList, hdata, hresults⟩ := bind_ok_iff.mp hresults
      cases hresults
      obtain ⟨typed, htyped, hdata⟩ := bind_ok_iff.mp hdata
      obtain ⟨selected, hselected, hdata⟩ := bind_ok_iff.mp hdata
      cases selected with
      | none =>
          cases hdata
          exact absurd hmatching (hempty _ (.inr rfl))
      | some svtTs => exact ⟨typed, svtTs, validator, hvalidator, htyped, hselected⟩

theorem validate_ok_iff {results : List (ExtendedPdfSigValResult Cert)} :
    validate env now v pdfDocBytes = .ok results ↔
      ∃ signatureContext allSignatureList svtResults,
        env.getPdfSignatureContext pdfDocBytes = .ok signatureContext ∧
        env.getSignatureDictionaries pdfDocBytes = .ok allSignatureList ∧
        svtValidationResults env now v pdfDocBytes = .ok svtResults ∧
        (signatureList env pdfDocBytes allSignatureList).map
          (validateSignature env v pdfDocBytes signatureContext
            (docTsSigList env pdfDocBytes allSignatureList) svtResults) = results := by
  unfold SVTenabledPDFDocumentSigVerifier.validate
  rw [rethrowAs_ok_iff]
  constructor
  · intro h
    obtain ⟨signatureContext, hcontext, h⟩ := bind_ok_iff.mp h
    obtain ⟨allSignatureList, hall, h⟩ := bind_ok_iff.mp h
    obtain ⟨svtResults, hsvt, h⟩ := bind_ok_iff.mp h
    exact ⟨signatureContext, allSignatureList, svtResults, hcontext, hall, hsvt, Except.ok.inj h⟩
  · rintro ⟨signatureContext, allSignatureList, svtResults, hcontext, hall, hsvt, rfl⟩
    rw [hcontext, hall, hsvt]
    rfl

theorem validate_of_calls {env : PdfSvtEnv Cert} {now : Date}
    {v : SVTenabledPDFDocumentSigVerifier Cert} {pdfDocBytes : Bytes}
    {signatureContext : DefaultPDFSignatureContext} {allSignatureList : List PDSignature}
    {svtResults : Option (List SignatureSVTValidationResult)}
    (hcontext : env.getPdfSignatureContext pdfDocBytes = .ok signatureContext)
    (hall : env.getSignatureDictionaries pdfDocBytes = .ok allSignatureList)
    (hresults : svtValidationResults env now v pdfDocBytes = .ok svtResults) :
    validate env now v pdfDocBytes =
      .ok ((signatureList env pdfDocBytes allSignatureList).map
        (validateSignature env v pdfDocBytes signatureContext
          (docTsSigList env pdfDocBytes allSignatureList) svtResults)) :=
  validate_ok_iff.mpr
    ⟨signatureContext, allSignatureList, svtResults, hcontext, hall, hresults, rfl⟩

/-- A success made from an entry is bound to its signature exactly when the signature
has the signed bytes of the entry and is covered. -/
theorem complie_bound_iff (hsvt : ComparesReferences env.validateSvtData)
    {typed : List (PDSignature × SignatureType)} {svtTs : PDFSVTDocTimeStamp Cert}
    (hselected : SvtSelected env now v pdfDocBytes typed svtTs)
    {entry : PDSignature × SignatureSVTData}
    (hentry : entry ∈ svtEntries env svtTs typed pdfDocBytes) (hmatch : ReferencesMatch entry.2)
    {signature : PDSignature} {signatureContext : DefaultPDFSignatureContext}
    (hstatus : (compliePDFSigValResultsFromSvtValidation env (env.validateSvtData entry.2) signature
      pdfDocBytes signatureContext).status = .SUCCESS) :
    ResultBound env now v pdfDocBytes
        (compliePDFSigValResultsFromSvtValidation env (env.validateSvtData entry.2) signature
          pdfDocBytes signatureContext) ↔
      SameSignedData env pdfDocBytes svtTs signature entry.1 ∧ CoveredBy svtTs signature := by
  obtain ⟨hpdf, htoken⟩ := complie_fromToken env (env.validateSvtData entry.2) signature pdfDocBytes
    signatureContext
  obtain ⟨_, claims, hclaims, hrefs⟩ := htoken hstatus
  rw [hsvt.signatureClaims] at hrefs
  rw [← ownReference_iff hentry hmatch signature, ← hrefs]
  constructor
  · rintro ⟨signature', claims', typed', svtTs', hpdf', hclaims', hselected', hown, hcovered⟩
    rw [hpdf] at hpdf'
    cases hpdf'
    rw [hclaims] at hclaims'
    cases hclaims'
    cases hselected'.unique hselected
    exact ⟨hown, hcovered⟩
  · rintro ⟨hown, hcovered⟩
    exact ⟨signature, claims, typed, svtTs, hpdf, hclaims, hselected, hown, hcovered⟩

/-- A replay is reported as a success that is not bound to its signature. -/
theorem not_replayed_of_bound (hsvt : ComparesReferences env.validateSvtData)
    (hbound : SvtResultsBound env now v pdfDocBytes)
    {typed : List (PDSignature × SignatureType)} {svtTs : PDFSVTDocTimeStamp Cert}
    {signature vouched : PDSignature} :
    ¬ Replayed env now v pdfDocBytes typed svtTs signature vouched := by
  rintro ⟨hselected, ⟨signatureContext, allSignatureList, sigValueBytes, sigValueHash, data,
    hcontext, hall, hmem, hvalue, hhash, hfind, hreportable⟩, hstray⟩
  have hmatch : ReferencesMatch data := referencesMatch_of_find hfind
  have hmatching :=
    (matchingSvtValidation_some_iff hsvt (svtEntries_signedJWT svtTs typed pdfDocBytes)).mpr
      ⟨sigValueBytes, sigValueHash, (vouched, data), hvalue, hhash, hfind, rfl⟩
  have hstatus := (complie_success_iff ((hsvt.success data).mpr hmatch)).mpr hreportable
  obtain ⟨htoken, _⟩ := (complie_fromToken env _ signature pdfDocBytes _).token hstatus
  have hvalidate := validate_ok_iff.mpr ⟨signatureContext, allSignatureList, _, hcontext, hall,
    svtValidationResults_of_selected hselected, rfl⟩
  have hresult := hbound _ hvalidate _ (List.mem_map_of_mem hmem)
  -- the result of the dictionary is built from the entry of the other one
  unfold validateSignature at hresult
  rw [hmatching] at hresult
  have hentry := List.mem_of_find?_eq_some hfind
  exact hstray ((complie_bound_iff hsvt hselected hentry hmatch hstatus).mp
    (hresult hstatus _ htoken))

/-- A result with a token comes from an entry. When it is a success and not bound to
its signature, the dictionary is a replay. -/
theorem bound_of_not_replayed (hsvt : ComparesReferences env.validateSvtData)
    (hnone : ¬ ∃ typed svtTs signature vouched,
      Replayed env now v pdfDocBytes typed svtTs signature vouched) :
    SvtResultsBound env now v pdfDocBytes := by
  intro results hvalidate result hmem hstatus jwt htoken
  obtain ⟨signatureContext, allSignatureList, svtResults, hcontext, hall, hresults, rfl⟩ :=
    validate_ok_iff.mp hvalidate
  obtain ⟨signature, hsignature, rfl⟩ := List.mem_map.mp hmem
  unfold validateSignature at hstatus htoken ⊢
  split at hstatus
  · rename_i svtValResult hmatching
    simp only [hmatching] at htoken ⊢
    obtain ⟨typed, svtTs, hselected⟩ := selected_of_matching hresults hmatching
    rw [svtValidationResults_of_selected hselected] at hresults
    cases hresults
    obtain ⟨sigValueBytes, sigValueHash, entry, hvalue, hhash, hfind, rfl⟩ :=
      (matchingSvtValidation_some_iff hsvt (svtEntries_signedJWT svtTs typed pdfDocBytes)).mp
        hmatching
    have hmatch := referencesMatch_of_find hfind
    have hentry := List.mem_of_find?_eq_some hfind
    apply (complie_bound_iff hsvt hselected hentry hmatch hstatus).mpr
    by_contra hstray
    have hreportable := (complie_success_iff ((hsvt.success entry.2).mpr hmatch)).mp hstatus
    exact hnone ⟨typed, svtTs, signature, entry.1, hselected, ⟨signatureContext,
      allSignatureList, sigValueBytes, sigValueHash, entry.2, hcontext, hall, hsignature, hvalue,
      hhash, hfind, hreportable⟩, hstray⟩
  · -- the other way through `validate` leaves no token in the result
    rename_i hmatching
    simp only [hmatching] at htoken
    split at htoken
    · rename_i directVerifyResult hdirect
      rw [(verifySignature_origin hdirect).1] at htoken
      cases htoken
    · cases htoken

variable (env now v pdfDocBytes)

/-- **SVT results and their signatures.** For every document, every list of signature
dictionaries and every outcome of the libraries: a success that rests on an SVT is
about the signed bytes of the claims and covered by the SVT timestamp exactly when no
dictionary replays a signature value the SVT vouches for. -/
theorem svt_results_bound_iff (hsvt : ComparesReferences env.validateSvtData) :
    SvtResultsBound env now v pdfDocBytes ↔
      ¬ ∃ typed svtTs signature vouched,
        Replayed env now v pdfDocBytes typed svtTs signature vouched := by
  constructor
  · rintro hbound ⟨typed, svtTs, signature, vouched, hreplayed⟩
    exact not_replayed_of_bound hsvt hbound hreplayed
  · intro hnone
    exact bound_of_not_replayed hsvt hnone

end Binding

/-! A signed PDF with an SVT timestamp, and updates of it. The last one of them adds a
dictionary with the CMS of the signature and a byte range to the end of the new document. -/

/-- A signed page, up to the CMS. -/
def signedHead : List String :=
  ["%PDF-1.4", "1 0 obj", "<</Type/Catalog/Pages 2 0 R/AcroForm<</Fields[4 0 R]/SigFlags 3>>>>",
   "endobj", "2 0 obj", "<</Type/Pages/Kids[3 0 R]/Count 1>>", "endobj", "3 0 obj",
   "<</Type/Page/Parent 2 0 R/MediaBox[0 0 72 72]>>", "endobj", "4 0 obj",
   "<</Type/Annot/Subtype/Widget/FT/Sig/T(S1)/Rect[0 0 0 0]/F 132/P 3 0 R/V 5 0 R>>", "endobj",
   "5 0 obj", "<</Type/Sig/Filter/Adobe.PPKLite/SubFilter/ETSI.CAdES.detached",
   "/ByteRange[0 408 1718 191]/Contents"]

def signedTail : List String :=
  [">>", "endobj", "xref", "0 6", "0000000000 65535 f ", "0000000009 00000 n ",
   "0000000092 00000 n ", "0000000143 00000 n ", "0000000206 00000 n ", "0000000301 00000 n ",
   "trailer", "<</Size 6/Root 1 0 R>>", "startxref", "1728", "%%EOF"]

/-- The update with the SVT timestamp, up to its token. -/
def svtHead : List String :=
  ["1 0 obj", "<</Type/Catalog/Pages 2 0 R/AcroForm<</Fields[4 0 R 6 0 R]/SigFlags 3>>>>",
   "endobj", "6 0 obj",
   "<</Type/Annot/Subtype/Widget/FT/Sig/T(S2)/Rect[0 0 0 0]/F 132/P 3 0 R/V 7 0 R>>", "endobj",
   "7 0 obj", "<</Type/DocTimeStamp/Filter/Adobe.PPKLite/SubFilter/ETSI.RFC3161",
   "/ByteRange[0 2203 5679 145]/Contents"]

def svtTail : List String :=
  [">>", "endobj", "xref", "1 1", "0000001909 00000 n ", "6 2", "0000001998 00000 n ",
   "0000002093 00000 n ", "trailer", "<</Size 8/Root 1 0 R/Prev 1728>>", "startxref", "5689",
   "%%EOF"]

/-- An update that adds a field with a signature, up to the lines of its dictionary. -/
def fieldHead : List String :=
  ["1 0 obj", "<</Type/Catalog/Pages 2 0 R/AcroForm<</Fields[4 0 R 6 0 R 8 0 R]/SigFlags 3>>>>",
   "endobj", "8 0 obj",
   "<</Type/Annot/Subtype/Widget/FT/Sig/T(S3)/Rect[0 0 0 0]/F 132/P 3 0 R/V 9 0 R>>", "endobj",
   "9 0 obj"]

/-- Its end, with the position of the cross-reference table. -/
def fieldTail (startxref : String) : List String :=
  [">>", "endobj", "xref", "1 1", "0000005824 00000 n ", "8 2", "0000005919 00000 n ",
   "0000006014 00000 n ", "trailer", "<</Size 10/Root 1 0 R/Prev 5689>>", "startxref", startxref,
   "%%EOF"]

def copiedHead : List String :=
  fieldHead ++ ["<</Type/Sig/Filter/Adobe.PPKLite/SubFilter/ETSI.CAdES.detached",
    "/ByteRange[0 6122 7432 146]/Contents"]

def copiedTail : List String := fieldTail "7442"

@[irreducible] def signedCms : Bytes :=
  ofNumbers 44
    [0x3082028A06092A864886F70D010702A082027B30820277020101310D300B0609608648016503040201300B06,
     0x092A864886F70D010701A082010E3082010A3081B0020101300A06082A8648CE3D0403023011310F300D0603,
     0x5504030C065369676E6572301E170D3236313131393034313430355A170D3336313131363034313430355A30,
     0x11310F300D06035504030C065369676E65723059301306072A8648CE3D020106082A8648CE3D030107034200,
     0x04BE0BAD7903E6AB65B9B4EE9E82BBDC4911E3A3173903D389C424CAD202F701133866BEF8B2C37DC7C79E06,
     0x8C1FA37A92D6DC51619F3ED0F1C99B16C47CAEA0B7300A06082A8648CE3D040302034900304602210097582E,
     0xBC6B9664700FB75E014C0A51119804E8C7CA116646C3AEA8C5B41AD297022100A8AB34E9CE12F7760E7608BA,
     0x0E29A95A79B3EE735865FAF66B07B1E3923AAD3A318201423082013E02010130163011310F300D0603550403,
     0x0C065369676E6572020101300B0609608648016503040201A081BE301806092A864886F70D010903310B0609,
     0x2A864886F70D010701301C06092A864886F70D010905310F170D3236313131393035303233375A302F06092A,
     0x864886F70D010904312204207455C368168C3FA91A82E1F52A305591B4EB5D024AABF04E6095A366C4BC9A6F,
     0x3053060B2A864886F70D010910022F314430423040303E0420A20006587798AB5D7A6CCA648F73FF2A88E675,
     0xD551F4F210274ABF831532D43C301A3015A4133011310F300D06035504030C065369676E6572020101300A06,
     0x082A8648CE3D04030204473045022023E66B9D45D6FBA450A7D130E15FC974817786493D27FB4615196AD77F] ++
  ofNumbers 38
    [0xFAC9D6022100E79B1E5210660786EAF274F6309BCE2B2EEB6A071335E7001521C39149699745]

def svtCmsHead : Bytes :=
  ofNumbers 44
    [0x308206C506092A864886F70D010702A08206B6308206B2020103310D300B0609608648016503040201308203,
     0xF4060B2A864886F70D0109100104A08203E3048203DF308203DB02010106072A8570814902013031300D0609,
     0x608648016503040201050004206C120ECC325FC92A5A96A8B882FB906509DADA4D6CAAC33BB2B5DAAACA0D25] ++
  ofNumbers 42
    [0xAC02012D180F32303236313131393135303030315AA18203843082038006072A85708149050204820373]

def svtCmsTail : Bytes :=
  ofNumbers 44
    [0xA0820154308201503081F8A003020102020102300A06082A8648CE3D04030230153113301106035504030C0A,
     0x53565420697373756572301E170D3236313131393034353632315A170D3336313131363034353632315A3015,
     0x3113301106035504030C0A535654206973737565723059301306072A8648CE3D020106082A8648CE3D030107,
     0x03420004840063C098F44838C9085EEEE6C2AF405FA7289A916432043418D9F537AC415200D7DA41223DCECC,
     0x87042CE8E79F58ADD14288FEF5E815E6BFFD0733A40BB66FA339303730160603551D250101FF040C300A0608,
     0x2B06010505070308301D0603551D0E0416041449D2E99BA1765126FBCB8A4B7FFC007665ED515C300A06082A,
     0x8648CE3D0403020347003044022065228556CC76BEEE8A65A73DC9731C1D0BE48893956762DDA1834C09411B,
     0x517702202EE93C0D8A9026F729604ECF372259B2FF2A0634618398ADA9B11918631BBB6C3182014C30820148,
     0x020101301A30153113301106035504030C0A53565420697373756572020102300B0609608648016503040201,
     0xA081C4301A06092A864886F70D010903310D060B2A864886F70D0109100104301C06092A864886F70D010905,
     0x310F170D3236313131393035303233385A302F06092A864886F70D01090431220420D8F9A5595403C12D7DFA,
     0xB551B7A2108101D617E7919D18CE270A655C0204EAEC3057060B2A864886F70D010910022F31483046304430,
     0x4204206E8AC8C2375FA21F8D79EA2E8464F3FE2C7DE35D6A8DFB10215E11EF856346A7301E3019A417301531,
     0x13301106035504030C0A53565420697373756572020102300A06082A8648CE3D04030204473045022100B744,
     0xD11668169251305C7BC07DC3C3FF9C46D2D0F4304E3FAB0AB1FD014DAE3F0220564D52C0DB83EFA04093044A] ++
  ofNumbers 20
    [0x41ECA3FE6ACE0A52E43708D2E3AC85A6668A1A37]

def svtClaimsText : List String :=
  ["\x7b\"jti\":\"2d\",\"iss\":\"SVT issuer\",\"iat\":1795100400,",
   "\"sig_val_claims\":\x7b\"ver\":\"1.0\",\"profile\":\"PDF\",",
   "\"hash_algo\":\"http://www.w3.org/2001/04/xmlenc#sha256\",",
   "\"sig\":[\x7b\"sig_ref\":\x7b\"sig_hash\":\"n1xUbxokGsBvHS2xAqg7ZkBiXk1ogpc8o/3NCitsgzo=\",",
   "\"sb_hash\":\"15spEkxdKXpDB+oAPTMJLGUJ4TzJ4183I6k59J7z5xE=\"\x7d,",
   "\"sig_data_ref\":[\x7b\"ref\":\"0 408 1718 191\",",
   "\"hash\":\"dFXDaBaMP6kaguH1KjBVkbTrXQJKq/BOYJWjZsS8mm8=\"\x7d],",
   "\"signer_cert_ref\":\x7b\"type\":\"chain_hash\",",
   "\"ref\":[\"ogAGWHeYq116bMpkj3P/KojmddVR9PIQJ0q/gxUy1Dw=\"]\x7d,",
   "\"sig_val\":[\x7b\"pol\":\"http://id.swedenconnect.se/svt/sigval-policy/pkix/01\",",
   "\"res\":\"PASSED\"\x7d],\"time_val\":[]\x7d]\x7d\x7d"]

def svtSignatureText : String :=
  "Q8M8e8xDwDpUnohiJH-CB_4ehDQdeHGyYxogzX3ppfnM0M38j6VZn04kYCwySbZTKpWcRhe4uP6kUK1zJ2i73g"
/-- The part of a value with the given start and length. -/
def slice (bytes : Bytes) (start length : Nat) : Bytes := (bytes.drop start).take length

@[irreducible] def signerCertificate : Bytes := slice signedCms 58 270
@[irreducible] def signatureValue : Bytes := slice signedCms 583 71

/-- The signed attributes, as a `SET`. -/
@[irreducible] def signedAttributes : Bytes := 0x31 :: slice signedCms 377 192

@[irreducible] def svtCertificate : Bytes := slice svtCmsTail 4 340

/-- The message imprint of the timestamp. -/
@[irreducible] def svtImprint : Bytes := slice svtCmsHead 101 32

/-- What the JWS signature of the token is made over. -/
def svtSigningInput : Bytes :=
  ofText ["eyJhbGciOiJFUzI1NiJ9."] ++
    (Base64Url.groups (ofText svtClaimsText)).map fun n => (Base64Url.digit n).toNat.toUInt8

def svtBytes : Bytes := svtSigningInput ++ ofText [".", svtSignatureText]

@[irreducible] def svtCms : Bytes := svtCmsHead ++ svtBytes ++ svtCmsTail

/-- The lengths of the parts of the three revisions. -/
theorem part_lengths :
    ((ofLines signedHead).length = 408 ∧ signedCms.length = 654 ∧
      (ofLines signedTail).length = 191) ∧
    ((ofLines svtHead).length = 294 ∧ svtCms.length = 1737 ∧ (ofLines svtTail).length = 145) ∧
    (ofLines copiedHead).length = 298 ∧ (ofLines copiedTail).length = 146 := by
  decide +kernel

theorem signedHead_length : (ofLines signedHead).length = 408 := part_lengths.1.1
theorem signedCms_length : signedCms.length = 654 := part_lengths.1.2.1
theorem signedTail_length : (ofLines signedTail).length = 191 := part_lengths.1.2.2
theorem svtHead_length : (ofLines svtHead).length = 294 := part_lengths.2.1.1
theorem svtCms_length : svtCms.length = 1737 := part_lengths.2.1.2.1
theorem svtTail_length : (ofLines svtTail).length = 145 := part_lengths.2.1.2.2
theorem copiedHead_length : (ofLines copiedHead).length = 298 := part_lengths.2.2.1
theorem copiedTail_length : (ofLines copiedTail).length = 146 := part_lengths.2.2.2

def signedFile : SignedFile where
  head := ofLines signedHead
  cms := signedCms
  tail := ofLines signedTail
  size := by
    rw [signedHead_length, signedCms_length, signedTail_length]
    decide

theorem signedFile_length : signedFile.bytes.length = 1909 := by
  rw [signedFile.length_bytes_of signedHead_length signedCms_length signedTail_length]

theorem svtFile_head : (signedFile.bytes ++ ofLines svtHead).length = 2203 := by
  rw [List.length_append, signedFile_length, svtHead_length]

def svtFile : SignedFile where
  head := signedFile.bytes ++ ofLines svtHead
  cms := svtCms
  tail := ofLines svtTail
  size := by
    rw [svtFile_head, svtCms_length, svtTail_length]
    decide

theorem svtFile_length : svtFile.bytes.length = 5824 := by
  rw [svtFile.length_bytes_of svtFile_head svtCms_length svtTail_length]

theorem copiedFile_head : (svtFile.bytes ++ ofLines copiedHead).length = 6122 := by
  rw [List.length_append, svtFile_length, copiedHead_length]

def copiedFile : SignedFile where
  head := svtFile.bytes ++ ofLines copiedHead
  cms := signedCms
  tail := ofLines copiedTail
  size := by
    rw [copiedFile_head, signedCms_length, copiedTail_length]
    decide

def signedDictionary : PDSignature := ⟨[0, 408, 1718, 191], some "ETSI.CAdES.detached"⟩
def svtDictionary : PDSignature := ⟨[0, 2203, 5679, 145], some "ETSI.RFC3161"⟩
def copiedDictionary : PDSignature := ⟨[0, 6122, 7432, 146], some "ETSI.CAdES.detached"⟩

theorem signedDictionary_byteRange : signedDictionary.byteRange = signedFile.byteRange := by
  rw [signedFile.byteRange_of signedHead_length signedCms_length signedTail_length]
  rfl

theorem svtDictionary_byteRange : svtDictionary.byteRange = svtFile.byteRange := by
  rw [svtFile.byteRange_of svtFile_head svtCms_length svtTail_length]
  rfl

theorem copiedDictionary_byteRange : copiedDictionary.byteRange = copiedFile.byteRange := by
  rw [copiedFile.byteRange_of copiedFile_head signedCms_length copiedTail_length]
  rfl

/-- The document with its three revisions. -/
def copiedDocument : Bytes := copiedFile.bytes

def signedClaims : SignatureClaims where
  sigRef :=
    ⟨none, "n1xUbxokGsBvHS2xAqg7ZkBiXk1ogpc8o/3NCitsgzo=",
      "15spEkxdKXpDB+oAPTMJLGUJ4TzJ4183I6k59J7z5xE="⟩
  sigDataRef := [⟨"0 408 1718 191", "dFXDaBaMP6kaguH1KjBVkbTrXQJKq/BOYJWjZsS8mm8="⟩]
  sigVal := some [⟨sigValidationPolicyPkixValidation, .PASSED, none⟩]
  timeVal := some []

def svtClaims : SVTClaims := ⟨some DigestAlgorithm.idSHA256, some [signedClaims]⟩

def svtToken : SignedJWT where
  header := ⟨"ES256", none, none⟩
  claimsSet := some ⟨some "SVT issuer", some "2d", some 1795100400000, none, some svtClaims⟩
  signingInput := svtSigningInput
  signature := Base64Url.decode svtSignatureText

@[irreducible] def svtText : String := String.ofList (svtBytes.map fun b => Char.ofNat b.toNat)

def svtTstInfo : TSTInfo :=
  ⟨"2d", some 1795100401000, DigestAlgorithm.oidSHA256, svtImprint, some svtText⟩

/-- The SHA-256 digests of the signature value, of its attributes and of the bytes that were
signed. -/
def digest256 (data : Bytes) : Bytes :=
  if data = signatureValue then
    ofNumber 32 0x9F5C546F1A241AC06F1D2DB102A83B6640625E4D6882973CA3FDCD0A2B6C833A
  else if data = signedAttributes then
    ofNumber 32 0xD79B29124C5D297A4307EA003D33092C6509E13CC9E35F3723A939F49EF3E711
  else if data = signedFile.content then
    ofNumber 32 0x7455C368168C3FA91A82E1F52A305591B4EB5D024AABF04E6095A366C4BC9A6F
  else []

/-- Base64 with padding. -/
def encodeBase64String (bytes : Bytes) : String :=
  String.ofList
    ((Base64Url.groups bytes).map (fun n =>
      if n = 62 then '+' else if n = 63 then '/' else Base64Url.digit n) ++
    List.replicate ((3 - bytes.length % 3) % 3) '=')

def digestText (data : Bytes) : String := encodeBase64String (digest256 data)

def textDigest (data : Bytes) : Outcome String := .ok (digestText data)

/-- The certificate of the signer is 1, that of the SVT issuer is 5. -/
def getCertificate (der : Bytes) : Outcome Nat :=
  if der = signerCertificate then .ok 1
  else if der = svtCertificate then .ok 5
  else .error ⟨.io, "no certificate"⟩

def cmsCertificates (contents _ : Bytes) : Outcome (Nat × List Nat) :=
  if contents = signedCms then .ok (1, [1])
  else if contents = svtCms then .ok (5, [5])
  else .error ⟨.io, "no CMS"⟩

/-- What follows the CMS is not read. -/
def tstInfoOf (contents : Bytes) : Outcome (Option TSTInfo) :=
  if svtCms <+: contents then .ok (some svtTstInfo)
  else .error ⟨.io, "Unable to parse TSTInfo data"⟩

def verifyTst (cert : Nat) (contents : Bytes) : Outcome Unit :=
  if cert = 5 ∧ contents = svtCms then .ok () else .error ⟨.signature, "not verified"⟩

def signedDataOf (contents : Bytes) : Outcome SignedData :=
  if contents = signedCms then
    .ok ⟨.ok ⟨signatureValue, some signedAttributes, some (.ok 1795064557000)⟩,
      .ok [signerCertificate]⟩
  else .error ⟨.io, "Illegal content for PDF signature. Must contain SignedData"⟩

def parseToken (text : String) : Outcome SignedJWT :=
  if text = svtText then .ok svtToken else .error ⟨.parse, "Invalid serialized JWT"⟩

/-- The digest of the signer's certificate, as its reference in the CMS has it. -/
@[irreducible] def signerDigest : Bytes :=
  ofNumber 32 0xA20006587798AB5D7A6CCA648F73FF2A88E675D551F4F210274ABF831532D43C

def imprintDigest (data : Bytes) : Outcome Bytes :=
  .ok (if data = svtFile.content then svtImprint
    else if data = signerCertificate then signerDigest
    else data)

/-- The CMS of the signature, which verifies over what was signed. -/
def parseSigned (contents signedContent : Bytes) : Outcome (CMSSignature Nat) :=
  if contents = signedCms then
    .ok
      { sigCert := 1
        chain := [1]
        verify :=
          if signedContent = signedFile.content then .ok true
          else .error ⟨.signature, "message-digest attribute value does not match calculated value"⟩
        encryptionAlgOID := "1.2.840.10045.4.3.2"
        digestAlgOID := DigestAlgorithm.oidSHA256
        signedAttributes :=
          some ⟨none, some (.ok ⟨none, signerDigest⟩), none, some (some 1795064557000)⟩
        timeStampTokens := .ok []
        signatureValue := signatureValue }
  else .error ⟨.io, "no CMS"⟩

def certificateOf (cert : Nat) : Bytes := if cert = 5 then svtCertificate else signerCertificate

def vouchedTsEnv : TsEnv Nat where
  extractCertificates := cmsCertificates
  getCmsSigTSTInfo := tstInfoOf
  verifyTsSignature := verifyTst
  registry := DigestAlgorithmRegistry.initial
  digest := fun _ => imprintDigest
  getSubject := fun cert => if cert = 5 then "CN=SVT issuer" else "CN=Signer"

def vouchedPdfEnv : PdfEnv Nat :=
  { svtPdfEnv with
    getContents := readContents
    getSignedContent := readSignedContent
    parseCMS := parseSigned
    getEncoded := fun cert => .ok (certificateOf cert)
    getAlgorithmURI := fun sigAlgo digestAlgo =>
      if sigAlgo = some "1.2.840.10045.4.3.2" ∧ digestAlgo = some DigestAlgorithm.oidSHA256 then
        .ok "http://www.w3.org/2001/04/xmldsig-more#ecdsa-sha256"
      else .error ⟨.noSuchAlgorithm, "Non supported signature algorithm"⟩
    ts := vouchedTsEnv }

def vouchedSvtEnv : SvtEnv Nat where
  parse := parseToken
  jwsVerify := fun jwt key => .ok (jwt = svtToken ∧ key = .ec (slice svtCertificate 105 91))
  newVerifier := fun _ => .ok ()
  getDigestAlgoId := fun _ => .ok DigestAlgorithm.idSHA256
  certDigest := fun _ cert =>
    .ok (if cert = 5 then "borIwjdfoh+NeeouhGTz/ix9411qjfsQIV4R74VjRqc="
      else "ogAGWHeYq116bMpkj3P/KojmddVR9PIQJ0q/gxUy1Dw=")
  toBase64Digest := fun _ => textDigest
  getCertOrNull := fun der => (getCertificate der).toOption
  getPublicKey := fun cert =>
    .ec (if cert = 5 then slice svtCertificate 105 91 else slice signerCertificate 92 91)
  getEncoded := fun cert => .ok (certificateOf cert)
  registry := DigestAlgorithmRegistry.initial

/-- The document with two revisions is loaded, however it is continued. -/
def loadPDF {α : Type} (loaded : α) (pdfDocBytes : Bytes) : Outcome α :=
  if svtFile.bytes <+: pdfDocBytes then .ok loaded
  else .error ⟨.io, "Error: End-of-File, expected line"⟩

/-- The libraries, with what they say of the dictionaries and of the revisions of a document. -/
def fileEnv (dictionaries : Bytes → Outcome (List PDSignature))
    (contextOf : Bytes → Outcome DefaultPDFSignatureContext) : PdfSvtEnv Nat where
  pdf := vouchedPdfEnv
  svt := vouchedSvtEnv
  result :=
    { getUri := fun _ => .ok "http://www.w3.org/2001/04/xmldsig-more#ecdsa-sha256"
      getCertificate := getCertificate
      getPkParams := fun _ => .ok ()
      getOrderedCertList := fun _ _ => [1] }
  caseTable := asciiCase
  toLowerCase := fun s => String.ofList (s.toList.map Char.toLower)
  getSignatureDictionaries := dictionaries
  getPdfSignatureContext := contextOf
  getSignedDataFromSignature := signedDataOf
  messageDigest := fun _ => textDigest
  validateSvtData := fun data =>
    { signedJWT := data.signedJWT
      signatureClaims := data.signatureClaims
      signerCertificate := data.signerCertChain.headD []
      certificateChain := data.signerCertChain
      svtValidationSuccess := decide (ReferencesMatch data) }

/-- On the document with two revisions and its updates, which may add dictionaries. -/
abbrev vouchedEnv (added : List PDSignature) (revisions : List PDFDocRevision) : PdfSvtEnv Nat :=
  fileEnv (loadPDF (signedDictionary :: svtDictionary :: added))
    fun pdfDocBytes => loadPDF ⟨pdfDocBytes, revisions⟩ pdfDocBytes

theorem getCertificate_signer : getCertificate signerCertificate = .ok 1 := by
  unfold getCertificate
  rw [if_pos rfl]

theorem cmsCertificates_signed (data : Bytes) : cmsCertificates signedCms data = .ok (1, [1]) := by
  unfold cmsCertificates
  rw [if_pos rfl]

theorem loadPDF_append {α : Type} (loaded : α) (extension : Bytes) :
    loadPDF loaded (svtFile.bytes ++ extension) = .ok loaded := by
  unfold loadPDF
  rw [if_pos (List.prefix_append _ _)]

section Vouched

variable (listed : Bytes → Outcome (List PDSignature))
  (located : Bytes → Outcome DefaultPDFSignatureContext) (extension : Bytes)

theorem fileEnv_comparesReferences :
    ComparesReferences (fileEnv listed located).validateSvtData :=
  ⟨fun _ => rfl, fun _ => rfl, fun _ => decide_eq_true_iff⟩

theorem svtFile_bytes : svtFile.bytes ++ extension =
    signedFile.bytes ++ (ofLines svtHead ++ hexString svtCms ++ ofLines svtTail ++ extension) := by
  show signedFile.bytes ++ ofLines svtHead ++ hexString svtCms ++ ofLines svtTail ++ extension = _
  simp only [List.append_assoc]

theorem signed_contents :
    readContents signedDictionary (svtFile.bytes ++ extension) = .ok signedCms := by
  rw [svtFile_bytes]
  exact SignedFile.readContents_bytes signedDictionary_byteRange _

theorem signed_content :
    readSignedContent signedDictionary (svtFile.bytes ++ extension) = .ok signedFile.content := by
  rw [svtFile_bytes]
  exact SignedFile.readSignedContent_bytes signedDictionary_byteRange _

theorem svt_contents : readContents svtDictionary (svtFile.bytes ++ extension) = .ok svtCms :=
  SignedFile.readContents_bytes svtDictionary_byteRange _

theorem svt_content :
    readSignedContent svtDictionary (svtFile.bytes ++ extension) = .ok svtFile.content :=
  SignedFile.readSignedContent_bytes svtDictionary_byteRange _

theorem signedDataOf_signed : signedDataOf signedCms =
    .ok ⟨.ok ⟨signatureValue, some signedAttributes, some (.ok 1795064557000)⟩,
      .ok [signerCertificate]⟩ := by
  unfold signedDataOf
  rw [if_pos rfl]

theorem tstInfoOf_svt : tstInfoOf svtCms = .ok (some svtTstInfo) := by
  unfold tstInfoOf
  rw [if_pos List.prefix_rfl]

theorem parseToken_svt : parseToken svtText = .ok svtToken := by
  unfold parseToken
  rw [if_pos rfl]

/-- The digests in Base64. -/
theorem encoded_digests :
    encodeBase64String
        (ofNumber 32 0x9F5C546F1A241AC06F1D2DB102A83B6640625E4D6882973CA3FDCD0A2B6C833A) =
      "n1xUbxokGsBvHS2xAqg7ZkBiXk1ogpc8o/3NCitsgzo=" ∧
    encodeBase64String
        (ofNumber 32 0xD79B29124C5D297A4307EA003D33092C6509E13CC9E35F3723A939F49EF3E711) =
      "15spEkxdKXpDB+oAPTMJLGUJ4TzJ4183I6k59J7z5xE=" ∧
    encodeBase64String
        (ofNumber 32 0x7455C368168C3FA91A82E1F52A305591B4EB5D024AABF04E6095A366C4BC9A6F) =
      "dFXDaBaMP6kaguH1KjBVkbTrXQJKq/BOYJWjZsS8mm8=" := by
  decide +kernel

theorem textDigest_value :
    textDigest signatureValue = .ok "n1xUbxokGsBvHS2xAqg7ZkBiXk1ogpc8o/3NCitsgzo=" := by
  unfold textDigest digestText digest256
  rw [if_pos rfl, encoded_digests.1]

/-- What is digested are three different texts. -/
theorem digested_ne : signedAttributes ≠ signatureValue ∧ signedFile.content ≠ signatureValue ∧
    signedFile.content ≠ signedAttributes := by
  decide +kernel

theorem textDigest_attributes :
    textDigest signedAttributes = .ok "15spEkxdKXpDB+oAPTMJLGUJ4TzJ4183I6k59J7z5xE=" := by
  unfold textDigest digestText digest256
  rw [if_neg digested_ne.1, if_pos rfl, encoded_digests.2.1]

theorem textDigest_content :
    textDigest signedFile.content = .ok "dFXDaBaMP6kaguH1KjBVkbTrXQJKq/BOYJWjZsS8mm8=" := by
  obtain ⟨-, hvalue, hattributes⟩ := digested_ne
  unfold textDigest digestText digest256
  rw [if_neg hvalue, if_neg hattributes, if_pos rfl, encoded_digests.2.2]

theorem vouched_getContents : (fileEnv listed located).pdf.getContents = readContents := rfl

theorem vouched_tstInfo : (fileEnv listed located).pdf.ts.getCmsSigTSTInfo = tstInfoOf := rfl

theorem vouched_parse : (fileEnv listed located).svt.parse = parseToken := rfl

theorem typeOf_signed : typeOf (fileEnv listed located) (svtFile.bytes ++ extension)
    signedDictionary = .ok .SIGNATURE_TYPE := by
  unfold typeOf
  rw [vouched_getContents, signed_contents]
  rfl

theorem isSVADocTimestamp_svt : isSVADocTimestamp (fileEnv listed located) svtCms = true := by
  apply isSVADocTimestamp_of_calls (by rw [vouched_tstInfo, tstInfoOf_svt]) rfl
    (by rw [vouched_parse, parseToken_svt]) rfl rfl

theorem typeOf_svt : typeOf (fileEnv listed located) (svtFile.bytes ++ extension)
    svtDictionary = .ok .SVT_TYPE := by
  have htype : getSignatureType (fileEnv listed located) svtDictionary svtCms =
      .ok (if isSVADocTimestamp (fileEnv listed located) svtCms then .SVT_TYPE
        else .DOC_TIMESTAMP_TYPE) := rfl
  unfold typeOf
  rw [vouched_getContents, svt_contents]
  show getSignatureType (fileEnv listed located) svtDictionary svtCms = _
  rw [htype, isSVADocTimestamp_svt, if_pos rfl]

def svtPolicyResult : TimeStampPolicyVerificationResult Nat :=
  ⟨⟨sigValidationPolicyPkixValidation, .PASSED, none⟩, some (.pathValidation {}), true, none⟩

def trustingValidator : PDFSVTValidator Nat where
  svaCertVerifier := fun cert _ =>
    if cert = some 5 then .ok (.pathValidation {})
    else .error (.other ⟨.certPathValidator, "not trusted"⟩)
  timeStampPolicyVerifier := fun _ _ cert _ =>
    if cert = 5 then .ok svtPolicyResult else .error ⟨.certPathValidator, "not trusted"⟩

/-- The SVT timestamp before its token is verified. -/
def signedTimestamp : PDFSVTDocTimeStamp Nat where
  sigValid := true
  certList := some [5]
  sigCert := some 5
  tstInfo := some svtTstInfo
  policyValidationClaimsList := [svtPolicyResult.policyValidationClaims]
  certificateValidationResult := svtPolicyResult.certificateValidationResult
  exception := svtPolicyResult.exception
  documentTimestampSig := svtDictionary
  signedJWT := svtToken
  svtClaims := svtClaims

theorem cmsCertificates_svt (data : Bytes) : cmsCertificates svtCms data = .ok (5, [5]) := by
  have hne : svtCms ≠ signedCms := by
    intro h
    have hlength := congrArg List.length h
    rw [svtCms_length, signedCms_length] at hlength
    cases hlength
  unfold cmsCertificates
  rw [if_neg hne, if_pos rfl]

theorem verifyTst_svt : verifyTst 5 svtCms = .ok () := by
  unfold verifyTst
  rw [if_pos ⟨rfl, rfl⟩]

theorem imprintDigest_svt : imprintDigest svtFile.content = .ok svtImprint := by
  unfold imprintDigest
  rw [if_pos rfl]

theorem imprint_svt :
    TimeStamp.verifyTsMessageImprint vouchedTsEnv svtTstInfo svtFile.content = .ok () := by
  have halgo : DigestAlgorithmRegistry.getByOid vouchedTsEnv.registry
      (some svtTstInfo.hashAlgorithm) =
      .ok ⟨DigestAlgorithm.idSHA256, DigestAlgorithm.oidSHA256⟩ := rfl
  have hdigest : vouchedTsEnv.digest = fun _ => imprintDigest := rfl
  have hmessage : svtTstInfo.hashedMessage = svtImprint := rfl
  unfold TimeStamp.verifyTsMessageImprint
  rw [halgo]
  simp only [bind, Except.bind, hdigest, imprintDigest_svt, hmessage, if_true]
  rfl

theorem ofSignature_svt : PDFSVTDocTimeStamp.ofSignature (fileEnv listed located).pdf
    (fileEnv listed located).svt trustingValidator.timeStampPolicyVerifier
    (svtFile.bytes ++ extension) svtDictionary = .ok signedTimestamp := by
  have hcerts : (fileEnv listed located).pdf.ts.extractCertificates = cmsCertificates := rfl
  have hverify : (fileEnv listed located).pdf.ts.verifyTsSignature = verifyTst := rfl
  have hts : TimeStamp.ofToken (fileEnv listed located).pdf.ts
      trustingValidator.timeStampPolicyVerifier svtCms (some svtFile.content) =
      signedTimestamp.toTimeStamp := by
    exact TimeStamp.ofToken_of_calls (by rw [hcerts, cmsCertificates_svt])
      (by rw [vouched_tstInfo, tstInfoOf_svt]) (by rw [hverify, verifyTst_svt]) imprint_svt rfl rfl
  have hcontent : (fileEnv listed located).pdf.getSignedContent = readSignedContent := rfl
  exact PDFSVTDocTimeStamp.ofSignature_of_calls (by rw [vouched_getContents, svt_contents])
    (by rw [hcontent, svt_content]) hts rfl (by rw [vouched_parse, parseToken_svt]) rfl rfl

/-- The SVT timestamp with the outcome for its token. -/
def svtTimestamp : PDFSVTDocTimeStamp Nat :=
  PDFSVTDocTimeStamp.verifySVA vouchedSvtEnv 1795100500000 trustingValidator.svaCertVerifier
    signedTimestamp

theorem svtTimeStamp_vouched {typed : List (PDSignature × SignatureType)}
    (htyped : ofType .SVT_TYPE typed = [svtDictionary]) :
    svtTimeStamp (fileEnv listed located) 1795100500000 trustingValidator typed
      (svtFile.bytes ++ extension) = .ok (some svtTimestamp) := by
  have hsigned : signedSvaTs (fileEnv listed located).pdf (fileEnv listed located).svt
      trustingValidator (svtFile.bytes ++ extension) svtDictionary = some signedTimestamp := by
    unfold signedSvaTs
    rw [ofSignature_svt]
    rfl
  unfold svtTimeStamp
  rw [getMostRecentValidSVA_eq, htyped]
  unfold mostRecentSigned
  rw [List.filterMap_cons, hsigned]
  rfl

/-- The data collected for the signature. -/
def signedSvtData : SignatureSVTData where
  signedJWT := svtToken
  signatureReference := signedClaims.sigRef
  signatureClaims := signedClaims
  signedDataRefList := signedClaims.sigDataRef
  signerCertChain := [signerCertificate]

theorem signedSvtData_match : ReferencesMatch signedSvtData := by decide

theorem collectSVTData_signed : collectSVTData (fileEnv listed located) signedDictionary
    svtTimestamp (svtFile.bytes ++ extension) = .ok (some signedSvtData) := by
  have hdata : (fileEnv listed located).getSignedDataFromSignature = signedDataOf := rfl
  have hdigest : (fileEnv listed located).svt.toBase64Digest = fun _ => textDigest := rfl
  have hcontent : (fileEnv listed located).pdf.getSignedContent = readSignedContent := rfl
  have hown : signedDataRef (fileEnv listed located)
      ⟨DigestAlgorithm.idSHA256, DigestAlgorithm.oidSHA256⟩ signedDictionary
      (svtFile.bytes ++ extension) =
      .ok ⟨"0 408 1718 191", "dFXDaBaMP6kaguH1KjBVkbTrXQJKq/BOYJWjZsS8mm8="⟩ := by
    unfold signedDataRef
    rw [hcontent, signed_content]
    simp only [bind, Except.bind, hdigest, textDigest_content]
    rfl
  exact collectSVTData_of_calls (by rw [vouched_getContents, signed_contents])
    (by rw [hdata, signedDataOf_signed]) rfl rfl rfl (by simp only [hdigest, textDigest_value])
    (by simp only [hdigest, textDigest_attributes]) rfl rfl hown rfl

theorem svtDataOf_signed : svtDataOf (fileEnv listed located) svtTimestamp
    (svtFile.bytes ++ extension) signedDictionary = some signedSvtData := by
  have hcovered : svtTimestamp.isSignatureCovered signedDictionary = true := rfl
  unfold svtDataOf
  rw [hcovered, collectSVTData_signed]
  rfl

/-- The time in the token. -/
def svtTime : TimeValidationClaims :=
  svtTimeValidationClaims
    ⟨some "SVT issuer", some "2d", some 1795100400000, none, some svtClaims⟩ 1795100400000

/-- The result that is made from the token. -/
def svtResult (signature : PDSignature) (signatureContext : DefaultPDFSignatureContext)
    (covers : Bool) : ExtendedPdfSigValResult Nat where
  pdfSignature := some signature
  signedData := some signedCms
  etsiAdes := true
  invalidSignCert := false
  claimedSigningTime := some 1795064557000
  coversDocument := covers
  signedDocument := (signatureContext.getSignedDocument signature).toOption
  signatureAlgorithm := some "http://www.w3.org/2001/04/xmldsig-more#ecdsa-sha256"
  svtJWT := some svtToken
  signerCertificate := some 1
  signatureCertificateChain := some [1]
  certificateValidationResult := some (.default [1])
  status := .SUCCESS
  signatureClaims := some { signedClaims with timeVal := some [svtTime] }
  validationPolicyResultList := signedClaims.sigVal
  timeValidationResults := some [⟨some svtTime, none, none⟩]

/-- A dictionary with the CMS of the signature gets that result, if its revision is found. -/
theorem complie_vouched {signature : PDSignature} {doc content : Bytes} {covers : Bool}
    {signatureContext : DefaultPDFSignatureContext}
    (hcontents : readContents signature doc = .ok signedCms)
    (hcontent : readSignedContent signature doc = .ok content)
    (hfilter : signature.subFilter = some "ETSI.CAdES.detached")
    (hlocated : signatureContext.isCoversWholeDocument signature = .ok covers) :
    compliePDFSigValResultsFromSvtValidation (fileEnv listed located)
      ((fileEnv listed located).validateSvtData signedSvtData) signature doc
      signatureContext = svtResult signature signatureContext covers := by
  have hdata : (fileEnv listed located).getSignedDataFromSignature = signedDataOf := rfl
  have hread : (fileEnv listed located).pdf.getSignedContent = readSignedContent := rfl
  have hextract : (fileEnv listed located).pdf.ts.extractCertificates = cmsCertificates := rfl
  have hcert : (fileEnv listed located).result.getCertificate = getCertificate := rfl
  have hsigner : (fileEnv listed located).result.getCertificate
      ((fileEnv listed located).validateSvtData signedSvtData).signerCertificate = .ok 1 := by
    rw [hcert]
    exact getCertificate_signer
  have hcerts : cmsSigCerts (fileEnv listed located) signature doc = .ok (some 1, [1]) :=
    cmsSigCerts_of_calls (by rw [vouched_getContents, hcontents]) (by rw [hread, hcontent])
      (by rw [hextract, cmsCertificates_signed])
  exact (complie_of_calls (by rw [vouched_getContents, hcontents])
    (by rw [hdata, signedDataOf_signed]) hfilter rfl hlocated rfl hsigner rfl hcerts
    (((fileEnv_comparesReferences listed located).success signedSvtData).mpr
      signedSvtData_match) rfl rfl rfl).trans rfl

def trustingVerifier : SVTenabledPDFDocumentSigVerifier Nat where
  pdfsvtValidator := some trustingValidator
  pdfSingleSignatureValidator :=
    { certificateValidator := fun _ _ => .ok (.pathValidation {})
      sigPolicyVerifier := fun _ _ => .error ⟨.runtime, "not reached"⟩
      timeStampPolicyVerifier := trustingValidator.timeStampPolicyVerifier }

theorem trustingVerifier_validator :
    trustingVerifier.pdfsvtValidator = some trustingValidator := rfl

variable {listed located extension} {added : List PDSignature}
  {typedAdded : List (PDSignature × SignatureType)}
  (hlisted : (fileEnv listed located).getSignatureDictionaries (svtFile.bytes ++ extension) =
    .ok (signedDictionary :: svtDictionary :: added))
  (hadded : (added.mapM fun signature => do
    let type ← typeOf (fileEnv listed located) (svtFile.bytes ++ extension) signature
    pure (signature, type)) = .ok typedAdded)
  (hnoSvt : ofType .SVT_TYPE typedAdded = [])

include hlisted hadded hnoSvt

/-- Of the document with its additions, the SVT timestamp is the one that is used. -/
theorem svtSelected_vouched {v : SVTenabledPDFDocumentSigVerifier Nat}
    (hv : v.pdfsvtValidator = some trustingValidator) :
    SvtSelected (fileEnv listed located) 1795100500000 v (svtFile.bytes ++ extension)
      ((signedDictionary, .SIGNATURE_TYPE) :: (svtDictionary, .SVT_TYPE) :: typedAdded)
      svtTimestamp := by
  refine ⟨trustingValidator, hv, ?_, svtTimeStamp_vouched listed located extension ?_⟩
  · exact typedSignatures_of_calls hlisted
      (mapM_ok_cons (typed_of (typeOf_signed _ _ _))
        (mapM_ok_cons (typed_of (typeOf_svt _ _ _)) hadded))
  · show svtDictionary :: ofType .SVT_TYPE typedAdded = _
    rw [hnoSvt]

/-- Every dictionary with the signature value gets the result of the signature. -/
theorem matching_vouched {v : SVTenabledPDFDocumentSigVerifier Nat}
    (hv : v.pdfsvtValidator = some trustingValidator) :
    ∃ svtResults,
      svtValidationResults (fileEnv listed located) 1795100500000 v
        (svtFile.bytes ++ extension) = .ok svtResults ∧
      ∀ signature, readContents signature (svtFile.bytes ++ extension) = .ok signedCms →
        matchingSvtValidation (fileEnv listed located) (svtFile.bytes ++ extension) svtResults
          signature = some ((fileEnv listed located).validateSvtData signedSvtData) := by
  have hselected := svtSelected_vouched hlisted hadded hnoSvt hv
  refine ⟨_, svtValidationResults_of_selected hselected, ?_⟩
  intro signature hcontents
  have hdata : (fileEnv listed located).getSignedDataFromSignature = signedDataOf := rfl
  have hdigest : (fileEnv listed located).messageDigest = fun _ => textDigest := rfl
  have hvalue : getSignatureValueBytes (fileEnv listed located) signature
      (svtFile.bytes ++ extension) = .ok signatureValue :=
    getSignatureValueBytes_of_calls (by rw [vouched_getContents listed located, hcontents])
      (by rw [hdata, signedDataOf_signed]) rfl
  have hhash : (fileEnv listed located).messageDigest svtTimestamp.signedJWT.header.algorithm
      signatureValue = .ok signedClaims.sigRef.sigHash := by
    simp only [hdigest, textDigest_value]
    rfl
  have hvouches :
      vouchesFor signedClaims.sigRef.sigHash (signedDictionary, signedSvtData) = true := by
    decide
  have hfind : (svtEntries (fileEnv listed located) svtTimestamp
      ((signedDictionary, .SIGNATURE_TYPE) :: (svtDictionary, .SVT_TYPE) :: typedAdded)
      (svtFile.bytes ++ extension)).find? (vouchesFor signedClaims.sigRef.sigHash) =
      some (signedDictionary, signedSvtData) := by
    have htyped : ofType .SIGNATURE_TYPE
        ((signedDictionary, .SIGNATURE_TYPE) :: (svtDictionary, .SVT_TYPE) :: typedAdded) =
        signedDictionary :: ofType .SIGNATURE_TYPE typedAdded := rfl
    obtain ⟨entries, hentries⟩ :=
      svtEntries_cons htyped (svtDataOf_signed listed located extension)
    rw [hentries, List.find?_cons_of_pos hvouches]
  exact (matchingSvtValidation_some_iff (fileEnv_comparesReferences listed located)
    (svtEntries_signedJWT svtTimestamp _ _)).mpr ⟨_, _, _, hvalue, hhash, hfind, rfl⟩

/-- The document has the result of the signature, and one for each dictionary that was
added and is reported. -/
theorem validate_file {v : SVTenabledPDFDocumentSigVerifier Nat}
    {signatureContext : DefaultPDFSignatureContext} {covers : Bool}
    (hcontext : (fileEnv listed located).getPdfSignatureContext (svtFile.bytes ++ extension) =
      .ok signatureContext)
    (hv : v.pdfsvtValidator = some trustingValidator)
    (hcovers : signatureContext.isCoversWholeDocument signedDictionary = .ok covers) :
    ∃ docTimestamps svtResults,
      validate (fileEnv listed located) 1795100500000 v (svtFile.bytes ++ extension) =
        .ok (svtResult signedDictionary signatureContext covers ::
          (signatureList (fileEnv listed located) (svtFile.bytes ++ extension) added).map
            (validateSignature (fileEnv listed located) v (svtFile.bytes ++ extension)
              signatureContext docTimestamps svtResults)) ∧
      ∀ signature, readContents signature (svtFile.bytes ++ extension) = .ok signedCms →
        matchingSvtValidation (fileEnv listed located) (svtFile.bytes ++ extension) svtResults
          signature = some ((fileEnv listed located).validateSvtData signedSvtData) := by
  obtain ⟨svtResults, hresults, hmatching⟩ := matching_vouched hlisted hadded hnoSvt hv
  refine ⟨docTsSigList (fileEnv listed located) (svtFile.bytes ++ extension)
    (signedDictionary :: svtDictionary :: added), svtResults, ?_, hmatching⟩
  rw [validate_of_calls hcontext hlisted hresults,
    signatureList_cons_signature (typeOf_signed _ _ _),
    signatureList_cons_svt (typeOf_svt _ _ _), List.map_cons,
    validateSignature_of_matching (hmatching signedDictionary (signed_contents extension)),
    complie_vouched listed located (signed_contents extension) (signed_content extension) rfl
      hcovers]

end Vouched

/-- Nothing was added. -/
theorem validate_svtFile {listed : Bytes → Outcome (List PDSignature)}
    {located : Bytes → Outcome DefaultPDFSignatureContext}
    {signatureContext : DefaultPDFSignatureContext} {v : SVTenabledPDFDocumentSigVerifier Nat}
    {covers : Bool}
    (hlisted : (fileEnv listed located).getSignatureDictionaries svtFile.bytes =
      .ok [signedDictionary, svtDictionary])
    (hcontext : (fileEnv listed located).getPdfSignatureContext svtFile.bytes =
      .ok signatureContext)
    (hv : v.pdfsvtValidator = some trustingValidator)
    (hcovers : signatureContext.isCoversWholeDocument signedDictionary = .ok covers) :
    validate (fileEnv listed located) 1795100500000 v svtFile.bytes =
      .ok [svtResult signedDictionary signatureContext covers] := by
  rw [← List.append_nil svtFile.bytes] at hlisted hcontext ⊢
  obtain ⟨docTimestamps, svtResults, hvalidate, -⟩ :=
    validate_file hlisted (List.mapM_nil ..) rfl hcontext hv hcovers
  rw [signatureList_nil, List.map_nil] at hvalidate
  exact hvalidate

section Loaded

variable (added : List PDSignature) (revisions : List PDFDocRevision) (extension : Bytes)

theorem getSignatureDictionaries_vouched :
    (vouchedEnv added revisions).getSignatureDictionaries (svtFile.bytes ++ extension) =
      .ok (signedDictionary :: svtDictionary :: added) := by
  have hload : (vouchedEnv added revisions).getSignatureDictionaries =
      loadPDF (signedDictionary :: svtDictionary :: added) := rfl
  rw [hload, loadPDF_append]

theorem getPdfSignatureContext_vouched :
    (vouchedEnv added revisions).getPdfSignatureContext (svtFile.bytes ++ extension) =
      .ok ⟨svtFile.bytes ++ extension, revisions⟩ := by
  have hload : (vouchedEnv added revisions).getPdfSignatureContext =
      fun pdfDocBytes => loadPDF ⟨pdfDocBytes, revisions⟩ pdfDocBytes := rfl
  simp only [hload, loadPDF_append]

end Loaded

/-- When the document with two revisions is the one that is loaded. -/
theorem validate_vouched {added : List PDSignature} {revisions : List PDFDocRevision}
    {extension : Bytes} {typedAdded : List (PDSignature × SignatureType)}
    {v : SVTenabledPDFDocumentSigVerifier Nat} {covers : Bool}
    (hadded : (added.mapM fun signature => do
      let type ← typeOf (vouchedEnv added revisions) (svtFile.bytes ++ extension) signature
      pure (signature, type)) = .ok typedAdded)
    (hnoSvt : ofType .SVT_TYPE typedAdded = [])
    (hv : v.pdfsvtValidator = some trustingValidator)
    (hlocated : (DefaultPDFSignatureContext.mk (svtFile.bytes ++ extension)
      revisions).isCoversWholeDocument signedDictionary = .ok covers) :
    ∃ docTimestamps svtResults,
      validate (vouchedEnv added revisions) 1795100500000 v (svtFile.bytes ++ extension) =
        .ok (svtResult signedDictionary ⟨svtFile.bytes ++ extension, revisions⟩ covers ::
          (signatureList (vouchedEnv added revisions) (svtFile.bytes ++ extension) added).map
            (validateSignature (vouchedEnv added revisions) v (svtFile.bytes ++ extension)
              ⟨svtFile.bytes ++ extension, revisions⟩ docTimestamps svtResults)) ∧
      ∀ signature, readContents signature (svtFile.bytes ++ extension) = .ok signedCms →
        matchingSvtValidation (vouchedEnv added revisions) (svtFile.bytes ++ extension) svtResults
          signature = some ((vouchedEnv added revisions).validateSvtData signedSvtData) :=
  validate_file (getSignatureDictionaries_vouched _ _ _) hadded hnoSvt
    (getPdfSignatureContext_vouched _ _ _) hv hlocated

/-- What the last revision adds. -/
def copiedUpdate : Bytes := ofLines copiedHead ++ hexString signedCms ++ ofLines copiedTail

theorem copiedDocument_eq : copiedDocument = svtFile.bytes ++ copiedUpdate := by
  show svtFile.bytes ++ ofLines copiedHead ++ hexString signedCms ++ ofLines copiedTail = _
  unfold copiedUpdate
  simp only [List.append_assoc]

theorem copied_contents :
    readContents copiedDictionary (svtFile.bytes ++ copiedUpdate) = .ok signedCms := by
  rw [← copiedDocument_eq, ← List.append_nil copiedDocument]
  exact SignedFile.readContents_bytes copiedDictionary_byteRange []

theorem copied_content :
    readSignedContent copiedDictionary (svtFile.bytes ++ copiedUpdate) =
      .ok copiedFile.content := by
  rw [← copiedDocument_eq, ← List.append_nil copiedDocument]
  exact SignedFile.readSignedContent_bytes copiedDictionary_byteRange []

/-- A revision that ends with a signature for each of these lengths. -/
def revisionsOf (lengths : List Int) : List PDFDocRevision :=
  lengths.map fun length => { signedRevision with length := length }

def copiedEnv : PdfSvtEnv Nat := vouchedEnv [copiedDictionary] (revisionsOf [1909, 5824, 7578])

theorem copiedEnv_comparesReferences : ComparesReferences copiedEnv.validateSvtData :=
  fileEnv_comparesReferences _ _

theorem typeOf_copied (added : List PDSignature) (revisions : List PDFDocRevision) :
    typeOf (vouchedEnv added revisions) (svtFile.bytes ++ copiedUpdate) copiedDictionary =
      .ok .SIGNATURE_TYPE := by
  unfold typeOf
  rw [vouched_getContents, copied_contents]
  rfl

theorem typed_copied (revisions : List PDFDocRevision) :
    ([copiedDictionary].mapM fun signature => do
      let type ← typeOf (vouchedEnv [copiedDictionary] revisions) (svtFile.bytes ++ copiedUpdate)
        signature
      pure (signature, type)) = .ok [(copiedDictionary, .SIGNATURE_TYPE)] :=
  mapM_ok_cons (typed_of (typeOf_copied _ revisions)) rfl

theorem copied_signed_located :
    (DefaultPDFSignatureContext.mk (svtFile.bytes ++ copiedUpdate)
      (revisionsOf [1909, 5824, 7578])).isCoversWholeDocument signedDictionary = .ok false := rfl

theorem copied_located :
    (DefaultPDFSignatureContext.mk (svtFile.bytes ++ copiedUpdate)
      (revisionsOf [1909, 5824, 7578])).isCoversWholeDocument copiedDictionary = .ok true := rfl

theorem svt_results_bound_iff_copied :
    ComparesReferences copiedEnv.validateSvtData ∧
      (SvtResultsBound copiedEnv 1795100500000 trustingVerifier copiedDocument ↔
        ¬ ∃ typed svtTs signature vouched,
          Replayed copiedEnv 1795100500000 trustingVerifier copiedDocument typed svtTs signature
            vouched) :=
  ⟨copiedEnv_comparesReferences, svt_results_bound_iff _ _ _ _ copiedEnv_comparesReferences⟩

/-- The copy is a success on the strength of the token, which says nothing about the
bytes it covers. -/
theorem copied_signature_accepted :
    ComparesReferences copiedEnv.validateSvtData ∧
      (∃ signed copied, validate copiedEnv 1795100500000 trustingVerifier copiedDocument =
          .ok [signed, copied] ∧
        copied.pdfSignature = some copiedDictionary ∧ copied.status = .SUCCESS ∧
        copied.svtJWT = some svtToken) ∧
      ¬ SvtResultsBound copiedEnv 1795100500000 trustingVerifier copiedDocument := by
  rw [copiedDocument_eq]
  unfold copiedEnv
  have hcompares : ComparesReferences
      (vouchedEnv [copiedDictionary] (revisionsOf [1909, 5824, 7578])).validateSvtData :=
    fileEnv_comparesReferences _ _
  have hvalidate : ∃ signed copied, validate
      (vouchedEnv [copiedDictionary] (revisionsOf [1909, 5824, 7578])) 1795100500000
      trustingVerifier (svtFile.bytes ++ copiedUpdate) = .ok [signed, copied] ∧
      copied.pdfSignature = some copiedDictionary ∧ copied.status = .SUCCESS ∧
      copied.svtJWT = some svtToken := by
    obtain ⟨docTimestamps, svtResults, hvalidate, hmatching⟩ :=
      validate_vouched (typed_copied (revisionsOf [1909, 5824, 7578])) rfl
        trustingVerifier_validator copied_signed_located
    rw [signatureList_cons_signature (typeOf_copied _ _), List.map_cons,
      validateSignature_of_matching (hmatching copiedDictionary copied_contents),
      complie_vouched _ _ copied_contents copied_content rfl copied_located] at hvalidate
    exact ⟨_, _, hvalidate, rfl, rfl, rfl⟩
  refine ⟨hcompares, hvalidate, ?_⟩
  intro hbound
  obtain ⟨signed, copied, hok, hpdf, hstatus, htoken⟩ := hvalidate
  obtain ⟨signature, claims, typed, svtTs, hpdf', _, hselected, _, hcovered⟩ :=
    hbound _ hok copied (List.mem_cons_of_mem _ List.mem_cons_self) hstatus _ htoken
  rw [hpdf] at hpdf'
  cases hpdf'
  have hsvt := svtSelected_vouched (getSignatureDictionaries_vouched _ _ _)
    (typed_copied (revisionsOf [1909, 5824, 7578])) rfl trustingVerifier_validator
  rw [hselected.unique hsvt] at hcovered
  have hcovers : CoversBytes svtDictionary.byteRange copiedDictionary.byteRange := hcovered
  obtain ⟨start, length, limit, hstart, hlength, hlimit, hle⟩ := hcovers.ends
  cases hstart
  cases hlength
  cases hlimit
  omega

end SigVal.Pdf
