import SigVal.Pdf.DocumentVerdict
import SigVal.Svt.ClaimsIssuer

/-!
# SVT claims about the signatures of a PDF

`PDFSVTSigValClaimsIssuer.verify` validates a document and builds one entry of claims
from each result. A result from which no entry can be built is passed over. The gate
of `SVTUtils` sees the entries only, so it cannot miss what is not there.
-/

namespace SigVal.Pdf

open SigVal.Java SigVal.Cert SigVal.Commons SigVal.Svt
open SVTenabledPDFDocumentSigVerifier AbstractSVTSigValClaimsIssuer SVTUtils
open PDFSVTValidator PDFSVAUtils

variable {Cert : Type} [DecidableEq Cert]

/-- `PDFSVTSigValClaimsIssuer`. -/
structure PDFSVTSigValClaimsIssuer (Cert : Type) where
  defaultBasicValidation : Bool := false
  signatureVerifier : SVTenabledPDFDocumentSigVerifier Cert

/-- The libraries of the validator and of the issuer. -/
structure PdfIssuerEnv (Cert : Type) where
  validation : PdfSvtEnv Cert
  claims : ClaimsIssuerEnv Cert (PdfTimeStamp Cert)

namespace PDFSVTSigValClaimsIssuer

/-- `getSigRefData` on the CMS of a signature, `null` when the validator did not get
that far. -/
def getSigRefData (env : PdfIssuerEnv Cert) (contentInfoBytes : Option Bytes)
    (hashAlgoUri : String) : Outcome SigReferenceClaims := do
  let contentInfoBytes ← deref contentInfoBytes
  let signedData ← env.validation.getSignedDataFromSignature contentInfoBytes
  let signerInfo ← signedData.signerInfo
  let sigAttrsEncBytes ← deref signerInfo.authenticatedAttributes
  let sigHash ← getB64Hash env.claims signerInfo.encryptedDigest hashAlgoUri
  let sbHash ← getB64Hash env.claims sigAttrsEncBytes hashAlgoUri
  pure ⟨none, sigHash, sbHash⟩

def calculateDocRefHash (env : PdfIssuerEnv Cert) (sig : Option PDSignature)
    (signedDocument : Bytes) (hashAlgoUri : String) : Outcome SignedDataClaims := do
  let md ← env.claims.getMessageDigestInstance hashAlgoUri
  let sig ← deref sig
  let signedContent ← env.validation.pdf.getSignedContent sig signedDocument
  let b0 ← arrayGet sig.byteRange 0
  let b1 ← arrayGet sig.byteRange 1
  let b2 ← arrayGet sig.byteRange 2
  let b3 ← arrayGet sig.byteRange 3
  pure
    { ref := toString b0 ++ " " ++ toString b1 ++ " " ++ toString b2 ++ " " ++ toString b3
      hash := env.claims.encodeBase64String (md signedContent) }

/-- The body of the `try` in the loop of `verify`. -/
def claimsData (env : PdfIssuerEnv Cert) (issuer : PDFSVTSigValClaimsIssuer Cert)
    (signedDocument : Bytes) (hashAlgoUri : String) (sigResult : ExtendedPdfSigValResult Cert) :
    Outcome IssuedSignatureClaims := do
  let sigRef ← getSigRefData env sigResult.signedData hashAlgoUri
  let sigVal ← getSignaturePolicyValidations issuer.defaultBasicValidation
    sigResult.toExtendedSigValResult
  let sigDataRef ← calculateDocRefHash env sigResult.pdfSignature signedDocument hashAlgoUri
  let timeVal ← timeVal env.claims sigResult.toExtendedSigValResult hashAlgoUri
  let signerCertRef ← getCertRef env.claims sigResult.toExtendedSigValResult hashAlgoUri
  pure ⟨sigRef, sigVal, [sigDataRef], timeVal, signerCertRef⟩

def verify (env : PdfIssuerEnv Cert) (now : Date) (issuer : PDFSVTSigValClaimsIssuer Cert)
    (signedDocument : Bytes) (hashAlgoUri : String) : Outcome (List IssuedSignatureClaims) := do
  let pdfSigVerifyResultDocument ←
    extendedResultValidation env.validation now issuer.signatureVerifier signedDocument
  if pdfSigVerifyResultDocument.signatureCount < 1 then pure []
  else do
    let resultList ← deref pdfSigVerifyResultDocument.signatureValidationResults
    pure (resultList.filterMap fun sigResult =>
      (claimsData env issuer signedDocument hashAlgoUri sigResult).toOption)

/-! ## Results from which an entry can be built -/

/-- Everything an entry is built from is there. -/
structure Buildable (env : PdfIssuerEnv Cert) (signedDocument : Bytes) (hashAlgoUri : String)
    (sigResult : ExtendedPdfSigValResult Cert) : Prop where
  algorithm : ∃ md, env.claims.getMessageDigestInstance hashAlgoUri = .ok md
  cms : ∃ contentInfoBytes signedData signerInfo attributes,
    sigResult.signedData = some contentInfoBytes ∧
    env.validation.getSignedDataFromSignature contentInfoBytes = .ok signedData ∧
    signedData.signerInfo = .ok signerInfo ∧ signerInfo.authenticatedAttributes = some attributes
  policies : ∃ pvList, sigResult.validationPolicyResultList = some pvList
  dictionary : ∃ sig signedContent, sigResult.pdfSignature = some sig ∧
    env.validation.pdf.getSignedContent sig signedDocument = .ok signedContent ∧
    4 ≤ sig.byteRange.length
  times : ∃ results, sigResult.timeValidationResults = some results ∧
    ∀ t ∈ results, TimeExtractable env.claims hashAlgoUri t
  certificates : ∃ result, sigResult.certificateValidationResult = some result ∧
    CertsReferable env.claims sigResult.toExtendedSigValResult
      (result.getValidatedCertificatePath.getD [])

section Building

variable {env : PdfIssuerEnv Cert} {issuer : PDFSVTSigValClaimsIssuer Cert}
  {signedDocument : Bytes} {hashAlgoUri : String} {sigResult : ExtendedPdfSigValResult Cert}

omit [DecidableEq Cert] in
theorem getSigRefData_ok_iff {contentInfoBytes : Option Bytes} :
    (∃ sigRef, getSigRefData env contentInfoBytes hashAlgoUri = .ok sigRef) ↔
      (∃ bytes signedData signerInfo attributes, contentInfoBytes = some bytes ∧
        env.validation.getSignedDataFromSignature bytes = .ok signedData ∧
        signedData.signerInfo = .ok signerInfo ∧
        signerInfo.authenticatedAttributes = some attributes) ∧
      ∃ md, env.claims.getMessageDigestInstance hashAlgoUri = .ok md := by
  simp only [getSigRefData, exists_bind_ok_iff, deref_ok_iff, exists_pure_ok, and_true,
    getB64Hash_ok_iff]
  constructor
  · rintro ⟨bytes, hbytes, signedData, hdata, signerInfo, hinfo, attributes, hattributes, hash,
      hhash, hmd⟩
    exact ⟨⟨bytes, signedData, signerInfo, attributes, hbytes, hdata, hinfo, hattributes⟩, hmd⟩
  · rintro ⟨⟨bytes, signedData, signerInfo, attributes, hbytes, hdata, hinfo, hattributes⟩, hmd⟩
    obtain ⟨hash, hhash⟩ := getB64Hash_ok_iff.mpr hmd
    exact ⟨bytes, hbytes, signedData, hdata, signerInfo, hinfo, attributes, hattributes, hash,
      hhash, hmd⟩

omit [DecidableEq Cert] in
theorem calculateDocRefHash_ok_iff {sig : Option PDSignature} :
    (∃ sigDataRef, calculateDocRefHash env sig signedDocument hashAlgoUri = .ok sigDataRef) ↔
      (∃ md, env.claims.getMessageDigestInstance hashAlgoUri = .ok md) ∧
      ∃ s signedContent, sig = some s ∧
        env.validation.pdf.getSignedContent s signedDocument = .ok signedContent ∧
        4 ≤ s.byteRange.length := by
  simp only [calculateDocRefHash, exists_bind_ok_iff, deref_ok_iff, exists_pure_ok, and_true,
    arrayGet_ok_iff]
  constructor
  · rintro ⟨md, hmd, s, hs, content, hcontent, -, -, -, -, -, -, b, hb⟩
    refine ⟨⟨md, hmd⟩, s, content, hs, hcontent, ?_⟩
    have hlt := (List.getElem?_eq_some_iff.mp hb).1
    omega
  · rintro ⟨⟨md, hmd⟩, s, content, hs, hcontent, hlength⟩
    have hget : ∀ i < 4, ∃ b, s.byteRange[i]? = some b := by
      intro i hi
      exact ⟨_, List.getElem?_eq_getElem (by omega)⟩
    obtain ⟨b0, h0⟩ := hget 0 (by omega)
    obtain ⟨b1, h1⟩ := hget 1 (by omega)
    obtain ⟨b2, h2⟩ := hget 2 (by omega)
    exact ⟨md, hmd, s, hs, content, hcontent, b0, h0, b1, h1, b2, h2, hget 3 (by omega)⟩

/-- An entry is built when everything is there, whatever it says. -/
theorem claimsData_ok_iff :
    (∃ claims, claimsData env issuer signedDocument hashAlgoUri sigResult = .ok claims) ↔
      Buildable env signedDocument hashAlgoUri sigResult := by
  have hsplit : (∃ claims, claimsData env issuer signedDocument hashAlgoUri sigResult =
        .ok claims) ↔
      (∃ a, getSigRefData env sigResult.signedData hashAlgoUri = .ok a) ∧
      (∃ b, getSignaturePolicyValidations issuer.defaultBasicValidation
        sigResult.toExtendedSigValResult = .ok b) ∧
      (∃ c, calculateDocRefHash env sigResult.pdfSignature signedDocument hashAlgoUri = .ok c) ∧
      (∃ d, timeVal env.claims sigResult.toExtendedSigValResult hashAlgoUri = .ok d) ∧
      ∃ e, getCertRef env.claims sigResult.toExtendedSigValResult hashAlgoUri = .ok e := by
    simp only [claimsData, exists_bind_ok_iff, exists_pure_ok, and_true, exists_and_right]
  rw [hsplit, getSigRefData_ok_iff, getSignaturePolicyValidations_ok_iff,
    calculateDocRefHash_ok_iff, timeVal_ok_iff, getCertRef_ok_iff]
  constructor
  · rintro ⟨⟨hcms, hmd⟩, hpolicies, ⟨-, hdictionary⟩, htimes, -, hcertificates⟩
    exact ⟨hmd, hcms, hpolicies, hdictionary, htimes, hcertificates⟩
  · intro h
    exact ⟨⟨h.cms, h.algorithm⟩, h.policies, ⟨h.algorithm, h.dictionary⟩, h.times, h.algorithm,
      h.certificates⟩

end Building

/-! ## The claims about a document -/

omit [DecidableEq Cert] in
theorem concluding_results (results : List (ExtendedPdfSigValResult Cert)) :
    (getConcludingSigVerifyResult results).signatureValidationResults = some results ∧
      (getConcludingSigVerifyResult results).signatureCount = results.length :=
  concludingResult_results _ results

section Documents

variable {env : PdfIssuerEnv Cert} {now : Date} {issuer : PDFSVTSigValClaimsIssuer Cert}
  {signedDocument : Bytes} {hashAlgoUri : String}

/-- The entries are those of the results from which one can be built. -/
theorem verify_ok_iff {claims : List IssuedSignatureClaims} :
    verify env now issuer signedDocument hashAlgoUri = .ok claims ↔
      ∃ results, validate env.validation now issuer.signatureVerifier signedDocument =
          .ok results ∧
        claims = results.filterMap fun sigResult =>
          (claimsData env issuer signedDocument hashAlgoUri sigResult).toOption := by
  unfold verify extendedResultValidation
  simp only [bind_ok_iff]
  constructor
  · rintro ⟨document, ⟨results, hresults, hdocument⟩, hclaims⟩
    cases hdocument
    obtain ⟨hlist, hcount⟩ := concluding_results results
    refine ⟨results, hresults, ?_⟩
    rw [hlist, hcount] at hclaims
    split at hclaims
    · rename_i hnone
      have hnil : results = [] := List.length_eq_zero_iff.mp (by omega)
      cases hclaims
      rw [hnil]
      rfl
    · cases hclaims
      rfl
  · rintro ⟨results, hresults, rfl⟩
    refine ⟨_, ⟨results, hresults, rfl⟩, ?_⟩
    obtain ⟨hlist, hcount⟩ := concluding_results results
    rw [hlist, hcount]
    split
    · rename_i hnone
      have hnil : results = [] := List.length_eq_zero_iff.mp (by omega)
      rw [hnil]
      rfl
    · rfl

/-- The entries built from some results are one for each exactly when each of them
yields one. -/
theorem forall₂_filterMap_toOption {α β : Type} {f : α → Outcome β} {l : List α} :
    List.Forall₂ (fun a b => f a = .ok b) l (l.filterMap fun a => (f a).toOption) ↔
      ∀ a ∈ l, ∃ b, f a = .ok b := by
  constructor
  · intro h
    have hpairs : List.Forall₂ (fun a b => (∃ b, f a = .ok b) ∧ f a = .ok b) l
        (l.filterMap fun a => (f a).toOption) := h.imp fun a b hb => ⟨⟨b, hb⟩, hb⟩
    exact ((List.forall₂_and_left l _).mp hpairs).1
  · intro h
    induction l with
    | nil => exact .nil
    | cons a rest ih =>
        rw [List.forall_mem_cons] at h
        obtain ⟨⟨b, hb⟩, hrest⟩ := h
        rw [List.filterMap_cons_some (by rw [hb]; rfl)]
        exact .cons hb (ih hrest)

end Documents

/-- The signature has policy results, and all of them passed. -/
def PolicyPassed (issuer : PDFSVTSigValClaimsIssuer Cert)
    (sigResult : ExtendedPdfSigValResult Cert) : Prop :=
  ∃ sigVal, getSignaturePolicyValidations issuer.defaultBasicValidation
      sigResult.toExtendedSigValResult = .ok sigVal ∧
    sigVal ≠ [] ∧ ∀ p ∈ sigVal, p.res = .PASSED

/-- A policy result of the signature did not pass. -/
def PolicyFailed (issuer : PDFSVTSigValClaimsIssuer Cert)
    (sigResult : ExtendedPdfSigValResult Cert) : Prop :=
  ∃ sigVal, getSignaturePolicyValidations issuer.defaultBasicValidation
      sigResult.toExtendedSigValResult = .ok sigVal ∧ ∃ p ∈ sigVal, p.res ≠ .PASSED

/-- The signature is not without policy results, or is given one. -/
def HasPolicyResult (issuer : PDFSVTSigValClaimsIssuer Cert)
    (sigResult : ExtendedPdfSigValResult Cert) : Prop :=
  issuer.defaultBasicValidation = true ∨ sigResult.validationPolicyResultList ≠ some []

/-- Every result of the document has its entry, and a token with the entries passes the
gate only when every signature of the document was validated. -/
def DocumentCovered (env : PdfIssuerEnv Cert) (now : Date)
    (issuer : PDFSVTSigValClaimsIssuer Cert) (signedDocument : Bytes) (hashAlgoUri : String) :
    Prop :=
  ∀ results claims, validate env.validation now issuer.signatureVerifier signedDocument =
      .ok results → verify env now issuer signedDocument hashAlgoUri = .ok claims →
    List.Forall₂ (fun sigResult entry =>
        claimsData env issuer signedDocument hashAlgoUri sigResult = .ok entry) results claims ∧
      ∀ jwt, Entries jwt (claims.map (·.toSignatureClaims)) →
        checkValidatedSignatures (some jwt) = .ok true →
        ∀ sigResult ∈ results, PolicyPassed issuer sigResult

/-- Every result yields an entry, and none is without policy results unless one that
did not pass closes the gate anyway. -/
def DocumentComplete (env : PdfIssuerEnv Cert) (now : Date)
    (issuer : PDFSVTSigValClaimsIssuer Cert) (signedDocument : Bytes) (hashAlgoUri : String) :
    Prop :=
  ∀ results, validate env.validation now issuer.signatureVerifier signedDocument = .ok results →
    (∀ sigResult ∈ results, Buildable env signedDocument hashAlgoUri sigResult) ∧
      ((∀ sigResult ∈ results, HasPolicyResult issuer sigResult) ∨
        ∃ sigResult ∈ results, PolicyFailed issuer sigResult)

section Coverage

variable {env : PdfIssuerEnv Cert} {now : Date} {issuer : PDFSVTSigValClaimsIssuer Cert}
  {signedDocument : Bytes} {hashAlgoUri : String} {sigResult : ExtendedPdfSigValResult Cert}

/-- What the parts of an entry are. -/
theorem claimsData_ok {entry : IssuedSignatureClaims}
    (h : claimsData env issuer signedDocument hashAlgoUri sigResult = .ok entry) :
    getSigRefData env sigResult.signedData hashAlgoUri = .ok entry.sigRef ∧
      getSignaturePolicyValidations issuer.defaultBasicValidation
        sigResult.toExtendedSigValResult = .ok entry.sigVal ∧
      (∃ sigDataRef, calculateDocRefHash env sigResult.pdfSignature signedDocument hashAlgoUri =
        .ok sigDataRef ∧ entry.sigDataRef = [sigDataRef]) ∧
      timeVal env.claims sigResult.toExtendedSigValResult hashAlgoUri = .ok entry.timeVal := by
  unfold claimsData at h
  obtain ⟨sigRef, hsigRef, h⟩ := bind_ok_iff.mp h
  obtain ⟨sigVal, hsigVal, h⟩ := bind_ok_iff.mp h
  obtain ⟨sigDataRef, hsigDataRef, h⟩ := bind_ok_iff.mp h
  obtain ⟨timeVal, htimeVal, h⟩ := bind_ok_iff.mp h
  obtain ⟨signerCertRef, -, h⟩ := bind_ok_iff.mp h
  cases h
  exact ⟨hsigRef, hsigVal, ⟨sigDataRef, hsigDataRef, rfl⟩, htimeVal⟩

omit [DecidableEq Cert] in
theorem sigVal_eq_nil_iff {sigVal : List PolicyValidationClaims}
    (h : getSignaturePolicyValidations issuer.defaultBasicValidation
      sigResult.toExtendedSigValResult = .ok sigVal) :
    sigVal = [] ↔ ¬ HasPolicyResult issuer sigResult := by
  unfold getSignaturePolicyValidations at h
  obtain ⟨pvList, hpvList, h⟩ := bind_ok_iff.mp h
  rw [deref_ok_iff] at hpvList
  unfold HasPolicyResult
  rw [hpvList]
  split at h
  · rename_i hdefault
    cases h
    simp only [Bool.and_eq_true] at hdefault
    simp [hdefault.2]
  · rename_i hdefault
    cases h
    simp only [Bool.and_eq_true, List.isEmpty_iff, not_and] at hdefault
    constructor
    · rintro rfl
      simpa using hdefault rfl
    · intro hnone
      push Not at hnone
      simpa using hnone.2

/-- The entry of a signature closes the gate exactly when a policy result of the
signature did not pass. -/
theorem notAllPassed_iff {entry : IssuedSignatureClaims}
    (h : claimsData env issuer signedDocument hashAlgoUri sigResult = .ok entry) :
    NotAllPassed entry.toSignatureClaims ↔ PolicyFailed issuer sigResult := by
  obtain ⟨-, hsigVal, -⟩ := claimsData_ok h
  unfold NotAllPassed PolicyFailed
  rw [hsigVal]
  simp [IssuedSignatureClaims.toSignatureClaims]

/-- A token with these entries. -/
def tokenWith (claims : List IssuedSignatureClaims) : SignedJWT where
  header := ⟨"RS256", none, none⟩
  claimsSet := some ⟨none, none, none, none, some ⟨none, some (claims.map (·.toSignatureClaims))⟩⟩
  signingInput := []
  signature := []

theorem entries_tokenWith (claims : List IssuedSignatureClaims) :
    Entries (tokenWith claims) (claims.map (·.toSignatureClaims)) := ⟨_, _, rfl, rfl, rfl⟩

/-- The gate is open for the entries of a document when no policy result of a signature
with an entry failed. -/
theorem gate_open_iff {results : List (ExtendedPdfSigValResult Cert)} {jwt : SignedJWT}
    (hbuilt : ∀ sigResult ∈ results, ∃ entry,
      claimsData env issuer signedDocument hashAlgoUri sigResult = .ok entry)
    (hentries : Entries jwt ((results.filterMap fun sigResult =>
      (claimsData env issuer signedDocument hashAlgoUri sigResult).toOption).map
        (·.toSignatureClaims))) :
    checkValidatedSignatures (some jwt) = .ok true ↔
      ∀ sigResult ∈ results, ¬ PolicyFailed issuer sigResult := by
  rw [checkValidatedSignatures_true_iff]
  constructor
  · rintro ⟨sig, hsig, hpassed⟩ sigResult hmem hfailed
    rw [hsig.unique hentries] at hpassed
    obtain ⟨entry, hentry⟩ := hbuilt sigResult hmem
    have hlisted : entry ∈ results.filterMap fun sigResult =>
        (claimsData env issuer signedDocument hashAlgoUri sigResult).toOption :=
      List.mem_filterMap.mpr ⟨sigResult, hmem, by rw [hentry]; rfl⟩
    exact hpassed _ (List.mem_map_of_mem hlisted) ((notAllPassed_iff hentry).mpr hfailed)
  · intro hpassed
    refine ⟨_, hentries, ?_⟩
    intro claims hclaims hfailed
    obtain ⟨entry, hlisted, rfl⟩ := List.mem_map.mp hclaims
    obtain ⟨sigResult, hmem, hsome⟩ := List.mem_filterMap.mp hlisted
    obtain ⟨entry', hentry⟩ := hbuilt sigResult hmem
    rw [hentry] at hsome
    cases hsome
    exact hpassed sigResult hmem ((notAllPassed_iff hentry).mp hfailed)

theorem documentCovered_iff :
    DocumentCovered env now issuer signedDocument hashAlgoUri ↔
      DocumentComplete env now issuer signedDocument hashAlgoUri := by
  constructor
  · intro h results hresults
    obtain ⟨hentries, hgate⟩ := h results _ hresults (verify_ok_iff.mpr ⟨results, hresults, rfl⟩)
    have hbuilt := forall₂_filterMap_toOption.mp hentries
    refine ⟨fun sigResult hmem => claimsData_ok_iff.mp (hbuilt sigResult hmem), ?_⟩
    by_cases hfailed : ∃ sigResult ∈ results, PolicyFailed issuer sigResult
    · exact Or.inr hfailed
    · apply Or.inl
      intro sigResult hmem
      push Not at hfailed
      have hopen := (gate_open_iff hbuilt (entries_tokenWith _)).mpr hfailed
      obtain ⟨sigVal, hsigVal, hne, -⟩ := hgate _ (entries_tokenWith _) hopen sigResult hmem
      by_contra hnone
      exact hne ((sigVal_eq_nil_iff hsigVal).mpr hnone)
  · intro h results claims hresults hverify
    obtain ⟨results', hresults', rfl⟩ := verify_ok_iff.mp hverify
    rw [hresults] at hresults'
    cases hresults'
    obtain ⟨hbuildable, hpolicies⟩ := h results hresults
    have hbuilt : ∀ sigResult ∈ results, ∃ entry,
        claimsData env issuer signedDocument hashAlgoUri sigResult = .ok entry :=
      fun sigResult hmem => claimsData_ok_iff.mpr (hbuildable sigResult hmem)
    refine ⟨forall₂_filterMap_toOption.mpr hbuilt, ?_⟩
    intro jwt hentries hopen sigResult hmem
    have hpassed := (gate_open_iff hbuilt hentries).mp hopen
    rcases hpolicies with hsome | ⟨failed, hmem', hfailed⟩
    · obtain ⟨entry, hentry⟩ := hbuilt sigResult hmem
      obtain ⟨-, hsigVal, -⟩ := claimsData_ok hentry
      refine ⟨entry.sigVal, hsigVal, ?_, ?_⟩
      · intro hnil
        exact (sigVal_eq_nil_iff hsigVal).mp hnil (hsome sigResult hmem)
      · intro p hp
        by_contra hres
        exact hpassed sigResult hmem ⟨entry.sigVal, hsigVal, p, hp, hres⟩
    · exact absurd hfailed (hpassed failed hmem')

end Coverage

/-- **When an SVT asserts success of validated signatures only.** For every token and
every document: the gate opens only for entries with policy results that all passed,
and every signature of the document has an entry, exactly when no entry of the token is
empty where nothing failed and every result of the document yields an entry with policy
results of its own. -/
theorem success_asserted_iff (env : PdfIssuerEnv Cert) (now : Date)
    (issuer : PDFSVTSigValClaimsIssuer Cert) (jwt : SignedJWT) (signedDocument : Bytes)
    (hashAlgoUri : String) :
    GateSound jwt ∧ DocumentCovered env now issuer signedDocument hashAlgoUri ↔
      NotVacuous jwt ∧ DocumentComplete env now issuer signedDocument hashAlgoUri :=
  and_congr gateSound_iff documentCovered_iff

/-! The document with an SVT timestamp, and a last revision with a signature whose CMS cannot be
parsed. -/

def brokenHead : Bytes :=
  ofLines (fieldHead ++ ["<</Type/Sig/Filter/Adobe.PPKLite/SubFilter/ETSI.CAdES.detached",
    "/ByteRange[0 6122 6126 146]/Contents"])

theorem broken_lengths :
    brokenHead.length = 298 ∧ (ofLines (fieldTail "6136")).length = 146 := by
  decide +kernel

theorem brokenCms_length : [(0 : UInt8)].length = 1 := rfl

theorem brokenFile_head : (svtFile.bytes ++ brokenHead).length = 6122 := by
  rw [List.length_append, svtFile_length, broken_lengths.1]

def brokenFile : SignedFile where
  head := svtFile.bytes ++ brokenHead
  cms := [0]
  tail := ofLines (fieldTail "6136")
  size := by
    rw [brokenFile_head, broken_lengths.2]
    decide

def brokenDictionary : PDSignature := ⟨[0, 6122, 6126, 146], some "ETSI.CAdES.detached"⟩

theorem brokenDictionary_byteRange : brokenDictionary.byteRange = brokenFile.byteRange := by
  rw [brokenFile.byteRange_of brokenFile_head brokenCms_length broken_lengths.2]
  rfl

def brokenUpdate : Bytes := brokenHead ++ hexString [0] ++ ofLines (fieldTail "6136")

theorem brokenFile_bytes : svtFile.bytes ++ brokenUpdate = brokenFile.bytes ++ [] := by
  show _ = svtFile.bytes ++ brokenHead ++ hexString [0] ++ ofLines (fieldTail "6136") ++ []
  unfold brokenUpdate
  simp only [List.append_assoc, List.append_nil]

theorem broken_contents : readContents brokenDictionary (svtFile.bytes ++ brokenUpdate) =
    .ok [0] := by
  rw [brokenFile_bytes]
  exact SignedFile.readContents_bytes brokenDictionary_byteRange []

theorem broken_content : readSignedContent brokenDictionary (svtFile.bytes ++ brokenUpdate) =
    .ok brokenFile.content := by
  rw [brokenFile_bytes]
  exact SignedFile.readSignedContent_bytes brokenDictionary_byteRange []

def brokenRevisions : List PDFDocRevision := revisionsOf [1909, 5824, 6272]

/-- The SHA-384 digests of what `digest256` has the others of. -/
def digest384 (data : Bytes) : Bytes :=
  if data = signatureValue then
    ofNumbers 24
      [0x5A5B4B31D6376C590A455255A32A8831310C41D36291D9AE,
        0xF98FD0615C9B5CAA1804D5F074D73E0A016C3A64EE4830BF]
  else if data = signedAttributes then
    ofNumbers 24
      [0x715B8779026E20E9CFBF4ED2C89E85BB16A493EE4FE10686,
        0xB5B7A7561F66BB0780523C5E6C7CBCFA6DEF7628F311C36C]
  else if data = signedFile.content then
    ofNumbers 24
      [0x05C2DB97CDAD825D7968555010E1B29E25DA3E88EADD0C12,
        0x5D483171079B219F766430E253DF44CD37296CA1E18CBED3]
  else []

def fileClaims : ClaimsIssuerEnv Nat (PdfTimeStamp Nat) where
  getMessageDigestInstance := fun uri =>
    if uri = DigestAlgorithm.idSHA256 then .ok digest256
    else if uri = "http://www.w3.org/2001/04/xmldsig-more#sha384" then .ok digest384
    else .error ⟨.noSuchAlgorithm, "Unsupported hash algorithm"⟩
  encodeBase64String := encodeBase64String
  getEncoded := vouchedSvtEnv.getEncoded
  registry := DigestAlgorithmRegistry.initial
  getInstance := fun _ => .ok digest256
  getTimeStampSigBytes := fun _ => none

def brokenEnv : PdfIssuerEnv Nat where
  validation := vouchedEnv [brokenDictionary] brokenRevisions
  claims := fileClaims

def brokenIssuer : PDFSVTSigValClaimsIssuer Nat where
  signatureVerifier := pkixVerifier

theorem typeOf_broken : typeOf (vouchedEnv [brokenDictionary] brokenRevisions)
    (svtFile.bytes ++ brokenUpdate) brokenDictionary = .ok .SIGNATURE_TYPE := by
  unfold typeOf
  rw [vouched_getContents, broken_contents]
  rfl

theorem broken_ne : [(0 : UInt8)] ≠ signedCms := by
  intro h
  have hlength := congrArg List.length h
  rw [signedCms_length] at hlength
  cases hlength

theorem signedDataOf_broken : signedDataOf [0] =
    .error ⟨.io, "Illegal content for PDF signature. Must contain SignedData"⟩ := by
  unfold signedDataOf
  rw [if_neg broken_ne]

theorem parseSigned_broken (content : Bytes) :
    parseSigned [0] content = .error ⟨.io, "no CMS"⟩ := by
  unfold parseSigned
  rw [if_neg broken_ne]

theorem typed_broken : ([brokenDictionary].mapM fun signature => do
    let type ← typeOf (vouchedEnv [brokenDictionary] brokenRevisions)
      (svtFile.bytes ++ brokenUpdate) signature
    pure (signature, type)) = .ok [(brokenDictionary, .SIGNATURE_TYPE)] :=
  mapM_ok_cons (typed_of typeOf_broken) (List.mapM_nil ..)

theorem broken_located :
    (DefaultPDFSignatureContext.mk (svtFile.bytes ++ brokenUpdate)
      brokenRevisions).isCoversWholeDocument signedDictionary = .ok false := rfl

theorem broken_covers :
    (DefaultPDFSignatureContext.mk (svtFile.bytes ++ brokenUpdate)
      brokenRevisions).isCoversWholeDocument brokenDictionary = .ok true := rfl

/-- The results of the two signatures. -/
theorem validate_broken :
    validate (vouchedEnv [brokenDictionary] brokenRevisions) 1795100500000 pkixVerifier
        (svtFile.bytes ++ brokenUpdate) =
      .ok [svtResult signedDictionary ⟨svtFile.bytes ++ brokenUpdate, brokenRevisions⟩ false,
        getErrorResult brokenDictionary "no CMS"] := by
  have hcontent : (vouchedEnv [brokenDictionary] brokenRevisions).pdf.getSignedContent =
      readSignedContent := rfl
  have hdata : (vouchedEnv [brokenDictionary] brokenRevisions).getSignedDataFromSignature =
      signedDataOf := rfl
  have hparse : (vouchedEnv [brokenDictionary] brokenRevisions).pdf.parseCMS = parseSigned := rfl
  obtain ⟨docTimestamps, svtResults, hvalidate, -⟩ :=
    validate_vouched typed_broken rfl pkixVerifier_validator broken_located
  rw [signatureList_cons_signature typeOf_broken, signatureList_nil, List.map_cons, List.map_nil,
    validateSignature_of_error (by rw [vouched_getContents, broken_contents])
      (by rw [hcontent, broken_content]) broken_covers (by rw [hdata, signedDataOf_broken])
      (by rw [hparse, parseSigned_broken])]
    at hvalidate
  exact hvalidate

/-- From the result of the signature an entry can be built. -/
theorem buildable_signed (signatureContext : DefaultPDFSignatureContext) (covers : Bool) :
    Buildable brokenEnv (svtFile.bytes ++ brokenUpdate) DigestAlgorithm.idSHA256
      (svtResult signedDictionary signatureContext covers) where
  algorithm := ⟨digest256, rfl⟩
  cms := ⟨signedCms, _, _, _, rfl, signedDataOf_signed, rfl, rfl⟩
  policies := ⟨_, rfl⟩
  dictionary := ⟨signedDictionary, _, rfl, signed_content _, Nat.le_refl 4⟩
  times := by
    refine ⟨_, rfl, ?_⟩
    intro t ht timeStamp htimeStamp
    rw [List.mem_singleton.mp ht] at htimeStamp
    cases htimeStamp
  certificates := by
    refine ⟨_, rfl, ⟨_, rfl⟩, ?_⟩
    intro cert _
    exact ⟨_, rfl⟩

theorem policyPassed_signed (signatureContext : DefaultPDFSignatureContext) (covers : Bool) :
    ¬ PolicyFailed brokenIssuer (svtResult signedDictionary signatureContext covers) := by
  rintro ⟨sigVal, hsigVal, p, hp, hres⟩
  cases hsigVal
  rw [List.mem_singleton.mp hp] at hres
  exact hres rfl

theorem brokenIssuer_verifier : brokenIssuer.signatureVerifier = pkixVerifier := rfl

/-- The second signature fails and has no entry, and the gate is open for what is left
of the document. It is open for no entries at all, too. -/
theorem broken_signature_passed_over :
    (∃ signed broken entry,
      validate brokenEnv.validation 1795100500000 pkixVerifier (svtFile.bytes ++ brokenUpdate) =
        .ok [signed, broken] ∧
      broken.pdfSignature = some brokenDictionary ∧ broken.status = .ERROR_INVALID_SIGNATURE ∧
      verify brokenEnv 1795100500000 brokenIssuer (svtFile.bytes ++ brokenUpdate)
        DigestAlgorithm.idSHA256 = .ok [entry] ∧
      checkValidatedSignatures (some (tokenWith [entry])) = .ok true) ∧
    ¬ DocumentCovered brokenEnv 1795100500000 brokenIssuer (svtFile.bytes ++ brokenUpdate)
      DigestAlgorithm.idSHA256 ∧
    checkValidatedSignatures (some (tokenWith [])) = .ok true ∧ ¬ GateSound (tokenWith []) := by
  have hvalidation : brokenEnv.validation = vouchedEnv [brokenDictionary] brokenRevisions := rfl
  have hvalidate := validate_broken
  rw [← hvalidation, ← brokenIssuer_verifier] at hvalidate
  obtain ⟨entry, hentry⟩ : ∃ entry, claimsData brokenEnv brokenIssuer
      (svtFile.bytes ++ brokenUpdate) DigestAlgorithm.idSHA256
      (svtResult signedDictionary ⟨svtFile.bytes ++ brokenUpdate, brokenRevisions⟩ false) =
        .ok entry :=
    claimsData_ok_iff.mpr (buildable_signed _ _)
  have hnone : (claimsData brokenEnv brokenIssuer (svtFile.bytes ++ brokenUpdate)
      DigestAlgorithm.idSHA256 (getErrorResult brokenDictionary "no CMS")).toOption = none := rfl
  have hverify : verify brokenEnv 1795100500000 brokenIssuer (svtFile.bytes ++ brokenUpdate)
      DigestAlgorithm.idSHA256 = .ok [entry] := by
    refine verify_ok_iff.mpr ⟨_, hvalidate, ?_⟩
    rw [List.filterMap_cons_some (by rw [hentry]; rfl), List.filterMap_cons, hnone,
      List.filterMap_nil]
  have hopen : checkValidatedSignatures (some (tokenWith [entry])) = .ok true := by
    refine checkValidatedSignatures_true_iff.mpr ⟨_, entries_tokenWith _, ?_⟩
    intro claims hclaims
    rw [List.map_singleton, List.mem_singleton] at hclaims
    rw [hclaims, notAllPassed_iff hentry]
    exact policyPassed_signed _ _
  refine ⟨⟨_, _, entry, hvalidate, rfl, rfl, hverify, hopen⟩, ?_, rfl, ?_⟩
  · intro hcovered
    have hlength := (hcovered _ _ hvalidate hverify).1.length_eq
    cases hlength
  · intro hsound
    obtain ⟨sig, hentries, hne, -⟩ := hsound.2 rfl
    exact hne (hentries.unique (entries_tokenWith []))

end PDFSVTSigValClaimsIssuer

end SigVal.Pdf
