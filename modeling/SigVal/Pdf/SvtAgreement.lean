import SigVal.Pdf.RevisionEnds
import SigVal.Pdf.SvtClaimsIssuer

/-!
# SVT issuer and SVT validator of a PDF

The issuer takes the references of a signature from the document as it is before the
token is added, the validator from the document with the token and whatever else was
appended since. Both read the CMS and the signed bytes by the byte range of the
signature, which ends within the earlier document, so they read the same. They look up
the digest of the token in different registries, and only there can they part.
-/

namespace SigVal.Pdf

open SigVal.Java SigVal.Cert SigVal.Commons SigVal.Svt PDFSVAUtils PDFSVTValidator
open SVTenabledPDFDocumentSigVerifier PDFSingleSignatureValidator AbstractSVTSigValClaimsIssuer
open PDFSVTSigValClaimsIssuer SigVal.Policy

variable {Cert : Type}

/-! ## What is relied on of the libraries -/

/-- The positions a byte range of four numbers names, in `int` arithmetic: the start and
the end of each of its two parts. -/
structure RangeEnds (signature : PDSignature) (bound : Int) : Prop where
  first : ∀ b, signature.byteRange[0]? = some b → b ≤ bound
  gap : ∀ b c, signature.byteRange[0]? = some b → signature.byteRange[1]? = some c →
    toInt (b + c) ≤ bound
  second : ∀ b, signature.byteRange[2]? = some b → b ≤ bound

/-- The end of the second part. -/
def LastEnd (signature : PDSignature) (bound : Int) : Prop :=
  ∀ len, DefaultPDFSignatureContext.signedLength signature = .ok len → len ≤ bound

/-- The PDF library reads a signature by its byte range: what comes after the range has
no influence, and a CMS and signed bytes that could be read lie within the file, up to
the end of the second part, which is not checked. -/
structure ReadsByByteRange (env : PdfSvtEnv Cert) : Prop where
  appended : ∀ signature doc extension, RangeEnds signature doc.length →
    LastEnd signature doc.length →
    env.pdf.getContents signature (doc ++ extension) = env.pdf.getContents signature doc ∧
    env.pdf.getSignedContent signature (doc ++ extension) =
      env.pdf.getSignedContent signature doc
  inside : ∀ signature doc contents signedContent signedData,
    env.pdf.getContents signature doc = .ok contents →
    env.getSignedDataFromSignature contents = .ok signedData →
    env.pdf.getSignedContent signature doc = .ok signedContent →
      RangeEnds signature doc.length

/-- A CMS from which the signer's certificate was taken has a list of certificates. -/
def ListsCertificates (env : PdfSvtEnv Cert) : Prop :=
  ∀ contents signedContent signedData, env.getSignedDataFromSignature contents = .ok signedData →
    (∃ cms, env.pdf.parseCMS contents signedContent = .ok cms) ∨
      (∃ certs, env.pdf.ts.extractCertificates contents signedContent = .ok certs) →
    ∃ certificates, signedData.certificates = .ok certificates

/-- The context of a document is made from its bytes. -/
def ContextOfBytes (env : PdfSvtEnv Cert) : Prop :=
  ∃ jvm safeObjectProvider loader, ∀ pdfBytes,
    env.getPdfSignatureContext pdfBytes =
      DefaultPDFSignatureContext.ofDocument jvm safeObjectProvider loader pdfBytes

/-- An algorithm both registries know is the same digest in both. -/
def SameDigests (env : PdfIssuerEnv Cert) : Prop :=
  ∀ uri digestAlgorithm md,
    DigestAlgorithmRegistry.get env.validation.svt.registry (some uri) = .ok digestAlgorithm →
    env.claims.getMessageDigestInstance uri = .ok md →
    ∀ bytes, env.validation.svt.toBase64Digest digestAlgorithm bytes =
      .ok (env.claims.encodeBase64String (md bytes))

/-! ## What a result with certificates was made from -/

/-- The CMS of the signature was read, its revision was found and its certificates were
taken out. -/
structure ReadFrom (env : PdfSvtEnv Cert) (doc : Bytes) (ctx : DefaultPDFSignatureContext)
    (signature : PDSignature) (contents : Bytes) : Prop where
  read : env.pdf.getContents signature doc = .ok contents
  located : ∃ covers, ctx.isCoversWholeDocument signature = .ok covers
  certified : ∃ signedContent, env.pdf.getSignedContent signature doc = .ok signedContent ∧
    ((∃ cms, env.pdf.parseCMS contents signedContent = .ok cms) ∨
      ∃ certs, env.pdf.ts.extractCertificates contents signedContent = .ok certs)

section Results

variable {env : PdfSvtEnv Cert} {doc : Bytes} {ctx : DefaultPDFSignatureContext}
  {signature : PDSignature}

/-- Validation without SVT. -/
theorem verifySignature_readFrom {v : PDFSingleSignatureValidator Cert}
    {documentTimestamps : List (PDFDocTimeStamp Cert)} {result : ExtendedPdfSigValResult Cert}
    (h : verifySignature env.pdf v signature doc documentTimestamps ctx = .ok result) :
    ∃ contents, result.signedData = some contents ∧ ReadFrom env doc ctx signature contents := by
  obtain ⟨contents, covers, signedContent, cms, hcontents, hcovers, hsigned, hcms, hsource⟩ :=
    verifySignature_source h
  exact ⟨contents, hsource.signedData, hcontents, ⟨covers, hcovers⟩, signedContent, hsigned,
    .inl ⟨cms, hcms⟩⟩

/-- The certificates of a result that rests on an SVT are those of the signature. -/
theorem takeSvtValidation_certified {TS : Type} (resultEnv : SvtResultEnv Cert)
    (svtValResult : SignatureSVTValidationResult)
    (signerCerts : Outcome (Option Cert × List Cert)) {result : ExtendedSigValResult Cert TS}
    (hnone : result.certificateValidationResult = none) :
    Mutating.wp (takeSvtValidation resultEnv svtValResult signerCerts)
      (fun _ _ => ∃ certs, signerCerts = .ok certs)
      (fun _ base => ∀ r, base.certificateValidationResult = some r →
        ∃ certs, signerCerts = .ok certs) result := by
  unfold takeSvtValidation
  simp only [Mutating.wp_bind, Mutating.wp_call, Mutating.wp_modify]
  refine ⟨?_, fun _ _ r hr => (by rw [hnone] at hr; cases hr)⟩
  intro uri _
  refine ⟨?_, fun _ _ r hr => (by rw [hnone] at hr; cases hr)⟩
  intro cert _
  refine ⟨?_, fun _ _ r hr => (by rw [hnone] at hr; cases hr)⟩
  intro _ _
  refine ⟨?_, fun _ _ r hr => (by rw [hnone] at hr; cases hr)⟩
  intro certs hcerts
  -- from here on the certificates are there, whatever follows
  have hdone : ∃ certs, signerCerts = .ok certs := ⟨certs, hcerts⟩
  split
  · simp only [Mutating.wp_bind, Mutating.wp_call, Mutating.wp_modify, hdone, implies_true,
      and_true]
  · simp only [Mutating.wp_bind, Mutating.wp_call, Mutating.wp_modify, hdone, implies_true,
      and_true]

theorem complie_readFrom (svtValResult : SignatureSVTValidationResult) :
    ∀ r contents,
      (compliePDFSigValResultsFromSvtValidation env svtValResult signature doc
        ctx).certificateValidationResult = some r →
      (compliePDFSigValResultsFromSvtValidation env svtValResult signature doc ctx).signedData =
        some contents → ReadFrom env doc ctx signature contents := by
  -- before the certificates are taken there is nothing to show
  have hbefore : ∀ {certified : Option (CertificateValidationResult Cert)} {signed : Option Bytes},
      certified = none → ∀ r contents, certified = some r → signed = some contents →
        ReadFrom env doc ctx signature contents := by
    rintro _ _ rfl _ _ ⟨⟩
  unfold compliePDFSigValResultsFromSvtValidation
  refine Mutating.tryCatch_of_wp (P := fun result : ExtendedPdfSigValResult Cert =>
    ∀ r contents, result.certificateValidationResult = some r →
      result.signedData = some contents → ReadFrom env doc ctx signature contents) ?_
  unfold svtValidationBody
  simp only [Mutating.wp_bind, Mutating.wp_modify, Mutating.wp_call, Mutating.wp_zoom]
  refine ⟨?_, fun _ _ => hbefore rfl⟩
  intro sigBytes hcontents
  refine ⟨?_, fun _ _ => hbefore rfl⟩
  intro signedData _
  refine ⟨?_, fun _ _ => hbefore rfl⟩
  intro subFilter _
  refine ⟨?_, fun _ _ => hbefore rfl⟩
  intro time _
  refine ⟨?_, fun _ _ => hbefore rfl⟩
  intro covers hcovers
  -- the certificates need the signed bytes
  have hread : (∃ certs, cmsSigCerts env signature doc = .ok certs) →
      ReadFrom env doc ctx signature sigBytes := by
    rintro ⟨certs, hcerts⟩
    unfold cmsSigCerts at hcerts
    obtain ⟨contents, hcontents', hcerts⟩ := bind_ok_iff.mp hcerts
    obtain ⟨signedContent, hsigned, hcerts⟩ := bind_ok_iff.mp hcerts
    obtain ⟨extracted, hextracted, -⟩ := bind_ok_iff.mp hcerts
    rw [hcontents] at hcontents'
    cases hcontents'
    exact ⟨hcontents, ⟨covers, hcovers⟩, signedContent, hsigned, .inr ⟨extracted, hextracted⟩⟩
  refine Mutating.wp_mono (takeSvtValidation_certified env.result svtValResult _ rfl) ?_ ?_
  · intro _ base hcerts r contents _ hsigned
    cases hsigned
    exact hread hcerts
  · intro ex base hcerts r contents hr hsigned
    cases hsigned
    exact hread (hcerts r hr)

/-- On both ways through `validate`. -/
theorem validateSignature_readFrom {v : SVTenabledPDFDocumentSigVerifier Cert}
    {docTimestamps : List PDSignature}
    {svtResults : Option (List SignatureSVTValidationResult)}
    {r : CertificateValidationResult Cert} {contents : Bytes}
    (hcertificates : (validateSignature env v doc ctx docTimestamps svtResults
      signature).certificateValidationResult = some r)
    (hsigned : (validateSignature env v doc ctx docTimestamps svtResults signature).signedData =
      some contents) : ReadFrom env doc ctx signature contents := by
  unfold validateSignature at hcertificates hsigned
  split at hcertificates
  · rename_i svtValResult hmatching
    simp only [hmatching] at hsigned
    exact complie_readFrom svtValResult r contents hcertificates hsigned
  · rename_i hmatching
    simp only [hmatching] at hsigned
    dsimp only at hcertificates
    split at hcertificates
    · rename_i directVerifyResult hdirect
      simp only [hdirect] at hsigned
      obtain ⟨contents', hcontents', hread⟩ := verifySignature_readFrom hdirect
      rw [hsigned] at hcontents'
      cases hcontents'
      exact hread
    · cases hcertificates

end Results

/-! ## The same references -/

/-- What the validator collects from the document with something appended: it finds
claims with the hash of the signature value, and its references are those of the
entry. -/
def Recomputed (env : PdfSvtEnv Cert) (svtTs : PDFSVTDocTimeStamp Cert) (signature : PDSignature)
    (extended : Bytes) (claims : List IssuedSignatureClaims) (entry : IssuedSignatureClaims) :
    Prop :=
  ∃ data, collectSVTData env signature svtTs extended = .ok (some data) ∧
    data.signatureClaims ∈ claims.map (·.toSignatureClaims) ∧
    data.signatureClaims.sigRef.sigHash = entry.sigRef.sigHash ∧
    data.signatureReference = entry.sigRef ∧ data.signedDataRefList = entry.sigDataRef

section Agreement

variable {env : PdfSvtEnv Cert} {doc : Bytes} {ctx : DefaultPDFSignatureContext}
  {signature : PDSignature}

/-- A signature whose revision was found ends within the document. -/
theorem lastEnd_of_located (hbytes : ContextOfBytes env)
    (hctx : env.getPdfSignatureContext doc = .ok ctx)
    (hlocated : ∃ covers, ctx.isCoversWholeDocument signature = .ok covers) :
    LastEnd signature doc.length := by
  obtain ⟨jvm, safeObjectProvider, loader, hmade⟩ := hbytes
  rw [hmade] at hctx
  obtain ⟨covers, hcovers⟩ := hlocated
  intro len hlen
  unfold DefaultPDFSignatureContext.isCoversWholeDocument at hcovers
  obtain ⟨found, hfound, hcovers⟩ := bind_ok_iff.mp hcovers
  cases found with
  | none => cases hcovers
  | some idx =>
      unfold DefaultPDFSignatureContext.getSignatureRevisionIndex at hfound
      rw [rethrowAs_ok_iff, hlen] at hfound
      have hidx : ctx.pdfDocRevisions.findIdx? (fun revision => revision.length == len) =
          some idx := Except.ok.inj hfound
      obtain ⟨hlt, hlength, -⟩ := List.findIdx?_eq_some_iff_getElem.mp hidx
      rw [← beq_iff_eq.mp hlength]
      exact ofDocument_length_le hctx _ (List.getElem_mem hlt)

/-- The CMS and the signed bytes of the signature are read from the extended document
as from the document. -/
theorem ReadFrom.appended {contents : Bytes} {signedData : SignedData}
    (hreads : ReadsByByteRange env) (hbytes : ContextOfBytes env)
    (hctx : env.getPdfSignatureContext doc = .ok ctx)
    (hread : ReadFrom env doc ctx signature contents)
    (hdata : env.getSignedDataFromSignature contents = .ok signedData) (extension : Bytes) :
    env.pdf.getContents signature (doc ++ extension) = .ok contents ∧
      env.pdf.getSignedContent signature (doc ++ extension) =
        env.pdf.getSignedContent signature doc := by
  obtain ⟨signedContent, hsigned, -⟩ := hread.certified
  have hinside := hreads.inside signature doc contents signedContent signedData hread.read hdata
    hsigned
  have hlast := lastEnd_of_located hbytes hctx hread.located
  obtain ⟨hcontents, hsame⟩ := hreads.appended signature doc extension hinside hlast
  exact ⟨hcontents.trans hread.read, hsame⟩

end Agreement

section Issued

variable [DecidableEq Cert] {env : PdfIssuerEnv Cert} {issuer : PDFSVTSigValClaimsIssuer Cert}
  {doc : Bytes} {hashAlgoUri : String} {sigResult : ExtendedPdfSigValResult Cert}
  {entry : IssuedSignatureClaims}

/-- What the references of an entry are made of. -/
theorem claimsData_references
    (h : claimsData env issuer doc hashAlgoUri sigResult = .ok entry) :
    ∃ md contents signedData signerInfo attributes signature signedContent b0 b1 b2 b3,
      env.claims.getMessageDigestInstance hashAlgoUri = .ok md ∧
      sigResult.signedData = some contents ∧
      env.validation.getSignedDataFromSignature contents = .ok signedData ∧
      signedData.signerInfo = .ok signerInfo ∧
      signerInfo.authenticatedAttributes = some attributes ∧
      sigResult.pdfSignature = some signature ∧
      env.validation.pdf.getSignedContent signature doc = .ok signedContent ∧
      signature.byteRange[0]? = some b0 ∧ signature.byteRange[1]? = some b1 ∧
      signature.byteRange[2]? = some b2 ∧ signature.byteRange[3]? = some b3 ∧
      entry.sigRef = ⟨none, env.claims.encodeBase64String (md signerInfo.encryptedDigest),
        env.claims.encodeBase64String (md attributes)⟩ ∧
      entry.sigDataRef =
        [{ ref := toString b0 ++ " " ++ toString b1 ++ " " ++ toString b2 ++ " " ++ toString b3
           hash := env.claims.encodeBase64String (md signedContent) }] := by
  obtain ⟨hsigRef, -, ⟨sigDataRef, hdataRef, hentry⟩, -⟩ := claimsData_ok h
  unfold getSigRefData at hsigRef
  obtain ⟨contents, hcontents, hsigRef⟩ := bind_ok_iff.mp hsigRef
  obtain ⟨signedData, hdata, hsigRef⟩ := bind_ok_iff.mp hsigRef
  obtain ⟨signerInfo, hinfo, hsigRef⟩ := bind_ok_iff.mp hsigRef
  obtain ⟨attributes, hattributes, hsigRef⟩ := bind_ok_iff.mp hsigRef
  obtain ⟨sigHash, hsigHash, hsigRef⟩ := bind_ok_iff.mp hsigRef
  obtain ⟨sbHash, hsbHash, hsigRef⟩ := bind_ok_iff.mp hsigRef
  have hreference := (Except.ok.inj hsigRef).symm
  unfold calculateDocRefHash at hdataRef
  obtain ⟨md, hmd, hdataRef⟩ := bind_ok_iff.mp hdataRef
  obtain ⟨signature, hsignature, hdataRef⟩ := bind_ok_iff.mp hdataRef
  obtain ⟨signedContent, hsigned, hdataRef⟩ := bind_ok_iff.mp hdataRef
  obtain ⟨b0, h0, hdataRef⟩ := bind_ok_iff.mp hdataRef
  obtain ⟨b1, h1, hdataRef⟩ := bind_ok_iff.mp hdataRef
  obtain ⟨b2, h2, hdataRef⟩ := bind_ok_iff.mp hdataRef
  obtain ⟨b3, h3, hdataRef⟩ := bind_ok_iff.mp hdataRef
  cases hdataRef
  have hhash : ∀ {bytes hash}, getB64Hash env.claims bytes hashAlgoUri = .ok hash →
      hash = env.claims.encodeBase64String (md bytes) := by
    intro bytes hash hok
    unfold getB64Hash at hok
    rw [hmd] at hok
    exact (Except.ok.inj hok).symm
  refine ⟨md, contents, signedData, signerInfo, attributes, signature, signedContent, b0, b1, b2,
    b3, hmd, deref_ok_iff.mp hcontents, hdata, hinfo, deref_ok_iff.mp hattributes,
    deref_ok_iff.mp hsignature, hsigned, arrayGet_ok_iff.mp h0, arrayGet_ok_iff.mp h1,
    arrayGet_ok_iff.mp h2, arrayGet_ok_iff.mp h3, ?_, hentry⟩
  rw [hreference, hhash hsigHash, hhash hsbHash]

/-- Once there is an entry, the registry of the validator decides. -/
theorem recomputed_iff_registered (hreads : ReadsByByteRange env.validation)
    (hbytes : ContextOfBytes env.validation) (hlists : ListsCertificates env.validation)
    (hdigests : SameDigests env) {now : Date} {claims : List IssuedSignatureClaims}
    (hverify : verify env now issuer doc hashAlgoUri = .ok claims)
    {results : List (ExtendedPdfSigValResult Cert)}
    (hresults : validate env.validation now issuer.signatureVerifier doc = .ok results)
    (hmem : sigResult ∈ results)
    (hentry : claimsData env issuer doc hashAlgoUri sigResult = .ok entry)
    {signature : PDSignature} (hsignature : sigResult.pdfSignature = some signature)
    {svtTs : PDFSVTDocTimeStamp Cert}
    (hclaims : svtTs.svtClaims =
      ⟨some hashAlgoUri, some (claims.map (·.toSignatureClaims))⟩) (extension : Bytes) :
    Recomputed env.validation svtTs signature (doc ++ extension) claims entry ↔
      ∃ digestAlgorithm, DigestAlgorithmRegistry.get env.validation.svt.registry
        (some hashAlgoUri) = .ok digestAlgorithm := by
  obtain ⟨md, contents, signedData, signerInfo, attributes, signature', signedContent, b0, b1, b2,
    b3, hmd, hcontents, hdata, hinfo, hattributes, hsignature', hsigned, h0, h1, h2, h3, hsigRef,
    hdataRef⟩ := claimsData_references hentry
  rw [hsignature] at hsignature'
  cases hsignature'
  obtain ⟨ctx, allSignatureList, svtResults, hctx, -, -, rfl⟩ := validate_ok_iff.mp hresults
  obtain ⟨listed, -, rfl⟩ := List.mem_map.mp hmem
  rw [validateSignature_pdfSignature] at hsignature
  cases hsignature
  -- the entry has certificates, so the CMS was read
  obtain ⟨r, hr, -⟩ := (claimsData_ok_iff.mp ⟨entry, hentry⟩).certificates
  have hread := validateSignature_readFrom hr hcontents
  obtain ⟨hcontents', hsigned'⟩ := hread.appended hreads hbytes hctx hdata extension
  rw [hsigned] at hsigned'
  constructor
  · rintro ⟨data, hcollect, -⟩
    obtain ⟨-, digestAlgorithm, own, hregistered, -, -⟩ := collectSVTData_some hcollect
    rw [hclaims] at hregistered
    exact ⟨digestAlgorithm, hregistered⟩
  · rintro ⟨digestAlgorithm, hregistered⟩
    have hdigest := hdigests hashAlgoUri digestAlgorithm md hregistered hmd
    obtain ⟨certSource, -, hcertified⟩ := hread.certified
    obtain ⟨certificates, hcertificates⟩ := hlists contents certSource signedData hdata hcertified
    -- the entry itself has the hash, so some claims are found
    have hlisted : entry.toSignatureClaims ∈ claims.map (·.toSignatureClaims) := by
      obtain ⟨results', hresults', rfl⟩ := verify_ok_iff.mp hverify
      rw [hresults] at hresults'
      cases hresults'
      exact List.mem_map_of_mem (List.mem_filterMap.mpr ⟨_, hmem, by rw [hentry]; rfl⟩)
    have hhash : entry.toSignatureClaims.sigRef.sigHash =
        env.claims.encodeBase64String (md signerInfo.encryptedDigest) := by
      show entry.sigRef.sigHash = _
      rw [hsigRef]
    have hfound : ∃ found, (claims.map (·.toSignatureClaims)).find? (fun c =>
        c.sigRef.sigHash == env.claims.encodeBase64String (md signerInfo.encryptedDigest)) =
        some found := by
      rw [← Option.isSome_iff_exists, List.find?_isSome]
      exact ⟨_, hlisted, beq_iff_eq.mpr hhash⟩
    obtain ⟨found, hfound⟩ := hfound
    have hselected : found.sigRef.sigHash =
        env.claims.encodeBase64String (md signerInfo.encryptedDigest) := by
      simpa using List.find?_some hfound
    refine ⟨⟨svtTs.signedJWT, entry.sigRef, found, entry.sigDataRef, certificates⟩, ?_,
      List.mem_of_find?_eq_some hfound, ?_, rfl, rfl⟩
    · simp only [collectSVTData, signedDataRef, hcontents', hdata, hinfo, hclaims, hregistered,
        hdigest, deref, hfound, hattributes, hsigned', arrayGet, h0, h1, h2, h3, hcertificates,
        hsigRef, hdataRef, bind, Except.bind, pure, Except.pure]
    · show found.sigRef.sigHash = entry.sigRef.sigHash
      rw [hselected, hsigRef]

/-- **When issuer and validator agree.** For every document with issued claims, every
signature with a result in it and every extension of the document by appended bytes:
the signature has an entry and the validator finds claims with the hash of its
signature value and computes the references of the entry, exactly when an entry can be
built from the result and the registry of the validator knows the hash algorithm of the
token. -/
theorem references_recomputed_iff (hreads : ReadsByByteRange env.validation)
    (hbytes : ContextOfBytes env.validation) (hlists : ListsCertificates env.validation)
    (hdigests : SameDigests env) {now : Date} {claims : List IssuedSignatureClaims}
    (hverify : verify env now issuer doc hashAlgoUri = .ok claims)
    {results : List (ExtendedPdfSigValResult Cert)}
    (hresults : validate env.validation now issuer.signatureVerifier doc = .ok results)
    (hmem : sigResult ∈ results) {signature : PDSignature}
    (hsignature : sigResult.pdfSignature = some signature) {svtTs : PDFSVTDocTimeStamp Cert}
    (hclaims : svtTs.svtClaims =
      ⟨some hashAlgoUri, some (claims.map (·.toSignatureClaims))⟩) (extension : Bytes) :
    (∃ entry, claimsData env issuer doc hashAlgoUri sigResult = .ok entry ∧
      Recomputed env.validation svtTs signature (doc ++ extension) claims entry) ↔
    Buildable env doc hashAlgoUri sigResult ∧
      ∃ digestAlgorithm, DigestAlgorithmRegistry.get env.validation.svt.registry
        (some hashAlgoUri) = .ok digestAlgorithm := by
  have hagree : ∀ entry, claimsData env issuer doc hashAlgoUri sigResult = .ok entry →
      (Recomputed env.validation svtTs signature (doc ++ extension) claims entry ↔
        ∃ digestAlgorithm, DigestAlgorithmRegistry.get env.validation.svt.registry
          (some hashAlgoUri) = .ok digestAlgorithm) := by
    intro entry hentry
    exact recomputed_iff_registered hreads hbytes hlists hdigests hverify hresults hmem hentry
      hsignature hclaims extension
  constructor
  · rintro ⟨entry, hentry, hrecomputed⟩
    exact ⟨claimsData_ok_iff.mp ⟨entry, hentry⟩, (hagree entry hentry).mp hrecomputed⟩
  · rintro ⟨hbuildable, hregistered⟩
    obtain ⟨entry, hentry⟩ := claimsData_ok_iff.mpr hbuildable
    exact ⟨entry, hentry, (hagree entry hentry).mpr hregistered⟩

end Issued

/-! The signed PDF with its one revision, and the one that an SVT timestamp is added to. -/

def signatureField (name : String) (value : COSObjectKey) : COSBase :=
  .dictionary [("Type", .name "Annot"), ("Subtype", .name "Widget"), ("FT", .name "Sig"),
    ("T", .string name),
    ("Rect", .array [.integer 0, .integer 0, .integer 0, .integer 0]), ("F", .integer 132),
    ("P", .object ⟨3, 0⟩), ("V", .object value)]

def signatureObject (type : String) (signature : PDSignature) (contents : Bytes) : COSBase :=
  .dictionary [("Type", .name type), ("Filter", .name "Adobe.PPKLite"),
    ("SubFilter", .name (signature.subFilter.getD "")),
    ("ByteRange", .array (signature.byteRange.map .integer)),
    ("Contents", .string (String.ofList (contents.map fun b => Char.ofNat b.toNat)))]

/-- The objects of the signed page, when the form has these fields, and further ones. -/
def fileObjects (fields : List COSBase) (further : List ((_ : COSObjectKey) × COSBase)) :
    List ((_ : COSObjectKey) × COSBase) :=
  [⟨⟨1, 0⟩, .dictionary [("Type", .name "Catalog"), ("Pages", .object ⟨2, 0⟩),
      ("AcroForm", .dictionary [("Fields", .array fields), ("SigFlags", .integer 3)])]⟩,
    ⟨⟨2, 0⟩, .dictionary [("Type", .name "Pages"), ("Kids", .array [.object ⟨3, 0⟩]),
      ("Count", .integer 1)]⟩,
    ⟨⟨3, 0⟩, .dictionary [("Type", .name "Page"), ("Parent", .object ⟨2, 0⟩),
      ("MediaBox", .array [.integer 0, .integer 0, .integer 72, .integer 72])]⟩,
    ⟨⟨4, 0⟩, signatureField "S1" ⟨5, 0⟩⟩,
    ⟨⟨5, 0⟩, signatureObject "Sig" signedDictionary signedCms⟩] ++ further

def sealObjects : List ((_ : COSObjectKey) × COSBase) :=
  [⟨⟨6, 0⟩, signatureField "S2" ⟨7, 0⟩⟩,
    ⟨⟨7, 0⟩, signatureObject "DocTimeStamp" svtDictionary svtCms⟩]

theorem signedObjects_wellFormed :
    ∀ e ∈ (fileObjects [.object ⟨4, 0⟩] []).toAList.entries, e.2.wf = true := by
  have hentries : (fileObjects [.object ⟨4, 0⟩] []).toAList.entries =
      fileObjects [.object ⟨4, 0⟩] [] := rfl
  rw [hentries]
  simp only [fileObjects, List.cons_append, List.nil_append, List.forall_mem_cons]
  exact ⟨rfl, rfl, rfl, rfl, rfl, List.forall_mem_nil _⟩

theorem sealedObjects_wellFormed :
    ∀ e ∈ (fileObjects [.object ⟨4, 0⟩, .object ⟨6, 0⟩] sealObjects).toAList.entries,
      e.2.wf = true := by
  have hentries : (fileObjects [.object ⟨4, 0⟩, .object ⟨6, 0⟩] sealObjects).toAList.entries =
      fileObjects [.object ⟨4, 0⟩, .object ⟨6, 0⟩] sealObjects := rfl
  rw [hentries]
  simp only [fileObjects, sealObjects, List.cons_append, List.nil_append, List.forall_mem_cons]
  exact ⟨rfl, rfl, rfl, rfl, rfl, rfl, rfl, List.forall_mem_nil _⟩

def signedPdf : LoadedDocument where
  cosDocument :=
    { xrefTable := [⟨⟨1, 0⟩, 9⟩, ⟨⟨2, 0⟩, 92⟩, ⟨⟨3, 0⟩, 143⟩, ⟨⟨4, 0⟩, 206⟩,
        ⟨⟨5, 0⟩, 301⟩].toAList
      objects := (fileObjects [.object ⟨4, 0⟩] []).toAList
      trailer := [("Size", .integer 6), ("Root", .object ⟨1, 0⟩)]
      objects_wf := signedObjects_wellFormed }
  rootObject := ⟨1, 0⟩
  rootObject_eq := rfl

def sealedPdf : LoadedDocument where
  cosDocument :=
    { xrefTable := [⟨⟨1, 0⟩, 1909⟩, ⟨⟨2, 0⟩, 92⟩, ⟨⟨3, 0⟩, 143⟩, ⟨⟨4, 0⟩, 206⟩,
        ⟨⟨5, 0⟩, 301⟩, ⟨⟨6, 0⟩, 1998⟩, ⟨⟨7, 0⟩, 2093⟩].toAList
      objects := (fileObjects [.object ⟨4, 0⟩, .object ⟨6, 0⟩] sealObjects).toAList
      trailer := [("Size", .integer 8), ("Root", .object ⟨1, 0⟩), ("Prev", .integer 1728)]
      objects_wf := sealedObjects_wellFormed }
  rootObject := ⟨1, 0⟩
  rootObject_eq := rfl

/-- A library that reads these two documents, and refuses all others. -/
def readPdf (pdfBytes : Bytes) : Option (List PDSignature × LoadedDocument) :=
  if pdfBytes = signedFile.bytes then some ([signedDictionary], signedPdf)
  else if pdfBytes = svtFile.bytes then some ([signedDictionary, svtDictionary], sealedPdf)
  else none

def fileLoader : PdfLoader where
  getSignatureDictionaries := fun pdfBytes =>
    match readPdf pdfBytes with
    | some (signatures, _) => .ok signatures
    | none => .error ⟨.io, "Error: End-of-File, expected line"⟩
  loadPDF := fun pdfBytes => (readPdf pdfBytes).map (·.2)

section Loading

variable {pdfBytes : Bytes} {signatures : List PDSignature} {loaded : LoadedDocument}
  (h : readPdf pdfBytes = some (signatures, loaded))
include h

theorem fileLoader_signatures : fileLoader.getSignatureDictionaries pdfBytes = .ok signatures := by
  unfold fileLoader
  dsimp only
  rw [h]

theorem fileLoader_loads : fileLoader.loadPDF pdfBytes = some loaded := by
  unfold fileLoader
  dsimp only
  rw [h]
  rfl

end Loading

theorem readPdf_signed : readPdf signedFile.bytes = some ([signedDictionary], signedPdf) :=
  if_pos rfl

theorem signedFile_signatures :
    fileLoader.getSignatureDictionaries signedFile.bytes = .ok [signedDictionary] :=
  fileLoader_signatures readPdf_signed

def issuedEnv : PdfIssuerEnv Nat where
  validation := fileEnv fileLoader.getSignatureDictionaries
    (DefaultPDFSignatureContext.ofDocument plainJvm strictGeneralSafeObjects fileLoader)
  claims := fileClaims

/-- The path is the signer's certificate, which is trusted. -/
def anchoredVerifier (pdfsvtValidator : Option (PDFSVTValidator Nat))
    (checks : AbstractBasicPDFSignaturePolicyChecks Nat) : SVTenabledPDFDocumentSigVerifier Nat :=
  basicChecksVerifier pdfsvtValidator checks (fun _ _ => .ok (.default [1])) noTimestamps

def issuedIssuer : PDFSVTSigValClaimsIssuer Nat where
  signatureVerifier := anchoredVerifier none basicPdfSignaturePolicyValidator

theorem rangeOf_ends {signature : PDSignature} {doc : Bytes} {range : Int × Int × Int × Int}
    (h : rangeOf signature doc = .ok range) : RangeEnds signature doc.length := by
  unfold rangeOf at h
  split at h
  · rename_i b0 b1 b2 b3 hrange
    split at h
    · rename_i hinside
      refine ⟨?_, ?_, ?_⟩
      · rw [hrange]
        rintro b hb
        cases hb
        exact hinside.1
      · rw [hrange]
        rintro b c hb hc
        cases hb
        cases hc
        exact hinside.2.1
      · rw [hrange]
        rintro b hb
        cases hb
        exact hinside.2.2
    · cases h
  · cases h

theorem rangeOf_append {signature : PDSignature} {doc extension : Bytes}
    (h : RangeEnds signature doc.length) :
    rangeOf signature (doc ++ extension) = rangeOf signature doc := by
  unfold rangeOf
  split
  · rename_i b0 b1 b2 b3 hrange
    have h0 := h.first b0 (by rw [hrange]; rfl)
    have h1 := h.gap b0 b1 (by rw [hrange]; rfl) (by rw [hrange]; rfl)
    have h2 := h.second b2 (by rw [hrange]; rfl)
    have hlonger : (doc.length : Int) ≤ (doc ++ extension).length := by
      rw [List.length_append]
      omega
    rw [if_pos ⟨h0.trans hlonger, h1.trans hlonger, h2.trans hlonger⟩, if_pos ⟨h0, h1, h2⟩]
  · rfl

section FileEnv

variable {listed : Bytes → Outcome (List PDSignature)}
  {located : Bytes → Outcome DefaultPDFSignatureContext}

theorem fileEnv_reads : ReadsByByteRange (fileEnv listed located) where
  appended signature doc extension hends hlast := by
    show readContents signature (doc ++ extension) = readContents signature doc ∧
      readSignedContent signature (doc ++ extension) = readSignedContent signature doc
    unfold readContents readSignedContent
    rw [rangeOf_append hends]
    cases hrange : rangeOf signature doc with
    | error ex => exact ⟨rfl, rfl⟩
    | ok range =>
        obtain ⟨first, gap, second, last⟩ := range
        unfold rangeOf at hrange
        split at hrange
        · rename_i b0 b1 b2 b3 hfour
          split at hrange
          · rename_i hinside
            cases hrange
            have hend : toInt (second + b3) ≤ doc.length := by
              apply hlast _
              unfold DefaultPDFSignatureContext.signedLength
              rw [hfour]
              rfl
            have hgap : second - 1 ≤ doc.length := by
              have := hinside.2.2
              omega
            simp only [bind, Except.bind, between_append hgap, between_append hinside.2.1,
              between_append hend]
            trivial
          · cases hrange
        · cases hrange
  inside signature doc contents signedContent signedData hcontents _ _ := by
    have hread : readContents signature doc = .ok contents := hcontents
    unfold readContents at hread
    obtain ⟨range, hrange, -⟩ := bind_ok_iff.mp hread
    exact rangeOf_ends hrange

theorem fileEnv_listsCertificates : ListsCertificates (fileEnv listed located) := by
  intro contents signedContent signedData hdata _
  have hparsed : signedDataOf contents = .ok signedData := hdata
  unfold signedDataOf at hparsed
  split at hparsed
  · cases hparsed
    exact ⟨_, rfl⟩
  · cases hparsed

theorem fileEnv_sameDigests : SameDigests ⟨fileEnv listed located, fileClaims⟩ := by
  intro uri digestAlgorithm md hregistered hmd bytes
  have hinstance : fileClaims.getMessageDigestInstance uri = .ok md := hmd
  unfold fileClaims at hinstance
  dsimp only at hinstance
  split at hinstance
  · cases hinstance
    rfl
  · split at hinstance
    · rename_i hsha384
      rw [hsha384] at hregistered
      cases hregistered
    · cases hinstance

end FileEnv

theorem signedFile_contents : readContents signedDictionary signedFile.bytes = .ok signedCms := by
  rw [← List.append_nil signedFile.bytes]
  exact SignedFile.readContents_bytes signedDictionary_byteRange []

theorem signedFile_content :
    readSignedContent signedDictionary signedFile.bytes = .ok signedFile.content := by
  rw [← List.append_nil signedFile.bytes]
  exact SignedFile.readSignedContent_bytes signedDictionary_byteRange []

theorem signedFile_markers :
    markerOffsets signedFile.bytes 0 = [1903] ∧ revisionLen signedFile.bytes 1903 = 1909 ∧
      LineEnd.lf.bytes <+: signedFile.bytes.drop 1908 := by
  decide +kernel

def signedContext : DefaultPDFSignatureContext :=
  .ofRevisions plainJvm strictGeneralSafeObjects signedFile.bytes
    [.ofDocument 1909 true false signedPdf.cosDocument ⟨1, 0⟩ rfl]

/-- The scan finds the one revision, which the signature covers. -/
theorem signedFile_context :
    issuedEnv.validation.getPdfSignatureContext signedFile.bytes = .ok signedContext := by
  have hcontext : issuedEnv.validation.getPdfSignatureContext =
      DefaultPDFSignatureContext.ofDocument plainJvm strictGeneralSafeObjects fileLoader := rfl
  have hsigned : DefaultPDFSignatureContext.signedLength signedDictionary =
      .ok signedFile.bytes.length := by
    rw [signedFile_length]
    rfl
  rw [hcontext, ofDocument_single signedFile_signatures signedFile_markers.1
    (signedFile_markers.2.1.trans signedFile_length.symm) hsigned (by decide)
    (fileLoader_loads readPdf_signed), signedFile_length]
  rfl

theorem signedContext_covers : signedContext.isCoversWholeDocument signedDictionary = .ok true :=
  rfl

theorem signerCertificate_length : signerCertificate.length = 270 := by
  unfold signerCertificate slice
  rw [List.length_take, List.length_drop, signedCms_length]
  rfl

/-- The reference of the CMS is to the certificate it has. -/
theorem signer_named (attrs : SignedAttributes)
    (hreference : attrs.signingCertificateV2 = some (.ok ⟨none, signerDigest⟩)) :
    PDFSingleSignatureValidator.essCertMatches vouchedPdfEnv attrs (some 1) = .ok true := by
  have hne : signerCertificate ≠ svtFile.content := by
    intro h
    have hlength := congrArg List.length h
    unfold SignedFile.content at hlength
    have hhead : svtFile.head.length = 2203 := svtFile_head
    rw [signerCertificate_length, List.length_append, hhead] at hlength
    omega
  have hdigest : imprintDigest signerCertificate = .ok signerDigest := by
    unfold imprintDigest
    rw [if_neg hne, if_pos rfl]
  have hencoded : vouchedPdfEnv.getEncoded 1 = .ok signerCertificate := rfl
  have hts : vouchedPdfEnv.ts.digest = fun _ => imprintDigest := rfl
  have halgo : DigestAlgorithmRegistry.get vouchedPdfEnv.ts.registry
      (some DigestAlgorithm.idSHA256) =
      .ok ⟨DigestAlgorithm.idSHA256, DigestAlgorithm.oidSHA256⟩ := rfl
  unfold PDFSingleSignatureValidator.essCertMatches
  simp only [bind, Except.bind, hreference, halgo, deref, pure, Except.pure, hencoded, hts,
    hdigest, beq_self_eq_true]

/-- What is found out about the signature before the policy is asked. -/
def checkedResult (signatureContext : DefaultPDFSignatureContext) (covers : Bool) :
    ExtendedPdfSigValResult Nat where
  pdfSignature := some signedDictionary
  signedData := some signedCms
  coversDocument := covers
  signedDocument := (signatureContext.getSignedDocument signedDictionary).toOption
  signerCertificate := some 1
  signatureCertificateChain := some [1]
  status := .SUCCESS
  cmsSignatureAlgo := some "1.2.840.10045.4.3.2"
  cmsDigestAlgo := some DigestAlgorithm.oidSHA256
  signatureAlgorithm := some "http://www.w3.org/2001/04/xmldsig-more#ecdsa-sha256"
  etsiAdes := true
  claimedSigningTime := some 1795064557000
  timeValidationResults := some []
  certificateValidationResult := some (.default [1])

/-- The CMS of the signature, which verifies. -/
def signedSignature : CMSSignature Nat where
  sigCert := 1
  chain := [1]
  verify := .ok true
  encryptionAlgOID := "1.2.840.10045.4.3.2"
  digestAlgOID := DigestAlgorithm.oidSHA256
  signedAttributes :=
    some ⟨none, some (.ok ⟨none, signerDigest⟩), none, some (some 1795064557000)⟩
  timeStampTokens := .ok []
  signatureValue := signatureValue

theorem parseSigned_signed : parseSigned signedCms signedFile.content = .ok signedSignature := by
  unfold parseSigned
  rw [if_pos rfl, if_pos rfl]
  rfl

/-- The result of the signature under a policy that passed. -/
def passedResult (claims : PolicyValidationClaims) : ExtendedPdfSigValResult Nat :=
  { checkedResult signedContext true with validationPolicyResultList := some [claims] }

/-- The verdict of the policy is the one on the signature. -/
theorem validateSignature_signed {listed : Bytes → Outcome (List PDSignature)}
    {located : Bytes → Outcome DefaultPDFSignatureContext}
    {checks : AbstractBasicPDFSignaturePolicyChecks Nat}
    {pdfsvtValidator : Option (PDFSVTValidator Nat)} {verdict : PolicyValidationResult}
    (hpolicy : checks.validatePolicy (checkedResult signedContext true) signedContext =
      .ok verdict) (hpassed : verdict.policyValidationClaims.res = .PASSED) :
    validateSignature (fileEnv listed located) (anchoredVerifier pdfsvtValidator checks)
        signedFile.bytes signedContext [] none signedDictionary =
      passedResult verdict.policyValidationClaims := by
  have hcontents : vouchedPdfEnv.getContents = readContents := rfl
  have hcontent : vouchedPdfEnv.getSignedContent = readSignedContent := rfl
  have hparse : vouchedPdfEnv.parseCMS signedCms signedFile.content = .ok signedSignature :=
    parseSigned_signed
  have htaken : PDFSingleSignatureValidator.takePolicyResult verdict
      (checkedResult signedContext true) = passedResult verdict.policyValidationClaims := by
    unfold PDFSingleSignatureValidator.takePolicyResult ExtendedSigValResult.takePolicyResult
    dsimp only
    rw [if_neg (not_not_intro hpassed)]
    rfl
  have hverify : PDFSingleSignatureValidator.verifySignature vouchedPdfEnv
      (anchoredVerifier pdfsvtValidator checks).pdfSingleSignatureValidator signedDictionary
      signedFile.bytes [] signedContext = .ok (PDFSingleSignatureValidator.takePolicyResult verdict
        (checkedResult signedContext true)) :=
    PDFSingleSignatureValidator.verifySignature_of_calls
      (by rw [hcontents, signedFile_contents]) signedContext_covers
      (by rw [hcontent, signedFile_content]) hparse rfl rfl rfl rfl rfl rfl rfl
      (signer_named _ rfl) rfl rfl hpolicy
  have hpdf : (fileEnv listed located).pdf = vouchedPdfEnv := rfl
  rw [htaken] at hverify
  exact validateSignature_of_verify (by rw [hpdf, hverify])

theorem typeOf_signedFile : typeOf issuedEnv.validation signedFile.bytes signedDictionary =
    .ok .SIGNATURE_TYPE := by
  have hcontents : issuedEnv.validation.pdf.getContents = readContents := rfl
  unfold typeOf
  rw [hcontents, signedFile_contents]
  rfl

theorem signedFile_signatureList :
    signatureList issuedEnv.validation signedFile.bytes [signedDictionary] =
      [signedDictionary] := by
  rw [signatureList_cons_signature typeOf_signedFile, signatureList_nil]

theorem signedFile_docTsSigList :
    docTsSigList issuedEnv.validation signedFile.bytes [signedDictionary] = [] := by
  unfold docTsSigList
  rw [List.filter_cons_of_neg (by simp [typeOrIllegal_of_typeOf typeOf_signedFile]),
    List.filter_nil]

/-- The one result of the document. -/
theorem validate_signed {checks : AbstractBasicPDFSignaturePolicyChecks Nat}
    {verdict : PolicyValidationResult} (now : Date)
    (hpolicy : checks.validatePolicy (checkedResult signedContext true) signedContext =
      .ok verdict) (hpassed : verdict.policyValidationClaims.res = .PASSED) :
    validate issuedEnv.validation now (anchoredVerifier none checks) signedFile.bytes =
      .ok [passedResult verdict.policyValidationClaims] := by
  have hloader : issuedEnv.validation.getSignatureDictionaries =
      fileLoader.getSignatureDictionaries := rfl
  have hlisted : issuedEnv.validation.getSignatureDictionaries signedFile.bytes =
      .ok [signedDictionary] := by rw [hloader, signedFile_signatures]
  have hnone : svtValidationResults issuedEnv.validation now (anchoredVerifier none checks)
      signedFile.bytes = .ok none := rfl
  rw [validate_of_calls signedFile_context hlisted hnone, signedFile_signatureList,
    signedFile_docTsSigList, List.map_singleton]
  unfold issuedEnv
  rw [validateSignature_signed hpolicy hpassed]

theorem basic_passed :
    basicPdfSignaturePolicyValidator.validatePolicy (checkedResult signedContext true)
        signedContext =
      .ok ⟨⟨sigValidationPolicyBasicValidation, .PASSED, some "OK"⟩, .SUCCESS⟩ := rfl

/-- From the result an entry can be built, with any digest that the issuer has. -/
theorem buildable_signedFile {hashAlgoUri : String} {md : Bytes → Bytes}
    (hmd : fileClaims.getMessageDigestInstance hashAlgoUri = .ok md)
    (claims : PolicyValidationClaims) :
    Buildable issuedEnv signedFile.bytes hashAlgoUri (passedResult claims) where
  algorithm := ⟨md, hmd⟩
  cms := ⟨signedCms, _, _, _, rfl, signedDataOf_signed, rfl, rfl⟩
  policies := ⟨[claims], rfl⟩
  dictionary := ⟨signedDictionary, _, rfl, signedFile_content, Nat.le_refl 4⟩
  times := ⟨[], rfl, List.forall_mem_nil _⟩
  certificates := by
    refine ⟨.default [1], rfl, ⟨[1], rfl⟩, ?_⟩
    intro cert _
    exact ⟨_, rfl⟩

/-- An update that gives the page another height. -/
def pageUpdate : Bytes :=
  ofLines
    ["3 0 obj", "<</Type/Page/Parent 2 0 R/MediaBox[0 0 72 36]>>", "endobj", "xref", "3 1",
     "0000001909 00000 n ", "trailer", "<</Size 6/Root 1 0 R/Prev 1728>>", "startxref", "1972",
     "%%EOF"]

def issuedResult : ExtendedPdfSigValResult Nat :=
  passedResult ⟨sigValidationPolicyBasicValidation, .PASSED, some "OK"⟩

def issuedToken (algorithm hashAlgoUri : String) (claims : List IssuedSignatureClaims) :
    SignedJWT where
  header := ⟨algorithm, none, none⟩
  claimsSet := some
    ⟨some "SVT issuer", some "2d", some 1795100400000, none,
      some ⟨some hashAlgoUri, some (claims.map (·.toSignatureClaims))⟩⟩
  signingInput := svtToken.signingInput
  signature := svtToken.signature

/-- A timestamp with a token for the claims. -/
def issuedTimestamp (algorithm hashAlgoUri : String) (claims : List IssuedSignatureClaims) :
    PDFSVTDocTimeStamp Nat where
  documentTimestampSig := svtDictionary
  signedJWT := issuedToken algorithm hashAlgoUri claims
  svtClaims := ⟨some hashAlgoUri, some (claims.map (·.toSignatureClaims))⟩

theorem issuedIssuer_results :
    validate issuedEnv.validation 1795100300000 issuedIssuer.signatureVerifier signedFile.bytes =
      .ok [issuedResult] := validate_signed _ basic_passed rfl

/-- From one result one entry is issued. -/
theorem verify_single {Cert : Type} [DecidableEq Cert] {env : PdfIssuerEnv Cert} {now : Date}
    {issuer : PDFSVTSigValClaimsIssuer Cert} {doc : Bytes} {hashAlgoUri : String}
    {result : ExtendedPdfSigValResult Cert} {entry : IssuedSignatureClaims}
    (hresults : validate env.validation now issuer.signatureVerifier doc = .ok [result])
    (hentry : claimsData env issuer doc hashAlgoUri result = .ok entry) :
    PDFSVTSigValClaimsIssuer.verify env now issuer doc hashAlgoUri = .ok [entry] := by
  refine verify_ok_iff.mpr ⟨_, hresults, ?_⟩
  rw [List.filterMap_cons_some (by rw [hentry]; rfl), List.filterMap_nil]

/-- A SHA-256 token, after an update of the document. -/
theorem references_recomputed_sha256 :
    ∃ entry, claimsData issuedEnv issuedIssuer signedFile.bytes DigestAlgorithm.idSHA256
        issuedResult = .ok entry ∧
      Recomputed issuedEnv.validation (issuedTimestamp "ES256" DigestAlgorithm.idSHA256 [entry])
        signedDictionary (signedFile.bytes ++ pageUpdate) [entry] entry := by
  have hbuildable : Buildable issuedEnv signedFile.bytes DigestAlgorithm.idSHA256 issuedResult :=
    buildable_signedFile (if_pos rfl) _
  obtain ⟨entry, hentry⟩ := claimsData_ok_iff.mpr hbuildable
  have hclaims : (issuedTimestamp "ES256" DigestAlgorithm.idSHA256 [entry]).svtClaims =
      ⟨some DigestAlgorithm.idSHA256, some ([entry].map (·.toSignatureClaims))⟩ := rfl
  obtain ⟨entry', hentry', hrecomputed⟩ := (references_recomputed_iff fileEnv_reads
    ⟨_, _, _, fun _ => rfl⟩ fileEnv_listsCertificates fileEnv_sameDigests
    (verify_single issuedIssuer_results hentry) issuedIssuer_results (List.mem_singleton_self _)
    rfl hclaims pageUpdate).mpr
      ⟨hbuildable, _, rfl⟩
  cases hentry.symm.trans hentry'
  exact ⟨entry, hentry, hrecomputed⟩

/-- With SHA-384 the claims are issued, and the validator collects nothing. -/
theorem sha384_token_not_collected :
    ∃ entry,
      validate issuedEnv.validation 1795100300000 issuedIssuer.signatureVerifier
        signedFile.bytes = .ok [issuedResult] ∧
      claimsData issuedEnv issuedIssuer signedFile.bytes
        "http://www.w3.org/2001/04/xmldsig-more#sha384" issuedResult = .ok entry ∧
      PDFSVTSigValClaimsIssuer.verify issuedEnv 1795100300000 issuedIssuer signedFile.bytes
        "http://www.w3.org/2001/04/xmldsig-more#sha384" = .ok [entry] ∧
      ¬ Recomputed issuedEnv.validation
        (issuedTimestamp "ES384" "http://www.w3.org/2001/04/xmldsig-more#sha384" [entry])
        signedDictionary (signedFile.bytes ++ pageUpdate) [entry] entry := by
  have hmd : fileClaims.getMessageDigestInstance
      "http://www.w3.org/2001/04/xmldsig-more#sha384" = .ok digest384 := by
    unfold fileClaims
    dsimp only
    rw [if_neg (by decide), if_pos rfl]
  obtain ⟨entry, hentry⟩ := claimsData_ok_iff.mpr (buildable_signedFile hmd
    ⟨sigValidationPolicyBasicValidation, .PASSED, some "OK"⟩)
  refine ⟨entry, issuedIssuer_results, hentry, verify_single issuedIssuer_results hentry, ?_⟩
  rintro ⟨data, hcollect, -⟩
  obtain ⟨-, digestAlgorithm, -, hregistered, -⟩ := collectSVTData_some hcollect
  cases hregistered

end SigVal.Pdf
