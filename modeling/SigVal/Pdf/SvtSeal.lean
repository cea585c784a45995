import SigVal.Pdf.SvtAgreement
import SigVal.Jose.SvtClaimsIssuer

/-!
# Sealing a PDF with an SVT

`PDFDocTimstampProcessor.createSVTSealedPDF` extends a document by one more signature
dictionary. It is a document timestamp, and its timestamp has the token in an extension.
PDFBox writes the update and asks the signature interface for the timestamp of what it has
written, so what comes of the two depends on what is documented of PDFBox and of the
timestamp library.
-/

namespace SigVal.Pdf

open SigVal.Java SigVal.Commons SigVal.Svt PDFSVAUtils PDFSVTValidator PDFSVTSigValClaimsIssuer
open Jose (SVTIssuer CarriesClaims)

variable {Cert D : Type}

/-! ## The timestamp -/

/-- `DefaultPDFDocTimestampSignatureInterface`. Nothing sets the fields of its two getters. -/
structure DefaultPDFDocTimestampSignatureInterface (Cert : Type) where
  certificates : List Cert
  /-- The body of the `try` in `sign`: the request with the SVT in an extension, and the
  encoded token that is generated for it. -/
  generate : String → Bytes → Outcome Bytes
  /-- `Throwable.toString`, the message of an `IOException` with a cause. -/
  toString : Exn → String
  getCmsSignedData : Option Bytes := none
  getCmsSignedAttributes : Option Bytes := none

/-- `sign`, after `setSvt`. -/
def DefaultPDFDocTimestampSignatureInterface.sign
    (signer : DefaultPDFDocTimestampSignatureInterface Cert) (svt : Option String)
    (content : Bytes) : Outcome Bytes :=
  match svt with
  | none => throw ⟨.io, "The SVT must not be null or empty"⟩
  | some svt =>
      if svt.length = 0 then throw ⟨.io, "The SVT must not be null or empty"⟩
      else
        match signer.generate svt content with
        | .ok tstBytes => pure tstBytes
        | .error e => throw ⟨.io, signer.toString e⟩

/-! ## The update -/

/-- PDFBox, as far as it extends a document. -/
structure PDFBox (D : Type) where
  loadPDF : Bytes → Outcome D
  /-- `addSignature`, with the sub filter of the new dictionary and the size to reserve. -/
  addSignature : D → String → Int → Outcome D
  /-- `saveIncremental`, with the `sign` of the signature interface. -/
  saveIncremental : D → (Bytes → Outcome Bytes) → Outcome Bytes

namespace PDFDocTimstampProcessor

structure Result where
  document : Bytes
  cmsSignedData : Option Bytes
  cmsSignedAttributes : Option Bytes

/-- A certificate without encoding counts nothing. -/
def getLengthestimate (getEncoded : Cert → Outcome Bytes) (certList : List Cert)
    (sva : Option String) : Outcome Int := do
  let certLenTotal := certList.foldl
    (fun total cert =>
      match getEncoded cert with
      | .ok encoded => toInt (total + encoded.length)
      | .error _ => total) 0
  let sva ← deref sva
  pure (toInt (toInt (sva.utf8ByteSize + certLenTotal) + 2000))

/-- `createSVTSealedPDF`. Only an `IOException` is caught. -/
def createSVTSealedPDF (pdfBox : PDFBox D) (getEncoded : Cert → Outcome Bytes)
    (pdfDocumentBytes : Bytes) (svt : Option String)
    (pdfSignatureProvider : DefaultPDFDocTimestampSignatureInterface Cert) : Outcome Result :=
  let signing : Outcome Result := do
    let pdfDocument ← pdfBox.loadPDF pdfDocumentBytes
    let lengthEstimate ← getLengthestimate getEncoded pdfSignatureProvider.certificates svt
    let pdfDocument ← pdfBox.addSignature pdfDocument subfilterEtsiRfc3161 lengthEstimate
    let output ← pdfBox.saveIncremental pdfDocument (pdfSignatureProvider.sign svt)
    pure
      { document := output
        cmsSignedData := pdfSignatureProvider.getCmsSignedData
        cmsSignedAttributes := pdfSignatureProvider.getCmsSignedAttributes }
  match signing with
  | .ok result => .ok result
  | .error e =>
      if e.cls = .io then
        .error ⟨.signature, "Failed to create PDF document timestamp - " ++ e.msg⟩
      else .error e

end PDFDocTimstampProcessor

/-! ## What is relied on of the libraries -/

/-- The file was extended by an update with a signature dictionary behind those it had. The
byte range takes in the file, goes on behind it and ends with the update; what it covers was
signed, and the signature is read back with the zeros that fill the reserved space. -/
structure Extended (env : PdfSvtEnv Cert) (doc : Bytes) (subFilter : String)
    (sign : Bytes → Outcome Bytes) (output : Bytes) (dictionary : PDSignature) : Prop where
  appended : ∃ update, output = doc ++ update
  listed : ∀ allSignatureList, env.getSignatureDictionaries doc = .ok allSignatureList →
    env.getSignatureDictionaries output = .ok (allSignatureList ++ [dictionary])
  subFilter : dictionary.subFilter = some subFilter
  byteRange : ∃ gap second len : Int, dictionary.byteRange = [0, gap, second, len] ∧
    doc.length < gap ∧ gap ≤ second ∧ 0 ≤ len ∧ second + len = output.length
  signed : ∃ content token padding, env.pdf.getSignedContent dictionary output = .ok content ∧
    sign content = .ok token ∧
    env.pdf.getContents dictionary output = .ok (token ++ List.replicate padding 0)

/-- An incremental save extends the file that was loaded. -/
def PDFBox.Lawful (pdfBox : PDFBox D) (env : PdfSvtEnv Cert) : Prop :=
  ∀ doc loaded subFilter size added sign output, pdfBox.loadPDF doc = .ok loaded →
    pdfBox.addSignature loaded subFilter size = .ok added →
    pdfBox.saveIncremental added sign = .ok output →
    ∃ dictionary, Extended env doc subFilter sign output dictionary

/-- The extension of the timestamp is found again, whatever fills the space behind it. -/
def DefaultPDFDocTimestampSignatureInterface.Lawful
    (signer : DefaultPDFDocTimestampSignatureInterface Cert) (env : PdfSvtEnv Cert) : Prop :=
  ∀ svt content token, signer.generate svt content = .ok token →
    ∃ tstInfo : TSTInfo, tstInfo.svtJWT = some svt ∧ ∀ padding,
      env.pdf.ts.getCmsSigTSTInfo (token ++ List.replicate padding 0) = .ok (some tstInfo)

section Sealing

variable {env : PdfSvtEnv Cert} {doc output : Bytes} {subFilter : String}
  {sign : Bytes → Outcome Bytes} {dictionary : PDSignature}
  {signer : DefaultPDFDocTimestampSignatureInterface Cert}

theorem createSVTSealedPDF_extends {pdfBox : PDFBox D} (hbox : pdfBox.Lawful env)
    {getEncoded : Cert → Outcome Bytes} {svt : Option String}
    {result : PDFDocTimstampProcessor.Result}
    (h : PDFDocTimstampProcessor.createSVTSealedPDF pdfBox getEncoded doc svt signer =
      .ok result) :
    ∃ dictionary, Extended env doc subfilterEtsiRfc3161 (signer.sign svt) result.document
      dictionary := by
  unfold PDFDocTimstampProcessor.createSVTSealedPDF at h
  dsimp only at h
  split at h
  · rename_i signed hsigned
    cases h
    obtain ⟨loaded, hloaded, hsigned⟩ := bind_ok_iff.mp hsigned
    obtain ⟨size, -, hsigned⟩ := bind_ok_iff.mp hsigned
    obtain ⟨added, hadded, hsigned⟩ := bind_ok_iff.mp hsigned
    obtain ⟨output, houtput, hsigned⟩ := bind_ok_iff.mp hsigned
    cases hsigned
    exact hbox _ _ _ _ _ _ _ hloaded hadded houtput
  · split at h
    · cases h
    · cases h

theorem sign_some {svt : String} {content token : Bytes}
    (h : signer.sign (some svt) content = .ok token) : signer.generate svt content = .ok token := by
  unfold DefaultPDFDocTimestampSignatureInterface.sign at h
  dsimp only at h
  split at h
  · cases h
  · split at h
    · rename_i tstBytes hgenerate
      cases h
      exact hgenerate
    · cases h

/-- What is read of the new dictionary. -/
theorem Extended.timestamp {svt : String}
    (h : Extended env doc subFilter (signer.sign (some svt)) output dictionary)
    (hsigner : signer.Lawful env) :
    ∃ content contents tstInfo, env.pdf.getSignedContent dictionary output = .ok content ∧
      env.pdf.getContents dictionary output = .ok contents ∧
      env.pdf.ts.getCmsSigTSTInfo contents = .ok (some tstInfo) ∧ tstInfo.svtJWT = some svt := by
  obtain ⟨content, token, padding, hcontent, hsign, hcontents⟩ := h.signed
  obtain ⟨tstInfo, hsvt, hread⟩ := hsigner _ _ _ (sign_some hsign)
  exact ⟨content, _, tstInfo, hcontent, hcontents, hread padding, hsvt⟩

/-- It is taken for an SVT timestamp. -/
theorem Extended.typeOf {svt : String} {jwt : SignedJWT} {hashAlgoUri : String}
    {claims : List IssuedSignatureClaims}
    (h : Extended env doc subfilterEtsiRfc3161 (signer.sign (some svt)) output dictionary)
    (hsigner : signer.Lawful env)
    (hlocale : env.toLowerCase subfilterEtsiRfc3161 = timestampSubfilterLc)
    (hparse : env.svt.parse svt = .ok jwt) (hcarries : CarriesClaims jwt hashAlgoUri claims) :
    typeOf env output dictionary = .ok .SVT_TYPE := by
  obtain ⟨-, contents, tstInfo, -, hcontents, htst, hsvt⟩ := h.timestamp hsigner
  obtain ⟨claimsSet, hclaimsSet, hsvtClaims⟩ := hcarries
  have hsva : isSVADocTimestamp env contents = true := by
    unfold isSVADocTimestamp getSVTJWT
    simp only [htst, bind, Except.bind, Option.bind_some, hsvt, hparse,
      SignedJWT.getJWTClaimsSet_ok_iff.mpr hclaimsSet, SVAUtils.getSVTClaims_ok_iff.mpr hsvtClaims]
    rfl
  refine bind_ok_iff.mpr ⟨contents, hcontents, bind_ok_iff.mpr
    ⟨subfilterEtsiRfc3161, deref_ok_iff.mpr h.subFilter, ?_⟩⟩
  dsimp only
  rw [hlocale, if_neg (by decide), if_pos rfl, hsva]
  rfl

end Sealing

end SigVal.Pdf
