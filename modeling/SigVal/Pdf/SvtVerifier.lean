import SigVal.Pdf.SvtTimestamps

/-!
# SVT validation of the signatures of a PDF

`PDFSVTValidator.getSignatureSVTData` collects, for each signature the SVT
timestamp covers, what the token must say about it. The SVT library compares the
two. `SVTenabledPDFDocumentSigVerifier` then has a list of results and a list of
signature dictionaries, and pairs them again by the hash of the signature value.
A dictionary that repeats the CMS of another one has the same signature value.
-/

namespace SigVal.Pdf

open SigVal.Java SigVal.Cert SigVal.Commons

variable {Cert : Type}

/-! ## The libraries -/

/-- What is read of the first `SignerInfo` of a CMS: the attributes in DER, `null`
when there are none, and the value of the first signing time among them. -/
structure SignerInfo where
  encryptedDigest : Bytes
  authenticatedAttributes : Option Bytes
  signingTime : Option (Outcome Date)

/-- A CMS `SignedData`. -/
structure SignedData where
  /-- `SignerInfo.getInstance(signedData.getSignerInfos().getObjectAt(0))`. -/
  signerInfo : Outcome SignerInfo
  /-- The certificates, each in DER. -/
  certificates : Outcome (List Bytes)

/-- The libraries behind the validation of a document. -/
structure PdfSvtEnv (Cert : Type) where
  pdf : PdfEnv Cert
  svt : SvtEnv Cert
  result : SvtResultEnv Cert
  caseTable : CaseTable
  /-- `String.toLowerCase` in the locale of the JVM. -/
  toLowerCase : String → String
  /-- `Loader.loadPDF(pdfDocBytes).getSignatureDictionaries()`, also the signatures
  of the context. -/
  getSignatureDictionaries : Bytes → Outcome (List PDSignature)
  getPdfSignatureContext : Bytes → Outcome DefaultPDFSignatureContext
  getSignedDataFromSignature : Bytes → Outcome SignedData
  /-- Base64 of the digest with `SVTAlgoRegistry.getMessageDigestInstance`. -/
  messageDigest : JWSAlgorithm → Bytes → Outcome String
  /-- What `SVTValidator.validate` makes of one entry of `getSignatureSVTData`. -/
  validateSvtData : SignatureSVTData → SignatureSVTValidationResult

/-! ## Types of signature dictionaries -/

namespace PDFSVAUtils

inductive SignatureType where
  | SIGNATURE_TYPE
  | DOC_TIMESTAMP_TYPE
  | ILLEGAL_SIGNATURE_TYPE
  | SVT_TYPE
  | UNKNOWN_TYPE
deriving DecidableEq, Repr

def pdfSigSubfilterLc : String := "adbe.pkcs7.detached"
def cadesSigSubfilterLc : String := "etsi.cades.detached"
def timestampSubfilterLc : String := "etsi.rfc3161"

/-- `SVAUtils.isSVADocTimestamp`. -/
def isSVADocTimestamp (env : PdfSvtEnv Cert) (sigBytes : Bytes) : Bool :=
  let parsed : Outcome SVTClaims := do
    let tstInfo ← env.pdf.ts.getCmsSigTSTInfo sigBytes
    let svaJwt ← getSVTJWT tstInfo
    let parsedJWT ← env.svt.parse svaJwt
    let claimsSet ← parsedJWT.getJWTClaimsSet
    SVAUtils.getSVTClaims claimsSet
  parsed.isOk

def getSignatureType (env : PdfSvtEnv Cert) (signature : PDSignature) (sigBytes : Bytes) :
    Outcome SignatureType := do
  let subFilter ← deref signature.subFilter
  let subfilter := env.toLowerCase subFilter
  if subfilter = pdfSigSubfilterLc ∨ subfilter = cadesSigSubfilterLc then pure .SIGNATURE_TYPE
  else if subfilter = timestampSubfilterLc then
    pure (if isSVADocTimestamp env sigBytes then .SVT_TYPE else .DOC_TIMESTAMP_TYPE)
  else pure .UNKNOWN_TYPE

/-- The type of a dictionary of the document, with what reading it throws. -/
def typeOf (env : PdfSvtEnv Cert) (pdfDocBytes : Bytes) (signature : PDSignature) :
    Outcome SignatureType := do
  let contents ← env.pdf.getContents signature pdfDocBytes
  getSignatureType env signature contents

def getSignatureValueBytes (env : PdfSvtEnv Cert) (signature : PDSignature) (signedPdf : Bytes) :
    Outcome Bytes := do
  let contents ← env.pdf.getContents signature signedPdf
  let signedData ← env.getSignedDataFromSignature contents
  let signerInfo ← signedData.signerInfo
  pure signerInfo.encryptedDigest

def getClaimedSigningTime (signDate : Option Date) (signedData : SignedData) :
    Outcome (Option Date) := do
  let signerInfo ← signedData.signerInfo
  let _ ← deref signerInfo.authenticatedAttributes
  match signerInfo.signingTime with
  | some signingTime => do
      let time ← signingTime
      pure (some time)
  | none => pure signDate

end PDFSVAUtils

/-! ## The data of a signature -/

namespace PDFSVTValidator

open PDFSVAUtils

/-- The reference to the signed bytes: the byte range as a text, and the digest of
the bytes. -/
def signedDataRef (env : PdfSvtEnv Cert) (digestAlgorithm : DigestAlgorithm)
    (signature : PDSignature) (pdfDocBytes : Bytes) : Outcome SignedDataClaims := do
  let signedContent ← env.pdf.getSignedContent signature pdfDocBytes
  let signedDocBytesHashStr ← env.svt.toBase64Digest digestAlgorithm signedContent
  let b0 ← arrayGet signature.byteRange 0
  let b1 ← arrayGet signature.byteRange 1
  let b2 ← arrayGet signature.byteRange 2
  let b3 ← arrayGet signature.byteRange 3
  pure
    { ref := toString b0 ++ " " ++ toString b1 ++ " " ++ toString b2 ++ " " ++ toString b3
      hash := signedDocBytesHashStr }

/-- `collectSVTData`: `none` when the token has no claims about the signature
value. -/
def collectSVTData (env : PdfSvtEnv Cert) (signature : PDSignature)
    (svtTimeStamp : PDFSVTDocTimeStamp Cert) (pdfDocBytes : Bytes) :
    Outcome (Option SignatureSVTData) := do
  let svtClaims := svtTimeStamp.svtClaims
  let sigContentInfo ← env.pdf.getContents signature pdfDocBytes
  let signedData ← env.getSignedDataFromSignature sigContentInfo
  let signerInfo ← signedData.signerInfo
  let digestAlgorithm ← DigestAlgorithmRegistry.get env.svt.registry svtClaims.hashAlgo
  let signatureHash ← env.svt.toBase64Digest digestAlgorithm signerInfo.encryptedDigest
  let sigClaims ← deref svtClaims.sig
  match sigClaims.find? fun claims => claims.sigRef.sigHash == signatureHash with
  | none => pure none
  | some sigSVTClaims => do
      let sigAttrsEncBytes ← deref signerInfo.authenticatedAttributes
      let signedAttrHash ← env.svt.toBase64Digest digestAlgorithm sigAttrsEncBytes
      let signedDataRef ← signedDataRef env digestAlgorithm signature pdfDocBytes
      let signatureCertificateList ← signedData.certificates
      pure (some
        { signedJWT := svtTimeStamp.signedJWT
          signatureReference := ⟨none, signatureHash, signedAttrHash⟩
          signatureClaims := sigSVTClaims
          signedDataRefList := [signedDataRef]
          signerCertChain := signatureCertificateList })

/-- One round of the loop over the signatures: nothing for a signature that is not
covered, or about which nothing could be collected. -/
def svtDataOf (env : PdfSvtEnv Cert) (svtTimeStamp : PDFSVTDocTimeStamp Cert)
    (pdfDocBytes : Bytes) (signature : PDSignature) : Option SignatureSVTData :=
  if !svtTimeStamp.isSignatureCovered signature then none
  else
    match collectSVTData env signature svtTimeStamp pdfDocBytes with
    | .ok data => data
    | .error _ => none

/-- The dictionaries of the document with their types. One that cannot be read
ends the SVT validation of the document. -/
def typedSignatures (env : PdfSvtEnv Cert) (pdfDocBytes : Bytes) :
    Outcome (List (PDSignature × SignatureType)) := do
  let allSignatureList ← env.getSignatureDictionaries pdfDocBytes
  allSignatureList.mapM fun signature => do
    let type ← typeOf env pdfDocBytes signature
    pure (signature, type)

def ofType (type : SignatureType) (typed : List (PDSignature × SignatureType)) :
    List PDSignature :=
  (typed.filter (·.2 = type)).map (·.1)

/-- The SVT timestamp on which the signatures of the document are validated. -/
def svtTimeStamp (env : PdfSvtEnv Cert) (now : Date) (v : PDFSVTValidator Cert)
    (typed : List (PDSignature × SignatureType)) (pdfDocBytes : Bytes) :
    Outcome (Option (PDFSVTDocTimeStamp Cert)) :=
  getMostRecentValidSVA env.pdf env.svt now v (ofType .SVT_TYPE typed) pdfDocBytes

/-- `getSignatureSVTData`. -/
def getSignatureSVTData (env : PdfSvtEnv Cert) (now : Date) (v : PDFSVTValidator Cert)
    (pdfDocBytes : Bytes) : Outcome (List SignatureSVTData) := do
  let typed ← typedSignatures env pdfDocBytes
  match ← svtTimeStamp env now v typed pdfDocBytes with
  | none => pure []
  | some svtTimeStamp =>
      pure ((ofType .SIGNATURE_TYPE typed).filterMap (svtDataOf env svtTimeStamp pdfDocBytes))

/-- `SVTValidator.validate`, the method of the library around it. -/
def validate (env : PdfSvtEnv Cert) (now : Date) (v : PDFSVTValidator Cert) (pdfDocBytes : Bytes) :
    Outcome (List SignatureSVTValidationResult) := do
  let svtDataList ← getSignatureSVTData env now v pdfDocBytes
  pure (svtDataList.map env.validateSvtData)

end PDFSVTValidator

/-! ## The document verifier -/

/-- `SVTenabledPDFDocumentSigVerifier`, with its collaborators. -/
structure SVTenabledPDFDocumentSigVerifier (Cert : Type) where
  pdfsvtValidator : Option (PDFSVTValidator Cert)
  pdfSingleSignatureValidator : PDFSingleSignatureValidator Cert

namespace SVTenabledPDFDocumentSigVerifier

open PDFSVAUtils

/-- `getMatchingSvtValidation`: the first successful result whose claims have the
hash of the signature value. Only an unknown algorithm is skipped. -/
def getMatchingSvtValidation (env : PdfSvtEnv Cert) (sigValueBytes : Bytes) :
    List SignatureSVTValidationResult → Outcome (Option SignatureSVTValidationResult)
  | [] => .ok none
  | svtValResult :: svtValidationResults =>
      match env.messageDigest svtValResult.signedJWT.header.algorithm sigValueBytes with
      | .error ex =>
          if ex.cls = .noSuchAlgorithm then
            getMatchingSvtValidation env sigValueBytes svtValidationResults
          else .error ex
      | .ok sigValueHashStr =>
          if sigValueHashStr == svtValResult.signatureClaims.sigRef.sigHash &&
              svtValResult.svtValidationSuccess then .ok (some svtValResult)
          else getMatchingSvtValidation env sigValueBytes svtValidationResults

/-- The lookup for a signature, with the `catch` around it. -/
def matchingSvtValidation (env : PdfSvtEnv Cert) (pdfDocBytes : Bytes)
    (svtValidationResults : Option (List SignatureSVTValidationResult)) (signature : PDSignature) :
    Option SignatureSVTValidationResult :=
  let found : Outcome (Option SignatureSVTValidationResult) := do
    let sigValueBytes ← getSignatureValueBytes env signature pdfDocBytes
    match svtValidationResults with
    | none => pure none
    | some results => getMatchingSvtValidation env sigValueBytes results
  match found with
  | .ok svtValResult => svtValResult
  | .error _ => none

/-- The certificates of the CMS of a signature, which is parsed with the signed
bytes but not verified. -/
def cmsSigCerts (env : PdfSvtEnv Cert) (signature : PDSignature) (pdfDocBytes : Bytes) :
    Outcome (Option Cert × List Cert) := do
  let contents ← env.pdf.getContents signature pdfDocBytes
  let signedContent ← env.pdf.getSignedContent signature pdfDocBytes
  let certs ← env.pdf.ts.extractCertificates contents signedContent
  pure (some certs.1, certs.2)

/-- The body of `compliePDFSigValResultsFromSvtValidation`. -/
def svtValidationBody (env : PdfSvtEnv Cert) (svtValResult : SignatureSVTValidationResult)
    (signature : PDSignature) (pdfDocBytes : Bytes)
    (signatureContext : DefaultPDFSignatureContext) :
    Mutating (ExtendedPdfSigValResult Cert) Unit := do
  let sigBytes ← Mutating.call (env.pdf.getContents signature pdfDocBytes)
  modify ({ · with signedData := some sigBytes })
  let signedData ← Mutating.call (env.getSignedDataFromSignature sigBytes)
  let subFilter ← Mutating.call (deref signature.subFilter)
  modify
    ({ · with
      etsiAdes := env.caseTable.equalsIgnoreCase subFilter cadesSigSubfilterLc
      invalidSignCert := false })
  let claimedSigningTime ←
    Mutating.call (getClaimedSigningTime (env.pdf.getSignDate signature) signedData)
  modify ({ · with claimedSigningTime := claimedSigningTime })
  let coversDocument ← Mutating.call (signatureContext.isCoversWholeDocument signature)
  modify
    ({ · with
      coversDocument := coversDocument
      signedDocument := (signatureContext.getSignedDocument signature).toOption })
  Mutating.zoom ExtendedPdfSigValResult.toExtendedSigValResult
    (fun result base => { result with toExtendedSigValResult := base })
    (takeSvtValidation env.result svtValResult (cmsSigCerts env signature pdfDocBytes))

/-- `compliePDFSigValResultsFromSvtValidation`. The time of the token goes into the
claims of this result; the source adds it to the list of the claims object, which
the results of one token share. -/
def compliePDFSigValResultsFromSvtValidation (env : PdfSvtEnv Cert)
    (svtValResult : SignatureSVTValidationResult) (signature : PDSignature) (pdfDocBytes : Bytes)
    (signatureContext : DefaultPDFSignatureContext) : ExtendedPdfSigValResult Cert :=
  Mutating.tryCatch (svtValidationBody env svtValResult signature pdfDocBytes signatureContext)
    (fun ex result =>
      { result with
        toExtendedSigValResult := svtProcessingFailed ex result.toExtendedSigValResult })
    { pdfSignature := some signature }

def getErrorResult (signature : PDSignature) (message : String) : ExtendedPdfSigValResult Cert :=
  { pdfSignature := some signature
    status := .ERROR_INVALID_SIGNATURE
    statusMessage := some ("Failed to process signature: " ++ message) }

/-- The type `validate` gives a dictionary. -/
def typeOrIllegal (env : PdfSvtEnv Cert) (pdfDocBytes : Bytes) (signature : PDSignature) :
    SignatureType :=
  match typeOf env pdfDocBytes signature with
  | .ok type => type
  | .error _ => .ILLEGAL_SIGNATURE_TYPE

def docTsSigList (env : PdfSvtEnv Cert) (pdfDocBytes : Bytes)
    (allSignatureList : List PDSignature) : List PDSignature :=
  allSignatureList.filter fun signature =>
    typeOrIllegal env pdfDocBytes signature = .SVT_TYPE ∨
      typeOrIllegal env pdfDocBytes signature = .DOC_TIMESTAMP_TYPE

/-- The dictionaries `validate` reports on. -/
def signatureList (env : PdfSvtEnv Cert) (pdfDocBytes : Bytes)
    (allSignatureList : List PDSignature) : List PDSignature :=
  allSignatureList.filter fun signature =>
    typeOrIllegal env pdfDocBytes signature = .SIGNATURE_TYPE ∨
      typeOrIllegal env pdfDocBytes signature = .ILLEGAL_SIGNATURE_TYPE

/-- One round of the loop of `validate`. The document timestamps are verified once
a signature needs them, and then kept. -/
def validateSignature (env : PdfSvtEnv Cert) (v : SVTenabledPDFDocumentSigVerifier Cert)
    (pdfDocBytes : Bytes) (signatureContext : DefaultPDFSignatureContext)
    (docTimestamps : List PDSignature)
    (svtValidationResults : Option (List SignatureSVTValidationResult)) (signature : PDSignature) :
    ExtendedPdfSigValResult Cert :=
  match matchingSvtValidation env pdfDocBytes svtValidationResults signature with
  | some svtValResult =>
      compliePDFSigValResultsFromSvtValidation env svtValResult signature pdfDocBytes
        signatureContext
  | none =>
      let docTimeStampList :=
        v.pdfSingleSignatureValidator.verifyDocumentTimestamps env.pdf docTimestamps pdfDocBytes
      match v.pdfSingleSignatureValidator.verifySignature env.pdf signature pdfDocBytes
        docTimeStampList signatureContext with
      | .ok directVerifyResult => directVerifyResult
      | .error e => getErrorResult signature e.msg

/-- The results of the SVT validator, `null` when there is none. -/
def svtValidationResults (env : PdfSvtEnv Cert) (now : Date)
    (v : SVTenabledPDFDocumentSigVerifier Cert) (pdfDocBytes : Bytes) :
    Outcome (Option (List SignatureSVTValidationResult)) :=
  match v.pdfsvtValidator with
  | none => pure none
  | some pdfsvtValidator => do
      let results ← pdfsvtValidator.validate env now pdfDocBytes
      pure (some results)

/-- `validate`. -/
def validate (env : PdfSvtEnv Cert) (now : Date) (v : SVTenabledPDFDocumentSigVerifier Cert)
    (pdfDocBytes : Bytes) : Outcome (List (ExtendedPdfSigValResult Cert)) :=
  rethrowAs .signature "Error validating signatures on PDF document" do
    let signatureContext ← env.getPdfSignatureContext pdfDocBytes
    let allSignatureList ← env.getSignatureDictionaries pdfDocBytes
    let svtValidationResults ← svtValidationResults env now v pdfDocBytes
    pure ((signatureList env pdfDocBytes allSignatureList).map
      (validateSignature env v pdfDocBytes signatureContext
        (docTsSigList env pdfDocBytes allSignatureList) svtValidationResults))

end SVTenabledPDFDocumentSigVerifier

/-! ## What the libraries answer -/

section Calls

open PDFSVAUtils PDFSVTValidator SVTenabledPDFDocumentSigVerifier

theorem isSVADocTimestamp_of_calls {env : PdfSvtEnv Cert} {sigBytes : Bytes}
    {tstInfo : Option TSTInfo} {svaJwt : String} {parsedJWT : SignedJWT}
    {claimsSet : JWTClaimsSet} {svtClaims : SVTClaims}
    (htst : env.pdf.ts.getCmsSigTSTInfo sigBytes = .ok tstInfo)
    (hjwt : getSVTJWT tstInfo = .ok svaJwt) (hparse : env.svt.parse svaJwt = .ok parsedJWT)
    (hset : parsedJWT.getJWTClaimsSet = .ok claimsSet)
    (hclaims : SVAUtils.getSVTClaims claimsSet = .ok svtClaims) :
    isSVADocTimestamp env sigBytes = true := by
  unfold isSVADocTimestamp
  simp only [bind, Except.bind, htst, hjwt, hparse, hset, hclaims]
  rfl

theorem getSignatureValueBytes_of_calls {env : PdfSvtEnv Cert}
    {signature : PDSignature} {pdfDocBytes contents : Bytes} {signedData : SignedData}
    {signerInfo : SignerInfo} (hcontents : env.pdf.getContents signature pdfDocBytes = .ok contents)
    (hdata : env.getSignedDataFromSignature contents = .ok signedData)
    (hsigner : signedData.signerInfo = .ok signerInfo) :
    getSignatureValueBytes env signature pdfDocBytes = .ok signerInfo.encryptedDigest := by
  unfold getSignatureValueBytes
  simp only [bind, Except.bind, hcontents, hdata, hsigner]
  rfl

theorem typed_of {env : PdfSvtEnv Cert} {signature : PDSignature}
    {pdfDocBytes : Bytes} {type : SignatureType} (h : typeOf env pdfDocBytes signature = .ok type) :
    (do
      let type ← typeOf env pdfDocBytes signature
      pure (signature, type)) = Except.ok (signature, type) := by
  rw [h]
  rfl

theorem typedSignatures_of_calls {env : PdfSvtEnv Cert} {pdfDocBytes : Bytes}
    {all : List PDSignature} {typed : List (PDSignature × SignatureType)}
    (hall : env.getSignatureDictionaries pdfDocBytes = .ok all)
    (htyped : (all.mapM fun signature => do
      let type ← typeOf env pdfDocBytes signature
      pure (signature, type)) = .ok typed) :
    typedSignatures env pdfDocBytes = .ok typed := by
  unfold typedSignatures
  rw [hall]
  exact htyped

theorem collectSVTData_of_calls {env : PdfSvtEnv Cert} {signature : PDSignature}
    {svtTs : PDFSVTDocTimeStamp Cert} {pdfDocBytes contents : Bytes} {signedData : SignedData}
    {signerInfo : SignerInfo} {attributes : Bytes} {digestAlgorithm : DigestAlgorithm}
    {sigHash sbHash : String} {sigClaims : List SignatureClaims} {claims : SignatureClaims}
    {own : SignedDataClaims} {certs : List Bytes}
    (hcontents : env.pdf.getContents signature pdfDocBytes = .ok contents)
    (hdata : env.getSignedDataFromSignature contents = .ok signedData)
    (hsigner : signedData.signerInfo = .ok signerInfo)
    (hattributes : signerInfo.authenticatedAttributes = some attributes)
    (halgo : DigestAlgorithmRegistry.get env.svt.registry svtTs.svtClaims.hashAlgo =
      .ok digestAlgorithm)
    (hsigHash : env.svt.toBase64Digest digestAlgorithm signerInfo.encryptedDigest = .ok sigHash)
    (hsbHash : env.svt.toBase64Digest digestAlgorithm attributes = .ok sbHash)
    (hsig : svtTs.svtClaims.sig = some sigClaims)
    (hfind : sigClaims.find? (fun claims => claims.sigRef.sigHash == sigHash) = some claims)
    (hown : signedDataRef env digestAlgorithm signature pdfDocBytes = .ok own)
    (hcerts : signedData.certificates = .ok certs) :
    collectSVTData env signature svtTs pdfDocBytes =
      .ok (some
        { signedJWT := svtTs.signedJWT
          signatureReference := ⟨none, sigHash, sbHash⟩
          signatureClaims := claims
          signedDataRefList := [own]
          signerCertChain := certs }) := by
  unfold collectSVTData
  simp only [bind, Except.bind, hcontents, hdata, hsigner, halgo, hsigHash, hsig, deref, hfind,
    hattributes, hsbHash, hown, hcerts]
  rfl

theorem cmsSigCerts_of_calls {env : PdfSvtEnv Cert}
    {signature : PDSignature} {pdfDocBytes contents content : Bytes} {cert : Cert}
    {certs : List Cert} (hcontents : env.pdf.getContents signature pdfDocBytes = .ok contents)
    (hcontent : env.pdf.getSignedContent signature pdfDocBytes = .ok content)
    (hcerts : env.pdf.ts.extractCertificates contents content = .ok (cert, certs)) :
    cmsSigCerts env signature pdfDocBytes = .ok (some cert, certs) := by
  unfold cmsSigCerts
  simp only [bind, Except.bind, hcontents, hcontent, hcerts]
  rfl

theorem typeOrIllegal_of_typeOf {env : PdfSvtEnv Cert} {pdfDocBytes : Bytes}
    {signature : PDSignature} {type : SignatureType}
    (h : typeOf env pdfDocBytes signature = .ok type) :
    typeOrIllegal env pdfDocBytes signature = type := by
  unfold typeOrIllegal
  rw [h]

theorem signatureList_cons_signature {env : PdfSvtEnv Cert} {pdfDocBytes : Bytes}
    {signature : PDSignature} {signatures : List PDSignature}
    (h : typeOf env pdfDocBytes signature = .ok .SIGNATURE_TYPE) :
    signatureList env pdfDocBytes (signature :: signatures) =
      signature :: signatureList env pdfDocBytes signatures := by
  unfold signatureList
  rw [List.filter_cons_of_pos (by simp [typeOrIllegal_of_typeOf h])]

theorem signatureList_cons_svt {env : PdfSvtEnv Cert} {pdfDocBytes : Bytes}
    {signature : PDSignature} {signatures : List PDSignature}
    (h : typeOf env pdfDocBytes signature = .ok .SVT_TYPE) :
    signatureList env pdfDocBytes (signature :: signatures) =
      signatureList env pdfDocBytes signatures := by
  unfold signatureList
  rw [List.filter_cons_of_neg (by simp [typeOrIllegal_of_typeOf h])]

theorem signatureList_nil (env : PdfSvtEnv Cert) (pdfDocBytes : Bytes) :
    signatureList env pdfDocBytes [] = [] := rfl

theorem signatureList_cons_unknown {env : PdfSvtEnv Cert} {pdfDocBytes : Bytes}
    {signature : PDSignature} {signatures : List PDSignature}
    (h : typeOf env pdfDocBytes signature = .ok .UNKNOWN_TYPE) :
    signatureList env pdfDocBytes (signature :: signatures) =
      signatureList env pdfDocBytes signatures := by
  unfold signatureList
  rw [List.filter_cons_of_neg (by simp [typeOrIllegal_of_typeOf h])]

theorem validateSignature_of_matching {env : PdfSvtEnv Cert}
    {v : SVTenabledPDFDocumentSigVerifier Cert} {pdfDocBytes : Bytes}
    {signatureContext : DefaultPDFSignatureContext} {docTimestamps : List PDSignature}
    {svtResults : Option (List SignatureSVTValidationResult)} {signature : PDSignature}
    {svtValResult : SignatureSVTValidationResult}
    (h : matchingSvtValidation env pdfDocBytes svtResults signature = some svtValResult) :
    validateSignature env v pdfDocBytes signatureContext docTimestamps svtResults signature =
      compliePDFSigValResultsFromSvtValidation env svtValResult signature pdfDocBytes
        signatureContext := by
  unfold validateSignature
  rw [h]

/-- A CMS that cannot be parsed leaves an error result. -/
theorem validateSignature_of_error {env : PdfSvtEnv Cert}
    {v : SVTenabledPDFDocumentSigVerifier Cert} {pdfDocBytes : Bytes}
    {signatureContext : DefaultPDFSignatureContext} {docTimestamps : List PDSignature}
    {svtResults : Option (List SignatureSVTValidationResult)} {signature : PDSignature}
    {contents signedContent : Bytes} {covers : Bool} {unread unparsed : Exn}
    (hcontents : env.pdf.getContents signature pdfDocBytes = .ok contents)
    (hcontent : env.pdf.getSignedContent signature pdfDocBytes = .ok signedContent)
    (hcovers : signatureContext.isCoversWholeDocument signature = .ok covers)
    (hdata : env.getSignedDataFromSignature contents = .error unread)
    (hparse : env.pdf.parseCMS contents signedContent = .error unparsed) :
    validateSignature env v pdfDocBytes signatureContext docTimestamps svtResults signature =
      getErrorResult signature unparsed.msg := by
  have hvalue : getSignatureValueBytes env signature pdfDocBytes = .error unread := by
    unfold getSignatureValueBytes
    simp only [bind, Except.bind, hcontents, hdata]
  have hmatching : matchingSvtValidation env pdfDocBytes svtResults signature = none := by
    unfold matchingSvtValidation
    simp only [bind, Except.bind, hvalue]
  have hdirect : ∀ docTimeStampList, PDFSingleSignatureValidator.verifySignature env.pdf
      v.pdfSingleSignatureValidator signature pdfDocBytes docTimeStampList signatureContext =
      .error unparsed := by
    intro docTimeStampList
    unfold PDFSingleSignatureValidator.verifySignature
    simp only [bind, Except.bind, hcontents, hcovers, hcontent, hparse]
  unfold validateSignature
  rw [hmatching]
  dsimp only
  rw [hdirect]

/-- Without a token the signature is validated directly. -/
theorem validateSignature_of_verify {env : PdfSvtEnv Cert}
    {v : SVTenabledPDFDocumentSigVerifier Cert} {pdfDocBytes : Bytes}
    {signatureContext : DefaultPDFSignatureContext} {signature : PDSignature}
    {result : ExtendedPdfSigValResult Cert}
    (hverify : v.pdfSingleSignatureValidator.verifySignature env.pdf signature pdfDocBytes []
      signatureContext = .ok result) :
    validateSignature env v pdfDocBytes signatureContext [] none signature = result := by
  have hmatching : matchingSvtValidation env pdfDocBytes none signature = none := by
    unfold matchingSvtValidation
    cases getSignatureValueBytes env signature pdfDocBytes <;> rfl
  have hnone : v.pdfSingleSignatureValidator.verifyDocumentTimestamps env.pdf [] pdfDocBytes =
      [] := rfl
  unfold validateSignature
  rw [hmatching]
  dsimp only
  rw [hnone, hverify]

/-- The result of a signature whose entry is a success. -/
theorem complie_of_calls {env : PdfSvtEnv Cert} {svtValResult : SignatureSVTValidationResult}
    {signature : PDSignature} {pdfDocBytes : Bytes} {signatureContext : DefaultPDFSignatureContext}
    {sigBytes : Bytes} {signedData : SignedData} {subFilter : String} {time : Option Date}
    {covers : Bool} {uri : String} {svtSigner : Cert} {cert : Option Cert} {chain : List Cert}
    {claimsSet : JWTClaimsSet} {issueTime : Date} {timeVal : List TimeValidationClaims}
    (hbytes : env.pdf.getContents signature pdfDocBytes = .ok sigBytes)
    (hdata : env.getSignedDataFromSignature sigBytes = .ok signedData)
    (hfilter : signature.subFilter = some subFilter)
    (htime : getClaimedSigningTime (env.pdf.getSignDate signature) signedData = .ok time)
    (hcovers : signatureContext.isCoversWholeDocument signature = .ok covers)
    (huri : env.result.getUri svtValResult.signedJWT.header.algorithm = .ok uri)
    (hsigner : env.result.getCertificate svtValResult.signerCertificate = .ok svtSigner)
    (hpk : env.result.getPkParams svtSigner = .ok ())
    (hcerts : cmsSigCerts env signature pdfDocBytes = .ok (cert, chain))
    (hsuccess : svtValResult.svtValidationSuccess = true)
    (hset : svtValResult.signedJWT.getJWTClaimsSet = .ok claimsSet)
    (hissue : claimsSet.issueTime = some issueTime)
    (htimes : svtValResult.signatureClaims.timeVal = some timeVal) :
    compliePDFSigValResultsFromSvtValidation env svtValResult signature pdfDocBytes
        signatureContext =
      { pdfSignature := some signature
        signedData := some sigBytes
        etsiAdes := env.caseTable.equalsIgnoreCase subFilter cadesSigSubfilterLc
        invalidSignCert := false
        claimedSigningTime := time
        coversDocument := covers
        signedDocument := (signatureContext.getSignedDocument signature).toOption
        signatureAlgorithm := some uri
        svtJWT := some svtValResult.signedJWT
        signerCertificate := cert
        signatureCertificateChain := some chain
        certificateValidationResult := some (.default (env.result.getOrderedCertList
          svtValResult.signerCertificate svtValResult.certificateChain))
        status := getStatusFromPolicyValidationClaims svtValResult.signatureClaims.sigVal
        signatureClaims := some { svtValResult.signatureClaims with
          timeVal := some (timeVal ++ [svtTimeValidationClaims claimsSet issueTime]) }
        validationPolicyResultList := svtValResult.signatureClaims.sigVal
        timeValidationResults :=
          some ((timeVal ++ [svtTimeValidationClaims claimsSet issueTime]).map fun claims =>
            ⟨some claims, none, none⟩) } := by
  unfold compliePDFSigValResultsFromSvtValidation svtValidationBody takeSvtValidation
    Mutating.tryCatch Mutating.zoom
  simp only [Mutating.run_bind, Mutating.run_call, Mutating.run_modify, deref, hbytes, hdata,
    hfilter, htime, hcovers, huri, hsigner, hpk, hcerts, hsuccess, hset, hissue, htimes, if_true]
  rfl

end Calls

end SigVal.Pdf
