import SigVal.Pdf.SignatureContext
import SigVal.Policy.PkixPolicy

/-!
# Validation of one PDF signature

`PDFSingleSignatureValidatorImpl` and the document timestamps it is given. The
CMS library is behind `PdfEnv`: it parses the content of a signature dictionary
and tells whether the signer information verifies. Everything from there to the
verdict of the policy is the code's.
-/

namespace SigVal.Pdf

open SigVal.Java SigVal.Cert SigVal.Commons SigVal.Policy

variable {Cert : Type}

/-! ## Document timestamps -/

/-- `PDFDocTimeStamp`: a timestamp and the dictionary it comes from. -/
structure PDFDocTimeStamp (Cert : Type) extends TimeStamp Cert where
  documentTimestampSig : PDSignature
deriving DecidableEq, Repr

/-- `isSignatureCovered`: the signed bytes of the signature end before the end
of the first range of the timestamp. -/
def PDFDocTimeStamp.isSignatureCovered (docTimeStamp : PDFDocTimeStamp Cert)
    (signature : PDSignature) : Bool :=
  let covered : Outcome Bool := do
    let sigEndIndex ← DefaultPDFSignatureContext.signedLength signature
    let end1 ← arrayGet docTimeStamp.documentTimestampSig.byteRange 1
    pure (decide (end1 > sigEndIndex))
  match covered with
  | .ok b => b
  | .error _ => false

/-- The timestamp objects of a PDF result: those of the signature, and document
timestamps. -/
inductive PdfTimeStamp (Cert : Type) where
  | timeStamp (ts : TimeStamp Cert)
  | docTimeStamp (ts : PDFDocTimeStamp Cert)
deriving DecidableEq, Repr

instance : IsTimeStamp (PdfTimeStamp Cert) Cert where
  toTimeStamp
    | .timeStamp ts => ts
    | .docTimeStamp ts => ts.toTimeStamp

/-! ## The CMS of a signature -/

/-- An `ESSCertID` or `ESSCertIDv2`; the second may name a digest algorithm. -/
structure ESSCertID where
  hashAlgorithm : Option String
  certHash : Bytes
deriving DecidableEq, Repr

/-- The algorithms of a CMS algorithm protection attribute, as far as they were
parsed. -/
structure CMSAlgorithmProtection where
  digestAlgo : Option String
  sigAlgo : Option String
deriving DecidableEq, Repr

/-- The signed attributes the code looks for. `signingTime` is the attribute
with the time in it, when that parses. -/
structure SignedAttributes where
  cmsAlgorithmProtect : Option CMSAlgorithmProtection
  signingCertificateV2 : Option (Outcome ESSCertID)
  signingCertificateV1 : Option (Outcome ESSCertID)
  signingTime : Option (Option Date)

/-- The parsed CMS of a signature dictionary, with its first signer. -/
structure CMSSignature (Cert : Type) where
  sigCert : Cert
  chain : List Cert
  /-- `signerInformation.verify` with the verifier for the signer certificate. -/
  verify : Outcome Bool
  encryptionAlgOID : String
  digestAlgOID : String
  signedAttributes : Option SignedAttributes
  /-- The tokens of the signature timestamp attributes. -/
  timeStampTokens : Outcome (List Bytes)
  signatureValue : Bytes

/-- The libraries a PDF signature is validated with. -/
structure PdfEnv (Cert : Type) where
  /-- `PDSignature.getContents` and `getSignedContent` on the document. -/
  getContents : PDSignature → Bytes → Outcome Bytes
  getSignedContent : PDSignature → Bytes → Outcome Bytes
  getSignDate : PDSignature → Option Date
  /-- From the content of the dictionary and the signed bytes to the verifier. -/
  parseCMS : Bytes → Bytes → Outcome (CMSSignature Cert)
  getPkParams : Cert → Outcome Unit
  getEncoded : Cert → Outcome Bytes
  /-- `PDFAlgorithmRegistry.getAlgorithmURI`. -/
  getAlgorithmURI : Option String → Option String → Outcome String
  /-- `PDFAlgorithmRegistry.getAlgorithmProperties`, for its exception. -/
  getAlgorithmProperties : String → Outcome Unit
  ts : TsEnv Cert

/-! ## The result object -/

/-- `ExtendedPdfSigValResult`. -/
structure ExtendedPdfSigValResult (Cert : Type) extends
    ExtendedSigValResult Cert (PdfTimeStamp Cert) where
  pdfSignature : Option PDSignature := none
  signedData : Option Bytes := none
  cmsSignatureAlgo : Option String := none
  cmsDigestAlgo : Option String := none
  cmsAlgorithmProtection : Bool := false
  cmsAlgoProtectionDigestAlgo : Option String := none
  cmsAlgoProtectionSigAlgo : Option String := none
deriving DecidableEq, Repr

namespace CMSVerifyUtils

def getCMSAlgoritmProtectionData (cmsAlgoProtAttr : Option CMSAlgorithmProtection)
    (sigResult : ExtendedPdfSigValResult Cert) : ExtendedPdfSigValResult Cert :=
  match cmsAlgoProtAttr with
  | none => { sigResult with cmsAlgorithmProtection := false }
  | some attr =>
      { sigResult with
        cmsAlgorithmProtection := true
        cmsAlgoProtectionDigestAlgo := attr.digestAlgo
        cmsAlgoProtectionSigAlgo := attr.sigAlgo }

def checkAlgoritmConsistency (env : PdfEnv Cert) (sigResult : ExtendedPdfSigValResult Cert) :
    Outcome Bool :=
  match sigResult.signatureAlgorithm with
  | none => .ok false
  | some signatureAlgorithm =>
      match env.getAlgorithmProperties signatureAlgorithm with
      | .error ex => if ex.cls = .noSuchAlgorithm then .ok false else .error ex
      | .ok () =>
          if !sigResult.cmsAlgorithmProtection then .ok true
          else
            match env.getAlgorithmURI sigResult.cmsAlgoProtectionSigAlgo
              sigResult.cmsAlgoProtectionDigestAlgo with
            | .ok uri => .ok (uri == signatureAlgorithm)
            | .error ex => if ex.cls = .noSuchAlgorithm then .ok false else .error ex

@[simp] theorem getCMSAlgoritmProtectionData_base (attr : Option CMSAlgorithmProtection)
    (sigResult : ExtendedPdfSigValResult Cert) :
    (getCMSAlgoritmProtectionData attr sigResult).toExtendedSigValResult =
      sigResult.toExtendedSigValResult := by
  cases attr <;> rfl

@[simp] theorem getCMSAlgoritmProtectionData_pdfSignature (attr : Option CMSAlgorithmProtection)
    (sigResult : ExtendedPdfSigValResult Cert) :
    (getCMSAlgoritmProtectionData attr sigResult).pdfSignature = sigResult.pdfSignature := by
  cases attr <;> rfl

end CMSVerifyUtils

/-! ## The validator -/

/-- `PDFSingleSignatureValidatorImpl`, with its collaborators. -/
structure PDFSingleSignatureValidator (Cert : Type) where
  certificateValidator : CertificateValidator Cert
  sigPolicyVerifier :
    ExtendedPdfSigValResult Cert → DefaultPDFSignatureContext → Outcome PolicyValidationResult
  timeStampPolicyVerifier : TimeStampPolicyVerifier Cert

namespace PDFSingleSignatureValidator

/-- The certificate reference of the signed attributes against the signer
certificate. The digest of the first version is SHA-1, that of the second
SHA-256 unless it names one. -/
def essCertMatches (env : PdfEnv Cert) (attrs : SignedAttributes) (signer : Option Cert) :
    Outcome Bool := do
  let (essCertID, hashAlgo) ←
    match attrs.signingCertificateV2, attrs.signingCertificateV1 with
    | some essCertIDv2, _ => do
        let essCertID ← essCertIDv2
        let hashAlgo ←
          match essCertID.hashAlgorithm with
          | some oid => DigestAlgorithmRegistry.getByOid env.ts.registry (some oid)
          | none => DigestAlgorithmRegistry.get env.ts.registry (some DigestAlgorithm.idSHA256)
        pure (essCertID, hashAlgo)
    | none, some essCertIDv1 => do
        let essCertID ← essCertIDv1
        let hashAlgo ← DigestAlgorithmRegistry.get env.ts.registry (some DigestAlgorithm.idSHA1)
        pure (essCertID, hashAlgo)
    | none, none => throw Exn.nullPointer
  let signerCertificate ← deref signer
  let encoded ← env.getEncoded signerCertificate
  let certHash ← env.ts.digest hashAlgo encoded
  pure (certHash == essCertID.certHash)

/-- `verifyPadesProperties`: a signature with a certificate reference fails
until the reference has been compared. -/
def verifyPadesProperties (env : PdfEnv Cert) (attrs : SignedAttributes)
    (sigResult : ExtendedPdfSigValResult Cert) : ExtendedPdfSigValResult Cert :=
  if attrs.signingCertificateV2.isNone && attrs.signingCertificateV1.isNone then
    { sigResult with etsiAdes := false, invalidSignCert := false }
  else
    match essCertMatches env attrs sigResult.signerCertificate with
    | .ok true => { sigResult with etsiAdes := true, invalidSignCert := false, status := .SUCCESS }
    | .ok false =>
        { sigResult with
          etsiAdes := true
          invalidSignCert := true
          status := .ERROR_SIGNER_INVALID
          statusMessage := some "Cert Hash mismatch" }
    | .error ex =>
        { sigResult with
          etsiAdes := true
          invalidSignCert := true
          status := .ERROR_SIGNER_INVALID
          statusMessage := some ("Exception while examining Pades signed cert attr: " ++ ex.msg) }

def getClaimedSigningTime (dictionarySignDate : Option Date)
    (signedAttrSigningTime : Option (Option Date)) : Option Date :=
  match signedAttrSigningTime with
  | none => dictionarySignDate
  | some signingTime => signingTime

/-- `checkTimeStamps`, with the `catch` around its call: the results have no
claims yet. -/
def checkTimeStamps (env : PdfEnv Cert) (v : PDFSingleSignatureValidator Cert)
    (cms : CMSSignature Cert) : List (TimeValidationResult Cert (PdfTimeStamp Cert)) :=
  match cms.timeStampTokens with
  | .ok tokens =>
      tokens.map fun token =>
        let timeStamp :=
          TimeStamp.ofToken env.ts v.timeStampPolicyVerifier token (some cms.signatureValue)
        ⟨none, timeStamp.certificateValidationResult, some (.timeStamp timeStamp)⟩
  | .error _ => []

/-- `addVerifiedTimes`: the times of the signature timestamps, then those of the
document timestamps. Which signature a document timestamp covers is not asked. -/
def addVerifiedTimes (env : PdfEnv Cert)
    (signatureTimes : List (TimeValidationResult Cert (PdfTimeStamp Cert)))
    (docTimeStampList : List (PDFDocTimeStamp Cert)) :
    List (TimeValidationResult Cert (PdfTimeStamp Cert)) :=
  (signatureTimes.filterMap fun result =>
    result.timeStamp.bind
      (getTimeValidationResult env.ts.getSubject timeVerificationTypeSigTimestamp)) ++
  docTimeStampList.filterMap fun docTimeStamp =>
    getTimeValidationResult env.ts.getSubject timeVerificationTypePdfDocTimestamp
      (PdfTimeStamp.docTimeStamp docTimeStamp)

/-- What is taken over from path validation. Unlike in the other formats every
exception is recorded, and the status stays as it is. -/
def takePathOutcome (outcome : PathOutcome Cert) (sigResult : ExtendedPdfSigValResult Cert) :
    ExtendedPdfSigValResult Cert :=
  match outcome with
  | .ok validationResult => { sigResult with certificateValidationResult := some validationResult }
  | .error (.extended message pathResult) =>
      { sigResult with
        certificateValidationResult := some (.pathValidation pathResult)
        statusMessage := some message
        exception := some ⟨.certPathValidator, message⟩ }
  | .error (.other ex) =>
      { sigResult with
        statusMessage := some "Signer certificate failed path validation"
        exception := some ex }

/-- The steps of `verifySignature` after the algorithm checks, up to the
policy. -/
def collect (env : PdfEnv Cert) (v : PDFSingleSignatureValidator Cert) (signature : PDSignature)
    (documentTimestamps : List (PDFDocTimeStamp Cert)) (cms : CMSSignature Cert)
    (attrs : SignedAttributes) (sigResult : ExtendedPdfSigValResult Cert) :
    ExtendedPdfSigValResult Cert :=
  let sigResult :=
    if sigResult.isSuccess then verifyPadesProperties env attrs sigResult else sigResult
  let sigResult :=
    { sigResult with
      claimedSigningTime := getClaimedSigningTime (env.getSignDate signature) attrs.signingTime
      timeValidationResults :=
        some (addVerifiedTimes env (checkTimeStamps env v cms) documentTimestamps) }
  takePathOutcome
    (v.certificateValidator sigResult.signerCertificate sigResult.signatureCertificateChain)
    sigResult

/-- The copy of the verdict. -/
def takePolicyResult (policyValidationResult : PolicyValidationResult)
    (sigResult : ExtendedPdfSigValResult Cert) : ExtendedPdfSigValResult Cert :=
  { sigResult with
    toExtendedSigValResult :=
      sigResult.toExtendedSigValResult.takePolicyResult policyValidationResult }

/-- `verifySignature` from the algorithm protection attribute on. -/
def checkConsistency (env : PdfEnv Cert) (v : PDFSingleSignatureValidator Cert)
    (signature : PDSignature) (documentTimestamps : List (PDFDocTimeStamp Cert))
    (signatureContext : DefaultPDFSignatureContext) (cms : CMSSignature Cert)
    (attrs : SignedAttributes) (sigResult : ExtendedPdfSigValResult Cert) :
    Outcome (ExtendedPdfSigValResult Cert) := do
  let sigResult :=
    CMSVerifyUtils.getCMSAlgoritmProtectionData attrs.cmsAlgorithmProtect sigResult
  if ← CMSVerifyUtils.checkAlgoritmConsistency env sigResult then
    let sigResult := collect env v signature documentTimestamps cms attrs sigResult
    let policyValidationResult ← v.sigPolicyVerifier sigResult signatureContext
    pure (takePolicyResult policyValidationResult sigResult)
  else
    let msg := "Signature algorithm mismatch in CMS algorithm protection extension"
    pure
      { sigResult with
        status := .ERROR_INVALID_SIGNATURE
        exception := some ⟨.signature, msg⟩
        statusMessage := some msg }

/-- `verifySignature` once the signer information has been checked. -/
def checkAlgorithms (env : PdfEnv Cert) (v : PDFSingleSignatureValidator Cert)
    (signature : PDSignature) (documentTimestamps : List (PDFDocTimeStamp Cert))
    (signatureContext : DefaultPDFSignatureContext) (cms : CMSSignature Cert)
    (sigResult : ExtendedPdfSigValResult Cert) : Outcome (ExtendedPdfSigValResult Cert) := do
  env.getPkParams cms.sigCert
  let sigResult :=
    { sigResult with
      cmsSignatureAlgo := some cms.encryptionAlgOID
      cmsDigestAlgo := some cms.digestAlgOID }
  match env.getAlgorithmURI (some cms.encryptionAlgOID) (some cms.digestAlgOID) with
  | .error ex =>
      pure
        { sigResult with
          status := .ERROR_INVALID_SIGNATURE
          exception := some ex
          statusMessage := some "Signature was signed with unsupported algorithms" }
  | .ok algorithmURI => do
      let attrs ← deref cms.signedAttributes
      checkConsistency env v signature documentTimestamps signatureContext cms attrs
        { sigResult with signatureAlgorithm := some algorithmURI }

/-- `verifySignature`. -/
def verifySignature (env : PdfEnv Cert) (v : PDFSingleSignatureValidator Cert)
    (signature : PDSignature) (pdfDocument : Bytes)
    (documentTimestamps : List (PDFDocTimeStamp Cert))
    (signatureContext : DefaultPDFSignatureContext) :
    Outcome (ExtendedPdfSigValResult Cert) := do
  let signedData ← env.getContents signature pdfDocument
  let coversDocument ← signatureContext.isCoversWholeDocument signature
  let signedDocument := (signatureContext.getSignedDocument signature).toOption
  let signedContent ← env.getSignedContent signature pdfDocument
  let cms ← env.parseCMS signedData signedContent
  let sigResult : ExtendedPdfSigValResult Cert :=
    { pdfSignature := some signature
      signedData := some signedData
      coversDocument := coversDocument
      signedDocument := signedDocument
      signerCertificate := some cms.sigCert
      signatureCertificateChain := some cms.chain }
  match cms.verify with
  | .error ex =>
      pure
        { sigResult with
          status := .ERROR_INVALID_SIGNATURE
          exception := some ex
          statusMessage := some ("Signature validation failure: " ++ ex.msg) }
  | .ok verified =>
      let status := if verified then Status.SUCCESS else .ERROR_INVALID_SIGNATURE
      checkAlgorithms env v signature documentTimestamps signatureContext cms
        { sigResult with status := status }

/-- `verifyDocumentTimestamps`: a dictionary that cannot be read is left out. -/
def verifyDocumentTimestamps (env : PdfEnv Cert) (v : PDFSingleSignatureValidator Cert)
    (documentTimestampSignatures : List PDSignature) (pdfDocument : Bytes) :
    List (PDFDocTimeStamp Cert) :=
  documentTimestampSignatures.filterMap fun sig =>
    match env.getContents sig pdfDocument, env.getSignedContent sig pdfDocument with
    | .ok contents, .ok signedContent =>
        let ts := TimeStamp.ofToken env.ts v.timeStampPolicyVerifier contents (some signedContent)
        some { ts with documentTimestampSig := sig }
    | _, _ => none

/-! ## What each step establishes -/

/-- The CMS of a signature dictionary. -/
def signatureCMS (env : PdfEnv Cert) (signature : PDSignature) (pdfDocument : Bytes) :
    Outcome (CMSSignature Cert) := do
  let contents ← env.getContents signature pdfDocument
  let signedContent ← env.getSignedContent signature pdfDocument
  env.parseCMS contents signedContent

/-- The algorithm is known, and is the one the algorithm protection attribute
names when there is one. -/
structure AlgorithmsConsistent (env : PdfEnv Cert) (uri : String) (attrs : SignedAttributes) :
    Prop where
  known : env.getAlgorithmProperties uri = .ok ()
  protected_ : ∀ prot, attrs.cmsAlgorithmProtect = some prot →
    env.getAlgorithmURI prot.sigAlgo prot.digestAlgo = .ok uri

/-- The certificate reference of the signed attributes, when there is one,
matches the signer. -/
def SignerNamed (env : PdfEnv Cert) (attrs : SignedAttributes) (signer : Option Cert) : Prop :=
  attrs.signingCertificateV2.isSome = true ∨ attrs.signingCertificateV1.isSome = true →
    essCertMatches env attrs signer = .ok true

theorem checkAlgoritmConsistency_iff (env : PdfEnv Cert) {uri : String} (attrs : SignedAttributes)
    {sigResult : ExtendedPdfSigValResult Cert} (huri : sigResult.signatureAlgorithm = some uri) :
    CMSVerifyUtils.checkAlgoritmConsistency env
        (CMSVerifyUtils.getCMSAlgoritmProtectionData attrs.cmsAlgorithmProtect sigResult) =
      .ok true ↔ AlgorithmsConsistent env uri attrs := by
  have hkept : (CMSVerifyUtils.getCMSAlgoritmProtectionData attrs.cmsAlgorithmProtect
      sigResult).signatureAlgorithm = some uri := by
    rw [CMSVerifyUtils.getCMSAlgoritmProtectionData_base]
    exact huri
  unfold CMSVerifyUtils.checkAlgoritmConsistency
  simp only [hkept]
  cases hknown : env.getAlgorithmProperties uri with
  | error ex =>
      have hnot : ¬ AlgorithmsConsistent env uri attrs := by
        intro h
        have := h.known
        rw [hknown] at this
        cases this
      simp only [hnot, iff_false]
      split <;> simp
  | ok u =>
      cases hprot : attrs.cmsAlgorithmProtect with
      | none =>
          have hcons : AlgorithmsConsistent env uri attrs := by
            refine ⟨hknown, ?_⟩
            intro prot h
            rw [hprot] at h
            cases h
          simp [CMSVerifyUtils.getCMSAlgoritmProtectionData, hcons]
      | some prot =>
          have hiff : AlgorithmsConsistent env uri attrs ↔
              env.getAlgorithmURI prot.sigAlgo prot.digestAlgo = .ok uri := by
            constructor
            · intro h
              exact h.protected_ prot hprot
            · intro h
              refine ⟨hknown, ?_⟩
              intro prot' hprot'
              rw [hprot] at hprot'
              cases hprot'
              exact h
          simp only [CMSVerifyUtils.getCMSAlgoritmProtectionData, Bool.not_true,
            Bool.false_eq_true, if_false, hiff]
          cases hprotUri : env.getAlgorithmURI prot.sigAlgo prot.digestAlgo with
          | ok protUri => simp
          | error ex =>
              simp only [reduceCtorEq, iff_false]
              split <;> simp

section Consistency

variable {env : PdfEnv Cert} {signature : PDSignature}
  {documentTimestamps : List (PDFDocTimeStamp Cert)}
  {signatureContext : DefaultPDFSignatureContext} {cms : CMSSignature Cert}
  {attrs : SignedAttributes} {uri : String} {sigResult result : ExtendedPdfSigValResult Cert}

/-- With a consistent algorithm the policy decides on what was collected. -/
theorem checkConsistency_consistent (v : PDFSingleSignatureValidator Cert)
    (huri : sigResult.signatureAlgorithm = some uri)
    (hconsistent : AlgorithmsConsistent env uri attrs) :
    ∃ base : ExtendedPdfSigValResult Cert,
      base.toExtendedSigValResult = sigResult.toExtendedSigValResult ∧
      base.pdfSignature = sigResult.pdfSignature ∧
      checkConsistency env v signature documentTimestamps signatureContext cms attrs sigResult =
        (do
          let verdict ← v.sigPolicyVerifier
            (collect env v signature documentTimestamps cms attrs base) signatureContext
          pure (takePolicyResult verdict
            (collect env v signature documentTimestamps cms attrs base))) := by
  refine ⟨CMSVerifyUtils.getCMSAlgoritmProtectionData attrs.cmsAlgorithmProtect sigResult,
    CMSVerifyUtils.getCMSAlgoritmProtectionData_base _ _,
    CMSVerifyUtils.getCMSAlgoritmProtectionData_pdfSignature _ _, ?_⟩
  have hcheck := (checkAlgoritmConsistency_iff env attrs huri).mpr hconsistent
  unfold checkConsistency
  dsimp only
  rw [hcheck]
  rfl

/-- Any other algorithm makes the signature an invalid one, before the times are looked at. -/
theorem checkConsistency_inconsistent {v : PDFSingleSignatureValidator Cert}
    (huri : sigResult.signatureAlgorithm = some uri)
    (hnot : ¬ AlgorithmsConsistent env uri attrs)
    (h : checkConsistency env v signature documentTimestamps signatureContext cms attrs sigResult =
      .ok result) :
    result.status = .ERROR_INVALID_SIGNATURE ∧
      result.timeValidationResults = sigResult.timeValidationResults := by
  have hbase := CMSVerifyUtils.getCMSAlgoritmProtectionData_base attrs.cmsAlgorithmProtect sigResult
  obtain ⟨consistent, hcheck, h⟩ := bind_ok_iff.mp h
  cases consistent with
  | true => exact absurd ((checkAlgoritmConsistency_iff env attrs huri).mp hcheck) hnot
  | false =>
      cases h
      refine ⟨rfl, ?_⟩
      rw [← hbase]

end Consistency

/-- The PAdES check leaves a success one exactly when the reference matches. -/
theorem verifyPadesProperties_status_iff {env : PdfEnv Cert} {attrs : SignedAttributes}
    {sigResult : ExtendedPdfSigValResult Cert} (hstatus : sigResult.status = .SUCCESS) :
    (verifyPadesProperties env attrs sigResult).status = .SUCCESS ↔
      SignerNamed env attrs sigResult.signerCertificate := by
  unfold verifyPadesProperties SignerNamed
  by_cases hnone : (attrs.signingCertificateV2.isNone && attrs.signingCertificateV1.isNone) = true
  · rw [if_pos hnone]
    simp only [Bool.and_eq_true, Option.isNone_iff_eq_none] at hnone
    simp [hstatus, hnone.1, hnone.2]
  · rw [if_neg hnone]
    have hsome : attrs.signingCertificateV2.isSome = true ∨
        attrs.signingCertificateV1.isSome = true := by
      cases hv2 : attrs.signingCertificateV2 with
      | some _ => exact .inl rfl
      | none =>
          cases hv1 : attrs.signingCertificateV1 with
          | some _ => exact .inr rfl
          | none => simp [hv2, hv1] at hnone
    cases essCertMatches env attrs sigResult.signerCertificate with
    | error ex => simp [hsome]
    | ok named =>
        cases named with
        | true => simp
        | false => simp [hsome]

/-- What the PAdES check leaves alone. -/
theorem verifyPadesProperties_kept (env : PdfEnv Cert) (attrs : SignedAttributes)
    (sigResult : ExtendedPdfSigValResult Cert) :
    (verifyPadesProperties env attrs sigResult).exception = sigResult.exception ∧
      (verifyPadesProperties env attrs sigResult).certificateValidationResult =
        sigResult.certificateValidationResult ∧
      (verifyPadesProperties env attrs sigResult).signerCertificate =
        sigResult.signerCertificate ∧
      (verifyPadesProperties env attrs sigResult).signatureCertificateChain =
        sigResult.signatureCertificateChain ∧
      (verifyPadesProperties env attrs sigResult).pdfSignature = sigResult.pdfSignature := by
  unfold verifyPadesProperties
  split
  · exact ⟨rfl, rfl, rfl, rfl, rfl⟩
  · split <;> exact ⟨rfl, rfl, rfl, rfl, rfl⟩

/-! ## What no step after the CMS replaces -/

/-- The result still names the dictionary and holds its CMS, and no token was taken. -/
structure KeepsSource (sigResult result : ExtendedPdfSigValResult Cert) : Prop where
  svtJWT : result.svtJWT = sigResult.svtJWT
  pdfSignature : result.pdfSignature = sigResult.pdfSignature
  signedData : result.signedData = sigResult.signedData

section Source

variable {env : PdfEnv Cert} {v : PDFSingleSignatureValidator Cert} {signature : PDSignature}
  {documentTimestamps : List (PDFDocTimeStamp Cert)}
  {signatureContext : DefaultPDFSignatureContext} {cms : CMSSignature Cert}
  {attrs : SignedAttributes} {sigResult between result : ExtendedPdfSigValResult Cert}

theorem KeepsSource.trans (h : KeepsSource sigResult between) (h' : KeepsSource between result) :
    KeepsSource sigResult result where
  svtJWT := h'.svtJWT.trans h.svtJWT
  pdfSignature := h'.pdfSignature.trans h.pdfSignature
  signedData := h'.signedData.trans h.signedData

theorem verifyPadesProperties_keepsSource :
    KeepsSource sigResult (verifyPadesProperties env attrs sigResult) := by
  unfold verifyPadesProperties
  split
  · exact ⟨rfl, rfl, rfl⟩
  · split <;> exact ⟨rfl, rfl, rfl⟩

theorem takePathOutcome_keepsSource (outcome : PathOutcome Cert) :
    KeepsSource sigResult (takePathOutcome outcome sigResult) := by
  unfold takePathOutcome
  split <;> exact ⟨rfl, rfl, rfl⟩

theorem takePolicyResult_keepsSource (verdict : PolicyValidationResult) :
    KeepsSource sigResult (takePolicyResult verdict sigResult) := by
  unfold takePolicyResult ExtendedSigValResult.takePolicyResult
  dsimp only
  split <;> exact ⟨rfl, rfl, rfl⟩

theorem collect_keepsSource :
    KeepsSource sigResult
      (v.collect env signature documentTimestamps cms attrs sigResult) := by
  have hpades : KeepsSource sigResult
      (if sigResult.isSuccess then verifyPadesProperties env attrs sigResult else sigResult) := by
    split
    · exact verifyPadesProperties_keepsSource
    · exact ⟨rfl, rfl, rfl⟩
  refine KeepsSource.trans ?_ (takePathOutcome_keepsSource _)
  exact ⟨hpades.svtJWT, hpades.pdfSignature, hpades.signedData⟩

theorem checkConsistency_keepsSource
    (h : checkConsistency env v signature documentTimestamps signatureContext cms attrs sigResult =
      .ok result) : KeepsSource sigResult result := by
  have hbase : KeepsSource sigResult
      (CMSVerifyUtils.getCMSAlgoritmProtectionData attrs.cmsAlgorithmProtect sigResult) := by
    cases attrs.cmsAlgorithmProtect with
    | none => exact ⟨rfl, rfl, rfl⟩
    | some prot => exact ⟨rfl, rfl, rfl⟩
  obtain ⟨consistent, -, h⟩ := bind_ok_iff.mp h
  cases consistent with
  | false =>
      cases h
      exact ⟨hbase.svtJWT, hbase.pdfSignature, hbase.signedData⟩
  | true =>
      obtain ⟨verdict, -, h⟩ := bind_ok_iff.mp h
      cases h
      exact hbase.trans (collect_keepsSource.trans (takePolicyResult_keepsSource verdict))

theorem checkAlgorithms_keepsSource
    (h : checkAlgorithms env v signature documentTimestamps signatureContext cms sigResult =
      .ok result) : KeepsSource sigResult result := by
  obtain ⟨_, -, h⟩ := bind_ok_iff.mp h
  cases huri : env.getAlgorithmURI (some cms.encryptionAlgOID) (some cms.digestAlgOID) with
  | error ex =>
      simp only [huri] at h
      cases h
      exact ⟨rfl, rfl, rfl⟩
  | ok uri =>
      simp only [huri] at h
      obtain ⟨attrs, -, h⟩ := bind_ok_iff.mp h
      have hkept := checkConsistency_keepsSource h
      exact ⟨hkept.svtJWT, hkept.pdfSignature, hkept.signedData⟩

/-- What `verifySignature` read is in its result, and no token is. -/
theorem verifySignature_source {pdfDocument : Bytes}
    (h : verifySignature env v signature pdfDocument documentTimestamps signatureContext =
      .ok result) :
    ∃ contents covers signedContent cms, env.getContents signature pdfDocument = .ok contents ∧
      signatureContext.isCoversWholeDocument signature = .ok covers ∧
      env.getSignedContent signature pdfDocument = .ok signedContent ∧
      env.parseCMS contents signedContent = .ok cms ∧
      KeepsSource { pdfSignature := some signature, signedData := some contents } result := by
  obtain ⟨contents, hcontents, h⟩ := bind_ok_iff.mp h
  obtain ⟨covers, hcovers, h⟩ := bind_ok_iff.mp h
  obtain ⟨signedContent, hsigned, h⟩ := bind_ok_iff.mp h
  obtain ⟨cms, hcms, h⟩ := bind_ok_iff.mp h
  refine ⟨contents, covers, signedContent, cms, hcontents, hcovers, hsigned, hcms, ?_⟩
  cases hverify : cms.verify with
  | error ex =>
      simp only [hverify] at h
      cases h
      exact ⟨rfl, rfl, rfl⟩
  | ok verified =>
      simp only [hverify] at h
      have hkept := checkAlgorithms_keepsSource h
      exact ⟨hkept.svtJWT, hkept.pdfSignature, hkept.signedData⟩

end Source

/-- A signature that verifies and names its signer is judged by its path and by the policy. -/
theorem verifySignature_of_calls {env : PdfEnv Cert} {v : PDFSingleSignatureValidator Cert}
    {signature : PDSignature} {doc contents content : Bytes} {docTs : List (PDFDocTimeStamp Cert)}
    {signatureContext : DefaultPDFSignatureContext} {covers : Bool} {cms : CMSSignature Cert}
    {attrs : SignedAttributes} {uri : String} {path : CertificateValidationResult Cert}
    {verdict : PolicyValidationResult} {sigResult : ExtendedPdfSigValResult Cert}
    (hcontents : env.getContents signature doc = .ok contents)
    (hcovers : signatureContext.isCoversWholeDocument signature = .ok covers)
    (hcontent : env.getSignedContent signature doc = .ok content)
    (hparse : env.parseCMS contents content = .ok cms) (hverify : cms.verify = .ok true)
    (hpk : env.getPkParams cms.sigCert = .ok ())
    (huri : env.getAlgorithmURI (some cms.encryptionAlgOID) (some cms.digestAlgOID) = .ok uri)
    (hattrs : cms.signedAttributes = some attrs) (hunprotected : attrs.cmsAlgorithmProtect = none)
    (hknown : env.getAlgorithmProperties uri = .ok ())
    (hreference : attrs.signingCertificateV2.isSome = true)
    (hnamed : essCertMatches env attrs (some cms.sigCert) = .ok true)
    (hpath : v.certificateValidator (some cms.sigCert) (some cms.chain) = .ok path)
    (hresult : sigResult =
      { pdfSignature := some signature
        signedData := some contents
        coversDocument := covers
        signedDocument := (signatureContext.getSignedDocument signature).toOption
        signerCertificate := some cms.sigCert
        signatureCertificateChain := some cms.chain
        status := .SUCCESS
        cmsSignatureAlgo := some cms.encryptionAlgOID
        cmsDigestAlgo := some cms.digestAlgOID
        signatureAlgorithm := some uri
        etsiAdes := true
        claimedSigningTime := getClaimedSigningTime (env.getSignDate signature) attrs.signingTime
        timeValidationResults := some (addVerifiedTimes env (checkTimeStamps env v cms) docTs)
        certificateValidationResult := some path })
    (hpolicy : v.sigPolicyVerifier sigResult signatureContext = .ok verdict) :
    verifySignature env v signature doc docTs signatureContext =
      .ok (takePolicyResult verdict sigResult) := by
  have hsome :
      (attrs.signingCertificateV2.isNone && attrs.signingCertificateV1.isNone) = false := by
    rw [Option.isSome_iff_exists] at hreference
    obtain ⟨reference, hreference⟩ := hreference
    rw [hreference]
    rfl
  subst hresult
  unfold verifySignature checkAlgorithms checkConsistency collect
  simp only [bind, Except.bind, hcontents, hcovers, hcontent, hparse, hverify, hpk, huri, hattrs,
    deref, hunprotected, CMSVerifyUtils.getCMSAlgoritmProtectionData,
    CMSVerifyUtils.checkAlgoritmConsistency, hknown, Bool.not_false, if_true,
    ExtendedSigValResult.isSuccess, beq_self_eq_true, verifyPadesProperties, hsome, hnamed,
    Bool.false_eq_true, if_false, hpath, takePathOutcome, hpolicy]
  rfl
end PDFSingleSignatureValidator

end SigVal.Pdf
