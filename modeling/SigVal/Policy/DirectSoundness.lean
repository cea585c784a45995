import SigVal.Policy.DirectVerdict

/-!
# When a direct success keeps its promise

A success should mean that every certificate of the path is valid on the word of
a signed status, with one exception the policy makes on purpose: a revocation
after a trusted timestamp. The XML and JOSE validators leave a carried result to
the policy, and the policy neither looks at the signature of a status nor, when
revocation is to be enforced, at revoked statuses. The PDF validator records the
exception, which closes the second gap but not the first.
-/

namespace SigVal.Policy

open SigVal.Java SigVal.Dom SigVal.Cert SigVal.Commons
open SigVal.Xml (XmlEnv XMLSignatureElementValidator)
open SigVal.Jose (JoseEnv JOSESignatureDataValidator JOSESignatureData)
open SigVal.Pdf

variable {Cert : Type}

section Sound

variable (trustAnchors : List Cert) (policy : PkixPolicy) (now : Date)
  (validate : CertificateValidator Cert) (verifier : TimeStampPolicyVerifier Cert)

/-- An XML signature that verifies, of a signer who is no anchor, with a path
that gets through in spite of a bad status. -/
def XmlSlips (env : XmlEnv Cert) (signature : Node) (signatureData : Xml.SignatureData Cert) :
    Prop :=
  XmlVerified env signature signatureData ∧
    ¬ SignerTrusted trustAnchors signatureData.signerCertificate ∧ ∃ statuses,
      GetsThrough policy now
        (xmlTimes env (pkixXmlValidator policy now validate verifier) signature signatureData)
        none (validate signatureData.signerCertificate (some signatureData.signatureCertChain))
        statuses ∧
      HasBadStatus policy statuses

/-- The same for a JOSE signature. -/
def JoseSlips (env : JoseEnv Cert) (signatureData : JOSESignatureData Cert) : Prop :=
  JoseVerified env signatureData ∧
    ¬ SignerTrusted trustAnchors signatureData.signerCertificate ∧ ∃ statuses,
      GetsThrough policy now
        (joseTimes env (pkixJoseValidator policy now validate verifier) signatureData)
        none (validate signatureData.signerCertificate (some signatureData.signatureCertChain))
        statuses ∧
      HasBadStatus policy statuses

/-- The same for a PDF signature, where the path must also get through beside the
exception that was recorded for it. -/
def PdfSlips (env : PdfEnv Cert) (signature : PDSignature) (cms : CMSSignature Cert)
    (documentTimestamps : List (PDFDocTimeStamp Cert))
    (signatureContext : DefaultPDFSignatureContext) : Prop :=
  PdfVerified env signature signatureContext cms ∧
    ¬ SignerTrusted trustAnchors (some cms.sigCert) ∧ ∃ statuses,
      GetsThrough policy now
        (pdfTimes env (pkixPdfValidator policy now validate verifier) cms documentTimestamps)
        (recordedException (validate (some cms.sigCert) (some cms.chain)))
        (validate (some cms.sigCert) (some cms.chain)) statuses ∧
      HasBadStatus policy statuses

/-- Validation of the PDF signature returns a success. -/
def PdfSucceeds (env : PdfEnv Cert) (signature : PDSignature) (pdfDocument : Bytes)
    (documentTimestamps : List (PDFDocTimeStamp Cert))
    (signatureContext : DefaultPDFSignatureContext) : Prop :=
  ∃ result,
    PDFSingleSignatureValidator.verifySignature env (pkixPdfValidator policy now validate verifier)
      signature pdfDocument documentTimestamps signatureContext = .ok result ∧
    result.status = .SUCCESS

theorem cms_of_pdfSucceeds {env : PdfEnv Cert} {signature : PDSignature} {pdfDocument : Bytes}
    {documentTimestamps : List (PDFDocTimeStamp Cert)}
    {signatureContext : DefaultPDFSignatureContext}
    (h : PdfSucceeds policy now validate verifier env signature pdfDocument documentTimestamps
      signatureContext) :
    ∃ cms, PDFSingleSignatureValidator.signatureCMS env signature pdfDocument = .ok cms := by
  obtain ⟨result, hok, _⟩ := h
  obtain ⟨contents, hcontents, hok⟩ := bind_ok_iff.mp hok
  obtain ⟨covers, _, hok⟩ := bind_ok_iff.mp hok
  obtain ⟨signedContent, hsigned, hok⟩ := bind_ok_iff.mp hok
  obtain ⟨cms, hparse, _⟩ := bind_ok_iff.mp hok
  exact ⟨cms, bind_ok_iff.mpr ⟨contents, hcontents,
    bind_ok_iff.mpr ⟨signedContent, hsigned, hparse⟩⟩⟩

/-- **A direct success and the statuses of the path.** For every certificate
validator, signature, timestamps and policy setting, in each of the three
formats: a success comes with confirmed statuses, revocations tolerated only when
they are not enforced, exactly when the signature does not slip through. -/
theorem direct_success_sound_iff :
    (∀ (env : XmlEnv Cert) (signature : Node) (signatureData : Xml.SignatureData Cert),
      ((XMLSignatureElementValidator.validateSignature env
            (pkixXmlValidator policy now validate verifier) signature signatureData).status =
          .SUCCESS →
        SignerTrusted trustAnchors signatureData.signerCertificate ∨
          StatusesHold policy
            (validate signatureData.signerCertificate (some signatureData.signatureCertChain))) ↔
        ¬ XmlSlips trustAnchors policy now validate verifier env signature signatureData) ∧
    (∀ (env : JoseEnv Cert) (signatureData : JOSESignatureData Cert),
      ((JOSESignatureDataValidator.validateSignature env
            (pkixJoseValidator policy now validate verifier) signatureData).status = .SUCCESS →
        SignerTrusted trustAnchors signatureData.signerCertificate ∨
          StatusesHold policy
            (validate signatureData.signerCertificate (some signatureData.signatureCertChain))) ↔
        ¬ JoseSlips trustAnchors policy now validate verifier env signatureData) ∧
    (∀ (env : PdfEnv Cert) (signature : PDSignature) (pdfDocument : Bytes)
        (documentTimestamps : List (PDFDocTimeStamp Cert))
        (signatureContext : DefaultPDFSignatureContext),
      (PdfSucceeds policy now validate verifier env signature pdfDocument documentTimestamps
          signatureContext →
        ∃ cms, PDFSingleSignatureValidator.signatureCMS env signature pdfDocument = .ok cms ∧
          (SignerTrusted trustAnchors (some cms.sigCert) ∨
            StatusesHold policy (validate (some cms.sigCert) (some cms.chain)))) ↔
        ¬ ∃ cms, PDFSingleSignatureValidator.signatureCMS env signature pdfDocument = .ok cms ∧
          PdfSlips trustAnchors policy now validate verifier env signature cms documentTimestamps
            signatureContext) := by
  refine ⟨?_, ?_, ?_⟩
  · intro env signature signatureData
    exact success_sound_iff xml_success_iff
  · intro env signatureData
    exact success_sound_iff jose_success_iff
  · intro env signature pdfDocument documentTimestamps signatureContext
    have hsound : ∀ cms,
        PDFSingleSignatureValidator.signatureCMS env signature pdfDocument = .ok cms →
        ((PdfSucceeds policy now validate verifier env signature pdfDocument documentTimestamps
            signatureContext →
          SignerTrusted trustAnchors (some cms.sigCert) ∨
            StatusesHold policy (validate (some cms.sigCert) (some cms.chain))) ↔
          ¬ PdfSlips trustAnchors policy now validate verifier env signature cms
            documentTimestamps signatureContext) := by
      intro cms hcms
      exact success_sound_iff (pdf_success_iff hcms)
    constructor
    · rintro h ⟨cms, hcms, hslips⟩
      refine (hsound cms hcms).mp ?_ hslips
      intro hsuccess
      obtain ⟨cms', hcms', hgood⟩ := h hsuccess
      rw [hcms] at hcms'
      cases hcms'
      exact hgood
    · intro h hsuccess
      obtain ⟨cms, hcms⟩ := cms_of_pdfSucceeds policy now validate verifier hsuccess
      exact ⟨cms, hcms, (hsound cms hcms).mpr (fun hslips => h ⟨cms, hcms, hslips⟩) hsuccess⟩

end Sound

/-! ## With the path validator of the repository -/

section PathValidation

variable [DecidableEq Cert]

/-- The path validator as the certificate validator of a signature validator,
which calls it with the signer certificate. -/
def pathCertificateValidator (env : PathEnv Cert) : CertificateValidator Cert
  | some subjectCertificate, additionalCertificates =>
      CertificatePathValidator.validate env subjectCertificate (additionalCertificates.getD [])
  | none, _ => .error (.other Exn.nullPointer)

theorem validate_confirmed {pathEnv : PathEnv Cert} {target : Cert} {chain : List Cert}
    {c : CertificateValidationResult Cert}
    (habout : ∀ path l, CertificatePathValidator.collectStatuses pathEnv path = .ok l →
      CertificatePathValidator.AboutPath path l)
    (h : CertificatePathValidator.validate pathEnv target chain = .ok c) :
    CertificatePathValidator.isTrustAnchor target pathEnv.trustAnchors = .ok true ∨
      ∃ r l, c = .pathValidation r ∧ r.validationStatusList = some l ∧
        ∀ status ∈ l, status.Confirmed := by
  unfold CertificatePathValidator.validate CertificatePathValidator.validateCertificatePath at h
  split at h
  · rename_i hanchor
    exact .inl hanchor
  · split at h
    · cases h
    · rename_i path _
      cases hcheck : CertificatePathValidator.checkPath pathEnv path with
      | error f =>
          rw [hcheck] at h
          cases h
      | ok r =>
          rw [hcheck] at h
          cases h
          obtain ⟨l, hl, hconf⟩ :=
            CertificatePathValidator.checkPath_confirmed (habout path) hcheck
          exact .inr ⟨r, l, rfl, hl, hconf⟩

/-- **Enforced PDF validation.** With the path validator and a policy that
enforces current validity, a successful PDF signature has only confirmed
statuses, unless the signer is a trust anchor. -/
theorem pdf_enforced_confirmed {policy : PkixPolicy} {now : Date} {pathEnv : PathEnv Cert}
    {verifier : TimeStampPolicyVerifier Cert} {env : PdfEnv Cert} {signature : PDSignature}
    {pdfDocument : Bytes} {documentTimestamps : List (PDFDocTimeStamp Cert)}
    {signatureContext : DefaultPDFSignatureContext} {cms : CMSSignature Cert}
    (henforce : policy.enforceCurrentTimeValidation = true)
    (habout : ∀ path l, CertificatePathValidator.collectStatuses pathEnv path = .ok l →
      CertificatePathValidator.AboutPath path l)
    (hcms : PDFSingleSignatureValidator.signatureCMS env signature pdfDocument = .ok cms)
    (hsuccess : PdfSucceeds policy now (pathCertificateValidator pathEnv) verifier env signature
      pdfDocument documentTimestamps signatureContext) :
    CertificatePathValidator.isTrustAnchor cms.sigCert pathEnv.trustAnchors = .ok true ∨
      StatusesHold policy
        (pathCertificateValidator pathEnv (some cms.sigCert) (some cms.chain)) := by
  obtain ⟨_, statuses, _, hacc⟩ := (pdf_success_iff hcms).mp hsuccess
  -- revocations are not looked at, so no exception was recorded
  have hnone : recordedException
      (pathCertificateValidator pathEnv (some cms.sigCert) (some cms.chain)) = none := by
    rcases hacc.revocations with ⟨hfalse, _⟩ | ⟨_, hnone⟩
    · rw [henforce] at hfalse
      cases hfalse
    · exact hnone
  cases houtcome : pathCertificateValidator pathEnv (some cms.sigCert) (some cms.chain) with
  | error f =>
      rw [houtcome] at hnone
      cases hnone
  | ok c =>
      rcases validate_confirmed habout houtcome with hanchor | ⟨r, l, rfl, hl, hconf⟩
      · exact .inl hanchor
      · refine .inr ?_
        intro r' statuses' hr hlist status hmem
        cases hr
        rw [hl] at hlist
        cases hlist
        exact .inl (hconf status hmem)

end PathValidation

/-! ## Signatures that slip through

Certificate 1 of the signer was issued by anchor 2 and has been revoked on a
signed list; the JOSE validator enforces current validity. -/

def quietTsEnv : TsEnv Nat where
  extractCertificates := fun _ _ => .error ⟨.runtime, "no token"⟩
  getCmsSigTSTInfo := fun _ => .ok none
  verifyTsSignature := fun _ _ => .ok ()
  registry := DigestAlgorithmRegistry.initial
  digest := fun _ data => .ok data
  getSubject := fun _ => "CN=TSA"

def quietSvtEnv : SvtResultEnv Nat where
  getUri := fun alg => .ok alg
  getCertificate := fun _ => .ok 0
  getPkParams := fun _ => .ok ()
  getOrderedCertList := fun _ _ => []

def joseEnv : JoseEnv Nat where
  getPublicKey := fun _ => .rsa [1]
  getPkParams := fun _ => .ok ()
  parseDate := fun _ => none
  readJson := fun _ => .error ⟨.io, "not JSON"⟩
  readDecodedJson := fun _ => .error ⟨.io, "not JSON"⟩
  base64Decode := fun _ => .ok []
  base64URLEncode := fun _ => "c2ln"
  ts := quietTsEnv
  svt := quietSvtEnv

def verifiedJose : JOSESignatureData Nat where
  detached := false
  headerBase64URL := "e30"
  payloadBase64URL := "e30"
  payload := []
  unprotectedHeader := none
  signatureBytes := [3]
  signatureCertChain := [1]
  verified := true
  customParams := none
  signatureAlgorithm := some "http://www.w3.org/2001/04/xmldsig-more#rsa-sha256"
  signerCertificate := some 1

/-- Revoked on a list signed by the issuer. -/
def revokedStatus (certificate issuer : Nat) (revocationTime : Date) : ValidationStatus Nat where
  certificate := certificate
  issuer := some issuer
  validity := .REVOKED
  sourceType := some .CRL
  revocationTime := some revocationTime
  statusSignerCertificate := some issuer
  statusSignerCertificateChain := some [issuer]
  statusSignatureValid := true

def revokedPath : PathEnv Nat where
  now := 2000
  trustAnchors := [some 2]
  buildPath := fun target _ => .ok [target, 2]
  getSubject := fun _ => "CN=Signer"
  singleThreaded := true
  checkValidity := fun certificate issuer => .ok (revokedStatus certificate issuer 1000)
  delivered := fun _ => []

def noTimestamps : TimeStampPolicyVerifier Nat := fun _ _ _ _ =>
  .error ⟨.runtime, "no timestamp policy"⟩

def enforcing : PkixPolicy := { enforceCurrentTimeValidation := true }

/-! The same in a PDF signature, without enforcement and with a timestamp from
before the revocation, but under an intermediate certificate 3 whose status
nobody signed. -/

def plainCMS : CMSSignature Nat where
  sigCert := 1
  chain := [1]
  verify := .ok true
  encryptionAlgOID := "1.2.840.113549.1.1.11"
  digestAlgOID := DigestAlgorithm.oidSHA256
  signedAttributes := some ⟨none, none, none, none⟩
  timeStampTokens := .ok []
  signatureValue := [9]

def pdfEnv : PdfEnv Nat where
  getContents := fun _ _ => .ok [7]
  getSignedContent := fun _ _ => .ok [8]
  getSignDate := fun _ => none
  parseCMS := fun _ _ => .ok plainCMS
  getPkParams := fun _ => .ok ()
  getEncoded := fun _ => .ok [1]
  getAlgorithmURI := fun _ _ => .ok "http://www.w3.org/2001/04/xmldsig-more#rsa-sha256"
  getAlgorithmProperties := fun _ => .ok ()
  ts := quietTsEnv

def signedContext : DefaultPDFSignatureContext := ⟨[], [signedRevision]⟩

/-- The timestamp covers the signature, whose signed bytes end at 500. -/
def coveringTimestamp : PDFDocTimeStamp Nat where
  sigValid := true
  certList := some [5]
  sigCert := some 5
  tstInfo := some ⟨"2b", some 1000, DigestAlgorithm.oidSHA256, [], none⟩
  policyValidationClaimsList := [⟨sigValidationPolicyPkixValidation, .PASSED, none⟩]
  documentTimestampSig := ⟨[0, 600, 700, 50], none⟩

def unsignedPath : PathEnv Nat :=
  { revokedPath with
    now := 2000000000
    buildPath := fun target _ => .ok [target, 3, 2]
    checkValidity := fun certificate issuer =>
      if certificate = 3 then
        .ok
          { certificate := certificate
            issuer := some issuer
            validity := .VALID
            sourceType := some .OCSP }
      else .ok (revokedStatus certificate issuer 1000000000) }

/-- The revoked signer validates to a success under enforcement: path validation
throws, and the exception is not recorded. In PDF it is recorded, and yet the
unsigned status gets by when a revocation is tolerated. -/
theorem revoked_signer_accepted :
    (JOSESignatureDataValidator.validateSignature joseEnv
        (pkixJoseValidator enforcing 2000 (pathCertificateValidator revokedPath) noTimestamps)
        verifiedJose).status = .SUCCESS ∧
      ¬ SignerTrusted [2] verifiedJose.signerCertificate ∧
      ¬ StatusesHold enforcing
        (pathCertificateValidator revokedPath verifiedJose.signerCertificate
          (some verifiedJose.signatureCertChain)) ∧
      PdfSucceeds {} 2000000000 (pathCertificateValidator unsignedPath) noTimestamps pdfEnv
        signedRange [] [coveringTimestamp] signedContext ∧
      ¬ SignerTrusted [2] (some plainCMS.sigCert) ∧
      ¬ StatusesHold {}
        (pathCertificateValidator unsignedPath (some plainCMS.sigCert) (some plainCMS.chain)) := by
  have hanchor : ¬ SignerTrusted [2] (some 1) := by
    rintro ⟨cert, hmem, hsigner⟩
    cases hsigner
    exact absurd hmem (by decide)
  refine ⟨by decide, hanchor, ?_, ⟨_, rfl, rfl⟩, hanchor, ?_⟩
  · intro hhold
    rcases hhold _ _ rfl rfl _ List.mem_cons_self with ⟨hvalid, _⟩ | ⟨hfalse, _⟩
    · cases hvalid
    · cases hfalse
  · intro hhold
    rcases hhold _ _ rfl rfl _ (List.mem_cons_of_mem _ List.mem_cons_self) with
      ⟨_, hsigned⟩ | ⟨_, hrev⟩
    · cases hsigned
    · cases hrev

end SigVal.Policy
