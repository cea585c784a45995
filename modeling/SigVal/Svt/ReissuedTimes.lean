import SigVal.Pdf.SvtClaimsIssuer
import SigVal.Xml.SvtClaimsIssuer

/-!
# The hashes of re-issued time evidence

A token may be issued on the strength of an earlier one, under another hash algorithm. The
time results of a signature that was validated that way carry the claims of the earlier token
and no timestamp object, so `extractTimeValClaims` hands on the hash that it finds there. The
three issuers put the right hash into a token exactly where no hash is handed on that is not
already the digest under the algorithm of the new token.
-/

namespace SigVal.Svt

open SigVal.Java SigVal.Cert SigVal.Commons AbstractSVTSigValClaimsIssuer

variable {Cert TS : Type}

/-! ## What the hash should be -/

/-- Under the algorithm the timestamp has the hash. -/
def HashUnder (env : ClaimsIssuerEnv Cert TS) (hashAlgoUri : String) (stamp : Bytes)
    (hash : String) : Prop :=
  ∃ algorithm digest, DigestAlgorithmRegistry.get env.registry (some hashAlgoUri) = .ok algorithm ∧
    env.getInstance algorithm = .ok digest ∧ hash = env.encodeBase64String (digest stamp)

/-- The timestamp behind a time result: its own, or the one that the claims of an earlier
token are about. -/
def stampOf (env : ClaimsIssuerEnv Cert TS) (recorded : TimeValidationClaims → Option Bytes)
    (timeValidationResult : TimeValidationResult Cert TS) : Option Bytes :=
  match timeValidationResult.timeStamp with
  | some timeStamp => env.getTimeStampSigBytes timeStamp
  | none => timeValidationResult.timeValidationClaims.bind recorded

/-- Every hash that is issued is the digest of the timestamp of its time result. -/
def EntriesRenewed (env : ClaimsIssuerEnv Cert TS) (recorded : TimeValidationClaims → Option Bytes)
    (hashAlgoUri : String) (sigResult : ExtendedSigValResult Cert TS)
    (timeVal : List TimeValidationClaims) : Prop :=
  ∀ results, sigResult.timeValidationResults = some results →
    ∀ timeValidationResult ∈ results, ∀ claims ∈ timeVal,
      extractTimeValClaims env timeValidationResult hashAlgoUri = .ok (some claims) →
      ∀ hash, claims.hash = some hash →
        ∃ stamp, stampOf env recorded timeValidationResult = some stamp ∧
          HashUnder env hashAlgoUri stamp hash

/-- The algorithm is not registered, or has no implementation. -/
def Unsupported (env : ClaimsIssuerEnv Cert TS) (hashAlgoUri : String) : Prop :=
  ∃ ex, (do
    let algorithm ← DigestAlgorithmRegistry.get env.registry (some hashAlgoUri)
    env.getInstance algorithm) = .error ex ∧ ex.cls = .noSuchAlgorithm

/-- A hash that is handed on is the digest under the new algorithm already. -/
def CarriedRenewed (env : ClaimsIssuerEnv Cert TS) (recorded : TimeValidationClaims → Option Bytes)
    (hashAlgoUri : String) (sigResult : ExtendedSigValResult Cert TS) : Prop :=
  ∀ results, sigResult.timeValidationResults = some results →
    ∀ timeValidationResult ∈ results,
      timeValidationResult.timeStamp = none ∨ Unsupported env hashAlgoUri →
      ∀ claims hash, timeValidationResult.timeValidationClaims = some claims →
        isVerifiedTime (some claims) = true → claims.hash = some hash →
        ∃ stamp, stampOf env recorded timeValidationResult = some stamp ∧
          HashUnder env hashAlgoUri stamp hash

section Extraction

variable {env : ClaimsIssuerEnv Cert TS} {recorded : TimeValidationClaims → Option Bytes}
  {hashAlgoUri : String} {sigResult : ExtendedSigValResult Cert TS}

theorem timeStampHash_none_iff {timeStamp : TS} :
    timeStampHash env timeStamp hashAlgoUri = .ok none ↔ Unsupported env hashAlgoUri := by
  unfold timeStampHash Unsupported
  dsimp only
  cases (do
      let algorithm ← DigestAlgorithmRegistry.get env.registry (some hashAlgoUri)
      env.getInstance algorithm : Outcome (Bytes → Bytes)) with
  | ok digest =>
      simp only [reduceCtorEq, false_and, exists_false, iff_false]
      cases env.getTimeStampSigBytes timeStamp with
      | none => exact nofun
      | some bytes => exact nofun
  | error ex =>
      by_cases hcls : ex.cls = .noSuchAlgorithm
      · simp [hcls]
      · simp [hcls]

theorem timeStampHash_some {timeStamp : TS} {hash : String}
    (h : timeStampHash env timeStamp hashAlgoUri = .ok (some hash)) :
    ∃ stamp, env.getTimeStampSigBytes timeStamp = some stamp ∧
      HashUnder env hashAlgoUri stamp hash := by
  unfold timeStampHash at h
  dsimp only at h
  split at h
  · rename_i digest hinstance
    obtain ⟨stamp, hstamp, h⟩ := bind_ok_iff.mp h
    obtain ⟨algorithm, halgorithm, hdigest⟩ := bind_ok_iff.mp hinstance
    cases h
    exact ⟨stamp, deref_ok_iff.mp hstamp, algorithm, digest, halgorithm, hdigest, rfl⟩
  · split at h
    · cases h
    · cases h

/-- The claims are handed on as they are, or with the digest of the timestamp. -/
theorem extractTimeValClaims_cases {timeValidationResult : TimeValidationResult Cert TS}
    {claims : TimeValidationClaims}
    (h : extractTimeValClaims env timeValidationResult hashAlgoUri = .ok (some claims)) :
    (timeValidationResult.timeStamp = none ∨ Unsupported env hashAlgoUri) ∧
        timeValidationResult.timeValidationClaims = some claims ∨
      ∃ timeStamp hash old, timeValidationResult.timeStamp = some timeStamp ∧
        timeStampHash env timeStamp hashAlgoUri = .ok (some hash) ∧
        timeValidationResult.timeValidationClaims = some old ∧
        claims = { old with hash := some hash } := by
  unfold extractTimeValClaims at h
  cases hstamp : timeValidationResult.timeStamp with
  | none =>
      rw [hstamp] at h
      exact .inl ⟨.inl rfl, Except.ok.inj h⟩
  | some timeStamp =>
      simp only [hstamp] at h
      obtain ⟨hash, hhash, h⟩ := bind_ok_iff.mp h
      cases hash with
      | none => exact .inl ⟨.inr (timeStampHash_none_iff.mp hhash), Except.ok.inj h⟩
      | some hash =>
          obtain ⟨old, hold, h⟩ := bind_ok_iff.mp h
          exact .inr ⟨timeStamp, hash, old, rfl, hhash, deref_ok_iff.mp hold,
            (Option.some.inj (Except.ok.inj h)).symm⟩

/-- What is not replaced is extracted. -/
theorem extractTimeValClaims_of_carried {timeValidationResult : TimeValidationResult Cert TS}
    (h : timeValidationResult.timeStamp = none ∨ Unsupported env hashAlgoUri) :
    extractTimeValClaims env timeValidationResult hashAlgoUri =
      .ok timeValidationResult.timeValidationClaims := by
  unfold extractTimeValClaims
  cases hstamp : timeValidationResult.timeStamp with
  | none => rfl
  | some timeStamp =>
      rw [hstamp] at h
      rcases h with h | h
      · cases h
      · simp only [timeStampHash_none_iff.mpr h, bind, Except.bind]
        rfl

theorem mem_timeVal_iff {results : List (TimeValidationResult Cert TS)}
    {entries : List TimeValidationClaims}
    (hresults : sigResult.timeValidationResults = some results)
    (h : timeVal env sigResult hashAlgoUri = .ok entries) {claims : TimeValidationClaims} :
    claims ∈ entries ↔ isVerifiedTime (some claims) = true ∧ ∃ timeValidationResult ∈ results,
      extractTimeValClaims env timeValidationResult hashAlgoUri = .ok (some claims) := by
  unfold timeVal at h
  rw [hresults] at h
  obtain ⟨_, hderef, h⟩ := bind_ok_iff.mp h
  cases hderef
  obtain ⟨extracted, hextracted, h⟩ := bind_ok_iff.mp h
  cases h
  have hpairs := forall₂_of_mapM_ok hextracted
  simp only [List.mem_filterMap, List.mem_filter, id_eq]
  constructor
  · rintro ⟨_, ⟨hmem, hverified⟩, rfl⟩
    obtain ⟨t, ht, hextract⟩ := forall₂_left hpairs.flip _ hmem
    exact ⟨hverified, t, ht, hextract⟩
  · rintro ⟨hverified, t, ht, hextract⟩
    obtain ⟨c, hc, hextract'⟩ := forall₂_left hpairs t ht
    rw [hextract] at hextract'
    cases hextract'
    exact ⟨some claims, ⟨hc, hverified⟩, rfl⟩

theorem entriesRenewed_iff {entries : List TimeValidationClaims}
    (h : timeVal env sigResult hashAlgoUri = .ok entries) :
    EntriesRenewed env recorded hashAlgoUri sigResult entries ↔
      CarriedRenewed env recorded hashAlgoUri sigResult := by
  constructor
  · intro hrenewed results hresults t ht hcarried claims hash hclaims hverified hhash
    have hextract := extractTimeValClaims_of_carried hcarried
    rw [hclaims] at hextract
    exact hrenewed results hresults t ht claims
      ((mem_timeVal_iff hresults h).mpr ⟨hverified, t, ht, hextract⟩) hextract hash hhash
  · intro hcarried results hresults t ht claims hmem hextract hash hhash
    rcases extractTimeValClaims_cases hextract with
      ⟨hkept, hclaims⟩ | ⟨timeStamp, new, old, hstamp, hnew, -, rfl⟩
    · exact hcarried results hresults t ht hkept claims hash hclaims
        ((mem_timeVal_iff hresults h).mp hmem).1 hhash
    · cases hhash
      obtain ⟨stamp, hbytes, hunder⟩ := timeStampHash_some hnew
      refine ⟨stamp, ?_, hunder⟩
      unfold stampOf
      rw [hstamp]
      exact hbytes

/-- After an earlier token whose hashes are right: the two algorithms agree on its
timestamps. -/
theorem carriedRenewed_of_svt_iff {timeVal : List TimeValidationClaims} {oldDigest : Bytes → Bytes}
    (hresults : sigResult.timeValidationResults =
      some (timeVal.map fun claims => ⟨some claims, none, none⟩))
    (hold : ∀ claims ∈ timeVal, ∀ hash, claims.hash = some hash →
      ∃ stamp, recorded claims = some stamp ∧ hash = env.encodeBase64String (oldDigest stamp)) :
    CarriedRenewed env recorded hashAlgoUri sigResult ↔
      ∀ claims ∈ timeVal, isVerifiedTime (some claims) = true → ∀ hash stamp,
        claims.hash = some hash → recorded claims = some stamp →
        HashUnder env hashAlgoUri stamp (env.encodeBase64String (oldDigest stamp)) := by
  constructor
  · intro hcarried claims hmem hverified hash stamp hhash hrecorded
    obtain ⟨stamp', hstamp, hunder⟩ := hcarried _ hresults _
      (List.mem_map_of_mem hmem) (.inl rfl) claims hash rfl hverified hhash
    obtain ⟨stamp'', hrecorded', rfl⟩ := hold claims hmem hash hhash
    rw [hrecorded] at hrecorded'
    cases hrecorded'
    have hsame : some stamp = some stamp' := hrecorded.symm.trans hstamp
    cases hsame
    exact hunder
  · intro hagree results hresults' t ht _ claims hash hclaims hverified hhash
    rw [hresults] at hresults'
    cases hresults'
    obtain ⟨claims', hmem, rfl⟩ := List.mem_map.mp ht
    cases hclaims
    obtain ⟨stamp, hrecorded, rfl⟩ := hold claims hmem hash hhash
    exact ⟨stamp, hrecorded, hagree claims hmem hverified _ stamp hhash hrecorded⟩

end Extraction

/-! ## The three issuers -/

variable [DecidableEq Cert]

/-- The PDF issuer has made the claims from the validation result of a signature. -/
def PdfIssued (env : Pdf.PdfIssuerEnv Cert) (now : Date)
    (issuer : Pdf.PDFSVTSigValClaimsIssuer Cert) (signedDocument : Bytes) (hashAlgoUri : String)
    (sigResult : Pdf.ExtendedPdfSigValResult Cert) (claims : IssuedSignatureClaims) : Prop :=
  ∃ claimsList results,
    Pdf.PDFSVTSigValClaimsIssuer.verify env now issuer signedDocument hashAlgoUri =
      .ok claimsList ∧
    Pdf.SVTenabledPDFDocumentSigVerifier.validate env.validation now issuer.signatureVerifier
      signedDocument = .ok results ∧
    sigResult ∈ results ∧ claims ∈ claimsList ∧
    Pdf.PDFSVTSigValClaimsIssuer.claimsData env issuer signedDocument hashAlgoUri sigResult =
      .ok claims

/-- The XML issuer has. -/
def XmlIssued (env : Xml.XmlIssuerEnv Cert) (issuer : Xml.XMLSVTSigValClaimsIssuer Cert)
    (document : LinkedDom.Heap) (sigValInput : Xml.XMLSigValInput Cert) (hashAlgoUri : String)
    (sigResult : Xml.XmlResult Cert) (claims : IssuedSignatureClaims) : Prop :=
  issuer.signatureVerifier document sigValInput.signatureElement sigValInput.signatureData =
      .ok sigResult ∧
    ∃ claimsList,
      Xml.XMLSVTSigValClaimsIssuer.verify env issuer document sigValInput hashAlgoUri =
        .ok (some claimsList) ∧ claims ∈ claimsList

/-- The JOSE issuer has. -/
def JoseIssued {S : Type} (env : Jose.JoseIssuerEnv Cert S)
    (issuer : Jose.JOSESVTSigValClaimsIssuer Cert S) (sigValInput : Jose.JOSESVTValInput Cert S)
    (hashAlgoUri : String) (sigResult : Jose.JoseResult Cert) (claims : IssuedSignatureClaims) :
    Prop :=
  issuer.signatureVerifier sigValInput.signatureData = .ok sigResult ∧
    ∃ claimsList,
      Jose.JOSESVTSigValClaimsIssuer.verify env issuer sigValInput hashAlgoUri =
        .ok (some claimsList) ∧ claims ∈ claimsList

theorem PdfIssued.timeVal_ok {env : Pdf.PdfIssuerEnv Cert} {now : Date}
    {issuer : Pdf.PDFSVTSigValClaimsIssuer Cert} {signedDocument : Bytes} {hashAlgoUri : String}
    {sigResult : Pdf.ExtendedPdfSigValResult Cert} {claims : IssuedSignatureClaims}
    (h : PdfIssued env now issuer signedDocument hashAlgoUri sigResult claims) :
    timeVal env.claims sigResult.toExtendedSigValResult hashAlgoUri = .ok claims.timeVal := by
  obtain ⟨_, _, -, -, -, -, h⟩ := h
  obtain ⟨-, -, -, htimes⟩ := Pdf.PDFSVTSigValClaimsIssuer.claimsData_ok h
  exact htimes

theorem XmlIssued.timeVal_ok {env : Xml.XmlIssuerEnv Cert}
    {issuer : Xml.XMLSVTSigValClaimsIssuer Cert} {document : LinkedDom.Heap}
    {sigValInput : Xml.XMLSigValInput Cert} {hashAlgoUri : String} {sigResult : Xml.XmlResult Cert}
    {claims : IssuedSignatureClaims}
    (h : XmlIssued env issuer document sigValInput hashAlgoUri sigResult claims) :
    timeVal env.claims sigResult hashAlgoUri = .ok claims.timeVal := by
  obtain ⟨hresult, claimsList, hverify, hmem⟩ := h
  obtain ⟨_, sigResult', rfl, hresult', -, -, -, -, htimes⟩ :=
    Xml.XMLSVTSigValClaimsIssuer.verify_some hverify
  rw [hresult] at hresult'
  cases hresult'
  rw [List.mem_singleton.mp hmem]
  exact htimes

theorem JoseIssued.timeVal_ok {S : Type} {env : Jose.JoseIssuerEnv Cert S}
    {issuer : Jose.JOSESVTSigValClaimsIssuer Cert S} {sigValInput : Jose.JOSESVTValInput Cert S}
    {hashAlgoUri : String} {sigResult : Jose.JoseResult Cert} {claims : IssuedSignatureClaims}
    (h : JoseIssued env issuer sigValInput hashAlgoUri sigResult claims) :
    timeVal env.claims sigResult hashAlgoUri = .ok claims.timeVal := by
  obtain ⟨hresult, claimsList, hverify, hmem⟩ := h
  obtain ⟨_, sigResult', rfl, hresult', -, -, -, -, htimes⟩ :=
    Jose.JOSESVTSigValClaimsIssuer.verify_some hverify
  rw [hresult] at hresult'
  cases hresult'
  rw [List.mem_singleton.mp hmem]
  exact htimes

/-- **The hashes of re-issued time evidence.** For each issuer the hashes are the digests
under the new algorithm exactly where the hashes handed on are. -/
theorem time_hashes_renewed_iff {S : Type} (recorded : TimeValidationClaims → Option Bytes)
    (hashAlgoUri : String) :
    (∀ (env : Pdf.PdfIssuerEnv Cert) now issuer signedDocument sigResult claims,
      PdfIssued env now issuer signedDocument hashAlgoUri sigResult claims →
      (EntriesRenewed env.claims recorded hashAlgoUri sigResult.toExtendedSigValResult
          claims.timeVal ↔
        CarriedRenewed env.claims recorded hashAlgoUri sigResult.toExtendedSigValResult)) ∧
    (∀ (env : Xml.XmlIssuerEnv Cert) issuer document sigValInput sigResult claims,
      XmlIssued env issuer document sigValInput hashAlgoUri sigResult claims →
      (EntriesRenewed env.claims recorded hashAlgoUri sigResult claims.timeVal ↔
        CarriedRenewed env.claims recorded hashAlgoUri sigResult)) ∧
    (∀ (env : Jose.JoseIssuerEnv Cert S) issuer sigValInput sigResult claims,
      JoseIssued env issuer sigValInput hashAlgoUri sigResult claims →
      (EntriesRenewed env.claims recorded hashAlgoUri sigResult claims.timeVal ↔
        CarriedRenewed env.claims recorded hashAlgoUri sigResult)) := by
  refine ⟨?_, ?_, ?_⟩
  · intro env now issuer signedDocument sigResult claims h
    exact entriesRenewed_iff h.timeVal_ok
  · intro env issuer document sigValInput sigResult claims h
    exact entriesRenewed_iff h.timeVal_ok
  · intro env issuer sigValInput sigResult claims h
    exact entriesRenewed_iff h.timeVal_ok

/-! ## Two tokens with two algorithms

A signature has a token under SHA-256 that names the hash of its timestamp `[1, 2]`. The
stand-in for SHA-256 leaves the data as it is, the one for SHA-512 turns it around. -/

def twoAlgorithms : ClaimsIssuerEnv Unit (TimeStamp Unit) where
  getMessageDigestInstance := fun _ => .ok id
  encodeBase64String := fun bytes => toString (bytes.map UInt8.toNat)
  getEncoded := fun _ => .ok [1]
  registry := DigestAlgorithmRegistry.initial
  getInstance := fun algorithm =>
    .ok (if algorithm.uri = DigestAlgorithm.idSHA512 then List.reverse else id)
  getTimeStampSigBytes := fun _ => none

def stampClaims : TimeValidationClaims where
  id := some "1a"
  iss := some "CN=TSA"
  time := 5
  type := timeVerificationTypeSigTimestamp
  val := [⟨sigValidationPolicyPkixValidation, .PASSED, none⟩]
  hash := some "[1, 2]"

/-- The validation of the signature by its token. -/
def earlierValidation : SignatureSVTValidationResult where
  signedJWT :=
    { header := ⟨"RS256", none, some [[1]]⟩
      claimsSet := some
        { issuer := some "issuer"
          jwtID := some "jti"
          issueTime := some 7000
          expirationTime := none
          sigValClaims := none }
      signingInput := []
      signature := [] }
  signatureClaims :=
    { sigRef := ⟨none, "s", "b"⟩
      sigDataRef := []
      sigVal := some [⟨sigValidationPolicyPkixValidation, .PASSED, none⟩]
      timeVal := some [stampClaims] }
  signerCertificate := [1]
  certificateChain := [[1]]
  svtValidationSuccess := true

/-- What the validator makes of it. -/
def resultFromToken : Xml.XmlResult Unit :=
  Mutating.tryCatch
    (takeSvtValidation
      { getUri := fun _ => .ok "rsa-sha256"
        getCertificate := fun _ => .ok ()
        getPkParams := fun _ => .ok ()
        getOrderedCertList := fun _ _ => [()] }
      earlierValidation (.ok (some (), [()])))
    svtProcessingFailed {}

def reissueEnv : Xml.XmlIssuerEnv Unit where
  jvm := plainJvm
  lib := Xml.XMLSVTSigValClaimsIssuer.twoReferencesEnv.lib
  claims := twoAlgorithms

def reissuer : Xml.XMLSVTSigValClaimsIssuer Unit where
  svtIssuer := ⟨DigestAlgorithm.idSHA512, fun _ => .ok none⟩
  signatureVerifier := fun _ _ _ => .ok resultFromToken

def reissueInput : Xml.XMLSigValInput Unit where
  signatureElement := 2
  signatureData :=
    { signature :=
        { signedInfo := 3
          getId := fun _ => none
          getReferencedContentAfterTransformsItem := fun _ _ => .ok []
          getSignatureValue := fun _ => .ok [9]
          getCanonicalizedOctetStream := fun _ => .ok [8]
          getKeyInfo := fun _ => .ok none }
      refDataMap := [("", some [3])]
      coversWholeDoc := true
      signedDocument := none
      signatureBytes := some [9]
      signedInfoBytes := some [8]
      signerCertificate := some ()
      signatureCertChain := some [()] }
  svtMethod := .REPLACE

/-- The hash in the earlier token is that of the timestamp `[1, 2]`. -/
def recordedStamp (claims : TimeValidationClaims) : Option Bytes :=
  if claims.hash = some "[1, 2]" then some [1, 2] else none

theorem resultFromToken_results : resultFromToken.timeValidationResults =
    some [⟨some stampClaims, none, none⟩,
      ⟨some ⟨some "jti", some "issuer", 7, timeVerificationTypeSvt,
        [⟨sigValidationPolicyPkixValidation, .PASSED, none⟩], none⟩, none, none⟩] := rfl

theorem stampClaims_hash : HashUnder twoAlgorithms DigestAlgorithm.idSHA256 [1, 2] "[1, 2]" :=
  ⟨⟨DigestAlgorithm.idSHA256, DigestAlgorithm.oidSHA256⟩, _, rfl, rfl, by decide⟩

/-- Issued again under the same algorithm the hash is right. -/
theorem time_hashes_renewed_same_algorithm :
    ∃ claims, XmlIssued reissueEnv reissuer (Xml.XMLSVTSigValClaimsIssuer.twoReferences "")
        reissueInput DigestAlgorithm.idSHA256 resultFromToken claims ∧
      EntriesRenewed reissueEnv.claims recordedStamp DigestAlgorithm.idSHA256 resultFromToken
        claims.timeVal := by
  have hissued : ∃ claims, XmlIssued reissueEnv reissuer
      (Xml.XMLSVTSigValClaimsIssuer.twoReferences "") reissueInput DigestAlgorithm.idSHA256
      resultFromToken claims := ⟨_, rfl, _, rfl, List.mem_cons_self⟩
  obtain ⟨claims, hclaims⟩ := hissued
  refine ⟨claims, hclaims,
    ((@time_hashes_renewed_iff Unit _ Unit recordedStamp DigestAlgorithm.idSHA256).2.1
      reissueEnv reissuer _ reissueInput resultFromToken claims hclaims).mpr ?_⟩
  intro results hresults t ht _ claims' hash hclaims' _ hhash
  rw [resultFromToken_results] at hresults
  cases hresults
  rcases List.mem_pair.mp ht with rfl | rfl
  · cases hclaims'
    cases hhash
    exact ⟨[1, 2], rfl, stampClaims_hash⟩
  · cases hclaims'
    cases hhash

/-- Issued again under the other algorithm, the token has the old hash. -/
theorem reissued_hash_is_old :
    ∃ claims, XmlIssued reissueEnv reissuer (Xml.XMLSVTSigValClaimsIssuer.twoReferences "")
        reissueInput DigestAlgorithm.idSHA512 resultFromToken claims ∧
      HashUnder twoAlgorithms DigestAlgorithm.idSHA256 [1, 2] "[1, 2]" ∧
      ¬ EntriesRenewed reissueEnv.claims recordedStamp DigestAlgorithm.idSHA512 resultFromToken
        claims.timeVal := by
  refine ⟨_, ⟨rfl, _, rfl, List.mem_cons_self⟩, stampClaims_hash, ?_⟩
  intro hrenewed
  obtain ⟨stamp, hstamp, algorithm, digest, halgorithm, hdigest, hhash⟩ :=
    hrenewed _ resultFromToken_results _ List.mem_cons_self stampClaims List.mem_cons_self rfl
      "[1, 2]" rfl
  cases hstamp
  cases halgorithm
  cases hdigest
  exact absurd hhash (by decide)

end SigVal.Svt
