import SigVal.Pdf.SvtSeal
import SigVal.Pdf.IncrementalUpdates
import SigVal.Pdf.RevisionEnds
import SigVal.Svt.Generations

/-!
# The verdict on a sealed document

A document is sealed by a token for each of its signatures, and sealed again before the token
expires. Each issuer goes by what the tokens before say, because by then there is nothing else
left to go by. So the policy results of the first validation and its verdict have to come
through every seal, for each signature of the document and for the document as a whole.
-/

namespace SigVal.Pdf

open SigVal.Java SigVal.Cert SigVal.Commons SigVal.Svt SigVal.Runs PDFSVAUtils PDFSVTValidator
open SVTenabledPDFDocumentSigVerifier PDFSVTSigValClaimsIssuer AbstractSVTSigValClaimsIssuer
open PDFSVTDocTimeStamp DefaultPDFSignatureContext
open Jose (SVTIssuer CarriesClaims)

variable {Cert D : Type}

/-! ## The signatures of a document -/

/-- Every dictionary of the document ends within it and has a type. -/
structure Sound (env : PdfSvtEnv Cert) (doc : Bytes) (allSignatureList : List PDSignature) :
    Prop where
  listed : env.getSignatureDictionaries doc = .ok allSignatureList
  within : ∀ signature ∈ allSignatureList,
    RangeEnds signature doc.length ∧ LastEnd signature doc.length
  typed : ∀ signature ∈ allSignatureList, ∃ type, typeOf env doc signature = .ok type

theorem toInt_le {x : Int} (h : 0 ≤ x) : toInt x ≤ x := by
  unfold toInt
  rw [Int.bmod_def]
  have hmod : x % ((2 ^ 32 : Nat) : Int) ≤ x := by omega
  split
  · exact hmod
  · omega

section Documents

variable {env : PdfSvtEnv Cert} {doc output : Bytes} {allSignatureList : List PDSignature}
  {signature dictionary : PDSignature} {subFilter : String} {sign : Bytes → Outcome Bytes}

/-- An update leaves what is read of a signature. -/
theorem Sound.reads (hreads : ReadsByByteRange env) (h : Sound env doc allSignatureList)
    (hmem : signature ∈ allSignatureList) (update : Bytes) :
    env.pdf.getContents signature (doc ++ update) = env.pdf.getContents signature doc ∧
      env.pdf.getSignedContent signature (doc ++ update) =
        env.pdf.getSignedContent signature doc := by
  obtain ⟨hends, hlast⟩ := h.within signature hmem
  exact hreads.appended signature doc update hends hlast

theorem Sound.typeOf_append (hreads : ReadsByByteRange env) (h : Sound env doc allSignatureList)
    (hmem : signature ∈ allSignatureList) (update : Bytes) :
    typeOf env (doc ++ update) signature = typeOf env doc signature := by
  unfold typeOf
  rw [(h.reads hreads hmem update).1]

theorem Sound.getSignatureValueBytes_append (hreads : ReadsByByteRange env)
    (h : Sound env doc allSignatureList) (hmem : signature ∈ allSignatureList) (update : Bytes) :
    getSignatureValueBytes env signature (doc ++ update) =
      getSignatureValueBytes env signature doc := by
  unfold getSignatureValueBytes
  rw [(h.reads hreads hmem update).1]

/-- The document is sound with the new dictionary too. -/
theorem Sound.extended (hreads : ReadsByByteRange env) (h : Sound env doc allSignatureList)
    (hextended : Extended env doc subFilter sign output dictionary) {type : SignatureType}
    (htype : typeOf env output dictionary = .ok type) :
    Sound env output (allSignatureList ++ [dictionary]) := by
  obtain ⟨update, rfl⟩ := hextended.appended
  obtain ⟨gap, second, len, hrange, hbehind, hgap, hlen, hend⟩ := hextended.byteRange
  have hlonger : (doc.length : Int) ≤ (doc ++ update).length := by
    rw [List.length_append]
    omega
  refine ⟨hextended.listed _ h.listed, ?_, ?_⟩
  · intro signature hmem
    rcases List.mem_append.mp hmem with hold | hnew
    · obtain ⟨⟨hfirst, hgap, hsecond⟩, hlast⟩ := h.within signature hold
      refine ⟨⟨?_, ?_, ?_⟩, ?_⟩
      · exact fun b hb => (hfirst b hb).trans hlonger
      · exact fun b c hb hc => (hgap b c hb hc).trans hlonger
      · exact fun b hb => (hsecond b hb).trans hlonger
      · exact fun e he => (hlast e he).trans hlonger
    · cases List.mem_singleton.mp hnew
      refine ⟨⟨?_, ?_, ?_⟩, ?_⟩
      · rw [hrange]
        rintro b hb
        cases hb
        omega
      · rw [hrange]
        rintro b c hb hc
        cases hb
        cases hc
        have hle : toInt (0 + gap) ≤ 0 + gap := toInt_le (by omega)
        omega
      · rw [hrange]
        rintro b hb
        cases hb
        omega
      · intro e he
        unfold signedLength at he
        rw [hrange] at he
        cases he
        have hle : toInt (second + len) ≤ second + len := toInt_le (by omega)
        omega
  · intro signature hmem
    rcases List.mem_append.mp hmem with hold | hnew
    · rw [h.typeOf_append hreads hold]
      exact h.typed signature hold
    · cases List.mem_singleton.mp hnew
      exact ⟨type, htype⟩

/-- The dictionaries with their types. -/
def withTypes (env : PdfSvtEnv Cert) (doc : Bytes) (allSignatureList : List PDSignature) :
    List (PDSignature × SignatureType) :=
  allSignatureList.map fun signature => (signature, typeOrIllegal env doc signature)

theorem typeOrIllegal_ok {type : SignatureType} (h : typeOf env doc signature = .ok type) :
    typeOrIllegal env doc signature = type := by
  unfold typeOrIllegal
  rw [h]

theorem Sound.typedSignatures (h : Sound env doc allSignatureList) :
    typedSignatures env doc = .ok (withTypes env doc allSignatureList) := by
  refine bind_ok_iff.mpr ⟨_, h.listed, ?_⟩
  have htyped := h.typed
  generalize allSignatureList = l at htyped
  induction l with
  | nil => rfl
  | cons signature rest ih =>
      obtain ⟨type, htype⟩ := htyped signature List.mem_cons_self
      rw [List.mapM_cons]
      refine bind_ok_iff.mpr ⟨(signature, type), bind_ok_iff.mpr ⟨type, htype, rfl⟩, ?_⟩
      refine bind_ok_iff.mpr ⟨_, ih fun s hs => htyped s (List.mem_cons_of_mem _ hs), ?_⟩
      unfold withTypes
      rw [List.map_cons, typeOrIllegal_ok htype]
      rfl

theorem mem_ofType_withTypes {type : SignatureType} :
    signature ∈ ofType type (withTypes env doc allSignatureList) ↔
      signature ∈ allSignatureList ∧ typeOrIllegal env doc signature = type := by
  unfold ofType withTypes
  simp only [List.mem_map, List.mem_filter, decide_eq_true_eq]
  constructor
  · rintro ⟨_, ⟨⟨s, hs, rfl⟩, htype⟩, rfl⟩
    exact ⟨hs, htype⟩
  · rintro ⟨hmem, htype⟩
    exact ⟨_, ⟨⟨signature, hmem, rfl⟩, htype⟩, rfl⟩

/-- The dictionaries that are reported on are those of signatures. -/
theorem Sound.mem_signatureList_iff (h : Sound env doc allSignatureList) :
    signature ∈ signatureList env doc allSignatureList ↔
      signature ∈ allSignatureList ∧ typeOrIllegal env doc signature = .SIGNATURE_TYPE := by
  unfold signatureList
  rw [List.mem_filter, decide_eq_true_eq]
  refine and_congr_right fun hmem => ?_
  obtain ⟨type, htype⟩ := h.typed signature hmem
  rw [typeOrIllegal_ok htype, or_iff_left_iff_imp]
  rintro rfl
  -- no dictionary that can be read is illegal
  obtain ⟨contents, -, htype⟩ := typeOf_ok_iff.mp htype
  obtain ⟨subFilter, -, htype⟩ := bind_ok_iff.mp htype
  dsimp only at htype
  split at htype
  · cases htype
  · split at htype
    · split at htype
      · cases htype
      · cases htype
    · cases htype

/-- A document timestamp is not reported on. -/
theorem Sound.signatureList_extended (hreads : ReadsByByteRange env)
    (h : Sound env doc allSignatureList)
    (hextended : Extended env doc subFilter sign output dictionary)
    (htype : typeOf env output dictionary = .ok .SVT_TYPE) :
    signatureList env output (allSignatureList ++ [dictionary]) =
      signatureList env doc allSignatureList := by
  obtain ⟨update, rfl⟩ := hextended.appended
  unfold signatureList
  rw [List.filter_append, List.filter_cons_of_neg (by rw [typeOrIllegal_ok htype]; decide),
    List.filter_nil, List.append_nil]
  refine List.filter_congr fun signature hmem => ?_
  unfold typeOrIllegal
  rw [h.typeOf_append hreads hmem]

end Documents

/-! ## A seal -/

/-- The libraries of the validator, of the issuer and of the one that seals. -/
structure SealEnv (Cert D : Type) extends PdfIssuerEnv Cert where
  pdfBox : PDFBox D
  /-- `SignedJWT.serialize`. -/
  serialize : SignedJWT → String

/-- What is relied on of them. -/
structure SealEnv.Lawful (env : SealEnv Cert D) : Prop where
  reads : ReadsByByteRange env.validation
  context : ContextOfBytes env.validation
  certificates : ListsCertificates env.validation
  digests : SameDigests env.toPdfIssuerEnv
  references : ComparesReferences env.validation.validateSvtData
  saves : env.pdfBox.Lawful env.validation
  locale : env.validation.toLowerCase subfilterEtsiRfc3161 = timestampSubfilterLc

/-- Who seals a document, and who validates it afterwards. -/
structure Seal (Cert : Type) where
  svtIssuer : SVTIssuer
  lawful : svtIssuer.Lawful
  claimsIssuer : PDFSVTSigValClaimsIssuer Cert
  issued : Date
  signer : DefaultPDFDocTimestampSignatureInterface Cert
  validator : SVTenabledPDFDocumentSigVerifier Cert
  validated : Date

/-- A document with what one validation found. -/
structure Version (Cert : Type) where
  document : Bytes
  results : List (ExtendedPdfSigValResult Cert)

/-- Two signatures of the document with the same hash of the signature value are one. -/
def DistinctValues (env : PdfIssuerEnv Cert) (doc : Bytes) (hashAlgoUri : String) : Prop :=
  ∀ allSignatureList md,
    env.validation.getSignatureDictionaries doc = .ok allSignatureList →
    env.claims.getMessageDigestInstance hashAlgoUri = .ok md →
    ∀ signature ∈ signatureList env.validation doc allSignatureList,
    ∀ other ∈ signatureList env.validation doc allSignatureList, ∀ value otherValue,
      getSignatureValueBytes env.validation signature doc = .ok value →
      getSignatureValueBytes env.validation other doc = .ok otherValue →
      env.claims.encodeBase64String (md value) = env.claims.encodeBase64String (md otherValue) →
      signature = other

/-- The timestamp of the dictionary is signed, and later than the signed ones of the others. -/
def Newest (env : PdfSvtEnv Cert) (v : PDFSVTValidator Cert) (doc : Bytes)
    (others : List PDSignature) (dictionary : PDSignature) : Prop :=
  ∃ svaTs date, signedSvaTs env.pdf env.svt v doc dictionary = some svaTs ∧
    genTime svaTs = some date ∧
    ∀ other ∈ others, ∀ older, signedSvaTs env.pdf env.svt v doc other = some older →
      ∃ date', genTime older = some date' ∧ date' < date

section Seals

variable [DecidableEq Cert]

/-- `getSignedSvtJWT`, of the library around `verify`. -/
def Seal.getSignedSvtJWT (env : PdfIssuerEnv Cert) (s : Seal Cert) (signedDocument : Bytes) :
    Outcome (Option SignedJWT) :=
  s.svtIssuer.getSignedSvtJWT fun hashAlgoUri => do
    let claims ← verify env s.issued s.claimsIssuer signedDocument hashAlgoUri
    pure (some claims)

/-- The document is validated for the token, sealed with it and validated again. -/
structure Seal.Applied (env : SealEnv Cert D) (s : Seal Cert) (before : Version Cert)
    (jwt : SignedJWT) (after : Version Cert) : Prop where
  before_ok : validate env.validation s.issued s.claimsIssuer.signatureVerifier before.document =
    .ok before.results
  jwt_ok : s.getSignedSvtJWT env.toPdfIssuerEnv before.document = .ok (some jwt)
  document_ok : ∃ result, PDFDocTimstampProcessor.createSVTSealedPDF env.pdfBox
    env.claims.getEncoded before.document (some (env.serialize jwt)) s.signer = .ok result ∧
    result.document = after.document
  after_ok : validate env.validation s.validated s.validator after.document = .ok after.results

/-- The token has an entry for every signature and no two of them alike, its digest is one that
the validator knows, and it has a time. -/
structure Seal.Covers (env : SealEnv Cert D) (s : Seal Cert) (before : Version Cert)
    (jwt : SignedJWT) : Prop where
  entries : ∀ sigResult ∈ before.results,
    Buildable env.toPdfIssuerEnv before.document s.svtIssuer.hashAlgoUri sigResult
  distinct : DistinctValues env.toPdfIssuerEnv before.document s.svtIssuer.hashAlgoUri
  registered : ∃ digestAlgorithm, DigestAlgorithmRegistry.get env.validation.svt.registry
    (some s.svtIssuer.hashAlgoUri) = .ok digestAlgorithm
  digest : ∀ md, env.claims.getMessageDigestInstance s.svtIssuer.hashAlgoUri = .ok md →
    ∀ bytes, env.validation.messageDigest jwt.header.algorithm bytes =
      .ok (env.claims.encodeBase64String (md bytes))
  stamped : ∃ stamp, tokenTime jwt = some stamp

/-- The validator reads the token, and goes by its timestamp. -/
structure Seal.Taken (env : SealEnv Cert D) (s : Seal Cert) (jwt : SignedJWT)
    (after : Version Cert) : Prop where
  carried : s.signer.Lawful env.validation
  parsed : env.validation.svt.parse (env.serialize jwt) = .ok jwt
  newest : ∃ pdfsvtValidator, s.validator.pdfsvtValidator = some pdfsvtValidator ∧
    ∀ others dictionary,
      env.validation.getSignatureDictionaries after.document = .ok (others ++ [dictionary]) →
      Newest env.validation pdfsvtValidator after.document others dictionary

/-- One version of a document is sealed, and becomes the next. -/
def Sealed (env : SealEnv Cert D) (before : Version Cert) (jwt : SignedJWT)
    (after : Version Cert) : Prop :=
  ∃ s : Seal Cert, s.Applied env before jwt after ∧ s.Covers env before jwt ∧ s.Taken env jwt after

end Seals

/-! ## The timestamp that decides -/

theorem ofToken_tstInfo (env : TsEnv Cert) (verifier : TimeStampPolicyVerifier Cert)
    (sigBytes : Bytes) (data : Option Bytes)
    (hvalid : (TimeStamp.ofToken env verifier sigBytes data).sigValid = true) :
    env.getCmsSigTSTInfo sigBytes = .ok (TimeStamp.ofToken env verifier sigBytes data).tstInfo := by
  revert hvalid
  unfold TimeStamp.ofToken
  refine Mutating.tryCatch_of_wp (P := fun ts : TimeStamp Cert => ts.sigValid = true →
    env.getCmsSigTSTInfo sigBytes = .ok ts.tstInfo) ?_
  unfold TimeStamp.process
  -- the handler takes the validity back
  simp only [Mutating.wp_bind, Mutating.wp_call, Mutating.wp_modify, Bool.false_eq_true,
    false_imp_iff, implies_true, and_true]
  rintro data' - ⟨cert, certs⟩ - parsed hparsed - - tstInfo - - - verified -
  split
  · rw [Mutating.wp_modify]
    exact fun _ => hparsed
  · rw [Mutating.wp_pure]
    exact fun _ => hparsed

section Timestamps

variable {env : PdfSvtEnv Cert} {now : Date} {v : PDFSVTValidator Cert} {doc output : Bytes}
  {svt : String} {jwt : SignedJWT} {hashAlgoUri : String} {claims : List IssuedSignatureClaims}
  {signer : DefaultPDFDocTimestampSignatureInterface Cert} {dictionary : PDSignature}
  {others : List PDSignature} {svaTs : PDFSVTDocTimeStamp Cert}

/-- The timestamp of the new dictionary has the token. -/
theorem Extended.signedSvaTs
    (h : Extended env doc subfilterEtsiRfc3161 (signer.sign (some svt)) output dictionary)
    (hsigner : signer.Lawful env) (hparse : env.svt.parse svt = .ok jwt)
    (hcarries : CarriesClaims jwt hashAlgoUri claims)
    (hsigned : signedSvaTs env.pdf env.svt v output dictionary = some svaTs) :
    svaTs.signedJWT = jwt ∧
      svaTs.svtClaims = ⟨some hashAlgoUri, some (claims.map (·.toSignatureClaims))⟩ ∧
      svaTs.documentTimestampSig = dictionary := by
  obtain ⟨content, contents, tstInfo, hcontent, hcontents, htst, hsvt⟩ := h.timestamp hsigner
  obtain ⟨claimsSet, hclaimsSet, hsvtClaims⟩ := hcarries
  unfold PDFSVTValidator.signedSvaTs at hsigned
  obtain ⟨hts, hvalid⟩ := Option.filter_eq_some_iff.mp hsigned
  cases hof : ofSignature env.pdf env.svt v.timeStampPolicyVerifier output dictionary with
  | error ex =>
      rw [hof] at hts
      cases hts
  | ok ts =>
      rw [hof] at hts
      cases hts
      obtain ⟨contents', hcontents', hof⟩ := bind_ok_iff.mp hof
      obtain ⟨content', hcontent', hof⟩ := bind_ok_iff.mp hof
      obtain ⟨svajwt, hsvajwt, hof⟩ := bind_ok_iff.mp hof
      obtain ⟨signedJWT, hsignedJWT, hof⟩ := bind_ok_iff.mp hof
      obtain ⟨claimsSet', hclaimsSet', hof⟩ := bind_ok_iff.mp hof
      obtain ⟨svtClaims, hsvtClaims', hof⟩ := bind_ok_iff.mp hof
      cases hof
      cases hcontents.symm.trans hcontents'
      have hinfo := ofToken_tstInfo env.pdf.ts v.timeStampPolicyVerifier contents (some content')
        hvalid
      rw [htst, Except.ok.injEq] at hinfo
      have hsame : getSVTJWT (some tstInfo) = .ok svt := by
        unfold getSVTJWT
        rw [Option.bind_some, hsvt]
      rw [← hinfo, hsame] at hsvajwt
      cases hsvajwt
      cases hparse.symm.trans hsignedJWT
      cases (SignedJWT.getJWTClaimsSet_ok_iff.mpr hclaimsSet).symm.trans hclaimsSet'
      cases (SVAUtils.getSVTClaims_ok_iff.mpr hsvtClaims).symm.trans hsvtClaims'
      exact ⟨rfl, rfl, rfl⟩

theorem verifySVA_svtClaims (svt : SvtEnv Cert) (now : Date)
    (svaTokenCertVerifier : CertificateValidator Cert) (svaTs : PDFSVTDocTimeStamp Cert) :
    (verifySVA svt now svaTokenCertVerifier svaTs).svtClaims = svaTs.svtClaims := by
  unfold verifySVA
  dsimp only
  split
  · rfl
  · split
    · rfl
    · rfl
    · rfl

/-- The newest timestamp is handed out, wherever it stands among the others. -/
theorem getMostRecentValidSVA_newest (svaSigList : List PDSignature)
    (hsub : ∀ signature ∈ svaSigList, signature ∈ others ++ [dictionary])
    (hmem : dictionary ∈ svaSigList) {date : Date}
    (hsigned : signedSvaTs env.pdf env.svt v doc dictionary = some svaTs)
    (hdate : genTime svaTs = some date)
    (hlater : ∀ other ∈ others, ∀ older, signedSvaTs env.pdf env.svt v doc other = some older →
      ∃ date', genTime older = some date' ∧ date' < date) :
    getMostRecentValidSVA env.pdf env.svt now v svaSigList doc =
      .ok (some (verifySVA env.svt now v.svaCertVerifier svaTs)) := by
  have hlisted : svaTs ∈ svaSigList.filterMap (signedSvaTs env.pdf env.svt v doc) :=
    List.mem_filterMap.mpr ⟨dictionary, hmem, hsigned⟩
  have hcases : ∀ o ∈ svaSigList.filterMap (signedSvaTs env.pdf env.svt v doc),
      o = svaTs ∨ ∃ date', genTime o = some date' ∧ date' < date := by
    intro o ho
    obtain ⟨signature, hsignature, hso⟩ := List.mem_filterMap.mp ho
    rcases List.mem_append.mp (hsub signature hsignature) with hold | hnew
    · exact .inr (hlater signature hold o hso)
    · cases List.mem_singleton.mp hnew
      rw [hsigned] at hso
      exact .inl (Option.some.inj hso).symm
  have hknown : ∀ o ∈ svaSigList.filterMap (signedSvaTs env.pdf env.svt v doc),
      ∃ date, genTime o = some date := by
    intro o ho
    rcases hcases o ho with rfl | ⟨date', hdate', -⟩
    · exact ⟨date, hdate⟩
    · exact ⟨date', hdate'⟩
  obtain ⟨best, hbest⟩ : ∃ best, mostRecentSigned env.pdf env.svt v svaSigList doc = some best := by
    unfold mostRecentSigned
    cases hlist : svaSigList.filterMap (signedSvaTs env.pdf env.svt v doc) with
    | nil =>
        rw [hlist] at hlisted
        cases hlisted
    | cons o rest => exact ⟨_, rfl⟩
  have hmost : best = svaTs := by
    rcases hcases best (scan_mem hbest) with heq | ⟨date', hdate', hlt⟩
    · exact heq
    · have hle := mostRecentSigned_latest env.pdf env.svt v svaSigList doc hknown hbest svaTs
        hlisted date date' hdate hdate'
      exact absurd hlt (Int.not_lt.mpr hle)
  rw [getMostRecentValidSVA_eq, hbest, hmost]
  rfl

end Timestamps

/-! ## The entries of the token -/

section Entries

variable [DecidableEq Cert] {env : PdfIssuerEnv Cert} {issuer : PDFSVTSigValClaimsIssuer Cert}
  {now : Date} {doc : Bytes} {hashAlgoUri : String} {results : List (ExtendedPdfSigValResult Cert)}
  {sigResult : ExtendedPdfSigValResult Cert} {entry : IssuedSignatureClaims}
  {allSignatureList : List PDSignature}

/-- The hash of an entry is that of the signature value. -/
theorem entry_value
    (hresults : validate env.validation now issuer.signatureVerifier doc = .ok results)
    (hmem : sigResult ∈ results)
    (hentry : claimsData env issuer doc hashAlgoUri sigResult = .ok entry)
    {signature : PDSignature} (hsignature : sigResult.pdfSignature = some signature) :
    ∃ md value, env.claims.getMessageDigestInstance hashAlgoUri = .ok md ∧
      getSignatureValueBytes env.validation signature doc = .ok value ∧
      entry.sigRef.sigHash = env.claims.encodeBase64String (md value) := by
  obtain ⟨md, contents, signedData, signerInfo, attributes, -, -, -, -, -, -, hmd, hcontents,
    hdata, hinfo, -, -, -, -, -, -, -, hsigRef, -⟩ := claimsData_references hentry
  obtain ⟨ctx, all, svtResults, hctx, -, -, rfl⟩ := validate_ok_iff.mp hresults
  obtain ⟨listed, -, rfl⟩ := List.mem_map.mp hmem
  rw [validateSignature_pdfSignature] at hsignature
  cases hsignature
  obtain ⟨r, hr, -⟩ := (claimsData_ok_iff.mp ⟨entry, hentry⟩).certificates
  have hread := validateSignature_readFrom hr hcontents
  refine ⟨md, signerInfo.encryptedDigest, hmd, ?_, ?_⟩
  · exact bind_ok_iff.mpr ⟨contents, hread.read, bind_ok_iff.mpr ⟨signedData, hdata,
      bind_ok_iff.mpr ⟨signerInfo, hinfo, rfl⟩⟩⟩
  · rw [hsigRef]

/-- Entries with the same hash are the same. -/
theorem entry_unique (hdistinct : DistinctValues env doc hashAlgoUri)
    (hresults : validate env.validation now issuer.signatureVerifier doc = .ok results)
    (hmem : sigResult ∈ results)
    (hentry : claimsData env issuer doc hashAlgoUri sigResult = .ok entry)
    {other : ExtendedPdfSigValResult Cert} {otherEntry : IssuedSignatureClaims}
    (hother : other ∈ results)
    (hotherEntry : claimsData env issuer doc hashAlgoUri other = .ok otherEntry)
    (hhash : otherEntry.sigRef.sigHash = entry.sigRef.sigHash) : otherEntry = entry := by
  obtain ⟨ctx, all, svtResults, -, hall, -, hmap⟩ := validate_ok_iff.mp hresults
  obtain ⟨signature, hsignature, rfl⟩ : ∃ signature ∈ signatureList env.validation doc all,
      validateSignature env.validation issuer.signatureVerifier doc ctx
        (docTsSigList env.validation doc all) svtResults signature = sigResult :=
    List.mem_map.mp (hmap ▸ hmem)
  obtain ⟨signature', hsignature', rfl⟩ : ∃ signature ∈ signatureList env.validation doc all,
      validateSignature env.validation issuer.signatureVerifier doc ctx
        (docTsSigList env.validation doc all) svtResults signature = other :=
    List.mem_map.mp (hmap ▸ hother)
  obtain ⟨md, value, hmd, hvalue, hentryHash⟩ := entry_value hresults hmem hentry
    (validateSignature_pdfSignature ..)
  obtain ⟨md', value', hmd', hvalue', hotherHash⟩ := entry_value hresults hother hotherEntry
    (validateSignature_pdfSignature ..)
  cases hmd.symm.trans hmd'
  have hsame : signature = signature' := by
    refine hdistinct all md hall hmd signature hsignature signature' hsignature' value value'
      hvalue hvalue' ?_
    rw [← hentryHash, ← hotherHash, hhash]
  rw [hsame, hotherEntry] at hentry
  exact Except.ok.inj hentry

/-- What the validator collects for a signature with an entry is the entry. -/
theorem collected_entry (hreads : ReadsByByteRange env.validation)
    (hbytes : ContextOfBytes env.validation) (hlists : ListsCertificates env.validation)
    (hdigests : SameDigests env) (hdistinct : DistinctValues env doc hashAlgoUri)
    {claims : List IssuedSignatureClaims} (hverify : verify env now issuer doc hashAlgoUri =
      .ok claims)
    (hresults : validate env.validation now issuer.signatureVerifier doc = .ok results)
    (hmem : sigResult ∈ results)
    (hentry : claimsData env issuer doc hashAlgoUri sigResult = .ok entry)
    {signature : PDSignature} (hsignature : sigResult.pdfSignature = some signature)
    (hregistered : ∃ digestAlgorithm, DigestAlgorithmRegistry.get env.validation.svt.registry
      (some hashAlgoUri) = .ok digestAlgorithm)
    {svtTs : PDFSVTDocTimeStamp Cert}
    (hclaims : svtTs.svtClaims = ⟨some hashAlgoUri, some (claims.map (·.toSignatureClaims))⟩)
    (update : Bytes) :
    ∃ data, collectSVTData env.validation signature svtTs (doc ++ update) = .ok (some data) ∧
      data.signedJWT = svtTs.signedJWT ∧ data.signatureClaims = entry.toSignatureClaims ∧
      ReferencesMatch data := by
  obtain ⟨data, hcollect, hlisted, hhash, hreference, hdataRef⟩ :=
    (recomputed_iff_registered hreads hbytes hlists hdigests hverify hresults hmem hentry
      hsignature hclaims update).mpr hregistered
  have hown : data.signatureClaims = entry.toSignatureClaims := by
    obtain ⟨otherEntry, hotherEntry, hotherClaims⟩ := List.mem_map.mp hlisted
    obtain ⟨results', hresults', rfl⟩ := verify_ok_iff.mp hverify
    cases hresults.symm.trans hresults'
    obtain ⟨other, hother, hmade⟩ := List.mem_filterMap.mp hotherEntry
    have hotherOk : claimsData env issuer doc hashAlgoUri other = .ok otherEntry := by
      revert hmade
      cases claimsData env issuer doc hashAlgoUri other with
      | error ex =>
          intro h
          cases h
      | ok made => exact fun h => congrArg _ (Option.some.inj h)
    rw [← hotherClaims] at hhash
    rw [← hotherClaims, entry_unique hdistinct hresults hmem hentry hother hotherOk hhash]
  refine ⟨data, hcollect, (collectSVTData_some hcollect).1, hown, ?_⟩
  unfold ReferencesMatch
  rw [hreference, hdataRef, hown]
  exact ⟨rfl, rfl, fun _ h => h, fun _ h => h⟩

end Entries

/-! ## One seal -/

/-- The result of a signature after the seal, and the one before it. It is for the same
signature and rests on an entry that was made from the one before. Unless it could not be made,
it shows what the entry says, and it is a success when a policy passed. -/
structure ByToken (before : ExtendedPdfSigValResult Cert) (jwt : SignedJWT)
    (after : ExtendedPdfSigValResult Cert) : Prop where
  pdfSignature : after.pdfSignature = before.pdfSignature
  entry : ∃ claims, MadeFrom before.toExtendedSigValResult claims ∧
    (Processed after.toExtendedSigValResult →
      ShowsEntry jwt claims after.toExtendedSigValResult) ∧
    (after.status = .SUCCESS ↔
      Processed after.toExtendedSigValResult ∧ ∃ pv ∈ claims.sigVal, pv.res = .PASSED)
  certified : after.certificateValidationResult ≠ none →
    Processed after.toExtendedSigValResult

section Compiled

variable {env : PdfSvtEnv Cert} {jwt : SignedJWT} {claims : IssuedSignatureClaims}
  {svtValResult : SignatureSVTValidationResult}

/-- What could not be processed is no success, and has no certificates. -/
theorem complie_progress (habout : AboutEntry jwt claims svtValResult) (signature : PDSignature)
    (pdfDocBytes : Bytes) (signatureContext : DefaultPDFSignatureContext) :
    Processed (compliePDFSigValResultsFromSvtValidation env svtValResult signature pdfDocBytes
        signatureContext).toExtendedSigValResult ∨
      (compliePDFSigValResultsFromSvtValidation env svtValResult signature pdfDocBytes
        signatureContext).status = .ERROR_INVALID_SIGNATURE ∧
      ((∃ stamp, tokenTime jwt = some stamp) →
        (compliePDFSigValResultsFromSvtValidation env svtValResult signature pdfDocBytes
          signatureContext).certificateValidationResult = none) := by
  unfold compliePDFSigValResultsFromSvtValidation
  refine Mutating.tryCatch_of_wp (P := fun result : ExtendedPdfSigValResult Cert =>
    Processed result.toExtendedSigValResult ∨ result.status = .ERROR_INVALID_SIGNATURE ∧
      ((∃ stamp, tokenTime jwt = some stamp) → result.certificateValidationResult = none)) ?_
  unfold svtValidationBody
  simp only [Mutating.wp_bind, Mutating.wp_modify, Mutating.wp_call, Mutating.wp_zoom]
  refine ⟨?_, fun ex _ => .inr ⟨rfl, fun _ => rfl⟩⟩
  intro sigBytes _
  refine ⟨?_, fun ex _ => .inr ⟨rfl, fun _ => rfl⟩⟩
  intro signedData _
  refine ⟨?_, fun ex _ => .inr ⟨rfl, fun _ => rfl⟩⟩
  intro subFilter _
  refine ⟨?_, fun ex _ => .inr ⟨rfl, fun _ => rfl⟩⟩
  intro time _
  refine ⟨?_, fun ex _ => .inr ⟨rfl, fun _ => rfl⟩⟩
  intro covers _
  apply Mutating.wp_mono (takeSvtValidation_progress habout env.result _ _)
  · intro _ base hmessage
    refine .inl fun hfailed => ?_
    rw [hmessage] at hfailed
    cases hfailed
  · intro ex base hcertificates
    exact .inr ⟨rfl, hcertificates⟩

theorem complie_success_iff_passed (habout : AboutEntry jwt claims svtValResult)
    (signature : PDSignature) (pdfDocBytes : Bytes)
    (signatureContext : DefaultPDFSignatureContext) :
    (compliePDFSigValResultsFromSvtValidation env svtValResult signature pdfDocBytes
        signatureContext).status = .SUCCESS ↔
      Processed (compliePDFSigValResultsFromSvtValidation env svtValResult signature pdfDocBytes
        signatureContext).toExtendedSigValResult ∧ ∃ pv ∈ claims.sigVal, pv.res = .PASSED := by
  have hshows := pdfResult_shows habout env signature pdfDocBytes signatureContext
  constructor
  · intro hstatus
    have hprocessed : Processed (compliePDFSigValResultsFromSvtValidation env svtValResult
        signature pdfDocBytes signatureContext).toExtendedSigValResult := by
      rcases complie_progress habout signature pdfDocBytes signatureContext with
        hprocessed | ⟨hfailed, -⟩
      · exact hprocessed
      · rw [hstatus] at hfailed
        cases hfailed
    obtain ⟨stamp, -, hcarries⟩ := hshows hprocessed
    rw [hcarries.status] at hstatus
    obtain ⟨policies, hpolicies, hpassed⟩ :=
      getStatusFromPolicyValidationClaims_success_iff.mp hstatus
    cases hpolicies
    exact ⟨hprocessed, hpassed⟩
  · rintro ⟨hprocessed, hpassed⟩
    obtain ⟨stamp, -, hcarries⟩ := hshows hprocessed
    rw [hcarries.status]
    exact getStatusFromPolicyValidationClaims_success_iff.mpr ⟨_, rfl, hpassed⟩

end Compiled

section OneSeal

variable [DecidableEq Cert] {env : SealEnv Cert D} {s : Seal Cert} {before after : Version Cert}
  {jwt : SignedJWT} {allSignatureList : List PDSignature} {dictionary : PDSignature}
  {claims : List IssuedSignatureClaims}

theorem Seal.Applied.extended (hlaw : env.Lawful) (h : s.Applied env before jwt after) :
    ∃ dictionary, Extended env.validation before.document subfilterEtsiRfc3161
      (s.signer.sign (some (env.serialize jwt))) after.document dictionary := by
  obtain ⟨result, hresult, hdocument⟩ := h.document_ok
  rw [← hdocument]
  exact createSVTSealedPDF_extends hlaw.saves hresult

theorem Seal.Applied.issues (h : s.Applied env before jwt after) :
    ∃ claims, verify env.toPdfIssuerEnv s.issued s.claimsIssuer before.document
        s.svtIssuer.hashAlgoUri = .ok claims ∧
      CarriesClaims jwt s.svtIssuer.hashAlgoUri claims := by
  obtain ⟨claims, hverify, hcarries⟩ := s.lawful _ _ h.jwt_ok
  obtain ⟨claims', hverify', hclaims⟩ := bind_ok_iff.mp hverify
  cases hclaims
  exact ⟨claims, hverify', hcarries⟩

omit [DecidableEq Cert] in
/-- The validator goes by the timestamp with the token. -/
theorem Seal.Taken.selects (h : s.Taken env jwt after)
    (hextended : Extended env.validation before.document subfilterEtsiRfc3161
      (s.signer.sign (some (env.serialize jwt))) after.document dictionary)
    (hcarries : CarriesClaims jwt s.svtIssuer.hashAlgoUri claims)
    (hsound : Sound env.validation after.document (allSignatureList ++ [dictionary]))
    (htype : typeOf env.validation after.document dictionary = .ok .SVT_TYPE) :
    ∃ svtTs, SvtSelected env.validation s.validated s.validator after.document
        (withTypes env.validation after.document (allSignatureList ++ [dictionary])) svtTs ∧
      svtTs.signedJWT = jwt ∧
      svtTs.svtClaims =
        ⟨some s.svtIssuer.hashAlgoUri, some (claims.map (·.toSignatureClaims))⟩ ∧
      svtTs.documentTimestampSig = dictionary := by
  obtain ⟨v, hv, hnewest⟩ := h.newest
  obtain ⟨svaTs, date, hsigned, hdate, hlater⟩ := hnewest _ _ hsound.listed
  obtain ⟨hjwt, hclaims, hdictionary⟩ := hextended.signedSvaTs h.carried h.parsed hcarries hsigned
  obtain ⟨hstamp, hjwt', -⟩ :=
    verifySVA_fields env.validation.svt s.validated v.svaCertVerifier svaTs
  refine ⟨verifySVA env.validation.svt s.validated v.svaCertVerifier svaTs,
    ⟨v, hv, hsound.typedSignatures, ?_⟩, hjwt'.trans hjwt, ?_, ?_⟩
  · have hsub : ∀ signature ∈ ofType .SVT_TYPE (withTypes env.validation after.document
        (allSignatureList ++ [dictionary])), signature ∈ allSignatureList ++ [dictionary] :=
      fun signature hmem => (mem_ofType_withTypes.mp hmem).1
    refine getMostRecentValidSVA_newest _ hsub ?_ hsigned hdate hlater
    exact mem_ofType_withTypes.mpr
      ⟨List.mem_append_right _ (List.mem_singleton_self _), typeOrIllegal_ok htype⟩
  · rw [verifySVA_svtClaims, hclaims]
  · rw [← hdictionary]
    exact congrArg PDFDocTimeStamp.documentTimestampSig hstamp

omit [DecidableEq Cert] in
/-- It covers the signatures of the document before. -/
theorem Extended.covers {env : PdfSvtEnv Cert} {doc output : Bytes} {subFilter : String}
    {sign : Bytes → Outcome Bytes} (h : Extended env doc subFilter sign output dictionary)
    {signature : PDSignature} (hwithin : LastEnd signature doc.length)
    (hrange : 4 ≤ signature.byteRange.length) {svtTs : PDFSVTDocTimeStamp Cert}
    (hdictionary : svtTs.documentTimestampSig = dictionary) :
    svtTs.isSignatureCovered signature = true := by
  obtain ⟨gap, second, len, hbytes, hbehind, -⟩ := h.byteRange
  obtain ⟨e, he⟩ : ∃ e, signedLength signature = .ok e := by
    unfold signedLength arrayGet
    rw [List.getElem?_eq_getElem (by omega), List.getElem?_eq_getElem (by omega)]
    exact ⟨_, rfl⟩
  have hend := hwithin e he
  unfold PDFDocTimeStamp.isSignatureCovered
  rw [he, hdictionary, hbytes]
  show decide (gap > e) = true
  rw [decide_eq_true_eq]
  omega

end OneSeal

/-! ## What is matched with the signatures -/

/-- A document that was sealed, and the timestamp of the seal as the validator reads it. -/
structure Stamped [DecidableEq Cert] (env : SealEnv Cert D) (s : Seal Cert)
    (before : Version Cert) (jwt : SignedJWT) (after : Version Cert)
    (allSignatureList : List PDSignature) (dictionary : PDSignature)
    (claims : List IssuedSignatureClaims) (svtTs : PDFSVTDocTimeStamp Cert) : Prop where
  lawful : env.Lawful
  before_ok : validate env.validation s.issued s.claimsIssuer.signatureVerifier before.document =
    .ok before.results
  verified : verify env.toPdfIssuerEnv s.issued s.claimsIssuer before.document
    s.svtIssuer.hashAlgoUri = .ok claims
  covers : s.Covers env before jwt
  sound : Sound env.validation before.document allSignatureList
  extended : Extended env.validation before.document subfilterEtsiRfc3161
    (s.signer.sign (some (env.serialize jwt))) after.document dictionary
  after_sound : Sound env.validation after.document (allSignatureList ++ [dictionary])
  listed : signatureList env.validation after.document (allSignatureList ++ [dictionary]) =
    signatureList env.validation before.document allSignatureList
  selected : SvtSelected env.validation s.validated s.validator after.document
    (withTypes env.validation after.document (allSignatureList ++ [dictionary])) svtTs
  signedJWT : svtTs.signedJWT = jwt
  svtClaims : svtTs.svtClaims =
    ⟨some s.svtIssuer.hashAlgoUri, some (claims.map (·.toSignatureClaims))⟩
  documentTimestampSig : svtTs.documentTimestampSig = dictionary

section Matching

variable [DecidableEq Cert] {env : SealEnv Cert D} {s : Seal Cert} {before after : Version Cert}
  {jwt : SignedJWT} {allSignatureList : List PDSignature} {dictionary signature : PDSignature}
  {claims : List IssuedSignatureClaims} {svtTs : PDFSVTDocTimeStamp Cert}
  {sigResult : ExtendedPdfSigValResult Cert} {entry : IssuedSignatureClaims}

/-- The results before the seal are those of the signatures, in order. -/
theorem Stamped.results (h : Stamped env s before jwt after allSignatureList dictionary claims
    svtTs) :
    ∃ ctx svtResults, before.results =
      (signatureList env.validation before.document allSignatureList).map
        (validateSignature env.validation s.claimsIssuer.signatureVerifier before.document ctx
          (docTsSigList env.validation before.document allSignatureList) svtResults) := by
  obtain ⟨ctx, all, svtResults, -, hall, -, hmap⟩ := validate_ok_iff.mp h.before_ok
  cases h.sound.listed.symm.trans hall
  exact ⟨ctx, svtResults, hmap.symm⟩

theorem Stamped.result_of_listed (h : Stamped env s before jwt after allSignatureList dictionary
    claims svtTs)
    (hlisted : signature ∈ signatureList env.validation before.document allSignatureList) :
    ∃ sigResult ∈ before.results, sigResult.pdfSignature = some signature := by
  obtain ⟨ctx, svtResults, hresults⟩ := h.results
  rw [hresults]
  exact ⟨_, List.mem_map_of_mem hlisted, validateSignature_pdfSignature ..⟩

/-- What is collected for a signature is its entry. -/
theorem Stamped.collected (h : Stamped env s before jwt after allSignatureList dictionary claims
    svtTs) (hmem : sigResult ∈ before.results)
    (hsignature : sigResult.pdfSignature = some signature)
    (hlisted : signature ∈ signatureList env.validation before.document allSignatureList)
    (hentry : claimsData env.toPdfIssuerEnv s.claimsIssuer before.document
      s.svtIssuer.hashAlgoUri sigResult = .ok entry) :
    ∃ data, svtDataOf env.validation svtTs after.document signature = some data ∧
      data.signedJWT = jwt ∧ data.signatureClaims = entry.toSignatureClaims ∧
      ReferencesMatch data := by
  obtain ⟨update, hupdate⟩ := h.extended.appended
  obtain ⟨data, hcollect, hjwt, hclaims, hmatch⟩ := collected_entry h.lawful.reads
    h.lawful.context h.lawful.certificates h.lawful.digests h.covers.distinct h.verified
    h.before_ok hmem hentry hsignature h.covers.registered h.svtClaims update
  refine ⟨data, ?_, hjwt.trans h.signedJWT, hclaims, hmatch⟩
  obtain ⟨signature', signedContent, hsignature', -, hrange⟩ :=
    (h.covers.entries sigResult hmem).dictionary
  rw [hsignature] at hsignature'
  cases hsignature'
  have hall := (h.sound.mem_signatureList_iff.mp hlisted).1
  have hcovered := h.extended.covers (h.sound.within signature hall).2 hrange
    h.documentTimestampSig
  unfold svtDataOf
  rw [hcovered, hupdate, hcollect]
  rfl

/-- Every entry that the validator has collected is one of the token. -/
theorem Stamped.entry_of_mem (h : Stamped env s before jwt after allSignatureList dictionary claims
    svtTs) {e : PDSignature × SignatureSVTData}
    (he : e ∈ svtEntries env.validation svtTs (withTypes env.validation after.document
      (allSignatureList ++ [dictionary])) after.document) :
    ∃ sigResult ∈ before.results, ∃ entry, claimsData env.toPdfIssuerEnv s.claimsIssuer
        before.document s.svtIssuer.hashAlgoUri sigResult = .ok entry ∧
      e.2.signatureClaims = entry.toSignatureClaims := by
  obtain ⟨signature, hsignature, hdata⟩ := List.mem_filterMap.mp he
  have hlisted : signature ∈ signatureList env.validation before.document allSignatureList := by
    rw [← h.listed]
    exact h.after_sound.mem_signatureList_iff.mpr (mem_ofType_withTypes.mp hsignature)
  obtain ⟨sigResult, hmem, hpdf⟩ := h.result_of_listed hlisted
  obtain ⟨entry, hentry⟩ := claimsData_ok_iff.mpr (h.covers.entries sigResult hmem)
  obtain ⟨data, hcollected, -, hclaims, -⟩ := h.collected hmem hpdf hlisted hentry
  rw [hcollected] at hdata
  cases hdata
  exact ⟨sigResult, hmem, entry, hentry, hclaims⟩

/-- The entry of a signature is matched with it. -/
theorem Stamped.matching (h : Stamped env s before jwt after allSignatureList dictionary claims
    svtTs) (hmem : sigResult ∈ before.results)
    (hsignature : sigResult.pdfSignature = some signature)
    (hlisted : signature ∈ signatureList env.validation before.document allSignatureList)
    (hentry : claimsData env.toPdfIssuerEnv s.claimsIssuer before.document
      s.svtIssuer.hashAlgoUri sigResult = .ok entry) :
    ∃ svtValResult, AboutEntry jwt entry svtValResult ∧
      matchingSvtValidation env.validation after.document
        (some ((svtEntries env.validation svtTs (withTypes env.validation after.document
          (allSignatureList ++ [dictionary])) after.document).map fun e =>
            env.validation.validateSvtData e.2)) signature = some svtValResult := by
  obtain ⟨md, value, hmd, hvalue, hhash⟩ := entry_value h.before_ok hmem hentry hsignature
  obtain ⟨data, hcollected, -, hclaims, hmatch⟩ := h.collected hmem hsignature hlisted hentry
  have hentryListed : (signature, data) ∈ svtEntries env.validation svtTs
      (withTypes env.validation after.document (allSignatureList ++ [dictionary]))
      after.document := by
    refine List.mem_filterMap.mpr ⟨signature, mem_ofType_withTypes.mpr ?_, by rw [hcollected]; rfl⟩
    rw [← h.listed] at hlisted
    exact h.after_sound.mem_signatureList_iff.mp hlisted
  have hvouches : vouchesFor (env.claims.encodeBase64String (md value)) (signature, data) =
      true := by
    have hown : data.signatureClaims.sigRef.sigHash = env.claims.encodeBase64String (md value) := by
      rw [hclaims, ← hhash]
      rfl
    unfold vouchesFor
    rw [Bool.and_eq_true, hown, decide_eq_true_eq]
    exact ⟨beq_self_eq_true _, hmatch⟩
  -- the first entry with the hash is the only one
  obtain ⟨found, hfound⟩ : ∃ found, (svtEntries env.validation svtTs (withTypes env.validation
      after.document (allSignatureList ++ [dictionary])) after.document).find?
        (vouchesFor (env.claims.encodeBase64String (md value))) = some found := by
    rw [← Option.isSome_iff_exists, List.find?_isSome]
    exact ⟨_, hentryListed, hvouches⟩
  obtain ⟨other, hother, otherEntry, hotherEntry, hotherClaims⟩ :=
    h.entry_of_mem (List.mem_of_find?_eq_some hfound)
  have hsame : otherEntry = entry := by
    refine entry_unique h.covers.distinct h.before_ok hmem hentry hother hotherEntry ?_
    have hvouched := List.find?_some hfound
    unfold vouchesFor at hvouched
    rw [Bool.and_eq_true, beq_iff_eq, hotherClaims] at hvouched
    rw [hhash]
    exact hvouched.1.symm
  rw [hsame] at hotherClaims
  refine ⟨env.validation.validateSvtData found.2, ⟨?_, ?_, ?_⟩, ?_⟩
  · rw [h.lawful.references.signedJWT,
      svtEntries_signedJWT svtTs _ _ found (List.mem_of_find?_eq_some hfound), h.signedJWT]
  · rw [h.lawful.references.signatureClaims, hotherClaims]
  · exact (h.lawful.references.success _).mpr (referencesMatch_of_find hfound)
  · obtain ⟨update, hupdate⟩ := h.extended.appended
    have hall := (h.sound.mem_signatureList_iff.mp hlisted).1
    refine (matchingSvtValidation_some_iff h.lawful.references
      (svtEntries_signedJWT svtTs _ _)).mpr ⟨value, _, found, ?_, ?_, hfound, rfl⟩
    · rw [hupdate, h.sound.getSignatureValueBytes_append h.lawful.reads hall update]
      exact hvalue
    · rw [h.signedJWT]
      exact h.covers.digest md hmd value

end Matching

section Step

variable [DecidableEq Cert] {env : SealEnv Cert D} {before after : Version Cert} {jwt : SignedJWT}
  {allSignatureList : List PDSignature}

/-- After a seal every signature is validated by its token. -/
theorem Sealed.byToken (hlaw : env.Lawful) (h : Sealed env before jwt after)
    (hsound : Sound env.validation before.document allSignatureList) :
    List.Forall₂ (fun sigResult result => ByToken sigResult jwt result) before.results
        after.results ∧
      ∃ allSignatureList', Sound env.validation after.document allSignatureList' := by
  obtain ⟨s, happlied, hcovers, htaken⟩ := h
  obtain ⟨dictionary, hextended⟩ := happlied.extended hlaw
  obtain ⟨claims, hverify, hcarries⟩ := happlied.issues
  have htype := hextended.typeOf htaken.carried hlaw.locale htaken.parsed hcarries
  have hafter := hsound.extended hlaw.reads hextended htype
  have hlisted := hsound.signatureList_extended hlaw.reads hextended htype
  obtain ⟨svtTs, hselected, hjwt, hclaims, hdictionary⟩ :=
    htaken.selects hextended hcarries hafter htype
  have hstamped : Stamped env s before jwt after allSignatureList dictionary claims svtTs :=
    ⟨hlaw, happlied.before_ok, hverify, hcovers, hsound, hextended, hafter, hlisted, hselected,
      hjwt, hclaims, hdictionary⟩
  refine ⟨?_, _, hafter⟩
  obtain ⟨ctx', all', svtResults', -, hall', hsvtResults', hmap'⟩ :=
    validate_ok_iff.mp happlied.after_ok
  cases hafter.listed.symm.trans hall'
  cases (svtValidationResults_of_selected hselected).symm.trans hsvtResults'
  obtain ⟨ctx, svtResults, hresults⟩ := hstamped.results
  have hmem := hresults ▸ fun signature
    (hs : signature ∈ signatureList env.validation before.document allSignatureList) =>
      List.mem_map_of_mem (f := validateSignature env.validation s.claimsIssuer.signatureVerifier
        before.document ctx (docTsSigList env.validation before.document allSignatureList)
        svtResults) hs
  rw [hresults, ← hmap', hlisted, List.forall₂_map_left_iff, List.forall₂_map_right_iff,
    List.forall₂_same]
  intro signature hsignature
  obtain ⟨entry, hentry⟩ := claimsData_ok_iff.mpr (hcovers.entries _ (hmem signature hsignature))
  obtain ⟨svtValResult, habout, hmatching⟩ := hstamped.matching (hmem signature hsignature)
    (validateSignature_pdfSignature ..) hsignature hentry
  obtain ⟨-, hsigVal, -, htimes⟩ := claimsData_ok hentry
  refine ⟨?_, ⟨entry, ⟨_, _, _, hsigVal, htimes⟩, ?_⟩, ?_⟩
  · rw [validateSignature_pdfSignature, validateSignature_pdfSignature]
  · unfold validateSignature
    rw [hmatching]
    exact ⟨pdfResult_shows habout _ _ _ _, complie_success_iff_passed habout _ _ _⟩
  · unfold validateSignature
    rw [hmatching]
    intro hcertified
    rcases complie_progress habout signature after.document ctx' with hprocessed | ⟨-, hnone⟩
    · exact hprocessed
    · exact absurd (hnone hcovers.stamped) hcertified

end Step

/-! ## Many seals -/

/-- The result of a signature after the seals, and the first one. It is for the same signature
and shows what the first one found, with the times of the tokens, and it is a success when a
policy passed then; unless the last token could not be processed. -/
structure Outlasts (first : ExtendedPdfSigValResult Cert) (tokens : List SignedJWT)
    (last : ExtendedPdfSigValResult Cert) : Prop where
  pdfSignature : last.pdfSignature = first.pdfSignature
  policies : ∀ policies, first.validationPolicyResultList = some policies → policies ≠ [] →
    (Processed last.toExtendedSigValResult →
      HandedOn first.toExtendedSigValResult policies tokens last.toExtendedSigValResult) ∧
    (last.status = .SUCCESS ↔
      Processed last.toExtendedSigValResult ∧ ∃ pv ∈ policies, pv.res = .PASSED)

section Seals

variable [DecidableEq Cert] {env : SealEnv Cert D} {first mid last : Version Cert}
  {tokens : List SignedJWT} {allSignatureList : List PDSignature}

/-- A document that is sealed again has an entry for every signature. -/
theorem Sealed.buildable {before after : Version Cert} {jwt : SignedJWT}
    (h : Sealed env before jwt after) : ∀ result ∈ before.results, ∃ hashAlgoUri,
      Buildable env.toPdfIssuerEnv before.document hashAlgoUri result := by
  obtain ⟨s, -, hcovers, -⟩ := h
  exact fun result hmem => ⟨_, hcovers.entries result hmem⟩

theorem Sealed.certified {before after : Version Cert} {jwt : SignedJWT}
    (h : Sealed env before jwt after) :
    ∀ result ∈ before.results, result.certificateValidationResult ≠ none := by
  intro result hmem hnone
  obtain ⟨hashAlgoUri, hbuildable⟩ := h.buildable result hmem
  obtain ⟨r, hr, -⟩ := hbuildable.certificates
  rw [hnone] at hr
  cases hr

/-- Each signature goes through a generation with every seal. -/
theorem generations_of_trace (hlaw : env.Lawful) (hrun : Trace (Sealed env) first tokens mid)
    (hmid : ∀ result ∈ mid.results, result.certificateValidationResult ≠ none) :
    ∀ {allSignatureList}, Sound env.validation first.document allSignatureList →
      List.Forall₂ (fun f m => m.pdfSignature = f.pdfSignature ∧
          Trace Renewal f.toExtendedSigValResult tokens m.toExtendedSigValResult)
        first.results mid.results ∧
      ∃ allSignatureList', Sound env.validation mid.document allSignatureList' := by
  induction hrun with
  | refl version =>
      intro all hsound
      exact ⟨List.forall₂_same.mpr fun result _ => ⟨rfl, .refl _⟩, all, hsound⟩
  | @step before after _ jwt later hfirst hrest ih =>
      intro all hsound
      obtain ⟨hbyToken, all', hsound'⟩ := Sealed.byToken hlaw hfirst hsound
      obtain ⟨hlater, hlast⟩ := ih hmid hsound'
      refine ⟨?_, hlast⟩
      have hcertified : ∀ result ∈ after.results, result.certificateValidationResult ≠ none := by
        cases hrest with
        | refl => exact hmid
        | step hnext _ => exact Sealed.certified hnext
      have hrenewed : List.Forall₂ (fun b a => a.pdfSignature = b.pdfSignature ∧
          Renewal b.toExtendedSigValResult jwt a.toExtendedSigValResult) before.results
          after.results := by
        have hboth := (List.forall₂_and_left _ _).mpr ⟨hcertified, hbyToken.flip⟩
        refine hboth.flip.imp ?_
        rintro b a ⟨hcert, hbyToken⟩
        obtain ⟨claims, hmade, hshows, -⟩ := hbyToken.entry
        exact ⟨hbyToken.pdfSignature, claims, hmade, hshows (hbyToken.certified hcert)⟩
      refine (forall₂_comp hrenewed hlater).imp ?_
      rintro f m ⟨b, ⟨hpdf, hrenewal⟩, hpdf', hrun⟩
      exact ⟨hpdf'.trans hpdf, .step hrenewal hrun⟩

end Seals

/-- The policy results come through all generations. -/
theorem policies_of_trace {TS : Type} {first last : ExtendedSigValResult Cert TS}
    {tokens : List SignedJWT} {policies : List PolicyValidationClaims}
    (hrun : Trace Renewal first tokens last) (hsome : policies ≠ [])
    (hpolicies : first.validationPolicyResultList = some policies) :
    last.validationPolicyResultList = some policies := by
  induction hrun with
  | refl => exact hpolicies
  | step hfirst _ ih =>
      obtain ⟨claims, hmade, stamp, -, hcarries⟩ := hfirst
      apply ih
      rw [hcarries.policyResults, hmade.policies hpolicies hsome]

/-- The last seal, after the generations before it. -/
theorem ByToken.outlasts {first mid last : ExtendedPdfSigValResult Cert}
    {tokens : List SignedJWT} {jwt : SignedJWT} (h : ByToken mid jwt last)
    (hpdf : mid.pdfSignature = first.pdfSignature)
    (hrun : Trace Renewal first.toExtendedSigValResult tokens mid.toExtendedSigValResult) :
    Outlasts first (tokens ++ [jwt]) last where
  pdfSignature := h.pdfSignature.trans hpdf
  policies := by
    intro policies hpolicies hsome
    obtain ⟨claims, hmade, hshows, hstatus⟩ := h.entry
    have hmid := policies_of_trace hrun hsome hpolicies
    refine ⟨?_, ?_⟩
    · intro hprocessed
      exact handedOn_of_trace hsome (by simp)
        (hrun.concat ⟨claims, hmade, hshows hprocessed⟩) hpolicies
    · rw [hstatus, hmade.policies hmid hsome]

section Verdict

variable [DecidableEq Cert] {env : SealEnv Cert D} {first last : Version Cert}
  {tokens : List SignedJWT} {allSignatureList : List PDSignature}

/-- **Sealed again and again.** A document is sealed any number of times, each time with an
entry for every signature and on the strength of the seals before, and each validator goes by
the last seal. Then the last validation has a result for every signature that the first one
had, in the same order, with the policy results and the times of the first one and the times
of all tokens, unless the last token could not be processed. The document is a complete success
in the end exactly when it has signatures, some policy passed for each of them at the start,
and that happened to none. -/
theorem sealed_verdicts_last (hlaw : env.Lawful)
    (hsound : Sound env.validation first.document allSignatureList) (htokens : tokens ≠ [])
    (hrun : Trace (Sealed env) first tokens last)
    (hpolicies : ∀ result ∈ first.results, result.validationPolicyResultList ≠ some []) :
    List.Forall₂ (fun f l => Outlasts f tokens l) first.results last.results ∧
      ((getConcludingSigVerifyResult last.results).completeSuccess = true ↔
        first.results ≠ [] ∧
        (∀ result ∈ first.results, ∃ policies,
          result.validationPolicyResultList = some policies ∧ ∃ pv ∈ policies, pv.res = .PASSED) ∧
        ∀ result ∈ last.results, Processed result.toExtendedSigValResult) := by
  have hsome : ∀ result ∈ first.results, ∃ policies,
      result.validationPolicyResultList = some policies ∧ policies ≠ [] := by
    intro result hmem
    cases hrun with
    | refl => exact absurd rfl htokens
    | step hfirst _ =>
        obtain ⟨hashAlgoUri, hbuildable⟩ := Sealed.buildable hfirst result hmem
        obtain ⟨policies, hlist⟩ := hbuildable.policies
        refine ⟨policies, hlist, ?_⟩
        rintro rfl
        exact hpolicies result hmem hlist
  obtain rfl | ⟨init, jwt, rfl⟩ := List.eq_nil_or_concat' tokens
  · exact absurd rfl htokens
  obtain ⟨mid, hinit, hlast⟩ := hrun.exists_last
  obtain ⟨hgenerations, all, hmid⟩ := generations_of_trace hlaw hinit hlast.certified hsound
  have houtlasts : List.Forall₂ (fun f l => Outlasts f (init ++ [jwt]) l) first.results
      last.results := by
    refine (forall₂_comp hgenerations (Sealed.byToken hlaw hlast hmid).1).imp ?_
    rintro f l ⟨m, ⟨hpdf, hrun⟩, hbyToken⟩
    exact hbyToken.outlasts hpdf hrun
  refine ⟨houtlasts, ?_⟩
  have hne : last.results ≠ [] ↔ first.results ≠ [] := by
    rw [← List.length_pos_iff, ← List.length_pos_iff, houtlasts.length_eq]
  rw [completeSuccess_iff, hne]
  refine and_congr_right fun _ => ?_
  refine forall₂_forall_iff ?_ ((List.forall₂_and_left _ _).mpr ⟨hsome, houtlasts⟩)
  rintro f l ⟨⟨policies, hlist, hnonempty⟩, houtlast⟩
  rw [(houtlast.policies policies hlist hnonempty).2]
  refine and_congr_right fun _ => ⟨fun hpassed => ⟨policies, hlist, hpassed⟩, ?_⟩
  rintro ⟨policies', hlist', hpassed⟩
  rw [hlist] at hlist'
  cases hlist'
  exact hpassed

end Verdict

/-! ## A sealed document

The signed PDF, to which an update adds the SVT timestamp. -/

section Demo

/-- A policy that a signature with a path passes. -/
def pathPolicy : AbstractBasicPDFSignaturePolicyChecks Nat where
  getValidationPolicy := sigValidationPolicyPkixValidation
  performAdditionalValidityChecks := fun _ _ =>
    .ok ⟨⟨sigValidationPolicyPkixValidation, .PASSED, none⟩, .SUCCESS⟩
  passed_of_success := by
    intro sigResult signatureContext verdict h _
    cases h
    rfl

def sealEnv : SealEnv Nat Bytes where
  toPdfIssuerEnv := issuedEnv
  pdfBox :=
    { loadPDF := fun pdfBytes =>
        if pdfBytes = signedFile.bytes then .ok pdfBytes
        else .error ⟨.io, "Error: End-of-File, expected line"⟩
      addSignature := fun pdfBytes subFilter _ =>
        if subFilter = subfilterEtsiRfc3161 then .ok pdfBytes else .error ⟨.io, "no timestamp"⟩
      saveIncremental := fun _ sign => do
        let token ← sign svtFile.content
        if token = svtCms then pure svtFile.bytes
        else throw ⟨.io, "Can't write signature, not enough space"⟩ }
  serialize := fun jwt => if jwt = svtToken then svtText else "another token"

/-- The result of the signature in the document that is sealed. -/
def sealedResult : ExtendedPdfSigValResult Nat :=
  passedResult ⟨sigValidationPolicyPkixValidation, .PASSED, none⟩

def sealing : Seal Nat where
  svtIssuer :=
    { hashAlgoUri := DigestAlgorithm.idSHA256
      getSignedSvtJWT := fun verify => do
        let claims ← verify DigestAlgorithm.idSHA256
        pure (claims.map (issuedToken "ES256" DigestAlgorithm.idSHA256)) }
  lawful := by
    intro verify jwt h
    obtain ⟨claims, hverify, h⟩ := bind_ok_iff.mp h
    cases claims with
    | none => cases h
    | some claims =>
        cases h
        exact ⟨claims, hverify, _, rfl, rfl⟩
  claimsIssuer := { signatureVerifier := anchoredVerifier none pathPolicy }
  issued := 1795100400000
  signer :=
    { certificates := [5]
      generate := fun svt content =>
        if svt = svtText ∧ content = svtFile.content then .ok svtCms
        else .error ⟨.runtime, "no token"⟩
      toString := fun e => e.msg }
  validator := anchoredVerifier (some trustingValidator) pathPolicy
  validated := 1795100500000

theorem svtFile_ne : svtFile.bytes ≠ signedFile.bytes := by
  intro h
  have hlength := congrArg List.length h
  rw [svtFile_length, signedFile_length] at hlength
  omega

theorem svtFile_signatures :
    fileLoader.getSignatureDictionaries svtFile.bytes = .ok [signedDictionary, svtDictionary] := by
  have hread : readPdf svtFile.bytes = some ([signedDictionary, svtDictionary], sealedPdf) := by
    unfold readPdf
    rw [if_neg svtFile_ne, if_pos rfl]
  exact fileLoader_signatures hread

theorem sealEnv_dictionaries : sealEnv.validation.getSignatureDictionaries =
    fileLoader.getSignatureDictionaries := rfl

theorem svtFile_contents : readContents svtDictionary svtFile.bytes = .ok svtCms := by
  rw [← List.append_nil svtFile.bytes]
  exact svt_contents []

theorem svtFile_content : readSignedContent svtDictionary svtFile.bytes = .ok svtFile.content := by
  rw [← List.append_nil svtFile.bytes]
  exact svt_content []

theorem svtFile_appended : ∃ update, svtFile.bytes = signedFile.bytes ++ update :=
  ⟨_, (List.append_nil svtFile.bytes).symm.trans (svtFile_bytes [])⟩

theorem sealEnv_extended {sign : Bytes → Outcome Bytes}
    (hsign : sign svtFile.content = .ok svtCms) :
    Extended sealEnv.validation signedFile.bytes subfilterEtsiRfc3161 sign svtFile.bytes
      svtDictionary where
  appended := svtFile_appended
  listed := by
    intro allSignatureList h
    rw [sealEnv_dictionaries, signedFile_signatures] at h
    cases h
    rw [sealEnv_dictionaries, svtFile_signatures]
    rfl
  subFilter := rfl
  byteRange := by
    rw [signedFile_length, svtFile_length]
    exact ⟨2203, 5679, 145, rfl, by decide, by decide, by decide, by decide⟩
  signed := by
    refine ⟨svtFile.content, svtCms, 0, svtFile_content, hsign, ?_⟩
    rw [List.replicate_zero, List.append_nil]
    exact svtFile_contents

theorem sealEnv_lawful : sealEnv.Lawful where
  reads := fileEnv_reads
  context := ⟨_, _, _, fun _ => rfl⟩
  certificates := fileEnv_listsCertificates
  digests := fileEnv_sameDigests
  references := fileEnv_comparesReferences _ _
  saves := by
    intro doc loaded subFilter size added sign output hloaded hadded houtput
    have hload : (if doc = signedFile.bytes then .ok doc
        else .error ⟨.io, "Error: End-of-File, expected line"⟩ : Outcome Bytes) = .ok loaded :=
      hloaded
    have hadd : (if subFilter = subfilterEtsiRfc3161 then .ok loaded
        else .error ⟨.io, "no timestamp"⟩ : Outcome Bytes) = .ok added := hadded
    obtain ⟨token, htoken, hsave⟩ := bind_ok_iff.mp houtput
    split at hload
    · rename_i hdoc
      split at hadd
      · rename_i hfilter
        split at hsave
        · rename_i hseal
          cases hsave
          rw [hdoc, hfilter]
          exact ⟨svtDictionary, sealEnv_extended (hseal ▸ htoken)⟩
        · cases hsave
      · cases hadd
    · cases hload
  locale := by decide +kernel

/-! The document before the seal. -/

theorem path_passed :
    pathPolicy.validatePolicy (checkedResult signedContext true) signedContext =
      .ok ⟨⟨sigValidationPolicyPkixValidation, .PASSED, none⟩, .SUCCESS⟩ := rfl

theorem sealing_results :
    validate sealEnv.validation sealing.issued sealing.claimsIssuer.signatureVerifier
      signedFile.bytes = .ok [sealedResult] :=
  validate_signed _ path_passed rfl

theorem fileClaims_sha256 :
    fileClaims.getMessageDigestInstance DigestAlgorithm.idSHA256 = .ok digest256 := rfl

/-- The entry of the signature is the one that the token in the document has. -/
theorem sealing_entry :
    ∃ entry, claimsData sealEnv.toPdfIssuerEnv sealing.claimsIssuer signedFile.bytes
        DigestAlgorithm.idSHA256 sealedResult = .ok entry ∧
      entry.toSignatureClaims = signedClaims := by
  obtain ⟨entry, hentry⟩ := claimsData_ok_iff.mpr
    (buildable_signedFile fileClaims_sha256 ⟨sigValidationPolicyPkixValidation, .PASSED, none⟩)
  have hown : claimsData sealEnv.toPdfIssuerEnv sealing.claimsIssuer signedFile.bytes
      DigestAlgorithm.idSHA256 sealedResult = .ok entry := hentry
  obtain ⟨-, hsigVal, -, htimes⟩ := claimsData_ok hown
  obtain ⟨md, contents, signedData, signerInfo, attributes, signature, signedContent, b0, b1, b2,
    b3, hmd, hcontents, hdata, hinfo, hattributes, hsignature, hsigned, h0, h1, h2, h3, hsigRef,
    hdataRef⟩ := claimsData_references hown
  have hmd' : fileClaims.getMessageDigestInstance DigestAlgorithm.idSHA256 = .ok md := hmd
  have hdata' : signedDataOf contents = .ok signedData := hdata
  have hsigned' : readSignedContent signature signedFile.bytes = .ok signedContent := hsigned
  cases fileClaims_sha256.symm.trans hmd'
  cases hcontents
  cases signedDataOf_signed.symm.trans hdata'
  cases hinfo
  cases hattributes
  cases hsignature
  cases signedFile_content.symm.trans hsigned'
  cases h0
  cases h1
  cases h2
  cases h3
  have hvalue := Except.ok.inj textDigest_value
  have hattribute := Except.ok.inj textDigest_attributes
  have hcontent := Except.ok.inj textDigest_content
  have hencode : sealEnv.claims.encodeBase64String = encodeBase64String := rfl
  unfold digestText at hvalue hattribute hcontent
  rw [hencode] at hsigRef hdataRef
  dsimp only at hsigRef
  rw [hvalue, hattribute] at hsigRef
  rw [hcontent] at hdataRef
  refine ⟨entry, hown, ?_⟩
  have hpolicies : entry.sigVal = [⟨sigValidationPolicyPkixValidation, .PASSED, none⟩] :=
    (Except.ok.inj hsigVal).symm
  have hnone : entry.timeVal = [] := (Except.ok.inj htimes).symm
  have hrange : toString (0 : Int) ++ " " ++ toString (408 : Int) ++ " " ++ toString (1718 : Int) ++
      " " ++ toString (191 : Int) = "0 408 1718 191" := by decide
  rw [hrange] at hdataRef
  unfold IssuedSignatureClaims.toSignatureClaims
  rw [hsigRef, hdataRef, hpolicies, hnone]
  rfl

/-! The document after it. -/

def signedByteRange : ByteRange where
  start₁ := 0
  length₁ := 408
  start₂ := 1718
  length₂ := 191
  isInt := by decide

theorem svtFile_ended : EndedWith svtFile.bytes 1903 .lf := by
  obtain ⟨update, hupdate⟩ := svtFile_appended
  obtain ⟨hmarkers, -, hline⟩ := signedFile_markers
  have hmarker : MarkerAt signedFile.bytes 1903 :=
    mem_markerOffsets_zero.mp (by rw [hmarkers]; exact List.mem_cons_self)
  have hle : 1908 ≤ signedFile.bytes.length := by rw [signedFile_length]; decide
  rw [hupdate]
  refine ⟨hmarker.append update, ?_⟩
  show LineEnd.lf.bytes <+: (signedFile.bytes ++ update).drop 1908
  rw [List.drop_append_of_le_length hle]
  exact hline.trans (List.prefix_append _ _)

/-- The signature is located, at the end of the revision it was made in. -/
theorem svtFile_context :
    ∃ ctx covers, DefaultPDFSignatureContext.ofDocument plainJvm strictGeneralSafeObjects
        fileLoader svtFile.bytes = .ok ctx ∧
      ctx.isCoversWholeDocument signedDictionary = .ok covers := by
  have hranges : CompleteRanges [signedDictionary, svtDictionary] := by
    intro signature hmem
    rcases List.mem_cons.mp hmem with rfl | hmem
    · exact ⟨_, rfl⟩
    · cases List.mem_singleton.mp hmem
      exact ⟨_, rfl⟩
  obtain ⟨ctx, hctx⟩ : ∃ ctx, DefaultPDFSignatureContext.ofDocument plainJvm
      strictGeneralSafeObjects fileLoader svtFile.bytes = .ok ctx :=
    ofDocument_ok hranges svtFile_signatures
  have hsize : svtFile.bytes.length < 2 ^ 31 := by rw [svtFile_length]; decide
  have hloads : (fileLoader.loadPDF (svtFile.bytes.take (endAfter 1903 .lf))).isSome = true := by
    obtain ⟨update, hupdate⟩ := svtFile_appended
    have hend : endAfter 1903 .lf = signedFile.bytes.length := signedFile_length.symm
    rw [hupdate, hend, List.take_left, fileLoader_loads readPdf_signed]
    rfl
  have hrange : signedByteRange.endOffset = endAfter 1903 .lf := rfl
  obtain ⟨idx, rev, hindex, -⟩ : ∃ idx rev,
      ctx.getSignatureRevisionIndex signedDictionary = .ok (some idx) ∧
      ctx.pdfDocRevisions[idx]? = some rev ∧ rev.length = signedByteRange.endOffset :=
    (revision_located_iff hctx hsize svtFile_ended hrange hloads).mpr trivial
  have hcovers : ∃ covers, ctx.isCoversWholeDocument signedDictionary = .ok covers := by
    unfold isCoversWholeDocument
    rw [hindex]
    dsimp only [bind, Except.bind]
    split
    · exact ⟨_, rfl⟩
    · exact ⟨_, rfl⟩
  obtain ⟨covers, hcovers⟩ := hcovers
  exact ⟨ctx, covers, hctx, hcovers⟩

/-- And the one after it. -/
theorem sealed_results :
    ∃ result, validate sealEnv.validation sealing.validated sealing.validator svtFile.bytes =
        .ok [result] ∧ Processed result.toExtendedSigValResult := by
  obtain ⟨ctx, covers, hctx, hcovers⟩ := svtFile_context
  have henv : sealEnv.validation = fileEnv fileLoader.getSignatureDictionaries
      (DefaultPDFSignatureContext.ofDocument plainJvm strictGeneralSafeObjects fileLoader) := rfl
  have hlisted : sealEnv.validation.getSignatureDictionaries svtFile.bytes =
      .ok [signedDictionary, svtDictionary] := by
    rw [sealEnv_dictionaries, svtFile_signatures]
  have hcontextOf : sealEnv.validation.getPdfSignatureContext =
      DefaultPDFSignatureContext.ofDocument plainJvm strictGeneralSafeObjects fileLoader := rfl
  have hcontext : sealEnv.validation.getPdfSignatureContext svtFile.bytes = .ok ctx := by
    rw [hcontextOf, hctx]
  have hvalidator : sealing.validator.pdfsvtValidator = some trustingValidator := rfl
  rw [henv] at hlisted hcontext ⊢
  refine ⟨_, validate_svtFile hlisted hcontext hvalidator hcovers, ?_⟩
  unfold Processed svtResult
  simp

/-- No token is read from a signature without a timestamp. -/
theorem signedSvaTs_of_error {pdf : PdfEnv Cert} {svt : SvtEnv Cert} {v : PDFSVTValidator Cert}
    {doc : Bytes} {signature : PDSignature} {contents signedContent : Bytes}
    {certs : Cert × List Cert} {ex : Exn}
    (hcontents : pdf.getContents signature doc = .ok contents)
    (hcontent : pdf.getSignedContent signature doc = .ok signedContent)
    (hcerts : pdf.ts.extractCertificates contents signedContent = .ok certs)
    (htst : pdf.ts.getCmsSigTSTInfo contents = .error ex) :
    signedSvaTs pdf svt v doc signature = none := by
  have hnone : (TimeStamp.ofToken pdf.ts v.timeStampPolicyVerifier contents
      (some signedContent)).tstInfo = none := by
    unfold TimeStamp.ofToken TimeStamp.process Mutating.tryCatch
    simp only [Mutating.run_bind, Mutating.run_call, Mutating.run_modify, deref, hcerts, htst]
  unfold signedSvaTs ofSignature
  simp only [bind, Except.bind, hcontents, hcontent, hnone]
  rfl

theorem signedSvaTs_signature (v : PDFSVTValidator Nat) :
    signedSvaTs vouchedPdfEnv vouchedSvtEnv v svtFile.bytes signedDictionary = none := by
  have hne : ¬ svtCms <+: signedCms := by
    intro h
    have hlength := h.length_le
    rw [svtCms_length, signedCms_length] at hlength
    omega
  have hgetContents : vouchedPdfEnv.getContents = readContents := rfl
  have hgetContent : vouchedPdfEnv.getSignedContent = readSignedContent := rfl
  have hextract : vouchedPdfEnv.ts.extractCertificates = cmsCertificates := rfl
  have htstInfo : vouchedPdfEnv.ts.getCmsSigTSTInfo = tstInfoOf := rfl
  have hcontents := signed_contents []
  have hcontent := signed_content []
  rw [List.append_nil] at hcontents hcontent
  have htst : vouchedPdfEnv.ts.getCmsSigTSTInfo signedCms =
      .error ⟨.io, "Unable to parse TSTInfo data"⟩ := by
    rw [htstInfo]
    unfold tstInfoOf
    rw [if_neg hne]
  exact signedSvaTs_of_error (by rw [hgetContents, hcontents]) (by rw [hgetContent, hcontent])
    (by rw [hextract, cmsCertificates_signed]) htst

theorem signedSvaTs_svt :
    signedSvaTs vouchedPdfEnv vouchedSvtEnv trustingValidator svtFile.bytes svtDictionary =
      some signedTimestamp := by
  have hread := ofSignature_svt fileLoader.getSignatureDictionaries
    (DefaultPDFSignatureContext.ofDocument plainJvm strictGeneralSafeObjects fileLoader) []
  have hpdf : (fileEnv fileLoader.getSignatureDictionaries (DefaultPDFSignatureContext.ofDocument
      plainJvm strictGeneralSafeObjects fileLoader)).pdf = vouchedPdfEnv := rfl
  have hsvt : (fileEnv fileLoader.getSignatureDictionaries (DefaultPDFSignatureContext.ofDocument
      plainJvm strictGeneralSafeObjects fileLoader)).svt = vouchedSvtEnv := rfl
  rw [hpdf, hsvt, List.append_nil] at hread
  unfold signedSvaTs
  rw [hread]
  rfl

theorem svtText_ne : svtText.length ≠ 0 := by
  have hdot : ".".toUTF8.data.toList = [0x2e] := by decide
  unfold svtText svtBytes ofText
  rw [String.length_ofList, List.length_map, List.length_append, List.flatMap_cons, hdot]
  simp

theorem createSVTSealedPDF_of_calls {pdfBox : PDFBox D} {getEncoded : Cert → Outcome Bytes}
    {doc output : Bytes} {svt : String} {signer : DefaultPDFDocTimestampSignatureInterface Cert}
    {loaded : D} (hloaded : pdfBox.loadPDF doc = .ok loaded)
    (hadded : ∀ size, pdfBox.addSignature loaded subfilterEtsiRfc3161 size = .ok loaded)
    (hsaved : pdfBox.saveIncremental loaded (signer.sign (some svt)) = .ok output) :
    ∃ result, PDFDocTimstampProcessor.createSVTSealedPDF pdfBox getEncoded doc (some svt)
        signer = .ok result ∧ result.document = output := by
  obtain ⟨size, hsize⟩ : ∃ size, PDFDocTimstampProcessor.getLengthestimate getEncoded
      signer.certificates (some svt) = .ok size := ⟨_, rfl⟩
  unfold PDFDocTimstampProcessor.createSVTSealedPDF
  simp only [bind, Except.bind, hloaded, hsize, hadded, hsaved]
  exact ⟨_, rfl, rfl⟩

theorem sign_of_generate {signer : DefaultPDFDocTimestampSignatureInterface Cert} {svt : String}
    {content token : Bytes} (hne : svt.length ≠ 0)
    (hgenerate : signer.generate svt content = .ok token) :
    signer.sign (some svt) content = .ok token := by
  unfold DefaultPDFDocTimestampSignatureInterface.sign
  dsimp only
  rw [if_neg hne, hgenerate]
  rfl

/-- The update that the timestamp is written in. -/
theorem sealing_document :
    ∃ result, PDFDocTimstampProcessor.createSVTSealedPDF sealEnv.pdfBox
        sealEnv.claims.getEncoded signedFile.bytes (some svtText) sealing.signer = .ok result ∧
      result.document = svtFile.bytes := by
  have hloadPDF : sealEnv.pdfBox.loadPDF = fun pdfBytes =>
      if pdfBytes = signedFile.bytes then .ok pdfBytes
      else .error ⟨.io, "Error: End-of-File, expected line"⟩ := rfl
  have haddSignature : sealEnv.pdfBox.addSignature = fun pdfBytes subFilter _ =>
      if subFilter = subfilterEtsiRfc3161 then .ok pdfBytes
      else .error ⟨.io, "no timestamp"⟩ := rfl
  have hsaveIncremental : sealEnv.pdfBox.saveIncremental = fun _ sign => (do
      let token ← sign svtFile.content
      if token = svtCms then pure svtFile.bytes
      else throw ⟨.io, "Can't write signature, not enough space"⟩) := rfl
  have hgenerate : sealing.signer.generate = fun svt content =>
      if svt = svtText ∧ content = svtFile.content then .ok svtCms
      else .error ⟨.runtime, "no token"⟩ := rfl
  have hsign : sealing.signer.sign (some svtText) svtFile.content = .ok svtCms := by
    refine sign_of_generate svtText_ne ?_
    rw [hgenerate]
    dsimp only
    rw [if_pos ⟨rfl, rfl⟩]
  have hloaded : sealEnv.pdfBox.loadPDF signedFile.bytes = .ok signedFile.bytes := by
    rw [hloadPDF]
    dsimp only
    rw [if_pos rfl]
  have hadded (size : Int) : sealEnv.pdfBox.addSignature signedFile.bytes subfilterEtsiRfc3161
      size = .ok signedFile.bytes := by
    rw [haddSignature]
    dsimp only
    rw [if_pos rfl]
  have hsaved : sealEnv.pdfBox.saveIncremental signedFile.bytes
      (sealing.signer.sign (some svtText)) = .ok svtFile.bytes := by
    rw [hsaveIncremental]
    dsimp only
    rw [hsign]
    simp only [bind, Except.bind, if_true, pure, Except.pure]
  exact createSVTSealedPDF_of_calls hloaded hadded hsaved

theorem sealing_token :
    sealing.getSignedSvtJWT sealEnv.toPdfIssuerEnv signedFile.bytes = .ok (some svtToken) := by
  obtain ⟨entry, hentry, hclaims⟩ := sealing_entry
  have hverify := verify_single sealing_results hentry
  have htoken : issuedToken "ES256" DigestAlgorithm.idSHA256 [entry] = svtToken := by
    unfold issuedToken
    rw [List.map_singleton, hclaims]
    rfl
  have hissued : sealing.getSignedSvtJWT sealEnv.toPdfIssuerEnv signedFile.bytes = (do
      let claims ← (do
        let claims ← verify sealEnv.toPdfIssuerEnv sealing.issued sealing.claimsIssuer
          signedFile.bytes DigestAlgorithm.idSHA256
        pure (some claims))
      pure (claims.map (issuedToken "ES256" DigestAlgorithm.idSHA256))) := rfl
  rw [hissued, hverify, ← htoken]
  rfl

theorem sealEnv_tstInfo : sealEnv.validation.pdf.ts.getCmsSigTSTInfo = tstInfoOf := rfl

theorem sealEnv_serialized : sealEnv.serialize svtToken = svtText := by
  have hserialize : sealEnv.serialize = fun jwt =>
      if jwt = svtToken then svtText else "another token" := rfl
  rw [hserialize]
  exact if_pos rfl

theorem sealEnv_parse : sealEnv.validation.svt.parse = parseToken := rfl

theorem sealing_distinct :
    DistinctValues sealEnv.toPdfIssuerEnv signedFile.bytes DigestAlgorithm.idSHA256 := by
  intro all md hall hmd signature hsignature other hother value otherValue _ _ _
  rw [sealEnv_dictionaries, signedFile_signatures] at hall
  cases hall
  cases List.mem_singleton.mp (List.mem_of_mem_filter hsignature)
  cases List.mem_singleton.mp (List.mem_of_mem_filter hother)
  rfl

theorem sealing_carried : sealing.signer.Lawful sealEnv.validation := by
  intro svt content token h
  have hgenerate : (if svt = svtText ∧ content = svtFile.content then .ok svtCms
      else .error ⟨.runtime, "no token"⟩ : Outcome Bytes) = .ok token := h
  rw [sealEnv_tstInfo]
  split at hgenerate
  · rename_i hasked
    cases hgenerate
    rw [hasked.1]
    refine ⟨svtTstInfo, rfl, fun padding => ?_⟩
    unfold tstInfoOf
    rw [if_pos (List.prefix_append _ _)]
  · cases hgenerate

theorem sealing_newest (others : List PDSignature) (dictionary : PDSignature)
    (h : sealEnv.validation.getSignatureDictionaries svtFile.bytes =
      .ok (others ++ [dictionary])) :
    Newest sealEnv.validation trustingValidator svtFile.bytes others dictionary := by
  have hpdf : sealEnv.validation.pdf = vouchedPdfEnv := rfl
  have hsvt : sealEnv.validation.svt = vouchedSvtEnv := rfl
  rw [sealEnv_dictionaries, svtFile_signatures] at h
  have hlisted : [signedDictionary] ++ [svtDictionary] = others ++ [dictionary] :=
    Except.ok.inj h
  obtain ⟨rfl, hlast⟩ := List.append_inj' hlisted rfl
  cases hlast
  unfold Newest
  rw [hpdf, hsvt]
  refine ⟨signedTimestamp, 1795100401000, signedSvaTs_svt, rfl, ?_⟩
  intro other hother older holder
  rw [List.mem_singleton.mp hother, signedSvaTs_signature] at holder
  cases holder

theorem sealing_covers : sealing.Covers sealEnv ⟨signedFile.bytes, [sealedResult]⟩ svtToken := by
  have hdigest : sealEnv.validation.messageDigest = fun _ => textDigest := rfl
  have hinstance : sealEnv.claims.getMessageDigestInstance sealing.svtIssuer.hashAlgoUri =
      .ok digest256 := fileClaims_sha256
  refine ⟨?_, sealing_distinct, ⟨_, rfl⟩, ?_, ⟨_, rfl⟩⟩
  · intro sigResult hmem
    rw [List.mem_singleton.mp hmem]
    exact buildable_signedFile fileClaims_sha256 _
  · intro md hmd bytes
    cases hinstance.symm.trans hmd
    rw [hdigest]
    rfl

theorem sealing_taken {after : Version Nat} (hdocument : after.document = svtFile.bytes) :
    sealing.Taken sealEnv svtToken after := by
  have hparsed : sealEnv.validation.svt.parse (sealEnv.serialize svtToken) = .ok svtToken := by
    rw [sealEnv_serialized, sealEnv_parse, parseToken_svt]
  refine ⟨sealing_carried, hparsed, ⟨trustingValidator, rfl, ?_⟩⟩
  rw [hdocument]
  exact sealing_newest

theorem sealing_applied {result : ExtendedPdfSigValResult Nat}
    (hresult : validate sealEnv.validation sealing.validated sealing.validator svtFile.bytes =
      .ok [result]) :
    sealing.Applied sealEnv ⟨signedFile.bytes, [sealedResult]⟩ svtToken
      ⟨svtFile.bytes, [result]⟩ where
  before_ok := sealing_results
  jwt_ok := sealing_token
  document_ok := by
    rw [sealEnv_serialized]
    exact sealing_document
  after_ok := hresult

theorem sealed_verdicts_last_once :
    ∃ last, Trace (Sealed sealEnv) ⟨signedFile.bytes, [sealedResult]⟩ [svtToken]
        ⟨svtFile.bytes, [last]⟩ ∧
      Outlasts sealedResult [svtToken] last ∧
      (getConcludingSigVerifyResult [last]).completeSuccess = true := by
  obtain ⟨last, hlast, hprocessed⟩ := sealed_results
  have hrun : Trace (Sealed sealEnv) ⟨signedFile.bytes, [sealedResult]⟩ [svtToken]
      ⟨svtFile.bytes, [last]⟩ :=
    .step ⟨sealing, sealing_applied hlast, sealing_covers, sealing_taken rfl⟩ (.refl _)
  have hsound : Sound sealEnv.validation signedFile.bytes [signedDictionary] := by
    refine ⟨by rw [sealEnv_dictionaries, signedFile_signatures], ?_, ?_⟩
    · intro signature hmem
      cases List.mem_singleton.mp hmem
      rw [signedFile_length]
      refine ⟨⟨?_, ?_, ?_⟩, ?_⟩
      · rintro b hb
        cases hb
        decide
      · rintro b c hb hc
        cases hb
        cases hc
        decide
      · rintro b hb
        cases hb
        decide
      · rintro e he
        cases he
        decide
    · intro signature hmem
      cases List.mem_singleton.mp hmem
      exact ⟨.SIGNATURE_TYPE, typeOf_signedFile⟩
  obtain ⟨houtlasts, hverdict⟩ := sealed_verdicts_last sealEnv_lawful hsound (by simp) hrun (by
    intro result hmem hnone
    cases List.mem_singleton.mp hmem
    cases hnone)
  refine ⟨last, hrun, ?_, ?_⟩
  · cases houtlasts with
    | cons hone _ => exact hone
  · refine hverdict.mpr ⟨by simp, ?_, ?_⟩
    · intro result hmem
      cases List.mem_singleton.mp hmem
      exact ⟨_, rfl, _, List.mem_singleton_self _, rfl⟩
    · intro result hmem
      cases List.mem_singleton.mp hmem
      exact hprocessed

end Demo

end SigVal.Pdf
