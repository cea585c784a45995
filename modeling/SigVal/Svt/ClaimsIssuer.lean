import SigVal.Commons.SigValResult

/-!
# Issuing claims about a signature

`AbstractSVTSigValClaimsIssuer` has what the claims issuers of the three formats
share: the reference to the signer's certificates, the results of the signature
policies and the verified times. `SVTUtils` is the gate between the claims and the
issued token. It asks whether all policy results of all signatures passed, which is
true when there are none.
-/

namespace SigVal.Svt

open SigVal.Java SigVal.Cert SigVal.Commons

variable {Cert TS : Type}

/-! ## Claims -/

/-- `CertReferenceClaims.CertRefType`. -/
inductive CertRefType where
  | chain
  | chain_hash
deriving DecidableEq, Repr

structure CertReferenceClaims where
  type : CertRefType
  ref : List String
deriving DecidableEq, Repr

/-- `SignatureClaims` as an issuer builds them. -/
structure IssuedSignatureClaims where
  sigRef : SigReferenceClaims
  sigVal : List PolicyValidationClaims
  sigDataRef : List SignedDataClaims
  timeVal : List TimeValidationClaims
  signerCertRef : CertReferenceClaims
deriving DecidableEq, Repr

/-- What a reader of the token gets to see of them. -/
def IssuedSignatureClaims.toSignatureClaims (claims : IssuedSignatureClaims) : SignatureClaims where
  sigRef := claims.sigRef
  sigDataRef := claims.sigDataRef
  sigVal := some claims.sigVal
  timeVal := some claims.timeVal

/-- The libraries of an issuer. -/
structure ClaimsIssuerEnv (Cert TS : Type) where
  /-- `SVTAlgoRegistry.getMessageDigestInstance`. -/
  getMessageDigestInstance : String → Outcome (Bytes → Bytes)
  encodeBase64String : Bytes → String
  getEncoded : Cert → Outcome Bytes
  registry : DigestRegistry
  /-- `DigestAlgorithm.getInstance`. -/
  getInstance : DigestAlgorithm → Outcome (Bytes → Bytes)
  getTimeStampSigBytes : TS → Option Bytes

/-! ## `AbstractSVTSigValClaimsIssuer` -/

namespace AbstractSVTSigValClaimsIssuer

def getB64Hash (env : ClaimsIssuerEnv Cert TS) (bytes : Bytes) (hashAlgoUri : String) :
    Outcome String := do
  let md ← env.getMessageDigestInstance hashAlgoUri
  pure (env.encodeBase64String (md bytes))

/-- A path that is `null` or empty does not match, before the other list is looked
at. -/
def isCertPathMatch [DecidableEq Cert] (validatedCertificatePath : List Cert)
    (signatureCertificateChain : Option (List Cert)) : Outcome Bool :=
  match validatedCertificatePath with
  | [] => pure false
  | path => do
      let signatureCertificateChain ← deref signatureCertificateChain
      pure (path.all fun validatedCert => signatureCertificateChain.contains validatedCert)

def getCertRef [DecidableEq Cert] (env : ClaimsIssuerEnv Cert TS)
    (sigResult : ExtendedSigValResult Cert TS) (hashAlgoUri : String) :
    Outcome CertReferenceClaims := do
  let certificateValidationResult ←
    rethrowAs .io "Unable to obtain the required certificate validation result object"
      (deref sigResult.certificateValidationResult)
  let validatedCertificatePath := certificateValidationResult.getValidatedCertificatePath.getD []
  let isMatch ← isCertPathMatch validatedCertificatePath sigResult.signatureCertificateChain
  let md ← env.getMessageDigestInstance hashAlgoUri
  match validatedCertificatePath with
  | [] => do
      let signerCertificate ← deref sigResult.signerCertificate
      let encoded ← env.getEncoded signerCertificate
      pure ⟨.chain_hash, [env.encodeBase64String (md encoded)]⟩
  | path => do
      let b64Chain ← path.mapM fun chainCert => do
        let encoded ← env.getEncoded chainCert
        pure (env.encodeBase64String (if isMatch then md encoded else encoded))
      pure ⟨if isMatch then .chain_hash else .chain, b64Chain⟩

def isVerifiedTime : Option TimeValidationClaims → Bool
  | none => false
  | some timeValidationClaims =>
      timeValidationClaims.val.any fun validation => validation.res == .PASSED

/-- `getSignaturePolicyValidations`. Only with `defaultBasicValidation` a signature
without policy results is given one. -/
def getSignaturePolicyValidations (defaultBasicValidation : Bool)
    (sigResult : ExtendedSigValResult Cert TS) : Outcome (List PolicyValidationClaims) := do
  let pvList ← deref sigResult.validationPolicyResultList
  if pvList.isEmpty && defaultBasicValidation then
    pure [⟨sigValidationPolicyBasicValidation,
      if sigResult.isSuccess then .PASSED else .FAILED, none⟩]
  else pure pvList

/-- The hash of a timestamp. An algorithm that is not supported leaves it out. -/
def timeStampHash (env : ClaimsIssuerEnv Cert TS) (timeStamp : TS) (hashAlgoUri : String) :
    Outcome (Option String) :=
  let instance? : Outcome (Bytes → Bytes) := do
    let digestAlgorithm ← DigestAlgorithmRegistry.get env.registry (some hashAlgoUri)
    env.getInstance digestAlgorithm
  match instance? with
  | .ok digest => do
      let timeStampSigBytes ← deref (env.getTimeStampSigBytes timeStamp)
      pure (some (env.encodeBase64String (digest timeStampSigBytes)))
  | .error ex => if ex.cls = .noSuchAlgorithm then .ok none else .error ex

/-- `extractTimeValClaims`, `null` when there are no claims to extract. Without a timestamp
object, or under an algorithm that is not supported, the claims are what they were. -/
def extractTimeValClaims (env : ClaimsIssuerEnv Cert TS)
    (timeValidationResult : TimeValidationResult Cert TS) (hashAlgoUri : String) :
    Outcome (Option TimeValidationClaims) :=
  match timeValidationResult.timeStamp with
  | none => pure timeValidationResult.timeValidationClaims
  | some timeStamp => do
      match ← timeStampHash env timeStamp hashAlgoUri with
      | none => pure timeValidationResult.timeValidationClaims
      | some hash => do
          let claims ← deref timeValidationResult.timeValidationClaims
          pure (some { claims with hash := some hash })

/-- The `time_val` claim: the times that were verified. -/
def timeVal (env : ClaimsIssuerEnv Cert TS) (sigResult : ExtendedSigValResult Cert TS)
    (hashAlgoUri : String) : Outcome (List TimeValidationClaims) := do
  let timeValidationResults ← deref sigResult.timeValidationResults
  let extracted ← timeValidationResults.mapM fun timeValidationResult =>
    extractTimeValClaims env timeValidationResult hashAlgoUri
  pure ((extracted.filter isVerifiedTime).filterMap id)

/-! ## When the parts can be computed -/

section Computable

variable {env : ClaimsIssuerEnv Cert TS} {sigResult : ExtendedSigValResult Cert TS}
  {hashAlgoUri : String}

theorem getB64Hash_ok_iff {bytes : Bytes} :
    (∃ hash, getB64Hash env bytes hashAlgoUri = .ok hash) ↔
      ∃ md, env.getMessageDigestInstance hashAlgoUri = .ok md := by
  simp only [getB64Hash, exists_bind_ok_iff, exists_pure_ok, and_true]

theorem getSignaturePolicyValidations_ok_iff {defaultBasicValidation : Bool} :
    (∃ sigVal, getSignaturePolicyValidations defaultBasicValidation sigResult = .ok sigVal) ↔
      ∃ pvList, sigResult.validationPolicyResultList = some pvList := by
  simp only [getSignaturePolicyValidations, exists_bind_ok_iff, deref_ok_iff]
  apply exists_congr
  intro pvList
  split
  · simp
  · simp

/-- The hash of the timestamp can be put into claims, or is left out. -/
def TimeExtractable (env : ClaimsIssuerEnv Cert TS) (hashAlgoUri : String)
    (timeValidationResult : TimeValidationResult Cert TS) : Prop :=
  ∀ timeStamp, timeValidationResult.timeStamp = some timeStamp →
    timeStampHash env timeStamp hashAlgoUri = .ok none ∨
      (∃ hash, timeStampHash env timeStamp hashAlgoUri = .ok (some hash)) ∧
        ∃ claims, timeValidationResult.timeValidationClaims = some claims

theorem extractTimeValClaims_ok_iff {timeValidationResult : TimeValidationResult Cert TS} :
    (∃ claims, extractTimeValClaims env timeValidationResult hashAlgoUri = .ok claims) ↔
      TimeExtractable env hashAlgoUri timeValidationResult := by
  unfold extractTimeValClaims TimeExtractable
  cases timeValidationResult.timeStamp with
  | none => simp
  | some timeStamp =>
      simp only [exists_bind_ok_iff, Option.some.injEq, forall_eq']
      cases timeStampHash env timeStamp hashAlgoUri with
      | error ex => simp
      | ok hash =>
          cases hash with
          | none => simp
          | some hash =>
              simp only [Except.ok.injEq, exists_eq_left', exists_bind_ok_iff, deref_ok_iff,
                exists_pure_ok, and_true]
              simp

theorem timeVal_ok_iff :
    (∃ claims, timeVal env sigResult hashAlgoUri = .ok claims) ↔
      ∃ timeValidationResults, sigResult.timeValidationResults = some timeValidationResults ∧
        ∀ t ∈ timeValidationResults, TimeExtractable env hashAlgoUri t := by
  simp only [timeVal, exists_bind_ok_iff, deref_ok_iff]
  refine exists_congr fun timeValidationResults => and_congr_right fun _ => ?_
  have hmapM := exists_mapM_ok_iff (f := fun t => extractTimeValClaims env t hashAlgoUri)
    (l := timeValidationResults)
  simp only [extractTimeValClaims_ok_iff] at hmapM
  simpa using hmapM

/-- The certificates that are referred to: the validated path, which is compared with
the certificates of the signature, or the signer's certificate without one. -/
def CertsReferable (env : ClaimsIssuerEnv Cert TS) (sigResult : ExtendedSigValResult Cert TS) :
    List Cert → Prop
  | [] => ∃ signerCertificate, sigResult.signerCertificate = some signerCertificate ∧
      ∃ encoded, env.getEncoded signerCertificate = .ok encoded
  | path => (∃ chain, sigResult.signatureCertificateChain = some chain) ∧
      ∀ cert ∈ path, ∃ encoded, env.getEncoded cert = .ok encoded

theorem getCertRef_ok_iff [DecidableEq Cert] :
    (∃ certRef, getCertRef env sigResult hashAlgoUri = .ok certRef) ↔
      (∃ md, env.getMessageDigestInstance hashAlgoUri = .ok md) ∧
        ∃ result, sigResult.certificateValidationResult = some result ∧
          CertsReferable env sigResult (result.getValidatedCertificatePath.getD []) := by
  unfold getCertRef
  simp only [exists_bind_ok_iff, rethrowAs_ok_iff, deref_ok_iff]
  constructor
  · rintro ⟨result, hresult, isMatch, hmatch, md, hmd, hok⟩
    refine ⟨⟨md, hmd⟩, result, hresult, ?_⟩
    cases hpath : result.getValidatedCertificatePath.getD [] with
    | nil =>
        simp only [hpath, exists_bind_ok_iff, deref_ok_iff] at hok
        obtain ⟨signer, hsigner, encoded, hencoded, -⟩ := hok
        exact ⟨signer, hsigner, encoded, hencoded⟩
    | cons cert rest =>
        rw [hpath] at hmatch
        obtain ⟨chain, hchain, -⟩ := bind_ok_iff.mp hmatch
        simp only [hpath, exists_bind_ok_iff] at hok
        obtain ⟨b64Chain, hmapM, -⟩ := hok
        refine ⟨⟨chain, deref_ok_iff.mp hchain⟩, ?_⟩
        intro c hc
        obtain ⟨b, hb⟩ := exists_mapM_ok_iff.mp ⟨b64Chain, hmapM⟩ c hc
        obtain ⟨encoded, hencoded, -⟩ := bind_ok_iff.mp hb
        exact ⟨encoded, hencoded⟩
  · rintro ⟨⟨md, hmd⟩, result, hresult, hrefer⟩
    refine ⟨result, hresult, ?_⟩
    cases hpath : result.getValidatedCertificatePath.getD [] with
    | nil =>
        rw [hpath] at hrefer
        obtain ⟨signer, hsigner, encoded, hencoded⟩ := hrefer
        refine ⟨false, rfl, md, hmd, ?_⟩
        simp [exists_bind_ok_iff, hsigner, hencoded]
    | cons cert rest =>
        rw [hpath] at hrefer
        obtain ⟨⟨chain, hchain⟩, hencode⟩ := hrefer
        have hmatch : isCertPathMatch (cert :: rest) sigResult.signatureCertificateChain =
            .ok ((cert :: rest).all fun c => chain.contains c) := by
          rw [hchain]
          rfl
        refine ⟨_, hmatch, md, hmd, ?_⟩
        have hmapM : ∀ isMatch : Bool, ∃ b64Chain, ((cert :: rest).mapM fun chainCert => do
            let encoded ← env.getEncoded chainCert
            pure (env.encodeBase64String (if isMatch then md encoded else encoded))) =
              .ok b64Chain := by
          intro isMatch
          apply exists_mapM_ok_iff.mpr
          intro c hc
          obtain ⟨encoded, hencoded⟩ := hencode c hc
          exact exists_bind_ok_iff.mpr ⟨encoded, hencoded, exists_pure_ok _⟩
        obtain ⟨b64Chain, hb64⟩ := hmapM ((cert :: rest).all fun c => chain.contains c)
        exact exists_bind_ok_iff.mpr ⟨b64Chain, hb64, exists_pure_ok _⟩

end Computable

end AbstractSVTSigValClaimsIssuer

/-! ## `SVTUtils` -/

namespace SVTUtils

/-- `Stream.allMatch`, which stops at the first element that does not match. -/
def allMatch {α : Type} (p : α → Outcome Bool) : List α → Outcome Bool
  | [] => .ok true
  | a :: rest =>
      match p a with
      | .ok true => allMatch p rest
      | .ok false => .ok false
      | .error ex => .error ex

/-- The inner match of `checkValidatedSignatures`. -/
def policiesPassed (signatureClaims : SignatureClaims) : Outcome Bool := do
  let sigVal ← deref signatureClaims.sigVal
  pure (sigVal.all fun policyValidationClaims => policyValidationClaims.res == .PASSED)

def checkValidatedSignatures (signedSvtJWT : Option SignedJWT) : Outcome Bool :=
  match signedSvtJWT with
  | none => .ok false
  | some signedSvtJWT => do
      let claimsSet ← signedSvtJWT.getJWTClaimsSet
      let svtClaims ← deref claimsSet.sigValClaims
      let sig ← deref svtClaims.sig
      allMatch policiesPassed sig

def checkIfSVTShouldBeIssued (signedSvtJWT : Option SignedJWT)
    (issueSvtOnFailedValidation : Bool) : Outcome Bool :=
  match signedSvtJWT with
  | none => .ok false
  | some signedSvtJWT => do
      let allValidSignatures ← checkValidatedSignatures (some signedSvtJWT)
      if allValidSignatures then pure true
      else if issueSvtOnFailedValidation then pure true
      else pure false

/-! ## What the gate asks -/

/-- The signature entries of a token. -/
def Entries (jwt : SignedJWT) (sig : List SignatureClaims) : Prop :=
  ∃ claimsSet svtClaims, jwt.claimsSet = some claimsSet ∧
    claimsSet.sigValClaims = some svtClaims ∧ svtClaims.sig = some sig

/-- The entry has a policy result that did not pass, or no list of them. -/
def NotAllPassed (claims : SignatureClaims) : Prop :=
  claims.sigVal = none ∨ ∃ sigVal, claims.sigVal = some sigVal ∧ ∃ p ∈ sigVal, p.res ≠ .PASSED

theorem Entries.unique {jwt : SignedJWT} {sig sig' : List SignatureClaims} (h : Entries jwt sig)
    (h' : Entries jwt sig') : sig = sig' := by
  obtain ⟨claimsSet, svtClaims, hclaimsSet, hsvt, hsig⟩ := h
  obtain ⟨claimsSet', svtClaims', hclaimsSet', hsvt', hsig'⟩ := h'
  rw [hclaimsSet] at hclaimsSet'
  cases hclaimsSet'
  rw [hsvt] at hsvt'
  cases hsvt'
  rw [hsig] at hsig'
  cases hsig'
  rfl

theorem allMatch_true_iff {α : Type} {p : α → Outcome Bool} {l : List α} :
    allMatch p l = .ok true ↔ ∀ a ∈ l, p a = .ok true := by
  induction l with
  | nil => simp [allMatch]
  | cons a rest ih =>
      rw [List.forall_mem_cons, ← ih]
      cases hp : p a with
      | error ex => simp [allMatch, hp]
      | ok b =>
          cases b with
          | true => simp [allMatch, hp]
          | false => simp [allMatch, hp]

theorem policiesPassed_true_iff {claims : SignatureClaims} :
    policiesPassed claims = .ok true ↔ ¬ NotAllPassed claims := by
  unfold policiesPassed NotAllPassed
  cases claims.sigVal with
  | none => simp [deref, bind, Except.bind]
  | some sigVal => simp [deref, bind, Except.bind, pure, Except.pure]

/-- The gate opens when no entry has a policy result that did not pass. -/
theorem checkValidatedSignatures_true_iff {jwt : SignedJWT} :
    checkValidatedSignatures (some jwt) = .ok true ↔
      ∃ sig, Entries jwt sig ∧ ∀ claims ∈ sig, ¬ NotAllPassed claims := by
  unfold checkValidatedSignatures Entries
  simp only [bind_ok_iff, SignedJWT.getJWTClaimsSet_ok_iff, deref_ok_iff, allMatch_true_iff]
  constructor
  · rintro ⟨claimsSet, hclaimsSet, svtClaims, hsvt, sig, hsig, hall⟩
    exact ⟨sig, ⟨claimsSet, svtClaims, hclaimsSet, hsvt, hsig⟩,
      fun claims hmem => policiesPassed_true_iff.mp (hall claims hmem)⟩
  · rintro ⟨sig, ⟨claimsSet, svtClaims, hclaimsSet, hsvt, hsig⟩, hall⟩
    exact ⟨claimsSet, hclaimsSet, svtClaims, hsvt, sig, hsig,
      fun claims hmem => policiesPassed_true_iff.mpr (hall claims hmem)⟩

theorem checkIfSVTShouldBeIssued_false_iff {jwt : SignedJWT} :
    checkIfSVTShouldBeIssued (some jwt) false = .ok true ↔
      checkValidatedSignatures (some jwt) = .ok true := by
  unfold checkIfSVTShouldBeIssued
  dsimp only
  cases checkValidatedSignatures (some jwt) with
  | error ex => simp [bind, Except.bind]
  | ok b =>
      cases b with
      | true => simp [bind, Except.bind, pure, Except.pure]
      | false => simp [bind, Except.bind, pure, Except.pure]

/-- There are signature entries, and each one has policy results that all passed. -/
def AllValidated (jwt : SignedJWT) : Prop :=
  ∃ sig, Entries jwt sig ∧ sig ≠ [] ∧ ∀ claims ∈ sig, ∃ sigVal, claims.sigVal = some sigVal ∧
    sigVal ≠ [] ∧ ∀ p ∈ sigVal, p.res = .PASSED

/-- The gate opens for validated signatures only, on both methods. -/
def GateSound (jwt : SignedJWT) : Prop :=
  (checkIfSVTShouldBeIssued (some jwt) false = .ok true ↔
      checkValidatedSignatures (some jwt) = .ok true) ∧
    (checkValidatedSignatures (some jwt) = .ok true → AllValidated jwt)

/-- Nothing is asked of no one: there is an entry, and no entry has an empty list of
policy results, unless a result that did not pass closes the gate anyway. -/
def NotVacuous (jwt : SignedJWT) : Prop :=
  ∀ sig, Entries jwt sig →
    (sig ≠ [] ∧ ∀ claims ∈ sig, claims.sigVal ≠ some []) ∨ ∃ claims ∈ sig, NotAllPassed claims

/-- Policy results that are there and did not fail passed. -/
theorem passed_of_not_notAllPassed {claims : SignatureClaims} (h : ¬ NotAllPassed claims) :
    ∃ sigVal, claims.sigVal = some sigVal ∧ ∀ p ∈ sigVal, p.res = .PASSED := by
  unfold NotAllPassed at h
  push Not at h
  obtain ⟨hsome, hall⟩ := h
  obtain ⟨sigVal, hsigVal⟩ := Option.ne_none_iff_exists'.mp hsome
  exact ⟨sigVal, hsigVal, hall sigVal hsigVal⟩

theorem gateSound_iff {jwt : SignedJWT} : GateSound jwt ↔ NotVacuous jwt := by
  unfold GateSound
  rw [and_iff_right checkIfSVTShouldBeIssued_false_iff, checkValidatedSignatures_true_iff]
  constructor
  · intro h sig hentries
    by_cases hfailed : ∃ claims ∈ sig, NotAllPassed claims
    · exact Or.inr hfailed
    · push Not at hfailed
      obtain ⟨sig', hentries', hne, hall⟩ := h ⟨sig, hentries, hfailed⟩
      rw [hentries'.unique hentries] at hne hall
      refine Or.inl ⟨hne, ?_⟩
      intro claims hmem hnil
      obtain ⟨sigVal, hsigVal, hsome, -⟩ := hall claims hmem
      rw [hnil] at hsigVal
      cases hsigVal
      exact hsome rfl
  · rintro h ⟨sig, hentries, hpassed⟩
    rcases h sig hentries with ⟨hne, hnonempty⟩ | ⟨claims, hmem, hfailed⟩
    · refine ⟨sig, hentries, hne, ?_⟩
      intro claims hmem
      obtain ⟨sigVal, hsigVal, hall⟩ := passed_of_not_notAllPassed (hpassed claims hmem)
      refine ⟨sigVal, hsigVal, ?_, hall⟩
      rintro rfl
      exact hnonempty claims hmem hsigVal
    · exact absurd hfailed (hpassed claims hmem)

end SVTUtils

end SigVal.Svt
