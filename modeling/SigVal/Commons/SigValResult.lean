import SigVal.Commons.TimeStamp
import SigVal.Commons.SVAUtils

/-!
# Results of signature validation

`ExtendedSigValResult`, the object a validator fills in, and the steps that the
validators of the three formats write out alike: taking over the outcome of path
validation, collecting verified times, copying the verdict of the policy, and
building the result from a validated SVT.

The public key parameters of the result are not kept, since nothing reads them
back; computing them can throw, and that is kept.
-/

namespace SigVal.Commons

open SigVal.Java SigVal.Cert

variable {Cert TS : Type}

/-- `ExtendedSigValResult`, with the initial values of its fields. -/
structure ExtendedSigValResult (Cert TS : Type) where
  status : Status := .INTERDETERMINE
  statusMessage : Option String := none
  exception : Option Exn := none
  signerCertificate : Option Cert := none
  signatureCertificateChain : Option (List Cert) := none
  signatureAlgorithm : Option String := none
  certificateValidationResult : Option (CertificateValidationResult Cert) := none
  coversDocument : Bool := false
  signedDocument : Option Bytes := none
  etsiAdes : Bool := false
  invalidSignCert : Bool := false
  claimedSigningTime : Option Date := none
  validationPolicyResultList : Option (List PolicyValidationClaims) := some []
  timeValidationResults : Option (List (TimeValidationResult Cert TS)) := some []
  signatureClaims : Option SignatureClaims := none
  svtJWT : Option SignedJWT := none
deriving DecidableEq, Repr

/-- `CertificateValidator.validate` on a signer certificate and the
certificates that came with it. -/
abbrev CertificateValidator (Cert : Type) :=
  Option Cert → Option (List Cert) → PathOutcome Cert

namespace ExtendedSigValResult

def isSuccess (result : ExtendedSigValResult Cert TS) : Bool := result.status == .SUCCESS

def setError (status : Status) (statusMessage : String) (exception : Option Exn)
    (result : ExtendedSigValResult Cert TS) : ExtendedSigValResult Cert TS :=
  { result with
    status := status
    statusMessage := some statusMessage
    exception := exception }

/-- The validated path of the certificate result, `null` and empty alike. -/
def pathOf (result : ExtendedSigValResult Cert TS) : List Cert :=
  ((result.certificateValidationResult.bind (·.getValidatedCertificatePath)).getD [])

/-! ## Path validation in the XML and JOSE validators -/

/-- What is taken over from path validation. An exception that carries a path
leaves no trace but its result. -/
def takePathOutcome (outcome : PathOutcome Cert) (result : ExtendedSigValResult Cert TS) :
    ExtendedSigValResult Cert TS :=
  match outcome with
  | .ok validatorResult => { result with certificateValidationResult := some validatorResult }
  | .error (.extended message pathResult) =>
      let result := { result with certificateValidationResult := some (.pathValidation pathResult) }
      if (pathResult.validatedCertificatePath.getD []).isEmpty then
        result.setError .ERROR_NOT_TRUSTED message (some ⟨.certPathValidator, message⟩)
      else result
  | .error (.other ex) =>
      if ex.cls = .certPathBuilder then
        result.setError .ERROR_NOT_TRUSTED
          ("Failed to build a path to a trusted root for signer certificate - " ++ ex.msg) (some ex)
      else
        result.setError .ERROR_SIGNER_INVALID
          ("Certificate path validation failure for signer certificate - " ++ ex.msg) (some ex)

/-- Path validation is made for a signature that verified, when there is a
certificate validator. -/
def validatePath (certificateValidator : Option (CertificateValidator Cert))
    (result : ExtendedSigValResult Cert TS) : ExtendedSigValResult Cert TS :=
  match certificateValidator with
  | some validate =>
      if result.isSuccess then
        takePathOutcome (validate result.signerCertificate result.signatureCertificateChain) result
      else result
  | none => result

/-- The copy of the verdict: a policy that passed leaves the status alone. -/
def takePolicyResult (policyValidationResult : PolicyValidationResult)
    (result : ExtendedSigValResult Cert TS) : ExtendedSigValResult Cert TS :=
  let claims := policyValidationResult.policyValidationClaims
  let result :=
    if claims.res ≠ .PASSED then
      { result with
        status := policyValidationResult.status
        statusMessage := claims.msg
        exception := some ⟨.signature, claims.msg.getD "null"⟩ }
    else result
  { result with validationPolicyResultList := some [claims] }

/-! ## Fields that a step leaves alone -/

section Frame

variable {outcome : PathOutcome Cert} {result : ExtendedSigValResult Cert TS}

/-- A carried result with a path is all that is taken over. -/
theorem takePathOutcome_of_carried {r : PathValidationResult Cert} {path : List Cert}
    (hr : carried outcome = some r) (hpath : r.validatedCertificatePath = some path)
    (hne : path ≠ []) :
    takePathOutcome outcome result =
      { result with certificateValidationResult := some (.pathValidation r) } := by
  unfold carried at hr
  split at hr
  · cases hr
    rfl
  · cases hr
  · cases hr
    simp [takePathOutcome, hpath, hne]
  · cases hr

/-- A success after path validation was one before, and only the certificate
result is new. -/
theorem takePathOutcome_of_success (h : (takePathOutcome outcome result).status = .SUCCESS) :
    result.status = .SUCCESS ∧ ∃ c,
      takePathOutcome outcome result = { result with certificateValidationResult := some c } := by
  unfold takePathOutcome at h ⊢
  split
  · rename_i validatorResult
    exact ⟨h, validatorResult, rfl⟩
  · rename_i message pathResult
    dsimp only at h ⊢
    split at h
    · cases h
    · rename_i hne
      rw [if_neg hne]
      exact ⟨h, .pathValidation pathResult, rfl⟩
  · dsimp only at h
    split at h
    · cases h
    · cases h

theorem status_of_validatePath {v : Option (CertificateValidator Cert)}
    (h : (validatePath v result).status = .SUCCESS) : result.status = .SUCCESS := by
  unfold validatePath at h
  split at h
  · split at h
    · exact (takePathOutcome_of_success h).1
    · exact h
  · exact h

/-- A path validation result after path validation comes from the outcome. -/
theorem carried_of_takePathOutcome {r : PathValidationResult Cert}
    (hnone : result.certificateValidationResult = none)
    (hcert : (takePathOutcome outcome result).certificateValidationResult =
      some (.pathValidation r)) : carried outcome = some r := by
  unfold takePathOutcome at hcert
  split at hcert
  · rename_i validatorResult
    cases hcert
    rfl
  · rename_i message pathResult
    have : some (CertificateValidationResult.pathValidation pathResult) =
        some (.pathValidation r) := by
      dsimp only at hcert
      split at hcert
      · exact hcert
      · exact hcert
    cases this
    rfl
  · have : result.certificateValidationResult = some (.pathValidation r) := by
      split at hcert
      · exact hcert
      · exact hcert
    rw [hnone] at this
    cases this

@[simp] theorem takePathOutcome_signerCertificate :
    (takePathOutcome outcome result).signerCertificate = result.signerCertificate := by
  unfold takePathOutcome
  split
  · rfl
  · simp only [setError]
    split <;> rfl
  · simp only [setError]
    split <;> rfl

@[simp] theorem validatePath_signerCertificate
    {v : Option (CertificateValidator Cert)} :
    (validatePath v result).signerCertificate = result.signerCertificate := by
  unfold validatePath
  split
  · split
    · exact takePathOutcome_signerCertificate
    · rfl
  · rfl

/-- The status after the policy has spoken. -/
theorem takePolicyResult_status {p : PolicyValidationResult} :
    (takePolicyResult p result).status =
      if p.policyValidationClaims.res = .PASSED then result.status else p.status := by
  unfold takePolicyResult
  by_cases h : p.policyValidationClaims.res = .PASSED
  · simp [h]
  · simp [h]

end Frame

end ExtendedSigValResult

/-! ## Results built from a validated SVT -/

/-- `SignatureSVTValidationResult`. -/
structure SignatureSVTValidationResult where
  signedJWT : SignedJWT
  signatureClaims : SignatureClaims
  signerCertificate : Bytes
  certificateChain : List Bytes
  svtValidationSuccess : Bool
deriving DecidableEq, Repr

/-- What building a result from an SVT asks of registries and certificates. -/
structure SvtResultEnv (Cert : Type) where
  /-- `JWSAlgorithmRegistry.getUri`. -/
  getUri : JWSAlgorithm → Outcome String
  /-- `SVAUtils.getCertificate`. -/
  getCertificate : Bytes → Outcome Cert
  /-- `GeneralCMSUtils.getPkParams` on the key of a certificate. -/
  getPkParams : Cert → Outcome Unit
  /-- `SVAUtils.getOrderedCertList`. -/
  getOrderedCertList : Bytes → List Bytes → List Cert

def getStatusFromPolicyValidationClaims (policyValidationClaims :
    Option (List PolicyValidationClaims)) : Status :=
  match policyValidationClaims with
  | none => .ERROR_INVALID_SIGNATURE
  | some claims =>
      if claims.isEmpty then .ERROR_INVALID_SIGNATURE
      else if claims.any (·.res == .PASSED) then .SUCCESS
      else if claims.any (·.res == .FAILED) then .ERROR_INVALID_SIGNATURE
      else if claims.any (·.res == .INDETERMINATE) then .INTERDETERMINE
      else .ERROR_INVALID_SIGNATURE

/-- The time the SVT itself vouches for. -/
def svtTimeValidationClaims (claimsSet : JWTClaimsSet) (issueTime : Date) :
    TimeValidationClaims where
  iss := claimsSet.issuer
  time := issueTime.tdiv 1000
  type := timeVerificationTypeSvt
  id := claimsSet.jwtID
  val := [⟨sigValidationPolicyPkixValidation, .PASSED, none⟩]

/-- The part of the three `compile…FromSvtValidation` methods from the
algorithms on. `signerCerts` finds the certificates of the signature. -/
def takeSvtValidation (env : SvtResultEnv Cert) (svtValResult : SignatureSVTValidationResult)
    (signerCerts : Outcome (Option Cert × List Cert)) :
    Mutating (ExtendedSigValResult Cert TS) Unit := do
  let signedJWT := svtValResult.signedJWT
  let algoUri ← Mutating.call (env.getUri signedJWT.header.algorithm)
  modify ({ · with signatureAlgorithm := some algoUri })
  let svtSigner ← Mutating.call (env.getCertificate svtValResult.signerCertificate)
  Mutating.call (env.getPkParams svtSigner)
  modify ({ · with svtJWT := some signedJWT })
  let (signerCertificate, chain) ← Mutating.call signerCerts
  let path := env.getOrderedCertList svtValResult.signerCertificate svtValResult.certificateChain
  let signatureClaims := svtValResult.signatureClaims
  modify
    ({ · with
      signerCertificate := signerCertificate
      signatureCertificateChain := some chain
      certificateValidationResult := some (.default path) })
  if svtValResult.svtValidationSuccess then
    modify ({ · with status := getStatusFromPolicyValidationClaims signatureClaims.sigVal })
  else
    modify
      ({ · with
        status := .ERROR_INVALID_SIGNATURE
        statusMessage := some "Unable to verify SVT signature" })
  modify
    ({ · with
      signatureClaims := some signatureClaims
      validationPolicyResultList := signatureClaims.sigVal })
  let claimsSet ← Mutating.call signedJWT.getJWTClaimsSet
  let issueTime ← Mutating.call (deref claimsSet.issueTime)
  let timeVal ← Mutating.call (deref signatureClaims.timeVal)
  let timeVal := timeVal ++ [svtTimeValidationClaims claimsSet issueTime]
  modify
    ({ · with
      signatureClaims := some { signatureClaims with timeVal := some timeVal }
      timeValidationResults := some (timeVal.map fun claims => ⟨some claims, none, none⟩) })

/-- The `catch` clause of the three methods. -/
def svtProcessingFailed (_ : Exn) (result : ExtendedSigValResult Cert TS) :
    ExtendedSigValResult Cert TS :=
  { result with
    status := .ERROR_INVALID_SIGNATURE
    statusMessage := some "Unable to process SVA token or signature data" }

/-- The first result that says success (`findFirst` on the stream). -/
def firstValidSvt (svtValidationResultList : Option (List SignatureSVTValidationResult)) :
    Option SignatureSVTValidationResult :=
  svtValidationResultList.bind fun l => l.find? (·.svtValidationSuccess)

/-! ## When a result from an SVT is a success -/

theorem getStatusFromPolicyValidationClaims_success_iff
    {policyValidationClaims : Option (List PolicyValidationClaims)} :
    getStatusFromPolicyValidationClaims policyValidationClaims = .SUCCESS ↔
      ∃ claims, policyValidationClaims = some claims ∧ ∃ pv ∈ claims, pv.res = .PASSED := by
  cases policyValidationClaims with
  | none => simp [getStatusFromPolicyValidationClaims]
  | some claims =>
      have hany : claims.any (·.res == .PASSED) = true ↔ ∃ pv ∈ claims, pv.res = .PASSED := by
        simp
      unfold getStatusFromPolicyValidationClaims
      simp only [Option.some.injEq, exists_eq_left', ← hany]
      cases claims with
      | nil => simp
      | cons pv rest =>
          rw [if_neg (by simp)]
          by_cases hpassed : (pv :: rest).any (·.res == .PASSED) = true
          · simp [hpassed]
          · rw [if_neg hpassed]
            simp only [hpassed, Bool.false_eq_true, iff_false]
            split
            · simp
            · split <;> simp

/-- Nothing throws while the result is built, and a policy of the claims passed. -/
structure SvtAccepted (env : SvtResultEnv Cert) (svtValResult : SignatureSVTValidationResult)
    (signerCerts : Outcome (Option Cert × List Cert)) : Prop where
  algorithm : ∃ uri, env.getUri svtValResult.signedJWT.header.algorithm = .ok uri
  signer : ∃ cert, env.getCertificate svtValResult.signerCertificate = .ok cert ∧
    env.getPkParams cert = .ok ()
  certs : ∃ certs, signerCerts = .ok certs
  issued : ∃ claimsSet issueTime, svtValResult.signedJWT.claimsSet = some claimsSet ∧
    claimsSet.issueTime = some issueTime
  times : ∃ timeVal, svtValResult.signatureClaims.timeVal = some timeVal
  passed : ∃ claims, svtValResult.signatureClaims.sigVal = some claims ∧
    ∃ pv ∈ claims, pv.res = .PASSED

theorem takeSvtValidation_success_iff {env : SvtResultEnv Cert}
    {svtValResult : SignatureSVTValidationResult}
    {signerCerts : Outcome (Option Cert × List Cert)} {result : ExtendedSigValResult Cert TS}
    (hsuccess : svtValResult.svtValidationSuccess = true) :
    Mutating.wp (takeSvtValidation env svtValResult signerCerts)
        (fun _ result => result.status = .SUCCESS) (fun _ _ => False) result ↔
      SvtAccepted env svtValResult signerCerts := by
  unfold takeSvtValidation
  simp only [Mutating.wp_bind, Mutating.wp_modify, Mutating.wp_call_total, hsuccess, if_true,
    deref_ok_iff, SignedJWT.getJWTClaimsSet_ok_iff,
    getStatusFromPolicyValidationClaims_success_iff]
  constructor
  · rintro ⟨uri, huri, cert, hcert, _, hpk, certs, hcerts, claimsSet, hset, issueTime, hissue,
      timeVal, htimes, hpassed⟩
    exact ⟨⟨uri, huri⟩, ⟨cert, hcert, hpk⟩, ⟨certs, hcerts⟩, ⟨claimsSet, issueTime, hset, hissue⟩,
      ⟨timeVal, htimes⟩, hpassed⟩
  · rintro ⟨⟨uri, huri⟩, ⟨cert, hcert, hpk⟩, ⟨certs, hcerts⟩, ⟨claimsSet, issueTime, hset, hissue⟩,
      ⟨timeVal, htimes⟩, hpassed⟩
    exact ⟨uri, huri, cert, hcert, (), hpk, certs, hcerts, claimsSet, hset, issueTime, hissue,
      timeVal, htimes, hpassed⟩

/-- The token and the signed data references of the claims are in the result. -/
theorem takeSvtValidation_claims (env : SvtResultEnv Cert)
    (svtValResult : SignatureSVTValidationResult)
    (signerCerts : Outcome (Option Cert × List Cert)) (result : ExtendedSigValResult Cert TS) :
    Mutating.wp (takeSvtValidation env svtValResult signerCerts)
      (fun _ result => result.svtJWT = some svtValResult.signedJWT ∧
        ∃ claims, result.signatureClaims = some claims ∧
          claims.sigDataRef = svtValResult.signatureClaims.sigDataRef)
      (fun _ _ => True) result := by
  unfold takeSvtValidation
  simp only [Mutating.wp_bind, Mutating.wp_call, implies_true, and_true, Mutating.wp_modify]
  rintro uri _ cert _ _ _ certs _
  -- the status differs, and nothing else
  split
  · simp only [Mutating.wp_bind, Mutating.wp_call, implies_true, and_true, Mutating.wp_modify]
    intro claimsSet _ issueTime _ timeVal _
    exact ⟨trivial, _, rfl, rfl⟩
  · simp only [Mutating.wp_bind, Mutating.wp_call, implies_true, and_true, Mutating.wp_modify]
    intro claimsSet _ issueTime _ timeVal _
    exact ⟨trivial, _, rfl, rfl⟩

end SigVal.Commons
