import SigVal.Cert.PathValidator
import SigVal.Commons.Algorithms
import SigVal.Commons.Claims

/-!
# RFC 3161 timestamps

`TimeStamp` of `sigval-commons`. The constructor parses and checks the token
and records in the object how far it came; it never throws. Whether a timestamp
counts is a later question, `hasVerifiedTimestamp`. What the code says about a
time it has verified is a `TimeValidationResult`.
-/

namespace SigVal.Commons

open SigVal.Java SigVal.Cert

variable {Cert : Type}

/-- What is read of a `TSTInfo`. `genTime` is `getGenTime().getDate()`, `none`
when the text does not parse and the call throws `ParseException`; `svtJWT` is
the text of the SVT extension. -/
structure TSTInfo where
  /-- The serial number in hexadecimal. -/
  serialNumber : String
  genTime : Option Date
  hashAlgorithm : String
  hashedMessage : Bytes
  svtJWT : Option String
deriving DecidableEq, Repr

/-- The CMS library and the digests behind timestamp processing. -/
structure TsEnv (Cert : Type) where
  /-- `extractCertificates` on the parsed CMS of a token and the data it is
  about: the signer certificate and all certificates. -/
  extractCertificates : Bytes → Bytes → Outcome (Cert × List Cert)
  /-- `SVAUtils.getCmsSigTSTInfo`, which returns `null` on empty content. -/
  getCmsSigTSTInfo : Bytes → Outcome (Option TSTInfo)
  /-- `TimeStampToken.validate` with the certificate. -/
  verifyTsSignature : Cert → Bytes → Outcome Unit
  registry : DigestRegistry
  digest : DigestAlgorithm → Bytes → Outcome Bytes
  getSubject : Cert → String

/-- `TimeStampPolicyVerificationResult`. -/
structure TimeStampPolicyVerificationResult (Cert : Type) where
  policyValidationClaims : PolicyValidationClaims
  certificateValidationResult : Option (CertificateValidationResult Cert)
  validTimestamp : Bool
  exception : Option Exn
deriving DecidableEq, Repr

/-- `TimeStampPolicyVerifier.verifyTsPolicy`. -/
abbrev TimeStampPolicyVerifier (Cert : Type) :=
  Bytes → TSTInfo → Cert → List Cert → Outcome (TimeStampPolicyVerificationResult Cert)

/-- The fields of a `TimeStamp` object, with their initial values. -/
structure TimeStamp (Cert : Type) where
  sigValid : Bool := false
  certList : Option (List Cert) := none
  sigCert : Option Cert := none
  tstInfo : Option TSTInfo := none
  policyValidationClaimsList : List PolicyValidationClaims := []
  certificateValidationResult : Option (CertificateValidationResult Cert) := none
  exception : Option Exn := none
deriving DecidableEq, Repr

namespace TimeStamp

def verifyTsMessageImprint (env : TsEnv Cert) (tstInfo : TSTInfo) (timestampedData : Bytes) :
    Outcome Unit := do
  let algorithm ← DigestAlgorithmRegistry.getByOid env.registry (some tstInfo.hashAlgorithm)
  let signedDocHash ← env.digest algorithm timestampedData
  if signedDocHash = tstInfo.hashedMessage then pure ()
  else throw ⟨.runtime, "Time stamp message imprint does not match timestamped data"⟩

/-- The body of `init`. The data is `null` when it could not be computed. -/
def process (env : TsEnv Cert) (tsPolicyVerifier : TimeStampPolicyVerifier Cert)
    (timeStampSigBytes : Bytes) (timestampedData : Option Bytes) :
    Mutating (TimeStamp Cert) Unit := do
  let data ← Mutating.call (deref timestampedData)
  let (sigCert, certList) ← Mutating.call (env.extractCertificates timeStampSigBytes data)
  modify ({ · with sigCert := some sigCert, certList := some certList })
  let parsed ← Mutating.call (env.getCmsSigTSTInfo timeStampSigBytes)
  modify ({ · with tstInfo := parsed })
  Mutating.call (env.verifyTsSignature sigCert timeStampSigBytes)
  let tstInfo ← Mutating.call (deref parsed)
  Mutating.call (verifyTsMessageImprint env tstInfo data)
  modify ({ · with sigValid := true })
  let verified ← Mutating.call (tsPolicyVerifier timeStampSigBytes tstInfo sigCert certList)
  modify fun ts =>
    { ts with
      policyValidationClaimsList :=
        ts.policyValidationClaimsList ++ [verified.policyValidationClaims]
      certificateValidationResult := verified.certificateValidationResult
      exception := verified.exception }
  if !verified.validTimestamp then modify ({ · with sigValid := false })

/-- The constructor, with `init`. -/
def ofToken (env : TsEnv Cert) (tsPolicyVerifier : TimeStampPolicyVerifier Cert)
    (timeStampSigBytes : Bytes) (timestampedData : Option Bytes) : TimeStamp Cert :=
  Mutating.tryCatch (process env tsPolicyVerifier timeStampSigBytes timestampedData)
    (fun ex ts => { ts with exception := some ex, sigValid := false }) {}

/-- Signed, and with no policy checked or one of them passed. -/
def hasVerifiedTimestamp (ts : TimeStamp Cert) : Bool :=
  ts.sigValid &&
    (ts.policyValidationClaimsList.isEmpty ||
      ts.policyValidationClaimsList.any fun claims => claims.res == .PASSED)

/-- A timestamp whose signature counts has its content and signer set. -/
def Loaded (ts : TimeStamp Cert) : Prop :=
  ts.sigValid = true → (∃ info, ts.tstInfo = some info) ∧ ∃ cert, ts.sigCert = some cert

theorem process_loaded (env : TsEnv Cert) (verifier : TimeStampPolicyVerifier Cert)
    (sigBytes : Bytes) (data : Option Bytes) :
    Mutating.wp (process env verifier sigBytes data) (fun _ ts => ts.Loaded)
      (fun _ _ => True) {} := by
  unfold process
  -- each call that throws leaves nothing to show
  simp only [Mutating.wp_bind, Mutating.wp_call, Mutating.wp_modify, implies_true, and_true,
    deref_ok_iff]
  rintro _ rfl ⟨cert, certs⟩ _ parsed _ _ _ info rfl _ _ result _
  have hset : (∃ i, some info = some i) ∧ ∃ c, some cert = some c := ⟨⟨info, rfl⟩, cert, rfl⟩
  split
  · rw [Mutating.wp_modify]
    exact fun _ => hset
  · rw [Mutating.wp_pure]
    exact fun _ => hset

theorem ofToken_loaded (env : TsEnv Cert) (verifier : TimeStampPolicyVerifier Cert)
    (sigBytes : Bytes) (data : Option Bytes) : (ofToken env verifier sigBytes data).Loaded := by
  unfold ofToken
  apply Mutating.tryCatch_of_wp
  have h := process_loaded env verifier sigBytes data
  unfold Mutating.wp at h ⊢
  rcases hrun : (process env verifier sigBytes data).run {} with ⟨ex | u, ts⟩
  · intro hvalid
    cases hvalid
  · rw [hrun] at h
    exact h

/-- A timestamp for which nothing throws. -/
theorem ofToken_of_calls {env : TsEnv Cert}
    {tsPolicyVerifier : TimeStampPolicyVerifier Cert}
    {timeStampSigBytes data : Bytes} {sigCert : Cert} {certList : List Cert} {tstInfo : TSTInfo}
    {verified : TimeStampPolicyVerificationResult Cert}
    (hcerts : env.extractCertificates timeStampSigBytes data = .ok (sigCert, certList))
    (htst : env.getCmsSigTSTInfo timeStampSigBytes = .ok (some tstInfo))
    (hsigned : env.verifyTsSignature sigCert timeStampSigBytes = .ok ())
    (himprint : verifyTsMessageImprint env tstInfo data = .ok ())
    (hpolicy : tsPolicyVerifier timeStampSigBytes tstInfo sigCert certList = .ok verified)
    (hvalid : verified.validTimestamp = true) :
    ofToken env tsPolicyVerifier timeStampSigBytes (some data) =
      { sigValid := true
        certList := some certList
        sigCert := some sigCert
        tstInfo := some tstInfo
        policyValidationClaimsList := [verified.policyValidationClaims]
        certificateValidationResult := verified.certificateValidationResult
        exception := verified.exception } := by
  unfold ofToken process Mutating.tryCatch
  simp only [Mutating.run_bind, Mutating.run_call, Mutating.run_modify, deref, hcerts, htst,
    hsigned, himprint, hpolicy, hvalid]
  rfl

end TimeStamp

/-! ## Verified times -/

/-- The class of a timestamp object: `TimeStamp` itself or a subclass. -/
class IsTimeStamp (TS : Type) (Cert : outParam Type) where
  toTimeStamp : TS → TimeStamp Cert

instance : IsTimeStamp (TimeStamp Cert) Cert := ⟨id⟩

/-- `TimeValidationResult`. -/
structure TimeValidationResult (Cert TS : Type) where
  timeValidationClaims : Option TimeValidationClaims
  certificateValidationResult : Option (CertificateValidationResult Cert)
  timeStamp : Option TS
deriving DecidableEq, Repr

/-- `getVerifiedTimeFromTimeStamp`: the claims about the time, `null` when a
part of the timestamp is missing. The time is in whole seconds. -/
def getVerifiedTimeFromTimeStamp (getSubject : Cert → String) (ts : TimeStamp Cert)
    (type : String) : Option TimeValidationClaims :=
  match ts.tstInfo, ts.sigCert with
  | some tstInfo, some sigCert =>
      match tstInfo.genTime with
      | some time =>
          some
            { id := some tstInfo.serialNumber
              iss := some (getSubject sigCert)
              time := time.tdiv 1000
              type := type
              val := ts.policyValidationClaimsList }
      | none => none
  | _, _ => none

/-- `getTimeValidationResult` and the same step of `addVerifiedTimes`. -/
def getTimeValidationResult {TS : Type} [IsTimeStamp TS Cert] (getSubject : Cert → String)
    (type : String) (timeStamp : TS) : Option (TimeValidationResult Cert TS) :=
  let ts := IsTimeStamp.toTimeStamp timeStamp
  (getVerifiedTimeFromTimeStamp getSubject ts type).map fun claims =>
    ⟨some claims, ts.certificateValidationResult, some timeStamp⟩

/-- The claims name the type they were asked for. -/
theorem getVerifiedTimeFromTimeStamp_type {getSubject : Cert → String} {ts : TimeStamp Cert}
    {type : String} {claims : TimeValidationClaims}
    (h : getVerifiedTimeFromTimeStamp getSubject ts type = some claims) : claims.type = type := by
  unfold getVerifiedTimeFromTimeStamp at h
  split at h
  · split at h
    · cases h
      rfl
    · cases h
  · cases h

theorem getTimeValidationResult_some {TS : Type} [IsTimeStamp TS Cert]
    {getSubject : Cert → String} {type : String} {timeStamp : TS}
    {result : TimeValidationResult Cert TS}
    (h : getTimeValidationResult getSubject type timeStamp = some result) :
    result.timeStamp = some timeStamp ∧
      ∃ claims, result.timeValidationClaims = some claims ∧ claims.type = type := by
  unfold getTimeValidationResult at h
  obtain ⟨claims, hclaims, rfl⟩ := Option.map_eq_some_iff.mp h
  exact ⟨rfl, claims, rfl, getVerifiedTimeFromTimeStamp_type hclaims⟩

end SigVal.Commons
