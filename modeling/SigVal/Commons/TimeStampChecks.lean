import SigVal.Commons.SigValResult

/-!
# What a verified timestamp has passed

`TimeStamp.init` sets its fields one after the other and swallows what is thrown on the way,
and `hasVerifiedTimestamp` lets a timestamp pass that no policy was checked for. A timestamp
is never in that state with its signature marked valid: the mark is set after the checks, is
taken back on any exception, and stays only next to the result of the policy.
`BasicTimstampPolicyVerifier` is the policy that comes with the library.
-/

namespace SigVal.Commons

open SigVal.Java SigVal.Cert

variable {Cert : Type}

/-! ## Construction -/

namespace TimeStamp

/-- The imprint of a timestamp is the digest of the data under the algorithm it declares. -/
def ImprintMatches (env : TsEnv Cert) (tstInfo : TSTInfo) (timestampedData : Bytes) : Prop :=
  ∃ algorithm ∈ env.registry, algorithm.oid = tstInfo.hashAlgorithm ∧
    env.digest algorithm timestampedData = .ok tstInfo.hashedMessage

/-- Everything that is checked about a timestamp held. -/
structure Checked (env : TsEnv Cert) (tsPolicyVerifier : TimeStampPolicyVerifier Cert)
    (timeStampSigBytes : Bytes) (timestampedData : Option Bytes) (sigCert : Cert)
    (certList : List Cert) (tstInfo : TSTInfo) : Prop where
  content : env.getCmsSigTSTInfo timeStampSigBytes = .ok (some tstInfo)
  signer : ∃ data, timestampedData = some data ∧
    env.extractCertificates timeStampSigBytes data = .ok (sigCert, certList)
  signature : env.verifyTsSignature sigCert timeStampSigBytes = .ok ()
  imprint : ∃ data, timestampedData = some data ∧ ImprintMatches env tstInfo data
  policy : ∃ verified, tsPolicyVerifier timeStampSigBytes tstInfo sigCert certList = .ok verified ∧
    verified.validTimestamp = true ∧ verified.policyValidationClaims.res = .PASSED

theorem imprintMatches_of_verify {env : TsEnv Cert} {tstInfo : TSTInfo} {data : Bytes}
    (h : verifyTsMessageImprint env tstInfo data = .ok ()) : ImprintMatches env tstInfo data := by
  obtain ⟨algorithm, halgorithm, h⟩ := bind_ok_iff.mp h
  obtain ⟨signedDocHash, hdigest, h⟩ := bind_ok_iff.mp h
  unfold DigestAlgorithmRegistry.getByOid at halgorithm
  dsimp only at halgorithm
  split at halgorithm
  · rename_i found hfound
    cases halgorithm
    have hoid := List.find?_some hfound
    refine ⟨_, List.mem_of_find?_eq_some hfound, eq_of_beq hoid, ?_⟩
    split at h
    · rename_i heq
      rw [hdigest, heq]
    · cases h
  · cases halgorithm

section Construction

variable {env : TsEnv Cert} {tsPolicyVerifier : TimeStampPolicyVerifier Cert}
  {timeStampSigBytes : Bytes} {timestampedData : Option Bytes}

/-- The body of `init`: where it ends normally with a valid signature and a policy result
that passed, every check held. -/
theorem process_checked :
    Mutating.wp (process env tsPolicyVerifier timeStampSigBytes timestampedData)
      (fun _ ts => ts.hasVerifiedTimestamp = true → ∃ sigCert certList tstInfo,
        ts.sigCert = some sigCert ∧ ts.certList = some certList ∧ ts.tstInfo = some tstInfo ∧
        Checked env tsPolicyVerifier timeStampSigBytes timestampedData sigCert certList tstInfo)
      (fun _ _ => True) {} := by
  unfold process
  simp only [Mutating.wp_bind, Mutating.wp_call, Mutating.wp_modify, implies_true, and_true,
    deref_ok_iff]
  rintro data hdata ⟨sigCert, certList⟩ hextract parsed hcontent _ hsignature tstInfo rfl _ himprint
    verified hverified
  split
  · rename_i hinvalid
    rw [Mutating.wp_modify]
    intro hvalid
    cases hvalid
  · rename_i hnot
    rw [Mutating.wp_pure]
    intro hvalid
    have hmark : verified.validTimestamp = true := by simpa using hnot
    have hpassed : verified.policyValidationClaims.res = .PASSED := by
      simpa [hasVerifiedTimestamp] using hvalid
    exact ⟨sigCert, certList, tstInfo, rfl, rfl, rfl, hcontent, ⟨data, hdata, hextract⟩,
      hsignature, ⟨data, hdata, imprintMatches_of_verify himprint⟩, verified, hverified, hmark,
      hpassed⟩

/-- **A timestamp that counts has passed every check.** Whatever the parser, the signature
check, the digest and the policy verifier return or throw. -/
theorem hasVerifiedTimestamp_checked {ts : TimeStamp Cert}
    (hts : ts = ofToken env tsPolicyVerifier timeStampSigBytes timestampedData)
    (hverified : ts.hasVerifiedTimestamp = true) :
    ∃ sigCert certList tstInfo,
      ts.sigCert = some sigCert ∧ ts.certList = some certList ∧ ts.tstInfo = some tstInfo ∧
      Checked env tsPolicyVerifier timeStampSigBytes timestampedData sigCert certList tstInfo := by
  subst hts
  revert hverified
  apply @Mutating.tryCatch_of_wp _ _ _ _ fun ts : TimeStamp Cert =>
    ts.hasVerifiedTimestamp = true →
    ∃ sigCert certList tstInfo,
      ts.sigCert = some sigCert ∧ ts.certList = some certList ∧ ts.tstInfo = some tstInfo ∧
      Checked env tsPolicyVerifier timeStampSigBytes timestampedData sigCert certList tstInfo
  apply Mutating.wp_mono process_checked
  · intro _ _ h
    exact h
  · intro ex ts _ hvalid
    -- an exception takes the mark back
    cases hvalid

end Construction

end TimeStamp

/-! ## The policy of the library -/

/-- `BasicTimstampPolicyVerifier`, with the defaults of its fields. -/
structure BasicTimstampPolicyVerifier (Cert : Type) where
  /-- `certificateChainVerifier.validate` without revocation lists. -/
  certificateChainVerifier : Cert → List Cert → PathOutcome Cert
  policy : String := sigValidationPolicyPkixValidation
  hashBlackList : List String := [DigestAlgorithm.idSHA1]

namespace BasicTimstampPolicyVerifier

variable (verifier : BasicTimstampPolicyVerifier Cert) (case : CaseTable)
  (registry : DigestRegistry)

def isBlacklisted (digestAlgorithm : DigestAlgorithm) : Bool :=
  verifier.hashBlackList.any fun blacklistDigestAlgo =>
    case.equalsIgnoreCase digestAlgorithm.uri blacklistDigestAlgo

/-- A result that failed with an exception. -/
def refused (msg : String) (ex : Exn) : TimeStampPolicyVerificationResult Cert :=
  ⟨⟨verifier.policy, .FAILED, some msg⟩, some (.default []), false, some ex⟩

def verifyTsPolicy (_pdfSigBytes : Bytes) (tstInfo : TSTInfo) (sigCert : Cert)
    (certList : List Cert) : TimeStampPolicyVerificationResult Cert :=
  match DigestAlgorithmRegistry.getByOid registry (some tstInfo.hashAlgorithm) with
  | .error ex => verifier.refused "Error parsing Time Stamp digest algorithm" ex
  | .ok digestAlgorithm =>
      if verifier.isBlacklisted case digestAlgorithm then
        ⟨⟨verifier.policy, .FAILED,
            some ("Using blacklisted hash algorithm for Time Stamp: " ++ digestAlgorithm.uri)⟩,
          some (.pathValidation {}), false, none⟩
      else
        match verifier.certificateChainVerifier sigCert certList with
        | .error (.extended message pathValidationResult) =>
            ⟨⟨verifier.policy, .FAILED, some "Time Stamp signing certificate is not trusted"⟩,
              some (.pathValidation pathValidationResult), false,
              some (PathFailure.toExn (.extended message pathValidationResult))⟩
        | .error (.other ex) =>
            verifier.refused "Time Stamp signing certificate is not trusted" ex
        | .ok certValidationResult =>
            ⟨⟨verifier.policy, .PASSED, none⟩, some certValidationResult, true, none⟩

/-- The verifier as a plug-in: it catches what is thrown below it. -/
def toTimeStampPolicyVerifier : TimeStampPolicyVerifier Cert :=
  fun pdfSigBytes tstInfo sigCert certList =>
    .ok (verifier.verifyTsPolicy case registry pdfSigBytes tstInfo sigCert certList)

variable {verifier case registry} {pdfSigBytes : Bytes} {tstInfo : TSTInfo} {sigCert : Cert}
  {certList : List Cert}

/-- The mark and the conclusion of a result say the same: the algorithm is registered and
allowed, and the chain of the signer validated. -/
theorem verifyTsPolicy_valid_iff :
    (verifier.verifyTsPolicy case registry pdfSigBytes tstInfo sigCert
        certList).validTimestamp = true ↔
      ∃ digestAlgorithm certValidationResult,
        DigestAlgorithmRegistry.getByOid registry (some tstInfo.hashAlgorithm) =
          .ok digestAlgorithm ∧
        verifier.isBlacklisted case digestAlgorithm = false ∧
        verifier.certificateChainVerifier sigCert certList = .ok certValidationResult := by
  unfold verifyTsPolicy
  rcases halgorithm : DigestAlgorithmRegistry.getByOid registry (some tstInfo.hashAlgorithm) with
    ex | digestAlgorithm
  · simp [refused]
  · cases hblack : verifier.isBlacklisted case digestAlgorithm with
    | true => simp [hblack]
    | false =>
        rcases hchain : verifier.certificateChainVerifier sigCert certList with
          (⟨message, result⟩ | ex) | result
        · simp [hblack]
        · simp [hblack, refused]
        · simp [hblack]

theorem verifyTsPolicy_passed_iff :
    (verifier.verifyTsPolicy case registry pdfSigBytes tstInfo sigCert
        certList).policyValidationClaims.res = .PASSED ↔
      (verifier.verifyTsPolicy case registry pdfSigBytes tstInfo sigCert
        certList).validTimestamp = true := by
  unfold verifyTsPolicy refused
  split
  · simp
  · split
    · simp
    · split <;> simp

end BasicTimstampPolicyVerifier

namespace TimeStamp

/-- Under the policy of the library, a timestamp that counts is signed by a certificate whose
chain validated, with an algorithm that is not on the list. -/
theorem hasVerifiedTimestamp_chain {env : TsEnv Cert}
    {verifier : BasicTimstampPolicyVerifier Cert} {case : CaseTable} {timeStampSigBytes : Bytes}
    {timestampedData : Option Bytes} {sigCert : Cert} {certList : List Cert} {tstInfo : TSTInfo}
    (h : Checked env (verifier.toTimeStampPolicyVerifier case env.registry) timeStampSigBytes
      timestampedData sigCert certList tstInfo) :
    ∃ digestAlgorithm certValidationResult,
      DigestAlgorithmRegistry.getByOid env.registry (some tstInfo.hashAlgorithm) =
        .ok digestAlgorithm ∧
      verifier.isBlacklisted case digestAlgorithm = false ∧
      verifier.certificateChainVerifier sigCert certList = .ok certValidationResult := by
  obtain ⟨verified, hverified, hvalid, -⟩ := h.policy
  cases hverified
  exact BasicTimstampPolicyVerifier.verifyTsPolicy_valid_iff.mp hvalid

/-- A token over the bytes `[1, 2]` with a digest that copies its input. -/
def sampleEnv : TsEnv Nat where
  extractCertificates _ _ := .ok (7, [7, 8])
  getCmsSigTSTInfo _ := .ok (some ⟨"1a", some 1000, DigestAlgorithm.oidSHA256, [1, 2], none⟩)
  verifyTsSignature _ _ := .ok ()
  registry := DigestAlgorithmRegistry.initial
  digest _ data := .ok data
  getSubject _ := "CN=TSA"

/-- The policy of the library, for a chain verifier that accepts. -/
def samplePolicy : TimeStampPolicyVerifier Nat :=
  BasicTimstampPolicyVerifier.toTimeStampPolicyVerifier
    { certificateChainVerifier := fun _ certList => .ok (.default certList) } asciiCase
    DigestAlgorithmRegistry.initial

theorem hasVerifiedTimestamp_checked_sample :
    (ofToken sampleEnv samplePolicy [0] (some [1, 2])).hasVerifiedTimestamp = true ∧
    ∃ sigCert certList tstInfo,
      (ofToken sampleEnv samplePolicy [0] (some [1, 2])).sigCert = some sigCert ∧
      (ofToken sampleEnv samplePolicy [0] (some [1, 2])).certList = some certList ∧
      (ofToken sampleEnv samplePolicy [0] (some [1, 2])).tstInfo = some tstInfo ∧
      Checked sampleEnv samplePolicy [0] (some [1, 2]) sigCert certList tstInfo := by
  have hverified : (ofToken sampleEnv samplePolicy [0] (some [1, 2])).hasVerifiedTimestamp = true :=
    by decide +kernel
  exact ⟨hverified, hasVerifiedTimestamp_checked rfl hverified⟩

end TimeStamp

end SigVal.Commons
