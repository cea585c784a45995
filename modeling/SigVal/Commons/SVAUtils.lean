import SigVal.Lib.Sort
import SigVal.Commons.Algorithms
import SigVal.Commons.Claims

/-!
# `SVAUtils`: verification and selection of SVT tokens

`verifySVA` makes four checks on a token: expiry, key type, hash algorithm and
signature. The first three fail by throwing; the last one is a call of
`SignedJWT.verify`, which reports a bad signature by returning `false`. The
model keeps that difference: the library call is the parameter `jwsVerify`,
and its Boolean is dropped exactly where the source drops it.
-/

namespace SigVal.Commons

open SigVal.Java

/-- A public key, with the class tests the code makes on it. -/
inductive PublicKey where
  | rsa (encoded : Bytes)
  | ec (encoded : Bytes)
  | other (encoded : Bytes)
deriving DecidableEq, Repr

/-- The libraries behind SVT processing: token and certificate parsing, JWS
verification, the SVT algorithm registry, digests, and the digest registry's
current content. -/
structure SvtEnv (Cert : Type) where
  /-- `SignedJWT.parse`. -/
  parse : String → Outcome SignedJWT
  /-- `SignedJWT.verify` with the verifier made for the key. -/
  jwsVerify : SignedJWT → PublicKey → Outcome Bool
  /-- The constructor of `RSASSAVerifier` or `ECDSAVerifier`. -/
  newVerifier : PublicKey → Outcome Unit
  /-- `SVTAlgoRegistry.getAlgoParams(algorithm).getDigestAlgoId()`. -/
  getDigestAlgoId : JWSAlgorithm → Outcome String
  /-- Base64 of the certificate digest under the JWS algorithm's digest. -/
  certDigest : JWSAlgorithm → Cert → Outcome String
  /-- Base64 of a digest under a registered algorithm (`toBase64Digest`). -/
  toBase64Digest : DigestAlgorithm → Bytes → Outcome String
  /-- `CertificateFactory.generateCertificate`, `none` on failure. -/
  getCertOrNull : Bytes → Option Cert
  getPublicKey : Cert → PublicKey
  getEncoded : Cert → Outcome Bytes
  registry : DigestRegistry

namespace SVAUtils

variable {Cert : Type}

/-- `getSVTClaims`. -/
def getSVTClaims (cs : JWTClaimsSet) : Outcome SVTClaims :=
  match cs.sigValClaims with
  | some claims => .ok claims
  | none => .error ⟨.io, "No SVA claims available"⟩

/-- The choice of verifier: RSA keys get one, and any other key is cast to an
EC key first. -/
def selectVerifier (env : SvtEnv Cert) : PublicKey → Outcome Unit
  | .rsa k => env.newVerifier (.rsa k)
  | .ec k => env.newVerifier (.ec k)
  | .other _ => .error Exn.classCast

/-- `verifySVA(signedJWT, publicKey)` at the time `now`. -/
def verifySVA (env : SvtEnv Cert) (now : Date) (jwt : SignedJWT) (key : PublicKey) :
    Outcome Unit := do
  let cs ← jwt.getJWTClaimsSet
  if cs.expirationTime.any (fun exp => decide (now > exp)) then
    throw ⟨.runtime, "The SVA has expired"⟩
  selectVerifier env key
  let digestAlgoId ← env.getDigestAlgoId jwt.header.algorithm
  let svaSigHashAlgo ← DigestAlgorithmRegistry.get env.registry (some digestAlgoId)
  let svtClaims ← getSVTClaims cs
  let svaClaimsHashAlgo ← DigestAlgorithmRegistry.get env.registry svtClaims.hashAlgo
  if svaSigHashAlgo ≠ svaClaimsHashAlgo then
    throw ⟨.io, "SVA hahs algo mismatch. SVA algo: " ++ svaClaimsHashAlgo.uri ++
      ", SVA token sig algo: " ++ svaSigHashAlgo.uri⟩
  -- the verdict of the signature check is not looked at
  let _ ← env.jwsVerify jwt key
  pure ()

/-! ## What each check establishes -/

/-- The token has an expiry time that has passed. -/
def Expired (now : Date) (jwt : SignedJWT) : Prop :=
  ∃ cs exp, jwt.claimsSet = some cs ∧ cs.expirationTime = some exp ∧ exp < now

/-- The hash algorithm of the claims is the one tied to the JWS algorithm. -/
def HashAlgoTied (env : SvtEnv Cert) (jwt : SignedJWT) : Prop :=
  ∃ cs claims uri algo, jwt.claimsSet = some cs ∧ cs.sigValClaims = some claims ∧
    env.getDigestAlgoId jwt.header.algorithm = .ok uri ∧
    DigestAlgorithmRegistry.get env.registry (some uri) = .ok algo ∧
    DigestAlgorithmRegistry.get env.registry claims.hashAlgo = .ok algo

/-- What callers take a normal return of `verifySVA` to mean. -/
structure SVAVerified (env : SvtEnv Cert) (now : Date) (jwt : SignedJWT)
    (key : PublicKey) : Prop where
  signature : env.jwsVerify jwt key = .ok true
  notExpired : ¬ Expired now jwt
  hashAlgo : HashAlgoTied env jwt

/-- The token passes every check that fails by throwing. -/
structure PassesThrowingChecks (env : SvtEnv Cert) (now : Date) (jwt : SignedJWT)
    (key : PublicKey) : Prop where
  notExpired : ¬ Expired now jwt
  keyType : selectVerifier env key = .ok ()
  hashAlgo : HashAlgoTied env jwt

theorem getSVTClaims_ok_iff {cs : JWTClaimsSet} {claims : SVTClaims} :
    getSVTClaims cs = .ok claims ↔ cs.sigValClaims = some claims := by
  unfold getSVTClaims
  cases cs.sigValClaims <;> simp

theorem not_expired_iff {now : Date} {jwt : SignedJWT} {cs : JWTClaimsSet}
    (hcs : jwt.claimsSet = some cs) :
    ¬ Expired now jwt ↔ cs.expirationTime.any (fun exp => decide (now > exp)) = false := by
  unfold Expired
  rw [hcs]
  cases hexp : cs.expirationTime with
  | none => simp [hexp]
  | some exp => simp [hexp]

/-- `verifySVA` returns normally exactly when the throwing checks pass and the
signature check returns at all. -/
theorem verifySVA_ok_iff {env : SvtEnv Cert} {now : Date} {jwt : SignedJWT}
    {key : PublicKey} :
    verifySVA env now jwt key = .ok () ↔
      PassesThrowingChecks env now jwt key ∧ ∃ b, env.jwsVerify jwt key = .ok b := by
  constructor
  · intro h
    unfold verifySVA at h
    obtain ⟨cs, hcs, h⟩ := bind_ok_iff.mp h
    rw [SignedJWT.getJWTClaimsSet_ok_iff] at hcs
    split at h
    · cases h
    rename_i hexp
    obtain ⟨_, hkey, h⟩ := bind_ok_iff.mp h
    obtain ⟨uri, huri, h⟩ := bind_ok_iff.mp h
    obtain ⟨sigAlgo, hsig, h⟩ := bind_ok_iff.mp h
    obtain ⟨claims, hclaims, h⟩ := bind_ok_iff.mp h
    obtain ⟨claimsAlgo, hclaimsAlgo, h⟩ := bind_ok_iff.mp h
    rw [getSVTClaims_ok_iff] at hclaims
    split at h
    · cases h
    rename_i heq
    obtain ⟨b, hb, _⟩ := bind_ok_iff.mp h
    refine ⟨⟨?_, hkey, ?_⟩, b, hb⟩
    · exact (not_expired_iff hcs).mpr (by simpa using hexp)
    · have : sigAlgo = claimsAlgo := not_not.mp heq
      subst this
      exact ⟨cs, claims, uri, sigAlgo, hcs, hclaims, huri, hsig, hclaimsAlgo⟩
  · rintro ⟨⟨hexp, hkey, cs, claims, uri, algo, hcs, hclaims, huri, hsig, hclaimsAlgo⟩, b, hb⟩
    have hcs' : jwt.getJWTClaimsSet = .ok cs := SignedJWT.getJWTClaimsSet_ok_iff.mpr hcs
    have hclaims' : getSVTClaims cs = .ok claims := getSVTClaims_ok_iff.mpr hclaims
    have hexp' := (not_expired_iff hcs).mp hexp
    simp [verifySVA, bind, Except.bind, pure, Except.pure, hcs', hexp', hkey, huri, hsig,
      hclaims', hclaimsAlgo, hb]

/-- The defect of `verifySVA` at one input: nothing throws, and the signature
check says no. -/
def SignatureDropped (env : SvtEnv Cert) (now : Date) (jwt : SignedJWT)
    (key : PublicKey) : Prop :=
  PassesThrowingChecks env now jwt key ∧ env.jwsVerify jwt key = .ok false

/-- A normal return means a verified token except on a dropped signature. -/
theorem verified_of_not_dropped {env : SvtEnv Cert} {now : Date} {jwt : SignedJWT}
    {key : PublicKey} (hnot : ¬ SignatureDropped env now jwt key)
    (h : verifySVA env now jwt key = .ok ()) : SVAVerified env now jwt key := by
  obtain ⟨hpass, b, hb⟩ := verifySVA_ok_iff.mp h
  cases b with
  | true => exact ⟨hb, hpass.notExpired, hpass.hashAlgo⟩
  | false => exact absurd ⟨hpass, hb⟩ hnot

/-! ## Selection of the most recent token -/

/-- `getSVTIssueDate`: the issue time, `null` when the claim is absent, and the
epoch when the claims cannot be read. -/
def getSVTIssueDate (jwt : SignedJWT) : Option Date :=
  match jwt.getJWTClaimsSet with
  | .ok cs => cs.issueTime
  | .error _ => some 0

/-- `compareSVTIssueDate`: negative when the first token is more recent. -/
def compareSVTIssueDate (o1 o2 : SignedJWT) : Outcome Int := do
  let date1 ← deref (getSVTIssueDate o1)
  let date2 ← deref (getSVTIssueDate o2)
  pure (if date1 > date2 then -1 else 1)

/-- `getMostRecentJwt`: `null` on an empty list. -/
def getMostRecentJwt (signedJWTList : List SignedJWT) : Outcome (Option SignedJWT) :=
  if signedJWTList.isEmpty then .ok none
  else do
    let sorted ← sortWith compareSVTIssueDate signedJWTList
    pure sorted.head?

end SVAUtils

end SigVal.Commons
