import SigVal.Jose.DataValidator
import SigVal.Jose.Document
import SigVal.Svt.ClaimsIssuer

/-!
# SVT claims about a JOSE signature

`JOSESVTSigValClaimsIssuer` builds the claims of one signature: the hashes of the
signature value and of what was signed, and a reference to the payload. The token
around the claims is made by `SVTIssuer`, which is a library and a parameter here.
`JOSESVTValidator` hashes the same data when it meets the token again.
-/

namespace SigVal.Jose

open SigVal.Java SigVal.Cert SigVal.Commons SigVal.Svt
open AbstractSVTSigValClaimsIssuer

variable {Cert S : Type}

/-- `SVTExtendpolicy`. -/
inductive SVTExtendpolicy where
  | REPLACE
  | EXTEND
deriving DecidableEq, Repr

/-- `JOSESVTValInput`. -/
structure JOSESVTValInput (Cert S : Type) where
  signatureData : RawJOSESignatureData Cert S
  svtExtendpolicy : SVTExtendpolicy

/-- `SVTIssuer`, set up with an algorithm and used with one `SVTModel`. -/
structure SVTIssuer where
  /-- The identifier of the digest that belongs to the algorithm. -/
  hashAlgoUri : String
  /-- `getSignedSvtJWT`, over the `verify` of the subclass at the given input. -/
  getSignedSvtJWT : (String → Outcome (Option (List IssuedSignatureClaims))) →
    Outcome (Option SignedJWT)

/-- The claims a token carries. -/
def CarriesClaims (jwt : SignedJWT) (hashAlgoUri : String) (claims : List IssuedSignatureClaims) :
    Prop :=
  ∃ claimsSet, jwt.claimsSet = some claimsSet ∧
    claimsSet.sigValClaims =
      some ⟨some hashAlgoUri, some (claims.map (·.toSignatureClaims))⟩

/-- What is documented of the issuer: a token is made from the claims that `verify`
returned for the digest of the issuer, and it carries them. -/
def SVTIssuer.Lawful (svtIssuer : SVTIssuer) : Prop :=
  ∀ verify jwt, svtIssuer.getSignedSvtJWT verify = .ok (some jwt) →
    ∃ claims, verify svtIssuer.hashAlgoUri = .ok (some claims) ∧
      CarriesClaims jwt svtIssuer.hashAlgoUri claims

/-- `JOSESVTSigValClaimsIssuer`. The validator of the signature is an interface. -/
structure JOSESVTSigValClaimsIssuer (Cert S : Type) where
  svtIssuer : SVTIssuer
  defaultBasicValidation : Bool := false
  signatureVerifier : RawJOSESignatureData Cert S → Outcome (JoseResult Cert)

/-- The libraries of a JOSE issuer. -/
structure JoseIssuerEnv (Cert S : Type) extends DocumentEnv Cert S where
  claims : ClaimsIssuerEnv Cert (TimeStamp Cert)

namespace JOSESVTSigValClaimsIssuer

/-- A token is issued when some policy passed. -/
def isIssueSVT (sigResult : JoseResult Cert) : Bool :=
  match sigResult.validationPolicyResultList with
  | some validationPolicyResultList =>
      validationPolicyResultList.any fun policyValidationClaims =>
        policyValidationClaims.res == .PASSED
  | none => false

/-- `DigestAlgorithmRegistry.get(hashAlgoUri).getInstance()`. -/
def digestInstance (env : JoseIssuerEnv Cert S) (hashAlgoUri : String) :
    Outcome (Bytes → Bytes) := do
  let digestAlgorithm ← DigestAlgorithmRegistry.get env.claims.registry (some hashAlgoUri)
  env.claims.getInstance digestAlgorithm

def getDocRefHashes (env : JoseIssuerEnv Cert S) (signatureData : RawJOSESignatureData Cert S)
    (hashAlgoUri : String) : Outcome (List SignedDataClaims) :=
  match signatureData.payload with
  | none => .error ⟨.io, "Missing referenced data in signed document. " ++
      "Unable to collect signed data references for SVT"⟩
  | some payload => do
      let digest ← digestInstance env hashAlgoUri
      pure [⟨if signatureData.detached then "detached" else "payload",
        env.claims.encodeBase64String (digest (payload.toBytes env.lib))⟩]

/-- The text a signature value is made over. -/
def tbsString (header : JWSHeader) (payload : Payload) : String :=
  header.base64URL ++ "." ++ payload.base64URL

def getSigRefData (env : JoseIssuerEnv Cert S) (signatureData : RawJOSESignatureData Cert S)
    (hashAlgoUri : String) : Outcome SigReferenceClaims :=
  match signatureData.signatureBytes, signatureData.header, signatureData.payload with
  | some signatureBytes, some header, some payload => do
      let signedBytes := (tbsString header payload).toUTF8.toList
      let digest ← digestInstance env hashAlgoUri
      pure
        { id := none
          sbHash := env.claims.encodeBase64String (digest signedBytes)
          sigHash := env.claims.encodeBase64String (digest signatureBytes) }
  | _, _, _ => .error ⟨.io, "No signature or signed document bytes available"⟩

/-- `verify`, `null` when no token is to be issued. -/
def verify [DecidableEq Cert] (env : JoseIssuerEnv Cert S)
    (issuer : JOSESVTSigValClaimsIssuer Cert S) (sigValInput : JOSESVTValInput Cert S)
    (hashAlgoUri : String) : Outcome (Option (List IssuedSignatureClaims)) := do
  let signatureData := sigValInput.signatureData
  let sigResult ← issuer.signatureVerifier signatureData
  if isIssueSVT sigResult then do
    let sigRef ← getSigRefData env signatureData hashAlgoUri
    let sigVal ← getSignaturePolicyValidations issuer.defaultBasicValidation sigResult
    let sigDataRef ← getDocRefHashes env signatureData hashAlgoUri
    let timeVal ← timeVal env.claims sigResult hashAlgoUri
    let signerCertRef ← getCertRef env.claims sigResult hashAlgoUri
    pure (some [⟨sigRef, sigVal, sigDataRef, timeVal, signerCertRef⟩])
  else pure none

/-- `getSignedSvtJWT`, inherited, with the `verify` above. -/
def getSignedSvtJWT [DecidableEq Cert] (env : JoseIssuerEnv Cert S)
    (issuer : JOSESVTSigValClaimsIssuer Cert S) (sigValInput : JOSESVTValInput Cert S) :
    Outcome (Option SignedJWT) :=
  issuer.svtIssuer.getSignedSvtJWT (verify env issuer sigValInput)

end JOSESVTSigValClaimsIssuer

/-! ## What the validator of the token sees -/

mutual

/-- The classes of JSON values the validator tells apart. -/
def toJsonValue : Json S → JOSESVTValidator.JsonValue
  | .string s => .string s
  | .array items => .list (toJsonValues items)
  | .scalar _ => .other
  | .object _ => .other

def toJsonValues : List (Json S) → List JOSESVTValidator.JsonValue
  | [] => []
  | item :: rest => toJsonValue item :: toJsonValues rest

end

/-- The data as the validator reads it, once nothing it reads is `null`. -/
def RawJOSESignatureData.toSvtData (lib : JoseLibrary S)
    (signatureData : RawJOSESignatureData Cert S) :
    Option (JOSESVTValidator.JOSESignatureData Cert) := do
  let header ← signatureData.header
  let payload ← signatureData.payload
  let signatureBytes ← signatureData.signatureBytes
  let signatureCertChain ← signatureData.signatureCertChain
  pure
    { detached := signatureData.detached
      headerBase64URL := header.base64URL
      payloadBase64URL := payload.base64URL
      payload := payload.toBytes lib
      unprotectedHeader := signatureData.unprotectedHeader.map fun u =>
        u.map fun param => (param.1, toJsonValue param.2)
      signatureBytes := signatureBytes
      signatureCertChain := signatureCertChain }

/-- A validator that hashes with the registry and the digests of the issuer:
`toBase64Digest` is the base64 form of the digest. -/
def withIssuerDigests (claims : ClaimsIssuerEnv Cert (TimeStamp Cert)) (svt : SvtEnv Cert) :
    SvtEnv Cert :=
  { svt with
    registry := claims.registry
    toBase64Digest := fun digestAlgorithm bytes => do
      let digest ← claims.getInstance digestAlgorithm
      pure (claims.encodeBase64String (digest bytes)) }

theorem toBase64Digest_withIssuerDigests {claims : ClaimsIssuerEnv Cert (TimeStamp Cert)}
    {svt : SvtEnv Cert} {digestAlgorithm : DigestAlgorithm} {digest : Bytes → Bytes}
    (h : claims.getInstance digestAlgorithm = .ok digest) (bytes : Bytes) :
    (withIssuerDigests claims svt).toBase64Digest digestAlgorithm bytes =
      .ok (claims.encodeBase64String (digest bytes)) := by
  show (claims.getInstance digestAlgorithm >>= _) = _
  rw [h]
  rfl

/-! ## The two sides hash the same -/

namespace JOSESVTSigValClaimsIssuer

section Claims

variable {env : JoseIssuerEnv Cert S} {issuer : JOSESVTSigValClaimsIssuer Cert S}
  {signatureData : RawJOSESignatureData Cert S} {hashAlgoUri : String}

/-- The references of the claims, as they are computed. -/
structure Refers (env : JoseIssuerEnv Cert S) (signatureData : RawJOSESignatureData Cert S)
    (hashAlgoUri : String) (claims : IssuedSignatureClaims) (header : JWSHeader)
    (payload : Payload) (signatureBytes : Bytes) (digestAlgorithm : DigestAlgorithm)
    (digest : Bytes → Bytes) : Prop where
  hasHeader : signatureData.header = some header
  hasPayload : signatureData.payload = some payload
  hasSignature : signatureData.signatureBytes = some signatureBytes
  algorithm : DigestAlgorithmRegistry.get env.claims.registry (some hashAlgoUri) =
    .ok digestAlgorithm
  getInstance : env.claims.getInstance digestAlgorithm = .ok digest
  sigRef : claims.sigRef =
    ⟨none, env.claims.encodeBase64String (digest signatureBytes),
      env.claims.encodeBase64String (digest (tbsString header payload).toUTF8.toList)⟩
  sigDataRef : claims.sigDataRef =
    [⟨if signatureData.detached then "detached" else "payload",
      env.claims.encodeBase64String (digest (payload.toBytes env.lib))⟩]

theorem getSigRefData_ok {sigRef : SigReferenceClaims}
    (h : getSigRefData env signatureData hashAlgoUri = .ok sigRef) :
    ∃ header payload signatureBytes digest, signatureData.header = some header ∧
      signatureData.payload = some payload ∧ signatureData.signatureBytes = some signatureBytes ∧
      digestInstance env hashAlgoUri = .ok digest ∧
      sigRef = ⟨none, env.claims.encodeBase64String (digest signatureBytes),
        env.claims.encodeBase64String (digest (tbsString header payload).toUTF8.toList)⟩ := by
  unfold getSigRefData at h
  split at h
  · rename_i signatureBytes header payload hbytes hheader hpayload
    obtain ⟨digest, hdigest, hpure⟩ := bind_ok_iff.mp h
    cases hpure
    exact ⟨header, payload, signatureBytes, digest, hheader, hpayload, hbytes, hdigest, rfl⟩
  · cases h

/-- Claims are built for one signature, from its validation result. -/
theorem verify_some [DecidableEq Cert] {svtExtendpolicy : SVTExtendpolicy}
    {claimsList : List IssuedSignatureClaims}
    (h : verify env issuer ⟨signatureData, svtExtendpolicy⟩ hashAlgoUri = .ok (some claimsList)) :
    ∃ claims sigResult, claimsList = [claims] ∧
      issuer.signatureVerifier signatureData = .ok sigResult ∧ isIssueSVT sigResult = true ∧
      getSigRefData env signatureData hashAlgoUri = .ok claims.sigRef ∧
      getSignaturePolicyValidations issuer.defaultBasicValidation sigResult = .ok claims.sigVal ∧
      getDocRefHashes env signatureData hashAlgoUri = .ok claims.sigDataRef ∧
      timeVal env.claims sigResult hashAlgoUri = .ok claims.timeVal := by
  unfold verify at h
  obtain ⟨sigResult, hresult, h⟩ := bind_ok_iff.mp h
  dsimp only at h
  split at h
  · rename_i hissue
    obtain ⟨sigRef, hsigRef, h⟩ := bind_ok_iff.mp h
    obtain ⟨sigVal, hsigVal, h⟩ := bind_ok_iff.mp h
    obtain ⟨sigDataRef, hsigDataRef, h⟩ := bind_ok_iff.mp h
    obtain ⟨timeVal, htimeVal, h⟩ := bind_ok_iff.mp h
    obtain ⟨signerCertRef, -, h⟩ := bind_ok_iff.mp h
    cases h
    exact ⟨_, sigResult, rfl, hresult, hissue, hsigRef, hsigVal, hsigDataRef, htimeVal⟩
  · cases h

/-- Claims are built with nothing missing. -/
theorem verify_refers [DecidableEq Cert] {svtExtendpolicy : SVTExtendpolicy}
    {claimsList : List IssuedSignatureClaims}
    (h : verify env issuer ⟨signatureData, svtExtendpolicy⟩ hashAlgoUri = .ok (some claimsList)) :
    ∃ claims header payload signatureBytes digestAlgorithm digest, claimsList = [claims] ∧
      Refers env signatureData hashAlgoUri claims header payload signatureBytes digestAlgorithm
        digest := by
  obtain ⟨claims, _, rfl, -, -, hsigRef, -, hsigDataRef, -⟩ := verify_some h
  obtain ⟨header, payload, signatureBytes, digest, hheader, hpayload, hbytes, hdigest, hrefs⟩ :=
    getSigRefData_ok hsigRef
  obtain ⟨digestAlgorithm, halgorithm, hinstance⟩ := bind_ok_iff.mp hdigest
  unfold getDocRefHashes at hsigDataRef
  simp only [hpayload, hdigest] at hsigDataRef
  exact ⟨claims, header, payload, signatureBytes, digestAlgorithm, digest, rfl, hheader, hpayload,
    hbytes, halgorithm, hinstance, hrefs, (Except.ok.inj hsigDataRef).symm⟩

/-- The reference data the validator collects is the data of the claims. The chain of
certificates has to be encoded too, and that is all that can fail. -/
def Collects (svt : SvtEnv Cert) (svtData : JOSESVTValidator.JOSESignatureData Cert)
    (jwt : SignedJWT) (claims : IssuedSignatureClaims) : Prop :=
  JOSESVTValidator.collectSignatureSVTData svt svtData (some jwt) = do
    let signerCertChain ← encodeChain svt svtData.signatureCertChain
    pure
      { signedJWT := jwt
        signatureReference := claims.sigRef
        signatureClaims := claims.toSignatureClaims
        signedDataRefList := claims.sigDataRef
        signerCertChain := signerCertChain }

/-- **The same hashes.** From a signature with the same header, payload, value and
place of the payload the validator collects the references of the claims. -/
theorem collects_of_refers {claims : IssuedSignatureClaims} {header : JWSHeader}
    {payload : Payload} {signatureBytes : Bytes} {digestAlgorithm : DigestAlgorithm}
    {digest : Bytes → Bytes}
    (href : Refers env signatureData hashAlgoUri claims header payload signatureBytes
      digestAlgorithm digest)
    {jwt : SignedJWT} (hcarries : CarriesClaims jwt hashAlgoUri [claims]) (svt : SvtEnv Cert)
    {svtData : JOSESVTValidator.JOSESignatureData Cert}
    (hheader : svtData.headerBase64URL = header.base64URL)
    (hpayload : svtData.payloadBase64URL = payload.base64URL)
    (hbytes : svtData.payload = payload.toBytes env.lib)
    (hdetached : svtData.detached = signatureData.detached)
    (hsignature : svtData.signatureBytes = signatureBytes) :
    Collects (withIssuerDigests env.claims svt) svtData jwt claims := by
  obtain ⟨claimsSet, hclaimsSet, hsvtClaims⟩ := hcarries
  have hget : jwt.getJWTClaimsSet = .ok claimsSet := SignedJWT.getJWTClaimsSet_ok_iff.mpr hclaimsSet
  have hsvt := SVAUtils.getSVTClaims_ok_iff.mpr hsvtClaims
  -- one digest gives all three hashes
  have hhash : ∀ bytes, (withIssuerDigests env.claims svt).toBase64Digest digestAlgorithm bytes =
      .ok (env.claims.encodeBase64String (digest bytes)) :=
    toBase64Digest_withIssuerDigests href.getInstance
  have halgorithm : DigestAlgorithmRegistry.get (withIssuerDigests env.claims svt).registry
      (some hashAlgoUri) = .ok digestAlgorithm := href.algorithm
  -- the only entry is the one with this signature hash
  have hmatch : matchSignatureClaims
      ⟨some hashAlgoUri, some ([claims].map (·.toSignatureClaims))⟩
      (env.claims.encodeBase64String (digest signatureBytes)) = .ok claims.toSignatureClaims :=
    matchSignatureClaims_singleton (congrArg SigReferenceClaims.sigHash href.sigRef)
  unfold Collects JOSESVTValidator.collectSignatureSVTData
  rw [href.sigRef, href.sigDataRef, hheader, hpayload, hbytes, hdetached, hsignature]
  simp only [deref, hget, hsvt, halgorithm, hhash, hmatch, bind, Except.bind, pure, Except.pure]
  rfl

/-- The same on the data as the parser fills it in. -/
theorem collects_of_same {claims : IssuedSignatureClaims} {header : JWSHeader} {payload : Payload}
    {signatureBytes : Bytes} {digestAlgorithm : DigestAlgorithm} {digest : Bytes → Bytes}
    (href : Refers env signatureData hashAlgoUri claims header payload signatureBytes
      digestAlgorithm digest)
    {jwt : SignedJWT} (hcarries : CarriesClaims jwt hashAlgoUri [claims]) (svt : SvtEnv Cert)
    {new : RawJOSESignatureData Cert S} {certs : List Cert}
    (hheader : new.header = signatureData.header) (hpayload : new.payload = signatureData.payload)
    (hsignature : new.signatureBytes = signatureData.signatureBytes)
    (hdetached : new.detached = signatureData.detached)
    (hcerts : new.signatureCertChain = some certs) :
    ∃ svtData, new.toSvtData env.lib = some svtData ∧
      Collects (withIssuerDigests env.claims svt) svtData jwt claims := by
  have hdata : new.toSvtData env.lib = some
      { detached := new.detached
        headerBase64URL := header.base64URL
        payloadBase64URL := payload.base64URL
        payload := payload.toBytes env.lib
        unprotectedHeader := new.unprotectedHeader.map fun u =>
          u.map fun param => (param.1, toJsonValue param.2)
        signatureBytes := signatureBytes
        signatureCertChain := certs } := by
    unfold RawJOSESignatureData.toSvtData
    rw [hheader, hpayload, hsignature, hcerts, href.hasHeader, href.hasPayload, href.hasSignature]
    rfl
  exact ⟨_, hdata, collects_of_refers href hcarries svt rfl rfl rfl hdetached rfl⟩

end Claims

end JOSESVTSigValClaimsIssuer

end SigVal.Jose
