import SigVal.Lib.Dom
import SigVal.Commons.SVAUtils

/-!
# SVT tokens on XML and JOSE signatures

`XMLSVTValidator` and `JOSESVTValidator` find the tokens carried by a
signature, keep those that `verifyJWT` accepts, select the most recent one and
collect the data the token is compared with. The two classes share the token
handling text by text; it is defined once, over the validator's configuration,
and each class keeps its own token search and its own reference data.
-/

namespace SigVal.Svt

open SigVal.Java SigVal.Commons SigVal.Dom

variable {Cert : Type}

/-- The two collaborators of an SVT validator: the validator of the SVT signing
certificate and the configured supporting certificates. -/
structure SVTValidatorConfig (Cert : Type) where
  svaCertVerifier : Cert → List Cert → Outcome Unit
  supportingCertificates : List Cert

/-- `JWTCerts`. -/
structure JWTCerts (Cert : Type) where
  signingCert : Option Cert
  supportingCertList : List Cert

def certMatchKeyId (env : SvtEnv Cert) (cert : Cert) (keyID : String)
    (algorithm : JWSAlgorithm) : Bool :=
  match env.certDigest algorithm cert with
  | .ok certHashVal => keyID == certHashVal
  | .error _ => false

def getJWTCerts (env : SvtEnv Cert) (x509CertChain : Option (List Bytes)) : List Cert :=
  match x509CertChain with
  | none => []
  | some chain => chain.filterMap env.getCertOrNull

/-- `getAllJwtCerts`: a key identifier must name one of the certificates at
hand; without one the first certificate of the header signs. -/
def getAllJwtCerts (env : SvtEnv Cert) (cfg : SVTValidatorConfig Cert)
    (algorithm : JWSAlgorithm) (keyID : Option String) (jwtCertList : List Cert) :
    JWTCerts Cert :=
  let signerCert :=
    match keyID with
    | some k =>
        if k ≠ "" then
          (cfg.supportingCertificates.find? fun c => certMatchKeyId env c k algorithm).or
            (jwtCertList.find? fun c => certMatchKeyId env c k algorithm)
        else jwtCertList.head?
    | none => jwtCertList.head?
  match signerCert with
  | some c => ⟨some c, cfg.supportingCertificates ++ jwtCertList⟩
  | none => ⟨none, []⟩

/-- The certificates `verifyJWT` works with for a token. -/
def jwtCertsOf (env : SvtEnv Cert) (cfg : SVTValidatorConfig Cert) (jwt : SignedJWT) :
    JWTCerts Cert :=
  getAllJwtCerts env cfg jwt.header.algorithm jwt.header.keyID
    (getJWTCerts env jwt.header.x509CertChain)

def verifyJWT (env : SvtEnv Cert) (cfg : SVTValidatorConfig Cert) (now : Date)
    (jwt : SignedJWT) : Outcome Unit := do
  let jwtCerts := jwtCertsOf env cfg jwt
  match jwtCerts.signingCert with
  | none => throw ⟨.io, "Unable to locate a SVT signing certificate"⟩
  | some signingCert => do
      cfg.svaCertVerifier signingCert jwtCerts.supportingCertList
      SVAUtils.verifySVA env now jwt (env.getPublicKey signingCert)

/-- The loop of `getSignatureSVTData`: a token that does not parse or does not
verify is logged and left out. -/
def verifiedTokens (env : SvtEnv Cert) (cfg : SVTValidatorConfig Cert) (now : Date)
    (svaTokenList : List String) : List SignedJWT :=
  svaTokenList.filterMap fun token =>
    match env.parse token with
    | .error _ => none
    | .ok jwt =>
        match verifyJWT env cfg now jwt with
        | .ok () => some jwt
        | .error _ => none

theorem verifyJWT_ok_iff {env : SvtEnv Cert} {cfg : SVTValidatorConfig Cert} {now : Date}
    {jwt : SignedJWT} :
    verifyJWT env cfg now jwt = .ok () ↔
      ∃ cert, (jwtCertsOf env cfg jwt).signingCert = some cert ∧
        cfg.svaCertVerifier cert (jwtCertsOf env cfg jwt).supportingCertList = .ok () ∧
        SVAUtils.verifySVA env now jwt (env.getPublicKey cert) = .ok () := by
  unfold verifyJWT
  cases hcert : (jwtCertsOf env cfg jwt).signingCert with
  | none => simp [hcert, throw, throwThe, MonadExceptOf.throw]
  | some cert =>
      simp only [hcert, Option.some.injEq, exists_eq_left']
      constructor
      · intro h
        obtain ⟨_, hvalid, hsva⟩ := bind_ok_iff.mp h
        exact ⟨hvalid, hsva⟩
      · rintro ⟨hvalid, hsva⟩
        exact bind_ok_iff.mpr ⟨(), hvalid, hsva⟩

theorem mem_verifiedTokens {env : SvtEnv Cert} {cfg : SVTValidatorConfig Cert} {now : Date}
    {tokens : List String} {jwt : SignedJWT} :
    jwt ∈ verifiedTokens env cfg now tokens ↔
      ∃ token ∈ tokens, env.parse token = .ok jwt ∧ verifyJWT env cfg now jwt = .ok () := by
  unfold verifiedTokens
  rw [List.mem_filterMap]
  constructor
  · rintro ⟨token, hmem, hsome⟩
    cases hparse : env.parse token with
    | error e => simp [hparse] at hsome
    | ok jwt' =>
        cases hverify : verifyJWT env cfg now jwt' with
        | error e => simp [hparse, hverify] at hsome
        | ok u =>
            have heq : jwt' = jwt := by simpa [hparse, hverify] using hsome
            subst heq
            exact ⟨token, hmem, hparse, hverify⟩
  · rintro ⟨token, hmem, hparse, hverify⟩
    exact ⟨token, hmem, by simp [hparse, hverify]⟩

/-! ## Signature match shared by the two classes -/

/-- The first claims entry whose signature hash is the computed one. -/
def matchSignatureClaims (svtClaims : SVTClaims) (signatureHash : String) :
    Outcome SignatureClaims := do
  let sigClaims ← deref svtClaims.sig
  match sigClaims.find? fun claims => claims.sigRef.sigHash == signatureHash with
  | some claims => pure claims
  | none =>
      throw ⟨.runtime, "The validated SVT claims does not match the present signature"⟩

/-- With one entry the computed hash has to be its own. -/
theorem matchSignatureClaims_singleton {hashAlgo : Option String} {claims : SignatureClaims}
    {signatureHash : String} (h : claims.sigRef.sigHash = signatureHash) :
    matchSignatureClaims ⟨hashAlgo, some [claims]⟩ signatureHash = .ok claims := by
  have hfound : [claims].find? (fun claims => claims.sigRef.sigHash == signatureHash) =
      some claims := List.find?_cons_of_pos (beq_iff_eq.mpr h)
  unfold matchSignatureClaims
  simp only [deref, hfound, bind, Except.bind]
  rfl

def encodeChain (env : SvtEnv Cert) (chain : List Cert) : Outcome (List Bytes) :=
  chain.mapM env.getEncoded

/-! ## XML -/

namespace XMLSVTValidator

def xmldsigNS : String := "http://www.w3.org/2000/09/xmldsig#"
def xmlSvtNS : String := "http://id.swedenconnect.se/svt/1.0/sig-prop/ns"

/-- `SignatureData` of an XML signature, as far as SVT validation reads it.
`refDataMap` lists the map's entries in iteration order. -/
structure SignatureData (Cert : Type) where
  signatureId : Option String
  refDataMap : List (String × Bytes)
  signatureBytes : Bytes
  signedInfoBytes : Bytes
  signatureCertChain : List Cert

structure XMLSigValInput (Cert : Type) where
  signatureElement : Node
  signatureData : SignatureData Cert

/-- Every token below every `ds:Object` of the signature element. -/
def getSignatureSvaTokens (signatureElement : Node) : List String :=
  (signatureElement.getElementsByTagNameNS xmldsigNS "Object").flatMap fun sigObj =>
    (sigObj.getElementsByTagNameNS xmlSvtNS "SignatureValidationToken").map Node.textContent

def collectSignatureSVTData (env : SvtEnv Cert) (input : XMLSigValInput Cert)
    (mostRecentJwt : Option SignedJWT) : Outcome SignatureSVTData := do
  let jwt ← deref mostRecentJwt
  let cs ← jwt.getJWTClaimsSet
  let svtClaims ← SVAUtils.getSVTClaims cs
  let digestAlgorithm ← DigestAlgorithmRegistry.get env.registry svtClaims.hashAlgo
  let signatureData := input.signatureData
  let signatureHash ← env.toBase64Digest digestAlgorithm signatureData.signatureBytes
  let signedInfoHash ← env.toBase64Digest digestAlgorithm signatureData.signedInfoBytes
  let signatureClaims ← matchSignatureClaims svtClaims signatureHash
  let signedDataRefList ← signatureData.refDataMap.mapM fun ref => do
    let hash ← env.toBase64Digest digestAlgorithm ref.2
    pure (⟨ref.1, hash⟩ : SignedDataClaims)
  let certList ← encodeChain env signatureData.signatureCertChain
  pure
    { signedJWT := jwt
      signatureReference := ⟨signatureData.signatureId, signatureHash, signedInfoHash⟩
      signatureClaims := signatureClaims
      signedDataRefList := signedDataRefList
      signerCertChain := certList }

def getSignatureSVTData (env : SvtEnv Cert) (cfg : SVTValidatorConfig Cert) (now : Date)
    (input : XMLSigValInput Cert) : Outcome (List SignatureSVTData) := do
  let signedJWTList := verifiedTokens env cfg now (getSignatureSvaTokens input.signatureElement)
  let mostRecentJwt ← SVAUtils.getMostRecentJwt signedJWTList
  let data ← collectSignatureSVTData env input mostRecentJwt
  pure [data]

end XMLSVTValidator

/-! ## JOSE -/

namespace JOSESVTValidator

/-- A value of an unprotected header parameter, as far as the code tells the
classes apart. -/
inductive JsonValue where
  | string (s : String)
  | list (items : List JsonValue)
  | other

/-- `JOSESignatureData`, as far as SVT validation reads it. The two texts are
the base64url forms of the protected header and of the payload. -/
structure JOSESignatureData (Cert : Type) where
  detached : Bool
  headerBase64URL : String
  payloadBase64URL : String
  payload : Bytes
  unprotectedHeader : Option (List (String × JsonValue))
  signatureBytes : Bytes
  signatureCertChain : List Cert

def getSignatureSvaTokens (unprotectedHeader : Option (List (String × JsonValue))) :
    List String :=
  match unprotectedHeader with
  | none => []
  | some params =>
      match params.lookup "svt" with
      | some (.list items) =>
          items.filterMap fun item =>
            match item with
            | .string s => some s
            | _ => none
      | _ => []

def collectSignatureSVTData (env : SvtEnv Cert) (signatureData : JOSESignatureData Cert)
    (mostRecentJwt : Option SignedJWT) : Outcome SignatureSVTData := do
  let jwt ← deref mostRecentJwt
  let cs ← jwt.getJWTClaimsSet
  let svtClaims ← SVAUtils.getSVTClaims cs
  let digestAlgorithm ← DigestAlgorithmRegistry.get env.registry svtClaims.hashAlgo
  let tbsString := signatureData.headerBase64URL ++ "." ++ signatureData.payloadBase64URL
  let signedBytes := tbsString.toUTF8.toList
  let signatureHash ← env.toBase64Digest digestAlgorithm signatureData.signatureBytes
  let signedInfoHash ← env.toBase64Digest digestAlgorithm signedBytes
  let signatureClaims ← matchSignatureClaims svtClaims signatureHash
  let payloadHash ← env.toBase64Digest digestAlgorithm signatureData.payload
  let certList ← encodeChain env signatureData.signatureCertChain
  pure
    { signedJWT := jwt
      signatureReference := ⟨none, signatureHash, signedInfoHash⟩
      signatureClaims := signatureClaims
      signedDataRefList :=
        [⟨if signatureData.detached then "detached" else "payload", payloadHash⟩]
      signerCertChain := certList }

def getSignatureSVTData (env : SvtEnv Cert) (cfg : SVTValidatorConfig Cert) (now : Date)
    (signatureData : JOSESignatureData Cert) : Outcome (List SignatureSVTData) := do
  let signedJWTList :=
    verifiedTokens env cfg now (getSignatureSvaTokens signatureData.unprotectedHeader)
  let mostRecentJwt ← SVAUtils.getMostRecentJwt signedJWTList
  let data ← collectSignatureSVTData env signatureData mostRecentJwt
  pure [data]

end JOSESVTValidator

/-! ## The selected token

Both validators hand out the data of the token they selected, and the selected
token went through `verifyJWT`. What that is worth is what `verifySVA` is
worth. -/

/-- What the data of an XML signature is collected from. -/
theorem XMLSVTValidator.collect_ok {env : SvtEnv Cert}
    {input : XMLSVTValidator.XMLSigValInput Cert} {jwt : Option SignedJWT}
    {data : SignatureSVTData}
    (h : XMLSVTValidator.collectSignatureSVTData env input jwt = .ok data) :
    ∃ cs svtClaims digestAlgorithm, jwt = some data.signedJWT ∧
      data.signedJWT.claimsSet = some cs ∧ cs.sigValClaims = some svtClaims ∧
      DigestAlgorithmRegistry.get env.registry svtClaims.hashAlgo = .ok digestAlgorithm ∧
      data.signatureReference.id = input.signatureData.signatureId ∧
      (input.signatureData.refDataMap.mapM fun ref => do
        let hash ← env.toBase64Digest digestAlgorithm ref.2
        pure (⟨ref.1, hash⟩ : SignedDataClaims)) = .ok data.signedDataRefList := by
  unfold XMLSVTValidator.collectSignatureSVTData at h
  obtain ⟨j, hj, h⟩ := bind_ok_iff.mp h
  obtain ⟨cs, hcs, h⟩ := bind_ok_iff.mp h
  obtain ⟨svtClaims, hclaims, h⟩ := bind_ok_iff.mp h
  obtain ⟨digestAlgorithm, halgorithm, h⟩ := bind_ok_iff.mp h
  obtain ⟨signatureHash, -, h⟩ := bind_ok_iff.mp h
  obtain ⟨signedInfoHash, -, h⟩ := bind_ok_iff.mp h
  obtain ⟨signatureClaims, -, h⟩ := bind_ok_iff.mp h
  obtain ⟨signedDataRefList, hrefs, h⟩ := bind_ok_iff.mp h
  obtain ⟨certList, -, h⟩ := bind_ok_iff.mp h
  cases h
  exact ⟨cs, svtClaims, digestAlgorithm, deref_ok_iff.mp hj,
    SignedJWT.getJWTClaimsSet_ok_iff.mp hcs, SVAUtils.getSVTClaims_ok_iff.mp hclaims, halgorithm,
    rfl, hrefs⟩

theorem XMLSVTValidator.collect_signedJWT {env : SvtEnv Cert}
    {input : XMLSVTValidator.XMLSigValInput Cert} {jwt : Option SignedJWT}
    {data : SignatureSVTData}
    (h : XMLSVTValidator.collectSignatureSVTData env input jwt = .ok data) :
    jwt = some data.signedJWT := by
  obtain ⟨_, _, _, hjwt, -⟩ := XMLSVTValidator.collect_ok h
  exact hjwt

theorem JOSESVTValidator.collect_signedJWT {env : SvtEnv Cert}
    {input : JOSESVTValidator.JOSESignatureData Cert} {jwt : Option SignedJWT}
    {data : SignatureSVTData}
    (h : JOSESVTValidator.collectSignatureSVTData env input jwt = .ok data) :
    jwt = some data.signedJWT := by
  unfold JOSESVTValidator.collectSignatureSVTData at h
  obtain ⟨j, hj, h⟩ := bind_ok_iff.mp h
  obtain ⟨cs, _, h⟩ := bind_ok_iff.mp h
  obtain ⟨claims, _, h⟩ := bind_ok_iff.mp h
  obtain ⟨algo, _, h⟩ := bind_ok_iff.mp h
  obtain ⟨sigHash, _, h⟩ := bind_ok_iff.mp h
  obtain ⟨infoHash, _, h⟩ := bind_ok_iff.mp h
  obtain ⟨sigClaims, _, h⟩ := bind_ok_iff.mp h
  obtain ⟨payloadHash, _, h⟩ := bind_ok_iff.mp h
  obtain ⟨certs, _, h⟩ := bind_ok_iff.mp h
  cases h
  exact deref_ok_iff.mp hj

/-- The token verifies under the key of the signing certificate that was
located and validated for it. -/
def TokenVerified (env : SvtEnv Cert) (cfg : SVTValidatorConfig Cert) (jwt : SignedJWT) : Prop :=
  ∃ cert, (jwtCertsOf env cfg jwt).signingCert = some cert ∧
    cfg.svaCertVerifier cert (jwtCertsOf env cfg jwt).supportingCertList = .ok () ∧
    env.jwsVerify jwt (env.getPublicKey cert) = .ok true

/-! ## An environment without tokens -/

/-- No text is a token, and no bytes are a certificate. -/
def emptyEnv : SvtEnv Unit where
  parse := fun _ => .error ⟨.parse, "Invalid serialized JWT"⟩
  jwsVerify := fun _ _ => .ok false
  newVerifier := fun _ => .ok ()
  getDigestAlgoId := fun _ => .ok DigestAlgorithm.idSHA256
  certDigest := fun _ _ => .ok "c"
  toBase64Digest := fun _ _ => .ok "h"
  getCertOrNull := fun _ => none
  getPublicKey := fun _ => .rsa [1]
  getEncoded := fun _ => .ok [1]
  registry := [⟨DigestAlgorithm.idSHA256, DigestAlgorithm.oidSHA256⟩]

def trustAll : SVTValidatorConfig Unit where
  svaCertVerifier := fun _ _ => .ok ()
  supportingCertificates := []

end SigVal.Svt
