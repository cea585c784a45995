import SigVal.Lib.Mutating

/-!
# Certificate status

`ValidationStatus` of the `cert-validation` module, and what its two sources
work with: certificate revocation lists and OCSP responses. Certificates, lists
and their cryptography belong to the libraries; `StatusEnv` holds what the code
asks of them.
-/

namespace SigVal.Cert

open SigVal.Java

/-- `ValidationStatus.CertificateValidity`. -/
inductive CertificateValidity where
  | VALID
  | INVALID
  | REVOKED
  | UNKNOWN
deriving DecidableEq, Repr

/-- `ValidationStatus.ValidatorSourceType`. -/
inductive ValidatorSourceType where
  | OCSP
  | CRL
  | SELF_SIGNED
deriving DecidableEq, Repr

/-- `ValidationStatus`; what a builder does not set has its default. Every
status the code makes for a certificate names that certificate. -/
structure ValidationStatus (Cert : Type) where
  certificate : Cert
  issuer : Option Cert := none
  validity : CertificateValidity
  valdationSourceLocation : Option String := none
  sourceType : Option ValidatorSourceType := none
  revocationObjectIssuingTime : Option Date := none
  revocationTime : Option Date := none
  validationTime : Option Date := none
  statusSignerCertificate : Option Cert := none
  statusSignerCertificateChain : Option (List Cert) := none
  statusSignatureValid : Bool := false
  reason : Int := 0
  exception : Option Exn := none
deriving DecidableEq, Repr

/-! ## Revocation lists -/

/-- `CRLReason`, with the code `getReasonCode` gives it. -/
inductive CRLReason where
  | unspecified
  | keyCompromise
  | caCompromise
  | affiliationChanged
  | superseded
  | cessationOfOperation
  | certificateHold
  | unused
  | removeFromCRL
  | privilegeWithdrawn
  | aaCompromise
deriving DecidableEq, Repr

def getReasonCode : CRLReason → Int
  | .keyCompromise => 1
  | .caCompromise => 2
  | .affiliationChanged => 3
  | .superseded => 4
  | .cessationOfOperation => 5
  | .certificateHold => 6
  | .removeFromCRL => 8
  | .privilegeWithdrawn => 9
  | .aaCompromise => 10
  | .unspecified => 0
  | .unused => 0

/-- `X509CRLEntry`. -/
structure CRLEntry where
  revocationDate : Date
  revocationReason : Option CRLReason

/-- `CRLInfo`: a list and where it came from. -/
structure CRLInfo (Crl : Type) where
  location : String
  crl : Crl
deriving DecidableEq

/-! ## OCSP responses -/

/-- The certificate status of a response entry. -/
inductive CertStatus where
  | good
  | revoked (revocationTime : Date) (revocationReason : Option Int)
  | unknown
deriving DecidableEq, Repr

structure SingleResp where
  certID : String
  certStatus : CertStatus
  thisUpdate : Date
  nextUpdate : Option Date
deriving DecidableEq, Repr

structure BasicOCSPResp (Cert : Type) where
  certs : Outcome (List Cert)
  isSignatureValid : Cert → Outcome Bool
  nonceExtension : Option Bytes
  producedAt : Date
  responses : List SingleResp

structure OCSPResp (Cert : Type) where
  status : Nat
  responseObject : Outcome (Option (BasicOCSPResp Cert))

/-! ## The libraries and the network -/

/-- What status checking asks of certificates, lists and responders. -/
structure StatusEnv (Cert Crl : Type) where
  now : Date
  /-- `crlCache.getCRL` on the distribution points of the certificate. -/
  getCRL : Cert → Outcome (CRLInfo Crl)
  /-- `crl.verify(issuer.getPublicKey())`. -/
  crlVerify : Crl → Cert → Outcome Unit
  isRevoked : Crl → Cert → Bool
  getRevokedCertificate : Crl → Cert → Option CRLEntry
  getOCSPUrl : Cert → Outcome (Option String)
  /-- The identifier of a certificate under its issuer, in DER. -/
  certificateID : Cert → Cert → Outcome String
  /-- The nonce of a request, when one is configured. -/
  nonce : Option Bytes
  /-- The DER octet string around a nonce. -/
  wrapNonce : Bytes → Bytes
  requestOCSPResponse : String → String → Option Bytes → Outcome (OCSPResp Cert)
  isCurrentlyValid : Cert → Bool
  /-- `cert.verify(issuer.getPublicKey())`. -/
  certVerify : Cert → Cert → Outcome Unit
  getBasicConstraints : Cert → Int
  getKeyUsage : Cert → Option (List Bool)
  getExtendedKeyUsage : Cert → Outcome (Option (List String))
  isOCSPNocheckExt : Cert → Bool

/-! ## `CRLValidityChecker` -/

section Sources

variable {Cert Crl : Type}

namespace CRLValidityChecker

/-- The body of `checkValidity`. -/
def checkList (env : StatusEnv Cert Crl) (certificate issuer : Cert) :
    Mutating (ValidationStatus Cert) Unit := do
  let crlInfo ← Mutating.call (env.getCRL certificate)
  modify ({ · with valdationSourceLocation := some crlInfo.location })
  Mutating.call (env.crlVerify crlInfo.crl issuer)
  modify
    ({ · with
      statusSignatureValid := true
      issuer := some issuer
      statusSignerCertificate := some issuer
      statusSignerCertificateChain := some [issuer] })
  if env.isRevoked crlInfo.crl certificate then
    modify ({ · with validity := .REVOKED })
    let crlEntry ← Mutating.call (deref (env.getRevokedCertificate crlInfo.crl certificate))
    modify ({ · with revocationTime := some crlEntry.revocationDate })
    match crlEntry.revocationReason with
    | some reason => modify ({ · with reason := getReasonCode reason })
    | none => pure ()
  else modify ({ · with validity := .VALID })

/-- `CRLValidityChecker.checkValidity`. -/
def checkValidity (env : StatusEnv Cert Crl) (certificate issuer : Cert) :
    ValidationStatus Cert :=
  Mutating.tryCatch (checkList env certificate issuer)
    (fun ex status => { status with exception := some ex })
    { certificate := certificate
      validity := .UNKNOWN
      sourceType := some .CRL
      validationTime := some env.now }

end CRLValidityChecker

/-! ## `OCSPCertificateVerifier` -/

namespace OCSPCertificateVerifier

def responseStatus : List String :=
  ["SUCCESSFUL", "MALFORMED_REQUEST", "INTERNAL_ERROR", "TRY_LATER", "NO_USED", "SIG_REQUIRED",
    "UNAUTHORIZED"]

/-- `checkResponseSignature`: every certificate is tried, and the last one that
verifies the response is the signer. A failed attempt is swallowed. -/
def checkResponseSignature (issuer : Cert) (basicOCSPResp : BasicOCSPResp Cert) :
    Mutating (ValidationStatus Cert) Unit := do
  let responseCerts ← Mutating.call basicOCSPResp.certs
  let certList := if responseCerts.isEmpty then [issuer] else responseCerts
  for cert in certList do
    match basicOCSPResp.isSignatureValid cert with
    | .ok true =>
        modify
          ({ · with
            statusSignerCertificate := some cert
            statusSignerCertificateChain := some certList
            statusSignatureValid := true })
    | .ok false => pure ()
    | .error ex => if ex.cls = .ocsp then pure () else throw ex

def checkNonce (env : StatusEnv Cert Crl) (basicOCSPResp : BasicOCSPResp Cert) : Outcome Unit :=
  match basicOCSPResp.nonceExtension, env.nonce with
  | none, _ => .ok ()
  | some _, none =>
      .error ⟨.io, "There is a nonce in the response but no nonce was sent in the request"⟩
  | some responseNonce, some nonce =>
      if responseNonce.length > 1024 then .error ⟨.io, "Response nonce has illegal content"⟩
      else if env.wrapNonce nonce = responseNonce then .ok ()
      else if nonce = responseNonce then .ok ()
      else .error ⟨.io, "Nonce in request does not match nonce provided in the response"⟩

/-- One response entry for the certificate. A revocation without a reason
throws before the validity is set. -/
def processSingleResp (validationDate : Date) (producedAt : Date) (singleResp : SingleResp) :
    Mutating (ValidationStatus Cert) Unit := do
  modify ({ · with revocationObjectIssuingTime := some producedAt })
  match singleResp.certStatus with
  | .good => modify ({ · with validity := .VALID })
  | .revoked revocationTime revocationReason =>
      if validationDate < revocationTime then modify ({ · with validity := .VALID })
      else
        modify
          ({ · with
            revocationTime := some revocationTime
            revocationObjectIssuingTime := some singleResp.thisUpdate })
        match revocationReason with
        | some reason => modify ({ · with reason := reason, validity := .REVOKED })
        | none => throw ⟨.runtime, "attempt to get a reason where none is available"⟩
  | .unknown => pure ()

/-- The body of `checkValidity`. -/
def checkResponse (env : StatusEnv Cert Crl) (certificate issuer : Cert) (validationDate : Date) :
    Mutating (ValidationStatus Cert) Unit := do
  match ← Mutating.call (env.getOCSPUrl certificate) with
  | none => modify ({ · with statusSignatureValid := false })
  | some ocspUrl =>
      modify ({ · with valdationSourceLocation := some ocspUrl })
      let certificateId ← Mutating.call (env.certificateID issuer certificate)
      let ocspResp ← Mutating.call (env.requestOCSPResponse ocspUrl certificateId env.nonce)
      if ocspResp.status ≠ 0 then
        modify ({ · with validity := .INVALID })
        let name ← Mutating.call (arrayGet responseStatus ocspResp.status)
        modify
          ({ · with
            exception :=
              some ⟨.io, "OCSP response is invalid from" ++ ocspUrl ++ " - Status: " ++ name⟩ })
      else
        let responseObject ← Mutating.call ocspResp.responseObject
        let basicOCSPResp ← Mutating.call (deref responseObject)
        checkResponseSignature issuer basicOCSPResp
        Mutating.call (checkNonce env basicOCSPResp)
        let singleResps := basicOCSPResp.responses.filter fun r => r.certID == certificateId
        for singleResp in singleResps do
          processSingleResp validationDate basicOCSPResp.producedAt singleResp
        if singleResps.isEmpty then
          modify
            ({ · with exception := some ⟨.io, "There are no matching OCSP response entries"⟩ })

/-- `OCSPCertificateVerifier.checkValidity(validationDate)`. -/
def checkValidity (env : StatusEnv Cert Crl) (certificate issuer : Cert) (validationDate : Date) :
    ValidationStatus Cert :=
  Mutating.tryCatch (checkResponse env certificate issuer validationDate)
    (fun ex status => { status with exception := some ex })
    { certificate := certificate
      issuer := some issuer
      validity := .UNKNOWN
      sourceType := some .OCSP
      validationTime := some validationDate }

end OCSPCertificateVerifier

end Sources

end SigVal.Cert
