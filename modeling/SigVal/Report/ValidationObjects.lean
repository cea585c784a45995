import SigVal.Lib.HashMap
import SigVal.Lib.Mutating
import SigVal.Commons.SVAUtils
import SigVal.Cert.PathValidator

/-!
# Validation objects of a report

`ValidationObjectProcessor`: the certificates, the time evidence and the signed
documents behind the results of a validation are collected in one map, each under an id
that is made of a digest. A report stores them once and refers to them by their id,
which it computes anew from the same data.

The results are taken with the fields a report reads, `null` where Java allows it.
-/

namespace SigVal.Report

open SigVal.Java SigVal.Cert SigVal.Commons

variable {Cert : Type}

/-! ## What a report is made from -/

/-- `TimeValidationClaims`; of its policy results only the conclusion is read. -/
structure TimeValidationClaims where
  time : Int
  hash : Option String
  val : Option (List (Option ValidationConclusion))
deriving DecidableEq, Repr

/-- `TimeValidationResult`, with the bytes of the timestamp it holds. -/
structure TimeValidationResult (Cert : Type) where
  timeValidationClaims : Option TimeValidationClaims
  certificateValidationResult : Option (CertificateValidationResult Cert)
  timeStamp : Option (Option Bytes)

/-- The result of validating one signature. -/
structure SigValResult (Cert : Type) where
  status : Status
  statusMessage : Option String
  signerCertificate : Option Cert
  signatureCertificateChain : Option (List Cert)
  signatureAlgorithm : Option String
  certificateValidationResult : Option (CertificateValidationResult Cert)
  coversDocument : Bool
  signedDocument : Option Bytes
  claimedSigningTime : Option Date
  validationPolicyResultList : Option (List PolicyValidationClaims)
  timeValidationResults : Option (List (Option (TimeValidationResult Cert)))
  signatureClaims : Option SignatureClaims
  svtJWT : Option SignedJWT

/-- The libraries behind the ids. -/
structure ObjectEnv (Cert : Type) where
  getEncoded : Cert → Outcome Bytes
  registry : DigestRegistry
  /-- `DigestAlgorithm.getInstance`. -/
  getInstance : DigestAlgorithm → Outcome (Bytes → Bytes)
  base64Decode : String → Outcome Bytes

/-! ## The objects -/

inductive ValidationObjectType where
  | certificate
  | CRL
  | OCSPResponse
  | timestamp
  | evidencerecord
  | publicKey
  | signedData
  | svt
  | verifiedTime
  | other
deriving DecidableEq, Repr

namespace ValidationObjectType

def getPrefix : ValidationObjectType → String
  | certificate => "C"
  | CRL => "CRL"
  | OCSPResponse => "O"
  | timestamp => "T"
  | evidencerecord => "E"
  | publicKey => "PK"
  | signedData => "SD"
  | svt => "SVT"
  | verifiedTime => "VT"
  | other => "O"

end ValidationObjectType

inductive RepresentationType where
  | direct
  | base64
  | hash
  | resourceUri
deriving DecidableEq, Repr

structure ValidationObject where
  validationObjectType : ValidationObjectType
  validationObject : Option Bytes := none
  hashValue : Option Bytes := none
  hashAlgorithm : Option String := none
  representationType : RepresentationType
  id : String
  poe : Option Date := none
deriving DecidableEq, Repr

/-- The objects by their id. -/
abbrev ValidationObjectMap := List (String × ValidationObject)

namespace ValidationObjectProcessor

/-! ## Ids -/

def hexDigits : List Char :=
  ['0', '1', '2', '3', '4', '5', '6', '7', '8', '9', 'a', 'b', 'c', 'd', 'e', 'f']

def toHexString (bytes : Bytes) : List Char :=
  bytes.flatMap fun b =>
    [hexDigits.getD (b.toNat / 16) '0', hexDigits.getD (b.toNat % 16) '0']

/-- `idTrim`: the first 40 digits. -/
def idTrim (hexString : List Char) : List Char := hexString.take 40

/-- The id of an object of the type with this digest. -/
def idOf (type : ValidationObjectType) (hash : Bytes) : String :=
  type.getPrefix ++ "-" ++ String.ofList (idTrim (toHexString hash))

/-- `DigestAlgorithmRegistry.get(hashAlgo).getInstance().digest(bytes)`. -/
def digest (env : ObjectEnv Cert) (hashAlgo : Option String) (bytes : Bytes) : Outcome Bytes := do
  let digestAlgorithm ← DigestAlgorithmRegistry.get env.registry hashAlgo
  let md ← env.getInstance digestAlgorithm
  pure (md bytes)

/-- `getId` of bytes. -/
def getId (env : ObjectEnv Cert) (objectBytes : Bytes) (hashAlgo : Option String)
    (type : ValidationObjectType) : Outcome String := do
  let hash ← digest env hashAlgo objectBytes
  pure (idOf type hash)

/-! ## Certificates -/

/-- `Character.isWhitespace`. -/
def isWhitespace (c : Char) : Bool :=
  let n := c.toNat
  (0x09 ≤ n && n ≤ 0x0d) || (0x1c ≤ n && n ≤ 0x20) || n == 0x1680 ||
    (0x2000 ≤ n && n ≤ 0x200a && n != 0x2007) || n == 0x2028 || n == 0x2029 || n == 0x205f ||
    n == 0x3000

/-- `StringUtils.isNotBlank`. -/
def isNotBlank (s : Option String) : Bool := (s.getD "").toList.any fun c => !isWhitespace c

/-- `anyMatch` with the test for a `PASSED` conclusion. -/
def anyPassed : List (Option ValidationConclusion) → Outcome Bool
  | [] => .ok false
  | res :: rest => do
      let res ← deref res
      if res = .PASSED then pure true else anyPassed rest

/-- The hash the claims have of the evidence, or the one of the timestamp itself. An
exception on the way makes no evidence. -/
def evidenceHash (env : ObjectEnv Cert) (timeValidationResult : TimeValidationResult Cert)
    (claims : TimeValidationClaims) (hashAlgoId : Option String) : Outcome (Option Bytes) :=
  if isNotBlank claims.hash then do
    let hashVal ← env.base64Decode (claims.hash.getD "")
    pure (some hashVal)
  else
    match timeValidationResult.timeStamp with
    | none => .ok none
    | some timeStampSigBytes => do
        let digestAlgorithm ← DigestAlgorithmRegistry.get env.registry hashAlgoId
        let md ← env.getInstance digestAlgorithm
        let bytes ← deref timeStampSigBytes
        pure (some (md bytes))

/-- `String.valueOf(time).getBytes(UTF_8)`. -/
def timeBytes (time : Int) : Bytes := (toString time).toUTF8.toList

def timeObject (type : ValidationObjectType) (hashVal : Bytes) (hashAlgoId : Option String)
    (time : Int) : ValidationObject where
  validationObjectType := type
  hashValue := some hashVal
  hashAlgorithm := hashAlgoId
  representationType := .hash
  id := idOf type hashVal
  poe := some (toLong (time * 1000))

/-- The object `addTimeEvidenceRef` puts into the map, if any. -/
def timeEvidence (env : ObjectEnv Cert) (timeValidationResult : Option (TimeValidationResult Cert))
    (hashAlgoId : Option String) : Outcome (Option ValidationObject) := do
  let timeValidationResult ← deref timeValidationResult
  let claims ← deref timeValidationResult.timeValidationClaims
  match claims.val with
  | none => pure none
  | some val =>
      if ← anyPassed val then
        if claims.time = 0 then pure none
        else
          match evidenceHash env timeValidationResult claims hashAlgoId with
          | .error _ => pure none
          | .ok (some hashVal) => pure (some (timeObject .timestamp hashVal hashAlgoId claims.time))
          | .ok none => do
              let hashVal ← digest env hashAlgoId (timeBytes claims.time)
              pure (some (timeObject .verifiedTime hashVal hashAlgoId claims.time))
      else pure none

def addTimeEvidenceRef (env : ObjectEnv Cert)
    (timeValidationResult : Option (TimeValidationResult Cert)) (hashAlgoId : Option String) :
    Mutating ValidationObjectMap Bool := do
  match ← Mutating.call (timeEvidence env timeValidationResult hashAlgoId) with
  | none => pure false
  | some object => do
      modify fun map => putEntry map object.id object
      pure true

/-- `getId` of time evidence: the key it is put under in a map of its own. -/
def getTimeId (env : ObjectEnv Cert) (timeValidationResult : Option (TimeValidationResult Cert))
    (hashAlgoId : Option String) : Option String :=
  match (addTimeEvidenceRef env timeValidationResult hashAlgoId).run [] with
  | (.ok true, map) => map.head?.map (·.1)
  | _ => none

end ValidationObjectProcessor

end SigVal.Report
