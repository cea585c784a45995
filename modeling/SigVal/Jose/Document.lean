import SigVal.Lib.HashMap
import SigVal.Lib.Json
import SigVal.Lib.Mutating
import SigVal.Svt.TokenValidator

/-!
# Signed JOSE documents

`JOSESignedDocumentValidator.getJOSEDocumentSignatureData` finds the signatures of
a document. It tries the compact form first and the JSON forms after it, and what
the second try finds replaces what the first one found. With a detached payload the
JSON document is read, its payload replaced, and the result read again.

The JOSE and JSON libraries are a parameter. What the code relies on is stated once,
in `JoseLibrary.Lawful`: parsed headers keep their text, written JSON is read back as
the same members, the parameter names of the two headers of a signature are disjoint
in everything that is accepted.
-/

namespace SigVal.Jose

open SigVal.Java SigVal.Commons
open SigVal.Svt.JOSESVTValidator (JsonValue)

variable {Cert S : Type}

/-! ## The objects of the JOSE library -/

/-- `Payload`, by its base64url form. -/
structure Payload where
  base64URL : String
deriving DecidableEq, Repr

/-- `JWSHeader`: the protected header, with the text it was parsed from and the
names of its parameters. -/
structure JWSHeader extends Commons.JWSHeader where
  base64URL : String
  includedParams : List String
deriving DecidableEq, Repr

/-- The parameters of an `UnprotectedHeader`. -/
abbrev UnprotectedHeader (S : Type) := List (String × Json S)

/-- `JWSObject`, the compact form. -/
structure JWSObject where
  header : JWSHeader
  payload : Payload
  signature : String

/-- `JWSObjectJSON.Signature`. -/
structure Signature (S : Type) where
  header : JWSHeader
  unprotectedHeader : Option (UnprotectedHeader S)
  signature : String

/-- `JWSObjectJSON`. -/
structure JWSObjectJSON (S : Type) where
  payload : Payload
  signatures : List (Signature S)

/-- `ECDSAVerifier` and `RSASSAVerifier`. -/
structure JWSVerifier where
  publicKey : PublicKey
  deferredCritHeaders : List String
deriving DecidableEq, Repr

/-- The libraries a signed document is read and written with. -/
structure JoseLibrary (S : Type) where
  /-- `new String(bytes, StandardCharsets.UTF_8)`. -/
  newString : Bytes → String
  /-- `Base64URL.encode`. -/
  encode : Bytes → String
  /-- `Base64URL.decode`. -/
  decode : String → Bytes
  /-- `JWSHeader.parse`. -/
  parseJWSHeader : String → Outcome JWSHeader
  /-- `UnprotectedHeader.parse`, which looks at the types of registered parameters. -/
  parseUnprotectedHeader : UnprotectedHeader S → Outcome Unit
  /-- `JWSObject.parse(String)`. -/
  parseJWSObject : String → Outcome JWSObject
  /-- `JWSObject.parse(String, Payload)`. -/
  parseDetachedJWSObject : String → Payload → Outcome JWSObject
  /-- `JWSObjectJSON.parse(String)`. -/
  parseJSON : String → Outcome (JWSObjectJSON S)
  /-- `JWSObjectJSON.parse(Map)`. -/
  parseJSONObject : List (String × Json S) → Outcome (JWSObjectJSON S)
  toGeneralJSONObject : JWSObjectJSON S → List (String × Json S)
  newECDSAVerifier : PublicKey → List String → Outcome JWSVerifier
  newRSASSAVerifier : PublicKey → List String → Outcome JWSVerifier
  /-- The check of a signature value over a header and a payload, in both forms. -/
  verify : JWSHeader → Payload → String → JWSVerifier → Outcome Bool
  /-- `SignedJWT.serialize`. -/
  serialize : SignedJWT → String
  /-- `OBJECT_MAPPER.writeValueAsBytes`. -/
  writeValueAsBytes : Json S → Bytes
  /-- `OBJECT_MAPPER.readValue` as a list of texts. -/
  readStrings : Json S → Outcome (List String)

/-- `Payload.toBytes`. -/
def Payload.toBytes (lib : JoseLibrary S) (payload : Payload) : Bytes :=
  lib.decode payload.base64URL

/-! ## What the code relies on -/

/-- The header parameter names of the two headers of a signature are disjoint. -/
def Signature.Disjoint (sig : Signature S) : Prop :=
  ∀ u, sig.unprotectedHeader = some u → ∀ name ∈ sig.header.includedParams, u.lookup name = none

/-- The headers of the signature parse, the protected one from its own text. -/
structure Signature.Parses (lib : JoseLibrary S) (sig : Signature S) : Prop where
  header : lib.parseJWSHeader sig.header.base64URL = .ok sig.header
  unprotected : ∀ u, sig.unprotectedHeader = some u → lib.parseUnprotectedHeader u = .ok ()

/-- The library gave the signature out. -/
structure Signature.Accepted (lib : JoseLibrary S) (sig : Signature S) : Prop extends
    sig.Parses lib where
  disjoint : sig.Disjoint

/-- The members of a JSON object that make up a signature. -/
structure Signature.Members (lib : JoseLibrary S) (obj : List (String × Json S))
    (sig : Signature S) : Prop extends sig.Parses lib where
  protectedMember : obj.lookup "protected" = some (.string sig.header.base64URL)
  headerMember : obj.lookup "header" = sig.unprotectedHeader.map .object
  signatureMember : obj.lookup "signature" = some (.string sig.signature)

/-- An unprotected header without parameters is left out of the JSON form. -/
def Signature.dropEmpty (sig : Signature S) : Signature S :=
  { sig with unprotectedHeader := sig.unprotectedHeader.filter fun u => !u.isEmpty }

/-- The members of the general form. -/
structure JWSObjectJSON.GeneralMembers (lib : JoseLibrary S) (obj : List (String × Json S))
    (jws : JWSObjectJSON S) : Prop where
  payload : obj.lookup "payload" = some (.string jws.payload.base64URL)
  noSignature : obj.lookup "signature" = none
  signatures : ∃ objs, obj.lookup "signatures" = some (.array (objs.map .object)) ∧
    List.Forall₂ (Signature.Members lib) objs jws.signatures

/-- What is documented of the libraries. -/
structure JoseLibrary.Lawful (lib : JoseLibrary S) : Prop where
  decode_encode : ∀ bytes, lib.decode (lib.encode bytes) = bytes
  encode_nil : lib.encode [] = ""
  /-- The check is made on the decoded signature value. -/
  verify_decode : ∀ header payload s s' verifier, lib.decode s = lib.decode s' →
    lib.decode s ≠ [] → lib.verify header payload s verifier = lib.verify header payload s' verifier
  /-- An empty signature is refused. -/
  verify_empty : ∀ header payload verifier, ∃ ex, lib.verify header payload "" verifier = .error ex
  /-- An unprotected header may be empty, and what is not registered may be anything. -/
  unprotected_nil : lib.parseUnprotectedHeader [] = .ok ()
  unprotected_put : ∀ u name value, lib.parseUnprotectedHeader u = .ok () → name ≠ "kid" →
    lib.parseUnprotectedHeader (putEntry u name value) = .ok ()
  compact_header : ∀ s jws, lib.parseJWSObject s = .ok jws →
    lib.parseJWSHeader jws.header.base64URL = .ok jws.header
  detached_header : ∀ s p jws, lib.parseDetachedJWSObject s p = .ok jws →
    lib.parseJWSHeader jws.header.base64URL = .ok jws.header ∧ jws.payload = p
  /-- A JSON object is no compact form. -/
  compact_json : ∀ obj, ∃ msg,
    lib.parseJWSObject (lib.newString (lib.writeValueAsBytes (.object obj))) = .error ⟨.parse, msg⟩
  detached_json : ∀ obj p, ∃ msg,
    lib.parseDetachedJWSObject (lib.newString (lib.writeValueAsBytes (.object obj))) p =
      .error ⟨.parse, msg⟩
  /-- What was written is read as the same members. -/
  parse_written : ∀ obj,
    lib.parseJSON (lib.newString (lib.writeValueAsBytes (.object obj))) = lib.parseJSONObject obj
  /-- The flattened form has one signature. -/
  parse_flattened : ∀ obj p (sig : Signature S), obj.lookup "payload" = some (.string p) →
    obj.lookup "signatures" = none → sig.Members lib obj → sig.Disjoint →
    lib.parseJSONObject obj = .ok ⟨⟨p⟩, [sig]⟩
  flattened_clash : ∀ obj p (sig : Signature S), obj.lookup "payload" = some (.string p) →
    obj.lookup "signatures" = none → sig.Members lib obj → ¬ sig.Disjoint →
    ∃ msg, lib.parseJSONObject obj = .error ⟨.parse, msg⟩
  /-- The general form has the signatures of its array, in their order. -/
  parse_general : ∀ obj (jws : JWSObjectJSON S), jws.GeneralMembers lib obj → jws.signatures ≠ [] →
    (∀ sig ∈ jws.signatures, sig.Disjoint) → lib.parseJSONObject obj = .ok jws
  general_clash : ∀ obj (jws : JWSObjectJSON S), jws.GeneralMembers lib obj →
    (∃ sig ∈ jws.signatures, ¬ sig.Disjoint) →
    ∃ msg, lib.parseJSONObject obj = .error ⟨.parse, msg⟩
  accepted_text : ∀ s jws, lib.parseJSON s = .ok jws →
    ∀ sig ∈ jws.signatures, sig.Accepted lib
  accepted_object : ∀ obj jws, lib.parseJSONObject obj = .ok jws →
    obj.lookup "payload" = some (.string jws.payload.base64URL) ∧
      ∀ sig ∈ jws.signatures, sig.Accepted lib
  /-- `toGeneralJSONObject` writes the general form. -/
  general_members : ∀ jws, jws.signatures ≠ [] → (∀ sig ∈ jws.signatures, sig.Accepted lib) →
    JWSObjectJSON.GeneralMembers lib (lib.toGeneralJSONObject jws)
      { jws with signatures := jws.signatures.map Signature.dropEmpty }
  readStrings_strings : ∀ texts, lib.readStrings (Json.strings texts) = .ok texts

/-! ## `JWSAlgorithmRegistry` -/

namespace JWSAlgorithmRegistry

/-- The content of `jwsAlgorithmMap`. -/
abbrev Registry := List (String × JWSAlgorithm)

/-- `register`: a taken URI keeps its algorithm. -/
def register (reg : Registry) (uri : String) (algorithm : JWSAlgorithm) : Registry :=
  if (reg.lookup uri).isSome then reg else putEntry reg uri algorithm

/-- The registry after the static initializer. -/
def initial : Registry :=
  [("http://www.w3.org/2001/04/xmldsig-more#rsa-sha256", "RS256"),
    ("http://www.w3.org/2001/04/xmldsig-more#rsa-sha384", "RS384"),
    ("http://www.w3.org/2001/04/xmldsig-more#rsa-sha512", "RS512"),
    ("http://www.w3.org/2001/04/xmldsig-more#ecdsa-sha256", "ES256"),
    ("http://www.w3.org/2001/04/xmldsig-more#ecdsa-sha384", "ES384"),
    ("http://www.w3.org/2001/04/xmldsig-more#ecdsa-sha512", "ES512")].foldl
    (fun reg entry => register reg entry.1 entry.2) []

/-- `getUri`: the first URI of the algorithm in the order the keys are visited. -/
def getUri (jvm : Jvm) (reg : Registry) (jwsAlgorithm : JWSAlgorithm) : Outcome String :=
  match (jvm.entriesInOrder reg).find? fun entry => entry.2 == jwsAlgorithm with
  | some entry => .ok entry.1
  | none => .error ⟨.noSuchAlgorithm, "Not found JWS Algorithm: " ++ jwsAlgorithm⟩

end JWSAlgorithmRegistry

/-- `JWSAlgorithm.Family.EC`. -/
def familyEC : List JWSAlgorithm := ["ES256", "ES256K", "ES384", "ES512"]

/-- `JWSAlgorithm.Family.RSA`. -/
def familyRSA : List JWSAlgorithm := ["RS256", "RS384", "RS512", "PS256", "PS384", "PS512"]

/-! ## `JOSESignedDocumentValidator` -/

/-- `JOSESignatureData` as the parser fills it in. What comes after an exception is
`null`. -/
structure RawJOSESignatureData (Cert S : Type) where
  detached : Bool := false
  isVerified : Bool := false
  exception : Option Exn := none
  header : Option JWSHeader := none
  signatureAlgorithm : Option String := none
  unprotectedHeader : Option (UnprotectedHeader S) := none
  payload : Option Payload := none
  signatureBytes : Option Bytes := none
  signerCertificate : Option Cert := none
  signatureCertChain : Option (List Cert) := none

/-- The libraries, the static state and the certificates of the validator. -/
structure DocumentEnv (Cert S : Type) where
  lib : JoseLibrary S
  jvm : Jvm
  jwsAlgorithmMap : JWSAlgorithmRegistry.Registry
  supportedCritHeaderParams : List String
  /-- `SVAUtils.getCertificate`. -/
  getCertificate : Bytes → Outcome Cert
  getPublicKey : Cert → PublicKey

namespace JOSESignedDocumentValidator

/-- The initial value of `supportedCritHeaderParams`. -/
def initialCritHeaderParams : List String :=
  ["sigT", "x5t#o", "sigX5ts", "srCms", "sigPl", "srAts", "adoTst", "sigPId", "sigD"]

/-- The verifier of an elliptic curve key; another key fails the cast. -/
def newECDSAVerifier (env : DocumentEnv Cert S) : PublicKey → Outcome JWSVerifier
  | .ec k => env.lib.newECDSAVerifier (.ec k) env.supportedCritHeaderParams
  | _ => .error Exn.classCast

/-- The verifier of an RSA key; another key fails the cast. -/
def newRSASSAVerifier (env : DocumentEnv Cert S) : PublicKey → Outcome JWSVerifier
  | .rsa k => env.lib.newRSASSAVerifier (.rsa k) env.supportedCritHeaderParams
  | _ => .error Exn.classCast

/-- `getVerifierAndCerts`. The URI is looked up before the certificates are, and it is
never `null`. -/
def getVerifierAndCerts (env : DocumentEnv Cert S) (header : JWSHeader) :
    Mutating (RawJOSESignatureData Cert S) JWSVerifier := do
  let algorithm := header.algorithm
  let uri ← Mutating.call (JWSAlgorithmRegistry.getUri env.jvm env.jwsAlgorithmMap algorithm)
  let x509CertChain ← Mutating.call (deref header.x509CertChain)
  let certificateChain ← Mutating.call (x509CertChain.mapM env.getCertificate)
  match certificateChain with
  | [] => throw ⟨.io, "No signing certificate in JWS header"⟩
  | signerCertificate :: _ => do
      modify fun signatureData =>
        { signatureData with
          signerCertificate := some signerCertificate
          signatureCertChain := some certificateChain }
      if algorithm ∈ familyEC then do
        modify fun signatureData => { signatureData with signatureAlgorithm := some uri }
        Mutating.call (newECDSAVerifier env (env.getPublicKey signerCertificate))
      else if algorithm ∈ familyRSA then do
        modify fun signatureData => { signatureData with signatureAlgorithm := some uri }
        Mutating.call (newRSASSAVerifier env (env.getPublicKey signerCertificate))
      else throw ⟨.io, "Unsupported algorithm type"⟩

/-- The body both forms have: verify, and take the parts over. -/
def takeSignature (env : DocumentEnv Cert S) (payload : Payload) (detached : Bool)
    (signature : Signature S) : Mutating (RawJOSESignatureData Cert S) Unit := do
  let verifier ← getVerifierAndCerts env signature.header
  let verified ← Mutating.call
    (env.lib.verify signature.header payload signature.signature verifier)
  modify fun signatureData =>
    { signatureData with
      isVerified := verified
      signatureBytes := some (env.lib.decode signature.signature)
      detached := detached
      payload := some payload
      unprotectedHeader := signature.unprotectedHeader
      header := some signature.header }

/-- The data of one signature. An exception is recorded and ends it. -/
def signatureDataOf (env : DocumentEnv Cert S) (payload : Payload) (detached : Bool)
    (signature : Signature S) : RawJOSESignatureData Cert S :=
  Mutating.tryCatch (takeSignature env payload detached signature)
    (fun ex signatureData => { signatureData with exception := some ex }) {}

/-- A compact signature has no unprotected header. -/
def getSignatureDataFromJWSObject (env : DocumentEnv Cert S) (jwsObject : JWSObject)
    (detached : Bool) : List (RawJOSESignatureData Cert S) :=
  [signatureDataOf env jwsObject.payload detached ⟨jwsObject.header, none, jwsObject.signature⟩]

def getSignatureDataFromJWSJSONObject (env : DocumentEnv Cert S) (jwsObjectJSON : JWSObjectJSON S)
    (detached : Bool) : List (RawJOSESignatureData Cert S) :=
  jwsObjectJSON.signatures.map (signatureDataOf env jwsObjectJSON.payload detached)

/-- `try { … } catch (ParseException e)`: the list stays as it was. -/
def orElseParse {α : Type} (signatureDataList : List α) : Outcome (List α) → Outcome (List α)
  | .ok found => .ok found
  | .error ex => if ex.cls = .parse then .ok signatureDataList else .error ex

/-- The JSON try. A detached payload is put in and the document read again. -/
def readJSON (env : DocumentEnv Cert S) (document : Bytes) (detachedPayload : Option Payload) :
    Outcome (List (RawJOSESignatureData Cert S)) := do
  let jwsObjectJSON ← env.lib.parseJSON (env.lib.newString document)
  match detachedPayload with
  | none => pure (getSignatureDataFromJWSJSONObject env jwsObjectJSON false)
  | some payload => do
      let jsonObjecMap := env.lib.toGeneralJSONObject jwsObjectJSON
      let jsonObjecMap := putEntry jsonObjecMap "payload" (.string payload.base64URL)
      let jwsObjectJSON ← env.lib.parseJSONObject jsonObjecMap
      pure (getSignatureDataFromJWSJSONObject env jwsObjectJSON true)

/-- The compact try. -/
def readCompact (env : DocumentEnv Cert S) (document : Bytes) (detachedPayload : Option Payload) :
    Outcome (List (RawJOSESignatureData Cert S)) := do
  match detachedPayload with
  | none => do
      let jwsObject ← env.lib.parseJWSObject (env.lib.newString document)
      pure (getSignatureDataFromJWSObject env jwsObject false)
  | some payload => do
      let jwsObject ← env.lib.parseDetachedJWSObject (env.lib.newString document) payload
      pure (getSignatureDataFromJWSObject env jwsObject true)

def getJOSEDocumentSignatureData (env : DocumentEnv Cert S) (document : Bytes)
    (detachedPayload : Option Payload) : Outcome (List (RawJOSESignatureData Cert S)) := do
  let signatureDataList ← orElseParse [] (readCompact env document detachedPayload)
  orElseParse signatureDataList (readJSON env document detachedPayload)

/-! ## The data of one signature -/

section SignatureData

open Mutating

variable {env : DocumentEnv Cert S} {payload : Payload} {detached : Bool}

/-- A signature with a key of elliptic curves. -/
theorem getVerifierAndCerts_ec {env : DocumentEnv Cert S} {header : JWSHeader} {uri : String}
    {chain : List Bytes} {signerCertificate : Cert} {rest : List Cert} {verifier : JWSVerifier}
    (huri : JWSAlgorithmRegistry.getUri env.jvm env.jwsAlgorithmMap header.algorithm = .ok uri)
    (hchain : header.x509CertChain = some chain)
    (hcerts : chain.mapM env.getCertificate = .ok (signerCertificate :: rest))
    (hfamily : header.algorithm ∈ familyEC)
    (hverifier : newECDSAVerifier env (env.getPublicKey signerCertificate) = .ok verifier) :
    (getVerifierAndCerts env header).run {} =
      (.ok verifier,
        { signatureAlgorithm := some uri
          signerCertificate := some signerCertificate
          signatureCertChain := some (signerCertificate :: rest) }) := by
  have hset : deref header.x509CertChain = .ok chain := deref_ok_iff.mpr hchain
  unfold getVerifierAndCerts
  simp only [run_bind, run_call, huri, hset, hcerts, if_pos hfamily,
    run_modify, hverifier]

/-- The parts of the data that are filled in last. -/
def lateParts (signatureData : RawJOSESignatureData Cert S) :
    Option JWSHeader × Option Payload × Option Bytes :=
  (signatureData.header, signatureData.payload, signatureData.signatureBytes)

/-- The verifier is found, and the certificates are set, before the late parts. -/
theorem getVerifierAndCerts_keeps (env : DocumentEnv Cert S) (header : JWSHeader) :
    Keeps lateParts (getVerifierAndCerts env header) := by
  unfold getVerifierAndCerts
  apply keeps_bind (keeps_call _)
  intro uri
  refine keeps_bind (keeps_call _) fun x509CertChain => ?_
  apply keeps_bind (keeps_call _)
  intro certificateChain
  cases certificateChain with
  | nil => exact keeps_throw _
  | cons signerCertificate rest =>
      refine keeps_bind (keeps_modify fun _ => rfl) fun _ => ?_
      split
      · exact keeps_bind (keeps_modify fun _ => rfl) fun _ => keeps_call _
      · split
        · exact keeps_bind (keeps_modify fun _ => rfl) fun _ => keeps_call _
        · exact keeps_throw _

/-- The two calls that can fail returned, and everything is set. -/
def TakenWith (env : DocumentEnv Cert S) (payload : Payload) (detached : Bool)
    (sig : Signature S) (start : RawJOSESignatureData Cert S) (verified : Bool) : Prop :=
  ∃ verifier, (getVerifierAndCerts env sig.header).run {} = (.ok verifier, start) ∧
    env.lib.verify sig.header payload sig.signature verifier = .ok verified ∧
    signatureDataOf env payload detached sig =
      { start with
        isVerified := verified
        signatureBytes := some (env.lib.decode sig.signature)
        detached := detached
        payload := some payload
        unprotectedHeader := sig.unprotectedHeader
        header := some sig.header }

/-- When a verifier was found the certificates are set. -/
theorem getVerifierAndCerts_certs (env : DocumentEnv Cert S) (header : JWSHeader)
    (start : RawJOSESignatureData Cert S) :
    wp (getVerifierAndCerts env header)
      (fun _ signatureData => ∃ certs, signatureData.signatureCertChain = some certs)
      (fun _ _ => True) start := by
  unfold getVerifierAndCerts
  rw [wp_bind, wp_call]
  refine ⟨fun uri _ => ?_, fun _ _ => trivial⟩
  rw [wp_bind, wp_call]
  refine ⟨fun x509CertChain _ => ?_, fun _ _ => trivial⟩
  rw [wp_bind, wp_call]
  refine ⟨fun certificateChain _ => ?_, fun _ _ => trivial⟩
  cases certificateChain with
  | nil => trivial
  | cons signerCertificate rest =>
      dsimp only
      rw [wp_bind, wp_modify]
      split
      · rw [wp_bind, wp_modify, wp_call]
        exact ⟨fun _ _ => ⟨_, rfl⟩, fun _ _ => trivial⟩
      · split
        · rw [wp_bind, wp_modify, wp_call]
          exact ⟨fun _ _ => ⟨_, rfl⟩, fun _ _ => trivial⟩
        · trivial

theorem takenWith_of_calls (detached : Bool) {sig : Signature S}
    {start : RawJOSESignatureData Cert S} {verifier : JWSVerifier} {verified : Bool}
    (hrun : (getVerifierAndCerts env sig.header).run {} = (.ok verifier, start))
    (hverify : env.lib.verify sig.header payload sig.signature verifier = .ok verified) :
    TakenWith env payload detached sig start verified := by
  refine ⟨verifier, hrun, hverify, ?_⟩
  unfold signatureDataOf takeSignature Mutating.tryCatch
  rw [run_bind, hrun]
  dsimp only
  rw [run_bind, run_call, hverify]
  rfl

theorem signatureDataOf_of_calls (detached : Bool) {sig : Signature S}
    {start : RawJOSESignatureData Cert S} {verifier : JWSVerifier} {verified : Bool}
    (hrun : (getVerifierAndCerts env sig.header).run {} = (.ok verifier, start))
    (hverify : env.lib.verify sig.header payload sig.signature verifier = .ok verified) :
    signatureDataOf env payload detached sig =
      { start with
        isVerified := verified
        signatureBytes := some (env.lib.decode sig.signature)
        detached := detached
        payload := some payload
        unprotectedHeader := sig.unprotectedHeader
        header := some sig.header } := by
  obtain ⟨_, _, _, hdata⟩ := takenWith_of_calls detached hrun hverify
  exact hdata

/-- Either everything is set, or an exception left the late parts `null`. -/
theorem taken_or_null (env : DocumentEnv Cert S) (payload : Payload) (detached : Bool)
    (sig : Signature S) :
    (∃ start verified, TakenWith env payload detached sig start verified) ∨
      lateParts (signatureDataOf env payload detached sig) = (none, none, none) := by
  have hkeeps := getVerifierAndCerts_keeps env sig.header {}
  rcases hrun : (getVerifierAndCerts env sig.header).run {} with ⟨ex | verifier, start⟩
  · right
    rw [hrun] at hkeeps
    unfold signatureDataOf takeSignature Mutating.tryCatch
    rw [run_bind, hrun]
    exact hkeeps
  · cases hverify : env.lib.verify sig.header payload sig.signature verifier with
    | ok verified => exact Or.inl ⟨start, verified, takenWith_of_calls detached hrun hverify⟩
    | error ex =>
        right
        rw [hrun] at hkeeps
        unfold signatureDataOf takeSignature Mutating.tryCatch
        rw [run_bind, hrun]
        dsimp only
        rw [run_bind, run_call, hverify]
        exact hkeeps

/-- The data of a signature whose header got through. -/
theorem taken_of_header {sig : Signature S} {header : JWSHeader}
    (h : (signatureDataOf env payload detached sig).header = some header) :
    ∃ start verified, TakenWith env payload detached sig start verified := by
  rcases taken_or_null env payload detached sig with htaken | hnull
  · exact htaken
  · have hnone : (signatureDataOf env payload detached sig).header = none :=
      congrArg Prod.fst hnull
    rw [hnone] at h
    cases h

theorem TakenWith.certs {sig : Signature S} {start : RawJOSESignatureData Cert S} {verified : Bool}
    (h : TakenWith env payload detached sig start verified) :
    ∃ certs, (signatureDataOf env payload detached sig).signatureCertChain = some certs := by
  obtain ⟨verifier, hrun, -, hdata⟩ := h
  have hcerts := getVerifierAndCerts_certs env sig.header {}
  unfold wp at hcerts
  rw [hrun] at hcerts
  rw [hdata]
  exact hcerts

/-- Another unprotected header and another text of the same signature value change the
data in the unprotected header only. -/
theorem signatureDataOf_reencoded (hlib : env.lib.Lawful) {sig sig' : Signature S}
    {start : RawJOSESignatureData Cert S} {verified : Bool}
    (htaken : TakenWith env payload detached sig start verified)
    (hheader : sig'.header = sig.header)
    (hdecode : env.lib.decode sig'.signature = env.lib.decode sig.signature)
    (hne : env.lib.decode sig.signature ≠ []) :
    signatureDataOf env payload detached sig' =
      { signatureDataOf env payload detached sig with
        unprotectedHeader := sig'.unprotectedHeader } := by
  obtain ⟨verifier, hrun, hverify, hdata⟩ := htaken
  have hverify' : env.lib.verify sig'.header payload sig'.signature verifier = .ok verified := by
    rw [hheader, ← hverify]
    exact (hlib.verify_decode _ _ _ _ _ hdecode.symm hne).symm
  rw [← hheader] at hrun
  obtain ⟨_, _, _, hdata'⟩ := takenWith_of_calls detached hrun hverify'
  rw [hdata', hdata, hheader, hdecode]

/-- With an empty text for its value a signature has no bytes. -/
theorem signatureDataOf_empty (hlib : env.lib.Lawful) {sig : Signature S}
    (h : sig.signature = "") :
    (signatureDataOf env payload detached sig).signatureBytes = none := by
  rcases taken_or_null env payload detached sig with ⟨start, verified, htaken⟩ | hnull
  · obtain ⟨verifier, _, hverify, _⟩ := htaken
    obtain ⟨ex, hex⟩ := hlib.verify_empty sig.header payload verifier
    rw [h, hex] at hverify
    cases hverify
  · exact congrArg (fun parts => parts.2.2) hnull

end SignatureData

/-! ## The signatures of a document -/

section Documents

variable {env : DocumentEnv Cert S} {document : Bytes} {detachedPayload : Option Payload}
  {signatureDataList : List (RawJOSESignatureData Cert S)}

theorem orElseParse_ok_iff {α : Type} {l found : List α} {x : Outcome (List α)} :
    orElseParse l x = .ok found ↔
      x = .ok found ∨ ∃ ex, x = .error ex ∧ ex.cls = .parse ∧ found = l := by
  cases x with
  | ok a => simp [orElseParse]
  | error ex =>
      show (if ex.cls = .parse then Except.ok l else Except.error ex) = _ ↔ _
      by_cases hcls : ex.cls = .parse
      · simp [hcls, eq_comm]
      · simp [hcls]

/-- The data comes from accepted signatures over one payload, which is the detached
one if there is any. -/
def FromSignatures (env : DocumentEnv Cert S) (detachedPayload : Option Payload)
    (signatureDataList : List (RawJOSESignatureData Cert S)) : Prop :=
  ∃ payload, ∃ signatures : List (Signature S), signatureDataList =
      signatures.map (signatureDataOf env payload detachedPayload.isSome) ∧
    (∀ sig ∈ signatures, sig.Accepted env.lib) ∧ ∀ p, detachedPayload = some p → payload = p

theorem readCompact_fromSignatures (hlib : env.lib.Lawful)
    (h : readCompact env document detachedPayload = .ok signatureDataList) :
    FromSignatures env detachedPayload signatureDataList := by
  -- without an unprotected header there is nothing to clash with
  have hdisjoint : ∀ (header : JWSHeader) (s : String),
      (Signature.mk header none s : Signature S).Disjoint := fun _ _ _ hu => by cases hu
  unfold readCompact at h
  cases detachedPayload with
  | none =>
      obtain ⟨jwsObject, hparse, hdata⟩ := bind_ok_iff.mp h
      cases hdata
      refine ⟨jwsObject.payload, [⟨jwsObject.header, none, jwsObject.signature⟩], rfl, ?_, ?_⟩
      · intro sig hsig
        cases List.mem_singleton.mp hsig
        exact ⟨⟨hlib.compact_header _ _ hparse, by rintro u ⟨⟩⟩, hdisjoint _ _⟩
      · intro p hp
        cases hp
  | some payload =>
      obtain ⟨jwsObject, hparse, hdata⟩ := bind_ok_iff.mp h
      cases hdata
      obtain ⟨hheader, hpayload⟩ := hlib.detached_header _ _ _ hparse
      refine ⟨jwsObject.payload, [⟨jwsObject.header, none, jwsObject.signature⟩], rfl, ?_, ?_⟩
      · intro sig hsig
        cases List.mem_singleton.mp hsig
        exact ⟨⟨hheader, by rintro u ⟨⟩⟩, hdisjoint _ _⟩
      · intro p hp
        cases hp
        exact hpayload

theorem readJSON_fromSignatures (hlib : env.lib.Lawful)
    (h : readJSON env document detachedPayload = .ok signatureDataList) :
    FromSignatures env detachedPayload signatureDataList := by
  obtain ⟨jws, hparse, h⟩ := bind_ok_iff.mp h
  cases detachedPayload with
  | none =>
      cases h
      refine ⟨jws.payload, jws.signatures, rfl, hlib.accepted_text _ _ hparse, ?_⟩
      intro p hp
      cases hp
  | some payload =>
      obtain ⟨jws', hparse', hdata⟩ := bind_ok_iff.mp h
      cases hdata
      obtain ⟨hpayload, haccepted⟩ := hlib.accepted_object _ _ hparse'
      refine ⟨jws'.payload, jws'.signatures, rfl, haccepted, ?_⟩
      intro p hp
      cases hp
      rw [lookup_putEntry_self, Option.some.injEq, Json.string.injEq] at hpayload
      exact congrArg Payload.mk hpayload.symm

theorem fromSignatures_of_parse (hlib : env.lib.Lawful)
    (h : getJOSEDocumentSignatureData env document detachedPayload = .ok signatureDataList) :
    FromSignatures env detachedPayload signatureDataList := by
  obtain ⟨found, hcompact, hjson⟩ := bind_ok_iff.mp h
  rcases orElseParse_ok_iff.mp hjson with hjson | ⟨_, _, _, rfl⟩
  · exact readJSON_fromSignatures hlib hjson
  · rcases orElseParse_ok_iff.mp hcompact with hcompact | ⟨_, _, _, rfl⟩
    · exact readCompact_fromSignatures hlib hcompact
    · exact ⟨detachedPayload.getD ⟨""⟩, [], rfl, by simp, by rintro p rfl; rfl⟩

/-! ## Reading back what was written -/

/-- The members of the flattened or of the general form. -/
def Describes (lib : JoseLibrary S) (obj : List (String × Json S)) (jws : JWSObjectJSON S) : Prop :=
  (∃ sig, jws.signatures = [sig] ∧
      obj.lookup "payload" = some (.string jws.payload.base64URL) ∧
      obj.lookup "signatures" = none ∧ sig.Members lib obj) ∨
    (jws.GeneralMembers lib obj ∧ jws.signatures ≠ [])

variable {obj : List (String × Json S)} {jws : JWSObjectJSON S}

theorem Describes.nonempty {lib : JoseLibrary S} (h : Describes lib obj jws) :
    jws.signatures ≠ [] := by
  rcases h with ⟨sig, hsig, -⟩ | ⟨-, hne⟩
  · simp [hsig]
  · exact hne

theorem parseJSONObject_of_describes {lib : JoseLibrary S} (hlib : lib.Lawful)
    (h : Describes lib obj jws) (hdisjoint : ∀ sig ∈ jws.signatures, sig.Disjoint) :
    lib.parseJSONObject obj = .ok jws := by
  rcases h with ⟨sig, hsig, hpayload, hnone, hmembers⟩ | ⟨hgeneral, hne⟩
  · rw [hlib.parse_flattened _ _ _ hpayload hnone hmembers (hdisjoint sig (by simp [hsig])), ← hsig]
  · exact hlib.parse_general _ _ hgeneral hne hdisjoint

theorem parseJSONObject_clash {lib : JoseLibrary S} (hlib : lib.Lawful)
    (h : Describes lib obj jws) (hclash : ∃ sig ∈ jws.signatures, ¬ sig.Disjoint) :
    ∃ msg, lib.parseJSONObject obj = .error ⟨.parse, msg⟩ := by
  rcases h with ⟨sig, hsig, hpayload, hnone, hmembers⟩ | ⟨hgeneral, -⟩
  · obtain ⟨sig', hmem, hclash⟩ := hclash
    rw [hsig] at hmem
    cases List.mem_singleton.mp hmem
    exact hlib.flattened_clash _ _ _ hpayload hnone hmembers hclash
  · exact hlib.general_clash _ _ hgeneral hclash

/-- A written object is no compact form. -/
theorem readCompact_written (hlib : env.lib.Lawful) (obj : List (String × Json S))
    (detachedPayload : Option Payload) :
    ∃ msg, readCompact env (env.lib.writeValueAsBytes (.object obj)) detachedPayload =
      .error ⟨.parse, msg⟩ := by
  unfold readCompact
  cases detachedPayload with
  | none =>
      obtain ⟨msg, hmsg⟩ := hlib.compact_json obj
      refine ⟨msg, ?_⟩
      dsimp only
      rw [hmsg]
      rfl
  | some payload =>
      obtain ⟨msg, hmsg⟩ := hlib.detached_json obj payload
      refine ⟨msg, ?_⟩
      dsimp only
      rw [hmsg]
      rfl

/-- **Reading back.** A written document gives the data of its signatures, over the
detached payload if there is one. -/
theorem read_written (hlib : env.lib.Lawful) (h : Describes env.lib obj jws)
    (haccepted : ∀ sig ∈ jws.signatures, sig.Accepted env.lib)
    (hheader : ∀ sig ∈ jws.signatures, sig.dropEmpty = sig) :
    getJOSEDocumentSignatureData env (env.lib.writeValueAsBytes (.object obj)) detachedPayload =
      .ok (jws.signatures.map
        (signatureDataOf env (detachedPayload.getD jws.payload) detachedPayload.isSome)) := by
  have hparse := parseJSONObject_of_describes hlib h fun sig hsig => (haccepted sig hsig).disjoint
  obtain ⟨msg, hcompact⟩ := readCompact_written hlib obj detachedPayload
  have hjson : readJSON env (env.lib.writeValueAsBytes (.object obj)) detachedPayload =
      .ok (jws.signatures.map
        (signatureDataOf env (detachedPayload.getD jws.payload) detachedPayload.isSome)) := by
    unfold readJSON
    rw [hlib.parse_written, hparse]
    cases detachedPayload with
    | none => rfl
    | some payload =>
        have hgeneral := hlib.general_members jws h.nonempty haccepted
        have hsame : jws.signatures.map Signature.dropEmpty = jws.signatures :=
          (List.map_congr_left hheader).trans (List.map_id' _)
        have hreparse : env.lib.parseJSONObject
            (putEntry (env.lib.toGeneralJSONObject jws) "payload" (.string payload.base64URL)) =
              .ok ⟨payload, jws.signatures⟩ := by
          refine hlib.parse_general _ _ ⟨lookup_putEntry_self _ _ _, ?_, ?_⟩ h.nonempty
            fun sig hsig => (haccepted sig hsig).disjoint
          · rw [lookup_putEntry_of_ne (by decide)]
            exact hgeneral.noSignature
          · rw [lookup_putEntry_of_ne (by decide), ← hsame]
            exact hgeneral.signatures
        show (env.lib.parseJSONObject _ >>= _) = _
        rw [hreparse]
        rfl
  unfold getJOSEDocumentSignatureData
  rw [hcompact, hjson]
  rfl

/-- A document in which the headers of a signature clash has no signatures any more. -/
theorem read_written_clash (hlib : env.lib.Lawful) (h : Describes env.lib obj jws)
    (hclash : ∃ sig ∈ jws.signatures, ¬ sig.Disjoint) :
    getJOSEDocumentSignatureData env (env.lib.writeValueAsBytes (.object obj)) detachedPayload =
      .ok [] := by
  obtain ⟨msg, hcompact⟩ := readCompact_written hlib obj detachedPayload
  obtain ⟨msg', hparse⟩ := parseJSONObject_clash hlib h hclash
  have hjson : readJSON env (env.lib.writeValueAsBytes (.object obj)) detachedPayload =
      .error ⟨.parse, msg'⟩ := by
    unfold readJSON
    rw [hlib.parse_written, hparse]
    rfl
  unfold getJOSEDocumentSignatureData
  rw [hcompact, hjson]
  rfl

end Documents

end JOSESignedDocumentValidator

end SigVal.Jose
