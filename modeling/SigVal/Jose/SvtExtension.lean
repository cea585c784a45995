import SigVal.Jose.ByTheBook
import SigVal.Jose.SvtClaimsIssuer

/-!
# Extending JOSE signatures with SVT tokens

`JOSEDocumentSVTIssuer.issueSvt` reads a document, has a token issued for each of its
signatures and writes the document again with the tokens in the unprotected headers.
A document with one signature is written in the flattened form and one with more in
the general form, whatever form it had.

What is written has to be read back as the same signatures. The protected header is
written as it was; the header that gets the token must not repeat one of its names.
-/

namespace SigVal.Jose

open SigVal.Java SigVal.Commons SigVal.Svt
open JOSESignedDocumentValidator JOSESVTSigValClaimsIssuer

variable {Cert S : Type}

/-! ## The serialized documents -/

/-- `JSONSerializedDocument.JOSESignature`. -/
structure JOSESignature (S : Type) where
  protectedHeader : String
  unprotectedHeader : Option (UnprotectedHeader S)
  signature : String

/-- Properties that are `null` are left out. -/
def JOSESignature.members (joseSignature : JOSESignature S) : List (String × Json S) :=
  [("protected", .string joseSignature.protectedHeader)] ++
    (joseSignature.unprotectedHeader.map fun u => ("header", .object u)).toList ++
    [("signature", .string joseSignature.signature)]

structure JSONSerializedDocument (S : Type) where
  payload : String
  signatures : List (JOSESignature S)

def JSONSerializedDocument.members (doc : JSONSerializedDocument S) : List (String × Json S) :=
  [("payload", .string doc.payload),
    ("signatures", .array (doc.signatures.map fun joseSignature => .object joseSignature.members))]

structure JSONFlattenedSerializedDocument (S : Type) extends JOSESignature S where
  payload : String

def JSONFlattenedSerializedDocument.members (doc : JSONFlattenedSerializedDocument S) :
    List (String × Json S) :=
  ("payload", .string doc.payload) :: doc.toJOSESignature.members

/-! ## `JOSEDocumentSVTIssuer` -/

/-- `SVTExtensionData`. -/
structure SVTExtensionData (Cert S : Type) where
  signedJWT : Option SignedJWT
  signatureData : RawJOSESignatureData Cert S
  svtMethod : Option SVTExtendpolicy

namespace JOSEDocumentSVTIssuer

/-- The tokens of an `svt` parameter. One that cannot be read as a list of texts has
none. -/
def existingTokens (lib : JoseLibrary S) (svtHeaderObj : Json S) : Outcome (List String) :=
  match lib.readStrings svtHeaderObj with
  | .ok tokens => .ok tokens
  | .error ex => if ex.cls = .io then .ok [] else .error ex

def extendUnprotectedHeader (lib : JoseLibrary S) (svtExtensionData : SVTExtensionData Cert S) :
    Outcome (Option (UnprotectedHeader S)) :=
  let unprotectedHeaders := svtExtensionData.signatureData.unprotectedHeader.getD []
  match svtExtensionData.signedJWT with
  | none => pure (if unprotectedHeaders.isEmpty then none else some unprotectedHeaders)
  | some signedJWT => do
      let base64URLSVTList ←
        match unprotectedHeaders.lookup "svt" with
        | some svtHeaderObj => do
            let base64URLSVTList ← existingTokens lib svtHeaderObj
            match ← deref svtExtensionData.svtMethod with
            | .EXTEND => pure (base64URLSVTList ++ [lib.serialize signedJWT])
            | .REPLACE => pure [lib.serialize signedJWT]
        | none => pure [lib.serialize signedJWT]
      pure (some
        (if base64URLSVTList.isEmpty then unprotectedHeaders
          else putEntry unprotectedHeaders "svt" (Json.strings base64URLSVTList)))

/-- The payload as it is written: not at all when it is detached. -/
def payloadStr (signatureData : RawJOSESignatureData Cert S) : Outcome String :=
  if signatureData.detached then pure ""
  else do
    let payload ← deref signatureData.payload
    pure payload.base64URL

/-- One extended signature, in both forms. -/
def joseSignature (lib : JoseLibrary S) (svtExtensionData : SVTExtensionData Cert S) :
    Outcome (JOSESignature S) := do
  let signatureBytes ← deref svtExtensionData.signatureData.signatureBytes
  let header ← deref svtExtensionData.signatureData.header
  let unprotectedHeader ← extendUnprotectedHeader lib svtExtensionData
  pure ⟨header.base64URL, unprotectedHeader, lib.encode signatureBytes⟩

def extendDocumentSignature (lib : JoseLibrary S) (document : Bytes) :
    List (SVTExtensionData Cert S) → Outcome Bytes
  | [] => pure document
  | [svtExtensionData] => do
      let joseSignature ← joseSignature lib svtExtensionData
      let payload ← payloadStr svtExtensionData.signatureData
      let flattenedJoseDoc : JSONFlattenedSerializedDocument S := ⟨joseSignature, payload⟩
      pure (lib.writeValueAsBytes (.object flattenedJoseDoc.members))
  | first :: second :: rest => do
      let payload ← payloadStr first.signatureData
      let signatureList ← (first :: second :: rest).mapM (joseSignature lib)
      let jsonSerializedDocument : JSONSerializedDocument S := ⟨payload, signatureList⟩
      pure (lib.writeValueAsBytes (.object jsonSerializedDocument.members))

variable [DecidableEq Cert]

/-- The token of a signature. An exception on the way is logged, and there is no token
then. -/
def signedSvtJWT (env : JoseIssuerEnv Cert S) (svtClaimsIssuer : JOSESVTSigValClaimsIssuer Cert S)
    (svtMethod : SVTExtendpolicy) (signatureData : RawJOSESignatureData Cert S) :
    Option SignedJWT :=
  match getSignedSvtJWT env svtClaimsIssuer ⟨signatureData, svtMethod⟩ with
  | .ok signedSvtJWT => signedSvtJWT
  | .error _ => none

/-- The body of the loop of `issueSvt`. -/
def extensionData (env : JoseIssuerEnv Cert S) (svtClaimsIssuer : JOSESVTSigValClaimsIssuer Cert S)
    (svtMethod : SVTExtendpolicy) (issueSvtOnFailedValidation : Bool)
    (signatureData : RawJOSESignatureData Cert S) : Outcome (SVTExtensionData Cert S) := do
  let signedSvtJWT := signedSvtJWT env svtClaimsIssuer svtMethod signatureData
  let shouldBeIssued ← SVTUtils.checkIfSVTShouldBeIssued signedSvtJWT issueSvtOnFailedValidation
  if shouldBeIssued then
    pure ⟨signedSvtJWT, signatureData, signedSvtJWT.map fun _ => svtMethod⟩
  else throw ⟨.io, "SVT request for document with invalid signatures"⟩

def issueSvt (env : JoseIssuerEnv Cert S) (svtClaimsIssuer : JOSESVTSigValClaimsIssuer Cert S)
    (document : Bytes) (svtMethod : SVTExtendpolicy) (detatchedPayload : Option Payload)
    (issueSvtOnFailedValidation : Bool) : Outcome Bytes := do
  let signatureDataList ←
    getJOSEDocumentSignatureData env.toDocumentEnv document detatchedPayload
  let svtExtensionDataList ← signatureDataList.mapM
    (extensionData env svtClaimsIssuer svtMethod issueSvtOnFailedValidation)
  extendDocumentSignature env.lib document svtExtensionDataList

/-! ## The round trip -/

/-- A parameter of an unprotected header that may be `null`. -/
def param (unprotectedHeader : Option (UnprotectedHeader S)) (name : String) : Option (Json S) :=
  (unprotectedHeader.getD []).lookup name

/-- The tokens in an unprotected header. -/
def svtTokens (unprotectedHeader : Option (UnprotectedHeader S)) : List String :=
  ((param unprotectedHeader "svt").map Json.textsOf).getD []

/-- An `svt` parameter that is there is a list of texts. -/
def SvtIsList (unprotectedHeader : Option (UnprotectedHeader S)) : Prop :=
  ∀ value, param unprotectedHeader "svt" = some value → ∃ tokens, value = Json.strings tokens

/-- What the method makes of the tokens that are there and the new one. -/
def tokensAfter (svtMethod : SVTExtendpolicy) (tokens : List String) (token : String) :
    List String :=
  match svtMethod with
  | .EXTEND => tokens ++ [token]
  | .REPLACE => [token]

/-- The same signature with a new token. The last field is about the hashes: those
that a validator computes from the new data are those in the new token. -/
structure Extended (env : JoseIssuerEnv Cert S) (svtClaimsIssuer : JOSESVTSigValClaimsIssuer Cert S)
    (svtMethod : SVTExtendpolicy) (old new : RawJOSESignatureData Cert S) (jwt : SignedJWT) :
    Prop where
  header : new.header = old.header
  payload : new.payload = old.payload
  signatureBytes : new.signatureBytes = old.signatureBytes
  isVerified : new.isVerified = old.isVerified
  exception : new.exception = old.exception
  params : ∀ name, name ≠ "svt" →
    param new.unprotectedHeader name = param old.unprotectedHeader name
  svt : param new.unprotectedHeader "svt" = some
    (Json.strings (tokensAfter svtMethod (svtTokens old.unprotectedHeader)
      (env.lib.serialize jwt)))
  references : ∀ svt : SvtEnv Cert, ∃ claims svtData,
    verify env svtClaimsIssuer ⟨old, svtMethod⟩ svtClaimsIssuer.svtIssuer.hashAlgoUri =
      .ok (some [claims]) ∧
    CarriesClaims jwt svtClaimsIssuer.svtIssuer.hashAlgoUri [claims] ∧
    new.toSvtData env.lib = some svtData ∧
    Collects (withIssuerDigests env.claims svt) svtData jwt claims

/-- The output is read as the same signatures in the same order, each with the token
that was issued for it. -/
def RoundTrip (env : JoseIssuerEnv Cert S) (svtClaimsIssuer : JOSESVTSigValClaimsIssuer Cert S)
    (svtMethod : SVTExtendpolicy) (detachedPayload : Option Payload)
    (before : List (RawJOSESignatureData Cert S)) (output : Bytes) : Prop :=
  ∃ after, getJOSEDocumentSignatureData env.toDocumentEnv output detachedPayload = .ok after ∧
    List.Forall₂ (fun old new => ∃ jwt, signedSvtJWT env svtClaimsIssuer svtMethod old = some jwt ∧
      Extended env svtClaimsIssuer svtMethod old new jwt) before after

/-- The signature can take a token: the name of the parameter is not used in the
protected header, and there is a signature value. -/
def Extendable (signatureData : RawJOSESignatureData Cert S) : Prop :=
  (∀ header, signatureData.header = some header → "svt" ∉ header.includedParams) ∧
    signatureData.signatureBytes ≠ some []

/-! ## The extended header -/

/-- The unprotected header with the new token. -/
def extendedHeader (lib : JoseLibrary S) (svtMethod : SVTExtendpolicy) (jwt : SignedJWT)
    (unprotectedHeader : Option (UnprotectedHeader S)) : UnprotectedHeader S :=
  putEntry (unprotectedHeader.getD []) "svt"
    (Json.strings (tokensAfter svtMethod (svtTokens unprotectedHeader) (lib.serialize jwt)))

/-- The signature that is written for one that was read. -/
def extendedSignature (lib : JoseLibrary S) (svtMethod : SVTExtendpolicy) (jwt : SignedJWT)
    (sig : Signature S) : Signature S where
  header := sig.header
  unprotectedHeader := some (extendedHeader lib svtMethod jwt sig.unprotectedHeader)
  signature := lib.encode (lib.decode sig.signature)

section Header

variable {lib : JoseLibrary S} {svtMethod : SVTExtendpolicy} {jwt : SignedJWT}

theorem param_extendedHeader_svt (u : Option (UnprotectedHeader S)) :
    param (some (extendedHeader lib svtMethod jwt u)) "svt" =
      some (Json.strings (tokensAfter svtMethod (svtTokens u) (lib.serialize jwt))) :=
  lookup_putEntry_self _ _ _

theorem param_extendedHeader_of_ne (u : Option (UnprotectedHeader S)) {name : String}
    (h : name ≠ "svt") : param (some (extendedHeader lib svtMethod jwt u)) name = param u name :=
  lookup_putEntry_of_ne h

omit [DecidableEq Cert] in
/-- The header that is written, when the tokens that are there can be read. -/
theorem extendUnprotectedHeader_eq (hlib : lib.Lawful)
    {signatureData : RawJOSESignatureData Cert S}
    (hsvt : SvtIsList signatureData.unprotectedHeader) :
    extendUnprotectedHeader lib ⟨some jwt, signatureData, some svtMethod⟩ =
      .ok (some (extendedHeader lib svtMethod jwt signatureData.unprotectedHeader)) := by
  unfold extendUnprotectedHeader extendedHeader svtTokens
  cases hvalue : param signatureData.unprotectedHeader "svt" with
  | none =>
      have hlookup : (signatureData.unprotectedHeader.getD []).lookup "svt" = none := hvalue
      have hafter : tokensAfter svtMethod [] (lib.serialize jwt) = [lib.serialize jwt] := by
        cases svtMethod with
        | REPLACE => rfl
        | EXTEND => rfl
      simp [hlookup, hafter, pure, Except.pure, bind, Except.bind]
  | some value =>
      obtain ⟨tokens, rfl⟩ := hsvt value hvalue
      have hlookup : (signatureData.unprotectedHeader.getD []).lookup "svt" =
          some (Json.strings tokens) := hvalue
      have hexisting : existingTokens lib (Json.strings tokens) = .ok tokens := by
        unfold existingTokens
        rw [hlib.readStrings_strings]
      cases svtMethod with
      | REPLACE =>
          simp [hlookup, hexisting, deref, tokensAfter, pure, Except.pure, bind, Except.bind]
      | EXTEND =>
          simp [hlookup, hexisting, deref, tokensAfter, pure, Except.pure, bind, Except.bind]

/-- The new parameter clashes with a protected one of its name, and with no other. -/
theorem extendedSignature_disjoint_iff {sig : Signature S} (hdisjoint : sig.Disjoint) :
    (extendedSignature lib svtMethod jwt sig).Disjoint ↔ "svt" ∉ sig.header.includedParams := by
  constructor
  · intro h hmem
    have hnone : param (some (extendedHeader lib svtMethod jwt sig.unprotectedHeader)) "svt" =
        none := h _ rfl "svt" hmem
    rw [param_extendedHeader_svt] at hnone
    cases hnone
  · intro hnot u hu name hmem
    cases hu
    have hne : name ≠ "svt" := fun heq => hnot (heq ▸ hmem)
    show (extendedHeader lib svtMethod jwt sig.unprotectedHeader).lookup name = none
    rw [extendedHeader, lookup_putEntry_of_ne hne]
    cases hu : sig.unprotectedHeader with
    | none => rfl
    | some u => exact hdisjoint u hu name hmem

/-- The extended header has a parameter, so it is not left out. -/
theorem extendedSignature_dropEmpty (sig : Signature S) :
    (extendedSignature lib svtMethod jwt sig).dropEmpty =
      extendedSignature lib svtMethod jwt sig := by
  have hne : (extendedHeader lib svtMethod jwt sig.unprotectedHeader).isEmpty = false := by
    cases hempty : extendedHeader lib svtMethod jwt sig.unprotectedHeader with
    | nil =>
        have hsome := lookup_putEntry_self (sig.unprotectedHeader.getD []) "svt"
          (Json.strings (tokensAfter svtMethod (svtTokens sig.unprotectedHeader)
            (lib.serialize jwt)))
        rw [show putEntry _ _ _ = [] from hempty] at hsome
        cases hsome
    | cons e rest => rfl
  unfold Signature.dropEmpty extendedSignature
  simp [hne]

end Header

/-! ## What is written -/

section Written

variable {lib : JoseLibrary S}

/-- A signature as it is serialized. -/
def toJOSESignature (sig : Signature S) : JOSESignature S :=
  ⟨sig.header.base64URL, sig.unprotectedHeader, sig.signature⟩

theorem lookup_members (joseSignature : JOSESignature S) :
    joseSignature.members.lookup "protected" = some (.string joseSignature.protectedHeader) ∧
      joseSignature.members.lookup "header" = joseSignature.unprotectedHeader.map .object ∧
      joseSignature.members.lookup "signature" = some (.string joseSignature.signature) ∧
      joseSignature.members.lookup "signatures" = none := by
  obtain ⟨protectedHeader, unprotectedHeader, signature⟩ := joseSignature
  cases unprotectedHeader with
  | none => exact ⟨rfl, rfl, rfl, rfl⟩
  | some u => exact ⟨rfl, rfl, rfl, rfl⟩

/-- The members that are written are those of the signature. -/
theorem members_toJOSESignature {sig : Signature S} (hparses : sig.Parses lib) :
    sig.Members lib (toJOSESignature sig).members := by
  obtain ⟨hprotected, hunprotected, hsignature, -⟩ := lookup_members (toJOSESignature sig)
  exact ⟨hparses, hprotected, hunprotected, hsignature⟩

/-- Both forms describe the signatures that are written. -/
theorem describes_flattened {sig : Signature S} {p : String} (hparses : sig.Parses lib) :
    Describes lib (JSONFlattenedSerializedDocument.members ⟨toJOSESignature sig, p⟩)
      ⟨⟨p⟩, [sig]⟩ := by
  obtain ⟨hprotected, hunprotected, hsignature, hsignatures⟩ :=
    lookup_members (toJOSESignature sig)
  have hskip : ∀ name, name ≠ "payload" →
      (JSONFlattenedSerializedDocument.members ⟨toJOSESignature sig, p⟩).lookup name =
        (toJOSESignature sig).members.lookup name := by
    intro name hne
    unfold JSONFlattenedSerializedDocument.members
    rw [lookup_cons_eq, if_neg hne]
  refine Or.inl ⟨sig, rfl, rfl, (hskip _ (by decide)).trans hsignatures, hparses, ?_, ?_, ?_⟩
  · exact (hskip _ (by decide)).trans hprotected
  · exact (hskip _ (by decide)).trans hunprotected
  · exact (hskip _ (by decide)).trans hsignature

theorem describes_general {sigs : List (Signature S)} {p : String} (hne : sigs ≠ [])
    (hparses : ∀ sig ∈ sigs, sig.Parses lib) :
    Describes lib (JSONSerializedDocument.members ⟨p, sigs.map toJOSESignature⟩)
      ⟨⟨p⟩, sigs⟩ := by
  refine Or.inr ⟨⟨rfl, rfl, sigs.map fun sig => (toJOSESignature sig).members, ?_, ?_⟩, hne⟩
  · show some (Json.array _) = some (Json.array _)
    simp [List.map_map, Function.comp_def]
  · rw [List.forall₂_map_left_iff, List.forall₂_same]
    intro sig hsig
    exact members_toJOSESignature (hparses sig hsig)

omit [DecidableEq Cert] in
/-- Something to extend is written in one of the two forms. -/
theorem extendDocumentSignature_cases {document output : Bytes}
    {first : SVTExtensionData Cert S} {rest : List (SVTExtensionData Cert S)}
    (h : extendDocumentSignature lib document (first :: rest) = .ok output) :
    ∃ p signatures obj, payloadStr first.signatureData = .ok p ∧
      (first :: rest).mapM (joseSignature lib) = .ok signatures ∧
      output = lib.writeValueAsBytes (.object obj) ∧
      ((∃ joseSignature, signatures = [joseSignature] ∧
          obj = JSONFlattenedSerializedDocument.members ⟨joseSignature, p⟩) ∨
        obj = JSONSerializedDocument.members ⟨p, signatures⟩) := by
  cases rest with
  | nil =>
      obtain ⟨j, hj, h⟩ := bind_ok_iff.mp h
      obtain ⟨p, hp, h⟩ := bind_ok_iff.mp h
      cases h
      refine ⟨p, [j], _, hp, ?_, rfl, Or.inl ⟨j, rfl, rfl⟩⟩
      rw [List.mapM_cons, hj]
      rfl
  | cons second rest =>
      obtain ⟨p, hp, h⟩ := bind_ok_iff.mp h
      obtain ⟨signatures, hsignatures, h⟩ := bind_ok_iff.mp h
      cases h
      exact ⟨p, signatures, _, hp, hsignatures, rfl, Or.inr rfl⟩

end Written

/-! ## Read, extended and read again -/

section RoundTrip

variable {env : JoseIssuerEnv Cert S} {svtClaimsIssuer : JOSESVTSigValClaimsIssuer Cert S}
  {svtMethod : SVTExtendpolicy} {issueSvtOnFailedValidation : Bool}
  {signatureData : RawJOSESignatureData Cert S} {payload : Payload} {detached : Bool}

/-- Past the gate there is a token. -/
theorem extensionData_ok {svtExtensionData : SVTExtensionData Cert S}
    (h : extensionData env svtClaimsIssuer svtMethod issueSvtOnFailedValidation signatureData =
      .ok svtExtensionData) :
    ∃ jwt, signedSvtJWT env svtClaimsIssuer svtMethod signatureData = some jwt ∧
      svtExtensionData = ⟨some jwt, signatureData, some svtMethod⟩ := by
  unfold extensionData at h
  obtain ⟨shouldBeIssued, hgate, h⟩ := bind_ok_iff.mp h
  cases htoken : signedSvtJWT env svtClaimsIssuer svtMethod signatureData with
  | none =>
      rw [htoken] at hgate
      cases hgate
      cases h
  | some jwt =>
      rw [htoken] at h
      cases shouldBeIssued with
      | false => cases h
      | true =>
          cases h
          exact ⟨jwt, rfl, rfl⟩

/-- The token of a signature was made from its claims, so nothing of the signature was
missing. -/
theorem token_refers (hissuer : svtClaimsIssuer.svtIssuer.Lawful) {jwt : SignedJWT}
    (h : signedSvtJWT env svtClaimsIssuer svtMethod signatureData = some jwt) :
    ∃ claims header payload signatureBytes digestAlgorithm digest,
      verify env svtClaimsIssuer ⟨signatureData, svtMethod⟩
        svtClaimsIssuer.svtIssuer.hashAlgoUri = .ok (some [claims]) ∧
      CarriesClaims jwt svtClaimsIssuer.svtIssuer.hashAlgoUri [claims] ∧
      Refers env signatureData svtClaimsIssuer.svtIssuer.hashAlgoUri claims header payload
        signatureBytes digestAlgorithm digest := by
  have hissued : getSignedSvtJWT env svtClaimsIssuer ⟨signatureData, svtMethod⟩ =
      .ok (some jwt) := by
    unfold signedSvtJWT at h
    split at h
    · rename_i token htoken
      rw [htoken, h]
    · cases h
  obtain ⟨claimsList, hverify, hcarries⟩ := hissuer _ _ hissued
  obtain ⟨claims, header, payload, signatureBytes, digestAlgorithm, digest, rfl, href⟩ :=
    verify_refers hverify
  exact ⟨claims, header, payload, signatureBytes, digestAlgorithm, digest, hverify, hcarries, href⟩

theorem taken_of_token (hissuer : svtClaimsIssuer.svtIssuer.Lawful) {jwt : SignedJWT}
    {sig : Signature S}
    (h : signedSvtJWT env svtClaimsIssuer svtMethod
      (signatureDataOf env.toDocumentEnv payload detached sig) = some jwt) :
    ∃ start verified, TakenWith env.toDocumentEnv payload detached sig start verified := by
  obtain ⟨_, header, _, _, _, _, _, _, href⟩ := token_refers hissuer h
  exact taken_of_header href.hasHeader

/-- A signature that was read, and the one that is written for it. -/
def WrittenAs (env : JoseIssuerEnv Cert S) (svtClaimsIssuer : JOSESVTSigValClaimsIssuer Cert S)
    (svtMethod : SVTExtendpolicy) (payload : Payload) (detached : Bool)
    (sig sig' : Signature S) : Prop :=
  sig.Accepted env.lib ∧ ∃ jwt start verified,
    TakenWith env.toDocumentEnv payload detached sig start verified ∧
    signedSvtJWT env svtClaimsIssuer svtMethod
      (signatureDataOf env.toDocumentEnv payload detached sig) = some jwt ∧
    sig' = extendedSignature env.lib svtMethod jwt sig

/-- The headers of a written signature parse, as those of the old one did. -/
theorem WrittenAs.parses (hlib : env.lib.Lawful) {sig sig' : Signature S}
    (h : WrittenAs env svtClaimsIssuer svtMethod payload detached sig sig') :
    sig'.Parses env.lib := by
  obtain ⟨haccepted, jwt, _, _, _, _, rfl⟩ := h
  have hold : env.lib.parseUnprotectedHeader (sig.unprotectedHeader.getD []) = .ok () := by
    cases hu : sig.unprotectedHeader with
    | none => exact hlib.unprotected_nil
    | some u => exact haccepted.unprotected u hu
  refine ⟨haccepted.header, ?_⟩
  intro u hu
  cases hu
  exact hlib.unprotected_put _ _ _ hold (by decide)

/-- What is written for one signature. -/
theorem writtenAs_of_ok (hlib : env.lib.Lawful) (hissuer : svtClaimsIssuer.svtIssuer.Lawful)
    {sig : Signature S} {svtExtensionData : SVTExtensionData Cert S}
    {serialized : JOSESignature S} (haccepted : sig.Accepted env.lib)
    (hsvt : SvtIsList
      (signatureDataOf env.toDocumentEnv payload detached sig).unprotectedHeader)
    (hextension : extensionData env svtClaimsIssuer svtMethod issueSvtOnFailedValidation
      (signatureDataOf env.toDocumentEnv payload detached sig) = .ok svtExtensionData)
    (hserialized : joseSignature env.lib svtExtensionData = .ok serialized) :
    ∃ sig', WrittenAs env svtClaimsIssuer svtMethod payload detached sig sig' ∧
      serialized = toJOSESignature sig' := by
  obtain ⟨jwt, htoken, rfl⟩ := extensionData_ok hextension
  obtain ⟨start, verified, htaken⟩ := taken_of_token hissuer htoken
  refine ⟨_, ⟨haccepted, jwt, start, verified, htaken, htoken, rfl⟩, ?_⟩
  obtain ⟨_, _, _, hdata⟩ := htaken
  unfold joseSignature at hserialized
  dsimp only at hserialized
  rw [extendUnprotectedHeader_eq hlib hsvt, hdata] at hserialized
  cases hserialized
  rfl

omit [DecidableEq Cert] in
/-- The payload that is written, when the data is there. -/
theorem payloadStr_of_taken {sig : Signature S} {start : RawJOSESignatureData Cert S}
    {verified : Bool} (h : TakenWith env.toDocumentEnv payload detached sig start verified) :
    payloadStr (signatureDataOf env.toDocumentEnv payload detached sig) =
      .ok (if detached then "" else payload.base64URL) := by
  obtain ⟨_, _, _, hdata⟩ := h
  rw [hdata]
  cases detached with
  | true => rfl
  | false => rfl

/-- **What is written.** The output of a document with signatures describes them
extended, in their order, over the same payload. -/
theorem extendDocumentSignature_writes (hlib : env.lib.Lawful)
    (hissuer : svtClaimsIssuer.svtIssuer.Lawful) {detachedPayload : Option Payload}
    (hpayload : ∀ p, detachedPayload = some p → payload = p) {signatures : List (Signature S)}
    (haccepted : ∀ sig ∈ signatures, sig.Accepted env.lib) (hne : signatures ≠ [])
    (hsvt : ∀ sig ∈ signatures, SvtIsList (signatureDataOf env.toDocumentEnv payload
      detachedPayload.isSome sig).unprotectedHeader)
    {svtExtensionDataList : List (SVTExtensionData Cert S)}
    (hextensions : (signatures.map
      (signatureDataOf env.toDocumentEnv payload detachedPayload.isSome)).mapM
        (extensionData env svtClaimsIssuer svtMethod issueSvtOnFailedValidation) =
          .ok svtExtensionDataList)
    {document output : Bytes}
    (hout : extendDocumentSignature env.lib document svtExtensionDataList = .ok output) :
    ∃ obj jws, output = env.lib.writeValueAsBytes (.object obj) ∧ Describes env.lib obj jws ∧
      detachedPayload.getD jws.payload = payload ∧
      List.Forall₂ (WrittenAs env svtClaimsIssuer svtMethod payload detachedPayload.isSome)
        signatures jws.signatures := by
  have hextended := List.forall₂_map_left_iff.mp (forall₂_of_mapM_ok hextensions)
  cases svtExtensionDataList with
  | nil => exact absurd (List.forall₂_nil_right_iff.mp hextended) hne
  | cons first rest =>
      obtain ⟨p, serialized, obj, hp, hserialized, rfl, hobj⟩ := extendDocumentSignature_cases hout
      -- each signature, its extension data and its serialized form
      have hforms := forall₂_comp hextended (forall₂_of_mapM_ok hserialized)
      have hknown : ∀ sig ∈ signatures, sig.Accepted env.lib ∧ SvtIsList (signatureDataOf
          env.toDocumentEnv payload detachedPayload.isSome sig).unprotectedHeader :=
        fun sig hmem => ⟨haccepted sig hmem, hsvt sig hmem⟩
      obtain ⟨signatures', hwritten, rfl⟩ := exists_map_of_forall₂
        (((List.forall₂_and_left _ _).mpr ⟨hknown, hforms⟩).imp (by
          rintro sig serialized ⟨⟨haccepted, hsvt⟩, _, hextension, hserialized⟩
          exact writtenAs_of_ok hlib hissuer haccepted hsvt hextension hserialized))
      have hparses : ∀ sig' ∈ signatures', sig'.Parses env.lib := by
        intro sig' hmem
        obtain ⟨sig, -, hsig⟩ := forall₂_left hwritten.flip sig' hmem
        exact WrittenAs.parses hlib hsig
      refine ⟨obj, ⟨⟨p⟩, signatures'⟩, rfl, ?_, ?_, hwritten⟩
      · rcases hobj with ⟨j, hj, rfl⟩ | rfl
        · obtain ⟨sig', rfl, rfl⟩ := List.map_eq_singleton_iff.mp hj
          exact describes_flattened (hparses sig' List.mem_cons_self)
        · refine describes_general ?_ hparses
          rintro rfl
          exact hne (List.forall₂_nil_right_iff.mp hwritten)
      · obtain ⟨sig, tail, hfirst, -, rfl⟩ := List.forall₂_cons_right_iff.mp hextended
        obtain ⟨jwt, htoken, rfl⟩ := extensionData_ok hfirst
        obtain ⟨_, _, htaken⟩ := taken_of_token hissuer htoken
        have hstr := hp.symm.trans (payloadStr_of_taken htaken)
        cases hstr
        cases detachedPayload with
        | none => rfl
        | some detachedPayload => exact (hpayload detachedPayload rfl).symm

/-- What is read of an extended signature with a value is the old data with the new
unprotected header. -/
theorem extended_of_writtenAs (hlib : env.lib.Lawful)
    (hissuer : svtClaimsIssuer.svtIssuer.Lawful) {sig sig' : Signature S}
    (h : WrittenAs env svtClaimsIssuer svtMethod payload detached sig sig')
    (hvalue : env.lib.decode sig.signature ≠ []) :
    ∃ jwt, signedSvtJWT env svtClaimsIssuer svtMethod
        (signatureDataOf env.toDocumentEnv payload detached sig) = some jwt ∧
      Extended env svtClaimsIssuer svtMethod
        (signatureDataOf env.toDocumentEnv payload detached sig)
        (signatureDataOf env.toDocumentEnv payload detached sig') jwt := by
  obtain ⟨-, jwt, start, verified, htaken, htoken, rfl⟩ := h
  refine ⟨jwt, htoken, ?_⟩
  obtain ⟨certs, hcerts⟩ := htaken.certs
  have hnew : signatureDataOf env.toDocumentEnv payload detached
      (extendedSignature env.lib svtMethod jwt sig) = _ :=
    signatureDataOf_reencoded hlib htaken rfl (hlib.decode_encode _) hvalue
  obtain ⟨claims, header, payload', signatureBytes, digestAlgorithm, digest, hverify, hcarries,
    href⟩ := token_refers hissuer htoken
  have hunprotected : (signatureDataOf env.toDocumentEnv payload detached sig).unprotectedHeader =
      sig.unprotectedHeader := by
    obtain ⟨_, _, _, hdata⟩ := htaken
    rw [hdata]
  have hheader := congrArg RawJOSESignatureData.header hnew
  have hpayload := congrArg RawJOSESignatureData.payload hnew
  have hsignature := congrArg RawJOSESignatureData.signatureBytes hnew
  have hdetached := congrArg RawJOSESignatureData.detached hnew
  have hverified := congrArg RawJOSESignatureData.isVerified hnew
  have hexception := congrArg RawJOSESignatureData.exception hnew
  have hchain := congrArg RawJOSESignatureData.signatureCertChain hnew
  have hextended := congrArg RawJOSESignatureData.unprotectedHeader hnew
  refine ⟨hheader, hpayload, hsignature, hverified, hexception, ?_, ?_, ?_⟩
  · intro name hne
    rw [hextended, hunprotected]
    exact param_extendedHeader_of_ne _ hne
  · rw [hextended, hunprotected]
    exact param_extendedHeader_svt _
  · intro svt
    obtain ⟨svtData, hsvtData, hcollects⟩ :=
      collects_of_same href hcarries svt hheader hpayload hsignature hdetached
        (hchain.trans hcerts)
    exact ⟨claims, svtData, hverify, hcarries, hsvtData, hcollects⟩

/-- Without a value a signature does not come back. -/
theorem value_of_extended (hlib : env.lib.Lawful) {sig sig' : Signature S}
    (h : WrittenAs env svtClaimsIssuer svtMethod payload detached sig sig')
    (hextended : ∃ jwt, signedSvtJWT env svtClaimsIssuer svtMethod
        (signatureDataOf env.toDocumentEnv payload detached sig) = some jwt ∧
      Extended env svtClaimsIssuer svtMethod
        (signatureDataOf env.toDocumentEnv payload detached sig)
        (signatureDataOf env.toDocumentEnv payload detached sig') jwt) :
    env.lib.decode sig.signature ≠ [] := by
  intro hempty
  obtain ⟨-, jwt, _, _, ⟨_, _, _, hdata⟩, _, rfl⟩ := h
  obtain ⟨_, _, hextended⟩ := hextended
  have hnone : (signatureDataOf env.toDocumentEnv payload detached
      (extendedSignature env.lib svtMethod jwt sig)).signatureBytes = none := by
    apply signatureDataOf_empty hlib
    show env.lib.encode (env.lib.decode sig.signature) = ""
    rw [hempty, hlib.encode_nil]
  have hsome := hextended.signatureBytes
  rw [hnone, hdata] at hsome
  cases hsome

/-- The condition, on the signature that was read. -/
theorem extendable_iff {sig sig' : Signature S}
    (h : WrittenAs env svtClaimsIssuer svtMethod payload detached sig sig') :
    Extendable (signatureDataOf env.toDocumentEnv payload detached sig) ↔
      sig'.Disjoint ∧ env.lib.decode sig.signature ≠ [] := by
  obtain ⟨haccepted, jwt, _, _, ⟨_, _, _, hdata⟩, _, rfl⟩ := h
  rw [extendedSignature_disjoint_iff haccepted.disjoint]
  unfold Extendable
  rw [hdata]
  simp

/-- Without a clash the written signatures are read back. -/
theorem read_extended (hlib : env.lib.Lawful) {detachedPayload : Option Payload}
    {obj : List (String × Json S)} {jws : JWSObjectJSON S} {signatures : List (Signature S)}
    (hdescribes : Describes env.lib obj jws) (hsame : detachedPayload.getD jws.payload = payload)
    (hwritten : List.Forall₂
      (WrittenAs env svtClaimsIssuer svtMethod payload detachedPayload.isSome)
      signatures jws.signatures)
    (hdisjoint : ∀ sig' ∈ jws.signatures, sig'.Disjoint) :
    getJOSEDocumentSignatureData env.toDocumentEnv
      (env.lib.writeValueAsBytes (.object obj)) detachedPayload =
        .ok (jws.signatures.map
          (signatureDataOf env.toDocumentEnv payload detachedPayload.isSome)) := by
  rw [← hsame]
  refine read_written hlib hdescribes ?_ ?_
  · intro sig' hsig'
    obtain ⟨sig, -, hsig⟩ := forall₂_left hwritten.flip sig' hsig'
    exact ⟨WrittenAs.parses hlib hsig, hdisjoint sig' hsig'⟩
  · intro sig' hsig'
    obtain ⟨sig, -, -, jwt, _, _, _, _, rfl⟩ := forall₂_left hwritten.flip sig' hsig'
    exact extendedSignature_dropEmpty sig

/-- **The round trip.** Take any document the issuer extends, with its signatures as
they are parsed and `svt` parameters that are lists of texts. The output is read as
the same signatures, each with its new token, exactly when no protected header has a
parameter `svt` and no signature value is empty. -/
theorem issueSvt_roundTrip_iff (hlib : env.lib.Lawful)
    (hissuer : svtClaimsIssuer.svtIssuer.Lawful) {document output : Bytes}
    {detachedPayload : Option Payload} {before : List (RawJOSESignatureData Cert S)}
    (hparse : getJOSEDocumentSignatureData env.toDocumentEnv document detachedPayload =
      .ok before)
    (hsvt : ∀ signatureData ∈ before, SvtIsList signatureData.unprotectedHeader)
    (hissue : issueSvt env svtClaimsIssuer document svtMethod detachedPayload
      issueSvtOnFailedValidation = .ok output) :
    RoundTrip env svtClaimsIssuer svtMethod detachedPayload before output ↔
      ∀ signatureData ∈ before, Extendable signatureData := by
  obtain ⟨payload, signatures, rfl, haccepted, hpayload⟩ := fromSignatures_of_parse hlib hparse
  obtain ⟨before, hbefore, hissue⟩ := bind_ok_iff.mp hissue
  rw [hparse] at hbefore
  cases hbefore
  obtain ⟨svtExtensionDataList, hextensions, hout⟩ := bind_ok_iff.mp hissue
  by_cases hne : signatures = []
  · -- nothing to extend: the document is handed back
    subst hne
    cases hextensions
    cases hout
    exact iff_of_true ⟨[], hparse, .nil⟩ (by simp)
  · obtain ⟨obj, jws, rfl, hdescribes, hsame, hwritten⟩ := extendDocumentSignature_writes hlib
      hissuer hpayload haccepted hne (fun sig hmem => hsvt _ (List.mem_map_of_mem hmem))
      hextensions hout
    constructor
    · rintro ⟨after, hafter, hall⟩
      -- a clash anywhere loses all the signatures
      have hdisjoint : ∀ sig' ∈ jws.signatures, sig'.Disjoint := by
        intro sig' hsig'
        by_contra hclash
        rw [read_written_clash hlib hdescribes ⟨sig', hsig', hclash⟩] at hafter
        cases hafter
        exact hne (List.map_eq_nil_iff.mp (List.forall₂_nil_right_iff.mp hall))
      rw [read_extended hlib hdescribes hsame hwritten hdisjoint] at hafter
      cases hafter
      rw [List.forall₂_map_left_iff, List.forall₂_map_right_iff] at hall
      have hvalues := hwritten.mp (fun sig sig' hsig hextended =>
        And.intro hsig (value_of_extended hlib hsig hextended)) hall
      intro signatureData hmem
      obtain ⟨sig, hsig, rfl⟩ := List.mem_map.mp hmem
      obtain ⟨sig', hsig', hwrittenAs, hvalue⟩ := forall₂_left hvalues sig hsig
      exact (extendable_iff hwrittenAs).mpr ⟨hdisjoint sig' hsig', hvalue⟩
    · intro hextendable
      have hsigs : ∀ sig ∈ signatures, Extendable
          (signatureDataOf env.toDocumentEnv payload detachedPayload.isSome sig) :=
        fun sig hsig => hextendable _ (List.mem_map_of_mem hsig)
      have hdisjoint : ∀ sig' ∈ jws.signatures, sig'.Disjoint := by
        intro sig' hsig'
        obtain ⟨sig, hsig, hwrittenAs⟩ := forall₂_left hwritten.flip sig' hsig'
        exact ((extendable_iff hwrittenAs).mp (hsigs sig hsig)).1
      refine ⟨_, read_extended hlib hdescribes hsame hwritten hdisjoint, ?_⟩
      rw [List.forall₂_map_left_iff, List.forall₂_map_right_iff]
      refine ((List.forall₂_and_left _ _).mpr ⟨hsigs, hwritten⟩).imp ?_
      rintro sig sig' ⟨hextendable, hwrittenAs⟩
      exact extended_of_writtenAs hlib hissuer hwrittenAs
        ((extendable_iff hwrittenAs).mp hextendable).2

end RoundTrip

/-! ## A document with a token, and one that names it in its protected header -/

section Demo

/-- A certificate for a P-256 key, in DER. -/
def demoCertificate : Bytes :=
  [48, 130, 1, 10, 48, 129, 176, 2, 1, 1, 48, 10, 6, 8, 42, 134, 72, 206, 61, 4, 3, 2, 48, 17, 49,
   15, 48, 13, 6, 3, 85, 4, 3, 12, 6, 83, 105, 103, 110, 101, 114, 48, 30, 23, 13, 50, 54, 49, 49,
   49, 57, 48, 52, 49, 52, 48, 53, 90, 23, 13, 51, 54, 49, 49, 49, 54, 48, 52, 49, 52, 48, 53, 90,
   48, 17, 49, 15, 48, 13, 6, 3, 85, 4, 3, 12, 6, 83, 105, 103, 110, 101, 114, 48, 89, 48, 19, 6,
   7, 42, 134, 72, 206, 61, 2, 1, 6, 8, 42, 134, 72, 206, 61, 3, 1, 7, 3, 66, 0, 4, 190, 11, 173,
   121, 3, 230, 171, 101, 185, 180, 238, 158, 130, 187, 220, 73, 17, 227, 163, 23, 57, 3, 211, 137,
   196, 36, 202, 210, 2, 247, 1, 19, 56, 102, 190, 248, 178, 195, 125, 199, 199, 158, 6, 140, 31,
   163, 122, 146, 214, 220, 81, 97, 159, 62, 208, 241, 201, 155, 22, 196, 124, 174, 160, 183, 48,
   10, 6, 8, 42, 134, 72, 206, 61, 4, 3, 2, 3, 73, 0, 48, 70, 2, 33, 0, 151, 88, 46, 188, 107, 150,
   100, 112, 15, 183, 94, 1, 76, 10, 81, 17, 152, 4, 232, 199, 202, 17, 102, 70, 195, 174, 168,
   197, 180, 26, 210, 151, 2, 33, 0, 168, 171, 52, 233, 206, 18, 247, 118, 14, 118, 8, 186, 14, 41,
   169, 90, 121, 179, 238, 115, 88, 101, 250, 246, 107, 7, 177, 227, 146, 58, 173, 58]

/-- The point of its key. -/
def demoKey : Bytes := (demoCertificate.drop 118).take 65

/-- The certificate in an `x5c` parameter. Two characters of base64 are other ones in
base64url, and 270 bytes need no padding. -/
def demoX5c : String :=
  (Base64Url.encode demoCertificate).map fun c =>
    if c = '-' then '+' else if c = '_' then '/' else c

/-- A protected header with an algorithm and the certificate, and what more it has. -/
def headerBytes (more : String) : Bytes :=
  "\x7b\"alg\":\"ES256\",\"x5c\":[\"".toUTF8.data.toList ++
    (demoX5c.toUTF8.data.toList ++ ("\"]" ++ more ++ "\x7d").toUTF8.data.toList)

def demoHeader : JWSHeader where
  algorithm := "ES256"
  keyID := none
  x509CertChain := some [demoCertificate]
  base64URL := Base64Url.encode (headerBytes "")
  includedParams := ["alg", "x5c"]

/-- The same with an `svt` parameter, an empty list. -/
def svtHeader : JWSHeader where
  algorithm := "ES256"
  keyID := none
  x509CertChain := some [demoCertificate]
  base64URL := Base64Url.encode (headerBytes ",\"svt\":[]")
  includedParams := ["alg", "x5c", "svt"]

/-- The signature values for these headers, each over an empty JSON object. -/
def demoValue : Bytes :=
  [219, 237, 242, 25, 217, 69, 107, 155, 235, 14, 162, 181, 54, 74, 47, 245, 122, 74, 5, 81, 111,
   160, 235, 14, 245, 60, 51, 233, 89, 159, 202, 184, 125, 163, 191, 43, 22, 229, 112, 108, 118,
   184, 247, 165, 141, 135, 73, 66, 168, 14, 200, 97, 211, 86, 28, 21, 131, 91, 160, 162, 77, 71,
   238, 34]

def svtValue : Bytes :=
  [7, 175, 109, 216, 115, 204, 195, 247, 230, 242, 27, 234, 149, 152, 11, 94, 154, 151, 77, 95, 64,
   117, 199, 57, 212, 232, 174, 238, 60, 217, 219, 15, 58, 147, 129, 103, 191, 46, 186, 108, 134,
   243, 138, 182, 182, 151, 54, 76, 77, 48, 163, 87, 184, 206, 17, 135, 254, 27, 110, 127, 157,
   238, 124, 6]

/-- The header of a token names the certificate by its digest. -/
def tokenKeyID : String := "ogAGWHeYq116bMpkj3P/KojmddVR9PIQJ0q/gxUy1Dw="

/-- What is signed of a token with these claims. -/
def tokenInput (claims : String) : String :=
  "eyJhbGciOiJFUzI1NiIsImtpZCI6Im9nQUdXSGVZcTExNmJNcGtqM1AvS29qbWRkVlI5UElRSjBxL2d4VXkxRHc9In0" ++
    "." ++ claims

def olderValue : String :=
  "vHNWQilrlWr98l7hQTCMejzSof41SpRyM_Ic48zXIV-baGtq64pdX_bu7kVfNAKI2x7OpkhVEsfnwMefK6ABAw"

def newValue : String :=
  "Lhj7iMccp4dcq_VGIIql24pgWmv6OCo3c9syqQqOTwwJfC_NBHzeOndUzOhvwbz0NVgY_m2U07zsvrIYKwz0XA"

/-- An older token and a new one, which say when they were issued. -/
def olderToken : String := tokenInput "eyJpYXQiOjB9" ++ "." ++ olderValue

def newToken : String := tokenInput "eyJpYXQiOjF9" ++ "." ++ newValue

def demoBook : Book where
  headers := [demoHeader, svtHeader]
  check := fun header payload bytes verifier =>
    payload.base64URL == "e30" && verifier.publicKey == .ec demoKey &&
      (header.base64URL == demoHeader.base64URL && bytes == demoValue ||
        header.base64URL == svtHeader.base64URL && bytes == svtValue)
  serialize := fun _ => newToken

def demoEnv : JoseIssuerEnv Unit Unit where
  lib := demoBook.library
  jvm := plainJvm
  jwsAlgorithmMap := JWSAlgorithmRegistry.initial
  supportedCritHeaderParams := initialCritHeaderParams
  getCertificate := fun bytes =>
    if bytes = demoCertificate then .ok () else .error ⟨.io, "Could not parse certificate"⟩
  getPublicKey := fun _ => .ec demoKey
  claims :=
    { getMessageDigestInstance := fun _ => .ok fun bytes => bytes.take 3
      encodeBase64String := Base64Url.encode
      getEncoded := fun _ => .ok demoCertificate
      registry := DigestAlgorithmRegistry.initial
      getInstance := fun _ => .ok fun bytes => bytes.take 3
      getTimeStampSigBytes := fun _ => none }

/-- The token made from these claims. -/
def tokenOf (claims : List IssuedSignatureClaims) : SignedJWT where
  header := ⟨"ES256", some tokenKeyID, none⟩
  claimsSet := some
    { issuer := none
      jwtID := none
      issueTime := some 1000
      expirationTime := none
      sigValClaims := some ⟨some DigestAlgorithm.idSHA256,
        some (claims.map (·.toSignatureClaims))⟩ }
  signingInput := (tokenInput "eyJpYXQiOjF9").toUTF8.data.toList
  signature := Base64Url.decode newValue

/-- A validator that passes every signature whose value was verified. -/
def demoIssuer : JOSESVTSigValClaimsIssuer Unit Unit where
  svtIssuer :=
    { hashAlgoUri := DigestAlgorithm.idSHA256
      getSignedSvtJWT := fun verify => do
        match ← verify DigestAlgorithm.idSHA256 with
        | none => pure none
        | some claims => pure (some (tokenOf claims)) }
  signatureVerifier := fun signatureData => .ok
    { signerCertificate := signatureData.signerCertificate
      signatureCertificateChain := signatureData.signatureCertChain
      certificateValidationResult := some (.default [()])
      validationPolicyResultList := some
        [⟨sigValidationPolicyPkixValidation,
          if signatureData.isVerified then .PASSED else .FAILED, none⟩] }

theorem demoIssuer_lawful : demoIssuer.svtIssuer.Lawful := by
  intro verify jwt h
  obtain ⟨claims, hverify, h⟩ := bind_ok_iff.mp h
  cases claims with
  | none => cases h
  | some claims =>
      cases h
      exact ⟨claims, hverify, _, rfl, rfl⟩

/-! ### What the library makes of the two headers -/

/-- The two texts go apart behind the certificate. -/
theorem svtHeader_ne : demoHeader.base64URL ≠ svtHeader.base64URL := by
  intro h
  have hbytes : headerBytes "" = headerBytes ",\"svt\":[]" := by
    have hdecoded := congrArg Base64Url.decode h
    rwa [show demoHeader.base64URL = Base64Url.encode (headerBytes "") from rfl,
      show svtHeader.base64URL = Base64Url.encode (headerBytes ",\"svt\":[]") from rfl,
      Base64Url.decode_encode, Base64Url.decode_encode] at hdecoded
  have hrest := List.append_cancel_left (List.append_cancel_left hbytes)
  revert hrest
  decide

theorem demoBook_parses {header : JWSHeader} (hmem : header ∈ demoBook.headers) :
    demoBook.parseJWSHeader header.base64URL = .ok header := by
  refine Book.parseJWSHeader_of_mem hmem ?_
  obtain rfl | rfl := List.mem_pair.mp hmem
  · intro other hother htext
    obtain rfl | rfl := List.mem_pair.mp hother
    · rfl
    · exact absurd htext.symm svtHeader_ne
  · intro other hother htext
    obtain rfl | rfl := List.mem_pair.mp hother
    · exact absurd htext svtHeader_ne
    · rfl

/-- The data of a signature under a header with the certificate. -/
def demoData (header : JWSHeader) (unprotectedHeader : Option (UnprotectedHeader Unit))
    (value : Bytes) (verified : Bool) : RawJOSESignatureData Unit Unit where
  isVerified := verified
  header := some header
  signatureAlgorithm := some "http://www.w3.org/2001/04/xmldsig-more#ecdsa-sha256"
  unprotectedHeader := unprotectedHeader
  payload := some ⟨"e30"⟩
  signatureBytes := some value
  signerCertificate := some ()
  signatureCertChain := some [()]

theorem signatureDataOf_demo {header : JWSHeader}
    {unprotectedHeader : Option (UnprotectedHeader Unit)} {value : Bytes} {verified : Bool}
    (halgorithm : header.algorithm = "ES256")
    (hchain : header.x509CertChain = some [demoCertificate]) (hvalue : Base64Url.encode value ≠ "")
    (hchecked : demoBook.check header ⟨"e30"⟩ value ⟨.ec demoKey, initialCritHeaderParams⟩ =
      verified) :
    signatureDataOf demoEnv.toDocumentEnv ⟨"e30"⟩ false
        ⟨header, unprotectedHeader, Base64Url.encode value⟩ =
      demoData header unprotectedHeader value verified := by
  have hcert : demoEnv.getCertificate demoCertificate = .ok () := by
    simp only [demoEnv, ↓reduceIte]
  have hcerts : [demoCertificate].mapM demoEnv.getCertificate = .ok [()] := by
    rw [List.mapM_cons, hcert]
    rfl
  have huri : JWSAlgorithmRegistry.getUri demoEnv.jvm demoEnv.jwsAlgorithmMap header.algorithm =
      .ok "http://www.w3.org/2001/04/xmldsig-more#ecdsa-sha256" := by
    rw [halgorithm]
    rfl
  have hfamily : header.algorithm ∈ familyEC := by
    rw [halgorithm]
    decide
  have hverifier := getVerifierAndCerts_ec huri hchain hcerts hfamily rfl
  have hverify : demoEnv.lib.verify header ⟨"e30"⟩ (Base64Url.encode value)
      ⟨.ec demoKey, initialCritHeaderParams⟩ = .ok verified := by
    show (if Base64Url.encode value = "" then _ else _) = _
    rw [if_neg hvalue, Base64Url.decode_encode, hchecked]
  have hdata : signatureDataOf demoEnv.toDocumentEnv ⟨"e30"⟩ false
      ⟨header, unprotectedHeader, Base64Url.encode value⟩ = _ :=
    signatureDataOf_of_calls false hverifier hverify
  rw [hdata, show demoEnv.lib.decode = Base64Url.decode from rfl, Base64Url.decode_encode]
  rfl

/-- A verified signature gets a token. -/
theorem issueSvt_demo {document : Bytes} {header : JWSHeader}
    {unprotectedHeader : Option (UnprotectedHeader Unit)} {value : Bytes}
    {extended : UnprotectedHeader Unit} {svtMethod : SVTExtendpolicy}
    (hparse : getJOSEDocumentSignatureData demoEnv.toDocumentEnv document none =
      .ok [demoData header unprotectedHeader value true])
    (hextended : ∀ jwt, extendUnprotectedHeader demoEnv.lib
      ⟨some jwt, demoData header unprotectedHeader value true, some svtMethod⟩ =
        .ok (some extended)) :
    issueSvt demoEnv demoIssuer document svtMethod none false =
      .ok (demoEnv.lib.writeValueAsBytes (.object (JSONFlattenedSerializedDocument.members
        ⟨⟨header.base64URL, some extended, Base64Url.encode value⟩, "e30"⟩))) := by
  obtain ⟨jwt, hjwt, hissued⟩ : ∃ jwt, signedSvtJWT demoEnv demoIssuer svtMethod
        (demoData header unprotectedHeader value true) = some jwt ∧
      SVTUtils.checkIfSVTShouldBeIssued (some jwt) false = .ok true := ⟨_, rfl, rfl⟩
  have hdata : extensionData demoEnv demoIssuer svtMethod false
      (demoData header unprotectedHeader value true) =
        .ok ⟨some jwt, demoData header unprotectedHeader value true, some svtMethod⟩ := by
    unfold extensionData
    rw [hjwt]
    simp only [hissued, bind, Except.bind]
    rfl
  have hall : [demoData header unprotectedHeader value true].mapM
      (extensionData demoEnv demoIssuer svtMethod false) =
        .ok [⟨some jwt, demoData header unprotectedHeader value true, some svtMethod⟩] := by
    rw [List.mapM_cons, hdata]
    rfl
  have hserialized : joseSignature demoEnv.lib
      ⟨some jwt, demoData header unprotectedHeader value true, some svtMethod⟩ =
        .ok ⟨header.base64URL, some extended, Base64Url.encode value⟩ := by
    unfold joseSignature
    rw [hextended]
    rfl
  unfold issueSvt
  rw [hparse]
  simp only [hall, bind, Except.bind]
  show (joseSignature demoEnv.lib _ >>= _) = _
  rw [hserialized]
  rfl

theorem encode_ne_empty {value : Bytes} (h : value ≠ []) : Base64Url.encode value ≠ "" := by
  refine Book.ne_empty_of_decode ?_
  rwa [Base64Url.decode_encode]

theorem demoValue_ne : Base64Url.encode demoValue ≠ "" := encode_ne_empty (List.cons_ne_nil _ _)

theorem svtValue_ne : Base64Url.encode svtValue ≠ "" := encode_ne_empty (List.cons_ne_nil _ _)

/-- A signature with a key identifier and an older token. -/
def demoSignature : Signature Unit where
  header := demoHeader
  unprotectedHeader := some [("kid", .string "k1"), ("svt", Json.strings [olderToken])]
  signature := Base64Url.encode demoValue

/-- The flattened form of a signature over an empty JSON object. -/
def demoDocument (sig : Signature Unit) : Bytes :=
  demoEnv.lib.writeValueAsBytes
    (.object (JSONFlattenedSerializedDocument.members ⟨toJOSESignature sig, "e30"⟩))

theorem demoDocument_parses {sig : Signature Unit} (hparses : sig.Parses demoEnv.lib)
    (hdisjoint : sig.Disjoint) (hunprotected : sig.dropEmpty = sig) :
    getJOSEDocumentSignatureData demoEnv.toDocumentEnv (demoDocument sig) none =
      .ok [signatureDataOf demoEnv.toDocumentEnv ⟨"e30"⟩ false sig] := by
  refine read_written (Book.library_lawful demoBook) (describes_flattened hparses) ?_ ?_
  · intro sig' hsig
    cases List.mem_singleton.mp hsig
    exact ⟨hparses, hdisjoint⟩
  · intro sig' hsig
    cases List.mem_singleton.mp hsig
    exact hunprotected

/-- The signature with these tokens. -/
def signatureWith (tokens : List String) : Signature Unit :=
  { demoSignature with
    unprotectedHeader := some [("kid", .string "k1"), ("svt", Json.strings tokens)] }

/-- The data of the signature with these tokens. -/
def dataWith (tokens : List String) : RawJOSESignatureData Unit Unit :=
  demoData demoHeader (some [("kid", .string "k1"), ("svt", Json.strings tokens)]) demoValue true

theorem signatureWith_parses (tokens : List String) :
    getJOSEDocumentSignatureData demoEnv.toDocumentEnv (demoDocument (signatureWith tokens)) none =
      .ok [dataWith tokens] := by
  have hchecked : demoBook.check demoHeader ⟨"e30"⟩ demoValue
      ⟨.ec demoKey, initialCritHeaderParams⟩ = true := by
    simp only [demoBook, beq_self_eq_true, Bool.and_self, Bool.true_or]
  have hdata : signatureDataOf demoEnv.toDocumentEnv ⟨"e30"⟩ false (signatureWith tokens) =
      dataWith tokens := signatureDataOf_demo rfl rfl demoValue_ne hchecked
  rw [← hdata]
  refine demoDocument_parses ⟨demoBook_parses List.mem_cons_self, ?_⟩
    (Book.disjoint_iff.mp rfl) rfl
  intro u hu
  cases hu
  rfl

/-- The token is put behind the older one, and the signature is read back with both. -/
theorem issueSvt_roundTrip_iff_extended :
    ∃ signatureData output,
      getJOSEDocumentSignatureData demoEnv.toDocumentEnv
        (demoDocument (signatureWith [olderToken])) none = .ok [signatureData] ∧
      issueSvt demoEnv demoIssuer (demoDocument (signatureWith [olderToken])) .EXTEND none false =
        .ok output ∧
      RoundTrip demoEnv demoIssuer .EXTEND none [signatureData] output := by
  have hissue : issueSvt demoEnv demoIssuer (demoDocument (signatureWith [olderToken])) .EXTEND
      none false = .ok (demoDocument (signatureWith [olderToken, newToken])) :=
    issueSvt_demo (signatureWith_parses _) fun _ => rfl
  have hsvt : ∀ signatureData ∈ [dataWith [olderToken]],
      SvtIsList signatureData.unprotectedHeader := by
    intro signatureData hmem value hvalue
    cases List.mem_singleton.mp hmem
    cases hvalue
    exact ⟨[olderToken], rfl⟩
  refine ⟨_, _, signatureWith_parses _, hissue, ?_⟩
  refine (issueSvt_roundTrip_iff (Book.library_lawful demoBook) demoIssuer_lawful
    (signatureWith_parses _) hsvt hissue).mpr ?_
  intro signatureData hmem
  cases List.mem_singleton.mp hmem
  refine ⟨?_, ?_⟩
  · intro header hheader
    cases hheader
    decide
  · intro hempty
    cases hempty

/-- A compact document whose protected header has an `svt` parameter. -/
def clashDocument : Bytes :=
  (svtHeader.base64URL ++ "." ++ "e30" ++ "." ++ Base64Url.encode svtValue).toUTF8.data.toList

theorem clashDocument_parses :
    getJOSEDocumentSignatureData demoEnv.toDocumentEnv clashDocument none =
      .ok [demoData svtHeader none svtValue true] := by
  have hchecked : demoBook.check svtHeader ⟨"e30"⟩ svtValue
      ⟨.ec demoKey, initialCritHeaderParams⟩ = true := by
    simp only [demoBook, beq_self_eq_true, Bool.and_self, Bool.or_true]
  have hdata : signatureDataOf demoEnv.toDocumentEnv ⟨"e30"⟩ false
      ⟨svtHeader, none, Base64Url.encode svtValue⟩ = demoData svtHeader none svtValue true :=
    signatureDataOf_demo rfl rfl svtValue_ne hchecked
  have hparts := Book.parts_compact (demoBook_parses (List.mem_cons_of_mem _ List.mem_cons_self))
    (Base64Url.not_mem_encode rfl _) (Base64Url.not_mem_encode rfl _)
    (show '.' ∉ "e30".toList by decide) (Base64Url.not_mem_encode rfl svtValue) svtValue_ne
  have htext := Book.newString_toUTF8
    (svtHeader.base64URL ++ "." ++ "e30" ++ "." ++ Base64Url.encode svtValue)
  have hfirst : (svtHeader.base64URL ++ "." ++ "e30" ++ "." ++
      Base64Url.encode svtValue).toList.head? = some 'e' := by
    obtain ⟨rest, hrest⟩ : ∃ rest, headerBytes ",\"svt\":[]" = 123 :: 34 :: 97 :: rest :=
      ⟨_, rfl⟩
    have hchars : svtHeader.base64URL.toList.head? = some 'e' := by
      show (Base64Url.encode (headerBytes _)).toList.head? = _
      rw [hrest, Base64Url.encode, String.toList_ofList]
      rfl
    simp [hchars]
  have hcompact : readCompact demoEnv.toDocumentEnv clashDocument none =
      .ok [demoData svtHeader none svtValue true] := by
    rw [← hdata]
    show ((demoBook.parts (Book.newString clashDocument) >>= _) >>= _) = _
    rw [clashDocument, htext, hparts]
    rfl
  have hjson : readJSON demoEnv.toDocumentEnv clashDocument none =
      .error (Book.malformed "Invalid JSON object") := by
    show (demoBook.parseJSON (Book.newString clashDocument) >>= _) = _
    rw [clashDocument, htext, Book.parseJSON_of_head hfirst]
    rfl
  unfold getJOSEDocumentSignatureData
  rw [hcompact, hjson]
  rfl

/-- The issuer extends the compact document and leaves one without a signature: the
token in the unprotected header repeats a name of the protected one. -/
theorem protected_svt_loses_signature :
    demoEnv.lib.Lawful ∧ demoIssuer.svtIssuer.Lawful ∧ ∃ signatureData output,
      getJOSEDocumentSignatureData demoEnv.toDocumentEnv clashDocument none =
        .ok [signatureData] ∧
      SvtIsList signatureData.unprotectedHeader ∧
      issueSvt demoEnv demoIssuer clashDocument .EXTEND none false = .ok output ∧
      getJOSEDocumentSignatureData demoEnv.toDocumentEnv output none = .ok [] ∧
      ¬ RoundTrip demoEnv demoIssuer .EXTEND none [signatureData] output := by
  have hlib := Book.library_lawful demoBook
  have hissue : issueSvt demoEnv demoIssuer clashDocument .EXTEND none false =
      .ok (demoDocument ⟨svtHeader, some [("svt", Json.strings [newToken])],
        Base64Url.encode svtValue⟩) := issueSvt_demo clashDocument_parses fun _ => rfl
  have hlost : getJOSEDocumentSignatureData demoEnv.toDocumentEnv
      (demoDocument ⟨svtHeader, some [("svt", Json.strings [newToken])],
        Base64Url.encode svtValue⟩) none = .ok [] := by
    refine read_written_clash hlib (describes_flattened
      ⟨demoBook_parses (List.mem_cons_of_mem _ List.mem_cons_self), ?_⟩)
      ⟨_, List.mem_cons_self, ?_⟩
    · intro u hu
      cases hu
      rfl
    · intro hdisjoint
      cases Book.disjoint_iff.mpr hdisjoint
  refine ⟨hlib, demoIssuer_lawful, _, _, clashDocument_parses, ?_, hissue, hlost, ?_⟩
  · intro value hvalue
    cases hvalue
  · rintro ⟨after, hafter, hall⟩
    rw [hlost] at hafter
    cases hafter
    cases hall

end Demo

end JOSEDocumentSVTIssuer

end SigVal.Jose
