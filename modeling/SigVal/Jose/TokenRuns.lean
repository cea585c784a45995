import SigVal.Jose.SvtExtension
import SigVal.Lib.Replacement

/-!
# Issuing tokens again and again

A document that was extended is a document that can be extended: issuers may be asked for
tokens any number of times, each time with their own policy and method. Every time the
document is read and written anew. What stays of a signature, and which tokens it has in
the end, is a matter of the whole run.
-/

namespace SigVal.Jose.JOSEDocumentSVTIssuer

open SigVal.Java SigVal.Commons SigVal.Svt SigVal.Replacement
open JOSESignedDocumentValidator JOSESVTSigValClaimsIssuer

variable {Cert S : Type} [DecidableEq Cert]

/-! ## One time -/

/-- The method as a change of the list of tokens. -/
def changeOf (svtMethod : SVTExtendpolicy) (token : String) : Change String :=
  match svtMethod with
  | .EXTEND => .extend token
  | .REPLACE => .replace token

omit [DecidableEq Cert] in
theorem apply_changeOf (svtMethod : SVTExtendpolicy) (tokens : List String) (token : String) :
    (changeOf svtMethod token).apply tokens = tokensAfter svtMethod tokens token := by
  cases svtMethod with
  | EXTEND => rfl
  | REPLACE => rfl

/-- The data with the new token in its unprotected header, and nothing else changed. -/
def withToken (lib : JoseLibrary S) (svtMethod : SVTExtendpolicy) (jwt : SignedJWT)
    (signatureData : RawJOSESignatureData Cert S) : RawJOSESignatureData Cert S :=
  { signatureData with
    unprotectedHeader := some (extendedHeader lib svtMethod jwt signatureData.unprotectedHeader) }

/-- A token was issued for the data, and this is the data with it. -/
def Renewed (env : JoseIssuerEnv Cert S) (svtClaimsIssuer : JOSESVTSigValClaimsIssuer Cert S)
    (svtMethod : SVTExtendpolicy) (jwt : SignedJWT) (old new : RawJOSESignatureData Cert S) :
    Prop :=
  signedSvtJWT env svtClaimsIssuer svtMethod old = some jwt ∧
    new = withToken env.lib svtMethod jwt old

section Once

variable {env : JoseIssuerEnv Cert S} {svtClaimsIssuer : JOSESVTSigValClaimsIssuer Cert S}
  {svtMethod : SVTExtendpolicy} {issueSvtOnFailedValidation : Bool} {document output : Bytes}
  {detachedPayload : Option Payload} {before : List (RawJOSESignatureData Cert S)}

theorem renewed_of_writtenAs (hlib : env.lib.Lawful) {payload : Payload} {detached : Bool}
    {sig sig' : Signature S}
    (h : WrittenAs env svtClaimsIssuer svtMethod payload detached sig sig')
    (hvalue : env.lib.decode sig.signature ≠ []) :
    ∃ jwt, Renewed env svtClaimsIssuer svtMethod jwt
      (signatureDataOf env.toDocumentEnv payload detached sig)
      (signatureDataOf env.toDocumentEnv payload detached sig') := by
  obtain ⟨-, jwt, start, verified, htaken, htoken, rfl⟩ := h
  have hnew : signatureDataOf env.toDocumentEnv payload detached
      (extendedSignature env.lib svtMethod jwt sig) = _ :=
    signatureDataOf_reencoded hlib htaken rfl (hlib.decode_encode _) hvalue
  refine ⟨jwt, htoken, hnew.trans ?_⟩
  obtain ⟨_, _, _, hdata⟩ := htaken
  unfold withToken
  rw [hdata]
  rfl

/-- **One time.** Where nothing clashes, the output is read as the same signatures, each
with its new token and otherwise the same. -/
theorem issueSvt_renews (hlib : env.lib.Lawful) (hissuer : svtClaimsIssuer.svtIssuer.Lawful)
    (hparse : getJOSEDocumentSignatureData env.toDocumentEnv document detachedPayload =
      .ok before)
    (hsvt : ∀ signatureData ∈ before, SvtIsList signatureData.unprotectedHeader)
    (hextendable : ∀ signatureData ∈ before, Extendable signatureData)
    (hissue : issueSvt env svtClaimsIssuer document svtMethod detachedPayload
      issueSvtOnFailedValidation = .ok output) :
    ∃ after, getJOSEDocumentSignatureData env.toDocumentEnv output detachedPayload = .ok after ∧
      List.Forall₂ (fun old new => ∃ jwt, Renewed env svtClaimsIssuer svtMethod jwt old new)
        before after := by
  obtain ⟨payload, signatures, rfl, haccepted, hpayload⟩ := fromSignatures_of_parse hlib hparse
  obtain ⟨before, hbefore, hissue⟩ := bind_ok_iff.mp hissue
  rw [hparse] at hbefore
  cases hbefore
  obtain ⟨svtExtensionDataList, hextensions, hout⟩ := bind_ok_iff.mp hissue
  by_cases hne : signatures = []
  · subst hne
    cases hextensions
    cases hout
    exact ⟨[], hparse, .nil⟩
  · obtain ⟨obj, jws, rfl, hdescribes, hsame, hwritten⟩ := extendDocumentSignature_writes hlib
      hissuer hpayload haccepted hne (fun sig hmem => hsvt _ (List.mem_map_of_mem hmem))
      hextensions hout
    have hsigs : ∀ sig ∈ signatures, Extendable
        (signatureDataOf env.toDocumentEnv payload detachedPayload.isSome sig) :=
      fun sig hsig => hextendable _ (List.mem_map_of_mem hsig)
    have hdisjoint : ∀ sig' ∈ jws.signatures, sig'.Disjoint := by
      intro sig' hsig'
      obtain ⟨sig, hsig, hwrittenAs⟩ := forall₂_left hwritten.flip sig' hsig'
      exact ((extendable_iff hwrittenAs).mp (hsigs sig hsig)).1
    refine ⟨_, read_extended hlib hdescribes hsame hwritten hdisjoint, ?_⟩
    rw [List.forall₂_map_left_iff, List.forall₂_map_right_iff]
    refine ((List.forall₂_and_left _ _).mpr ⟨hsigs, hwritten⟩).imp ?_
    rintro sig sig' ⟨hextendable, hwrittenAs⟩
    exact renewed_of_writtenAs hlib hwrittenAs ((extendable_iff hwrittenAs).mp hextendable).2

end Once

/-! ## Any number of times -/

/-- One request: an issuer, the method and whether failed signatures get tokens. -/
structure Request (Cert S : Type) where
  svtClaimsIssuer : JOSESVTSigValClaimsIssuer Cert S
  lawful : svtClaimsIssuer.svtIssuer.Lawful
  svtMethod : SVTExtendpolicy
  issueSvtOnFailedValidation : Bool

/-- The requests are served one after the other, each on the output of the one before. -/
def Served (env : JoseIssuerEnv Cert S) (detachedPayload : Option Payload) :
    List (Request Cert S) → Bytes → Bytes → Prop
  | [], document, output => output = document
  | request :: later, document, output => ∃ next,
      issueSvt env request.svtClaimsIssuer document request.svtMethod detachedPayload
        request.issueSvtOnFailedValidation = .ok next ∧
      Served env detachedPayload later next output

/-- The signature got a token from each request. -/
def RenewedAll (env : JoseIssuerEnv Cert S) :
    List (Request Cert S) → List SignedJWT → RawJOSESignatureData Cert S →
      RawJOSESignatureData Cert S → Prop
  | [], [], old, new => new = old
  | request :: later, jwt :: jwts, old, new => ∃ next,
      Renewed env request.svtClaimsIssuer request.svtMethod jwt old next ∧
      RenewedAll env later jwts next new
  | _, _, _, _ => False

/-- What the requests make of the list of tokens. -/
def changes (lib : JoseLibrary S) (requests : List (Request Cert S)) (jwts : List SignedJWT) :
    List (Change String) :=
  requests.zipWith (fun request jwt => changeOf request.svtMethod (lib.serialize jwt)) jwts

section Runs

variable {env : JoseIssuerEnv Cert S} {detachedPayload : Option Payload}
  {requests : List (Request Cert S)} {jwts : List SignedJWT}
  {old new : RawJOSESignatureData Cert S} {document output : Bytes}

omit [DecidableEq Cert] in
theorem svtIsList_withToken (lib : JoseLibrary S) (svtMethod : SVTExtendpolicy) (jwt : SignedJWT)
    (signatureData : RawJOSESignatureData Cert S) :
    SvtIsList (withToken lib svtMethod jwt signatureData).unprotectedHeader := by
  intro value hvalue
  exact ⟨_, Option.some.inj (hvalue.symm.trans (param_extendedHeader_svt _))⟩

omit [DecidableEq Cert] in
theorem svtTokens_withToken (lib : JoseLibrary S) (svtMethod : SVTExtendpolicy) (jwt : SignedJWT)
    (signatureData : RawJOSESignatureData Cert S) :
    svtTokens (withToken lib svtMethod jwt signatureData).unprotectedHeader =
      (changeOf svtMethod (lib.serialize jwt)).apply
        (svtTokens signatureData.unprotectedHeader) := by
  rw [apply_changeOf]
  unfold svtTokens withToken
  rw [param_extendedHeader_svt]
  exact Json.textsOf_strings _

/-- Each signature of the document is renewed by all the requests. -/
theorem served_renews (hlib : env.lib.Lawful) :
    ∀ {requests : List (Request Cert S)} {document : Bytes}
      {before : List (RawJOSESignatureData Cert S)},
      getJOSEDocumentSignatureData env.toDocumentEnv document detachedPayload = .ok before →
      (∀ signatureData ∈ before, SvtIsList signatureData.unprotectedHeader) →
      (∀ signatureData ∈ before, Extendable signatureData) →
      Served env detachedPayload requests document output →
      ∃ after, getJOSEDocumentSignatureData env.toDocumentEnv output detachedPayload =
          .ok after ∧
        List.Forall₂ (fun old new => ∃ jwts, RenewedAll env requests jwts old new)
          before after := by
  intro requests
  induction requests with
  | nil =>
      rintro document before hparse - - rfl
      exact ⟨before, hparse, List.forall₂_same.mpr fun _ _ => ⟨[], rfl⟩⟩
  | cons request later ih =>
      rintro document before hparse hsvt hextendable ⟨next, hissue, hserved⟩
      obtain ⟨between, hbetween, hrenewed⟩ :=
        issueSvt_renews hlib request.lawful hparse hsvt hextendable hissue
      have hkept : ∀ new ∈ between, SvtIsList new.unprotectedHeader ∧ Extendable new := by
        intro new hnew
        obtain ⟨old, hold, jwt, -, rfl⟩ := forall₂_left hrenewed.flip new hnew
        exact ⟨svtIsList_withToken _ _ _ _, hextendable old hold⟩
      obtain ⟨after, hafter, hall⟩ := ih hbetween (fun new hnew => (hkept new hnew).1)
        (fun new hnew => (hkept new hnew).2) hserved
      refine ⟨after, hafter, (forall₂_comp hrenewed hall).imp ?_⟩
      rintro old new ⟨next, ⟨jwt, hjwt⟩, jwts, hjwts⟩
      exact ⟨jwt :: jwts, next, hjwt, hjwts⟩

/-! ## What stays, and what is added -/

/-- The certificates of a signature were read when its header was. -/
def ChainRead (signatureData : RawJOSESignatureData Cert S) : Prop :=
  ∀ header, signatureData.header = some header →
    ∃ certs, signatureData.signatureCertChain = some certs

omit [DecidableEq Cert] in
theorem chainRead_of_parse {env : DocumentEnv Cert S} (hlib : env.lib.Lawful)
    {before : List (RawJOSESignatureData Cert S)}
    (hparse : getJOSEDocumentSignatureData env document detachedPayload = .ok before) :
    ∀ signatureData ∈ before, ChainRead signatureData := by
  obtain ⟨payload, signatures, rfl, -, -⟩ := fromSignatures_of_parse hlib hparse
  intro signatureData hmem header hheader
  obtain ⟨sig, -, rfl⟩ := List.mem_map.mp hmem
  obtain ⟨start, verified, htaken⟩ := taken_of_header hheader
  exact htaken.certs

/-- The token is about the signature: from the data a validator with the digests of the
issuer collects the claims of the token. -/
def RefersTo (env : JoseIssuerEnv Cert S) (signatureData : RawJOSESignatureData Cert S)
    (request : Request Cert S) (jwt : SignedJWT) : Prop :=
  ∀ svt : SvtEnv Cert, ∃ claims svtData,
    CarriesClaims jwt request.svtClaimsIssuer.svtIssuer.hashAlgoUri [claims] ∧
    signatureData.toSvtData env.lib = some svtData ∧
    Collects (withIssuerDigests env.claims svt) svtData jwt claims

/-- The same signature after the requests, with these tokens from them. -/
structure Carried (env : JoseIssuerEnv Cert S) (requests : List (Request Cert S))
    (jwts : List SignedJWT) (old new : RawJOSESignatureData Cert S) : Prop where
  data : new = { old with unprotectedHeader := new.unprotectedHeader }
  params : ∀ name, name ≠ "svt" →
    param new.unprotectedHeader name = param old.unprotectedHeader name
  tokens : svtTokens new.unprotectedHeader =
    Change.logAfter (svtTokens old.unprotectedHeader) (changes env.lib requests jwts)
  references : List.Forall₂ (RefersTo env new) requests jwts

/-- A token that was issued for the data is about all data that differs in the unprotected
header only. -/
theorem refersTo_of_renewed {request : Request Cert S} {jwt : SignedJWT}
    {next : RawJOSESignatureData Cert S} (hchain : ChainRead old)
    (h : Renewed env request.svtClaimsIssuer request.svtMethod jwt old next)
    (hdata : new = { next with unprotectedHeader := new.unprotectedHeader }) :
    RefersTo env new request jwt := by
  intro svt
  obtain ⟨htoken, rfl⟩ := h
  obtain ⟨claims, header, payload, signatureBytes, digestAlgorithm, digest, -, hcarries, href⟩ :=
    token_refers request.lawful htoken
  obtain ⟨certs, hcerts⟩ := hchain header href.hasHeader
  obtain ⟨svtData, hsvtData, hcollects⟩ := @collects_of_same _ _ _ _ _ _ _ _ _ _ _ href _ hcarries
    svt new certs (by rw [hdata]; rfl) (by rw [hdata]; rfl) (by rw [hdata]; rfl)
    (by rw [hdata]; rfl) (by rw [hdata]; exact hcerts)
  exact ⟨claims, svtData, hcarries, hsvtData, hcollects⟩

theorem RenewedAll.carried :
    ∀ {requests : List (Request Cert S)} {jwts : List SignedJWT}
      {old : RawJOSESignatureData Cert S}, ChainRead old →
      RenewedAll env requests jwts old new → Carried env requests jwts old new := by
  intro requests
  induction requests with
  | nil =>
      intro jwts old _ h
      cases jwts with
      | nil =>
          cases h
          exact ⟨rfl, fun _ _ => rfl, (List.append_nil _).symm, .nil⟩
      | cons jwt jwts => exact h.elim
  | cons request later ih =>
      intro jwts old hchain h
      cases jwts with
      | nil => exact h.elim
      | cons jwt jwts =>
          obtain ⟨next, hrenewed, hlater⟩ := h
          have hnext : next = withToken env.lib request.svtMethod jwt old := hrenewed.2
          have hcarried : Carried env later jwts next new :=
            ih (by rw [hnext]; exact hchain) hlater
          have hdata := hcarried.data
          refine ⟨?_, ?_, ?_, .cons (refersTo_of_renewed hchain hrenewed hdata)
            hcarried.references⟩
          · rw [hnext] at hdata
            exact hdata
          · intro name hne
            rw [hcarried.params name hne, hnext]
            exact param_extendedHeader_of_ne _ hne
          · rw [hcarried.tokens, hnext, svtTokens_withToken, ← Change.foldl_apply,
              ← Change.foldl_apply]
            rfl

/-- **Any number of requests.** Issue tokens for a document any number of times, by any
issuers and methods, from a document whose `svt` parameters are lists of texts, whose
protected headers have none and whose signature values are not empty. In the end it is read
as the same signatures in the same order, with all their data and other parameters. Each
has the tokens from the last `REPLACE` on, behind those it had if there was none, one from
each request; and each of these tokens, the replaced ones too, is about this signature as it
is in the end. -/
theorem served_keeps_signatures (hlib : env.lib.Lawful)
    {before : List (RawJOSESignatureData Cert S)}
    (hparse : getJOSEDocumentSignatureData env.toDocumentEnv document detachedPayload =
      .ok before)
    (hsvt : ∀ signatureData ∈ before, SvtIsList signatureData.unprotectedHeader)
    (hextendable : ∀ signatureData ∈ before, Extendable signatureData)
    (hserved : Served env detachedPayload requests document output) :
    ∃ after, getJOSEDocumentSignatureData env.toDocumentEnv output detachedPayload = .ok after ∧
      List.Forall₂ (fun old new => ∃ jwts, Carried env requests jwts old new) before after := by
  obtain ⟨after, hafter, hall⟩ := served_renews hlib hparse hsvt hextendable hserved
  refine ⟨after, hafter, ?_⟩
  refine ((List.forall₂_and_left _ _).mpr ⟨chainRead_of_parse hlib hparse, hall⟩).imp ?_
  rintro old new ⟨hchain, jwts, hjwts⟩
  exact ⟨jwts, hjwts.carried hchain⟩

end Runs

/-! ## A token that is put behind an older one, and one that replaces both -/

section Demo

def demoRequest (svtMethod : SVTExtendpolicy) : Request Unit Unit where
  svtClaimsIssuer := demoIssuer
  lawful := demoIssuer_lawful
  svtMethod := svtMethod
  issueSvtOnFailedValidation := false

theorem demo_served :
    Served demoEnv none [demoRequest .EXTEND, demoRequest .REPLACE]
      (demoDocument (signatureWith [olderToken])) (demoDocument (signatureWith [newToken])) :=
  ⟨demoDocument (signatureWith [olderToken, newToken]),
    issueSvt_demo (signatureWith_parses _) fun _ => rfl,
    demoDocument (signatureWith [newToken]),
    issueSvt_demo (signatureWith_parses _) fun _ => rfl, rfl⟩

theorem served_keeps_demo :
    ∃ after, getJOSEDocumentSignatureData demoEnv.toDocumentEnv
        (demoDocument (signatureWith [newToken])) none = .ok after ∧
      List.Forall₂ (fun old new => ∃ jwts,
          Carried demoEnv [demoRequest .EXTEND, demoRequest .REPLACE] jwts old new)
        [dataWith [olderToken]] after := by
  refine served_keeps_signatures (Book.library_lawful demoBook) (signatureWith_parses _) ?_ ?_
    demo_served
  · intro signatureData hmem value hvalue
    cases List.mem_singleton.mp hmem
    cases hvalue
    exact ⟨[olderToken], rfl⟩
  · intro signatureData hmem
    cases List.mem_singleton.mp hmem
    refine ⟨?_, ?_⟩
    · intro header hheader
      cases hheader
      decide
    · intro hempty
      cases hempty

end Demo

end SigVal.Jose.JOSEDocumentSVTIssuer
