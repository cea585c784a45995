import SigVal.Jose.SignedDocument
import SigVal.Jose.TokenRuns
import SigVal.Pdf.SvtBinding
import SigVal.Svt.Generations
import SigVal.Svt.TokenSelection

/-!
# The verdict on an extended document

Tokens are issued so that a document can be validated by them when nothing else is left to
validate it with. So what has to come of `issueSvt` is a document that `extendedResultValidation`
finds valid, on the strength of the tokens and with the policy results that the issuers had.
-/

namespace SigVal.Jose.JOSEDocumentSVTIssuer

open SigVal.Java SigVal.Commons SigVal.Svt SigVal.Replacement
open JOSESignedDocumentValidator JOSESVTSigValClaimsIssuer JOSESignatureDataValidatorImpl

variable {Cert S : Type} [DecidableEq Cert]

/-! ## The tokens that the validator sees -/

theorem svaTokens_list (items : List (Json S)) :
    JOSESVTValidator.getSignatureSvaTokens (some [("svt", .list (toJsonValues items))]) =
      Json.textsOf (.array items) := by
  show List.filterMap _ _ = List.filterMap _ _
  induction items with
  | nil => rfl
  | cons item rest ih =>
      cases item with
      | string s => exact congrArg (s :: ·) ih
      | array items => exact ih
      | scalar value => exact ih
      | object members => exact ih

/-- The tokens that `JOSESVTValidator` finds are those in the header. -/
theorem getSignatureSvaTokens_raw (unprotectedHeader : Option (UnprotectedHeader S)) :
    JOSESVTValidator.getSignatureSvaTokens (unprotectedHeader.map fun u =>
      u.map fun param => (param.1, toJsonValue param.2)) = svtTokens unprotectedHeader := by
  cases unprotectedHeader with
  | none => rfl
  | some u =>
      have hlookup : (u.map fun param => (param.1, toJsonValue param.2)).lookup "svt" =
          (u.lookup "svt").map toJsonValue := by
        induction u with
        | nil => rfl
        | cons param rest ih =>
            rw [List.map_cons, List.lookup_cons, List.lookup_cons]
            split
            · rfl
            · exact ih
      have hparam : svtTokens (some u) = ((u.lookup "svt").map Json.textsOf).getD [] := rfl
      rw [hparam]
      unfold JOSESVTValidator.getSignatureSvaTokens
      simp only [Option.map_some, hlookup]
      cases u.lookup "svt" with
      | none => rfl
      | some value =>
          cases value with
          | string s => rfl
          | array items => exact svaTokens_list items
          | scalar value => rfl
          | object members => rfl

/-- A token was issued for the data of the signature, whatever was in its unprotected header
then. -/
def IssuedOn (env : JoseIssuerEnv Cert S) (old : RawJOSESignatureData Cert S)
    (request : Request Cert S) (jwt : SignedJWT) : Prop :=
  ∃ between, between = { old with unprotectedHeader := between.unprotectedHeader } ∧
    signedSvtJWT env request.svtClaimsIssuer request.svtMethod between = some jwt

/-- What is asked of a validator that is to take the tokens of the last request: it reads what
the requests issued, it verifies the tokens of the last one, and as far as it verifies tokens
that were there before, they are older. -/
structure Takes (env : JoseIssuerEnv Cert S) (earlier : List (Request Cert S))
    (last : Request Cert S) (svtValidator : JOSESVTValidator Cert)
    (old : RawJOSESignatureData Cert S) : Prop where
  reads : ∀ request ∈ earlier ++ [last], ∀ jwt, IssuedOn env old request jwt →
    svtValidator.svt.parse (env.lib.serialize jwt) = .ok jwt ∧ Pdf.Issued jwt
  verifies : ∀ jwt, IssuedOn env old last jwt →
    verifyJWT svtValidator.svt svtValidator.config svtValidator.now jwt = .ok ()
  older : ∀ token ∈ svtTokens old.unprotectedHeader, ∀ jwt,
    svtValidator.svt.parse token = .ok jwt →
    verifyJWT svtValidator.svt svtValidator.config svtValidator.now jwt = .ok () →
    Pdf.Issued jwt ∧ ∀ new, IssuedOn env old last new → Pdf.issueTime jwt < Pdf.issueTime new

section Selection

variable {env : JoseIssuerEnv Cert S} {earlier : List (Request Cert S)} {last : Request Cert S}
  {requests : List (Request Cert S)} {jwts : List SignedJWT}
  {svtValidator : JOSESVTValidator Cert} {old new : RawJOSESignatureData Cert S}

theorem RenewedAll.issued :
    ∀ {requests : List (Request Cert S)} {jwts : List SignedJWT}
      {old : RawJOSESignatureData Cert S}, RenewedAll env requests jwts old new →
      List.Forall₂ (IssuedOn env old) requests jwts := by
  intro requests
  induction requests with
  | nil =>
      intro jwts old h
      cases jwts with
      | nil => exact .nil
      | cons jwt jwts => exact h.elim
  | cons request later ih =>
      intro jwts old h
      cases jwts with
      | nil => exact h.elim
      | cons jwt jwts =>
          obtain ⟨next, ⟨htoken, rfl⟩, hlater⟩ := h
          refine .cons ⟨old, rfl, htoken⟩ ((ih hlater).imp ?_)
          rintro request' jwt' ⟨between, hbetween, htoken'⟩
          refine ⟨between, ?_, htoken'⟩
          rw [hbetween]
          rfl

theorem exists_isNewest {l : List SignedJWT} (hne : l ≠ []) : ∃ newest, IsNewest l newest := by
  obtain ⟨first, rest, rfl⟩ := List.exists_cons_of_ne_nil hne
  exact ⟨_, exists_split_of_scan rfl⟩

omit [DecidableEq Cert] in
theorem entry_changeOf (svtMethod : SVTExtendpolicy) (token : String) :
    (changeOf svtMethod token).entry = token := by
  cases svtMethod with
  | EXTEND => rfl
  | REPLACE => rfl

/-- What the requests put into the header are their tokens. -/
theorem issued_of_mem_changes (hissued : List.Forall₂ (IssuedOn env old) requests jwts) :
    ∀ token ∈ (changes env.lib requests jwts).map Change.entry,
      ∃ request ∈ requests, ∃ jwt, IssuedOn env old request jwt ∧
        token = env.lib.serialize jwt := by
  induction hissued with
  | nil =>
      intro token hmem
      cases hmem
  | @cons request jwt later jwts hfirst _ ih =>
      intro token hmem
      rcases List.mem_cons.mp hmem with rfl | hmem
      · exact ⟨request, List.mem_cons_self, jwt, hfirst, entry_changeOf _ _⟩
      · obtain ⟨request', hrequest', found⟩ := ih token hmem
        exact ⟨request', List.mem_cons_of_mem _ hrequest', found⟩

/-- The token that the validator selects is one that was issued for the signature. -/
theorem selects_issued (htakes : Takes env earlier last svtValidator old)
    (hissued : List.Forall₂ (IssuedOn env old) (earlier ++ [last]) jwts)
    (htokens : svtTokens new.unprotectedHeader =
      Change.logAfter (svtTokens old.unprotectedHeader)
        (changes env.lib (earlier ++ [last]) jwts)) :
    ∃ request ∈ earlier ++ [last], ∃ jwt, IssuedOn env old request jwt ∧
      SVAUtils.getMostRecentJwt (verifiedTokens svtValidator.svt svtValidator.config
        svtValidator.now (svtTokens new.unprotectedHeader)) = .ok (some jwt) := by
  obtain ⟨jwts', lastJwt, rfl, hearlier, hlast⟩ := forall₂_concat hissued
  have hchanges : changes env.lib (earlier ++ [last]) (jwts' ++ [lastJwt]) =
      changes env.lib earlier jwts' ++
        [changeOf last.svtMethod (env.lib.serialize lastJwt)] :=
    List.zipWith_append hearlier.length_eq
  have hmemLast : last ∈ earlier ++ [last] := List.mem_append_right _ List.mem_cons_self
  have hlastToken : lastJwt ∈ verifiedTokens svtValidator.svt svtValidator.config
      svtValidator.now (svtTokens new.unprotectedHeader) := by
    refine mem_verifiedTokens.mpr ⟨env.lib.serialize lastJwt, ?_,
      (htakes.reads last hmemLast lastJwt hlast).1, htakes.verifies lastJwt hlast⟩
    have hentry := Change.entry_mem_logAfter (svtTokens old.unprotectedHeader)
      (changes env.lib earlier jwts') (changeOf last.svtMethod (env.lib.serialize lastJwt))
    rw [entry_changeOf] at hentry
    rw [htokens, hchanges]
    exact hentry
  -- a verified token was issued by a request, or is older than the last one
  have hcases : ∀ jwt ∈ verifiedTokens svtValidator.svt svtValidator.config svtValidator.now
      (svtTokens new.unprotectedHeader),
      (∃ request ∈ earlier ++ [last], IssuedOn env old request jwt) ∨
        Pdf.Issued jwt ∧ Pdf.issueTime jwt < Pdf.issueTime lastJwt := by
    intro jwt hjwt
    obtain ⟨token, htoken, hparse, hverify⟩ := mem_verifiedTokens.mp hjwt
    rw [htokens] at htoken
    rcases Change.mem_logAfter htoken with hold | hnew
    · obtain ⟨hdate, holder⟩ := htakes.older token hold jwt hparse hverify
      exact .inr ⟨hdate, holder lastJwt hlast⟩
    · obtain ⟨request, hrequest, jwt', hon, rfl⟩ := issued_of_mem_changes hissued token hnew
      rw [(htakes.reads request hrequest jwt' hon).1] at hparse
      cases hparse
      exact .inl ⟨request, hrequest, hon⟩
  obtain ⟨newest, hnewest⟩ := exists_isNewest (List.ne_nil_of_mem hlastToken)
  have hcomparable : Comparable (verifiedTokens svtValidator.svt svtValidator.config
      svtValidator.now (svtTokens new.unprotectedHeader)) := by
    refine .inr fun jwt hjwt => ?_
    rcases hcases jwt hjwt with ⟨request, hrequest, hon⟩ | ⟨hdate, -⟩
    · exact (htakes.reads request hrequest jwt hon).2
    · exact hdate
  rcases hcases newest hnewest.mem with ⟨request, hrequest, hon⟩ | ⟨-, hbefore⟩
  · exact ⟨request, hrequest, newest, hon, getMostRecentJwt_ok_iff.mpr ⟨hnewest, hcomparable⟩⟩
  · exact absurd hbefore (Int.not_lt.mpr (hnewest.le lastJwt hlastToken))

end Selection

/-! ## What the validator makes of them -/

/-- The validator has one for tokens, which hashes as the issuer does, reads the certificates
of the signatures, and compares the references with the help of the library. -/
structure Compares (env : JoseIssuerEnv Cert S) (impl : JOSESignatureDataValidatorImpl Cert)
    (svtValidator : JOSESVTValidator Cert) : Prop where
  installed : impl.svtValidator = some svtValidator
  hashes : ∃ svt, svtValidator.svt = withIssuerDigests env.claims svt
  encodes : ∀ cert, ∃ bytes, svtValidator.svt.getEncoded cert = .ok bytes
  library : ∃ validateSvtData, svtValidator.svtValidator.Validates validateSvtData ∧
    Pdf.ComparesReferences validateSvtData

/-- The result of a signature that was validated by a token. The token was issued for the
signature by one of the requests, because some policy passed. Unless the result could not be
made, it is a success and shows what the issuer had. -/
def ByToken (env : JoseIssuerEnv Cert S) (requests : List (Request Cert S))
    (old : RawJOSESignatureData Cert S) (result : JoseResult Cert) : Prop :=
  ∃ request ∈ requests, ∃ between sigResult jwt claims,
    between = { old with unprotectedHeader := between.unprotectedHeader } ∧
    signedSvtJWT env request.svtClaimsIssuer request.svtMethod between = some jwt ∧
    request.svtClaimsIssuer.signatureVerifier between = .ok sigResult ∧
    MadeFrom sigResult claims ∧
    (Processed result → ShowsEntry jwt claims result) ∧
    (result.status = .SUCCESS ↔ Processed result)

section Validation

variable {env : JoseIssuerEnv Cert S} {impl : JOSESignatureDataValidatorImpl Cert}
  {svtValidator : JOSESVTValidator Cert} {requests : List (Request Cert S)}
  {old new : RawJOSESignatureData Cert S} {request : Request Cert S} {jwt : SignedJWT}

omit [DecidableEq Cert] in
/-- A token with an entry that passed makes a success, unless the result cannot be made. -/
theorem success_iff_processed {claims : IssuedSignatureClaims}
    {svtValResult : SignatureSVTValidationResult} (habout : AboutEntry jwt claims svtValResult)
    (hpassed : ∃ pv ∈ claims.sigVal, pv.res = .PASSED) (env : JoseEnv Cert)
    (signatureData : JOSESignatureData Cert) :
    (JOSESignatureDataValidator.compileJOSESigValResultsFromSvtValidation env svtValResult
        signatureData).status = .SUCCESS ↔
      Processed (JOSESignatureDataValidator.compileJOSESigValResultsFromSvtValidation env
        svtValResult signatureData) := by
  constructor
  · unfold JOSESignatureDataValidator.compileJOSESigValResultsFromSvtValidation
    apply Mutating.tryCatch_of_wp
      (P := fun result : JoseResult Cert => result.status = .SUCCESS → Processed result)
    apply Mutating.wp_mono (takeSvtValidation_progress habout _ _ _)
    · intro _ after hmessage _ hfailed
      rw [hmessage] at hfailed
      cases hfailed
    · intro ex after _ h
      cases h
  · intro hprocessed
    obtain ⟨stamp, -, hcarries⟩ := joseResult_shows habout env signatureData hprocessed
    rw [hcarries.status]
    exact getStatusFromPolicyValidationClaims_success_iff.mpr ⟨_, rfl, hpassed⟩

omit [DecidableEq Cert] in
theorem unprotectedHeader_of_toSvtData {lib : JoseLibrary S}
    {signatureData : RawJOSESignatureData Cert S}
    {svtData : JOSESVTValidator.JOSESignatureData Cert}
    (h : signatureData.toSvtData lib = some svtData) :
    svtData.unprotectedHeader = signatureData.unprotectedHeader.map fun u =>
      u.map fun param => (param.1, toJsonValue param.2) := by
  unfold RawJOSESignatureData.toSvtData at h
  simp only [Option.bind_eq_bind, Option.bind_eq_some_iff, Option.pure_def,
    Option.some.injEq] at h
  obtain ⟨_, -, _, -, _, -, _, -, rfl⟩ := h
  rfl

omit [DecidableEq Cert] in
/-- Some policy of the claims passed, as the issuer asked for that. -/
theorem passed_of_issued {sigResult : JoseResult Cert} {claims : IssuedSignatureClaims}
    (hissue : isIssueSVT sigResult = true) (hmade : MadeFrom sigResult claims) :
    ∃ pv ∈ claims.sigVal, pv.res = .PASSED := by
  unfold isIssueSVT at hissue
  split at hissue
  · rename_i policies hpolicies
    obtain ⟨pv, hmem, hpassed⟩ := List.any_eq_true.mp hissue
    have hkept : claims.sigVal = policies :=
      hmade.policies hpolicies (List.ne_nil_of_mem hmem)
    exact ⟨pv, hkept ▸ hmem, beq_iff_eq.mp hpassed⟩
  · cases hissue

/-- What is collected for the entry of a token: its own references. -/
def entryData (jwt : SignedJWT) (claims : IssuedSignatureClaims) (signerCertChain : List Bytes) :
    SignatureSVTData where
  signedJWT := jwt
  signatureReference := claims.sigRef
  signatureClaims := claims.toSignatureClaims
  signedDataRefList := claims.sigDataRef
  signerCertChain := signerCertChain

theorem aboutEntry_entryData
    {validateSvtData : SignatureSVTData → SignatureSVTValidationResult}
    (hlibrary : Pdf.ComparesReferences validateSvtData) (jwt : SignedJWT)
    (claims : IssuedSignatureClaims) (signerCertChain : List Bytes) :
    AboutEntry jwt claims (validateSvtData (entryData jwt claims signerCertChain)) where
  signedJWT := hlibrary.signedJWT _
  signatureClaims := hlibrary.signatureClaims _
  success := (hlibrary.success _).mpr ⟨rfl, rfl, fun _ h => h, fun _ h => h⟩

/-- The selected token decides when it was issued for the signature. -/
theorem byToken_of_selected (hcompares : Compares env impl svtValidator)
    (hchain : ChainRead old) (hrequest : request ∈ requests)
    (hissued : IssuedOn env old request jwt)
    (hdata : new = { old with unprotectedHeader := new.unprotectedHeader })
    (hselected : SVAUtils.getMostRecentJwt (verifiedTokens svtValidator.svt svtValidator.config
      svtValidator.now (svtTokens new.unprotectedHeader)) = .ok (some jwt)) :
    ByToken env requests old (impl.validateSignature env.lib new) := by
  obtain ⟨between, hbetween, htoken⟩ := hissued
  obtain ⟨claims, header, payload, signatureBytes, digestAlgorithm, digest, hverify, hcarries,
    href⟩ := token_refers request.lawful htoken
  obtain ⟨_, sigResult, ⟨⟩, hresult, hissue, -, hsigVal, -, htimes⟩ := verify_some hverify
  have hmade : MadeFrom sigResult claims := ⟨_, _, _, hsigVal, htimes⟩
  -- the data is that of the signature, and so are the references
  have hheader : new.header = between.header := by rw [hdata, hbetween]
  have hpayload : new.payload = between.payload := by rw [hdata, hbetween]
  have hsignature : new.signatureBytes = between.signatureBytes := by rw [hdata, hbetween]
  have hdetached : new.detached = between.detached := by rw [hdata, hbetween]
  obtain ⟨certs, hcerts⟩ := hchain header (by rw [← href.hasHeader, hbetween])
  have hnewCerts : new.signatureCertChain = some certs := by rw [hdata, ← hcerts]
  obtain ⟨svt, hsvt⟩ := hcompares.hashes
  obtain ⟨svtData, hsvtData, hcollects⟩ := collects_of_same href hcarries svt hheader hpayload
    hsignature hdetached hnewCerts
  obtain ⟨signerCertChain, hencoded⟩ : ∃ signerCertChain,
      encodeChain svtValidator.svt svtData.signatureCertChain = .ok signerCertChain :=
    exists_mapM_ok_iff.mpr fun cert _ => hcompares.encodes cert
  have hcollected : JOSESVTValidator.collectSignatureSVTData svtValidator.svt svtData (some jwt) =
      .ok (entryData jwt claims signerCertChain) := by
    rw [hsvt] at hencoded ⊢
    exact hcollects.trans (bind_ok_iff.mpr ⟨_, hencoded, rfl⟩)
  have hfound : JOSESVTValidator.getSignatureSVTData svtValidator.svt svtValidator.config
      svtValidator.now svtData = .ok [entryData jwt claims signerCertChain] := by
    unfold JOSESVTValidator.getSignatureSVTData
    rw [unprotectedHeader_of_toSvtData hsvtData, getSignatureSvaTokens_raw]
    exact bind_ok_iff.mpr ⟨_, hselected, bind_ok_iff.mpr ⟨_, hcollected, rfl⟩⟩
  obtain ⟨validateSvtData, hvalidates, hlibrary⟩ := hcompares.library
  have habout := aboutEntry_entryData hlibrary jwt claims signerCertChain
  obtain ⟨read, hread, rfl⟩ : ∃ read, impl.signatureDataOf env.lib new = some read ∧
      read.toJOSESignatureData = svtData :=
    ⟨_, congrArg (Option.map _) hsvtData, rfl⟩
  have hvalidated := hvalidates [entryData jwt claims signerCertChain]
  have hfirst : firstValidSvt (some
      ([entryData jwt claims signerCertChain].map validateSvtData)) =
        some (validateSvtData (entryData jwt claims signerCertChain)) :=
    List.find?_cons_of_pos habout.success
  have hcompiled : impl.validateSignature env.lib new =
      JOSESignatureDataValidator.compileJOSESigValResultsFromSvtValidation impl.env
        (validateSvtData (entryData jwt claims signerCertChain)) read := by
    unfold JOSESignatureDataValidatorImpl.validateSignature
      JOSESignatureDataValidator.validateSignature
    simp only [hread, onRead, hcompares.installed, Option.map_some, svtValidate, hfound,
      hvalidated, hfirst]
  rw [hcompiled]
  exact ⟨request, hrequest, between, sigResult, jwt, claims, hbetween, htoken, hresult, hmade,
    joseResult_shows habout _ _, success_iff_processed habout (passed_of_issued hissue hmade) _ _⟩

end Validation

/-! ## The verdict -/

section Document

variable {env : JoseIssuerEnv Cert S} {impl : JOSESignatureDataValidatorImpl Cert}
  {svtValidator : JOSESVTValidator Cert} {earlier : List (Request Cert S)}
  {last : Request Cert S} {detachedPayload : Option Payload} {document output : Bytes}
  {before : List (RawJOSESignatureData Cert S)}

/-- **An extended document is valid by its tokens.** Issue tokens for a document any number of
times, where nothing clashes with them. A validator that takes the tokens of the last request
finds a result for each signature, in order, from a token that a request issued for it. Each
is a success that shows the policy results and the times that its issuer had, unless the token
could not be made a result of; and the verdict on the document is complete success exactly
when it has signatures and that did not happen to any of them. -/
theorem served_validates (hlib : env.lib.Lawful)
    (hparse : getJOSEDocumentSignatureData env.toDocumentEnv document detachedPayload =
      .ok before)
    (hsvt : ∀ signatureData ∈ before, SvtIsList signatureData.unprotectedHeader)
    (hextendable : ∀ signatureData ∈ before, Extendable signatureData)
    (hserved : Served env detachedPayload (earlier ++ [last]) document output)
    (hcompares : Compares env impl svtValidator)
    (htakes : ∀ signatureData ∈ before, Takes env earlier last svtValidator signatureData) :
    ∃ verdict results, extendedResultValidation env.toDocumentEnv
        (fun signatureData => .ok (impl.validateSignature env.lib signatureData)) output
        detachedPayload = .ok verdict ∧
      verdict.signatureValidationResults = some results ∧
      List.Forall₂ (ByToken env (earlier ++ [last])) before results ∧
      (verdict.completeSuccess = true ↔
        before ≠ [] ∧ ∀ result ∈ results, Processed result) := by
  obtain ⟨after, hafter, hall⟩ := served_renews hlib hparse hsvt hextendable hserved
  have hbyToken : List.Forall₂ (ByToken env (earlier ++ [last])) before
      (after.map (impl.validateSignature env.lib)) := by
    rw [List.forall₂_map_right_iff]
    have hknown : ∀ old ∈ before, ChainRead old ∧ Takes env earlier last svtValidator old :=
      fun old hold => ⟨chainRead_of_parse hlib hparse old hold, htakes old hold⟩
    refine ((List.forall₂_and_left _ _).mpr ⟨hknown, hall⟩).imp ?_
    rintro old new ⟨⟨hchain, htaken⟩, jwts, hjwts⟩
    have hcarried := hjwts.carried hchain
    obtain ⟨request, hrequest, jwt, hissued, hselected⟩ :=
      selects_issued htaken hjwts.issued hcarried.tokens
    exact byToken_of_selected hcompares hchain hrequest hissued hcarried.data hselected
  refine ⟨_, _, bind_ok_iff.mpr ⟨_, validate_ok hafter _, rfl⟩,
    (concludingResult_results id _).1, hbyToken, ?_⟩
  have hempty : after.map (impl.validateSignature env.lib) ≠ [] ↔ before ≠ [] := by
    rw [← List.length_pos_iff, ← List.length_pos_iff, hbyToken.length_eq]
  unfold getConcludingSigVerifyResult
  rw [concludingResult_completeSuccess_iff, hempty]
  refine and_congr_right fun _ => forall₂_congr fun result hmem => ?_
  obtain ⟨old, -, _, -, _, _, _, _, -, -, -, -, -, hiff⟩ := forall₂_left hbyToken.flip result hmem
  exact hiff

end Document

/-! ## A newer token beside an older one -/

section Demo

/-- The signature as it is read, with the older token. -/
def olderData : RawJOSESignatureData Unit Unit := dataWith [olderToken]

/-- The older token, which has no entries. -/
def olderJwt : SignedJWT where
  header := ⟨"ES256", some tokenKeyID, none⟩
  claimsSet := some
    { issuer := none
      jwtID := none
      issueTime := some 0
      expirationTime := none
      sigValClaims := some ⟨some DigestAlgorithm.idSHA256, some []⟩ }
  signingInput := (tokenInput "eyJpYXQiOjB9").toUTF8.data.toList
  signature := Base64Url.decode olderValue

/-- The entry of the new token. -/
def newEntry : IssuedSignatureClaims where
  sigRef := ⟨none, Base64Url.encode (demoValue.take 3),
    Base64Url.encode ((tbsString demoHeader ⟨"e30"⟩).toUTF8.toList.take 3)⟩
  sigDataRef := [⟨"payload", Base64Url.encode ((Base64Url.decode "e30").take 3)⟩]
  sigVal := [⟨sigValidationPolicyPkixValidation, .PASSED, none⟩]
  timeVal := []
  signerCertRef := ⟨.chain_hash, [Base64Url.encode (demoCertificate.take 3)]⟩

theorem demo_issued {jwt : SignedJWT} {svtMethod : SVTExtendpolicy}
    (h : IssuedOn demoEnv olderData (demoRequest svtMethod) jwt) : jwt = tokenOf [newEntry] := by
  obtain ⟨between, hbetween, htoken⟩ := h
  rw [hbetween] at htoken
  exact (Option.some.inj htoken).symm

/-- The validator of tokens reads these two, and finds both signed. -/
def demoSvt : SvtEnv Unit where
  parse := fun token =>
    if token = newToken then .ok (tokenOf [newEntry])
    else if token = olderToken then .ok olderJwt
    else .error ⟨.parse, "Invalid JWT"⟩
  jwsVerify := fun jwt key => .ok (key == .ec demoKey &&
    (jwt.signature == Base64Url.decode newValue || jwt.signature == Base64Url.decode olderValue))
  newVerifier := fun _ => .ok ()
  getDigestAlgoId := fun _ => .ok DigestAlgorithm.idSHA256
  certDigest := fun _ _ => .ok tokenKeyID
  toBase64Digest := fun _ _ => .ok "h"
  getCertOrNull := fun bytes => if bytes = demoCertificate then some () else none
  getPublicKey := fun _ => .ec demoKey
  getEncoded := fun _ => .ok demoCertificate
  registry := []

/-- The comparison of the references, and no more. -/
def demoValidateSvtData (data : SignatureSVTData) : SignatureSVTValidationResult where
  signedJWT := data.signedJWT
  signatureClaims := data.signatureClaims
  signerCertificate := demoCertificate
  certificateChain := data.signerCertChain
  svtValidationSuccess := decide (Pdf.ReferencesMatch data)

/-- The certificate of the tokens is a supporting one. -/
def demoSvtValidator : JOSESVTValidator Unit where
  svt := withIssuerDigests demoEnv.claims demoSvt
  config := { trustAll with supportingCertificates := [()] }
  now := 2000
  svtValidator := ⟨fun collected => do
    let svtDataList ← collected
    pure (some (svtDataList.map demoValidateSvtData))⟩

/-- A validator that has nothing to go by but the tokens. -/
def demoImpl : JOSESignatureDataValidatorImpl Unit where
  env :=
    { getPublicKey := fun _ => .ec demoKey
      getPkParams := fun _ => .error ⟨.runtime, "no parameters"⟩
      parseDate := fun _ => none
      readJson := fun _ => .error ⟨.io, "not JSON"⟩
      readDecodedJson := fun _ => .error ⟨.io, "not JSON"⟩
      base64Decode := fun _ => .ok []
      base64URLEncode := Base64Url.encode
      ts :=
        { extractCertificates := fun _ _ => .error ⟨.runtime, "no token"⟩
          getCmsSigTSTInfo := fun _ => .ok none
          verifyTsSignature := fun _ _ => .ok ()
          registry := DigestAlgorithmRegistry.initial
          digest := fun _ data => .ok data
          getSubject := fun _ => "CN=TSA" }
      svt :=
        { getUri := fun algorithm => .ok algorithm
          getCertificate := demoEnv.getCertificate
          getPkParams := fun _ => .ok ()
          getOrderedCertList := fun _ _ => [()] } }
  getCustomParams := fun _ => []
  certificateValidator := none
  signaturePolicyValidator := fun _ => .error ⟨.runtime, "no policy"⟩
  timeStampPolicyVerifier := fun _ _ _ _ => .error ⟨.runtime, "no timestamp policy"⟩
  svtValidator := some demoSvtValidator

theorem demoSvt_newToken : demoSvt.parse newToken = .ok (tokenOf [newEntry]) := by
  simp only [demoSvt, ↓reduceIte]

theorem demoSvt_olderToken : demoSvt.parse olderToken = .ok olderJwt := by
  have hne : olderToken ≠ newToken := by decide +kernel
  simp only [demoSvt, if_neg hne, ↓reduceIte]

theorem demo_compares : Compares demoEnv demoImpl demoSvtValidator where
  installed := rfl
  hashes := ⟨demoSvt, rfl⟩
  encodes := fun _ => ⟨demoCertificate, rfl⟩
  library := ⟨demoValidateSvtData, fun _ => rfl, fun _ => rfl, fun _ => rfl,
    fun _ => decide_eq_true_iff⟩

theorem demo_takes :
    Takes demoEnv [] (demoRequest .EXTEND) demoSvtValidator olderData where
  reads := by
    intro request hrequest jwt hissued
    cases List.mem_singleton.mp hrequest
    rw [demo_issued hissued]
    have hread : demoSvtValidator.svt.parse = demoSvt.parse := rfl
    have hwritten : demoEnv.lib.serialize (tokenOf [newEntry]) = newToken := rfl
    rw [hread, hwritten]
    exact ⟨demoSvt_newToken, 1000, rfl⟩
  verifies := by
    intro jwt hissued
    rw [demo_issued hissued]
    rfl
  older := by
    intro token htoken jwt hparse _
    cases List.mem_singleton.mp htoken
    have hread : demoSvtValidator.svt.parse = demoSvt.parse := rfl
    rw [hread, demoSvt_olderToken] at hparse
    cases hparse
    refine ⟨⟨0, rfl⟩, ?_⟩
    intro new hissued
    rw [demo_issued hissued]
    decide

theorem demo_extended :
    Served demoEnv none [demoRequest .EXTEND] (demoDocument (signatureWith [olderToken]))
      (demoDocument (signatureWith [olderToken, newToken])) :=
  ⟨demoDocument (signatureWith [olderToken, newToken]),
    issueSvt_demo (signatureWith_parses _) fun _ => rfl, rfl⟩

theorem served_validates_certified :
    ∃ verdict results, extendedResultValidation demoEnv.toDocumentEnv
        (fun signatureData => .ok (demoImpl.validateSignature demoEnv.lib signatureData))
        (demoDocument (signatureWith [olderToken, newToken])) none = .ok verdict ∧
      verdict.signatureValidationResults = some results ∧
      List.Forall₂ (ByToken demoEnv [demoRequest .EXTEND]) [olderData] results ∧
      (verdict.completeSuccess = true ↔
        [olderData] ≠ [] ∧ ∀ result ∈ results, Processed result) := by
  refine @served_validates _ _ _ demoEnv demoImpl demoSvtValidator [] (demoRequest .EXTEND) none
    (demoDocument (signatureWith [olderToken])) _ _ (Book.library_lawful demoBook)
    (signatureWith_parses _) ?_ ?_ demo_extended demo_compares ?_
  · intro signatureData hmem value hvalue
    cases List.mem_singleton.mp hmem
    cases hvalue
    exact ⟨[olderToken], rfl⟩
  · intro signatureData hmem
    cases List.mem_singleton.mp hmem
    refine ⟨?_, ?_⟩
    · intro header hheader
      cases hheader
      decide
    · intro hempty
      cases hempty
  · intro signatureData hmem
    cases List.mem_singleton.mp hmem
    exact demo_takes

end Demo

end SigVal.Jose.JOSEDocumentSVTIssuer
