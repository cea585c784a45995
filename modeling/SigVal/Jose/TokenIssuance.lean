import SigVal.Jose.SvtExtension

/-!
# Which signatures get a token

Three places decide whether a signature gets a token: the claims issuer, which returns
`null` for a result without a passed policy, the loop of `issueSvt`, which swallows the
exceptions of the claims issuer, and the gate behind it. Only the gate knows whether tokens
are wanted for signatures that failed. A JOSE document is written once all are past the
gate, so it is extended with tokens for all its signatures or not at all.
-/

namespace SigVal.Jose

open SigVal.Java SigVal.Commons SigVal.Svt
open JOSESignedDocumentValidator

variable {Cert S : Type}

/-! ## Results, claims and tokens -/

/-- The token has one entry, with these policy results. -/
def RecordsPolicies (jwt : SignedJWT) (policies : List PolicyValidationClaims) : Prop :=
  ∃ claims, SVTUtils.Entries jwt [claims] ∧ claims.sigVal = some policies

/-- An issuer that makes a token of all claims, and none of `null`. -/
structure SVTIssuer.Total (svtIssuer : SVTIssuer) : Prop where
  lawful : svtIssuer.Lawful
  null : ∀ verify, verify svtIssuer.hashAlgoUri = .ok none →
    svtIssuer.getSignedSvtJWT verify = .ok none
  token : ∀ verify claims, verify svtIssuer.hashAlgoUri = .ok (some claims) →
    ∃ jwt, svtIssuer.getSignedSvtJWT verify = .ok (some jwt)

/-- Some policy passed. -/
def SomePassed (policies : List PolicyValidationClaims) : Prop := ∃ p ∈ policies, p.res = .PASSED

/-- All policies passed, and there is one. -/
def AllPassed (policies : List PolicyValidationClaims) : Prop :=
  policies ≠ [] ∧ ∀ p ∈ policies, p.res = .PASSED

theorem isIssueSVT_iff {sigResult : JoseResult Cert} :
    JOSESVTSigValClaimsIssuer.isIssueSVT sigResult = true ↔
      ∃ policies, sigResult.validationPolicyResultList = some policies ∧ SomePassed policies := by
  unfold JOSESVTSigValClaimsIssuer.isIssueSVT SomePassed
  cases sigResult.validationPolicyResultList with
  | none => simp
  | some policies => simp

/-- Where a policy passed the claims have the policy results as they are. -/
theorem sigVal_of_issued {sigResult : JoseResult Cert} {defaultBasicValidation : Bool}
    {sigVal : List PolicyValidationClaims}
    (hissue : JOSESVTSigValClaimsIssuer.isIssueSVT sigResult = true)
    (hsigVal : AbstractSVTSigValClaimsIssuer.getSignaturePolicyValidations
      defaultBasicValidation sigResult = .ok sigVal) :
    sigResult.validationPolicyResultList = some sigVal ∧ SomePassed sigVal := by
  obtain ⟨policies, hpolicies, hpassed⟩ := isIssueSVT_iff.mp hissue
  have hne : policies.isEmpty = false := by
    obtain ⟨p, hp, -⟩ := hpassed
    exact List.isEmpty_eq_false_iff.mpr (List.ne_nil_of_mem hp)
  unfold AbstractSVTSigValClaimsIssuer.getSignaturePolicyValidations at hsigVal
  simp only [hpolicies, deref, bind, Except.bind, hne, Bool.false_and] at hsigVal
  cases hsigVal
  exact ⟨hpolicies, hpassed⟩

section Gate

variable {jwt : SignedJWT} {hashAlgoUri : String} {claims : IssuedSignatureClaims}

theorem recordsPolicies_of_carries (hcarries : CarriesClaims jwt hashAlgoUri [claims]) :
    RecordsPolicies jwt claims.sigVal := by
  obtain ⟨claimsSet, hclaimsSet, hsvt⟩ := hcarries
  exact ⟨_, ⟨claimsSet, _, hclaimsSet, hsvt, rfl⟩, rfl⟩

/-- What the gate lets through without the flag. -/
theorem passed_of_gate {policies : List PolicyValidationClaims}
    (hrecords : RecordsPolicies jwt policies)
    (hgate : SVTUtils.checkIfSVTShouldBeIssued (some jwt) false = .ok true) :
    ∀ p ∈ policies, p.res = .PASSED := by
  rw [SVTUtils.checkIfSVTShouldBeIssued_false_iff,
    SVTUtils.checkValidatedSignatures_true_iff] at hgate
  obtain ⟨claims, hentries, hsigVal⟩ := hrecords
  obtain ⟨sig, hentries', hall⟩ := hgate
  rw [hentries'.unique hentries] at hall
  obtain ⟨sigVal, hsome, hpassed⟩ :=
    SVTUtils.passed_of_not_notAllPassed (hall claims List.mem_cons_self)
  rw [hsigVal] at hsome
  cases hsome
  exact hpassed

/-- With the flag the gate is open for every token. -/
theorem gate_open {policies : List PolicyValidationClaims}
    (hrecords : RecordsPolicies jwt policies) :
    SVTUtils.checkIfSVTShouldBeIssued (some jwt) true = .ok true := by
  obtain ⟨claims, ⟨claimsSet, svtClaims, hclaimsSet, hsvt, hsig⟩, hsigVal⟩ := hrecords
  have hchecked : ∃ b, SVTUtils.checkValidatedSignatures (some jwt) = .ok b := by
    unfold SVTUtils.checkValidatedSignatures
    simp only [SignedJWT.getJWTClaimsSet_ok_iff.mpr hclaimsSet, hsvt, hsig, deref, bind,
      Except.bind, SVTUtils.allMatch, SVTUtils.policiesPassed, hsigVal, pure, Except.pure]
    split
    · exact ⟨_, rfl⟩
    · exact ⟨_, rfl⟩
    · rename_i h
      cases h
  obtain ⟨b, hb⟩ := hchecked
  unfold SVTUtils.checkIfSVTShouldBeIssued
  dsimp only
  rw [hb]
  cases b with
  | true => rfl
  | false => rfl

end Gate

/-! ## The signatures of a JOSE document -/

namespace JOSEDocumentSVTIssuer

open JOSESVTSigValClaimsIssuer

/-- The signature was validated with these policy results. -/
def ValidatedWith (issuer : JOSESVTSigValClaimsIssuer Cert S)
    (signatureData : RawJOSESignatureData Cert S) (policies : List PolicyValidationClaims) : Prop :=
  ∃ sigResult, issuer.signatureVerifier signatureData = .ok sigResult ∧
    sigResult.validationPolicyResultList = some policies

/-- A result from which the claims of a token can be made. -/
structure Complete (env : JoseIssuerEnv Cert S) (signatureData : RawJOSESignatureData Cert S)
    (hashAlgoUri : String) [DecidableEq Cert] (sigResult : JoseResult Cert) : Prop where
  sigRef : ∃ sigRef, getSigRefData env signatureData hashAlgoUri = .ok sigRef
  sigVal : ∃ policies, sigResult.validationPolicyResultList = some policies
  sigDataRef : ∃ refs, getDocRefHashes env signatureData hashAlgoUri = .ok refs
  timeVal : ∃ times,
    AbstractSVTSigValClaimsIssuer.timeVal env.claims sigResult hashAlgoUri = .ok times
  signerCertRef : ∃ certRef,
    AbstractSVTSigValClaimsIssuer.getCertRef env.claims sigResult hashAlgoUri = .ok certRef

/-- The written signature is the old one, and its last token is the new one. -/
structure ReceivesToken (lib : JoseLibrary S) (old : RawJOSESignatureData Cert S) (token : String)
    (new : JOSESignature S) : Prop where
  header : ∃ header, old.header = some header ∧ new.protectedHeader = header.base64URL
  signature : ∃ bytes, old.signatureBytes = some bytes ∧ new.signature = lib.encode bytes
  token : ∃ earlier, param new.unprotectedHeader "svt" = some (Json.strings (earlier ++ [token]))

/-- The bytes are a document with these signatures, in one of the two forms. -/
def Writes (lib : JoseLibrary S) (output : Bytes) (signatures : List (JOSESignature S)) : Prop :=
  ∃ payload obj, output = lib.writeValueAsBytes (.object obj) ∧
    ((∃ joseSignature, signatures = [joseSignature] ∧
        obj = JSONFlattenedSerializedDocument.members ⟨joseSignature, payload⟩) ∨
      obj = JSONSerializedDocument.members ⟨payload, signatures⟩)

/-- The tokens that are there can be read, or are passed over. -/
def TokensReadable (lib : JoseLibrary S) (signatureData : RawJOSESignatureData Cert S) : Prop :=
  ∀ svtHeaderObj, param signatureData.unprotectedHeader "svt" = some svtHeaderObj →
    ∃ tokens, existingTokens lib svtHeaderObj = .ok tokens

variable [DecidableEq Cert]

/-- Each signature, in the order of the document, was validated with such policy results
and has received a token that records them. A document without signatures stays as it
is. -/
def IssuedTo (env : JoseIssuerEnv Cert S) (issuer : JOSESVTSigValClaimsIssuer Cert S)
    (svtMethod : SVTExtendpolicy) (P : List PolicyValidationClaims → Prop) (document : Bytes)
    (before : List (RawJOSESignatureData Cert S)) (output : Bytes) : Prop :=
  (before = [] ∧ output = document) ∨
    ∃ signatures, Writes env.lib output signatures ∧
      List.Forall₂ (fun old new => ∃ jwt policies, ValidatedWith issuer old policies ∧ P policies ∧
        signedSvtJWT env issuer svtMethod old = some jwt ∧ RecordsPolicies jwt policies ∧
        ReceivesToken env.lib old (env.lib.serialize jwt) new) before signatures

section Issuing

variable {env : JoseIssuerEnv Cert S} {issuer : JOSESVTSigValClaimsIssuer Cert S}
  {svtMethod : SVTExtendpolicy} {signatureData : RawJOSESignatureData Cert S} {jwt : SignedJWT}

omit [DecidableEq Cert] in
/-- A header that is written has the token at the end of its list. -/
theorem extendUnprotectedHeader_ok {lib : JoseLibrary S}
    {unprotectedHeader : Option (UnprotectedHeader S)}
    (h : extendUnprotectedHeader lib ⟨some jwt, signatureData, some svtMethod⟩ =
      .ok unprotectedHeader) :
    TokensReadable lib signatureData ∧ ∃ earlier,
      param unprotectedHeader "svt" = some (Json.strings (earlier ++ [lib.serialize jwt])) := by
  unfold extendUnprotectedHeader at h
  unfold TokensReadable param
  cases hvalue : (signatureData.unprotectedHeader.getD []).lookup "svt" with
  | none =>
      simp only [hvalue] at h
      cases h
      refine ⟨?_, [], lookup_putEntry_self _ _ _⟩
      intro value hnone
      cases hnone
  | some svtHeaderObj =>
      cases htokens : existingTokens lib svtHeaderObj with
      | error ex =>
          simp only [hvalue, htokens] at h
          cases h
      | ok tokens =>
          simp only [hvalue, htokens] at h
          constructor
          · rintro value ⟨⟩
            exact ⟨tokens, htokens⟩
          · cases svtMethod with
            | REPLACE =>
                cases h
                exact ⟨[], lookup_putEntry_self _ _ _⟩
            | EXTEND =>
                cases h
                have hne : (tokens ++ [lib.serialize jwt]).isEmpty = false := by simp
                refine ⟨tokens, ?_⟩
                rw [hne]
                exact lookup_putEntry_self _ _ _

omit [DecidableEq Cert] in
theorem exists_extendUnprotectedHeader {lib : JoseLibrary S}
    (h : TokensReadable lib signatureData) :
    ∃ unprotectedHeader, extendUnprotectedHeader lib
      ⟨some jwt, signatureData, some svtMethod⟩ = .ok unprotectedHeader := by
  unfold extendUnprotectedHeader
  unfold TokensReadable param at h
  cases hvalue : (signatureData.unprotectedHeader.getD []).lookup "svt" with
  | none =>
      simp only [hvalue]
      exact ⟨_, rfl⟩
  | some svtHeaderObj =>
      obtain ⟨tokens, htokens⟩ := h svtHeaderObj hvalue
      simp only [hvalue, htokens]
      cases svtMethod with
      | REPLACE => exact ⟨_, rfl⟩
      | EXTEND => exact ⟨_, rfl⟩

omit [DecidableEq Cert] in
theorem joseSignature_receives {lib : JoseLibrary S} {new : JOSESignature S}
    (h : joseSignature lib ⟨some jwt, signatureData, some svtMethod⟩ = .ok new) :
    TokensReadable lib signatureData ∧
      ReceivesToken lib signatureData (lib.serialize jwt) new := by
  obtain ⟨bytes, hbytes, h⟩ := bind_ok_iff.mp h
  obtain ⟨header, hheader, h⟩ := bind_ok_iff.mp h
  obtain ⟨unprotectedHeader, hunprotected, h⟩ := bind_ok_iff.mp h
  cases h
  obtain ⟨hreadable, htoken⟩ := extendUnprotectedHeader_ok hunprotected
  exact ⟨hreadable, ⟨header, deref_ok_iff.mp hheader, rfl⟩, ⟨bytes, deref_ok_iff.mp hbytes, rfl⟩,
    htoken⟩

/-- Claims are made of a result with a passed policy. -/
theorem verify_validated {hashAlgoUri : String} {claims : IssuedSignatureClaims}
    (h : verify env issuer ⟨signatureData, svtMethod⟩ hashAlgoUri = .ok (some [claims])) :
    ValidatedWith issuer signatureData claims.sigVal ∧ SomePassed claims.sigVal := by
  obtain ⟨_, sigResult, ⟨⟩, hresult, hissue, -, hsigVal, -⟩ := verify_some h
  obtain ⟨hpolicies, hpassed⟩ := sigVal_of_issued hissue hsigVal
  exact ⟨⟨sigResult, hresult, hpolicies⟩, hpassed⟩

theorem token_records (hissuer : issuer.svtIssuer.Lawful)
    (h : signedSvtJWT env issuer svtMethod signatureData = some jwt) :
    ∃ policies, ValidatedWith issuer signatureData policies ∧ SomePassed policies ∧
      RecordsPolicies jwt policies := by
  obtain ⟨claims, _, _, _, _, _, hverify, hcarries, -⟩ := token_refers hissuer h
  obtain ⟨hvalidated, hpassed⟩ := verify_validated hverify
  exact ⟨claims.sigVal, hvalidated, hpassed, recordsPolicies_of_carries hcarries⟩

/-- What is known of a signature past the gate. -/
theorem extensionData_gate {issueSvtOnFailedValidation : Bool}
    {svtExtensionData : SVTExtensionData Cert S}
    (h : extensionData env issuer svtMethod issueSvtOnFailedValidation signatureData =
      .ok svtExtensionData) :
    ∃ jwt, signedSvtJWT env issuer svtMethod signatureData = some jwt ∧
      svtExtensionData = ⟨some jwt, signatureData, some svtMethod⟩ ∧
      SVTUtils.checkIfSVTShouldBeIssued (some jwt) issueSvtOnFailedValidation = .ok true := by
  obtain ⟨jwt, htoken, heq⟩ := extensionData_ok h
  refine ⟨jwt, htoken, heq, ?_⟩
  unfold extensionData at h
  obtain ⟨shouldBeIssued, hgate, h⟩ := bind_ok_iff.mp h
  rw [htoken] at hgate
  cases shouldBeIssued with
  | false => cases h
  | true => exact hgate

/-- **What is written when nothing is thrown.** -/
theorem issueSvt_issued (hissuer : issuer.svtIssuer.Lawful) {document output : Bytes}
    {detachedPayload : Option Payload} {issueSvtOnFailedValidation : Bool}
    (h : issueSvt env issuer document svtMethod detachedPayload issueSvtOnFailedValidation =
      .ok output) :
    ∃ before, getJOSEDocumentSignatureData env.toDocumentEnv document detachedPayload = .ok before ∧
      (∀ signatureData ∈ before, TokensReadable env.lib signatureData) ∧
      IssuedTo env issuer svtMethod (fun policies => SomePassed policies ∧
        (issueSvtOnFailedValidation = false → ∀ p ∈ policies, p.res = .PASSED))
        document before output := by
  obtain ⟨before, hparse, h⟩ := bind_ok_iff.mp h
  obtain ⟨svtExtensionDataList, hextensions, hout⟩ := bind_ok_iff.mp h
  have hextended := forall₂_of_mapM_ok hextensions
  refine ⟨before, hparse, ?_⟩
  cases svtExtensionDataList with
  | nil =>
      obtain rfl := List.forall₂_nil_right_iff.mp hextended
      cases hout
      exact ⟨by simp, .inl ⟨rfl, rfl⟩⟩
  | cons first rest =>
      obtain ⟨payload, signatures, obj, -, hsignatures, rfl, hobj⟩ :=
        extendDocumentSignature_cases hout
      have hforms := forall₂_comp hextended (forall₂_of_mapM_ok hsignatures)
      -- each signature with what is written for it
      have hwritten : List.Forall₂ (fun old new => TokensReadable env.lib old ∧
          ∃ jwt policies, ValidatedWith issuer old policies ∧ (SomePassed policies ∧
            (issueSvtOnFailedValidation = false → ∀ p ∈ policies, p.res = .PASSED)) ∧
          signedSvtJWT env issuer svtMethod old = some jwt ∧ RecordsPolicies jwt policies ∧
          ReceivesToken env.lib old (env.lib.serialize jwt) new) before signatures := by
        apply hforms.imp
        rintro old new ⟨svtExtensionData, hextension, hserialized⟩
        obtain ⟨jwt, htoken, rfl, hgate⟩ := extensionData_gate hextension
        obtain ⟨policies, hvalidated, hpassed, hrecords⟩ := token_records hissuer htoken
        obtain ⟨hreadable, hreceives⟩ := joseSignature_receives hserialized
        refine ⟨hreadable, jwt, policies, hvalidated, ⟨hpassed, ?_⟩, htoken, hrecords, hreceives⟩
        rintro rfl
        exact passed_of_gate hrecords hgate
      refine ⟨?_, .inr ⟨signatures, ⟨payload, obj, rfl, hobj⟩, hwritten.imp fun _ _ h => h.2⟩⟩
      intro signatureData hmem
      obtain ⟨new, -, hreadable, -⟩ := forall₂_left hwritten signatureData hmem
      exact hreadable

/-- Without the flag a document is extended for all its signatures or not at all. -/
def AllOrNothing (env : JoseIssuerEnv Cert S) (issuer : JOSESVTSigValClaimsIssuer Cert S)
    (document : Bytes) (svtMethod : SVTExtendpolicy) (detachedPayload : Option Payload) : Prop :=
  ∀ output, issueSvt env issuer document svtMethod detachedPayload false = .ok output →
    ∃ before, getJOSEDocumentSignatureData env.toDocumentEnv document detachedPayload = .ok before ∧
      IssuedTo env issuer svtMethod AllPassed document before output

/-- **All or nothing.** -/
theorem issueSvt_allOrNothing (hissuer : issuer.svtIssuer.Lawful) (document : Bytes)
    (svtMethod : SVTExtendpolicy) (detachedPayload : Option Payload) :
    AllOrNothing env issuer document svtMethod detachedPayload := by
  intro output h
  obtain ⟨before, hparse, -, hissued⟩ := issueSvt_issued hissuer h
  refine ⟨before, hparse, ?_⟩
  rcases hissued with hnone | ⟨signatures, hwrites, hall⟩
  · exact .inl hnone
  · refine .inr ⟨signatures, hwrites, hall.imp ?_⟩
    rintro old new ⟨jwt, policies, hvalidated, ⟨⟨p, hp, -⟩, hpassed⟩, hrest⟩
    exact ⟨jwt, policies, hvalidated, ⟨List.ne_nil_of_mem hp, hpassed rfl⟩, hrest⟩

/-! ## Tokens for signatures that failed -/

/-- The signature yields a complete result. -/
def YieldsComplete (env : JoseIssuerEnv Cert S) (issuer : JOSESVTSigValClaimsIssuer Cert S)
    (signatureData : RawJOSESignatureData Cert S) : Prop :=
  ∃ sigResult, issuer.signatureVerifier signatureData = .ok sigResult ∧
    Complete env signatureData issuer.svtIssuer.hashAlgoUri sigResult

/-- With a passed policy a complete result makes it through the gate. -/
theorem exists_extensionData (hissuer : issuer.svtIssuer.Total)
    (hcomplete : YieldsComplete env issuer signatureData)
    {policies : List PolicyValidationClaims}
    (hvalidated : ValidatedWith issuer signatureData policies) (hpassed : SomePassed policies) :
    ∃ jwt, extensionData env issuer svtMethod true signatureData =
      .ok ⟨some jwt, signatureData, some svtMethod⟩ := by
  obtain ⟨sigResult, hresult, hcomplete⟩ := hcomplete
  obtain ⟨sigResult', hresult', hpolicies⟩ := hvalidated
  rw [hresult] at hresult'
  cases hresult'
  have hissue : isIssueSVT sigResult = true := isIssueSVT_iff.mpr ⟨policies, hpolicies, hpassed⟩
  obtain ⟨sigRef, hsigRef⟩ := hcomplete.sigRef
  obtain ⟨sigVal, hsigVal⟩ : ∃ sigVal,
      AbstractSVTSigValClaimsIssuer.getSignaturePolicyValidations issuer.defaultBasicValidation
        sigResult = .ok sigVal :=
    AbstractSVTSigValClaimsIssuer.getSignaturePolicyValidations_ok_iff.mpr hcomplete.sigVal
  obtain ⟨sigDataRef, hsigDataRef⟩ := hcomplete.sigDataRef
  obtain ⟨timeVal, htimeVal⟩ := hcomplete.timeVal
  obtain ⟨certRef, hcertRef⟩ := hcomplete.signerCertRef
  have hverify : verify env issuer ⟨signatureData, svtMethod⟩ issuer.svtIssuer.hashAlgoUri =
      .ok (some [⟨sigRef, sigVal, sigDataRef, timeVal, certRef⟩]) := by
    unfold verify
    simp only [hresult, hissue, hsigRef, hsigVal, hsigDataRef, htimeVal, hcertRef, bind,
      Except.bind, if_true]
    rfl
  obtain ⟨jwt, hjwt⟩ := hissuer.token _ _ hverify
  have htoken : signedSvtJWT env issuer svtMethod signatureData = some jwt := by
    unfold signedSvtJWT getSignedSvtJWT
    rw [hjwt]
  obtain ⟨_, _, _, hrecords⟩ := token_records hissuer.lawful htoken
  refine ⟨jwt, ?_⟩
  unfold extensionData
  simp only [htoken, gate_open hrecords, bind, Except.bind]
  rfl

omit [DecidableEq Cert] in
/-- What is complete can be written. -/
theorem exists_joseSignature {hashAlgoUri : String}
    (hsigRef : ∃ sigRef, getSigRefData env signatureData hashAlgoUri = .ok sigRef)
    (hreadable : TokensReadable env.lib signatureData) :
    (∃ payload, payloadStr signatureData = .ok payload) ∧
      ∃ new, joseSignature env.lib ⟨some jwt, signatureData, some svtMethod⟩ = .ok new := by
  obtain ⟨sigRef, hsigRef⟩ := hsigRef
  obtain ⟨header, payload, bytes, -, hheader, hpayload, hbytes, -⟩ := getSigRefData_ok hsigRef
  obtain ⟨unprotectedHeader, hunprotected⟩ : ∃ unprotectedHeader, extendUnprotectedHeader env.lib
      ⟨some jwt, signatureData, some svtMethod⟩ = .ok unprotectedHeader :=
    exists_extendUnprotectedHeader hreadable
  constructor
  · unfold payloadStr
    rw [hpayload]
    split
    · exact ⟨_, rfl⟩
    · exact ⟨_, rfl⟩
  · unfold joseSignature
    simp only [hbytes, hheader, hunprotected, deref, bind, Except.bind]
    exact ⟨_, rfl⟩

omit [DecidableEq Cert] in
theorem exists_extendDocumentSignature {lib : JoseLibrary S} {document : Bytes}
    {svtExtensionDataList : List (SVTExtensionData Cert S)}
    (h : ∀ x ∈ svtExtensionDataList, (∃ payload, payloadStr x.signatureData = .ok payload) ∧
      ∃ new, joseSignature lib x = .ok new) :
    ∃ output, extendDocumentSignature lib document svtExtensionDataList = .ok output := by
  have hall := exists_mapM_ok_iff.mpr fun x hx => (h x hx).2
  rcases svtExtensionDataList with _ | ⟨first, _ | ⟨second, rest⟩⟩
  · exact ⟨_, rfl⟩
  · obtain ⟨⟨payload, hpayload⟩, new, hnew⟩ := h first List.mem_cons_self
    unfold extendDocumentSignature
    simp only [hpayload, hnew, bind, Except.bind]
    exact ⟨_, rfl⟩
  · obtain ⟨⟨payload, hpayload⟩, -⟩ := h first List.mem_cons_self
    obtain ⟨signatures, hsignatures⟩ := hall
    unfold extendDocumentSignature
    simp only [hpayload, hsignatures, bind, Except.bind]
    exact ⟨_, rfl⟩

/-- With the flag the document is extended, and each token records the policy results of
its signature. -/
def ExtendsAnyway (env : JoseIssuerEnv Cert S) (issuer : JOSESVTSigValClaimsIssuer Cert S)
    (document : Bytes) (svtMethod : SVTExtendpolicy) (detachedPayload : Option Payload)
    (before : List (RawJOSESignatureData Cert S)) : Prop :=
  ∃ output, issueSvt env issuer document svtMethod detachedPayload true = .ok output ∧
    IssuedTo env issuer svtMethod (fun _ => True) document before output

/-- **Which documents are extended.** -/
theorem issueSvt_extends_iff (hissuer : issuer.svtIssuer.Total) {document : Bytes}
    {detachedPayload : Option Payload} {before : List (RawJOSESignatureData Cert S)}
    (hparse : getJOSEDocumentSignatureData env.toDocumentEnv document detachedPayload =
      .ok before)
    (hcomplete : ∀ signatureData ∈ before, YieldsComplete env issuer signatureData) :
    ExtendsAnyway env issuer document svtMethod detachedPayload before ↔
      ∀ signatureData ∈ before, (∃ policies, ValidatedWith issuer signatureData policies ∧
        SomePassed policies) ∧ TokensReadable env.lib signatureData := by
  constructor
  · rintro ⟨output, hissue, -⟩ signatureData hmem
    obtain ⟨before', hparse', hreadable, hissued⟩ := issueSvt_issued hissuer.lawful hissue
    rw [hparse] at hparse'
    cases hparse'
    refine ⟨?_, hreadable signatureData hmem⟩
    rcases hissued with ⟨rfl, -⟩ | ⟨signatures, -, hall⟩
    · cases hmem
    · obtain ⟨new, -, jwt, policies, hvalidated, ⟨hpassed, -⟩, -⟩ :=
        forall₂_left hall signatureData hmem
      exact ⟨policies, hvalidated, hpassed⟩
  · intro hall
    have hextensions : ∃ svtExtensionDataList, before.mapM
        (extensionData env issuer svtMethod true) = .ok svtExtensionDataList := by
      apply exists_mapM_ok_iff.mpr
      intro signatureData hmem
      obtain ⟨⟨policies, hvalidated, hpassed⟩, -⟩ := hall signatureData hmem
      obtain ⟨jwt, hjwt⟩ := exists_extensionData hissuer (hcomplete signatureData hmem) hvalidated
        hpassed
      exact ⟨_, hjwt⟩
    obtain ⟨svtExtensionDataList, hextensions⟩ := hextensions
    have hwritten : ∃ output, extendDocumentSignature env.lib document svtExtensionDataList =
        .ok output := by
      apply exists_extendDocumentSignature
      intro x hx
      obtain ⟨signatureData, hmem, hextension⟩ :=
        forall₂_left (forall₂_of_mapM_ok hextensions).flip x hx
      obtain ⟨jwt, -, rfl⟩ := extensionData_ok hextension
      obtain ⟨_, _, hsigRef⟩ := hcomplete signatureData hmem
      exact exists_joseSignature hsigRef.sigRef (hall signatureData hmem).2
    obtain ⟨output, hout⟩ := hwritten
    have hissue : issueSvt env issuer document svtMethod detachedPayload true = .ok output := by
      unfold issueSvt
      simp only [hparse, hextensions, bind, Except.bind]
      exact hout
    obtain ⟨before', hparse', -, hissued⟩ := issueSvt_issued hissuer.lawful hissue
    rw [hparse] at hparse'
    cases hparse'
    refine ⟨output, hissue, ?_⟩
    rcases hissued with hnone | ⟨signatures, hwrites, hforall⟩
    · exact .inl hnone
    · refine .inr ⟨signatures, hwrites, hforall.imp ?_⟩
      rintro old new ⟨jwt, policies, hvalidated, -, hrest⟩
      exact ⟨jwt, policies, hvalidated, trivial, hrest⟩

end Issuing

theorem demoIssuer_total : demoIssuer.svtIssuer.Total where
  lawful := demoIssuer_lawful
  null := by
    intro verify h
    show (verify DigestAlgorithm.idSHA256 >>= _) = _
    rw [show verify DigestAlgorithm.idSHA256 = _ from h]
    rfl
  token := by
    intro verify claims h
    show ∃ jwt, (verify DigestAlgorithm.idSHA256 >>= _) = .ok (some jwt)
    rw [show verify DigestAlgorithm.idSHA256 = _ from h]
    exact ⟨_, rfl⟩

end JOSEDocumentSVTIssuer

end SigVal.Jose
