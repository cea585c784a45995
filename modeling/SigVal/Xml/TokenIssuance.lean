import SigVal.Jose.TokenIssuance
import SigVal.Xml.LostTokens

/-!
# Tokens for the signatures of an XML document

`issueSvt` collects the tokens first and then extends the document. The first part changes
no content. The second part works on the document of the caller, and what it comes to
depends on the signatures: with `REPLACE` it gives each of them its token exactly when they
are separate.
-/

namespace SigVal.Xml.XMLDocumentSVTIssuer

open SigVal.Java SigVal.LinkedDom SigVal.Commons SigVal.Svt Heap
open DefaultXMLSignatureContext
open Jose (SVTExtendpolicy RecordsPolicies SomePassed AllPassed)
open Svt.XMLSVTValidator (xmldsigNS xmlSvtNS)

variable {Cert : Type} [DecidableEq Cert]

/-! ## Collecting the tokens -/

/-- The first part of `issueSvt`. -/
def collectTokens (env : XmlExtensionEnv Cert) (issuer : XMLSVTSigValClaimsIssuer Cert)
    (svtMethod : SVTExtendpolicy) (issueSvtOnFailedValidation : Bool) :
    Mutating Heap (List SVTExtensionData) := do
  let document ← get
  let signatureContext ← Mutating.call (DefaultXMLSignatureContext.new env.lib document)
  let svtExtensionDataList ← (getSignatures document).mapM
    (extensionData env issuer signatureContext svtMethod issueSvtOnFailedValidation)
  pure (svtExtensionDataList.filterMap id)

/-- The gate behind the token of a signature. -/
def gated (svtMethod : SVTExtendpolicy) (issueSvtOnFailedValidation : Bool) (signature : Key)
    (signedSvtJWT : Option SignedJWT) : Outcome (Option SVTExtensionData) := do
  let shouldBeIssued ← SVTUtils.checkIfSVTShouldBeIssued signedSvtJWT issueSvtOnFailedValidation
  if shouldBeIssued then
    pure (signedSvtJWT.map fun signedSvtJWT => ⟨signature, signedSvtJWT, svtMethod⟩)
  else throw ⟨.io, "SVT request for document with invalid signatures"⟩

variable {env : XmlExtensionEnv Cert} {issuer : XMLSVTSigValClaimsIssuer Cert}
  {svtMethod : SVTExtendpolicy} {issueSvtOnFailedValidation : Bool}
  {context : DefaultXMLSignatureContext} {d seen after : Heap} {s : Key} {jwt : SignedJWT}
  {signatureData : RawSignatureData Cert}

theorem issueSvt_eq : issueSvt env issuer svtMethod issueSvtOnFailedValidation =
    collectTokens env issuer svtMethod issueSvtOnFailedValidation >>=
      extendDocumentSignature env := by
  unfold issueSvt collectTokens
  simp only [bind_assoc, pure_bind]

/-- The second part of a call that returned. -/
theorem extendSignatures_of_issueSvt {output : Bytes} {data : List SVTExtensionData}
    (hissue : (issueSvt env issuer svtMethod issueSvtOnFailedValidation).run d =
      (.ok output, after))
    (hdata : (collectTokens env issuer svtMethod issueSvtOnFailedValidation).run d =
      (.ok data, seen)) : (extendSignatures env data).run seen = (.ok (), after) := by
  rw [issueSvt_eq] at hissue
  obtain ⟨data', seen', hdata', hextend⟩ := Mutating.run_bind_ok_iff.mp hissue
  rw [hdata] at hdata'
  cases hdata'
  unfold extendDocumentSignature at hextend
  obtain ⟨⟨⟩, t, hrun, hextend⟩ := Mutating.run_bind_ok_iff.mp hextend
  obtain ⟨_, _, hget, hcall⟩ := Mutating.run_bind_ok_iff.mp hextend
  rw [Mutating.run_get] at hget
  cases hget
  rw [Mutating.run_call] at hcall
  rw [hrun, (Prod.mk.inj hcall).2]

theorem run_extensionData
    (hread : (getSignatureData env.jvm env.lib context s).run seen = (.ok signatureData, after)) :
    (extensionData env issuer context svtMethod issueSvtOnFailedValidation s).run seen =
      (gated svtMethod issueSvtOnFailedValidation s
        (signedSvtJWT env issuer after ⟨s, signatureData, svtMethod⟩), after) := by
  unfold extensionData gated
  rw [Mutating.run_bind, hread]
  dsimp only
  rw [Mutating.run_bind, Mutating.run_get]
  dsimp only
  rw [Mutating.run_bind, Mutating.run_call]
  cases SVTUtils.checkIfSVTShouldBeIssued
    (signedSvtJWT env issuer after ⟨s, signatureData, svtMethod⟩) issueSvtOnFailedValidation with
  | error ex => rfl
  | ok shouldBeIssued =>
      cases shouldBeIssued with
      | true => rfl
      | false => rfl

omit [DecidableEq Cert] in
/-- Past the gate there is a token. -/
theorem gated_ok {token : Option SignedJWT} {x : Option SVTExtensionData}
    (h : gated svtMethod issueSvtOnFailedValidation s token = .ok x) :
    ∃ jwt, token = some jwt ∧ x = some ⟨s, jwt, svtMethod⟩ ∧
      SVTUtils.checkIfSVTShouldBeIssued (some jwt) issueSvtOnFailedValidation = .ok true := by
  obtain ⟨shouldBeIssued, hgate, h⟩ := bind_ok_iff.mp h
  cases token with
  | none =>
      cases hgate
      cases h
  | some jwt =>
      cases shouldBeIssued with
      | false => cases h
      | true =>
          cases h
          exact ⟨jwt, rfl, rfl, hgate⟩

/-- The signature was validated with these policy results. -/
def ValidatedWith (issuer : XMLSVTSigValClaimsIssuer Cert) (document : Heap) (s : Key)
    (signatureData : RawSignatureData Cert) (policies : List PolicyValidationClaims) : Prop :=
  ∃ sigResult, issuer.signatureVerifier document s signatureData = .ok sigResult ∧
    sigResult.validationPolicyResultList = some policies

/-- The signature was read and validated in the document `d`, with these policy results,
and this is its token. -/
def TokenOf (env : XmlExtensionEnv Cert) (issuer : XMLSVTSigValClaimsIssuer Cert)
    (svtMethod : SVTExtendpolicy) (d : Heap) (s : Key) (jwt : SignedJWT)
    (policies : List PolicyValidationClaims) : Prop :=
  ∃ context seen after signatureData, DefaultXMLSignatureContext.new env.lib d = .ok context ∧
    SameContent d seen ∧
    (getSignatureData env.jvm env.lib context s).run seen = (.ok signatureData, after) ∧
    ValidatedWith issuer after s signatureData policies ∧
    signedSvtJWT env issuer after ⟨s, signatureData, svtMethod⟩ = some jwt ∧
    RecordsPolicies jwt policies

/-- The loop keeps a token only when the issuer returned it. -/
theorem signedSvtJWT_eq_some_iff {document : Heap} {input : XMLSigValInput Cert} :
    signedSvtJWT env issuer document input = some jwt ↔
      XMLSVTSigValClaimsIssuer.getSignedSvtJWT env.toXmlIssuerEnv issuer document input =
        .ok (some jwt) := by
  unfold signedSvtJWT
  cases XMLSVTSigValClaimsIssuer.getSignedSvtJWT env.toXmlIssuerEnv issuer document input with
  | error ex => exact ⟨nofun, nofun⟩
  | ok token => exact ⟨congrArg Except.ok, Except.ok.inj⟩

/-- A token carries the claims about the signature it was issued for. -/
theorem claims_of_token (hissuer : issuer.svtIssuer.Lawful) {document : Heap}
    {input : XMLSigValInput Cert} (h : signedSvtJWT env issuer document input = some jwt) :
    ∃ claims, XMLSVTSigValClaimsIssuer.verify env.toXmlIssuerEnv issuer document input
        issuer.svtIssuer.hashAlgoUri = .ok (some [claims]) ∧
      Jose.CarriesClaims jwt issuer.svtIssuer.hashAlgoUri [claims] := by
  obtain ⟨claimsList, hverify, hcarries⟩ := hissuer _ _ (signedSvtJWT_eq_some_iff.mp h)
  obtain ⟨claims, -, rfl, -⟩ := XMLSVTSigValClaimsIssuer.verify_some hverify
  exact ⟨claims, hverify, hcarries⟩

theorem token_records (hissuer : issuer.svtIssuer.Lawful) {document : Heap}
    (h : signedSvtJWT env issuer document ⟨s, signatureData, svtMethod⟩ = some jwt) :
    ∃ policies, ValidatedWith issuer document s signatureData policies ∧ SomePassed policies ∧
      RecordsPolicies jwt policies := by
  obtain ⟨claims, hverify, hcarries⟩ := claims_of_token hissuer h
  obtain ⟨_, sigResult, hlist, hresult, hissue, -, hsigVal, -⟩ :=
    XMLSVTSigValClaimsIssuer.verify_some hverify
  cases hlist
  obtain ⟨hpolicies, hpassed⟩ := Jose.sigVal_of_issued hissue hsigVal
  exact ⟨claims.sigVal, ⟨sigResult, hresult, hpolicies⟩, hpassed,
    Jose.recordsPolicies_of_carries hcarries⟩

/-- The data for the extension of a signature of `d`, once the gate let it through. -/
def PastGate (env : XmlExtensionEnv Cert) (issuer : XMLSVTSigValClaimsIssuer Cert)
    (svtMethod : SVTExtendpolicy) (issueSvtOnFailedValidation : Bool) (d : Heap)
    (x : SVTExtensionData) : Prop :=
  x.svtMethod = svtMethod ∧ ∃ policies,
    TokenOf env issuer svtMethod d x.element x.signedJWT policies ∧
    SomePassed policies ∧
    (issueSvtOnFailedValidation = false → ∀ p ∈ policies, p.res = .PASSED)

/-- One signature. -/
theorem wp_extensionData (hissuer : issuer.svtIssuer.Lawful)
    (hcontext : DefaultXMLSignatureContext.new env.lib d = .ok context)
    (hseen : SameContent d seen) :
    Mutating.wp (extensionData env issuer context svtMethod issueSvtOnFailedValidation s)
      (fun o after => (∃ x, o = some x ∧ x.element = s ∧
        PastGate env issuer svtMethod issueSvtOnFailedValidation d x) ∧ SameContent d after)
      (fun _ after => SameContent d after) seen := by
  rcases hread : (getSignatureData env.jvm env.lib context s).run seen with
    ⟨ex | signatureData, after⟩
  · have hsame : SameContent seen after :=
      Mutating.of_run_error (wp_getSignatureData seen s) hread
    unfold extensionData
    rw [Mutating.wp_bind]
    unfold Mutating.wp
    rw [hread]
    exact hseen.trans hsame
  · have hreads : Reads env.lib seen s signatureData after :=
      Mutating.of_run_ok (wp_getSignatureData seen s) hread
    have hafter : SameContent d after := hseen.trans hreads.sameContent
    unfold Mutating.wp
    rw [run_extensionData hread]
    cases hgated : gated svtMethod issueSvtOnFailedValidation s
        (signedSvtJWT env issuer after ⟨s, signatureData, svtMethod⟩) with
    | error ex => exact hafter
    | ok x =>
        obtain ⟨jwt, htoken, rfl, hgate⟩ := gated_ok hgated
        obtain ⟨policies, hvalidated, hpassed, hrecords⟩ := token_records hissuer htoken
        refine ⟨⟨_, rfl, rfl, rfl, policies, ?_, hpassed, ?_⟩, hafter⟩
        · exact ⟨context, seen, after, signatureData, hcontext, hseen, hread, hvalidated, htoken,
            hrecords⟩
        · rintro rfl
          exact Jose.passed_of_gate hrecords hgate

/-- **The first part.** No content changes, and past it each signature has its token. -/
theorem wp_collectTokens (hissuer : issuer.svtIssuer.Lawful) :
    Mutating.wp (collectTokens env issuer svtMethod issueSvtOnFailedValidation)
      (fun data after => data.map SVTExtensionData.element = getSignatures d ∧
        (∀ x ∈ data, PastGate env issuer svtMethod issueSvtOnFailedValidation d x) ∧
        SameContent d after)
      (fun _ after => SameContent d after) d := by
  unfold collectTokens
  rw [Mutating.wp_bind, Mutating.wp_get, Mutating.wp_bind, Mutating.wp_call]
  refine ⟨?_, fun _ _ => .refl _⟩
  intro context hcontext
  rw [Mutating.wp_bind]
  refine Mutating.wp_mono (Mutating.wp_mapM (fun s _ seen hseen =>
    wp_extensionData hissuer hcontext hseen) (SameContent.refl d)) ?_ (fun _ _ h => h)
  rintro os after ⟨hall, hafter⟩
  refine ⟨?_, ?_, hafter⟩
  · generalize getSignatures d = signatures at hall
    induction hall with
    | nil => rfl
    | cons hhead _ ih =>
        obtain ⟨x, rfl, rfl, -⟩ := hhead
        exact congrArg (x.element :: ·) ih
  · intro x hx
    obtain ⟨o, ho, rfl⟩ := List.mem_filterMap.mp hx
    obtain ⟨s, -, x', heq, -, hpast⟩ := forall₂_left hall.flip _ ho
    cases heq
    exact hpast

/-! ## Extending the document -/

section Extending

omit [DecidableEq Cert]

variable {h : Heap} (wf : WellFormed h)
  (hbytes : ∀ h, WellFormed h → ∃ bytes, env.lib.getCanonicalDocBytes h = .ok bytes)
  {data : List SVTExtensionData} (helements : data.map SVTExtensionData.element = getSignatures h)
  (hmethod : ∀ x ∈ data, x.svtMethod = svtMethod)
include wf hbytes helements hmethod

/-- **The second part, over separate signatures.** Nothing is thrown, and the tokens
arrive. -/
theorem wp_extendDocumentSignature
    (hcondition : svtMethod = .EXTEND ∨
      ∀ s ∈ getSignatures h, Separate env.jvm h (getSignatures h) s) :
    Mutating.wp (extendDocumentSignature env data)
      (fun _ h' => ∃ extensions, Receives h h' (getSignatures h) extensions ∧
        List.Forall₂ (ExtendedWith env) data extensions) (fun _ _ => False) h := by
  have hstart : RunInv env.jvm svtMethod h h (getSignatures h) []
      (data.map SVTExtensionData.element) := by
    rw [helements]
    exact runInv_start wf
  unfold extendDocumentSignature
  rw [Mutating.wp_bind]
  refine Mutating.wp_mono (wp_extendSignatures env (signaturesOf_getSignatures wf) hmethod hstart
    ?_) ?_ (fun _ _ h => h)
  · rintro rfl x hx
    rcases hcondition with hextend | hseparate
    · cases hextend
    · apply hseparate x.element
      rw [← helements]
      exact List.mem_map_of_mem hx
  · rintro - h' ⟨extensions, hinv, hall⟩
    rw [Mutating.wp_bind, Mutating.wp_get, Mutating.wp_call_total]
    obtain ⟨bytes, hbytes⟩ := hbytes h' hinv.wf
    refine ⟨bytes, hbytes, extensions, ⟨?_, hinv.carries, ?_, hinv.distinct⟩, hall⟩
    · have hsplit := hinv.split
      rw [List.nil_append, List.append_nil] at hsplit
      exact hsplit.symm
    · intro e he
      exact (hinv.new e he).1

/-- **The second part, over others.** Whether the document may not change when something
is thrown, or nothing may be thrown at all, the tokens do not arrive. -/
theorem separate_of_wp_extendDocumentSignature {E : Exn → Heap → Prop}
    (hE : ∀ ex h', E ex h' → SameContent h h')
    (hwp : Mutating.wp (extendDocumentSignature env data)
      (fun _ h' => ∃ extensions, Receives h h' (getSignatures h) extensions) E h) :
    svtMethod = .EXTEND ∨ ∀ s ∈ getSignatures h, Separate env.jvm h (getSignatures h) s := by
  by_contra hnot
  push Not at hnot
  obtain ⟨hextend, s, hs, hnot⟩ := hnot
  obtain rfl : svtMethod = .REPLACE := by
    cases svtMethod with
    | REPLACE => rfl
    | EXTEND => exact absurd rfl hextend
  have hsigs : SignaturesOf h (getSignatures h) := signaturesOf_getSignatures wf
  have hstart : RunInv env.jvm .REPLACE h h (getSignatures h) []
      (data.map SVTExtensionData.element) := by
    rw [helements]
    exact runInv_start wf
  have hfails : ∃ x ∈ data, ¬ Separate env.jvm h (getSignatures h) x.element := by
    rw [← helements] at hs
    obtain ⟨x, hx, rfl⟩ := List.mem_map.mp hs
    exact ⟨x, hx, hnot⟩
  have hcovers : Covers h h (([] : List Extension).map Extension.property) := by
    intro n hn hnew
    exact absurd (wf.fresh n hn) (Nat.not_lt.mpr hnew)
  have hharm := wp_extendSignatures_not_separate env hsigs hmethod (later_start hsigs) hstart
    hcovers (.inl rfl) hfails
  unfold extendDocumentSignature at hwp
  rw [Mutating.wp_bind] at hwp
  rcases hrun : (extendSignatures env data).run h with ⟨ex | u, h'⟩
  · rw [Mutating.wp_iff_of_run_error hrun] at hwp hharm
    exact hharm (hE ex h' hwp)
  · rw [Mutating.wp_iff_of_run_ok hrun] at hwp hharm
    obtain ⟨bytes, hbytes⟩ := hbytes h' hharm.wf
    rw [Mutating.wp_bind, Mutating.wp_get, Mutating.wp_call] at hwp
    obtain ⟨extensions, hreceives⟩ := hwp.1 bytes hbytes
    exact hharm.notReceived extensions hreceives

end Extending

/-! ## All or nothing -/

section AllOrNothing

/-- Without the flag the document keeps its content, or all its signatures passed and have
received their tokens, in document order. -/
def AllOrNothing (env : XmlExtensionEnv Cert) (issuer : XMLSVTSigValClaimsIssuer Cert)
    (svtMethod : SVTExtendpolicy) (d : Heap) : Prop :=
  Mutating.wp (issueSvt env issuer svtMethod false)
    (fun _ after => ∃ extensions, Receives d after (getSignatures d) extensions ∧
      ∀ e ∈ extensions, ∃ jwt policies, e.token = env.serialize jwt ∧
        TokenOf env issuer svtMethod d e.element jwt policies ∧ AllPassed policies)
    (fun _ after => SameContent d after) d

/-- A signature cannot be read, has no token or has one that the gate stops. -/
def Refused (env : XmlExtensionEnv Cert) (issuer : XMLSVTSigValClaimsIssuer Cert)
    (svtMethod : SVTExtendpolicy) (issueSvtOnFailedValidation : Bool) (d : Heap) : Prop :=
  ∃ ex after, (collectTokens env issuer svtMethod issueSvtOnFailedValidation).run d =
    (.error ex, after)

section SameContent

omit [DecidableEq Cert]

variable {jvm : Jvm} {h : Heap} (wf : WellFormed d) (hsame : SameContent d h)
include wf hsame

/-- Reading the signatures does not touch what the extension is about. -/
theorem sameContent_start : WellFormed h ∧ getSignatures h = getSignatures d ∧
    ∀ h' extensions, Receives h h' (getSignatures h) extensions ↔
      Receives d h' (getSignatures d) extensions := by
  obtain ⟨nodes, idAttributes, nextKey⟩ := h
  obtain ⟨rfl, rfl⟩ := hsame
  refine ⟨⟨wf.keys_nodup, wf.fresh, wf.coherent, wf.ordered, wf.root⟩, rfl, ?_⟩
  intro h' extensions
  exact ⟨fun h => ⟨h.elements, h.carries, h.new, h.distinct⟩,
    fun h => ⟨h.elements, h.carries, h.new, h.distinct⟩⟩

theorem separate_iff_of_sameContent :
    (svtMethod = .EXTEND ∨ ∀ s ∈ getSignatures h, Separate jvm h (getSignatures h) s) ↔
      svtMethod = .EXTEND ∨ ∀ s ∈ getSignatures d, Separate jvm d (getSignatures d) s := by
  obtain ⟨wf', hsignatures, -⟩ := sameContent_start wf hsame
  rw [hsignatures]
  refine or_congr_right (forall₂_congr fun s _ => ?_)
  obtain ⟨nodes, idAttributes, nextKey⟩ := h
  obtain ⟨rfl, rfl⟩ := hsame
  exact separate_iff_of_sameBelow wf wf' rfl fun _ _ => rfl

end SameContent

/-- What becomes of the tokens that were collected. -/
theorem extension_iff
    (hbytes : ∀ h, WellFormed h → ∃ bytes, env.lib.getCanonicalDocBytes h = .ok bytes)
    (wf : WellFormed d) {h : Heap} {data : List SVTExtensionData}
    (helements : data.map SVTExtensionData.element = getSignatures d)
    (hpast : ∀ x ∈ data, PastGate env issuer svtMethod issueSvtOnFailedValidation d x)
    (hsame : SameContent d h) {P : Extension → Prop}
    (hP : ∀ x ∈ data, ∀ e, ExtendedWith env x e → P e) {E : Exn → Heap → Prop}
    (hE : ∀ ex h', E ex h' → SameContent d h') :
    Mutating.wp (extendDocumentSignature env data)
        (fun _ h' => ∃ extensions, Receives d h' (getSignatures d) extensions ∧
          ∀ e ∈ extensions, P e) E h ↔
      svtMethod = .EXTEND ∨ ∀ s ∈ getSignatures d, Separate env.jvm d (getSignatures d) s := by
  have hmethod : ∀ x ∈ data, x.svtMethod = svtMethod := fun x hx => (hpast x hx).1
  rw [← separate_iff_of_sameContent wf hsame]
  obtain ⟨wf', hsignatures, hreceives⟩ := sameContent_start wf hsame
  rw [← hsignatures] at helements
  constructor
  · intro hwp
    refine separate_of_wp_extendDocumentSignature wf' hbytes helements hmethod
      (E := fun _ h' => SameContent h h') (fun _ _ h => h) (Mutating.wp_mono hwp ?_ ?_)
    · rintro - h' ⟨extensions, hextensions, -⟩
      exact ⟨extensions, (hreceives h' extensions).mpr hextensions⟩
    · intro ex h' hex
      exact hsame.symm.trans (hE ex h' hex)
  · intro hcondition
    refine Mutating.wp_mono (wp_extendDocumentSignature wf' hbytes helements hmethod hcondition)
      ?_ (fun _ _ h => h.elim)
    rintro - h' ⟨extensions, hextensions, hall⟩
    refine ⟨extensions, (hreceives h' extensions).mp hextensions, ?_⟩
    intro e he
    obtain ⟨x, hx, hwith⟩ := forall₂_left hall.flip e he
    exact hP x hx e hwith

theorem issueSvt_allOrNothing_iff (hissuer : issuer.svtIssuer.Lawful)
    (hbytes : ∀ h, WellFormed h → ∃ bytes, env.lib.getCanonicalDocBytes h = .ok bytes)
    (wf : WellFormed d) :
    AllOrNothing env issuer svtMethod d ↔ Refused env issuer svtMethod false d ∨
      svtMethod = .EXTEND ∨ ∀ s ∈ getSignatures d, Separate env.jvm d (getSignatures d) s := by
  have hfirst : Mutating.wp (collectTokens env issuer svtMethod false) _ _ d :=
    wp_collectTokens hissuer
  unfold AllOrNothing
  rw [issueSvt_eq, Mutating.wp_bind]
  rcases hrun : (collectTokens env issuer svtMethod false).run d with ⟨ex | data, h⟩
  · rw [Mutating.wp_iff_of_run_error hrun]
    exact iff_of_true (Mutating.of_run_error hfirst hrun) (.inl ⟨ex, h, hrun⟩)
  · rw [Mutating.wp_iff_of_run_ok hrun]
    obtain ⟨helements, hpast, hsame⟩ := Mutating.of_run_ok hfirst hrun
    have hrefused : ¬ Refused env issuer svtMethod false d := by
      rintro ⟨ex, after, herror⟩
      rw [hrun] at herror
      cases herror
    rw [or_iff_right hrefused]
    refine extension_iff hbytes wf helements hpast hsame ?_ fun _ _ h => h
    rintro x hx e ⟨helement, htoken⟩
    obtain ⟨-, policies, hof, ⟨p, hp, -⟩, hpassed⟩ := hpast x hx
    rw [← helement] at hof
    exact ⟨x.signedJWT, policies, htoken, hof, List.ne_nil_of_mem hp, hpassed rfl⟩

/-- **All or nothing.** A JOSE document is extended for all its signatures or not at all.
For an XML document this holds exactly when a signature is refused, nothing is replaced or
the signatures are separate. -/
theorem all_or_nothing_iff {S : Type} {joseEnv : Jose.JoseIssuerEnv Cert S}
    {joseIssuer : Jose.JOSESVTSigValClaimsIssuer Cert S} (hjose : joseIssuer.svtIssuer.Lawful)
    (hissuer : issuer.svtIssuer.Lawful)
    (hbytes : ∀ h, WellFormed h → ∃ bytes, env.lib.getCanonicalDocBytes h = .ok bytes) :
    (∀ document svtMethod detachedPayload, Jose.JOSEDocumentSVTIssuer.AllOrNothing joseEnv
      joseIssuer document svtMethod detachedPayload) ∧
    ∀ (document : Document) svtMethod, AllOrNothing env issuer svtMethod document.toHeap ↔
      Refused env issuer svtMethod false document.toHeap ∨ svtMethod = .EXTEND ∨
        ∀ s ∈ getSignatures document.toHeap,
          Separate env.jvm document.toHeap (getSignatures document.toHeap) s := by
  refine ⟨Jose.JOSEDocumentSVTIssuer.issueSvt_allOrNothing hjose, ?_⟩
  intro document svtMethod
  exact issueSvt_allOrNothing_iff hissuer hbytes document.wellFormed

/-! Two signatures, side by side or one in the other. -/

/-- A library that reads signatures whose `SignedInfo` comes right behind them. -/
def demoLibrary : XMLSecurity Unit where
  newXMLSignature := fun _ s => .ok
    { signedInfo := s + 1
      getId := fun document => some ((document.contentOf s).getAttribute "Id")
      getReferencedContentAfterTransformsItem := fun _ i => .ok [UInt8.ofNat i]
      getSignatureValue := fun _ => .ok [9]
      getCanonicalizedOctetStream := fun _ => .ok [8]
      getKeyInfo := fun _ => .ok (some ⟨.ok (some ()), [.ok (some [.ok (some ())])]⟩) }
  getDocument := fun _ => .error ⟨.io, "not a document"⟩
  getCanonicalDocBytes := fun _ => .ok []

def demoEnv : XmlExtensionEnv Unit where
  jvm := plainJvm
  lib := demoLibrary
  claims := Jose.JOSEDocumentSVTIssuer.demoEnv.claims
  serialize := fun _ => "bmV3.e30.CQ"
  secureRandom := fun _ => "1"

/-- Validates each signature with these conclusions. -/
def demoIssuer (conclusions : Key → List ValidationConclusion) :
    XMLSVTSigValClaimsIssuer Unit where
  svtIssuer := Jose.JOSEDocumentSVTIssuer.demoIssuer.svtIssuer
  signatureVerifier := fun _ s signatureData => .ok
    { signerCertificate := signatureData.signerCertificate
      signatureCertificateChain := signatureData.signatureCertChain
      certificateValidationResult := some (.default [()])
      validationPolicyResultList := some ((conclusions s).map fun conclusion =>
        ⟨sigValidationPolicyPkixValidation, conclusion, none⟩) }

open XMLSVTSigValClaimsIssuer (dsElement)

/-- The signature `b` follows the signature `a`. -/
def sideBySide : Document where
  nodes :=
    [⟨0, [], .document⟩, ⟨1, [0], .element "" "doc" "" []⟩,
      dsElement 2 [1, 0] "Signature" [("Id", "a")], dsElement 3 [2, 1, 0] "SignedInfo" [],
      dsElement 4 [3, 2, 1, 0] "Reference" [("URI", "")],
      dsElement 5 [1, 0] "Signature" [("Id", "b")], dsElement 6 [5, 1, 0] "SignedInfo" [],
      dsElement 7 [6, 5, 1, 0] "Reference" [("URI", "")]]
  idAttributes := []
  nextKey := 8
  wellFormed := by decide

/-- The signature `b` is a countersignature in `a`. It has signature properties, and `a`
has none. -/
def countersigned : Document where
  nodes :=
    [⟨0, [], .document⟩, ⟨1, [0], .element "" "doc" "" []⟩,
      dsElement 2 [1, 0] "Signature" [("Id", "a")], dsElement 3 [2, 1, 0] "SignedInfo" [],
      dsElement 4 [3, 2, 1, 0] "Reference" [("URI", "")], dsElement 5 [2, 1, 0] "Object" [],
      dsElement 6 [5, 2, 1, 0] "Signature" [("Id", "b")],
      dsElement 7 [6, 5, 2, 1, 0] "SignedInfo" [],
      dsElement 8 [7, 6, 5, 2, 1, 0] "Reference" [("URI", "#a")],
      dsElement 9 [6, 5, 2, 1, 0] "Object" [],
      dsElement 10 [9, 6, 5, 2, 1, 0] "SignatureProperties" [],
      dsElement 11 [10, 9, 6, 5, 2, 1, 0] "SignatureProperty" [("Target", "#b")]]
  idAttributes := []
  nextKey := 12
  wellFormed := by decide

omit [DecidableEq Cert] in
/-- Without tokens in the document there is nothing to prune. -/
theorem not_pruned_of_no_token {jvm : Jvm} {k : Key}
    (hnone : ∀ n ∈ d.nodes, n.content.hasName xmlSvtNS "SignatureValidationToken" = false) :
    ¬ Pruned jvm d k := by
  intro hpruned
  induction hpruned with
  | property hproperty =>
      obtain ⟨x, hx⟩ := List.exists_mem_of_ne_nil _ hproperty.2
      obtain ⟨n, hn, -, hname, -⟩ := mem_getElementsByTagNameNS.mp hx
      rw [hnone n hn] at hname
      cases hname
  | emptied _ hne _ ih =>
      obtain ⟨c, hc⟩ := List.exists_mem_of_ne_nil _ hne
      exact ih c hc

theorem sideBySide_separate :
    ∀ s ∈ getSignatures sideBySide.toHeap,
      Separate plainJvm sideBySide.toHeap (getSignatures sideBySide.toHeap) s := by
  have hnone : ∀ s, signatureProperties sideBySide.toHeap s = [] := by
    intro s
    apply List.eq_nil_iff_forall_not_mem.mpr
    intro q hq
    obtain ⟨n, hn, -, hname, -⟩ := mem_getElementsByTagNameNS.mp hq
    revert n
    decide
  have htokens : ∀ s p, p ∉ getSvtSignaturePropertyElements sideBySide.toHeap s := by
    intro s p hp
    have hpruned : Pruned plainJvm sideBySide.toHeap p :=
      .property ((mem_svtProperties sideBySide.wellFormed).mp hp).2
    exact not_pruned_of_no_token (by decide) hpruned
  intro s _
  refine ⟨fun p hp => htokens s p hp.1, fun p hp => absurd hp (htokens s p), ?_⟩
  rintro t ⟨l₁, l₂, hsplit, -⟩
  rw [hnone s] at hsplit
  simp at hsplit

theorem sideBySide_not_refused :
    ¬ Refused demoEnv (demoIssuer fun _ => [.PASSED]) .REPLACE false sideBySide.toHeap := by
  rintro ⟨ex, after, h⟩
  cases h

/-- Side by side both signatures get their tokens. -/
theorem all_or_nothing_side_by_side :
    ¬ Refused demoEnv (demoIssuer fun _ => [.PASSED]) .REPLACE false sideBySide.toHeap ∧
      AllOrNothing demoEnv (demoIssuer fun _ => [.PASSED]) .REPLACE sideBySide.toHeap := by
  have hall := @all_or_nothing_iff Unit _ demoEnv (demoIssuer fun _ => [.PASSED]) Unit
    Jose.JOSEDocumentSVTIssuer.demoEnv Jose.JOSEDocumentSVTIssuer.demoIssuer
    Jose.JOSEDocumentSVTIssuer.demoIssuer_lawful Jose.JOSEDocumentSVTIssuer.demoIssuer_lawful
    (fun _ _ => ⟨[], rfl⟩)
  exact ⟨sideBySide_not_refused, (hall.2 sideBySide .REPLACE).mpr (.inr (.inr sideBySide_separate))⟩

/-- The token of the signature `a` is put among the properties of its countersignature, and
removed again when the countersignature has its turn. -/
theorem countersigned_loses_token :
    Jose.JOSEDocumentSVTIssuer.demoIssuer.svtIssuer.Lawful ∧
      (∃ output after, (issueSvt demoEnv (demoIssuer fun _ => [.PASSED]) .REPLACE false).run
        countersigned.toHeap = (.ok output, after)) ∧
      ¬ AllOrNothing demoEnv (demoIssuer fun _ => [.PASSED]) .REPLACE countersigned.toHeap := by
  refine ⟨Jose.JOSEDocumentSVTIssuer.demoIssuer_lawful, ⟨_, _, rfl⟩, ?_⟩
  rw [issueSvt_allOrNothing_iff Jose.JOSEDocumentSVTIssuer.demoIssuer_lawful
    (fun _ _ => ⟨[], rfl⟩) countersigned.wellFormed]
  rintro (⟨ex, after, h⟩ | h | h)
  · cases h
  · cases h
  · refine (h 2 (by decide)).ownTarget 10 ⟨[], [], rfl, ?_, by simp⟩ 6 (by decide) (by decide)
      (by decide)
    intro b _ _
    exact not_pruned_of_no_token (by decide)

end AllOrNothing

/-! ## Tokens for signatures that failed -/

section Failed

/-- A result from which the claims of a token can be made. -/
structure Complete (env : XmlIssuerEnv Cert) (document : Heap)
    (signatureData : RawSignatureData Cert) (hashAlgoUri : String)
    (sigResult : XmlResult Cert) : Prop where
  sigRef : ∃ sigRef,
    XMLSVTSigValClaimsIssuer.getSigRefData env document signatureData hashAlgoUri = .ok sigRef
  sigVal : ∃ policies, sigResult.validationPolicyResultList = some policies
  sigDataRef : ∃ refs,
    XMLSVTSigValClaimsIssuer.getDocRefHashes env signatureData.refDataMap hashAlgoUri = .ok refs
  timeVal : ∃ times,
    AbstractSVTSigValClaimsIssuer.timeVal env.claims sigResult hashAlgoUri = .ok times
  signerCertRef : ∃ certRef,
    AbstractSVTSigValClaimsIssuer.getCertRef env.claims sigResult hashAlgoUri = .ok certRef

/-- The signatures are read one after the other, and this holds of each, its data and the
document after it was read. -/
def EachRead (env : XmlExtensionEnv Cert) (context : DefaultXMLSignatureContext)
    (P : Key → RawSignatureData Cert → Heap → Prop) : Heap → List Key → Prop
  | _, [] => True
  | seen, s :: rest => ∃ signatureData after,
      (getSignatureData env.jvm env.lib context s).run seen = (.ok signatureData, after) ∧
        P s signatureData after ∧ EachRead env context P after rest

/-- The signature yields a complete result. -/
def YieldsComplete (env : XmlExtensionEnv Cert) (issuer : XMLSVTSigValClaimsIssuer Cert) (s : Key)
    (signatureData : RawSignatureData Cert) (document : Heap) : Prop :=
  ∃ sigResult, issuer.signatureVerifier document s signatureData = .ok sigResult ∧
    Complete env.toXmlIssuerEnv document signatureData issuer.svtIssuer.hashAlgoUri sigResult

/-- Some policy passed for the signature. -/
def PassedOne (issuer : XMLSVTSigValClaimsIssuer Cert) (s : Key)
    (signatureData : RawSignatureData Cert) (document : Heap) : Prop :=
  ∃ policies, ValidatedWith issuer document s signatureData policies ∧ SomePassed policies

/-- A complete result makes it through the open gate exactly when some policy passed. -/
theorem gated_ok_iff (hissuer : issuer.svtIssuer.Total) {document : Heap}
    (hcomplete : YieldsComplete env issuer s signatureData document) :
    (∃ x, gated svtMethod true s
        (signedSvtJWT env issuer document ⟨s, signatureData, svtMethod⟩) = .ok x) ↔
      PassedOne issuer s signatureData document := by
  constructor
  · rintro ⟨x, hx⟩
    obtain ⟨jwt, htoken, -⟩ := gated_ok hx
    obtain ⟨policies, hvalidated, hpassed, -⟩ := token_records hissuer.lawful htoken
    exact ⟨policies, hvalidated, hpassed⟩
  · rintro ⟨policies, ⟨sigResult, hresult, hpolicies⟩, hpassed⟩
    obtain ⟨sigResult', hresult', hcomplete⟩ := hcomplete
    rw [hresult] at hresult'
    cases hresult'
    have hissue : XMLSVTSigValClaimsIssuer.isIssueSVT sigResult = true :=
      Jose.isIssueSVT_iff.mpr ⟨policies, hpolicies, hpassed⟩
    obtain ⟨sigRef, hsigRef⟩ := hcomplete.sigRef
    obtain ⟨sigVal, hsigVal⟩ : ∃ sigVal,
        AbstractSVTSigValClaimsIssuer.getSignaturePolicyValidations issuer.defaultBasicValidation
          sigResult = .ok sigVal :=
      AbstractSVTSigValClaimsIssuer.getSignaturePolicyValidations_ok_iff.mpr hcomplete.sigVal
    obtain ⟨sigDataRef, hsigDataRef⟩ := hcomplete.sigDataRef
    obtain ⟨timeVal, htimeVal⟩ := hcomplete.timeVal
    obtain ⟨certRef, hcertRef⟩ := hcomplete.signerCertRef
    have hverify : XMLSVTSigValClaimsIssuer.verify env.toXmlIssuerEnv issuer document
        ⟨s, signatureData, svtMethod⟩ issuer.svtIssuer.hashAlgoUri =
          .ok (some [⟨sigRef, sigVal, sigDataRef, timeVal, certRef⟩]) := by
      unfold XMLSVTSigValClaimsIssuer.verify
      simp only [hresult, hissue, hsigRef, hsigVal, hsigDataRef, htimeVal, hcertRef, bind,
        Except.bind, if_true]
      rfl
    obtain ⟨jwt, hjwt⟩ := hissuer.token _ _ hverify
    have htoken : signedSvtJWT env issuer document ⟨s, signatureData, svtMethod⟩ = some jwt :=
      signedSvtJWT_eq_some_iff.mpr hjwt
    obtain ⟨_, _, _, hrecords⟩ := token_records hissuer.lawful htoken
    refine ⟨some ⟨s, jwt, svtMethod⟩, ?_⟩
    unfold gated
    simp only [htoken, Jose.gate_open hrecords, bind, Except.bind]
    rfl

/-- The loop ends normally exactly when some policy passed for each signature. -/
theorem mapM_extensionData_iff (hissuer : issuer.svtIssuer.Total) {signatures : List Key}
    (hcomplete : EachRead env context (YieldsComplete env issuer) seen signatures) :
    (∃ os after, (signatures.mapM (extensionData env issuer context svtMethod true)).run seen =
        (.ok os, after)) ↔ EachRead env context (PassedOne issuer) seen signatures := by
  induction signatures generalizing seen with
  | nil => exact iff_of_true ⟨[], seen, rfl⟩ trivial
  | cons s rest ih =>
      obtain ⟨signatureData, after, hread, hyields, hrest⟩ := hcomplete
      rw [List.mapM_cons, Mutating.exists_run_bind_ok_iff, run_extensionData hread]
      constructor
      · rintro ⟨x, t, hrun, os, hos⟩
        obtain ⟨hx, rfl⟩ := Prod.mk.inj hrun
        obtain ⟨xs, u, hxs, -⟩ := (Mutating.exists_run_bind_ok_iff _ _ _).mp ⟨os, hos⟩
        exact ⟨signatureData, after, hread, (gated_ok_iff hissuer hyields).mp ⟨x, hx⟩,
          (ih hrest).mp ⟨xs, u, hxs⟩⟩
      · rintro ⟨signatureData', after', hread', hpassed, hall⟩
        rw [hread] at hread'
        cases hread'
        obtain ⟨x, hx⟩ := (gated_ok_iff hissuer hyields).mpr hpassed
        obtain ⟨xs, u, hxs⟩ := (ih hrest).mpr hall
        refine ⟨x, after, by rw [hx], ?_⟩
        rw [Mutating.exists_run_bind_ok_iff]
        exact ⟨xs, u, hxs, _, _, rfl⟩

theorem collectTokens_ok_iff (hissuer : issuer.svtIssuer.Total)
    (hcontext : DefaultXMLSignatureContext.new env.lib d = .ok context)
    (hcomplete : EachRead env context (YieldsComplete env issuer) d (getSignatures d)) :
    (∃ data after, (collectTokens env issuer svtMethod true).run d = (.ok data, after)) ↔
      EachRead env context (PassedOne issuer) d (getSignatures d) := by
  have hloop : (∃ os after, ((getSignatures d).mapM
      (extensionData env issuer context svtMethod true)).run d = (.ok os, after)) ↔ _ :=
    mapM_extensionData_iff hissuer hcomplete
  rw [← hloop]
  unfold collectTokens
  simp only [Mutating.exists_run_bind_ok_iff, Mutating.run_get, Mutating.run_call]
  constructor
  · rintro ⟨_, _, ⟨⟩, _, _, hnew, os, u, hos, -⟩
    rw [hcontext] at hnew
    cases hnew
    exact ⟨os, u, hos⟩
  · rintro ⟨os, u, hos⟩
    exact ⟨d, d, rfl, context, d, by rw [hcontext], os, u, hos, _, _, rfl⟩

/-- With the flag the document is extended, and each token records the policy results of
its signature. -/
def ExtendsAnyway (env : XmlExtensionEnv Cert) (issuer : XMLSVTSigValClaimsIssuer Cert)
    (svtMethod : SVTExtendpolicy) (d : Heap) : Prop :=
  Mutating.wp (issueSvt env issuer svtMethod true)
    (fun _ after => ∃ extensions, Receives d after (getSignatures d) extensions ∧
      ∀ e ∈ extensions, ∃ jwt policies, e.token = env.serialize jwt ∧
        TokenOf env issuer svtMethod d e.element jwt policies)
    (fun _ _ => False) d

/-- **Which documents are extended.** -/
theorem issueSvt_extends_iff (hissuer : issuer.svtIssuer.Total)
    (hbytes : ∀ h, WellFormed h → ∃ bytes, env.lib.getCanonicalDocBytes h = .ok bytes)
    (wf : WellFormed d) (hcontext : DefaultXMLSignatureContext.new env.lib d = .ok context)
    (hcomplete : EachRead env context (YieldsComplete env issuer) d (getSignatures d)) :
    ExtendsAnyway env issuer svtMethod d ↔
      EachRead env context (PassedOne issuer) d (getSignatures d) ∧
        (svtMethod = .EXTEND ∨
          ∀ s ∈ getSignatures d, Separate env.jvm d (getSignatures d) s) := by
  have hfirst : Mutating.wp (collectTokens env issuer svtMethod true) _ _ d :=
    wp_collectTokens hissuer.lawful
  rw [← collectTokens_ok_iff hissuer hcontext hcomplete]
  unfold ExtendsAnyway
  rw [issueSvt_eq, Mutating.wp_bind]
  rcases hrun : (collectTokens env issuer svtMethod true).run d with ⟨ex | data, h⟩
  · rw [Mutating.wp_iff_of_run_error hrun]
    apply iff_of_false id
    rintro ⟨⟨data, after, hok⟩, -⟩
    cases hok
  · rw [Mutating.wp_iff_of_run_ok hrun]
    rw [and_iff_right ⟨data, h, rfl⟩]
    obtain ⟨helements, hpast, hsame⟩ := Mutating.of_run_ok hfirst hrun
    refine extension_iff hbytes wf helements hpast hsame ?_ fun _ _ h => h.elim
    rintro x hx e ⟨helement, htoken⟩
    obtain ⟨-, policies, hof, -⟩ := hpast x hx
    rw [← helement] at hof
    exact ⟨x.signedJWT, policies, htoken, hof⟩

/-- **The flag.** Let every signature yield a complete result. With the flag a JOSE
document is extended, with the policy results in the tokens, exactly when some policy passed
for each signature and the tokens that are there can be read; an XML document exactly when
some policy passed for each signature, and nothing is replaced or the signatures are
separate. -/
theorem failed_validation_honoured_iff {S : Type} {joseEnv : Jose.JoseIssuerEnv Cert S}
    {joseIssuer : Jose.JOSESVTSigValClaimsIssuer Cert S} (hjose : joseIssuer.svtIssuer.Total)
    (hissuer : issuer.svtIssuer.Total)
    (hbytes : ∀ h, WellFormed h → ∃ bytes, env.lib.getCanonicalDocBytes h = .ok bytes) :
    (∀ document svtMethod detachedPayload before,
      Jose.JOSESignedDocumentValidator.getJOSEDocumentSignatureData joseEnv.toDocumentEnv document
        detachedPayload = .ok before →
      (∀ signatureData ∈ before,
        Jose.JOSEDocumentSVTIssuer.YieldsComplete joseEnv joseIssuer signatureData) →
      (Jose.JOSEDocumentSVTIssuer.ExtendsAnyway joseEnv joseIssuer document svtMethod
          detachedPayload before ↔
        ∀ signatureData ∈ before,
          (∃ policies, Jose.JOSEDocumentSVTIssuer.ValidatedWith joseIssuer signatureData policies ∧
            SomePassed policies) ∧
          Jose.JOSEDocumentSVTIssuer.TokensReadable joseEnv.lib signatureData)) ∧
    ∀ (document : Document) svtMethod context,
      DefaultXMLSignatureContext.new env.lib document.toHeap = .ok context →
      EachRead env context (YieldsComplete env issuer) document.toHeap
        (getSignatures document.toHeap) →
      (ExtendsAnyway env issuer svtMethod document.toHeap ↔
        EachRead env context (PassedOne issuer) document.toHeap (getSignatures document.toHeap) ∧
          (svtMethod = .EXTEND ∨ ∀ s ∈ getSignatures document.toHeap,
            Separate env.jvm document.toHeap (getSignatures document.toHeap) s)) := by
  constructor
  · intro document svtMethod detachedPayload before hparse hcomplete
    exact Jose.JOSEDocumentSVTIssuer.issueSvt_extends_iff hjose hparse hcomplete
  · intro document svtMethod context hcontext hcomplete
    exact issueSvt_extends_iff hissuer hbytes document.wellFormed hcontext hcomplete

/-- One policy failed for the first signature, and another passed. -/
def mixedConclusions (s : Key) : List ValidationConclusion :=
  if s = 2 then [.FAILED, .PASSED] else [.PASSED]

/-- Both signatures get their tokens. -/
theorem failed_validation_honoured_mixed :
    ExtendsAnyway demoEnv (demoIssuer mixedConclusions) .REPLACE sideBySide.toHeap := by
  have hall := @failed_validation_honoured_iff Unit _ demoEnv (demoIssuer mixedConclusions) Unit
    Jose.JOSEDocumentSVTIssuer.demoEnv Jose.JOSEDocumentSVTIssuer.demoIssuer
    Jose.JOSEDocumentSVTIssuer.demoIssuer_total Jose.JOSEDocumentSVTIssuer.demoIssuer_total
    (fun _ _ => ⟨[], rfl⟩)
  refine (hall.2 sideBySide .REPLACE _ rfl ?_).mpr ⟨?_, .inr sideBySide_separate⟩
  · refine ⟨_, _, rfl, ⟨_, rfl, ?_⟩, _, _, rfl, ⟨_, rfl, ?_⟩, trivial⟩
    · exact ⟨⟨_, rfl⟩, ⟨_, rfl⟩, ⟨_, rfl⟩, ⟨_, rfl⟩, ⟨_, rfl⟩⟩
    · exact ⟨⟨_, rfl⟩, ⟨_, rfl⟩, ⟨_, rfl⟩, ⟨_, rfl⟩, ⟨_, rfl⟩⟩
  · refine ⟨_, _, rfl, ⟨_, ⟨_, rfl, rfl⟩, ?_⟩, _, _, rfl, ⟨_, ⟨_, rfl, rfl⟩, ?_⟩, trivial⟩
    · exact ⟨_, List.mem_cons_of_mem _ List.mem_cons_self, rfl⟩
    · exact ⟨_, List.mem_cons_self, rfl⟩

/-- The signature value is that of another header. -/
def failedSignature : Jose.Signature Unit :=
  { Jose.JOSEDocumentSVTIssuer.demoSignature with
    signature := Java.Base64Url.encode Jose.JOSEDocumentSVTIssuer.svtValue }

theorem failedSignature_parses :
    Jose.JOSESignedDocumentValidator.getJOSEDocumentSignatureData
        Jose.JOSEDocumentSVTIssuer.demoEnv.toDocumentEnv
        (Jose.JOSEDocumentSVTIssuer.demoDocument failedSignature) none =
      .ok [Jose.JOSEDocumentSVTIssuer.demoData failedSignature.header
        failedSignature.unprotectedHeader Jose.JOSEDocumentSVTIssuer.svtValue false] := by
  have hchecked : Jose.JOSEDocumentSVTIssuer.demoBook.check
      Jose.JOSEDocumentSVTIssuer.demoHeader ⟨"e30"⟩ Jose.JOSEDocumentSVTIssuer.svtValue
      ⟨.ec Jose.JOSEDocumentSVTIssuer.demoKey,
        Jose.JOSESignedDocumentValidator.initialCritHeaderParams⟩ = false := by
    have hheader : (Jose.JOSEDocumentSVTIssuer.demoHeader.base64URL ==
        Jose.JOSEDocumentSVTIssuer.svtHeader.base64URL) = false :=
      beq_false_of_ne Jose.JOSEDocumentSVTIssuer.svtHeader_ne
    have hvalue : (Jose.JOSEDocumentSVTIssuer.svtValue ==
        Jose.JOSEDocumentSVTIssuer.demoValue) = false := by decide
    simp only [Jose.JOSEDocumentSVTIssuer.demoBook, hheader, hvalue, Bool.and_false,
      Bool.false_and, Bool.or_false]
  have hdata : Jose.JOSESignedDocumentValidator.signatureDataOf
      Jose.JOSEDocumentSVTIssuer.demoEnv.toDocumentEnv ⟨"e30"⟩ false failedSignature =
        Jose.JOSEDocumentSVTIssuer.demoData failedSignature.header
          failedSignature.unprotectedHeader Jose.JOSEDocumentSVTIssuer.svtValue false :=
    Jose.JOSEDocumentSVTIssuer.signatureDataOf_demo rfl rfl
      Jose.JOSEDocumentSVTIssuer.svtValue_ne hchecked
  rw [← hdata]
  refine Jose.JOSEDocumentSVTIssuer.demoDocument_parses
    ⟨Jose.JOSEDocumentSVTIssuer.demoBook_parses List.mem_cons_self, ?_⟩
    (Jose.Book.disjoint_iff.mp rfl) rfl
  intro u hu
  cases hu
  rfl

/-- A JOSE document with one signature that fails validation, and an XML document with two.
The results are complete and tokens are asked for anyway, and both calls throw. -/
theorem failed_signature_refused :
    (∃ signatureData,
      Jose.JOSESignedDocumentValidator.getJOSEDocumentSignatureData
        Jose.JOSEDocumentSVTIssuer.demoEnv.toDocumentEnv
        (Jose.JOSEDocumentSVTIssuer.demoDocument failedSignature) none = .ok [signatureData] ∧
      Jose.JOSEDocumentSVTIssuer.YieldsComplete Jose.JOSEDocumentSVTIssuer.demoEnv
        Jose.JOSEDocumentSVTIssuer.demoIssuer signatureData ∧
      Jose.JOSEDocumentSVTIssuer.ValidatedWith Jose.JOSEDocumentSVTIssuer.demoIssuer signatureData
        [⟨sigValidationPolicyPkixValidation, .FAILED, none⟩] ∧
      ¬ Jose.JOSEDocumentSVTIssuer.ExtendsAnyway Jose.JOSEDocumentSVTIssuer.demoEnv
        Jose.JOSEDocumentSVTIssuer.demoIssuer
        (Jose.JOSEDocumentSVTIssuer.demoDocument failedSignature) .EXTEND none [signatureData]) ∧
    ¬ ExtendsAnyway demoEnv (demoIssuer fun _ => [.FAILED]) .EXTEND sideBySide.toHeap := by
  constructor
  · refine ⟨_, failedSignature_parses, ⟨_, rfl, ?_⟩, ⟨_, rfl, rfl⟩, ?_⟩
    · exact ⟨⟨_, rfl⟩, ⟨_, rfl⟩, ⟨_, rfl⟩, ⟨_, rfl⟩, ⟨_, rfl⟩⟩
    · rintro ⟨output, h, -⟩
      unfold Jose.JOSEDocumentSVTIssuer.issueSvt at h
      rw [failedSignature_parses] at h
      cases h
  · intro h
    exact h

end Failed

end SigVal.Xml.XMLDocumentSVTIssuer
