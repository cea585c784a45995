import SigVal.Xml.IndependentTurns
import SigVal.Xml.Rereading
import SigVal.Xml.TokenIssuance

/-!
# SVT issuer and SVT validator of an XML document

The claims of a token are made from the document before the token is put into it, and
compared with the document that is read back with the token in it. A signature element
without identifier is given one in between. The token has been issued by then, for a
signature with the empty identifier, and this is where issuer and validator part. Apart
from that the validator finds the token and comes to the same references when each
signature is on its own, its tokens are in its objects and the new one is the latest.
-/

namespace SigVal.Xml.XMLDocumentSVTIssuer

open SigVal.Java SigVal.LinkedDom SigVal.Commons SigVal.Svt Heap
open DefaultXMLSignatureContext XMLSVTSigValClaimsIssuer
open Jose (SVTExtendpolicy CarriesClaims withIssuerDigests toBase64Digest_withIssuerDigests)
open Svt.XMLSVTValidator (xmldsigNS xmlSvtNS collectSignatureSVTData)

variable {Cert : Type} [DecidableEq Cert] {env : XmlExtensionEnv Cert}
  {issuer : XMLSVTSigValClaimsIssuer Cert} {svtMethod : SVTExtendpolicy}
  {issueSvtOnFailedValidation : Bool} {svt : SvtEnv Cert} {jwt : SignedJWT} {d h h' : Heap}
  {s : Key}

/-! ## The references of a token, computed twice -/

section References

variable {issuerEnv : XmlIssuerEnv Cert} {document document' : Heap}
  {sigValInput : XMLSigValInput Cert} {hashAlgoUri : String} {claims : IssuedSignatureClaims}

/-- What the claims say of the signature. -/
theorem verify_references
    (h : verify issuerEnv issuer document sigValInput hashAlgoUri = .ok (some [claims])) :
    ∃ digest signatureBytes signedInfoBytes, digestInstance issuerEnv hashAlgoUri = .ok digest ∧
      sigValInput.signatureData.signatureBytes = some signatureBytes ∧
      sigValInput.signatureData.signedInfoBytes = some signedInfoBytes ∧
      claims.sigRef = ⟨sigValInput.signatureData.signature.getId document,
        issuerEnv.claims.encodeBase64String (digest signatureBytes),
        issuerEnv.claims.encodeBase64String (digest signedInfoBytes)⟩ ∧
      getDocRefHashes issuerEnv sigValInput.signatureData.refDataMap hashAlgoUri =
        .ok claims.sigDataRef := by
  obtain ⟨_, _, ⟨⟩, -, -, hsigRef, -, hsigDataRef, -⟩ := verify_some h
  obtain ⟨digest, signatureBytes, signedInfoBytes, hdigest, hbytes, hinfo, hreference⟩ :=
    getSigRefData_ok hsigRef
  exact ⟨digest, signatureBytes, signedInfoBytes, hdigest, hbytes, hinfo, hreference, hsigDataRef⟩

omit [DecidableEq Cert] in
theorem signatureReference_id {svtEnv : SvtEnv Cert} {input : XMLSVTValidator.XMLSigValInput Cert}
    {token : Option SignedJWT} {result : SignatureSVTData}
    (h : collectSignatureSVTData svtEnv input token = .ok result) :
    result.signatureReference.id = input.signatureData.signatureId := by
  obtain ⟨_, _, _, -, -, -, -, hid, -⟩ := XMLSVTValidator.collect_ok h
  exact hid

omit [DecidableEq Cert] in
theorem toSvtData_signatureId {jvm : Jvm} {data : RawSignatureData Cert}
    {svtData : XMLSVTValidator.SignatureData Cert}
    (h : data.toSvtData jvm document = some svtData) :
    svtData.signatureId = data.signature.getId document := by
  unfold RawSignatureData.toSvtData at h
  obtain ⟨_, -, h⟩ := Option.bind_eq_some_iff.mp h
  obtain ⟨_, -, h⟩ := Option.bind_eq_some_iff.mp h
  obtain ⟨_, -, h⟩ := Option.bind_eq_some_iff.mp h
  obtain ⟨_, -, h⟩ := Option.bind_eq_some_iff.mp h
  cases h
  rfl

/-- **The second computation.** From the same bytes under the same URIs the validator
comes to the hashes of the claims. -/
theorem collect_references
    (hverify : verify issuerEnv issuer document sigValInput hashAlgoUri = .ok (some [claims]))
    (hcarries : CarriesClaims jwt hashAlgoUri [claims]) {data : RawSignatureData Cert}
    (hbytes : data.signatureBytes = sigValInput.signatureData.signatureBytes)
    (hinfo : data.signedInfoBytes = sigValInput.signatureData.signedInfoBytes)
    (hrefs : data.refDataMap = sigValInput.signatureData.refDataMap)
    {chain : List Cert} (hchain : data.signatureCertChain = some chain)
    (hencoded : ∀ cert, ∃ bytes, svt.getEncoded cert = .ok bytes) :
    ∃ svtData, data.toSvtData issuerEnv.jvm document' = some svtData ∧
      ∀ signatureElement, ∃ result,
        collectSignatureSVTData (withIssuerDigests issuerEnv.claims svt)
          ⟨signatureElement, svtData⟩ (some jwt) = .ok result ∧
        result.signatureReference = ⟨data.signature.getId document', claims.sigRef.sigHash,
          claims.sigRef.sbHash⟩ ∧
        result.signedDataRefList = claims.sigDataRef := by
  obtain ⟨digest, signatureBytes, signedInfoBytes, hdigest, hbytes', hinfo', hsigRef, hdocRefs⟩ :=
    verify_references hverify
  obtain ⟨entries, hentries, hsigDataRef⟩ := getDocRefHashes_ok hdigest hdocRefs
  obtain ⟨algorithm, halgorithm, hinstance⟩ := bind_ok_iff.mp hdigest
  obtain ⟨claimsSet, hclaimsSet, hsvtClaims⟩ := hcarries
  obtain ⟨certList, hcertList⟩ : ∃ certList,
      encodeChain (withIssuerDigests issuerEnv.claims svt) chain = .ok certList :=
    exists_mapM_ok_iff.mpr fun cert _ => hencoded cert
  have hmap : (issuerEnv.jvm.entriesInOrder data.refDataMap).mapM
      (fun ref => ref.2.map (Prod.mk ref.1)) = some entries := by
    rw [hrefs, hentries]
    exact mapM_resolved entries
  refine ⟨⟨data.signature.getId document', entries, signatureBytes, signedInfoBytes, chain⟩, ?_,
    fun signatureElement => ?_⟩
  · unfold RawSignatureData.toSvtData
    rw [hmap, hbytes, hbytes', hinfo, hinfo', hchain]
    rfl
  have htoken : jwt.getJWTClaimsSet = .ok claimsSet :=
    SignedJWT.getJWTClaimsSet_ok_iff.mpr hclaimsSet
  have hclaims : SVAUtils.getSVTClaims claimsSet =
      .ok ⟨some hashAlgoUri, some ([claims].map (·.toSignatureClaims))⟩ :=
    SVAUtils.getSVTClaims_ok_iff.mpr hsvtClaims
  have hhash : ∀ bytes, (withIssuerDigests issuerEnv.claims svt).toBase64Digest algorithm bytes =
      .ok (issuerEnv.claims.encodeBase64String (digest bytes)) :=
    toBase64Digest_withIssuerDigests hinstance
  have hmatch : matchSignatureClaims ⟨some hashAlgoUri, some ([claims].map (·.toSignatureClaims))⟩
      (issuerEnv.claims.encodeBase64String (digest signatureBytes)) =
        .ok claims.toSignatureClaims :=
    matchSignatureClaims_singleton (congrArg SigReferenceClaims.sigHash hsigRef)
  have hdata : (entries.mapM fun ref =>
      (pure ⟨ref.1, issuerEnv.claims.encodeBase64String (digest ref.2)⟩ :
        Outcome SignedDataClaims)) = .ok (entries.map (signedDataClaims issuerEnv digest)) :=
    List.mapM_pure
  refine ⟨⟨jwt, ⟨data.signature.getId document', claims.sigRef.sigHash, claims.sigRef.sbHash⟩,
    claims.toSignatureClaims, claims.sigDataRef, certList⟩, ?_, rfl, rfl⟩
  unfold collectSignatureSVTData
  have hregistered : DigestAlgorithmRegistry.get
      (withIssuerDigests issuerEnv.claims svt).registry (some hashAlgoUri) = .ok algorithm :=
    halgorithm
  rw [hsigDataRef, hsigRef]
  simp only [deref, htoken, hclaims, hregistered, hhash, hmatch, hdata, hcertList, bind,
    Except.bind]
  rfl

end References

/-! ## The latest token -/

/-- The token is selected when all others of the list are older. -/
theorem getMostRecentJwt_latest {l : List SignedJWT} {date : Date} (hmem : jwt ∈ l)
    (hdate : SVAUtils.getSVTIssueDate jwt = some date)
    (hothers : ∀ other ∈ l, other = jwt ∨
      ∃ date', SVAUtils.getSVTIssueDate other = some date' ∧ date' < date) :
    SVAUtils.getMostRecentJwt l = .ok (some jwt) := by
  have hdated : ∀ other ∈ l, ∃ date', SVAUtils.getSVTIssueDate other = some date' := by
    intro other hother
    rcases hothers other hother with rfl | ⟨date', hdate', -⟩
    · exact ⟨date, hdate⟩
    · exact ⟨date', hdate'⟩
  let time : SignedJWT → Date := fun other => (SVAUtils.getSVTIssueDate other).getD 0
  have hanswers : Answers SVAUtils.compareSVTIssueDate (fun a b => decide (time a > time b))
      (· ∈ l) := by
    intro a ha b hb
    obtain ⟨date₁, hdate₁⟩ := hdated a ha
    obtain ⟨date₂, hdate₂⟩ := hdated b hb
    refine ⟨if date₁ > date₂ then -1 else 1, ?_, ?_⟩
    · simp [SVAUtils.compareSVTIssueDate, hdate₁, hdate₂, deref, bind, Except.bind, pure,
        Except.pure]
    · simp only [time, hdate₁, hdate₂, Option.getD_some, decide_eq_true_eq]
      split
      · simp [*]
      · simp [*]
  obtain ⟨sorted, hsorted, hhead⟩ := sortWith_head hanswers
  obtain ⟨best, hbest⟩ : ∃ best, scan (fun a b => decide (time a > time b)) l = some best := by
    cases l with
    | nil => cases hmem
    | cons first rest => exact ⟨_, rfl⟩
  have hnone : decide (time jwt > time best) = false := by
    refine scan_best ?_ ?_ hbest jwt hmem
    · intro a b _ _ hab
      exact decide_eq_false (Int.lt_asymm (of_decide_eq_true hab))
    · intro a b c _ _ _ hab hbc
      rw [decide_eq_false_iff_not, gt_iff_lt, Int.not_lt] at *
      exact Int.le_trans hab hbc
  -- an older token would not have been the best
  have heq : best = jwt := by
    rcases hothers best (scan_mem hbest) with heq | ⟨date', hdate', hlt⟩
    · exact heq
    · simp only [decide_eq_false_iff_not, time, hdate, hdate', Option.getD_some] at hnone
      exact absurd hlt hnone
  unfold SVAUtils.getMostRecentJwt
  rw [if_neg (by simpa using List.ne_nil_of_mem hmem), hsorted]
  show Except.ok sorted.head? = _
  rw [hhead, hbest, heq]

/-! ## What the issuer reads -/

/-- The token of a reading. -/
def IssuedFor (env : XmlExtensionEnv Cert) (issuer : XMLSVTSigValClaimsIssuer Cert)
    (svtMethod : SVTExtendpolicy) (x : SVTExtensionData) (r : Reading Cert) : Prop :=
  x.element = r.element ∧ x.svtMethod = svtMethod ∧
    signedSvtJWT env issuer r.document ⟨r.element, r.data, svtMethod⟩ = some x.signedJWT

theorem mapM_extensionData_reads {context : DefaultXMLSignatureContext} {signatures : List Key}
    {os : List (Option SVTExtensionData)} {seen after : Heap}
    (hrun : (signatures.mapM (extensionData env issuer context svtMethod
      issueSvtOnFailedValidation)).run seen = (.ok os, after)) :
    ∃ readings, (signatures.mapM (readSignature env.jvm env.lib context)).run seen =
        (.ok readings, after) ∧
      List.Forall₂ (fun o r => ∃ x, o = some x ∧ IssuedFor env issuer svtMethod x r) os
        readings := by
  induction signatures generalizing seen os with
  | nil =>
      cases hrun
      exact ⟨[], rfl, .nil⟩
  | cons s rest ih =>
      rw [List.mapM_cons] at hrun ⊢
      obtain ⟨o, t, ho, hrun⟩ := Mutating.run_bind_ok_iff.mp hrun
      obtain ⟨os', u, hos, hrun⟩ := Mutating.run_bind_ok_iff.mp hrun
      cases hrun
      obtain ⟨readings, hreadings, hall⟩ := ih hos
      rcases hread : (getSignatureData env.jvm env.lib context s).run seen with
        ⟨ex | signatureData, t'⟩
      · unfold extensionData at ho
        obtain ⟨_, _, hdata, -⟩ := Mutating.run_bind_ok_iff.mp ho
        rw [hread] at hdata
        cases hdata
      · rw [run_extensionData hread] at ho
        obtain ⟨hgated, rfl⟩ := Prod.mk.inj ho
        obtain ⟨jwt, htoken, rfl, -⟩ := gated_ok hgated
        refine ⟨⟨s, signatureData, t'⟩ :: readings, ?_, .cons ⟨_, rfl, rfl, rfl, htoken⟩ hall⟩
        have hone : (readSignature env.jvm env.lib context s).run seen =
            (.ok ⟨s, signatureData, t'⟩, t') := by
          unfold readSignature
          exact Mutating.run_bind_ok_iff.mpr ⟨_, _, hread, rfl⟩
        exact Mutating.run_bind_ok_iff.mpr
          ⟨_, _, hone, Mutating.run_bind_ok_iff.mpr ⟨_, _, hreadings, rfl⟩⟩

omit [DecidableEq Cert] in
theorem forall₂_filterMap_id {R : SVTExtensionData → Reading Cert → Prop}
    {os : List (Option SVTExtensionData)} {readings : List (Reading Cert)}
    (h : List.Forall₂ (fun o r => ∃ x, o = some x ∧ R x r) os readings) :
    List.Forall₂ R (os.filterMap id) readings := by
  induction h with
  | nil => exact .nil
  | cons hhead _ ih =>
      obtain ⟨x, rfl, hx⟩ := hhead
      exact .cons hx ih

/-- **The tokens are issued for what is read.** -/
theorem collectTokens_reads {data : List SVTExtensionData} {seen : Heap}
    (hrun : (collectTokens env issuer svtMethod issueSvtOnFailedValidation).run d =
      (.ok data, seen)) :
    ∃ context readings, DefaultXMLSignatureContext.new env.lib d = .ok context ∧
      (readSignatures env.jvm env.lib context).run d = (.ok readings, seen) ∧
      List.Forall₂ (IssuedFor env issuer svtMethod) data readings := by
  unfold collectTokens at hrun
  obtain ⟨_, _, ⟨⟩, hrun⟩ := Mutating.run_bind_ok_iff.mp hrun
  obtain ⟨context, _, hcontext, hrun⟩ := Mutating.run_bind_ok_iff.mp hrun
  rw [Mutating.run_call] at hcontext
  obtain ⟨hnew, rfl⟩ := Prod.mk.inj hcontext
  obtain ⟨os, _, hos, hrun⟩ := Mutating.run_bind_ok_iff.mp hrun
  cases hrun
  obtain ⟨readings, hreadings, hall⟩ := mapM_extensionData_reads hos
  refine ⟨context, readings, hnew, ?_, forall₂_filterMap_id hall⟩
  unfold readSignatures
  exact Mutating.run_bind_ok_iff.mpr ⟨_, _, Mutating.run_get _, hreadings⟩

/-! ## Reading the output back -/

/-- The node hangs in the document. -/
def attached (n : Node) : Bool := n.key == documentKey || decide (documentKey ∈ n.ancestors)

/-- Printing and parsing are faithful: the nodes that hang in the document come back. -/
structure ReadBack (lib : XMLSecurity Cert) (output : Bytes) (document : Heap)
    (parsed : Document) : Prop where
  parses : lib.getDocument output = .ok parsed
  nodes : parsed.nodes = document.nodes.filter attached

section ReadBack

omit [DecidableEq Cert]

variable {lib : XMLSecurity Cert} {output : Bytes} {parsed : Document} {n : Node} {k : Key}
  (wf : WellFormed h) (hback : ReadBack lib output h parsed)
include wf hback

theorem ReadBack.mem (hn : n ∈ h.nodes) (hattached : documentKey ∈ n.key :: h.chain n.key) :
    n ∈ parsed.nodes := by
  rw [hback.nodes, List.mem_filter]
  refine ⟨hn, ?_⟩
  rw [chain_of_mem wf hn] at hattached
  rcases List.mem_cons.mp hattached with heq | hmem
  · simp [attached, ← heq]
  · simp [attached, hmem]

theorem ReadBack.below (hattached : documentKey ∈ k :: h.chain k) :
    parsed.below k = h.below k := by
  unfold Heap.below
  rw [hback.nodes, List.filter_filter]
  apply List.filter_congr
  intro n hn
  by_cases hkn : k ∈ n.ancestors
  · have hdocument : documentKey ∈ n.ancestors := by
      rw [← chain_of_mem wf hn] at hkn ⊢
      rcases List.mem_cons.mp hattached with heq | hmem
      · rw [heq]
        exact hkn
      · exact mem_chain_trans wf hkn hmem
    simp [attached, hkn, hdocument]
  · simp [hkn]

theorem ReadBack.getSignatures_eq : getSignatures parsed.toHeap = getSignatures h := by
  unfold getSignatures getElementsByTagNameNS
  rw [hback.below wf List.mem_cons_self]

theorem ReadBack.sameBelow (hs : s ∈ getSignatures h) : parsed.below s = h.below s := by
  obtain ⟨n, hn, hdocument, -, rfl⟩ := mem_getElementsByTagNameNS.mp hs
  rw [← chain_of_mem wf hn] at hdocument
  exact hback.below wf (List.mem_cons_of_mem _ hdocument)

/-- The core of a signature comes back. -/
theorem ReadBack.sameCore (hs : s ∈ getSignatures h) : SameCore h parsed.toHeap s := by
  have hbelow := hback.sameBelow wf hs
  obtain ⟨n, hn, hdocument, -, rfl⟩ := mem_getElementsByTagNameNS.mp hs
  rw [← chain_of_mem wf hn] at hdocument
  have hn' := hback.mem wf hn (List.mem_cons_of_mem _ hdocument)
  refine sameCore_of_sameBelow wf parsed.wellFormed hbelow ?_ ?_
  · rw [chain_of_mem parsed.wellFormed hn', chain_of_mem wf hn]
  · intro a ha
    have hnode : ∃ m ∈ h.nodes, m.key = a ∧ documentKey ∈ a :: h.chain a := by
      rcases List.mem_cons.mp ha with rfl | ha
      · exact ⟨n, hn, rfl, List.mem_cons_of_mem _ hdocument⟩
      · have hmem := ha
        rw [chain_of_mem wf hn] at hmem
        obtain ⟨m, hm, rfl⟩ := exists_node_of_mem_ancestors wf hn hmem
        refine ⟨m, hm, rfl, ?_⟩
        rcases chain_comparable wf hdocument ha with heq | hup | hdown
        · rw [heq]
          exact List.mem_cons_self
        · exact List.mem_cons_of_mem _ hup
        · rw [chain_of_mem wf wf.root] at hdown
          cases hdown
    obtain ⟨m, hm, rfl, hattached⟩ := hnode
    rw [contentOf_of_mem parsed.wellFormed (hback.mem wf hm hattached), contentOf_of_mem wf hm]

/-- The context of the output can be made. -/
theorem ReadBack.new_ok {context : DefaultXMLSignatureContext}
    (hnew : DefaultXMLSignatureContext.new lib d = .ok context)
    (htop : ∀ n ∈ d.children documentKey, n ∈ h.children documentKey)
    (hbytes : ∀ h, WellFormed h → ∃ bytes, lib.getCanonicalDocBytes h = .ok bytes) :
    ∃ context', DefaultXMLSignatureContext.new lib parsed.toHeap = .ok context' := by
  obtain ⟨bytes, hbytes⟩ := hbytes parsed.toHeap parsed.wellFormed
  have helement : ∃ n ∈ d.children documentKey, n.content.isElement = true := by
    cases hfind : (d.children documentKey).find? (·.content.isElement) with
    | some n => exact ⟨n, List.mem_of_find?_eq_some hfind, by simpa using List.find?_some hfind⟩
    | none =>
        unfold DefaultXMLSignatureContext.new getDocumentElement at hnew
        rw [hfind] at hnew
        cases hd : lib.getCanonicalDocBytes d with
        | error ex =>
            rw [hd] at hnew
            cases hnew
        | ok bytes =>
            rw [hd] at hnew
            cases hnew
  obtain ⟨n, hn, hname⟩ := helement
  obtain ⟨hmem, hparent⟩ := mem_children.mp (htop n hn)
  have hdocument : documentKey ∈ n.key :: h.chain n.key := by
    rw [chain_child wf (htop n hn)]
    exact List.mem_cons_of_mem _ List.mem_cons_self
  have hchild : n ∈ parsed.children documentKey :=
    mem_children.mpr ⟨hback.mem wf hmem hdocument, hparent⟩
  obtain ⟨m, hfound⟩ : ∃ m, (parsed.children documentKey).find? (·.content.isElement) = some m :=
    Option.isSome_iff_exists.mp (List.find?_isSome.mpr ⟨n, hchild, hname⟩)
  unfold DefaultXMLSignatureContext.new getDocumentElement
  rw [hbytes, hfound]
  exact ⟨_, rfl⟩

end ReadBack

/-! ## Identifiers after the run -/

section Identified

omit [DecidableEq Cert]

/-- **All signatures have identifiers.** Whatever the document, when the loop is through
every signature it went over has one. -/
theorem wp_extendSignatures_identified (env : XmlExtensionEnv Cert) {data : List SVTExtensionData}
    (wf : WellFormed h) (hdata : ∀ x ∈ data, IsSignature h x.element) :
    Mutating.wp (extendSignatures env data)
      (fun _ h' => WellFormed h' ∧
        (∀ s, IsSignature h s → IsSignature h' s ∧
          ((h.contentOf s).getAttribute "Id" ≠ "" → (h'.contentOf s).getAttribute "Id" ≠ "")) ∧
        ∀ x ∈ data, (h'.contentOf x.element).getAttribute "Id" ≠ "")
      (fun _ _ => True) h := by
  induction data generalizing h with
  | nil => exact ⟨wf, fun _ hs => ⟨hs, id⟩, by simp⟩
  | cons x rest ih =>
      obtain ⟨s, jwt, method⟩ := x
      have hs : IsSignature h s := hdata _ List.mem_cons_self
      unfold extendSignatures
      rw [Mutating.wp_bind]
      refine Mutating.wp_mono (wp_extendSignature env wf hs jwt method) ?_ fun _ _ _ => trivial
      rintro - h₁ ⟨gone, property, hturn⟩
      have hrest : ∀ y ∈ rest, IsSignature h₁ y.element := fun y hy =>
        hturn.isSignature (hdata y (List.mem_cons_of_mem _ hy))
      refine Mutating.wp_mono (ih hturn.placed.wf hrest) ?_ fun _ _ h => h
      rintro - h₂ ⟨wf₂, hkept, hidentified⟩
      refine ⟨wf₂, ?_, ?_⟩
      · intro s' hs'
        have hstep := hkept s' (hturn.isSignature hs')
        exact ⟨hstep.1, fun hid => hstep.2 (hturn.keeps_identifier wf hs hs' hid)⟩
      · intro y hy
        rcases List.mem_cons.mp hy with rfl | hy
        · exact (hkept s (hturn.isSignature hs)).2 (hturn.identifies wf hs)
        · exact hidentified y hy

end Identified

/-! ## Agreement -/

/-- The validator of the output meets the token as the newest one of its signature, and
comes to the references that are in it. -/
structure Agrees (env : XmlExtensionEnv Cert) (svt : SvtEnv Cert) (hashAlgoUri : String)
    (parsed : Heap) (x : SVTExtensionData) (r : Reading Cert) : Prop where
  element : r.element = x.element
  newest : SVAUtils.getMostRecentJwt ((signatureSvaTokens parsed r.element).filterMap
    fun token => (svt.parse token).toOption) = .ok (some x.signedJWT)
  references : ∃ claims svtData, CarriesClaims x.signedJWT hashAlgoUri [claims] ∧
    r.data.toSvtData env.jvm r.document = some svtData ∧
    ∀ signatureElement, ∃ result,
      collectSignatureSVTData (withIssuerDigests env.claims svt) ⟨signatureElement, svtData⟩
        (some x.signedJWT) = .ok result ∧
      result.signatureReference = claims.sigRef ∧
      ∀ ref, ref ∈ result.signedDataRefList ↔ ref ∈ claims.sigDataRef

/-- The signatures of the output are read, and agree with the tokens in their order. -/
def Agreement (env : XmlExtensionEnv Cert) (svt : SvtEnv Cert) (hashAlgoUri : String)
    (parsed : Heap) (data : List SVTExtensionData) : Prop :=
  ∃ context readings seen, DefaultXMLSignatureContext.new env.lib parsed = .ok context ∧
    (readSignatures env.jvm env.lib context).run parsed = (.ok readings, seen) ∧
    List.Forall₂ (Agrees env svt hashAlgoUri parsed) data readings

/-- The references of a signature stand for the same octets in both documents. -/
def SameReferencedData (env : XmlExtensionEnv Cert) (before after : Heap) : Prop :=
  ∀ context context' readings readings' seen seen',
    (readSignatures env.jvm env.lib context).run before = (.ok readings, seen) →
    (readSignatures env.jvm env.lib context').run after = (.ok readings', seen') →
    ∀ r ∈ readings, ∀ r' ∈ readings', r'.element = r.element →
      r'.data.refDataMap = r.data.refDataMap

/-- What is documented of the issuer: tokens are dated when they are issued, and this is
not before the call. -/
def IssuesFrom (svtIssuer : Jose.SVTIssuer) (start : Date) : Prop :=
  ∀ verify jwt, svtIssuer.getSignedSvtJWT verify = .ok (some jwt) →
    ∃ date, SVAUtils.getSVTIssueDate jwt = some date ∧ start ≤ date

/-- Validators pass no signature without `KeyInfo`: the value is checked with the
certificate, and a token of the signature against the list of certificates. -/
def NeedsKeyInfo (issuer : XMLSVTSigValClaimsIssuer Cert) : Prop :=
  ∀ document s signatureData sigResult,
    issuer.signatureVerifier document s signatureData = .ok sigResult →
    isIssueSVT sigResult = true →
    signatureData.signerCertificate ≠ none ∨ signatureData.signatureCertChain ≠ none

/-- The tokens that are left of a signature were issued before the call. -/
def LeftOlder (jvm : Jvm) (svt : SvtEnv Cert) (svtMethod : SVTExtendpolicy) (d : Heap)
    (start : Date) (s : Key) : Prop :=
  ∀ k jwt, LeftToken jvm svtMethod d s k → svt.parse (d.getTextContent k) = .ok jwt →
    ∃ date, SVAUtils.getSVTIssueDate jwt = some date ∧ date < start

section Agreement

variable {output : Bytes} {after seen : Heap} {document parsed : Document}
  {data : List SVTExtensionData} {start : Date}

/-- A token carries the claims about one signature once. -/
theorem sigRef_of_carries {hashAlgoUri : String} {claims claims' : IssuedSignatureClaims}
    (h : CarriesClaims jwt hashAlgoUri [claims]) (h' : CarriesClaims jwt hashAlgoUri [claims']) :
    claims.sigRef = claims'.sigRef := by
  obtain ⟨claimsSet, hset, hclaims⟩ := h
  obtain ⟨claimsSet', hset', hclaims'⟩ := h'
  rw [hset] at hset'
  cases hset'
  rw [hclaims] at hclaims'
  have hlist : claims.toSignatureClaims = claims'.toSignatureClaims := by simpa using hclaims'
  exact congrArg SignatureClaims.sigRef hlist

omit [DecidableEq Cert] in
/-- The token is the newest one of its signature. -/
theorem newest_of_tokenAdded {tokens : Heap} {x : SVTExtensionData} {date : Date}
    (hadded : TokenAdded env.jvm svtMethod d tokens x.element (env.serialize x.signedJWT))
    (hserialized : svt.parse (env.serialize x.signedJWT) = .ok x.signedJWT)
    (hdate : SVAUtils.getSVTIssueDate x.signedJWT = some date) (hstart : start ≤ date)
    (holder : LeftOlder env.jvm svt svtMethod d start x.element) :
    SVAUtils.getMostRecentJwt ((signatureSvaTokens tokens x.element).filterMap
      fun token => (svt.parse token).toOption) = .ok (some x.signedJWT) := by
  refine getMostRecentJwt_latest ?_ hdate ?_
  · refine List.mem_filterMap.mpr ⟨_, hadded.1, ?_⟩
    rw [hserialized]
    rfl
  · intro other hother
    obtain ⟨text, htext, hparse⟩ := List.mem_filterMap.mp hother
    have hparses : svt.parse text = .ok other := by
      cases hp : svt.parse text with
      | error ex =>
          rw [hp] at hparse
          cases hparse
      | ok jwt =>
          rw [hp] at hparse
          cases hparse
          rfl
    rcases hadded.2 text htext with rfl | ⟨k, hleft, rfl⟩
    · rw [hserialized] at hparses
      cases hparses
      exact .inl rfl
    · obtain ⟨date', hdate', hlt⟩ := holder k other hleft hparses
      exact .inr ⟨date', hdate', Int.lt_of_lt_of_le hlt hstart⟩

/-- The references of a signature that was read again. -/
theorem references_of_rereading {x : SVTExtensionData} {r r' : Reading Cert} {h h' : Heap}
    (hissuer : issuer.svtIssuer.Lawful) (hlib : ReadsCore env.lib) (hkeyInfo : NeedsKeyInfo issuer)
    (hencoded : ∀ cert, ∃ bytes, svt.getEncoded cert = .ok bytes) (wf : WellFormed h)
    (wf' : WellFormed h') (hcore : SameCore h h' r.element) (hread : ReadIn env.jvm env.lib h r)
    (hread' : ReadIn env.jvm env.lib h' r') (helement : r'.element = r.element)
    (hrefs : r'.data.refDataMap = r.data.refDataMap)
    (hissued : IssuedFor env issuer svtMethod x r) :
    ∃ claims svtData, CarriesClaims x.signedJWT issuer.svtIssuer.hashAlgoUri [claims] ∧
      r'.data.toSvtData env.jvm r'.document = some svtData ∧
      ∀ signatureElement, ∃ result,
        collectSignatureSVTData (withIssuerDigests env.claims svt) ⟨signatureElement, svtData⟩
          (some x.signedJWT) = .ok result ∧
        result.signatureReference = claims.sigRef ∧
        ∀ ref, ref ∈ result.signedDataRefList ↔ ref ∈ claims.sigDataRef := by
  obtain ⟨-, -, htoken⟩ := hissued
  obtain ⟨claims, hverify, hcarries⟩ := claims_of_token hissuer htoken
  obtain ⟨hbytes, hinfo, hchain⟩ := hread.sameData hlib wf wf' hcore hread' helement
  have hcertified : r.data.signatureCertChain ≠ none := by
    obtain ⟨_, sigResult, -, hresult, hissue, -⟩ := verify_some hverify
    obtain ⟨_, -, hreads⟩ := hread
    rcases hkeyInfo _ _ _ _ hresult hissue with hsigner | hchain
    · exact fun hnone => hsigner (hreads.signer hnone)
    · exact hchain
  obtain ⟨chain, hchain'⟩ := Option.ne_none_iff_exists'.mp hcertified
  obtain ⟨svtData, hsvtData, hcollect⟩ := collect_references hverify hcarries hbytes hinfo hrefs
    (hchain.trans hchain') hencoded
  refine ⟨claims, svtData, hcarries, hsvtData, fun signatureElement => ?_⟩
  obtain ⟨result, hresult, hreference, hlist⟩ := hcollect signatureElement
  obtain ⟨digest, _, _, -, -, -, hsigRef, -⟩ := verify_references hverify
  have hid : r'.data.signature.getId r'.document = claims.sigRef.id := by
    rw [hread'.getId hlib, hsigRef, helement, hcore.around _ List.mem_cons_self]
    exact (hread.getId hlib).symm
  refine ⟨result, hresult, ?_, ?_⟩
  · rw [hreference, hid]
  · intro ref
    rw [hlist]

section Issued

variable (hissue : (issueSvt env issuer svtMethod issueSvtOnFailedValidation).run d =
    (.ok output, after))
  (hdata : (collectTokens env issuer svtMethod issueSvtOnFailedValidation).run d = (.ok data, seen))
include hissue hdata

/-- **Issuer and validator part over identifiers.** The token says that the signature had
none, when it had none, and the validator finds the new one. -/
theorem agreement_identified (wf : WellFormed d) (hissuer : issuer.svtIssuer.Lawful)
    (hlib : ReadsCore env.lib) (hback : ReadBack env.lib output after parsed)
    (hagrees : Agreement env svt issuer.svtIssuer.hashAlgoUri parsed.toHeap data) :
    ∀ s ∈ getSignatures d, (d.contentOf s).getAttribute "Id" ≠ "" := by
  obtain ⟨helements, -, hsame⟩ := Mutating.of_run_ok (wp_collectTokens hissuer) hdata
  obtain ⟨context, readings, _, hread, hissued⟩ := collectTokens_reads hdata
  obtain ⟨hreads, -⟩ := Mutating.of_run_ok wp_readSignatures hread
  obtain ⟨context', readings', seen', _, hread', hall⟩ := hagrees
  obtain ⟨hreads', -⟩ := Mutating.of_run_ok wp_readSignatures hread'
  have wf' := wellFormed_of_sameContent wf hsame
  have hsignatures : ∀ x ∈ data, IsSignature seen x.element := by
    intro x hx
    have hmem : x.element ∈ getSignatures d := by
      rw [← helements]
      exact List.mem_map_of_mem hx
    obtain ⟨n, hn, -, hname, hkey⟩ := mem_getElementsByTagNameNS.mp hmem
    exact ⟨n, hsame.1 ▸ hn, hkey, hname⟩
  obtain ⟨wfa, -, hidentified⟩ := Mutating.of_run_ok
    (wp_extendSignatures_identified env wf' hsignatures) (extendSignatures_of_issueSvt hissue hdata)
  intro s hs
  rw [← helements] at hs
  obtain ⟨x, hx, rfl⟩ := List.mem_map.mp hs
  -- the identifier in the token
  obtain ⟨r, hr, helement, -, htoken⟩ := forall₂_left hissued x hx
  obtain ⟨claims, hverify, hcarries⟩ := claims_of_token hissuer htoken
  obtain ⟨digest, _, _, -, -, -, hsigRef, -⟩ := verify_references hverify
  obtain ⟨_, -, -, hreadIn⟩ := forall₂_left hreads.flip r hr
  have hissuedId : claims.sigRef.id = some ((d.contentOf x.element).getAttribute "Id") := by
    rw [hsigRef, helement]
    exact hreadIn.getId hlib
  -- the identifier the validator finds
  obtain ⟨r', hr', hagrees⟩ := forall₂_left hall x hx
  obtain ⟨claims', svtData, hcarries', hsvtData, hresult⟩ := hagrees.references
  obtain ⟨result, hcollect, hreference, -⟩ := hresult (.text "")
  obtain ⟨s', hs', rfl, hreadIn'⟩ := forall₂_left hreads'.flip r' hr'
  have hfoundId : claims'.sigRef.id =
      some ((parsed.contentOf x.element).getAttribute "Id") := by
    rw [← hreference, signatureReference_id hcollect, toSvtData_signatureId hsvtData,
      hreadIn'.getId hlib, hagrees.element]
  have hclaims : claims'.sigRef = claims.sigRef := sigRef_of_carries hcarries' hcarries
  have hcontent : parsed.contentOf x.element = after.contentOf x.element := by
    rw [← hagrees.element]
    obtain ⟨n, hn, -, -, hkey⟩ := mem_getElementsByTagNameNS.mp hs'
    have hn' := hn
    rw [hback.nodes, List.mem_filter] at hn'
    rw [← hkey, contentOf_of_mem parsed.wellFormed hn, contentOf_of_mem wfa hn'.1]
  rw [hclaims, hissuedId, hcontent] at hfoundId
  rw [Option.some.inj hfoundId]
  exact hidentified x hx

/-- **The two agree.** The signatures are independent, and what is left of older tokens
is older. -/
theorem agreement_of_independent (wf : WellFormed d) (hissuer : issuer.svtIssuer.Lawful)
    (hlib : ReadsCore env.lib) (hkeyInfo : NeedsKeyInfo issuer)
    (hfrom : IssuesFrom issuer.svtIssuer start)
    (hbytes : ∀ h, WellFormed h → ∃ bytes, env.lib.getCanonicalDocBytes h = .ok bytes)
    (hencoded : ∀ cert, ∃ bytes, svt.getEncoded cert = .ok bytes)
    (hserialized : ∀ x ∈ data, svt.parse (env.serialize x.signedJWT) = .ok x.signedJWT)
    (hback : ReadBack env.lib output after parsed)
    (hunaltered : SameReferencedData env d parsed.toHeap)
    (hindependent : ∀ s ∈ getSignatures d, Independent env.jvm svtMethod d s)
    (holder : ∀ s ∈ getSignatures d, LeftOlder env.jvm svt svtMethod d start s) :
    Agreement env svt issuer.svtIssuer.hashAlgoUri parsed.toHeap data := by
  obtain ⟨helements, hpast, hsame⟩ := Mutating.of_run_ok (wp_collectTokens hissuer) hdata
  obtain ⟨context, readings, hnew, hread, hissued⟩ := collectTokens_reads hdata
  obtain ⟨hreads, -⟩ := Mutating.of_run_ok wp_readSignatures hread
  -- the turns
  have hstart : IndependentInv env.jvm svtMethod d seen [] (data.map SVTExtensionData.element) := by
    rw [helements]
    exact independentInv_of_sameContent wf hsame
  have hinv := Mutating.of_run_ok (wp_extendSignatures_independent env wf hindependent
    (fun x hx => (hpast x hx).1) hstart) (extendSignatures_of_issueSvt hissue hdata)
  have hsignatures : getSignatures parsed.toHeap = getSignatures d :=
    (hback.getSignatures_eq hinv.wf).trans hinv.signatures
  have hcore : ∀ s ∈ getSignatures parsed.toHeap, SameCore d parsed.toHeap s := by
    intro s hs
    rw [hsignatures] at hs
    exact (hinv.core s hs).trans (hback.sameCore hinv.wf (hinv.signatures ▸ hs))
  -- reading the output
  obtain ⟨context', hnew'⟩ := hback.new_ok hinv.wf hnew hinv.top hbytes
  have hreadable : ∀ s ∈ getSignatures parsed.toHeap,
      ∃ r, r.element = s ∧ ReadIn env.jvm env.lib d r := by
    intro s hs
    rw [hsignatures] at hs
    obtain ⟨r, -, hr⟩ := forall₂_left hreads s hs
    exact ⟨r, hr⟩
  have htotal : Mutating.wp (readSignatures env.jvm env.lib context') _ _ parsed.toHeap :=
    wp_readSignatures_total hlib wf parsed.wellFormed hcore hreadable
  obtain ⟨readings', seen', hread', hreads', -⟩ := Mutating.run_of_wp_total htotal
  refine ⟨context', readings', seen', hnew', hread', ?_⟩
  rw [hsignatures] at hreads'
  have hpairs := forall₂_comp (forall₂_mem_left hissued)
    (forall₂_comp (forall₂_mem_left hreads.flip) (forall₂_mem_left hreads'.flip).flip)
  apply hpairs.imp
  rintro x r' ⟨r, ⟨hx, hissuedFor⟩, _, ⟨hr, rfl, hreadIn⟩, hr', helement, hreadIn'⟩
  have hmem : r.element ∈ getSignatures d := by
    rw [← hissuedFor.1, ← helements]
    exact List.mem_map_of_mem hx
  have helement' : r'.element = x.element := helement.trans hissuedFor.1.symm
  refine ⟨helement', ?_, ?_⟩
  · have hissued := signedSvtJWT_eq_some_iff.mp hissuedFor.2.2
    obtain ⟨date, hdate, hle⟩ := hfrom _ _ hissued
    rw [helement', signatureSvaTokens_of_sameBelow hinv.wf parsed.wellFormed
      (hback.sameBelow hinv.wf (by rw [hinv.signatures, hissuedFor.1]; exact hmem))]
    have hdone : (x.element, env.serialize x.signedJWT) ∈
        [] ++ data.map fun x => (x.element, env.serialize x.signedJWT) :=
      List.mem_map_of_mem (f := fun x => (x.element, env.serialize x.signedJWT)) hx
    have holder' := holder r.element hmem
    rw [← hissuedFor.1] at holder'
    exact newest_of_tokenAdded (hinv.tokens _ hdone) (hserialized x hx) hdate hle holder'
  · exact references_of_rereading hissuer hlib hkeyInfo hencoded wf parsed.wellFormed
      (hcore _ (by rw [hsignatures]; exact hmem)) hreadIn hreadIn' helement
      (hunaltered _ _ _ _ _ _ hread hread' r hr r' hr' helement) hissuedFor

end Issued

/-- **Issuer and validator.** A call has returned, the octets behind the references are the
same in its output, and the output is read back. Issuer and validator can agree only when
every signature came with an identifier. They do agree when in addition no signature lies in
another, each turn keeps to the objects of its signature, and the tokens it leaves there
were issued before the call. -/
theorem issueSvt_agreement (hissuer : issuer.svtIssuer.Lawful) (hlib : ReadsCore env.lib)
    (hkeyInfo : NeedsKeyInfo issuer) (hfrom : IssuesFrom issuer.svtIssuer start)
    (hbytes : ∀ h, WellFormed h → ∃ bytes, env.lib.getCanonicalDocBytes h = .ok bytes)
    (hencoded : ∀ cert, ∃ bytes, svt.getEncoded cert = .ok bytes)
    (hissue : (issueSvt env issuer svtMethod issueSvtOnFailedValidation).run document.toHeap =
      (.ok output, after))
    (hdata : (collectTokens env issuer svtMethod issueSvtOnFailedValidation).run document.toHeap =
      (.ok data, seen))
    (hserialized : ∀ x ∈ data, svt.parse (env.serialize x.signedJWT) = .ok x.signedJWT)
    (hback : ReadBack env.lib output after parsed)
    (hunaltered : SameReferencedData env document.toHeap parsed.toHeap) :
    (Agreement env svt issuer.svtIssuer.hashAlgoUri parsed.toHeap data →
      ∀ s ∈ getSignatures document.toHeap, (document.contentOf s).getAttribute "Id" ≠ "") ∧
    ((∀ s ∈ getSignatures document.toHeap, Independent env.jvm svtMethod document.toHeap s ∧
        LeftOlder env.jvm svt svtMethod document.toHeap start s) →
      Agreement env svt issuer.svtIssuer.hashAlgoUri parsed.toHeap data) := by
  constructor
  · exact agreement_identified hissue hdata document.wellFormed hissuer hlib hback
  · intro hcondition
    exact agreement_of_independent hissue hdata document.wellFormed hissuer hlib hkeyInfo hfrom
      hbytes hencoded hserialized hback hunaltered (fun s hs => (hcondition s hs).1)
      fun s hs => (hcondition s hs).2

end Agreement

/-! ## A signature with an identifier, and one without -/

section Demo

open XMLSVTSigValClaimsIssuer (dsElement)

/-- The document with one signature, which has these attributes. -/
def oneSignature (attributes : List (String × String)) : Document where
  nodes :=
    [⟨0, [], .document⟩, ⟨1, [0], .element "" "doc" "" []⟩,
      dsElement 2 [1, 0] "Signature" attributes, dsElement 3 [2, 1, 0] "SignedInfo" [],
      dsElement 4 [3, 2, 1, 0] "Reference" [("URI", "")]]
  idAttributes := []
  nextKey := 5
  wellFormed := of_decide_eq_true rfl

/-- The same with a token, for a signature with the identifier. -/
def oneExtended (id : String) : Document where
  nodes :=
    [⟨0, [], .document⟩, ⟨1, [0], .element "" "doc" "" []⟩,
      dsElement 2 [1, 0] "Signature" [("Id", id)], dsElement 3 [2, 1, 0] "SignedInfo" [],
      dsElement 4 [3, 2, 1, 0] "Reference" [("URI", "")], dsElement 5 [2, 1, 0] "Object" [],
      dsElement 6 [5, 2, 1, 0] "SignatureProperties" [],
      dsElement 7 [6, 5, 2, 1, 0] "SignatureProperty" [("Target", "#" ++ id)],
      ⟨8, [7, 6, 5, 2, 1, 0], .element xmlSvtNS "SignatureValidationToken" "svt" []⟩,
      ⟨9, [8, 7, 6, 5, 2, 1, 0], .text "bmV3.e30.CQ"⟩]
  idAttributes := []
  nextKey := 10
  wellFormed := of_decide_eq_true rfl

/-- The reference is to the document without its signature. Printing a document with a
token and parsing gives the second one back. -/
def coreLibrary (parsed : Document) : XMLSecurity Unit where
  newXMLSignature := fun h s =>
    match (coreChildren h s).find? (·.content.hasName xmldsigNS "SignedInfo") with
    | none => .error ⟨.io, "Missing SignedInfo"⟩
    | some signedInfo => .ok
        { signedInfo := signedInfo.key
          getId := fun seen => some ((seen.contentOf s).getAttribute "Id")
          getReferencedContentAfterTransformsItem := fun _ i => .ok [UInt8.ofNat i]
          getSignatureValue := fun _ => .ok [9]
          getCanonicalizedOctetStream := fun _ => .ok [8]
          getKeyInfo := fun _ => .ok (some ⟨.ok (some ()), [.ok (some [.ok (some ())])]⟩) }
  getDocument := fun bytes =>
    if bytes = [10] then .ok parsed else .error ⟨.io, "not a document"⟩
  getCanonicalDocBytes := fun h => .ok [UInt8.ofNat h.nodes.length]

theorem coreLibrary_readsCore (parsed : Document) : ReadsCore (coreLibrary parsed) := by
  have hinfo : ∀ {h s signature}, (coreLibrary parsed).newXMLSignature h s = .ok signature →
      ∃ c, (coreChildren h s).find? (·.content.hasName xmldsigNS "SignedInfo") = some c ∧
        signature.signedInfo = c.key ∧
        signature.getId = (fun seen => some ((seen.contentOf s).getAttribute "Id")) := by
    intro h s signature hsignature
    unfold coreLibrary at hsignature
    dsimp only at hsignature
    split at hsignature
    · cases hsignature
    · rename_i c hc
      cases hsignature
      exact ⟨c, hc, rfl, rfl⟩
  refine ⟨?_, ?_, ?_⟩
  · intro h s signature hsignature seen
    obtain ⟨c, -, -, hid⟩ := hinfo hsignature
    rw [hid]
  · intro h s signature hsignature
    obtain ⟨c, hc, hkey, -⟩ := hinfo hsignature
    exact ⟨c, List.mem_of_find?_eq_some hc, hkey.symm⟩
  · intro h h' s signature _ _ hcore hsignature
    unfold coreLibrary at hsignature ⊢
    dsimp only at hsignature ⊢
    rw [hcore.children]
    split at hsignature
    · cases hsignature
    · cases hsignature
      exact ⟨_, rfl, rfl, fun _ _ _ _ => ⟨rfl, rfl, rfl⟩⟩

def oneEnv (parsed : Document) : XmlExtensionEnv Unit := { demoEnv with lib := coreLibrary parsed }

/-- A validator that passes every signature with a certificate. -/
def certifiedIssuer : XMLSVTSigValClaimsIssuer Unit where
  svtIssuer := Jose.JOSEDocumentSVTIssuer.demoIssuer.svtIssuer
  signatureVerifier := fun _ _ signatureData => .ok
    { signerCertificate := signatureData.signerCertificate
      signatureCertificateChain := signatureData.signatureCertChain
      certificateValidationResult := some (.default [()])
      validationPolicyResultList := some
        [⟨sigValidationPolicyPkixValidation,
          if signatureData.signerCertificate.isSome then .PASSED else .FAILED, none⟩] }

theorem certifiedIssuer_needsKeyInfo : NeedsKeyInfo certifiedIssuer := by
  intro document s signatureData sigResult hresult hissue
  cases hsigner : signatureData.signerCertificate with
  | some cert => exact .inl (by simp)
  | none =>
      cases hresult
      rw [hsigner] at hissue
      cases hissue

theorem certifiedIssuer_issuesFrom : IssuesFrom certifiedIssuer.svtIssuer 0 := by
  intro verify jwt h
  obtain ⟨claims, -, h⟩ := bind_ok_iff.mp h
  cases claims with
  | none => cases h
  | some claims =>
      cases h
      exact ⟨1000, rfl, by decide⟩

/-- The tokens for the document with one signature. -/
def oneTokens (attributes : List (String × String)) (parsed : Document) : List SVTExtensionData :=
  match (collectTokens (oneEnv parsed) certifiedIssuer .EXTEND false).run
      (oneSignature attributes).toHeap with
  | (.ok data, _) => data
  | (.error _, _) => []

/-- Parses the token that was issued. -/
def oneSvt (attributes : List (String × String)) (parsed : Document) : SvtEnv Unit :=
  { emptyEnv with
    parse := fun text =>
      match oneTokens attributes parsed with
      | [x] => if text = "bmV3.e30.CQ" then .ok x.signedJWT else .error ⟨.io, "not a token"⟩
      | _ => .error ⟨.io, "not a token"⟩ }

/-- The reference is to the same octets. -/
theorem one_sameReferencedData (attributes : List (String × String)) (id : String) :
    SameReferencedData (oneEnv (oneExtended id)) (oneSignature attributes).toHeap
      (oneExtended id).toHeap := by
  intro context context' readings readings' seen seen' h h' r hr r' hr' _
  cases h
  cases h'
  obtain rfl := List.mem_singleton.mp hr
  obtain rfl := List.mem_singleton.mp hr'
  rfl

theorem one_readBack (id : String) :
    ReadBack (oneEnv (oneExtended id)).lib [10] (oneExtended id).toHeap (oneExtended id) :=
  ⟨rfl, rfl⟩

/-- Without properties and tokens nothing is touched, and nothing is left. -/
theorem one_independent {id : String} (hid : id ≠ "") :
    ∀ s ∈ getSignatures (oneSignature [("Id", id)]).toHeap,
      Independent plainJvm .EXTEND (oneSignature [("Id", id)]).toHeap s ∧
        LeftOlder plainJvm (oneSvt [("Id", id)] (oneExtended id)) .EXTEND
          (oneSignature [("Id", id)]).toHeap 0 s := by
  have hnone : ∀ k, ¬ Touched plainJvm .EXTEND (oneSignature [("Id", id)]).toHeap 2 k := by
    rintro k (htakes | ⟨hreplace, -⟩)
    · have htarget : existingTarget plainJvm (oneSignature [("Id", id)]).toHeap 2 = none := rfl
      rw [show existingTarget _ _ _ = some k from htakes] at htarget
      cases htarget
    · cases hreplace
  intro s hs
  obtain rfl : s = 2 := List.mem_singleton.mp hs
  refine ⟨⟨?_, hid, ?_⟩, ?_⟩
  · intro s' hs'
    obtain rfl : s' = 2 := List.mem_singleton.mp hs'
    exact not_mem_chain_self (oneSignature [("Id", id)]).wellFormed
  · exact ⟨fun k htouched => (hnone k htouched).elim, fun k htouched => (hnone k htouched).elim⟩
  · rintro k jwt ⟨hk, -⟩
    have hempty : tokenElements (oneSignature [("Id", id)]).toHeap 2 = [] := rfl
    rw [hempty] at hk
    cases hk

/-- The signature has an identifier, and the two agree. -/
theorem issueSvt_agreement_identified :
    (issueSvt (oneEnv (oneExtended "a")) certifiedIssuer .EXTEND false).run
        (oneSignature [("Id", "a")]).toHeap = (.ok [10], (oneExtended "a").toHeap) ∧
      (oneTokens [("Id", "a")] (oneExtended "a")).length = 1 ∧
      Agreement (oneEnv (oneExtended "a")) (oneSvt [("Id", "a")] (oneExtended "a"))
        certifiedIssuer.svtIssuer.hashAlgoUri (oneExtended "a").toHeap
        (oneTokens [("Id", "a")] (oneExtended "a")) := by
  have hissue : (issueSvt (oneEnv (oneExtended "a")) certifiedIssuer .EXTEND false).run
      (oneSignature [("Id", "a")]).toHeap = (.ok [10], (oneExtended "a").toHeap) := rfl
  have hdata : (collectTokens (oneEnv (oneExtended "a")) certifiedIssuer .EXTEND false).run
      (oneSignature [("Id", "a")]).toHeap =
        (.ok (oneTokens [("Id", "a")] (oneExtended "a")), (oneSignature [("Id", "a")]).toHeap) :=
    rfl
  refine ⟨hissue, rfl, (issueSvt_agreement Jose.JOSEDocumentSVTIssuer.demoIssuer_lawful
    (coreLibrary_readsCore _) certifiedIssuer_needsKeyInfo certifiedIssuer_issuesFrom
    (fun _ _ => ⟨_, rfl⟩) (fun _ => ⟨_, rfl⟩) hissue hdata ?_ (one_readBack "a")
    (one_sameReferencedData _ _)).2 (one_independent (by decide))⟩
  intro x hx
  obtain rfl := List.mem_singleton.mp hx
  rfl

/-- The signature has none. Everything else is as before, and the two disagree. -/
theorem unidentified_disagrees :
    Jose.JOSEDocumentSVTIssuer.demoIssuer.svtIssuer.Lawful ∧
      ReadsCore (oneEnv (oneExtended "id_1")).lib ∧ NeedsKeyInfo certifiedIssuer ∧
      IssuesFrom certifiedIssuer.svtIssuer 0 ∧
      (issueSvt (oneEnv (oneExtended "id_1")) certifiedIssuer .EXTEND false).run
        (oneSignature []).toHeap = (.ok [10], (oneExtended "id_1").toHeap) ∧
      (∀ x ∈ oneTokens [] (oneExtended "id_1"),
        (oneSvt [] (oneExtended "id_1")).parse "bmV3.e30.CQ" = .ok x.signedJWT) ∧
      ReadBack (oneEnv (oneExtended "id_1")).lib [10] (oneExtended "id_1").toHeap
        (oneExtended "id_1") ∧
      SameReferencedData (oneEnv (oneExtended "id_1")) (oneSignature []).toHeap
        (oneExtended "id_1").toHeap ∧
      ¬ Agreement (oneEnv (oneExtended "id_1")) (oneSvt [] (oneExtended "id_1"))
        certifiedIssuer.svtIssuer.hashAlgoUri (oneExtended "id_1").toHeap
        (oneTokens [] (oneExtended "id_1")) := by
  have hissue : (issueSvt (oneEnv (oneExtended "id_1")) certifiedIssuer .EXTEND false).run
      (oneSignature []).toHeap = (.ok [10], (oneExtended "id_1").toHeap) := rfl
  have hdata : (collectTokens (oneEnv (oneExtended "id_1")) certifiedIssuer .EXTEND false).run
      (oneSignature []).toHeap = (.ok (oneTokens [] (oneExtended "id_1")),
        (oneSignature []).toHeap) := rfl
  refine ⟨Jose.JOSEDocumentSVTIssuer.demoIssuer_lawful, coreLibrary_readsCore _,
    certifiedIssuer_needsKeyInfo, certifiedIssuer_issuesFrom, hissue, ?_, one_readBack _,
    one_sameReferencedData _ _, ?_⟩
  · intro x hx
    obtain rfl := List.mem_singleton.mp hx
    rfl
  · intro hagrees
    exact agreement_identified hissue hdata (oneSignature []).wellFormed
      Jose.JOSEDocumentSVTIssuer.demoIssuer_lawful (coreLibrary_readsCore _) (one_readBack _)
      hagrees 2 List.mem_cons_self rfl

end Demo

end SigVal.Xml.XMLDocumentSVTIssuer
