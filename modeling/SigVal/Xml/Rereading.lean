import SigVal.Xml.TokenSearch

/-!
# Reading a signature in two documents

The issuer reads the signatures of a document before it adds the tokens, the validator
those of the document with the tokens. The signature value, the canonical `SignedInfo` and
the certificates come from the children of the signature element that are no objects, so
that two documents in which these are the same are read alike. The identifier comes from
the signature element itself.
-/

namespace SigVal.Xml

open SigVal.Java SigVal.LinkedDom Heap
open DefaultXMLSignatureContext
open XMLDocumentSVTIssuer (coreChildren SameCore getSignatures)
open Svt.XMLSVTValidator (xmldsigNS)

variable {Cert : Type} {jvm : Jvm} {lib : XMLSecurity Cert} {context : DefaultXMLSignatureContext}
  {d h h' seen after : Heap} {s : Key}

/-- What is relied on of the XML security library: `getId` returns the attribute, the
empty text when it is absent, and the rest is read from the children of the signature
element beside its objects, with the elements around them. -/
structure ReadsCore (lib : XMLSecurity Cert) : Prop where
  getId : ∀ h s signature, lib.newXMLSignature h s = .ok signature →
    ∀ seen, signature.getId seen = some ((seen.contentOf s).getAttribute "Id")
  signedInfo : ∀ h s signature, lib.newXMLSignature h s = .ok signature →
    ∃ c ∈ coreChildren h s, c.key = signature.signedInfo
  sameCore : ∀ h h' s signature, WellFormed h → WellFormed h' → SameCore h h' s →
    lib.newXMLSignature h s = .ok signature →
    ∃ signature', lib.newXMLSignature h' s = .ok signature' ∧
      signature'.signedInfo = signature.signedInfo ∧
      ∀ seen seen', SameContent h seen → SameContent h' seen' →
        signature'.getSignatureValue seen' = signature.getSignatureValue seen ∧
        signature'.getCanonicalizedOctetStream seen' =
          signature.getCanonicalizedOctetStream seen ∧
        signature'.getKeyInfo seen' = signature.getKeyInfo seen

/-! ## When reading succeeds -/

/-- The first transform of the reference is not of version 2.0. -/
def Accepted (jvm : Jvm) (document : Heap) (refElement : Key) : Prop :=
  (getTransformAlgorithm document refElement).any (jvm.equalsIgnoreCase xmldsigV2Transform) = false

/-- The data that is returned, as it was read. -/
structure ReadsData (jvm : Jvm) (lib : XMLSecurity Cert) (document : Heap) (sigNode : Key)
    (data : RawSignatureData Cert) (after : Heap) : Prop where
  signature : lib.newXMLSignature document sigNode = .ok data.signature
  accepted : ∀ ref ∈ referenceElements document data.signature, Accepted jvm document ref
  signatureBytes : ∃ bytes, data.signature.getSignatureValue after = .ok bytes ∧
    data.signatureBytes = some bytes
  signedInfoBytes : ∃ bytes, data.signature.getCanonicalizedOctetStream after = .ok bytes ∧
    data.signedInfoBytes = some bytes
  keyInfo : ∃ keyInfo, data.signature.getKeyInfo after = .ok keyInfo ∧
    data.signatureCertChain = keyInfo.map getAllSignatureCertificates ∧
    ∀ info, keyInfo = some info → ∃ cert, info.getX509Certificate = .ok cert
  signer : data.signatureCertChain = none → data.signerCertificate = none
  sameContent : SameContent document after

/-- Nothing is thrown on the way. -/
def Readable (jvm : Jvm) (lib : XMLSecurity Cert) (document : Heap) (sigNode : Key) : Prop :=
  ∃ signature, lib.newXMLSignature document sigNode = .ok signature ∧
    (∀ ref ∈ referenceElements document signature, Accepted jvm document ref) ∧
    ∀ seen, SameContent document seen →
      (∃ bytes, signature.getSignatureValue seen = .ok bytes) ∧
      (∃ bytes, signature.getCanonicalizedOctetStream seen = .ok bytes) ∧
      ∃ keyInfo, signature.getKeyInfo seen = .ok keyInfo ∧
        ∀ info, keyInfo = some info → ∃ cert, info.getX509Certificate = .ok cert

theorem accepted_of_sameContent {ref : Key} (hsame : SameContent h h') :
    Accepted jvm h' ref ↔ Accepted jvm h ref := by
  obtain ⟨nodes, idAttributes, nextKey⟩ := h'
  obtain ⟨rfl, rfl⟩ := hsame
  exact Iff.rfl

theorem wp_collectReferences_accepted {signature : SignatureObject Cert} (refElements : List Key)
    (i : Nat) (referencedDataMap : List (String × Option Bytes)) (document : Heap) :
    Mutating.wp (collectReferences jvm signature refElements i referencedDataMap)
      (fun _ after => (∀ ref ∈ refElements, Accepted jvm document ref) ∧
        SameContent document after)
      (fun _ _ => ∃ ref ∈ refElements, ¬ Accepted jvm document ref) document := by
  induction refElements generalizing i referencedDataMap document with
  | nil => exact ⟨by simp, .refl _⟩
  | cons refElement rest ih =>
      unfold collectReferences
      rw [Mutating.wp_bind, Mutating.wp_get]
      dsimp only
      split
      · rename_i hrefused
        refine ⟨refElement, List.mem_cons_self, ?_⟩
        intro haccepted
        rw [show _ = false from haccepted] at hrefused
        cases hrefused
      · rename_i haccepted
        have hsame := sameContent_registerUri document (uriOf document refElement)
        refine Mutating.wp_mono (ih (i + 1) _ _) ?_ ?_
        · rintro - after ⟨hall, hafter⟩
          refine ⟨?_, hsame.trans hafter⟩
          intro ref href
          rcases List.mem_cons.mp href with rfl | href
          · exact Bool.eq_false_iff.mpr haccepted
          · exact (accepted_of_sameContent hsame).mp (hall ref href)
        · rintro - after ⟨ref, href, hnot⟩
          refine ⟨ref, List.mem_cons_of_mem _ href, ?_⟩
          rw [← accepted_of_sameContent hsame]
          exact hnot

/-- **Reading one signature.** -/
theorem wp_getSignatureData_iff (document : Heap) (sigNode : Key) :
    Mutating.wp (getSignatureData jvm lib context sigNode) (ReadsData jvm lib document sigNode)
      (fun _ _ => ¬ Readable jvm lib document sigNode) document := by
  unfold getSignatureData
  rw [Mutating.wp_catching]
  simp only [Mutating.wp_throw]
  unfold readSignatureData
  rw [Mutating.wp_bind, Mutating.wp_get, Mutating.wp_bind, Mutating.wp_call]
  refine ⟨?_, ?_⟩
  · intro signature hsignature
    rw [Mutating.wp_bind]
    refine Mutating.wp_mono (wp_collectReferences_accepted _ _ _ _) ?_ ?_
    · rintro refDataMap after ⟨haccepted, hsame⟩
      have hgets : Readable jvm lib document sigNode →
          (∃ bytes, signature.getSignatureValue after = .ok bytes) ∧
          (∃ bytes, signature.getCanonicalizedOctetStream after = .ok bytes) ∧
          ∃ keyInfo, signature.getKeyInfo after = .ok keyInfo ∧
            ∀ info, keyInfo = some info → ∃ cert, info.getX509Certificate = .ok cert := by
        rintro ⟨signature', hsignature', -, hreads⟩
        rw [hsignature] at hsignature'
        cases hsignature'
        exact hreads after hsame
      rw [Mutating.wp_bind, Mutating.wp_get, Mutating.wp_bind, Mutating.wp_call]
      refine ⟨?_, ?_⟩
      · intro signatureBytes hvalue
        rw [Mutating.wp_bind, Mutating.wp_call]
        refine ⟨?_, ?_⟩
        · intro signedInfoBytes hinfo
          dsimp only
          rw [Mutating.wp_bind, Mutating.wp_call]
          refine ⟨?_, ?_⟩
          · intro keyInfo hkeyInfo
            cases keyInfo with
            | none =>
                exact ⟨hsignature, haccepted, ⟨_, hvalue, rfl⟩, ⟨_, hinfo, rfl⟩,
                  ⟨_, hkeyInfo, rfl, by simp⟩, fun _ => rfl, hsame⟩
            | some info =>
                dsimp only
                rw [Mutating.wp_bind, Mutating.wp_call]
                refine ⟨?_, ?_⟩
                · intro cert hcert
                  refine ⟨hsignature, haccepted, ⟨_, hvalue, rfl⟩, ⟨_, hinfo, rfl⟩,
                    ⟨_, hkeyInfo, rfl, ?_⟩, by simp, hsame⟩
                  rintro info' ⟨⟩
                  exact ⟨cert, hcert⟩
                · intro ex hex hreadable
                  obtain ⟨-, -, keyInfo, hkeyInfo', hcert⟩ := hgets hreadable
                  rw [hkeyInfo] at hkeyInfo'
                  cases hkeyInfo'
                  obtain ⟨cert, hcert⟩ := hcert info rfl
                  rw [hex] at hcert
                  cases hcert
          · intro ex hex hreadable
            obtain ⟨-, -, keyInfo, hkeyInfo, -⟩ := hgets hreadable
            rw [hex] at hkeyInfo
            cases hkeyInfo
        · intro ex hex hreadable
          obtain ⟨-, ⟨bytes, hbytes⟩, -⟩ := hgets hreadable
          rw [hex] at hbytes
          cases hbytes
      · intro ex hex hreadable
        obtain ⟨⟨bytes, hbytes⟩, -⟩ := hgets hreadable
        rw [hex] at hbytes
        cases hbytes
    · rintro - after ⟨ref, href, hnot⟩ ⟨signature', hsignature', haccepted, -⟩
      rw [hsignature] at hsignature'
      cases hsignature'
      exact hnot (haccepted ref href)
  · rintro ex hex ⟨signature, hsignature, -⟩
    rw [hex] at hsignature
    cases hsignature

/-! ## The same core -/

section SameCore

variable (hlib : ReadsCore lib) {data data' : RawSignatureData Cert}

theorem sameCore_of_sameContent {seen' : Heap} (hcore : SameCore h h' s)
    (hseen : SameContent h seen) (hseen' : SameContent h' seen') : SameCore seen seen' s := by
  obtain ⟨nodes, idAttributes, nextKey⟩ := seen
  obtain ⟨nodes', idAttributes', nextKey'⟩ := seen'
  obtain ⟨rfl, rfl⟩ := hseen
  obtain ⟨rfl, rfl⟩ := hseen'
  exact ⟨hcore.chain, hcore.around, hcore.children, hcore.below⟩

theorem wellFormed_of_sameContent (wf : WellFormed h) (hsame : SameContent h h') :
    WellFormed h' := by
  obtain ⟨nodes, idAttributes, nextKey⟩ := h'
  obtain ⟨rfl, rfl⟩ := hsame
  exact ⟨wf.keys_nodup, wf.fresh, wf.coherent, wf.ordered, wf.root⟩

/-- The references of a signature lie in its core. -/
theorem accepted_of_sameCore (wf : WellFormed h) (wf' : WellFormed h') {c : Key}
    (hbelow : h'.below c = h.below c) {ref : Key} (hcref : c ∈ h.chain ref) :
    Accepted jvm h' ref ↔ Accepted jvm h ref := by
  have htransforms : h'.getElementsByTagNameNS ref xmldsigNS "Transform" =
      h.getElementsByTagNameNS ref xmldsigNS "Transform" := by
    unfold getElementsByTagNameNS
    rw [below_of_sameBelow wf wf' hbelow hcref]
  have halgorithm : getTransformAlgorithm h' ref = getTransformAlgorithm h ref := by
    unfold getTransformAlgorithm
    rw [htransforms]
    cases htransform : h.getElementsByTagNameNS ref xmldsigNS "Transform" with
    | nil => rfl
    | cons transformElement rest =>
        have hmem : transformElement ∈ h.getElementsByTagNameNS ref xmldsigNS "Transform" := by
          rw [htransform]
          exact List.mem_cons_self
        obtain ⟨n, hn, hrefn, -, rfl⟩ := mem_getElementsByTagNameNS.mp hmem
        rw [← chain_of_mem wf hn] at hrefn
        simp only [contentOf_of_sameBelow wf wf' hbelow (mem_chain_trans wf hrefn hcref)]
  unfold Accepted
  rw [halgorithm]

include hlib

/-- A signature that was read in one document can be read in the other. -/
theorem readable_of_sameCore (wf : WellFormed h) (wf' : WellFormed h') (hcore : SameCore h h' s)
    (hreads : ReadsData jvm lib h s data after) : Readable jvm lib h' s := by
  obtain ⟨signature', hsignature', hinfo, hgets⟩ :=
    hlib.sameCore h h' s data.signature wf wf' hcore hreads.signature
  obtain ⟨c, hc, hckey⟩ := hlib.signedInfo h s data.signature hreads.signature
  have hbelow := hcore.below c hc
  refine ⟨signature', hsignature', ?_, ?_⟩
  · have hrefs : referenceElements h' signature' = referenceElements h data.signature := by
      unfold referenceElements getElementsByTagNameNS
      rw [hinfo, ← hckey, hbelow]
    rw [hrefs]
    intro ref href
    obtain ⟨n, hn, hcn, -, rfl⟩ := mem_getElementsByTagNameNS.mp href
    rw [← hckey, ← chain_of_mem wf hn] at hcn
    rw [accepted_of_sameCore wf wf' hbelow hcn]
    exact hreads.accepted _ href
  · intro seen hseen
    obtain ⟨hvalue, hcanonical, hkeyInfo⟩ := hgets after seen hreads.sameContent hseen
    obtain ⟨value, hvalue', -⟩ := hreads.signatureBytes
    obtain ⟨octets, hcanonical', -⟩ := hreads.signedInfoBytes
    obtain ⟨keyInfo, hkeyInfo', -, hcert⟩ := hreads.keyInfo
    exact ⟨⟨value, hvalue.trans hvalue'⟩, ⟨octets, hcanonical.trans hcanonical'⟩,
      keyInfo, hkeyInfo.trans hkeyInfo', hcert⟩

/-- What is read in both is the same, but for the identifier and the references. -/
theorem sameData_of_sameCore {after' : Heap} (wf : WellFormed h) (wf' : WellFormed h')
    (hcore : SameCore h h' s) (hreads : ReadsData jvm lib h s data after)
    (hreads' : ReadsData jvm lib h' s data' after') :
    data'.signatureBytes = data.signatureBytes ∧ data'.signedInfoBytes = data.signedInfoBytes ∧
      data'.signatureCertChain = data.signatureCertChain := by
  obtain ⟨signature', hsignature', -, hgets⟩ :=
    hlib.sameCore h h' s data.signature wf wf' hcore hreads.signature
  rw [hreads'.signature] at hsignature'
  cases hsignature'
  obtain ⟨hvalue, hcanonical, hkeyInfo⟩ :=
    hgets after after' hreads.sameContent hreads'.sameContent
  obtain ⟨value, hget, hbytes⟩ := hreads.signatureBytes
  obtain ⟨value', hget', hbytes'⟩ := hreads'.signatureBytes
  obtain ⟨octets, hoctets, hinfo⟩ := hreads.signedInfoBytes
  obtain ⟨octets', hoctets', hinfo'⟩ := hreads'.signedInfoBytes
  obtain ⟨keyInfo, hinfoOf, hchain, -⟩ := hreads.keyInfo
  obtain ⟨keyInfo', hinfoOf', hchain', -⟩ := hreads'.keyInfo
  rw [hget', hget] at hvalue
  rw [hoctets', hoctets] at hcanonical
  rw [hinfoOf', hinfoOf] at hkeyInfo
  cases hvalue
  cases hcanonical
  cases hkeyInfo
  exact ⟨hbytes'.trans hbytes.symm, hinfo'.trans hinfo.symm, hchain'.trans hchain.symm⟩

end SameCore

/-! ## All signatures of a document -/

/-- A signature that was read, with the document at this point. -/
structure Reading (Cert : Type) where
  element : Key
  data : RawSignatureData Cert
  document : Heap

def readSignature (jvm : Jvm) (lib : XMLSecurity Cert) (context : DefaultXMLSignatureContext)
    (signature : Key) : Mutating Heap (Reading Cert) := do
  let signatureData ← getSignatureData jvm lib context signature
  let document ← get
  pure ⟨signature, signatureData, document⟩

/-- The signatures in document order, as issuer and validator go through them. -/
def readSignatures (jvm : Jvm) (lib : XMLSecurity Cert) (context : DefaultXMLSignatureContext) :
    Mutating Heap (List (Reading Cert)) := do
  let document ← get
  (getSignatures document).mapM (readSignature jvm lib context)

/-- The reading was made in a document with the content of `h`. -/
def ReadIn (jvm : Jvm) (lib : XMLSecurity Cert) (h : Heap) (r : Reading Cert) : Prop :=
  ∃ seen, SameContent h seen ∧ ReadsData jvm lib seen r.element r.data r.document

/-- The identifier of a reading is the one of the document. -/
theorem ReadIn.getId {r : Reading Cert} (hlib : ReadsCore lib) (hread : ReadIn jvm lib h r) :
    r.data.signature.getId r.document = some ((h.contentOf r.element).getAttribute "Id") := by
  obtain ⟨seen, hseen, hreads⟩ := hread
  rw [hlib.getId _ _ _ hreads.signature,
    contentOf_of_sameContent (hseen.trans hreads.sameContent)]

/-- Two readings of a signature with the same core. -/
theorem ReadIn.sameData {r r' : Reading Cert} (hlib : ReadsCore lib) (wf : WellFormed h)
    (wf' : WellFormed h') (hcore : SameCore h h' r.element) (hread : ReadIn jvm lib h r)
    (hread' : ReadIn jvm lib h' r') (helement : r'.element = r.element) :
    r'.data.signatureBytes = r.data.signatureBytes ∧
      r'.data.signedInfoBytes = r.data.signedInfoBytes ∧
      r'.data.signatureCertChain = r.data.signatureCertChain := by
  obtain ⟨seen, hseen, hreads⟩ := hread
  obtain ⟨seen', hseen', hreads'⟩ := hread'
  rw [helement] at hreads'
  exact sameData_of_sameCore hlib (wellFormed_of_sameContent wf hseen)
    (wellFormed_of_sameContent wf' hseen') (sameCore_of_sameContent hcore hseen hseen') hreads
    hreads'

theorem wp_readSignature (hseen : SameContent h seen) :
    Mutating.wp (readSignature jvm lib context s)
      (fun r after => (r.element = s ∧ ReadIn jvm lib h r) ∧ SameContent h after)
      (fun _ _ => ¬ Readable jvm lib seen s) seen := by
  unfold readSignature
  rw [Mutating.wp_bind]
  refine Mutating.wp_mono (wp_getSignatureData_iff seen s) ?_ fun _ _ h => h
  intro data after hreads
  rw [Mutating.wp_bind, Mutating.wp_get]
  exact ⟨⟨rfl, seen, hseen, hreads⟩, hseen.trans hreads.sameContent⟩

/-- The signatures are read, each in a document with the same content. -/
theorem wp_readSignatures :
    Mutating.wp (readSignatures jvm lib context)
      (fun rs after => List.Forall₂ (fun s r => r.element = s ∧ ReadIn jvm lib h r)
        (getSignatures h) rs ∧ SameContent h after) (fun _ _ => True) h := by
  unfold readSignatures
  rw [Mutating.wp_bind, Mutating.wp_get]
  exact Mutating.wp_mapM (fun s _ seen hseen =>
    Mutating.wp_mono (wp_readSignature hseen) (fun _ _ h => h) fun _ _ _ => trivial) (.refl h)

/-- With the same cores the signatures of the second document can be read. -/
theorem wp_readSignatures_total (hlib : ReadsCore lib) (wf : WellFormed d) (wf' : WellFormed h)
    (hcore : ∀ s ∈ getSignatures h, SameCore d h s)
    (hread : ∀ s ∈ getSignatures h, ∃ r, r.element = s ∧ ReadIn jvm lib d r) :
    Mutating.wp (readSignatures jvm lib context)
      (fun rs after => List.Forall₂ (fun s r => r.element = s ∧ ReadIn jvm lib h r)
        (getSignatures h) rs ∧ SameContent h after) (fun _ _ => False) h := by
  unfold readSignatures
  rw [Mutating.wp_bind, Mutating.wp_get]
  refine Mutating.wp_mapM (fun s hs seen hseen => ?_) (.refl h)
  apply Mutating.wp_mono (wp_readSignature hseen) (fun _ _ h => h)
  intro _ _ hnot
  obtain ⟨r, rfl, seen', hseen', hreads⟩ := hread s hs
  exact hnot (readable_of_sameCore hlib (wellFormed_of_sameContent wf hseen')
    (wellFormed_of_sameContent wf' hseen)
    (sameCore_of_sameContent (hcore _ hs) hseen' hseen) hreads)

end SigVal.Xml
