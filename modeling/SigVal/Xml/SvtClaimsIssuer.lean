import SigVal.Jose.SvtClaimsIssuer
import SigVal.Xml.ElementValidator
import SigVal.Xml.SignatureContext

/-!
# SVT claims about an XML signature

`XMLSVTSigValClaimsIssuer` builds the claims of one signature from its `SignatureData`,
and `XMLSVTValidator` hashes the same data when it meets the token. Both go through the
map of referenced data, which has one entry for each URI. References that share a URI
and differ in their transforms are one entry there, and one entry in the token.
-/

namespace SigVal.Xml

open SigVal.Java SigVal.LinkedDom SigVal.Cert SigVal.Commons SigVal.Svt
open AbstractSVTSigValClaimsIssuer DefaultXMLSignatureContext
open Jose (SVTIssuer SVTExtendpolicy CarriesClaims withIssuerDigests
  toBase64Digest_withIssuerDigests)

variable {Cert : Type}

/-- `XMLSigValInput`. -/
structure XMLSigValInput (Cert : Type) where
  signatureElement : Key
  signatureData : RawSignatureData Cert
  svtMethod : SVTExtendpolicy

/-- `XMLSVTSigValClaimsIssuer`. The validator of the signature is an interface; it reads
the document. -/
structure XMLSVTSigValClaimsIssuer (Cert : Type) where
  svtIssuer : SVTIssuer
  defaultBasicValidation : Bool := false
  signatureVerifier : Heap → Key → RawSignatureData Cert → Outcome (XmlResult Cert)

/-- The libraries of an XML issuer. -/
structure XmlIssuerEnv (Cert : Type) where
  jvm : Jvm
  lib : XMLSecurity Cert
  claims : ClaimsIssuerEnv Cert (TimeStamp Cert)

namespace XMLSVTSigValClaimsIssuer

/-- A token is issued when some policy passed, as in the JOSE class. -/
def isIssueSVT (sigResult : XmlResult Cert) : Bool :=
  Jose.JOSESVTSigValClaimsIssuer.isIssueSVT sigResult

/-- `DigestAlgorithmRegistry.get(hashAlgoUri).getInstance()`. -/
def digestInstance (env : XmlIssuerEnv Cert) (hashAlgoUri : String) : Outcome (Bytes → Bytes) := do
  let digestAlgorithm ← DigestAlgorithmRegistry.get env.claims.registry (some hashAlgoUri)
  env.claims.getInstance digestAlgorithm

/-- The entry of one reference. -/
def signedDataClaims (env : XmlIssuerEnv Cert) (digest : Bytes → Bytes) (ref : String × Bytes) :
    SignedDataClaims :=
  ⟨ref.1, env.claims.encodeBase64String (digest ref.2)⟩

def getDocRefHashes (env : XmlIssuerEnv Cert) (refDataMap : List (String × Option Bytes))
    (hashAlgoUri : String) : Outcome (List SignedDataClaims) :=
  (env.jvm.entriesInOrder refDataMap).mapM fun ref =>
    match ref.2 with
    | none => throw ⟨.io, "Missing referenced data in signed document. " ++
        "Unable to collect signed data references for SVT"⟩
    | some signedBytes => do
        let digest ← digestInstance env hashAlgoUri
        pure (signedDataClaims env digest (ref.1, signedBytes))

def getSigRefData (env : XmlIssuerEnv Cert) (document : Heap)
    (signatureData : RawSignatureData Cert) (hashAlgoUri : String) : Outcome SigReferenceClaims :=
  match signatureData.signatureBytes, signatureData.signedInfoBytes with
  | some signatureBytes, some signedInfoBytes => do
      let digest ← digestInstance env hashAlgoUri
      pure
        { id := signatureData.signature.getId document
          sbHash := env.claims.encodeBase64String (digest signedInfoBytes)
          sigHash := env.claims.encodeBase64String (digest signatureBytes) }
  | _, _ => .error ⟨.io, "No signature or signed document bytes available"⟩

/-- `verify`, `null` when no token is to be issued. -/
def verify [DecidableEq Cert] (env : XmlIssuerEnv Cert) (issuer : XMLSVTSigValClaimsIssuer Cert)
    (document : Heap) (sigValInput : XMLSigValInput Cert) (hashAlgoUri : String) :
    Outcome (Option (List IssuedSignatureClaims)) := do
  let signatureData := sigValInput.signatureData
  let sigResult ← issuer.signatureVerifier document sigValInput.signatureElement signatureData
  if isIssueSVT sigResult then do
    let sigRef ← getSigRefData env document signatureData hashAlgoUri
    let sigVal ← getSignaturePolicyValidations issuer.defaultBasicValidation sigResult
    let sigDataRef ← getDocRefHashes env signatureData.refDataMap hashAlgoUri
    let timeVal ← timeVal env.claims sigResult hashAlgoUri
    let signerCertRef ← getCertRef env.claims sigResult hashAlgoUri
    pure (some [⟨sigRef, sigVal, sigDataRef, timeVal, signerCertRef⟩])
  else pure none

/-- `getSignedSvtJWT`, inherited, with the `verify` above. -/
def getSignedSvtJWT [DecidableEq Cert] (env : XmlIssuerEnv Cert)
    (issuer : XMLSVTSigValClaimsIssuer Cert) (document : Heap)
    (sigValInput : XMLSigValInput Cert) : Outcome (Option SignedJWT) :=
  issuer.svtIssuer.getSignedSvtJWT (verify env issuer document sigValInput)

end XMLSVTSigValClaimsIssuer

/-- The data as the validator reads it, once nothing it reads is `null`. -/
def RawSignatureData.toSvtData (jvm : Jvm) (document : Heap)
    (signatureData : RawSignatureData Cert) : Option (XMLSVTValidator.SignatureData Cert) := do
  let refDataMap ← (jvm.entriesInOrder signatureData.refDataMap).mapM fun ref =>
    ref.2.map (Prod.mk ref.1)
  let signatureBytes ← signatureData.signatureBytes
  let signedInfoBytes ← signatureData.signedInfoBytes
  let signatureCertChain ← signatureData.signatureCertChain
  pure
    { signatureId := signatureData.signature.getId document
      refDataMap := refDataMap
      signatureBytes := signatureBytes
      signedInfoBytes := signedInfoBytes
      signatureCertChain := signatureCertChain }

/-! ## One entry for each reference -/

namespace XMLSVTSigValClaimsIssuer

/-- The references whose data can be resolved. -/
def resolvable (refs : List (String × Option Bytes)) : List (String × Bytes) :=
  refs.filterMap fun ref => ref.2.map (Prod.mk ref.1)

theorem mem_resolvable {refs : List (String × Option Bytes)} {uri : String} {octets : Bytes} :
    (uri, octets) ∈ resolvable refs ↔ (uri, some octets) ∈ refs := by
  unfold resolvable
  rw [List.mem_filterMap]
  constructor
  · rintro ⟨⟨uri', data⟩, hmem, h⟩
    obtain ⟨octets', hdata, heq⟩ := Option.map_eq_some_iff.mp h
    cases heq
    cases hdata
    exact hmem
  · intro hmem
    exact ⟨_, hmem, rfl⟩

section References

variable {env : XmlIssuerEnv Cert} {hashAlgoUri : String} {digest : Bytes → Bytes}
  {refs : List (String × Option Bytes)}

/-- The claims about referenced data are the entries of the map, of which none is `null`. -/
theorem getDocRefHashes_ok {refDataMap : List (String × Option Bytes)}
    {sigDataRef : List SignedDataClaims} (hdigest : digestInstance env hashAlgoUri = .ok digest)
    (h : getDocRefHashes env refDataMap hashAlgoUri = .ok sigDataRef) :
    ∃ entries : List (String × Bytes),
      env.jvm.entriesInOrder refDataMap = entries.map (fun ref => (ref.1, some ref.2)) ∧
      sigDataRef = entries.map (signedDataClaims env digest) := by
  unfold getDocRefHashes at h
  generalize env.jvm.entriesInOrder refDataMap = visited at h
  induction visited generalizing sigDataRef with
  | nil =>
      cases h
      exact ⟨[], rfl, rfl⟩
  | cons ref rest ih =>
      rw [List.mapM_cons] at h
      obtain ⟨claims, hclaims, h⟩ := bind_ok_iff.mp h
      obtain ⟨claimsRest, hrest, h⟩ := bind_ok_iff.mp h
      cases h
      obtain ⟨entries, rfl, rfl⟩ := ih hrest
      obtain ⟨uri, data⟩ := ref
      cases data with
      | none => cases hclaims
      | some octets =>
          simp only [hdigest] at hclaims
          cases hclaims
          exact ⟨(uri, octets) :: entries, rfl, rfl⟩

/-- The entries of the map are resolvable references, one for each URI: the last one. -/
theorem entries_of_references {entries : List (String × Bytes)}
    (hentries : env.jvm.entriesInOrder (putEntries [] refs) =
      entries.map fun ref => (ref.1, some ref.2)) :
    (entries.map Prod.fst).Nodup ∧ (∀ ref ∈ entries, ref ∈ resolvable refs) ∧
      ∀ ref ∈ resolvable refs, ∃ octets, (ref.1, octets) ∈ entries := by
  have hvisited : ∀ uri octets, (uri, octets) ∈ entries ↔
      refs.reverse.lookup uri = some (some octets) := by
    intro uri octets
    have hmem : (uri, some octets) ∈ env.jvm.entriesInOrder (putEntries [] refs) ↔
        refs.reverse.lookup uri = some (some octets) := by
      rw [Jvm.mem_entriesInOrder, lookup_putEntries]
      simp
    rw [← hmem, hentries, List.mem_map]
    constructor
    · intro h
      exact ⟨_, h, rfl⟩
    · rintro ⟨⟨uri', octets'⟩, h, heq⟩
      cases heq
      exact h
  refine ⟨?_, ?_, ?_⟩
  · have hkeys : ((putEntries [] refs).map Prod.fst).Nodup := nodup_putEntries List.nodup_nil
    have hnodup := env.jvm.nodup_entriesInOrder hkeys
    rw [hentries, List.map_map] at hnodup
    exact hnodup
  · rintro ⟨uri, octets⟩ hmem
    exact mem_resolvable.mpr
      (List.mem_reverse.mp (mem_of_lookup ((hvisited uri octets).mp hmem)))
  · rintro ⟨uri, octets⟩ hmem
    have hin : (uri, some octets) ∈ refs.reverse :=
      List.mem_reverse.mpr (mem_resolvable.mp hmem)
    -- the key is visited, with data
    cases hlast : refs.reverse.lookup uri with
    | none => exact absurd (List.lookup_eq_none_iff.mp hlast _ hin) (by simp)
    | some data =>
        have hall : (uri, data) ∈ entries.map fun ref => (ref.1, some ref.2) := by
          rw [← hentries, Jvm.mem_entriesInOrder, lookup_putEntries, hlast]
          rfl
        obtain ⟨⟨uri', octets'⟩, hmem', heq⟩ := List.mem_map.mp hall
        cases heq
        exact ⟨octets', hmem'⟩

/-- The entries are the resolvable references exactly when these have distinct URIs. -/
theorem perm_resolvable_iff {entries : List (String × Bytes)}
    (hentries : env.jvm.entriesInOrder (putEntries [] refs) =
      entries.map fun ref => (ref.1, some ref.2)) :
    ((resolvable refs).map (signedDataClaims env digest)).Perm
        (entries.map (signedDataClaims env digest)) ↔
      ((resolvable refs).map Prod.fst).Nodup := by
  obtain ⟨hnodup, hsub, hcover⟩ := entries_of_references hentries
  have huris : ∀ l : List (String × Bytes),
      (l.map (signedDataClaims env digest)).map SignedDataClaims.ref = l.map Prod.fst := by
    intro l
    rw [List.map_map]
    rfl
  constructor
  · intro hperm
    have huri := hperm.map SignedDataClaims.ref
    rw [huris, huris] at huri
    exact huri.nodup_iff.mpr hnodup
  · intro hdistinct
    refine List.Perm.map _ ((List.perm_ext_iff_of_nodup hdistinct.of_map hnodup.of_map).mpr ?_)
    rintro ⟨uri, octets⟩
    constructor
    · intro hmem
      obtain ⟨octets', hmem'⟩ := hcover _ hmem
      have heq : ((uri, octets) : String × Bytes) = (uri, octets') :=
        List.inj_on_of_nodup_map hdistinct hmem (hsub _ hmem') rfl
      rw [heq]
      exact hmem'
    · exact hsub _

end References

/-! ## What the issuer and the validator do with them -/

section Issued

variable {env : XmlIssuerEnv Cert} {issuer : XMLSVTSigValClaimsIssuer Cert}
  {document : Heap} {sigValInput : XMLSigValInput Cert} {hashAlgoUri : String}

theorem getSigRefData_ok {signatureData : RawSignatureData Cert} {sigRef : SigReferenceClaims}
    (h : getSigRefData env document signatureData hashAlgoUri = .ok sigRef) :
    ∃ digest signatureBytes signedInfoBytes, digestInstance env hashAlgoUri = .ok digest ∧
      signatureData.signatureBytes = some signatureBytes ∧
      signatureData.signedInfoBytes = some signedInfoBytes ∧
      sigRef = ⟨signatureData.signature.getId document,
        env.claims.encodeBase64String (digest signatureBytes),
        env.claims.encodeBase64String (digest signedInfoBytes)⟩ := by
  unfold getSigRefData at h
  split at h
  · rename_i signatureBytes signedInfoBytes hbytes hinfo
    obtain ⟨digest, hdigest, h⟩ := bind_ok_iff.mp h
    cases h
    exact ⟨digest, signatureBytes, signedInfoBytes, hdigest, hbytes, hinfo, rfl⟩
  · cases h

/-- Claims are built for one signature, from its validation result. -/
theorem verify_some [DecidableEq Cert] {claimsList : List IssuedSignatureClaims}
    (h : verify env issuer document sigValInput hashAlgoUri = .ok (some claimsList)) :
    ∃ claims sigResult, claimsList = [claims] ∧
      issuer.signatureVerifier document sigValInput.signatureElement sigValInput.signatureData =
        .ok sigResult ∧
      isIssueSVT sigResult = true ∧
      getSigRefData env document sigValInput.signatureData hashAlgoUri = .ok claims.sigRef ∧
      getSignaturePolicyValidations issuer.defaultBasicValidation sigResult = .ok claims.sigVal ∧
      getDocRefHashes env sigValInput.signatureData.refDataMap hashAlgoUri =
        .ok claims.sigDataRef ∧
      timeVal env.claims sigResult hashAlgoUri = .ok claims.timeVal := by
  unfold verify at h
  obtain ⟨sigResult, hresult, h⟩ := bind_ok_iff.mp h
  split at h
  · rename_i hissue
    obtain ⟨sigRef, hsigRef, h⟩ := bind_ok_iff.mp h
    obtain ⟨sigVal, hsigVal, h⟩ := bind_ok_iff.mp h
    obtain ⟨sigDataRef, hsigDataRef, h⟩ := bind_ok_iff.mp h
    obtain ⟨timeVal, htimeVal, h⟩ := bind_ok_iff.mp h
    obtain ⟨signerCertRef, -, h⟩ := bind_ok_iff.mp h
    cases h
    exact ⟨_, sigResult, rfl, hresult, hissue, hsigRef, hsigVal, hsigDataRef, htimeVal⟩
  · cases h

/-- The validator hashes the entries of the map with the digest of the token. -/
theorem signedDataRefList_eq {claimsList : List IssuedSignatureClaims} {digest : Bytes → Bytes}
    (hdigest : digestInstance env hashAlgoUri = .ok digest) {jwt : SignedJWT}
    (hcarries : CarriesClaims jwt hashAlgoUri claimsList) {svt : SvtEnv Cert}
    {input : XMLSVTValidator.XMLSigValInput Cert} {svtResult : SignatureSVTData}
    (h : XMLSVTValidator.collectSignatureSVTData (withIssuerDigests env.claims svt) input
      (some jwt) = .ok svtResult) :
    svtResult.signedDataRefList =
      input.signatureData.refDataMap.map (signedDataClaims env digest) := by
  obtain ⟨claimsSet, hclaimsSet, hsvtClaims⟩ := hcarries
  obtain ⟨algorithm, halgorithm, hinstance⟩ := bind_ok_iff.mp hdigest
  obtain ⟨cs, svtClaims, algorithm', hjwt, hcs, hclaims, halgorithm', -, hrefs⟩ :=
    XMLSVTValidator.collect_ok h
  cases hjwt
  rw [hclaimsSet] at hcs
  cases hcs
  rw [hsvtClaims] at hclaims
  cases hclaims
  have hregistered : (Except.ok algorithm : Outcome DigestAlgorithm) = .ok algorithm' :=
    halgorithm.symm.trans halgorithm'
  cases hregistered
  -- each entry is hashed on its own
  have hentry : ∀ ref : String × Bytes, (do
      let hash ← (withIssuerDigests env.claims svt).toBase64Digest algorithm ref.2
      pure (⟨ref.1, hash⟩ : SignedDataClaims) : Outcome SignedDataClaims) =
        .ok (signedDataClaims env digest ref) := by
    intro ref
    rw [toBase64Digest_withIssuerDigests hinstance]
    rfl
  simp only [hentry] at hrefs
  have hpure : ∀ l : List (String × Bytes),
      (l.mapM fun ref => (Except.ok (signedDataClaims env digest ref) : Outcome SignedDataClaims)) =
        .ok (l.map (signedDataClaims env digest)) := by
    intro l
    exact List.mapM_pure
  rw [hpure] at hrefs
  exact (Except.ok.inj hrefs).symm

/-- Entries that all have data are taken over as they are. -/
theorem mapM_resolved (entries : List (String × Bytes)) :
    ((entries.map fun ref => (ref.1, some ref.2)).mapM fun ref => ref.2.map (Prod.mk ref.1)) =
      some entries := by
  induction entries with
  | nil => rfl
  | cons ref rest ih => simp [ih]

/-- The map of the validator has the entries that were visited. -/
theorem toSvtData_refDataMap {jvm : Jvm} {signatureData : RawSignatureData Cert}
    {svtData : XMLSVTValidator.SignatureData Cert} {entries : List (String × Bytes)}
    (hentries : jvm.entriesInOrder signatureData.refDataMap =
      entries.map fun ref => (ref.1, some ref.2))
    (h : signatureData.toSvtData jvm document = some svtData) : svtData.refDataMap = entries := by
  have hmapM : (jvm.entriesInOrder signatureData.refDataMap).mapM
      (fun ref => ref.2.map (Prod.mk ref.1)) = some entries := by
    rw [hentries]
    exact mapM_resolved entries
  unfold RawSignatureData.toSvtData at h
  rw [hmapM] at h
  obtain ⟨refDataMap, hrefDataMap, h⟩ := Option.bind_eq_some_iff.mp h
  obtain ⟨signatureBytes, _, h⟩ := Option.bind_eq_some_iff.mp h
  obtain ⟨signedInfoBytes, _, h⟩ := Option.bind_eq_some_iff.mp h
  obtain ⟨signatureCertChain, _, h⟩ := Option.bind_eq_some_iff.mp h
  cases h
  exact (Option.some.inj hrefDataMap).symm

/-- Of the references whose data can be resolved each has an entry in the claims, with
the digest of its own octets, and an entry in what any validator collects for a token that
carries the claims. -/
structure BindsReferences (env : XmlIssuerEnv Cert) (document : Heap)
    (signatureData : RawSignatureData Cert) (refs : List (String × Option Bytes))
    (hashAlgoUri : String) (digest : Bytes → Bytes) (claims : IssuedSignatureClaims) : Prop where
  issued : ((resolvable refs).map (signedDataClaims env digest)).Perm claims.sigDataRef
  recomputed : ∀ (svt : SvtEnv Cert) (input : XMLSVTValidator.XMLSigValInput Cert) jwt svtResult,
    signatureData.toSvtData env.jvm document = some input.signatureData →
    CarriesClaims jwt hashAlgoUri [claims] →
    XMLSVTValidator.collectSignatureSVTData (withIssuerDigests env.claims svt) input (some jwt) =
      .ok svtResult →
    ∀ ref ∈ resolvable refs, signedDataClaims env digest ref ∈ svtResult.signedDataRefList

/-- **When a token binds every reference.** The claims that are issued for a signature
have one entry for each reference that can be resolved, and a validator recomputes each of
them, exactly when no two of these references have the same URI. -/
theorem references_bound_iff [DecidableEq Cert] {context : DefaultXMLSignatureContext}
    {sigNode : Key} {before after : Heap} {signatureData : RawSignatureData Cert}
    (hread : (getSignatureData env.jvm env.lib context sigNode).run before =
      (.ok signatureData, after))
    {svtMethod : SVTExtendpolicy} {claims : IssuedSignatureClaims}
    (hverify : verify env issuer after ⟨sigNode, signatureData, svtMethod⟩ hashAlgoUri =
      .ok (some [claims])) :
    ∃ digest, digestInstance env hashAlgoUri = .ok digest ∧
      (BindsReferences env after signatureData
        (referencedData signatureData.signature before
          (referenceElements before signatureData.signature) 0) hashAlgoUri digest claims ↔
      ((resolvable (referencedData signatureData.signature before
        (referenceElements before signatureData.signature) 0)).map Prod.fst).Nodup) := by
  have hreads : Reads env.lib before sigNode signatureData after :=
    Mutating.of_run_ok (wp_getSignatureData before sigNode) hread
  obtain ⟨claims', _, hclaims, -, -, hsigRef, -, hrefs, -⟩ := verify_some hverify
  cases hclaims
  obtain ⟨digest, _, _, hdigest, -⟩ := getSigRefData_ok hsigRef
  generalize hdata : referencedData signatureData.signature before
    (referenceElements before signatureData.signature) 0 = refs
  obtain ⟨entries, hentries, hsigDataRef⟩ := getDocRefHashes_ok hdigest hrefs
  have hentries' : env.jvm.entriesInOrder (putEntries [] refs) =
      entries.map fun ref => (ref.1, some ref.2) := by
    rw [← hdata, ← hreads.refDataMap]
    exact hentries
  have hperm : ((resolvable refs).map (signedDataClaims env digest)).Perm claims.sigDataRef ↔
      ((resolvable refs).map Prod.fst).Nodup := by
    rw [hsigDataRef]
    exact perm_resolvable_iff hentries'
  refine ⟨digest, hdigest, ?_⟩
  constructor
  · intro hbinds
    exact hperm.mp hbinds.issued
  · intro hdistinct
    refine ⟨hperm.mpr hdistinct, ?_⟩
    intro svt input jwt svtResult hinput hcarries hcollect ref href
    rw [signedDataRefList_eq hdigest hcarries hcollect, toSvtData_refDataMap hentries hinput,
      ← hsigDataRef]
    exact (hperm.mpr hdistinct).mem_iff.mp (List.mem_map_of_mem href)

end Issued

/-! A signature with two references. The first is to the whole document, without the
signature; the second has another transform and the given URI. -/

section TwoReferences

def dsElement (key : Key) (ancestors : List Key) (name : String)
    (attributes : List (String × String)) : Node :=
  ⟨key, ancestors, .element Svt.XMLSVTValidator.xmldsigNS name "ds" attributes⟩

def twoReferences (uri : String) : Heap where
  nodes :=
    [⟨0, [], .document⟩, ⟨1, [0], .element "" "doc" "" [("Id", "a")]⟩,
      dsElement 2 [1, 0] "Signature" [], dsElement 3 [2, 1, 0] "SignedInfo" [],
      dsElement 4 [3, 2, 1, 0] "Reference" [("URI", "")],
      dsElement 5 [4, 3, 2, 1, 0] "Transform"
        [("Algorithm", "http://www.w3.org/2000/09/xmldsig#enveloped-signature")],
      dsElement 6 [3, 2, 1, 0] "Reference" [("URI", uri)],
      dsElement 7 [6, 3, 2, 1, 0] "Transform"
        [("Algorithm", "http://www.w3.org/TR/1999/REC-xpath-19991116")]]
  idAttributes := []
  nextKey := 8

/-- Each reference has octets of its own. -/
def twoReferencesEnv : XmlIssuerEnv Unit where
  jvm := plainJvm
  lib :=
    { newXMLSignature := fun _ _ => .ok
        { signedInfo := 3
          getId := fun _ => none
          getReferencedContentAfterTransformsItem := fun _ i => .ok [UInt8.ofNat i]
          getSignatureValue := fun _ => .ok [9]
          getCanonicalizedOctetStream := fun _ => .ok [8]
          getKeyInfo := fun _ => .ok (some ⟨.ok (some ()), [.ok (some [.ok (some ())])]⟩) }
      getDocument := fun _ => .error ⟨.io, "not a document"⟩
      getCanonicalDocBytes := fun _ => .ok [] }
  claims :=
    { getMessageDigestInstance := fun _ => .ok id
      encodeBase64String := fun bytes => toString (bytes.map UInt8.toNat)
      getEncoded := fun _ => .ok [1]
      registry := DigestAlgorithmRegistry.initial
      getInstance := fun _ => .ok id
      getTimeStampSigBytes := fun _ => none }

/-- The signature is valid. -/
def passingIssuer : XMLSVTSigValClaimsIssuer Unit where
  svtIssuer := ⟨DigestAlgorithm.idSHA256, fun _ => .ok none⟩
  signatureVerifier := fun _ _ signatureData => .ok
    { signerCertificate := signatureData.signerCertificate
      signatureCertificateChain := signatureData.signatureCertChain
      certificateValidationResult := some (.default [()])
      validationPolicyResultList := some [⟨sigValidationPolicyPkixValidation, .PASSED, none⟩] }

def twoReferencesContext : DefaultXMLSignatureContext := ⟨[], "", "doc", some "a"⟩

/-- Claims are issued for the signature whose second reference has this URI. -/
def IssuedFor (uri : String) (signatureData : RawSignatureData Unit) (after : Heap)
    (claims : IssuedSignatureClaims) (digest : Bytes → Bytes) : Prop :=
  (getSignatureData twoReferencesEnv.jvm twoReferencesEnv.lib twoReferencesContext 2).run
      (twoReferences uri) = (.ok signatureData, after) ∧
    verify twoReferencesEnv passingIssuer after ⟨2, signatureData, .EXTEND⟩
      DigestAlgorithm.idSHA256 = .ok (some [claims]) ∧
    digestInstance twoReferencesEnv DigestAlgorithm.idSHA256 = .ok digest

/-- Its references. -/
def refsOf (uri : String) (signatureData : RawSignatureData Unit) : List (String × Option Bytes) :=
  referencedData signatureData.signature (twoReferences uri)
    (referenceElements (twoReferences uri) signatureData.signature) 0

/-- With two URIs both references are bound. -/
theorem references_bound_by_two_uris :
    ∃ signatureData after claims digest, IssuedFor "#a" signatureData after claims digest ∧
      BindsReferences twoReferencesEnv after signatureData (refsOf "#a" signatureData)
        DigestAlgorithm.idSHA256 digest claims := by
  obtain ⟨digest, hdigest, hiff⟩ := @references_bound_iff Unit twoReferencesEnv passingIssuer
    DigestAlgorithm.idSHA256 _ twoReferencesContext 2 (twoReferences "#a") _ _ rfl .EXTEND _ rfl
  exact ⟨_, _, _, digest, ⟨rfl, rfl, hdigest⟩, hiff.mpr (by decide)⟩

/-- Two references to the whole document under two transforms: the token has the data of
the second only. -/
theorem shared_uri_not_bound :
    ∃ signatureData after claims digest, IssuedFor "" signatureData after claims digest ∧
      ¬ BindsReferences twoReferencesEnv after signatureData (refsOf "" signatureData)
        DigestAlgorithm.idSHA256 digest claims := by
  refine ⟨_, _, _, _, ⟨rfl, rfl, rfl⟩, ?_⟩
  intro hbinds
  exact absurd hbinds.issued.length_eq (by decide)

end TwoReferences

end XMLSVTSigValClaimsIssuer

end SigVal.Xml
