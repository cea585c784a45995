import Mathlib.Data.Int.Order.Basic
import SigVal.Svt.TokenValidator
import SigVal.Pdf.IssueOrder

/-!
# Tokens that are missing or about something else

`getSignatureSVTData` of the XML and JOSE validators says that its list is empty or has one
item, and skips, by a comment, a signature that no token is about. It has no way to do so:
without a token that counts the most recent one is `null`, and a most recent token that is
about another signature is thrown back. Older tokens are not looked at. What is promised is
given exactly where the most recent token is about the signature and can be compared with it.

Which tokens can be compared is up to the sort of the library. Placed one by one they need an
issue time each; a sort of which no more is known than its documentation needs times that
differ.
-/

namespace SigVal.Svt

open SigVal.Java SigVal.Commons SigVal.Pdf SVAUtils

variable {Cert : Type}

/-! ## The most recent token -/

/-- The first of the tokens with the latest issue time. -/
def IsNewest (l : List SignedJWT) (jwt : SignedJWT) : Prop :=
  ∃ before after, l = before ++ jwt :: after ∧
    (∀ other ∈ before, issueTime other < issueTime jwt) ∧
    ∀ other ∈ after, issueTime other ≤ issueTime jwt

theorem IsNewest.mem {l : List SignedJWT} {jwt : SignedJWT} (h : IsNewest l jwt) : jwt ∈ l := by
  obtain ⟨before, after, rfl, -, -⟩ := h
  simp

theorem IsNewest.le {l : List SignedJWT} {jwt : SignedJWT} (h : IsNewest l jwt) :
    ∀ other ∈ l, issueTime other ≤ issueTime jwt := by
  obtain ⟨before, after, rfl, hbefore, hafter⟩ := h
  intro other hother
  rw [List.mem_append, List.mem_cons] at hother
  rcases hother with hother | rfl | hother
  · exact (hbefore other hother).le
  · exact le_rfl
  · exact hafter other hother

theorem IsNewest.unique {l : List SignedJWT} {jwt newest : SignedJWT} (h : IsNewest l jwt)
    (h' : IsNewest l newest) : jwt = newest := by
  obtain ⟨_, _, heq, hbefore, hafter⟩ := h
  obtain ⟨_, _, heq', hbefore', hafter'⟩ := h'
  exact split_unique (heq.symm.trans heq') hbefore hafter hbefore' hafter'

/-- Only tokens with an issue time can be put in order, unless there is but one. -/
def Comparable (l : List SignedJWT) : Prop := l.length = 1 ∨ ∀ jwt ∈ l, Issued jwt

theorem getMostRecentJwt_ok_iff {l : List SignedJWT} {jwt : SignedJWT} :
    getMostRecentJwt l = .ok (some jwt) ↔ IsNewest l jwt ∧ Comparable l := by
  have hscan : ∀ {l : List SignedJWT}, (∀ jwt ∈ l, Issued jwt) → l ≠ [] →
      ∃ newest, getMostRecentJwt l = .ok (some newest) ∧ IsNewest l newest := by
    intro l hissued hne
    obtain ⟨first, rest, rfl⟩ := List.exists_cons_of_ne_nil hne
    obtain ⟨ys, hys, hhead⟩ := sortWith_head (answers_issueTime hissued)
    obtain ⟨newest, hnewest⟩ : ∃ newest,
      scan (fun o1 o2 => decide (issueTime o1 > issueTime o2)) (first :: rest) = some newest :=
        ⟨_, rfl⟩
    rw [hnewest] at hhead
    refine ⟨newest, ?_, exists_split_of_scan hnewest⟩
    simp [getMostRecentJwt, hys, hhead, bind, Except.bind, pure, Except.pure]
  match l with
  | [] =>
      constructor
      · intro h
        cases h
      · rintro ⟨hnewest, -⟩
        cases hnewest.mem
  | [single] =>
      have hsingle : getMostRecentJwt [single] = .ok (some single) := rfl
      rw [hsingle]
      constructor
      · intro h
        cases h
        exact ⟨⟨[], [], rfl, by simp, by simp⟩, .inl rfl⟩
      · rintro ⟨hnewest, -⟩
        rw [List.mem_singleton.mp hnewest.mem]
  | first :: second :: rest =>
      constructor
      · intro h
        have hissued : ∀ jwt ∈ first :: second :: rest, Issued jwt := by
          obtain ⟨sorted, hsorted, -⟩ := bind_ok_iff.mp h
          exact sortWith_issued hsorted
        obtain ⟨newest, hrun, hnewest⟩ := hscan hissued (List.cons_ne_nil _ _)
        rw [h] at hrun
        cases hrun
        exact ⟨hnewest, .inr hissued⟩
      · rintro ⟨hnewest, hlen | hissued⟩
        · cases hlen
        · obtain ⟨newest', hrun, hnewest'⟩ := hscan hissued (List.cons_ne_nil _ _)
          rw [hnewest.unique hnewest']
          exact hrun

/-- Of tokens issued at different times the newest is the one that none is newer than. -/
theorem isNewest_of_apart {l : List SignedJWT} {jwt : SignedJWT} (hapart : l.Pairwise IssuedApart)
    (hmem : jwt ∈ l) (hle : ∀ other ∈ l, issueTime other ≤ issueTime jwt) : IsNewest l jwt := by
  obtain ⟨before, after, rfl⟩ := List.append_of_mem hmem
  refine ⟨before, after, rfl, ?_, ?_⟩
  · intro other hother
    have hdiffer : IssuedApart other jwt :=
      (List.pairwise_append.mp hapart).2.2 other hother jwt List.mem_cons_self
    obtain ⟨date, date', hdate, hdate', hne⟩ := hdiffer
    have hother' := hle other (List.mem_append_left _ hother)
    simp only [issueTime, hdate, hdate', Option.getD_some] at hother' ⊢
    exact lt_of_le_of_ne hother' hne
  · intro other hother
    exact hle other (List.mem_append_right _ (List.mem_cons_of_mem _ hother))

/-- On such tokens every sort of the library finds it. -/
theorem getMostRecentJwtBy_ok_iff (library : LibrarySort) {l : List SignedJWT} {jwt : SignedJWT}
    (hapart : l.Pairwise IssuedApart) :
    getMostRecentJwtBy library l = .ok (some jwt) ↔ IsNewest l jwt := by
  have hselects : l ≠ [] →
      ∃ newest, getMostRecentJwtBy library l = .ok (some newest) ∧ IsNewest l newest := by
    intro hne
    obtain ⟨first, rest, rfl⟩ := List.exists_cons_of_ne_nil hne
    obtain ⟨newest, hmem, hrun, hle⟩ := selects_of_issuedApart library hapart
    exact ⟨newest, hrun, isNewest_of_apart hapart hmem hle⟩
  constructor
  · intro h
    have hne : l ≠ [] := by
      rintro rfl
      cases h
    obtain ⟨newest, hrun, hnewest⟩ := hselects hne
    rw [h] at hrun
    cases hrun
    exact hnewest
  · intro hnewest
    obtain ⟨newest, hrun, hnewest'⟩ := hselects (List.ne_nil_of_mem hnewest.mem)
    rw [hnewest.unique hnewest']
    exact hrun

/-! ## The validators, by any sort -/

/-- The shape of the two `getSignatureSVTData`, with the sort the library happens to have. -/
def selectAndCollectBy (library : LibrarySort) (env : SvtEnv Cert) (cfg : SVTValidatorConfig Cert)
    (now : Date) (tokens : List String)
    (collect : Option SignedJWT → Outcome SignatureSVTData) :
    Outcome (List SignatureSVTData) := do
  let mostRecentJwt ← getMostRecentJwtBy library (verifiedTokens env cfg now tokens)
  let data ← collect mostRecentJwt
  pure [data]

def XMLSVTValidator.getSignatureSVTDataBy (library : LibrarySort) (env : SvtEnv Cert)
    (cfg : SVTValidatorConfig Cert) (now : Date) (input : XMLSVTValidator.XMLSigValInput Cert) :
    Outcome (List SignatureSVTData) :=
  selectAndCollectBy library env cfg now
    (XMLSVTValidator.getSignatureSvaTokens input.signatureElement)
    (XMLSVTValidator.collectSignatureSVTData env input)

theorem XMLSVTValidator.getSignatureSVTData_eq (env : SvtEnv Cert) (cfg : SVTValidatorConfig Cert)
    (now : Date) (input : XMLSVTValidator.XMLSigValInput Cert) :
    XMLSVTValidator.getSignatureSVTData env cfg now input =
      XMLSVTValidator.getSignatureSVTDataBy insertionSort env cfg now input := rfl

def JOSESVTValidator.getSignatureSVTDataBy (library : LibrarySort) (env : SvtEnv Cert)
    (cfg : SVTValidatorConfig Cert) (now : Date)
    (signatureData : JOSESVTValidator.JOSESignatureData Cert) :
    Outcome (List SignatureSVTData) :=
  selectAndCollectBy library env cfg now
    (JOSESVTValidator.getSignatureSvaTokens signatureData.unprotectedHeader)
    (JOSESVTValidator.collectSignatureSVTData env signatureData)

theorem JOSESVTValidator.getSignatureSVTData_eq (env : SvtEnv Cert)
    (cfg : SVTValidatorConfig Cert) (now : Date)
    (signatureData : JOSESVTValidator.JOSESignatureData Cert) :
    JOSESVTValidator.getSignatureSVTData env cfg now signatureData =
      JOSESVTValidator.getSignatureSVTDataBy insertionSort env cfg now signatureData := rfl

/-! ## What is promised -/

/-- The token's claims, and the digest algorithm that they name. -/
def ClaimsOf (env : SvtEnv Cert) (jwt : SignedJWT) (svtClaims : SVTClaims)
    (algorithm : DigestAlgorithm) : Prop :=
  ∃ cs, jwt.claimsSet = some cs ∧ cs.sigValClaims = some svtClaims ∧
    DigestAlgorithmRegistry.get env.registry svtClaims.hashAlgo = .ok algorithm

/-- The token has an entry for the signature value. -/
def MatchesSignature (env : SvtEnv Cert) (signatureBytes : Bytes) (jwt : SignedJWT) : Prop :=
  ∃ svtClaims algorithm signatureHash sigClaims, ClaimsOf env jwt svtClaims algorithm ∧
    env.toBase64Digest algorithm signatureBytes = .ok signatureHash ∧
    svtClaims.sig = some sigClaims ∧
    ∃ claims ∈ sigClaims, claims.sigRef.sigHash = signatureHash

/-- A token of the list that verifies: it parses, passes every check that throws, and its
signature is good. -/
def Verified (env : SvtEnv Cert) (cfg : SVTValidatorConfig Cert) (now : Date)
    (tokens : List String) (jwt : SignedJWT) : Prop :=
  jwt ∈ verifiedTokens env cfg now tokens ∧ TokenVerified env cfg jwt

/-- An empty list where no verified token matches, and one item otherwise, for a verified
token that matches and is not older than any other of that kind. -/
def ReturnsMatch (env : SvtEnv Cert) (cfg : SVTValidatorConfig Cert) (now : Date)
    (tokens : List String) (signatureBytes : Bytes)
    (result : Outcome (List SignatureSVTData)) : Prop :=
  ∃ svtDataList, result = .ok svtDataList ∧
    ((∀ jwt, Verified env cfg now tokens jwt → ¬ MatchesSignature env signatureBytes jwt) →
      svtDataList = []) ∧
    ((∃ jwt, Verified env cfg now tokens jwt ∧ MatchesSignature env signatureBytes jwt) →
      ∃ data, svtDataList = [data] ∧ Verified env cfg now tokens data.signedJWT ∧
        MatchesSignature env signatureBytes data.signedJWT ∧
        ∀ other, Verified env cfg now tokens other → MatchesSignature env signatureBytes other →
          issueTime other ≤ issueTime data.signedJWT)

/-- The signed texts can be digested for the token, and the certificates encode. -/
def Collectable (env : SvtEnv Cert) (texts : List Bytes) (chain : List Cert) (jwt : SignedJWT) :
    Prop :=
  ∃ svtClaims algorithm, ClaimsOf env jwt svtClaims algorithm ∧
    (∀ text ∈ texts, ∃ hash, env.toBase64Digest algorithm text = .ok hash) ∧
    ∀ cert ∈ chain, ∃ bytes, env.getEncoded cert = .ok bytes

/-- The most recent of the tokens that pass the checks that throw is a verified one, matches
the signature, and data can be collected for it. -/
def NewestMatches (env : SvtEnv Cert) (cfg : SVTValidatorConfig Cert) (now : Date)
    (tokens : List String) (signatureBytes : Bytes) (texts : List Bytes) (chain : List Cert) :
    Prop :=
  Comparable (verifiedTokens env cfg now tokens) ∧
  ∃ jwt, IsNewest (verifiedTokens env cfg now tokens) jwt ∧ TokenVerified env cfg jwt ∧
    MatchesSignature env signatureBytes jwt ∧ Collectable env texts chain jwt

section Shape

variable {env : SvtEnv Cert} {cfg : SVTValidatorConfig Cert} {now : Date} {tokens : List String}
  {signatureBytes : Bytes} {texts : List Bytes} {chain : List Cert}

/-- A collection of data that needs a token, its match and the digests. -/
structure Collects (env : SvtEnv Cert) (signatureBytes : Bytes) (texts : List Bytes)
    (chain : List Cert) (collect : Option SignedJWT → Outcome SignatureSVTData) : Prop where
  token : ∀ jwt data, collect jwt = .ok data → jwt = some data.signedJWT
  returns : ∀ jwt, (∃ data, collect (some jwt) = .ok data) ↔
    MatchesSignature env signatureBytes jwt ∧ Collectable env texts chain jwt

variable {library : LibrarySort} {collect : Option SignedJWT → Outcome SignatureSVTData}

/-- What is promised is kept through the token that the sort puts first. -/
theorem returnsMatch_selected (hcollect : Collects env signatureBytes texts chain collect)
    (h : ReturnsMatch env cfg now tokens signatureBytes
      (selectAndCollectBy library env cfg now tokens collect)) :
    ∃ jwt, getMostRecentJwtBy library (verifiedTokens env cfg now tokens) = .ok (some jwt) ∧
      TokenVerified env cfg jwt ∧ MatchesSignature env signatureBytes jwt ∧
      Collectable env texts chain jwt := by
  obtain ⟨svtDataList, hrun, hnone, hsome⟩ := h
  obtain ⟨mostRecentJwt, hrecent, hrun⟩ := bind_ok_iff.mp hrun
  obtain ⟨data, hdata, hrun⟩ := bind_ok_iff.mp hrun
  cases hrun
  cases hcollect.token _ _ hdata
  obtain ⟨hmatches, hcollectable⟩ := (hcollect.returns _).mp ⟨data, hdata⟩
  -- the list has an item, so some verified token matches and the item is for one
  have hexists : ∃ jwt, Verified env cfg now tokens jwt ∧
      MatchesSignature env signatureBytes jwt := by
    by_contra hnot
    push Not at hnot
    cases hnone hnot
  obtain ⟨_, ⟨⟩, hverified, -, -⟩ := hsome hexists
  exact ⟨data.signedJWT, hrecent, hverified.2, hmatches, hcollectable⟩

theorem returnsMatch_of_newest (hcollect : Collects env signatureBytes texts chain collect)
    {jwt : SignedJWT}
    (hrecent : getMostRecentJwtBy library (verifiedTokens env cfg now tokens) = .ok (some jwt))
    (hnewest : IsNewest (verifiedTokens env cfg now tokens) jwt)
    (hverified : TokenVerified env cfg jwt) (hmatches : MatchesSignature env signatureBytes jwt)
    (hcollectable : Collectable env texts chain jwt) :
    ReturnsMatch env cfg now tokens signatureBytes
      (selectAndCollectBy library env cfg now tokens collect) := by
  obtain ⟨data, hdata⟩ := (hcollect.returns jwt).mpr ⟨hmatches, hcollectable⟩
  obtain rfl : jwt = data.signedJWT := Option.some.inj (hcollect.token _ _ hdata)
  refine ⟨[data], bind_ok_iff.mpr ⟨_, hrecent, bind_ok_iff.mpr ⟨data, hdata, rfl⟩⟩, ?_, ?_⟩
  · intro hnone
    exact absurd hmatches (hnone _ ⟨hnewest.mem, hverified⟩)
  · intro _
    refine ⟨data, rfl, ⟨hnewest.mem, hverified⟩, hmatches, ?_⟩
    intro other hother _
    exact hnewest.le other hother.1

theorem selectAndCollect_matches_iff (hcollect : Collects env signatureBytes texts chain collect) :
    ReturnsMatch env cfg now tokens signatureBytes
        (selectAndCollectBy insertionSort env cfg now tokens collect) ↔
      NewestMatches env cfg now tokens signatureBytes texts chain := by
  constructor
  · intro h
    obtain ⟨jwt, hrecent, hverified, hmatches, hcollectable⟩ := returnsMatch_selected hcollect h
    rw [← getMostRecentJwt_eq] at hrecent
    obtain ⟨hnewest, hcomparable⟩ := getMostRecentJwt_ok_iff.mp hrecent
    exact ⟨hcomparable, jwt, hnewest, hverified, hmatches, hcollectable⟩
  · rintro ⟨hcomparable, jwt, hnewest, hverified, hmatches, hcollectable⟩
    have hrecent := getMostRecentJwt_ok_iff.mpr ⟨hnewest, hcomparable⟩
    rw [getMostRecentJwt_eq] at hrecent
    exact returnsMatch_of_newest hcollect hrecent hnewest hverified hmatches hcollectable

/-- No sort fails where, beside, the times of the tokens differ; where two do not, one that
is documented as the others are may refuse the list. -/
theorem selectAndCollectBy_matches_iff
    (hcollect : Collects env signatureBytes texts chain collect) :
    (∀ library, ReturnsMatch env cfg now tokens signatureBytes
        (selectAndCollectBy library env cfg now tokens collect)) ↔
      (verifiedTokens env cfg now tokens).Pairwise IssuedApart ∧
        NewestMatches env cfg now tokens signatureBytes texts chain := by
  constructor
  · intro h
    refine ⟨?_, (selectAndCollect_matches_iff hcollect).mp (h insertionSort)⟩
    obtain ⟨jwt, hrecent, -⟩ := returnsMatch_selected hcollect (h refusingSort)
    cases hlist : verifiedTokens env cfg now tokens with
    | nil => exact .nil
    | cons first rest =>
        rw [hlist] at hrecent
        by_contra hapart
        have hrefused : ¬ KeepsContract compareSVTIssueDate (first :: rest) :=
          mt (keepsContract_iff _).mp hapart
        simp [getMostRecentJwtBy, refusingSort, if_neg hrefused, bind, Except.bind] at hrecent
  · rintro ⟨hapart, -, jwt, hnewest, hverified, hmatches, hcollectable⟩ library
    have hrecent := (getMostRecentJwtBy_ok_iff library hapart).mpr hnewest
    exact returnsMatch_of_newest hcollect hrecent hnewest hverified hmatches hcollectable

theorem matchSignatureClaims_returns_iff {svtClaims : SVTClaims} {signatureHash : String} :
    (∃ claims, matchSignatureClaims svtClaims signatureHash = .ok claims) ↔
      ∃ sigClaims, svtClaims.sig = some sigClaims ∧
        ∃ claims ∈ sigClaims, claims.sigRef.sigHash = signatureHash := by
  unfold matchSignatureClaims
  rw [exists_bind_ok_iff]
  simp only [deref_ok_iff]
  refine exists_congr fun sigClaims => and_congr_right fun _ => ?_
  cases hfound : sigClaims.find? fun claims => claims.sigRef.sigHash == signatureHash with
  | none =>
      rw [List.find?_eq_none] at hfound
      constructor
      · rintro ⟨claims, h⟩
        cases h
      · rintro ⟨claims, hmem, hhash⟩
        exact absurd (beq_iff_eq.mpr hhash) (hfound claims hmem)
  | some claims =>
      constructor
      · intro _
        exact ⟨claims, List.mem_of_find?_eq_some hfound, by simpa using List.find?_some hfound⟩
      · intro _
        exact ⟨claims, rfl⟩

end Shape

/-- A token has one set of claims and names one algorithm. -/
theorem ClaimsOf.unique {env : SvtEnv Cert} {jwt : SignedJWT} {svtClaims svtClaims' : SVTClaims}
    {algorithm algorithm' : DigestAlgorithm} (h : ClaimsOf env jwt svtClaims algorithm)
    (h' : ClaimsOf env jwt svtClaims' algorithm') :
    svtClaims = svtClaims' ∧ algorithm = algorithm' := by
  obtain ⟨cs, hcs, hclaims, halgorithm⟩ := h
  obtain ⟨cs', hcs', hclaims', halgorithm'⟩ := h'
  rw [hcs] at hcs'
  cases hcs'
  rw [hclaims] at hclaims'
  cases hclaims'
  rw [halgorithm] at halgorithm'
  exact ⟨rfl, Except.ok.inj halgorithm'⟩

/-- A token with which the collection gets as far as its digests. -/
theorem matches_and_collectable_iff {env : SvtEnv Cert} {signatureBytes : Bytes}
    {texts : List Bytes} {chain : List Cert} {jwt : SignedJWT} :
    MatchesSignature env signatureBytes jwt ∧ Collectable env texts chain jwt ↔
      ∃ cs, jwt.claimsSet = some cs ∧ ∃ svtClaims, cs.sigValClaims = some svtClaims ∧
        ∃ algorithm, DigestAlgorithmRegistry.get env.registry svtClaims.hashAlgo = .ok algorithm ∧
        ∃ signatureHash, env.toBase64Digest algorithm signatureBytes = .ok signatureHash ∧
          (∃ claims, matchSignatureClaims svtClaims signatureHash = .ok claims) ∧
          (∀ text ∈ texts, ∃ hash, env.toBase64Digest algorithm text = .ok hash) ∧
          ∀ cert ∈ chain, ∃ bytes, env.getEncoded cert = .ok bytes := by
  constructor
  · rintro ⟨⟨svtClaims, algorithm, signatureHash, sigClaims, hof, hsignature, hmatched⟩,
      svtClaims', algorithm', hof', htexts, hcerts⟩
    obtain ⟨rfl, rfl⟩ := hof.unique hof'
    obtain ⟨cs, hcs, hclaims, halgorithm⟩ := hof
    exact ⟨cs, hcs, svtClaims, hclaims, algorithm, halgorithm, signatureHash, hsignature,
      matchSignatureClaims_returns_iff.mpr ⟨sigClaims, hmatched⟩, htexts, hcerts⟩
  · rintro ⟨cs, hcs, svtClaims, hclaims, algorithm, halgorithm, signatureHash, hsignature,
      hmatched, htexts, hcerts⟩
    have hof : ClaimsOf env jwt svtClaims algorithm := ⟨cs, hcs, hclaims, halgorithm⟩
    obtain ⟨sigClaims, hmatched⟩ := matchSignatureClaims_returns_iff.mp hmatched
    exact ⟨⟨svtClaims, algorithm, signatureHash, sigClaims, hof, hsignature, hmatched⟩,
      svtClaims, algorithm, hof, htexts, hcerts⟩

/-! ## The two validators -/

/-- The texts that the XML validator digests beside the signature value. -/
def XMLSVTValidator.SignatureData.texts (signatureData : XMLSVTValidator.SignatureData Cert) :
    List Bytes :=
  signatureData.signedInfoBytes :: signatureData.refDataMap.map Prod.snd

theorem XMLSVTValidator.collects (env : SvtEnv Cert)
    (input : XMLSVTValidator.XMLSigValInput Cert) :
    Collects env input.signatureData.signatureBytes input.signatureData.texts
      input.signatureData.signatureCertChain
      (XMLSVTValidator.collectSignatureSVTData env input) := by
  refine ⟨fun _ _ h => XMLSVTValidator.collect_signedJWT h, ?_⟩
  intro jwt
  rw [matches_and_collectable_iff]
  unfold XMLSVTValidator.collectSignatureSVTData encodeChain
  simp only [exists_bind_ok_iff, deref_ok_iff, Option.some.injEq, exists_eq_left',
    SignedJWT.getJWTClaimsSet_ok_iff, getSVTClaims_ok_iff, exists_mapM_ok_iff, exists_pure_ok,
    and_true, XMLSVTValidator.SignatureData.texts, List.forall_mem_cons, List.forall_mem_map]
  constructor
  · rintro ⟨cs, hcs, svtClaims, hclaims, algorithm, halgorithm, signatureHash, hsignature,
      signedInfoHash, hinfo, found, hfound, signedDataRefList, hrefs, hcerts⟩
    refine ⟨cs, hcs, svtClaims, hclaims, algorithm, halgorithm, signatureHash, hsignature,
      ⟨found, hfound⟩, ⟨⟨signedInfoHash, hinfo⟩, ?_⟩, hcerts⟩
    intro ref href
    obtain ⟨_, hdata⟩ := exists_mapM_ok_iff.mp ⟨_, hrefs⟩ ref href
    obtain ⟨hash, hhash, -⟩ := bind_ok_iff.mp hdata
    exact ⟨hash, hhash⟩
  · rintro ⟨cs, hcs, svtClaims, hclaims, algorithm, halgorithm, signatureHash, hsignature,
      ⟨found, hfound⟩, ⟨⟨signedInfoHash, hinfo⟩, hdata⟩, hcerts⟩
    obtain ⟨signedDataRefList, hrefs⟩ : ∃ signedDataRefList,
        input.signatureData.refDataMap.mapM (fun ref => do
          let hash ← env.toBase64Digest algorithm ref.2
          pure (⟨ref.1, hash⟩ : SignedDataClaims)) = .ok signedDataRefList := by
      rw [exists_mapM_ok_iff]
      intro ref href
      obtain ⟨hash, hhash⟩ := hdata ref href
      exact ⟨⟨ref.1, hash⟩, bind_ok_iff.mpr ⟨hash, hhash, rfl⟩⟩
    exact ⟨cs, hcs, svtClaims, hclaims, algorithm, halgorithm, signatureHash, hsignature,
      signedInfoHash, hinfo, found, hfound, signedDataRefList, hrefs, hcerts⟩

/-- The texts that the JOSE validator digests beside the signature value. -/
def JOSESVTValidator.JOSESignatureData.texts
    (signatureData : JOSESVTValidator.JOSESignatureData Cert) : List Bytes :=
  [(signatureData.headerBase64URL ++ "." ++ signatureData.payloadBase64URL).toUTF8.toList,
    signatureData.payload]

theorem JOSESVTValidator.collects (env : SvtEnv Cert)
    (signatureData : JOSESVTValidator.JOSESignatureData Cert) :
    Collects env signatureData.signatureBytes signatureData.texts
      signatureData.signatureCertChain
      (JOSESVTValidator.collectSignatureSVTData env signatureData) := by
  refine ⟨fun _ _ h => JOSESVTValidator.collect_signedJWT h, ?_⟩
  intro jwt
  rw [matches_and_collectable_iff]
  unfold JOSESVTValidator.collectSignatureSVTData encodeChain
  simp only [exists_bind_ok_iff, deref_ok_iff, Option.some.injEq, exists_eq_left',
    SignedJWT.getJWTClaimsSet_ok_iff, getSVTClaims_ok_iff, exists_mapM_ok_iff, exists_pure_ok,
    and_true, JOSESVTValidator.JOSESignatureData.texts, List.mem_pair, forall_eq_or_imp,
    forall_eq]
  constructor
  · rintro ⟨cs, hcs, svtClaims, hclaims, algorithm, halgorithm, signatureHash, hsignature,
      signedInfoHash, hsigned, found, hfound, payloadHash, hpayload, hcerts⟩
    exact ⟨cs, hcs, svtClaims, hclaims, algorithm, halgorithm, signatureHash, hsignature,
      ⟨found, hfound⟩, ⟨⟨signedInfoHash, hsigned⟩, ⟨payloadHash, hpayload⟩⟩, hcerts⟩
  · rintro ⟨cs, hcs, svtClaims, hclaims, algorithm, halgorithm, signatureHash, hsignature,
      ⟨found, hfound⟩, ⟨⟨signedInfoHash, hsigned⟩, ⟨payloadHash, hpayload⟩⟩, hcerts⟩
    exact ⟨cs, hcs, svtClaims, hclaims, algorithm, halgorithm, signatureHash, hsignature,
      signedInfoHash, hsigned, found, hfound, payloadHash, hpayload, hcerts⟩

/-- **What is found on a signature.** Both validators keep the promise exactly where the most
recent token is about the signature; the absence of tokens, or a newer token about something
else, is an exception. Whatever sort the library has, they keep it exactly where, beside, no
two of the tokens were issued at the same time. -/
theorem getSignatureSVTData_matches_iff (env : SvtEnv Cert) (cfg : SVTValidatorConfig Cert)
    (now : Date) (input : XMLSVTValidator.XMLSigValInput Cert)
    (signatureData : JOSESVTValidator.JOSESignatureData Cert) :
    (ReturnsMatch env cfg now (XMLSVTValidator.getSignatureSvaTokens input.signatureElement)
        input.signatureData.signatureBytes
        (XMLSVTValidator.getSignatureSVTData env cfg now input) ↔
      NewestMatches env cfg now (XMLSVTValidator.getSignatureSvaTokens input.signatureElement)
        input.signatureData.signatureBytes input.signatureData.texts
        input.signatureData.signatureCertChain) ∧
    ((∀ library,
        ReturnsMatch env cfg now (XMLSVTValidator.getSignatureSvaTokens input.signatureElement)
          input.signatureData.signatureBytes
          (XMLSVTValidator.getSignatureSVTDataBy library env cfg now input)) ↔
      (verifiedTokens env cfg now
          (XMLSVTValidator.getSignatureSvaTokens input.signatureElement)).Pairwise IssuedApart ∧
        NewestMatches env cfg now (XMLSVTValidator.getSignatureSvaTokens input.signatureElement)
          input.signatureData.signatureBytes input.signatureData.texts
          input.signatureData.signatureCertChain) ∧
    (ReturnsMatch env cfg now
        (JOSESVTValidator.getSignatureSvaTokens signatureData.unprotectedHeader)
        signatureData.signatureBytes
        (JOSESVTValidator.getSignatureSVTData env cfg now signatureData) ↔
      NewestMatches env cfg now
        (JOSESVTValidator.getSignatureSvaTokens signatureData.unprotectedHeader)
        signatureData.signatureBytes signatureData.texts signatureData.signatureCertChain) ∧
    ((∀ library,
        ReturnsMatch env cfg now
          (JOSESVTValidator.getSignatureSvaTokens signatureData.unprotectedHeader)
          signatureData.signatureBytes
          (JOSESVTValidator.getSignatureSVTDataBy library env cfg now signatureData)) ↔
      (verifiedTokens env cfg now
          (JOSESVTValidator.getSignatureSvaTokens signatureData.unprotectedHeader)).Pairwise
          IssuedApart ∧
        NewestMatches env cfg now
          (JOSESVTValidator.getSignatureSvaTokens signatureData.unprotectedHeader)
          signatureData.signatureBytes signatureData.texts signatureData.signatureCertChain) := by
  have hxml := XMLSVTValidator.collects env input
  have hjose := JOSESVTValidator.collects env signatureData
  rw [XMLSVTValidator.getSignatureSVTData_eq, JOSESVTValidator.getSignatureSVTData_eq]
  exact ⟨selectAndCollect_matches_iff hxml, selectAndCollectBy_matches_iff hxml,
    selectAndCollect_matches_iff hjose, selectAndCollectBy_matches_iff hjose⟩

/-- A signature that carries no token. -/
def plainJose : JOSESVTValidator.JOSESignatureData Unit where
  detached := false
  headerBase64URL := "e30"
  payloadBase64URL := "e30"
  payload := []
  unprotectedHeader := none
  signatureBytes := [3]
  signatureCertChain := []

def plainXml : XMLSVTValidator.XMLSigValInput Unit where
  signatureElement := .element XMLSVTValidator.xmldsigNS "Signature" [] []
  signatureData := ⟨none, [], [3], [4], []⟩

/-- Without a token both validators throw. -/
theorem getSignatureSVTData_plain_throws :
    ¬ ReturnsMatch emptyEnv trustAll 2000
        (XMLSVTValidator.getSignatureSvaTokens plainXml.signatureElement)
        plainXml.signatureData.signatureBytes
        (XMLSVTValidator.getSignatureSVTData emptyEnv trustAll 2000 plainXml) ∧
    ¬ ReturnsMatch emptyEnv trustAll 2000
        (JOSESVTValidator.getSignatureSvaTokens plainJose.unprotectedHeader)
        plainJose.signatureBytes
        (JOSESVTValidator.getSignatureSVTData emptyEnv trustAll 2000 plainJose) := by
  constructor
  · rintro ⟨svtDataList, hrun, -⟩
    have hthrown : XMLSVTValidator.getSignatureSVTData emptyEnv trustAll 2000 plainXml =
        .error Exn.nullPointer := rfl
    rw [hthrown] at hrun
    cases hrun
  · rintro ⟨svtDataList, hrun, -⟩
    have hthrown : JOSESVTValidator.getSignatureSVTData emptyEnv trustAll 2000 plainJose =
        .error Exn.nullPointer := rfl
    rw [hthrown] at hrun
    cases hrun

end SigVal.Svt
