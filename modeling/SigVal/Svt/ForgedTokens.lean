import SigVal.Lib.Base64Url
import SigVal.Svt.TokenSelection

/-!
# Forged tokens

`verifySVA` is relied on for a token to be genuine, and drops the verdict of the signature
check. Which token of a signature is used is decided afterwards, by its time of issue alone,
so a forged token comes into use when none of the others that get through is newer.
-/

namespace SigVal.Svt

open SigVal.Java SigVal.Commons SigVal.Pdf SVAUtils

variable {Cert : Type}

/-! ## Tokens that get through -/

/-- The signing certificate of the token is located and valid, the token passes the checks that
throw, and the signature check returns. -/
def Admitted (env : SvtEnv Cert) (cfg : SVTValidatorConfig Cert) (now : Date) (jwt : SignedJWT) :
    Prop :=
  ∃ cert, (jwtCertsOf env cfg jwt).signingCert = some cert ∧
    cfg.svaCertVerifier cert (jwtCertsOf env cfg jwt).supportingCertList = .ok () ∧
    PassesThrowingChecks env now jwt (env.getPublicKey cert) ∧
    ∃ good, env.jwsVerify jwt (env.getPublicKey cert) = .ok good

/-- It says no, under the key of that certificate. -/
def Forged (env : SvtEnv Cert) (cfg : SVTValidatorConfig Cert) (now : Date) (jwt : SignedJWT) :
    Prop :=
  ∃ cert, (jwtCertsOf env cfg jwt).signingCert = some cert ∧
    cfg.svaCertVerifier cert (jwtCertsOf env cfg jwt).supportingCertList = .ok () ∧
    SignatureDropped env now jwt (env.getPublicKey cert)

/-- The text is a token that gets through. -/
def Read (env : SvtEnv Cert) (cfg : SVTValidatorConfig Cert) (now : Date) (token : String)
    (jwt : SignedJWT) : Prop :=
  env.parse token = .ok jwt ∧ Admitted env cfg now jwt

section Reading

variable {env : SvtEnv Cert} {cfg : SVTValidatorConfig Cert} {now : Date} {tokens : List String}
  {jwt : SignedJWT}

theorem verifyJWT_ok_iff_admitted :
    verifyJWT env cfg now jwt = .ok () ↔ Admitted env cfg now jwt := by
  rw [verifyJWT_ok_iff]
  refine exists_congr fun cert => and_congr_right fun _ => and_congr_right fun _ => ?_
  exact verifySVA_ok_iff

theorem Forged.not_verified (h : Forged env cfg now jwt) : ¬ TokenVerified env cfg jwt := by
  obtain ⟨cert, hcert, -, -, hbad⟩ := h
  rintro ⟨cert', hcert', -, hgood⟩
  obtain rfl : cert = cert' := Option.some.inj (hcert.symm.trans hcert')
  rw [hbad] at hgood
  cases hgood

theorem Admitted.verified_or_forged (h : Admitted env cfg now jwt) :
    TokenVerified env cfg jwt ∨ Forged env cfg now jwt := by
  obtain ⟨cert, hcert, hvalid, hpasses, good, hgood⟩ := h
  cases good with
  | true => exact .inl ⟨cert, hcert, hvalid, hgood⟩
  | false => exact .inr ⟨cert, hcert, hvalid, hpasses, hgood⟩

theorem mem_verifiedTokens_iff_read :
    jwt ∈ verifiedTokens env cfg now tokens ↔ ∃ token ∈ tokens, Read env cfg now token jwt := by
  simp only [mem_verifiedTokens, verifyJWT_ok_iff_admitted, Read]

/-- The loop takes each text by itself. -/
theorem exists_reader (env : SvtEnv Cert) (cfg : SVTValidatorConfig Cert) (now : Date) :
    ∃ reader : String → Option SignedJWT,
      (∀ token jwt, reader token = some jwt ↔ Read env cfg now token jwt) ∧
      ∀ tokens, verifiedTokens env cfg now tokens = tokens.filterMap reader := by
  refine ⟨_, ?_, fun _ => rfl⟩
  intro token jwt
  unfold Read
  rw [← verifyJWT_ok_iff_admitted]
  cases hparse : env.parse token with
  | error e => simp
  | ok parsed =>
      cases hverify : verifyJWT env cfg now parsed with
      | error e =>
          simp only [hverify, reduceCtorEq, Except.ok.injEq, false_iff]
          rintro ⟨rfl, h⟩
          rw [hverify] at h
          cases h
      | ok u =>
          simp only [hverify, Option.some.injEq, Except.ok.injEq]
          constructor
          · rintro rfl
            exact ⟨rfl, hverify⟩
          · rintro ⟨rfl, -⟩
            rfl

/-- A token among those that got through has its text among the carried ones. -/
theorem verifiedTokens_eq_append_iff {older newer : List SignedJWT} :
    verifiedTokens env cfg now tokens = older ++ jwt :: newer ↔
      ∃ before token after, tokens = before ++ token :: after ∧ Read env cfg now token jwt ∧
        verifiedTokens env cfg now before = older ∧ verifiedTokens env cfg now after = newer := by
  obtain ⟨reader, hreader, hlist⟩ := exists_reader env cfg now
  simp only [← hreader, hlist]
  constructor
  · intro h
    obtain ⟨front, back, rfl, hfront, hback⟩ := List.filterMap_eq_append_iff.mp h
    obtain ⟨skipped, token, after, rfl, hskipped, htoken, hafter⟩ :=
      List.filterMap_eq_cons_iff.mp hback
    refine ⟨front ++ skipped, token, after, by simp, htoken, ?_, hafter⟩
    rw [List.filterMap_append, hfront, List.filterMap_eq_nil_iff.mpr hskipped, List.append_nil]
  · rintro ⟨before, token, after, rfl, htoken, rfl, rfl⟩
    rw [List.filterMap_append, List.filterMap_cons_some htoken]

end Reading

/-! ## The token that comes into use -/

/-- The token is carried, and no other one that gets through is newer or, among equally new
ones, in front of it. To be put in order they have issue times, unless there is no other. -/
def Foremost (env : SvtEnv Cert) (cfg : SVTValidatorConfig Cert) (now : Date)
    (tokens : List String) (jwt : SignedJWT) : Prop :=
  ∃ before token after, tokens = before ++ token :: after ∧ Read env cfg now token jwt ∧
    ((∀ text ∈ before ++ after, ∀ other, ¬ Read env cfg now text other) ∨
      Issued jwt ∧
      (∀ text ∈ before, ∀ other, Read env cfg now text other →
        Issued other ∧ issueTime other < issueTime jwt) ∧
      ∀ text ∈ after, ∀ other, Read env cfg now text other →
        Issued other ∧ issueTime other ≤ issueTime jwt)

/-- Any two of the tokens that get through have different issue times. -/
def ReadApart (env : SvtEnv Cert) (cfg : SVTValidatorConfig Cert) (now : Date)
    (tokens : List String) : Prop :=
  tokens.Pairwise fun token token' => ∀ jwt jwt', Read env cfg now token jwt →
    Read env cfg now token' jwt' → IssuedApart jwt jwt'

/-- The token is carried and, if there is an order of issue to go by, no other one is newer. -/
def Eligible (env : SvtEnv Cert) (cfg : SVTValidatorConfig Cert) (now : Date)
    (tokens : List String) (jwt : SignedJWT) : Prop :=
  (∃ token ∈ tokens, Read env cfg now token jwt) ∧
    (ReadApart env cfg now tokens → ∀ token ∈ tokens, ∀ other, Read env cfg now token other →
      issueTime other ≤ issueTime jwt)

section Selection

variable {env : SvtEnv Cert} {cfg : SVTValidatorConfig Cert} {now : Date} {tokens : List String}
  {jwt : SignedJWT}

theorem foremost_iff :
    Foremost env cfg now tokens jwt ↔
      getMostRecentJwt (verifiedTokens env cfg now tokens) = .ok (some jwt) := by
  rw [getMostRecentJwt_ok_iff]
  constructor
  · rintro ⟨before, token, after, rfl, hread, hothers⟩
    have hlist : verifiedTokens env cfg now (before ++ token :: after) =
        verifiedTokens env cfg now before ++ jwt :: verifiedTokens env cfg now after :=
      verifiedTokens_eq_append_iff.mpr ⟨before, token, after, rfl, hread, rfl, rfl⟩
    rw [hlist]
    rcases hothers with hnone | ⟨hissued, hbefore, hafter⟩
    · have hempty : ∀ texts, (∀ text ∈ texts, text ∈ before ++ after) →
          verifiedTokens env cfg now texts = [] := by
        intro texts hsub
        refine List.eq_nil_iff_forall_not_mem.mpr fun other hother => ?_
        obtain ⟨text, htext, hread'⟩ := mem_verifiedTokens_iff_read.mp hother
        exact hnone text (hsub text htext) other hread'
      rw [hempty before fun _ h => List.mem_append_left _ h,
        hempty after fun _ h => List.mem_append_right _ h]
      exact ⟨⟨[], [], rfl, by simp, by simp⟩, .inl rfl⟩
    · refine ⟨⟨_, _, rfl, ?_, ?_⟩, .inr ?_⟩
      · intro other hother
        obtain ⟨text, htext, hread'⟩ := mem_verifiedTokens_iff_read.mp hother
        exact (hbefore text htext other hread').2
      · intro other hother
        obtain ⟨text, htext, hread'⟩ := mem_verifiedTokens_iff_read.mp hother
        exact (hafter text htext other hread').2
      · intro other hother
        rw [List.mem_append, List.mem_cons] at hother
        rcases hother with hother | rfl | hother
        · obtain ⟨text, htext, hread'⟩ := mem_verifiedTokens_iff_read.mp hother
          exact (hbefore text htext other hread').1
        · exact hissued
        · obtain ⟨text, htext, hread'⟩ := mem_verifiedTokens_iff_read.mp hother
          exact (hafter text htext other hread').1
  · rintro ⟨⟨older, newer, hlist, hbefore, hafter⟩, hcomparable⟩
    obtain ⟨before, token, after, rfl, hread, rfl, rfl⟩ := verifiedTokens_eq_append_iff.mp hlist
    refine ⟨before, token, after, rfl, hread, ?_⟩
    rw [hlist] at hcomparable
    rcases hcomparable with hsingle | hissued
    · -- with one token through, nothing else in the list is read
      left
      intro text htext other hread'
      have hother : other ∈
          verifiedTokens env cfg now before ++ verifiedTokens env cfg now after := by
        rw [List.mem_append] at htext ⊢
        exact htext.imp (fun h => mem_verifiedTokens_iff_read.mpr ⟨text, h, hread'⟩)
          (fun h => mem_verifiedTokens_iff_read.mpr ⟨text, h, hread'⟩)
      have hpos := List.length_pos_of_mem hother
      rw [List.length_append] at hpos
      rw [List.length_append, List.length_cons] at hsingle
      omega
    · right
      refine ⟨hissued jwt (by simp), ?_, ?_⟩
      · intro text htext other hread'
        have hother := mem_verifiedTokens_iff_read.mpr ⟨text, htext, hread'⟩
        exact ⟨hissued other (List.mem_append_left _ hother), hbefore other hother⟩
      · intro text htext other hread'
        have hother := mem_verifiedTokens_iff_read.mpr ⟨text, htext, hread'⟩
        exact ⟨hissued other (List.mem_append_right _ (List.mem_cons_of_mem _ hother)),
          hafter other hother⟩

theorem getMostRecentJwtBy_mem {library : LibrarySort} {l : List SignedJWT}
    (hreorders : library.Reorders) (h : getMostRecentJwtBy library l = .ok (some jwt)) :
    jwt ∈ l := by
  unfold getMostRecentJwtBy at h
  split at h
  · cases h
  · obtain ⟨sorted, hsorted, h⟩ := bind_ok_iff.mp h
    have hhead : sorted.head? = some jwt := by simpa [pure, Except.pure] using h
    exact (hreorders _ _ _ hsorted).mem_iff.mp (List.mem_of_mem_head? hhead)

theorem readApart_iff :
    ReadApart env cfg now tokens ↔
      (verifiedTokens env cfg now tokens).Pairwise IssuedApart := by
  obtain ⟨reader, hreader, hlist⟩ := exists_reader env cfg now
  rw [hlist, List.pairwise_filterMap]
  unfold ReadApart
  simp only [← hreader]
  constructor
  · intro h
    exact h.imp fun hapart jwt hjwt jwt' hjwt' => hapart jwt jwt' hjwt hjwt'
  · intro h
    exact h.imp fun hapart jwt jwt' hjwt hjwt' => hapart jwt hjwt jwt' hjwt'

/-- A sort that reorders the list may put a token first exactly if it is in the list and, where
the comparator keeps its contract, none is newer. -/
theorem exists_sort_iff {l : List SignedJWT} :
    (∃ library : LibrarySort, library.Reorders ∧
      getMostRecentJwtBy library l = .ok (some jwt)) ↔
      jwt ∈ l ∧ (l.Pairwise IssuedApart → ∀ other ∈ l, issueTime other ≤ issueTime jwt) := by
  constructor
  · rintro ⟨library, hreorders, hrecent⟩
    refine ⟨getMostRecentJwtBy_mem hreorders hrecent, ?_⟩
    intro hapart
    exact ((getMostRecentJwtBy_ok_iff library hapart).mp hrecent).le
  · rintro ⟨hmem, hle⟩
    by_cases hapart : l.Pairwise IssuedApart
    · exact ⟨insertionSort, insertionSort_reorders,
        (getMostRecentJwtBy_ok_iff _ hapart).mpr (isNewest_of_apart hapart hmem (hle hapart))⟩
    · -- the contract is broken, and the list may be left as it is from the token on
      obtain ⟨n, hn, hget⟩ := List.mem_iff_getElem.mp hmem
      refine ⟨rotatingSort n, rotatingSort_reorders n, ?_⟩
      have hbroken : ¬ KeepsContract compareSVTIssueDate l := mt (keepsContract_iff l).mp hapart
      have hne : l.isEmpty = false := by
        rw [List.isEmpty_eq_false_iff]
        exact List.ne_nil_of_mem hmem
      have hhead : (l.rotate n).head? = some jwt := by
        rw [List.head?_rotate hn, List.getElem?_eq_getElem hn, hget]
      simp [getMostRecentJwtBy, hne, rotatingSort, if_neg hbroken, hhead, bind, Except.bind, pure,
        Except.pure]

theorem eligible_iff :
    Eligible env cfg now tokens jwt ↔
      ∃ library : LibrarySort, library.Reorders ∧
        getMostRecentJwtBy library (verifiedTokens env cfg now tokens) = .ok (some jwt) := by
  rw [exists_sort_iff, ← readApart_iff, mem_verifiedTokens_iff_read]
  refine and_congr_right fun _ => forall_congr' fun _ => ?_
  constructor
  · intro h other hother
    obtain ⟨token, htoken, hread⟩ := mem_verifiedTokens_iff_read.mp hother
    exact h token htoken other hread
  · intro h token htoken other hread
    exact h other (mem_verifiedTokens_iff_read.mpr ⟨token, htoken, hread⟩)

end Selection

/-! ## What is handed out -/

/-- Data is handed out for verified tokens only. -/
def OnlyVerified (env : SvtEnv Cert) (cfg : SVTValidatorConfig Cert)
    (result : Outcome (List SignatureSVTData)) : Prop :=
  ∀ svtDataList, result = .ok svtDataList → ∀ data ∈ svtDataList,
    TokenVerified env cfg data.signedJWT

/-- A forged token that is about the signature, and for which its data can be collected. -/
structure ForgedFor (env : SvtEnv Cert) (cfg : SVTValidatorConfig Cert) (now : Date)
    (signatureBytes : Bytes) (texts : List Bytes) (chain : List Cert) (jwt : SignedJWT) :
    Prop where
  forged : Forged env cfg now jwt
  about : MatchesSignature env signatureBytes jwt
  collectable : Collectable env texts chain jwt

section Shape

variable {env : SvtEnv Cert} {cfg : SVTValidatorConfig Cert} {now : Date} {tokens : List String}
  {signatureBytes : Bytes} {texts : List Bytes} {chain : List Cert} {library : LibrarySort}
  {collect : Option SignedJWT → Outcome SignatureSVTData}

theorem selectAndCollectBy_onlyVerified_iff
    (hcollect : Collects env signatureBytes texts chain collect)
    (hreorders : library.Reorders) :
    OnlyVerified env cfg (selectAndCollectBy library env cfg now tokens collect) ↔
      ∀ jwt, getMostRecentJwtBy library (verifiedTokens env cfg now tokens) = .ok (some jwt) →
        ¬ ForgedFor env cfg now signatureBytes texts chain jwt := by
  constructor
  · rintro honly jwt hrecent ⟨hforged, habout, hcollectable⟩
    obtain ⟨data, hdata⟩ := (hcollect.returns jwt).mpr ⟨habout, hcollectable⟩
    obtain rfl : jwt = data.signedJWT := Option.some.inj (hcollect.token _ _ hdata)
    have hrun : selectAndCollectBy library env cfg now tokens collect = .ok [data] :=
      bind_ok_iff.mpr ⟨_, hrecent, bind_ok_iff.mpr ⟨data, hdata, rfl⟩⟩
    exact hforged.not_verified (honly _ hrun data List.mem_cons_self)
  · intro hnone svtDataList hrun data hmem
    obtain ⟨mostRecentJwt, hrecent, hrun⟩ := bind_ok_iff.mp hrun
    obtain ⟨data', hdata, hrun⟩ := bind_ok_iff.mp hrun
    cases hrun
    cases List.mem_singleton.mp hmem
    cases hcollect.token _ _ hdata
    obtain ⟨habout, hcollectable⟩ := (hcollect.returns _).mp ⟨data, hdata⟩
    -- the selected token was read from one of the texts
    obtain ⟨token, -, -, hadmitted⟩ :=
      mem_verifiedTokens_iff_read.mp (getMostRecentJwtBy_mem hreorders hrecent)
    rcases hadmitted.verified_or_forged with hverified | hforged
    · exact hverified
    · exact absurd ⟨hforged, habout, hcollectable⟩ (hnone _ hrecent)

theorem onlyVerified_iff_foremost
    (hcollect : Collects env signatureBytes texts chain collect) :
    OnlyVerified env cfg (selectAndCollectBy insertionSort env cfg now tokens collect) ↔
      ∀ jwt, Foremost env cfg now tokens jwt →
        ¬ ForgedFor env cfg now signatureBytes texts chain jwt := by
  rw [selectAndCollectBy_onlyVerified_iff hcollect insertionSort_reorders]
  simp only [foremost_iff, getMostRecentJwt_eq]

theorem onlyVerified_iff_eligible
    (hcollect : Collects env signatureBytes texts chain collect) :
    (∀ library : LibrarySort, library.Reorders →
      OnlyVerified env cfg (selectAndCollectBy library env cfg now tokens collect)) ↔
      ∀ jwt, Eligible env cfg now tokens jwt →
        ¬ ForgedFor env cfg now signatureBytes texts chain jwt := by
  constructor
  · intro honly jwt heligible
    obtain ⟨library, hreorders, hrecent⟩ := eligible_iff.mp heligible
    exact (selectAndCollectBy_onlyVerified_iff hcollect hreorders).mp
      (honly library hreorders) jwt hrecent
  · intro hnone library hreorders
    refine (selectAndCollectBy_onlyVerified_iff hcollect hreorders).mpr fun jwt hrecent => ?_
    exact hnone jwt (eligible_iff.mpr ⟨library, hreorders, hrecent⟩)

end Shape

/-- **When a normal return means verified.** At every token, key and time the contract of
`verifySVA` holds exactly when the signature check does not say no behind checks that all
pass. Each validator hands out verified tokens only exactly when no forged token about the
signature is foremost among those that get through; and whatever sort the library has, exactly
when none is eligible. -/
theorem verifySVA_sound_iff (env : SvtEnv Cert) :
    (∀ now jwt key, (verifySVA env now jwt key = .ok () → SVAVerified env now jwt key) ↔
      ¬ SignatureDropped env now jwt key) ∧
    (∀ cfg now (input : XMLSVTValidator.XMLSigValInput Cert),
      (OnlyVerified env cfg (XMLSVTValidator.getSignatureSVTData env cfg now input) ↔
        ∀ jwt, Foremost env cfg now
            (XMLSVTValidator.getSignatureSvaTokens input.signatureElement) jwt →
          ¬ ForgedFor env cfg now input.signatureData.signatureBytes input.signatureData.texts
            input.signatureData.signatureCertChain jwt) ∧
      ((∀ library : LibrarySort, library.Reorders →
          OnlyVerified env cfg
            (XMLSVTValidator.getSignatureSVTDataBy library env cfg now input)) ↔
        ∀ jwt, Eligible env cfg now
            (XMLSVTValidator.getSignatureSvaTokens input.signatureElement) jwt →
          ¬ ForgedFor env cfg now input.signatureData.signatureBytes input.signatureData.texts
            input.signatureData.signatureCertChain jwt)) ∧
    (∀ cfg now (input : JOSESVTValidator.JOSESignatureData Cert),
      (OnlyVerified env cfg (JOSESVTValidator.getSignatureSVTData env cfg now input) ↔
        ∀ jwt, Foremost env cfg now
            (JOSESVTValidator.getSignatureSvaTokens input.unprotectedHeader) jwt →
          ¬ ForgedFor env cfg now input.signatureBytes input.texts input.signatureCertChain
            jwt) ∧
      ((∀ library : LibrarySort, library.Reorders →
          OnlyVerified env cfg
            (JOSESVTValidator.getSignatureSVTDataBy library env cfg now input)) ↔
        ∀ jwt, Eligible env cfg now
            (JOSESVTValidator.getSignatureSvaTokens input.unprotectedHeader) jwt →
          ¬ ForgedFor env cfg now input.signatureBytes input.texts input.signatureCertChain
            jwt)) := by
  refine ⟨?_, ?_, ?_⟩
  · intro now jwt key
    constructor
    · rintro hsound ⟨hpass, hfalse⟩
      have hret := verifySVA_ok_iff.mpr ⟨hpass, false, hfalse⟩
      have htrue := (hsound hret).signature
      rw [hfalse] at htrue
      cases htrue
    · exact verified_of_not_dropped
  · intro cfg now input
    have hcollect := XMLSVTValidator.collects env input
    rw [XMLSVTValidator.getSignatureSVTData_eq]
    exact ⟨onlyVerified_iff_foremost hcollect, onlyVerified_iff_eligible hcollect⟩
  · intro cfg now input
    have hcollect := JOSESVTValidator.collects env input
    rw [JOSESVTValidator.getSignatureSVTData_eq]
    exact ⟨onlyVerified_iff_foremost hcollect, onlyVerified_iff_eligible hcollect⟩

/-! A token with a forged signature: right header, right claims, unexpired. -/

/-- The digest of the trusted certificate. -/
def forgedKeyID : String := "ogAGWHeYq116bMpkj3P/KojmddVR9PIQJ0q/gxUy1Dw="

/-- The header names the certificate, and the claims are those below. -/
def forgedInput : String :=
  "eyJhbGciOiJFUzI1NiIsImtpZCI6Im9nQUdXSGVZcTExNmJNcGtqM1AvS29qbWRkVlI5UElRSjBxL2d4VXkxRHc9" ++
    "In0.eyJpYXQiOjEsImV4cCI6NSwic2lnX3ZhbF9jbGFpbXMiOnsidmVyIjoiMS4wIiwicHJvZmlsZSI6IlhNTCIs" ++
    "Imhhc2hfYWxnbyI6Imh0dHA6Ly93d3cudzMub3JnLzIwMDEvMDQveG1sZW5jI3NoYTI1NiIsInNpZyI6W3sic2ln" ++
    "X3JlZiI6eyJzaWdfaGFzaCI6ImgiLCJzYl9oYXNoIjoiaCJ9LCJzaWdfZGF0YV9yZWYiOlt7InJlZiI6InBheWxv" ++
    "YWQiLCJoYXNoIjoiaCJ9XX1dfX0"

/-- The value is by another key than that of the certificate. -/
def forgedValue : String :=
  "hrBibbbN6G_GgcwYFNeKu_dCpoCvAPpzOF1quUlUWA7qmJc67hVa3jCP5eSx5Ex0qARe0u2Lb_Dj7AZJzlDwwg"

def forgedText : String := forgedInput ++ "." ++ forgedValue

def forgedToken : SignedJWT where
  header := ⟨"ES256", some forgedKeyID, none⟩
  claimsSet := some
    { issuer := none
      jwtID := none
      issueTime := some 1000
      expirationTime := some 5000
      sigValClaims := some
        { hashAlgo := some DigestAlgorithm.idSHA256
          sig := some [⟨⟨none, "h", "h"⟩, [⟨"payload", "h"⟩], none, none⟩] } }
  signingInput := forgedInput.toUTF8.data.toList
  signature := Base64Url.decode forgedValue

/-- One trusted certificate, with a P-256 key; the check accepts the genuine value. -/
def forgedEnv : SvtEnv Unit where
  parse := fun token =>
    if token = forgedText then .ok forgedToken else .error ⟨.parse, "Invalid serialized JWT"⟩
  jwsVerify := fun jwt _ => .ok (jwt.signature == Base64Url.decode
    "a16T2z6-S2wTX1-eeLQDdjJV2Fc4UeTXwjlj21uOZdQKKiKYDnblK7tdHzJS-zFJ-wkJDUEXFU4Q4984I3lFtg")
  newVerifier := fun _ => .ok ()
  getDigestAlgoId := fun _ => .ok DigestAlgorithm.idSHA256
  certDigest := fun _ _ => .ok forgedKeyID
  toBase64Digest := fun _ _ => .ok "h"
  getCertOrNull := fun _ => none
  getPublicKey := fun _ => .ec [4]
  getEncoded := fun _ => .ok [1]
  registry := [⟨DigestAlgorithm.idSHA256, DigestAlgorithm.oidSHA256⟩]

/-- The certificate is configured as a supporting one. -/
def trustOne : SVTValidatorConfig Unit where
  svaCertVerifier := fun _ _ => .ok ()
  supportingCertificates := [()]

def forgedJose : JOSESVTValidator.JOSESignatureData Unit where
  detached := false
  headerBase64URL := "e30"
  payloadBase64URL := "e30"
  payload := []
  unprotectedHeader := some [("svt", .list [.string forgedText])]
  signatureBytes := [3]
  signatureCertChain := []

def forgedXml : XMLSVTValidator.XMLSigValInput Unit where
  signatureElement :=
    .element XMLSVTValidator.xmldsigNS "Signature" []
      [.element XMLSVTValidator.xmldsigNS "Object" []
        [.element XMLSVTValidator.xmlSvtNS "SignatureValidationToken" [] [.text forgedText]]]
  signatureData := ⟨none, [], [3], [4], []⟩

theorem forgedToken_accepted : verifySVA forgedEnv 2000 forgedToken (.ec [4]) = .ok () := rfl

theorem forgedToken_bad (key : PublicKey) : forgedEnv.jwsVerify forgedToken key ≠ .ok true := by
  have hbad : forgedEnv.jwsVerify forgedToken (.ec [4]) ≠ .ok true := by decide +kernel
  exact hbad

theorem forgedText_through :
    verifiedTokens forgedEnv trustOne 2000 [forgedText] = [forgedToken] := by
  have hread : Read forgedEnv trustOne 2000 forgedText forgedToken := by
    refine ⟨by simp only [forgedEnv, ↓reduceIte], verifyJWT_ok_iff_admitted.mp ?_⟩
    exact verifyJWT_ok_iff.mpr ⟨(), rfl, rfl, forgedToken_accepted⟩
  obtain ⟨reader, hreader, hlist⟩ := exists_reader forgedEnv trustOne 2000
  rw [hlist, List.filterMap_cons_some ((hreader _ _).mpr hread), List.filterMap_nil]

/-- `verifySVA` returns normally on the forged token, and both validators
select it. -/
theorem forged_token_selected :
    verifySVA forgedEnv 2000 forgedToken (.ec [4]) = .ok () ∧
    ¬ SVAVerified forgedEnv 2000 forgedToken (.ec [4]) ∧
    (∃ data, XMLSVTValidator.getSignatureSVTData forgedEnv trustOne 2000 forgedXml = .ok [data] ∧
      ¬ TokenVerified forgedEnv trustOne data.signedJWT) ∧
    (∃ data, JOSESVTValidator.getSignatureSVTData forgedEnv trustOne 2000 forgedJose =
        .ok [data] ∧
      ¬ TokenVerified forgedEnv trustOne data.signedJWT) := by
  have hnot : ¬ TokenVerified forgedEnv trustOne forgedToken := by
    rintro ⟨cert, _, _, h⟩
    exact forgedToken_bad _ h
  have hrecent : getMostRecentJwt [forgedToken] = .ok (some forgedToken) := rfl
  refine ⟨forgedToken_accepted, fun h => forgedToken_bad _ h.signature, ?_, ?_⟩
  · obtain ⟨data, hdata, hjwt⟩ : ∃ data, XMLSVTValidator.collectSignatureSVTData forgedEnv
        forgedXml (some forgedToken) = .ok data ∧ data.signedJWT = forgedToken := ⟨_, rfl, rfl⟩
    have htokens : XMLSVTValidator.getSignatureSvaTokens forgedXml.signatureElement =
        [forgedText ++ ""] := rfl
    rw [String.append_empty] at htokens
    refine ⟨data, ?_, hjwt ▸ hnot⟩
    simp only [XMLSVTValidator.getSignatureSVTData, htokens, forgedText_through, hrecent, hdata,
      bind, Except.bind, pure, Except.pure]
  · obtain ⟨data, hdata, hjwt⟩ : ∃ data, JOSESVTValidator.collectSignatureSVTData forgedEnv
        forgedJose (some forgedToken) = .ok data ∧ data.signedJWT = forgedToken := ⟨_, rfl, rfl⟩
    have htokens : JOSESVTValidator.getSignatureSvaTokens forgedJose.unprotectedHeader =
        [forgedText] := rfl
    refine ⟨data, ?_, hjwt ▸ hnot⟩
    simp only [JOSESVTValidator.getSignatureSVTData, htokens, forgedText_through, hrecent, hdata,
      bind, Except.bind, pure, Except.pure]

end SigVal.Svt
