import SigVal.Pdf.SingleValidator

/-!
# SVT document timestamps

A PDF carries its Signature Validation Tokens inside document timestamps.
`PDFSVTValidator.getMostRecentValidSVA` builds a `PDFSVTDocTimeStamp` for each of
them, filters and sorts them, and hands out the most recent one. There are three
filters and three ways to fail: a flag, a loop over policy claims, and
`verifySVA`, which records a failure in a field.
-/

namespace SigVal.Pdf

open SigVal.Java SigVal.Cert SigVal.Commons

variable {Cert : Type}

/-- `PDFSVTDocTimeStamp`. -/
structure PDFSVTDocTimeStamp (Cert : Type) extends PDFDocTimeStamp Cert where
  signedJWT : SignedJWT
  svtClaims : SVTClaims
  svaSigCert : Option Cert := none
  svaChain : Option (List Cert) := none
  svaSignatureValid : Bool := false
  svaCertValidationResult : Option (CertificateValidationResult Cert) := none
deriving DecidableEq, Repr

/-- `SVAUtils.getSVTJWT`. -/
def getSVTJWT (tstInfo : Option TSTInfo) : Outcome String :=
  match tstInfo.bind (·.svtJWT) with
  | some svaJwt => .ok svaJwt
  | none => .error ⟨.io, "No SVA JWT is available in TSTInfo"⟩

namespace PDFSVTDocTimeStamp

/-- The constructor: the timestamp is processed first, and then the token must be
there and parse. -/
def ofSignature (pdf : PdfEnv Cert) (svt : SvtEnv Cert)
    (tsPolicyVerifier : TimeStampPolicyVerifier Cert) (pdfDoc : Bytes)
    (documentTimestampSig : PDSignature) : Outcome (PDFSVTDocTimeStamp Cert) := do
  let contents ← pdf.getContents documentTimestampSig pdfDoc
  let signedContent ← pdf.getSignedContent documentTimestampSig pdfDoc
  let ts := TimeStamp.ofToken pdf.ts tsPolicyVerifier contents (some signedContent)
  let svajwt ← getSVTJWT ts.tstInfo
  let signedJWT ← svt.parse svajwt
  let claimsSet ← signedJWT.getJWTClaimsSet
  let svtClaims ← SVAUtils.getSVTClaims claimsSet
  pure
    { ts with
      documentTimestampSig := documentTimestampSig
      signedJWT := signedJWT
      svtClaims := svtClaims }

theorem ofSignature_of_calls {pdf : PdfEnv Cert} {svt : SvtEnv Cert}
    {tsPolicyVerifier : TimeStampPolicyVerifier Cert} {pdfDoc : Bytes} {signature : PDSignature}
    {contents signedContent : Bytes} {ts : TimeStamp Cert} {svaJwt : String} {jwt : SignedJWT}
    {claimsSet : JWTClaimsSet} {claims : SVTClaims}
    (hcontents : pdf.getContents signature pdfDoc = .ok contents)
    (hcontent : pdf.getSignedContent signature pdfDoc = .ok signedContent)
    (hts : TimeStamp.ofToken pdf.ts tsPolicyVerifier contents (some signedContent) = ts)
    (hjwt : getSVTJWT ts.tstInfo = .ok svaJwt) (hparse : svt.parse svaJwt = .ok jwt)
    (hset : jwt.getJWTClaimsSet = .ok claimsSet)
    (hclaims : SVAUtils.getSVTClaims claimsSet = .ok claims) :
    ofSignature pdf svt tsPolicyVerifier pdfDoc signature =
      .ok { ts with documentTimestampSig := signature, signedJWT := jwt, svtClaims := claims } := by
  subst hts
  unfold ofSignature
  rw [hcontents, hcontent]
  simp only [bind, Except.bind, hjwt, hparse, hset, hclaims]
  rfl

/-- `getCert` on an entry of the certificate chain of the header. -/
def getCert (svt : SvtEnv Cert) (certBytes : Bytes) : Outcome Cert :=
  match svt.getCertOrNull certBytes with
  | some cert => .ok cert
  | none => .error ⟨.security, "Unable to parse certificate"⟩

/-- `getSvaSigningCertificate` without given certificates: those of the timestamp
when the key identifier names its signer or the header has none, and those of the
header otherwise. Any error leaves no certificate. -/
def getSvaSigningCertificate (svt : SvtEnv Cert) (svaTs : PDFSVTDocTimeStamp Cert) :
    Option Cert × Option (List Cert) :=
  let header := svaTs.signedJWT.header
  let located : Outcome (Option Cert × Option (List Cert)) := do
    let namesSigner ←
      match header.keyID with
      | none => pure false
      | some keyID => do
          let sigCert ← deref svaTs.sigCert
          let svaSigCertHashB64 ← svt.certDigest header.algorithm sigCert
          pure (keyID == svaSigCertHashB64)
    if namesSigner then pure (svaTs.sigCert, svaTs.certList)
    else
      match header.x509CertChain with
      | none => pure (svaTs.sigCert, svaTs.certList)
      | some [] => pure (svaTs.sigCert, svaTs.certList)
      | some (x5c :: rest) => do
          let referencedCertChain ← (x5c :: rest).mapM (getCert svt)
          pure (referencedCertChain.head?, some referencedCertChain)
  match located with
  | .ok certs => certs
  | .error _ => (none, none)

/-- `verifySVA()`. It does not throw: what goes wrong leaves `svaSignatureValid`
false. -/
def verifySVA (svt : SvtEnv Cert) (now : Date) (svaTokenCertVerifier : CertificateValidator Cert)
    (svaTs : PDFSVTDocTimeStamp Cert) : PDFSVTDocTimeStamp Cert :=
  let certs := getSvaSigningCertificate svt svaTs
  let svaTs :=
    { svaTs with
      svaSignatureValid := false
      svaSigCert := certs.1
      svaChain := certs.2
      svaCertValidationResult := some (.pathValidation {}) }
  let signatureChecked : Outcome Unit := do
    let svaSigCert ← deref svaTs.svaSigCert
    SVAUtils.verifySVA svt now svaTs.signedJWT (svt.getPublicKey svaSigCert)
  match signatureChecked with
  | .error _ => svaTs
  | .ok () =>
      match svaTokenCertVerifier svaTs.svaSigCert svaTs.svaChain with
      | .ok result =>
          { svaTs with svaSignatureValid := true, svaCertValidationResult := some result }
      | .error (.extended _ pathResult) =>
          { svaTs with svaCertValidationResult := some (.pathValidation pathResult) }
      | .error (.other _) => svaTs

/-- The signing certificate of the token is found, the token passes `verifySVA`
with its key, and the certificate is accepted. -/
def TokenAccepted (svt : SvtEnv Cert) (now : Date)
    (svaTokenCertVerifier : CertificateValidator Cert)
    (svaTs : PDFSVTDocTimeStamp Cert) : Prop :=
  ∃ cert, (getSvaSigningCertificate svt svaTs).1 = some cert ∧
    SVAUtils.verifySVA svt now svaTs.signedJWT (svt.getPublicKey cert) = .ok () ∧
    ∃ result, svaTokenCertVerifier (some cert) (getSvaSigningCertificate svt svaTs).2 = .ok result

/-- What `verifySVA` does not write. -/
theorem verifySVA_fields (svt : SvtEnv Cert) (now : Date)
    (svaTokenCertVerifier : CertificateValidator Cert) (svaTs : PDFSVTDocTimeStamp Cert) :
    (verifySVA svt now svaTokenCertVerifier svaTs).toPDFDocTimeStamp = svaTs.toPDFDocTimeStamp ∧
      (verifySVA svt now svaTokenCertVerifier svaTs).signedJWT = svaTs.signedJWT ∧
      (verifySVA svt now svaTokenCertVerifier svaTs).svaSigCert =
        (getSvaSigningCertificate svt svaTs).1 ∧
      (verifySVA svt now svaTokenCertVerifier svaTs).svaChain =
        (getSvaSigningCertificate svt svaTs).2 := by
  unfold verifySVA
  dsimp only
  split
  · exact ⟨rfl, rfl, rfl, rfl⟩
  · split <;> exact ⟨rfl, rfl, rfl, rfl⟩

theorem verifySVA_valid_iff {svt : SvtEnv Cert} {now : Date}
    {svaTokenCertVerifier : CertificateValidator Cert} {svaTs : PDFSVTDocTimeStamp Cert} :
    (verifySVA svt now svaTokenCertVerifier svaTs).svaSignatureValid = true ↔
      TokenAccepted svt now svaTokenCertVerifier svaTs := by
  unfold verifySVA TokenAccepted
  dsimp only
  cases hcert : (getSvaSigningCertificate svt svaTs).1 with
  | none => simp [deref, bind, Except.bind]
  | some cert =>
      simp only [deref, bind, Except.bind, Option.some.injEq, exists_eq_left']
      cases hverify : SVAUtils.verifySVA svt now svaTs.signedJWT (svt.getPublicKey cert) with
      | error ex => simp
      | ok u =>
          cases hpath : svaTokenCertVerifier (some cert) (getSvaSigningCertificate svt svaTs).2 with
          | ok result => simp
          | error failure => cases failure <;> simp

end PDFSVTDocTimeStamp

/-- `PDFSVTValidator`, with its collaborators. -/
structure PDFSVTValidator (Cert : Type) where
  svaCertVerifier : CertificateValidator Cert
  timeStampPolicyVerifier : TimeStampPolicyVerifier Cert

namespace PDFSVTValidator

open PDFSVTDocTimeStamp

/-- The comparator of the sort: more recent first. -/
def compareGenTime (o1 o2 : PDFSVTDocTimeStamp Cert) : Outcome Int := do
  let tstInfo1 ← deref o1.tstInfo
  match tstInfo1.genTime with
  | none => pure 0
  | some o1Date => do
      let tstInfo2 ← deref o2.tstInfo
      match tstInfo2.genTime with
      | none => pure 0
      | some o2Date => pure (if o1Date > o2Date then -1 else 1)

/-- One round of the loop over the SVT dictionaries: what it adds to the list of
valid timestamps. -/
def validSvaTs (pdf : PdfEnv Cert) (svt : SvtEnv Cert) (now : Date) (v : PDFSVTValidator Cert)
    (pdfDocBytes : Bytes) (svaTsSig : PDSignature) : Option (PDFSVTDocTimeStamp Cert) := do
  let svaTs ← (ofSignature pdf svt v.timeStampPolicyVerifier pdfDocBytes svaTsSig).toOption
  if !svaTs.sigValid then none
  else
    for pv in svaTs.policyValidationClaimsList do
      -- this goes on with the next claim, not with the next timestamp
      if pv.res ≠ .PASSED then continue
    some (verifySVA svt now v.svaCertVerifier svaTs)

/-- `getMostRecentValidSVA`. -/
def getMostRecentValidSVA (pdf : PdfEnv Cert) (svt : SvtEnv Cert) (now : Date)
    (v : PDFSVTValidator Cert) (svaSigList : List PDSignature) (pdfDocBytes : Bytes) :
    Outcome (Option (PDFSVTDocTimeStamp Cert)) :=
  let validSvaTsList := svaSigList.filterMap (validSvaTs pdf svt now v pdfDocBytes)
  if validSvaTsList.isEmpty then .ok none
  else do
    let sorted ← sortWith compareGenTime validSvaTsList
    pure sorted.head?

/-! ## What is handed out -/

/-- The timestamp of a dictionary, when it is signed correctly. -/
def signedSvaTs (pdf : PdfEnv Cert) (svt : SvtEnv Cert) (v : PDFSVTValidator Cert)
    (pdfDocBytes : Bytes) (svaTsSig : PDSignature) : Option (PDFSVTDocTimeStamp Cert) :=
  (ofSignature pdf svt v.timeStampPolicyVerifier pdfDocBytes svaTsSig).toOption.filter (·.sigValid)

/-- A loop whose body only goes on has no effect. -/
theorem forIn_continue {α : Type} (p : α → Prop) [DecidablePred p] (xs : List α) :
    (forIn xs PUnit.unit fun x _ =>
      if p x then pure (ForInStep.yield PUnit.unit)
      else pure (ForInStep.yield PUnit.unit) : Option PUnit) = some PUnit.unit := by
  induction xs with
  | nil => rfl
  | cons x xs ih =>
      rw [List.forIn_cons, ite_self]
      exact ih

/-- The policy claims keep no timestamp out. -/
theorem validSvaTs_eq (pdf : PdfEnv Cert) (svt : SvtEnv Cert) (now : Date)
    (v : PDFSVTValidator Cert) (pdfDocBytes : Bytes) (svaTsSig : PDSignature) :
    validSvaTs pdf svt now v pdfDocBytes svaTsSig =
      (signedSvaTs pdf svt v pdfDocBytes svaTsSig).map (verifySVA svt now v.svaCertVerifier) := by
  unfold validSvaTs signedSvaTs
  cases (ofSignature pdf svt v.timeStampPolicyVerifier pdfDocBytes svaTsSig).toOption with
  | none => rfl
  | some svaTs =>
      cases hvalid : svaTs.sigValid with
      | false =>
          rw [Option.filter_some, if_neg (by simp [hvalid])]
          simp [hvalid]
      | true =>
          rw [Option.filter_some, if_pos hvalid]
          simp only [hvalid, Option.bind_eq_bind, Option.bind_some, Bool.not_true,
            Bool.false_eq_true, if_false, forIn_continue, Option.map_some]

/-- The time of a timestamp. -/
def genTime (svaTs : PDFSVTDocTimeStamp Cert) : Option Date := svaTs.tstInfo.bind (·.genTime)

/-- Both times are known and the first is later. -/
def moreRecent (o1 o2 : PDFSVTDocTimeStamp Cert) : Bool :=
  match genTime o1, genTime o2 with
  | some o1Date, some o2Date => decide (o1Date > o2Date)
  | _, _ => false

theorem moreRecent_iff {o1 o2 : PDFSVTDocTimeStamp Cert} {o1Date o2Date : Date}
    (h1 : genTime o1 = some o1Date) (h2 : genTime o2 = some o2Date) :
    moreRecent o1 o2 = true ↔ o2Date < o1Date := by
  unfold moreRecent
  rw [h1, h2]
  exact decide_eq_true_iff

theorem not_moreRecent_iff {o1 o2 : PDFSVTDocTimeStamp Cert} {o1Date o2Date : Date}
    (h1 : genTime o1 = some o1Date) (h2 : genTime o2 = some o2Date) :
    moreRecent o1 o2 = false ↔ o1Date ≤ o2Date := by
  rw [← Bool.not_eq_true, moreRecent_iff h1 h2, Int.not_lt]

/-- The most recent timestamp that is signed correctly, and of several of the same
time the first in the document. -/
def mostRecentSigned (pdf : PdfEnv Cert) (svt : SvtEnv Cert) (v : PDFSVTValidator Cert)
    (svaSigList : List PDSignature) (pdfDocBytes : Bytes) : Option (PDFSVTDocTimeStamp Cert) :=
  scan moreRecent (svaSigList.filterMap (signedSvaTs pdf svt v pdfDocBytes))

theorem compareGenTime_answers {svaTsList : List (PDFSVTDocTimeStamp Cert)}
    (h : ∀ svaTs ∈ svaTsList, ∃ tstInfo, svaTs.tstInfo = some tstInfo) :
    Answers compareGenTime moreRecent (· ∈ svaTsList) := by
  intro o1 h1 o2 h2
  obtain ⟨tstInfo1, ht1⟩ := h o1 h1
  obtain ⟨tstInfo2, ht2⟩ := h o2 h2
  unfold compareGenTime moreRecent genTime
  simp only [ht1, ht2, deref, bind, Except.bind, Option.bind_some]
  cases tstInfo1.genTime with
  | none => exact ⟨0, rfl, by simp⟩
  | some o1Date =>
      cases tstInfo2.genTime with
      | none => exact ⟨0, rfl, by simp⟩
      | some o2Date =>
          refine ⟨_, rfl, ?_⟩
          by_cases hlater : o1Date > o2Date
          · simp [hlater]
          · simp [hlater]

section MostRecent

variable (pdf : PdfEnv Cert) (svt : SvtEnv Cert) (now : Date) (v : PDFSVTValidator Cert)
  (svaSigList : List PDSignature) (pdfDocBytes : Bytes)

theorem signedSvaTs_loaded {svaTsSig : PDSignature} {svaTs : PDFSVTDocTimeStamp Cert}
    (h : signedSvaTs pdf svt v pdfDocBytes svaTsSig = some svaTs) :
    svaTs.sigValid = true ∧ ∃ tstInfo, svaTs.tstInfo = some tstInfo := by
  unfold signedSvaTs at h
  obtain ⟨hts, hvalid⟩ := Option.filter_eq_some_iff.mp h
  refine ⟨hvalid, ?_⟩
  cases hof : ofSignature pdf svt v.timeStampPolicyVerifier pdfDocBytes svaTsSig with
  | error ex =>
      rw [hof] at hts
      cases hts
  | ok ts =>
      rw [hof] at hts
      cases hts
      obtain ⟨contents, _, hof⟩ := bind_ok_iff.mp hof
      obtain ⟨signedContent, _, hof⟩ := bind_ok_iff.mp hof
      obtain ⟨svajwt, _, hof⟩ := bind_ok_iff.mp hof
      obtain ⟨signedJWT, _, hof⟩ := bind_ok_iff.mp hof
      obtain ⟨claimsSet, _, hof⟩ := bind_ok_iff.mp hof
      obtain ⟨svtClaims, _, hof⟩ := bind_ok_iff.mp hof
      cases hof
      exact (TimeStamp.ofToken_loaded pdf.ts v.timeStampPolicyVerifier contents
        (some signedContent) hvalid).1

/-- The most recent timestamp that is signed is handed out, with what `verifySVA`
has written into it. -/
theorem getMostRecentValidSVA_eq :
    getMostRecentValidSVA pdf svt now v svaSigList pdfDocBytes =
      .ok ((mostRecentSigned pdf svt v svaSigList pdfDocBytes).map
        (verifySVA svt now v.svaCertVerifier)) := by
  have hlist : svaSigList.filterMap (validSvaTs pdf svt now v pdfDocBytes) =
      (svaSigList.filterMap (signedSvaTs pdf svt v pdfDocBytes)).map
        (verifySVA svt now v.svaCertVerifier) := by
    rw [List.map_filterMap]
    exact List.filterMap_congr fun svaTsSig _ => validSvaTs_eq pdf svt now v pdfDocBytes svaTsSig
  have htst : ∀ svaTs, (verifySVA svt now v.svaCertVerifier svaTs).tstInfo = svaTs.tstInfo := by
    intro svaTs
    rw [(verifySVA_fields svt now v.svaCertVerifier svaTs).1]
  have hscan : scan moreRecent ((svaSigList.filterMap (signedSvaTs pdf svt v pdfDocBytes)).map
      (verifySVA svt now v.svaCertVerifier)) =
      (mostRecentSigned pdf svt v svaSigList pdfDocBytes).map
        (verifySVA svt now v.svaCertVerifier) := by
    apply scan_map
    intro o1 o2
    simp only [moreRecent, genTime, htst]
  have hanswers : Answers compareGenTime moreRecent
      (· ∈ (svaSigList.filterMap (signedSvaTs pdf svt v pdfDocBytes)).map
        (verifySVA svt now v.svaCertVerifier)) := by
    apply compareGenTime_answers
    intro svaTs hmem
    obtain ⟨signed, hsigned, rfl⟩ := List.mem_map.mp hmem
    obtain ⟨svaTsSig, _, hsig⟩ := List.mem_filterMap.mp hsigned
    rw [htst]
    exact (signedSvaTs_loaded pdf svt v pdfDocBytes hsig).2
  obtain ⟨sorted, hsorted, hhead⟩ := sortWith_head hanswers
  unfold getMostRecentValidSVA
  dsimp only
  rw [hlist, hsorted, ← hscan, ← hhead]
  split
  · -- the empty list has no best element
    rename_i hempty
    rw [hhead, List.isEmpty_iff.mp hempty]
    rfl
  · rfl

/-- Among timestamps whose times are all known, no signed one is later. -/
theorem mostRecentSigned_latest {svaTs : PDFSVTDocTimeStamp Cert}
    (hknown : ∀ o ∈ svaSigList.filterMap (signedSvaTs pdf svt v pdfDocBytes),
      ∃ date, genTime o = some date)
    (h : mostRecentSigned pdf svt v svaSigList pdfDocBytes = some svaTs) :
    ∀ o ∈ svaSigList.filterMap (signedSvaTs pdf svt v pdfDocBytes),
      ∀ date latest, genTime o = some date → genTime svaTs = some latest → date ≤ latest := by
  have hbest : ∀ o ∈ svaSigList.filterMap (signedSvaTs pdf svt v pdfDocBytes),
      moreRecent o svaTs = false := by
    apply scan_best _ _ h
    · intro o1 o2 h1 h2 hlater
      obtain ⟨d1, hd1⟩ := hknown o1 h1
      obtain ⟨d2, hd2⟩ := hknown o2 h2
      have hlt := (moreRecent_iff hd1 hd2).mp hlater
      exact (not_moreRecent_iff hd2 hd1).mpr (Int.le_of_lt hlt)
    · intro o1 o2 o3 h1 h2 h3 h12 h23
      obtain ⟨d1, hd1⟩ := hknown o1 h1
      obtain ⟨d2, hd2⟩ := hknown o2 h2
      obtain ⟨d3, hd3⟩ := hknown o3 h3
      have hle12 := (not_moreRecent_iff hd1 hd2).mp h12
      have hle23 := (not_moreRecent_iff hd2 hd3).mp h23
      exact (not_moreRecent_iff hd1 hd3).mpr (Int.le_trans hle12 hle23)
  intro o ho date latest hdate hlatest
  exact (not_moreRecent_iff hdate hlatest).mp (hbest o ho)

/-- What a caller takes the handed out timestamp to be. -/
structure Trustworthy (svt : SvtEnv Cert) (now : Date) (svaCertVerifier : CertificateValidator Cert)
    (svaTs : PDFSVTDocTimeStamp Cert) : Prop where
  sigValid : svaTs.sigValid = true
  policies : ∀ pv ∈ svaTs.policyValidationClaimsList, pv.res = .PASSED
  svaSignatureValid : svaTs.svaSignatureValid = true
  token : ∃ cert, svaTs.svaSigCert = some cert ∧
    SVAUtils.verifySVA svt now svaTs.signedJWT (svt.getPublicKey cert) = .ok () ∧
    ∃ result, svaCertVerifier (some cert) svaTs.svaChain = .ok result

theorem verifySVA_trustworthy_iff {svaCertVerifier : CertificateValidator Cert}
    {svaTs : PDFSVTDocTimeStamp Cert} (hvalid : svaTs.sigValid = true) :
    Trustworthy svt now svaCertVerifier (verifySVA svt now svaCertVerifier svaTs) ↔
      (∀ pv ∈ svaTs.policyValidationClaimsList, pv.res = .PASSED) ∧
        TokenAccepted svt now svaCertVerifier svaTs := by
  obtain ⟨hts, hjwt, hcert, hchain⟩ := verifySVA_fields svt now svaCertVerifier svaTs
  constructor
  · rintro ⟨_, hpolicies, hsva, _⟩
    rw [hts] at hpolicies
    exact ⟨hpolicies, verifySVA_valid_iff.mp hsva⟩
  · rintro ⟨hpolicies, haccepted⟩
    refine ⟨?_, ?_, verifySVA_valid_iff.mpr haccepted, ?_⟩
    · rw [hts]
      exact hvalid
    · rw [hts]
      exact hpolicies
    · rw [hcert, hchain, hjwt]
      exact haccepted

/-- **The most recent valid token.** For every list of dictionaries, the timestamp
that is handed out is signed, has passed its policies and carries a verified token
exactly when the most recent of the signed timestamps has. -/
theorem most_recent_trustworthy_iff :
    (∀ svaTs, getMostRecentValidSVA pdf svt now v svaSigList pdfDocBytes = .ok (some svaTs) →
      Trustworthy svt now v.svaCertVerifier svaTs) ↔
    ∀ svaTs, mostRecentSigned pdf svt v svaSigList pdfDocBytes = some svaTs →
      (∀ pv ∈ svaTs.policyValidationClaimsList, pv.res = .PASSED) ∧
        TokenAccepted svt now v.svaCertVerifier svaTs := by
  rw [getMostRecentValidSVA_eq]
  have hsigned : ∀ svaTs, mostRecentSigned pdf svt v svaSigList pdfDocBytes = some svaTs →
      svaTs.sigValid = true := by
    intro svaTs h
    obtain ⟨svaTsSig, _, hsig⟩ := List.mem_filterMap.mp (scan_mem h)
    exact (signedSvaTs_loaded pdf svt v pdfDocBytes hsig).1
  constructor
  · intro h svaTs hmost
    apply (verifySVA_trustworthy_iff svt now (hsigned svaTs hmost)).mp
    apply h
    rw [hmost]
    rfl
  · intro h svaTs hok
    obtain ⟨signed, hmost, rfl⟩ := Option.map_eq_some_iff.mp (Except.ok.inj hok)
    exact (verifySVA_trustworthy_iff svt now (hsigned signed hmost)).mpr (h signed hmost)

end MostRecent

/-! A token that verifies, in a timestamp that is in order, under a certificate the
SVT certificate validator rejects. -/

def rejectedJwt : SignedJWT where
  header := ⟨"RS256", none, none⟩
  claimsSet := some ⟨none, none, some 1000, none, some ⟨some DigestAlgorithm.idSHA256, some []⟩⟩
  signingInput := [1]
  signature := [2]

def svtTsEnv : TsEnv Nat where
  extractCertificates := fun _ _ => .ok (5, [5])
  getCmsSigTSTInfo := fun _ =>
    .ok (some ⟨"2c", some 1000, DigestAlgorithm.oidSHA256, [8], some "rejected"⟩)
  verifyTsSignature := fun _ _ => .ok ()
  registry := DigestAlgorithmRegistry.initial
  digest := fun _ data => .ok data
  getSubject := fun _ => "CN=SVT issuer"

def svtPdfEnv : PdfEnv Nat where
  getContents := fun _ _ => .ok [7]
  getSignedContent := fun _ _ => .ok [8]
  getSignDate := fun _ => none
  parseCMS := fun _ _ => .error ⟨.io, "no CMS"⟩
  getPkParams := fun _ => .ok ()
  getEncoded := fun _ => .ok [1]
  getAlgorithmURI := fun _ _ => .ok "http://www.w3.org/2001/04/xmldsig-more#rsa-sha256"
  getAlgorithmProperties := fun _ => .ok ()
  ts := svtTsEnv

def rejectedSvtEnv : SvtEnv Nat where
  parse := fun _ => .ok rejectedJwt
  jwsVerify := fun _ _ => .ok true
  newVerifier := fun _ => .ok ()
  getDigestAlgoId := fun _ => .ok DigestAlgorithm.idSHA256
  certDigest := fun _ _ => .ok "digest"
  toBase64Digest := fun _ _ => .ok "digest"
  getCertOrNull := fun _ => none
  getPublicKey := fun _ => .rsa [1]
  getEncoded := fun _ => .ok [1]
  registry := DigestAlgorithmRegistry.initial

/-- The timestamp policy trusts the certificate, and the SVT policy does not. -/
def rejectingValidator : PDFSVTValidator Nat where
  svaCertVerifier := fun _ _ => .error (.other ⟨.certPathValidator, "not trusted"⟩)
  timeStampPolicyVerifier := fun _ _ _ _ =>
    .ok ⟨⟨sigValidationPolicyPkixValidation, .PASSED, none⟩, some (.pathValidation {}), true, none⟩

theorem rejected_certificate_handed_out :
    ∃ svaTs,
      getMostRecentValidSVA svtPdfEnv rejectedSvtEnv 2000 rejectingValidator
        [⟨[0, 600, 700, 50], some "ETSI.RFC3161"⟩] [] = .ok (some svaTs) ∧
      svaTs.sigValid = true ∧ svaTs.svaSignatureValid = false ∧
      ¬ Trustworthy rejectedSvtEnv 2000 rejectingValidator.svaCertVerifier svaTs := by
  refine ⟨_, rfl, rfl, rfl, ?_⟩
  rintro ⟨_, _, hvalid, _⟩
  cases hvalid

end PDFSVTValidator

end SigVal.Pdf
