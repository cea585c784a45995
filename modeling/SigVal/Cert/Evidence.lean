import SigVal.Cert.OcspEntries
import SigVal.Cert.ResponderChain
import SigVal.Cert.StatusBacking

/-!
# The evidence for a certificate

When is a certificate good, in the terms of revocation lists and OCSP answers, and not of
threads and statuses? `Says` is what one source says about a certificate: the list of its
issuer, or the answer of a responder that may speak for the issuer. A responder that is not
the issuer itself is trusted when its certificate is exempt from checking or good in turn, and
`Evidence` is the least predicate that is closed under this rule. What the two checkers and
the check of the trust path make of a list and of an answer is read off here.
-/

namespace SigVal.Cert

open SigVal.Java SigVal.Runs BasicCertificateValidityChecker BasicValidityPathChecker

variable {Cert Crl : Type}

/-! ## What the two sources have to say -/

/-- A list that was found for the certificate and verifies under the key of the issuer. -/
structure FoundList (env : StatusEnv Cert Crl) (certificate issuer : Cert) where
  crlInfo : CRLInfo Crl
  found : env.getCRL certificate = .ok crlInfo
  verified : env.crlVerify crlInfo.crl issuer = .ok ()

/-- What the list says about the certificate. -/
def FoundList.validity {env : StatusEnv Cert Crl} {certificate issuer : Cert}
    (list : FoundList env certificate issuer) : CertificateValidity :=
  if env.isRevoked list.crlInfo.crl certificate then .REVOKED else .VALID

/-- The certificate verifies the signature of the response. -/
def BasicOCSPResp.verifiedBy (basicOCSPResp : BasicOCSPResp Cert) (cert : Cert) : Bool :=
  match basicOCSPResp.isSignatureValid cert with
  | .ok valid => valid
  | .error _ => false

/-- A successful response that was received for the certificate, with the certificates that
were all tried on its signature, and a nonce that is as it should be. -/
structure Answer (env : StatusEnv Cert Crl) (certificate issuer : Cert) where
  certificateId : String
  basicOCSPResp : BasicOCSPResp Cert
  responseCerts : List Cert
  identifier : env.certificateID issuer certificate = .ok certificateId
  received : ∃ ocspUrl ocspResp, env.getOCSPUrl certificate = .ok (some ocspUrl) ∧
    env.requestOCSPResponse ocspUrl certificateId env.nonce = .ok ocspResp ∧
    ocspResp.status = 0 ∧ ocspResp.responseObject = .ok (some basicOCSPResp)
  certs : basicOCSPResp.certs = .ok responseCerts
  signature : SignatureTried issuer basicOCSPResp
  nonce : OCSPCertificateVerifier.checkNonce env basicOCSPResp = .ok ()

section Answers

variable {env : StatusEnv Cert Crl} {certificate issuer : Cert}

/-- The certificates that are tried on the response. -/
def Answer.certList (answer : Answer env certificate issuer) : List Cert :=
  if answer.responseCerts.isEmpty then [issuer] else answer.responseCerts

/-- The last certificate that verifies the response counts as its signer. -/
def Answer.signer (answer : Answer env certificate issuer) : Option Cert :=
  (answer.certList.filter answer.basicOCSPResp.verifiedBy).getLast?

/-- What the entries for the certificate decide. -/
def Answer.validity (answer : Answer env certificate issuer) : CertificateValidity :=
  decided env.now .UNKNOWN (answer.basicOCSPResp.matching answer.certificateId)

/-- There is one answer at most. -/
theorem Answer.unique (a b : Answer env certificate issuer) : a = b := by
  obtain ⟨id, resp, certs, hid, ⟨url, ocspResp, hurl, hreceived, -, hobject⟩, hcerts, _, _⟩ := a
  obtain ⟨id', resp', certs', hid', ⟨url', ocspResp', hurl', hreceived', -, hobject'⟩, hcerts', _,
    _⟩ := b
  obtain rfl := Except.ok.inj (hid.symm.trans hid')
  obtain rfl := Option.some.inj (Except.ok.inj (hurl.symm.trans hurl'))
  obtain rfl := Except.ok.inj (hreceived.symm.trans hreceived')
  obtain rfl := Option.some.inj (Except.ok.inj (hobject.symm.trans hobject'))
  obtain rfl := Except.ok.inj (hcerts.symm.trans hcerts')
  rfl

end Answers

/-! ## Who may say it -/

/-- What the issuer of a revocation list has to be. -/
structure IssuesLists (env : StatusEnv Cert Crl) (issuer : Cert) : Prop where
  current : env.isCurrentlyValid issuer = true
  authority : 0 ≤ env.getBasicConstraints issuer
  keyUsage : ∃ keyUsage, env.getKeyUsage issuer = some keyUsage ∧ keyUsage.getD 6 false = true

/-- The issuer has made the signer a responder of its own, and the certificate in question is
not among those that come with the answer. -/
structure Delegated (env : StatusEnv Cert Crl) (issuer certificate : Cert) (certList : List Cert)
    (signer : Cert) : Prop where
  issuerCurrent : env.isCurrentlyValid issuer = true
  signerCurrent : env.isCurrentlyValid signer = true
  issued : env.certVerify signer issuer = .ok ()
  notInChain : certificate ∉ certList
  keyUsage : hasOcspKeyUsage env signer = true

/-- The signer may speak for the issuer. -/
inductive SpeaksFor (env : StatusEnv Cert Crl) (issuer : Cert) (trusted : Cert → Prop)
    (certificate : Cert) (certList : List Cert) : Cert → Prop
  | issuer : env.isCurrentlyValid issuer = true →
      SpeaksFor env issuer trusted certificate certList issuer
  | delegate {signer : Cert} : Delegated env issuer certificate certList signer →
      env.isOCSPNocheckExt signer = true ∨ trusted signer →
      SpeaksFor env issuer trusted certificate certList signer

/-- A source that may speak for the issuer says this about the certificate. -/
inductive Says (env : StatusEnv Cert Crl) (issuer : Cert) (trusted : Cert → Prop)
    (certificate : Cert) : CertificateValidity → Prop
  | list (list : FoundList env certificate issuer) : IssuesLists env issuer →
      Says env issuer trusted certificate list.validity
  | answer (answer : Answer env certificate issuer) {signer : Cert} :
      answer.signer = some signer →
      SpeaksFor env issuer trusted certificate answer.certList signer →
      Says env issuer trusted certificate answer.validity

/-- An answer that nobody is known to have signed says that the certificate is valid. In
multi-threaded mode that may be enough for the certificate of a responder. -/
def WordAlone (env : StatusEnv Cert Crl) (singleThreaded : Bool) (issuer certificate : Cert) :
    Prop :=
  singleThreaded = false ∧
    ∃ answer : Answer env certificate issuer, answer.signer = none ∧ answer.validity = .VALID

/-- The certificate is good on evidence: a source says that it is valid, and whoever this
source relies on is good on evidence in turn. -/
inductive Evidence (env : StatusEnv Cert Crl) (singleThreaded : Bool) (issuer : Cert) :
    Cert → Prop
  | source {certificate : Cert} (trusted : Cert → Prop) :
      (∀ signer, trusted signer → Evidence env singleThreaded issuer signer) →
      Says env issuer (fun signer => trusted signer ∨ WordAlone env singleThreaded issuer signer)
        certificate .VALID →
      Evidence env singleThreaded issuer certificate

theorem SpeaksFor.mono {env : StatusEnv Cert Crl} {issuer certificate signer : Cert}
    {certList : List Cert} {trusted trusted' : Cert → Prop} (h : ∀ c, trusted c → trusted' c)
    (hspeaks : SpeaksFor env issuer trusted certificate certList signer) :
    SpeaksFor env issuer trusted' certificate certList signer := by
  cases hspeaks with
  | issuer hcurrent => exact .issuer hcurrent
  | delegate hdelegated htrusted => exact .delegate hdelegated (htrusted.imp_right (h signer))

/-- Who trusts more hears more. -/
theorem Says.mono {env : StatusEnv Cert Crl} {issuer certificate : Cert}
    {validity : CertificateValidity} {trusted trusted' : Cert → Prop}
    (h : ∀ c, trusted c → trusted' c) (hstatement : Says env issuer trusted certificate validity) :
    Says env issuer trusted' certificate validity := by
  cases hstatement with
  | list list hissues => exact .list list hissues
  | answer answer hsigner hspeaks => exact .answer answer hsigner (hspeaks.mono h)

/-! ## The status of a revocation list -/

section Lists

variable {env : StatusEnv Cert Crl} {certificate issuer : Cert}

/-- What the checker makes of a list. -/
structure ReadList (certificate issuer : Cert) (validity : CertificateValidity)
    (status : ValidationStatus Cert) : Prop where
  about : status.certificate = certificate
  source : status.sourceType = some .CRL
  issuedBy : status.issuer = some issuer
  signedBy : status.statusSignerCertificate = some issuer
  signed : status.statusSignatureValid = true
  verdict : status.validity = validity

theorem FoundList.read (list : FoundList env certificate issuer) :
    ReadList certificate issuer list.validity
      (CRLValidityChecker.checkValidity env certificate issuer) := by
  apply Mutating.tryCatch_of_wp
  unfold CRLValidityChecker.checkList FoundList.validity
  rw [Mutating.wp_bind, Mutating.wp_call, list.found]
  refine ⟨fun crlInfo hfound => ?_, fun ex hfailed => by cases hfailed⟩
  obtain rfl := Except.ok.inj hfound
  rw [Mutating.wp_bind, Mutating.wp_modify, Mutating.wp_bind, Mutating.wp_call, list.verified]
  refine ⟨fun _ _ => ?_, fun ex hfailed => by cases hfailed⟩
  rw [Mutating.wp_bind, Mutating.wp_modify]
  split
  · -- a missing entry or reason is an exception that changes no field but its own
    rw [Mutating.wp_bind, Mutating.wp_modify, Mutating.wp_bind, Mutating.wp_call]
    refine ⟨fun crlEntry _ => ?_, fun _ _ => ⟨rfl, rfl, rfl, rfl, rfl, rfl⟩⟩
    rw [Mutating.wp_bind, Mutating.wp_modify]
    split
    · exact ⟨rfl, rfl, rfl, rfl, rfl, rfl⟩
    · exact ⟨rfl, rfl, rfl, rfl, rfl, rfl⟩
  · exact ⟨rfl, rfl, rfl, rfl, rfl, rfl⟩

/-- A signed status comes from a list that was found and verified. -/
theorem exists_foundList :
    (CRLValidityChecker.checkValidity env certificate issuer).statusSignatureValid = true →
      Nonempty (FoundList env certificate issuer) := by
  apply Mutating.tryCatch_of_wp (P := fun status : ValidationStatus Cert =>
    status.statusSignatureValid = true → Nonempty (FoundList env certificate issuer))
  unfold CRLValidityChecker.checkList
  rw [Mutating.wp_bind, Mutating.wp_call]
  refine ⟨fun crlInfo hfound => ?_, fun _ _ hsigned => by cases hsigned⟩
  rw [Mutating.wp_bind, Mutating.wp_modify, Mutating.wp_bind, Mutating.wp_call]
  refine ⟨fun _ hverified => ?_, fun _ _ hsigned => by cases hsigned⟩
  have hlist : Nonempty (FoundList env certificate issuer) := ⟨⟨crlInfo, hfound, hverified⟩⟩
  rw [Mutating.wp_bind, Mutating.wp_modify]
  split
  · rw [Mutating.wp_bind, Mutating.wp_modify, Mutating.wp_bind, Mutating.wp_call]
    refine ⟨fun crlEntry _ => ?_, fun _ _ _ => hlist⟩
    rw [Mutating.wp_bind, Mutating.wp_modify]
    split
    · exact fun _ => hlist
    · exact fun _ => hlist
  · exact fun _ => hlist

/-- There is one list at most. -/
theorem FoundList.unique (a b : FoundList env certificate issuer) : a = b := by
  obtain ⟨crlInfo, hfound, _⟩ := a
  obtain ⟨crlInfo', hfound', _⟩ := b
  obtain rfl := Except.ok.inj (hfound.symm.trans hfound')
  rfl

/-- The trust path of a list is the issuer's right to issue it. -/
theorem verifyList_ok_iff [DecidableEq Cert] {validity : CertificateValidity}
    {status : ValidationStatus Cert} (hread : ReadList certificate issuer validity status)
    (responder : Outcome (ValidationStatus Cert)) :
    verifyValidityStatusTrustPath env responder status = .ok () ↔ IssuesLists env issuer := by
  unfold verifyValidityStatusTrustPath
  rw [hread.source]
  show checkCrlTrustPath env status = .ok () ↔ _
  unfold checkCrlTrustPath
  rw [hread.issuedBy, hread.signedBy]
  constructor
  · intro h
    dsimp only at h
    split at h
    · cases h
    · rename_i hcurrent
      rw [if_neg (not_not.mpr rfl)] at h
      split at h
      · cases h
      · rename_i hauthority
        split at h
        · rename_i keyUsage husage
          split at h
          · rename_i hbit
            exact ⟨by simpa using hcurrent, by omega, keyUsage, husage, hbit⟩
          · cases h
        · cases h
  · rintro ⟨hcurrent, hauthority, keyUsage, husage, hbit⟩
    have hnot : ¬ env.getBasicConstraints issuer < 0 := by omega
    simp only [hcurrent, Bool.not_true, Bool.false_eq_true, if_false, ne_eq, not_true_eq_false,
      hnot, husage, hbit, if_true]
    rfl

end Lists

/-! ## The status of an OCSP answer -/

section Responses

variable {env : StatusEnv Cert Crl} {certificate issuer : Cert}

/-- What the loop over the certificates makes of a status: the last certificate that verified
the response is the signer. -/
def signedUpTo (basicOCSPResp : BasicOCSPResp Cert) (certList taken : List Cert)
    (status : ValidationStatus Cert) : ValidationStatus Cert :=
  match (taken.filter basicOCSPResp.verifiedBy).getLast? with
  | none => status
  | some signer =>
      { status with
        statusSignerCertificate := some signer
        statusSignerCertificateChain := some certList
        statusSignatureValid := true }

/-- What the checker makes of an answer. -/
structure ReadAnswer (answer : Answer env certificate issuer) (status : ValidationStatus Cert) :
    Prop where
  signedBy : status.statusSignerCertificate = answer.signer
  signed : status.statusSignatureValid = answer.signer.isSome
  chain : answer.signer.isSome → status.statusSignerCertificateChain = some answer.certList
  verdict : status.validity = answer.validity

theorem signedUpTo_append {basicOCSPResp : BasicOCSPResp Cert} {certList taken : List Cert}
    {cert : Cert} (status : ValidationStatus Cert)  :
    signedUpTo basicOCSPResp certList (taken ++ [cert]) status =
      if basicOCSPResp.verifiedBy cert then
        { signedUpTo basicOCSPResp certList taken status with
          statusSignerCertificate := some cert
          statusSignerCertificateChain := some certList
          statusSignatureValid := true }
      else signedUpTo basicOCSPResp certList taken status := by
  unfold signedUpTo
  rw [List.filter_append]
  cases hverified : basicOCSPResp.verifiedBy cert with
  | false => simp [hverified]
  | true =>
      simp only [List.filter_cons, hverified, if_true, List.filter_nil, List.getLast?_concat]
      split <;> rfl

/-- The loop of `checkResponseSignature`, where every certificate can be tried. -/
theorem checkResponseSignature_signs {basicOCSPResp : BasicOCSPResp Cert}
    {responseCerts : List Cert} (hcerts : basicOCSPResp.certs = .ok responseCerts)
    (htried : SignatureTried issuer basicOCSPResp) (status : ValidationStatus Cert) :
    Mutating.wp (OCSPCertificateVerifier.checkResponseSignature issuer basicOCSPResp)
      (fun _ t => t = signedUpTo basicOCSPResp
        (if responseCerts.isEmpty then [issuer] else responseCerts)
        (if responseCerts.isEmpty then [issuer] else responseCerts) status)
      (fun _ _ => False) status := by
  obtain ⟨certs, hok, hall⟩ := htried
  obtain rfl := Except.ok.inj (hok.symm.trans hcerts)
  unfold OCSPCertificateVerifier.checkResponseSignature
  rw [Mutating.wp_bind, Mutating.wp_call_total]
  refine ⟨_, hcerts, ?_⟩
  rw [Mutating.wp_bind]
  generalize (if certs.isEmpty then [issuer] else certs) = certList at hall ⊢
  apply @Mutating.wp_forIn _ _ _ _ _ fun (taken : List Cert) (t : ValidationStatus Cert) =>
    t = signedUpTo basicOCSPResp certList taken status
  · rintro taken cert rest rfl t rfl
    split
    · rename_i hvalid
      refine ⟨rfl, ?_⟩
      rw [signedUpTo_append]
      simp [BasicOCSPResp.verifiedBy, hvalid]
    · rename_i hvalid
      refine ⟨rfl, ?_⟩
      rw [signedUpTo_append]
      simp [BasicOCSPResp.verifiedBy, hvalid]
    · rename_i ex hthrown
      rw [if_pos (hall cert (by simp) ex hthrown)]
      refine ⟨rfl, ?_⟩
      rw [signedUpTo_append]
      simp [BasicOCSPResp.verifiedBy, hthrown]
  · rfl

/-- The part of a status that names its signer. -/
def signatureOf (status : ValidationStatus Cert) : Option Cert × Option (List Cert) × Bool :=
  (status.statusSignerCertificate, status.statusSignerCertificateChain,
    status.statusSignatureValid)

theorem processSingleResp_keeps_signature (validationDate producedAt : Date)
    (singleResp : SingleResp) :
    Mutating.Keeps (@signatureOf Cert)
      (OCSPCertificateVerifier.processSingleResp validationDate producedAt singleResp) := by
  unfold OCSPCertificateVerifier.processSingleResp
  refine Mutating.keeps_bind (Mutating.keeps_modify fun _ => rfl) fun _ => ?_
  split
  · exact Mutating.keeps_modify fun _ => rfl
  · split
    · exact Mutating.keeps_modify fun _ => rfl
    · refine Mutating.keeps_bind (Mutating.keeps_modify fun _ => rfl) fun _ => ?_
      split
      · exact Mutating.keeps_modify fun _ => rfl
      · exact Mutating.keeps_throw _
  · exact Mutating.keeps_pure _

/-- Once the signature is settled, the entries decide the validity, however the loop ends. -/
theorem ReadAnswer.of_entries (answer : Answer env certificate issuer)
    {start t : ValidationStatus Cert} (hunsigned : start.statusSignatureValid = false)
    (hnobody : start.statusSignerCertificate = none) (hunknown : start.validity = .UNKNOWN)
    (hvalidity : t.validity = decided env.now (signedUpTo answer.basicOCSPResp answer.certList
        answer.certList start).validity (answer.basicOCSPResp.matching answer.certificateId))
    (hsignature : signatureOf t =
      signatureOf (signedUpTo answer.basicOCSPResp answer.certList answer.certList start)) :
    ReadAnswer answer t := by
  unfold signedUpTo signatureOf at hsignature
  unfold signedUpTo at hvalidity
  simp only [Prod.mk.injEq] at hsignature
  obtain ⟨hsigner, hchain, hsigned⟩ := hsignature
  cases hlast : (answer.certList.filter answer.basicOCSPResp.verifiedBy).getLast? with
  | none =>
      have hnone : answer.signer = none := hlast
      simp only [hlast] at hsigner hchain hsigned hvalidity
      refine ⟨by rw [hsigner, hnobody, hnone], by rw [hsigned, hunsigned, hnone]; rfl, ?_, ?_⟩
      · intro hsome
        rw [hnone] at hsome
        cases hsome
      · rw [hvalidity, hunknown]
        rfl
  | some signer =>
      have hsome : answer.signer = some signer := hlast
      simp only [hlast] at hsigner hchain hsigned hvalidity
      refine ⟨by rw [hsigner, hsome], by rw [hsigned, hsome]; rfl, fun _ => hchain, ?_⟩
      rw [hvalidity, hunknown]
      rfl

theorem Answer.read (answer : Answer env certificate issuer) :
    ReadAnswer answer (OCSPCertificateVerifier.checkValidity env certificate issuer env.now) := by
  obtain ⟨ocspUrl, ocspResp, hurl, hreceived, hstatus, hobject⟩ := answer.received
  apply Mutating.tryCatch_of_wp
  unfold OCSPCertificateVerifier.checkResponse
  rw [Mutating.wp_bind, Mutating.wp_call, hurl]
  refine ⟨fun url hok => ?_, fun _ hfailed => by cases hfailed⟩
  obtain rfl := Except.ok.inj hok
  dsimp only
  rw [Mutating.wp_bind, Mutating.wp_modify, Mutating.wp_bind, Mutating.wp_call, answer.identifier]
  refine ⟨fun id hok => ?_, fun _ hfailed => by cases hfailed⟩
  obtain rfl := Except.ok.inj hok
  rw [Mutating.wp_bind, Mutating.wp_call, hreceived]
  refine ⟨fun received hok => ?_, fun _ hfailed => by cases hfailed⟩
  obtain rfl := Except.ok.inj hok
  rw [if_neg (not_not.mpr hstatus), Mutating.wp_bind, Mutating.wp_call, hobject]
  refine ⟨fun object hok => ?_, fun _ hfailed => by cases hfailed⟩
  obtain rfl := Except.ok.inj hok
  rw [Mutating.wp_bind, Mutating.wp_call]
  refine ⟨fun resp hok => ?_, fun _ hfailed => by cases hfailed⟩
  obtain rfl := Except.ok.inj hok
  rw [Mutating.wp_bind]
  refine Mutating.wp_mono (checkResponseSignature_signs answer.certs answer.signature _) ?_
    fun _ _ h => h.elim
  rintro _ t rfl
  rw [Mutating.wp_bind, Mutating.wp_call, answer.nonce]
  refine ⟨fun _ _ => ?_, fun _ hfailed => by cases hfailed⟩
  rw [Mutating.wp_bind]
  have hkeeps : ∀ l : List SingleResp, Mutating.Keeps (@signatureOf Cert)
      (forIn l PUnit.unit fun r _ => do
        OCSPCertificateVerifier.processSingleResp env.now answer.basicOCSPResp.producedAt r
        pure (ForInStep.yield PUnit.unit)) := by
    intro l
    exact Mutating.keeps_forIn (fun r _ => Mutating.keeps_bind
      (processSingleResp_keeps_signature _ _ r) fun _ => Mutating.keeps_pure _) _
  refine Mutating.wp_mono ((hkeeps _).wp (entries_decided answer.basicOCSPResp.producedAt
    (answer.basicOCSPResp.matching answer.certificateId) _)) ?_ ?_
  · rintro _ u ⟨hvalidity, hsignature⟩
    have hread := ReadAnswer.of_entries answer rfl rfl rfl hvalidity hsignature
    split
    · exact ⟨hread.signedBy, hread.signed, hread.chain, hread.verdict⟩
    · exact hread
  · rintro ex u ⟨hvalidity, hsignature⟩
    have hread := ReadAnswer.of_entries answer rfl rfl rfl hvalidity hsignature
    exact ⟨hread.signedBy, hread.signed, hread.chain, hread.verdict⟩

/-- A verdict comes from an answer. -/
theorem exists_answer :
    HasVerdict (OCSPCertificateVerifier.checkValidity env certificate issuer env.now) →
      Nonempty (Answer env certificate issuer) := by
  have hstart : ∀ {status : ValidationStatus Cert}, status.validity = .UNKNOWN →
      ¬ HasVerdict status := by
    rintro status hunknown (h | h)
    · rw [hunknown] at h
      cases h
    · rw [hunknown] at h
      cases h
  apply Mutating.tryCatch_of_wp (P := fun status : ValidationStatus Cert =>
    HasVerdict status → Nonempty (Answer env certificate issuer))
  unfold OCSPCertificateVerifier.checkResponse
  rw [Mutating.wp_bind, Mutating.wp_call]
  refine ⟨fun url hurl => ?_, fun _ _ hverdict => absurd hverdict (hstart rfl)⟩
  cases url with
  | none => exact fun hverdict => absurd hverdict (hstart rfl)
  | some ocspUrl =>
      dsimp only
      rw [Mutating.wp_bind, Mutating.wp_modify, Mutating.wp_bind, Mutating.wp_call]
      refine ⟨fun certificateId hid => ?_, fun _ _ hverdict => absurd hverdict (hstart rfl)⟩
      rw [Mutating.wp_bind, Mutating.wp_call]
      refine ⟨fun ocspResp hreceived => ?_, fun _ _ hverdict => absurd hverdict (hstart rfl)⟩
      split
      · -- a response without success is INVALID, and nothing is read from it
        rw [Mutating.wp_bind, Mutating.wp_modify, Mutating.wp_bind, Mutating.wp_call]
        refine ⟨fun _ _ => ?_, fun _ _ hverdict => ?_⟩
        · rintro (h | h) <;> cases h
        · rcases hverdict with h | h <;> cases h
      · rename_i hstatus
        rw [Mutating.wp_bind, Mutating.wp_call]
        refine ⟨fun object hobject => ?_, fun _ _ hverdict => absurd hverdict (hstart rfl)⟩
        rw [Mutating.wp_bind, Mutating.wp_call]
        refine ⟨fun basicOCSPResp hresp => ?_, fun _ _ hverdict => absurd hverdict (hstart rfl)⟩
        rw [deref_ok_iff] at hresp
        subst hresp
        rw [Mutating.wp_bind]
        refine Mutating.wp_mono (checkResponseSignature_tried issuer
          basicOCSPResp _) ?_ ?_
        · rintro _ t ⟨hkept, htried⟩
          rw [Mutating.wp_bind, Mutating.wp_call]
          refine ⟨fun _ hnonce => ?_, fun _ _ hverdict => absurd hverdict (hstart hkept)⟩
          obtain ⟨responseCerts, hcerts, -⟩ := id htried
          have hanswer : Nonempty (Answer env certificate issuer) :=
            ⟨⟨certificateId, basicOCSPResp, responseCerts, hid,
              ⟨ocspUrl, ocspResp, hurl, hreceived, not_not.mp hstatus, hobject⟩, hcerts, htried,
              hnonce⟩⟩
          exact Mutating.wp_of_forall (fun _ _ _ => hanswer) (fun _ _ _ => hanswer)
        · rintro _ t ⟨hkept, -⟩ hverdict
          exact absurd hverdict (hstart hkept)

/-- An answer is about the certificate and its issuer. -/
theorem ocsp_about :
    (OCSPCertificateVerifier.checkValidity env certificate issuer env.now).certificate =
        certificate ∧
      (OCSPCertificateVerifier.checkValidity env certificate issuer env.now).issuer =
        some issuer ∧
      (OCSPCertificateVerifier.checkValidity env certificate issuer env.now).sourceType =
        some .OCSP := by
  have hsubject := ocsp_subjectOf env certificate issuer env.now
  unfold subjectOf at hsubject
  simp only [Prod.mk.injEq] at hsubject
  exact hsubject

variable [DecidableEq Cert]

/-- The checks on the signer of an answer, and whose validity they leave to be checked. -/
theorem ocspPathChecks_answer_iff (answer : Answer env certificate issuer) {signer : Cert}
    (hsigner : answer.signer = some signer) (target : Option (Cert × Cert)) :
    ocspPathChecks env
        (OCSPCertificateVerifier.checkValidity env certificate issuer env.now) = .ok target ↔
      (signer = issuer ∧ env.isCurrentlyValid issuer = true ∧ target = none) ∨
      (signer ≠ issuer ∧ Delegated env issuer certificate answer.certList signer ∧
        target = if env.isOCSPNocheckExt signer then none else some (signer, issuer)) := by
  have hread := answer.read
  obtain ⟨hcertificate, hissuer, -⟩ := @ocsp_about _ _ env certificate issuer
  have hsome : answer.signer.isSome = true := by
    rw [hsigner]
    rfl
  have hchain := hread.chain hsome
  have hmem : signer ∈ answer.certList := by
    have hlast : signer ∈ answer.certList.filter answer.basicOCSPResp.verifiedBy :=
      List.mem_of_getLast? hsigner
    exact (List.mem_filter.mp hlast).1
  obtain ⟨head, rest, hlist⟩ := List.exists_cons_of_ne_nil (List.ne_nil_of_mem hmem)
  unfold ocspPathChecks
  rw [hread.signedBy, hsigner, hissuer, hchain, hlist]
  dsimp only
  rw [hcertificate]
  constructor
  · intro h
    split at h
    · cases h
    rename_i hcurrent
    split at h
    · cases h
    rename_i hsignerCurrent
    replace hcurrent : env.isCurrentlyValid issuer = true := by simpa using hcurrent
    replace hsignerCurrent : env.isCurrentlyValid signer = true := by simpa using hsignerCurrent
    split at h
    · rename_i hsame
      cases h
      exact .inl ⟨hsame.symm, hcurrent, rfl⟩
    rename_i hne
    split at h
    · cases h
    rename_i hissued
    split at h
    · cases h
    rename_i hnot
    split at h
    · cases h
    rename_i husage
    have hdelegated : Delegated env issuer certificate (head :: rest) signer :=
      ⟨hcurrent, hsignerCurrent, hissued, by simpa using hnot, by simpa using husage⟩
    refine .inr ⟨fun hsame => hne hsame.symm, hdelegated, ?_⟩
    split at h
    · rename_i hnocheck
      cases h
      rw [if_pos hnocheck]
    · rename_i hnocheck
      cases h
      rw [if_neg hnocheck]
  · rintro (⟨rfl, hcurrent, rfl⟩ | ⟨hne, hdelegated, rfl⟩)
    · simp only [hcurrent, Bool.not_true, Bool.false_eq_true, if_false, if_true]
      rfl
    · have hcontains : (head :: rest).contains certificate = false := by
        simpa using hdelegated.notInChain
      simp only [hdelegated.issuerCurrent, hdelegated.signerCurrent, Bool.not_true,
        Bool.false_eq_true, if_false, if_neg (Ne.symm hne), hdelegated.issued, hcontains,
        hdelegated.keyUsage]
      split
      · rfl
      · rfl

/-- The trust path of a signed answer, for any result of the nested check. -/
theorem verifyAnswer_ok_iff (answer : Answer env certificate issuer) {signer : Cert}
    (hsigner : answer.signer = some signer) (responder : Outcome (ValidationStatus Cert)) :
    verifyValidityStatusTrustPath env responder
        (OCSPCertificateVerifier.checkValidity env certificate issuer env.now) = .ok () ↔
      (signer = issuer ∧ env.isCurrentlyValid issuer = true) ∨
      (signer ≠ issuer ∧ Delegated env issuer certificate answer.certList signer ∧
        (env.isOCSPNocheckExt signer = true ∨
          ∃ own, responder = .ok own ∧ own.validity = .VALID)) := by
  obtain ⟨-, -, hsource⟩ := @ocsp_about _ _ env certificate issuer
  have hchecks := ocspPathChecks_answer_iff answer hsigner
  unfold verifyValidityStatusTrustPath
  rw [hsource]
  show checkOcspTrustPath env responder _ = .ok () ↔ _
  unfold checkOcspTrustPath
  rw [bind_ok_iff]
  constructor
  · rintro ⟨target, htarget, h⟩
    rcases (hchecks target).mp htarget with ⟨hsame, hcurrent, -⟩ | ⟨hne, hdelegated, rfl⟩
    · exact .inl ⟨hsame, hcurrent⟩
    · refine .inr ⟨hne, hdelegated, ?_⟩
      by_cases hnocheck : env.isOCSPNocheckExt signer = true
      · exact .inl hnocheck
      · rw [if_neg hnocheck] at h
        obtain ⟨own, hown, h⟩ := bind_ok_iff.mp h
        refine .inr ⟨own, hown, ?_⟩
        by_contra hne
        rw [if_pos hne] at h
        cases h
  · rintro (⟨hsame, hcurrent⟩ | ⟨hne, hdelegated, hresponder⟩)
    · exact ⟨none, (hchecks none).mpr (.inl ⟨hsame, hcurrent, rfl⟩), rfl⟩
    · refine ⟨_, (hchecks _).mpr (.inr ⟨hne, hdelegated, rfl⟩), ?_⟩
      by_cases hnocheck : env.isOCSPNocheckExt signer = true
      · rw [if_pos hnocheck]
        rfl
      · obtain ⟨own, rfl, hvalid⟩ := hresponder.resolve_left hnocheck
        rw [if_neg hnocheck]
        exact if_neg (not_not.mpr hvalid)

/-- The nested check is made for a delegated signer that is not exempt. -/
theorem responderCheck_answer_iff (answer : Answer env certificate issuer) {signer : Cert}
    (hsigner : answer.signer = some signer) {target : Cert × Cert} :
    responderCheck env
        (OCSPCertificateVerifier.checkValidity env certificate issuer env.now) = some target ↔
      target = (signer, issuer) ∧ signer ≠ issuer ∧
        Delegated env issuer certificate answer.certList signer ∧
        ¬ env.isOCSPNocheckExt signer = true := by
  have hsigned : (OCSPCertificateVerifier.checkValidity env certificate issuer
      env.now).statusSignatureValid = true := by
    rw [answer.read.signed, hsigner]
    rfl
  rw [responderCheck_some_iff, ocspPathChecks_answer_iff answer hsigner, hsigned,
    (@ocsp_about _ _ env certificate issuer).2.2]
  by_cases hnocheck : env.isOCSPNocheckExt signer = true
  · simp [hnocheck]
  · simp only [hnocheck, if_false, Option.some.injEq, reduceCtorEq, and_false, false_or, true_and,
      not_false_eq_true, and_true]
    tauto

end Responses

end SigVal.Cert
