import SigVal.Lib.Chains
import SigVal.Cert.ValidityChecker

/-!
# The chain of OCSP responders

The trust path of an OCSP answer may depend on the validity of the responder's own
certificate, which is checked by a checker of its own, on the same call stack. The
only guard is that the certificate being checked does not stand in the chain of the
answer about it. Nothing remembers the certificates further up the stack.
-/

namespace SigVal.Cert

open SigVal.Java SigVal.Chains

variable {Cert Crl : Type}

/-! ## What the two sources leave alone -/

section Sources

variable (env : StatusEnv Cert Crl) (certificate issuer : Cert)

/-- The answer from a revocation list says that it is one. -/
theorem crl_sourceType :
    (CRLValidityChecker.checkValidity env certificate issuer).sourceType = some .CRL := by
  have hkeeps : Mutating.Keeps ValidationStatus.sourceType
      (CRLValidityChecker.checkList env certificate issuer) := ?_
  · exact Mutating.tryCatch_keeps _ hkeeps (by intros; rfl) _
  unfold CRLValidityChecker.checkList
  apply Mutating.keeps_bind (Mutating.keeps_call _)
  intro crlInfo
  refine Mutating.keeps_bind (Mutating.keeps_modify fun _ => rfl) fun _ => ?_
  apply Mutating.keeps_bind (Mutating.keeps_call _)
  intro _
  refine Mutating.keeps_bind (Mutating.keeps_modify fun _ => rfl) fun _ => ?_
  split
  · refine Mutating.keeps_bind (Mutating.keeps_modify fun _ => rfl) fun _ => ?_
    apply Mutating.keeps_bind (Mutating.keeps_call _)
    intro crlEntry
    refine Mutating.keeps_bind (Mutating.keeps_modify fun _ => rfl) fun _ => ?_
    split
    · exact Mutating.keeps_modify fun _ => rfl
    · exact Mutating.keeps_pure _
  · exact Mutating.keeps_modify fun _ => rfl

/-- What a status is about: the certificate, its issuer and the kind of source. -/
def subjectOf (status : ValidationStatus Cert) :
    Cert × Option Cert × Option ValidatorSourceType :=
  (status.certificate, status.issuer, status.sourceType)

theorem checkResponseSignature_keeps (basicOCSPResp : BasicOCSPResp Cert) :
    Mutating.Keeps subjectOf
      (OCSPCertificateVerifier.checkResponseSignature issuer basicOCSPResp) := by
  unfold OCSPCertificateVerifier.checkResponseSignature
  apply Mutating.keeps_bind (Mutating.keeps_call _)
  intro responseCerts
  refine Mutating.keeps_bind (Mutating.keeps_forIn (fun cert _ => ?_) _) fun _ =>
    Mutating.keeps_pure _
  split
  · exact Mutating.keeps_bind (Mutating.keeps_modify fun _ => rfl) fun _ => Mutating.keeps_pure _
  · exact Mutating.keeps_pure _
  · split
    · exact Mutating.keeps_pure _
    · exact Mutating.keeps_bind (Mutating.keeps_throw _) fun _ => Mutating.keeps_pure _

theorem processSingleResp_keeps (validationDate producedAt : Date) (singleResp : SingleResp) :
    Mutating.Keeps (@subjectOf Cert)
      (OCSPCertificateVerifier.processSingleResp validationDate producedAt singleResp) := by
  unfold OCSPCertificateVerifier.processSingleResp
  refine Mutating.keeps_bind (Mutating.keeps_modify fun _ => rfl) fun _ => ?_
  split
  · exact Mutating.keeps_modify fun _ => rfl
  · split
    · exact Mutating.keeps_modify fun _ => rfl
    · refine Mutating.keeps_bind (Mutating.keeps_modify fun _ => rfl) fun _ => ?_
      split
      · exact Mutating.keeps_modify fun _ => rfl
      · exact Mutating.keeps_throw _
  · exact Mutating.keeps_pure _

/-- An OCSP answer is about the certificate that was asked for. -/
theorem ocsp_subjectOf (validationDate : Date) :
    subjectOf (OCSPCertificateVerifier.checkValidity env certificate issuer validationDate) =
      (certificate, some issuer, some .OCSP) := by
  have hkeeps : Mutating.Keeps subjectOf
      (OCSPCertificateVerifier.checkResponse env certificate issuer validationDate) := ?_
  · exact Mutating.tryCatch_keeps _ hkeeps (by intros; rfl) _
  unfold OCSPCertificateVerifier.checkResponse
  apply Mutating.keeps_bind (Mutating.keeps_call _)
  intro url
  split
  · exact Mutating.keeps_modify fun _ => rfl
  · refine Mutating.keeps_bind (Mutating.keeps_modify fun _ => rfl) fun _ => ?_
    apply Mutating.keeps_bind (Mutating.keeps_call _)
    intro certificateId
    apply Mutating.keeps_bind (Mutating.keeps_call _)
    intro ocspResp
    split
    · refine Mutating.keeps_bind (Mutating.keeps_modify fun _ => rfl) fun _ => ?_
      apply Mutating.keeps_bind (Mutating.keeps_call _)
      intro name
      exact Mutating.keeps_modify fun _ => rfl
    · apply Mutating.keeps_bind (Mutating.keeps_call _)
      intro responseObject
      apply Mutating.keeps_bind (Mutating.keeps_call _)
      intro basicOCSPResp
      apply Mutating.keeps_bind (checkResponseSignature_keeps issuer basicOCSPResp)
      intro _
      apply Mutating.keeps_bind (Mutating.keeps_call _)
      intro _
      refine Mutating.keeps_bind (Mutating.keeps_forIn (fun singleResp _ => ?_) _) fun _ => ?_
      · exact Mutating.keeps_bind (processSingleResp_keeps _ _ singleResp) fun _ =>
          Mutating.keeps_pure _
      · split
        · exact Mutating.keeps_modify fun _ => rfl
        · exact Mutating.keeps_pure _

end Sources

/-! ## The responder that has to be checked -/

section Responders

variable [DecidableEq Cert]

open BasicValidityPathChecker

/-- The answer about `certificate` is signed by a delegated responder whose own
validity decides whether the answer is trusted. -/
structure Vouches (env : StatusEnv Cert Crl) (issuer certificate responder : Cert) : Prop where
  signatureValid :
    (OCSPCertificateVerifier.checkValidity env certificate issuer
      env.now).statusSignatureValid = true
  signer :
    (OCSPCertificateVerifier.checkValidity env certificate issuer
      env.now).statusSignerCertificate = some responder
  chain : ∃ head rest,
    (OCSPCertificateVerifier.checkValidity env certificate issuer
      env.now).statusSignerCertificateChain = some (head :: rest) ∧ certificate ∉ head :: rest
  issuerCurrent : env.isCurrentlyValid issuer = true
  responderCurrent : env.isCurrentlyValid responder = true
  delegated : issuer ≠ responder
  issued : env.certVerify responder issuer = .ok ()
  keyUsage : hasOcspKeyUsage env responder = true
  noNocheck : env.isOCSPNocheckExt responder = false

/-- The responder whose check the check of a certificate calls for. -/
def nextResponder (env : StatusEnv Cert Crl) (issuer certificate : Cert) : Option Cert :=
  (responderCheck env
    (OCSPCertificateVerifier.checkValidity env certificate issuer env.now)).map Prod.fst

/-- What the trust path checks ask before they turn to the responder. -/
theorem ocspPathChecks_some_iff {env : StatusEnv Cert Crl} {status : ValidationStatus Cert}
    {responder issuer : Cert} :
    ocspPathChecks env status = .ok (some (responder, issuer)) ↔
      status.issuer = some issuer ∧ status.statusSignerCertificate = some responder ∧
      (∃ head rest, status.statusSignerCertificateChain = some (head :: rest) ∧
        status.certificate ∉ head :: rest) ∧
      env.isCurrentlyValid issuer = true ∧ env.isCurrentlyValid responder = true ∧
      issuer ≠ responder ∧ env.certVerify responder issuer = .ok () ∧
      hasOcspKeyUsage env responder = true ∧ env.isOCSPNocheckExt responder = false := by
  constructor
  · intro h
    unfold ocspPathChecks at h
    split at h
    · rename_i issuer' signer head rest hissuer hsigner hchain
      split at h
      · cases h
      rename_i hcurrent
      split at h
      · cases h
      rename_i hsignerCurrent
      split at h
      · cases h
      rename_i hne
      split at h
      · cases h
      rename_i hverify
      split at h
      · cases h
      rename_i hnot
      split at h
      · cases h
      rename_i husage
      split at h
      · cases h
      rename_i hnocheck
      cases h
      refine ⟨hissuer, hsigner, ⟨head, rest, hchain, by simpa using hnot⟩, by simpa using hcurrent,
        by simpa using hsignerCurrent, hne, hverify, by simpa using husage, by simpa using hnocheck⟩
    · cases h
  · rintro ⟨hissuer, hsigner, ⟨head, rest, hchain, hnot⟩, hcurrent, hsignerCurrent, hne, hverify,
      husage, hnocheck⟩
    have hcontains : (head :: rest).contains status.certificate = false := by
      simpa using hnot
    unfold ocspPathChecks
    simp only [hissuer, hsigner, hchain, hcurrent, hsignerCurrent, hverify, hcontains, husage,
      hnocheck, Bool.not_true, Bool.false_eq_true, if_false, if_neg hne]
    rfl

theorem responderCheck_crl (env : StatusEnv Cert Crl) (certificate issuer : Cert) :
    responderCheck env (CRLValidityChecker.checkValidity env certificate issuer) = none := by
  unfold responderCheck
  rw [crl_sourceType]
  simp

theorem responderCheck_some_iff {env : StatusEnv Cert Crl} {status : ValidationStatus Cert}
    {target : Cert × Cert} :
    responderCheck env status = some target ↔
      status.statusSignatureValid = true ∧ status.sourceType = some .OCSP ∧
        ocspPathChecks env status = .ok (some target) := by
  unfold responderCheck
  split
  · rename_i hocsp
    obtain ⟨hsigned, hsource⟩ := Bool.and_eq_true_iff.mp hocsp
    have hsource' : status.sourceType = some .OCSP := by simpa using hsource
    cases ocspPathChecks env status with
    | error ex => simp
    | ok checked => simp [hsigned, hsource']
  · rename_i hother
    constructor
    · intro h
      cases h
    · rintro ⟨hsigned, hsource, -⟩
      simp [hsigned, hsource] at hother

/-- The responder of an answer was issued by the issuer of the certificate. -/
theorem responderCheck_ocsp_iff {env : StatusEnv Cert Crl} {certificate issuer responder : Cert}
    {issuer' : Cert} :
    responderCheck env (OCSPCertificateVerifier.checkValidity env certificate issuer env.now) =
        some (responder, issuer') ↔
      issuer' = issuer ∧ Vouches env issuer certificate responder := by
  have hsubject := ocsp_subjectOf env certificate issuer env.now
  unfold subjectOf at hsubject
  simp only [Prod.mk.injEq] at hsubject
  obtain ⟨hcertificate, hissuer, hsource⟩ := hsubject
  rw [responderCheck_some_iff, ocspPathChecks_some_iff, hissuer, hcertificate, hsource]
  constructor
  · rintro ⟨hsigned, -, hissuer', hsigner, hchain, hcurrent, hsignerCurrent, hne, hverify, husage,
      hnocheck⟩
    cases hissuer'
    exact ⟨rfl, hsigned, hsigner, hchain, hcurrent, hsignerCurrent, hne, hverify, husage, hnocheck⟩
  · rintro ⟨rfl, h⟩
    exact ⟨h.signatureValid, rfl, rfl, h.signer, h.chain, h.issuerCurrent, h.responderCurrent,
      h.delegated, h.issued, h.keyUsage, h.noNocheck⟩

theorem nextResponder_eq_some_iff {env : StatusEnv Cert Crl} {issuer certificate responder : Cert} :
    nextResponder env issuer certificate = some responder ↔
      Vouches env issuer certificate responder := by
  unfold nextResponder
  rw [Option.map_eq_some_iff]
  constructor
  · rintro ⟨⟨signer, issuer'⟩, hcheck, rfl⟩
    exact (responderCheck_ocsp_iff.mp hcheck).2
  · intro h
    exact ⟨(responder, issuer), responderCheck_ocsp_iff.mpr ⟨rfl, h⟩, rfl⟩

end Responders

/-! ## The call stack -/

namespace BasicCertificateValidityChecker

variable [DecidableEq Cert]

open BasicValidityPathChecker

/-- `checkStatusPath`, with the check of a responder's certificate as an argument. -/
def checkStatusPathBy (env : StatusEnv Cert Crl)
    (nested : Cert → Cert → Option (Outcome (ValidationStatus Cert)))
    (status : ValidationStatus Cert) : Option (ValidationStatus Cert) :=
  match responderCheck env status with
  | none => some (checkStatusPath env (.error Exn.nullPointer) status)
  | some (signer, issuer) =>
      (nested signer issuer).map fun result => checkStatusPath env result status

/-- The single-threaded `checkValidity` with room for this many calls on the stack. A
call that does not fit has no result. -/
def checkValidity (env : StatusEnv Cert Crl) :
    Nat → Cert → Cert → Option (Outcome (ValidationStatus Cert))
  | 0, _, _ => none
  | depth + 1, certificate, issuer => do
      let crl ← checkStatusPathBy env (checkValidity env depth)
        (CRLValidityChecker.checkValidity env certificate issuer)
      let ocsp ← checkStatusPathBy env (checkValidity env depth)
        (OCSPCertificateVerifier.checkValidity env certificate issuer env.now)
      return pick [crl, ocsp]

/-- A call has a result when there is no responder to check or its check has one. -/
theorem checkValidity_succ_isSome {env : StatusEnv Cert Crl} {depth : Nat}
    {certificate issuer : Cert} :
    (checkValidity env (depth + 1) certificate issuer).isSome ↔
      ∀ responder, nextResponder env issuer certificate = some responder →
        (checkValidity env depth responder issuer).isSome := by
  rw [checkValidity]
  cases hcheck : responderCheck env
      (OCSPCertificateVerifier.checkValidity env certificate issuer env.now) with
  | none => simp [checkStatusPathBy, responderCheck_crl, nextResponder, hcheck]
  | some target =>
      obtain ⟨signer, signerIssuer⟩ := target
      obtain ⟨rfl, -⟩ := responderCheck_ocsp_iff.mp hcheck
      cases hnested : checkValidity env depth signer signerIssuer with
      | none => simp [checkStatusPathBy, responderCheck_crl, nextResponder, hcheck, hnested]
      | some result => simp [checkStatusPathBy, responderCheck_crl, nextResponder, hcheck, hnested]

theorem checkValidity_isSome_iff {env : StatusEnv Cert Crl} {issuer : Cert} {depth : Nat} :
    ∀ {certificate : Cert}, (checkValidity env depth certificate issuer).isSome ↔
      EndsWithin (nextResponder env issuer) depth certificate := by
  induction depth with
  | zero =>
      intro certificate
      exact iff_of_false Bool.false_ne_true id
  | succ depth ih =>
      intro certificate
      rw [checkValidity_succ_isSome]
      exact forall_congr' fun responder => imp_congr_right fun _ => ih

/-- **When the check of a certificate ends.** Some depth of the call stack is enough
exactly when there is no endless sequence of responders, each one signing the answer
about the one before it and having to be checked in turn. -/
theorem checkValidity_terminates_iff (env : StatusEnv Cert Crl) (certificate issuer : Cert) :
    (∃ depth result, checkValidity env depth certificate issuer = some result) ↔
      ¬ ∃ responders : Nat → Cert, responders 0 = certificate ∧
        ∀ n, Vouches env issuer (responders n) (responders (n + 1)) := by
  have hends : (∃ depth result, checkValidity env depth certificate issuer = some result) ↔
      ∃ depth, EndsWithin (nextResponder env issuer) depth certificate := by
    apply exists_congr
    intro depth
    rw [← checkValidity_isSome_iff, Option.isSome_iff_exists]
  rw [hends, endsWithin_iff_not_endless]
  refine not_congr (exists_congr fun responders => and_congr_right fun _ => ?_)
  exact forall_congr' fun n => nextResponder_eq_some_iff

/-- Among finitely many responders the check ends unless some of them vouch for each
other in a circle that the certificate leads to. -/
theorem checkValidity_isSome_iff_acyclic {env : StatusEnv Cert Crl} {certificate issuer : Cert}
    (hfinite : {responder | Relation.ReflTransGen (Vouches env issuer) certificate
      responder}.Finite) :
    (∃ depth, (checkValidity env depth certificate issuer).isSome) ↔
      ∀ responder, Relation.ReflTransGen (Vouches env issuer) certificate responder →
        ¬ Relation.TransGen (Vouches env issuer) responder responder := by
  have hcalls : Calls (nextResponder env issuer) = Vouches env issuer := by
    funext a b
    exact propext nextResponder_eq_some_iff
  rw [← hcalls] at hfinite ⊢
  have hends : (∃ depth, (checkValidity env depth certificate issuer).isSome) ↔
      ∃ depth, EndsWithin (nextResponder env issuer) depth certificate :=
    exists_congr fun depth => checkValidity_isSome_iff
  rw [hends, endsWithin_iff_not_endless, endless_iff_cycle hfinite, ComesBack]
  push Not
  rfl

/-! `Returns` relates a call to its results without a stack. -/

/-- Without a responder to check, the path check looks at no result. -/
theorem checkStatusPath_alone {env : StatusEnv Cert Crl} {status : ValidationStatus Cert}
    (h : responderCheck env status = none) (first second : Outcome (ValidationStatus Cert)) :
    checkStatusPath env first status = checkStatusPath env second status := by
  unfold checkStatusPath
  split
  · rename_i hsigned
    have hverify : verifyValidityStatusTrustPath env first status =
        verifyValidityStatusTrustPath env second status := by
      unfold verifyValidityStatusTrustPath
      split
      · rename_i hsource
        unfold checkOcspTrustPath
        cases hpath : ocspPathChecks env status with
        | error ex => rfl
        | ok target =>
            cases target with
            | none => rfl
            | some pair =>
                rw [responderCheck_some_iff.mpr ⟨hsigned, hsource, hpath⟩] at h
                cases h
      · rfl
      · rfl
      · rfl
    rw [hverify]
  · rfl

mutual

theorem checkStatusPathBy_of_checked {env : StatusEnv Cert Crl}
    {status out : ValidationStatus Cert} :
    Checked env true status out → ∃ depth,
      checkStatusPathBy env (checkValidity env depth) status = some out
  | .alone unused hnone => by
      refine ⟨0, ?_⟩
      unfold checkStatusPathBy
      rw [hnone]
      exact congrArg some (checkStatusPath_alone hnone _ unused)
  | .responder hcheck hreturns => by
      obtain ⟨depth, hdepth⟩ := checkValidity_of_returns hreturns
      refine ⟨depth, ?_⟩
      unfold checkStatusPathBy
      rw [hcheck]
      simp only [hdepth, Option.map_some]

theorem checkValidity_of_returns {env : StatusEnv Cert Crl} {certificate issuer : Cert}
    {result : Outcome (ValidationStatus Cert)} :
    Returns env true certificate issuer result →
      ∃ depth, checkValidity env depth certificate issuer = some result
  | .single _ hcrl hocsp => by
      obtain ⟨n, hn⟩ := checkStatusPathBy_of_checked hcrl
      obtain ⟨depth, hdepth⟩ := checkStatusPathBy_of_checked hocsp
      refine ⟨depth + 1, ?_⟩
      -- the answer from a revocation list needs no room on the stack
      unfold checkStatusPathBy at hn
      rw [responderCheck_crl] at hn
      cases hn
      rw [checkValidity, hdepth]
      simp [checkStatusPathBy, responderCheck_crl]
  | .multi hfalse _ _ _ => by cases hfalse

end

theorem checked_of_checkStatusPathBy {env : StatusEnv Cert Crl}
    {nested : Cert → Cert → Option (Outcome (ValidationStatus Cert))}
    (hnested : ∀ signer issuer result, nested signer issuer = some result →
      Returns env true signer issuer result)
    {status out : ValidationStatus Cert} (h : checkStatusPathBy env nested status = some out) :
    Checked env true status out := by
  unfold checkStatusPathBy at h
  split at h
  · rename_i hcheck
    cases h
    exact .alone _ hcheck
  · rename_i signer issuer hcheck
    obtain ⟨result, hresult, rfl⟩ := Option.map_eq_some_iff.mp h
    exact .responder hcheck (hnested signer issuer result hresult)

/-- The results of a call are those it has with room enough on the stack. -/
theorem returns_iff_checkValidity {env : StatusEnv Cert Crl} {certificate issuer : Cert}
    {result : Outcome (ValidationStatus Cert)} :
    Returns env true certificate issuer result ↔
      ∃ depth, checkValidity env depth certificate issuer = some result := by
  refine ⟨checkValidity_of_returns, ?_⟩
  rintro ⟨depth, h⟩
  induction depth generalizing certificate issuer result with
  | zero => cases h
  | succ depth ih =>
      rw [checkValidity] at h
      obtain ⟨crl, hcrl, h⟩ := Option.bind_eq_some_iff.mp h
      obtain ⟨ocsp, hocsp, h⟩ := Option.bind_eq_some_iff.mp h
      cases h
      have hnested := fun signer issuer result => @ih signer issuer result
      exact .single rfl (checked_of_checkStatusPathBy hnested hcrl)
        (checked_of_checkStatusPathBy hnested hocsp)

end BasicCertificateValidityChecker

/-! Certificate 1 is issued by 2. Its answer is signed by 3, the answer about 3 by 4,
and the answer about 4 by 3. Neither responder has the no-check extension. -/

def answerBy (signer : Nat) (certificateId : String) : BasicOCSPResp Nat where
  certs := .ok [signer]
  isSignatureValid := fun certificate => .ok (certificate == signer)
  nonceExtension := none
  producedAt := 900
  responses := [⟨certificateId, .good, 900, none⟩]

def circleEnv : StatusEnv Nat Unit where
  now := 1000
  getCRL := fun _ => .error ⟨.io, "No distribution point"⟩
  crlVerify := fun _ _ => .error ⟨.security, "No list"⟩
  isRevoked := fun _ _ => false
  getRevokedCertificate := fun _ _ => none
  getOCSPUrl := fun _ => .ok (some "http://ocsp")
  certificateID := fun _ certificate => .ok (toString certificate)
  nonce := none
  wrapNonce := id
  requestOCSPResponse := fun _ certificateId _ =>
    .ok ⟨0, .ok (some (answerBy (if certificateId = "3" then 4 else 3) certificateId))⟩
  isCurrentlyValid := fun _ => true
  certVerify := fun _ _ => .ok ()
  getBasicConstraints := fun _ => 0
  getKeyUsage := fun _ => none
  getExtendedKeyUsage := fun _ => .ok (some [BasicValidityPathChecker.ocspSigning])
  isOCSPNocheckExt := fun _ => false

/-- No depth of the call stack is enough for two responders that vouch for each
other. -/
theorem responders_in_a_circle :
    ¬ ∃ depth result,
      BasicCertificateValidityChecker.checkValidity circleEnv depth 1 2 = some result := by
  rintro ⟨depth, result, hresult⟩
  have hends : EndsWithin (nextResponder circleEnv 2) depth 1 :=
    BasicCertificateValidityChecker.checkValidity_isSome_iff.mp (by rw [hresult]; rfl)
  have hfirst : Calls (nextResponder circleEnv 2) 1 3 := rfl
  have hthere : Calls (nextResponder circleEnv 2) 3 4 := rfl
  have hback : Calls (nextResponder circleEnv 2) 4 3 := rfl
  obtain ⟨m, -, hm⟩ := hends.step hfirst
  exact not_endsWithin_of_cycle (.tail (.single hthere) hback) m hm

end SigVal.Cert
