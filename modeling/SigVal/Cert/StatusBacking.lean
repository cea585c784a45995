import SigVal.Cert.ValidityChecker

/-!
# What backs a verdict on a certificate

A verdict, valid or revoked, should rest on a status whose signature verified
and whose trust path was accepted. The pick rule asks for the signature in its
first two choices, but its last choice takes whatever status came first. In
single-threaded mode that is the status of the revocation list, which has no
verdict unless it is signed. In multi-threaded mode it may be the answer of an
OCSP responder, and the verdict of that answer does not wait for its signature.
-/

namespace SigVal.Cert

open SigVal.Java SigVal.Runs BasicCertificateValidityChecker BasicValidityPathChecker

variable {Cert Crl : Type}

/-- The status says valid or revoked. -/
def HasVerdict (status : ValidationStatus Cert) : Prop :=
  status.validity = .VALID ∨ status.validity = .REVOKED

/-! ## The revocation list -/

/-- A status that is not signed says nothing. -/
def SignedOrUnknown (status : ValidationStatus Cert) : Prop :=
  status.statusSignatureValid = true ∨ status.validity = .UNKNOWN

theorem crl_signedOrUnknown (env : StatusEnv Cert Crl) (certificate issuer : Cert) :
    SignedOrUnknown (CRLValidityChecker.checkValidity env certificate issuer) := by
  apply Mutating.tryCatch_of_wp
  unfold CRLValidityChecker.checkList
  rw [Mutating.wp_bind, Mutating.wp_call]
  refine ⟨fun info _ => ?_, fun _ _ => Or.inr rfl⟩
  rw [Mutating.wp_bind, Mutating.wp_modify, Mutating.wp_bind, Mutating.wp_call]
  refine ⟨fun _ _ => ?_, fun _ _ => Or.inr rfl⟩
  -- from here on the list has verified, and nothing takes that back
  rw [Mutating.wp_bind, Mutating.wp_modify]
  split
  · rw [Mutating.wp_bind, Mutating.wp_modify, Mutating.wp_bind, Mutating.wp_call]
    refine ⟨fun entry _ => ?_, fun _ _ => Or.inl rfl⟩
    rw [Mutating.wp_bind, Mutating.wp_modify]
    split
    · exact Or.inl rfl
    · exact Or.inl rfl
  · exact Or.inl rfl

/-! ## The trust path check -/

variable [DecidableEq Cert]

/-- The trust path of the status was accepted, by whatever results its
responder check may have had. -/
inductive PathAccepted (env : StatusEnv Cert Crl) (singleThreaded : Bool)
    (status : ValidationStatus Cert) : Prop where
  | alone (unused : Outcome (ValidationStatus Cert)) :
      responderCheck env status = none →
      verifyValidityStatusTrustPath env unused status = .ok () →
      PathAccepted env singleThreaded status
  | responder {signer issuer : Cert} {result : Outcome (ValidationStatus Cert)} :
      responderCheck env status = some (signer, issuer) →
      Returns env singleThreaded signer issuer result →
      verifyValidityStatusTrustPath env result status = .ok () →
      PathAccepted env singleThreaded status

/-- What a verdict should rest on. -/
structure Backed (env : StatusEnv Cert Crl) (singleThreaded : Bool)
    (status : ValidationStatus Cert) : Prop where
  signature : status.statusSignatureValid = true
  path : PathAccepted env singleThreaded status

/-- The path check keeps a signed status only when it accepts it. -/
theorem checkStatusPath_signed {env : StatusEnv Cert Crl}
    {responder : Outcome (ValidationStatus Cert)} {raw : ValidationStatus Cert}
    (hsigned : (checkStatusPath env responder raw).statusSignatureValid = true) :
    (checkStatusPath env responder raw).validity = .UNKNOWN ∨
      (checkStatusPath env responder raw = raw ∧
        verifyValidityStatusTrustPath env responder raw = .ok ()) := by
  by_cases hraw : raw.statusSignatureValid = true
  · cases hpath : verifyValidityStatusTrustPath env responder raw with
    | ok u =>
        right
        simp [checkStatusPath, hraw, hpath]
    | error ex =>
        left
        simp [checkStatusPath, hraw, hpath]
  · simp [checkStatusPath, hraw] at hsigned

theorem backed_of_checked {env : StatusEnv Cert Crl} {singleThreaded : Bool}
    {raw status : ValidationStatus Cert} (hchecked : Checked env singleThreaded raw status)
    (hsigned : status.statusSignatureValid = true) (hverdict : HasVerdict status) :
    Backed env singleThreaded status := by
  have hknown : status.validity ≠ .UNKNOWN := by
    rcases hverdict with h | h
    · rw [h]
      decide
    · rw [h]
      decide
  refine ⟨hsigned, ?_⟩
  cases hchecked with
  | alone unused hnone =>
      rcases checkStatusPath_signed hsigned with hunknown | ⟨heq, hpath⟩
      · exact absurd hunknown hknown
      · rw [heq]
        exact .alone unused hnone hpath
  | responder hsome hreturns =>
      rcases checkStatusPath_signed hsigned with hunknown | ⟨heq, hpath⟩
      · exact absurd hunknown hknown
      · rw [heq]
        exact .responder hsome hreturns hpath

/-- Without a valid signature the check changes neither the signature flag nor
the validity. -/
theorem checked_unsigned {env : StatusEnv Cert Crl} {singleThreaded : Bool}
    {raw status : ValidationStatus Cert} (hchecked : Checked env singleThreaded raw status)
    (hunsigned : status.statusSignatureValid = false) :
    raw.statusSignatureValid = false ∧ status.validity = raw.validity := by
  have hstep : ∀ responder : Outcome (ValidationStatus Cert),
      (checkStatusPath env responder raw).statusSignatureValid = false →
      raw.statusSignatureValid = false ∧
        (checkStatusPath env responder raw).validity = raw.validity := by
    intro responder h
    by_cases hraw : raw.statusSignatureValid = true
    · cases hpath : verifyValidityStatusTrustPath env responder raw with
      | ok u => simp [checkStatusPath, hraw, hpath] at h
      | error ex => simp [checkStatusPath, hraw, hpath] at h
    · simp [checkStatusPath, hraw]
  cases hchecked with
  | alone unused _ => exact hstep unused hunsigned
  | responder _ _ => exact hstep _ hunsigned

/-! ## Verdicts -/

theorem returns_single {env : StatusEnv Cert Crl} {certificate issuer : Cert}
    {result : Outcome (ValidationStatus Cert)} (h : Returns env true certificate issuer result) :
    ∃ crl ocsp,
      Checked env true (CRLValidityChecker.checkValidity env certificate issuer) crl ∧
      Checked env true (OCSPCertificateVerifier.checkValidity env certificate issuer env.now)
        ocsp ∧
      result = pick [crl, ocsp] := by
  cases h with
  | single _ hcrl hocsp => exact ⟨_, _, hcrl, hocsp, rfl⟩
  | multi hmode => cases hmode

theorem returns_multi {env : StatusEnv Cert Crl} {certificate issuer : Cert}
    {result : Outcome (ValidationStatus Cert)} (h : Returns env false certificate issuer result) :
    ∃ crl ocsp,
      (∀ status, crl = some status →
        Checked env false (CRLValidityChecker.checkValidity env certificate issuer) status) ∧
      (∀ status, ocsp = some status → Checked env false
        (OCSPCertificateVerifier.checkValidity env certificate issuer env.now) status) ∧
      MultiReturns true crl ocsp result := by
  cases h with
  | single hmode => cases hmode
  | multi _ hcrl hocsp hmulti => exact ⟨_, _, hcrl, hocsp, hmulti⟩

/-- Every verdict the call can return is backed. -/
def VerdictsBacked (env : StatusEnv Cert Crl) (singleThreaded : Bool) (certificate issuer : Cert) :
    Prop :=
  ∀ status, Returns env singleThreaded certificate issuer (.ok status) → HasVerdict status →
    Backed env singleThreaded status

/-- The answer of the OCSP responder has a verdict but no valid signature. -/
def UnsignedVerdict (env : StatusEnv Cert Crl) (certificate issuer : Cert) : Prop :=
  (OCSPCertificateVerifier.checkValidity env certificate issuer env.now).statusSignatureValid
      = false ∧
    HasVerdict (OCSPCertificateVerifier.checkValidity env certificate issuer env.now)

theorem crl_verdict_signed {env : StatusEnv Cert Crl} {singleThreaded : Bool}
    {certificate issuer : Cert} {status : ValidationStatus Cert}
    (hchecked : Checked env singleThreaded
      (CRLValidityChecker.checkValidity env certificate issuer) status)
    (hverdict : HasVerdict status) : status.statusSignatureValid = true := by
  by_contra hunsigned
  obtain ⟨hraw, hvalidity⟩ := checked_unsigned hchecked (Bool.eq_false_iff.mpr hunsigned)
  rcases crl_signedOrUnknown env certificate issuer with hsigned | hunknown
  · rw [hraw] at hsigned
    cases hsigned
  · rw [hunknown] at hvalidity
    rcases hverdict with h | h
    · rw [hvalidity] at h
      cases h
    · rw [hvalidity] at h
      cases h

theorem single_verdicts_backed (env : StatusEnv Cert Crl) (certificate issuer : Cert) :
    VerdictsBacked env true certificate issuer := by
  intro status hreturns hverdict
  obtain ⟨crl, ocsp, hcrl, hocsp, hpick⟩ := returns_single hreturns
  rcases pick_ok hpick.symm with ⟨hmem, hsigned⟩ | hhead
  · rcases List.mem_cons.mp hmem with rfl | hmem
    · exact backed_of_checked hcrl hsigned hverdict
    · rw [List.mem_singleton] at hmem
      subst hmem
      exact backed_of_checked hocsp hsigned hverdict
  · cases hhead
    exact backed_of_checked hcrl (crl_verdict_signed hcrl hverdict) hverdict

/-- An unsigned answer that arrives first and alone is the result. -/
theorem unsigned_answer_returned (env : StatusEnv Cert Crl) (certificate issuer : Cert)
    (hunsigned : (OCSPCertificateVerifier.checkValidity env certificate issuer
      env.now).statusSignatureValid = false) :
    ∃ status, Returns env false certificate issuer (.ok status) ∧
      status.statusSignatureValid = false ∧
      status.validity =
        (OCSPCertificateVerifier.checkValidity env certificate issuer env.now).validity := by
  generalize hanswer : OCSPCertificateVerifier.checkValidity env certificate issuer env.now =
    answer at hunsigned
  have hnone : responderCheck env answer = none := by
    simp [responderCheck, hunsigned]
  have hchecked : Checked env false answer (checkStatusPath env (.error Exn.nullPointer) answer) :=
    .alone _ hnone
  generalize hstatus : checkStatusPath env (.error Exn.nullPointer) answer = status at hchecked
  have hsig : status.statusSignatureValid = false := by
    rw [← hstatus]
    simp [checkStatusPath, hunsigned]
  have hreturns : MultiReturns true none (some status) (.ok status) := by
    have hpick : pick [status] = .ok status := by simp [pick, pickResult, signedAs, hsig]
    refine ⟨⟨none, none, [status], .returned (.ok status)⟩, ?_, rfl⟩
    apply Relation.ReflTransGen.head (.deliverOcsp rfl)
    apply (run_timeout none none status).trans
    rw [← hpick]
    exact run_pick true none none [status]
  refine ⟨status, .multi rfl ?_ ?_ hreturns, hsig, (checked_unsigned hchecked hsig).2⟩
  · intro s hs
    cases hs
  · intro s hs
    cases hs
    rw [hanswer]
    exact hchecked

theorem multi_verdicts_backed_iff (env : StatusEnv Cert Crl) (certificate issuer : Cert) :
    VerdictsBacked env false certificate issuer ↔ ¬ UnsignedVerdict env certificate issuer := by
  constructor
  · rintro hbacked ⟨hunsigned, hverdict⟩
    obtain ⟨status, hreturns, hsig, hvalidity⟩ :=
      unsigned_answer_returned env certificate issuer hunsigned
    have hstatus : HasVerdict status := by
      unfold HasVerdict
      rw [hvalidity]
      exact hverdict
    have hsigned := (hbacked status hreturns hstatus).signature
    rw [hsig] at hsigned
    cases hsigned
  · intro hnot status hreturns hverdict
    obtain ⟨crl, ocsp, hcrl, hocsp, hmulti⟩ := returns_multi hreturns
    rcases multiReturns_delivered hmulti with hdelivered | hdelivered
    · have hchecked := hcrl status hdelivered
      exact backed_of_checked hchecked (crl_verdict_signed hchecked hverdict) hverdict
    · have hchecked := hocsp status hdelivered
      refine backed_of_checked hchecked ?_ hverdict
      by_contra hunsigned
      obtain ⟨hraw, hvalidity⟩ := checked_unsigned hchecked (Bool.eq_false_iff.mpr hunsigned)
      apply hnot
      refine ⟨hraw, ?_⟩
      unfold HasVerdict
      rw [← hvalidity]
      exact hverdict

/-! ## Responder certificates -/

/-- The responder certificate of the status is accepted only on a valid status
of its own that is signed. -/
def ResponderBacked (env : StatusEnv Cert Crl) (singleThreaded : Bool)
    (status : ValidationStatus Cert) (signer issuer : Cert) : Prop :=
  ∀ result, Returns env singleThreaded signer issuer result →
    verifyValidityStatusTrustPath env result status = .ok () →
    ∃ own, result = .ok own ∧ own.validity = .VALID ∧ own.statusSignatureValid = true

/-- With a responder certificate to check, its validity decides. -/
theorem responder_accepted_iff {env : StatusEnv Cert Crl} {status : ValidationStatus Cert}
    {signer issuer : Cert} (hcheck : responderCheck env status = some (signer, issuer))
    (result : Outcome (ValidationStatus Cert)) :
    verifyValidityStatusTrustPath env result status = .ok () ↔
      ∃ own, result = .ok own ∧ own.validity = .VALID := by
  unfold responderCheck at hcheck
  split at hcheck
  · rename_i hsource
    rw [Bool.and_eq_true, beq_iff_eq] at hsource
    cases hpath : ocspPathChecks env status with
    | error ex => simp [hpath] at hcheck
    | ok target =>
        have htarget : target = some (signer, issuer) := by simpa [hpath] using hcheck
        subst htarget
        unfold verifyValidityStatusTrustPath
        rw [hsource.2]
        show checkOcspTrustPath env result status = .ok () ↔ _
        unfold checkOcspTrustPath
        rw [hpath]
        constructor
        · intro h
          obtain ⟨_, htarget, h⟩ := bind_ok_iff.mp h
          cases htarget
          obtain ⟨own, hown, h⟩ := bind_ok_iff.mp h
          refine ⟨own, hown, ?_⟩
          by_contra hne
          rw [if_pos hne] at h
          cases h
        · rintro ⟨own, rfl, hvalid⟩
          exact if_neg (not_not.mpr hvalid)
  · cases hcheck

theorem single_responder_backed {env : StatusEnv Cert Crl} {status : ValidationStatus Cert}
    {signer issuer : Cert} (hcheck : responderCheck env status = some (signer, issuer)) :
    ResponderBacked env true status signer issuer := by
  intro result hreturns hpath
  obtain ⟨own, rfl, hvalid⟩ := (responder_accepted_iff hcheck result).mp hpath
  have hbacked := single_verdicts_backed env signer issuer own hreturns (Or.inl hvalid)
  exact ⟨own, rfl, hvalid, hbacked.signature⟩

/-- An unsigned answer about a responder certificate is enough to accept it,
when it says valid. -/
theorem multi_responder_backed_iff {env : StatusEnv Cert Crl} {status : ValidationStatus Cert}
    {signer issuer : Cert} (hcheck : responderCheck env status = some (signer, issuer)) :
    ResponderBacked env false status signer issuer ↔
      ¬ ((OCSPCertificateVerifier.checkValidity env signer issuer env.now).statusSignatureValid
          = false ∧
        (OCSPCertificateVerifier.checkValidity env signer issuer env.now).validity = .VALID) := by
  constructor
  · rintro hbacked ⟨hunsigned, hanswer⟩
    obtain ⟨own, hreturns, hsig, hvalidity⟩ := unsigned_answer_returned env signer issuer hunsigned
    have hvalid : own.validity = .VALID := hvalidity.trans hanswer
    have hpath := (responder_accepted_iff hcheck (.ok own)).mpr ⟨own, rfl, hvalid⟩
    obtain ⟨own', heq, _, hsigned⟩ := hbacked _ hreturns hpath
    cases heq
    rw [hsig] at hsigned
    cases hsigned
  · intro hnot result hreturns hpath
    obtain ⟨own, rfl, hvalid⟩ := (responder_accepted_iff hcheck result).mp hpath
    refine ⟨own, rfl, hvalid, ?_⟩
    obtain ⟨crl, ocsp, hcrl, hocsp, hmulti⟩ := returns_multi hreturns
    rcases multiReturns_delivered hmulti with hdelivered | hdelivered
    · exact crl_verdict_signed (hcrl own hdelivered) (Or.inl hvalid)
    · by_contra hunsigned
      obtain ⟨hraw, hvalidity⟩ :=
        checked_unsigned (hocsp own hdelivered) (Bool.eq_false_iff.mpr hunsigned)
      exact hnot ⟨hraw, hvalidity ▸ hvalid⟩

/-- **What backs a verdict.** For every certificate and issuer, the verdicts of
a single-threaded call are backed by a signature and an accepted trust path,
and those of a multi-threaded call are exactly when the OCSP answer has no
verdict without a valid signature. A responder certificate to be checked is
accepted on a signed status of its own in single-threaded mode, and in
multi-threaded mode exactly when no unsigned answer calls it valid. -/
theorem checkValidity_backed_iff (env : StatusEnv Cert Crl) (certificate issuer : Cert) :
    VerdictsBacked env true certificate issuer ∧
    (VerdictsBacked env false certificate issuer ↔ ¬ UnsignedVerdict env certificate issuer) ∧
    ∀ status, responderCheck env status = some (certificate, issuer) →
      ResponderBacked env true status certificate issuer ∧
      (ResponderBacked env false status certificate issuer ↔
        ¬ ((OCSPCertificateVerifier.checkValidity env certificate issuer
              env.now).statusSignatureValid = false ∧
          (OCSPCertificateVerifier.checkValidity env certificate issuer env.now).validity
            = .VALID)) := by
  refine ⟨single_verdicts_backed env certificate issuer,
    multi_verdicts_backed_iff env certificate issuer, ?_⟩
  intro status hcheck
  exact ⟨single_responder_backed hcheck, multi_responder_backed_iff hcheck⟩

/-! Certificate 1 is issued by 2, and its OCSP response is signed by 3, which
has no no-check extension. There is no revocation list, and the response about
3 carries a signature that does not verify. -/

def targetResponse : BasicOCSPResp Nat where
  certs := .ok [3]
  isSignatureValid := fun certificate => .ok (certificate == 3)
  nonceExtension := none
  producedAt := 900
  responses := [⟨"1", .good, 900, none⟩]

def forgedResponse : BasicOCSPResp Nat where
  certs := .ok [3]
  isSignatureValid := fun _ => .ok false
  nonceExtension := none
  producedAt := 900
  responses := [⟨"3", .good, 900, none⟩]

def forgedEnv : StatusEnv Nat Unit where
  now := 1000
  getCRL := fun _ => .error ⟨.io, "No distribution point"⟩
  crlVerify := fun _ _ => .error ⟨.security, "No list"⟩
  isRevoked := fun _ _ => false
  getRevokedCertificate := fun _ _ => none
  getOCSPUrl := fun _ => .ok (some "http://ocsp")
  certificateID := fun _ certificate => .ok (if certificate = 1 then "1" else "3")
  nonce := none
  wrapNonce := id
  requestOCSPResponse := fun _ certificateId _ =>
    .ok ⟨0, .ok (some (if certificateId = "1" then targetResponse else forgedResponse))⟩
  isCurrentlyValid := fun _ => true
  certVerify := fun _ _ => .ok ()
  getBasicConstraints := fun _ => 0
  getKeyUsage := fun _ => none
  getExtendedKeyUsage := fun _ => .ok (some [ocspSigning])
  isOCSPNocheckExt := fun _ => false

/-- The forged response about the responder is returned as valid, and the
responder of certificate 1 is accepted on it. -/
theorem forged_response_accepted :
    ¬ VerdictsBacked forgedEnv false 3 2 ∧
    responderCheck forgedEnv (OCSPCertificateVerifier.checkValidity forgedEnv 1 2 1000) =
      some (3, 2) ∧
    ¬ ResponderBacked forgedEnv false
      (OCSPCertificateVerifier.checkValidity forgedEnv 1 2 1000) 3 2 := by
  have hunsigned : (OCSPCertificateVerifier.checkValidity forgedEnv 3 2 1000).statusSignatureValid
      = false := rfl
  have hvalid : (OCSPCertificateVerifier.checkValidity forgedEnv 3 2 1000).validity = .VALID := rfl
  have hcheck : responderCheck forgedEnv
      (OCSPCertificateVerifier.checkValidity forgedEnv 1 2 1000) = some (3, 2) := rfl
  refine ⟨?_, hcheck, ?_⟩
  · intro hbacked
    exact (multi_verdicts_backed_iff forgedEnv 3 2).mp hbacked ⟨hunsigned, Or.inl hvalid⟩
  · intro hbacked
    exact (multi_responder_backed_iff hcheck).mp hbacked ⟨hunsigned, hvalid⟩

end SigVal.Cert
