import SigVal.Cert.Evidence
import SigVal.Cert.PathValidator

/-!
# Confirmed certificates

A status that `BasicCertificateValidityChecker` returns confirms the certificate when it says
valid and is signed. Such a status has evidence in both modes. In multi-threaded mode the
converse holds as well, for the run in which the good answer comes alone; in single-threaded
mode a revocation by either source prevails.
-/

namespace SigVal.Cert

open SigVal.Java SigVal.Runs BasicCertificateValidityChecker BasicValidityPathChecker

variable {Cert Crl : Type}

/-! ## What a checked status says -/

section Checks

variable [DecidableEq Cert] {env : StatusEnv Cert Crl} {singleThreaded : Bool}
  {certificate issuer : Cert}

/-- The check of a certificate may find it valid; for a responder nobody asks whether that
status is signed. -/
def Accepted (env : StatusEnv Cert Crl) (singleThreaded : Bool) (issuer certificate : Cert) :
    Prop :=
  ∃ status, Returns env singleThreaded certificate issuer (.ok status) ∧ status.validity = .VALID

/-- The result that the trust path of a status is verified with. -/
def Nested (env : StatusEnv Cert Crl) (singleThreaded : Bool) (raw : ValidationStatus Cert)
    (result : Outcome (ValidationStatus Cert)) : Prop :=
  ∀ signer issuer, responderCheck env raw = some (signer, issuer) →
    Returns env singleThreaded signer issuer result

/-- A signed verdict is a status whose trust path was verified, and nothing else. -/
theorem checked_verdict_iff {raw status : ValidationStatus Cert}
    (hsigned : status.statusSignatureValid = true) (hverdict : HasVerdict status) :
    Checked env singleThreaded raw status ↔
      status = raw ∧ ∃ result, Nested env singleThreaded raw result ∧
        verifyValidityStatusTrustPath env result raw = .ok () := by
  have hknown : status.validity ≠ .UNKNOWN := by
    rcases hverdict with h | h
    · rw [h]
      decide
    · rw [h]
      decide
  constructor
  · intro hchecked
    cases hchecked with
    | alone unused hnone =>
        rcases checkStatusPath_signed hsigned with hunknown | ⟨heq, hpath⟩
        · exact absurd hunknown hknown
        · refine ⟨heq, unused, ?_, hpath⟩
          intro signer issuer hsome
          rw [hnone] at hsome
          cases hsome
    | @responder _ checkedSigner checkedIssuer result hsome hreturns =>
        rcases checkStatusPath_signed hsigned with hunknown | ⟨heq, hpath⟩
        · exact absurd hunknown hknown
        · refine ⟨heq, result, ?_, hpath⟩
          intro signer issuer hsome'
          rw [hsome] at hsome'
          cases hsome'
          exact hreturns
  · rintro ⟨rfl, result, hnested, hpath⟩
    have hkept : checkStatusPath env result status = status := by
      simp [checkStatusPath, hsigned, hpath]
    rw [← hkept]
    cases hcheck : responderCheck env status with
    | none =>
        have hchecked : Checked env singleThreaded status (checkStatusPath env result status) :=
          .alone result hcheck
        rwa [hkept] at hchecked ⊢
    | some target =>
        obtain ⟨signer, issuer⟩ := target
        have hchecked : Checked env singleThreaded status (checkStatusPath env result status) :=
          .responder hcheck (hnested signer issuer hcheck)
        rwa [hkept] at hchecked ⊢

/-- One of the two sources, after the check of its trust path, comes to this signed verdict. -/
def Concludes (env : StatusEnv Cert Crl) (singleThreaded : Bool) (certificate issuer : Cert)
    (validity : CertificateValidity) (status : ValidationStatus Cert) : Prop :=
  (Checked env singleThreaded (CRLValidityChecker.checkValidity env certificate issuer) status ∨
    Checked env singleThreaded
      (OCSPCertificateVerifier.checkValidity env certificate issuer env.now) status) ∧
    status.statusSignatureValid = true ∧ status.validity = validity

/-- A verdict whose trust path was verified is what its source says, for anyone who trusts the
responders that were found valid. -/
theorem statement_of_verified {trusted : Cert → Prop} {raw : ValidationStatus Cert}
    {result : Outcome (ValidationStatus Cert)}
    (hsource : raw = CRLValidityChecker.checkValidity env certificate issuer ∨
      raw = OCSPCertificateVerifier.checkValidity env certificate issuer env.now)
    (hsigned : raw.statusSignatureValid = true) (hverdict : HasVerdict raw)
    (hpath : verifyValidityStatusTrustPath env result raw = .ok ())
    (htrusted : ∀ signer own, responderCheck env raw = some (signer, issuer) →
      result = .ok own → own.validity = .VALID → trusted signer) :
    Says env issuer trusted certificate raw.validity := by
  rcases hsource with rfl | rfl
  · obtain ⟨list⟩ := exists_foundList hsigned
    rw [list.read.verdict]
    exact .list list ((verifyList_ok_iff list.read result).mp hpath)
  · obtain ⟨answer⟩ := exists_answer hverdict
    rw [answer.read.signed, Option.isSome_iff_exists] at hsigned
    obtain ⟨signer, hsigner⟩ := hsigned
    rw [answer.read.verdict]
    refine .answer answer hsigner ?_
    rcases (verifyAnswer_ok_iff answer hsigner result).mp hpath with
      ⟨rfl, hcurrent⟩ | ⟨hne, hdelegated, hresponder⟩
    · exact .issuer hcurrent
    · refine .delegate hdelegated ?_
      by_cases hnocheck : env.isOCSPNocheckExt signer = true
      · exact .inl hnocheck
      · obtain ⟨own, hown, hvalid⟩ := hresponder.resolve_left hnocheck
        have hcheck := (responderCheck_answer_iff answer hsigner).mpr
          ⟨rfl, hne, hdelegated, hnocheck⟩
        exact .inr (htrusted signer own hcheck hown hvalid)

/-- **Verdicts are what the sources say.** -/
theorem concludes_iff {validity : CertificateValidity}
    (hverdict : validity = .VALID ∨ validity = .REVOKED) :
    (∃ status, Concludes env singleThreaded certificate issuer validity status) ↔
      Says env issuer (Accepted env singleThreaded issuer) certificate validity := by
  constructor
  · rintro ⟨status, hsources, hsigned, rfl⟩
    have hverified : ∀ raw, Checked env singleThreaded raw status →
        (raw = CRLValidityChecker.checkValidity env certificate issuer ∨
          raw = OCSPCertificateVerifier.checkValidity env certificate issuer env.now) →
        Says env issuer (Accepted env singleThreaded issuer) certificate status.validity := by
      intro raw hchecked hsource
      obtain ⟨rfl, result, hnested, hpath⟩ := (checked_verdict_iff hsigned hverdict).mp hchecked
      refine statement_of_verified hsource hsigned hverdict hpath ?_
      rintro signer own hcheck rfl hvalid
      exact ⟨own, hnested signer issuer hcheck, hvalid⟩
    rcases hsources with hchecked | hchecked
    · exact hverified _ hchecked (.inl rfl)
    · exact hverified _ hchecked (.inr rfl)
  · rintro (⟨list, hissues⟩ | ⟨answer, hsigner, hspeaks⟩)
    · have hstatus : HasVerdict (CRLValidityChecker.checkValidity env certificate issuer) := by
        unfold HasVerdict
        rw [list.read.verdict]
        exact hverdict
      refine ⟨_, .inl ((checked_verdict_iff list.read.signed hstatus).mpr ⟨rfl, ?_⟩),
        list.read.signed, list.read.verdict⟩
      refine ⟨.error Exn.nullPointer, ?_, (verifyList_ok_iff list.read _).mpr hissues⟩
      intro signer issuer' hcheck
      rw [responderCheck_crl] at hcheck
      cases hcheck
    · rename_i signer
      have hsigned : (OCSPCertificateVerifier.checkValidity env certificate issuer
          env.now).statusSignatureValid = true := by
        rw [answer.read.signed, hsigner]
        rfl
      have hstatus : HasVerdict
          (OCSPCertificateVerifier.checkValidity env certificate issuer env.now) := by
        unfold HasVerdict
        rw [answer.read.verdict]
        exact hverdict
      refine ⟨_, .inr ((checked_verdict_iff hsigned hstatus).mpr ⟨rfl, ?_⟩), hsigned,
        answer.read.verdict⟩
      have hnested : ∀ result, (signer ≠ issuer → ¬ env.isOCSPNocheckExt signer = true →
            Returns env singleThreaded signer issuer result) →
          Nested env singleThreaded
            (OCSPCertificateVerifier.checkValidity env certificate issuer env.now) result := by
        intro result hreturns signer' issuer' hcheck
        obtain ⟨htarget, hne, -, hnocheck⟩ := (responderCheck_answer_iff answer hsigner).mp hcheck
        cases htarget
        exact hreturns hne hnocheck
      by_cases hsame : signer = issuer
      · refine ⟨.error Exn.nullPointer, hnested _ fun hne => absurd hsame hne, ?_⟩
        refine (verifyAnswer_ok_iff answer hsigner _).mpr (.inl ⟨hsame, ?_⟩)
        cases hspeaks with
        | issuer hcurrent => exact hcurrent
        | delegate hdelegated _ => exact hdelegated.issuerCurrent
      · cases hspeaks with
        | issuer _ => exact absurd rfl hsame
        | delegate hdelegated htrusted =>
            rcases htrusted with hnocheck | ⟨own, hreturns, hvalid⟩
            · refine ⟨.error Exn.nullPointer, hnested _ fun _ hnot => absurd hnocheck hnot, ?_⟩
              exact (verifyAnswer_ok_iff answer hsigner _).mpr
                (.inr ⟨hsame, hdelegated, .inl hnocheck⟩)
            · refine ⟨.ok own, hnested _ fun _ _ => hreturns, ?_⟩
              exact (verifyAnswer_ok_iff answer hsigner _).mpr
                (.inr ⟨hsame, hdelegated, .inr ⟨own, rfl, hvalid⟩⟩)

/-! ## From a confirmed status to its evidence -/

/-- A confirmed result of the call is what one of the sources concluded. -/
theorem concludes_of_returns {status : ValidationStatus Cert}
    (hreturns : Returns env singleThreaded certificate issuer (.ok status))
    (hconfirmed : status.Confirmed) :
    Concludes env singleThreaded certificate issuer .VALID status := by
  refine ⟨?_, hconfirmed.2, hconfirmed.1⟩
  cases singleThreaded with
  | true =>
      obtain ⟨crl, ocsp, hcrl, hocsp, hpick⟩ := returns_single hreturns
      have hmem : status = crl ∨ status = ocsp := by
        rcases pick_ok hpick.symm with ⟨hmem, -⟩ | hhead
        · simpa using hmem
        · cases hhead
          exact .inl rfl
      rcases hmem with rfl | rfl
      · exact .inl hcrl
      · exact .inr hocsp
  | false =>
      obtain ⟨crl, ocsp, hcrl, hocsp, hmulti⟩ := returns_multi hreturns
      rcases multiReturns_delivered hmulti with hdelivered | hdelivered
      · exact .inl (hcrl status hdelivered)
      · exact .inr (hocsp status hdelivered)

/-- A certificate that is found valid without a signed status has only the word of an unsigned
answer, which counts in multi-threaded mode. -/
theorem wordAlone_of_unsigned {status : ValidationStatus Cert}
    (hreturns : Returns env singleThreaded certificate issuer (.ok status))
    (hvalid : status.validity = .VALID) (hunsigned : status.statusSignatureValid = false) :
    WordAlone env singleThreaded issuer certificate := by
  cases singleThreaded with
  | true =>
      have hsigned := (single_verdicts_backed env certificate issuer status hreturns
        (.inl hvalid)).signature
      rw [hunsigned] at hsigned
      cases hsigned
  | false =>
      obtain ⟨crl, ocsp, hcrl, hocsp, hmulti⟩ := returns_multi hreturns
      rcases multiReturns_delivered hmulti with hdelivered | hdelivered
      · have hsigned := crl_verdict_signed (hcrl status hdelivered) (.inl hvalid)
        rw [hunsigned] at hsigned
        cases hsigned
      · obtain ⟨hraw, hvalidity⟩ := checked_unsigned (hocsp status hdelivered) hunsigned
        rw [hvalid] at hvalidity
        obtain ⟨answer⟩ := exists_answer (Or.inl hvalidity.symm)
        refine ⟨rfl, answer, ?_, answer.read.verdict.symm.trans hvalidity.symm⟩
        rw [answer.read.signed] at hraw
        exact Option.isNone_iff_eq_none.mp (by simpa using hraw)

/-- A checked status that confirms the certificate, where the responders it relies on have
evidence or at least their word. -/
theorem evidence_of_verified {raw status : ValidationStatus Cert}
    {result : Outcome (ValidationStatus Cert)}
    (hsource : raw = CRLValidityChecker.checkValidity env certificate issuer ∨
      raw = OCSPCertificateVerifier.checkValidity env certificate issuer env.now)
    (hstatus : checkStatusPath env result raw = status) (hconfirmed : status.Confirmed)
    (htrusted : ∀ signer own, responderCheck env raw = some (signer, issuer) →
      result = .ok own → own.validity = .VALID →
      Evidence env singleThreaded issuer signer ∨ WordAlone env singleThreaded issuer signer) :
    Evidence env singleThreaded issuer certificate := by
  subst hstatus
  have hvalid := hconfirmed.1
  rcases checkStatusPath_signed hconfirmed.2 with hunknown | ⟨heq, hpath⟩
  · rw [hunknown] at hvalid
    cases hvalid
  · have hsigned := hconfirmed.2
    rw [heq] at hvalid hsigned
    have hstatement := statement_of_verified hsource hsigned (.inl hvalid) hpath htrusted
    rw [hvalid] at hstatement
    exact .source _ (fun _ h => h) hstatement

mutual

theorem evidence_of_checked {raw status : ValidationStatus Cert} :
    Checked env singleThreaded raw status → ∀ {certificate issuer : Cert},
      (raw = CRLValidityChecker.checkValidity env certificate issuer ∨
        raw = OCSPCertificateVerifier.checkValidity env certificate issuer env.now) →
      status.Confirmed → Evidence env singleThreaded issuer certificate
  | .alone unused hnone, certificate, issuer, hsource, hconfirmed => by
      refine evidence_of_verified hsource rfl hconfirmed ?_
      intro signer own hcheck
      rw [hnone] at hcheck
      cases hcheck
  | .responder hsome hreturns, certificate, issuer, hsource, hconfirmed => by
      have hresponder := evidence_of_returns hreturns
      refine evidence_of_verified hsource rfl hconfirmed ?_
      intro signer own hcheck hown hvalid
      rw [hsome] at hcheck
      cases hcheck
      by_cases hsigned : own.statusSignatureValid = true
      · exact .inl (hresponder own hown ⟨hvalid, hsigned⟩)
      · subst hown
        exact .inr (wordAlone_of_unsigned hreturns hvalid (Bool.eq_false_iff.mpr hsigned))

theorem evidence_of_returns {certificate issuer : Cert}
    {result : Outcome (ValidationStatus Cert)} :
    Returns env singleThreaded certificate issuer result → ∀ status : ValidationStatus Cert,
      result = .ok status → status.Confirmed → Evidence env singleThreaded issuer certificate
  | .single _ hcrl hocsp, status, hpick, hconfirmed => by
      have hlist := evidence_of_checked hcrl (.inl rfl)
      have hanswer := evidence_of_checked hocsp (.inr rfl)
      rcases pick_ok hpick with ⟨hmem, -⟩ | hhead
      · rcases List.mem_cons.mp hmem with rfl | hmem
        · exact hlist hconfirmed
        · rw [List.mem_singleton] at hmem
          subst hmem
          exact hanswer hconfirmed
      · cases hhead
        exact hlist hconfirmed
  | .multi _ hcrl hocsp hmulti, status, hresult, hconfirmed => by
      have hlist := fun status hstatus => evidence_of_checked (hcrl status hstatus) (.inl rfl)
      have hanswer := fun status hstatus => evidence_of_checked (hocsp status hstatus) (.inr rfl)
      subst hresult
      rcases multiReturns_delivered hmulti with hdelivered | hdelivered
      · exact hlist status hdelivered hconfirmed
      · exact hanswer status hdelivered hconfirmed

end

/-! ## The two modes -/

omit [DecidableEq Cert] in
theorem pick_singleton (status : ValidationStatus Cert) : pick [status] = .ok status := by
  unfold pick
  cases hrevoked : signedAs .REVOKED status with
  | true => simp [hrevoked, pickResult]
  | false =>
      cases hvalid : signedAs .VALID status with
      | true => simp [hrevoked, hvalid, pickResult]
      | false => simp [hrevoked, hvalid, pickResult]

omit [DecidableEq Cert] in
/-- The pick confirms when something does and nothing signed says revoked. -/
theorem pick_confirmed_iff {l : List (ValidationStatus Cert)} :
    (∃ status, pick l = .ok status ∧ status.Confirmed) ↔
      (∃ status ∈ l, status.Confirmed) ∧ ∀ status ∈ l, ¬ signedAs .REVOKED status = true := by
  have hconfirmed : ∀ status : ValidationStatus Cert,
      signedAs .VALID status = true ↔ status.Confirmed := by
    intro status
    rw [signedAs_iff, and_comm]
    rfl
  unfold pick
  cases hrevoked : l.find? (signedAs .REVOKED) with
  | some revoked =>
      have hsigned := List.find?_some hrevoked
      constructor
      · rintro ⟨status, hpick, hvalid, -⟩
        cases hpick
        rw [(signedAs_iff.mp hsigned).2] at hvalid
        cases hvalid
      · rintro ⟨-, hnone⟩
        exact absurd hsigned (hnone revoked (List.mem_of_find?_eq_some hrevoked))
  | none =>
      have hnone := List.find?_eq_none.mp hrevoked
      cases hvalid : l.find? (signedAs .VALID) with
      | some valid =>
          have hsigned := (hconfirmed valid).mp (List.find?_some hvalid)
          exact iff_of_true ⟨valid, rfl, hsigned⟩
            ⟨⟨valid, List.mem_of_find?_eq_some hvalid, hsigned⟩, hnone⟩
      | none =>
          have hnothing : ∀ status ∈ l, ¬ status.Confirmed := by
            intro status hmem hstatus
            exact List.find?_eq_none.mp hvalid status hmem ((hconfirmed status).mpr hstatus)
          refine iff_of_false ?_ ?_
          · rintro ⟨status, hpick, hstatus⟩
            cases l with
            | nil => cases hpick
            | cons first rest =>
                cases hpick
                exact hnothing status List.mem_cons_self hstatus
          · rintro ⟨⟨status, hmem, hstatus⟩, -⟩
            exact hnothing status hmem hstatus

/-- In multi-threaded mode either status may be the only one that arrives. -/
theorem returns_of_concludes {validity : CertificateValidity} {status : ValidationStatus Cert}
    (hconcludes : Concludes env false certificate issuer validity status) :
    Returns env false certificate issuer (.ok status) := by
  have hnothing : ∀ {raw status : ValidationStatus Cert}, none = some status →
      Checked env false raw status := by
    intro raw status hnone
    cases hnone
  have hsingle : ∀ {raw other : ValidationStatus Cert}, Checked env false raw status →
      some status = some other → Checked env false raw other := by
    intro raw other hchecked hsome
    cases hsome
    exact hchecked
  have hpick : Run (PollStep true) ⟨none, none, [status], .stopped⟩
      ⟨none, none, [status], .returned (.ok status)⟩ := by
    rw [← pick_singleton status]
    exact run_pick true none none [status]
  rcases hconcludes.1 with hchecked | hchecked
  · refine .multi rfl (fun _ => hsingle hchecked) (fun _ => hnothing)
      ⟨⟨none, none, [status], .returned (.ok status)⟩, ?_, rfl⟩
    apply Relation.ReflTransGen.head (.deliverCrl rfl)
    exact (run_timeout none none status).trans hpick
  · refine .multi rfl (fun _ => hnothing) (fun _ => hsingle hchecked)
      ⟨⟨none, none, [status], .returned (.ok status)⟩, ?_, rfl⟩
    apply Relation.ReflTransGen.head (.deliverOcsp rfl)
    exact (run_timeout none none status).trans hpick

/-- The word of an unsigned answer may be what the call returns. -/
theorem accepted_of_wordAlone (hword : WordAlone env singleThreaded issuer certificate) :
    Accepted env singleThreaded issuer certificate := by
  obtain ⟨rfl, answer, hnobody, hvalid⟩ := hword
  have hunsigned : (OCSPCertificateVerifier.checkValidity env certificate issuer
      env.now).statusSignatureValid = false := by
    rw [answer.read.signed, hnobody]
    rfl
  obtain ⟨status, hreturns, -, hvalidity⟩ := unsigned_answer_returned env certificate issuer
    hunsigned
  exact ⟨status, hreturns, hvalidity.trans (answer.read.verdict.trans hvalid)⟩

/-- **Confirmation in multi-threaded mode.** Some run of the threads confirms the certificate
exactly when there is evidence for it. -/
theorem confirmed_iff_evidence :
    (∃ status, Returns env false certificate issuer (.ok status) ∧ status.Confirmed) ↔
      Evidence env false issuer certificate := by
  constructor
  · rintro ⟨status, hreturns, hconfirmed⟩
    exact evidence_of_returns hreturns status rfl hconfirmed
  · intro hevidence
    induction hevidence with
    | source trusted _ hstatement ih =>
        have haccepted : ∀ signer, trusted signer ∨ WordAlone env false issuer signer →
            Accepted env false issuer signer := by
          rintro signer (htrusted | hword)
          · obtain ⟨status, hreturns, hconfirmed⟩ := ih signer htrusted
            exact ⟨status, hreturns, hconfirmed.1⟩
          · exact accepted_of_wordAlone hword
        obtain ⟨status, hconcludes⟩ := (concludes_iff (.inl rfl)).mpr (hstatement.mono haccepted)
        exact ⟨status, returns_of_concludes hconcludes, hconcludes.2.2, hconcludes.2.1⟩

mutual

/-- Without threads a check has one result at most. -/
theorem checked_unique {raw status : ValidationStatus Cert} :
    Checked env true raw status → ∀ status', Checked env true raw status' → status' = status
  | .alone unused hnone, status', h => by
      cases h with
      | alone unused' _ => exact checkStatusPath_alone hnone _ _
      | responder hsome _ =>
          rw [hnone] at hsome
          cases hsome
  | .responder hsome hreturns, status', h => by
      have hresult := returns_unique hreturns
      cases h with
      | alone _ hnone =>
          rw [hnone] at hsome
          cases hsome
      | responder hsome' hreturns' =>
          rw [hsome] at hsome'
          cases hsome'
          rw [hresult _ hreturns']

theorem returns_unique {certificate issuer : Cert} {result : Outcome (ValidationStatus Cert)} :
    Returns env true certificate issuer result →
      ∀ result', Returns env true certificate issuer result' → result' = result
  | .single _ hcrl hocsp, result', h => by
      have hlist := checked_unique hcrl
      have hanswer := checked_unique hocsp
      obtain ⟨crl', ocsp', hcrl', hocsp', rfl⟩ := returns_single h
      rw [hlist crl' hcrl', hanswer ocsp' hocsp']
  | .multi hmode _ _ _, _, _ => by cases hmode

end

/-- **Confirmation in single-threaded mode.** Where the check ends, it confirms the certificate
exactly when a source says that it is valid and none that it is revoked. -/
theorem single_confirmed_iff (hends : ∃ result, Returns env true certificate issuer result) :
    (∃ status, Returns env true certificate issuer (.ok status) ∧ status.Confirmed) ↔
      Says env issuer (Accepted env true issuer) certificate .VALID ∧
        ¬ Says env issuer (Accepted env true issuer) certificate .REVOKED := by
  obtain ⟨result, hreturns⟩ := hends
  obtain ⟨crl, ocsp, hcrl, hocsp, rfl⟩ := returns_single hreturns
  -- what the sources conclude is one of the two statuses
  have hmem : ∀ validity status, Concludes env true certificate issuer validity status ↔
      status ∈ [crl, ocsp] ∧ signedAs validity status = true := by
    intro validity status
    unfold Concludes
    rw [signedAs_iff, List.mem_cons, List.mem_singleton]
    refine and_congr_left fun _ => or_congr ⟨checked_unique hcrl status, ?_⟩
      ⟨checked_unique hocsp status, ?_⟩
    · rintro rfl
      exact hcrl
    · rintro rfl
      exact hocsp
  have hpick : (∃ status, Returns env true certificate issuer (.ok status) ∧ status.Confirmed) ↔
      ∃ status, pick [crl, ocsp] = .ok status ∧ status.Confirmed := by
    refine exists_congr fun status => and_congr_left fun _ => ⟨fun h => ?_, fun h => ?_⟩
    · exact (returns_unique hreturns _ h).symm
    · rw [← h]
      exact hreturns
  rw [hpick, pick_confirmed_iff, ← concludes_iff (.inl rfl), ← concludes_iff (.inr rfl)]
  simp only [hmem, signedAs_iff, not_exists, not_and, ValidationStatus.Confirmed]
  refine and_congr (exists_congr fun status => and_congr_right fun _ => and_comm) Iff.rfl

end Checks

end SigVal.Cert
