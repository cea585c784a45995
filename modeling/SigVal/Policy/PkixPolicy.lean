import SigVal.Commons.SigValResult

/-!
# Signature policies

The policy validators decide what the collected results of a signature amount
to. The abstract class of each format makes the basic checks; the PKIX policy
then looks at the statuses of the certificate path. The three PKIX classes are
the same text, and so are the two abstract classes of XML and JOSE.
-/

namespace SigVal.Policy

open SigVal.Java SigVal.Cert SigVal.Commons

variable {Cert TS : Type} [IsTimeStamp TS Cert]

/-- The settings of a PKIX policy validator. -/
structure PkixPolicy where
  enforceCurrentTimeValidation : Bool := false
  /-- Milliseconds between signing and revocation, 24 hours by default. -/
  revocationGracePeriod : Int := 1000 * 60 * 60 * 24
deriving DecidableEq, Repr

namespace PkixPolicy

def getValidationPolicy (policy : PkixPolicy) : String :=
  if policy.enforceCurrentTimeValidation then sigValidationPolicyPkixValidation
  else sigValidationPolicyTimestampedPkixValidation

/-! ## Revocation times -/

/-- The timestamps of the results that count. A result without timestamp
throws. -/
def validTimestamps (timeValidationResults : List (TimeValidationResult Cert TS)) :
    Outcome (List (TimeStamp Cert)) := do
  let timeStamps ← timeValidationResults.mapM fun result => deref result.timeStamp
  pure ((timeStamps.map IsTimeStamp.toTimeStamp).filter (·.hasVerifiedTimestamp))

/-- The earliest date the signature is known to have existed, from the current
time down. A time that does not parse is passed over. -/
def firstDate : Date → List (TimeStamp Cert) → Outcome Date
  | first, [] => .ok first
  | first, timeStamp :: rest => do
      let tstInfo ← deref timeStamp.tstInfo
      match tstInfo.genTime with
      | some tsDate => firstDate (if tsDate < first then tsDate else first) rest
      | none => firstDate first rest

/-- `checkRevocationTime`. -/
def checkRevocationTime (policy : PkixPolicy) (now : Date) (status : ValidationStatus Cert)
    (timeValidationResults : Option (List (TimeValidationResult Cert TS))) : Outcome Bool :=
  match timeValidationResults, status.revocationTime with
  | none, _ => .ok false
  | some _, none => .ok false
  | some results, some revocationTime => do
      let timeStamps ← validTimestamps results
      let first ← firstDate now timeStamps
      pure (decide (toLong (first + policy.revocationGracePeriod) < revocationTime))

/-- The loop over the revoked statuses, which ends at the first one that was
revoked too early. -/
def revokedLater (policy : PkixPolicy) (now : Date)
    (timeValidationResults : Option (List (TimeValidationResult Cert TS))) :
    List (ValidationStatus Cert) → Outcome Bool
  | [] => .ok true
  | status :: rest => do
      if ← checkRevocationTime policy now status timeValidationResults then
        revokedLater policy now timeValidationResults rest
      else pure false

/-! ## The PKIX checks -/

/-- The cast to `PathValidationResult`; `null` passes the cast. -/
def castPathValidationResult :
    Option (CertificateValidationResult Cert) → Outcome (PathValidationResult Cert)
  | some (.pathValidation result) => .ok result
  | some (.default _) => .error Exn.classCast
  | none => .error Exn.nullPointer

/-- The body of `performAdditionalValidityChecks`. -/
def pathChecks (policy : PkixPolicy) (now : Date) (result : ExtendedSigValResult Cert TS) :
    Outcome PolicyValidationResult := do
  let pol := policy.getValidationPolicy
  let certValResult ← castPathValidationResult result.certificateValidationResult
  let validationStatusList ← deref certValResult.validationStatusList
  let revokedStatusList := validationStatusList.filter (·.validity == .REVOKED)
  if validationStatusList.any (·.validity == .INVALID) then
    pure ⟨⟨pol, .FAILED, some "Invalid certificate in certificate path"⟩, .ERROR_SIGNER_INVALID⟩
  else if validationStatusList.any (·.validity == .UNKNOWN) then
    pure ⟨⟨pol, .INDETERMINATE, some "Validity of the signature could not be determined"⟩,
      .ERROR_NOT_TRUSTED⟩
  else if !policy.enforceCurrentTimeValidation && !revokedStatusList.isEmpty then
    if ← revokedLater policy now result.timeValidationResults revokedStatusList then
      pure ⟨⟨pol, .PASSED, some "Certificate revoked after trusted timestamp time"⟩,
        .ERROR_SIGNER_INVALID⟩
    else pure ⟨⟨pol, .FAILED, some "Certificate revoked"⟩, .ERROR_SIGNER_INVALID⟩
  else
    match result.exception with
    | some ex => pure ⟨⟨pol, .FAILED, some ex.msg⟩, .ERROR_INVALID_SIGNATURE⟩
    | none => pure ⟨⟨pol, .PASSED, some "OK"⟩, .SUCCESS⟩

/-- `performAdditionalValidityChecks`. -/
def performAdditionalValidityChecks (policy : PkixPolicy) (now : Date)
    (result : ExtendedSigValResult Cert TS) : PolicyValidationResult :=
  match pathChecks policy now result with
  | .ok verdict => verdict
  | .error ex =>
      ⟨⟨policy.getValidationPolicy, .FAILED,
        some ("Unable to obtain path validation results: " ++ ex.msg)⟩, .ERROR_INVALID_SIGNATURE⟩

end PkixPolicy

/-! ## The abstract classes -/

/-- `validatePolicy` of the abstract XML and JOSE classes. -/
def basicValidatePolicy (pol : String)
    (performAdditionalValidityChecks : ExtendedSigValResult Cert TS → PolicyValidationResult)
    (result : ExtendedSigValResult Cert TS) : PolicyValidationResult :=
  let noPath : PolicyValidationResult :=
    ⟨⟨pol, .INDETERMINATE, some "No certificate path found to a trusted root"⟩,
      .ERROR_NOT_TRUSTED⟩
  let failed : PolicyValidationResult := ⟨⟨pol, .FAILED, result.statusMessage⟩, result.status⟩
  match result.status with
  | .ERROR_NOT_TRUSTED => noPath
  | .ERROR_INVALID_SIGNATURE => failed
  | .ERROR_SIGNER_INVALID => failed
  | .ERROR_SIGNER_NOT_ACCEPTED => failed
  | .ERROR_BAD_FORMAT => failed
  | .SUCCESS | .INTERDETERMINE =>
      if result.pathOf.isEmpty then noPath else performAdditionalValidityChecks result

/-- `PkixXmlSignaturePolicyValidator.validatePolicy`. -/
def PkixXmlSignaturePolicyValidator.validatePolicy (policy : PkixPolicy) (now : Date)
    (result : ExtendedSigValResult Cert TS) : PolicyValidationResult :=
  basicValidatePolicy policy.getValidationPolicy
    (policy.performAdditionalValidityChecks now) result

/-- `PkixJOSESignaturePolicyValidator.validatePolicy`. -/
def PkixJOSESignaturePolicyValidator.validatePolicy (policy : PkixPolicy) (now : Date)
    (result : ExtendedSigValResult Cert TS) : PolicyValidationResult :=
  basicValidatePolicy policy.getValidationPolicy
    (policy.performAdditionalValidityChecks now) result

/-- `PkixPdfSignaturePolicyValidator.validatePolicy`, with the abstract class of
PDF. `extendedByNonSafeUpdates` is the answer of the signature context, which may
throw. -/
def PkixPdfSignaturePolicyValidator.validatePolicy (policy : PkixPolicy) (now : Date)
    (extendedByNonSafeUpdates : Outcome Bool) (result : ExtendedSigValResult Cert TS) :
    Outcome PolicyValidationResult := do
  let pol := policy.getValidationPolicy
  if !result.isSuccess then
    pure ⟨⟨pol, .FAILED, result.statusMessage⟩, .ERROR_INVALID_SIGNATURE⟩
  else if ← extendedByNonSafeUpdates then
    pure ⟨⟨pol, .FAILED, some "Document content was altered after signing"⟩,
      .ERROR_INVALID_SIGNATURE⟩
  else if result.pathOf.isEmpty then
    pure ⟨⟨pol, .INDETERMINATE, some "No valid certificate path was found"⟩, .ERROR_NOT_TRUSTED⟩
  else pure (policy.performAdditionalValidityChecks now result)

/-! ## When the policy passes -/

namespace PkixPolicy

variable {policy : PkixPolicy} {now : Date} {result : ExtendedSigValResult Cert TS}

/-- Every revoked status was revoked late enough after the first timestamp. -/
def RevocationsTolerated (policy : PkixPolicy) (now : Date)
    (timeValidationResults : Option (List (TimeValidationResult Cert TS)))
    (statuses : List (ValidationStatus Cert)) : Prop :=
  ∀ status ∈ statuses, status.validity = .REVOKED →
    checkRevocationTime policy now status timeValidationResults = .ok true

/-- Every status says valid or revoked. -/
def Decided (statuses : List (ValidationStatus Cert)) : Prop :=
  ∀ status ∈ statuses, status.validity = .VALID ∨ status.validity = .REVOKED

/-- What the PKIX policy asks of a list of statuses: they are decided, and
either revocations are looked at and tolerated, or no exception is recorded. The
signature of a status is not looked at. -/
structure Accepts (policy : PkixPolicy) (now : Date)
    (timeValidationResults : Option (List (TimeValidationResult Cert TS)))
    (exception : Option Exn) (statuses : List (ValidationStatus Cert)) : Prop where
  decided : Decided statuses
  revocations :
    (policy.enforceCurrentTimeValidation = false ∧
      (∃ status ∈ statuses, status.validity = .REVOKED) ∧
      RevocationsTolerated policy now timeValidationResults statuses) ∨
    ((policy.enforceCurrentTimeValidation = true ∨
      ∀ status ∈ statuses, status.validity ≠ .REVOKED) ∧ exception = none)

theorem revokedLater_iff {tvr : Option (List (TimeValidationResult Cert TS))}
    {statuses : List (ValidationStatus Cert)} :
    revokedLater policy now tvr statuses = .ok true ↔
      ∀ status ∈ statuses, checkRevocationTime policy now status tvr = .ok true := by
  induction statuses with
  | nil => simp [revokedLater]
  | cons status rest ih =>
      rw [revokedLater, bind_ok_iff, List.forall_mem_cons]
      constructor
      · rintro ⟨b, hb, h⟩
        cases b with
        | true => exact ⟨hb, ih.mp h⟩
        | false => cases h
      · rintro ⟨hb, hrest⟩
        exact ⟨true, hb, ih.mpr hrest⟩

theorem revokedLater_filter_iff {tvr : Option (List (TimeValidationResult Cert TS))}
    {statuses : List (ValidationStatus Cert)} :
    revokedLater policy now tvr (statuses.filter (·.validity == .REVOKED)) = .ok true ↔
      RevocationsTolerated policy now tvr statuses := by
  rw [revokedLater_iff]
  constructor
  · intro h status hmem hrev
    exact h status (List.mem_filter.mpr ⟨hmem, by simpa using hrev⟩)
  · intro h status hmem
    obtain ⟨hmem, hrev⟩ := List.mem_filter.mp hmem
    exact h status hmem (by simpa using hrev)

theorem decided_iff {statuses : List (ValidationStatus Cert)} :
    Decided statuses ↔ statuses.any (·.validity == .INVALID) = false ∧
      statuses.any (·.validity == .UNKNOWN) = false := by
  simp only [Decided, List.any_eq_false, beq_iff_eq]
  constructor
  · intro h
    constructor
    · intro status hmem heq
      rcases h status hmem with h | h <;> rw [heq] at h <;> cases h
    · intro status hmem heq
      rcases h status hmem with h | h <;> rw [heq] at h <;> cases h
  · rintro ⟨hinvalid, hunknown⟩ status hmem
    cases hval : status.validity with
    | VALID => exact .inl rfl
    | REVOKED => exact .inr rfl
    | INVALID => exact absurd hval (hinvalid status hmem)
    | UNKNOWN => exact absurd hval (hunknown status hmem)

theorem noneRevoked_iff {statuses : List (ValidationStatus Cert)} :
    (statuses.filter (·.validity == .REVOKED)).isEmpty = true ↔
      ∀ status ∈ statuses, status.validity ≠ .REVOKED := by
  simp [List.isEmpty_iff, List.filter_eq_nil_iff]

/-- The policy looks at revocations: they are not enforced, and there are some. -/
def LooksAtRevocations (policy : PkixPolicy) (statuses : List (ValidationStatus Cert)) : Prop :=
  policy.enforceCurrentTimeValidation = false ∧ ∃ status ∈ statuses, status.validity = .REVOKED

theorem looksAtRevocations_iff {statuses : List (ValidationStatus Cert)} :
    policy.LooksAtRevocations statuses ↔
      (!policy.enforceCurrentTimeValidation &&
        !(statuses.filter (·.validity == .REVOKED)).isEmpty) = true := by
  have hsome : (∃ status ∈ statuses, status.validity = .REVOKED) ↔
      ¬ (statuses.filter (·.validity == .REVOKED)).isEmpty = true := by
    rw [noneRevoked_iff]
    constructor
    · rintro ⟨status, hmem, hrev⟩ hnone
      exact hnone status hmem hrev
    · intro h
      by_contra hnot
      exact h fun status hmem hrev => hnot ⟨status, hmem, hrev⟩
  unfold LooksAtRevocations
  rw [hsome]
  simp

theorem accepts_iff_tolerated {tvr : Option (List (TimeValidationResult Cert TS))}
    {exception : Option Exn} {statuses : List (ValidationStatus Cert)} (hdec : Decided statuses)
    (hlook : policy.LooksAtRevocations statuses) :
    Accepts policy now tvr exception statuses ↔ RevocationsTolerated policy now tvr statuses := by
  obtain ⟨henf, status, hmem, hrev⟩ := hlook
  constructor
  · rintro ⟨-, ⟨-, -, htol⟩ | ⟨htrue | hnone, -⟩⟩
    · exact htol
    · rw [henf] at htrue
      cases htrue
    · exact absurd hrev (hnone status hmem)
  · intro htol
    exact ⟨hdec, .inl ⟨henf, ⟨status, hmem, hrev⟩, htol⟩⟩

theorem accepts_iff_no_exception {tvr : Option (List (TimeValidationResult Cert TS))}
    {exception : Option Exn} {statuses : List (ValidationStatus Cert)} (hdec : Decided statuses)
    (hlook : ¬ policy.LooksAtRevocations statuses) :
    Accepts policy now tvr exception statuses ↔ exception = none := by
  constructor
  · rintro ⟨-, ⟨henf, hsome, -⟩ | ⟨-, hnone⟩⟩
    · exact absurd ⟨henf, hsome⟩ hlook
    · exact hnone
  · intro hnone
    refine ⟨hdec, .inr ⟨?_, hnone⟩⟩
    cases henf : policy.enforceCurrentTimeValidation with
    | true => exact .inl rfl
    | false => exact .inr fun status hmem hrev => hlook ⟨henf, status, hmem, hrev⟩

/-- The verdict on a list of statuses is passed exactly when the policy accepts
it. -/
theorem pathChecks_passed_iff {r : PathValidationResult Cert}
    {statuses : List (ValidationStatus Cert)}
    (hcert : result.certificateValidationResult = some (.pathValidation r))
    (hlist : r.validationStatusList = some statuses) :
    (∃ verdict, pathChecks policy now result = .ok verdict ∧
        verdict.policyValidationClaims.res = .PASSED) ↔
      Accepts policy now result.timeValidationResults result.exception statuses := by
  unfold pathChecks
  simp only [hcert, castPathValidationResult, hlist, deref, bind, Except.bind]
  by_cases hdec : Decided statuses
  · obtain ⟨hinvalid, hunknown⟩ := decided_iff.mp hdec
    simp only [hinvalid, hunknown, Bool.false_eq_true, if_false]
    by_cases hlook : policy.LooksAtRevocations statuses
    · -- revocations are looked at, and decide
      rw [accepts_iff_tolerated hdec hlook, ← revokedLater_filter_iff,
        if_pos (looksAtRevocations_iff.mp hlook)]
      cases revokedLater policy now result.timeValidationResults
        (statuses.filter (·.validity == .REVOKED)) with
      | error ex => simp
      | ok b =>
          cases b with
          | true => simp [pure, Except.pure]
          | false => simp [pure, Except.pure]
    · rw [accepts_iff_no_exception hdec hlook, if_neg (mt looksAtRevocations_iff.mpr hlook)]
      cases result.exception with
      | some ex => simp [pure, Except.pure]
      | none => simp [pure, Except.pure]
  · constructor
    · rintro ⟨verdict, hverdict, hpassed⟩
      by_cases hinvalid : statuses.any (·.validity == .INVALID) = true
      · simp only [hinvalid, if_true, pure, Except.pure, Except.ok.injEq] at hverdict
        subst hverdict
        cases hpassed
      · by_cases hunknown : statuses.any (·.validity == .UNKNOWN) = true
        · simp only [hinvalid, hunknown, if_true, Bool.false_eq_true, if_false, pure, Except.pure,
            Except.ok.injEq] at hverdict
          subst hverdict
          cases hpassed
        · exact absurd (decided_iff.mpr ⟨by simpa using hinvalid, by simpa using hunknown⟩) hdec
    · intro h
      exact absurd h.decided hdec

/-- **The verdict of the PKIX policy.** It passes exactly on a path validation
result with a status list it accepts. -/
theorem performAdditionalValidityChecks_passed_iff :
    (policy.performAdditionalValidityChecks now result).policyValidationClaims.res = .PASSED ↔
      ∃ r statuses, result.certificateValidationResult = some (.pathValidation r) ∧
        r.validationStatusList = some statuses ∧
        Accepts policy now result.timeValidationResults result.exception statuses := by
  have hverdict :
      (policy.performAdditionalValidityChecks now result).policyValidationClaims.res = .PASSED ↔
        ∃ verdict, pathChecks policy now result = .ok verdict ∧
          verdict.policyValidationClaims.res = .PASSED := by
    unfold performAdditionalValidityChecks
    cases pathChecks policy now result with
    | ok verdict => simp
    | error ex => simp
  rw [hverdict]
  constructor
  · rintro ⟨verdict, hok, hpassed⟩
    have hok' := hok
    unfold pathChecks at hok'
    obtain ⟨r, hr, hok'⟩ := bind_ok_iff.mp hok'
    obtain ⟨statuses, hlist, -⟩ := bind_ok_iff.mp hok'
    rw [deref_ok_iff] at hlist
    have hcert : result.certificateValidationResult = some (.pathValidation r) := by
      unfold castPathValidationResult at hr
      split at hr
      · rename_i h
        cases hr
        exact h
      · cases hr
      · cases hr
    exact ⟨r, statuses, hcert, hlist,
      (pathChecks_passed_iff hcert hlist).mp ⟨verdict, hok, hpassed⟩⟩
  · rintro ⟨r, statuses, hcert, hlist, hacc⟩
    exact (pathChecks_passed_iff hcert hlist).mpr hacc

/-- A verdict that did not pass does not say success. -/
theorem performAdditionalValidityChecks_status
    (h : (policy.performAdditionalValidityChecks now result).policyValidationClaims.res ≠ .PASSED) :
    (policy.performAdditionalValidityChecks now result).status ≠ .SUCCESS := by
  unfold performAdditionalValidityChecks at h ⊢
  cases hchecks : pathChecks policy now result with
  | error ex => simp
  | ok verdict =>
      rw [hchecks] at h
      unfold pathChecks at hchecks
      obtain ⟨r, -, hchecks⟩ := bind_ok_iff.mp hchecks
      obtain ⟨statuses, -, hchecks⟩ := bind_ok_iff.mp hchecks
      dsimp only at hchecks h ⊢
      split at hchecks
      · cases hchecks
        simp
      · split at hchecks
        · cases hchecks
          simp
        · split at hchecks
          · obtain ⟨later, -, hchecks⟩ := bind_ok_iff.mp hchecks
            split at hchecks
            · cases hchecks
              simp
            · cases hchecks
              simp
          · split at hchecks
            · cases hchecks
              simp
            · cases hchecks
              exact absurd rfl h

/-- The status of a success after the verdict: it stays one exactly when the policy
passes. -/
theorem success_after_checks_iff :
    (if (policy.performAdditionalValidityChecks now result).policyValidationClaims.res = .PASSED
      then Status.SUCCESS
      else (policy.performAdditionalValidityChecks now result).status) = .SUCCESS ↔
      (policy.performAdditionalValidityChecks now result).policyValidationClaims.res = .PASSED := by
  constructor
  · intro h
    by_contra hnot
    rw [if_neg hnot] at h
    exact performAdditionalValidityChecks_status hnot h
  · intro h
    rw [if_pos h]

end PkixPolicy

/-! ## When a result stays a success -/

section Success

variable {policy : PkixPolicy} {now : Date} {result : ExtendedSigValResult Cert TS}

/-- The result says success, has a path, and the policy accepts its statuses. -/
structure Passes (policy : PkixPolicy) (now : Date) (result : ExtendedSigValResult Cert TS)
    (r : PathValidationResult Cert) (statuses : List (ValidationStatus Cert)) : Prop where
  status : result.status = .SUCCESS
  certificateValidationResult : result.certificateValidationResult = some (.pathValidation r)
  path : ∃ path, r.validatedCertificatePath = some path ∧ path ≠ []
  validationStatusList : r.validationStatusList = some statuses
  accepts : policy.Accepts now result.timeValidationResults result.exception statuses

theorem passes_iff :
    (∃ r statuses, Passes policy now result r statuses) ↔
      result.status = .SUCCESS ∧ result.pathOf.isEmpty = false ∧
        (policy.performAdditionalValidityChecks now result).policyValidationClaims.res =
          .PASSED := by
  rw [PkixPolicy.performAdditionalValidityChecks_passed_iff]
  constructor
  · rintro ⟨r, statuses, hstatus, hcert, ⟨path, hpath, hne⟩, hlist, hacc⟩
    refine ⟨hstatus, ?_, r, statuses, hcert, hlist, hacc⟩
    simp [ExtendedSigValResult.pathOf, hcert,
      CertificateValidationResult.getValidatedCertificatePath, hpath, hne]
  · rintro ⟨hstatus, hne, r, statuses, hcert, hlist, hacc⟩
    refine ⟨r, statuses, hstatus, hcert, ?_, hlist, hacc⟩
    cases hpath : r.validatedCertificatePath with
    | none =>
        simp [ExtendedSigValResult.pathOf, hcert,
          CertificateValidationResult.getValidatedCertificatePath, hpath] at hne
    | some path =>
        refine ⟨path, rfl, ?_⟩
        simpa [ExtendedSigValResult.pathOf, hcert,
          CertificateValidationResult.getValidatedCertificatePath, hpath] using hne

/-- After the XML and JOSE policy a result is a success exactly when it
passes. -/
theorem takePolicyResult_success_iff :
    (result.takePolicyResult
        (basicValidatePolicy policy.getValidationPolicy
          (policy.performAdditionalValidityChecks now) result)).status = .SUCCESS ↔
      ∃ r statuses, Passes policy now result r statuses := by
  rw [passes_iff, ExtendedSigValResult.takePolicyResult_status]
  unfold basicValidatePolicy
  -- only the two statuses without error reach the path
  cases hstatus : result.status <;> simp only [reduceCtorEq, false_and, true_and,
    if_false]
  case SUCCESS =>
    cases hpath : result.pathOf.isEmpty with
    | true => simp
    | false =>
        simp only [Bool.false_eq_true, if_false, true_and]
        exact PkixPolicy.success_after_checks_iff
  case INTERDETERMINE =>
    cases hpath : result.pathOf.isEmpty with
    | true => simp
    | false =>
        simp only [Bool.false_eq_true, if_false, iff_false]
        split
        · simp
        · rename_i hnot
          exact PkixPolicy.performAdditionalValidityChecks_status hnot

/-- The same for PDF, where the document must not have been altered after
signing either. -/
theorem takePdfPolicyResult_success_iff {extendedByNonSafeUpdates : Outcome Bool} :
    (∃ verdict,
        PkixPdfSignaturePolicyValidator.validatePolicy policy now extendedByNonSafeUpdates result =
          .ok verdict ∧ (result.takePolicyResult verdict).status = .SUCCESS) ↔
      extendedByNonSafeUpdates = .ok false ∧ ∃ r statuses, Passes policy now result r statuses := by
  rw [passes_iff]
  unfold PkixPdfSignaturePolicyValidator.validatePolicy
  simp only [ExtendedSigValResult.takePolicyResult_status, ExtendedSigValResult.isSuccess]
  by_cases hstatus : result.status = .SUCCESS
  · simp only [hstatus, beq_self_eq_true, Bool.not_true, Bool.false_eq_true, if_false, true_and]
    cases extendedByNonSafeUpdates with
    | error ex => simp [bind, Except.bind]
    | ok altered =>
        cases altered with
        | true => simp [bind, Except.bind, pure, Except.pure]
        | false =>
            cases hpath : result.pathOf.isEmpty with
            | true => simp [bind, Except.bind, pure, Except.pure]
            | false =>
                simp only [bind, Except.bind, pure, Except.pure, Bool.false_eq_true, if_false,
                  Except.ok.injEq, exists_eq_left', true_and]
                exact PkixPolicy.success_after_checks_iff
  · have hne : (result.status == Status.SUCCESS) = false := by simpa using hstatus
    simp [hstatus, hne, pure, Except.pure]

end Success

end SigVal.Policy
