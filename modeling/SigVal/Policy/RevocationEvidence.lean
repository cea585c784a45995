import Mathlib.Data.Int.Order.Basic
import SigVal.Policy.PkixPolicy

/-!
# Revocations and timestamp evidence

Without enforced current time a revoked certificate is let through when the signature is known
to have existed early enough before the revocation. The earliest known date starts from the
current time and not from a timestamp, so a revocation that lies far enough in the future is
let through without one; the sum with the grace period is a `long`; and a result without
timestamp object hides the timestamps of the others behind an exception.
-/

namespace SigVal.Policy

open SigVal.Java SigVal.Cert SigVal.Commons

variable {Cert TS : Type} [IsTimeStamp TS Cert]

namespace PkixPolicy

/-! ## What the checks compute -/

/-- The timestamps that count, where every result has one. -/
def verifiedStamps (results : List (TimeValidationResult Cert TS)) : List (TimeStamp Cert) :=
  ((results.filterMap (·.timeStamp)).map IsTimeStamp.toTimeStamp).filter
    (·.hasVerifiedTimestamp)

def genTimeOf (timeStamp : TimeStamp Cert) : Option Date := timeStamp.tstInfo.bind (·.genTime)

/-- The earliest of the current time and the verified times. -/
def earliest (now : Date) (results : List (TimeValidationResult Cert TS)) : Date :=
  ((verifiedStamps results).filterMap genTimeOf).foldl min now

/-- Every result has a timestamp object, and every verified one its content. -/
structure Readable (results : List (TimeValidationResult Cert TS)) : Prop where
  timeStamp : ∀ result ∈ results, ∃ timeStamp, result.timeStamp = some timeStamp
  tstInfo : ∀ timeStamp ∈ verifiedStamps results, ∃ info, timeStamp.tstInfo = some info

theorem validTimestamps_ok_iff {results : List (TimeValidationResult Cert TS)}
    {timeStamps : List (TimeStamp Cert)} :
    validTimestamps results = .ok timeStamps ↔
      (∀ result ∈ results, ∃ timeStamp, result.timeStamp = some timeStamp) ∧
        timeStamps = verifiedStamps results := by
  unfold validTimestamps
  simp only [bind_ok_iff, mapM_deref_ok_iff]
  constructor
  · rintro ⟨_, ⟨hall, rfl⟩, h⟩
    cases h
    exact ⟨hall, rfl⟩
  · rintro ⟨hall, rfl⟩
    exact ⟨_, ⟨hall, rfl⟩, rfl⟩

theorem firstDate_ok_iff {timeStamps : List (TimeStamp Cert)} : ∀ {now first : Date},
    firstDate now timeStamps = .ok first ↔
      (∀ timeStamp ∈ timeStamps, ∃ info, timeStamp.tstInfo = some info) ∧
        first = (timeStamps.filterMap genTimeOf).foldl min now := by
  induction timeStamps with
  | nil => simp [firstDate, eq_comm]
  | cons timeStamp rest ih =>
      intro now first
      rw [firstDate, bind_ok_iff, List.forall_mem_cons, List.filterMap_cons]
      simp only [deref_ok_iff]
      cases hinfo : timeStamp.tstInfo with
      | none => simp
      | some info =>
          cases htime : info.genTime with
          | none => simp [genTimeOf, hinfo, htime, ih]
          | some tsDate =>
              have hmin : (if tsDate < now then tsDate else now) = min now tsDate := by
                rw [min_comm, min_def_lt]
              simp [genTimeOf, hinfo, htime, ih, hmin]

/-- A revocation is late enough, as it is computed. -/
theorem checkRevocationTime_true_iff {policy : PkixPolicy} {now : Date}
    {status : ValidationStatus Cert} {tvr : Option (List (TimeValidationResult Cert TS))} :
    checkRevocationTime policy now status tvr = .ok true ↔
      ∃ results revocationTime, tvr = some results ∧
        status.revocationTime = some revocationTime ∧ Readable results ∧
        toLong (earliest now results + policy.revocationGracePeriod) < revocationTime := by
  unfold checkRevocationTime
  split
  · simp
  · rename_i hnone
    simp [hnone]
  · rename_i results revocationTime htime
    simp only [bind_ok_iff, validTimestamps_ok_iff, firstDate_ok_iff]
    constructor
    · rintro ⟨_, ⟨hall, rfl⟩, _, ⟨hinfo, rfl⟩, h⟩
      exact ⟨results, revocationTime, rfl, htime, ⟨hall, hinfo⟩,
        of_decide_eq_true (Except.ok.inj h)⟩
    · rintro ⟨_, _, ⟨⟩, htime', ⟨hall, hinfo⟩, hlater⟩
      rw [htime] at htime'
      cases htime'
      exact ⟨_, ⟨hall, rfl⟩, _, ⟨hinfo, rfl⟩, congrArg Except.ok (decide_eq_true hlater)⟩

/-! ## What they should say -/

/-- A verified timestamp of the results whose time, with the grace period, lies before the
revocation. -/
def StampedBefore (grace : Int) (results : List (TimeValidationResult Cert TS))
    (revocationTime : Date) : Prop :=
  ∃ result ∈ results, ∃ timeStamp info time, result.timeStamp = some timeStamp ∧
    (IsTimeStamp.toTimeStamp timeStamp).hasVerifiedTimestamp = true ∧
    (IsTimeStamp.toTimeStamp timeStamp).tstInfo = some info ∧ info.genTime = some time ∧
    time + grace < revocationTime

/-- Every revocation has a time, and is later than a verified timestamp by more than the
grace period. -/
def Evidenced (policy : PkixPolicy) (tvr : Option (List (TimeValidationResult Cert TS)))
    (statuses : List (ValidationStatus Cert)) : Prop :=
  ∀ status ∈ statuses, status.validity = .REVOKED →
    ∃ results revocationTime, tvr = some results ∧
      status.revocationTime = some revocationTime ∧
      StampedBefore policy.revocationGracePeriod results revocationTime

/-- With evidence the results can be read, and without it some revocation is refused as well
on the earliest known date, be that the current time. -/
structure JudgedOnEvidence (policy : PkixPolicy) (now : Date)
    (tvr : Option (List (TimeValidationResult Cert TS)))
    (statuses : List (ValidationStatus Cert)) : Prop where
  readable : Evidenced policy tvr statuses → ∀ results, tvr = some results → Readable results
  refused : ¬ Evidenced policy tvr statuses → ∀ results, tvr = some results →
    Readable results → ∃ status ∈ statuses, status.validity = .REVOKED ∧
      ∀ revocationTime, status.revocationTime = some revocationTime →
        revocationTime ≤ toLong (earliest now results + policy.revocationGracePeriod)

/-- A 64-bit integer. -/
def IsLong (x : Int) : Prop := -2 ^ 63 ≤ x ∧ x < 2 ^ 63

instance (x : Int) : Decidable (IsLong x) := inferInstanceAs (Decidable (_ ∧ _))

/-- The dates at hand are `long`s, as every `Date` is. -/
structure LongDates (now : Date) (tvr : Option (List (TimeValidationResult Cert TS)))
    (statuses : List (ValidationStatus Cert)) : Prop where
  now : IsLong now
  genTime : ∀ results, tvr = some results →
    ∀ time ∈ (verifiedStamps results).filterMap genTimeOf, IsLong time
  revocationTime : ∀ status ∈ statuses, ∀ revocationTime,
    status.revocationTime = some revocationTime → IsLong revocationTime

theorem mem_verifiedTimes_iff {results : List (TimeValidationResult Cert TS)} {time : Date} :
    time ∈ (verifiedStamps results).filterMap genTimeOf ↔
      ∃ result ∈ results, ∃ timeStamp info, result.timeStamp = some timeStamp ∧
        (IsTimeStamp.toTimeStamp timeStamp).hasVerifiedTimestamp = true ∧
        (IsTimeStamp.toTimeStamp timeStamp).tstInfo = some info ∧ info.genTime = some time := by
  unfold verifiedStamps genTimeOf
  simp only [List.mem_filterMap, List.mem_filter, List.mem_map, Option.bind_eq_some_iff]
  constructor
  · rintro ⟨_, ⟨⟨timeStamp, ⟨result, hmem, hts⟩, rfl⟩, hverified⟩, info, hinfo, htime⟩
    exact ⟨result, hmem, timeStamp, info, hts, hverified, hinfo, htime⟩
  · rintro ⟨result, hmem, timeStamp, info, hts, hverified, hinfo, htime⟩
    exact ⟨_, ⟨⟨timeStamp, ⟨result, hmem, hts⟩, rfl⟩, hverified⟩, info, hinfo, htime⟩

theorem stampedBefore_iff {grace : Int} {results : List (TimeValidationResult Cert TS)}
    {revocationTime : Date} :
    StampedBefore grace results revocationTime ↔
      ∃ time ∈ (verifiedStamps results).filterMap genTimeOf, time + grace < revocationTime := by
  simp only [mem_verifiedTimes_iff]
  constructor
  · rintro ⟨result, hmem, timeStamp, info, time, hts, hverified, hinfo, htime, hlater⟩
    exact ⟨time, ⟨result, hmem, timeStamp, info, hts, hverified, hinfo, htime⟩, hlater⟩
  · rintro ⟨time, ⟨result, hmem, timeStamp, info, hts, hverified, hinfo, htime⟩, hlater⟩
    exact ⟨result, hmem, timeStamp, info, time, hts, hverified, hinfo, htime, hlater⟩

/-- What the loop over the dates ends with is the least of them. -/
theorem foldl_min_least (now : Int) (l : List Int) :
    l.foldl min now ∈ now :: l ∧ ∀ time ∈ now :: l, l.foldl min now ≤ time :=
  List.min?_eq_some_iff.mp List.min?_cons'

theorem toLong_of_isLong {x : Int} (h : IsLong x) : toLong x = x := by
  unfold toLong
  obtain ⟨hlow, hhigh⟩ := h
  apply Int.bmod_eq_of_le
  · omega
  · omega

/-- A sum that lies below a `long` does not wrap around. -/
theorem toLong_add_lt {first time grace revocationTime : Int} (hlow : -2 ^ 63 ≤ first)
    (hle : first ≤ time) (hgrace : 0 ≤ grace) (hhigh : revocationTime < 2 ^ 63)
    (hlater : time + grace < revocationTime) : toLong (first + grace) < revocationTime := by
  have hlong : IsLong (first + grace) := by
    constructor
    · omega
    · omega
  rw [toLong_of_isLong hlong]
  omega

/-- A timestamp that comes early enough makes the computed date early enough. -/
theorem earliest_of_stampedBefore {policy : PkixPolicy} {now : Date}
    {results : List (TimeValidationResult Cert TS)} {statuses : List (ValidationStatus Cert)}
    (hgrace : 0 ≤ policy.revocationGracePeriod) (hdates : LongDates now (some results) statuses)
    {revocationTime : Date} (hrevocation : IsLong revocationTime)
    (h : StampedBefore policy.revocationGracePeriod results revocationTime) :
    toLong (earliest now results + policy.revocationGracePeriod) < revocationTime := by
  obtain ⟨time, hmem, hlater⟩ := stampedBefore_iff.mp h
  obtain ⟨hleast, hle⟩ := foldl_min_least now ((verifiedStamps results).filterMap genTimeOf)
  have hlow : -2 ^ 63 ≤ earliest now results := by
    rcases List.mem_cons.mp hleast with heq | hstamp
    · rw [earliest, heq]
      exact hdates.now.1
    · exact (hdates.genTime results rfl _ hstamp).1
  exact toLong_add_lt hlow (hle time (List.mem_cons_of_mem now hmem)) hgrace hrevocation.2 hlater

/-- What the policy is asked about: revocations of a decided path, without enforced current
time and with a grace period that is not negative. -/
structure RevokedPath (policy : PkixPolicy) (now : Date) (result : ExtendedSigValResult Cert TS)
    (statuses : List (ValidationStatus Cert)) : Prop where
  notEnforced : policy.enforceCurrentTimeValidation = false
  grace : 0 ≤ policy.revocationGracePeriod
  path : ∃ r, result.certificateValidationResult = some (.pathValidation r) ∧
    r.validationStatusList = some statuses
  decided : Decided statuses
  revoked : ∃ status ∈ statuses, status.validity = .REVOKED
  dates : LongDates now result.timeValidationResults statuses

section Judgement

variable {policy : PkixPolicy} {now : Date} {result : ExtendedSigValResult Cert TS}
  {statuses : List (ValidationStatus Cert)}

/-- What passes is what the checks tolerate. -/
theorem RevokedPath.passed_iff (h : RevokedPath policy now result statuses) :
    (policy.performAdditionalValidityChecks now result).policyValidationClaims.res = .PASSED ↔
      RevocationsTolerated policy now result.timeValidationResults statuses := by
  rw [performAdditionalValidityChecks_passed_iff,
    ← accepts_iff_tolerated h.decided ⟨h.notEnforced, h.revoked⟩]
  obtain ⟨r, hcert, hlist⟩ := h.path
  constructor
  · rintro ⟨r', statuses', hcert', hlist', haccepts⟩
    rw [hcert] at hcert'
    cases hcert'
    rw [hlist] at hlist'
    cases hlist'
    exact haccepts
  · intro haccepts
    exact ⟨r, statuses, hcert, hlist, haccepts⟩

/-- The checks agree with the evidence exactly where they are judged on it. -/
theorem RevokedPath.judged_iff (h : RevokedPath policy now result statuses) :
    ((policy.performAdditionalValidityChecks now result).policyValidationClaims.res = .PASSED ↔
        Evidenced policy result.timeValidationResults statuses) ↔
      JudgedOnEvidence policy now result.timeValidationResults statuses := by
  rw [h.passed_iff]
  obtain ⟨revoked, hrevoked, hvalidity⟩ := h.revoked
  constructor
  · intro hiff
    refine ⟨?_, ?_⟩
    · intro hevidence results hresults
      obtain ⟨_, _, hresults', -, hreadable, -⟩ :=
        checkRevocationTime_true_iff.mp (hiff.mpr hevidence revoked hrevoked hvalidity)
      rw [hresults] at hresults'
      cases hresults'
      exact hreadable
    · intro hnot results hresults hreadable
      by_contra hnone
      push Not at hnone
      refine hnot (hiff.mp ?_)
      intro status hmem hrev
      obtain ⟨revocationTime, htime, hlater⟩ := hnone status hmem hrev
      exact checkRevocationTime_true_iff.mpr
        ⟨results, revocationTime, hresults, htime, hreadable, hlater⟩
  · intro hjudged
    constructor
    · intro htolerated
      by_contra hnot
      obtain ⟨results, _, hresults, -, hreadable, -⟩ :=
        checkRevocationTime_true_iff.mp (htolerated revoked hrevoked hvalidity)
      obtain ⟨status, hmem, hrev, hearly⟩ := hjudged.refused hnot results hresults hreadable
      obtain ⟨results', revocationTime, hresults', htime, -, hlater⟩ :=
        checkRevocationTime_true_iff.mp (htolerated status hmem hrev)
      rw [hresults] at hresults'
      cases hresults'
      exact Int.not_lt.mpr (hearly revocationTime htime) hlater
    · intro hevidence status hmem hrev
      obtain ⟨results, revocationTime, hresults, htime, hstamped⟩ := hevidence status hmem hrev
      have hdates := h.dates
      rw [hresults] at hdates
      exact checkRevocationTime_true_iff.mpr ⟨results, revocationTime, hresults, htime,
        hjudged.readable hevidence results hresults,
        earliest_of_stampedBefore h.grace hdates
          (hdates.revocationTime status hmem revocationTime htime) hstamped⟩

end Judgement

end PkixPolicy

open PkixPolicy

section Formats

variable {policy : PkixPolicy} {now : Date} {result : ExtendedSigValResult Cert TS}
  {statuses : List (ValidationStatus Cert)}

/-- **Revoked certificates and timestamp evidence.** Where the basic checks of a format leave
the decision to the certificate path, its policy passes on evidence exactly where the checks
are judged on it. -/
theorem revoked_passed_iff (h : RevokedPath policy now result statuses)
    (hstatus : result.status = .SUCCESS ∨ result.status = .INTERDETERMINE)
    (hpath : result.pathOf.isEmpty = false) :
    (((PkixXmlSignaturePolicyValidator.validatePolicy policy now
          result).policyValidationClaims.res = .PASSED ↔
        Evidenced policy result.timeValidationResults statuses) ↔
      JudgedOnEvidence policy now result.timeValidationResults statuses) ∧
    (((PkixJOSESignaturePolicyValidator.validatePolicy policy now
          result).policyValidationClaims.res = .PASSED ↔
        Evidenced policy result.timeValidationResults statuses) ↔
      JudgedOnEvidence policy now result.timeValidationResults statuses) ∧
    (result.status = .SUCCESS → ∃ verdict,
      PkixPdfSignaturePolicyValidator.validatePolicy policy now (.ok false) result =
        .ok verdict ∧
      ((verdict.policyValidationClaims.res = .PASSED ↔
          Evidenced policy result.timeValidationResults statuses) ↔
        JudgedOnEvidence policy now result.timeValidationResults statuses)) := by
  have hbasic : basicValidatePolicy policy.getValidationPolicy
      (policy.performAdditionalValidityChecks now) result =
        policy.performAdditionalValidityChecks now result := by
    unfold basicValidatePolicy
    rcases hstatus with hstatus | hstatus
    · simp [hstatus, hpath]
    · simp [hstatus, hpath]
  refine ⟨?_, ?_, ?_⟩
  · rw [PkixXmlSignaturePolicyValidator.validatePolicy, hbasic]
    exact h.judged_iff
  · rw [PkixJOSESignaturePolicyValidator.validatePolicy, hbasic]
    exact h.judged_iff
  · intro hsuccess
    refine ⟨policy.performAdditionalValidityChecks now result, ?_, h.judged_iff⟩
    simp [PkixPdfSignaturePolicyValidator.validatePolicy, ExtendedSigValResult.isSuccess, hsuccess,
      hpath, bind, Except.bind, pure, Except.pure]

end Formats

/-- A signature whose certificate is revoked at a time, with timestamps. -/
def revokedResult (revocationTime : Date)
    (times : List (TimeValidationResult Nat (TimeStamp Nat))) :
    ExtendedSigValResult Nat (TimeStamp Nat) where
  status := .SUCCESS
  certificateValidationResult := some (.pathValidation
    { validatedCertificatePath := some [1]
      validationStatusList := some
        [{ certificate := 1, validity := .REVOKED, revocationTime := some revocationTime }] })
  timeValidationResults := some times

/-- A verified timestamp of the time. -/
def stampOf (time : Date) : TimeValidationResult Nat (TimeStamp Nat) where
  timeValidationClaims := none
  certificateValidationResult := none
  timeStamp := some
    { sigValid := true, tstInfo := some ⟨"1a", some time, DigestAlgorithm.oidSHA256, [], none⟩ }

/-- The certificate was revoked more than a day after the timestamp. -/
theorem revokedResult_path :
    RevokedPath {} 100000 (revokedResult 200000000 [stampOf 1000])
      [{ certificate := 1, validity := .REVOKED, revocationTime := some 200000000 }] where
  notEnforced := rfl
  grace := by decide
  path := ⟨_, rfl, rfl⟩
  decided := by
    intro status hmem
    rw [List.mem_singleton.mp hmem]
    exact .inr rfl
  revoked := ⟨_, List.mem_cons_self, rfl⟩
  dates := by
    refine ⟨by decide, ?_, ?_⟩
    · intro results hresults time htime
      cases hresults
      obtain rfl : time = 1000 := by
        simpa [verifiedStamps, stampOf, genTimeOf, TimeStamp.hasVerifiedTimestamp,
          IsTimeStamp.toTimeStamp] using htime
      decide
    · intro status hmem revocationTime htime
      rw [List.mem_singleton.mp hmem] at htime
      cases htime
      decide

theorem revoked_passed_iff_stamped :
    (((PkixXmlSignaturePolicyValidator.validatePolicy {} 100000
          (revokedResult 200000000 [stampOf 1000])).policyValidationClaims.res = .PASSED ↔
        Evidenced {} (some [stampOf 1000])
          [{ certificate := 1, validity := .REVOKED, revocationTime := some 200000000 }]) ↔
      JudgedOnEvidence {} 100000 (some [stampOf 1000])
        [{ certificate := 1, validity := .REVOKED, revocationTime := some 200000000 }]) :=
  (revoked_passed_iff revokedResult_path (.inl rfl) rfl).1

/-- A revocation two days ahead passes without a timestamp. -/
theorem future_revocation_passes :
    (PkixXmlSignaturePolicyValidator.validatePolicy {} 0
      (revokedResult 172800000 [])).policyValidationClaims.res = .PASSED ∧
    (PkixJOSESignaturePolicyValidator.validatePolicy {} 0
      (revokedResult 172800000 [])).policyValidationClaims.res = .PASSED ∧
    (∃ verdict, PkixPdfSignaturePolicyValidator.validatePolicy {} 0 (.ok false)
      (revokedResult 172800000 []) = .ok verdict ∧
        verdict.policyValidationClaims.res = .PASSED) ∧
    ¬ Evidenced {} (revokedResult 172800000 []).timeValidationResults
      [{ certificate := 1, validity := .REVOKED, revocationTime := some 172800000 }] := by
  refine ⟨rfl, rfl, ⟨_, rfl, rfl⟩, ?_⟩
  intro hevidence
  obtain ⟨results, revocationTime, hresults, -, result, hmem, -⟩ :=
    hevidence _ List.mem_cons_self rfl
  cases hresults
  cases hmem

end SigVal.Policy
