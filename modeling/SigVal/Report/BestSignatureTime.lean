import SigVal.Lib.StableSort
import SigVal.Report.References

/-!
# The best signature time

`getBestSignatureTime` sorts the time validation results that passed and takes the first
one. The comparator casts the difference of two times to `int`, which compares them around
a circle of some 136 years: the earliest time comes first where all times lie in one half of
it. The time in milliseconds is a `long` again, and the proof that is referred to is the
one of the result that was taken.
-/

namespace SigVal.Report

open SigVal.Java SigVal.Commons ValidationObjectProcessor

variable {Cert : Type}

namespace AbstractSigValReportGenerator

/-- `getBestSignatureTime`, with the sort the library happens to have. -/
def getBestSignatureTimeBy (library : StableSort) (env : ReportEnv Cert)
    (sigValResult : SigValResult Cert) (hashAlgoId : Option String) : Outcome POE := do
  let valid ← validTimes (sigValResult.timeValidationResults.getD [])
  let sorted ← library.sort compareTimes valid
  match sorted.head? with
  | none => pure ⟨env.now, none⟩
  | some timeValidationResult => do
      let time ← getTime timeValidationResult
      pure ⟨toLong (time * 1000), getTimeId env.toObjectEnv timeValidationResult hashAlgoId⟩

theorem getBestSignatureTime_eq (env : ReportEnv Cert) (sigValResult : SigValResult Cert)
    (hashAlgoId : Option String) :
    getBestSignatureTime env sigValResult hashAlgoId =
      getBestSignatureTimeBy stableInsertionSort env sigValResult hashAlgoId := rfl

end AbstractSigValReportGenerator

open AbstractSigValReportGenerator

/-! ## What is promised -/

/-- One of the policy claims of the result is `PASSED`. -/
def hasPassed (t : Option (TimeValidationResult Cert)) : Bool :=
  (t.bind (·.timeValidationClaims)).any fun claims =>
    (claims.val.getD []).contains (some .PASSED)

/-- The time of the result in seconds. -/
def timeOf (t : Option (TimeValidationResult Cert)) : Int :=
  ((t.bind (·.timeValidationClaims)).map (·.time)).getD 0

/-- The results of a signature that passed. -/
def passedTimes (sigValResult : SigValResult Cert) : List (Option (TimeValidationResult Cert)) :=
  (sigValResult.timeValidationResults.getD []).filter hasPassed

/-- The least time of the results. -/
def IsEarliest (times : List (Option (TimeValidationResult Cert))) (time : Int) : Prop :=
  (∃ t ∈ times, timeOf t = time) ∧ ∀ t ∈ times, time ≤ timeOf t

/-- The reference is to the stored object of a result with this time, and is left out only
when none is stored. -/
def ProofOf (env : ReportEnv Cert) (hashAlgoId : Option String)
    (times : List (Option (TimeValidationResult Cert))) (time : Int) : Option String → Prop
  | some id => ∃ t ∈ times, timeOf t = time ∧ getTimeId env.toObjectEnv t hashAlgoId = some id
  | none => ∀ t ∈ times, timeOf t = time → getTimeId env.toObjectEnv t hashAlgoId = none

/-- The earliest time with its proof, or the current one when no result passed. -/
structure ReportsEarliest (env : ReportEnv Cert) (hashAlgoId : Option String)
    (times : List (Option (TimeValidationResult Cert))) (poe : POE) : Prop where
  current : times = [] → poe = ⟨env.now, none⟩
  earliest : ∀ time, IsEarliest times time →
    poe.poeTime = time * 1000 ∧ ProofOf env hashAlgoId times time poe.poeObject

/-- The method returns what is promised. -/
def ReturnsEarliest (library : StableSort) (env : ReportEnv Cert) (sigValResult : SigValResult Cert)
    (hashAlgoId : Option String) : Prop :=
  ∃ poe, getBestSignatureTimeBy library env sigValResult hashAlgoId = .ok poe ∧
    ReportsEarliest env hashAlgoId (passedTimes sigValResult) poe

/-! ## When it is kept -/

/-- The first result with this time, counted around the circle. -/
def firstAt (times : List (Option (TimeValidationResult Cert))) (time : Int) :
    Option (Option (TimeValidationResult Cert)) :=
  times.find? fun t => decide ((timeOf t - time) % 2 ^ 32 = 0)

/-- No `null` stands in the way. The times lie in the half of the circle that begins with
the earliest one, and the first result there has its milliseconds and its proof. -/
structure EarliestLeads (env : ReportEnv Cert) (sigValResult : SigValResult Cert)
    (hashAlgoId : Option String) : Prop where
  readable : ∀ t ∈ sigValResult.timeValidationResults.getD [], ∃ valid, isValidTime t = .ok valid
  ahead : ∀ time, IsEarliest (passedTimes sigValResult) time →
    ∀ t ∈ passedTimes sigValResult, Ahead time (timeOf t)
  leads : ∀ time, IsEarliest (passedTimes sigValResult) time →
    ∀ first, firstAt (passedTimes sigValResult) time = some first →
      toLong (timeOf first * 1000) = time * 1000 ∧
        ProofOf env hashAlgoId (passedTimes sigValResult) time
          (getTimeId env.toObjectEnv first hashAlgoId)

/-! ## The results that are sorted -/

theorem anyPassed_eq {val : List (Option ValidationConclusion)} {passed : Bool}
    (h : anyPassed val = .ok passed) : passed = val.contains (some .PASSED) := by
  induction val with
  | nil =>
      cases h
      rfl
  | cons first rest ih =>
      obtain ⟨res, hres, hstep⟩ := bind_ok_iff.mp h
      rw [deref_ok_iff] at hres
      subst hres
      by_cases hpassed : res = .PASSED
      · rw [if_pos hpassed] at hstep
        cases hstep
        rw [hpassed]
        simp
      · rw [if_neg hpassed] at hstep
        rw [ih hstep, List.contains_cons]
        have hne : (some ValidationConclusion.PASSED == some res) = false := by
          simpa using Ne.symm hpassed
        rw [hne, Bool.false_or]

theorem isValidTime_eq {t : Option (TimeValidationResult Cert)} {valid : Bool}
    (h : isValidTime t = .ok valid) : valid = hasPassed t := by
  obtain ⟨result, hresult, hstep⟩ := bind_ok_iff.mp h
  rw [deref_ok_iff] at hresult
  subst hresult
  unfold hasPassed
  cases hclaims : result.timeValidationClaims with
  | none =>
      rw [hclaims] at hstep
      cases hstep
      simp [hclaims]
  | some claims =>
      rw [hclaims] at hstep
      simpa [hclaims] using anyPassed_eq hstep

theorem validTimes_ok_iff {times valid : List (Option (TimeValidationResult Cert))} :
    validTimes times = .ok valid ↔
      (∀ t ∈ times, ∃ b, isValidTime t = .ok b) ∧ valid = times.filter hasPassed := by
  induction times generalizing valid with
  | nil => simp [validTimes, eq_comm]
  | cons t rest ih =>
      unfold validTimes
      simp only [bind_ok_iff, ih, List.forall_mem_cons]
      constructor
      · rintro ⟨b, hb, times, ⟨hrest, rfl⟩, h⟩
        cases h
        rw [List.filter_cons, ← isValidTime_eq hb]
        exact ⟨⟨⟨b, hb⟩, hrest⟩, rfl⟩
      · rintro ⟨⟨⟨b, hb⟩, hrest⟩, rfl⟩
        refine ⟨b, hb, _, ⟨hrest, rfl⟩, ?_⟩
        rw [List.filter_cons, ← isValidTime_eq hb]
        rfl

theorem getTime_of_passed {t : Option (TimeValidationResult Cert)} (h : hasPassed t = true) :
    getTime t = .ok (timeOf t) := by
  cases t with
  | none => cases h
  | some result =>
      unfold getTime timeOf
      cases hclaims : result.timeValidationClaims with
      | none => simp [hasPassed, hclaims] at h
      | some claims => simp [hclaims, deref, bind, Except.bind, pure, Except.pure]

theorem comparesBy_timeOf {times : List (Option (TimeValidationResult Cert))}
    (hpassed : ∀ t ∈ times, hasPassed t = true) : ComparesBy compareTimes timeOf times := by
  intro o1 h1 o2 h2
  unfold compareTimes
  rw [getTime_of_passed (hpassed o1 h1), getTime_of_passed (hpassed o2 h2)]
  show Except.ok (toInt (toLong _)) = _
  unfold toInt toLong
  rw [Int.bmod_bmod_of_dvd (by decide)]

/-! ## The result that is taken -/

section Taken

variable {env : ReportEnv Cert} {sigValResult : SigValResult Cert} {hashAlgoId : Option String}

theorem passedTimes_passed : ∀ t ∈ passedTimes sigValResult, hasPassed t = true :=
  fun _ ht => (List.mem_filter.mp ht).2

theorem comparesBy_passedTimes (sigValResult : SigValResult Cert) :
    ComparesBy compareTimes timeOf (passedTimes sigValResult) :=
  comparesBy_timeOf passedTimes_passed

theorem exists_earliest {times : List (Option (TimeValidationResult Cert))} (hne : times ≠ []) :
    ∃ time, IsEarliest times time := by
  obtain ⟨time, htime⟩ := Option.isSome_iff_exists.mp
    (List.isSome_min?_of_ne_nil (mt List.map_eq_nil_iff.mp hne : times.map timeOf ≠ []))
  obtain ⟨hmem, hle⟩ := List.min?_eq_some_iff.mp htime
  exact ⟨time, List.mem_map.mp hmem, fun t ht => hle _ (List.mem_map_of_mem ht)⟩

/-- The run for results that can be read. -/
theorem getBestSignatureTimeBy_eq (library : StableSort)
    (hreadable : ∀ t ∈ sigValResult.timeValidationResults.getD [], ∃ b, isValidTime t = .ok b) :
    getBestSignatureTimeBy library env sigValResult hashAlgoId = (do
      let sorted ← library.sort compareTimes (passedTimes sigValResult)
      match sorted.head? with
      | none => pure ⟨env.now, none⟩
      | some timeValidationResult => do
          let time ← getTime timeValidationResult
          pure ⟨toLong (time * 1000),
            getTimeId env.toObjectEnv timeValidationResult hashAlgoId⟩) := by
  unfold getBestSignatureTimeBy
  rw [validTimes_ok_iff.mpr ⟨hreadable, rfl⟩]
  rfl

theorem getBestSignatureTimeBy_nil (library : StableSort)
    (hreadable : ∀ t ∈ sigValResult.timeValidationResults.getD [], ∃ b, isValidTime t = .ok b)
    (hnil : passedTimes sigValResult = []) :
    getBestSignatureTimeBy library env sigValResult hashAlgoId = .ok ⟨env.now, none⟩ := by
  obtain ⟨ys, hys, hperm, -⟩ := library.sorts compareTimes [] keepsContract_nil
  rw [getBestSignatureTimeBy_eq library hreadable, hnil, hys, hperm.eq_nil]
  rfl

/-- Where the comparator keeps its contract, the first of the foremost results is taken. -/
theorem getBestSignatureTimeBy_first (env : ReportEnv Cert) (hashAlgoId : Option String)
    (library : StableSort)
    (hreadable : ∀ t ∈ sigValResult.timeValidationResults.getD [], ∃ b, isValidTime t = .ok b)
    (hcontract : KeepsContract compareTimes (passedTimes sigValResult))
    (hne : passedTimes sigValResult ≠ []) :
    ∃ first, FirstForemost compareTimes (passedTimes sigValResult) first ∧
      getBestSignatureTimeBy library env sigValResult hashAlgoId =
        .ok ⟨toLong (timeOf first * 1000), getTimeId env.toObjectEnv first hashAlgoId⟩ := by
  have hcompares := comparesBy_passedTimes sigValResult
  obtain ⟨first, rest, hsorted, hfirst⟩ :=
    library.sort_first hcontract (fun t ht => hcompares.notAfter_self ht) hne
  refine ⟨first, hfirst, ?_⟩
  rw [getBestSignatureTimeBy_eq library hreadable, hsorted]
  show (getTime first >>= _) = _
  rw [getTime_of_passed (passedTimes_passed first hfirst.mem)]
  rfl

/-- The first foremost result is the first one at the beginning of the half. -/
theorem firstAt_of_firstForemost {time : Int} (htime : IsEarliest (passedTimes sigValResult) time)
    (hahead : ∀ t ∈ passedTimes sigValResult, Ahead time (timeOf t))
    {first : Option (TimeValidationResult Cert)}
    (hfirst : FirstForemost compareTimes (passedTimes sigValResult) first) :
    firstAt (passedTimes sigValResult) time = some first := by
  have hcompares := comparesBy_passedTimes sigValResult
  have hbegins : ∃ t ∈ passedTimes sigValResult, (timeOf t - time) % 2 ^ 32 = 0 := by
    obtain ⟨t, ht, rfl⟩ := htime.1
    exact ⟨t, ht, by rw [Int.sub_self]; rfl⟩
  have hmem := hfirst.mem
  obtain ⟨before, after, hsplit, hforemost, hbefore⟩ := hfirst
  unfold firstAt
  rw [List.find?_eq_some_iff_append]
  refine ⟨decide_eq_true ((hcompares.foremost_iff hahead hbegins hmem).mp hforemost),
    before, after, hsplit, fun t ht => ?_⟩
  have htmem : t ∈ passedTimes sigValResult := by
    rw [hsplit]
    exact List.mem_append_left _ ht
  rw [Bool.not_eq_true', decide_eq_false_iff_not]
  exact fun hzero => hbefore t ht ((hcompares.foremost_iff hahead hbegins htmem).mpr hzero)

theorem toLong_emod (x : Int) :
    toLong x % 18446744073709551616 = x % 18446744073709551616 :=
  @Int.bmod_emod x (2 ^ 64)

/-- Times with the same milliseconds, as `long`s, are the same around the circle. -/
theorem congruent_of_toLong_eq {time time' : Int} (h : toLong (time * 1000) = time' * 1000) :
    (time - time') % 2 ^ 32 = 0 := by
  have hemod := toLong_emod (time * 1000)
  rw [h] at hemod
  have hdvd := Int.dvd_of_emod_eq_zero (Int.emod_eq_emod_iff_emod_sub_eq_zero.mp hemod.symm)
  rw [← Int.sub_mul] at hdvd
  -- 1000 is eight times an odd number
  have hpart : (2 ^ 32 * 8 : Int) ∣ (time - time') * 125 * 8 := by
    rw [Int.mul_assoc]
    exact Int.dvd_trans (by decide) hdvd
  have hodd : (2 ^ 32 : Int) ∣ (time - time') * 125 :=
    Int.dvd_of_mul_dvd_mul_right (by decide) hpart
  have hcoprime : Int.gcd (2 ^ 32) 125 = 1 := rfl
  rw [← Int.dvd_mul_gcd_iff_dvd_mul, hcoprime, Int.natCast_one, Int.mul_one] at hodd
  exact Int.emod_eq_zero_of_dvd hodd

end Taken

/-! ## The exact condition -/

section Exact

variable {env : ReportEnv Cert} {sigValResult : SigValResult Cert} {hashAlgoId : Option String}

theorem returnsEarliest_of_leads (h : EarliestLeads env sigValResult hashAlgoId)
    (library : StableSort) : ReturnsEarliest library env sigValResult hashAlgoId := by
  by_cases hnil : passedTimes sigValResult = []
  · refine ⟨_, getBestSignatureTimeBy_nil library h.readable hnil, fun _ => rfl, ?_⟩
    rw [hnil]
    rintro time ⟨⟨t, ht, -⟩, -⟩
    cases ht
  · have hcompares := comparesBy_passedTimes sigValResult
    obtain ⟨least, hleast⟩ := exists_earliest hnil
    obtain ⟨first, hfirst, hrun⟩ := getBestSignatureTimeBy_first env hashAlgoId library h.readable
      (hcompares.keepsContract (h.ahead least hleast)) hnil
    refine ⟨_, hrun, fun h => absurd h hnil, fun time htime => ?_⟩
    exact h.leads time htime first (firstAt_of_firstForemost htime (h.ahead time htime) hfirst)

theorem leads_of_returnsEarliest
    (h : ∀ library, ReturnsEarliest library env sigValResult hashAlgoId) :
    EarliestLeads env sigValResult hashAlgoId := by
  -- a sort that refuses what it may refuse, and sorts by insertion otherwise
  obtain ⟨poe, hrun, hreports⟩ := h stableInsertionSort.refusing
  have hsteps := hrun
  unfold getBestSignatureTimeBy at hsteps
  obtain ⟨valid, hvalid, hsteps⟩ := bind_ok_iff.mp hsteps
  obtain ⟨hreadable, rfl⟩ := validTimes_ok_iff.mp hvalid
  obtain ⟨sorted, hsorted, -⟩ := bind_ok_iff.mp hsteps
  have hcontract := StableSort.refusing_ok hsorted
  have hcompares := comparesBy_passedTimes sigValResult
  have htaken : ∀ time, IsEarliest (passedTimes sigValResult) time →
      (∀ t ∈ passedTimes sigValResult, Ahead time (timeOf t)) ∧
      ∃ first, FirstForemost compareTimes (passedTimes sigValResult) first ∧
        toLong (timeOf first * 1000) = time * 1000 ∧
        ProofOf env hashAlgoId (passedTimes sigValResult) time
          (getTimeId env.toObjectEnv first hashAlgoId) := by
    intro time htime
    have hne : passedTimes sigValResult ≠ [] := by
      obtain ⟨t, ht, -⟩ := htime.1
      exact List.ne_nil_of_mem ht
    obtain ⟨first, hfirst, hfound⟩ := getBestSignatureTimeBy_first env hashAlgoId
      stableInsertionSort.refusing hreadable hcontract hne
    rw [hrun] at hfound
    cases hfound
    obtain ⟨hpoe, hproof⟩ := hreports.earliest time htime
    refine ⟨fun t ht => ?_, first, hfirst, hpoe, hproof⟩
    have hforemost : Foremost compareTimes (passedTimes sigValResult) first := by
      obtain ⟨-, -, -, hforemost, -⟩ := hfirst
      exact hforemost
    have hahead := hcompares.ahead_of_foremost hcontract hfirst.mem hforemost t ht
    have hsame := congruent_of_toLong_eq hpoe
    unfold Ahead at hahead ⊢
    omega
  refine ⟨hreadable, fun time htime => (htaken time htime).1, ?_⟩
  intro time htime first hfound
  obtain ⟨hahead, first', hfirst', htimes⟩ := htaken time htime
  rw [firstAt_of_firstForemost htime hahead hfirst'] at hfound
  cases hfound
  exact htimes

/-- **The best signature time.** Whatever stable sort the library has, the earliest time of
the results that passed is reported with its proof, and the current time only when none
passed, exactly when the earliest time leads around the circle. -/
theorem best_signature_time_iff (env : ReportEnv Cert) (sigValResult : SigValResult Cert)
    (hashAlgoId : Option String) :
    (∀ library, ReturnsEarliest library env sigValResult hashAlgoId) ↔
      EarliestLeads env sigValResult hashAlgoId :=
  ⟨leads_of_returnsEarliest, fun h library => returnsEarliest_of_leads h library⟩

end Exact

/-! ## A result of the next century -/

/-- A result that passed, without a timestamp. -/
def passedAt (time : Int) : Option (TimeValidationResult Nat) :=
  some
    { timeValidationClaims := some ⟨time, none, some [some .PASSED]⟩
      certificateValidationResult := none
      timeStamp := none }

def signedWith (times : List (Option (TimeValidationResult Nat))) : SigValResult Nat :=
  { directResult with timeValidationResults := some times }

/-- One result of 2023 and one of 2118. -/
def farApart : SigValResult Nat := signedWith [passedAt 1700000000, passedAt 4700000000]

theorem farApart_readable :
    ∀ t ∈ farApart.timeValidationResults.getD [], ∃ b, isValidTime t = .ok b := by
  intro t ht
  rcases List.mem_pair.mp ht with rfl | rfl
  · exact ⟨true, rfl⟩
  · exact ⟨true, rfl⟩

/-- The later one is taken, whatever the sort. -/
theorem later_time_taken (library : StableSort) :
    getBestSignatureTimeBy library plainReportEnv farApart none =
      .ok ⟨4700000000000, getTimeId plainReportEnv.toObjectEnv (passedAt 4700000000) none⟩ := by
  have hcompares := comparesBy_passedTimes farApart
  have hahead : ∀ t ∈ passedTimes farApart, Ahead 4700000000 (timeOf t) := by
    show ∀ t ∈ [passedAt 1700000000, passedAt 4700000000], _
    decide
  have hbegins : ∃ t ∈ passedTimes farApart, (timeOf t - 4700000000) % 2 ^ 32 = 0 :=
    ⟨passedAt 4700000000, by simp [passedTimes, farApart, signedWith, passedAt, hasPassed], rfl⟩
  obtain ⟨first, hfirst, hrun⟩ := getBestSignatureTimeBy_first plainReportEnv none library
    farApart_readable (hcompares.keepsContract hahead) (List.cons_ne_nil _ _)
  have hmem : first ∈ passedTimes farApart := hfirst.mem
  obtain ⟨-, -, -, hforemost, -⟩ := hfirst
  have hsame := (hcompares.foremost_iff hahead hbegins hmem).mp hforemost
  rcases List.mem_pair.mp hmem with rfl | rfl
  · exact absurd hsame (by decide)
  · exact hrun

/-- No sort makes the method report the earliest time. -/
theorem earliest_time_missed :
    ¬ ∃ library, ReturnsEarliest library plainReportEnv farApart none := by
  rintro ⟨library, poe, hrun, -, hearliest⟩
  rw [later_time_taken library] at hrun
  cases hrun
  have hleast : IsEarliest (passedTimes farApart) 1700000000 := by
    refine ⟨⟨passedAt 1700000000, List.mem_cons_self, rfl⟩, ?_⟩
    show ∀ t ∈ [passedAt 1700000000, passedAt 4700000000], _
    decide
  exact absurd (hearliest 1700000000 hleast).1 (by decide)

end SigVal.Report
