import SigVal.Cert.ConfirmedStatus
import SigVal.Cert.PathCollection
import SigVal.Cert.TrustAnchors

/-!
# Accepted paths

`CertificatePathValidator` accepts a path when each certificate but the anchor is confirmed
under the next one, whatever else the checkers deliver and in whatever order. With what a
confirmed status rests on, the checks of a path add up to evidence for all its certificates,
and the validator of certificates accepts exactly the paths that have it.
-/

namespace SigVal.Cert

open SigVal.Java SigVal.Runs BasicCertificateValidityChecker BasicValidityPathChecker

variable {Cert Crl : Type}

/-! ## The checks of a path -/

section Paths

variable [DecidableEq Cert] {env : StatusEnv Cert Crl}

/-- A status is about the certificate that was checked. -/
theorem checked_certificate {singleThreaded : Bool} {raw status : ValidationStatus Cert}
    (hchecked : Checked env singleThreaded raw status) : status.certificate = raw.certificate := by
  have hkept : ∀ responder, (checkStatusPath env responder raw).certificate = raw.certificate := by
    intro responder
    unfold checkStatusPath
    split
    · split <;> rfl
    · rfl
  cases hchecked with
  | alone unused _ => exact hkept unused
  | responder _ _ => exact hkept _

theorem concludes_certificate {singleThreaded : Bool} {certificate issuer : Cert}
    {validity : CertificateValidity} {status : ValidationStatus Cert}
    (hconcludes : Concludes env singleThreaded certificate issuer validity status)
    (hverdict : HasVerdict status) : status.certificate = certificate := by
  obtain ⟨hchecked | hchecked, hsigned, -⟩ := hconcludes
  · obtain ⟨rfl, -⟩ := (checked_verdict_iff hsigned hverdict).mp hchecked
    obtain ⟨list⟩ := exists_foundList hsigned
    exact list.read.about
  · rw [checked_certificate hchecked]
    exact (@ocsp_about _ _ env certificate issuer).1

/-- The certificate is confirmed under the issuer by some result of its check. -/
def Confirmable (env : StatusEnv Cert Crl) (singleThreaded : Bool) (pair : Cert × Cert) : Prop :=
  ∃ status, Returns env singleThreaded pair.1 pair.2 (.ok status) ∧ status.Confirmed

/-- The threads of `runValidationThreads`: the checkers that have not ended, and the statuses
that were delivered. -/
structure WaitState (Cert : Type) where
  running : List (Cert × Cert)
  validationStatusList : List (ValidationStatus Cert)

/-- One checker ends: it delivers a status that it may come to, or throws and delivers none. -/
inductive WaitStep (env : StatusEnv Cert Crl) : WaitState Cert → WaitState Cert → Prop
  | propertyChange {before after : List (Cert × Cert)} {pair : Cert × Cert}
      {l : List (ValidationStatus Cert)} {status : ValidationStatus Cert} :
      Returns env false pair.1 pair.2 (.ok status) →
      WaitStep env ⟨before ++ pair :: after, l⟩ ⟨before ++ after, l ++ [status]⟩
  | thrown {before after : List (Cert × Cert)} {pair : Cert × Cert}
      {l : List (ValidationStatus Cert)} {ex : Exn} :
      Returns env false pair.1 pair.2 (.error ex) →
      WaitStep env ⟨before ++ pair :: after, l⟩ ⟨before ++ after, l⟩

/-- The waiting loop, which also ends when the time is over, may end with these statuses. -/
def Arrive (env : StatusEnv Cert Crl) (path : List Cert) (l : List (ValidationStatus Cert)) :
    Prop :=
  ∃ running, Run (WaitStep env) ⟨path.zip path.tail, []⟩ ⟨running, l⟩

/-- What is running is a pair of the path, and what was delivered is the result of one. -/
structure Traced (env : StatusEnv Cert Crl) (pairs : List (Cert × Cert)) (s : WaitState Cert) :
    Prop where
  running : ∀ pair ∈ s.running, pair ∈ pairs
  delivered : ∀ status ∈ s.validationStatusList,
    ∃ pair ∈ pairs, Returns env false pair.1 pair.2 (.ok status)

theorem Traced.step {pairs : List (Cert × Cert)} (s t : WaitState Cert) (hstep : WaitStep env s t)
    (h : Traced env pairs s) : Traced env pairs t := by
  have hfewer : ∀ {before after : List (Cert × Cert)} {pair : Cert × Cert},
      (∀ p ∈ before ++ pair :: after, p ∈ pairs) → ∀ p ∈ before ++ after, p ∈ pairs := by
    intro before after pair hall p hp
    apply hall p
    rcases List.mem_append.mp hp with hp | hp
    · exact List.mem_append_left _ hp
    · exact List.mem_append_right _ (List.mem_cons_of_mem _ hp)
  cases hstep with
  | @propertyChange before after pair l status hreturns =>
      refine ⟨hfewer h.running, ?_⟩
      intro status' hmem
      rcases List.mem_append.mp hmem with hmem | hmem
      · exact h.delivered status' hmem
      · rw [List.mem_singleton] at hmem
        subst hmem
        exact ⟨pair, h.running pair (by simp), hreturns⟩
  | thrown _ => exact ⟨hfewer h.running, h.delivered⟩

/-- What a path validator is given for a path comes from the checkers. -/
structure CheckedBy (env : StatusEnv Cert Crl) (p : PathEnv Cert) (path : List Cert) : Prop where
  single : p.singleThreaded = true → ∀ pair ∈ path.zip path.tail,
    Returns env true pair.1 pair.2 (p.checkValidity pair.1 pair.2)
  multi : p.singleThreaded = false → Arrive env path (p.delivered path)

/-- Every status that is collected is the result of a check of the path. -/
theorem collected_traced {p : PathEnv Cert} {path : List Cert} (hchecked : CheckedBy env p path)
    {l : List (ValidationStatus Cert)}
    (hcollected : CertificatePathValidator.collectStatuses p path = .ok l) :
    ∀ status ∈ l, ∃ pair ∈ path.zip path.tail,
      Returns env p.singleThreaded pair.1 pair.2 (.ok status) := by
  unfold CertificatePathValidator.collectStatuses at hcollected
  cases hmode : p.singleThreaded with
  | true =>
      rw [hmode, if_pos rfl] at hcollected
      split at hcollected
      · rename_i statuses hmap
        cases hcollected
        intro status hmem
        obtain ⟨pair, hpair, hstatus⟩ := exists_of_mem_mapM hmap status hmem
        refine ⟨pair, hpair, ?_⟩
        rw [← hstatus]
        exact hchecked.single hmode pair hpair
      · cases hcollected
  | false =>
      rw [hmode, if_neg Bool.false_ne_true] at hcollected
      split at hcollected
      · cases hcollected
      · cases hcollected
        obtain ⟨running, hrun⟩ := hchecked.multi hmode
        have hstart : Traced env (path.zip path.tail) ⟨path.zip path.tail, []⟩ :=
          ⟨fun _ h => h, fun _ h => absurd h List.not_mem_nil⟩
        exact (Run.invariant Traced.step hrun hstart).delivered

/-! ## Acceptance of a path -/

omit [DecidableEq Cert] in
theorem zip_map_fst : ∀ path : List Cert, (path.zip path.tail).map Prod.fst = path.dropLast
  | [] => rfl
  | [_] => rfl
  | certificate :: issuer :: rest => by
      have htail := zip_map_fst (issuer :: rest)
      simp only [List.tail_cons] at htail
      simp [htail]

omit [DecidableEq Cert] in
/-- On a path of distinct certificates each one has one issuer. -/
theorem issuer_unique {path : List Cert} (hnodup : path.Nodup) {pair pair' : Cert × Cert}
    (hpair : pair ∈ path.zip path.tail) (hpair' : pair' ∈ path.zip path.tail)
    (hsame : pair.1 = pair'.1) : pair = pair' := by
  have hfirsts : ((path.zip path.tail).map Prod.fst).Nodup := by
    rw [zip_map_fst]
    exact hnodup.sublist (List.dropLast_sublist path)
  exact List.inj_on_of_nodup_map hfirsts hpair hpair' hsame

/-- A path that passes has a confirmed status of each certificate under its issuer. -/
theorem confirmed_of_checkPath {p : PathEnv Cert} {path : List Cert} (hnodup : path.Nodup)
    (hchecked : CheckedBy env p path) {r : PathValidationResult Cert}
    (h : CertificatePathValidator.checkPath p path = .ok r) :
    ∀ pair ∈ path.zip path.tail, ∃ status, status ∈ r.validationStatusList.getD [] ∧
      Returns env p.singleThreaded pair.1 pair.2 (.ok status) ∧ status.Confirmed := by
  unfold CertificatePathValidator.checkPath at h
  split at h
  · cases h
  cases hcollected : CertificatePathValidator.collectStatuses p path with
  | error failure => simp [hcollected, bind, Except.bind] at h
  | ok collected =>
      simp only [hcollected, bind, Except.bind] at h
      obtain ⟨rfl, hall⟩ := CertificatePathValidator.checkStatuses_ok h
      intro pair hpair
      have hdropped : pair.1 ∈ path.dropLast := by
        rw [← zip_map_fst]
        exact List.mem_map_of_mem hpair
      obtain ⟨status, hstatus, hconfirmed⟩ := hall pair.1 (List.mem_reverse.mpr hdropped)
      refine ⟨status, CertificatePathValidator.getStatus_mem hstatus, ?_, hconfirmed⟩
      rw [CertificatePathValidator.getStatus_sortResults (List.mem_of_mem_dropLast hdropped)]
        at hstatus
      obtain ⟨pair', hpair', hreturns⟩ := collected_traced hchecked hcollected status
        (CertificatePathValidator.getStatus_mem hstatus)
      -- the status names the certificate it was found for
      have hnamed := CertificatePathValidator.getStatus_certificate hstatus
      rw [concludes_certificate (concludes_of_returns hreturns hconfirmed)
        (.inl hconfirmed.1)] at hnamed
      rw [issuer_unique hnodup hpair hpair' hnamed.symm]
      exact hreturns

/-- All checkers may end one after the other. -/
theorem run_all {assigned : Cert → ValidationStatus Cert} :
    ∀ (pairs : List (Cert × Cert)) (l : List (ValidationStatus Cert)),
      (∀ pair ∈ pairs, Returns env false pair.1 pair.2 (.ok (assigned pair.1))) →
      Run (WaitStep env) ⟨pairs, l⟩ ⟨[], l ++ pairs.map fun pair => assigned pair.1⟩
  | [], l, _ => by
      rw [List.map_nil, List.append_nil]
  | pair :: rest, l, h => by
      have hstep : WaitStep env ⟨[] ++ pair :: rest, l⟩ ⟨[] ++ rest, l ++ [assigned pair.1]⟩ :=
        .propertyChange (h pair List.mem_cons_self)
      have hrest := run_all rest (l ++ [assigned pair.1])
        fun p hp => h p (List.mem_cons_of_mem pair hp)
      rw [List.append_assoc] at hrest
      exact Relation.ReflTransGen.head hstep hrest

/-- The validator with these results of its checkers. -/
def withResults (p : PathEnv Cert) (checkValidity : Cert → Cert → Outcome (ValidationStatus Cert))
    (delivered : List Cert → List (ValidationStatus Cert)) : PathEnv Cert :=
  { p with checkValidity := checkValidity, delivered := delivered }

theorem exists_results {p : PathEnv Cert} {path : List Cert} (hnodup : path.Nodup)
    (hlength : 2 ≤ path.length)
    (hconfirmable : ∀ pair ∈ path.zip path.tail, Confirmable env p.singleThreaded pair) :
    ∃ checkValidity delivered r, CheckedBy env (withResults p checkValidity delivered) path ∧
      CertificatePathValidator.checkPath (withResults p checkValidity delivered) path = .ok r := by
  have hstatus : ∀ certificate, ∃ status : ValidationStatus Cert, ∀ issuer,
      (certificate, issuer) ∈ path.zip path.tail →
      Returns env p.singleThreaded certificate issuer (.ok status) ∧ status.Confirmed := by
    intro certificate
    by_cases hissued : ∃ issuer, (certificate, issuer) ∈ path.zip path.tail
    · obtain ⟨issuer, hpair⟩ := hissued
      obtain ⟨status, hreturns, hconfirmed⟩ := hconfirmable _ hpair
      refine ⟨status, fun issuer' hpair' => ?_⟩
      cases issuer_unique hnodup hpair hpair' rfl
      exact ⟨hreturns, hconfirmed⟩
    · exact ⟨⟨certificate, none, .UNKNOWN, none, none, none, none, none, none, none, false, 0,
        none⟩, fun issuer hpair => absurd ⟨issuer, hpair⟩ hissued⟩
  choose assigned hassigned using hstatus
  have hdropped : ∀ certificate ∈ path.dropLast, ∃ issuer,
      (certificate, issuer) ∈ path.zip path.tail := by
    intro certificate hmem
    rw [← zip_map_fst] at hmem
    obtain ⟨pair, hpair, rfl⟩ := List.mem_map.mp hmem
    exact ⟨pair.2, hpair⟩
  have hconfirmed : ∀ certificate ∈ path.dropLast, (assigned certificate).Confirmed := by
    intro certificate hmem
    obtain ⟨issuer, hpair⟩ := hdropped certificate hmem
    exact (hassigned certificate issuer hpair).2
  have hnames : ∀ certificate ∈ path.dropLast,
      (assigned certificate).certificate = certificate := by
    intro certificate hmem
    obtain ⟨issuer, hpair⟩ := hdropped certificate hmem
    obtain ⟨hreturns, hstatus⟩ := hassigned certificate issuer hpair
    exact concludes_certificate (concludes_of_returns hreturns hstatus) (.inl hstatus.1)
  refine ⟨fun certificate _ => .ok (assigned certificate), fun _ => path.dropLast.map assigned,
    CertificatePathValidator.pathResult path assigned, ⟨?_, ?_⟩, ?_⟩
  · intro hmode pair hpair
    have hreturns := (hassigned pair.1 pair.2 hpair).1
    rw [show p.singleThreaded = true from hmode] at hreturns
    exact hreturns
  · intro hmode
    refine ⟨[], ?_⟩
    have hrun : Run (WaitStep env) ⟨path.zip path.tail, []⟩
        ⟨[], [] ++ (path.zip path.tail).map fun pair => assigned pair.1⟩ := by
      refine run_all _ [] fun pair hpair => ?_
      have hreturns := (hassigned pair.1 pair.2 hpair).1
      rw [show p.singleThreaded = false from hmode] at hreturns
      exact hreturns
    have hlist : ((path.zip path.tail).map fun pair => assigned pair.1) =
        path.dropLast.map assigned := by
      rw [← zip_map_fst, List.map_map]
      rfl
    rw [List.nil_append, hlist] at hrun
    exact hrun
  · have hcollected : CertificatePathValidator.collectStatuses
        (withResults p (fun certificate _ => .ok (assigned certificate))
          fun _ => path.dropLast.map assigned) path = .ok (path.dropLast.map assigned) := by
      unfold CertificatePathValidator.collectStatuses
      split
      · rw [CertificatePathValidator.mapM_checkValidity path fun _ _ => rfl]
      · rw [if_neg]
        · rfl
        · simp [withResults]
    rw [CertificatePathValidator.checkPath_eq hnodup hlength hnames hcollected (List.Perm.refl _)]
    have hget : ∀ certificate ∈ path.dropLast.reverse,
        CertificatePathValidator.getStatus (path.dropLast.map assigned) certificate =
          some (assigned certificate) := by
      intro certificate hmem
      rw [CertificatePathValidator.getStatus_map hnames (List.Perm.refl _),
        if_pos (List.mem_reverse.mp hmem)]
    have hwalk := CertificatePathValidator.checkStatuses_walk
      (withResults p (fun certificate _ => .ok (assigned certificate))
        fun _ => path.dropLast.map assigned)
      (CertificatePathValidator.pathResult path assigned) hget
    rw [if_pos fun certificate hmem => hconfirmed certificate (List.mem_reverse.mp hmem)] at hwalk
    exact hwalk

/-! ## The validator -/

/-- What validation of a subject with these anchors may come to: its checkers have some results,
as far as a path is built at all, and with these it returns normally. -/
def Validates (env : StatusEnv Cert Crl) (v : StatusCheckingCertificateValidator Cert)
    (subjectCertificate : Cert) (additionalCertificates : Option (List Cert))
    (trustAnchors : List Cert) : Prop :=
  ∃ checkValidity delivered r,
    (subjectCertificate ∉ trustAnchors → ∀ path,
      BasicPathBuilder.buildPath v.builder trustAnchors subjectCertificate
          (additionalCertificates.getD []) = .ok path →
        CheckedBy env (withResults (v.getPathValidator trustAnchors) checkValidity delivered)
          path) ∧
    StatusCheckingCertificateValidator.validatePath
      { v with checkValidity := checkValidity, delivered := delivered } subjectCertificate
      additionalCertificates (some trustAnchors) = .ok r

/-- Failures stay failures, and without anchors there is nothing else. -/
theorem validatePath_ok {v : StatusCheckingCertificateValidator Cert} {subject : Cert}
    {additionalCertificates : Option (List Cert)} {trustAnchors : List Cert}
    {r : PathValidationResult Cert} :
    v.validatePath subject additionalCertificates (some trustAnchors) = .ok r ↔
      trustAnchors ≠ [] ∧
        CertificatePathValidator.validateCertificatePath (v.getPathValidator trustAnchors) subject
          (additionalCertificates.getD []) = .ok r := by
  cases trustAnchors with
  | nil => simp [StatusCheckingCertificateValidator.validatePath]
  | cons anchor rest =>
      unfold StatusCheckingCertificateValidator.validatePath
      dsimp only
      cases CertificatePathValidator.validateCertificatePath (v.getPathValidator (anchor :: rest))
          subject (additionalCertificates.getD []) with
      | ok result => simp
      | error failure =>
          dsimp only
          split
          · split <;> simp
          · simp

/-- For a subject that is no anchor, validation is building a path and checking it. -/
theorem validateCertificatePath_of_not_anchor {p : PathEnv Cert} {subject : Cert}
    {trustAnchors chain : List Cert} (hsubject : subject ∉ trustAnchors)
    (hanchors : p.trustAnchors = trustAnchors.map some) {r : PathValidationResult Cert} :
    CertificatePathValidator.validateCertificatePath p subject chain = .ok r ↔
      ∃ path, p.buildPath subject chain = .ok path ∧
        CertificatePathValidator.checkPath p path = .ok r := by
  have hsearch := StatusCheckingCertificateValidator.isTrustAnchor_map_some subject trustAnchors
  rw [decide_eq_false hsubject] at hsearch
  unfold CertificatePathValidator.validateCertificatePath
  rw [hanchors, hsearch]
  cases p.buildPath subject chain with
  | error ex => simp
  | ok path => simp

/-- **What the validator accepts.** -/
theorem validates_iff_confirmable {v : StatusCheckingCertificateValidator Cert} {subject : Cert}
    {additionalCertificates : Option (List Cert)} {trustAnchors : List Cert}
    (hdistinct : ∀ path, BasicPathBuilder.buildPath v.builder trustAnchors subject
      (additionalCertificates.getD []) = .ok path → path.Nodup) :
    Validates env v subject additionalCertificates trustAnchors ↔
      subject ∈ trustAnchors ∨ trustAnchors ≠ [] ∧ ∃ path,
        BasicPathBuilder.buildPath v.builder trustAnchors subject
            (additionalCertificates.getD []) = .ok path ∧
        2 ≤ path.length ∧ ∀ pair ∈ path.zip path.tail, Confirmable env v.singleThreaded pair := by
  by_cases hanchor : subject ∈ trustAnchors
  · refine iff_of_true ?_ (.inl hanchor)
    obtain ⟨r, hok, -⟩ := StatusCheckingCertificateValidator.validatePath_of_anchor hanchor
      additionalCertificates (v := v)
    exact ⟨v.checkValidity, v.delivered, r, fun hnot => absurd hanchor hnot, hok⟩
  · simp only [hanchor, false_or]
    constructor
    · rintro ⟨checkValidity, delivered, r, hchecked, hok⟩
      obtain ⟨hne, hok⟩ := validatePath_ok.mp hok
      obtain ⟨path, hbuild, hpath⟩ := (validateCertificatePath_of_not_anchor hanchor rfl).mp hok
      refine ⟨hne, path, hbuild, ?_, ?_⟩
      · exact (StatusCheckingCertificateValidator.checkPath_length hpath).2
      · intro pair hpair
        obtain ⟨status, -, hstatus⟩ := confirmed_of_checkPath (hdistinct path hbuild)
          (hchecked hanchor path hbuild) hpath pair hpair
        exact ⟨status, hstatus⟩
    · rintro ⟨hne, path, hbuild, hlength, hconfirmable⟩
      obtain ⟨checkValidity, delivered, r, hchecked, hpath⟩ := exists_results
        (p := v.getPathValidator trustAnchors) (hdistinct path hbuild) hlength hconfirmable
      refine ⟨checkValidity, delivered, r, ?_, ?_⟩
      · intro _ path' hbuild'
        rw [hbuild] at hbuild'
        cases hbuild'
        exact hchecked
      · exact validatePath_ok.mpr ⟨hne,
          (validateCertificatePath_of_not_anchor hanchor rfl).mpr ⟨path, hbuild, hpath⟩⟩

/-- **Multi-threaded validation.** Some run of the threads accepts the subject exactly when it is
an anchor, or there is evidence for every certificate of the path that is built for it. -/
theorem validates_iff_evidence {v : StatusCheckingCertificateValidator Cert}
    (hthreads : v.singleThreaded = false) {subject : Cert}
    {additionalCertificates : Option (List Cert)} {trustAnchors : List Cert}
    (hdistinct : ∀ path, BasicPathBuilder.buildPath v.builder trustAnchors subject
      (additionalCertificates.getD []) = .ok path → path.Nodup) :
    Validates env v subject additionalCertificates trustAnchors ↔
      subject ∈ trustAnchors ∨ trustAnchors ≠ [] ∧ ∃ path,
        BasicPathBuilder.buildPath v.builder trustAnchors subject
            (additionalCertificates.getD []) = .ok path ∧
        2 ≤ path.length ∧ ∀ pair ∈ path.zip path.tail, Evidence env false pair.2 pair.1 := by
  rw [validates_iff_confirmable hdistinct, hthreads]
  simp only [Confirmable, confirmed_iff_evidence]

/-- **Single-threaded validation.** The subject is accepted exactly when it is an anchor, or the
check of every certificate of its path ends, a source says that the certificate is valid, and
none says that it is revoked. -/
theorem single_validates_iff {v : StatusCheckingCertificateValidator Cert}
    (hsingle : v.singleThreaded = true) {subject : Cert}
    {additionalCertificates : Option (List Cert)} {trustAnchors : List Cert}
    (hdistinct : ∀ path, BasicPathBuilder.buildPath v.builder trustAnchors subject
      (additionalCertificates.getD []) = .ok path → path.Nodup) :
    Validates env v subject additionalCertificates trustAnchors ↔
      subject ∈ trustAnchors ∨ trustAnchors ≠ [] ∧ ∃ path,
        BasicPathBuilder.buildPath v.builder trustAnchors subject
            (additionalCertificates.getD []) = .ok path ∧
        2 ≤ path.length ∧ ∀ pair ∈ path.zip path.tail,
          (∃ depth, (BasicCertificateValidityChecker.checkValidity env depth pair.1
            pair.2).isSome) ∧
          Says env pair.2 (Accepted env true pair.2) pair.1 .VALID ∧
          ¬ Says env pair.2 (Accepted env true pair.2) pair.1 .REVOKED := by
  have hpair : ∀ pair : Cert × Cert, Confirmable env true pair ↔
      (∃ depth, (BasicCertificateValidityChecker.checkValidity env depth pair.1 pair.2).isSome) ∧
        Says env pair.2 (Accepted env true pair.2) pair.1 .VALID ∧
        ¬ Says env pair.2 (Accepted env true pair.2) pair.1 .REVOKED := by
    intro pair
    have hends : (∃ depth, (BasicCertificateValidityChecker.checkValidity env depth pair.1
        pair.2).isSome) ↔ ∃ result, Returns env true pair.1 pair.2 result := by
      simp only [returns_iff_checkValidity, Option.isSome_iff_exists]
      exact exists_comm
    rw [hends]
    constructor
    · rintro ⟨status, hreturns, hconfirmed⟩
      have hresult : ∃ result, Returns env true pair.1 pair.2 result := ⟨_, hreturns⟩
      exact ⟨hresult, (single_confirmed_iff hresult).mp ⟨status, hreturns, hconfirmed⟩⟩
    · rintro ⟨hresult, hstatements⟩
      exact (single_confirmed_iff hresult).mpr hstatements
  rw [validates_iff_confirmable hdistinct, hsingle]
  simp only [hpair]

/-- **What stands behind a result.** Where validation returns normally for a subject that is no
anchor, the result has the path that was built, and a confirmed status of each certificate that
its check under the next one came to; and there is evidence for each. -/
theorem accepted_has_evidence {v : StatusCheckingCertificateValidator Cert} {subject : Cert}
    {additionalCertificates : Option (List Cert)} {trustAnchors : List Cert}
    (hdistinct : ∀ path, BasicPathBuilder.buildPath v.builder trustAnchors subject
      (additionalCertificates.getD []) = .ok path → path.Nodup)
    (hchecked : ∀ path, BasicPathBuilder.buildPath v.builder trustAnchors subject
      (additionalCertificates.getD []) = .ok path →
        CheckedBy env (v.getPathValidator trustAnchors) path)
    (hsubject : subject ∉ trustAnchors) {r : PathValidationResult Cert}
    (hok : v.validatePath subject additionalCertificates (some trustAnchors) = .ok r) :
    ∃ path, BasicPathBuilder.buildPath v.builder trustAnchors subject
          (additionalCertificates.getD []) = .ok path ∧
      r.validatedCertificatePath = some path ∧ 2 ≤ path.length ∧
      ∀ pair ∈ path.zip path.tail, Evidence env v.singleThreaded pair.2 pair.1 ∧
        ∃ status ∈ r.validationStatusList.getD [], status.certificate = pair.1 ∧
          status.Confirmed ∧ Returns env v.singleThreaded pair.1 pair.2 (.ok status) := by
  obtain ⟨-, hok⟩ := validatePath_ok.mp hok
  obtain ⟨path, hbuild, hpath⟩ := (validateCertificatePath_of_not_anchor hsubject rfl).mp hok
  obtain ⟨hresult, hlength⟩ := StatusCheckingCertificateValidator.checkPath_length hpath
  refine ⟨path, hbuild, hresult, hlength, ?_⟩
  intro pair hpair
  obtain ⟨status, hmem, hreturns, hconfirmed⟩ := confirmed_of_checkPath (hdistinct path hbuild)
    (hchecked path hbuild) hpath pair hpair
  refine ⟨evidence_of_returns hreturns status rfl hconfirmed, status, hmem, ?_, hconfirmed,
    hreturns⟩
  exact concludes_certificate (concludes_of_returns hreturns hconfirmed) (.inl hconfirmed.1)

end Paths

/-! Certificate 1 is issued by 2 and certificate 2 by the anchor 3. The answer about 1 is signed
by the responder 4 of 2, and there are lists for 2 and 4. -/

def vouchingEnv : StatusEnv Nat Unit where
  now := 1000
  getCRL := fun certificate =>
    if certificate = 1 then .error ⟨.io, "No distribution point"⟩ else .ok ⟨"http://crl", ()⟩
  crlVerify := fun _ _ => .ok ()
  isRevoked := fun _ _ => false
  getRevokedCertificate := fun _ _ => none
  getOCSPUrl := fun certificate => .ok (if certificate = 1 then some "http://ocsp" else none)
  certificateID := fun _ certificate => .ok (toString certificate)
  nonce := none
  wrapNonce := id
  requestOCSPResponse := fun _ certificateId _ => .ok ⟨0, .ok (some (answerBy 4 certificateId))⟩
  isCurrentlyValid := fun _ => true
  certVerify := fun _ _ => .ok ()
  getBasicConstraints := fun _ => 0
  getKeyUsage := fun _ => some [false, false, false, false, false, true, true]
  getExtendedKeyUsage := fun _ => .ok (some [ocspSigning])
  isOCSPNocheckExt := fun _ => false

/-- A validator that finds the path from 1 to 3. -/
def vouchedValidator (singleThreaded : Bool) : StatusCheckingCertificateValidator Nat where
  defaultTrustAnchors := [3]
  builder :=
    { selfSigned := fun _ => false
      build := fun _ _ _ => .ok ([1, 2], 3) }
  now := 1000
  getSubject := toString
  singleThreaded := singleThreaded
  checkValidity := fun certificate issuer =>
    (BasicCertificateValidityChecker.checkValidity vouchingEnv 2 certificate issuer).getD
      (.error Exn.nullPointer)
  delivered := fun _ => []

theorem vouched_path (singleThreaded : Bool) {path : List Nat}
    (h : BasicPathBuilder.buildPath (vouchedValidator singleThreaded).builder [3] 1
      ((none : Option (List Nat)).getD []) = .ok path) : path = [1, 2, 3] := by
  cases h
  rfl

theorem vouchingEnv_issuesLists (issuer : Nat) : IssuesLists vouchingEnv issuer :=
  ⟨rfl, Int.le_refl 0, _, rfl, rfl⟩

/-- The list for another certificate than 1. -/
def vouchingList {certificate : Nat} (issuer : Nat) (h : certificate ≠ 1) :
    FoundList vouchingEnv certificate issuer :=
  ⟨⟨"http://crl", ()⟩, if_neg h, rfl⟩

def vouchingAnswer : Answer vouchingEnv 1 2 :=
  ⟨"1", answerBy 4 "1", [4], rfl, ⟨"http://ocsp", _, rfl, rfl, rfl, rfl⟩, rfl,
    ⟨[4], rfl, fun _ _ _ h => by cases h⟩, rfl⟩

theorem vouching_delegated : Delegated vouchingEnv 2 1 [4] 4 :=
  ⟨rfl, rfl, rfl, by decide, by decide⟩

theorem vouching_speaks {trusted : Nat → Prop} (h : trusted 4) :
    Says vouchingEnv 2 trusted 1 .VALID :=
  .answer vouchingAnswer (show vouchingAnswer.signer = some 4 by decide)
    (.delegate vouching_delegated (.inr h))

theorem vouching_list {trusted : Nat → Prop} {certificate : Nat} (issuer : Nat)
    (h : certificate ≠ 1) : Says vouchingEnv issuer trusted certificate .VALID :=
  .list (vouchingList issuer h) (vouchingEnv_issuesLists issuer)

theorem vouching_evidence : ∀ pair ∈ [1, 2, 3].zip [2, 3],
    Evidence vouchingEnv false pair.2 pair.1 := by
  intro pair hpair
  simp at hpair
  rcases hpair with rfl | rfl
  · refine .source (fun signer => signer = 4) ?_ (vouching_speaks (.inl rfl))
    rintro _ rfl
    exact .source (fun _ => False) (fun _ h => h.elim) (vouching_list 2 (by decide))
  · exact .source (fun _ => False) (fun _ h => h.elim) (vouching_list 3 (by decide))

theorem validates_iff_evidence_vouched :
    Validates vouchingEnv (vouchedValidator false) 1 none [3] :=
  (validates_iff_evidence rfl fun _ h => by rw [vouched_path false h]; decide).mpr
    (.inr ⟨by decide, [1, 2, 3], rfl, by decide, vouching_evidence⟩)


theorem vouching_answer_valid {certificate issuer : Nat}
    (answer : Answer vouchingEnv certificate issuer) : answer.validity = .VALID := by
  obtain ⟨id, resp, _, _, ⟨_, _, _, hreceived, _, hobject⟩, _, _, _⟩ := answer
  cases hreceived
  cases hobject
  simp [Answer.validity, BasicOCSPResp.matching, answerBy, decided, SingleResp.effect]

/-- Nothing in this environment says that a certificate is revoked. -/
theorem vouching_not_revoked (issuer : Nat) (trusted : Nat → Prop) (certificate : Nat) :
    ¬ Says vouchingEnv issuer trusted certificate .REVOKED := by
  intro h
  generalize hrevoked : CertificateValidity.REVOKED = validity at h
  cases h with
  | list list _ => cases hrevoked
  | answer answer _ _ =>
      rw [vouching_answer_valid answer] at hrevoked
      cases hrevoked

theorem vouching_accepted : Accepted vouchingEnv true 2 4 := by
  exact ⟨_, returns_iff_checkValidity.mpr ⟨1, rfl⟩, by decide⟩

theorem single_validates_iff_vouched :
    Validates vouchingEnv (vouchedValidator true) 1 none [3] := by
  refine (single_validates_iff rfl fun _ h => by rw [vouched_path true h]; decide).mpr
    (.inr ⟨by decide, [1, 2, 3], rfl, by decide, ?_⟩)
  intro pair hpair
  refine ⟨⟨2, ?_⟩, ?_, vouching_not_revoked pair.2 _ pair.1⟩
  · simp at hpair
    rcases hpair with rfl | rfl
    · decide
    · decide
  · simp at hpair
    rcases hpair with rfl | rfl
    · exact vouching_speaks vouching_accepted
    · exact vouching_list 3 (by decide)

def vouchedResult : PathValidationResult Nat :=
  (((vouchedValidator true).validatePath 1 none (some [3])).toOption).getD {}

theorem vouched_checkedBy (path : List Nat)
    (h : BasicPathBuilder.buildPath (vouchedValidator true).builder [3] 1
      ((none : Option (List Nat)).getD []) = .ok path) :
    CheckedBy vouchingEnv ((vouchedValidator true).getPathValidator [3]) path := by
  rw [vouched_path true h]
  refine ⟨fun _ pair hpair => ?_, fun hmode => by cases hmode⟩
  simp at hpair
  rcases hpair with rfl | rfl
  · exact returns_iff_checkValidity.mpr ⟨2, rfl⟩
  · exact returns_iff_checkValidity.mpr ⟨2, rfl⟩

theorem accepted_has_evidence_vouched : ∃ path,
    BasicPathBuilder.buildPath (vouchedValidator true).builder [3] 1
        ((none : Option (List Nat)).getD []) = .ok path ∧
      vouchedResult.validatedCertificatePath = some path ∧ 2 ≤ path.length ∧
      ∀ pair ∈ path.zip path.tail, Evidence vouchingEnv true pair.2 pair.1 ∧
        ∃ status ∈ vouchedResult.validationStatusList.getD [], status.certificate = pair.1 ∧
          status.Confirmed ∧ Returns vouchingEnv true pair.1 pair.2 (.ok status) :=
  accepted_has_evidence (fun _ h => by rw [vouched_path true h]; decide) vouched_checkedBy
    (by decide) rfl

end SigVal.Cert
