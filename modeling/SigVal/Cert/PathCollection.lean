import SigVal.Lib.Runs
import SigVal.Cert.PathValidator

/-!
# Collecting the statuses of a path

In multi-threaded mode `CertificatePathValidator` starts one checker for each
certificate of the path but the anchor, and waits. The checkers deliver their
statuses through the synchronized `propertyChange`, in any order; the calling thread
leaves its loop when the list is as long as it should be. `sortResults` then brings
the list into the order of the path by looking up each certificate.
-/

namespace SigVal.Cert

open SigVal.Java SigVal.Runs

variable {Cert : Type}

namespace CertificatePathValidator

/-! ## The threads -/

/-- The shared state: the statuses the checkers have still to deliver, those that were
delivered, and whether the calling thread is in its waiting loop. -/
structure CollectState (Cert : Type) where
  pending : List (ValidationStatus Cert)
  validationStatusList : List (ValidationStatus Cert)
  waiting : Bool

/-- One atomic action of `runValidationThreads` on a path of the given length, while the
clock has not run out: a delivery, or the end of the waiting loop. -/
inductive CollectStep (pathLength : Nat) : CollectState Cert → CollectState Cert → Prop where
  | propertyChange {s : CollectState Cert} {status : ValidationStatus Cert}
      {before after : List (ValidationStatus Cert)} :
      s.pending = before ++ status :: after →
      CollectStep pathLength s
        { s with
          pending := before ++ after
          validationStatusList := s.validationStatusList ++ [status] }
  | complete {s : CollectState Cert} :
      s.waiting = true → s.validationStatusList.length = pathLength - 1 →
      CollectStep pathLength s { s with waiting := false }

/-- One checker for each certificate but the anchor. -/
def CollectState.start (path : List Cert) (assigned : Cert → ValidationStatus Cert) :
    CollectState Cert :=
  ⟨path.dropLast.map assigned, [], true⟩

/-- The waiting loop may end before the timeout with this list of statuses. -/
def Collects (path : List Cert) (assigned : Cert → ValidationStatus Cert)
    (validationStatusList : List (ValidationStatus Cert)) : Prop :=
  ∃ state, Run (CollectStep path.length) (.start path assigned) state ∧
    state.waiting = false ∧ state.validationStatusList = validationStatusList

/-- Nothing is lost or delivered twice, and the loop ends on a complete list. -/
structure Accounted (n : Nat) (statuses : List (ValidationStatus Cert)) (s : CollectState Cert) :
    Prop where
  perm : (s.validationStatusList ++ s.pending).Perm statuses
  complete : s.waiting = false → n ≤ s.validationStatusList.length

theorem Accounted.step {pathLength : Nat} {statuses : List (ValidationStatus Cert)}
    (s t : CollectState Cert) (hstep : CollectStep pathLength s t)
    (h : Accounted (pathLength - 1) statuses s) : Accounted (pathLength - 1) statuses t := by
  cases hstep with
  | propertyChange hpending =>
      rename_i status before after
      refine ⟨?_, ?_⟩
      · have hperm := h.perm
        rw [hpending] at hperm
        refine List.Perm.trans ?_ hperm
        simp only [List.append_assoc, List.singleton_append]
        exact List.Perm.append_left _ List.perm_middle.symm
      · intro hwaiting
        have hle := h.complete hwaiting
        rw [List.length_append]
        omega
  | complete _ hlength => exact ⟨h.perm, fun _ => Nat.le_of_eq hlength.symm⟩

/-- In every interleaving the loop ends with the assigned statuses in some order. -/
theorem collects_perm {path : List Cert} {assigned : Cert → ValidationStatus Cert}
    {l : List (ValidationStatus Cert)} (h : Collects path assigned l) :
    l.Perm (path.dropLast.map assigned) := by
  obtain ⟨state, hrun, hstopped, rfl⟩ := h
  have hinit : Accounted (path.length - 1) (path.dropLast.map assigned)
      (CollectState.start path assigned) := by
    refine ⟨List.Perm.refl _, ?_⟩
    intro hwaiting
    cases hwaiting
  obtain ⟨hperm, hcomplete⟩ := Run.invariant Accounted.step hrun hinit
  have hlength := hperm.length_eq
  rw [List.length_append, List.length_map, List.length_dropLast] at hlength
  have hpending : state.pending = [] := by
    apply List.eq_nil_of_length_eq_zero
    have := hcomplete hstopped
    omega
  rw [hpending, List.append_nil] at hperm
  exact hperm

/-- The checkers may deliver in every order. -/
theorem run_of_perm (pathLength : Nat) {pending l : List (ValidationStatus Cert)}
    (h : l.Perm pending) : ∀ delivered : List (ValidationStatus Cert),
      Run (CollectStep pathLength) ⟨pending, delivered, true⟩ ⟨[], delivered ++ l, true⟩ := by
  induction l generalizing pending with
  | nil =>
      intro delivered
      rw [h.nil_eq.symm, List.append_nil]
  | cons status rest ih =>
      intro delivered
      obtain ⟨before, after, rfl⟩ := List.append_of_mem (h.subset List.mem_cons_self)
      have hrest : rest.Perm (before ++ after) :=
        (List.perm_cons status).mp (h.trans List.perm_middle)
      have hstep : CollectStep pathLength
          ⟨before ++ status :: after, delivered, true⟩
          ⟨before ++ after, delivered ++ [status], true⟩ := .propertyChange rfl
      have htail := ih hrest (delivered ++ [status])
      rw [List.append_assoc] at htail
      exact Relation.ReflTransGen.head hstep htail

theorem collects_of_perm {path : List Cert} {assigned : Cert → ValidationStatus Cert}
    {l : List (ValidationStatus Cert)} (h : l.Perm (path.dropLast.map assigned)) :
    Collects path assigned l := by
  refine ⟨⟨[], l, false⟩, ?_, rfl, rfl⟩
  refine Relation.ReflTransGen.tail (run_of_perm path.length h []) (.complete rfl ?_)
  rw [List.nil_append, h.length_eq, List.length_map, List.length_dropLast]

/-! ## The order of the path -/

variable [DecidableEq Cert]

section Sorting

variable {assigned : Cert → ValidationStatus Cert} {l : List (ValidationStatus Cert)}

/-- Looking up a certificate among the statuses of distinct certificates. -/
theorem getStatus_map {certs : List Cert}
    (hnames : ∀ cert ∈ certs, (assigned cert).certificate = cert)
    (hperm : l.Perm (certs.map assigned)) {cert : Cert} :
    getStatus l cert = if cert ∈ certs then some (assigned cert) else none := by
  have hmem : ∀ status, status ∈ l ↔ ∃ c ∈ certs, assigned c = status := by
    intro status
    rw [hperm.mem_iff, List.mem_map]
  by_cases hcert : cert ∈ certs
  · rw [if_pos hcert]
    cases hget : getStatus l cert with
    | none =>
        have hnone := List.find?_eq_none.mp hget (assigned cert) ((hmem _).mpr ⟨cert, hcert, rfl⟩)
        simp [hnames cert hcert] at hnone
    | some status =>
        -- the status that was found is the one of the certificate it names
        obtain ⟨c, hc, rfl⟩ := (hmem status).mp (getStatus_mem hget)
        have hnamed := getStatus_certificate hget
        rw [hnames c hc] at hnamed
        rw [hnamed]
  · rw [if_neg hcert]
    cases hget : getStatus l cert with
    | none => rfl
    | some status =>
        obtain ⟨c, hc, rfl⟩ := (hmem status).mp (getStatus_mem hget)
        have hnamed := getStatus_certificate hget
        rw [hnames c hc] at hnamed
        exact absurd (hnamed ▸ hc) hcert

/-- Whatever the order of arrival, the sorted statuses are those of the path. -/
theorem sortResults_eq {path : List Cert} (hnodup : path.Nodup)
    (hnames : ∀ cert ∈ path.dropLast, (assigned cert).certificate = cert)
    (hperm : l.Perm (path.dropLast.map assigned)) :
    sortResults path l = path.dropLast.map assigned := by
  cases hpath : path with
  | nil =>
      rw [hpath] at hperm
      rfl
  | cons head rest =>
      have hne : path ≠ [] := by
        rw [hpath]
        exact List.cons_ne_nil head rest
      rw [← hpath]
      -- the anchor is not among the certificates that were checked
      have hsplit := List.dropLast_append_getLast hne
      have hanchor : path.getLast hne ∉ path.dropLast := by
        intro hmem
        rw [← hsplit] at hnodup
        exact (List.nodup_append.mp hnodup).2.2 _ hmem _ List.mem_cons_self rfl
      unfold sortResults
      conv_lhs => rw [← hsplit]
      rw [List.filterMap_append]
      have hlast : [path.getLast hne].filterMap (getStatus l) = [] := by
        simp [getStatus_map hnames hperm, hanchor]
      rw [hlast, List.append_nil]
      have hsome : ∀ cert ∈ path.dropLast, getStatus l cert = some (assigned cert) := by
        intro cert hcert
        rw [getStatus_map hnames hperm, if_pos hcert]
      rw [List.filterMap_congr hsome, List.filterMap_eq_map']

end Sorting

/-! ## The walk over the sorted list -/

/-- The walk carries one result, and returns it when every status confirms. -/
theorem checkStatuses_walk (env : PathEnv Cert) {l : List (ValidationStatus Cert)}
    (result : PathValidationResult Cert) {assigned : Cert → ValidationStatus Cert}
    {certs : List Cert} (hget : ∀ cert ∈ certs, getStatus l cert = some (assigned cert)) :
    if ∀ cert ∈ certs, (assigned cert).Confirmed then
      checkStatuses env l result certs = .ok result
    else ∃ message, checkStatuses env l result certs = .error (.extended message result) := by
  induction certs with
  | nil => simp [checkStatuses]
  | cons cert rest ih =>
      have hrest := ih fun c hc => hget c (List.mem_cons_of_mem cert hc)
      have hhead := hget cert List.mem_cons_self
      by_cases hconf : (assigned cert).Confirmed
      · -- the walk goes on below a confirmed certificate
        have hstep : checkStatuses env l result (cert :: rest) =
            checkStatuses env l result rest := by
          rw [checkStatuses, hhead]
          simp [hconf.1, hconf.2]
        simpa [hstep, hconf] using hrest
      · have hnot : ¬ ∀ c ∈ cert :: rest, (assigned c).Confirmed :=
          fun hall => hconf (hall cert List.mem_cons_self)
        rw [if_neg hnot, checkStatuses, hhead]
        have hbool : ((decide ((assigned cert).validity = .VALID)) &&
            (assigned cert).statusSignatureValid) = false := by
          simpa [ValidationStatus.Confirmed] using hconf
        simp only [hbool]
        split
        · contradiction
        · split
          · exact ⟨_, rfl⟩
          · split <;> exact ⟨_, rfl⟩

/-! ## The two modes -/

/-- What the caller learns of a path: one status for each certificate but the anchor. -/
def pathResult (path : List Cert) (assigned : Cert → ValidationStatus Cert) :
    PathValidationResult Cert where
  targetCertificate := path.head?
  validatedCertificatePath := some path
  validationStatusList := some (path.dropLast.map assigned)

/-- The walk reads nothing of the environment but the subjects. -/
theorem checkStatuses_congr {env env' : PathEnv Cert} (h : env.getSubject = env'.getSubject)
    (l : List (ValidationStatus Cert)) (result : PathValidationResult Cert) (certs : List Cert) :
    checkStatuses env l result certs = checkStatuses env' l result certs := by
  induction certs with
  | nil => rfl
  | cons cert rest ih => simp only [checkStatuses, h, ih]

omit [DecidableEq Cert] in
/-- `getSingleThreadedValidityStatus`: the checkers one after the other. -/
theorem mapM_checkValidity {env : PathEnv Cert} {assigned : Cert → ValidationStatus Cert} :
    ∀ path : List Cert,
      (∀ p ∈ path.zip path.tail, env.checkValidity p.1 p.2 = .ok (assigned p.1)) →
      ((path.zip path.tail).mapM fun p => env.checkValidity p.1 p.2) =
        .ok (path.dropLast.map assigned)
  | [], _ => rfl
  | [_], _ => rfl
  | cert :: issuer :: rest, h => by
      have hhead : env.checkValidity cert issuer = .ok (assigned cert) :=
        h (cert, issuer) List.mem_cons_self
      have htail := mapM_checkValidity (issuer :: rest)
        fun p hp => h p (List.mem_cons_of_mem _ hp)
      simp only [List.tail_cons] at htail
      simp [List.mapM_cons, hhead, htail, bind, Except.bind, pure, Except.pure]

section Modes

variable {env : PathEnv Cert} {path : List Cert} {assigned : Cert → ValidationStatus Cert}

/-- The statuses of a path, collected in any order, are judged in its order. -/
theorem checkPath_eq {l : List (ValidationStatus Cert)} (hnodup : path.Nodup)
    (hlength : 2 ≤ path.length)
    (hnames : ∀ cert ∈ path.dropLast, (assigned cert).certificate = cert)
    (hcollected : collectStatuses env path = .ok l)
    (hperm : l.Perm (path.dropLast.map assigned)) :
    checkPath env path = checkStatuses env (path.dropLast.map assigned)
      (pathResult path assigned) path.dropLast.reverse := by
  unfold checkPath
  rw [if_neg (by omega), hcollected]
  simp only [bind, Except.bind, sortResults_eq hnodup hnames hperm]
  rfl

/-- Both modes come to the walk over the statuses of the path. -/
theorem checkPath_modes (hnodup : path.Nodup) (hlength : 2 ≤ path.length)
    (hnames : ∀ cert ∈ path.dropLast, (assigned cert).certificate = cert)
    (hchecked : ∀ p ∈ path.zip path.tail, env.checkValidity p.1 p.2 = .ok (assigned p.1))
    (hdelivered : Collects path assigned (env.delivered path)) (singleThreaded : Bool) :
    checkPath { env with singleThreaded := singleThreaded } path =
      checkStatuses env (path.dropLast.map assigned) (pathResult path assigned)
        path.dropLast.reverse := by
  have hperm := collects_perm hdelivered
  cases singleThreaded with
  | true =>
      have hcollected : collectStatuses { env with singleThreaded := true } path =
          .ok (path.dropLast.map assigned) := by
        simp only [collectStatuses, if_true, mapM_checkValidity path hchecked]
      rw [checkPath_eq hnodup hlength hnames hcollected (List.Perm.refl _)]
      apply checkStatuses_congr
      rfl
  | false =>
      have hcomplete : (env.delivered path).length = path.length - 1 := by
        rw [hperm.length_eq, List.length_map, List.length_dropLast]
      have hcollected : collectStatuses { env with singleThreaded := false } path =
          .ok (env.delivered path) := by
        simp [collectStatuses, hcomplete]
      rw [checkPath_eq hnodup hlength hnames hcollected hperm]
      apply checkStatuses_congr
      rfl

/-- Beyond the search among the anchors, validation is building and checking. -/
theorem validateCertificatePath_built (env : PathEnv Cert) {target : Cert} {chain : List Cert}
    (hanchor : isTrustAnchor target env.trustAnchors ≠ .ok true)
    (hbuild : env.buildPath target chain = .ok path) :
    validateCertificatePath env target chain = checkPath env path := by
  unfold validateCertificatePath
  split
  · contradiction
  · rw [hbuild]

/-- **The outcome does not depend on the order of delivery.** On a path of distinct
certificates whose statuses all arrive, both modes end alike: normally when every
status is valid and signed, else with an exception, and either way with the statuses
in the order of the path. -/
theorem validateCertificatePath_order_independent (env : PathEnv Cert) {target : Cert}
    {chain path : List Cert} {assigned : Cert → ValidationStatus Cert}
    (hanchor : isTrustAnchor target env.trustAnchors ≠ .ok true)
    (hbuild : env.buildPath target chain = .ok path)
    (hnodup : path.Nodup) (hlength : 2 ≤ path.length)
    (hnames : ∀ cert ∈ path.dropLast, (assigned cert).certificate = cert)
    (hchecked : ∀ p ∈ path.zip path.tail, env.checkValidity p.1 p.2 = .ok (assigned p.1))
    (hdelivered : Collects path assigned (env.delivered path)) :
    let multiThreaded := validateCertificatePath { env with singleThreaded := false } target chain
    let singleThreaded := validateCertificatePath { env with singleThreaded := true } target chain
    multiThreaded = singleThreaded ∧
      if ∀ cert ∈ path.dropLast, (assigned cert).Confirmed then
        ∃ result, multiThreaded = .ok result ∧
          result.validationStatusList = some (path.dropLast.map assigned)
      else
        ∃ message result, multiThreaded = .error (.extended message result) ∧
          result.validationStatusList = some (path.dropLast.map assigned) := by
  intro multiThreaded singleThreaded
  have hmodes := checkPath_modes hnodup hlength hnames hchecked hdelivered
  have hmulti : multiThreaded = checkStatuses env (path.dropLast.map assigned)
      (pathResult path assigned) path.dropLast.reverse :=
    (validateCertificatePath_built { env with singleThreaded := false } hanchor hbuild).trans
      (hmodes false)
  have hsingle : singleThreaded = checkStatuses env (path.dropLast.map assigned)
      (pathResult path assigned) path.dropLast.reverse :=
    (validateCertificatePath_built { env with singleThreaded := true } hanchor hbuild).trans
      (hmodes true)
  refine ⟨hmulti.trans hsingle.symm, ?_⟩
  have hget : ∀ cert ∈ path.dropLast.reverse,
      getStatus (path.dropLast.map assigned) cert = some (assigned cert) := by
    intro cert hcert
    rw [getStatus_map hnames (List.Perm.refl _), if_pos (List.mem_reverse.mp hcert)]
  have hwalk := checkStatuses_walk env (pathResult path assigned) hget
  simp only [List.mem_reverse] at hwalk
  rw [hmulti]
  split
  · rename_i hall
    rw [if_pos hall] at hwalk
    exact ⟨_, hwalk, rfl⟩
  · rename_i hall
    rw [if_neg hall] at hwalk
    obtain ⟨message, hwalk⟩ := hwalk
    exact ⟨message, _, hwalk, rfl⟩

end Modes

def revokedPathStatus (cert : Nat) : ValidationStatus Nat where
  certificate := cert
  validity := if cert = 2 then .REVOKED else .VALID
  statusSignatureValid := true

/-- A path of four certificates whose second one was revoked. Its status comes last. -/
def revokedPathEnv : PathEnv Nat where
  now := 100
  trustAnchors := [some 4]
  buildPath := fun _ _ => .ok [1, 2, 3, 4]
  getSubject := fun _ => "CN=Holder"
  singleThreaded := false
  checkValidity := fun cert _ => .ok (revokedPathStatus cert)
  delivered := fun _ => [3, 1, 2].map revokedPathStatus

theorem validateCertificatePath_order_independent_revoked :
    validateCertificatePath revokedPathEnv 1 [] =
        validateCertificatePath { revokedPathEnv with singleThreaded := true } 1 [] ∧
      ∃ message result, validateCertificatePath revokedPathEnv 1 [] =
          .error (.extended message result) ∧
        result.validationStatusList = some ([1, 2, 3].map revokedPathStatus) := by
  have hdelivered : Collects [1, 2, 3, 4] revokedPathStatus
      (revokedPathEnv.delivered [1, 2, 3, 4]) :=
    collects_of_perm (by decide)
  have h := validateCertificatePath_order_independent revokedPathEnv (by decide)
    (rfl : revokedPathEnv.buildPath 1 [] = .ok [1, 2, 3, 4])
    (by decide) (by decide) (fun _ _ => rfl) (fun _ _ => rfl) hdelivered
  refine ⟨h.1, ?_⟩
  have hnot : ¬ ∀ cert ∈ [1, 2, 3, 4].dropLast, (revokedPathStatus cert).Confirmed := by decide
  have hcase := h.2
  rw [if_neg hnot] at hcase
  exact hcase

end CertificatePathValidator

end SigVal.Cert
