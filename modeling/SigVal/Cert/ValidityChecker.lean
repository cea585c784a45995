import SigVal.Lib.FailFast
import SigVal.Lib.Runs
import SigVal.Cert.ValidationStatus

/-!
# Checking the validity of one certificate

`BasicCertificateValidityChecker` asks a revocation list and an OCSP responder,
checks the trust path of each answer, and picks one. In single-threaded mode
the answers come in a fixed order. In multi-threaded mode two threads deliver
them while the caller polls, and the caller may stop before the second one is
there. `PollState` is the shared state of the three threads, and `PollStep` one
atomic action of one of them. Deliveries are synchronized, reading is not: the
caller reads the list element by element, and a delivery that falls between two
accesses of one stream ends the call with an exception.

The trust path of an OCSP answer may need the validity of the responder's own
certificate, which is found by the same procedure. `Returns` relates a call to
each of its possible results, whatever the depth of that recursion.
-/

namespace SigVal.Cert

open SigVal.Java SigVal.Runs SigVal.FailFast

variable {Cert Crl : Type}

/-! ## `BasicValidityPathChecker` -/

section PathCheck

variable [DecidableEq Cert]

namespace BasicValidityPathChecker

def checkCrlTrustPath (env : StatusEnv Cert Crl) (status : ValidationStatus Cert) :
    Outcome Unit :=
  match status.issuer, status.statusSignerCertificate with
  | some issuer, some statusSignerCertificate =>
      if !env.isCurrentlyValid issuer then
        throw ⟨.runtime,
          "CRL validation failed: Expired or not yet valid CRL issuer certificate"⟩
      else if issuer ≠ statusSignerCertificate then
        throw ⟨.runtime,
          "CRL validation failed: CRL is not verified through the target CA certificate"⟩
      else if env.getBasicConstraints statusSignerCertificate < 0 then
        throw ⟨.runtime, "CRL validation failed: Non CA CRL issuer"⟩
      else
        match env.getKeyUsage statusSignerCertificate with
        | some keyUsage =>
            if keyUsage.getD 6 false then pure ()
            else throw ⟨.runtime, "CRL validation failed: CRL key usage bit not set"⟩
        | none => throw ⟨.runtime, "CRL validation failed: CRL key usage bit not set"⟩
  | _, _ =>
      throw ⟨.runtime,
        "CRL validation failed: CRL issuer certificate missing for CRL validation"⟩

/-- The purpose identifier `id_kp_OCSPSigning`. -/
def ocspSigning : String := "1.3.6.1.5.5.7.3.9"

def hasOcspKeyUsage (env : StatusEnv Cert Crl) (certificate : Cert) : Bool :=
  match env.getExtendedKeyUsage certificate with
  | .ok (some purposes) => purposes.contains ocspSigning
  | _ => false

/-- The checks of `checkOcspTrustPath` up to the validity of the responder
certificate. When they pass, the result is `none` if that certificate needs no
check of its own, and the certificate and its issuer if it does. -/
def ocspPathChecks (env : StatusEnv Cert Crl) (status : ValidationStatus Cert) :
    Outcome (Option (Cert × Cert)) :=
  match status.issuer, status.statusSignerCertificate, status.statusSignerCertificateChain with
  | some issuer, some statusSignerCertificate, some (certificate :: rest) =>
      if !env.isCurrentlyValid issuer then
        throw ⟨.runtime, "OCSP validation failed: Expired or not yet valid issuer certificate"⟩
      else if !env.isCurrentlyValid statusSignerCertificate then
        throw ⟨.runtime,
          "OCSP validation failed: Expired or not yet valid OCSP signer certificate"⟩
      else if issuer = statusSignerCertificate then pure none
      else
        match env.certVerify statusSignerCertificate issuer with
        | .error _ =>
            throw ⟨.runtime, "OCSP validation failed: OCSP responder certificate can't be " ++
              "verified using target CA certificate"⟩
        | .ok () =>
            if (certificate :: rest).contains status.certificate then
              throw ⟨.runtime, "OCSP recursive error: OCSP responder certificate trust path " ++
                "contains target certificate"⟩
            else if !hasOcspKeyUsage env statusSignerCertificate then
              throw ⟨.runtime,
                "OCSP validation failed: OCSP responder certificate lacks OCSP key usage"⟩
            else if env.isOCSPNocheckExt statusSignerCertificate then pure none
            else pure (some (statusSignerCertificate, issuer))
  | _, _, _ =>
      throw ⟨.runtime,
        "OCSP validation failed: Missing necessary certificates to validate OCSP response"⟩

/-- `checkOcspTrustPath`. `responder` is the result of the nested check of the
responder certificate; it is looked at only when that check is made. -/
def checkOcspTrustPath (env : StatusEnv Cert Crl) (responder : Outcome (ValidationStatus Cert))
    (status : ValidationStatus Cert) : Outcome Unit := do
  match ← ocspPathChecks env status with
  | none => pure ()
  | some _ =>
      let validationStatus ← responder
      if validationStatus.validity ≠ .VALID then
        throw ⟨.runtime,
          "OCSP validation failed: OCSP responder certificate failed validity check"⟩

def verifyValidityStatusTrustPath (env : StatusEnv Cert Crl)
    (responder : Outcome (ValidationStatus Cert)) (status : ValidationStatus Cert) :
    Outcome Unit :=
  match status.sourceType with
  | some .OCSP => checkOcspTrustPath env responder status
  | some .CRL => checkCrlTrustPath env status
  | some .SELF_SIGNED => pure ()
  | none => throw Exn.nullPointer

/-- The certificate and issuer whose validity the trust path of a status
depends on, if there is one. -/
def responderCheck (env : StatusEnv Cert Crl) (status : ValidationStatus Cert) :
    Option (Cert × Cert) :=
  if status.statusSignatureValid && status.sourceType == some .OCSP then
    match ocspPathChecks env status with
    | .ok target => target
    | .error _ => none
  else none

end BasicValidityPathChecker

/-! ## `BasicCertificateValidityChecker` -/

namespace BasicCertificateValidityChecker

def sourceTypeName : Option ValidatorSourceType → String
  | some .OCSP => "OCSP"
  | some .CRL => "CRL"
  | some .SELF_SIGNED => "SELF_SIGNED"
  | none => "null"

/-- `checkStatusPath`. Both checkers build the status they return, so the
branch of the source for a missing one is never taken. A status without a valid
signature keeps its validity. -/
def checkStatusPath (env : StatusEnv Cert Crl) (responder : Outcome (ValidationStatus Cert))
    (status : ValidationStatus Cert) : ValidationStatus Cert :=
  if status.statusSignatureValid then
    match BasicValidityPathChecker.verifyValidityStatusTrustPath env responder status with
    | .ok () => status
    | .error ex => { status with validity := .UNKNOWN, exception := some ex }
  else
    { status with
      exception := some ⟨.runtime,
        "Unable to obtain valid status token for " ++ sourceTypeName status.sourceType⟩ }

end BasicCertificateValidityChecker

end PathCheck

/-! ## The pick -/

namespace BasicCertificateValidityChecker

/-- Signed, and of this validity. -/
def signedAs (validity : CertificateValidity) (status : ValidationStatus Cert) : Bool :=
  status.statusSignatureValid && status.validity == validity

/-- A signed status that says valid or revoked. -/
def conclusive (status : ValidationStatus Cert) : Bool :=
  status.statusSignatureValid && (status.validity == .REVOKED || status.validity == .VALID)

def isCompleteValidation (size : Nat) (validationStatusList : List (ValidationStatus Cert)) :
    Bool :=
  if validationStatusList.isEmpty then false
  else if validationStatusList.length == size then true
  else validationStatusList.any conclusive

/-- The end of `checkValidity`: a revoked status first, then a valid one, then
whatever came first. The three are read from the list one after the other. -/
def pickResult (revokedStatus validStatus : Option (ValidationStatus Cert))
    (validationStatusList : List (ValidationStatus Cert)) : Outcome (ValidationStatus Cert) :=
  match revokedStatus, validStatus, validationStatusList with
  | some status, _, _ => .ok status
  | none, some status, _ => .ok status
  | none, none, status :: _ => .ok status
  | none, none, [] => .error ⟨.runtime, "Validity checking: No valid responses"⟩

/-- Picking from a list that does not change any more. -/
def pick (validationStatusList : List (ValidationStatus Cert)) :
    Outcome (ValidationStatus Cert) :=
  pickResult (validationStatusList.find? (signedAs .REVOKED))
    (validationStatusList.find? (signedAs .VALID)) validationStatusList

/-! ## The three threads -/

/-- Where the calling thread is in `checkValidity`. From `polling` to `collecting` it
is in `isCompleteValidation`. -/
inductive Phase (Cert : Type) where
  | polling
  | notEmpty
  | notFull
  | collecting (traversal : Traversal) (found : Bool)
  | incomplete
  | stopped
  | findingRevoked (traversal : Traversal)
  | revokedRead (revokedStatus : Option (ValidationStatus Cert))
  | findingValid (revokedStatus : Option (ValidationStatus Cert)) (traversal : Traversal)
  | validRead (revokedStatus validStatus : Option (ValidationStatus Cert))
  | returned (result : Outcome (ValidationStatus Cert))

/-- The shared state: what each checker thread has still to deliver, the list
of delivered statuses, and the calling thread. A thread that never delivers has
nothing to deliver. -/
structure PollState (Cert : Type) where
  crlThread : Option (ValidationStatus Cert)
  ocspThread : Option (ValidationStatus Cert)
  validationStatusList : List (ValidationStatus Cert)
  phase : Phase Cert

def PollState.start (crl ocsp : Option (ValidationStatus Cert)) : PollState Cert :=
  ⟨crl, ocsp, [], .polling⟩

/-- The end of the stream in `isCompleteValidation`, where it looks for changes. -/
def afterCollecting (size : Nat) (traversal : Traversal) (found : Bool) : Phase Cert :=
  if size = traversal.fence then
    if found then .stopped else .incomplete
  else .returned (.error Exn.concurrentModification)

/-- What an access of a `findFirst` leads to. -/
def afterAccess (again : Traversal → Phase Cert)
    (done : Option (ValidationStatus Cert) → Phase Cert) :
    Advance (ValidationStatus Cert) → Phase Cert
  | .modified => .returned (.error Exn.concurrentModification)
  | .found status => done (some status)
  | .exhausted => done none
  | .more traversal => again traversal

/-- One atomic action. A delivery is one call of the synchronized
`propertyChange`; deliveries go on after the caller has stopped polling. Every
access of the calling thread to the list is an action of its own, but for the
last one: once there is a first element it stays. The polling loop stops when
the validation is complete or, if the clock may run out, after any poll. -/
inductive PollStep (timeouts : Bool) : PollState Cert → PollState Cert → Prop where
  | deliverCrl {s : PollState Cert} {status : ValidationStatus Cert} :
      s.crlThread = some status →
      PollStep timeouts s
        { s with
          crlThread := none
          validationStatusList := s.validationStatusList ++ [status] }
  | deliverOcsp {s : PollState Cert} {status : ValidationStatus Cert} :
      s.ocspThread = some status →
      PollStep timeouts s
        { s with
          ocspThread := none
          validationStatusList := s.validationStatusList ++ [status] }
  | isEmpty {s : PollState Cert} :
      s.phase = .polling →
      PollStep timeouts s
        { s with phase := if s.validationStatusList.isEmpty then .incomplete else .notEmpty }
  | size {s : PollState Cert} :
      s.phase = .notEmpty →
      PollStep timeouts s
        { s with phase := if s.validationStatusList.length = 2 then .stopped else .notFull }
  | startCollecting {s : PollState Cert} :
      s.phase = .notFull →
      PollStep timeouts s
        { s with phase := .collecting (.start s.validationStatusList) false }
  | collect {s : PollState Cert} {traversal : Traversal} {found : Bool} :
      s.phase = .collecting traversal found → traversal.hasMore = true →
      PollStep timeouts s
        { s with
          phase := .collecting traversal.next
            (found || s.validationStatusList[traversal.index]?.any conclusive) }
  | collected {s : PollState Cert} {traversal : Traversal} {found : Bool} :
      s.phase = .collecting traversal found → traversal.hasMore = false →
      PollStep timeouts s
        { s with phase := afterCollecting s.validationStatusList.length traversal found }
  | pollAgain {s : PollState Cert} :
      s.phase = .incomplete → PollStep timeouts s { s with phase := .polling }
  | timeout {s : PollState Cert} :
      timeouts = true → s.phase = .incomplete → PollStep timeouts s { s with phase := .stopped }
  | startRevoked {s : PollState Cert} :
      s.phase = .stopped →
      PollStep timeouts s { s with phase := .findingRevoked (.start s.validationStatusList) }
  | readRevoked {s : PollState Cert} {traversal : Traversal} :
      s.phase = .findingRevoked traversal →
      PollStep timeouts s
        { s with
          phase := afterAccess .findingRevoked .revokedRead
            (traversal.advance (signedAs .REVOKED) s.validationStatusList) }
  | startValid {s : PollState Cert} {revokedStatus : Option (ValidationStatus Cert)} :
      s.phase = .revokedRead revokedStatus →
      PollStep timeouts s
        { s with phase := .findingValid revokedStatus (.start s.validationStatusList) }
  | readValid {s : PollState Cert} {revokedStatus : Option (ValidationStatus Cert)}
      {traversal : Traversal} :
      s.phase = .findingValid revokedStatus traversal →
      PollStep timeouts s
        { s with
          phase := afterAccess (.findingValid revokedStatus) (.validRead revokedStatus)
            (traversal.advance (signedAs .VALID) s.validationStatusList) }
  | finish {s : PollState Cert} {revokedStatus validStatus : Option (ValidationStatus Cert)} :
      s.phase = .validRead revokedStatus validStatus →
      PollStep timeouts s
        { s with
          phase := .returned (pickResult revokedStatus validStatus s.validationStatusList) }

/-- A multi-threaded call, given what its threads deliver, may return this. -/
def MultiReturns (timeouts : Bool) (crl ocsp : Option (ValidationStatus Cert))
    (result : Outcome (ValidationStatus Cert)) : Prop :=
  ∃ state, Run (PollStep timeouts) (PollState.start crl ocsp) state ∧
    state.phase = .returned result

/-! ## Results of a call -/

section Calls

variable [DecidableEq Cert]

mutual
/-- `checkStatusPath` may turn the status into this one. -/
inductive Checked (env : StatusEnv Cert Crl) (singleThreaded : Bool) :
    ValidationStatus Cert → ValidationStatus Cert → Prop where
  | alone {status : ValidationStatus Cert} (unused : Outcome (ValidationStatus Cert)) :
      BasicValidityPathChecker.responderCheck env status = none →
      Checked env singleThreaded status (checkStatusPath env unused status)
  | responder {status : ValidationStatus Cert} {signer issuer : Cert}
      {result : Outcome (ValidationStatus Cert)} :
      BasicValidityPathChecker.responderCheck env status = some (signer, issuer) →
      Returns env singleThreaded signer issuer result →
      Checked env singleThreaded status (checkStatusPath env result status)

/-- `checkValidity()` for a certificate and its issuer may return this. -/
inductive Returns (env : StatusEnv Cert Crl) (singleThreaded : Bool) :
    Cert → Cert → Outcome (ValidationStatus Cert) → Prop where
  | single {certificate issuer : Cert} {crl ocsp : ValidationStatus Cert} :
      singleThreaded = true →
      Checked env singleThreaded (CRLValidityChecker.checkValidity env certificate issuer) crl →
      Checked env singleThreaded
        (OCSPCertificateVerifier.checkValidity env certificate issuer env.now) ocsp →
      Returns env singleThreaded certificate issuer (pick [crl, ocsp])
  | multi {certificate issuer : Cert} {crl ocsp : Option (ValidationStatus Cert)}
      {result : Outcome (ValidationStatus Cert)} :
      singleThreaded = false →
      (∀ status, crl = some status → Checked env singleThreaded
        (CRLValidityChecker.checkValidity env certificate issuer) status) →
      (∀ status, ocsp = some status → Checked env singleThreaded
        (OCSPCertificateVerifier.checkValidity env certificate issuer env.now) status) →
      MultiReturns true crl ocsp result →
      Returns env singleThreaded certificate issuer result
end

end Calls

/-! ## What is picked -/

theorem signedAs_iff {validity : CertificateValidity} {status : ValidationStatus Cert} :
    signedAs validity status = true ↔
      status.statusSignatureValid = true ∧ status.validity = validity := by
  simp [signedAs]

/-- The pick is a signed status, or the first one of the list. -/
theorem pick_ok {l : List (ValidationStatus Cert)} {status : ValidationStatus Cert}
    (h : pick l = .ok status) :
    (status ∈ l ∧ status.statusSignatureValid = true) ∨ l.head? = some status := by
  unfold pick at h
  cases hrevoked : l.find? (signedAs .REVOKED) with
  | some s =>
      rw [hrevoked] at h
      cases h
      exact Or.inl ⟨List.mem_of_find?_eq_some hrevoked,
        (signedAs_iff.mp (List.find?_some hrevoked)).1⟩
  | none =>
      cases hvalid : l.find? (signedAs .VALID) with
      | some s =>
          rw [hrevoked, hvalid] at h
          cases h
          exact Or.inl ⟨List.mem_of_find?_eq_some hvalid,
            (signedAs_iff.mp (List.find?_some hvalid)).1⟩
      | none =>
          rw [hrevoked, hvalid] at h
          cases l with
          | nil => cases h
          | cons s rest =>
              cases h
              exact Or.inr rfl

/-! ### Undisturbed reading -/

/-- A search that nothing comes between ends with what it looks for. -/
theorem run_search {timeouts : Bool} {crl ocsp : Option (ValidationStatus Cert)}
    {l : List (ValidationStatus Cert)} {p : ValidationStatus Cert → Bool}
    {again : Traversal → Phase Cert} {done : Option (ValidationStatus Cert) → Phase Cert}
    (haccess : ∀ t, PollStep timeouts ⟨crl, ocsp, l, again t⟩
      ⟨crl, ocsp, l, afterAccess again done (t.advance p l)⟩) :
    ∀ (left : Nat) (t : Traversal), l.length - t.index = left → t.Searches p l →
      Run (PollStep timeouts) ⟨crl, ocsp, l, again t⟩ ⟨crl, ocsp, l, done (l.find? p)⟩ := by
  intro left
  induction left with
  | zero =>
      intro t hleft hsearches
      have hright := hsearches.advance (List.prefix_refl l)
      apply Relation.ReflTransGen.head (haccess t)
      have hmore : t.hasMore = false :=
        decide_eq_false (by rw [hsearches.reads.fence]; omega)
      have hexhausted : t.advance p l = .exhausted := by simp [Traversal.advance, hmore]
      rw [hexhausted] at hright ⊢
      rw [hright]
      exact .refl
  | succ left ih =>
      intro t hleft hsearches
      have hright := hsearches.advance (List.prefix_refl l)
      apply Relation.ReflTransGen.head (haccess t)
      cases hadvance : t.advance p l with
      | modified =>
          rw [hadvance] at hright
          exact absurd hsearches.reads.fence.symm hright.2
      | found a =>
          rw [hadvance] at hright
          rw [hright]
          exact .refl
      | exhausted =>
          rw [hadvance] at hright
          rw [hright]
          exact .refl
      | more t' =>
          rw [hadvance] at hright
          obtain ⟨rfl, -, hnext⟩ := hright
          exact ih t.next (by simp only [Traversal.next]; omega) hnext

/-- Once stopped, the calling thread may pick without being interrupted. -/
theorem run_pick (timeouts : Bool) (crl ocsp : Option (ValidationStatus Cert))
    (l : List (ValidationStatus Cert)) :
    Run (PollStep timeouts) ⟨crl, ocsp, l, .stopped⟩ ⟨crl, ocsp, l, .returned (pick l)⟩ := by
  apply Relation.ReflTransGen.head (.startRevoked rfl)
  apply (run_search (fun _ => .readRevoked rfl) _ _ rfl (Traversal.start_searches _ l)).trans
  apply Relation.ReflTransGen.head (.startValid rfl)
  apply (run_search (fun _ => .readValid rfl) _ _ rfl (Traversal.start_searches _ l)).trans
  exact Relation.ReflTransGen.single (.finish rfl)

/-- While nothing is decided the loop goes round, and the clock may stop it. -/
theorem run_timeout (crl ocsp : Option (ValidationStatus Cert)) (status : ValidationStatus Cert) :
    Run (PollStep true) ⟨crl, ocsp, [status], .polling⟩ ⟨crl, ocsp, [status], .stopped⟩ := by
  apply Relation.ReflTransGen.head (.isEmpty rfl)
  apply Relation.ReflTransGen.head (.size rfl)
  apply Relation.ReflTransGen.head (.startCollecting rfl)
  apply Relation.ReflTransGen.head (.collect rfl rfl)
  apply Relation.ReflTransGen.head (.collected rfl rfl)
  show Run (PollStep true)
    ⟨crl, ocsp, [status], if false || conclusive status then .stopped else .incomplete⟩ _
  split
  · exact .refl
  · exact Relation.ReflTransGen.single (.timeout rfl rfl)

/-- The statuses that the calling thread has read in this phase. -/
def Phase.Holds : Phase Cert → ValidationStatus Cert → Prop
  | .revokedRead r, status => r = some status
  | .findingValid r _, status => r = some status
  | .validRead r v, status => r = some status ∨ v = some status
  | .returned result, status => result = .ok status
  | _, _ => False

/-- Every status the calling thread holds was delivered to it. -/
structure Delivers (D : ValidationStatus Cert → Prop) (s : PollState Cert) : Prop where
  crl : ∀ status, s.crlThread = some status → D status
  ocsp : ∀ status, s.ocspThread = some status → D status
  list : ∀ status ∈ s.validationStatusList, D status
  phase : ∀ status, s.phase.Holds status → D status

/-- An access of a search adds at most a status of the list. -/
theorem afterAccess_holds {again : Traversal → Phase Cert}
    {done : Option (ValidationStatus Cert) → Phase Cert} {l : List (ValidationStatus Cert)}
    {p : ValidationStatus Cert → Bool} {t : Traversal} {H : ValidationStatus Cert → Prop}
    {status : ValidationStatus Cert}
    (h : (afterAccess again done (t.advance p l)).Holds status)
    (hagain : ∀ t status, (again t).Holds status → H status)
    (hdone : ∀ found status, (done found).Holds status → H status ∨ found = some status) :
    H status ∨ status ∈ l := by
  unfold Traversal.advance at h
  split at h
  · split at h
    · split at h
      · rename_i a hget
        split at h
        · rcases hdone _ _ h with hheld | hfound
          · exact .inl hheld
          · cases hfound
            exact .inr (List.mem_of_getElem? hget)
        · exact .inl (hagain _ _ h)
      · rcases hdone _ _ h with hheld | hfound
        · exact .inl hheld
        · cases hfound
    · cases h
  · rcases hdone _ _ h with hheld | hfound
    · exact .inl hheld
    · cases hfound

theorem pickResult_delivered {D : ValidationStatus Cert → Prop}
    {r v : Option (ValidationStatus Cert)} {l : List (ValidationStatus Cert)}
    (hr : ∀ status, r = some status → D status) (hv : ∀ status, v = some status → D status)
    (hl : ∀ status ∈ l, D status) :
    ∀ status, pickResult r v l = .ok status → D status := by
  intro status h
  match r, v, l with
  | some s, _, _ =>
      cases h
      exact hr _ rfl
  | none, some s, _ =>
      cases h
      exact hv _ rfl
  | none, none, s :: rest =>
      cases h
      exact hl _ List.mem_cons_self
  | none, none, [] => cases h

theorem Delivers.step {timeouts : Bool} {D : ValidationStatus Cert → Prop}
    (s t : PollState Cert) (hstep : PollStep timeouts s t) (h : Delivers D s) : Delivers D t := by
  have happend : ∀ new, D new → ∀ status ∈ s.validationStatusList ++ [new], D status := by
    intro new hnew status hmem
    rcases List.mem_append.mp hmem with hmem | hmem
    · exact h.list status hmem
    · rw [List.mem_singleton] at hmem
      exact hmem ▸ hnew
  have hkeep : ∀ phase : Phase Cert, (∀ status, phase.Holds status → D status) →
      Delivers D { s with phase := phase } :=
    fun _ hphase => ⟨h.crl, h.ocsp, h.list, hphase⟩
  have hheld := h.phase
  cases hstep with
  | deliverCrl hcrl =>
      refine ⟨?_, h.ocsp, happend _ (h.crl _ hcrl), h.phase⟩
      intro status hnone
      cases hnone
  | deliverOcsp hocsp =>
      refine ⟨h.crl, ?_, happend _ (h.ocsp _ hocsp), h.phase⟩
      intro status hnone
      cases hnone
  | isEmpty hphase =>
      refine hkeep _ fun status hholds => ?_
      split at hholds
      · cases hholds
      · cases hholds
  | size hphase =>
      refine hkeep _ fun status hholds => ?_
      split at hholds
      · cases hholds
      · cases hholds
  | startCollecting hphase => exact hkeep _ fun status hholds => hholds.elim
  | collect hphase _ => exact hkeep _ fun status hholds => hholds.elim
  | collected hphase _ =>
      refine hkeep _ fun status hholds => ?_
      unfold afterCollecting at hholds
      split at hholds
      · split at hholds
        · cases hholds
        · cases hholds
      · cases hholds
  | pollAgain hphase => exact hkeep _ fun status hholds => hholds.elim
  | timeout _ hphase => exact hkeep _ fun status hholds => hholds.elim
  | startRevoked hphase => exact hkeep _ fun status hholds => hholds.elim
  | readRevoked hphase =>
      refine hkeep _ fun status hholds => ?_
      rcases afterAccess_holds hholds (fun _ _ hnone => (hnone : False))
        (fun _ _ hfound => .inr hfound) with hnone | hmem
      · exact hnone.elim
      · exact h.list status hmem
  | startValid hphase =>
      rw [hphase] at hheld
      exact hkeep _ hheld
  | readValid hphase =>
      rw [hphase] at hheld
      refine hkeep _ fun status hholds => ?_
      rcases afterAccess_holds hholds (fun _ _ hr => hr) (fun _ _ hboth => hboth) with hr | hmem
      · exact hheld status hr
      · exact h.list status hmem
  | finish hphase =>
      rw [hphase] at hheld
      exact hkeep _ (pickResult_delivered (fun status hr => hheld status (.inl hr))
        (fun status hv => hheld status (.inr hv)) h.list)

/-- In every interleaving the call returns a status one of its threads
delivered. -/
theorem multiReturns_delivered {timeouts : Bool} {crl ocsp : Option (ValidationStatus Cert)}
    {status : ValidationStatus Cert} (h : MultiReturns timeouts crl ocsp (.ok status)) :
    crl = some status ∨ ocsp = some status := by
  obtain ⟨state, hrun, hphase⟩ := h
  have hinit : Delivers (fun status => crl = some status ∨ ocsp = some status)
      (PollState.start crl ocsp) := by
    refine ⟨fun _ => Or.inl, fun _ => Or.inr, ?_, ?_⟩
    · intro status hmem
      cases hmem
    · intro status hheld
      cases hheld
  have hend := (Run.invariant Delivers.step hrun hinit).phase
  rw [hphase] at hend
  exact hend status rfl

end BasicCertificateValidityChecker

end SigVal.Cert
