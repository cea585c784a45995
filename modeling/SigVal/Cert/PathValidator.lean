import SigVal.Cert.ValidationStatus

/-!
# Certificate path validation

`CertificatePathValidator` of the `cert-validation` module. It builds a path to
a trust anchor, has the status of every certificate but the anchor checked, and
walks the path from the anchor down. The first certificate that is not valid
under a signed status ends the walk with an exception that carries the whole
result, so what the caller learns depends on what it takes out of the
exception.
-/

namespace SigVal.Cert

open SigVal.Java

/-- `PathValidationResult`. A result from the bare builder has nothing set. -/
structure PathValidationResult (Cert : Type) where
  targetCertificate : Option Cert := none
  validatedCertificatePath : Option (List Cert) := none
  validationStatusList : Option (List (ValidationStatus Cert)) := none
deriving DecidableEq, Repr

/-- The two classes behind the interface `CertificateValidationResult`: the
result of path validation, and a bare path. -/
inductive CertificateValidationResult (Cert : Type) where
  | pathValidation (result : PathValidationResult Cert)
  | default (validatedCertificatePath : List Cert)
deriving DecidableEq, Repr

/-- What a certificate validator throws: an `ExtendedCertPathValidatorException`
with the result it carries, or another exception. -/
inductive PathFailure (Cert : Type) where
  | extended (message : String) (pathValidationResult : PathValidationResult Cert)
  | other (ex : Exn)
deriving DecidableEq, Repr

/-- The outcome of `CertificateValidator.validate`. -/
abbrev PathOutcome (Cert : Type) :=
  Except (PathFailure Cert) (CertificateValidationResult Cert)

variable {Cert : Type}

def CertificateValidationResult.getValidatedCertificatePath :
    CertificateValidationResult Cert → Option (List Cert)
  | .pathValidation result => result.validatedCertificatePath
  | .default path => some path

/-- The failure as an exception object. -/
def PathFailure.toExn : PathFailure Cert → Exn
  | .extended message _ => ⟨.certPathValidator, message⟩
  | .other ex => ex

/-- The path validation result that an outcome brings, returned or carried by an
exception. -/
def carried : PathOutcome Cert → Option (PathValidationResult Cert)
  | .ok (.pathValidation result) => some result
  | .ok (.default _) => none
  | .error (.extended _ result) => some result
  | .error (.other _) => none

/-- Valid, and on the word of a signed status. -/
def ValidationStatus.Confirmed (status : ValidationStatus Cert) : Prop :=
  status.validity = .VALID ∧ status.statusSignatureValid = true

instance (status : ValidationStatus Cert) : Decidable status.Confirmed :=
  inferInstanceAs (Decidable (_ ∧ _))

/-- What path validation works with. -/
structure PathEnv (Cert : Type) where
  now : Date
  /-- `getTrustedCert` of each anchor, `none` for one given by name and key. -/
  trustAnchors : List (Option Cert)
  /-- `pathBuilder.buildPath` and the certificates of the path it finds, the
  target first and the anchor last. -/
  buildPath : Cert → List Cert → Outcome (List Cert)
  getSubject : Cert → String
  singleThreaded : Bool
  /-- `checkValidity` of the checker for a certificate and its issuer. -/
  checkValidity : Cert → Cert → Outcome (ValidationStatus Cert)
  /-- Multi-threaded mode: the statuses the checkers of a path have delivered
  when the waiting loop ends, in the order of their arrival. -/
  delivered : List Cert → List (ValidationStatus Cert)

namespace CertificatePathValidator

variable [DecidableEq Cert]

/-- The search for the target among the anchors. An anchor without certificate
throws when it is reached. -/
def isTrustAnchor (targetCert : Cert) : List (Option Cert) → Outcome Bool
  | [] => .ok false
  | none :: _ => .error Exn.nullPointer
  | some ta :: rest => if ta = targetCert then .ok true else isTrustAnchor targetCert rest

/-- The result for a target that is a trust anchor itself. -/
def trustAnchorResult (env : PathEnv Cert) (targetCert : Cert) : PathValidationResult Cert where
  targetCertificate := some targetCert
  validatedCertificatePath := some [targetCert]
  validationStatusList := some
    [{ certificate := targetCert
       sourceType := some .SELF_SIGNED
       validity := .VALID
       issuer := some targetCert
       validationTime := some env.now }]

def getStatus (validationStatusList : List (ValidationStatus Cert)) (checkedCert : Cert) :
    Option (ValidationStatus Cert) :=
  validationStatusList.find? fun status => decide (status.certificate = checkedCert)

/-- `sortResults`: the statuses in the order of the path. -/
def sortResults (path : List Cert) (validationStatusList : List (ValidationStatus Cert)) :
    List (ValidationStatus Cert) :=
  path.filterMap (getStatus validationStatusList)

/-- The loop from the anchor's neighbour down to the target. -/
def checkStatuses (env : PathEnv Cert) (validationStatusList : List (ValidationStatus Cert))
    (result : PathValidationResult Cert) :
    List Cert → Except (PathFailure Cert) (PathValidationResult Cert)
  | [] => .ok result
  | checkedCert :: rest =>
      match getStatus validationStatusList checkedCert with
      | none =>
          .error (.extended
            ("Missing path validation result for " ++ env.getSubject checkedCert) result)
      | some status =>
          if status.validity = .VALID && status.statusSignatureValid then
            checkStatuses env validationStatusList result rest
          else if status.validity = .UNKNOWN then
            .error (.extended
              ("Certificate validity could not be determined for " ++ env.getSubject checkedCert)
              result)
          else if status.validity = .REVOKED then
            .error (.extended ("Certificate REVOKED for " ++ env.getSubject checkedCert) result)
          else
            .error (.extended
              ("Certificate status checking failed for " ++ env.getSubject checkedCert) result)

/-- The statuses the two modes collect for a path. An incomplete list is an
error in multi-threaded mode. -/
def collectStatuses (env : PathEnv Cert) (path : List Cert) :
    Except (PathFailure Cert) (List (ValidationStatus Cert)) :=
  if env.singleThreaded then
    match (path.zip path.tail).mapM fun p => env.checkValidity p.1 p.2 with
    | .ok statuses => .ok statuses
    | .error ex => .error (.other ex)
  else if (env.delivered path).length ≠ path.length - 1 then
    .error (.extended "Unable to obtain status information for all certificates in the path" {})
  else .ok (env.delivered path)

/-- The checks on a path that was built. -/
def checkPath (env : PathEnv Cert) (path : List Cert) :
    Except (PathFailure Cert) (PathValidationResult Cert) :=
  if path.length < 2 then
    .error (.extended "Valid path too short for validity checking. Must be at least length = 2" {})
  else do
    let collected ← collectStatuses env path
    let validationStatusList := sortResults path collected
    let result : PathValidationResult Cert :=
      { targetCertificate := path.head?
        validatedCertificatePath := some path
        validationStatusList := some validationStatusList }
    checkStatuses env validationStatusList result path.dropLast.reverse

/-- `validateCertificatePath`. -/
def validateCertificatePath (env : PathEnv Cert) (targetCert : Cert) (chain : List Cert) :
    Except (PathFailure Cert) (PathValidationResult Cert) :=
  match isTrustAnchor targetCert env.trustAnchors with
  | .ok true => .ok (trustAnchorResult env targetCert)
  | _ =>
      match env.buildPath targetCert chain with
      | .error ex => .error (.extended ex.msg {})
      | .ok path => checkPath env path

/-- The outcome in the type a signature validator sees. -/
def validate (env : PathEnv Cert) (targetCert : Cert) (chain : List Cert) : PathOutcome Cert :=
  (validateCertificatePath env targetCert chain).map .pathValidation

/-! ## What the loop establishes -/

theorem getStatus_certificate {l : List (ValidationStatus Cert)} {cert : Cert}
    {status : ValidationStatus Cert} (h : getStatus l cert = some status) :
    status.certificate = cert := by
  simpa using List.find?_some h

theorem getStatus_mem {l : List (ValidationStatus Cert)} {cert : Cert}
    {status : ValidationStatus Cert} (h : getStatus l cert = some status) : status ∈ l :=
  List.mem_of_find?_eq_some h

/-- Sorting keeps the status found for a certificate of the path. -/
theorem getStatus_sortResults {l : List (ValidationStatus Cert)} {cert : Cert} :
    ∀ {path : List Cert}, cert ∈ path →
      getStatus (sortResults path l) cert = getStatus l cert
  | c :: path, hmem => by
      unfold sortResults
      by_cases hc : c = cert
      · subst hc
        cases hs : getStatus l c with
        | some status =>
            rw [List.filterMap_cons_some hs]
            simp [getStatus, getStatus_certificate hs]
        | none =>
            rw [List.filterMap_cons_none hs]
            -- no later certificate of the path brings a status for this one
            refine List.find?_eq_none.mpr ?_
            intro status hstatus
            obtain ⟨c', _, hc'⟩ := List.mem_filterMap.mp hstatus
            have hne := List.find?_eq_none.mp hs status (getStatus_mem hc')
            simpa using hne
      · have htail : cert ∈ path := by
          rcases List.mem_cons.mp hmem with h | h
          · exact absurd h.symm hc
          · exact h
        have ih := getStatus_sortResults (l := l) htail
        unfold sortResults at ih
        cases hs : getStatus l c with
        | none => rw [List.filterMap_cons_none hs, ih]
        | some status =>
            rw [List.filterMap_cons_some hs, ← ih]
            have hne : status.certificate ≠ cert := by
              rw [getStatus_certificate hs]
              exact hc
            simp [getStatus, hne]

/-- The walk ends normally only on confirmed certificates. -/
theorem checkStatuses_ok {env : PathEnv Cert} {l : List (ValidationStatus Cert)}
    {result r : PathValidationResult Cert} {certs : List Cert}
    (h : checkStatuses env l result certs = .ok r) :
    r = result ∧ ∀ cert ∈ certs, ∃ status, getStatus l cert = some status ∧ status.Confirmed := by
  induction certs with
  | nil =>
      cases h
      exact ⟨rfl, by simp⟩
  | cons cert rest ih =>
      unfold checkStatuses at h
      cases hs : getStatus l cert with
      | none => simp [hs] at h
      | some status =>
          simp only [hs] at h
          split at h
          · rename_i hvalid
            obtain ⟨hr, hrest⟩ := ih h
            have hconf : status.Confirmed := by simpa [ValidationStatus.Confirmed] using hvalid
            refine ⟨hr, ?_⟩
            intro c hc
            rcases List.mem_cons.mp hc with rfl | hc
            · exact ⟨status, hs, hconf⟩
            · exact hrest c hc
          · split at h
            · cases h
            · split at h <;> cases h

/-- The collected statuses are about certificates of the path other than its
anchor. -/
def AboutPath (path : List Cert) (l : List (ValidationStatus Cert)) : Prop :=
  ∀ status ∈ l, status.certificate ∈ path.dropLast

/-- **A normal return.** When the target is not an anchor and the statuses are
about the path, every status of the result is valid and signed. -/
theorem checkPath_confirmed {env : PathEnv Cert} {path : List Cert}
    {r : PathValidationResult Cert}
    (habout : ∀ l, collectStatuses env path = .ok l → AboutPath path l)
    (h : checkPath env path = .ok r) :
    ∃ l, r.validationStatusList = some l ∧ ∀ status ∈ l, status.Confirmed := by
  unfold checkPath at h
  split at h
  · cases h
  · cases hcol : collectStatuses env path with
    | error f => simp [hcol, bind, Except.bind] at h
    | ok collected =>
        simp only [hcol, bind, Except.bind] at h
        obtain ⟨rfl, hall⟩ := checkStatuses_ok h
        refine ⟨_, rfl, ?_⟩
        intro status hstatus
        obtain ⟨c, hc, hget⟩ := List.mem_filterMap.mp hstatus
        have hcert : status.certificate = c := getStatus_certificate hget
        have hdrop : c ∈ path.dropLast := hcert ▸ habout _ hcol status (getStatus_mem hget)
        obtain ⟨status', hget', hconf⟩ := hall c (by simpa using hdrop)
        rw [getStatus_sortResults hc, hget] at hget'
        cases hget'
        exact hconf

end CertificatePathValidator

end SigVal.Cert
