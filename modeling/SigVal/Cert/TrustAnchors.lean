import SigVal.Cert.PathValidator

/-!
# Trust anchors of the certificate validator

`StatusCheckingCertificateValidatorImpl` has default trust anchors, and one of its
entry points takes further ones. Both entry points hand a list of anchors to the same
path validation. The library that builds the path is given the anchors as a set, so
a list of anchors matters only by its members.
-/

namespace SigVal.Cert

open SigVal.Java

variable {Cert : Type} [DecidableEq Cert]

/-! ## Path building -/

/-- The PKIX path builder of the security provider, and what it is given. -/
structure PathBuilderEnv (Cert : Type) where
  /-- A certificate that verifies under its own key. -/
  selfSigned : Cert → Bool
  /-- `CertPathBuilder.build` for a set of anchors, a target and the certificates of
  the chain store: the certificates of the path without the anchor, and the anchor. -/
  build : List Cert → Cert → List Cert → Outcome (List Cert × Cert)

/-- `BasicPathBuilder.buildPath` with `CertUtils.getResultPath`: the target joins the
chain, self-signed certificates leave it, and the anchor ends the path. -/
def BasicPathBuilder.buildPath (env : PathBuilderEnv Cert) (trustAnchors : List Cert)
    (targetCertificate : Cert) (supportingCertificates : List Cert) : Outcome (List Cert) := do
  let chainCerts :=
    if targetCertificate ∈ supportingCertificates then supportingCertificates
    else supportingCertificates ++ [targetCertificate]
  let chainCerts := chainCerts.filter fun certificate => !env.selfSigned certificate
  let result ← env.build trustAnchors targetCertificate chainCerts
  pure (result.1 ++ [result.2])

/-! ## The validator -/

/-- `StatusCheckingCertificateValidatorImpl`, with what its path validator works with. -/
structure StatusCheckingCertificateValidator (Cert : Type) where
  defaultTrustAnchors : List Cert
  builder : PathBuilderEnv Cert
  now : Date
  getSubject : Cert → String
  singleThreaded : Bool
  checkValidity : Cert → Cert → Outcome (ValidationStatus Cert)
  delivered : List Cert → List (ValidationStatus Cert)

namespace StatusCheckingCertificateValidator

/-- `getPathValidator` for a list of anchors. -/
def getPathValidator (v : StatusCheckingCertificateValidator Cert) (trustAnchors : List Cert) :
    PathEnv Cert where
  now := v.now
  trustAnchors := trustAnchors.map some
  buildPath := BasicPathBuilder.buildPath v.builder trustAnchors
  getSubject := v.getSubject
  singleThreaded := v.singleThreaded
  checkValidity := v.checkValidity
  delivered := v.delivered

/-- The cause of a failed path validation, as far as it is not made by the path
validator itself: what path building threw. -/
def buildFailure (env : PathEnv Cert) (targetCert : Cert) (chain : List Cert) : Option Exn :=
  match CertificatePathValidator.isTrustAnchor targetCert env.trustAnchors with
  | .ok true => none
  | _ =>
      match env.buildPath targetCert chain with
      | .error ex => some ex
      | .ok _ => none

/-- `validatePath`: a failed path building comes out as the builder's own exception. -/
def validatePath (v : StatusCheckingCertificateValidator Cert) (subjectCertificate : Cert)
    (additionalCertificates : Option (List Cert)) (trustAnchorCerts : Option (List Cert)) :
    Except (PathFailure Cert) (PathValidationResult Cert) :=
  match trustAnchorCerts with
  | none => .error (.other ⟨.certPathBuilder, "No trust anchor is provided for path building"⟩)
  | some [] => .error (.other ⟨.certPathBuilder, "No trust anchor is provided for path building"⟩)
  | some trustAnchors =>
      let pathValidator := v.getPathValidator trustAnchors
      let chain := additionalCertificates.getD []
      match CertificatePathValidator.validateCertificatePath pathValidator subjectCertificate
        chain with
      | .ok result => .ok result
      | .error failure =>
          match buildFailure pathValidator subjectCertificate chain with
          | some ex => if ex.cls = .certPathBuilder then .error (.other ex) else .error failure
          | none => .error failure

/-- The refusal of CRL input. -/
def crlRefused : PathFailure Cert := .extended "CRL input is not allowed in this implementation" {}

/-- `validate` with the default trust anchors. -/
def validate (v : StatusCheckingCertificateValidator Cert) (subjectCertificate : Cert)
    (additionalCertificates : Option (List Cert)) (crls : Option (List Bytes)) :
    Except (PathFailure Cert) (PathValidationResult Cert) :=
  if (crls.getD []).isEmpty then
    v.validatePath subjectCertificate additionalCertificates (some v.defaultTrustAnchors)
  else .error crlRefused

/-- The defaults and the anchors of the call, which the source puts together. -/
def allTrustedCerts (v : StatusCheckingCertificateValidator Cert)
    (trustAnchors : Option (List Cert)) : List Cert :=
  v.defaultTrustAnchors ++ trustAnchors.getD []

/-- `validate` with trust anchors of the call. What is passed on is the parameter, and
not the list that was put together. -/
def validateWith (v : StatusCheckingCertificateValidator Cert) (subjectCertificate : Cert)
    (additionalCertificates : Option (List Cert)) (crls : Option (List Bytes))
    (trustAnchors : Option (List Cert)) :
    Except (PathFailure Cert) (PathValidationResult Cert) :=
  if (crls.getD []).isEmpty then
    let _allTrustedCerts := v.allTrustedCerts trustAnchors
    v.validatePath subjectCertificate additionalCertificates trustAnchors
  else .error crlRefused

/-! ## Anchors as a set -/

/-- What is relied on of the path builder: it is given the anchors as a set. -/
def TakesAnchorSet (builder : PathBuilderEnv Cert) : Prop :=
  ∀ anchors anchors', (∀ cert, cert ∈ anchors ↔ cert ∈ anchors') →
    ∀ target chain, builder.build anchors target chain = builder.build anchors' target chain

/-- The anchors of the call are trusted in addition to the defaults: the outcome is the
one of a validator that has both as its defaults. -/
def AnchorsAdditive (v : StatusCheckingCertificateValidator Cert)
    (trustAnchors : Option (List Cert)) : Prop :=
  ∀ subjectCertificate additionalCertificates,
    v.validateWith subjectCertificate additionalCertificates none trustAnchors =
      { v with defaultTrustAnchors := v.defaultTrustAnchors ++ trustAnchors.getD [] }.validate
        subjectCertificate additionalCertificates none

theorem isTrustAnchor_map_some (targetCert : Cert) (anchors : List Cert) :
    CertificatePathValidator.isTrustAnchor targetCert (anchors.map some) =
      .ok (decide (targetCert ∈ anchors)) := by
  induction anchors with
  | nil => rfl
  | cons anchor rest ih =>
      rw [List.map_cons, CertificatePathValidator.isTrustAnchor]
      by_cases h : anchor = targetCert
      · simp [h]
      · rw [if_neg h, ih]
        simp [List.mem_cons, Ne.symm h]

/-- The checks on a path do not look at the anchors. -/
theorem checkPath_reanchored (now : Date) (getSubject : Cert → String) (singleThreaded : Bool)
    (checkValidity : Cert → Cert → Outcome (ValidationStatus Cert))
    (delivered : List Cert → List (ValidationStatus Cert)) (anchors anchors' : List (Option Cert))
    (buildPath : Cert → List Cert → Outcome (List Cert)) (path : List Cert) :
    CertificatePathValidator.checkPath
        ⟨now, anchors, buildPath, getSubject, singleThreaded, checkValidity, delivered⟩ path =
      CertificatePathValidator.checkPath
        ⟨now, anchors', buildPath, getSubject, singleThreaded, checkValidity, delivered⟩ path := by
  have hloop : ∀ (l : List (ValidationStatus Cert)) (result : PathValidationResult Cert)
      (certs : List Cert),
      CertificatePathValidator.checkStatuses
          ⟨now, anchors, buildPath, getSubject, singleThreaded, checkValidity, delivered⟩ l result
          certs =
        CertificatePathValidator.checkStatuses
          ⟨now, anchors', buildPath, getSubject, singleThreaded, checkValidity, delivered⟩ l result
          certs := by
    intro l result certs
    induction certs with
    | nil => rfl
    | cons cert rest ih =>
        unfold CertificatePathValidator.checkStatuses
        rw [ih]
  unfold CertificatePathValidator.checkPath
  simp only [hloop]
  rfl

variable {v : StatusCheckingCertificateValidator Cert}

/-- Lists with the same members give the same path validation. -/
theorem validatePath_congr (hset : TakesAnchorSet v.builder) {anchors anchors' : List Cert}
    (h : ∀ cert, cert ∈ anchors ↔ cert ∈ anchors') (subjectCertificate : Cert)
    (additionalCertificates : Option (List Cert)) :
    v.validatePath subjectCertificate additionalCertificates (some anchors) =
      v.validatePath subjectCertificate additionalCertificates (some anchors') := by
  have hbuild : BasicPathBuilder.buildPath v.builder anchors =
      BasicPathBuilder.buildPath v.builder anchors' := by
    ext target chain
    unfold BasicPathBuilder.buildPath
    dsimp only
    rw [hset anchors anchors' h]
  have hanchor : ∀ target,
      CertificatePathValidator.isTrustAnchor target (anchors.map some) =
        CertificatePathValidator.isTrustAnchor target (anchors'.map some) := by
    intro target
    rw [isTrustAnchor_map_some, isTrustAnchor_map_some]
    simp only [h target]
  cases anchors with
  | nil =>
      cases anchors' with
      | nil => rfl
      | cons anchor rest => exact absurd ((h anchor).mpr List.mem_cons_self) List.not_mem_nil
  | cons anchor rest =>
      cases anchors' with
      | nil => exact absurd ((h anchor).mp List.mem_cons_self) List.not_mem_nil
      | cons anchor' rest' =>
          unfold validatePath
          dsimp only
          unfold CertificatePathValidator.validateCertificatePath buildFailure getPathValidator
          dsimp only
          rw [hanchor, hbuild]
          simp only [checkPath_reanchored v.now v.getSubject v.singleThreaded v.checkValidity
            v.delivered _ ((anchor' :: rest').map some)]
          rfl

/-- A target that is an anchor has itself as its path. -/
theorem validatePath_of_anchor {anchors : List Cert} {target : Cert} (h : target ∈ anchors)
    (additionalCertificates : Option (List Cert)) :
    ∃ r, v.validatePath target additionalCertificates (some anchors) = .ok r ∧
      r.validatedCertificatePath = some [target] := by
  have hanchor := isTrustAnchor_map_some target anchors
  rw [decide_eq_true h] at hanchor
  cases anchors with
  | nil => exact absurd h List.not_mem_nil
  | cons anchor rest =>
      refine ⟨CertificatePathValidator.trustAnchorResult
        (v.getPathValidator (anchor :: rest)) target, ?_, rfl⟩
      unfold validatePath CertificatePathValidator.validateCertificatePath
      dsimp only
      rw [show (v.getPathValidator (anchor :: rest)).trustAnchors = (anchor :: rest).map some from
        rfl, hanchor]

/-- A path that was built and checked has at least two certificates. -/
theorem checkPath_length {env : PathEnv Cert} {path : List Cert} {r : PathValidationResult Cert}
    (h : CertificatePathValidator.checkPath env path = .ok r) :
    r.validatedCertificatePath = some path ∧ 2 ≤ path.length := by
  unfold CertificatePathValidator.checkPath at h
  split at h
  · cases h
  · rename_i hlength
    cases hcollect : CertificatePathValidator.collectStatuses env path with
    | error failure => simp [hcollect, bind, Except.bind] at h
    | ok collected =>
        simp only [hcollect, bind, Except.bind] at h
        obtain ⟨rfl, _⟩ := CertificatePathValidator.checkStatuses_ok h
        exact ⟨rfl, by omega⟩

/-- A target that is no anchor does not come out as its own path. -/
theorem validatePath_of_not_anchor {trustAnchors : Option (List Cert)} {target : Cert}
    (h : target ∉ trustAnchors.getD []) {additionalCertificates : Option (List Cert)}
    {r : PathValidationResult Cert}
    (hok : v.validatePath target additionalCertificates trustAnchors = .ok r) :
    r.validatedCertificatePath ≠ some [target] := by
  unfold validatePath at hok
  split at hok
  · cases hok
  · cases hok
  · rename_i anchors _
    have hnot : target ∉ anchors := h
    have hanchor := isTrustAnchor_map_some target anchors
    rw [decide_eq_false hnot] at hanchor
    dsimp only at hok
    unfold CertificatePathValidator.validateCertificatePath at hok
    rw [show (v.getPathValidator anchors).trustAnchors = anchors.map some from rfl, hanchor] at hok
    dsimp only at hok
    cases hbuild : (v.getPathValidator anchors).buildPath target
        (additionalCertificates.getD []) with
    | error ex =>
        simp only [hbuild] at hok
        split at hok
        · split at hok <;> cases hok
        · cases hok
    | ok path =>
        simp only [hbuild] at hok
        cases hcheck : CertificatePathValidator.checkPath (v.getPathValidator anchors) path with
        | error failure =>
            simp only [hcheck] at hok
            split at hok
            · split at hok <;> cases hok
            · cases hok
        | ok result =>
            simp only [hcheck] at hok
            cases hok
            obtain ⟨hpath, hlength⟩ := checkPath_length hcheck
            rw [hpath]
            intro heq
            cases heq
            simp at hlength

/-- **Additive trust anchors.** For every validator and every anchors of a call, absent
ones included: all certificates have the outcome they would have with both lists as
defaults exactly when every default is among the anchors of the call. -/
theorem anchors_additive_iff (hset : TakesAnchorSet v.builder) (trustAnchors : Option (List Cert)) :
    AnchorsAdditive v trustAnchors ↔
      ∀ anchor ∈ v.defaultTrustAnchors, anchor ∈ trustAnchors.getD [] := by
  constructor
  · intro hadditive anchor hmem
    by_contra hnot
    -- validated as a certificate of its own, the default shows the difference
    obtain ⟨r, hok, hpath⟩ := validatePath_of_anchor (v := v)
      (List.mem_append_left (trustAnchors.getD []) hmem) none
    have hsame : v.validatePath anchor none trustAnchors =
        v.validatePath anchor none (some (v.defaultTrustAnchors ++ trustAnchors.getD [])) :=
      hadditive anchor none
    rw [hok] at hsame
    exact validatePath_of_not_anchor hnot hsame hpath
  · intro hsub subjectCertificate additionalCertificates
    have hmembers : ∀ cert, cert ∈ trustAnchors.getD [] ↔
        cert ∈ v.defaultTrustAnchors ++ trustAnchors.getD [] := by
      intro cert
      rw [List.mem_append]
      exact ⟨.inr, fun h => h.elim (hsub cert) id⟩
    show v.validatePath subjectCertificate additionalCertificates trustAnchors =
      v.validatePath subjectCertificate additionalCertificates
        (some (v.defaultTrustAnchors ++ trustAnchors.getD []))
    rw [← validatePath_congr hset hmembers]
    cases trustAnchors with
    | none => rfl
    | some anchors => rfl

end StatusCheckingCertificateValidator

/-! A validator with one default anchor, and a certificate 1 issued by it. -/

open StatusCheckingCertificateValidator

/-- Anchor 2 is the issuer of every certificate. -/
def issuedByTwo : PathBuilderEnv Nat where
  selfSigned := fun certificate => certificate == 2
  build := fun anchors target _ =>
    if 2 ∈ anchors then .ok ([target], 2)
    else
      .error
        ⟨.certPathBuilder, "No issuer certificate for certificate in certification path found."⟩

def defaultsOnly : StatusCheckingCertificateValidator Nat where
  defaultTrustAnchors := [2]
  builder := issuedByTwo
  now := 2000
  getSubject := fun _ => "CN=Signer"
  singleThreaded := true
  checkValidity := fun certificate issuer =>
    .ok
      { certificate := certificate
        issuer := some issuer
        validity := .VALID
        statusSignatureValid := true }
  delivered := fun _ => []

theorem issuedByTwo_takesAnchorSet : TakesAnchorSet issuedByTwo := by
  intro anchors anchors' h target chain
  unfold issuedByTwo
  simp only [h 2]

theorem anchors_additive_iff_defaults :
    TakesAnchorSet defaultsOnly.builder ∧
      (AnchorsAdditive defaultsOnly (some [3]) ↔
        ∀ anchor ∈ defaultsOnly.defaultTrustAnchors, anchor ∈ (some [3]).getD []) :=
  ⟨issuedByTwo_takesAnchorSet, anchors_additive_iff issuedByTwo_takesAnchorSet (some [3])⟩

/-- The certificate validates under the default, and fails as soon as the call names
other anchors, or none. -/
theorem default_anchor_forgotten :
    (∃ r, defaultsOnly.validate 1 none none = .ok r) ∧
      (∃ failure, defaultsOnly.validateWith 1 none none (some [3]) = .error failure) ∧
      (∃ failure, defaultsOnly.validateWith 1 none none (some []) = .error failure) ∧
      ¬ AnchorsAdditive defaultsOnly (some []) ∧ ¬ AnchorsAdditive defaultsOnly (some [3]) := by
  refine ⟨⟨_, rfl⟩, ⟨_, rfl⟩, ⟨_, rfl⟩, ?_, ?_⟩
  · intro h
    exact absurd (h 1 none) (by decide)
  · intro h
    exact absurd (h 1 none) (by decide)

end SigVal.Cert
