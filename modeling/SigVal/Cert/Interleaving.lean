import SigVal.Cert.StatusBacking

/-!
# Interleavings of the two checker threads

Both threads deliver before the timeout, in either order and at any point of
the polling loop or after it. The single-threaded call has the list first and
the OCSP answer second. This file says in which interleavings the two modes
agree. A delivery that falls into a stream which has still to look for changes
ends the call with an exception, whatever the statuses. Otherwise they agree as
soon as one delivered status is conclusive, or the two statuses happen to have
the same validity, or the list comes first. Two inconclusive statuses of
different validity come back in the order of their arrival.
-/

namespace SigVal.Cert

open SigVal.Java SigVal.Runs SigVal.FailFast BasicCertificateValidityChecker

variable {Cert : Type}

/-! ## Interleavings -/

/-- The states of an interleaving in which no clock runs out, the latest first. -/
inductive Interleaved (a b : ValidationStatus Cert) : List (PollState Cert) → Prop where
  | start : Interleaved a b [PollState.start (some a) (some b)]
  | step {s t : PollState Cert} {earlier : List (PollState Cert)} :
      Interleaved a b (s :: earlier) → PollStep false s t → Interleaved a b (t :: s :: earlier)

/-- An interleaving up to the return of the call. -/
structure Interleaving (a b : ValidationStatus Cert) where
  last : PollState Cert
  earlier : List (PollState Cert)
  interleaved : Interleaved a b (last :: earlier)
  result : Outcome (ValidationStatus Cert)
  returned : last.phase = .returned result

def Interleaving.states {a b : ValidationStatus Cert} (run : Interleaving a b) :
    List (PollState Cert) :=
  run.last :: run.earlier

/-- A stream is open that looks for changes once more. -/
def BasicCertificateValidityChecker.Phase.looksForChanges : Phase Cert → Bool
  | .collecting _ _ => true
  | .findingRevoked traversal => traversal.hasMore
  | .findingValid _ traversal => traversal.hasMore
  | _ => false

/-- Nothing is delivered while a stream has still to look for changes. -/
def Undisturbed (states : List (PollState Cert)) : Prop :=
  states.IsChain fun t s =>
    s.phase.looksForChanges = true → t.validationStatusList = s.validationStatusList

/-- The revocation list was delivered while the OCSP answer was not. -/
def CrlFirst (states : List (PollState Cert)) : Prop :=
  ∃ s ∈ states, s.crlThread = none ∧ s.ocspThread ≠ none

/-- The caller is in the polling loop. -/
def BasicCertificateValidityChecker.Phase.polls : Phase Cert → Bool
  | .polling => true
  | .notEmpty => true
  | .notFull => true
  | .collecting _ _ => true
  | .incomplete => true
  | _ => false

/-- A revoked status was there before the polling loop stopped. -/
def RevokedInTime (states : List (PollState Cert)) : Prop :=
  ∃ s ∈ states, s.phase.polls = true ∧
    ∃ status ∈ s.validationStatusList, signedAs .REVOKED status = true

/-- One status is conclusively valid and the other conclusively revoked. -/
def Contradict (a b : ValidationStatus Cert) : Prop :=
  (signedAs .VALID a = true ∧ signedAs .REVOKED b = true) ∨
    (signedAs .REVOKED a = true ∧ signedAs .VALID b = true)

/-- The call returns a status. Unless the two statuses contradict each other it has the validity
of the single-threaded result; if they do it is conclusive, and revoked when the revoked status
came in time. -/
structure KeepsVerdict {a b : ValidationStatus Cert} (run : Interleaving a b) : Prop where
  agrees : ¬ Contradict a b → ∃ multi single, run.result = .ok multi ∧ pick [a, b] = .ok single ∧
    multi.validity = single.validity
  decides : Contradict a b → ∃ multi, run.result = .ok multi ∧ conclusive multi = true ∧
    (RevokedInTime run.states → multi.validity = .REVOKED)

/-! ## The order of arrival -/

/-- What was delivered and what is still to come, and whether the list came first. -/
inductive Arrived (a b : ValidationStatus Cert) (first : Prop) : Option (ValidationStatus Cert) →
    Option (ValidationStatus Cert) → List (ValidationStatus Cert) → Prop where
  | neither : ¬ first → Arrived a b first (some a) (some b) []
  | crl : first → Arrived a b first none (some b) [a]
  | ocsp : ¬ first → Arrived a b first (some a) none [b]
  | crlOcsp : first → Arrived a b first none none [a, b]
  | ocspCrl : ¬ first → Arrived a b first none none [b, a]

/-- The list only grows, and an action of the caller leaves the threads and the list alone. -/
theorem pollStep_cases {timeouts : Bool} {s t : PollState Cert} (hstep : PollStep timeouts s t) :
    (t.phase = s.phase ∧
      ((∃ status, s.crlThread = some status ∧ t.crlThread = none ∧ t.ocspThread = s.ocspThread ∧
        t.validationStatusList = s.validationStatusList ++ [status]) ∨
      ∃ status, s.ocspThread = some status ∧ t.ocspThread = none ∧ t.crlThread = s.crlThread ∧
        t.validationStatusList = s.validationStatusList ++ [status])) ∨
    (t.crlThread = s.crlThread ∧ t.ocspThread = s.ocspThread ∧
      t.validationStatusList = s.validationStatusList) := by
  cases hstep with
  | deliverCrl hcrl => exact .inl ⟨rfl, .inl ⟨_, hcrl, rfl, rfl, rfl⟩⟩
  | deliverOcsp hocsp => exact .inl ⟨rfl, .inr ⟨_, hocsp, rfl, rfl, rfl⟩⟩
  | isEmpty _ => exact .inr ⟨rfl, rfl, rfl⟩
  | size _ => exact .inr ⟨rfl, rfl, rfl⟩
  | startCollecting _ => exact .inr ⟨rfl, rfl, rfl⟩
  | collect _ _ => exact .inr ⟨rfl, rfl, rfl⟩
  | collected _ _ => exact .inr ⟨rfl, rfl, rfl⟩
  | pollAgain _ => exact .inr ⟨rfl, rfl, rfl⟩
  | timeout _ _ => exact .inr ⟨rfl, rfl, rfl⟩
  | startRevoked _ => exact .inr ⟨rfl, rfl, rfl⟩
  | readRevoked _ => exact .inr ⟨rfl, rfl, rfl⟩
  | startValid _ => exact .inr ⟨rfl, rfl, rfl⟩
  | readValid _ => exact .inr ⟨rfl, rfl, rfl⟩
  | finish _ => exact .inr ⟨rfl, rfl, rfl⟩

theorem crlFirst_cons {t : PollState Cert} {states : List (PollState Cert)} :
    CrlFirst (t :: states) ↔ (t.crlThread = none ∧ t.ocspThread ≠ none) ∨ CrlFirst states := by
  unfold CrlFirst
  simp

theorem Interleaved.arrived {a b : ValidationStatus Cert} {states : List (PollState Cert)}
    (h : Interleaved a b states) :
    ∀ s earlier, states = s :: earlier →
      Arrived a b (CrlFirst states) s.crlThread s.ocspThread s.validationStatusList := by
  induction h with
  | start =>
      rintro s earlier ⟨⟩
      refine .neither ?_
      rintro ⟨s, hs, hnone, -⟩
      rw [List.mem_singleton] at hs
      subst hs
      cases hnone
  | @step s t earlier _ hstep ih =>
      rintro _ _ ⟨⟩
      have hread := ih s earlier rfl
      rw [crlFirst_cons]
      generalize CrlFirst (s :: earlier) = first at hread ⊢
      rcases pollStep_cases hstep with
        ⟨-, ⟨status, hs, htcrl, htocsp, hlist⟩ | ⟨status, hs, htocsp, htcrl, hlist⟩⟩ |
          ⟨htcrl, htocsp, hlist⟩
      · -- the revocation list is delivered
        rw [htcrl, htocsp, hlist]
        generalize s.crlThread = crl at hread hs
        generalize s.ocspThread = ocsp at hread
        generalize s.validationStatusList = l at hread
        cases hread with
        | neither _ =>
            cases hs
            exact .crl (.inl ⟨rfl, Option.some_ne_none b⟩)
        | crl _ => cases hs
        | ocsp hfirst =>
            cases hs
            exact .ocspCrl (not_or.mpr ⟨fun h => h.2 rfl, hfirst⟩)
        | crlOcsp _ => cases hs
        | ocspCrl _ => cases hs
      · -- the OCSP answer is delivered
        rw [htcrl, htocsp, hlist]
        generalize s.crlThread = crl at hread
        generalize s.ocspThread = ocsp at hread hs
        generalize s.validationStatusList = l at hread
        cases hread with
        | neither hfirst =>
            cases hs
            exact .ocsp (not_or.mpr ⟨fun h => h.2 rfl, hfirst⟩)
        | crl hfirst =>
            cases hs
            exact .crlOcsp (.inr hfirst)
        | ocsp _ => cases hs
        | crlOcsp _ => cases hs
        | ocspCrl _ => cases hs
      · -- the caller leaves the threads alone, so the first delivery is what it was
        rw [htcrl, htocsp, hlist]
        generalize s.crlThread = crl at hread
        generalize s.ocspThread = ocsp at hread
        generalize s.validationStatusList = l at hread
        cases hread with
        | neither hfirst => exact .neither (not_or.mpr ⟨fun h => Option.some_ne_none a h.1, hfirst⟩)
        | crl hfirst => exact .crl (.inr hfirst)
        | ocsp hfirst => exact .ocsp (not_or.mpr ⟨fun h => h.2 rfl, hfirst⟩)
        | crlOcsp hfirst => exact .crlOcsp (.inr hfirst)
        | ocspCrl hfirst => exact .ocspCrl (not_or.mpr ⟨fun h => h.2 rfl, hfirst⟩)

/-! ## What the calling thread has read -/

/-- The validation counted as complete with this list. -/
def Complete (l : List (ValidationStatus Cert)) : Prop := isCompleteValidation 2 l = true

/-- The polling stopped at a list that has since grown to `l`. -/
def StoppedBy (l : List (ValidationStatus Cert)) : Prop := ∃ l₀, Complete l₀ ∧ l₀ <+: l

/-- The revoked status was searched in a list that has since grown to `l`. -/
def RevokedFrom (l : List (ValidationStatus Cert)) (r : Option (ValidationStatus Cert)) : Prop :=
  ∃ l₁, StoppedBy l₁ ∧ l₁ <+: l ∧ r = l₁.find? (signedAs .REVOKED)

/-- The valid status was searched in a list that has since grown to `l`. -/
def ValidFrom (l : List (ValidationStatus Cert)) (r v : Option (ValidationStatus Cert)) : Prop :=
  ∃ l₂, RevokedFrom l₂ r ∧ l₂ <+: l ∧ v = l₂.find? (signedAs .VALID)

/-- What the calling thread holds when `seen` is the list it is reading. -/
def ReadAt (seen : List (ValidationStatus Cert)) : Phase Cert → Prop
  | .polling => True
  | .notEmpty => seen ≠ []
  | .notFull => seen ≠ []
  | .collecting traversal found => seen ≠ [] ∧ traversal.Collects conclusive found seen
  | .incomplete => True
  | .stopped => Complete seen
  | .findingRevoked traversal => StoppedBy seen ∧ traversal.Searches (signedAs .REVOKED) seen
  | .revokedRead r => StoppedBy seen ∧ r = seen.find? (signedAs .REVOKED)
  | .findingValid r traversal =>
      RevokedFrom seen r ∧ traversal.Searches (signedAs .VALID) seen
  | .validRead r v => RevokedFrom seen r ∧ v = seen.find? (signedAs .VALID)
  | .returned result => result = .error Exn.concurrentModification ∨
      ∃ r v, ValidFrom seen r v ∧ result = pickResult r v seen

/-- What the calling thread holds was read from a list that has since grown to `l`. -/
def ReadFrom (l : List (ValidationStatus Cert)) (phase : Phase Cert) : Prop :=
  ∃ seen, seen <+: l ∧ ReadAt seen phase

theorem ReadFrom.grow {l l' : List (ValidationStatus Cert)} (hgrow : l <+: l')
    {phase : Phase Cert} (h : ReadFrom l phase) : ReadFrom l' phase := by
  obtain ⟨seen, hseen, hread⟩ := h
  exact ⟨seen, hseen.trans hgrow, hread⟩

theorem complete_of_full {l : List (ValidationStatus Cert)} (h : l.length = 2) : Complete l := by
  match l with
  | [] => cases h
  | x :: rest => simp [Complete, isCompleteValidation, h]

theorem complete_of_conclusive {l : List (ValidationStatus Cert)} (hne : l ≠ [])
    (h : l.any conclusive = true) : Complete l := by
  match l with
  | [] => exact absurd rfl hne
  | x :: rest =>
      simp only [Complete, isCompleteValidation, h]
      simp

theorem ReadFrom.step {s t : PollState Cert} (hstep : PollStep false s t)
    (h : ReadFrom s.validationStatusList s.phase) : ReadFrom t.validationStatusList t.phase := by
  have hself := List.prefix_refl s.validationStatusList
  cases hstep with
  | deliverCrl _ => exact h.grow (List.prefix_append _ _)
  | deliverOcsp _ => exact h.grow (List.prefix_append _ _)
  | isEmpty _ =>
      refine ⟨_, hself, ?_⟩
      show ReadAt s.validationStatusList (if s.validationStatusList.isEmpty then _ else _)
      split
      · trivial
      · rename_i hempty
        exact fun hnil => hempty (List.isEmpty_iff.mpr hnil)
  | size hphase =>
      rw [hphase] at h
      obtain ⟨seen, hseen, hne⟩ := h
      refine ⟨_, hself, ?_⟩
      show ReadAt s.validationStatusList (if s.validationStatusList.length = 2 then _ else _)
      split
      · rename_i hfull
        exact complete_of_full hfull
      · intro hnil
        exact hne (List.prefix_nil.mp (hnil ▸ hseen))
  | startCollecting hphase =>
      rw [hphase] at h
      obtain ⟨seen, hseen, hne⟩ := h
      refine ⟨_, hself, ?_, Traversal.start_collects _ _⟩
      intro hnil
      exact hne (List.prefix_nil.mp (hnil ▸ hseen))
  | collect hphase hmore =>
      rw [hphase] at h
      obtain ⟨seen, hseen, hne, hcollects⟩ := h
      exact ⟨seen, hseen, hne, hcollects.next hseen hmore⟩
  | collected hphase hmore =>
      rw [hphase] at h
      obtain ⟨seen, hseen, hne, hcollects⟩ := h
      refine ⟨seen, hseen, ?_⟩
      unfold afterCollecting
      split
      · split
        · rename_i hfound
          rw [hcollects.all hmore] at hfound
          exact complete_of_conclusive hne hfound
        · trivial
      · exact .inl rfl
  | pollAgain _ => exact ⟨_, hself, trivial⟩
  | timeout hclock _ => cases hclock
  | startRevoked hphase =>
      rw [hphase] at h
      obtain ⟨seen, hseen, hcomplete⟩ := h
      exact ⟨_, hself, ⟨seen, hcomplete, hseen⟩, Traversal.start_searches _ _⟩
  | @readRevoked traversal hphase =>
      rw [hphase] at h
      obtain ⟨seen, hseen, hstopped, hsearches⟩ := h
      refine ⟨seen, hseen, ?_⟩
      have hright := hsearches.advance hseen
      cases hadvance : traversal.advance (signedAs .REVOKED) s.validationStatusList with
      | modified => exact .inl rfl
      | found status =>
          rw [hadvance] at hright
          exact ⟨hstopped, Eq.symm hright⟩
      | exhausted =>
          rw [hadvance] at hright
          exact ⟨hstopped, Eq.symm hright⟩
      | more next =>
          rw [hadvance] at hright
          exact ⟨hstopped, hright.2.2⟩
  | startValid hphase =>
      rw [hphase] at h
      obtain ⟨seen, hseen, hstopped, hr⟩ := h
      exact ⟨_, hself, ⟨seen, hstopped, hseen, hr⟩, Traversal.start_searches _ _⟩
  | @readValid r traversal hphase =>
      rw [hphase] at h
      obtain ⟨seen, hseen, hrevoked, hsearches⟩ := h
      refine ⟨seen, hseen, ?_⟩
      have hright := hsearches.advance hseen
      cases hadvance : traversal.advance (signedAs .VALID) s.validationStatusList with
      | modified => exact .inl rfl
      | found status =>
          rw [hadvance] at hright
          exact ⟨hrevoked, Eq.symm hright⟩
      | exhausted =>
          rw [hadvance] at hright
          exact ⟨hrevoked, Eq.symm hright⟩
      | more next =>
          rw [hadvance] at hright
          exact ⟨hrevoked, hright.2.2⟩
  | finish hphase =>
      rw [hphase] at h
      obtain ⟨seen, hseen, hrevoked, hv⟩ := h
      exact ⟨_, hself, .inr ⟨_, _, ⟨seen, hrevoked, hseen, hv⟩, rfl⟩⟩

/-- What holds of the first state, and after every step that does not move the clock, holds of
every state of an interleaving. -/
theorem Interleaved.invariant {a b : ValidationStatus Cert} {Inv : PollState Cert → Prop}
    (hinit : Inv (PollState.start (some a) (some b)))
    (hstep : ∀ s t, PollStep false s t → Inv s → Inv t) {states : List (PollState Cert)}
    (h : Interleaved a b states) : ∀ s ∈ states, Inv s := by
  induction h with
  | start =>
      intro s hs
      rw [List.mem_singleton] at hs
      exact hs ▸ hinit
  | step _ hlast ih =>
      intro u hu
      rcases List.mem_cons.mp hu with rfl | hu
      · exact hstep _ _ hlast (ih _ List.mem_cons_self)
      · exact ih u hu

theorem Interleaved.readFrom {a b : ValidationStatus Cert} {states : List (PollState Cert)}
    (h : Interleaved a b states) : ∀ s ∈ states, ReadFrom s.validationStatusList s.phase :=
  h.invariant ⟨_, List.prefix_refl _, trivial⟩ fun _ _ hstep hread => hread.step hstep

/-! ## Disturbed streams -/

/-- The list, now of this size, is as long as when the open stream began. -/
def BasicCertificateValidityChecker.Phase.Intact (size : Nat) : Phase Cert → Prop
  | .collecting traversal _ => size = traversal.fence
  | .findingRevoked traversal => traversal.hasMore = true → size = traversal.fence
  | .findingValid _ traversal => traversal.hasMore = true → size = traversal.fence
  | .returned result => result ≠ .error Exn.concurrentModification
  | _ => True

/-- The open stream will notice that the list, now of this size, has grown, or has noticed
it. -/
def BasicCertificateValidityChecker.Phase.Doomed (size : Nat) : Phase Cert → Prop
  | .collecting traversal _ => traversal.fence < size
  | .findingRevoked traversal => traversal.hasMore = true ∧ traversal.fence < size
  | .findingValid _ traversal => traversal.hasMore = true ∧ traversal.fence < size
  | .returned result => result = .error Exn.concurrentModification
  | _ => False

theorem pickResult_ne_modification (r v : Option (ValidationStatus Cert))
    (l : List (ValidationStatus Cert)) :
    pickResult r v l ≠ .error Exn.concurrentModification := by
  unfold pickResult
  split
  · intro h
    cases h
  · intro h
    cases h
  · intro h
    cases h
  · intro h
    cases h

/-- An access to a list that is as long as it was goes on with the stream or ends it. -/
theorem afterAccess_intact {p : ValidationStatus Cert → Bool} {l : List (ValidationStatus Cert)}
    {traversal : Traversal} {again : Traversal → Phase Cert}
    {done : Option (ValidationStatus Cert) → Phase Cert}
    (h : traversal.hasMore = true → l.length = traversal.fence)
    (hagain : ∀ next, l.length = next.fence → (again next).Intact l.length)
    (hdone : ∀ found, (done found).Intact l.length) :
    (afterAccess again done (traversal.advance p l)).Intact l.length := by
  unfold Traversal.advance
  cases hmore : traversal.hasMore with
  | false => exact hdone none
  | true =>
      rw [if_pos rfl, if_pos (h hmore)]
      split
      · split
        · exact hdone _
        · exact hagain _ (h hmore)
      · exact hdone none

theorem intact_step {s t : PollState Cert} (hstep : PollStep false s t)
    (hquiet : s.phase.looksForChanges = true →
      t.validationStatusList = s.validationStatusList)
    (h : s.phase.Intact s.validationStatusList.length) :
    t.phase.Intact t.validationStatusList.length := by
  have hdeliver : ∀ size, (s.phase.looksForChanges = true → size = s.validationStatusList.length) →
      s.phase.Intact size := by
    intro size hsize
    cases hs : s.phase with
    | collecting traversal found =>
        rw [hs] at h hsize
        exact (hsize rfl).trans h
    | findingRevoked traversal =>
        rw [hs] at h hsize
        exact fun hmore => (hsize hmore).trans (h hmore)
    | findingValid r traversal =>
        rw [hs] at h hsize
        exact fun hmore => (hsize hmore).trans (h hmore)
    | returned result =>
        rw [hs] at h
        exact h
    | _ => trivial
  cases hstep with
  | deliverCrl _ => exact hdeliver _ fun hlooks => congrArg List.length (hquiet hlooks)
  | deliverOcsp _ => exact hdeliver _ fun hlooks => congrArg List.length (hquiet hlooks)
  | isEmpty _ =>
      show (if s.validationStatusList.isEmpty then Phase.incomplete else .notEmpty).Intact _
      split
      · trivial
      · trivial
  | size _ =>
      show (if s.validationStatusList.length = 2 then Phase.stopped else .notFull).Intact _
      split
      · trivial
      · trivial
  | startCollecting _ => exact (rfl : s.validationStatusList.length = _)
  | collect hphase _ =>
      rw [hphase] at h
      exact h
  | @collected traversal found hphase _ =>
      rw [hphase] at h
      have hsame : s.validationStatusList.length = traversal.fence := h
      show (afterCollecting _ traversal found).Intact _
      unfold afterCollecting
      rw [if_pos hsame]
      split
      · trivial
      · trivial
  | pollAgain _ => trivial
  | timeout hclock _ => cases hclock
  | startRevoked _ => exact fun _ => rfl
  | readRevoked hphase =>
      rw [hphase] at h
      exact afterAccess_intact h (fun _ hlength _ => hlength) fun _ => trivial
  | startValid _ => exact fun _ => rfl
  | readValid hphase =>
      rw [hphase] at h
      exact afterAccess_intact h (fun _ hlength _ => hlength) fun _ => trivial
  | finish _ => exact pickResult_ne_modification _ _ _

theorem doomed_step {s t : PollState Cert} (hstep : PollStep false s t)
    (h : s.phase.Doomed s.validationStatusList.length) :
    t.phase.Doomed t.validationStatusList.length := by
  have hdeliver : ∀ {size}, s.validationStatusList.length ≤ size → s.phase.Doomed size := by
    intro size hsize
    cases hs : s.phase with
    | collecting traversal found =>
        rw [hs] at h
        exact Nat.lt_of_lt_of_le h hsize
    | findingRevoked traversal =>
        rw [hs] at h
        exact ⟨h.1, Nat.lt_of_lt_of_le h.2 hsize⟩
    | findingValid r traversal =>
        rw [hs] at h
        exact ⟨h.1, Nat.lt_of_lt_of_le h.2 hsize⟩
    | returned result =>
        rw [hs] at h
        exact h
    | _ =>
        rw [hs] at h
        exact h.elim
  have hmodified : ∀ {p : ValidationStatus Cert → Bool} {traversal : Traversal},
      traversal.hasMore = true ∧ traversal.fence < s.validationStatusList.length →
      traversal.advance p s.validationStatusList = .modified := by
    rintro p traversal ⟨hmore, hlt⟩
    simp [Traversal.advance, hmore, Nat.ne_of_gt hlt]
  cases hstep with
  | deliverCrl _ => exact hdeliver (List.prefix_append _ _).length_le
  | deliverOcsp _ => exact hdeliver (List.prefix_append _ _).length_le
  | collect hphase _ =>
      rw [hphase] at h
      exact h
  | collected hphase _ =>
      rw [hphase] at h
      have hgrown : s.validationStatusList.length ≠ _ := Nat.ne_of_gt h
      show (afterCollecting _ _ _).Doomed _
      unfold afterCollecting
      rw [if_neg hgrown]
      rfl
  | timeout hclock _ => cases hclock
  | readRevoked hphase =>
      rw [hphase] at h
      show (afterAccess _ _ _).Doomed _
      rw [hmodified h]
      rfl
  | readValid hphase =>
      rw [hphase] at h
      show (afterAccess _ _ _).Doomed _
      rw [hmodified h]
      rfl
  | isEmpty hphase | size hphase | startCollecting hphase | pollAgain hphase
  | startRevoked hphase | startValid hphase | finish hphase =>
      rw [hphase] at h
      exact h.elim

/-- A delivery while a stream has still to look for changes. -/
theorem doomed_of_disturbed {s t : PollState Cert} (hstep : PollStep false s t)
    (hread : ReadFrom s.validationStatusList s.phase)
    (hlooks : s.phase.looksForChanges = true)
    (hlist : t.validationStatusList ≠ s.validationStatusList) :
    t.phase.Doomed t.validationStatusList.length := by
  obtain ⟨hphase, hdelivered⟩ | ⟨-, -, hsame⟩ := pollStep_cases hstep
  · have hgrown : s.validationStatusList.length < t.validationStatusList.length := by
      rcases hdelivered with ⟨_, -, -, -, hlist⟩ | ⟨_, -, -, -, hlist⟩
      · simp [hlist]
      · simp [hlist]
    have hfence : ∀ {traversal : Traversal} {seen : List (ValidationStatus Cert)},
        seen <+: s.validationStatusList → traversal.Reads seen →
        traversal.fence < t.validationStatusList.length := by
      intro traversal seen hseen hreads
      rw [hreads.fence]
      exact Nat.lt_of_le_of_lt hseen.length_le hgrown
    rw [hphase]
    obtain ⟨seen, hseen, hread⟩ := hread
    cases hs : s.phase with
    | collecting traversal found =>
        rw [hs] at hread
        exact hfence hseen hread.2.reads
    | findingRevoked traversal =>
        rw [hs] at hread hlooks
        exact ⟨hlooks, hfence hseen hread.2.reads⟩
    | findingValid r traversal =>
        rw [hs] at hread hlooks
        exact ⟨hlooks, hfence hseen hread.2.reads⟩
    | _ =>
        rw [hs] at hlooks
        cases hlooks
  · exact absurd hsame hlist

/-- Where an interleaving stands with the changes that were made so far. -/
theorem Interleaved.intact_or_doomed {a b : ValidationStatus Cert}
    {states : List (PollState Cert)} (h : Interleaved a b states) :
    ∀ s earlier, states = s :: earlier →
      (Undisturbed states ∧ s.phase.Intact s.validationStatusList.length) ∨
      (¬ Undisturbed states ∧ s.phase.Doomed s.validationStatusList.length) := by
  induction h with
  | start =>
      rintro s earlier ⟨⟩
      exact .inl ⟨List.IsChain.singleton _, trivial⟩
  | @step s t earlier hrun hstep ih =>
      rintro _ _ ⟨⟩
      unfold Undisturbed at ih ⊢
      rw [List.isChain_cons_cons]
      rcases ih s earlier rfl with ⟨hquiet, hintact⟩ | ⟨hloud, hdoomed⟩
      · by_cases hnow : s.phase.looksForChanges = true →
          t.validationStatusList = s.validationStatusList
        · exact .inl ⟨⟨hnow, hquiet⟩, intact_step hstep hnow hintact⟩
        · have hdisturbed := Classical.not_imp.mp hnow
          exact .inr ⟨fun h => hnow h.1, doomed_of_disturbed hstep
            (hrun.readFrom s List.mem_cons_self) hdisturbed.1 hdisturbed.2⟩
      · exact .inr ⟨fun h => hloud h.2, doomed_step hstep hdoomed⟩

/-- A call ends with the exception exactly when it was disturbed. -/
theorem Interleaving.undisturbed_iff {a b : ValidationStatus Cert} (run : Interleaving a b) :
    Undisturbed run.states ↔ run.result ≠ .error Exn.concurrentModification := by
  have hstands := run.interleaved.intact_or_doomed run.last run.earlier rfl
  rw [run.returned] at hstands
  rcases hstands with ⟨hquiet, hintact⟩ | ⟨hloud, hdoomed⟩
  · exact iff_of_true hquiet hintact
  · exact iff_of_false hloud (not_not.mpr hdoomed)

/-! ## Two statuses -/

/-- The validity of the pick from both statuses, `x` having come first. -/
def verdictOf (x y : ValidationStatus Cert) : CertificateValidity :=
  if signedAs .REVOKED x || signedAs .REVOKED y then .REVOKED
  else if signedAs .VALID x || signedAs .VALID y then .VALID
  else x.validity

theorem conclusive_iff {status : ValidationStatus Cert} :
    conclusive status = true ↔ signedAs .REVOKED status = true ∨ signedAs .VALID status = true := by
  simp [conclusive, signedAs, ← and_or_left]

theorem not_signedAs_both {status : ValidationStatus Cert} (hr : signedAs .REVOKED status = true)
    (hv : signedAs .VALID status = true) : False := by
  have h1 := (signedAs_iff.mp hr).2
  have h2 := (signedAs_iff.mp hv).2
  rw [h1] at h2
  cases h2

/-- The pick from both, case by case. -/
theorem pick_pair (x y : ValidationStatus Cert) :
    ∃ status, pick [x, y] = .ok status ∧ status.validity = verdictOf x y ∧
      (conclusive x = true ∨ conclusive y = true → conclusive status = true) := by
  unfold pick verdictOf
  by_cases hrx : signedAs .REVOKED x = true
  · refine ⟨x, by simp [hrx, pickResult], ?_, fun _ => conclusive_iff.mpr (Or.inl hrx)⟩
    simpa [hrx] using (signedAs_iff.mp hrx).2
  by_cases hry : signedAs .REVOKED y = true
  · refine ⟨y, by simp [hrx, hry, pickResult], ?_, fun _ => conclusive_iff.mpr (Or.inl hry)⟩
    simpa [hry] using (signedAs_iff.mp hry).2
  by_cases hvx : signedAs .VALID x = true
  · refine ⟨x, by simp [hrx, hry, hvx, pickResult], ?_, fun _ => conclusive_iff.mpr (Or.inr hvx)⟩
    simpa [hrx, hry, hvx] using (signedAs_iff.mp hvx).2
  by_cases hvy : signedAs .VALID y = true
  · refine ⟨y, by simp [hrx, hry, hvx, hvy, pickResult], ?_,
      fun _ => conclusive_iff.mpr (Or.inr hvy)⟩
    simpa [hrx, hry, hvy] using (signedAs_iff.mp hvy).2
  · refine ⟨x, by simp [hrx, hry, hvx, hvy, pickResult], by simp [hrx, hry, hvx, hvy], ?_⟩
    rintro (h | h)
    · exact h
    · rcases conclusive_iff.mp h with h | h
      · exact absurd h hry
      · exact absurd h hvy

theorem prefix_pair {x y : ValidationStatus Cert} {l : List (ValidationStatus Cert)}
    (h : l <+: [x, y]) : l = [] ∨ l = [x] ∨ l = [x, y] := by
  obtain ⟨rest, hrest⟩ := h
  match l, rest with
  | [], _ => exact Or.inl rfl
  | [z], _ =>
      cases hrest
      exact Or.inr (Or.inl rfl)
  | [z, w], _ =>
      cases hrest
      exact Or.inr (Or.inr rfl)
  | z :: w :: u :: l', rest => simp at hrest

theorem prefix_pair_eq {x y : ValidationStatus Cert} {l : List (ValidationStatus Cert)}
    (h : [x, y] <+: l) (h' : l <+: [x, y]) : l = [x, y] :=
  List.IsPrefix.eq_of_length_le h' h.length_le

/-- The call returns the first status, stopped early by it, or picks from both. -/
theorem returned_cases {x y : ValidationStatus Cert} {l : List (ValidationStatus Cert)}
    {result : Outcome (ValidationStatus Cert)} (hl : l <+: [x, y])
    (h : ReadFrom l (.returned result)) (hne : result ≠ .error Exn.concurrentModification) :
    (result = .ok x ∧ conclusive x = true) ∨ result = pick [x, y] := by
  obtain ⟨l₃, h3, hmodified |
    ⟨_, _, ⟨l₂, ⟨l₁, ⟨l₀, hcomplete, h01⟩, h12, rfl⟩, h23, rfl⟩, rfl⟩⟩ := h
  · exact absurd hmodified hne
  replace h3 : l₃ <+: [x, y] := h3.trans hl
  have h2 : l₂ <+: [x, y] := h23.trans h3
  have h1 : l₁ <+: [x, y] := h12.trans h2
  have hfull : l₁ = [x, y] →
      pickResult (l₁.find? (signedAs .REVOKED)) (l₂.find? (signedAs .VALID)) l₃ = pick [x, y] := by
    rintro rfl
    rw [prefix_pair_eq h12 h2, prefix_pair_eq (h12.trans h23) h3]
    rfl
  rcases prefix_pair (h01.trans h1) with rfl | rfl | rfl
  · cases hcomplete
  · -- the first status stopped the loop, so it is conclusive
    have hx : conclusive x = true := by simpa [Complete, isCompleteValidation] using hcomplete
    rcases prefix_pair h1 with rfl | rfl | rfl
    · exact absurd (List.prefix_nil.mp h01) (List.cons_ne_nil _ _)
    · left
      refine ⟨?_, hx⟩
      rcases conclusive_iff.mp hx with hr | hv
      · simp [hr, pickResult]
      · have hr : signedAs .REVOKED x = false := by
          rw [Bool.eq_false_iff]
          exact fun hr => not_signedAs_both hr hv
        obtain ⟨rest, rfl⟩ := h12
        simp [hr, hv, pickResult]
    · exact Or.inr (hfull rfl)
  · exact Or.inr (hfull (prefix_pair_eq h01 h1))

theorem verdictOf_conclusive {x y : ValidationStatus Cert} (hx : conclusive x = true)
    (hnot : ¬ Contradict x y) : verdictOf x y = x.validity := by
  unfold verdictOf
  rcases conclusive_iff.mp hx with hr | hv
  · simp [hr, (signedAs_iff.mp hr).2]
  · have hrx : signedAs .REVOKED x = false := by
      rw [Bool.eq_false_iff]
      exact fun hr => not_signedAs_both hr hv
    have hry : signedAs .REVOKED y = false := by
      rw [Bool.eq_false_iff]
      exact fun hr => hnot (Or.inl ⟨hv, hr⟩)
    simp [hrx, hry, hv, (signedAs_iff.mp hv).2]

theorem verdictOf_inconclusive {x y : ValidationStatus Cert} (hx : ¬ conclusive x = true)
    (hy : ¬ conclusive y = true) : verdictOf x y = x.validity := by
  rw [conclusive_iff, not_or] at hx hy
  simp [verdictOf, hx.1, hx.2, hy.1, hy.2]

/-- The order matters only between two inconclusive statuses. -/
theorem verdictOf_comm {x y : ValidationStatus Cert}
    (h : conclusive x = true ∨ conclusive y = true ∨ x.validity = y.validity) :
    verdictOf x y = verdictOf y x := by
  by_cases hsome : conclusive x = true ∨ conclusive y = true
  · unfold verdictOf
    rw [Bool.or_comm (signedAs .REVOKED x), Bool.or_comm (signedAs .VALID x)]
    split
    · rfl
    · rename_i hr
      split
      · rfl
      · rename_i hv
        simp only [Bool.or_eq_true, not_or] at hr hv
        rcases hsome with h | h
        · exact absurd (conclusive_iff.mp h) (not_or.mpr ⟨hr.2, hv.2⟩)
        · exact absurd (conclusive_iff.mp h) (not_or.mpr ⟨hr.1, hv.1⟩)
  · rw [not_or] at hsome
    rw [verdictOf_inconclusive hsome.1 hsome.2, verdictOf_inconclusive hsome.2 hsome.1]
    rcases h with h | h | h
    · exact absurd h hsome.1
    · exact absurd h hsome.2
    · exact h

theorem Contradict.symm {a b : ValidationStatus Cert} (h : Contradict a b) : Contradict b a := by
  rcases h with ⟨hv, hr⟩ | ⟨hr, hv⟩
  · exact Or.inr ⟨hr, hv⟩
  · exact Or.inl ⟨hv, hr⟩

theorem Contradict.conclusive {a b : ValidationStatus Cert} (h : Contradict a b) :
    conclusive a = true := by
  rcases h with ⟨ha, -⟩ | ⟨ha, -⟩
  · exact conclusive_iff.mpr (Or.inr ha)
  · exact conclusive_iff.mpr (Or.inl ha)

/-- What the call returns when `x` came first. -/
theorem returned_verdict {x y : ValidationStatus Cert} {l : List (ValidationStatus Cert)}
    {result : Outcome (ValidationStatus Cert)} (hl : l <+: [x, y])
    (h : ReadFrom l (.returned result)) (hne : result ≠ .error Exn.concurrentModification) :
    ∃ multi, result = .ok multi ∧
      (¬ Contradict x y → multi.validity = verdictOf x y) ∧
      (conclusive x = true → conclusive multi = true) := by
  rcases returned_cases hl h hne with ⟨rfl, hx⟩ | rfl
  · exact ⟨x, rfl, fun hnot => (verdictOf_conclusive hx hnot).symm, fun hx => hx⟩
  · obtain ⟨status, hstatus, hverdict, hkeeps⟩ := pick_pair x y
    exact ⟨status, hstatus, fun _ => hverdict, fun hx => hkeeps (.inl hx)⟩

/-- The statuses came in one of two orders. -/
theorem Arrived.order {a b : ValidationStatus Cert} {first : Prop}
    {crl ocsp : Option (ValidationStatus Cert)} {l : List (ValidationStatus Cert)}
    (h : Arrived a b first crl ocsp l) :
    (first ∧ l <+: [a, b]) ∨ (¬ first ∧ l <+: [b, a]) := by
  cases h with
  | neither hfirst => exact .inr ⟨hfirst, List.nil_prefix⟩
  | crl hfirst => exact .inl ⟨hfirst, [b], rfl⟩
  | ocsp hfirst => exact .inr ⟨hfirst, [a], rfl⟩
  | crlOcsp hfirst => exact .inl ⟨hfirst, List.prefix_refl _⟩
  | ocspCrl hfirst => exact .inr ⟨hfirst, List.prefix_refl _⟩

/-! ## Contradiction -/

def HasRevoked (l : List (ValidationStatus Cert)) : Prop :=
  ∃ status ∈ l, signedAs .REVOKED status = true

theorem HasRevoked.grow {l l' : List (ValidationStatus Cert)} (hgrow : l <+: l')
    (h : HasRevoked l) : HasRevoked l' := by
  obtain ⟨status, hmem, hr⟩ := h
  exact ⟨status, hgrow.subset hmem, hr⟩

/-- A revoked status was there when the polling stopped, or is there while it goes on. -/
def RevokedSeen (l : List (ValidationStatus Cert)) : Phase Cert → Prop
  | .findingRevoked traversal =>
      ∃ seen, seen <+: l ∧ HasRevoked seen ∧ traversal.Searches (signedAs .REVOKED) seen
  | .revokedRead r => ∃ status, r = some status ∧ signedAs .REVOKED status = true
  | .findingValid r _ => ∃ status, r = some status ∧ signedAs .REVOKED status = true
  | .validRead r _ => ∃ status, r = some status ∧ signedAs .REVOKED status = true
  | .returned result => result = .error Exn.concurrentModification ∨
      ∃ status, result = .ok status ∧ signedAs .REVOKED status = true
  | _ => HasRevoked l

theorem RevokedSeen.grow {l l' : List (ValidationStatus Cert)} (hgrow : l <+: l')
    {phase : Phase Cert} (h : RevokedSeen l phase) : RevokedSeen l' phase := by
  cases phase with
  | findingRevoked traversal =>
      obtain ⟨seen, hseen, hrest⟩ := h
      exact ⟨seen, hseen.trans hgrow, hrest⟩
  | revokedRead r => exact h
  | findingValid r traversal => exact h
  | validRead r v => exact h
  | returned result => exact h
  | polling | notEmpty | notFull | collecting _ _ | incomplete | stopped =>
      exact HasRevoked.grow hgrow h

theorem RevokedSeen.step {s t : PollState Cert} (hstep : PollStep false s t)
    (h : RevokedSeen s.validationStatusList s.phase) :
    RevokedSeen t.validationStatusList t.phase := by
  cases hstep with
  | deliverCrl _ => exact h.grow (List.prefix_append _ _)
  | deliverOcsp _ => exact h.grow (List.prefix_append _ _)
  | isEmpty hphase =>
      rw [hphase] at h
      show RevokedSeen _ (if s.validationStatusList.isEmpty then Phase.incomplete else .notEmpty)
      split
      · exact h
      · exact h
  | size hphase =>
      rw [hphase] at h
      show RevokedSeen _ (if s.validationStatusList.length = 2 then Phase.stopped else .notFull)
      split
      · exact h
      · exact h
  | startCollecting hphase =>
      rw [hphase] at h
      exact h
  | collect hphase _ =>
      rw [hphase] at h
      exact h
  | collected hphase _ =>
      rw [hphase] at h
      show RevokedSeen _ (afterCollecting _ _ _)
      unfold afterCollecting
      split
      · split
        · exact h
        · exact h
      · exact .inl rfl
  | pollAgain hphase =>
      rw [hphase] at h
      exact h
  | timeout hclock _ => cases hclock
  | startRevoked hphase =>
      rw [hphase] at h
      exact ⟨_, List.prefix_refl _, h, Traversal.start_searches _ _⟩
  | @readRevoked traversal hphase =>
      rw [hphase] at h
      obtain ⟨seen, hseen, ⟨status, hmem, hr⟩, hsearches⟩ := h
      have hright := hsearches.advance hseen
      show RevokedSeen _ (afterAccess _ _ _)
      cases hadvance : traversal.advance (signedAs .REVOKED) s.validationStatusList with
      | modified => exact .inl rfl
      | found found =>
          rw [hadvance] at hright
          exact ⟨found, rfl, List.find?_some hright⟩
      | exhausted =>
          rw [hadvance] at hright
          exact absurd hr (List.find?_eq_none.mp hright status hmem)
      | more next =>
          rw [hadvance] at hright
          exact ⟨seen, hseen, ⟨status, hmem, hr⟩, hright.2.2⟩
  | startValid hphase =>
      rw [hphase] at h
      exact h
  | @readValid r traversal hphase =>
      rw [hphase] at h
      show RevokedSeen _ (afterAccess _ _ _)
      cases traversal.advance (signedAs .VALID) s.validationStatusList with
      | modified => exact .inl rfl
      | found found => exact h
      | exhausted => exact h
      | more next => exact h
  | finish hphase =>
      rw [hphase] at h
      obtain ⟨status, rfl, hr⟩ := h
      exact .inr ⟨status, rfl, hr⟩

theorem Interleaved.revokedSeen {a b : ValidationStatus Cert} {states : List (PollState Cert)}
    (h : Interleaved a b states) :
    ∀ s earlier, states = s :: earlier → RevokedInTime states →
      RevokedSeen s.validationStatusList s.phase := by
  -- in the polling loop the list itself is what the invariant speaks of
  have hpolling : ∀ s : PollState Cert, s.phase.polls = true →
      HasRevoked s.validationStatusList → RevokedSeen s.validationStatusList s.phase := by
    intro s hpolls hrevoked
    cases hs : s.phase with
    | polling | notEmpty | notFull | collecting _ _ | incomplete => exact hrevoked
    | stopped | findingRevoked _ | revokedRead _ | findingValid _ _ | validRead _ _
    | returned _ =>
        rw [hs] at hpolls
        cases hpolls
  induction h with
  | start =>
      rintro s earlier ⟨⟩ ⟨u, hu, hpolls, hrevoked⟩
      rw [List.mem_singleton] at hu
      subst hu
      exact hpolling _ hpolls hrevoked
  | @step s t earlier _ hstep ih =>
      rintro _ _ ⟨⟩ ⟨u, hu, hpolls, hrevoked⟩
      rcases List.mem_cons.mp hu with rfl | hu
      · exact hpolling _ hpolls hrevoked
      · exact (ih s earlier rfl ⟨u, hu, hpolls, hrevoked⟩).step hstep

/-! ## Agreement of the two modes -/

/-- **Interleavings and the verdict.** In every interleaving up to the return of the call, the
verdict is kept exactly when nothing was delivered while a stream had still to look for
changes and, besides, one status is conclusive, or both have the same validity, or the list
came first. -/
theorem interleavings_agree_iff (a b : ValidationStatus Cert) (run : Interleaving a b) :
    KeepsVerdict run ↔
      Undisturbed run.states ∧
        (conclusive a = true ∨ conclusive b = true ∨ a.validity = b.validity ∨
          CrlFirst run.states) := by
  have hread : ReadFrom run.last.validationStatusList (.returned run.result) := by
    rw [← run.returned]
    exact run.interleaved.readFrom _ List.mem_cons_self
  have horder := (run.interleaved.arrived _ _ rfl).order
  obtain ⟨single, hsingle, hverdict, -⟩ := pick_pair a b
  rw [run.undisturbed_iff]
  constructor
  · intro hkeeps
    have hne : run.result ≠ .error Exn.concurrentModification := by
      intro hmodified
      by_cases hcontradict : Contradict a b
      · obtain ⟨multi, hmulti, -⟩ := hkeeps.decides hcontradict
        rw [hmodified] at hmulti
        cases hmulti
      · obtain ⟨multi, _, hmulti, -⟩ := hkeeps.agrees hcontradict
        rw [hmodified] at hmulti
        cases hmulti
    refine ⟨hne, ?_⟩
    by_contra hnone
    simp only [not_or] at hnone
    obtain ⟨ha, hb, hvalidity, hfirst⟩ := hnone
    have hcontradict : ¬ Contradict a b := fun h => ha h.conclusive
    obtain ⟨multi, single', hmulti, hsingle', heq⟩ := hkeeps.agrees hcontradict
    rw [hsingle] at hsingle'
    cases hsingle'
    rcases horder with ⟨h, -⟩ | ⟨-, hl⟩
    · exact hfirst h
    · obtain ⟨multi', hmulti', hreturned, -⟩ := returned_verdict hl hread hne
      rw [hmulti] at hmulti'
      cases hmulti'
      rw [hreturned (mt Contradict.symm hcontradict), hverdict, verdictOf_inconclusive hb ha,
        verdictOf_inconclusive ha hb] at heq
      exact hvalidity heq.symm
  · rintro ⟨hne, hcondition⟩
    constructor
    · intro hcontradict
      rcases horder with ⟨-, hl⟩ | ⟨hfirst, hl⟩
      · obtain ⟨multi, hmulti, hreturned, -⟩ := returned_verdict hl hread hne
        exact ⟨multi, single, hmulti, hsingle, by rw [hreturned hcontradict, hverdict]⟩
      · obtain ⟨multi, hmulti, hreturned, -⟩ := returned_verdict hl hread hne
        have hcomm : verdictOf a b = verdictOf b a := by
          refine verdictOf_comm ?_
          rcases hcondition with h | h | h | h
          · exact .inl h
          · exact .inr (.inl h)
          · exact .inr (.inr h)
          · exact absurd h hfirst
        exact ⟨multi, single, hmulti, hsingle, by
          rw [hreturned (mt Contradict.symm hcontradict), hverdict, hcomm]⟩
    · intro hcontradict
      have hconclusive : ∃ multi, run.result = .ok multi ∧ conclusive multi = true := by
        rcases horder with ⟨-, hl⟩ | ⟨-, hl⟩
        · obtain ⟨multi, hmulti, -, hkeeps⟩ := returned_verdict hl hread hne
          exact ⟨multi, hmulti, hkeeps hcontradict.conclusive⟩
        · obtain ⟨multi, hmulti, -, hkeeps⟩ := returned_verdict hl hread hne
          exact ⟨multi, hmulti, hkeeps hcontradict.symm.conclusive⟩
      obtain ⟨multi, hmulti, hmulti'⟩ := hconclusive
      refine ⟨multi, hmulti, hmulti', ?_⟩
      intro hintime
      have hseen := run.interleaved.revokedSeen run.last run.earlier rfl hintime
      rw [run.returned] at hseen
      rcases hseen with hmodified | ⟨status, hstatus, hr⟩
      · exact absurd hmodified hne
      · rw [hmulti] at hstatus
        cases hstatus
        exact (signedAs_iff.mp hr).2

/-! ## The call returns -/

/-- A search comes to its end, or is ended by a change. -/
theorem run_accesses {timeouts : Bool} {crl ocsp : Option (ValidationStatus Cert)}
    {l : List (ValidationStatus Cert)} {p : ValidationStatus Cert → Bool}
    {again : Traversal → Phase Cert} {done : Option (ValidationStatus Cert) → Phase Cert}
    (haccess : ∀ t, PollStep timeouts ⟨crl, ocsp, l, again t⟩
      ⟨crl, ocsp, l, afterAccess again done (t.advance p l)⟩) :
    ∀ (left : Nat) (t : Traversal), t.fence - t.index = left →
      ∃ phase,
        (phase = .returned (.error Exn.concurrentModification) ∨ ∃ found, phase = done found) ∧
        Run (PollStep timeouts) ⟨crl, ocsp, l, again t⟩ ⟨crl, ocsp, l, phase⟩ := by
  intro left
  induction left with
  | zero =>
      intro t hleft
      have hmore : t.hasMore = false := decide_eq_false (by omega)
      have hexhausted : t.advance p l = .exhausted := by simp [Traversal.advance, hmore]
      refine ⟨done none, .inr ⟨none, rfl⟩, .head (haccess t) ?_⟩
      rw [hexhausted]
      exact .refl
  | succ left ih =>
      intro t hleft
      cases hadvance : t.advance p l with
      | modified =>
          refine ⟨_, .inl rfl, .head (haccess t) ?_⟩
          rw [hadvance]
          exact .refl
      | found status =>
          refine ⟨_, .inr ⟨some status, rfl⟩, .head (haccess t) ?_⟩
          rw [hadvance]
          exact .refl
      | exhausted =>
          refine ⟨_, .inr ⟨none, rfl⟩, .head (haccess t) ?_⟩
          rw [hadvance]
          exact .refl
      | more t' =>
          have hnext : t' = t.next := by
            unfold Traversal.advance at hadvance
            grind
          subst hnext
          obtain ⟨phase, hphase, hrun⟩ := ih t.next (by simp only [Traversal.next]; omega)
          refine ⟨phase, hphase, .head (haccess t) ?_⟩
          rw [hadvance]
          exact hrun

/-- A collection comes to its end. -/
theorem run_collecting {timeouts : Bool} {crl ocsp : Option (ValidationStatus Cert)}
    {l : List (ValidationStatus Cert)} :
    ∀ (left : Nat) (t : Traversal) (found : Bool), t.fence - t.index = left →
      ∃ t' found', Run (PollStep timeouts) ⟨crl, ocsp, l, .collecting t found⟩
        ⟨crl, ocsp, l, afterCollecting l.length t' found'⟩ := by
  intro left
  induction left with
  | zero =>
      intro t found hleft
      exact ⟨t, found, .single (.collected rfl (decide_eq_false (by omega)))⟩
  | succ left ih =>
      intro t found hleft
      obtain ⟨t', found', hrun⟩ := ih t.next _ (by simp only [Traversal.next]; omega)
      exact ⟨t', found', .head (.collect rfl (decide_eq_true (by omega))) hrun⟩

/-- Wherever the caller is when both statuses are there, its own accesses take it to the
end. -/
theorem returns_once_delivered (timeouts : Bool) (crl ocsp : Option (ValidationStatus Cert))
    {l : List (ValidationStatus Cert)} (hfull : l.length = 2) (phase : Phase Cert) :
    ∃ result, Run (PollStep timeouts) ⟨crl, ocsp, l, phase⟩ ⟨crl, ocsp, l, .returned result⟩ := by
  have hvalidRead : ∀ r v, ∃ result, Run (PollStep timeouts) ⟨crl, ocsp, l, .validRead r v⟩
      ⟨crl, ocsp, l, .returned result⟩ := fun r v => ⟨_, .single (.finish rfl)⟩
  have hfindingValid : ∀ r t, ∃ result, Run (PollStep timeouts)
      ⟨crl, ocsp, l, .findingValid r t⟩ ⟨crl, ocsp, l, .returned result⟩ := by
    intro r t
    obtain ⟨phase, rfl | ⟨v, rfl⟩, hrun⟩ := run_accesses (fun _ => .readValid rfl) _ t rfl
    · exact ⟨_, hrun⟩
    · obtain ⟨result, hrest⟩ := hvalidRead r v
      exact ⟨result, hrun.trans hrest⟩
  have hrevokedRead : ∀ r, ∃ result, Run (PollStep timeouts) ⟨crl, ocsp, l, .revokedRead r⟩
      ⟨crl, ocsp, l, .returned result⟩ := by
    intro r
    obtain ⟨result, hrest⟩ := hfindingValid r (.start l)
    exact ⟨result, .head (.startValid rfl) hrest⟩
  have hfindingRevoked : ∀ t, ∃ result, Run (PollStep timeouts)
      ⟨crl, ocsp, l, .findingRevoked t⟩ ⟨crl, ocsp, l, .returned result⟩ := by
    intro t
    obtain ⟨phase, rfl | ⟨r, rfl⟩, hrun⟩ := run_accesses (fun _ => .readRevoked rfl) _ t rfl
    · exact ⟨_, hrun⟩
    · obtain ⟨result, hrest⟩ := hrevokedRead r
      exact ⟨result, hrun.trans hrest⟩
  have hstopped : ∃ result, Run (PollStep timeouts) ⟨crl, ocsp, l, .stopped⟩
      ⟨crl, ocsp, l, .returned result⟩ := by
    obtain ⟨result, hrest⟩ := hfindingRevoked (.start l)
    exact ⟨result, .head (.startRevoked rfl) hrest⟩
  have hnotEmpty : ∃ result, Run (PollStep timeouts) ⟨crl, ocsp, l, .notEmpty⟩
      ⟨crl, ocsp, l, .returned result⟩ := by
    obtain ⟨result, hrest⟩ := hstopped
    refine ⟨result, .head (.size rfl) ?_⟩
    show Run (PollStep timeouts) ⟨crl, ocsp, l, if l.length = 2 then .stopped else .notFull⟩ _
    rw [if_pos hfull]
    exact hrest
  have hpolling : ∃ result, Run (PollStep timeouts) ⟨crl, ocsp, l, .polling⟩
      ⟨crl, ocsp, l, .returned result⟩ := by
    obtain ⟨result, hrest⟩ := hnotEmpty
    refine ⟨result, .head (.isEmpty rfl) ?_⟩
    have hsome : ¬ l.isEmpty = true := by
      intro hempty
      rw [List.isEmpty_iff.mp hempty] at hfull
      cases hfull
    show Run (PollStep timeouts) ⟨crl, ocsp, l, if l.isEmpty then .incomplete else .notEmpty⟩ _
    rw [if_neg hsome]
    exact hrest
  have hincomplete : ∃ result, Run (PollStep timeouts) ⟨crl, ocsp, l, .incomplete⟩
      ⟨crl, ocsp, l, .returned result⟩ := by
    obtain ⟨result, hrest⟩ := hpolling
    exact ⟨result, .head (.pollAgain rfl) hrest⟩
  have hcollecting : ∀ t found, ∃ result, Run (PollStep timeouts)
      ⟨crl, ocsp, l, .collecting t found⟩ ⟨crl, ocsp, l, .returned result⟩ := by
    intro t found
    obtain ⟨t', found', hrun⟩ := run_collecting _ t found rfl
    have hend : ∃ result, Run (PollStep timeouts)
        ⟨crl, ocsp, l, afterCollecting l.length t' found'⟩ ⟨crl, ocsp, l, .returned result⟩ := by
      unfold afterCollecting
      split
      · split
        · exact hstopped
        · exact hincomplete
      · exact ⟨_, .refl⟩
    obtain ⟨result, hrest⟩ := hend
    exact ⟨result, hrun.trans hrest⟩
  cases phase with
  | polling => exact hpolling
  | notEmpty => exact hnotEmpty
  | notFull =>
      obtain ⟨result, hrest⟩ := hcollecting (.start l) false
      exact ⟨result, .head (.startCollecting rfl) hrest⟩
  | collecting t found => exact hcollecting t found
  | incomplete => exact hincomplete
  | stopped => exact hstopped
  | findingRevoked t => exact hfindingRevoked t
  | revokedRead r => exact hrevokedRead r
  | findingValid r t => exact hfindingValid r t
  | validRead r v => exact hvalidRead r v
  | returned result => exact ⟨result, .refl⟩

/-! ## Calls and interleavings -/

theorem interleaved_of_run {a b : ValidationStatus Cert} {s : PollState Cert}
    (h : Run (PollStep false) (PollState.start (some a) (some b)) s) :
    ∃ earlier, Interleaved a b (s :: earlier) := by
  induction h with
  | refl => exact ⟨[], .start⟩
  | tail _ hstep ih =>
      obtain ⟨earlier, hrun⟩ := ih
      exact ⟨_, hrun.step hstep⟩

theorem run_of_interleaved {a b : ValidationStatus Cert} {states : List (PollState Cert)}
    (h : Interleaved a b states) :
    ∀ s ∈ states, Run (PollStep false) (PollState.start (some a) (some b)) s :=
  h.invariant .refl fun _ _ hstep hrun => hrun.tail hstep

/-- The results of a call are those of its interleavings. -/
theorem multiReturns_iff {a b : ValidationStatus Cert}
    {result : Outcome (ValidationStatus Cert)} :
    MultiReturns false (some a) (some b) result ↔
      ∃ run : Interleaving a b, run.result = result := by
  constructor
  · rintro ⟨s, hrun, hphase⟩
    obtain ⟨earlier, hinterleaved⟩ := interleaved_of_run hrun
    exact ⟨⟨s, earlier, hinterleaved, result, hphase⟩, rfl⟩
  · rintro ⟨run, rfl⟩
    exact ⟨run.last, run_of_interleaved run.interleaved _ List.mem_cons_self, run.returned⟩

/-- The run in which the OCSP answer comes first and the list second, both
before the next poll. -/
theorem multiReturns_ocsp_first (a b : ValidationStatus Cert) :
    MultiReturns false (some a) (some b) (pick [b, a]) := by
  refine ⟨⟨none, none, [b, a], .returned (pick [b, a])⟩, ?_, rfl⟩
  apply Relation.ReflTransGen.head (.deliverOcsp rfl)
  apply Relation.ReflTransGen.head (.deliverCrl rfl)
  apply Relation.ReflTransGen.head (.isEmpty rfl)
  apply Relation.ReflTransGen.head (.size rfl)
  exact run_pick false none none [b, a]

/-- Whatever the statuses are, the second one may fall into the stream that looks at the first
one. -/
theorem multiReturns_disturbed (a b : ValidationStatus Cert) :
    MultiReturns false (some a) (some b) (.error Exn.concurrentModification) := by
  refine ⟨⟨none, none, [a, b], .returned (.error Exn.concurrentModification)⟩, ?_, rfl⟩
  apply Relation.ReflTransGen.head (.deliverCrl rfl)
  apply Relation.ReflTransGen.head (.isEmpty rfl)
  apply Relation.ReflTransGen.head (.size rfl)
  apply Relation.ReflTransGen.head (.startCollecting rfl)
  apply Relation.ReflTransGen.head (.deliverOcsp rfl)
  apply Relation.ReflTransGen.head (.collect rfl rfl)
  apply Relation.ReflTransGen.head (.collected rfl rfl)
  exact .refl

/-! An unsigned OCSP answer that says valid, and a list that could not be had. -/

def missingList : ValidationStatus Nat :=
  checkStatusPath forgedEnv (.error Exn.nullPointer)
    (CRLValidityChecker.checkValidity forgedEnv 3 2)

def unsignedAnswer : ValidationStatus Nat :=
  checkStatusPath forgedEnv (.error Exn.nullPointer)
    (OCSPCertificateVerifier.checkValidity forgedEnv 3 2 1000)

/-- A signed answer of an accepted responder. -/
def signedAnswer : ValidationStatus Nat :=
  checkStatusPath forgedEnv (.ok unsignedAnswer)
    (OCSPCertificateVerifier.checkValidity forgedEnv 1 2 1000)

/-- Two inconclusive statuses: the single-threaded call says unknown, and the multi-threaded
one says valid when the OCSP answer comes first. A conclusive answer does not help when it
falls into the stream that looks at the list. -/
theorem arrival_order_decides :
    (pick [missingList, unsignedAnswer] = .ok missingList ∧
      missingList.validity = .UNKNOWN ∧ unsignedAnswer.validity = .VALID ∧
      ∃ run : Interleaving missingList unsignedAnswer,
        run.result = .ok unsignedAnswer ∧ ¬ KeepsVerdict run) ∧
    (signedAs .VALID signedAnswer = true ∧
      ∃ run : Interleaving missingList signedAnswer,
        run.result = .error Exn.concurrentModification ∧ ¬ KeepsVerdict run) := by
  have hlist : signedAs .REVOKED missingList = false ∧ signedAs .VALID missingList = false := by
    decide
  have hnot : ∀ other, ¬ Contradict missingList other := by
    rintro other (⟨h, -⟩ | ⟨h, -⟩)
    · rw [hlist.2] at h
      cases h
    · rw [hlist.1] at h
      cases h
  refine ⟨⟨rfl, rfl, rfl, ?_⟩, rfl, ?_⟩
  · obtain ⟨run, hrun⟩ := multiReturns_iff.mp (multiReturns_ocsp_first missingList unsignedAnswer)
    refine ⟨run, hrun, ?_⟩
    intro hkeeps
    obtain ⟨multi, single, hmulti, hsingle, heq⟩ := hkeeps.agrees (hnot _)
    rw [hrun] at hmulti
    cases hmulti
    cases hsingle
    cases heq
  · obtain ⟨run, hrun⟩ := multiReturns_iff.mp (multiReturns_disturbed missingList signedAnswer)
    refine ⟨run, hrun, ?_⟩
    intro hkeeps
    obtain ⟨multi, -, hmulti, -⟩ := hkeeps.agrees (hnot _)
    rw [hrun] at hmulti
    cases hmulti

end SigVal.Cert
