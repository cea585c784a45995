import SigVal.Cert.ValidationStatus

/-!
# The entries of an OCSP response

A response may have several entries for one certificate. `checkValidity` takes them one after
the other and lets each overwrite the validity, whatever the one before it said; one that is
revoked without a reason stops the loop with an exception and leaves what was written before
it. `thisUpdate` and `nextUpdate` are read for the log. The validity stands for all the
entries exactly where only one kind of them is there, and a good answer is a current one.
-/

namespace SigVal.Cert

open SigVal.Java OCSPCertificateVerifier

variable {Cert Crl : Type}

/-! ## What the validity should say -/

namespace SingleResp

/-- Good, or revoked after the date only. -/
def ValidAt (validationDate : Date) (singleResp : SingleResp) : Prop :=
  singleResp.certStatus = .good ∨
    ∃ revocationTime reason, singleResp.certStatus = .revoked revocationTime reason ∧
      validationDate < revocationTime

def RevokedAt (validationDate : Date) (singleResp : SingleResp) : Prop :=
  ∃ revocationTime reason, singleResp.certStatus = .revoked revocationTime reason ∧
    revocationTime ≤ validationDate

/-- The date lies in the time for which the entry was made. -/
def CurrentAt (validationDate : Date) (singleResp : SingleResp) : Prop :=
  singleResp.thisUpdate ≤ validationDate ∧
    ∀ nextUpdate, singleResp.nextUpdate = some nextUpdate → validationDate ≤ nextUpdate

end SingleResp

/-- The responder answers every request with the response. -/
def StatusEnv.answering (env : StatusEnv Cert Crl) (basicOCSPResp : BasicOCSPResp Cert) :
    StatusEnv Cert Crl :=
  { env with requestOCSPResponse := fun _ _ _ => .ok ⟨0, .ok (some basicOCSPResp)⟩ }

/-- The entries for a certificate identifier. -/
def BasicOCSPResp.matching (basicOCSPResp : BasicOCSPResp Cert) (certificateId : String) :
    List SingleResp :=
  basicOCSPResp.responses.filter fun r => r.certID == certificateId

/-- A nonce in the response is the one that was sent, with or without the octet string
around it. -/
def NonceEchoed (env : StatusEnv Cert Crl) (basicOCSPResp : BasicOCSPResp Cert) : Prop :=
  ∀ responseNonce, basicOCSPResp.nonceExtension = some responseNonce →
    ∃ nonce, env.nonce = some nonce ∧
      (responseNonce = env.wrapNonce nonce ∨ responseNonce = nonce)

/-- The reported validity does not depend on the order of the entries, and is `VALID` only on
a current entry that says so, with none that says otherwise, under the right nonce. -/
structure DecidesOverAll (env : StatusEnv Cert Crl) (certificate issuer : Cert)
    (validationDate : Date) (basicOCSPResp : BasicOCSPResp Cert) : Prop where
  order : ∀ responses, responses.Perm basicOCSPResp.responses →
    (checkValidity (env.answering { basicOCSPResp with responses := responses }) certificate
        issuer validationDate).validity =
      (checkValidity (env.answering basicOCSPResp) certificate issuer validationDate).validity
  valid :
    (checkValidity (env.answering basicOCSPResp) certificate issuer validationDate).validity =
        .VALID →
      ∃ certificateId, env.certificateID issuer certificate = .ok certificateId ∧
        (∃ r ∈ basicOCSPResp.matching certificateId,
          r.ValidAt validationDate ∧ r.CurrentAt validationDate) ∧
        (∀ r ∈ basicOCSPResp.matching certificateId, ¬ r.RevokedAt validationDate) ∧
        NonceEchoed env basicOCSPResp

/-! ## What an entry does -/

inductive EntryEffect where
  | valid
  | revoked
  | throws
deriving DecidableEq, Repr

/-- What an entry for the certificate makes of the validity; one of unknown status makes
nothing of it. -/
def SingleResp.effect (validationDate : Date) (singleResp : SingleResp) : Option EntryEffect :=
  match singleResp.certStatus with
  | .good => some .valid
  | .revoked revocationTime reason =>
      if validationDate < revocationTime then some .valid
      else if reason.isSome then some .revoked else some .throws
  | .unknown => none

/-- The validity after the entries. -/
def decided (validationDate : Date) : CertificateValidity → List SingleResp → CertificateValidity
  | validity, [] => validity
  | validity, r :: rest =>
      match r.effect validationDate with
      | none => decided validationDate validity rest
      | some .valid => decided validationDate .VALID rest
      | some .revoked => decided validationDate .REVOKED rest
      | some .throws => validity

section Effects

variable {validationDate : Date}

theorem effect_valid_iff {r : SingleResp} :
    r.effect validationDate = some .valid ↔ r.ValidAt validationDate := by
  unfold SingleResp.effect SingleResp.ValidAt
  rcases r.certStatus with _ | ⟨revocationTime, reason⟩ | _
  · simp
  · by_cases hlater : validationDate < revocationTime
    · simp [hlater]
    · cases reason <;> simp [hlater]
  · simp

theorem effect_of_revokedAt {r : SingleResp} (h : r.RevokedAt validationDate) :
    r.effect validationDate = some .revoked ∨ r.effect validationDate = some .throws := by
  obtain ⟨revocationTime, reason, hstatus, hearlier⟩ := h
  unfold SingleResp.effect
  rw [hstatus]
  have hnot : ¬ validationDate < revocationTime := Int.not_lt.mpr hearlier
  cases reason with
  | none => exact .inr (by simp [hnot])
  | some reason => exact .inl (by simp [hnot])

/-- One entry: it ends normally with what it decides, or throws and decides nothing. -/
theorem processSingleResp_effect (producedAt : Date) (r : SingleResp)
    (status : ValidationStatus Cert) :
    Mutating.wp (processSingleResp validationDate producedAt r)
      (fun _ t => decided validationDate status.validity [r] = t.validity ∧
        r.effect validationDate ≠ some .throws)
      (fun _ t => t.validity = status.validity ∧ r.effect validationDate = some .throws)
      status := by
  unfold processSingleResp
  rw [Mutating.wp_bind, Mutating.wp_modify]
  rcases hstatus : r.certStatus with _ | ⟨revocationTime, reason⟩ | _
  · have heffect : r.effect validationDate = some .valid := by simp [SingleResp.effect, hstatus]
    simp only [Mutating.wp_modify, decided, heffect]
    simp
  · by_cases hlater : validationDate < revocationTime
    · have heffect : r.effect validationDate = some .valid := by
        simp [SingleResp.effect, hstatus, hlater]
      simp only [if_pos hlater, Mutating.wp_modify, decided, heffect]
      simp
    · simp only [if_neg hlater, Mutating.wp_bind, Mutating.wp_modify]
      cases reason with
      | none =>
          have heffect : r.effect validationDate = some .throws := by
            simp [SingleResp.effect, hstatus, hlater]
          exact ⟨rfl, heffect⟩
      | some reason =>
          have heffect : r.effect validationDate = some .revoked := by
            simp [SingleResp.effect, hstatus, hlater]
          simp only [Mutating.wp_modify, decided, heffect]
          simp
  · have heffect : r.effect validationDate = none := by simp [SingleResp.effect, hstatus]
    simp only [Mutating.wp_pure, decided, heffect]
    simp

theorem decided_cons_throws {validity : CertificateValidity} {r : SingleResp}
    {rest : List SingleResp} (h : r.effect validationDate = some .throws) :
    decided validationDate validity (r :: rest) = validity := by
  simp only [decided, h]

/-- Up to an entry that throws, entries are taken one by one. -/
theorem decided_cons {r : SingleResp} {rest : List SingleResp}
    (h : r.effect validationDate ≠ some .throws) (validity : CertificateValidity) :
    decided validationDate validity (r :: rest) =
      decided validationDate (decided validationDate validity [r]) rest := by
  simp only [decided]
  rcases heffect : r.effect validationDate with _ | _ | _ | _
  · rfl
  · rfl
  · rfl
  · exact absurd heffect h

theorem decided_append {l l' : List SingleResp}
    (h : ∀ r ∈ l, r.effect validationDate ≠ some .throws) :
    ∀ validity, decided validationDate validity (l ++ l') =
      decided validationDate (decided validationDate validity l) l' := by
  induction l with
  | nil => exact fun _ => rfl
  | cons r rest ih =>
      intro validity
      have hrest := ih fun x hx => h x (List.mem_cons_of_mem _ hx)
      have hfirst := h r List.mem_cons_self
      rw [List.cons_append, decided_cons hfirst, hrest, @decided_cons _ _ rest hfirst]

/-- The loop over the entries. -/
theorem entries_decided (producedAt : Date) (l : List SingleResp) (status : ValidationStatus Cert) :
    Mutating.wp (forIn l PUnit.unit fun r _ => do
        processSingleResp validationDate producedAt r
        pure (ForInStep.yield PUnit.unit))
      (fun _ t => t.validity = decided validationDate status.validity l)
      (fun _ t => t.validity = decided validationDate status.validity l) status := by
  refine Mutating.wp_mono (Q := fun _ t =>
    t.validity = decided validationDate status.validity l ∧
      ∀ r ∈ l, r.effect validationDate ≠ some .throws) ?_ (fun _ _ h => h.1) (fun _ _ h => h)
  apply @Mutating.wp_forIn _ _ _ _ _ fun (taken : List SingleResp) (t : ValidationStatus Cert) =>
    t.validity = decided validationDate status.validity taken ∧
      ∀ r ∈ taken, r.effect validationDate ≠ some .throws
  · rintro taken r rest rfl t ⟨hvalidity, htaken⟩
    rw [Mutating.wp_bind]
    refine Mutating.wp_mono (processSingleResp_effect producedAt r t) ?_ ?_
    · rintro _ u ⟨hdecided, hnot⟩
      refine ⟨rfl, ?_, ?_⟩
      · rw [decided_append htaken, ← hvalidity, hdecided]
      · intro x hx
        rcases List.mem_append.mp hx with hx | hx
        · exact htaken x hx
        · rwa [List.mem_singleton.mp hx]
    · rintro _ u ⟨hkept, hthrows⟩
      rw [hkept, hvalidity, decided_append htaken, decided_cons_throws hthrows]
  · exact ⟨rfl, by simp⟩

end Effects

/-! ## The way to the entries -/

/-- `checkResponseSignature` tries every certificate: no attempt fails in another way than
with an `OCSPException`. -/
def SignatureTried (issuer : Cert) (basicOCSPResp : BasicOCSPResp Cert) : Prop :=
  ∃ responseCerts, basicOCSPResp.certs = .ok responseCerts ∧
    ∀ cert ∈ if responseCerts.isEmpty then [issuer] else responseCerts,
      ∀ ex, basicOCSPResp.isSignatureValid cert = .error ex → ex.cls = .ocsp

/-- Nothing fails before the entries are looked at. -/
structure EntriesReached (env : StatusEnv Cert Crl) (certificate issuer : Cert)
    (basicOCSPResp : BasicOCSPResp Cert) (certificateId : String) : Prop where
  url : ∃ ocspUrl, env.getOCSPUrl certificate = .ok (some ocspUrl)
  identifier : env.certificateID issuer certificate = .ok certificateId
  signature : SignatureTried issuer basicOCSPResp
  nonce : checkNonce env basicOCSPResp = .ok ()

theorem nonceEchoed_of_checkNonce {env : StatusEnv Cert Crl} {basicOCSPResp : BasicOCSPResp Cert}
    (h : checkNonce env basicOCSPResp = .ok ()) : NonceEchoed env basicOCSPResp := by
  intro responseNonce hresponse
  unfold checkNonce at h
  rw [hresponse] at h
  cases hnonce : env.nonce with
  | none =>
      rw [hnonce] at h
      cases h
  | some nonce =>
      simp only [hnonce] at h
      refine ⟨nonce, rfl, ?_⟩
      split at h
      · cases h
      · split at h
        · rename_i hwrapped
          exact .inl hwrapped.symm
        · split at h
          · rename_i hraw
            exact .inr hraw.symm
          · cases h

theorem checkResponseSignature_tried (issuer : Cert) (basicOCSPResp : BasicOCSPResp Cert)
    (status : ValidationStatus Cert) :
    Mutating.wp (checkResponseSignature issuer basicOCSPResp)
      (fun _ t => t.validity = status.validity ∧ SignatureTried issuer basicOCSPResp)
      (fun _ t => t.validity = status.validity ∧ ¬ SignatureTried issuer basicOCSPResp)
      status := by
  unfold checkResponseSignature
  rw [Mutating.wp_bind, Mutating.wp_call]
  constructor
  · intro responseCerts hcerts
    rw [Mutating.wp_bind]
    have hiff : SignatureTried issuer basicOCSPResp ↔
        ∀ cert ∈ if responseCerts.isEmpty then [issuer] else responseCerts,
          ∀ ex, basicOCSPResp.isSignatureValid cert = .error ex → ex.cls = .ocsp := by
      unfold SignatureTried
      simp only [hcerts, Except.ok.injEq, exists_eq_left']
    rw [hiff]
    generalize (if responseCerts.isEmpty then [issuer] else responseCerts) = certList
    apply @Mutating.wp_forIn _ _ _ _ _ fun (taken : List Cert) (t : ValidationStatus Cert) =>
      t.validity = status.validity ∧
        ∀ cert ∈ taken, ∀ ex, basicOCSPResp.isSignatureValid cert = .error ex → ex.cls = .ocsp
    · rintro taken cert rest rfl t ⟨hkept, htaken⟩
      have hnext : (∀ ex, basicOCSPResp.isSignatureValid cert = .error ex → ex.cls = .ocsp) →
          ∀ x ∈ taken ++ [cert], ∀ ex,
            basicOCSPResp.isSignatureValid x = .error ex → ex.cls = .ocsp := by
        intro hcert x hx
        rcases List.mem_append.mp hx with hx | hx
        · exact htaken x hx
        · rwa [List.mem_singleton.mp hx]
      split
      · rename_i hvalid
        refine ⟨rfl, hkept, hnext ?_⟩
        intro ex hex
        rw [hvalid] at hex
        cases hex
      · rename_i hvalid
        refine ⟨rfl, hkept, hnext ?_⟩
        intro ex hex
        rw [hvalid] at hex
        cases hex
      · rename_i ex hthrown
        split
        · rename_i hocsp
          refine ⟨rfl, hkept, hnext ?_⟩
          intro ex' hex'
          rw [hthrown] at hex'
          cases hex'
          exact hocsp
        · rename_i hother
          refine ⟨hkept, ?_⟩
          intro hall
          exact hother (hall cert (by simp) ex hthrown)
    · exact ⟨rfl, by simp⟩
  · intro ex hcerts
    refine ⟨rfl, ?_⟩
    rintro ⟨responseCerts, hok, -⟩
    rw [hcerts] at hok
    cases hok

section Validity

variable {env : StatusEnv Cert Crl} {certificate issuer : Cert} {validationDate : Date}
  {basicOCSPResp : BasicOCSPResp Cert}

/-- A validity that the entries decide, or none where they are not reached. -/
def Reported (env : StatusEnv Cert Crl) (certificate issuer : Cert) (validationDate : Date)
    (basicOCSPResp : BasicOCSPResp Cert) (validity : CertificateValidity) : Prop :=
  (∃ certificateId, EntriesReached env certificate issuer basicOCSPResp certificateId ∧
    validity = decided validationDate .UNKNOWN (basicOCSPResp.matching certificateId)) ∨
  (∀ certificateId, ¬ EntriesReached env certificate issuer basicOCSPResp certificateId) ∧
    validity = .UNKNOWN

/-- From the response on, for a certificate that has a responder and an identifier. -/
theorem response_reported {ocspUrl certificateId : String}
    (hurl : env.getOCSPUrl certificate = .ok (some ocspUrl))
    (hid : env.certificateID issuer certificate = .ok certificateId)
    {status : ValidationStatus Cert} (hunknown : status.validity = .UNKNOWN) :
    Mutating.wp (do
        checkResponseSignature issuer basicOCSPResp
        Mutating.call (checkNonce (env.answering basicOCSPResp) basicOCSPResp)
        let singleResps := basicOCSPResp.matching certificateId
        for singleResp in singleResps do
          processSingleResp validationDate basicOCSPResp.producedAt singleResp
        if singleResps.isEmpty then
          modify
            ({ · with exception := some ⟨.io, "There are no matching OCSP response entries"⟩ }))
      (fun _ t => Reported env certificate issuer validationDate basicOCSPResp t.validity)
      (fun _ t => Reported env certificate issuer validationDate basicOCSPResp t.validity)
      status := by
  have hsame : ∀ id, EntriesReached env certificate issuer basicOCSPResp id →
      id = certificateId := by
    intro id hreached
    have hid' := hreached.identifier
    rw [hid] at hid'
    exact (Except.ok.inj hid').symm
  rw [Mutating.wp_bind]
  refine Mutating.wp_mono (checkResponseSignature_tried issuer basicOCSPResp status) ?_ ?_
  · rintro _ t ⟨hkept, htried⟩
    rw [Mutating.wp_bind, Mutating.wp_call]
    constructor
    · intro _ hnonce
      have hreached : EntriesReached env certificate issuer basicOCSPResp certificateId :=
        ⟨⟨ocspUrl, hurl⟩, hid, htried, hnonce⟩
      rw [Mutating.wp_bind]
      refine Mutating.wp_mono (entries_decided basicOCSPResp.producedAt
        (basicOCSPResp.matching certificateId) t) ?_ ?_
      · intro _ u hdecided
        rw [hkept, hunknown] at hdecided
        split
        · exact .inl ⟨certificateId, hreached, hdecided⟩
        · exact .inl ⟨certificateId, hreached, hdecided⟩
      · intro _ u hdecided
        rw [hkept, hunknown] at hdecided
        exact .inl ⟨certificateId, hreached, hdecided⟩
    · intro ex hnonce
      refine .inr ⟨?_, hkept.trans hunknown⟩
      intro id hreached
      have hok : checkNonce (env.answering basicOCSPResp) basicOCSPResp = .ok () := hreached.nonce
      rw [hnonce] at hok
      cases hok
  · rintro _ t ⟨hkept, hnot⟩
    exact .inr ⟨fun id hreached => hnot hreached.signature, hkept.trans hunknown⟩

/-- The validity that is reported, also where an exception is. -/
theorem checkValidity_reported :
    Reported env certificate issuer validationDate basicOCSPResp
      (checkValidity (env.answering basicOCSPResp) certificate issuer validationDate).validity := by
  apply @Mutating.tryCatch_of_wp _ _ _ _ fun status : ValidationStatus Cert =>
    Reported env certificate issuer validationDate basicOCSPResp status.validity
  unfold checkResponse
  rw [Mutating.wp_bind, Mutating.wp_call]
  constructor
  · intro url hurl
    replace hurl : env.getOCSPUrl certificate = .ok url := hurl
    cases url with
    | none =>
        refine .inr ⟨?_, rfl⟩
        intro certificateId hreached
        obtain ⟨ocspUrl, hsome⟩ := hreached.url
        rw [hurl] at hsome
        cases hsome
    | some ocspUrl =>
        simp only [Mutating.wp_bind, Mutating.wp_modify]
        rw [Mutating.wp_call]
        constructor
        · intro certificateId hid
          exact response_reported hurl hid rfl
        · intro ex hid
          replace hid : env.certificateID issuer certificate = .error ex := hid
          refine .inr ⟨?_, rfl⟩
          intro certificateId hreached
          have hok := hreached.identifier
          rw [hid] at hok
          cases hok
  · intro ex hurl
    replace hurl : env.getOCSPUrl certificate = .error ex := hurl
    refine .inr ⟨?_, rfl⟩
    intro certificateId hreached
    obtain ⟨ocspUrl, hsome⟩ := hreached.url
    rw [hurl] at hsome
    cases hsome

theorem checkValidity_of_reached {certificateId : String}
    (h : EntriesReached env certificate issuer basicOCSPResp certificateId) :
    (checkValidity (env.answering basicOCSPResp) certificate issuer validationDate).validity =
      decided validationDate .UNKNOWN (basicOCSPResp.matching certificateId) := by
  rcases @checkValidity_reported _ _ env certificate issuer validationDate basicOCSPResp with
    ⟨id, hreached, hvalidity⟩ | ⟨hnot, -⟩
  · have hid := hreached.identifier
    rw [h.identifier] at hid
    cases hid
    exact hvalidity
  · exact absurd h (hnot certificateId)

theorem checkValidity_of_not_reached
    (h : ∀ certificateId, ¬ EntriesReached env certificate issuer basicOCSPResp certificateId) :
    (checkValidity (env.answering basicOCSPResp) certificate issuer validationDate).validity =
      .UNKNOWN := by
  rcases @checkValidity_reported _ _ env certificate issuer validationDate basicOCSPResp with
    ⟨id, hreached, -⟩ | ⟨-, hvalidity⟩
  · exact absurd hreached (h id)
  · exact hvalidity

/-! ## Entries of one kind -/

/-- No two entries have different effects, and one that makes the certificate valid has a
current one beside it. -/
structure OneKind (validationDate : Date) (entries : List SingleResp) : Prop where
  same : ∀ r ∈ entries, ∀ r' ∈ entries, ∀ e e', r.effect validationDate = some e →
    r'.effect validationDate = some e' → e = e'
  current : ∀ r ∈ entries, r.ValidAt validationDate →
    ∃ r' ∈ entries, r'.ValidAt validationDate ∧ r'.CurrentAt validationDate

/-- What an effect makes of a validity. -/
def EntryEffect.result (validity : CertificateValidity) : EntryEffect → CertificateValidity
  | .valid => .VALID
  | .revoked => .REVOKED
  | .throws => validity

theorem decided_cons_of_effect {r : SingleResp} {e : EntryEffect}
    (h : r.effect validationDate = some e) (validity : CertificateValidity) :
    decided validationDate validity [r] = e.result validity := by
  unfold decided
  rw [h]
  cases e <;> rfl

theorem decided_of_none {l : List SingleResp} (h : ∀ r ∈ l, r.effect validationDate = none) :
    ∀ validity, decided validationDate validity l = validity := by
  induction l with
  | nil => exact fun _ => rfl
  | cons r rest ih =>
      intro validity
      simp only [decided, h r List.mem_cons_self]
      exact ih (fun x hx => h x (List.mem_cons_of_mem _ hx)) validity

/-- Entries of one kind decide what one of them does. -/
theorem decided_of_same {e : EntryEffect} {l : List SingleResp}
    (hsame : ∀ r ∈ l, ∀ e', r.effect validationDate = some e' → e' = e) :
    ∀ validity, (∃ r ∈ l, r.effect validationDate = some e) →
      decided validationDate validity l = e.result validity := by
  induction l with
  | nil =>
      rintro validity ⟨r, hr, -⟩
      cases hr
  | cons r rest ih =>
      intro validity hex
      have ih := ih fun x hx => hsame x (List.mem_cons_of_mem _ hx)
      cases heffect : r.effect validationDate with
      | none =>
          simp only [decided, heffect]
          apply ih
          obtain ⟨x, hx, hxe⟩ := hex
          rcases List.mem_cons.mp hx with rfl | hx
          · rw [heffect] at hxe
            cases hxe
          · exact ⟨x, hx, hxe⟩
      | some e' =>
          obtain rfl := hsame r List.mem_cons_self e' heffect
          have hrest : decided validationDate (e'.result validity) rest = e'.result validity := by
            by_cases hmore : ∃ x ∈ rest, x.effect validationDate = some e'
            · rw [ih _ hmore]
              cases e' <;> rfl
            · apply decided_of_none
              intro x hx
              by_contra hne
              obtain ⟨e'', he''⟩ := Option.ne_none_iff_exists'.mp hne
              obtain rfl := hsame x (List.mem_cons_of_mem _ hx) e'' he''
              exact hmore ⟨x, hx, he''⟩
          cases e' with
          | throws => exact decided_cons_throws heffect
          | valid =>
              rw [decided_cons (by rw [heffect]; decide), decided_cons_of_effect heffect]
              exact hrest
          | revoked =>
              rw [decided_cons (by rw [heffect]; decide), decided_cons_of_effect heffect]
              exact hrest

/-- Entries of one kind decide the same in every order. -/
theorem decided_perm {l l' : List SingleResp} (hperm : l'.Perm l)
    (hsame : ∀ r ∈ l, ∀ r' ∈ l, ∀ e e', r.effect validationDate = some e →
      r'.effect validationDate = some e' → e = e') (validity : CertificateValidity) :
    decided validationDate validity l' = decided validationDate validity l := by
  by_cases hsome : ∃ r ∈ l, ∃ e, r.effect validationDate = some e
  · obtain ⟨r, hr, e, he⟩ := hsome
    have hall : ∀ r' ∈ l, ∀ e', r'.effect validationDate = some e' → e' = e :=
      fun r' hr' e' he' => hsame r' hr' r hr e' e he' he
    rw [decided_of_same hall _ ⟨r, hr, he⟩]
    exact decided_of_same (fun r' hr' => hall r' (hperm.mem_iff.mp hr')) _
      ⟨r, hperm.mem_iff.mpr hr, he⟩
  · have hnone : ∀ r ∈ l, r.effect validationDate = none := by
      intro r hr
      by_contra hne
      obtain ⟨e, he⟩ := Option.ne_none_iff_exists'.mp hne
      exact hsome ⟨r, hr, e, he⟩
    rw [decided_of_none hnone]
    exact decided_of_none (fun r hr => hnone r (hperm.mem_iff.mp hr)) _

theorem exists_valid_of_decided {l : List SingleResp} :
    ∀ {validity}, decided validationDate validity l = .VALID → validity ≠ .VALID →
      ∃ r ∈ l, r.effect validationDate = some .valid := by
  induction l with
  | nil =>
      intro validity h hne
      exact absurd h hne
  | cons r rest ih =>
      intro validity h hne
      simp only [decided] at h
      rcases heffect : r.effect validationDate with _ | _ | _ | _
      · rw [heffect] at h
        obtain ⟨x, hx, hxe⟩ := ih h hne
        exact ⟨x, List.mem_cons_of_mem _ hx, hxe⟩
      · exact ⟨r, List.mem_cons_self, heffect⟩
      · rw [heffect] at h
        obtain ⟨x, hx, hxe⟩ := ih h (by decide)
        exact ⟨x, List.mem_cons_of_mem _ hx, hxe⟩
      · rw [heffect] at h
        exact absurd h hne

/-- Two members of a list can be put where one likes. -/
theorem exists_perm_pair {l : List SingleResp} {a b : SingleResp} (ha : a ∈ l) (hb : b ∈ l)
    (hne : a ≠ b) : ∃ rest, l.Perm (a :: b :: rest) := by
  have hfirst := List.perm_cons_erase ha
  rcases List.mem_cons.mp (hfirst.mem_iff.mp hb) with heq | hrest
  · exact absurd heq.symm hne
  · exact ⟨(l.erase a).erase b, hfirst.trans ((List.perm_cons_erase hrest).cons a)⟩

/-- An entry that throws hides what comes after it. -/
theorem exists_orders_of_throws {l : List SingleResp} {x c : SingleResp} {e : EntryEffect}
    (hx : x ∈ l) (hthrows : x.effect validationDate = some .throws) (hc : c ∈ l)
    (hce : c.effect validationDate = some e) (hne : e ≠ .throws) :
    ∃ l₁ l₂, l₁.Perm l ∧ l₂.Perm l ∧
      decided validationDate .UNKNOWN l₁ ≠ decided validationDate .UNKNOWN l₂ := by
  have hxc : x ≠ c := by
    rintro rfl
    rw [hthrows] at hce
    exact hne (Option.some.inj hce).symm
  obtain ⟨rest, hperm⟩ := exists_perm_pair hx hc hxc
  refine ⟨x :: c :: rest, c :: x :: rest, hperm.symm, (hperm.trans (.swap c x rest)).symm, ?_⟩
  have hcnot : c.effect validationDate ≠ some .throws := by
    rw [hce]
    exact fun h => hne (Option.some.inj h)
  rw [decided_cons_throws hthrows, decided_cons hcnot, decided_cons_throws hthrows,
    decided_cons_of_effect hce]
  cases e with
  | valid => decide
  | revoked => decide
  | throws => exact absurd rfl hne

/-- Entries of two kinds decide differently in different orders. -/
theorem exists_orders {l : List SingleResp} {a b : SingleResp} {e e' : EntryEffect} (ha : a ∈ l)
    (hb : b ∈ l) (hea : a.effect validationDate = some e) (heb : b.effect validationDate = some e')
    (hne : e ≠ e') :
    ∃ l₁ l₂, l₁.Perm l ∧ l₂.Perm l ∧
      decided validationDate .UNKNOWN l₁ ≠ decided validationDate .UNKNOWN l₂ := by
  by_cases hthrow : ∃ x ∈ l, x.effect validationDate = some .throws
  · obtain ⟨x, hx, hthrows⟩ := hthrow
    by_cases he : e = .throws
    · exact exists_orders_of_throws hx hthrows hb heb fun he' => hne (he.trans he'.symm)
    · exact exists_orders_of_throws hx hthrows ha hea he
  · have hnot : ∀ x ∈ l, x.effect validationDate ≠ some .throws :=
      fun x hx hthrows => hthrow ⟨x, hx, hthrows⟩
    have hab : a ≠ b := by
      rintro rfl
      rw [hea] at heb
      exact hne (Option.some.inj heb)
    obtain ⟨rest, hperm⟩ := exists_perm_pair ha hb hab
    have hrest : ∀ x ∈ rest, x.effect validationDate ≠ some .throws :=
      fun x hx => hnot x (hperm.mem_iff.mpr (by simp [hx]))
    -- the last of the two has the last word
    refine ⟨rest ++ [a, b], rest ++ [b, a], List.perm_append_comm.trans hperm.symm,
      List.perm_append_comm.trans ((List.Perm.swap a b rest).trans hperm.symm), ?_⟩
    have hanot := hnot a ha
    have hbnot := hnot b hb
    have hlast : ∀ validity, decided validationDate validity [a, b] =
        e'.result (e.result validity) := by
      intro validity
      rw [decided_cons hanot, decided_cons_of_effect hea, decided_cons_of_effect heb]
    have hlast' : ∀ validity, decided validationDate validity [b, a] =
        e.result (e'.result validity) := by
      intro validity
      rw [decided_cons hbnot, decided_cons_of_effect heb, decided_cons_of_effect hea]
    rw [decided_append hrest, decided_append hrest, hlast, hlast']
    rw [hea] at hanot
    rw [heb] at hbnot
    cases e with
    | throws => exact absurd rfl hanot
    | valid =>
        cases e' with
        | throws => exact absurd rfl hbnot
        | valid => exact absurd rfl hne
        | revoked => simp [EntryEffect.result]
    | revoked =>
        cases e' with
        | throws => exact absurd rfl hbnot
        | valid => simp [EntryEffect.result]
        | revoked => exact absurd rfl hne

/-- An order of the matching entries is one of a whole response. -/
theorem exists_response_of_perm {certificateId : String} {l : List SingleResp}
    (hperm : l.Perm (basicOCSPResp.matching certificateId)) :
    ∃ responses : List SingleResp, responses.Perm basicOCSPResp.responses ∧
      BasicOCSPResp.matching { basicOCSPResp with responses := responses } certificateId = l := by
  refine ⟨l ++ basicOCSPResp.responses.filter fun r => !(r.certID == certificateId),
    (hperm.append_right _).trans (List.filter_append_perm _ _), ?_⟩
  unfold BasicOCSPResp.matching
  dsimp only
  rw [List.filter_append, List.filter_filter]
  have hall : ∀ r ∈ l, (r.certID == certificateId) = true := by
    intro r hr
    exact (List.mem_filter.mp (hperm.mem_iff.mp hr)).2
  rw [List.filter_eq_self.mpr hall]
  simp

/-- The response in another order is as far from its entries as before. -/
theorem EntriesReached.reordered {certificateId : String} {responses : List SingleResp}
    (h : EntriesReached env certificate issuer basicOCSPResp certificateId) :
    EntriesReached env certificate issuer { basicOCSPResp with responses := responses }
      certificateId :=
  ⟨h.url, h.identifier, h.signature, h.nonce⟩

theorem DecidesOverAll.oneKind {certificateId : String}
    (h : DecidesOverAll env certificate issuer validationDate basicOCSPResp)
    (hreached : EntriesReached env certificate issuer basicOCSPResp certificateId) :
    OneKind validationDate (basicOCSPResp.matching certificateId) := by
  have hsame : ∀ r ∈ basicOCSPResp.matching certificateId,
      ∀ r' ∈ basicOCSPResp.matching certificateId, ∀ e e',
      r.effect validationDate = some e → r'.effect validationDate = some e' → e = e' := by
    intro r hr r' hr' e e' he he'
    by_contra hne
    obtain ⟨l₁, l₂, hperm₁, hperm₂, hdiffer⟩ := exists_orders hr hr' he he' hne
    obtain ⟨responses₁, hresponses₁, rfl⟩ := exists_response_of_perm hperm₁
    obtain ⟨responses₂, hresponses₂, rfl⟩ := exists_response_of_perm hperm₂
    apply hdiffer
    rw [← checkValidity_of_reached hreached.reordered,
      ← checkValidity_of_reached hreached.reordered, h.order _ hresponses₁,
      h.order _ hresponses₂]
  refine ⟨hsame, ?_⟩
  intro r hr hvalid
  have hvalidity : decided validationDate .UNKNOWN (basicOCSPResp.matching certificateId) =
      .VALID := by
    refine decided_of_same (e := .valid) ?_ .UNKNOWN ⟨r, hr, effect_valid_iff.mpr hvalid⟩
    intro r' hr' e' he'
    exact hsame r' hr' r hr e' .valid he' (effect_valid_iff.mpr hvalid)
  rw [← checkValidity_of_reached hreached] at hvalidity
  obtain ⟨id, hid, hcurrent, -, -⟩ := h.valid hvalidity
  rw [hreached.identifier] at hid
  cases hid
  exact hcurrent

theorem decidesOverAll_of_oneKind {certificateId : String}
    (hreached : EntriesReached env certificate issuer basicOCSPResp certificateId)
    (hkind : OneKind validationDate (basicOCSPResp.matching certificateId)) :
    DecidesOverAll env certificate issuer validationDate basicOCSPResp := by
  constructor
  · intro responses hperm
    rw [checkValidity_of_reached hreached, checkValidity_of_reached hreached.reordered]
    have hmatching : (BasicOCSPResp.matching { basicOCSPResp with responses := responses }
        certificateId).Perm (basicOCSPResp.matching certificateId) := hperm.filter _
    exact decided_perm hmatching hkind.same .UNKNOWN
  · intro hvalidity
    rw [checkValidity_of_reached hreached] at hvalidity
    obtain ⟨r, hr, he⟩ := exists_valid_of_decided hvalidity (by decide)
    refine ⟨certificateId, hreached.identifier,
      hkind.current r hr (effect_valid_iff.mp he), ?_,
      nonceEchoed_of_checkNonce hreached.nonce⟩
    intro r' hr' hrevoked
    rcases effect_of_revokedAt hrevoked with he' | he'
    · cases hkind.same r hr r' hr' _ _ he he'
    · cases hkind.same r hr r' hr' _ _ he he'

/-- A validity that stays unknown says nothing wrong. -/
theorem decidesOverAll_of_not_reached
    (hnot : ∀ id, ¬ EntriesReached env certificate issuer basicOCSPResp id) :
    DecidesOverAll env certificate issuer validationDate basicOCSPResp := by
  constructor
  · intro responses hperm
    rw [checkValidity_of_not_reached hnot, checkValidity_of_not_reached]
    intro id hid
    exact hnot id ⟨hid.url, hid.identifier, hid.signature, hid.nonce⟩
  · intro hvalidity
    rw [checkValidity_of_not_reached hnot] at hvalidity
    cases hvalidity

/-- **When the validity stands for all entries.** Exactly where the entries are not looked at,
or are of one kind, with a current one among those that make the certificate valid. -/
theorem checkValidity_decidesOverAll_iff :
    DecidesOverAll env certificate issuer validationDate basicOCSPResp ↔
      ∀ certificateId, EntriesReached env certificate issuer basicOCSPResp certificateId →
        OneKind validationDate (basicOCSPResp.matching certificateId) := by
  constructor
  · intro h certificateId hreached
    exact h.oneKind hreached
  · intro h
    by_cases hreached : ∃ id, EntriesReached env certificate issuer basicOCSPResp id
    · obtain ⟨certificateId, hreached⟩ := hreached
      exact decidesOverAll_of_oneKind hreached (h certificateId hreached)
    · exact decidesOverAll_of_not_reached fun id hid => hreached ⟨id, hid⟩

end Validity

/-- A responder that knows the certificate as revoked, and as good. -/
def undecidedResponse : BasicOCSPResp Nat where
  certs := .ok []
  isSignatureValid := fun _ => .ok true
  nonceExtension := none
  producedAt := 900
  responses := [⟨"1", .revoked 500 (some 1), 900, none⟩, ⟨"1", .good, 900, some 950⟩]

def undecidedEnv : StatusEnv Nat Unit where
  now := 1000
  getCRL := fun _ => .error ⟨.io, "No distribution point"⟩
  crlVerify := fun _ _ => .error ⟨.security, "No list"⟩
  isRevoked := fun _ _ => false
  getRevokedCertificate := fun _ _ => none
  getOCSPUrl := fun _ => .ok (some "http://ocsp")
  certificateID := fun _ _ => .ok "1"
  nonce := none
  wrapNonce := id
  requestOCSPResponse := fun _ _ _ => .error ⟨.io, "offline"⟩
  isCurrentlyValid := fun _ => true
  certVerify := fun _ _ => .ok ()
  getBasicConstraints := fun _ => 0
  getKeyUsage := fun _ => none
  getExtendedKeyUsage := fun _ => .ok none
  isOCSPNocheckExt := fun _ => false

/-- An expired good entry after a revoked one makes the certificate valid. -/
theorem undecided_response_valid :
    (checkValidity (undecidedEnv.answering undecidedResponse) 1 2 1000).validity = .VALID ∧
      ¬ DecidesOverAll undecidedEnv 1 2 1000 undecidedResponse := by
  have hvalidity :
      (checkValidity (undecidedEnv.answering undecidedResponse) 1 2 1000).validity = .VALID := rfl
  refine ⟨hvalidity, ?_⟩
  intro hdecides
  obtain ⟨certificateId, hid, -, hnone, -⟩ := hdecides.valid hvalidity
  cases hid
  refine hnone ⟨"1", .revoked 500 (some 1), 900, none⟩ ?_ ⟨500, some 1, rfl, by decide⟩
  simp [BasicOCSPResp.matching, undecidedResponse]

end SigVal.Cert
