import SigVal.Lib.Chains
import SigVal.Lib.Java

/-!
# Ordering the certificates of a signer

`SVAUtils.getOrderedCertList` climbs from the signer certificate to the first certificate of
the chain whose key verifies it, and from there on, until it is at a self-issued certificate
or at one that no key of the chain verifies. It keeps no record of where it has been, so
certificates that verify each other in a circle keep it climbing, and a self-issued signer is
listed again when the climb comes back to it. Elsewhere the list is what it should be.
-/

namespace SigVal.Commons

open SigVal.Java SigVal.Chains

/-- The certificate factory and the signature check of the security provider. -/
structure CertKeys (Cert : Type) where
  /-- `getCertOrNull`; `getCertificate` throws where it is `none`. -/
  getCertOrNull : Bytes → Option Cert
  /-- `cert.verify(issuer.getPublicKey())` returns. -/
  verify : Cert → Cert → Bool

namespace CertKeys

variable {Cert : Type} (keys : CertKeys Cert)

def getParentCert (sigCert : Cert) (chain : List Cert) : Option Cert :=
  chain.find? fun certFromChain => keys.verify sigCert certFromChain

def selfIssued (cert : Cert) : Bool := keys.verify cert cert

/-- The `while` loop, `none` when it has not ended after `fuel` rounds. -/
def orderLoop (chain : List Cert) : Nat → Cert → List Cert → Option (List Cert)
  | 0, _, _ => none
  | fuel + 1, sigCert, orderedList =>
      match keys.getParentCert sigCert chain with
      | some parentCert =>
          if keys.selfIssued parentCert then some (orderedList ++ [parentCert])
          else orderLoop chain fuel parentCert (orderedList ++ [parentCert])
      | none => some orderedList

/-- `getOrderedCertList` with at most `fuel` rounds of its loop. The list of a short chain
has a `null` in it when the signer certificate does not parse; in front of the loop the same
failure is caught and the result is `null`. -/
def getOrderedCertList (fuel : Nat) (signerCertificate : Option Bytes)
    (certificateChain : Option (List Bytes)) : Option (Option (List (Option Cert))) :=
  match signerCertificate with
  | none => some none
  | some signer =>
      if (certificateChain.getD []).length < 2 then some (some [keys.getCertOrNull signer])
      else
        let chain := (certificateChain.getD []).filterMap keys.getCertOrNull
        match keys.getCertOrNull signer with
        | none => some none
        | some sigCert =>
            (keys.orderLoop chain fuel sigCert [sigCert]).map fun orderedList =>
              some (orderedList.map some)

/-! ## What the list should be -/

/-- A chain in order: from the signer up, each certificate verified by the next one, none
twice, up to a self-issued certificate or one without a parent. -/
structure Ordered (sigCert : Cert) (chain orderedList : List Cert) : Prop where
  first : orderedList.head? = some sigCert
  linked : orderedList.IsChain fun cert parent => keys.verify cert parent = true
  distinct : orderedList.Nodup
  last : ∀ cert ∈ orderedList.getLast?, keys.selfIssued cert = true ∨
    keys.getParentCert cert chain = none

/-- The call returns: with enough rounds, and always the same. -/
def Returns (signerCertificate : Option Bytes) (certificateChain : Option (List Bytes))
    (result : Option (List (Option Cert))) : Prop :=
  ∃ rounds, ∀ fuel, rounds ≤ fuel →
    keys.getOrderedCertList fuel signerCertificate certificateChain = some result

/-- The call returns, and what it returns for two chain certificates or more is ordered. -/
def OrdersChain (signerCertificate : Option Bytes) (certificateChain : Option (List Bytes)) :
    Prop :=
  ∃ result, keys.Returns signerCertificate certificateChain result ∧
    ∀ orderedList, result = some orderedList → 2 ≤ (certificateChain.getD []).length →
      ∃ signer sigCert certs, signerCertificate = some signer ∧
        keys.getCertOrNull signer = some sigCert ∧ orderedList = certs.map some ∧
        keys.Ordered sigCert ((certificateChain.getD []).filterMap keys.getCertOrNull) certs

/-! ## The climb -/

variable {keys} {chain : List Cert}

/-- The certificates that the loop appends, beginning above `cert`. -/
inductive Climb (keys : CertKeys Cert) (chain : List Cert) : Cert → List Cert → Prop
  | orphan {cert : Cert} : keys.getParentCert cert chain = none → Climb keys chain cert []
  | root {cert parent : Cert} : keys.getParentCert cert chain = some parent →
      keys.selfIssued parent = true → Climb keys chain cert [parent]
  | up {cert parent : Cert} {above : List Cert} : keys.getParentCert cert chain = some parent →
      keys.selfIssued parent = false → Climb keys chain parent above →
      Climb keys chain cert (parent :: above)

theorem climb_of_orderLoop : ∀ {fuel : Nat} {sigCert : Cert} {orderedList result : List Cert},
    keys.orderLoop chain fuel sigCert orderedList = some result →
    ∃ above, result = orderedList ++ above ∧ Climb keys chain sigCert above
  | 0, _, _, _, h => by cases h
  | fuel + 1, sigCert, orderedList, result, h => by
      unfold orderLoop at h
      cases hparent : keys.getParentCert sigCert chain with
      | none =>
          rw [hparent] at h
          cases h
          exact ⟨[], (List.append_nil _).symm, .orphan hparent⟩
      | some parent =>
          rw [hparent] at h
          cases hself : keys.selfIssued parent with
          | true =>
              simp only [hself, if_true, Option.some.injEq] at h
              exact ⟨[parent], h.symm, .root hparent hself⟩
          | false =>
              simp only [hself, Bool.false_eq_true, if_false] at h
              obtain ⟨above, rfl, habove⟩ := climb_of_orderLoop h
              refine ⟨parent :: above, ?_, .up hparent hself habove⟩
              rw [List.append_assoc, List.singleton_append]

theorem orderLoop_of_climb {sigCert : Cert} {above : List Cert}
    (h : Climb keys chain sigCert above) : ∀ {fuel : Nat} {orderedList : List Cert},
    above.length < fuel →
    keys.orderLoop chain fuel sigCert orderedList = some (orderedList ++ above) := by
  induction h with
  | orphan hparent =>
      intro fuel orderedList hfuel
      obtain ⟨fuel, rfl⟩ := Nat.exists_eq_add_of_lt hfuel
      simp [orderLoop, hparent]
  | root hparent hself =>
      intro fuel orderedList hfuel
      obtain ⟨fuel, rfl⟩ := Nat.exists_eq_add_of_lt hfuel
      simp [orderLoop, hparent, hself]
  | up hparent hself _ ih =>
      intro fuel orderedList hfuel
      obtain ⟨fuel, rfl⟩ := Nat.exists_eq_add_of_lt hfuel
      simp only [orderLoop, hparent, hself, Bool.false_eq_true, if_false]
      rw [ih (by rw [List.length_cons]; omega), List.append_assoc, List.singleton_append]

/-- Each certificate of a climb verifies the one below it. -/
theorem Climb.linked {cert : Cert} {above : List Cert} (h : Climb keys chain cert above) :
    List.IsChain (fun cert parent => keys.verify cert parent = true) (cert :: above) := by
  have hverify : ∀ {cert parent : Cert}, keys.getParentCert cert chain = some parent →
      keys.verify cert parent = true := by
    intro cert parent hparent
    exact List.find?_some (p := fun certFromChain => keys.verify cert certFromChain) hparent
  induction h with
  | orphan _ => exact .singleton _
  | root hparent _ => exact .cons_cons (hverify hparent) (.singleton _)
  | up hparent _ _ ih => exact .cons_cons (hverify hparent) ih

theorem Climb.last {cert : Cert} {above : List Cert} (h : Climb keys chain cert above) :
    ∀ top ∈ (cert :: above).getLast?, keys.selfIssued top = true ∨
      keys.getParentCert top chain = none := by
  induction h with
  | orphan hparent =>
      rintro top htop
      cases htop
      exact .inr hparent
  | root _ hself =>
      rintro top htop
      cases htop
      exact .inl hself
  | up _ _ _ ih =>
      intro top htop
      rw [List.getLast?_cons_cons] at htop
      exact ih top htop

/-! ## The call -/

section Call

variable {signerCertificate : Option Bytes} {certificateChain : Option (List Bytes)}
  {sigCert : Cert}

theorem returns_of_climb {signer : Bytes} {certs : List Cert}
    (hlen : 2 ≤ (certificateChain.getD []).length)
    (hparse : keys.getCertOrNull signer = some sigCert)
    (hclimb : Climb keys ((certificateChain.getD []).filterMap keys.getCertOrNull) sigCert certs) :
    keys.Returns (some signer) certificateChain (some ((sigCert :: certs).map some)) := by
  refine ⟨certs.length + 1, ?_⟩
  intro fuel hfuel
  have hloop : keys.orderLoop _ fuel sigCert [sigCert] = some ([sigCert] ++ certs) :=
    orderLoop_of_climb hclimb (Nat.lt_of_succ_le hfuel)
  simp only [getOrderedCertList, Nat.not_lt.mpr hlen, if_false, hparse, hloop, Option.map_some,
    List.singleton_append]

theorem climb_of_returns {signer : Bytes} {result : Option (List (Option Cert))}
    (hlen : 2 ≤ (certificateChain.getD []).length)
    (hparse : keys.getCertOrNull signer = some sigCert)
    (h : keys.Returns (some signer) certificateChain result) :
    ∃ certs, result = some ((sigCert :: certs).map some) ∧
      Climb keys ((certificateChain.getD []).filterMap keys.getCertOrNull) sigCert certs := by
  obtain ⟨rounds, h⟩ := h
  have hrun := h rounds le_rfl
  simp only [getOrderedCertList, Nat.not_lt.mpr hlen, if_false, hparse, Option.map_eq_some_iff]
    at hrun
  obtain ⟨_, hloop, rfl⟩ := hrun
  obtain ⟨certs, rfl, hclimb⟩ := climb_of_orderLoop hloop
  exact ⟨certs, rfl, hclimb⟩

end Call

/-! ## Where the climb comes back -/

variable [DecidableEq Cert]

/-- The certificate above: the loop looks for a parent of the signer, and of every other
certificate that is not self-issued. -/
def above (keys : CertKeys Cert) (chain : List Cert) (sigCert cert : Cert) : Option Cert :=
  if cert = sigCert ∨ keys.selfIssued cert = false then keys.getParentCert cert chain else none

variable {sigCert : Cert}

theorem above_signer : above keys chain sigCert sigCert = keys.getParentCert sigCert chain :=
  if_pos (.inl rfl)

theorem above_of_not_selfIssued {cert : Cert} (h : keys.selfIssued cert = false) :
    above keys chain sigCert cert = keys.getParentCert cert chain := if_pos (.inr h)

theorem getParentCert_of_above {cert parent : Cert}
    (h : above keys chain sigCert cert = some parent) :
    keys.getParentCert cert chain = some parent ∧
      (cert = sigCert ∨ keys.selfIssued cert = false) := by
  unfold above at h
  split at h
  · rename_i hcond
    exact ⟨h, hcond⟩
  · cases h

/-- Only certificates of the chain stand above the signer. -/
theorem finite_above :
    {cert | Relation.ReflTransGen (Calls (above keys chain sigCert)) sigCert cert}.Finite := by
  apply Set.Finite.subset ((List.finite_toSet (sigCert :: chain)))
  intro cert hreach
  rcases hreach with _ | ⟨_, hcall⟩
  · exact List.mem_cons_self
  · obtain ⟨hparent, -⟩ := getParentCert_of_above hcall
    exact List.mem_cons_of_mem _ (List.mem_of_find?_eq_some hparent)

theorem climb_of_endsWithin {n : Nat} : ∀ {cert : Cert},
    EndsWithin (above keys chain sigCert) n cert →
    above keys chain sigCert cert = keys.getParentCert cert chain →
    ∃ certs, Climb keys chain cert certs := by
  induction n with
  | zero => exact fun h => h.elim
  | succ n ih =>
      intro cert hends habove
      cases hparent : keys.getParentCert cert chain with
      | none => exact ⟨[], .orphan hparent⟩
      | some parent =>
          cases hself : keys.selfIssued parent with
          | true => exact ⟨[parent], .root hparent hself⟩
          | false =>
              obtain ⟨certs, hcerts⟩ :=
                ih (hends parent (habove.trans hparent)) (above_of_not_selfIssued hself)
              exact ⟨parent :: certs, .up hparent hself hcerts⟩

/-- A climb follows `above`. -/
theorem Climb.calls {cert : Cert} {certs : List Cert} (h : Climb keys chain cert certs)
    (habove : above keys chain sigCert cert = keys.getParentCert cert chain) :
    List.IsChain (Calls (above keys chain sigCert)) (cert :: certs) := by
  induction h with
  | orphan _ => exact .singleton _
  | root hparent _ => exact .cons_cons (habove.trans hparent) (.singleton _)
  | up hparent hself _ ih =>
      exact .cons_cons (habove.trans hparent) (ih (above_of_not_selfIssued hself))

/-- A climb that does not meet the signer again has an end. -/
theorem Climb.endsWithin {cert : Cert} {certs : List Cert} (h : Climb keys chain cert certs)
    (hsigner : sigCert ∉ certs) :
    EndsWithin (above keys chain sigCert) (certs.length + 1) cert := by
  induction h with
  | orphan hparent =>
      intro parent hcall
      obtain ⟨hsome, -⟩ := getParentCert_of_above hcall
      rw [hparent] at hsome
      cases hsome
  | root hparent hself =>
      intro parent hcall grandparent hcall'
      obtain ⟨hsome, -⟩ := getParentCert_of_above hcall
      rw [hparent] at hsome
      cases hsome
      -- the self-issued certificate is not the signer, so the loop ends there
      obtain ⟨-, rfl | hnot⟩ := getParentCert_of_above hcall'
      · exact absurd List.mem_cons_self hsigner
      · rw [hself] at hnot
        cases hnot
  | up hparent _ _ ih =>
      intro parent hcall
      obtain ⟨hsome, -⟩ := getParentCert_of_above hcall
      rw [hparent] at hsome
      cases hsome
      exact ih fun hmem => hsigner (List.mem_cons_of_mem _ hmem)

/-- The loop lists an ordered chain exactly where the climb does not come back. -/
theorem ordered_climb_iff :
    (∃ certs, Climb keys chain sigCert certs ∧ keys.Ordered sigCert chain (sigCert :: certs)) ↔
      ¬ ComesBack (above keys chain sigCert) sigCert := by
  constructor
  · rintro ⟨certs, hclimb, hordered⟩
    have hsigner : sigCert ∉ certs := (List.nodup_cons.mp hordered.distinct).1
    exact (hclimb.endsWithin hsigner).not_comesBack
  · intro hback
    rw [← endless_iff_cycle finite_above, ← endsWithin_iff_not_endless] at hback
    obtain ⟨n, hends⟩ := hback
    obtain ⟨certs, hclimb⟩ := climb_of_endsWithin hends above_signer
    refine ⟨certs, hclimb, rfl, hclimb.linked, ?_, hclimb.last⟩
    exact nodup_of_isChain hends.not_comesBack (hclimb.calls above_signer)

variable {signerCertificate : Option Bytes} {certificateChain : Option (List Bytes)}

/-- **The chain is ordered where the climb does not come back.** Otherwise the call does not
return, or it lists the signer twice. -/
theorem getOrderedCertList_ordered_iff :
    keys.OrdersChain signerCertificate certificateChain ↔
      ∀ signer sigCert, signerCertificate = some signer →
        2 ≤ (certificateChain.getD []).length → keys.getCertOrNull signer = some sigCert →
        ¬ ComesBack (above keys ((certificateChain.getD []).filterMap keys.getCertOrNull) sigCert)
          sigCert := by
  constructor
  · rintro ⟨result, hreturns, hordered⟩ signer sigCert rfl hlen hparse
    obtain ⟨certs, rfl, hclimb⟩ := climb_of_returns hlen hparse hreturns
    obtain ⟨_, sigCert', certs', ⟨⟩, hparse', heq, hcerts⟩ := hordered _ rfl hlen
    rw [hparse] at hparse'
    cases hparse'
    have hsame : sigCert :: certs = certs' :=
      List.map_injective_iff.mpr (Option.some_injective _) heq
    rw [← hsame] at hcerts
    exact ordered_climb_iff.mp ⟨certs, hclimb, hcerts⟩
  · intro hback
    cases signerCertificate with
    | none =>
        refine ⟨none, ⟨0, fun _ _ => rfl⟩, ?_⟩
        intro orderedList hnull
        cases hnull
    | some signer =>
        rcases Nat.lt_or_ge (certificateChain.getD []).length 2 with hshort | hlen
        · refine ⟨some [keys.getCertOrNull signer], ⟨0, ?_⟩, ?_⟩
          · intro fuel _
            simp only [getOrderedCertList, hshort, if_true]
          · intro orderedList _ hlen
            exact absurd hlen (Nat.not_le.mpr hshort)
        · cases hparse : keys.getCertOrNull signer with
          | none =>
              refine ⟨none, ⟨0, ?_⟩, ?_⟩
              · intro fuel _
                simp only [getOrderedCertList, Nat.not_lt.mpr hlen, if_false, hparse]
              · intro orderedList hnull
                cases hnull
          | some sigCert =>
              obtain ⟨certs, hclimb, hordered⟩ :=
                ordered_climb_iff.mpr (hback signer sigCert rfl hlen hparse)
              refine ⟨_, returns_of_climb hlen hparse hclimb, ?_⟩
              intro orderedList hresult _
              cases hresult
              exact ⟨signer, sigCert, sigCert :: certs, rfl, hparse, rfl, hordered⟩

/-- Certificate 0 is verified by 1; the authorities 1 and 2 have certified each other. -/
def crossCertified : CertKeys Nat where
  getCertOrNull bytes := bytes.head?.map UInt8.toNat
  verify cert issuer := (cert == 0 && issuer == 1) || (cert == 1 && issuer == 2) ||
    (cert == 2 && issuer == 1)

/-- With two authorities that certified each other the loop goes from one to the other. -/
theorem getOrderedCertList_crossCertified :
    ¬ crossCertified.OrdersChain (some [0]) (some [[1], [2]]) := by
  have hloop : ∀ fuel orderedList, crossCertified.orderLoop [1, 2] fuel 1 orderedList = none ∧
      crossCertified.orderLoop [1, 2] fuel 2 orderedList = none := by
    intro fuel
    induction fuel with
    | zero => exact fun _ => ⟨rfl, rfl⟩
    | succ fuel ih => exact fun orderedList => ⟨(ih _).2, (ih _).1⟩
  rintro ⟨result, ⟨rounds, h⟩, -⟩
  have hrun : (crossCertified.orderLoop [1, 2] (rounds + 1) 0 [0]).map
      (fun orderedList => some (orderedList.map some)) = some result := h (rounds + 1) (by omega)
  rw [show crossCertified.orderLoop [1, 2] (rounds + 1) 0 [0] =
    crossCertified.orderLoop [1, 2] rounds 1 [0, 1] from rfl, (hloop rounds _).1] at hrun
  cases hrun

/-- A self-issued signer in front of its chain is listed twice. -/
example : ({ getCertOrNull := fun bytes => bytes.head?, verify := fun _ issuer => issuer == 0 } :
    CertKeys UInt8).getOrderedCertList 2 (some [0]) (some [[0], [1]]) =
      some (some [some 0, some 0]) := by decide

end CertKeys

end SigVal.Commons
