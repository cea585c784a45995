import SigVal.Xml.Pruning
import SigVal.Xml.TokenPlacement

/-!
# Signatures that do not get in each other's way

The searches of `extendDocumentSignature` go through everything below a signature
element, the signatures in it included. `Separate` says when this does no harm to the
other signatures: no property is emptied by the removal of others, no signature lies in a
property that is removed, and the token is not put into an inner signature.

It is a property of the part of the document below the signature. A turn for another
signature either leaves this part alone or has pruned it already.
-/

namespace SigVal.Xml.XMLDocumentSVTIssuer

open SigVal.Java SigVal.LinkedDom Heap
open Svt.XMLSVTValidator (xmldsigNS xmlSvtNS)

/-- The `SignatureProperties` below an element. -/
def signatureProperties (h : Heap) (s : Key) : List Key :=
  h.getElementsByTagNameNS s xmldsigNS "SignatureProperties"

/-- The element is still below the signature after the removal. -/
def Survives (jvm : Jvm) (h : Heap) (s q : Key) : Prop :=
  ∀ b ∈ q :: h.chain q, s ∈ h.chain b → ¬ Pruned jvm h b

/-- The first `SignatureProperties` that is left of a signature. -/
def FirstLeft (jvm : Jvm) (h : Heap) (s t : Key) : Prop :=
  ∃ l₁ l₂, signatureProperties h s = l₁ ++ t :: l₂ ∧ Survives jvm h s t ∧
    ∀ q ∈ l₁, ¬ Survives jvm h s q

/-- A signature whose tokens can be replaced without harm to the signatures of the list. -/
structure Separate (jvm : Jvm) (h : Heap) (signatures : List Key) (s : Key) : Prop where
  notEmptied : ∀ p, ¬ EmptiedProperty jvm h s p
  keepsSignatures : ∀ p ∈ getSvtSignaturePropertyElements h s, ∀ s' ∈ signatures, p ∉ h.chain s'
  ownTarget : ∀ t, FirstLeft jvm h s t → ∀ s' ∈ signatures, s ∈ h.chain s' → s' ∉ h.chain t

variable {jvm : Jvm} {h h' : Heap} {s s' x : Key} {gone signatures : List Key}

/-! ## The same below a signature -/

section Same

variable (wf : WellFormed h) (wf' : WellFormed h') (hbelow : h'.below s = h.below s)
include wf wf' hbelow

theorem svtElements_of_sameBelow (hx : s ∈ h.chain x) : svtElements h' x = svtElements h x := by
  unfold svtElements getElementsByTagNameNS
  rw [below_of_sameBelow wf wf' hbelow hx]

theorem isSvtProperty_of_sameBelow (hx : s ∈ h.chain x) :
    IsSvtProperty h' x ↔ IsSvtProperty h x := by
  unfold IsSvtProperty
  rw [contentOf_of_sameBelow wf wf' hbelow hx, svtElements_of_sameBelow wf wf' hbelow hx]

theorem pruned_of_sameBelow (hpruned : Pruned jvm h x) : s ∈ h.chain x → Pruned jvm h' x := by
  induction hpruned with
  | property hproperty =>
      intro hx
      exact .property ((isSvtProperty_of_sameBelow wf wf' hbelow hx).mpr hproperty)
  | emptied hprunable hne _ ih =>
      intro hx
      have hchildren := children_of_sameBelow wf wf' hbelow hx
      refine .emptied ?_ (hchildren ▸ hne) ?_
      · rw [contentOf_of_sameBelow wf wf' hbelow hx]
        exact hprunable
      · intro c hc
        rw [hchildren] at hc
        apply ih c hc
        rw [chain_child wf hc]
        exact List.mem_cons_of_mem _ hx

theorem pruned_iff_of_sameBelow (hx : s ∈ h.chain x) : Pruned jvm h' x ↔ Pruned jvm h x := by
  constructor
  · intro hpruned
    apply pruned_of_sameBelow wf' wf hbelow.symm hpruned
    rw [chain_of_sameBelow wf wf' hbelow hx]
    exact hx
  · intro hpruned
    exact pruned_of_sameBelow wf wf' hbelow hpruned hx

omit wf wf' in
theorem signatureProperties_of_sameBelow : signatureProperties h' s = signatureProperties h s := by
  unfold signatureProperties getElementsByTagNameNS
  rw [hbelow]

theorem survives_of_sameBelow (hx : s ∈ h.chain x) : Survives jvm h' s x ↔ Survives jvm h s x := by
  have hchain := chain_of_sameBelow wf wf' hbelow hx
  unfold Survives
  rw [hchain]
  apply forall₂_congr
  intro b hb
  constructor
  · intro h₁ hsb
    rw [← pruned_iff_of_sameBelow wf wf' hbelow hsb]
    apply h₁
    rw [chain_of_sameBelow wf wf' hbelow hsb]
    exact hsb
  · intro h₁ hsb'
    have hsb : s ∈ h.chain b := by
      rw [← chain_of_sameBelow wf' wf hbelow.symm hsb'] at hsb'
      exact hsb'
    rw [pruned_iff_of_sameBelow wf wf' hbelow hsb]
    exact h₁ hsb

omit wf' hbelow in
theorem mem_signatureProperties {q : Key} (hq : q ∈ signatureProperties h s) : s ∈ h.chain q := by
  obtain ⟨n, hn, hsn, _, rfl⟩ := mem_getElementsByTagNameNS.mp hq
  rw [chain_of_mem wf hn]
  exact hsn

/-- The same nodes below a signature, and the other signatures where they were. -/
theorem separate_of_sameBelow (hchain : ∀ s' ∈ signatures, h'.chain s' = h.chain s')
    (hseparate : Separate jvm h signatures s) : Separate jvm h' signatures s := by
  have hback : ∀ {x}, s ∈ h'.chain x → s ∈ h.chain x := by
    intro x hx
    rw [chain_of_sameBelow wf' wf hbelow.symm hx]
    exact hx
  have hproperties : ∀ p, p ∈ getSvtSignaturePropertyElements h' s →
      p ∈ getSvtSignaturePropertyElements h s := by
    intro p hp
    obtain ⟨hbelow', hproperty⟩ := (mem_svtProperties wf').mp hp
    exact (mem_svtProperties wf).mpr ⟨hback hbelow',
      (isSvtProperty_of_sameBelow wf wf' hbelow (hback hbelow')).mp hproperty⟩
  refine ⟨?_, ?_, ?_⟩
  · rintro p ⟨hp, hchildren⟩
    have hsp := ((mem_svtProperties wf).mp (hproperties p hp)).1
    refine hseparate.notEmptied p ⟨hproperties p hp, ?_⟩
    intro c hc
    have hsc : s ∈ h.chain c.key := by
      rw [chain_child wf hc]
      exact List.mem_cons_of_mem _ hsp
    rw [← pruned_iff_of_sameBelow wf wf' hbelow hsc]
    apply hchildren c
    rw [children_of_sameBelow wf wf' hbelow hsp]
    exact hc
  · intro p hp s' hs'
    rw [hchain s' hs']
    exact hseparate.keepsSignatures p (hproperties p hp) s' hs'
  · rintro t ⟨l₁, l₂, hsplit, hleft, hfirst⟩ s' hs' hnested
    rw [signatureProperties_of_sameBelow hbelow] at hsplit
    have hmem : ∀ q ∈ l₁ ++ t :: l₂, s ∈ h.chain q := by
      intro q hq
      rw [← hsplit] at hq
      exact mem_signatureProperties wf hq
    have hst : s ∈ h.chain t := hmem t (by simp)
    rw [hchain s' hs'] at hnested
    rw [chain_of_sameBelow wf wf' hbelow hst]
    refine hseparate.ownTarget t ⟨l₁, l₂, hsplit, ?_, ?_⟩ s' hs' hnested
    · exact (survives_of_sameBelow wf wf' hbelow hst).mp hleft
    · intro q hq hsurvives
      exact hfirst q hq
        ((survives_of_sameBelow wf wf' hbelow (hmem q (by simp [hq]))).mpr hsurvives)

theorem separate_iff_of_sameBelow (hchain : ∀ s' ∈ signatures, h'.chain s' = h.chain s') :
    Separate jvm h' signatures s ↔ Separate jvm h signatures s := by
  constructor
  · exact separate_of_sameBelow wf' wf hbelow.symm fun s' hs' => (hchain s' hs').symm
  · exact separate_of_sameBelow wf wf' hbelow hchain

end Same

/-! ## After the removal -/

/-- What the removal for a signature takes out of the document. -/
def Removes (jvm : Jvm) (h : Heap) (s : Key) (gone : List Key) : Prop :=
  ∀ k, k ∈ gone ↔ s ∈ h.chain k ∧ Pruned jvm h k

section Removed

variable (wf : WellFormed h) (hgone : Removes jvm h s gone)
include wf hgone

omit wf in
theorem alive_iff_survives : Alive h gone x ↔ Survives jvm h s x := by
  unfold Alive Survives
  apply forall₂_congr
  intro b _
  rw [hgone b, not_and]

/-- A signature outside the properties of `s` is left alone. -/
theorem alive_of_not_in_property (hname : (h.contentOf s').hasName xmldsigNS "Signature" = true)
    (hout : ∀ p ∈ getSvtSignaturePropertyElements h s, p ∉ h.chain s') : Alive h gone s' := by
  intro b hb hbgone
  obtain ⟨hsb, hpruned⟩ := (hgone b).mp hbgone
  obtain ⟨p, hp, hproperty, hpb⟩ := pruned_towards wf hpruned hb (not_pruned_signature hname)
  have hsp : s ∈ h.chain p := by
    rcases hpb with rfl | hbp
    · exact hsb
    · exact mem_chain_trans wf hbp hsb
  exact hout p ((mem_svtProperties wf).mpr ⟨hsp, hproperty⟩) hp

omit hgone in
theorem signatureProperties_detachAll {k : Key} (halive : Alive h gone k) :
    signatureProperties (h.detachAll gone) k =
      (signatureProperties h k).filter fun q => decide (Alive h gone q) := by
  unfold signatureProperties getElementsByTagNameNS
  rw [below_detachAll wf halive, List.filter_map, List.filter_filter, List.filter_filter]
  refine congrArg _ (List.filter_congr fun n _ => ?_)
  rw [Function.comp_apply, Bool.and_comm]

/-- No property with a token is left below the signature. -/
theorem not_isSvtProperty_detachAll (hx : s ∈ (h.detachAll gone).chain x) :
    ¬ IsSvtProperty (h.detachAll gone) x := by
  rintro ⟨hname, hsvt⟩
  obtain ⟨k, hk⟩ := List.exists_mem_of_ne_nil _ hsvt
  obtain ⟨n, hn, hxn, htoken, -⟩ := mem_getElementsByTagNameNS.mp hk
  obtain ⟨m, hm, rfl⟩ := List.mem_map.mp hn
  -- the token was below the property before
  have hxm : x ∈ m.ancestors := by
    have hxchain : x ∈ (h.detachAll gone).chain m.key := by
      rw [chain_detachAll, chain_of_mem wf hm]
      exact hxn
    rw [← chain_of_mem wf hm]
    exact mem_chain_detachAll_of hxchain
  have hproperty : IsSvtProperty h x := by
    refine ⟨by rw [← contentOf_detachAll]; exact hname, ?_⟩
    exact List.ne_nil_of_mem (mem_getElementsByTagNameNS.mpr ⟨m, hm, hxm, htoken, rfl⟩)
  have hxgone : x ∈ gone := (hgone x).mpr ⟨mem_chain_detachAll_of hx, .property hproperty⟩
  rw [chain_detachAll, if_pos hxgone] at hx
  cases hx

omit wf hgone in
/-- The first of those that are left, when the others are the dead ones. -/
theorem firstLeft_iff {t : Key}
    (hleft : ∀ q ∈ signatureProperties h s, Alive h gone q ↔ Survives jvm h s q) :
    FirstLeft jvm h s t ↔
      ((signatureProperties h s).filter fun q => decide (Alive h gone q)).head? = some t := by
  rw [List.head?_filter, List.find?_eq_some_iff_append]
  constructor
  · rintro ⟨l₁, l₂, hsplit, hsurvives, hfirst⟩
    refine ⟨decide_eq_true ((hleft t (by simp [hsplit])).mpr hsurvives), l₁, l₂, hsplit, ?_⟩
    intro q hq
    rw [Bool.not_eq_true', decide_eq_false_iff_not, hleft q (by simp [hsplit, hq])]
    exact hfirst q hq
  · rintro ⟨halive, l₁, l₂, hsplit, hfirst⟩
    refine ⟨l₁, l₂, hsplit, (hleft t (by simp [hsplit])).mp (of_decide_eq_true halive), ?_⟩
    intro q hq
    have hdead := hfirst q hq
    rw [Bool.not_eq_true', decide_eq_false_iff_not, hleft q (by simp [hsplit, hq])] at hdead
    exact hdead

/-- The target that is found after the removal is the first that is left. -/
theorem existingTarget_iff_firstLeft {t : Key} (halive : Alive h gone s) :
    existingTarget jvm (h.detachAll gone) s = some t ↔ FirstLeft jvm h s t := by
  have wf₁ : WellFormed (h.detachAll gone) := wellFormed_detachAll wf
  have hnone : (signatureProperties (h.detachAll gone) s).flatMap
      (getSvtSignaturePropertyElements (h.detachAll gone)) = [] := by
    refine List.flatMap_eq_nil_iff.mpr fun q hq => List.eq_nil_iff_forall_not_mem.mpr fun p hp => ?_
    obtain ⟨hqp, hproperty⟩ := (mem_svtProperties wf₁).mp hp
    exact not_isSvtProperty_detachAll wf hgone
      (mem_chain_trans wf₁ hqp (mem_signatureProperties wf₁ hq)) hproperty
  have hhead : existingTarget jvm (h.detachAll gone) s =
      (signatureProperties (h.detachAll gone) s).head? := by
    unfold existingTarget
    dsimp only
    have hsame : (h.detachAll gone).getElementsByTagNameNS s xmldsigNS "SignatureProperties" =
      signatureProperties (h.detachAll gone) s := rfl
    rw [hsame, hnone]
    rfl
  rw [hhead, signatureProperties_detachAll wf halive]
  exact (firstLeft_iff fun q _ => alive_iff_survives hgone).symm

end Removed

/-! ## An inner signature after the turn of an outer one

There is nothing left to prune, and the first `SignatureProperties` that is left is the
same as before. -/

section Nested

variable (wf : WellFormed h) (hgone : Removes jvm h s gone) (wf' : WellFormed h')
  (hname : (h.contentOf s').hasName xmldsigNS "Signature" = true) (halive : Alive h gone s')
  (hnested : s ∈ h.chain s') (hbelow : h'.below s' = (h.detachAll gone).below s')
include wf hgone wf' halive hnested hbelow

theorem not_isSvtProperty_of_nested (hx : s' ∈ h'.chain x) : ¬ IsSvtProperty h' x := by
  have wf₁ : WellFormed (h.detachAll gone) := wellFormed_detachAll wf
  have hx₁ : s' ∈ (h.detachAll gone).chain x := by
    rw [chain_of_sameBelow wf' wf₁ hbelow.symm hx]
    exact hx
  rw [isSvtProperty_of_sameBelow wf₁ wf' hbelow hx₁]
  refine not_isSvtProperty_detachAll wf hgone (mem_chain_trans wf₁ hx₁ ?_)
  have hs : Alive h gone s := by
    intro b hb
    refine halive b (List.mem_cons_of_mem _ ?_)
    rcases List.mem_cons.mp hb with rfl | hb
    · exact hnested
    · exact mem_chain_trans wf hnested hb
  exact (mem_chain_detachAll_iff wf hs).mpr ⟨hnested, halive⟩

theorem not_pruned_of_nested (hpruned : Pruned jvm h' x) : s' ∉ h'.chain x := by
  induction hpruned with
  | property hp =>
      intro hx
      exact not_isSvtProperty_of_nested wf hgone wf' halive hnested hbelow hx hp
  | emptied _ hne _ ih =>
      intro hx
      obtain ⟨c, hc⟩ := List.exists_mem_of_ne_nil _ hne
      apply ih c hc
      rw [chain_child wf' hc]
      exact List.mem_cons_of_mem _ hx

include hname in
omit wf' hbelow in
/-- Below the inner signature the two removals agree. -/
theorem alive_iff_survives_of_nested {q : Key} (hq : s' ∈ h.chain q) :
    Alive h gone q ↔ Survives jvm h s' q := by
  constructor
  · intro hqalive b hb hsb hbpruned
    exact hqalive b hb ((hgone b).mpr ⟨mem_chain_trans wf hsb hnested, hbpruned⟩)
  · intro hsurvives b hb hbgone
    obtain ⟨-, hbpruned⟩ := (hgone b).mp hbgone
    rcases List.mem_cons.mp hb with rfl | hbq
    · exact hsurvives b List.mem_cons_self hq hbpruned
    · rcases chain_comparable wf hbq hq with rfl | hbs | hsb
      · exact not_pruned_signature hname hbpruned
      · exact halive b (List.mem_cons_of_mem _ hbs) hbgone
      · exact hsurvives b hb hsb hbpruned

include hname in
theorem firstLeft_iff_of_nested {t : Key} : FirstLeft jvm h' s' t ↔ FirstLeft jvm h s' t := by
  have hnew : FirstLeft jvm h' s' t ↔ (signatureProperties h' s').head? = some t := by
    have hall : ∀ q, Alive h' [] q := fun q b _ hb => absurd hb List.not_mem_nil
    have hleft : ∀ q ∈ signatureProperties h' s', Alive h' [] q ↔ Survives jvm h' s' q := by
      intro q _
      apply iff_of_true (hall q)
      intro b _ hsb hb
      exact not_pruned_of_nested wf hgone wf' halive hnested hbelow hb hsb
    rw [firstLeft_iff hleft, List.filter_eq_self.mpr fun q _ => decide_eq_true (hall q)]
  rw [hnew, signatureProperties_of_sameBelow hbelow, signatureProperties_detachAll wf halive]
  refine (firstLeft_iff fun q hq => ?_).symm
  exact alive_iff_survives_of_nested wf hgone hname halive hnested (mem_signatureProperties wf hq)

include hname in
/-- A `SignatureProperties` that is left has kept its place. -/
theorem chain_firstLeft_of_nested {t : Key} (ht : FirstLeft jvm h s' t) :
    h'.chain t = h.chain t := by
  have wf₁ : WellFormed (h.detachAll gone) := wellFormed_detachAll wf
  have hmem : ∀ {h : Heap}, FirstLeft jvm h s' t → t ∈ signatureProperties h s' := by
    rintro h ⟨l₁, l₂, hsplit, -⟩
    simp [hsplit]
  have ht' := mem_signatureProperties wf'
    (hmem ((firstLeft_iff_of_nested wf hgone wf' hname halive hnested hbelow).mpr ht))
  have htalive : Alive h gone t := by
    obtain ⟨_, _, _, hsurvives, _⟩ := id ht
    exact (alive_iff_survives_of_nested wf hgone hname halive hnested
      (mem_signatureProperties wf (hmem ht))).mpr hsurvives
  rw [← chain_of_sameBelow wf' wf₁ hbelow.symm ht', chain_detachAll,
    if_neg (htalive t List.mem_cons_self),
    cut_of_disjoint fun b hb => htalive b (List.mem_cons_of_mem _ hb)]

include hname in
/-- An inner signature is as separate as it was, when the outer one is. -/
theorem separate_iff_of_nested (hchain : ∀ s'' ∈ signatures, h'.chain s'' = h.chain s'')
    (houter : Separate jvm h signatures s) :
    Separate jvm h' signatures s' ↔ Separate jvm h signatures s' := by
  have hnone : ∀ p, p ∉ getSvtSignaturePropertyElements h' s' := by
    intro p hp
    obtain ⟨hsp, hp⟩ := (mem_svtProperties wf').mp hp
    exact not_isSvtProperty_of_nested wf hgone wf' halive hnested hbelow hsp hp
  have hproperties : ∀ p ∈ getSvtSignaturePropertyElements h s',
      p ∈ getSvtSignaturePropertyElements h s := by
    intro p hp
    obtain ⟨hs'p, hp⟩ := (mem_svtProperties wf).mp hp
    exact (mem_svtProperties wf).mpr ⟨mem_chain_trans wf hs'p hnested, hp⟩
  have hiff : ∀ t, FirstLeft jvm h' s' t ↔ FirstLeft jvm h s' t := fun t =>
    firstLeft_iff_of_nested wf hgone wf' hname halive hnested hbelow
  have hplace : ∀ t, FirstLeft jvm h s' t → h'.chain t = h.chain t := fun t =>
    chain_firstLeft_of_nested wf hgone wf' hname halive hnested hbelow
  constructor
  · intro hseparate
    refine ⟨?_, fun p hp => houter.keepsSignatures p (hproperties p hp), ?_⟩
    · rintro p ⟨hp, hchildren⟩
      exact houter.notEmptied p ⟨hproperties p hp, hchildren⟩
    · intro t ht s'' hs'' hnested''
      rw [← hplace t ht]
      rw [← hchain s'' hs''] at hnested''
      exact hseparate.ownTarget t ((hiff t).mpr ht) s'' hs'' hnested''
  · intro hseparate
    refine ⟨fun p hp => hnone p hp.1, fun p hp => absurd hp (hnone p), ?_⟩
    intro t ht s'' hs'' hnested''
    rw [hiff t] at ht
    rw [hplace t ht]
    rw [hchain s'' hs''] at hnested''
    exact hseparate.ownTarget t ht s'' hs'' hnested''

end Nested

end SigVal.Xml.XMLDocumentSVTIssuer
