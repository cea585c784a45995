import SigVal.Xml.TokenCounts

/-!
# Turns over orderly signatures

A signature is orderly when its tokens are where the writer puts them when it makes a place
itself. After a turn for such a signature the reader finds what it found before and the new
token, with `REPLACE` the new token only, exactly when the new property gets its place in
one object. The writer looks for `SignatureProperties` anywhere in the signature, and the
reader goes through every object.
-/

namespace SigVal.Xml.XMLDocumentSVTIssuer

open SigVal.Java SigVal.LinkedDom Heap
open Svt.XMLSVTValidator (xmldsigNS xmlSvtNS)
open Jose (SVTExtendpolicy)

variable {Cert : Type} {jvm : Jvm} {rnd : Key → String} {d h h' : Heap} {s s' t k p : Key}
  {gone : List Key} {token : String} {svtMethod : SVTExtendpolicy}

/-- The token sits in a `SignatureProperty` of `Object/SignatureProperties` of the
signature. -/
def InPlace (h : Heap) (s k : Key) : Prop :=
  ∃ o q p, (h.contentOf o).hasName xmldsigNS "Object" = true ∧ h.chain o = s :: h.chain s ∧
    (h.contentOf q).hasName xmldsigNS "SignatureProperties" = true ∧ h.chain q = o :: h.chain o ∧
    (h.contentOf p).hasName xmldsigNS "SignatureProperty" = true ∧ h.chain p = q :: h.chain q ∧
    p ∈ h.chain k

/-- The tokens of the signature are in place. -/
def Orderly (h : Heap) (s : Key) : Prop := ∀ k ∈ svtElements h s, InPlace h s k

/-- The new token will be in one object. With `EXTEND` the signature has a token already, or
the first of its `SignatureProperties`, if there is one, lies in exactly one object. With
`REPLACE` no property is emptied before it is removed, and the first `SignatureProperties`
that is left, if there is one, lies in exactly one object. -/
def Regular (jvm : Jvm) (h : Heap) (s : Key) : SVTExtendpolicy → Prop
  | .EXTEND => svtElements h s ≠ [] ∨
      ∀ t, (signatureProperties h s).head? = some t → (objectsAround h s t).length = 1
  | .REPLACE => (∀ p, ¬ EmptiedProperty jvm h s p) ∧
      ∀ t, FirstLeft jvm h s t → (objectsAround h s t).length = 1

/-- What is read after the turn. -/
def TokensExtended (d h : Heap) (s : Key) (token : String) : SVTExtendpolicy → Prop
  | .EXTEND => (signatureSvaTokens h s).Perm (signatureSvaTokens d s ++ [token])
  | .REPLACE => (signatureSvaTokens h s).Perm [token]

/-! ## One turn -/

theorem append_replicate_perm_iff {α : Type} {l : List α} {a : α} {c : Nat} :
    (l ++ List.replicate c a).Perm (l ++ [a]) ↔ c = 1 := by
  rw [List.perm_append_left_iff]
  constructor
  · intro hperm
    have hlength := hperm.length_eq
    rwa [List.length_replicate] at hlength
  · rintro rfl
    exact .refl _

section Turn

variable (wf : WellFormed h)
include wf

/-- Every element that is read is a token below the signature. -/
theorem mem_svtElements_of_tokenElement (hk : k ∈ tokenElements h s) : k ∈ svtElements h s :=
  (mem_svtElements wf).mpr ⟨((mem_tokenElements wf).mp hk).1, signature_mem_of_tokenElement wf hk⟩

theorem tokenElements_eq_nil (hnone : svtElements h s = []) : tokenElements h s = [] := by
  apply List.eq_nil_iff_forall_not_mem.mpr
  intro k hk
  have hmem := mem_svtElements_of_tokenElement wf hk
  rw [hnone] at hmem
  cases hmem

/-- Without tokens the target is the first `SignatureProperties`. -/
theorem existingTarget_of_no_token (hnone : svtElements h s = []) :
    existingTarget jvm h s = (signatureProperties h s).head? := by
  have hempty : (signatureProperties h s).flatMap (getSvtSignaturePropertyElements h) = [] := by
    refine List.flatMap_eq_nil_iff.mpr fun q hq => List.eq_nil_iff_forall_not_mem.mpr fun p hp => ?_
    obtain ⟨hqp, -, hsvt⟩ := (mem_svtProperties wf).mp hp
    obtain ⟨k, hk⟩ := List.exists_mem_of_ne_nil _ hsvt
    obtain ⟨htoken, hpk⟩ := (mem_svtElements wf).mp hk
    have hsk : s ∈ h.chain k :=
      mem_chain_trans wf (mem_chain_trans wf hpk hqp) (mem_signatureProperties wf hq)
    have hmem := (mem_svtElements wf).mpr ⟨htoken, hsk⟩
    rw [hnone] at hmem
    cases hmem
  unfold existingTarget
  dsimp only
  have hsame : h.getElementsByTagNameNS s xmldsigNS "SignatureProperties" =
    signatureProperties h s := rfl
  rw [hsame, hempty]
  rfl

/-- What comes later in a search is around nothing that comes before. -/
theorem pairwise_getElementsByTagNameNS {ns name : String} :
    (h.getElementsByTagNameNS k ns name).Pairwise fun a b => b ∉ h.chain a := by
  have hsublist : ((h.below k).filter (·.content.hasName ns name)).Sublist h.nodes :=
    List.filter_sublist.trans List.filter_sublist
  refine List.pairwise_map.mpr ((wf.ordered.sublist hsublist).imp_of_mem ?_)
  intro a b ha _ hab
  rw [chain_of_mem wf (hsublist.subset ha)]
  exact hab

omit wf in
/-- Where the first element of a concatenation comes from. -/
theorem exists_head_of_flatMap {α β : Type} {f : α → List β} {l : List α} (hne : l.flatMap f ≠ []) :
    ∃ l₁ a l₂ b rest, l = l₁ ++ a :: l₂ ∧ (∀ c ∈ l₁, f c = []) ∧ f a = b :: rest ∧
      (l.flatMap f).head? = some b := by
  induction l with
  | nil => exact absurd rfl hne
  | cons a l ih =>
      rw [List.flatMap_cons] at hne ⊢
      cases hfa : f a with
      | cons b rest => exact ⟨[], a, l, b, rest, rfl, nofun, hfa, rfl⟩
      | nil =>
          rw [hfa, List.nil_append] at hne
          obtain ⟨l₁, a', l₂, b, rest, rfl, hnil, hfa', hhead⟩ := ih hne
          refine ⟨a :: l₁, a', l₂, b, rest, rfl, List.forall_mem_cons.mpr ⟨hfa, hnil⟩, hfa', ?_⟩
          rw [List.nil_append]
          exact hhead

/-- The place of a token, as the writer's searches see it. -/
theorem InPlace.found (hplace : InPlace h s k) (htoken : isToken h k = true) :
    ∃ o q p, h.chain q = o :: s :: h.chain s ∧ (h.contentOf o).hasName xmldsigNS "Object" = true ∧
      h.chain p = q :: h.chain q ∧ q ∈ h.chain k ∧ p ∈ h.chain k ∧
      q ∈ signatureProperties h s ∧ p ∈ getSvtSignaturePropertyElements h q := by
  obtain ⟨o, q, p, honame, hochain, hqname, hqchain, hpname, hpchain, hpk⟩ := hplace
  have hqp : q ∈ h.chain p := by
    rw [hpchain]
    exact List.mem_cons_self
  have hsq : s ∈ h.chain q := by
    rw [hqchain, hochain]
    exact List.mem_cons_of_mem _ List.mem_cons_self
  refine ⟨o, q, p, ?_, honame, hpchain, mem_chain_trans wf hpk hqp, hpk, ?_, ?_⟩
  · rw [hqchain, hochain]
  · obtain ⟨n, hn, rfl, hchain⟩ := exists_of_mem_chain hsq
    rw [contentOf_of_mem wf hn] at hqname
    exact mem_getElementsByTagNameNS.mpr ⟨n, hn, hchain ▸ hsq, hqname, rfl⟩
  · refine (mem_svtProperties wf).mpr ⟨hqp, hpname, ?_⟩
    exact List.ne_nil_of_mem ((mem_svtElements wf).mpr ⟨htoken, hpk⟩)

/-- What comes with an element of a search, or after it, is not around it. -/
theorem not_mem_chain_of_later {l l₁ l₂ : List Key} {a b : Key}
    (hl : l.Pairwise fun a b => b ∉ h.chain a) (hsplit : l = l₁ ++ a :: l₂) (hb : b ∈ a :: l₂) :
    b ∉ h.chain a := by
  rw [hsplit] at hl
  rcases List.mem_cons.mp hb with rfl | hb
  · exact not_mem_chain_self wf
  · exact (List.pairwise_cons.mp (List.pairwise_append.mp hl).2.1).1 b hb

/-- A `SignatureProperties` around a token is the one of its place, or around it. -/
theorem eq_or_mem_chain_of_place {f o q : Key} (hqchain : h.chain q = o :: s :: h.chain s)
    (honame : (h.contentOf o).hasName xmldsigNS "Object" = true) (hqk : q ∈ h.chain k)
    (hfk : f ∈ h.chain k) (hf : f ∈ signatureProperties h s) : f = q ∨ q ∈ h.chain f := by
  rcases chain_comparable wf hfk hqk with heq | hfq | hqf
  · exact .inl heq
  · exfalso
    rw [hqchain] at hfq
    rcases List.mem_cons.mp hfq with rfl | hfs
    · obtain ⟨n, hn, -, hname, rfl⟩ := mem_getElementsByTagNameNS.mp hf
      rw [contentOf_of_mem wf hn] at honame
      have hlocal := Content.localName_of_hasName hname
      rw [Content.localName_of_hasName honame] at hlocal
      exact absurd hlocal (by decide)
    · exact not_mem_cons_chain wf (mem_signatureProperties wf hf) hfs
  · exact .inr hqf

/-- **With a token in place** the target is a `SignatureProperties` in an object of the
signature. -/
theorem existingTarget_of_token (jvm : Jvm) (horderly : Orderly h s)
    (hsome : svtElements h s ≠ []) :
    ∃ o q, existingTarget jvm h s = some q ∧ h.chain q = o :: s :: h.chain s ∧
      (h.contentOf o).hasName xmldsigNS "Object" = true := by
  have hne : (signatureProperties h s).flatMap (getSvtSignaturePropertyElements h) ≠ [] := by
    obtain ⟨k, hk⟩ := List.exists_mem_of_ne_nil _ hsome
    obtain ⟨o, q, p, -, -, -, -, -, hq, hp⟩ :=
      (horderly k hk).found wf ((mem_svtElements wf).mp hk).1
    exact List.ne_nil_of_mem (List.mem_flatMap.mpr ⟨q, hq, hp⟩)
  obtain ⟨l₁, f, l₂, e, rest, hsplit, hnil, hfe, hhead⟩ := exists_head_of_flatMap hne
  -- a token in the first property, and its place
  have he : e ∈ getSvtSignaturePropertyElements h f := by
    rw [hfe]
    exact List.mem_cons_self
  have hf : f ∈ signatureProperties h s := by
    rw [hsplit]
    simp
  obtain ⟨hfe', -, hsvt⟩ := (mem_svtProperties wf).mp he
  have hsf : s ∈ h.chain f := mem_signatureProperties wf hf
  obtain ⟨k, hk⟩ := List.exists_mem_of_ne_nil _ hsvt
  obtain ⟨htoken, hek⟩ := (mem_svtElements wf).mp hk
  have hfk : f ∈ h.chain k := mem_chain_trans wf hek hfe'
  obtain ⟨o, q, p, hqchain, honame, hpchain, hqk, hpk, hq, hp⟩ :=
    (horderly k ((mem_svtElements wf).mpr ⟨htoken, mem_chain_trans wf hfk hsf⟩)).found wf htoken
  -- a search finds outer elements first, and there is nothing before the first property
  have hfq : f = q := by
    apply (eq_or_mem_chain_of_place wf hqchain honame hqk hfk hf).resolve_right
    intro hqf
    have hmem := hsplit ▸ hq
    rcases List.mem_append.mp hmem with hq | hq
    · rw [hnil q hq] at hp
      cases hp
    · exact not_mem_chain_of_later wf (pairwise_getElementsByTagNameNS wf) hsplit hq hqf
  subst hfq
  have hep : e = p := by
    rcases chain_comparable wf hek hpk with heq | hep | hpe
    · exact heq
    · rw [hpchain] at hep
      exact absurd hep (not_mem_cons_chain wf hfe')
    · have hpairwise : (getSvtSignaturePropertyElements h f).Pairwise fun a b => b ∉ h.chain a :=
        (pairwise_getElementsByTagNameNS wf).sublist List.filter_sublist
      rw [hfe] at hp
      have hfirst : getSvtSignaturePropertyElements h f = [] ++ e :: rest := hfe
      exact absurd hpe (not_mem_chain_of_later wf hpairwise hfirst hp)
  subst hep
  refine ⟨o, f, ?_, hqchain, honame⟩
  have hname : (h.contentOf f).localName = "SignatureProperties" := by
    obtain ⟨n, hn, -, hname, rfl⟩ := mem_getElementsByTagNameNS.mp hq
    rw [contentOf_of_mem wf hn]
    exact Content.localName_of_hasName hname
  unfold existingTarget
  dsimp only
  have hsame : h.getElementsByTagNameNS s xmldsigNS "SignatureProperties" =
    signatureProperties h s := rfl
  rw [hsame, hhead, Option.bind_some, hpchain, List.head?_cons]
  dsimp only
  rw [hname, CaseTable.equalsIgnoreCase_self, if_pos rfl]

/-- The old tokens are not around the target. -/
theorem notMem_target_of_token {o q : Key} (htarget : existingTarget jvm h s = some q)
    (hchain : h.chain q = o :: s :: h.chain s)
    (honame : (h.contentOf o).hasName xmldsigNS "Object" = true) (hk : k ∈ tokenElements h s) :
    k ∉ q :: h.chain q := by
  have hlocal := Content.localName_of_hasName ((mem_tokenElements wf).mp hk).1
  rw [hchain, List.mem_cons, List.mem_cons, not_or, not_or]
  refine ⟨?_, ?_, not_mem_cons_chain wf (signature_mem_of_tokenElement wf hk)⟩
  · rintro rfl
    have hlength := equalsIgnoreCase_length (existingTarget_spec wf htarget).2
    rw [hlocal] at hlength
    exact absurd hlength (by decide)
  · rintro rfl
    rw [Content.localName_of_hasName honame] at hlocal
    exact absurd hlocal (by decide)

/-- Removing the tokens of an orderly signature leaves none. -/
theorem tokenElements_detachAll (horderly : Orderly h s)
    (hremoved : RemovedBy jvm h s gone .REPLACE) : tokenElements (h.detachAll gone) s = [] := by
  have wf₁ : WellFormed (h.detachAll gone) := wellFormed_detachAll wf
  apply List.eq_nil_iff_forall_not_mem.mpr
  intro k hk
  obtain ⟨htoken, hsk⟩ := (mem_svtElements wf₁).mp (mem_svtElements_of_tokenElement wf₁ hk)
  obtain ⟨hsk, halive⟩ := (mem_chain_detachAll_iff wf (hremoved.alive wf)).mp hsk
  have htoken' : isToken h k = true := by
    unfold isToken at htoken ⊢
    rwa [contentOf_detachAll] at htoken
  obtain ⟨o, q, p, -, -, -, -, hpk, hq, hp⟩ :=
    (horderly k ((mem_svtElements wf).mpr ⟨htoken', hsk⟩)).found wf htoken'
  obtain ⟨hqp, hproperty⟩ := (mem_svtProperties wf).mp hp
  refine halive p (List.mem_cons_of_mem _ hpk) ((hremoved.1 p).mpr ⟨?_, .property hproperty⟩)
  exact mem_chain_trans wf hqp (mem_signatureProperties wf hq)

/-- Around what is left there are as many objects as before. -/
theorem objectsAround_detachAll {t : Key} (halive : Alive h gone t) :
    (objectsAround (h.detachAll gone) s t).length = (objectsAround h s t).length := by
  have wf₁ : WellFormed (h.detachAll gone) := wellFormed_detachAll wf
  have hchain : ∀ {x}, Alive h gone x → (h.detachAll gone).chain x = h.chain x := by
    intro x halive
    rw [chain_detachAll, if_neg (halive x List.mem_cons_self),
      cut_of_disjoint fun b hb => halive b (List.mem_cons_of_mem _ hb)]
  apply length_objectsAround_congr wf wf₁
  intro o
  rw [mem_objectsAround wf₁, mem_objectsAround wf, contentOf_detachAll, hchain halive]
  apply and_congr_right
  intro ho
  rw [hchain fun b hb => halive b ?_]
  rcases List.mem_cons.mp hb with rfl | hb
  · exact List.mem_cons_of_mem _ ho
  · exact List.mem_cons_of_mem _ (mem_chain_trans wf ho hb)

variable (hs : ∃ m ∈ h.nodes, m.key = s ∧ m.content.hasName xmldsigNS "Signature" = true)
include hs

/-- A turn with `EXTEND`. -/
theorem tokensExtended_extend_iff (jvm : Jvm) (rnd : Key → String) (token : String)
    (horderly : Orderly h s) :
    TokensExtended h (addSignatureProperty jvm rnd s token h) s token .EXTEND ↔
      Regular jvm h s .EXTEND := by
  have hcopies : ∀ {l : List String},
      l.Perm (signatureSvaTokens h s ++ List.replicate (copies jvm h s) token) →
      (l.Perm (signatureSvaTokens h s ++ [token]) ↔ copies jvm h s = 1) := by
    intro l hl
    rw [← append_replicate_perm_iff (l := signatureSvaTokens h s) (a := token)]
    exact ⟨hl.symm.trans, hl.trans⟩
  unfold TokensExtended Regular
  by_cases hnone : svtElements h s = []
  · have htokens := addSignatureProperty_tokens wf hs jvm rnd token fun t _ k hk => by
      rw [tokenElements_eq_nil wf hnone] at hk
      cases hk
    rw [hcopies htokens, copies, existingTarget_of_no_token wf hnone]
    simp only [hnone, ne_eq, not_true_eq_false, false_or]
    cases (signatureProperties h s).head? with
    | none => exact iff_of_true rfl nofun
    | some t => simp
  · obtain ⟨o, q, htarget, hchain, honame⟩ :=
      existingTarget_of_token wf jvm horderly hnone
    have htokens := addSignatureProperty_tokens wf hs jvm rnd token fun t ht k hk => by
      rw [htarget] at ht
      cases ht
      exact notMem_target_of_token wf htarget hchain honame hk
    rw [hcopies htokens, copies, htarget]
    exact iff_of_true (objectsAround_eq_one wf hchain honame) (.inl hnone)

/-- A turn with `REPLACE`, once the old tokens were removed. -/
theorem tokensExtended_replace_iff (rnd : Key → String) (token : String) (horderly : Orderly h s)
    (hremoved : RemovedBy jvm h s gone .REPLACE) :
    TokensExtended h (addSignatureProperty jvm rnd s token (h.detachAll gone)) s token .REPLACE ↔
      Regular jvm h s .REPLACE := by
  have wf₁ : WellFormed (h.detachAll gone) := wellFormed_detachAll wf
  have hsalive : Alive h gone s := hremoved.alive wf
  have hs₁ : ∃ m ∈ (h.detachAll gone).nodes, m.key = s ∧
      m.content.hasName xmldsigNS "Signature" = true := by
    obtain ⟨m, hm, hkey, hname⟩ := hs
    exact ⟨_, List.mem_map_of_mem hm, hkey, hname⟩
  have hnone := tokenElements_detachAll wf horderly hremoved
  have htokens := addSignatureProperty_tokens wf₁ hs₁ jvm rnd token fun t _ k hk => by
    rw [hnone] at hk
    cases hk
  have hempty : signatureSvaTokens (h.detachAll gone) s = [] := by
    unfold signatureSvaTokens
    rw [hnone]
    rfl
  rw [hempty] at htokens
  have hcopies : TokensExtended h (addSignatureProperty jvm rnd s token (h.detachAll gone)) s token
      .REPLACE ↔ copies jvm (h.detachAll gone) s = 1 := by
    unfold TokensExtended
    rw [← append_replicate_perm_iff (l := []) (a := token)]
    exact ⟨htokens.symm.trans, htokens.trans⟩
  rw [hcopies]
  unfold copies Regular
  have hfirst : ∀ t, existingTarget jvm (h.detachAll gone) s = some t ↔ FirstLeft jvm h s t :=
    fun t => existingTarget_iff_firstLeft wf hremoved.1 hsalive
  constructor
  · intro hone
    refine ⟨hremoved.2, fun t ht => ?_⟩
    obtain ⟨_, _, _, hsurvives, _⟩ := id ht
    rw [(hfirst t).mpr ht] at hone
    rw [← objectsAround_detachAll wf ((alive_iff_survives hremoved.1).mpr hsurvives)]
    exact hone
  · rintro ⟨-, hone⟩
    cases ht : existingTarget jvm (h.detachAll gone) s with
    | none => rfl
    | some t =>
        have hleft := (hfirst t).mp ht
        obtain ⟨_, _, _, hsurvives, _⟩ := id hleft
        exact (objectsAround_detachAll wf ((alive_iff_survives hremoved.1).mpr hsurvives)).trans
          (hone t hleft)

end Turn

/-! ## Other signatures -/

section Same

variable (wf : WellFormed h) (wf' : WellFormed h') (hbelow : h'.below s = h.below s)
include wf wf' hbelow

theorem objectsAround_of_sameBelow (hsk : s ∈ h.chain k) :
    objectsAround h' s k = objectsAround h s k := by
  unfold objectsAround objects getElementsByTagNameNS
  rw [hbelow, chain_of_sameBelow wf wf' hbelow hsk]

theorem firstLeft_of_sameBelow : FirstLeft jvm h' s t ↔ FirstLeft jvm h s t := by
  unfold FirstLeft
  rw [signatureProperties_of_sameBelow hbelow]
  refine exists_congr fun l₁ => exists_congr fun l₂ => and_congr_right fun hsplit => ?_
  have hmem : ∀ q ∈ l₁ ++ t :: l₂, Survives jvm h' s q ↔ Survives jvm h s q := by
    intro q hq
    rw [← hsplit] at hq
    exact survives_of_sameBelow wf wf' hbelow (mem_signatureProperties wf hq)
  refine and_congr (hmem t (by simp)) (forall₂_congr fun q hq => not_congr (hmem q (by simp [hq])))

theorem emptiedProperty_of_sameBelow : EmptiedProperty jvm h' s p ↔ EmptiedProperty jvm h s p := by
  unfold EmptiedProperty
  rw [svtProperties_of_sameBelow wf wf' hbelow (.inl rfl)]
  apply and_congr_right
  intro hp
  have hsp := ((mem_svtProperties wf).mp hp).1
  rw [children_of_sameBelow wf wf' hbelow hsp]
  refine forall₂_congr fun c hc => pruned_iff_of_sameBelow wf wf' hbelow ?_
  rw [chain_child wf hc]
  exact List.mem_cons_of_mem _ hsp

theorem regular_of_sameBelow : Regular jvm h' s svtMethod ↔ Regular jvm h s svtMethod := by
  have hsvt : svtElements h' s = svtElements h s := by
    unfold svtElements getElementsByTagNameNS
    rw [hbelow]
  have hproperties := signatureProperties_of_sameBelow hbelow
  cases svtMethod with
  | EXTEND =>
      unfold Regular
      rw [hsvt, hproperties]
      refine or_congr .rfl (forall₂_congr fun t ht => ?_)
      rw [objectsAround_of_sameBelow wf wf' hbelow
        (mem_signatureProperties wf (List.mem_of_mem_head? ht))]
  | REPLACE =>
      unfold Regular
      refine and_congr (forall_congr' fun p => not_congr ?_) (forall_congr' fun t => ?_)
      · exact emptiedProperty_of_sameBelow wf wf' hbelow
      · rw [firstLeft_of_sameBelow wf wf' hbelow]
        apply forall_congr'
        intro ht
        obtain ⟨l₁, l₂, hsplit, -⟩ := ht
        have hst : s ∈ h.chain t := mem_signatureProperties wf (by rw [hsplit]; simp)
        rw [objectsAround_of_sameBelow wf wf' hbelow hst]

theorem orderly_of_sameBelow (hchain : h'.chain s = h.chain s) (horderly : Orderly h s) :
    Orderly h' s := by
  intro k hk
  have hsvt : svtElements h' s = svtElements h s := by
    unfold svtElements getElementsByTagNameNS
    rw [hbelow]
  rw [hsvt] at hk
  have hsk := ((mem_svtElements wf).mp hk).2
  obtain ⟨o, q, p, honame, hochain, hqname, hqchain, hpname, hpchain, hpk⟩ := horderly k hk
  have hso : s ∈ h.chain o := by
    rw [hochain]
    exact List.mem_cons_self
  have hsq : s ∈ h.chain q := by
    rw [hqchain]
    exact List.mem_cons_of_mem _ hso
  have hsp : s ∈ h.chain p := by
    rw [hpchain]
    exact List.mem_cons_of_mem _ hsq
  refine ⟨o, q, p, ?_⟩
  simp only [contentOf_of_sameBelow wf wf' hbelow hso, contentOf_of_sameBelow wf wf' hbelow hsq,
    contentOf_of_sameBelow wf wf' hbelow hsp, chain_of_sameBelow wf wf' hbelow hso,
    chain_of_sameBelow wf wf' hbelow hsq, chain_of_sameBelow wf wf' hbelow hsp,
    chain_of_sameBelow wf wf' hbelow hsk, hchain]
  exact ⟨honame, hochain, hqname, hqchain, hpname, hpchain, hpk⟩

end Same

end SigVal.Xml.XMLDocumentSVTIssuer
