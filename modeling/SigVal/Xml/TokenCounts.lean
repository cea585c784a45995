import Mathlib.Algebra.GroupWithZero.Nat
import SigVal.Xml.IndependentTurns

/-!
# How often a token is read

The reader goes through the objects of a signature, and in each through the tokens below
it. Objects that lie in objects are among them, so a token is read once for each object it
lies in. A turn of `extendDocumentSignature` therefore adds as many copies of its token as
there are objects around the place where it puts the new property.
-/

namespace SigVal.Xml.XMLDocumentSVTIssuer

open SigVal.Java SigVal.LinkedDom Heap
open Svt.XMLSVTValidator (xmldsigNS xmlSvtNS)
open Jose (SVTExtendpolicy)

variable {jvm : Jvm} {rnd : Key → String} {h h' : Heap} {s s' t k k' o : Key} {token : String}

/-- The objects of a signature, those in other objects included. -/
def objects (h : Heap) (s : Key) : List Key := h.getElementsByTagNameNS s xmldsigNS "Object"

/-- The objects of a signature that an element lies in. -/
def objectsAround (h : Heap) (s k : Key) : List Key :=
  (objects h s).filter fun o => decide (o ∈ h.chain k)

/-- The element is a token. -/
def isToken (h : Heap) (k : Key) : Bool :=
  (h.contentOf k).hasName xmlSvtNS "SignatureValidationToken"

theorem exists_of_isToken (htoken : isToken h k = true) :
    ∃ n ∈ h.nodes, n.key = k ∧ n.content.hasName xmlSvtNS "SignatureValidationToken" = true := by
  unfold isToken contentOf node? at htoken
  cases hfind : h.nodes.find? (·.key == k) with
  | none =>
      rw [hfind] at htoken
      cases htoken
  | some n =>
      rw [hfind] at htoken
      exact ⟨n, List.mem_of_find?_eq_some hfind, by simpa using List.find?_some hfind, htoken⟩

/-! ## Counting -/

/-- Counting the elements of a sum of ones and zeros. -/
theorem sum_map_indicator {α : Type} (q : α → Bool) (l : List α) :
    (l.map fun a => if q a then 1 else 0).sum = (l.filter q).length := by
  induction l with
  | nil => rfl
  | cons a rest ih =>
      rw [List.map_cons, List.sum_cons, ih]
      cases ha : q a with
      | true =>
          rw [List.filter_cons_of_pos ha, List.length_cons, if_pos rfl, Nat.add_comm]
      | false =>
          rw [List.filter_cons_of_neg (by simp [ha]), if_neg Bool.false_ne_true, Nat.zero_add]

section Counts

variable (wf : WellFormed h)
include wf

theorem nodup_getElementsByTagNameNS {ns name : String} :
    (h.getElementsByTagNameNS k ns name).Nodup :=
  wf.keys_nodup.sublist ((List.filter_sublist.trans List.filter_sublist).map _)

theorem mem_objectsAround :
    o ∈ objectsAround h s k ↔ o ∈ h.chain k ∧ s ∈ h.chain o ∧
      (h.contentOf o).hasName xmldsigNS "Object" = true := by
  unfold objectsAround objects
  rw [List.mem_filter, decide_eq_true_eq, and_comm, mem_getElementsByTagNameNS]
  apply and_congr_right
  intro _
  constructor
  · rintro ⟨n, hn, hsn, hname, rfl⟩
    rw [chain_of_mem wf hn, contentOf_of_mem wf hn]
    exact ⟨hsn, hname⟩
  · rintro ⟨hso, hname⟩
    obtain ⟨n, hn, rfl, hchain⟩ := exists_of_mem_chain hso
    rw [contentOf_of_mem wf hn] at hname
    exact ⟨n, hn, hchain ▸ hso, hname, rfl⟩

/-- As many objects around one element as around another. -/
theorem length_objectsAround_congr (wf' : WellFormed h')
    (hiff : ∀ o, o ∈ objectsAround h' s' k' ↔ o ∈ objectsAround h s k) :
    (objectsAround h' s' k').length = (objectsAround h s k).length := by
  have hnodup : (objectsAround h s k).Nodup := (nodup_getElementsByTagNameNS wf).filter _
  have hnodup' : (objectsAround h' s' k').Nodup := (nodup_getElementsByTagNameNS wf').filter _
  exact ((List.perm_ext_iff_of_nodup hnodup' hnodup).mpr hiff).length_eq

theorem mem_svtElements : k ∈ svtElements h o ↔ isToken h k = true ∧ o ∈ h.chain k := by
  unfold svtElements isToken
  rw [mem_getElementsByTagNameNS]
  constructor
  · rintro ⟨n, hn, hon, hname, rfl⟩
    rw [chain_of_mem wf hn, contentOf_of_mem wf hn]
    exact ⟨hname, hon⟩
  · rintro ⟨hname, hok⟩
    obtain ⟨n, hn, rfl, hchain⟩ := exists_of_mem_chain hok
    rw [contentOf_of_mem wf hn] at hname
    exact ⟨n, hn, hchain ▸ hok, hname, rfl⟩

theorem count_svtElements :
    (svtElements h o).count k = if isToken h k && decide (o ∈ h.chain k) then 1 else 0 := by
  have hmem : k ∈ svtElements h o ↔ (isToken h k && decide (o ∈ h.chain k)) = true := by
    rw [mem_svtElements wf, Bool.and_eq_true, decide_eq_true_eq]
  have hnodup : (svtElements h o).Nodup := nodup_getElementsByTagNameNS wf
  rw [hnodup.count, if_congr hmem rfl rfl]

/-- **A token is read once for each object around it.** -/
theorem count_tokenElements :
    (tokenElements h s).count k = if isToken h k then (objectsAround h s k).length else 0 := by
  have hcount : (objects h s).map (List.count k ∘ svtElements h) =
      (objects h s).map fun o => if isToken h k && decide (o ∈ h.chain k) then 1 else 0 :=
    List.map_congr_left fun o _ => count_svtElements wf
  have hsum : (tokenElements h s).count k = ((objects h s).map
      (List.count k ∘ svtElements h)).sum := List.count_flatMap
  rw [hsum, hcount, sum_map_indicator]
  cases htoken : isToken h k with
  | true =>
      simp only [Bool.true_and, if_pos]
      rfl
  | false =>
      rw [if_neg Bool.false_ne_true, List.length_eq_zero_iff]
      exact List.filter_eq_nil_iff.mpr fun o _ => Bool.false_ne_true

/-- The object that a child of an object of the signature lies in. -/
theorem objectsAround_eq_one {q : Key} (hchain : h.chain q = o :: s :: h.chain s)
    (honame : (h.contentOf o).hasName xmldsigNS "Object" = true) :
    (objectsAround h s q).length = 1 := by
  have hoq : o ∈ h.chain q := by
    rw [hchain]
    exact List.mem_cons_self
  have hso : s ∈ h.chain o := by
    obtain ⟨pre, hpre, hnot⟩ := chain_split wf hoq
    rw [hchain] at hpre
    cases pre with
    | nil =>
        rw [List.nil_append] at hpre
        rw [← (List.cons.inj hpre).2]
        exact List.mem_cons_self
    | cons b pre =>
        rw [List.cons_append] at hpre
        exact absurd (List.mem_cons.mpr (.inl (List.cons.inj hpre).1)) hnot
  have hone : objectsAround h s q = [o] := by
    apply eq_singleton_of_mem_iff ((nodup_getElementsByTagNameNS wf (k := s)).filter _)
    intro a
    apply (mem_objectsAround wf).trans
    rw [hchain]
    constructor
    · rintro ⟨ha, hsa, -⟩
      exact (List.mem_cons.mp ha).resolve_right (not_mem_cons_chain wf hsa)
    · rintro rfl
      exact ⟨List.mem_cons_self, hso, honame⟩
  rw [hone]
  rfl

end Counts

/-! ## The copies a turn adds -/

section Filled

variable (wf : WellFormed h) (hf : Filled rnd h h' s t token)
include wf hf

/-- The old nodes are in their places and have their names. -/
theorem Filled.old {m : Node} (hm : m ∈ h.nodes) :
    h'.chain m.key = h.chain m.key ∧
      ∀ ns name, (h'.contentOf m.key).hasName ns name = (h.contentOf m.key).hasName ns name := by
  have hm' : withId rnd h s m ∈ h'.nodes := (hf.mem _).mpr (.inr (.inr (.inr ⟨m, hm, rfl⟩)))
  have hkey : (withId rnd h s m).key = m.key := key_withId m
  constructor
  · rw [← hkey, chain_of_mem hf.wf hm', ancestors_withId, hkey, chain_of_mem wf hm]
  · intro ns name
    rw [← hkey, contentOf_of_mem hf.wf hm', hasName_withId, hkey, contentOf_of_mem wf hm]

/-- An old object is one afterwards, and there are no new ones. -/
theorem Filled.object_iff {a : Key} (ha : a ∈ h.chain k) :
    (s ∈ h'.chain a ∧ (h'.contentOf a).hasName xmldsigNS "Object" = true) ↔
      s ∈ h.chain a ∧ (h.contentOf a).hasName xmldsigNS "Object" = true := by
  obtain ⟨m, hm, rfl⟩ : ∃ m ∈ h.nodes, m.key = a := by
    obtain ⟨n, hn, rfl, hchain⟩ := exists_of_mem_chain ha
    exact exists_node_of_mem_ancestors wf hn (hchain ▸ ha)
  obtain ⟨hchain, hname⟩ := hf.old wf hm
  rw [hchain, hname]

theorem Filled.objectsAround_old {m : Node} (hm : m ∈ h.nodes) :
    (objectsAround h' s m.key).length = (objectsAround h s m.key).length := by
  apply length_objectsAround_congr wf hf.wf
  intro o
  rw [mem_objectsAround hf.wf, mem_objectsAround wf, (hf.old wf hm).1]
  exact and_congr_right fun ho => hf.object_iff wf ho

/-- Around the new token are the objects around the target. -/
theorem Filled.objectsAround_new (hst : s ∈ h.chain t)
    (hobject : (h.contentOf t).hasName xmldsigNS "Object" = false) :
    (objectsAround h' s (h.nextKey + 1)).length = (objectsAround h s t).length := by
  have htoken : tokenNode h t ∈ h'.nodes := (hf.mem _).mpr (.inr (.inl rfl))
  have hproperty : propertyNode rnd h s t ∈ h'.nodes := (hf.mem _).mpr (.inr (.inr (.inl rfl)))
  have hchain : h'.chain (h.nextKey + 1) = h.nextKey :: t :: h.chain t :=
    chain_of_mem hf.wf htoken
  have hname : (h'.contentOf h.nextKey).hasName xmldsigNS "Object" = false := by
    have hcontent := contentOf_of_mem hf.wf hproperty
    rw [show h'.contentOf h.nextKey = _ from hcontent]
    simp [propertyNode, Content.hasName]
  apply length_objectsAround_congr wf hf.wf
  intro o
  rw [mem_objectsAround hf.wf, mem_objectsAround wf, hchain]
  constructor
  · rintro ⟨ho, hso, honame⟩
    rcases List.mem_cons.mp ho with rfl | ho
    · rw [hname] at honame
      cases honame
    · rcases List.mem_cons.mp ho with rfl | ho
      · -- the target is no object
        obtain ⟨m, hm, rfl, -⟩ := exists_of_mem_chain hst
        rw [(hf.old wf hm).2, hobject] at honame
        cases honame
      · exact ⟨ho, (hf.object_iff wf ho).mp ⟨hso, honame⟩⟩
  · rintro ⟨ho, hrest⟩
    exact ⟨List.mem_cons_of_mem _ (List.mem_cons_of_mem _ ho), (hf.object_iff wf ho).mpr hrest⟩

/-- The text of an old token that the new property does not hang in. -/
theorem Filled.textContent_old (hsk : s ∈ h.chain k) (hclear : k ∉ t :: h.chain t) :
    h'.getTextContent k = h.getTextContent k := by
  obtain ⟨m, hm, rfl, -⟩ := exists_of_mem_chain hsk
  have hnot : m.key ∉ h.chain s := fun hks =>
    not_mem_cons_chain wf hsk (List.mem_cons_of_mem _ hks)
  unfold getTextContent
  rw [hf.below m.key hclear hnot (wf.fresh m hm)]

theorem Filled.textContent_new (htold : t < h.nextKey) :
    h'.getTextContent (h.nextKey + 1) = token := by
  obtain ⟨k, hk, htext⟩ := (hf.holdsToken wf htold).token
  have htoken : tokenNode h t ∈ h'.nodes := (hf.mem _).mpr (.inr (.inl rfl))
  have hmem : h.nextKey + 1 ∈ svtElements h' h.nextKey :=
    mem_getElementsByTagNameNS.mpr
      ⟨_, htoken, List.mem_cons_self, by simp [tokenNode, Content.hasName], rfl⟩
  rw [hk] at hmem
  rw [List.mem_singleton.mp hmem]
  exact htext

theorem Filled.count_tokenElements (hst : s ∈ h.chain t)
    (hobject : (h.contentOf t).hasName xmldsigNS "Object" = false) :
    (tokenElements h' s).count k = (tokenElements h s).count k +
      if k = h.nextKey + 1 then (objectsAround h s t).length else 0 := by
  rw [XMLDocumentSVTIssuer.count_tokenElements hf.wf, XMLDocumentSVTIssuer.count_tokenElements wf]
  by_cases hold : ∃ m ∈ h.nodes, m.key = k
  · obtain ⟨m, hm, rfl⟩ := hold
    have hne : m.key ≠ h.nextKey + 1 :=
      Nat.ne_of_lt (Nat.lt_succ_of_lt (wf.fresh m hm))
    rw [if_neg hne, Nat.add_zero, hf.objectsAround_old wf hm]
    unfold isToken
    rw [(hf.old wf hm).2]
  · have hnone : isToken h k = false := by
      rw [Bool.eq_false_iff]
      intro htoken
      obtain ⟨n, hn, hkey, -⟩ := exists_of_isToken htoken
      exact hold ⟨n, hn, hkey⟩
    rw [hnone, if_neg Bool.false_ne_true, Nat.zero_add]
    have hnew : isToken h' k = true ↔ k = h.nextKey + 1 := by
      constructor
      · intro htoken
        obtain ⟨n, hn, rfl, hname⟩ := exists_of_isToken htoken
        rcases (hf.mem n).mp hn with ⟨-, rfl⟩ | rfl | rfl | ⟨m, hm, rfl⟩
        · cases hname
        · rfl
        · simp [propertyNode, Content.hasName] at hname
        · exact absurd ⟨m, hm, (key_withId m).symm⟩ hold
      · rintro rfl
        have hmem : tokenNode h t ∈ h'.nodes := (hf.mem _).mpr (.inr (.inl rfl))
        have hcontent := contentOf_of_mem hf.wf hmem
        unfold isToken
        rw [show h'.contentOf (h.nextKey + 1) = _ from hcontent]
        simp [tokenNode, Content.hasName]
    rw [if_congr hnew rfl rfl]
    split
    · rename_i heq
      rw [heq, hf.objectsAround_new wf hst hobject]
    · rfl

/-- **Filling the target.** The new token is read once for each object around the target. -/
theorem Filled.tokens (hst : s ∈ h.chain t)
    (hobject : (h.contentOf t).hasName xmldsigNS "Object" = false)
    (hclear : ∀ k ∈ tokenElements h s, k ∉ t :: h.chain t) :
    (signatureSvaTokens h' s).Perm
      (signatureSvaTokens h s ++ List.replicate (objectsAround h s t).length token) := by
  have hperm : (tokenElements h' s).Perm
      (tokenElements h s ++ List.replicate (objectsAround h s t).length (h.nextKey + 1)) := by
    apply List.perm_iff_count.mpr
    intro k
    rw [hf.count_tokenElements wf hst hobject, List.count_append, List.count_replicate]
    refine congrArg _ (if_congr ?_ rfl rfl)
    rw [beq_iff_eq, eq_comm]
  have htold : t < h.nextKey := by
    obtain ⟨m, hm, rfl, -⟩ := exists_of_mem_chain hst
    exact wf.fresh m hm
  have hmap := hperm.map h'.getTextContent
  rw [List.map_append, List.map_replicate, hf.textContent_new wf htold] at hmap
  have hsame : (tokenElements h s).map h'.getTextContent = signatureSvaTokens h s :=
    List.map_congr_left fun k hk =>
      hf.textContent_old wf (signature_mem_of_tokenElement wf hk) (hclear k hk)
  rw [hsame] at hmap
  exact hmap

end Filled

section WithTarget

variable (wf : WellFormed h)
  (hs : ∃ m ∈ h.nodes, m.key = s ∧ m.content.hasName xmldsigNS "Signature" = true)
include wf hs

/-- A new object without a token changes no token of the signature. -/
theorem withTarget_tokens :
    (signatureSvaTokens (withTarget h s) s).Perm (signatureSvaTokens h s) := by
  obtain ⟨wf₂, -, hmem, -, hbelow⟩ := withTarget_spec wf hs
  have hold : ∀ {m : Node}, m ∈ h.nodes → (withTarget h s).chain m.key = h.chain m.key ∧
      (withTarget h s).contentOf m.key = h.contentOf m.key := by
    intro m hm
    have hm₂ : m ∈ (withTarget h s).nodes := (hmem m).mpr (.inr (.inr hm))
    rw [chain_of_mem wf₂ hm₂, chain_of_mem wf hm, contentOf_of_mem wf₂ hm₂, contentOf_of_mem wf hm]
    exact ⟨rfl, rfl⟩
  have htoken : ∀ {k}, isToken (withTarget h s) k = true → ∃ m ∈ h.nodes, m.key = k := by
    intro k htoken
    obtain ⟨n, hn, hkey, hname⟩ := exists_of_isToken htoken
    rcases (hmem n).mp hn with rfl | rfl | hn
    · simp [propertiesNode, dsContent, Content.hasName] at hname
    · simp [objectNode, newChild, dsContent, Content.hasName] at hname
    · exact ⟨n, hn, hkey⟩
  have hperm : (tokenElements (withTarget h s) s).Perm (tokenElements h s) := by
    apply List.perm_iff_count.mpr
    intro k
    rw [count_tokenElements wf₂, count_tokenElements wf]
    by_cases hnode : ∃ m ∈ h.nodes, m.key = k
    · obtain ⟨m, hm, rfl⟩ := hnode
      have hlength : (objectsAround (withTarget h s) s m.key).length =
          (objectsAround h s m.key).length := by
        apply length_objectsAround_congr wf wf₂
        intro o
        rw [mem_objectsAround wf₂, mem_objectsAround wf, (hold hm).1]
        apply and_congr_right
        intro ho
        obtain ⟨a, ha, rfl⟩ : ∃ a ∈ h.nodes, a.key = o := by
          rw [chain_of_mem wf hm] at ho
          exact exists_node_of_mem_ancestors wf hm ho
        rw [(hold ha).1, (hold ha).2]
      unfold isToken
      rw [hlength, (hold hm).2]
    · have hnone₂ : isToken (withTarget h s) k = false :=
        Bool.eq_false_iff.mpr fun htoken' => hnode (htoken htoken')
      have hnone : isToken h k = false := by
        refine Bool.eq_false_iff.mpr fun htoken' => hnode ?_
        obtain ⟨n, hn, hkey, -⟩ := exists_of_isToken htoken'
        exact ⟨n, hn, hkey⟩
      rw [hnone₂, hnone]
      rfl
  have hmap := hperm.map (withTarget h s).getTextContent
  have hsame : (tokenElements h s).map (withTarget h s).getTextContent =
      signatureSvaTokens h s := by
    apply List.map_congr_left
    intro k hk
    have hsk := signature_mem_of_tokenElement wf hk
    obtain ⟨m, hm, rfl, -⟩ := exists_of_mem_chain hsk
    unfold getTextContent
    rw [hbelow m.key (not_mem_cons_chain wf hsk) (wf.fresh m hm)]
  rw [hsame] at hmap
  exact hmap

/-- The new target is in the new object. -/
theorem chain_newTarget :
    (withTarget h s).chain (h.nextKey + 1) = h.nextKey :: s :: (withTarget h s).chain s := by
  obtain ⟨wf₂, -, hmem, -⟩ := withTarget_spec wf hs
  have hchains : (withTarget h s).chain s = h.chain s := by
    obtain ⟨m, hm, rfl, -⟩ := hs
    rw [chain_of_mem wf₂ ((hmem m).mpr (.inr (.inr hm))), chain_of_mem wf hm]
  have hproperties : propertiesNode h s ∈ (withTarget h s).nodes := (hmem _).mpr (.inl rfl)
  rw [hchains]
  exact chain_of_mem wf₂ hproperties

/-- There is one object around a new target. -/
theorem withTarget_objectsAround :
    (objectsAround (withTarget h s) s (h.nextKey + 1)).length = 1 := by
  obtain ⟨wf₂, -, hmem, -⟩ := withTarget_spec wf hs
  have hobject : objectNode h s ∈ (withTarget h s).nodes := (hmem _).mpr (.inr (.inl rfl))
  apply objectsAround_eq_one wf₂ (chain_newTarget wf hs)
  have hcontent := contentOf_of_mem wf₂ hobject
  rw [show (withTarget h s).contentOf h.nextKey = _ from hcontent]
  simp [objectNode, newChild, dsContent, Content.hasName]

/-- How many copies of its token a turn adds. -/
def copies (jvm : Jvm) (h : Heap) (s : Key) : Nat :=
  match existingTarget jvm h s with
  | some t => (objectsAround h s t).length
  | none => 1

/-- **The added part of a turn.** The new token is read once for each object around its place,
and the others are read as before. -/
theorem addSignatureProperty_tokens (jvm : Jvm) (rnd : Key → String) (token : String)
    (hclear : ∀ t, existingTarget jvm h s = some t →
      ∀ k ∈ tokenElements h s, k ∉ t :: h.chain t) :
    (signatureSvaTokens (addSignatureProperty jvm rnd s token h) s).Perm
      (signatureSvaTokens h s ++ List.replicate (copies jvm h s) token) := by
  unfold addSignatureProperty getTargetSignaturePropertiesElement copies
  cases ht : existingTarget jvm h s with
  | some t =>
      obtain ⟨hst, hname⟩ := existingTarget_spec wf ht
      have htnode : ∃ m ∈ h.nodes, m.key = t := by
        obtain ⟨m, hm, hkey, -⟩ := exists_of_mem_chain hst
        exact ⟨m, hm, hkey⟩
      have hobject : (h.contentOf t).hasName xmldsigNS "Object" = false := by
        rw [Bool.eq_false_iff]
        intro hobject
        have hlength := equalsIgnoreCase_length hname
        rw [Content.localName_of_hasName hobject] at hlength
        exact absurd hlength (by decide)
      have hf : Filled rnd h (fillTarget rnd s token t h) s t token :=
        filled_fillTarget wf htnode
          (hs.imp fun m hm => ⟨hm.1, hm.2.1, Content.isElement_of_hasName hm.2.2⟩) token
      exact hf.tokens wf hst hobject (hclear t ht)
  | none =>
      obtain ⟨wf₂, -, hmem, -⟩ := withTarget_spec wf hs
      have hproperties : propertiesNode h s ∈ (withTarget h s).nodes := (hmem _).mpr (.inl rfl)
      have hchain := chain_newTarget wf hs
      have hf : Filled rnd (withTarget h s)
          (fillTarget rnd s token (h.nextKey + 1) (withTarget h s)) s (h.nextKey + 1) token := by
        refine filled_fillTarget wf₂ ⟨_, hproperties, rfl⟩ ?_ token
        exact hs.imp fun m hm => ⟨(hmem m).mpr (.inr (.inr hm.1)), hm.2.1,
          Content.isElement_of_hasName hm.2.2⟩
      have hobject : ((withTarget h s).contentOf (h.nextKey + 1)).hasName xmldsigNS "Object" =
          false := by
        have hcontent := contentOf_of_mem wf₂ hproperties
        rw [show (withTarget h s).contentOf (h.nextKey + 1) = _ from hcontent]
        simp [propertiesNode, dsContent, Content.hasName]
      have htokens := hf.tokens wf₂ (hchain ▸ List.mem_cons_of_mem _ List.mem_cons_self) hobject ?_
      · rw [withTarget_objectsAround wf hs] at htokens
        exact htokens.trans ((withTarget_tokens wf hs).append_right _)
      · -- the new elements are no tokens, and the others are around the signature
        intro k hk
        have hsk := signature_mem_of_tokenElement wf₂ hk
        have htoken : isToken (withTarget h s) k = true := ((mem_tokenElements wf₂).mp hk).1
        obtain ⟨n, hn, rfl, hname⟩ := exists_of_isToken htoken
        have hnew : n.key ≠ h.nextKey + 1 ∧ n.key ≠ h.nextKey := by
          constructor
          · intro heq
            rw [eq_of_key_eq wf₂ hn hproperties heq] at hname
            simp [propertiesNode, dsContent, Content.hasName] at hname
          · intro heq
            rw [eq_of_key_eq wf₂ hn ((hmem (objectNode h s)).mpr (.inr (.inl rfl))) heq] at hname
            simp [objectNode, newChild, dsContent, Content.hasName] at hname
        rw [hchain, List.mem_cons, List.mem_cons, not_or, not_or]
        exact ⟨hnew.1, hnew.2, not_mem_cons_chain wf₂ hsk⟩

end WithTarget

end SigVal.Xml.XMLDocumentSVTIssuer
