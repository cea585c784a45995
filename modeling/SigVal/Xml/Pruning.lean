import SigVal.Xml.SvtExtension

/-!
# What `removeElement` removes

With `REPLACE` the properties that hold tokens are removed, and with each of them the
parents that are left empty. Which elements go is a property of the document before: they
are the least set that has the properties, and has an element with all its children.

The removal fails, in the middle of its work, exactly when a property is left empty by the
removal of properties inside it.
-/

namespace SigVal.Xml.XMLDocumentSVTIssuer

open SigVal.Java SigVal.LinkedDom Heap
open Svt.XMLSVTValidator (xmldsigNS xmlSvtNS)

/-- A property with a token below it. -/
def IsSvtProperty (document : Heap) (k : Key) : Prop :=
  (document.contentOf k).hasName xmldsigNS "SignatureProperty" = true ∧ svtElements document k ≠ []

/-- What goes when all properties with tokens go. -/
inductive Pruned (jvm : Jvm) (document : Heap) : Key → Prop where
  | property {k : Key} : IsSvtProperty document k → Pruned jvm document k
  | emptied {k : Key} : isPrunable jvm (document.contentOf k) = true → document.children k ≠ [] →
      (∀ c ∈ document.children k, Pruned jvm document c.key) → Pruned jvm document k

variable {jvm : Jvm} {h : Heap} {s k p : Key}

theorem isPrunable_signature {content : Content}
    (hname : content.hasName xmldsigNS "Signature" = true) : isPrunable jvm content = false := by
  simp [isPrunable, Content.localName_of_hasName hname]

theorem isPrunable_property {content : Content}
    (hname : content.hasName xmldsigNS "SignatureProperty" = true) :
    isPrunable jvm content = true := by
  simp [isPrunable, Content.isElement_of_hasName hname, Content.localName_of_hasName hname,
    CaseTable.equalsIgnoreCase]

theorem not_pruned_signature (hname : (h.contentOf s).hasName xmldsigNS "Signature" = true) :
    ¬ Pruned jvm h s := by
  intro hpruned
  cases hpruned with
  | property hproperty =>
      have hprunable : isPrunable jvm (h.contentOf s) = true := isPrunable_property hproperty.1
      rw [isPrunable_signature hname] at hprunable
      cases hprunable
  | emptied hprunable _ _ =>
      rw [isPrunable_signature hname] at hprunable
      cases hprunable

section WellFormed

variable (wf : WellFormed h)
include wf

theorem mem_svtProperties :
    p ∈ getSvtSignaturePropertyElements h s ↔ s ∈ h.chain p ∧ IsSvtProperty h p := by
  unfold getSvtSignaturePropertyElements IsSvtProperty
  rw [List.mem_filter, mem_getElementsByTagNameNS, decide_eq_true_eq, List.length_pos_iff]
  constructor
  · rintro ⟨⟨n, hn, hs, hname, rfl⟩, hsvt⟩
    rw [chain_of_mem wf hn, contentOf_of_mem wf hn]
    exact ⟨hs, hname, hsvt⟩
  · rintro ⟨hs, hname, hsvt⟩
    obtain ⟨n, hn, rfl, hchain⟩ := exists_of_mem_chain hs
    rw [hchain] at hs
    rw [contentOf_of_mem wf hn] at hname
    exact ⟨⟨n, hn, hs, hname, rfl⟩, hsvt⟩

theorem nodup_svtProperties : (getSvtSignaturePropertyElements h s).Nodup :=
  ((wf.keys_nodup.sublist (((List.filter_sublist).trans List.filter_sublist).map _)).filter _)

/-- A property with a token has a child. -/
theorem children_of_isSvtProperty (hp : IsSvtProperty h p) : h.children p ≠ [] := by
  obtain ⟨k, hk⟩ := List.exists_mem_of_ne_nil _ hp.2
  obtain ⟨n, hn, hpn, _, _⟩ := mem_getElementsByTagNameNS.mp hk
  rw [← chain_of_mem wf hn] at hpn
  obtain ⟨c, hc, _⟩ := exists_child_towards wf hpn
  exact List.ne_nil_of_mem hc

/-- A node below one that goes goes with it, or lies in a property that goes. -/
theorem pruned_towards {x : Key} (hb : Pruned jvm h k) (hx : k ∈ x :: h.chain x)
    (hnot : ¬ Pruned jvm h x) :
    ∃ q ∈ h.chain x, IsSvtProperty h q ∧ (q = k ∨ k ∈ h.chain q) := by
  induction hb with
  | @property k hproperty =>
      rcases List.mem_cons.mp hx with rfl | hx
      · exact absurd (.property hproperty) hnot
      · exact ⟨k, hx, hproperty, .inl rfl⟩
  | @emptied k hprunable hne hall ih =>
      rcases List.mem_cons.mp hx with rfl | hx
      · exact absurd (.emptied hprunable hne hall) hnot
      · obtain ⟨c, hc, hcx⟩ := exists_child_towards wf hx
        obtain ⟨q, hq, hproperty, hcq⟩ := ih c hc hcx
        have hck : k ∈ h.chain c.key := by
          rw [chain_child wf hc]
          exact List.mem_cons_self
        refine ⟨q, hq, hproperty, .inr ?_⟩
        rcases hcq with rfl | hcq
        · exact hck
        · exact mem_chain_trans wf hcq hck

end WellFormed

/-! ## One element and the parents it empties -/

/-- Between two calls: `done` were removed and `gone` is what went with them. -/
structure RemovalInv (jvm : Jvm) (h : Heap) (s : Key) (done gone : List Key) : Prop where
  pruned : ∀ g ∈ gone, Pruned jvm h g ∧ s ∈ h.chain g
  done_gone : ∀ p ∈ done, p ∈ gone
  closed : ∀ k, isPrunable jvm (h.contentOf k) = true → h.children k ≠ [] →
    (∀ c ∈ h.children k, c.key ∈ gone) → k ∈ gone
  emptied : ∀ g ∈ gone, g ∈ done ∨ ∀ c ∈ h.children g, c.key ∈ gone
  kept : ∀ p ∈ done, ∃ c ∈ h.children p, c.key ∉ gone

/-- The same while the element `e` is about to go. -/
structure Pending (jvm : Jvm) (h : Heap) (s : Key) (done gone : List Key) (e : Key) : Prop where
  new : e ∉ gone
  pruned : ∀ g ∈ e :: gone, Pruned jvm h g ∧ s ∈ h.chain g
  done_gone : ∀ p ∈ done, p ∈ e :: gone
  closed : ∀ k, isPrunable jvm (h.contentOf k) = true → h.children k ≠ [] →
    (∀ c ∈ h.children k, c.key ∈ gone) → k ∈ e :: gone
  emptied : ∀ g ∈ e :: gone, g ∈ done ∨ ∀ c ∈ h.children g, c.key ∈ gone
  kept : ∀ p ∈ done, ∃ c ∈ h.children p, c.key ∉ gone

/-- The call failed: a property was left empty. Something had been removed before. -/
def FailedRemoval (jvm : Jvm) (h : Heap) (s : Key) (done : List Key) (t : Heap) : Prop :=
  (∃ gone, t = h.detachAll gone ∧ gone ≠ [] ∧ ∀ g ∈ gone, s ∈ h.chain g) ∧
    ∃ p ∈ done, ∀ c ∈ h.children p, Pruned jvm h c.key

section Removal

theorem emptyParentElement_detachAll {gone : List Key} :
    emptyParentElement jvm (h.detachAll gone) p = true ↔
      isPrunable jvm (h.contentOf p) = true ∧ ∀ c ∈ h.children p, c.key ∈ gone := by
  unfold emptyParentElement
  rw [Bool.and_eq_true, contentOf_detachAll, List.isEmpty_iff, List.eq_nil_iff_forall_not_mem]
  apply and_congr_right
  intro _
  constructor
  · intro hnone c hc
    by_contra hgone
    exact hnone _ (mem_children_detachAll.mpr ⟨c, hc, hgone, rfl⟩)
  · intro hall c hc
    obtain ⟨m, hm, hgone, _⟩ := mem_children_detachAll.mp hc
    exact hgone (hall m hm)

variable (wf : WellFormed h)
include wf

section Parent

variable {done gone : List Key} {e : Key} {n : Node}

omit wf in
/-- Children that went without `e` went before. -/
theorem mem_gone_of_ne {q : Key} (hchildren : ∀ c ∈ h.children q, c.key ∈ e :: gone)
    (hne : ¬ ∃ c ∈ h.children q, c.key = e) : ∀ c ∈ h.children q, c.key ∈ gone := by
  intro c hc
  exact (List.mem_cons.mp (hchildren c hc)).resolve_left fun hce => hne ⟨c, hc, hce⟩

/-- The parent is not left empty: nothing else goes. -/
theorem Pending.settle (hdone : ∀ p ∈ done, IsSvtProperty h p)
    (hpending : Pending jvm h s done gone e) (hchild : n ∈ h.children p) (hkey : n.key = e)
    (hkept : isPrunable jvm (h.contentOf p) = true → ¬ ∀ c ∈ h.children p, c.key ∈ e :: gone) :
    RemovalInv jvm h s done (e :: gone) where
  pruned := hpending.pruned
  done_gone := hpending.done_gone
  closed := by
    intro q hq hqne hchildren
    by_cases heq : ∃ c ∈ h.children q, c.key = e
    · obtain ⟨c, hc, hce⟩ := heq
      obtain rfl := parent_unique wf hchild hc (hce.trans hkey.symm)
      exact absurd hchildren (hkept hq)
    · exact hpending.closed q hq hqne (mem_gone_of_ne hchildren heq)
  emptied := by
    intro g hg
    rcases hpending.emptied g hg with hd | hchildren
    · exact .inl hd
    · exact .inr fun c hc => List.mem_cons_of_mem _ (hchildren c hc)
  kept := by
    intro q hq
    by_contra hnone
    have hchildren : ∀ c ∈ h.children q, c.key ∈ e :: gone := by
      intro c hc
      by_contra hcgone
      exact hnone ⟨c, hc, hcgone⟩
    obtain ⟨c, hc, hcgone⟩ := hpending.kept q hq
    have hce := (List.mem_cons.mp (hchildren c hc)).resolve_right hcgone
    obtain rfl := parent_unique wf hchild hc (hce.trans hkey.symm)
    exact hkept (isPrunable_property (hdone q hq).1) hchildren

/-- The parent is left empty and goes next. -/
theorem Pending.climb (hs : isPrunable jvm (h.contentOf s) = false)
    (hpending : Pending jvm h s done gone e) (hchild : n ∈ h.children p) (hkey : n.key = e)
    (hprunable : isPrunable jvm (h.contentOf p) = true)
    (hall : ∀ c ∈ h.children p, c.key ∈ e :: gone) (hnew : p ∉ gone) :
    Pending jvm h s done (e :: gone) p := by
  have hparent : h.chain e = p :: h.chain p := by
    rw [← hkey]
    exact chain_child wf hchild
  have hpe : p ≠ e := by
    rintro rfl
    have hself : p ∈ h.chain p := by
      rw [hparent]
      exact List.mem_cons_self
    exact not_mem_chain_self wf hself
  refine ⟨?_, ?_, ?_, ?_, ?_, ?_⟩
  · rw [List.mem_cons, not_or]
    exact ⟨hpe, hnew⟩
  · intro g hg
    rcases List.mem_cons.mp hg with rfl | hg
    · refine ⟨.emptied hprunable (List.ne_nil_of_mem hchild)
        fun c hc => (hpending.pruned _ (hall c hc)).1, ?_⟩
      -- the signature itself is not prunable
      have hse := (hpending.pruned e List.mem_cons_self).2
      rw [hparent] at hse
      apply (List.mem_cons.mp hse).resolve_left
      rintro rfl
      rw [hs] at hprunable
      cases hprunable
    · exact hpending.pruned g hg
  · intro q hq
    exact List.mem_cons_of_mem _ (hpending.done_gone q hq)
  · intro q hq hqne hchildren
    by_cases heq : ∃ c ∈ h.children q, c.key = e
    · obtain ⟨c, hc, hce⟩ := heq
      obtain rfl := parent_unique wf hchild hc (hce.trans hkey.symm)
      exact List.mem_cons_self
    · exact List.mem_cons_of_mem _ (hpending.closed q hq hqne (mem_gone_of_ne hchildren heq))
  · intro g hg
    rcases List.mem_cons.mp hg with rfl | hg
    · exact .inr hall
    · rcases hpending.emptied g hg with hd | hchildren
      · exact .inl hd
      · exact .inr fun c hc => List.mem_cons_of_mem _ (hchildren c hc)
  · intro q hq
    obtain ⟨c, hc, hcgone⟩ := hpending.kept q hq
    refine ⟨c, hc, ?_⟩
    rw [List.mem_cons, not_or]
    refine ⟨?_, hcgone⟩
    intro hce
    obtain rfl := parent_unique wf hchild hc (hce.trans hkey.symm)
    rcases List.mem_cons.mp (hpending.done_gone q hq) with hqe | hqgone
    · exact hpe hqe
    · exact hnew hqgone

omit wf in
/-- The parent is left empty after it went itself. -/
theorem Pending.fails (hpending : Pending jvm h s done gone e) (hchild : n ∈ h.children p)
    (hkey : n.key = e) (hall : ∀ c ∈ h.children p, c.key ∈ e :: gone) (hin : p ∈ gone) :
    FailedRemoval jvm h s done (h.detachAll (e :: gone)) := by
  have hdone : p ∈ done := by
    rcases hpending.emptied p (List.mem_cons_of_mem _ hin) with hd | hchildren
    · exact hd
    · exact absurd (hkey ▸ hchildren n hchild) hpending.new
  exact ⟨⟨e :: gone, rfl, List.cons_ne_nil _ _, fun g hg => (hpending.pruned g hg).2⟩, p, hdone,
    fun c hc => (hpending.pruned _ (hall c hc)).1⟩

end Parent

/-- One call of `removeElement`. The climb stops at the signature at the latest. -/
theorem wp_removeAlong (hs : isPrunable jvm (h.contentOf s) = false) {done : List Key}
    (hdone : ∀ p ∈ done, IsSvtProperty h p) (l : List Key) :
    ∀ (e : Key) (gone : List Key), l = cut gone (h.chain e) → Pending jvm h s done gone e →
      Mutating.wp (removeAlong jvm e l)
        (fun _ t => ∃ gone', t = h.detachAll gone' ∧ RemovalInv jvm h s done gone')
        (fun _ t => FailedRemoval jvm h s done t) (h.detachAll gone) := by
  induction l with
  | nil =>
      intro e gone hl hpending
      have hbelow := (hpending.pruned e List.mem_cons_self).2
      have hhead : (cut gone (h.chain e)).head? = none := by rw [← hl]; rfl
      rw [head?_cut, List.head?_eq_none_iff] at hhead
      rw [hhead] at hbelow
      cases hbelow
  | cons parentNode rest ih =>
      intro e gone hl hpending
      -- the parent is the parent in the document before
      have hhead : (h.chain e).head? = some parentNode := by rw [← head?_cut, ← hl]; rfl
      obtain ⟨n, hn, hkey, hchain⟩ := exists_of_mem_chain (List.mem_of_mem_head? hhead)
      have hchild : n ∈ h.children parentNode := mem_children.mpr ⟨hn, hchain ▸ hhead⟩
      have hparent : h.chain e = parentNode :: h.chain parentNode := by
        rw [← hkey]
        exact chain_child wf hchild
      rw [hparent, cut_cons] at hl
      unfold removeAlong
      rw [Mutating.wp_bind, Mutating.wp_modify, Mutating.wp_bind, Mutating.wp_get, removeChild,
        detachAll_detachAll, List.singleton_append]
      by_cases hempty : emptyParentElement jvm (h.detachAll (e :: gone)) parentNode = true
      · rw [if_pos hempty]
        obtain ⟨hprunable, hall⟩ := emptyParentElement_detachAll.mp hempty
        by_cases hin : parentNode ∈ gone
        · rw [if_pos hin] at hl
          rw [(List.cons.inj hl).2]
          exact hpending.fails hchild hkey hall hin
        · rw [if_neg hin] at hl
          have hself : e ∉ h.chain parentNode := by
            intro hmem
            have hloop : e ∈ h.chain e := by
              rw [hparent]
              exact List.mem_cons_of_mem _ hmem
            exact not_mem_chain_self wf hloop
          refine ih parentNode (e :: gone) ?_
            (hpending.climb wf hs hchild hkey hprunable hall hin)
          rw [(List.cons.inj hl).2, cut_cons_of_not_mem hself]
      · rw [if_neg hempty]
        rw [emptyParentElement_detachAll, not_and] at hempty
        exact ⟨e :: gone, rfl, hpending.settle wf hdone hchild hkey hempty⟩

/-! ## All properties of a signature -/

theorem wp_removeElements (hs : isPrunable jvm (h.contentOf s) = false) (todo : List Key) :
    ∀ (done gone : List Key), (done ++ todo).Nodup →
      (∀ p ∈ done ++ todo, s ∈ h.chain p ∧ IsSvtProperty h p) → RemovalInv jvm h s done gone →
      Mutating.wp (removeElements jvm todo)
        (fun _ t => ∃ gone', t = h.detachAll gone' ∧ RemovalInv jvm h s (done ++ todo) gone')
        (fun _ t => FailedRemoval jvm h s (done ++ todo) t) (h.detachAll gone) := by
  induction todo with
  | nil =>
      intro done gone _ _ hinv
      rw [List.append_nil]
      exact ⟨gone, rfl, hinv⟩
  | cons e rest ih =>
      intro done gone hnodup hall hinv
      have hsplit : done ++ e :: rest = (done ++ [e]) ++ rest := by simp
      obtain ⟨hbelow, hproperty⟩ := hall e (by simp)
      have hnew : e ∉ done := by
        intro hmem
        exact (List.nodup_append.mp hnodup).2.2 e hmem e List.mem_cons_self rfl
      unfold removeElements removeElement
      rw [Mutating.wp_bind, Mutating.wp_bind, Mutating.wp_get, chain_detachAll]
      by_cases hin : e ∈ gone
      · -- emptied by an inner property before its own turn
        rw [if_pos hin]
        refine ⟨⟨gone, rfl, List.ne_nil_of_mem hin, fun g hg => (hinv.pruned g hg).2⟩, e,
          by simp, ?_⟩
        intro c hc
        exact (hinv.pruned _ ((hinv.emptied e hin).resolve_left hnew c hc)).1
      · rw [if_neg hin]
        have hpending : Pending jvm h s (done ++ [e]) gone e := by
          refine ⟨hin, ?_, ?_, ?_, ?_, ?_⟩
          · intro g hg
            rcases List.mem_cons.mp hg with rfl | hg
            · exact ⟨.property hproperty, hbelow⟩
            · exact hinv.pruned g hg
          · intro q hq
            rcases List.mem_append.mp hq with hq | hq
            · exact List.mem_cons_of_mem _ (hinv.done_gone q hq)
            · exact List.mem_cons.mpr (.inl (List.mem_singleton.mp hq))
          · intro k hk hkne hchildren
            exact List.mem_cons_of_mem _ (hinv.closed k hk hkne hchildren)
          · intro g hg
            rcases List.mem_cons.mp hg with rfl | hg
            · exact .inl (by simp)
            · exact (hinv.emptied g hg).imp_left (List.mem_append_left _)
          · intro q hq
            rcases List.mem_append.mp hq with hq | hq
            · exact hinv.kept q hq
            · obtain rfl := List.mem_singleton.mp hq
              by_contra hnone
              refine hin (hinv.closed q (isPrunable_property hproperty.1)
                (children_of_isSvtProperty wf hproperty) ?_)
              intro c hc
              by_contra hcgone
              exact hnone ⟨c, hc, hcgone⟩
        have hdone : ∀ p ∈ done ++ [e], IsSvtProperty h p := fun p hp =>
          (hall p (by rw [hsplit]; exact List.mem_append_left _ hp)).2
        rw [hsplit] at hnodup hall ⊢
        refine Mutating.wp_mono (wp_removeAlong wf hs hdone _ e gone rfl hpending) ?_ ?_
        · rintro - t ⟨gone', rfl, hinv'⟩
          exact ih _ gone' hnodup hall hinv'
        · rintro ex t ⟨hgone, p, hp, hchildren⟩
          exact ⟨hgone, p, List.mem_append_left _ hp, hchildren⟩

/-- A property of the signature that is left empty by the removal of inner ones. -/
def EmptiedProperty (jvm : Jvm) (h : Heap) (s p : Key) : Prop :=
  p ∈ getSvtSignaturePropertyElements h s ∧ ∀ c ∈ h.children p, Pruned jvm h c.key

/-- **What is removed.** Without an emptied property exactly the pruned nodes below the
signature go; with one the removal fails half way. -/
theorem wp_removeSvtProperties (hs : isPrunable jvm (h.contentOf s) = false) :
    Mutating.wp (removeElements jvm (getSvtSignaturePropertyElements h s))
      (fun _ t => ∃ gone, t = h.detachAll gone ∧
        (∀ k, k ∈ gone ↔ s ∈ h.chain k ∧ Pruned jvm h k) ∧ ∀ p, ¬ EmptiedProperty jvm h s p)
      (fun _ t => (∃ gone, t = h.detachAll gone ∧ gone ≠ [] ∧ ∀ g ∈ gone, s ∈ h.chain g) ∧
        ∃ p, EmptiedProperty jvm h s p) h := by
  have hstart : RemovalInv jvm h s [] [] := by
    refine ⟨by simp, by simp, ?_, by simp, by simp⟩
    intro k _ hne hchildren
    obtain ⟨c, hc⟩ := List.exists_mem_of_ne_nil _ hne
    exact absurd (hchildren c hc) (by simp)
  have hloop := wp_removeElements wf hs (getSvtSignaturePropertyElements h s) [] []
    (nodup_svtProperties wf) (fun p hp => mem_svtProperties wf |>.mp hp) hstart
  rw [detachAll_nil] at hloop
  refine Mutating.wp_mono hloop ?_ ?_
  · rintro - t ⟨gone, rfl, hinv⟩
    have hgone : ∀ k, Pruned jvm h k → s ∈ h.chain k → k ∈ gone := by
      intro k hpruned
      induction hpruned with
      | property hproperty =>
          intro hbelow
          exact hinv.done_gone _ ((mem_svtProperties wf).mpr ⟨hbelow, hproperty⟩)
      | emptied hprunable hne _ ih =>
          intro hbelow
          apply hinv.closed _ hprunable hne
          intro c hc
          apply ih c hc
          rw [chain_child wf hc]
          exact List.mem_cons_of_mem _ hbelow
    refine ⟨gone, rfl, ?_, ?_⟩
    · intro k
      constructor
      · intro hk
        exact ⟨(hinv.pruned k hk).2, (hinv.pruned k hk).1⟩
      · rintro ⟨hbelow, hpruned⟩
        exact hgone k hpruned hbelow
    · rintro p ⟨hp, hchildren⟩
      obtain ⟨c, hc, hcgone⟩ := hinv.kept p hp
      refine hcgone (hgone _ (hchildren c hc) ?_)
      rw [chain_child wf hc]
      exact List.mem_cons_of_mem _ ((mem_svtProperties wf).mp hp).1
  · rintro ex t ⟨hgone, p, hp, hchildren⟩
    exact ⟨hgone, p, hp, hchildren⟩

end Removal

end SigVal.Xml.XMLDocumentSVTIssuer
