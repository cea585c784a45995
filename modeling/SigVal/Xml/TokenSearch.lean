import SigVal.Xml.ExtensionRun

/-!
# Where the tokens of a signature are found

`XMLSVTValidator` takes the tokens below every `ds:Object` of a signature, and the XML
security library reads the other children of the signature element. A turn of
`extendDocumentSignature` that keeps to the objects of its signature adds one token to the
first and leaves the second as it was.
-/

namespace SigVal.Xml.XMLDocumentSVTIssuer

open SigVal.Java SigVal.LinkedDom Heap
open Svt.XMLSVTValidator (xmldsigNS xmlSvtNS)
open Jose (SVTExtendpolicy)

variable {jvm : Jvm} {rnd : Key → String} {svtMethod : SVTExtendpolicy} {d h h' : Heap}
  {s s' p q k : Key} {gone : List Key} {token : String} {n m : Node}

/-- The elements that `getSignatureSvaTokens` visits. -/
def tokenElements (document : Heap) (signatureElement : Key) : List Key :=
  (document.getElementsByTagNameNS signatureElement xmldsigNS "Object").flatMap
    (svtElements document)

/-- `getSignatureSvaTokens`, of an element of the document. -/
def signatureSvaTokens (document : Heap) (signatureElement : Key) : List String :=
  (tokenElements document signatureElement).map document.getTextContent

/-- The children of a signature element that are no `ds:Object`. -/
def coreChildren (document : Heap) (s : Key) : List Node :=
  (document.children s).filter fun n => !n.content.hasName xmldsigNS "Object"

/-- The signature element is there. -/
def IsSignature (h : Heap) (s : Key) : Prop :=
  ∃ n ∈ h.nodes, n.key = s ∧ n.content.hasName xmldsigNS "Signature" = true

/-! ## Where a turn makes its changes -/

/-- A token that was there before the turn and is found after it. -/
def LeftToken (jvm : Jvm) (svtMethod : SVTExtendpolicy) (h : Heap) (s k : Key) : Prop :=
  k ∈ tokenElements h s ∧ (svtMethod = .REPLACE → Survives jvm h s k)

/-- The element that takes the new property. -/
def TakesProperty (jvm : Jvm) (h : Heap) (s t : Key) : SVTExtendpolicy → Prop
  | .REPLACE => FirstLeft jvm h s t
  | .EXTEND => existingTarget jvm h s = some t

/-- The turn adds something to the element, or takes it away. -/
def Touched (jvm : Jvm) (svtMethod : SVTExtendpolicy) (h : Heap) (s k : Key) : Prop :=
  TakesProperty jvm h s k svtMethod ∨
    (svtMethod = .REPLACE ∧ k ∈ getSvtSignaturePropertyElements h s)

/-- The changes lie in the objects of the signature, and in none of the tokens that are
left. -/
structure KeepsToObjects (jvm : Jvm) (svtMethod : SVTExtendpolicy) (h : Heap) (s : Key) :
    Prop where
  inObject : ∀ k, Touched jvm svtMethod h s k →
    ∃ o ∈ h.children s, o.content.hasName xmldsigNS "Object" = true ∧ o.key ∈ h.chain k
  outsideTokens : ∀ k, Touched jvm svtMethod h s k →
    ∀ a ∈ h.chain k, ¬ LeftToken jvm svtMethod h s a

section Places

variable (wf : WellFormed h)
include wf

theorem mem_tokenElements : k ∈ tokenElements h s ↔
    (h.contentOf k).hasName xmlSvtNS "SignatureValidationToken" = true ∧
      ∃ o ∈ h.chain k, s ∈ h.chain o ∧ (h.contentOf o).hasName xmldsigNS "Object" = true := by
  unfold tokenElements svtElements
  rw [List.mem_flatMap]
  constructor
  · rintro ⟨o, ho, hk⟩
    obtain ⟨n, hn, hsn, hname, rfl⟩ := mem_getElementsByTagNameNS.mp ho
    obtain ⟨m, hm, hnm, htoken, rfl⟩ := mem_getElementsByTagNameNS.mp hk
    rw [contentOf_of_mem wf hm, chain_of_mem wf hm]
    refine ⟨htoken, n.key, hnm, ?_, ?_⟩
    · rw [chain_of_mem wf hn]
      exact hsn
    · rw [contentOf_of_mem wf hn]
      exact hname
  · rintro ⟨htoken, o, hok, hso, hname⟩
    obtain ⟨m, hm, rfl, hchain⟩ := exists_of_mem_chain hok
    obtain ⟨n, hn, rfl, hchain'⟩ := exists_of_mem_chain hso
    rw [hchain] at hok
    rw [hchain'] at hso
    rw [contentOf_of_mem wf hm] at htoken
    rw [contentOf_of_mem wf hn] at hname
    exact ⟨n.key, mem_getElementsByTagNameNS.mpr ⟨n, hn, hso, hname, rfl⟩,
      mem_getElementsByTagNameNS.mpr ⟨m, hm, hok, htoken, rfl⟩⟩

theorem signature_mem_of_tokenElement (hk : k ∈ tokenElements h s) : s ∈ h.chain k := by
  obtain ⟨-, o, hok, hso, -⟩ := (mem_tokenElements wf).mp hk
  exact mem_chain_trans wf hok hso

/-- What is pruned has a property with a token at or below it. -/
theorem property_of_pruned (hpruned : Pruned jvm h k) :
    ∃ p, IsSvtProperty h p ∧ k ∈ p :: h.chain p := by
  induction hpruned with
  | @property k hproperty => exact ⟨k, hproperty, List.mem_cons_self⟩
  | @emptied k _ hne _ ih =>
      obtain ⟨c, hc⟩ := List.exists_mem_of_ne_nil _ hne
      obtain ⟨p, hproperty, hcp⟩ := ih c hc
      have hkc : k ∈ h.chain c.key := by
        rw [chain_child wf hc]
        exact List.mem_cons_self
      refine ⟨p, hproperty, List.mem_cons_of_mem _ ?_⟩
      rcases List.mem_cons.mp hcp with heq | hcp
      · rw [← heq]
        exact hkc
      · exact mem_chain_trans wf hcp hkc

/-- Around everything that goes there is a place that is touched. -/
theorem RemovedBy.touched (hremoved : RemovedBy jvm h s gone svtMethod) (hk : k ∈ gone) :
    ∃ p, Touched jvm svtMethod h s p ∧ k ∈ p :: h.chain p := by
  cases svtMethod with
  | EXTEND =>
      rw [show gone = [] from hremoved] at hk
      cases hk
  | REPLACE =>
      obtain ⟨hsk, hpruned⟩ := (hremoved.1 k).mp hk
      obtain ⟨p, hproperty, hkp⟩ := property_of_pruned wf hpruned
      refine ⟨p, .inr ⟨rfl, (mem_svtProperties wf).mpr ⟨?_, hproperty⟩⟩, hkp⟩
      rcases List.mem_cons.mp hkp with rfl | hkp
      · exact hsk
      · exact mem_chain_trans wf hkp hsk

/-- The new property hangs below the signature itself or a place that is touched. -/
theorem RemovedBy.anchor (hremoved : RemovedBy jvm h s gone svtMethod) :
    (existingTarget jvm (h.detachAll gone) s = none ∧
      anchor jvm (h.detachAll gone) s = s) ∨
    ∃ t, existingTarget jvm (h.detachAll gone) s = some t ∧
      anchor jvm (h.detachAll gone) s = t ∧ Touched jvm svtMethod h s t := by
  unfold XMLDocumentSVTIssuer.anchor
  cases ht : existingTarget jvm (h.detachAll gone) s with
  | none => exact .inl ⟨rfl, rfl⟩
  | some t =>
      refine .inr ⟨t, rfl, rfl, .inl ?_⟩
      cases svtMethod with
      | EXTEND =>
          rw [show gone = [] from hremoved, detachAll_nil] at ht
          exact ht
      | REPLACE =>
          exact (existingTarget_iff_firstLeft wf hremoved.1 (hremoved.alive wf)).mp ht

theorem signature_mem_of_touched (htouched : Touched jvm svtMethod h s k) : s ∈ h.chain k := by
  rcases htouched with htakes | ⟨-, hproperty⟩
  · cases svtMethod with
    | EXTEND => exact (existingTarget_spec wf htakes).1
    | REPLACE =>
        obtain ⟨l₁, l₂, hsplit, -⟩ := htakes
        refine mem_signatureProperties wf (?_ : k ∈ signatureProperties h s)
        rw [hsplit]
        exact List.mem_append_right _ List.mem_cons_self
  · exact ((mem_svtProperties wf).mp hproperty).1

/-- A child of the signature around an element in one of its objects is that object. -/
theorem child_around_touched (hkeeps : KeepsToObjects jvm svtMethod h s)
    (htouched : Touched jvm svtMethod h s k) (hn : n ∈ h.children s)
    (hnk : n.key ∈ k :: h.chain k) : n.content.hasName xmldsigNS "Object" = true := by
  obtain ⟨o, ho, hname, hok⟩ := hkeeps.inObject k htouched
  have hup : ∀ {a b : Node}, a ∈ h.children s → b ∈ h.children s → a.key ∉ h.chain b.key := by
    intro a b ha hb hmem
    rw [chain_child wf hb] at hmem
    have hsa : s ∈ h.chain a.key := by
      rw [chain_child wf ha]
      exact List.mem_cons_self
    exact not_mem_cons_chain wf hsa hmem
  have hkeys : o.key = n.key := by
    rcases List.mem_cons.mp hnk with rfl | hnk
    · exact absurd hok (hup ho hn)
    · rcases chain_comparable wf hok hnk with heq | hon | hno
      · exact heq
      · exact absurd hon (hup ho hn)
      · exact absurd hno (hup hn ho)
  rw [← eq_of_key_eq wf (mem_children.mp ho).1 (mem_children.mp hn).1 hkeys]
  exact hname

end Places

/-! ## What the turn leaves alone -/

/-- The signature element without its objects is the same in both documents. -/
structure SameCore (h h' : Heap) (s : Key) : Prop where
  chain : h'.chain s = h.chain s
  around : ∀ a ∈ s :: h.chain s, h'.contentOf a = h.contentOf a
  children : coreChildren h' s = coreChildren h s
  below : ∀ c ∈ coreChildren h s, h'.below c.key = h.below c.key

theorem SameCore.trans {h'' : Heap} (hab : SameCore h h' s) (hbc : SameCore h' h'' s) :
    SameCore h h'' s where
  chain := hbc.chain.trans hab.chain
  around := by
    intro a ha
    rw [← hab.around a ha]
    apply hbc.around a
    rw [hab.chain]
    exact ha
  children := hbc.children.trans hab.children
  below := by
    intro c hc
    rw [← hab.below c hc]
    apply hbc.below c
    rw [hab.children]
    exact hc

/-- With the same nodes below it the core of a signature is the same. -/
theorem sameCore_of_sameBelow (wf : WellFormed h) (wf' : WellFormed h')
    (hbelow : h'.below s = h.below s) (hchain : h'.chain s = h.chain s)
    (haround : ∀ a ∈ s :: h.chain s, h'.contentOf a = h.contentOf a) : SameCore h h' s where
  chain := hchain
  around := haround
  children := by
    unfold coreChildren
    rw [children_eq_filter_below, children_eq_filter_below, hbelow]
  below := by
    intro c hc
    have hsc : s ∈ h.chain c.key := by
      rw [chain_child wf (List.mem_filter.mp hc).1]
      exact List.mem_cons_self
    exact below_of_sameBelow wf wf' hbelow hsc

/-- A map that keeps what is selected does not show through a filter. -/
theorem filter_map_of_fixed {α : Type} {f : α → α} {r : α → Bool} {l : List α}
    (hkeeps : ∀ a ∈ l, r (f a) = r a) (hfix : ∀ a ∈ l, r a = true → f a = a) :
    (l.map f).filter r = l.filter r := by
  have hselected : l.filter (r ∘ f) = l.filter r := List.filter_congr hkeeps
  rw [List.filter_map, hselected]
  refine (List.map_congr_left fun a ha => ?_).trans (List.map_id _)
  obtain ⟨ha, hr⟩ := List.mem_filter.mp ha
  exact hfix a ha hr

theorem hasName_of_names {content : Content} {ns name : String}
    (hnamespace : content.namespaceURI = ns) (hname : content.localName = name) (hne : ns ≠ "") :
    content.hasName ns name = true := by
  cases content with
  | element ns' name' pre attributes =>
      rw [← hnamespace, ← hname]
      simp [Content.hasName, Content.namespaceURI, Content.localName]
  | document => exact absurd hnamespace.symm hne
  | text value => exact absurd hnamespace.symm hne
  | other data => exact absurd hnamespace.symm hne

theorem id_ne_empty (number : String) : "id_" ++ number ≠ "" := by
  intro hempty
  have hlength := congrArg String.length hempty
  rw [String.length_append] at hlength
  simp at hlength

theorem sigIdOf_ne_empty : sigIdOf rnd h s ≠ "" := by
  rw [sigIdOf_eq]
  split
  · exact id_ne_empty (rnd s)
  · assumption

section Turn

variable (wf : WellFormed h) (hturn : Turn jvm rnd svtMethod h h' s token gone p)
include wf hturn

/-- Away from the places that are touched the same is below an element. -/
theorem Turn.below_of_untouched (hsq : s ∈ h.chain q) (halive : Alive h gone q)
    (hnot : ∀ k, Touched jvm svtMethod h s k → q ∉ k :: h.chain k) : h'.below q = h.below q := by
  have hout : q ∉ s :: h.chain s := not_mem_cons_chain wf hsq
  have hanchor : q ∉ anchor jvm (h.detachAll gone) s ::
      (h.detachAll gone).chain (anchor jvm (h.detachAll gone) s) := by
    have hup : ∀ t, q ∉ t :: h.chain t → q ∉ t :: (h.detachAll gone).chain t := by
      intro t ht hq
      rcases List.mem_cons.mp hq with rfl | hq
      · exact ht List.mem_cons_self
      · exact ht (List.mem_cons_of_mem _ (mem_chain_detachAll_of hq))
    rcases hturn.removed.anchor wf with ⟨-, heq⟩ | ⟨t, -, heq, htouched⟩
    · rw [heq]
      exact hup s hout
    · rw [heq]
      exact hup t (hnot t htouched)
  have hold : q < h.nextKey := by
    obtain ⟨n, hn, rfl, -⟩ := exists_of_mem_chain hsq
    exact wf.fresh n hn
  rw [hturn.placed.below q hanchor hold, below_detachAll wf halive]
  refine List.filter_eq_self.mpr fun m hm => decide_eq_true ?_
  obtain ⟨hm, hqm⟩ := mem_below.mp hm
  rw [← chain_of_mem wf hm] at hqm
  intro b hb hbgone
  obtain ⟨k, htouched, hbk⟩ := hturn.removed.touched wf hbgone
  -- a removed node above `q` would take `q` with it, and one below it is a place that is touched
  have hqb : q ∉ h.chain b := by
    intro hqb
    refine hnot k htouched (List.mem_cons_of_mem _ ?_)
    rcases List.mem_cons.mp hbk with rfl | hbk
    · exact hqb
    · exact mem_chain_trans wf hbk hqb
  rcases List.mem_cons.mp hb with rfl | hb
  · exact hqb hqm
  · rcases chain_comparable wf hb hqm with rfl | hbq | hqb'
    · exact halive b List.mem_cons_self hbgone
    · exact halive b (List.mem_cons_of_mem _ hbq) hbgone
    · exact hqb hqb'

/-- With an identifier on the signature every old node keeps its content. -/
theorem Turn.contentOf_of_identified (hid : (h.contentOf s).getAttribute "Id" ≠ "")
    (hn : n ∈ h.nodes) : h'.contentOf n.key = h.contentOf n.key := by
  have hn' := hturn.old hn
  rw [withId_of_identified (by rw [contentOf_detachAll]; exact hid)] at hn'
  have hcontent := contentOf_of_mem hturn.placed.wf hn'
  rw [contentOf_of_mem wf hn]
  exact hcontent

omit wf in
theorem Turn.isSignature (hs' : IsSignature h s') : IsSignature h' s' := by
  obtain ⟨n, hn, hkey, hname⟩ := hs'
  refine ⟨_, hturn.old hn, ?_, ?_⟩
  · rw [key_withId]
    exact hkey
  · rw [hasName_withId]
    exact hname

/-- The signature has an identifier after its turn. -/
theorem Turn.identifies (hs : IsSignature h s) : (h'.contentOf s).getAttribute "Id" ≠ "" := by
  obtain ⟨n, hn, hkey, hname⟩ := hs
  have hkey' : (detachNode gone n).key = s := hkey
  have hcontent := contentOf_of_mem hturn.placed.wf (hturn.old hn)
  rw [key_withId, hkey'] at hcontent
  rw [hcontent, getAttribute_withId (wellFormed_detachAll wf) (List.mem_map_of_mem hn) hkey'
    (Content.isElement_of_hasName hname)]
  exact sigIdOf_ne_empty

/-- An identifier that is there stays. -/
theorem Turn.keeps_identifier (hs : IsSignature h s) (hs' : IsSignature h s')
    (hid : (h.contentOf s').getAttribute "Id" ≠ "") :
    (h'.contentOf s').getAttribute "Id" ≠ "" := by
  by_cases heq : s' = s
  · rw [heq]
    exact hturn.identifies wf hs
  · obtain ⟨n, hn, rfl, -⟩ := hs'
    rw [hturn.contentOf_of_ne wf hn heq]
    exact hid

/-- **What a selection finds after the turn.** Nothing that is added is selected, and
nothing that is selected is removed. -/
theorem Turn.filter_nodes {r : Node → Bool}
    (hnew : ∀ n ∈ h'.nodes, h.nextKey ≤ n.key → r n = false)
    (hnames : ∀ n, r (withId rnd (h.detachAll gone) s n) = r n)
    (hback : ∀ n ∈ h.nodes, r (detachNode gone n) = true → r n = true)
    (halive : ∀ n ∈ h.nodes, r n = true → Alive h gone n.key) :
    h'.nodes.filter r = (h.nodes.filter r).map (withId rnd (h.detachAll gone) s) := by
  have hold : h'.nodes.filter r = (oldNodes (h.detachAll gone) h').filter r := by
    unfold oldNodes
    rw [List.filter_filter]
    apply List.filter_congr
    intro n hn
    by_cases hlt : n.key < h.nextKey
    · simp [hlt]
    · simp [hnew n hn (Nat.not_lt.mp hlt)]
  have hnames' : r ∘ withId rnd (h.detachAll gone) s = r := funext hnames
  have hfixed : ∀ n ∈ h.nodes, r n = true → detachNode gone n = n :=
    fun n hn hrn => detachAll_of_alive wf hn (halive n hn hrn)
  rw [hold, hturn.placed.order, List.filter_map, hnames', nodes_detachAll]
  refine congrArg _ (filter_map_of_fixed ?_ hfixed)
  intro n hn
  cases hrn : r n with
  | true => rw [hfixed n hn hrn, hrn]
  | false => exact Bool.eq_false_iff.mpr fun hd => Bool.eq_false_iff.mp hrn (hback n hn hd)

omit wf hturn in
theorem mem_ancestors_detachNode (hk : k ∈ (detachNode gone n).ancestors) : k ∈ n.ancestors := by
  unfold detachNode at hk
  split at hk
  · cases hk
  · exact mem_of_mem_cut hk

omit wf hturn in
/-- A child after the removal was one before it. -/
theorem head?_detachNode (hk : (detachNode gone n).ancestors.head? = some k) :
    n.ancestors.head? = some k := by
  unfold detachNode at hk
  split at hk
  · cases hk
  · rw [head?_cut] at hk
    exact hk

/-- What hangs on the document itself stays there. -/
theorem Turn.children_document (hne : s ≠ documentKey) (hs : s < h.nextKey) :
    h'.children documentKey =
      (h.children documentKey).map (withId rnd (h.detachAll gone) s) := by
  have hroot : ∀ {h₀ : Heap} {n : Node}, WellFormed h₀ → n ∈ h₀.nodes →
      n.ancestors.head? = some documentKey → n.ancestors = [documentKey] := by
    intro h₀ n wf₀ hn hparent
    have hchain := chain_child wf₀ (mem_children.mpr ⟨hn, hparent⟩)
    rw [chain_of_mem wf₀ hn, show h₀.chain documentKey = [] from chain_of_mem wf₀ wf₀.root]
      at hchain
    exact hchain
  unfold children
  refine hturn.filter_nodes wf ?_ ?_ ?_ ?_
  · intro n hn hnew
    rw [beq_eq_false_iff_ne]
    intro hparent
    rcases hturn.placed.new n hn with ⟨m, hm, rfl⟩ | hadded
    · rw [key_withId] at hnew
      exact absurd ((wellFormed_detachAll wf).fresh m hm) (Nat.not_lt.mpr hnew)
    · have hsn := (hadded.ancestors s hs).mpr (signature_mem_anchor (wellFormed_detachAll wf))
      rw [hroot hturn.placed.wf hn hparent] at hsn
      exact hne (List.mem_singleton.mp hsn)
  · intro n
    rw [ancestors_withId]
  · intro n _ hparent
    rw [beq_iff_eq] at hparent ⊢
    exact head?_detachNode hparent
  · intro n hn hparent b hb hgone
    have hancestors := hroot wf hn (beq_iff_eq.mp hparent)
    have hsb := hturn.removed.below hgone
    rw [chain_of_mem wf hn, hancestors] at hb
    rcases List.mem_cons.mp hb with rfl | hb
    · rw [chain_of_mem wf hn, hancestors] at hsb
      exact hne (List.mem_singleton.mp hsb)
    · rw [List.mem_singleton.mp hb, show h.chain documentKey = [] from chain_of_mem wf wf.root]
        at hsb
      cases hsb

/-- What is added to the signature element itself is an object. -/
theorem Turn.newChild (hs : ∃ m ∈ h.nodes, m.key = s) (hn : n ∈ h'.nodes)
    (hnew : h.nextKey ≤ n.key) (hparent : n.ancestors.head? = some s) :
    n.content.hasName xmldsigNS "Object" = true := by
  have wf₁ : WellFormed (h.detachAll gone) := wellFormed_detachAll wf
  obtain ⟨m, hm, hmkey⟩ := hs
  have hsold : s < h.nextKey := hmkey ▸ wf.fresh m hm
  have hchild : n ∈ h'.children s := mem_children.mpr ⟨hn, hparent⟩
  have hchain : h'.chain s = h.chain s := by
    rw [← hmkey]
    apply hturn.chain_of_alive wf hm
    rw [hmkey]
    exact hturn.removed.alive wf
  rcases hturn.placed.new n hn with ⟨m', hm', rfl⟩ | hadded
  · rw [key_withId] at hnew
    exact absurd (wf₁.fresh m' hm') (Nat.not_lt.mpr hnew)
  · obtain ⟨top, htop, htopkey, htopchain, hnamespace, hlocal⟩ := hturn.placed.top
    have hkey : n.key = top.key := by
      rw [htopkey]
      rcases List.mem_cons.mp hadded.top with heq | hmem
      · exact heq.symm
      · -- the chain of an old element has no new one in it
        rw [← chain_of_mem hturn.placed.wf hn, chain_child hturn.placed.wf hchild, hchain] at hmem
        rcases List.mem_cons.mp hmem with heq | hmem
        · exact absurd hsold (by rw [← heq]; exact Nat.lt_irrefl _)
        · exact absurd (Filled.chain_lt wf hmem) (Nat.lt_irrefl _)
    have heq := eq_of_key_eq hturn.placed.wf hn htop hkey
    rw [heq, htopchain] at hparent
    have hself : anchor jvm (h.detachAll gone) s = s := Option.some.inj hparent
    have hnone : existingTarget jvm (h.detachAll gone) s = none := by
      rcases hturn.removed.anchor wf with ⟨hnone, -⟩ | ⟨t, -, ht, htouched⟩
      · exact hnone
      · rw [← hself, ht] at htouched
        exact absurd (signature_mem_of_touched wf htouched)
          (by rw [← ht, hself]; exact not_mem_chain_self wf)
    rw [topName, hnone] at hlocal
    rw [heq]
    exact hasName_of_names hnamespace hlocal (by decide)

section Core

variable (hkeeps : KeepsToObjects jvm svtMethod h s)
include hkeeps

/-- The children beside the objects are neither removed nor around a change. -/
theorem Turn.coreChild (hn : n ∈ coreChildren h s) :
    Alive h gone n.key ∧ ∀ k, Touched jvm svtMethod h s k → n.key ∉ k :: h.chain k := by
  obtain ⟨hn, hname⟩ := List.mem_filter.mp hn
  have hnot : ∀ k, Touched jvm svtMethod h s k → n.key ∉ k :: h.chain k := by
    intro k htouched hnk
    rw [child_around_touched wf hkeeps htouched hn hnk] at hname
    cases hname
  refine ⟨?_, hnot⟩
  intro b hb hbgone
  rw [chain_child wf hn] at hb
  rcases List.mem_cons.mp hb with rfl | hb
  · obtain ⟨k, htouched, hnk⟩ := hturn.removed.touched wf hbgone
    exact hnot k htouched hnk
  · exact not_mem_cons_chain wf (hturn.removed.below hbgone) hb

theorem Turn.coreChildren_eq (hs : ∃ m ∈ h.nodes, m.key = s) :
    coreChildren h' s = coreChildren h s := by
  unfold coreChildren children
  rw [List.filter_filter, List.filter_filter]
  generalize hr : (fun n : Node => (!n.content.hasName xmldsigNS "Object") &&
    (n.ancestors.head? == some s)) = r
  have hmem : ∀ {n : Node}, r n = true ↔
      n.content.hasName xmldsigNS "Object" = false ∧ n.ancestors.head? = some s := by
    intro n
    rw [← hr]
    simp
  rw [hturn.filter_nodes wf]
  · refine (List.map_congr_left fun n hn => ?_).trans (List.map_id _)
    obtain ⟨hn, hrn⟩ := List.mem_filter.mp hn
    apply withId_of_ne
    rintro rfl
    have hself := chain_child wf (mem_children.mpr ⟨hn, (hmem.mp hrn).2⟩)
    exact not_mem_chain_self wf (hself ▸ List.mem_cons_self)
  · -- the new nodes among the children are objects
    intro n hn hnew
    rw [Bool.eq_false_iff]
    intro hrn
    obtain ⟨hname, hparent⟩ := hmem.mp hrn
    rw [hturn.newChild wf hs hn hnew hparent] at hname
    cases hname
  · intro n
    rw [← hr]
    simp only [ancestors_withId, hasName_withId]
  · intro n _ hrn
    obtain ⟨hname, hparent⟩ := hmem.mp hrn
    exact hmem.mpr ⟨hname, head?_detachNode hparent⟩
  · intro n hn hrn
    obtain ⟨hname, hparent⟩ := hmem.mp hrn
    refine (hturn.coreChild wf hkeeps ?_).1
    exact List.mem_filter.mpr ⟨mem_children.mpr ⟨hn, hparent⟩, by rw [hname]; rfl⟩

/-- **The core of the signature.** -/
theorem Turn.sameCore (hs : ∃ m ∈ h.nodes, m.key = s)
    (hid : (h.contentOf s).getAttribute "Id" ≠ "") : SameCore h h' s where
  chain := by
    obtain ⟨m, hm, rfl⟩ := hs
    exact hturn.chain_of_alive wf hm (hturn.removed.alive wf)
  around := by
    intro a ha
    have hnode : ∃ n ∈ h.nodes, n.key = a := by
      obtain ⟨m, hm, rfl⟩ := hs
      rcases List.mem_cons.mp ha with rfl | ha
      · exact ⟨m, hm, rfl⟩
      · rw [chain_of_mem wf hm] at ha
        exact exists_node_of_mem_ancestors wf hm ha
    obtain ⟨n, hn, rfl⟩ := hnode
    exact hturn.contentOf_of_identified wf hid hn
  children := hturn.coreChildren_eq wf hkeeps hs
  below := by
    intro c hc
    obtain ⟨halive, hnot⟩ := hturn.coreChild wf hkeeps hc
    refine hturn.below_of_untouched wf ?_ halive hnot
    rw [chain_child wf (List.mem_filter.mp hc).1]
    exact List.mem_cons_self

/-! ## What the turn adds to the tokens -/

/-- The text of a token that is left. -/
theorem Turn.textContent (hleft : LeftToken jvm svtMethod h s k) (halive : Alive h gone k) :
    h'.getTextContent k = h.getTextContent k := by
  unfold getTextContent
  rw [hturn.below_of_untouched wf (signature_mem_of_tokenElement wf hleft.1) halive]
  intro t htouched hkt
  rcases List.mem_cons.mp hkt with rfl | hkt
  · -- a token has neither of the names of the places that are touched
    have htoken := Content.localName_of_hasName ((mem_tokenElements wf).mp hleft.1).1
    rcases htouched with htakes | ⟨-, hproperty⟩
    · have hlength : (h.contentOf k).localName.toList.length =
          "SignatureProperties".toList.length := by
        cases svtMethod with
        | EXTEND => exact equalsIgnoreCase_length (existingTarget_spec wf htakes).2
        | REPLACE =>
            obtain ⟨l₁, l₂, hsplit, -⟩ := htakes
            have hmem : k ∈ signatureProperties h s := by
              rw [hsplit]
              exact List.mem_append_right _ List.mem_cons_self
            obtain ⟨n, hn, -, hname, rfl⟩ := mem_getElementsByTagNameNS.mp hmem
            rw [contentOf_of_mem wf hn, Content.localName_of_hasName hname]
      rw [htoken] at hlength
      exact absurd hlength (by decide)
    · have hname := ((mem_svtProperties wf).mp hproperty).2.1
      rw [Content.localName_of_hasName hname] at htoken
      exact absurd htoken (by decide)
  · exact hkeeps.outsideTokens t htouched k hkt hleft

/-- The new token is found. -/
theorem Turn.token_mem : token ∈ signatureSvaTokens h' s := by
  have wf' := hturn.placed.wf
  have wf₁ : WellFormed (h.detachAll gone) := wellFormed_detachAll wf
  obtain ⟨k, hk, htext⟩ := hturn.placed.holdsToken.token
  have hkmem : k ∈ svtElements h' p := by
    rw [hk]
    exact List.mem_singleton_self k
  obtain ⟨m, hm, hpm, hname, rfl⟩ := mem_getElementsByTagNameNS.mp hkmem
  obtain ⟨n, hn, rfl, hancestors, hproperty, -⟩ := hturn.placed.node
  -- around the property there is an object of the signature, an old one or the new one
  have hobject : ∃ o ∈ h'.chain n.key, s ∈ h'.chain o ∧
      (h'.contentOf o).hasName xmldsigNS "Object" = true := by
    rw [chain_of_mem wf' hn]
    rcases hturn.removed.anchor wf with ⟨hnone, heq⟩ | ⟨t, ht, heq, htouched⟩
    · obtain ⟨top, htop, htopkey, htopchain, hnamespace, hlocal⟩ := hturn.placed.top
      have hlocal' : top.content.localName = "Object" := by
        rw [hlocal, topName, hnone]
        rfl
      have htopname : top.content.hasName xmldsigNS "Object" = true :=
        hasName_of_names hnamespace hlocal' (by decide)
      refine ⟨top.key, ?_, ?_, ?_⟩
      · rcases hturn.placed.new n hn with ⟨m', hm', hm'eq⟩ | hadded
        · have hfresh := hturn.placed.fresh
          rw [hm'eq, key_withId] at hfresh
          exact absurd (wf₁.fresh m' hm') (Nat.not_lt.mpr hfresh)
        · rw [htopkey]
          rcases List.mem_cons.mp hadded.top with hkey | hmem
          · have hsame := eq_of_key_eq wf' htop hn (htopkey.trans hkey)
            rw [hsame, Content.localName_of_hasName hproperty] at hlocal'
            exact absurd hlocal' (by decide)
          · exact hmem
      · rw [chain_of_mem wf' htop, htopchain, heq]
        exact List.mem_cons_self
      · rw [contentOf_of_mem wf' htop]
        exact htopname
    · obtain ⟨o, ho, honame, hot⟩ := hkeeps.inObject t htouched
      have hst : s ∈ (h.detachAll gone).chain t := (existingTarget_spec wf₁ ht).1
      have halive : Alive h gone t :=
        ((mem_chain_detachAll_iff wf (hturn.removed.alive wf)).mp hst).2
      have hoalive : Alive h gone o.key := by
        intro b hb
        refine halive b (List.mem_cons_of_mem _ ?_)
        rcases List.mem_cons.mp hb with rfl | hb
        · exact hot
        · exact mem_chain_trans wf hot hb
      have honode := (mem_children.mp ho).1
      refine ⟨o.key, ?_, ?_, ?_⟩
      · rw [hancestors o.key (wf.fresh o honode), heq]
        exact List.mem_cons_of_mem _ ((mem_chain_detachAll_iff wf hoalive).mpr ⟨hot, halive⟩)
      · rw [hturn.chain_of_alive wf honode hoalive, chain_child wf ho]
        exact List.mem_cons_self
      · rw [hturn.hasName wf honode, contentOf_of_mem wf honode]
        exact honame
  obtain ⟨o, hop, hso, honame⟩ := hobject
  refine List.mem_map.mpr ⟨m.key, (mem_tokenElements wf').mpr ⟨?_, o, ?_, hso, honame⟩, htext⟩
  · rw [contentOf_of_mem wf' hm]
    exact hname
  · refine mem_chain_trans wf' ?_ hop
    rw [chain_of_mem wf' hm]
    exact hpm

/-- **The tokens after a turn.** What is found is the new token or was left. -/
theorem Turn.tokens {text : String}
    (htext : text ∈ signatureSvaTokens h' s) :
    text = token ∨ ∃ k, LeftToken jvm svtMethod h s k ∧ h.getTextContent k = text := by
  have wf' := hturn.placed.wf
  obtain ⟨k, hk, rfl⟩ := List.mem_map.mp htext
  obtain ⟨htoken, o, hok, hso, honame⟩ := (mem_tokenElements wf').mp hk
  have hsk : s ∈ h'.chain k := mem_chain_trans wf' hok hso
  obtain ⟨n, hn, rfl, hchain⟩ := exists_of_mem_chain hok
  rw [contentOf_of_mem wf' hn] at htoken
  rcases hturn.placed.new n hn with ⟨m', hm', heq⟩ | hadded
  · right
    obtain ⟨m, hm, rfl⟩ := List.mem_map.mp hm'
    have hkey : n.key = m.key := by rw [heq, key_withId, key_detachNode]
    have hancestors : n.ancestors = (detachNode gone m).ancestors := by rw [heq, ancestors_withId]
    have hup : ∀ a ∈ h'.chain n.key, a ∈ (h.detachAll gone).chain m.key := by
      intro a ha
      rw [chain_detachAll, chain_of_mem wf hm]
      rw [chain_of_mem wf' hn, hancestors] at ha
      exact ha
    obtain ⟨hsm, halive⟩ :=
      (mem_chain_detachAll_iff wf (hturn.removed.alive wf)).mp (hup s hsk)
    have hom := mem_chain_detachAll_of (hup o hok)
    obtain ⟨o', ho', rfl⟩ : ∃ o' ∈ h.nodes, o'.key = o := by
      rw [chain_of_mem wf hm] at hom
      exact exists_node_of_mem_ancestors wf hm hom
    have hoalive : Alive h gone o'.key := by
      intro b hb
      refine halive b (List.mem_cons_of_mem _ ?_)
      rcases List.mem_cons.mp hb with rfl | hb
      · exact hom
      · exact mem_chain_trans wf hom hb
    have hleft : LeftToken jvm svtMethod h s m.key := by
      refine ⟨(mem_tokenElements wf).mpr ⟨?_, o'.key, hom, ?_, ?_⟩, ?_⟩
      · rw [heq, hasName_withId] at htoken
        rw [contentOf_of_mem wf hm]
        exact htoken
      · rw [hturn.chain_of_alive wf ho' hoalive] at hso
        exact hso
      · rw [← hturn.hasName wf ho']
        exact honame
      · rintro rfl
        exact (alive_iff_survives hturn.removed.1).mp halive
    refine ⟨m.key, hleft, ?_⟩
    rw [hkey]
    exact (hturn.textContent wf hkeeps hleft halive).symm
  · left
    obtain ⟨k', hk', htext'⟩ := hturn.placed.holdsToken.token
    have hmem : n.key ∈ svtElements h' p :=
      mem_getElementsByTagNameNS.mpr ⟨n, hn, hadded.token htoken, htoken, rfl⟩
    rw [hk'] at hmem
    rw [List.mem_singleton.mp hmem]
    exact htext'

end Core

end Turn

end SigVal.Xml.XMLDocumentSVTIssuer
