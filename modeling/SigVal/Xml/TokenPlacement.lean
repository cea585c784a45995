import SigVal.Xml.SvtExtension

/-!
# Where a token is put

The part of a turn that adds: the target is found or made, a property for the signature is
put below it, and the token into the property. The property hangs below an element of the
signature that was there before, the anchor, and nothing changes anywhere else.
-/

namespace SigVal.Xml.XMLDocumentSVTIssuer

open SigVal.Java SigVal.LinkedDom Heap
open Svt.XMLSVTValidator (xmldsigNS xmlSvtNS)

variable {jvm : Jvm} {rnd : Key → String} {h : Heap} {s t x : Key} {n m : Node} {token : String}

/-! ## Filling the target -/

/-- The identifier of the signature once it has one. -/
def sigIdOf (rnd : Key → String) (h : Heap) (s : Key) : String := (ensureId rnd h s).1

theorem sigIdOf_eq : sigIdOf rnd h s =
    if (h.contentOf s).getAttribute "Id" = "" then "id_" ++ rnd s
    else (h.contentOf s).getAttribute "Id" := by
  unfold sigIdOf ensureId
  dsimp only
  split
  · rfl
  · rfl

/-- A node once the signature has an identifier. -/
def withId (rnd : Key → String) (h : Heap) (s : Key) (n : Node) : Node :=
  if (h.contentOf s).getAttribute "Id" = "" then
    setNodeAttribute s "Id" ("id_" ++ rnd s) n
  else n

def propertyNode (rnd : Key → String) (h : Heap) (s t : Key) : Node where
  key := h.nextKey
  ancestors := t :: h.chain t
  content := .element xmldsigNS "SignatureProperty" (h.contentOf s).getPrefix
    [("Target", "#" ++ sigIdOf rnd h s)]

def tokenNode (h : Heap) (t : Key) : Node where
  key := h.nextKey + 1
  ancestors := h.nextKey :: t :: h.chain t
  content := .element xmlSvtNS "SignatureValidationToken" "svt" []

def textNode (h : Heap) (t : Key) (token : String) : Node where
  key := h.nextKey + 2
  ancestors := (h.nextKey + 1) :: h.nextKey :: t :: h.chain t
  content := .text token

theorem withId_of_ne (hne : n.key ≠ s) : withId rnd h s n = n := by
  unfold withId
  split
  · exact setNodeAttribute_of_ne hne
  · rfl

theorem withId_of_identified (hid : (h.contentOf s).getAttribute "Id" ≠ "") :
    withId rnd h s = id := by
  ext n
  exact if_neg hid

@[simp] theorem key_withId (n : Node) : (withId rnd h s n).key = n.key := by
  unfold withId
  split
  · exact key_setNodeAttribute n
  · rfl

@[simp] theorem ancestors_withId (n : Node) : (withId rnd h s n).ancestors = n.ancestors := by
  unfold withId
  split
  · exact ancestors_setNodeAttribute n
  · rfl

theorem hasName_withId (n : Node) (ns name : String) :
    (withId rnd h s n).content.hasName ns name = n.content.hasName ns name := by
  unfold withId setNodeAttribute
  split
  · split
    · exact Content.hasName_setAttribute _ _ _ _ _
    · rfl
  · rfl

/-- The signature has the identifier the property names. -/
theorem getAttribute_withId (wf : WellFormed h) (hn : n ∈ h.nodes) (hkey : n.key = s)
    (helement : n.content.isElement = true) :
    (withId rnd h s n).content.getAttribute "Id" = sigIdOf rnd h s := by
  have hcontent : h.contentOf s = n.content := by
    rw [← hkey]
    exact contentOf_of_mem wf hn
  rw [sigIdOf_eq]
  unfold withId setNodeAttribute
  rw [hcontent]
  by_cases hid : n.content.getAttribute "Id" = ""
  · rw [if_pos hid, if_pos hid, if_pos hkey]
    exact Content.getAttribute_setAttribute_self helement _ _
  · rw [if_neg hid, if_neg hid]

/-- The old nodes, in their order. -/
def oldNodes (h h' : Heap) : List Node := h'.nodes.filter fun n => decide (n.key < h.nextKey)

theorem oldNodes_self (wf : WellFormed h) : oldNodes h h = h.nodes :=
  List.filter_eq_self.mpr fun n hn => decide_eq_true (wf.fresh n hn)

theorem oldNodes_map {f : Node → Node} {l : List Node} {k : Key} (hkey : ∀ n, (f n).key = n.key) :
    (l.map f).filter (fun n => decide (n.key < k)) =
      (l.filter fun n => decide (n.key < k)).map f := by
  rw [List.filter_map]
  refine congrArg _ (List.filter_congr fun n _ => ?_)
  rw [Function.comp_apply, hkey]

section Fill

variable (wf : WellFormed h) (ht : ∃ m ∈ h.nodes, m.key = t)
  (hs : ∃ m ∈ h.nodes, m.key = s ∧ m.content.isElement = true)
include wf hs

theorem signature_ne_document : s ≠ documentKey := by
  rintro rfl
  obtain ⟨m, hm, hkey, helement⟩ := hs
  have hroot := eq_of_key_eq wf hm wf.root hkey
  rw [hroot] at helement
  cases helement

theorem signature_ne_new : s ≠ h.nextKey := by
  rintro rfl
  obtain ⟨m, hm, hkey, _⟩ := hs
  exact Nat.lt_irrefl _ (hkey ▸ wf.fresh m hm)

include ht

/-- The document with the property, before anything is put into it. -/
theorem ensureId_appendChild (rnd : Key → String) (content : Content) :
    let h₁ := h.appendChild t content
    WellFormed (ensureId rnd h₁ s).2 ∧ (ensureId rnd h₁ s).1 = sigIdOf rnd h s ∧
      (ensureId rnd h₁ s).2.nextKey = h.nextKey + 1 ∧
      (ensureId rnd h₁ s).2.nodes = h₁.nodes.map (withId rnd h s) ∧
      (∀ x, (ensureId rnd h₁ s).2.chain x = h₁.chain x) ∧
      ∀ x, x ∉ h.chain s → (ensureId rnd h₁ s).2.below x = h₁.below x := by
  intro h₁
  have wf₁ : WellFormed h₁ := wellFormed_appendChild wf ht
  have hold : ∃ m ∈ h.nodes, m.key = s := hs.imp fun m hm => ⟨hm.1, hm.2.1⟩
  have hcontent : h₁.contentOf s = h.contentOf s := contentOf_appendChild_of_ne wf ht hold
  have hchain : h₁.chain s = h.chain s := by
    obtain ⟨m, hm, rfl⟩ := hold
    exact chain_appendChild_of_mem wf ht hm
  unfold sigIdOf ensureId
  rw [hcontent]
  dsimp only
  by_cases hid : (h.contentOf s).getAttribute "Id" = ""
  · simp only [hid, if_true]
    refine ⟨wellFormed_setAttribute wf₁ (signature_ne_document wf hs), trivial, rfl, ?_,
      fun _ => chain_setAttribute, fun x hx => below_setAttribute (hchain ▸ hx) wf₁⟩
    rw [nodes_setAttribute]
    apply List.map_congr_left
    intro n _
    rw [withId, if_pos hid]
  · simp only [hid, if_false]
    refine ⟨wf₁, trivial, rfl, ?_, fun _ => trivial, fun _ _ => trivial⟩
    rw [withId_of_identified hid, List.map_id]

/-- The document with the property and its `Target`. -/
theorem exists_withProperty (rnd : Key → String) (token : String) :
    ∃ h₂ : Heap, fillTarget rnd s token t h =
        (h₂.appendChild h.nextKey
          (.element xmlSvtNS "SignatureValidationToken" "svt" [])).setTextContent
          (h.nextKey + 1) token ∧
      WellFormed h₂ ∧ h₂.nextKey = h.nextKey + 1 ∧
      (∀ n, n ∈ h₂.nodes ↔ n = propertyNode rnd h s t ∨ ∃ m ∈ h.nodes, n = withId rnd h s m) ∧
      oldNodes h h₂ = h.nodes.map (withId rnd h s) ∧
      ∀ x, x ∉ t :: h.chain t → x ∉ h.chain s → h₂.below x = h.below x := by
  obtain ⟨wf₁, hid, hnext, hnodes, hchain, hbelow⟩ :=
    ensureId_appendChild wf ht hs rnd (dsContent h s "SignatureProperty")
  have hsnew := signature_ne_new wf hs
  have hnew : h.nextKey ≠ documentKey := by
    intro heq
    exact Nat.lt_irrefl _ (heq ▸ wf.fresh _ wf.root : h.nextKey < h.nextKey)
  refine ⟨(ensureId rnd (h.appendChild t (dsContent h s "SignatureProperty")) s).2.setAttribute
    h.nextKey "Target" ("#" ++ sigIdOf rnd h s), ?_, wellFormed_setAttribute wf₁ hnew, hnext, ?_,
    ?_, ?_⟩
  · rw [← hid, ← hnext]
    rfl
  · intro n
    rw [nodes_setAttribute, hnodes, List.map_map, List.mem_map]
    constructor
    · rintro ⟨m, hm, rfl⟩
      rcases mem_nodes_appendChild.mp hm with rfl | hm
      · left
        have hkey : (h.newChild t (dsContent h s "SignatureProperty")).key ≠ s := Ne.symm hsnew
        rw [Function.comp_apply, withId_of_ne hkey]
        exact if_pos rfl
      · right
        refine ⟨m, hm, ?_⟩
        rw [Function.comp_apply]
        apply setNodeAttribute_of_ne
        rw [key_withId]
        exact Nat.ne_of_lt (wf.fresh m hm)
    · rintro (rfl | ⟨m, hm, rfl⟩)
      · refine ⟨h.newChild t (dsContent h s "SignatureProperty"),
          mem_nodes_appendChild.mpr (.inl rfl), ?_⟩
        have hkey : (h.newChild t (dsContent h s "SignatureProperty")).key ≠ s := Ne.symm hsnew
        rw [Function.comp_apply, withId_of_ne hkey]
        exact if_pos rfl
      · refine ⟨m, mem_nodes_appendChild.mpr (.inr hm), ?_⟩
        rw [Function.comp_apply]
        apply setNodeAttribute_of_ne
        rw [key_withId]
        exact Nat.ne_of_lt (wf.fresh m hm)
  · unfold oldNodes
    rw [nodes_setAttribute, hnodes, oldNodes_map fun n => key_setNodeAttribute n,
      oldNodes_map fun n => key_withId n, filter_appendChild (Nat.le_refl _)]
    rw [show h.nodes.filter _ = h.nodes from oldNodes_self wf, List.map_map]
    apply List.map_congr_left
    intro n hn
    apply setNodeAttribute_of_ne
    rw [key_withId]
    exact Nat.ne_of_lt (wf.fresh n hn)
  · intro x hxt hxs
    rw [below_setAttribute _ wf₁, hbelow x hxs, below_appendChild hxt]
    rw [hchain, chain_appendChild_new wf ht]
    exact hxt

end Fill

/-- The nodes after the target was filled. -/
structure Filled (rnd : Key → String) (h h' : Heap) (s t : Key) (token : String) : Prop where
  wf : WellFormed h'
  nextKey : h.nextKey ≤ h'.nextKey
  mem : ∀ n, n ∈ h'.nodes ↔ (token ≠ "" ∧ n = textNode h t token) ∨ n = tokenNode h t ∨
    n = propertyNode rnd h s t ∨ ∃ m ∈ h.nodes, n = withId rnd h s m
  order : oldNodes h h' = h.nodes.map (withId rnd h s)
  below : ∀ x, x ∉ t :: h.chain t → x ∉ h.chain s → x < h.nextKey → h'.below x = h.below x

theorem filled_fillTarget (wf : WellFormed h) (ht : ∃ m ∈ h.nodes, m.key = t)
    (hs : ∃ m ∈ h.nodes, m.key = s ∧ m.content.isElement = true) (token : String) :
    Filled rnd h (fillTarget rnd s token t h) s t token := by
  obtain ⟨h₂, heq, wf₂, hnext, hmem, horder, hbelow⟩ := exists_withProperty wf ht hs rnd token
  have hproperty : propertyNode rnd h s t ∈ h₂.nodes := (hmem _).mpr (.inl rfl)
  have hchain₂ : h₂.chain h.nextKey = t :: h.chain t := chain_of_mem wf₂ hproperty
  -- the token element
  have hp₂ : ∃ m ∈ h₂.nodes, m.key = h.nextKey := ⟨_, hproperty, rfl⟩
  generalize hcontent : Content.element xmlSvtNS "SignatureValidationToken" "svt" [] = content
    at heq
  have wf₃ : WellFormed (h₂.appendChild h.nextKey content) := wellFormed_appendChild wf₂ hp₂
  have hnew₃ : h₂.newChild h.nextKey content = tokenNode h t := by
    rw [newChild, hnext, hchain₂, ← hcontent]
    rfl
  have htoken : tokenNode h t ∈ (h₂.appendChild h.nextKey content).nodes :=
    mem_nodes_appendChild.mpr (.inl hnew₃.symm)
  have hmem₃ : ∀ n, n ∈ (h₂.appendChild h.nextKey content).nodes ↔ n = tokenNode h t ∨
      n = propertyNode rnd h s t ∨ ∃ m ∈ h.nodes, n = withId rnd h s m := by
    intro n
    rw [mem_nodes_appendChild, hnew₃, hmem]
  have hchain₃ : (h₂.appendChild h.nextKey content).chain (h.nextKey + 1) =
      h.nextKey :: t :: h.chain t := chain_of_mem wf₃ htoken
  have hbelow₃ : ∀ x, x ∉ t :: h.chain t → x ∉ h.chain s → x < h.nextKey →
      (h₂.appendChild h.nextKey content).below x = h.below x := by
    intro x hxt hxs hold
    rw [below_appendChild, hbelow x hxt hxs]
    rw [hchain₂, List.mem_cons, not_or]
    exact ⟨Nat.ne_of_lt hold, hxt⟩
  have horder₃ : oldNodes h (h₂.appendChild h.nextKey content) = h.nodes.map (withId rnd h s) := by
    rw [← horder]
    exact filter_appendChild (hnext ▸ Nat.le_succ _)
  -- the text
  rw [heq]
  unfold setTextContent
  split
  · rename_i hempty
    refine ⟨wf₃, ?_, ?_, horder₃, hbelow₃⟩
    · rw [nextKey_appendChild, hnext]
      exact Nat.le_add_right _ 2
    · intro n
      rw [hmem₃]
      simp [hempty]
  · rename_i hnonempty
    have hp₃ : ∃ m ∈ (h₂.appendChild h.nextKey content).nodes, m.key = h.nextKey + 1 :=
      ⟨_, htoken, rfl⟩
    refine ⟨wellFormed_appendChild wf₃ hp₃, ?_, ?_, ?_, ?_⟩
    · rw [nextKey_appendChild, nextKey_appendChild, hnext]
      exact Nat.le_add_right _ 3
    · intro n
      have hnew₄ : (h₂.appendChild h.nextKey content).newChild (h.nextKey + 1) (.text token) =
          textNode h t token := by
        rw [newChild, nextKey_appendChild, hnext, hchain₃]
        rfl
      rw [mem_nodes_appendChild, hnew₄, hmem₃]
      simp [hnonempty]
    · rw [← horder₃]
      apply filter_appendChild
      rw [nextKey_appendChild, hnext]
      exact Nat.le_add_right _ 2
    · intro x hxt hxs hold
      rw [below_appendChild, hbelow₃ x hxt hxs hold]
      rw [hchain₃, List.mem_cons, List.mem_cons, not_or, not_or]
      refine ⟨?_, Nat.ne_of_lt hold, hxt⟩
      exact Nat.ne_of_lt (Nat.lt_succ_of_lt hold)

/-! ## The token in its property -/

/-- The property holds the token and nothing else that has a name. -/
structure HoldsToken (h : Heap) (property : Key) (token : String) : Prop where
  token : ∃ k, svtElements h property = [k] ∧ h.getTextContent k = token
  inside : ∀ n ∈ h.below property,
    n.content.localName = "SignatureValidationToken" ∨ n.content.localName = ""

theorem eq_singleton_of_mem_iff {α : Type} {l : List α} {a : α} (hnodup : l.Nodup)
    (hmem : ∀ b, b ∈ l ↔ b = a) : l = [a] := by
  have hperm : l.Perm [a] := by
    apply (List.perm_ext_iff_of_nodup hnodup (List.nodup_singleton a)).mpr
    intro b
    rw [hmem, List.mem_singleton]
  exact List.perm_singleton.mp hperm

theorem nodup_below (wf : WellFormed h) (k : Key) : (h.below k).Nodup :=
  (List.Nodup.of_map _ wf.keys_nodup).filter _

namespace Filled

variable {h' : Heap}

/-- Of the old nodes none has a new ancestor. -/
theorem old_ancestor_lt (wf : WellFormed h) {k : Key} (hm : m ∈ h.nodes) (hk : k ∈ m.ancestors) :
    k < h.nextKey := by
  obtain ⟨m', hm', rfl⟩ := exists_node_of_mem_ancestors wf hm hk
  exact wf.fresh m' hm'

theorem chain_lt (wf : WellFormed h) {k : Key} (hk : k ∈ h.chain x) : k < h.nextKey := by
  obtain ⟨m, hm, _, hchain⟩ := exists_of_mem_chain hk
  exact old_ancestor_lt wf hm (hchain ▸ hk)

variable (wf : WellFormed h) (htold : t < h.nextKey) (hf : Filled rnd h h' s t token)
include wf htold hf

/-- Below the property are the token and its text. -/
theorem mem_below_property : n ∈ h'.below h.nextKey ↔
    n = tokenNode h t ∨ (token ≠ "" ∧ n = textNode h t token) := by
  rw [mem_below, hf.mem]
  constructor
  · rintro ⟨(⟨htoken, rfl⟩ | rfl | rfl | ⟨m, hm, rfl⟩), hbelow⟩
    · exact .inr ⟨htoken, rfl⟩
    · exact .inl rfl
    · exfalso
      rcases List.mem_cons.mp hbelow with heq | hbelow
      · exact Nat.lt_irrefl _ (heq ▸ htold)
      · exact Nat.lt_irrefl _ (chain_lt wf hbelow)
    · rw [ancestors_withId] at hbelow
      exact absurd (old_ancestor_lt wf hm hbelow) (Nat.lt_irrefl _)
  · rintro (rfl | ⟨htoken, rfl⟩)
    · exact ⟨.inr (.inl rfl), List.mem_cons_self⟩
    · exact ⟨.inl ⟨htoken, rfl⟩, List.mem_cons_of_mem _ List.mem_cons_self⟩

theorem mem_below_token : n ∈ h'.below (h.nextKey + 1) ↔ token ≠ "" ∧ n = textNode h t token := by
  rw [mem_below, hf.mem]
  constructor
  · rintro ⟨(⟨htoken, rfl⟩ | rfl | rfl | ⟨m, hm, rfl⟩), hbelow⟩
    · exact ⟨htoken, rfl⟩
    · exfalso
      rcases List.mem_cons.mp hbelow with heq | hbelow
      · exact Nat.succ_ne_self _ heq
      · rcases List.mem_cons.mp hbelow with heq | hbelow
        · exact Nat.not_succ_lt_self (heq ▸ htold)
        · exact Nat.not_succ_lt_self (chain_lt wf hbelow)
    · exfalso
      rcases List.mem_cons.mp hbelow with heq | hbelow
      · exact Nat.not_succ_lt_self (heq ▸ htold)
      · exact Nat.not_succ_lt_self (chain_lt wf hbelow)
    · rw [ancestors_withId] at hbelow
      exact absurd (old_ancestor_lt wf hm hbelow) Nat.not_succ_lt_self
  · rintro ⟨htoken, rfl⟩
    exact ⟨.inl ⟨htoken, rfl⟩, List.mem_cons_self⟩

theorem holdsToken : HoldsToken h' h.nextKey token where
  token := by
    refine ⟨h.nextKey + 1, ?_, ?_⟩
    · have hnodup : (svtElements h' h.nextKey).Nodup :=
        hf.wf.keys_nodup.sublist ((List.filter_sublist.trans List.filter_sublist).map _)
      apply eq_singleton_of_mem_iff hnodup
      intro k
      unfold svtElements getElementsByTagNameNS
      rw [List.mem_map]
      constructor
      · rintro ⟨n, hn, rfl⟩
        obtain ⟨hn, hname⟩ := List.mem_filter.mp hn
        rcases (mem_below_property wf htold hf).mp hn with rfl | ⟨_, rfl⟩
        · rfl
        · cases hname
      · rintro rfl
        refine ⟨tokenNode h t, List.mem_filter.mpr ⟨?_, by simp [tokenNode, Content.hasName]⟩, rfl⟩
        exact (mem_below_property wf htold hf).mpr (.inl rfl)
    · unfold getTextContent
      by_cases htoken : token = ""
      · have hnone : h'.below (h.nextKey + 1) = [] := by
          apply List.eq_nil_iff_forall_not_mem.mpr
          intro n hn
          exact ((mem_below_token wf htold hf).mp hn).1 htoken
        rw [hnone, htoken]
        rfl
      · have hone : h'.below (h.nextKey + 1) = [textNode h t token] := by
          apply eq_singleton_of_mem_iff (nodup_below hf.wf _)
          intro n
          rw [mem_below_token wf htold hf]
          simp [htoken]
        rw [hone]
        simp [textNode, Content.value?, String.join]
  inside := by
    intro n hn
    rcases (mem_below_property wf htold hf).mp hn with rfl | ⟨_, rfl⟩
    · exact .inl rfl
    · exact .inr rfl

end Filled

/-! ## The target -/

theorem equalsIgnoreCase_length {t : CaseTable} {a b : String}
    (h : t.equalsIgnoreCase a b = true) : a.toList.length = b.toList.length := by
  unfold CaseTable.equalsIgnoreCase at h
  simpa using (Bool.and_eq_true_iff.mp h).1

/-- A target that is found lies in the signature and has the name. -/
theorem existingTarget_spec (wf : WellFormed h) (ht : existingTarget jvm h s = some t) :
    s ∈ h.chain t ∧
      jvm.equalsIgnoreCase (h.contentOf t).localName "SignatureProperties" = true := by
  have hlist : ∀ q ∈ h.getElementsByTagNameNS s xmldsigNS "SignatureProperties",
      s ∈ h.chain q ∧ (h.contentOf q).localName = "SignatureProperties" := by
    intro q hq
    obtain ⟨n, hn, hsn, hname, rfl⟩ := mem_getElementsByTagNameNS.mp hq
    rw [chain_of_mem wf hn, contentOf_of_mem wf hn]
    exact ⟨hsn, Content.localName_of_hasName hname⟩
  have hfirst : ∀ q, (h.getElementsByTagNameNS s xmldsigNS "SignatureProperties").head? = some q →
      s ∈ h.chain q ∧
        jvm.equalsIgnoreCase (h.contentOf q).localName "SignatureProperties" = true := by
    intro q hq
    obtain ⟨hbelow, hname⟩ := hlist q (List.mem_of_mem_head? hq)
    refine ⟨hbelow, ?_⟩
    rw [hname]
    exact CaseTable.equalsIgnoreCase_self _ _
  unfold existingTarget at ht
  dsimp only at ht
  split at ht
  · rename_i parentNode hparent
    split at ht
    · rename_i hname
      cases ht
      refine ⟨?_, hname⟩
      obtain ⟨e, he, hhead⟩ := Option.bind_eq_some_iff.mp hparent
      obtain ⟨q, hq, heq⟩ := List.mem_flatMap.mp (List.mem_of_mem_head? he)
      obtain ⟨n, hn, hqn, _, rfl⟩ :=
        mem_getElementsByTagNameNS.mp (List.mem_filter.mp heq).1
      -- the parent lies at or below the `SignatureProperties` that was searched
      have hchild : n ∈ h.children t :=
        mem_children.mpr ⟨hn, by rw [← chain_of_mem wf hn]; exact hhead⟩
      rw [← chain_of_mem wf hn, chain_child wf hchild] at hqn
      rcases List.mem_cons.mp hqn with rfl | hqt
      · exact (hlist _ hq).1
      · exact mem_chain_trans wf hqt (hlist _ hq).1
    · exact hfirst t ht
  · exact hfirst t ht

/-- The old element that the new property hangs below. -/
def anchor (jvm : Jvm) (h : Heap) (s : Key) : Key := (existingTarget jvm h s).getD s

theorem signature_mem_anchor (wf : WellFormed h) :
    s ∈ anchor jvm h s :: h.chain (anchor jvm h s) := by
  unfold anchor
  cases ht : existingTarget jvm h s with
  | none => exact List.mem_cons_self
  | some t => exact List.mem_cons_of_mem _ (existingTarget_spec wf ht).1

/-- The local names of what is added. -/
def addedNames : List String :=
  ["Object", "SignatureProperties", "SignatureProperty", "SignatureValidationToken", ""]

/-- The local name of the topmost element that is added. -/
def topName (jvm : Jvm) (h : Heap) (s : Key) : String :=
  if (existingTarget jvm h s).isSome then "SignatureProperty" else "Object"

/-- A node that a turn adds. -/
structure Added (jvm : Jvm) (h : Heap) (s property : Key) (n : Node) : Prop where
  fresh : h.nextKey ≤ n.key
  token : n.content.hasName xmlSvtNS "SignatureValidationToken" = true → property ∈ n.ancestors
  property : n.content.hasName xmldsigNS "SignatureProperty" = true → n.key = property
  ancestors : ∀ x < h.nextKey, x ∈ n.ancestors ↔ x ∈ anchor jvm h s :: h.chain (anchor jvm h s)
  top : h.nextKey ∈ n.key :: n.ancestors
  name : n.content.localName ∈ addedNames
  noId : DefaultXMLSignatureContext.getIdAttrVal n.content = none

/-- What a turn adds. -/
structure Placed (jvm : Jvm) (rnd : Key → String) (h h' : Heap) (s : Key) (token : String)
    (property : Key) : Prop where
  wf : WellFormed h'
  nextKey : h.nextKey ≤ h'.nextKey
  fresh : h.nextKey ≤ property
  old : ∀ m ∈ h.nodes, withId rnd h s m ∈ h'.nodes
  new : ∀ n ∈ h'.nodes, (∃ m ∈ h.nodes, n = withId rnd h s m) ∨ Added jvm h s property n
  order : oldNodes h h' = h.nodes.map (withId rnd h s)
  top : ∃ n ∈ h'.nodes, n.key = h.nextKey ∧
    n.ancestors = anchor jvm h s :: h.chain (anchor jvm h s) ∧
    n.content.namespaceURI = xmldsigNS ∧ n.content.localName = topName jvm h s
  node : ∃ n ∈ h'.nodes, n.key = property ∧
    (∀ x < h.nextKey, x ∈ n.ancestors ↔ x ∈ anchor jvm h s :: h.chain (anchor jvm h s)) ∧
    n.content.hasName xmldsigNS "SignatureProperty" = true ∧
    n.content.getAttribute "Target" = "#" ++ sigIdOf rnd h s
  holdsToken : HoldsToken h' property token
  below : ∀ x, x ∉ anchor jvm h s :: h.chain (anchor jvm h s) → x < h.nextKey →
    h'.below x = h.below x

/-- What filling a target adds, in the document or in one with a new target. -/
theorem added_of_filled {h₀ : Heap} (hle : h.nextKey ≤ h₀.nextKey)
    (hup : ∀ x < h.nextKey,
      x ∈ t :: h₀.chain t ↔ x ∈ anchor jvm h s :: h.chain (anchor jvm h s))
    (htop : h.nextKey ∈ h₀.nextKey :: t :: h₀.chain t)
    (hn : n = textNode h₀ t token ∨ n = tokenNode h₀ t ∨ n = propertyNode rnd h₀ s t) :
    Added jvm h s h₀.nextKey n := by
  have hnot : ∀ i, ∀ x < h.nextKey, x ≠ h₀.nextKey + i := by
    intro i x hx
    exact Nat.ne_of_lt (Nat.lt_of_lt_of_le hx (hle.trans (Nat.le_add_right _ i)))
  have hproperty : ∀ x < h.nextKey, x ∈ h₀.nextKey :: t :: h₀.chain t ↔
      x ∈ anchor jvm h s :: h.chain (anchor jvm h s) := by
    intro x hx
    have hne : x ≠ h₀.nextKey := hnot 0 x hx
    rw [List.mem_cons, or_iff_right hne, hup x hx]
  have htoken : ∀ x < h.nextKey, x ∈ (h₀.nextKey + 1) :: h₀.nextKey :: t :: h₀.chain t ↔
      x ∈ anchor jvm h s :: h.chain (anchor jvm h s) := by
    intro x hx
    rw [List.mem_cons, or_iff_right (hnot 1 x hx), hproperty x hx]
  rcases hn with rfl | rfl | rfl
  · exact ⟨hle.trans (Nat.le_add_right _ 2), by simp [textNode, Content.hasName],
      by simp [textNode, Content.hasName], htoken,
      List.mem_cons_of_mem _ (List.mem_cons_of_mem _ htop),
      by simp [textNode, Content.localName, addedNames], rfl⟩
  · exact ⟨hle.trans (Nat.le_add_right _ 1), by simp [tokenNode],
      by simp [tokenNode, Content.hasName], hproperty, List.mem_cons_of_mem _ htop,
      by simp [tokenNode, Content.localName, addedNames], rfl⟩
  · exact ⟨hle, by simp [propertyNode, Content.hasName], fun _ => rfl, hup, htop,
      by simp [propertyNode, Content.localName, addedNames], rfl⟩

section Place

variable (wf : WellFormed h)
  (hs : ∃ m ∈ h.nodes, m.key = s ∧ m.content.hasName xmldsigNS "Signature" = true)
include wf hs

theorem placed_of_existing (ht : existingTarget jvm h s = some t) :
    Placed jvm rnd h (fillTarget rnd s token t h) s token h.nextKey := by
  obtain ⟨hst, -⟩ := existingTarget_spec wf ht
  have htnode : ∃ m ∈ h.nodes, m.key = t := by
    obtain ⟨n, hn, hkey, -⟩ := exists_of_mem_chain hst
    exact ⟨n, hn, hkey⟩
  have htold : t < h.nextKey := by
    obtain ⟨n, hn, rfl⟩ := htnode
    exact wf.fresh n hn
  have hf : Filled rnd h (fillTarget rnd s token t h) s t token :=
    filled_fillTarget wf htnode
      (hs.imp fun m hm => ⟨hm.1, hm.2.1, Content.isElement_of_hasName hm.2.2⟩) token
  have hanchor : anchor jvm h s = t := by rw [anchor, ht]; rfl
  rw [← hanchor] at hst
  have hadded : ∀ n, (n = textNode h t token ∨ n = tokenNode h t ∨ n = propertyNode rnd h s t) →
      Added jvm h s h.nextKey n := fun n =>
    added_of_filled (Nat.le_refl _) (fun x _ => by rw [hanchor]) List.mem_cons_self
  have htop : topName jvm h s = "SignatureProperty" := by rw [topName, ht]; rfl
  refine ⟨hf.wf, hf.nextKey, Nat.le_refl _, ?_, ?_, hf.order, ?_, ?_, hf.holdsToken wf htold, ?_⟩
  · intro m hm
    exact (hf.mem _).mpr (.inr (.inr (.inr ⟨m, hm, rfl⟩)))
  · intro n hn
    rcases (hf.mem n).mp hn with ⟨-, rfl⟩ | rfl | rfl | hold
    · exact .inr (hadded _ (.inl rfl))
    · exact .inr (hadded _ (.inr (.inl rfl)))
    · exact .inr (hadded _ (.inr (.inr rfl)))
    · exact .inl hold
  · rw [hanchor, htop]
    exact ⟨propertyNode rnd h s t, (hf.mem _).mpr (.inr (.inr (.inl rfl))), rfl, rfl, rfl, rfl⟩
  · rw [hanchor]
    refine ⟨propertyNode rnd h s t, (hf.mem _).mpr (.inr (.inr (.inl rfl))), rfl, fun x _ => .rfl,
      by simp [propertyNode, Content.hasName], ?_⟩
    simp [propertyNode, Content.getAttribute]
  · intro x hx hold
    rw [hanchor] at hx hst
    refine hf.below x hx ?_ hold
    intro hxs
    exact hx (List.mem_cons_of_mem _ (mem_chain_trans wf hst hxs))

/-- The document with a new `Object` and `SignatureProperties`. -/
def withTarget (h : Heap) (s : Key) : Heap :=
  (h.appendChild s (dsContent h s "Object")).appendChild h.nextKey
    (dsContent (h.appendChild s (dsContent h s "Object")) s "SignatureProperties")

def objectNode (h : Heap) (s : Key) : Node := h.newChild s (dsContent h s "Object")

def propertiesNode (h : Heap) (s : Key) : Node where
  key := h.nextKey + 1
  ancestors := h.nextKey :: s :: h.chain s
  content := dsContent (h.appendChild s (dsContent h s "Object")) s "SignatureProperties"

theorem withTarget_spec :
    WellFormed (withTarget h s) ∧ (withTarget h s).nextKey = h.nextKey + 2 ∧
      (∀ n, n ∈ (withTarget h s).nodes ↔ n = propertiesNode h s ∨ n = objectNode h s ∨
        n ∈ h.nodes) ∧
      (withTarget h s).contentOf s = h.contentOf s ∧
      ∀ x, x ∉ s :: h.chain s → x < h.nextKey → (withTarget h s).below x = h.below x := by
  have hnode : ∃ m ∈ h.nodes, m.key = s := hs.imp fun m hm => ⟨hm.1, hm.2.1⟩
  unfold withTarget
  generalize hcontent : dsContent (h.appendChild s (dsContent h s "Object")) s
    "SignatureProperties" = content
  have wf₁ : WellFormed (h.appendChild s (dsContent h s "Object")) :=
    wellFormed_appendChild wf hnode
  have hobject : objectNode h s ∈ (h.appendChild s (dsContent h s "Object")).nodes :=
    mem_nodes_appendChild.mpr (.inl rfl)
  have hobject' : ∃ m ∈ (h.appendChild s (dsContent h s "Object")).nodes, m.key = h.nextKey :=
    ⟨_, hobject, rfl⟩
  have hchain : (h.appendChild s (dsContent h s "Object")).chain h.nextKey = s :: h.chain s :=
    chain_appendChild_new wf hnode
  refine ⟨wellFormed_appendChild wf₁ hobject', rfl, ?_, ?_, ?_⟩
  · intro n
    have hnew : (h.appendChild s (dsContent h s "Object")).newChild h.nextKey content =
        propertiesNode h s := by
      rw [newChild, hchain, ← hcontent]
      rfl
    rw [mem_nodes_appendChild, hnew, mem_nodes_appendChild]
    rfl
  · obtain ⟨m, hm, hkey⟩ := hnode
    rw [contentOf_appendChild_of_ne wf₁ hobject' ⟨m, mem_nodes_appendChild.mpr (.inr hm), hkey⟩,
      contentOf_appendChild_of_ne wf ⟨m, hm, hkey⟩ ⟨m, hm, hkey⟩]
  · intro x hx hold
    rw [below_appendChild, below_appendChild hx]
    rw [hchain, List.mem_cons, not_or]
    exact ⟨Nat.ne_of_lt hold, hx⟩

omit hs in
theorem oldNodes_withTarget : oldNodes h (withTarget h s) = h.nodes := by
  unfold oldNodes withTarget
  rw [filter_appendChild (by rw [nextKey_appendChild]; exact Nat.le_succ _),
    filter_appendChild (Nat.le_refl _)]
  exact oldNodes_self wf

omit wf hs in
/-- Nodes that are older are among those that are old. -/
theorem oldNodes_of_le (h₀ : Heap) {h' : Heap} (hle : h.nextKey ≤ h₀.nextKey) :
    oldNodes h h' = (oldNodes h₀ h').filter fun n => decide (n.key < h.nextKey) := by
  unfold oldNodes
  rw [List.filter_filter]
  apply List.filter_congr
  intro n _
  by_cases hlt : n.key < h.nextKey
  · simp [hlt, Nat.lt_of_lt_of_le hlt hle]
  · simp [hlt]

omit wf hs in
theorem added_objectNode {property : Key} (hanchor : anchor jvm h s = s) :
    Added jvm h s property (objectNode h s) := by
  refine ⟨Nat.le_refl _, by simp [objectNode, newChild, dsContent, Content.hasName],
    by simp [objectNode, newChild, dsContent, Content.hasName], fun x _ => ?_,
    List.mem_cons_self, by simp [objectNode, newChild, dsContent, Content.localName, addedNames],
    rfl⟩
  rw [hanchor]
  rfl

omit wf hs in
theorem added_propertiesNode {property : Key} (hanchor : anchor jvm h s = s) :
    Added jvm h s property (propertiesNode h s) := by
  refine ⟨Nat.le_add_right _ 1, by simp [propertiesNode, dsContent, Content.hasName],
    by simp [propertiesNode, dsContent, Content.hasName], fun x hx => ?_,
    by simp [propertiesNode],
    by simp [propertiesNode, dsContent, Content.localName, addedNames], rfl⟩
  simp [hanchor, propertiesNode, Nat.ne_of_lt hx]

theorem placed_of_new (ht : existingTarget jvm h s = none) :
    Placed jvm rnd h (fillTarget rnd s token (h.nextKey + 1) (withTarget h s)) s token
      (h.nextKey + 2) := by
  obtain ⟨wf₂, hnext, hmem₂, hcontent, hbelow₂⟩ := withTarget_spec wf hs
  have hanchor : anchor jvm h s = s := by rw [anchor, ht]; rfl
  have hproperties : propertiesNode h s ∈ (withTarget h s).nodes := (hmem₂ _).mpr (.inl rfl)
  have hchain : (withTarget h s).chain (h.nextKey + 1) = h.nextKey :: s :: h.chain s :=
    chain_of_mem wf₂ hproperties
  have hid : withId rnd (withTarget h s) s = withId rnd h s := by
    ext n
    rw [withId, withId, hcontent]
  have hsigId : sigIdOf rnd (withTarget h s) s = sigIdOf rnd h s := by
    rw [sigIdOf_eq, sigIdOf_eq, hcontent]
  have htold : h.nextKey + 1 < (withTarget h s).nextKey := by
    rw [hnext]
    exact Nat.lt_succ_self _
  have hf : Filled rnd (withTarget h s)
      (fillTarget rnd s token (h.nextKey + 1) (withTarget h s)) s (h.nextKey + 1) token := by
    refine filled_fillTarget wf₂ ⟨_, hproperties, rfl⟩ ?_ token
    exact hs.imp fun m hm => ⟨(hmem₂ m).mpr (.inr (.inr hm.1)), hm.2.1,
      Content.isElement_of_hasName hm.2.2⟩
  have hnot : ∀ i, ∀ x < h.nextKey, x ≠ h.nextKey + i := by
    intro i x hx
    exact Nat.ne_of_lt (Nat.lt_of_lt_of_le hx (Nat.le_add_right _ i))
  have hnot' : ∀ x < h.nextKey, x ≠ h.nextKey := hnot 0
  have hsold : s < h.nextKey := by
    obtain ⟨m, hm, rfl, -⟩ := hs
    exact wf.fresh m hm
  have hup : ∀ x < h.nextKey, x ∈ (h.nextKey + 1) :: (withTarget h s).chain (h.nextKey + 1) ↔
      x ∈ anchor jvm h s :: h.chain (anchor jvm h s) := by
    intro x hx
    rw [hanchor, hchain, List.mem_cons, List.mem_cons, or_iff_right (hnot 1 x hx),
      or_iff_right (hnot' x hx)]
  have hadded : ∀ n, (n = textNode (withTarget h s) (h.nextKey + 1) token ∨
      n = tokenNode (withTarget h s) (h.nextKey + 1) ∨
      n = propertyNode rnd (withTarget h s) s (h.nextKey + 1)) →
        Added jvm h s (h.nextKey + 2) n := by
    intro n
    apply added_of_filled (hnext ▸ Nat.le_add_right _ 2) hup
    rw [hchain]
    exact List.mem_cons_of_mem _ (List.mem_cons_of_mem _ List.mem_cons_self)
  have hobject : withId rnd h s (objectNode h s) = objectNode h s :=
    withId_of_ne (Ne.symm (hnot' s hsold) : (objectNode h s).key ≠ s)
  have hpropertiesId : withId rnd h s (propertiesNode h s) = propertiesNode h s :=
    withId_of_ne (Ne.symm (hnot 1 s hsold) : (propertiesNode h s).key ≠ s)
  have htop : topName jvm h s = "Object" := by rw [topName, ht]; rfl
  refine ⟨hf.wf, ?_, Nat.le_add_right _ 2, ?_, ?_, ?_, ?_, ?_, ?_, ?_⟩
  · exact Nat.le_trans (by rw [hnext]; exact Nat.le_add_right _ 2) hf.nextKey
  · intro m hm
    rw [hf.mem, hid]
    exact .inr (.inr (.inr ⟨m, (hmem₂ m).mpr (.inr (.inr hm)), rfl⟩))
  · intro n hn
    rw [hf.mem, hid] at hn
    rcases hn with ⟨-, rfl⟩ | rfl | rfl | ⟨m, hm, rfl⟩
    · exact .inr (hadded _ (.inl rfl))
    · exact .inr (hadded _ (.inr (.inl rfl)))
    · exact .inr (hadded _ (.inr (.inr rfl)))
    · rcases (hmem₂ m).mp hm with rfl | rfl | hm
      · rw [hpropertiesId]
        exact .inr (added_propertiesNode hanchor)
      · rw [hobject]
        exact .inr (added_objectNode hanchor)
      · exact .inl ⟨m, hm, rfl⟩
  · have horder := congrArg (List.filter fun n => decide (n.key < h.nextKey)) hf.order
    rw [hid, oldNodes_map key_withId] at horder
    rw [oldNodes_of_le (withTarget h s) (hnext ▸ Nat.le_add_right _ 2), horder]
    exact congrArg _ (oldNodes_withTarget wf)
  · rw [hanchor, htop]
    refine ⟨objectNode h s, ?_, rfl, rfl, rfl, rfl⟩
    rw [hf.mem, hid]
    exact .inr (.inr (.inr ⟨_, (hmem₂ _).mpr (.inr (.inl rfl)), hobject.symm⟩))
  · rw [hanchor]
    refine ⟨propertyNode rnd (withTarget h s) s (h.nextKey + 1),
      (hf.mem _).mpr (.inr (.inr (.inl rfl))), hnext, fun x hx => ?_,
      by simp [propertyNode, Content.hasName], ?_⟩
    · simp [propertyNode, hchain, hnot 1 x hx, hnot' x hx]
    · simp [propertyNode, Content.getAttribute, hsigId]
  · rw [← hnext]
    exact hf.holdsToken wf₂ htold
  · intro x hx hxold
    rw [hanchor] at hx
    rw [hf.below x, hbelow₂ x hx hxold]
    · rw [hchain]
      simp only [List.mem_cons, not_or] at hx ⊢
      exact ⟨hnot 1 x hxold, hnot' x hxold, hx⟩
    · obtain ⟨m, hm, rfl, -⟩ := hs
      rw [chain_of_mem wf₂ ((hmem₂ m).mpr (.inr (.inr hm))), ← chain_of_mem wf hm]
      exact fun hxs => hx (List.mem_cons_of_mem _ hxs)
    · rw [hnext]
      exact Nat.lt_of_lt_of_le hxold (Nat.le_add_right _ 2)

/-- **The added part of a turn.** -/
theorem placed_addSignatureProperty (jvm : Jvm) (rnd : Key → String) (token : String) :
    ∃ property, Placed jvm rnd h (addSignatureProperty jvm rnd s token h) s token property := by
  unfold addSignatureProperty getTargetSignaturePropertiesElement
  cases ht : existingTarget jvm h s with
  | some t => exact ⟨_, placed_of_existing wf hs ht⟩
  | none => exact ⟨_, placed_of_new wf hs ht⟩

end Place

end SigVal.Xml.XMLDocumentSVTIssuer
