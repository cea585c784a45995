import SigVal.Lib.DomChanges

/-!
# Node-sets of a document

A view selects nodes: those at or below its targets, without the parts it leaves out. It is
what a transformation of a document works on. A change is seen through a view or not, and
what is not seen leaves the selected nodes as they are, in their order.
-/

namespace SigVal.LinkedDom

open SigVal.Java

/-- The nodes at or below the targets, without the elements that are left out, by identity
or by name, and what is below those. -/
structure View where
  targets : List Key
  omits : Key → String → String → Bool

namespace View

open Heap

variable {v : View} {h h' : Heap} {k b t : Key} {n m : Node} {gone : List Key}

/-- The element is left out. -/
def Omitted (v : View) (h : Heap) (b : Key) : Prop :=
  v.omits b (h.contentOf b).namespaceURI (h.contentOf b).localName = true

instance (v : View) (h : Heap) (b : Key) : Decidable (v.Omitted h b) :=
  inferInstanceAs (Decidable (_ = true))

/-- The node is selected. -/
def Covers (v : View) (h : Heap) (k : Key) : Prop :=
  (∃ t ∈ v.targets, t ∈ k :: h.chain k) ∧ ∀ b ∈ k :: h.chain k, ¬ v.Omitted h b

instance (v : View) (h : Heap) (k : Key) : Decidable (v.Covers h k) :=
  inferInstanceAs (Decidable ((∃ t ∈ v.targets, t ∈ k :: h.chain k) ∧
    ∀ b ∈ k :: h.chain k, ¬ v.Omitted h b))

/-- The selected nodes, in document order. -/
def nodeSet (v : View) (h : Heap) : List Node := h.nodes.filter fun n => decide (v.Covers h n.key)

theorem mem_nodeSet : n ∈ v.nodeSet h ↔ n ∈ h.nodes ∧ v.Covers h n.key := by
  simp [nodeSet]

/-- Around a selected node everything up to a target is selected. -/
theorem Covers.up (wf : WellFormed h) (hcovers : v.Covers h k) (hb : b ∈ h.chain k)
    (ht : ∃ t ∈ v.targets, t ∈ b :: h.chain b) : v.Covers h b := by
  refine ⟨ht, ?_⟩
  intro a ha
  refine hcovers.2 a (List.mem_cons_of_mem _ ?_)
  rcases List.mem_cons.mp ha with rfl | ha
  · exact hb
  · exact mem_chain_trans wf hb ha

section Removing

variable (wf : WellFormed h) (htargets : ∀ t ∈ v.targets, Alive h gone t)
include wf htargets

/-- What is selected is left alone, when no removed node is selected. -/
theorem Covers.alive (hgone : ∀ g ∈ gone, ¬ v.Covers h g) (hcovers : v.Covers h k) :
    Alive h gone k := by
  intro b hb hbgone
  obtain ⟨t, ht, htk⟩ := hcovers.1
  have hbt : b ∉ t :: h.chain t := fun hb => htargets t ht b hb hbgone
  rcases List.mem_cons.mp hb with rfl | hb
  · exact hgone b hbgone hcovers
  · refine hgone b hbgone (hcovers.up wf hb ⟨t, ht, ?_⟩)
    rcases List.mem_cons.mp htk with rfl | htk
    · exact absurd (List.mem_cons_of_mem _ hb) hbt
    · rcases chain_comparable wf htk hb with rfl | htb | hbt'
      · exact List.mem_cons_self
      · exact List.mem_cons_of_mem _ htb
      · exact absurd (List.mem_cons_of_mem _ hbt') hbt

/-- What is selected afterwards was left alone. -/
theorem alive_of_covers_detachAll (hcovers : v.Covers (h.detachAll gone) k) : Alive h gone k := by
  obtain ⟨t, ht, htk⟩ := hcovers.1
  rcases List.mem_cons.mp htk with rfl | htk
  · exact htargets t ht
  · exact ((mem_chain_detachAll_iff wf (htargets t ht)).mp htk).2

omit wf htargets in
theorem covers_detachAll_of_alive (halive : Alive h gone k) :
    v.Covers (h.detachAll gone) k ↔ v.Covers h k := by
  have hchain : (h.detachAll gone).chain k = h.chain k := by
    rw [chain_detachAll, if_neg (halive k List.mem_cons_self),
      cut_of_disjoint fun b hb => halive b (List.mem_cons_of_mem _ hb)]
  unfold Covers Omitted
  rw [hchain]
  simp only [contentOf_detachAll]

/-- **A removal that is not seen.** -/
theorem nodeSet_detachAll (hgone : ∀ g ∈ gone, ¬ v.Covers h g) :
    v.nodeSet (h.detachAll gone) = v.nodeSet h := by
  unfold nodeSet
  rw [nodes_detachAll, List.filter_map]
  have hfilter : h.nodes.filter
      ((fun n => decide (v.Covers (h.detachAll gone) n.key)) ∘ detachNode gone) =
        h.nodes.filter fun n => decide (v.Covers h n.key) := by
    apply List.filter_congr
    intro n _
    rw [Function.comp_apply, key_detachNode, decide_eq_decide]
    constructor
    · intro hcovers
      exact (covers_detachAll_of_alive (alive_of_covers_detachAll wf htargets hcovers)).mp hcovers
    · intro hcovers
      exact (covers_detachAll_of_alive (hcovers.alive wf htargets hgone)).mpr hcovers
  rw [hfilter]
  refine (List.map_congr_left fun n hn => ?_).trans (List.map_id _)
  obtain ⟨hn, hcovers⟩ := mem_nodeSet.mp hn
  exact detachAll_of_alive wf hn (hcovers.alive wf htargets hgone)

end Removing

/-! ## Adding -/

/-- The old nodes are there in their old order and places, under their old names, and the
others have new keys. -/
structure Grows (f : Node → Node) (h h' : Heap) : Prop where
  wf : WellFormed h
  wf' : WellFormed h'
  order : h'.nodes.filter (fun n => decide (n.key < h.nextKey)) = h.nodes.map f
  key : ∀ n, (f n).key = n.key
  ancestors : ∀ n, (f n).ancestors = n.ancestors
  name : ∀ n, (f n).content.namespaceURI = n.content.namespaceURI ∧
    (f n).content.localName = n.content.localName

section Adding

variable {f : Node → Node} (hgrows : Grows f h h')
include hgrows

theorem Grows.mem (hn : n ∈ h.nodes) : f n ∈ h'.nodes := by
  have hmem : f n ∈ h'.nodes.filter fun n => decide (n.key < h.nextKey) := by
    rw [hgrows.order]
    exact List.mem_map_of_mem hn
  exact (List.mem_filter.mp hmem).1

theorem Grows.chain (hn : n ∈ h.nodes) : h'.chain n.key = h.chain n.key := by
  rw [← hgrows.key n, chain_of_mem hgrows.wf' (hgrows.mem hn), hgrows.ancestors, hgrows.key,
    chain_of_mem hgrows.wf hn]

theorem Grows.omitted (hn : n ∈ h.nodes) : v.Omitted h' n.key ↔ v.Omitted h n.key := by
  have hcontent : h'.contentOf n.key = (f n).content := by
    rw [← hgrows.key n]
    exact contentOf_of_mem hgrows.wf' (hgrows.mem hn)
  obtain ⟨hnamespace, hlocal⟩ := hgrows.name n
  unfold Omitted
  rw [hcontent, contentOf_of_mem hgrows.wf hn, hnamespace, hlocal]

theorem Grows.covers (hn : n ∈ h.nodes) : v.Covers h' n.key ↔ v.Covers h n.key := by
  unfold Covers
  rw [hgrows.chain hn]
  refine and_congr_right fun _ => forall₂_congr fun b hb => not_congr ?_
  rcases List.mem_cons.mp hb with rfl | hb
  · exact hgrows.omitted hn
  · rw [chain_of_mem hgrows.wf hn] at hb
    obtain ⟨m, hm, rfl⟩ := exists_node_of_mem_ancestors hgrows.wf hn hb
    exact hgrows.omitted hm

/-- **An addition that is not seen.** -/
theorem nodeSet_of_grows
    (hnew : ∀ n ∈ h'.nodes, h.nextKey ≤ n.key → ¬ v.Covers h' n.key)
    (hsame : ∀ n ∈ h.nodes, v.Covers h n.key → f n = n) : v.nodeSet h' = v.nodeSet h := by
  have hold : h'.nodes.filter (fun n => decide (v.Covers h' n.key)) =
      (h.nodes.map f).filter fun n => decide (v.Covers h' n.key) := by
    rw [← hgrows.order, List.filter_filter]
    apply List.filter_congr
    intro n hn
    by_cases hlt : n.key < h.nextKey
    · simp [hlt]
    · simp [hlt, hnew n hn (Nat.not_lt.mp hlt)]
  unfold nodeSet
  rw [hold, List.filter_map]
  have hfilter : h.nodes.filter ((fun n => decide (v.Covers h' n.key)) ∘ f) =
      h.nodes.filter fun n => decide (v.Covers h n.key) := by
    apply List.filter_congr
    intro n hn
    rw [Function.comp_apply, hgrows.key, decide_eq_decide]
    exact hgrows.covers hn
  rw [hfilter]
  refine (List.map_congr_left fun n hn => ?_).trans (List.map_id _)
  obtain ⟨hn, hcovers⟩ := mem_nodeSet.mp hn
  exact hsame n hn hcovers

end Adding

end View

end SigVal.LinkedDom
