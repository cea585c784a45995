import SigVal.Lib.LinkedDom

/-!
# What changes to a document leave alone

For each operation on a document: the chains, the contents and the nodes below a node
afterwards, and that the document stays well-formed. A part of a document that is left
alone is a node below which there are the same nodes, in the same order.
-/

namespace SigVal.LinkedDom.Heap

open SigVal.Java

variable {h : Heap} {a b k p x : Key} {n m : Node} {gone gone' l : List Key}

/-! ## Removing -/

theorem cut_cons : cut gone (a :: l) = if a ∈ gone then [a] else a :: cut gone l := rfl

theorem mem_of_mem_cut (ha : a ∈ cut gone l) : a ∈ l := by
  induction l with
  | nil => exact ha
  | cons c rest ih =>
      unfold cut at ha
      split at ha
      · exact List.mem_cons.mpr (.inl (List.mem_singleton.mp ha))
      · rcases List.mem_cons.mp ha with rfl | hrest
        · exact List.mem_cons_self
        · exact List.mem_cons_of_mem _ (ih hrest)

theorem cut_of_disjoint (hl : ∀ a ∈ l, a ∉ gone) : cut gone l = l := by
  induction l with
  | nil => rfl
  | cons c rest ih =>
      unfold cut
      rw [if_neg (hl c List.mem_cons_self), ih fun a ha => hl a (List.mem_cons_of_mem _ ha)]

@[simp] theorem cut_nil (l : List Key) : cut [] l = l := cut_of_disjoint fun _ _ => by simp

@[simp] theorem head?_cut : (cut gone l).head? = l.head? := by
  cases l with
  | nil => rfl
  | cons c rest =>
      unfold cut
      split
      · rfl
      · rfl

theorem cut_cut : cut gone' (cut gone l) = cut (gone' ++ gone) l := by
  induction l with
  | nil => rfl
  | cons c rest ih =>
      by_cases hc : c ∈ gone
      · by_cases hc' : c ∈ gone'
        · simp [cut, hc, hc']
        · simp [cut, hc, hc']
      · by_cases hc' : c ∈ gone'
        · simp [cut, hc, hc']
        · simp [cut, hc, hc', ih]

theorem cut_cons_of_not_mem (ha : a ∉ l) : cut (a :: gone) l = cut gone l := by
  induction l with
  | nil => rfl
  | cons c rest ih =>
      rw [List.mem_cons, not_or] at ha
      rw [cut_cons, cut_cons, ih ha.2]
      simp [Ne.symm ha.1]

theorem mem_cut_append_iff {pre rest : List Key} (ha : a ∉ pre) :
    a ∈ cut gone (pre ++ a :: rest) ↔ ∀ b ∈ pre, b ∉ gone := by
  induction pre with
  | nil =>
      refine iff_of_true ?_ (by simp)
      show a ∈ cut gone (a :: rest)
      unfold cut
      split
      · exact List.mem_singleton_self a
      · exact List.mem_cons_self
  | cons c pre ih =>
      rw [List.mem_cons, not_or] at ha
      rw [List.cons_append, cut_cons, List.forall_mem_cons, ← ih ha.2]
      by_cases hc : c ∈ gone
      · simp [hc, ha.1]
      · simp [hc, ha.1]

/-- The node and its ancestors are none of the keys. -/
def Alive (h : Heap) (gone : List Key) (x : Key) : Prop := ∀ b ∈ x :: h.chain x, b ∉ gone

instance (h : Heap) (gone : List Key) (x : Key) : Decidable (Alive h gone x) :=
  inferInstanceAs (Decidable (∀ b ∈ x :: h.chain x, b ∉ gone))

@[simp] theorem nodes_detachAll (h : Heap) (gone : List Key) :
    (h.detachAll gone).nodes = h.nodes.map (detachNode gone) := rfl

@[simp] theorem nextKey_detachAll (h : Heap) (gone : List Key) :
    (h.detachAll gone).nextKey = h.nextKey := rfl

@[simp] theorem key_detachNode (n : Node) : (detachNode gone n).key = n.key := rfl

@[simp] theorem content_detachNode (n : Node) : (detachNode gone n).content = n.content := rfl

theorem node?_detachAll : (h.detachAll gone).node? x = (h.node? x).map (detachNode gone) := by
  unfold node?
  rw [nodes_detachAll, List.find?_map]
  rfl

theorem contentOf_detachAll : (h.detachAll gone).contentOf x = h.contentOf x := by
  unfold contentOf
  rw [node?_detachAll, Option.map_map]
  rfl

theorem chain_detachAll :
    (h.detachAll gone).chain x = if x ∈ gone then [] else cut gone (h.chain x) := by
  unfold chain
  rw [node?_detachAll, Option.map_map]
  cases hnode : h.node? x with
  | none => simp [cut]
  | some n =>
      have hkey : n.key = x := by simpa using List.find?_some hnode
      simp [detachNode, hkey]

theorem detachAll_detachAll : (h.detachAll gone).detachAll gone' = h.detachAll (gone' ++ gone) := by
  have hnode : ∀ n : Node,
      detachNode gone' (detachNode gone n) = detachNode (gone' ++ gone) n := by
    intro n
    unfold detachNode
    by_cases hg : n.key ∈ gone
    · simp [hg, cut]
    · simp [hg, cut_cut]
  unfold detachAll
  simp [hnode]

@[simp] theorem detachAll_nil : h.detachAll [] = h := by
  have hnode : detachNode [] = id := by
    ext n
    simp [detachNode]
  unfold detachAll
  rw [hnode, List.map_id]

/-- Children that were not removed stay children. -/
theorem mem_children_detachAll :
    n ∈ (h.detachAll gone).children p ↔
      ∃ m ∈ h.children p, m.key ∉ gone ∧ n = detachNode gone m := by
  rw [mem_children, nodes_detachAll, List.mem_map]
  constructor
  · rintro ⟨⟨m, hm, rfl⟩, hhead⟩
    by_cases hg : m.key ∈ gone
    · simp [detachNode, hg] at hhead
    · refine ⟨m, mem_children.mpr ⟨hm, ?_⟩, hg, rfl⟩
      simpa [detachNode, hg] using hhead
  · rintro ⟨m, hm, hg, rfl⟩
    obtain ⟨hm, hhead⟩ := mem_children.mp hm
    exact ⟨⟨m, hm, rfl⟩, by simpa [detachNode, hg] using hhead⟩

theorem mem_chain_detachAll_of (ha : a ∈ (h.detachAll gone).chain x) : a ∈ h.chain x := by
  rw [chain_detachAll] at ha
  split at ha
  · cases ha
  · exact mem_of_mem_cut ha

section WellFormed

variable (wf : WellFormed h)
include wf

/-- What is below a node that was left alone is what was below it and was left alone. -/
theorem mem_chain_detachAll_iff (halive : Alive h gone a) :
    a ∈ (h.detachAll gone).chain x ↔ a ∈ h.chain x ∧ Alive h gone x := by
  rw [chain_detachAll]
  constructor
  · intro ha
    split at ha
    · cases ha
    · rename_i hx
      have hmem := mem_of_mem_cut ha
      obtain ⟨pre, hpre, hnot⟩ := chain_split wf hmem
      rw [hpre, mem_cut_append_iff hnot] at ha
      refine ⟨hmem, ?_⟩
      intro b hb
      rw [hpre] at hb
      rcases List.mem_cons.mp hb with rfl | hb
      · exact hx
      · rcases List.mem_append.mp hb with hb | hb
        · exact ha b hb
        · exact halive b hb
  · rintro ⟨ha, hx⟩
    rw [if_neg (hx x List.mem_cons_self),
      cut_of_disjoint fun b hb => hx b (List.mem_cons_of_mem _ hb)]
    exact ha

theorem detachAll_of_alive (hn : n ∈ h.nodes) (halive : Alive h gone n.key) :
    detachNode gone n = n := by
  have hcut : cut gone n.ancestors = n.ancestors := by
    refine cut_of_disjoint fun b hb => halive b (List.mem_cons_of_mem _ ?_)
    rw [chain_of_mem wf hn]
    exact hb
  unfold detachNode
  rw [if_neg (halive _ List.mem_cons_self), hcut]

theorem below_detachAll (halive : Alive h gone k) :
    (h.detachAll gone).below k = (h.below k).filter fun n => decide (Alive h gone n.key) := by
  unfold below
  rw [nodes_detachAll, List.filter_map, List.filter_filter]
  have hfilter : h.nodes.filter ((fun n => decide (k ∈ n.ancestors)) ∘ detachNode gone) =
      h.nodes.filter fun n => decide (Alive h gone n.key) && decide (k ∈ n.ancestors) := by
    apply List.filter_congr
    intro n hn
    have hiff := mem_chain_detachAll_iff (x := n.key) wf halive
    have hchain : (h.detachAll gone).chain n.key = (detachNode gone n).ancestors := by
      rw [chain_detachAll, chain_of_mem wf hn]
      rfl
    rw [hchain, chain_of_mem wf hn] at hiff
    rw [Function.comp_apply, ← Bool.decide_and, decide_eq_decide, hiff]
    exact and_comm
  rw [hfilter]
  refine (List.map_congr_left fun n hn => ?_).trans (List.map_id _)
  obtain ⟨hn, hcond⟩ := List.mem_filter.mp hn
  exact detachAll_of_alive wf hn (of_decide_eq_true (Bool.and_eq_true_iff.mp hcond).1)

theorem wellFormed_detachAll : WellFormed (h.detachAll gone) where
  keys_nodup := by
    have hkeys : (h.detachAll gone).nodes.map Node.key = h.nodes.map Node.key := by
      rw [nodes_detachAll, List.map_map]
      rfl
    rw [hkeys]
    exact wf.keys_nodup
  fresh := by
    intro n hn
    obtain ⟨m, hm, rfl⟩ := List.mem_map.mp hn
    exact wf.fresh m hm
  coherent := by
    intro n hn q rest hanc
    obtain ⟨m, hm, rfl⟩ := List.mem_map.mp hn
    by_cases hg : m.key ∈ gone
    · simp [detachNode, hg] at hanc
    · have hcut : cut gone m.ancestors = q :: rest := by simpa [detachNode, hg] using hanc
      cases hm' : m.ancestors with
      | nil =>
          rw [hm'] at hcut
          cases hcut
      | cons q' rest' =>
          obtain ⟨parent, hparent, hkey, hrest⟩ := wf.coherent m hm q' rest' hm'
          refine ⟨detachNode gone parent, List.mem_map_of_mem hparent, ?_⟩
          rw [hm'] at hcut
          unfold cut at hcut
          split at hcut
          · rename_i hq
            cases hcut
            exact ⟨hkey, by simp [detachNode, hkey, hq]⟩
          · rename_i hq
            cases hcut
            exact ⟨hkey, by simp [detachNode, hkey, hq, hrest]⟩
  ordered := by
    rw [nodes_detachAll, List.pairwise_map]
    apply wf.ordered.imp
    intro m n hmn hmem
    apply hmn
    unfold detachNode at hmem
    dsimp only at hmem
    split at hmem
    · cases hmem
    · exact mem_of_mem_cut hmem
  root := by
    rw [nodes_detachAll]
    refine List.mem_map.mpr ⟨_, wf.root, ?_⟩
    simp [detachNode, cut]

end WellFormed

/-! ## Adding -/

section Insert

variable {α : Type} {q r : α → Bool} {c : α} {items : List α}

theorem insertAfterLast_perm : (insertAfterLast q c items).Perm (c :: items) := by
  induction items with
  | nil => exact .refl _
  | cons d rest ih =>
      unfold insertAfterLast
      split
      · exact .swap c d rest
      · exact (ih.cons d).trans (.swap c d rest)

theorem filter_insertAfterLast (hc : r c = false) :
    (insertAfterLast q c items).filter r = items.filter r := by
  induction items with
  | nil => simp [insertAfterLast, hc]
  | cons d rest ih =>
      unfold insertAfterLast
      split
      · simp [List.filter_cons, hc]
      · simp [List.filter_cons, ih]

/-- Only elements without the property come after the new one, if there are any with it. -/
theorem pairwise_insertAfterLast {R : α → α → Prop} (hitems : items.Pairwise R)
    (hbefore : ∀ d ∈ items, R d c) (hsome : items.any q = true)
    (hafter : ∀ l₁ l₂ d, items = l₁ ++ d :: l₂ → q d = true → ∀ e ∈ l₂, q e = false → R c e) :
    (insertAfterLast q c items).Pairwise R := by
  induction items with
  | nil => cases hsome
  | cons d rest ih =>
      obtain ⟨hd, hrest⟩ := List.pairwise_cons.mp hitems
      unfold insertAfterLast
      by_cases hany : rest.any q = true
      · rw [hany]
        simp only [Bool.not_true, Bool.and_false, Bool.false_eq_true, if_false]
        refine List.pairwise_cons.mpr ⟨?_, ih hrest (fun e he => hbefore e (by simp [he])) hany ?_⟩
        · intro e he
          rcases List.mem_cons.mp (insertAfterLast_perm.mem_iff.mp he) with rfl | he
          · exact hbefore d List.mem_cons_self
          · exact hd e he
        · intro l₁ l₂ f hsplit
          exact hafter (d :: l₁) l₂ f (by rw [hsplit]; rfl)
      · have hqd : q d = true := by simpa [hany] using hsome
        have hnone : ∀ e ∈ rest, q e = false := by simpa using hany
        rw [hqd, Bool.eq_false_iff.mpr hany]
        simp only [Bool.not_false, Bool.and_true, if_true]
        refine List.pairwise_cons.mpr ⟨?_, List.pairwise_cons.mpr ⟨?_, hrest⟩⟩
        · intro e he
          rcases List.mem_cons.mp he with rfl | he
          · exact hbefore d List.mem_cons_self
          · exact hd e he
        · intro e he
          exact hafter [] rest d rfl hqd e he (hnone e he)

end Insert

section Append

variable {content : Content}

theorem mem_nodes_appendChild :
    n ∈ (h.appendChild p content).nodes ↔ n = h.newChild p content ∨ n ∈ h.nodes := by
  unfold appendChild
  rw [insertAfterLast_perm.mem_iff, List.mem_cons]

/-- A node with a new key does not change the order of the others. -/
theorem filter_appendChild {k : Key} (hk : k ≤ h.nextKey) :
    (h.appendChild p content).nodes.filter (fun n => decide (n.key < k)) =
      h.nodes.filter fun n => decide (n.key < k) := by
  apply filter_insertAfterLast
  exact decide_eq_false (Nat.not_lt.mpr hk)

@[simp] theorem nextKey_appendChild : (h.appendChild p content).nextKey = h.nextKey + 1 := rfl

/-- Nothing is added below a node that the parent is not at or below. -/
theorem below_appendChild (hk : k ∉ p :: h.chain p) :
    (h.appendChild p content).below k = h.below k := by
  unfold below appendChild
  apply filter_insertAfterLast
  simpa [newChild] using hk

variable (wf : WellFormed h)
include wf

theorem wellFormed_appendChild (hp : ∃ m ∈ h.nodes, m.key = p) :
    WellFormed (h.appendChild p content) where
  keys_nodup := by
    have hperm : ((h.appendChild p content).nodes.map Node.key).Perm
        (h.nextKey :: h.nodes.map Node.key) := insertAfterLast_perm.map _
    rw [hperm.nodup_iff, List.nodup_cons]
    refine ⟨?_, wf.keys_nodup⟩
    intro hmem
    obtain ⟨n, hn, hkey⟩ := List.mem_map.mp hmem
    exact Nat.lt_irrefl _ (hkey ▸ wf.fresh n hn)
  fresh := by
    intro n hn
    show n.key < h.nextKey + 1
    rcases mem_nodes_appendChild.mp hn with rfl | hn
    · exact Nat.lt_succ_self _
    · exact Nat.lt_succ_of_lt (wf.fresh n hn)
  coherent := by
    intro n hn q rest hanc
    rcases mem_nodes_appendChild.mp hn with rfl | hn
    · obtain ⟨m, hm, rfl⟩ := hp
      cases hanc
      exact ⟨m, mem_nodes_appendChild.mpr (.inr hm), rfl, (chain_of_mem wf hm).symm⟩
    · obtain ⟨m, hm, hkey, hrest⟩ := wf.coherent n hn q rest hanc
      exact ⟨m, mem_nodes_appendChild.mpr (.inr hm), hkey, hrest⟩
  ordered := by
    obtain ⟨m, hm, rfl⟩ := hp
    refine pairwise_insertAfterLast wf.ordered ?_ ?_ ?_
    · intro d hd hmem
      obtain ⟨n, hn, hkey⟩ := exists_node_of_mem_ancestors wf hd hmem
      exact Nat.lt_irrefl _ (hkey ▸ wf.fresh n hn)
    · refine List.any_eq_true.mpr ⟨m, hm, by simp⟩
    · intro l₁ l₂ d hsplit hd e he hqe hmem
      have hdnodes : d ∈ h.nodes := by
        rw [hsplit]
        exact List.mem_append_right _ List.mem_cons_self
      have hde : e.key ∉ d.ancestors := by
        have hordered := wf.ordered
        rw [hsplit] at hordered
        exact (List.pairwise_cons.mp (List.pairwise_append.mp hordered).2.1).1 e he
      simp only [Bool.or_eq_true, Bool.or_eq_false_iff, beq_iff_eq, beq_eq_false_iff_ne,
        decide_eq_true_eq, decide_eq_false_iff_not] at hd hqe
      have hchain : e.key ∈ h.chain m.key := (List.mem_cons.mp hmem).resolve_left hqe.1
      -- an ancestor of the parent comes before the parent
      apply hde
      rw [← chain_of_mem wf hdnodes]
      rcases hd with hkey | hbelow
      · rw [hkey]
        exact hchain
      · exact mem_chain_trans wf (by rwa [chain_of_mem wf hdnodes]) hchain
  root := mem_nodes_appendChild.mpr (.inr wf.root)

theorem contentOf_appendChild_of_ne (hp : ∃ m ∈ h.nodes, m.key = p)
    (hx : ∃ m ∈ h.nodes, m.key = x) :
    (h.appendChild p content).contentOf x = h.contentOf x := by
  obtain ⟨m, hm, rfl⟩ := hx
  rw [contentOf_of_mem wf hm, contentOf_of_mem (wellFormed_appendChild wf hp)
    (mem_nodes_appendChild.mpr (.inr hm))]

theorem chain_appendChild_of_mem (hp : ∃ m ∈ h.nodes, m.key = p) (hn : n ∈ h.nodes) :
    (h.appendChild p content).chain n.key = h.chain n.key := by
  rw [chain_of_mem wf hn, chain_of_mem (wellFormed_appendChild wf hp)
    (mem_nodes_appendChild.mpr (.inr hn))]

theorem chain_appendChild_new (hp : ∃ m ∈ h.nodes, m.key = p) :
    (h.appendChild p content).chain h.nextKey = p :: h.chain p :=
  chain_of_mem (wellFormed_appendChild wf hp)
    (mem_nodes_appendChild.mpr (.inl rfl) : h.newChild p content ∈ _)

end Append

/-! ## Attributes -/

section Attributes

variable {name value : String}

theorem nodes_setAttribute :
    (h.setAttribute k name value).nodes = h.nodes.map (setNodeAttribute k name value) := rfl

@[simp] theorem nextKey_setAttribute : (h.setAttribute k name value).nextKey = h.nextKey := rfl

@[simp] theorem key_setNodeAttribute (n : Node) :
    (setNodeAttribute k name value n).key = n.key := by
  unfold setNodeAttribute
  split
  · rfl
  · rfl

@[simp] theorem ancestors_setNodeAttribute (n : Node) :
    (setNodeAttribute k name value n).ancestors = n.ancestors := by
  unfold setNodeAttribute
  split
  · rfl
  · rfl

theorem setNodeAttribute_of_ne (hne : n.key ≠ k) : setNodeAttribute k name value n = n :=
  if_neg hne

theorem chain_setAttribute : (h.setAttribute k name value).chain x = h.chain x := by
  unfold chain node?
  rw [nodes_setAttribute, List.find?_map, Option.map_map]
  have hkey : ((fun n : Node => n.key == x) ∘ setNodeAttribute k name value) =
      fun n => n.key == x := by
    ext n
    simp
  have hancestors : Node.ancestors ∘ setNodeAttribute k name value = Node.ancestors := by
    ext n
    simp
  rw [hkey]
  show ((h.nodes.find? _).map (Node.ancestors ∘ setNodeAttribute k name value)).getD [] = _
  rw [hancestors]

theorem below_setAttribute (hx : x ∉ h.chain k) (wf : WellFormed h) :
    (h.setAttribute k name value).below x = h.below x := by
  unfold below
  rw [nodes_setAttribute, List.filter_map]
  have hfilter : ((fun n : Node => decide (x ∈ n.ancestors)) ∘ setNodeAttribute k name value) =
      fun n => decide (x ∈ n.ancestors) := by
    ext n
    simp
  rw [hfilter]
  refine (List.map_congr_left ?_).trans (List.map_id _)
  intro n hn
  obtain ⟨hn, hxn⟩ := mem_below.mp hn
  apply setNodeAttribute_of_ne
  rintro rfl
  exact hx (by rwa [chain_of_mem wf hn])

theorem wellFormed_setAttribute (wf : WellFormed h) (hk : k ≠ documentKey) :
    WellFormed (h.setAttribute k name value) where
  keys_nodup := by
    have hkeys : (h.setAttribute k name value).nodes.map Node.key = h.nodes.map Node.key := by
      rw [nodes_setAttribute, List.map_map]
      exact List.map_congr_left fun n _ => key_setNodeAttribute n
    rw [hkeys]
    exact wf.keys_nodup
  fresh := by
    intro n hn
    obtain ⟨m, hm, rfl⟩ := List.mem_map.mp hn
    rw [key_setNodeAttribute]
    exact wf.fresh m hm
  coherent := by
    intro n hn q rest hanc
    obtain ⟨m, hm, rfl⟩ := List.mem_map.mp (nodes_setAttribute ▸ hn)
    rw [ancestors_setNodeAttribute] at hanc
    obtain ⟨parent, hparent, hkey, hrest⟩ := wf.coherent m hm q rest hanc
    exact ⟨setNodeAttribute k name value parent, List.mem_map_of_mem hparent, by simpa, by simpa⟩
  ordered := by
    rw [nodes_setAttribute, List.pairwise_map]
    apply wf.ordered.imp
    intro a b hab
    simpa using hab
  root := by
    rw [nodes_setAttribute]
    exact List.mem_map.mpr ⟨_, wf.root, setNodeAttribute_of_ne (Ne.symm hk)⟩

end Attributes

/-! ## What is below a node decides what is below its descendants -/

theorem children_eq_filter_below : h.children k = (h.below k).filter fun n =>
    n.ancestors.head? == some k := by
  unfold children below
  rw [List.filter_filter]
  apply List.filter_congr
  intro n _
  by_cases hhead : n.ancestors.head? = some k
  · simp [hhead, List.mem_of_mem_head? hhead]
  · simp [hhead]

theorem below_of_mem_chain (wf : WellFormed h) (hp : p ∈ h.chain k) :
    h.below k = (h.below p).filter fun n => decide (k ∈ n.ancestors) := by
  unfold below
  rw [List.filter_filter]
  apply List.filter_congr
  intro n hn
  by_cases hk : k ∈ n.ancestors
  · have hpn : p ∈ n.ancestors := by
      rw [← chain_of_mem wf hn] at hk ⊢
      exact mem_chain_trans wf hk hp
    simp [hk, hpn]
  · simp [hk]

section SameBelow

variable {h' : Heap}

theorem node_of_sameBelow (hbelow : h'.below p = h.below p) (hp : p ∈ h.chain x) :
    ∃ n ∈ h.nodes, n ∈ h'.nodes ∧ n.key = x ∧ p ∈ n.ancestors := by
  obtain ⟨n, hn, hkey, hchain⟩ := exists_of_mem_chain hp
  rw [hchain] at hp
  have hmem : n ∈ h'.below p := by
    rw [hbelow]
    exact mem_below.mpr ⟨hn, hp⟩
  exact ⟨n, hn, (mem_below.mp hmem).1, hkey, hp⟩

variable (wf : WellFormed h) (wf' : WellFormed h') (hbelow : h'.below p = h.below p)
include wf wf' hbelow

theorem chain_of_sameBelow (hp : p ∈ h.chain x) : h'.chain x = h.chain x := by
  obtain ⟨n, hn, hn', rfl, -⟩ := node_of_sameBelow hbelow hp
  rw [chain_of_mem wf hn, chain_of_mem wf' hn']

theorem contentOf_of_sameBelow (hp : p ∈ h.chain x) : h'.contentOf x = h.contentOf x := by
  obtain ⟨n, hn, hn', rfl, -⟩ := node_of_sameBelow hbelow hp
  rw [contentOf_of_mem wf hn, contentOf_of_mem wf' hn']

theorem below_of_sameBelow (hp : p ∈ h.chain x) : h'.below x = h.below x := by
  have hp' : p ∈ h'.chain x := by
    rw [chain_of_sameBelow wf wf' hbelow hp]
    exact hp
  rw [below_of_mem_chain wf' hp', below_of_mem_chain wf hp, hbelow]

theorem children_of_sameBelow (hp : p ∈ h.chain x) : h'.children x = h.children x := by
  rw [children_eq_filter_below, children_eq_filter_below, below_of_sameBelow wf wf' hbelow hp]

end SameBelow

end SigVal.LinkedDom.Heap
