import Mathlib.Data.Finset.Card
import Mathlib.Data.List.Perm.Subperm
import Mathlib.Logic.Relation
import SigVal.Lib.Dom

/-!
# Nodes that move

Nodes with an identity. A reference to an element shows whatever the element has below it
now, so moving a node out of its place changes every tree it was in. Here a heap maps keys
to nodes, a node has its attributes and children by key, and `tree` is what can be seen from
a key.

An attribute map has no order of its own; the list here is in the order of the calls.
-/

namespace SigVal.SharedDom

open Dom (Node)

abbrev Key := Nat

/-- A node, with its attributes and children by reference. -/
inductive Cell where
  | element (ns name : String) (attributes children : List Key)
  | attr (name value : String)
  | text (value : String)
deriving DecidableEq, Repr

namespace Cell

def attributes : Cell → List Key
  | .element _ _ attributes _ => attributes
  | _ => []

def children : Cell → List Key
  | .element _ _ _ children => children
  | _ => []

def isElement : Cell → Bool
  | .element .. => true
  | _ => false

def isAttr : Cell → Bool
  | .attr .. => true
  | _ => false

/-- The name and the value of an attribute node. -/
def nameAndValue : Cell → String × String
  | .attr name value => (name, value)
  | _ => ("", "")

/-- The same node without its references to the listed nodes. -/
def without (moved : List Key) : Cell → Cell
  | .element ns name attributes children =>
      .element ns name (attributes.filter fun a => a ∉ moved) (children.filter fun c => c ∉ moved)
  | .attr name value => .attr name value
  | .text value => .text value

def addChild (k : Key) : Cell → Cell
  | .element ns name attributes children => .element ns name attributes (children ++ [k])
  | cell => cell

/-- Adds an attribute in the place of the `same` ones. -/
def putAttribute (same : Key → Bool) (a : Key) : Cell → Cell
  | .element ns name attributes children =>
      .element ns name (attributes.filter (fun b => !same b) ++ [a]) children
  | cell => cell

variable {moved moved' : List Key} {cell : Cell}

@[simp] theorem attributes_without :
    (cell.without moved).attributes = cell.attributes.filter fun a => a ∉ moved := by
  cases cell <;> rfl

@[simp] theorem children_without :
    (cell.without moved).children = cell.children.filter fun c => c ∉ moved := by
  cases cell <;> rfl

@[simp] theorem isElement_without : (cell.without moved).isElement = cell.isElement := by
  cases cell <;> rfl

@[simp] theorem isAttr_without : (cell.without moved).isAttr = cell.isAttr := by
  cases cell <;> rfl

@[simp] theorem nameAndValue_without : (cell.without moved).nameAndValue = cell.nameAndValue := by
  cases cell <;> rfl

theorem without_nil : cell.without [] = cell := by
  cases cell <;> simp [without]

theorem without_without : (cell.without moved).without moved' = cell.without (moved ++ moved') := by
  cases cell with
  | element ns name attributes children =>
      simp only [without, List.filter_filter, List.mem_append, not_or, Bool.decide_and,
        Bool.and_comm]
  | attr name value => rfl
  | text value => rfl

/-- Without references to what it does not refer to a node is the same. -/
theorem without_eq_self (ha : ∀ a ∈ cell.attributes, a ∉ moved)
    (hc : ∀ c ∈ cell.children, c ∉ moved) : cell.without moved = cell := by
  cases cell with
  | element ns name attributes children =>
      have hattributes : attributes.filter (fun a => a ∉ moved) = attributes :=
        List.filter_eq_self.mpr fun a h => decide_eq_true (ha a h)
      have hchildren : children.filter (fun c => c ∉ moved) = children :=
        List.filter_eq_self.mpr fun c h => decide_eq_true (hc c h)
      simp only [without, hattributes, hchildren]
  | attr name value => rfl
  | text value => rfl

end Cell

structure Heap where
  cell : Key → Cell
  nextKey : Nat

namespace Heap

/-! ## Looking -/

def attrOf (h : Heap) (a : Key) : String × String := (h.cell a).nameAndValue

/-- The tree at a node, down to some depth. -/
def unfold (h : Heap) : Nat → Key → Node
  | 0, _ => .text ""
  | n + 1, k =>
      match h.cell k with
      | .element ns name attributes children =>
          .element ns name (attributes.map h.attrOf) (children.map (h.unfold n))
      | .attr _ value => .text value
      | .text value => .text value

theorem unfold_element {h : Heap} {k : Key} {ns name : String} {attributes children : List Key}
    (hcell : h.cell k = .element ns name attributes children) (n : Nat) :
    h.unfold (n + 1) k =
      .element ns name (attributes.map h.attrOf) (children.map (h.unfold n)) := by
  rw [unfold, hcell]

/-- The tree at a node. It has no more levels than there are nodes. -/
def tree (h : Heap) (k : Key) : Node := h.unfold h.nextKey k

/-- The node is an attribute or a child of the element or of one below it. -/
def Inside (h : Heap) (k m : Key) : Prop :=
  ∃ j, Relation.ReflTransGen (fun p c => c ∈ (h.cell p).children) k j ∧
    (m ∈ (h.cell j).attributes ∨ m ∈ (h.cell j).children)

/-- References are to nodes that exist. -/
structure Linked (h : Heap) : Prop where
  attributes : ∀ k < h.nextKey, ∀ a ∈ (h.cell k).attributes, a < h.nextKey
  children : ∀ k < h.nextKey, ∀ c ∈ (h.cell k).children, c < h.nextKey

/-- No node is below itself. -/
structure WellFormed (h : Heap) : Prop extends h.Linked where
  acyclic : ∃ rank : Key → Nat, ∀ k < h.nextKey, ∀ c ∈ (h.cell k).children, rank c < rank k

/-! ## Changing -/

def set (h : Heap) (k : Key) (cell : Cell) : Heap :=
  { h with cell := Function.update h.cell k cell }

/-- A new node. -/
def create (h : Heap) (cell : Cell) : Heap :=
  ⟨Function.update h.cell h.nextKey cell, h.nextKey + 1⟩

/-- `adoptNode`: the node is taken from the place where it is. -/
def adoptNode (h : Heap) (k : Key) : Heap :=
  { h with cell := fun j => (h.cell j).without [k] }

/-- `appendChild`, which takes the child from another place too. -/
def appendChild (h : Heap) (p k : Key) : Heap :=
  let taken := h.adoptNode k
  taken.set p ((taken.cell p).addChild k)

/-- `setAttributeNode`: an attribute of that name is replaced. -/
def setAttributeNode (h : Heap) (p a : Key) : Heap :=
  h.set p ((h.cell p).putAttribute (fun b => (h.attrOf b).1 == (h.attrOf a).1) a)

variable {h h' : Heap} {base n m : Nat} {k : Key} {moved : List Key}

/-! ## Depth -/

/-- The tree at the node has at most this many levels. -/
def Levels (h : Heap) : Nat → Key → Prop
  | 0, _ => False
  | n + 1, k => ∀ c ∈ (h.cell k).children, h.Levels n c

theorem Levels.mono (hle : n ≤ m) (hlevels : h.Levels n k) : h.Levels m k := by
  induction n generalizing m k with
  | zero => exact hlevels.elim
  | succ n ih =>
      obtain ⟨m, rfl⟩ : ∃ m', m = m' + 1 := Nat.exists_eq_succ_of_ne_zero (by omega)
      exact fun c hc => ih (by omega) (hlevels c hc)

/-- Looking further down than the tree goes shows nothing else. -/
theorem unfold_of_levels (hlevels : h.Levels n k) (hle : n ≤ m) : h.unfold m k = h.unfold n k := by
  induction n generalizing m k with
  | zero => exact hlevels.elim
  | succ n ih =>
      obtain ⟨m, rfl⟩ : ∃ m', m = m' + 1 := Nat.exists_eq_succ_of_ne_zero (by omega)
      unfold unfold
      cases hcell : h.cell k with
      | element ns name attributes children =>
          have hchildren : children.map (h.unfold m) = children.map (h.unfold n) := by
            refine List.map_congr_left fun c hc => ih (hlevels c ?_) (by omega)
            rw [hcell]
            exact hc
          simp only [hchildren]
      | attr name value => rfl
      | text value => rfl

/-- **No more levels than nodes.** What is below a node is fewer nodes than what is below its
parent, and not the parent. -/
theorem WellFormed.levels (wf : WellFormed h) (hk : k < h.nextKey) : h.Levels h.nextKey k := by
  classical
  obtain ⟨rank, hrank⟩ := wf.acyclic
  let Child : Key → Key → Prop := fun p c => p < h.nextKey ∧ c ∈ (h.cell p).children
  let below : Key → Finset Key := fun k =>
    (Finset.range h.nextKey).filter fun j => Relation.TransGen Child k j
  have hdown : ∀ {k j}, Relation.TransGen Child k j → rank j < rank k := by
    intro k j hkj
    induction hkj with
    | single hc => exact hrank _ hc.1 _ hc.2
    | tail _ hc ih => exact Nat.lt_trans (hrank _ hc.1 _ hc.2) ih
  have hself : ∀ k, k ∉ below k := fun k hmem =>
    Nat.lt_irrefl _ (hdown (Finset.mem_filter.mp hmem).2)
  have hlevels : ∀ r k, rank k = r → k < h.nextKey → h.Levels ((below k).card + 1) k := by
    intro r
    induction r using Nat.strong_induction_on with
    | _ r ih =>
        rintro k rfl hk c hc
        have hchild : Child k c := ⟨hk, hc⟩
        have hcnext := wf.children k hk c hc
        have hsubset : insert c (below c) ⊆ below k := by
          refine Finset.insert_subset
            (Finset.mem_filter.mpr ⟨Finset.mem_range.mpr hcnext, .single hchild⟩) fun j hj => ?_
          obtain ⟨hj, hcj⟩ := Finset.mem_filter.mp hj
          exact Finset.mem_filter.mpr ⟨hj, .head hchild hcj⟩
        have hcard := Finset.card_le_card hsubset
        rw [Finset.card_insert_of_notMem (hself c)] at hcard
        exact (ih _ (hrank k hk c hc) c rfl hcnext).mono hcard
  apply (hlevels _ k rfl hk).mono
  have hsubset : insert k (below k) ⊆ Finset.range h.nextKey :=
    Finset.insert_subset (Finset.mem_range.mpr hk) (Finset.filter_subset _ _)
  have hcard := Finset.card_le_card hsubset
  rwa [Finset.card_insert_of_notMem (hself k), Finset.card_range] at hcard

/-! ## A part that only refers to itself -/

/-- The nodes before `base` refer to each other only. -/
structure Closed (h : Heap) (base : Nat) : Prop where
  le : base ≤ h.nextKey
  attributes : ∀ k < base, ∀ a ∈ (h.cell k).attributes, a < base
  children : ∀ k < base, ∀ c ∈ (h.cell k).children, c < base
  levels : ∀ k < base, h.Levels base k

theorem WellFormed.closed (wf : WellFormed h) : h.Closed h.nextKey :=
  ⟨le_rfl, wf.attributes, wf.children, fun _ => wf.levels⟩

/-- Enough levels show the whole tree. -/
theorem Closed.unfold_eq (hclosed : h.Closed base) (hk : k < base) (hn : base ≤ n) :
    h.unfold n k = h.tree k := by
  have hlevels := hclosed.levels k hk
  rw [tree, unfold_of_levels hlevels hn, unfold_of_levels hlevels hclosed.le]

/-- The nodes before `base` have lost their references to the moved ones. -/
structure Moved (base : Nat) (moved : List Key) (h h' : Heap) : Prop where
  le : base ≤ h'.nextKey
  cell : ∀ k < base, h'.cell k = (h.cell k).without moved

section Moved

variable (hmoved : Moved base moved h h')
include hmoved

theorem Moved.attrOf (hk : k < base) : h'.attrOf k = h.attrOf k := by
  unfold Heap.attrOf
  rw [hmoved.cell k hk, Cell.nameAndValue_without]

variable (hclosed : h.Closed base)
include hclosed

theorem Moved.levels (hk : k < base) (hlevels : h.Levels n k) : h'.Levels n k := by
  induction n generalizing k with
  | zero => exact hlevels.elim
  | succ n ih =>
      intro c hc
      rw [hmoved.cell k hk, Cell.children_without] at hc
      have hc := (List.mem_filter.mp hc).1
      exact ih (hclosed.children k hk c hc) (hlevels c hc)

theorem Moved.closed : h'.Closed base where
  le := hmoved.le
  attributes := by
    intro k hk a ha
    rw [hmoved.cell k hk, Cell.attributes_without] at ha
    exact hclosed.attributes k hk a (List.mem_filter.mp ha).1
  children := by
    intro k hk c hc
    rw [hmoved.cell k hk, Cell.children_without] at hc
    exact hclosed.children k hk c (List.mem_filter.mp hc).1
  levels := fun k hk => hmoved.levels hclosed hk (hclosed.levels k hk)

/-- Where nothing was moved away the tree is the same. -/
theorem Moved.unfold_eq (hk : k < base) (hnot : ∀ m ∈ moved, ¬ h.Inside k m) :
    h'.unfold n k = h.unfold n k := by
  induction n generalizing k with
  | zero => rfl
  | succ n ih =>
      have hcell : h'.cell k = h.cell k := by
        rw [hmoved.cell k hk]
        exact Cell.without_eq_self
          (fun a ha hmem => hnot a hmem ⟨k, .refl, .inl ha⟩)
          (fun c hc hmem => hnot c hmem ⟨k, .refl, .inr hc⟩)
      unfold unfold
      rw [hcell]
      cases hk' : h.cell k with
      | element ns name attributes children =>
          have hattributes : attributes.map h'.attrOf = attributes.map h.attrOf := by
            refine List.map_congr_left fun a ha => hmoved.attrOf (hclosed.attributes k hk a ?_)
            rwa [hk']
          have hchildren : children.map (h'.unfold n) = children.map (h.unfold n) := by
            apply List.map_congr_left
            intro c hc
            have hc : c ∈ (h.cell k).children := by rwa [hk']
            apply ih (hclosed.children k hk c hc)
            intro m hm
            rintro ⟨j, hcj, hmj⟩
            exact hnot m hm ⟨j, .head hc hcj, hmj⟩
          simp only [hattributes, hchildren]
      | attr name value => rfl
      | text value => rfl

/-- A tree that something was moved out of is another one. -/
theorem Moved.not_inside (hk : k < base) (hlevels : h.Levels n k)
    (hsame : h'.unfold n k = h.unfold n k) : ∀ m ∈ moved, ¬ h.Inside k m := by
  induction n generalizing k with
  | zero => exact hlevels.elim
  | succ n ih =>
      unfold unfold at hsame
      rw [hmoved.cell k hk] at hsame
      cases hk' : h.cell k with
      | element ns name attributes children =>
          rw [hk'] at hsame
          simp only [Cell.without, Node.element.injEq, true_and] at hsame
          obtain ⟨hattributes, hchildren⟩ := hsame
          have hkept : ∀ {l : List Key},
              (l.filter fun a => a ∉ moved).length = l.length → ∀ a ∈ l, a ∉ moved := by
            intro l hlength a ha
            rw [List.length_filter_eq_length_iff] at hlength
            exact of_decide_eq_true (hlength a ha)
          have ha := hkept (l := attributes) (by simpa using congrArg List.length hattributes)
          have hc := hkept (l := children) (by simpa using congrArg List.length hchildren)
          have hall : children.filter (fun c => c ∉ moved) = children :=
            List.filter_eq_self.mpr fun c h => decide_eq_true (hc c h)
          rw [hall] at hchildren
          rintro m hm ⟨j, hkj, hmj⟩
          rcases Relation.ReflTransGen.cases_head hkj with rfl | ⟨c, hck, hcj⟩
          · rw [hk'] at hmj
            rcases hmj with hmj | hmj
            · exact ha m hmj hm
            · exact hc m hmj hm
          · have hcmem : c ∈ children := by rwa [hk'] at hck
            exact ih (hclosed.children k hk c hck) (hlevels c hck)
              (List.map_inj_left.mp hchildren c hcmem) m hm ⟨j, hcj, hmj⟩
      | attr name value =>
          rintro m hm ⟨j, hkj, hmj⟩
          rcases Relation.ReflTransGen.cases_head hkj with rfl | ⟨c, hck, -⟩
          · rw [hk'] at hmj
            rcases hmj with hmj | hmj <;> cases hmj
          · rw [hk'] at hck
            cases hck
      | text value =>
          rintro m hm ⟨j, hkj, hmj⟩
          rcases Relation.ReflTransGen.cases_head hkj with rfl | ⟨c, hck, -⟩
          · rw [hk'] at hmj
            rcases hmj with hmj | hmj <;> cases hmj
          · rw [hk'] at hck
            cases hck

/-- **What a move does to a tree.** The tree stays the same exactly when no moved node was
inside it. -/
theorem Moved.tree_eq_iff (hk : k < base) :
    h'.tree k = h.tree k ↔ ∀ m ∈ moved, ¬ h.Inside k m := by
  rw [← hclosed.unfold_eq hk le_rfl, ← (hmoved.closed hclosed).unfold_eq hk le_rfl]
  exact ⟨hmoved.not_inside hclosed hk (hclosed.levels k hk), hmoved.unfold_eq hclosed hk⟩

end Moved

theorem Moved.trans {h₁ h₂ : Heap} {moved₁ moved₂ : List Key} (h₁₂ : Moved base moved₁ h h₁)
    (h₂₃ : Moved base moved₂ h₁ h₂) : Moved base (moved₁ ++ moved₂) h h₂ where
  le := h₂₃.le
  cell := by
    intro k hk
    rw [h₂₃.cell k hk, h₁₂.cell k hk, Cell.without_without]

theorem Moved.mono {base' : Nat} (hle : base' ≤ base) (hmoved : Moved base moved h h') :
    Moved base' moved h h' :=
  ⟨hle.trans hmoved.le, fun k hk => hmoved.cell k (Nat.lt_of_lt_of_le hk hle)⟩

theorem Moved.refl (hle : base ≤ h.nextKey) : Moved base [] h h :=
  ⟨hle, fun _ _ => Cell.without_nil.symm⟩

end Heap

/-! ## Moving many nodes -/

/-- What is left of a list of nodes where each was put in its turn, and the later ones after
that: a node is where it was put last. -/
def kept : List Key → List Key → List Key
  | [], _ => []
  | k :: l, later => if k ∈ l ∨ k ∈ later then kept l later else k :: kept l later

section Kept

variable {l later later' : List Key} {k : Key}

theorem kept_sublist : (kept l later).Sublist l := by
  induction l with
  | nil => exact .slnil
  | cons k l ih =>
      unfold kept
      split
      · exact ih.cons _
      · exact ih.cons_cons _

/-- Everything is left when each node is put once and not again later. -/
theorem kept_eq_self_iff : kept l later = l ↔ l.Nodup ∧ ∀ k ∈ l, k ∉ later := by
  induction l with
  | nil => simp [kept]
  | cons a l ih =>
      unfold kept
      split
      · rename_i hused
        refine iff_of_false (fun heq => ?_) ?_
        · have hlength : (kept l later).length ≤ l.length := kept_sublist.length_le
          rw [heq, List.length_cons] at hlength
          omega
        · rintro ⟨hnodup, hnot⟩
          rcases hused with hmem | hmem
          · exact (List.nodup_cons.mp hnodup).1 hmem
          · exact hnot a List.mem_cons_self hmem
      · rename_i hlast
        rw [not_or] at hlast
        rw [List.cons.injEq, ih, List.nodup_cons, List.forall_mem_cons]
        constructor
        · rintro ⟨-, hnodup, hnot⟩
          exact ⟨⟨hlast.1, hnodup⟩, hlast.2, hnot⟩
        · rintro ⟨⟨-, hnodup⟩, -, hnot⟩
          exact ⟨rfl, hnodup, hnot⟩

theorem kept_append : (kept l later).filter (fun k => k ∉ later') = kept l (later ++ later') := by
  induction l with
  | nil => rfl
  | cons a l ih =>
      unfold kept
      by_cases hused : a ∈ l ∨ a ∈ later
      · rw [if_pos hused, if_pos (by rw [List.mem_append]; tauto), ih]
      · by_cases hmem : a ∈ later'
        · rw [if_neg hused, if_pos (by rw [List.mem_append]; tauto),
            List.filter_cons_of_neg (by simpa using hmem), ih]
        · rw [if_neg hused, if_neg (by rw [List.mem_append]; tauto),
            List.filter_cons_of_pos (by simpa using hmem), ih]

end Kept

theorem filter_notMem_filter_notMem {l later later' : List Key} :
    (l.filter fun k => k ∉ later).filter (fun k => k ∉ later') =
      l.filter fun k => k ∉ later ++ later' := by
  rw [List.filter_filter]
  apply List.filter_congr
  intro k _
  by_cases hk : k ∈ later <;> simp [hk]

/-- What is left of a list of attributes put on an element one after the other: an attribute is
replaced by the next one with its name. -/
def keptAttributes (nameOf : Key → String) : List Key → List Key
  | [] => []
  | a :: l =>
      if nameOf a ∈ l.map nameOf then keptAttributes nameOf l else a :: keptAttributes nameOf l

theorem keptAttributes_congr {f g : Key → String} {l : List Key} (hfg : ∀ a ∈ l, f a = g a) :
    keptAttributes f l = keptAttributes g l := by
  induction l with
  | nil => rfl
  | cons a l ih =>
      obtain ⟨ha, hl⟩ := List.forall_mem_cons.mp hfg
      unfold keptAttributes
      rw [ih hl, ha, List.map_congr_left hl]

theorem keptAttributes_sublist (nameOf : Key → String) (l : List Key) :
    (keptAttributes nameOf l).Sublist l := by
  induction l with
  | nil => exact .slnil
  | cons a l ih =>
      unfold keptAttributes
      split
      · exact ih.cons _
      · exact ih.cons_cons _

theorem keptAttributes_eq_self_iff {nameOf : Key → String} {l : List Key} :
    keptAttributes nameOf l = l ↔ (l.map nameOf).Nodup := by
  induction l with
  | nil => exact iff_of_true rfl List.nodup_nil
  | cons a l ih =>
      rw [List.map_cons, List.nodup_cons, ← ih]
      by_cases hmem : nameOf a ∈ l.map nameOf
      · rw [keptAttributes, if_pos hmem]
        refine iff_of_false (fun heq => ?_) fun hnot => hnot.1 hmem
        have hlength := (keptAttributes_sublist nameOf l).length_le
        rw [heq, List.length_cons] at hlength
        omega
      · rw [keptAttributes, if_neg hmem, List.cons.injEq]
        exact and_congr_left fun _ => iff_of_true rfl hmem

/-- One more attribute, before the others. -/
theorem putAttribute_keptAttributes (nameOf : Key → String) (a : Key) (l attributes : List Key) :
    ((attributes.filter fun b => b ∉ [a]).filter (fun b => nameOf b ≠ nameOf a) ++ [a]).filter
        (fun b => nameOf b ∉ l.map nameOf) ++ keptAttributes nameOf l =
      attributes.filter (fun b => nameOf b ∉ (a :: l).map nameOf) ++
        keptAttributes nameOf (a :: l) := by
  have hold : ((attributes.filter fun b => b ∉ [a]).filter fun b => nameOf b ≠ nameOf a).filter
      (fun b => nameOf b ∉ l.map nameOf) =
        attributes.filter fun b => nameOf b ∉ (a :: l).map nameOf := by
    rw [List.filter_filter, List.filter_filter]
    apply List.filter_congr
    intro b _
    by_cases hba : b = a
    · simp [hba]
    · by_cases hname : nameOf b = nameOf a <;> simp [hba, hname]
  rw [List.filter_append, hold, List.append_assoc]
  congr 1
  by_cases hmem : nameOf a ∈ l.map nameOf
  · rw [List.filter_cons_of_neg (by simpa using hmem), keptAttributes, if_pos hmem]
    rfl
  · rw [List.filter_cons_of_pos (by simpa using hmem), keptAttributes, if_neg hmem]
    rfl

namespace Heap

variable {h h' h'' : Heap} {e k a c : Key} {l l' attributes children : List Key}
  {ns name : String}

/-! ## Elements that are being made -/

/-- An element that is in no other one. -/
structure Open (h : Heap) (e : Key) : Prop extends h.Linked where
  lt : e < h.nextKey
  noAttribute : ∀ k < h.nextKey, e ∉ (h.cell k).attributes
  noChild : ∀ k < h.nextKey, e ∉ (h.cell k).children

/-- Only the element has changed, but for references to what was moved into it. -/
structure Touched (e : Key) (moved : List Key) (h h' : Heap) : Prop where
  le : h.nextKey ≤ h'.nextKey
  cell : ∀ k < h.nextKey, k ≠ e → h'.cell k = (h.cell k).without moved

theorem Touched.refl : Touched e [] h h := ⟨le_rfl, fun _ _ _ => Cell.without_nil.symm⟩

theorem Touched.trans (h₁ : Touched e l h h') (h₂ : Touched e l' h' h'') :
    Touched e (l ++ l') h h'' where
  le := h₁.le.trans h₂.le
  cell := by
    intro k hk hne
    rw [h₂.cell k (Nat.lt_of_lt_of_le hk h₁.le) hne, h₁.cell k hk hne, Cell.without_without]

theorem cell_adoptNode (j : Key) : (h.adoptNode k).cell j = (h.cell j).without [k] := rfl

theorem touched_adoptNode : Touched e [k] h (h.adoptNode k) := ⟨le_rfl, fun _ _ _ => rfl⟩

theorem Moved.touched (hmoved : Moved h.nextKey l h h') : Touched e l h h' :=
  ⟨hmoved.le, fun k hk _ => hmoved.cell k hk⟩

theorem Touched.moved {base : Nat} (htouched : Touched e l h h') (hbase : base ≤ e)
    (hle : base ≤ h.nextKey) : Moved base l h h' :=
  ⟨hle.trans htouched.le, fun k hk =>
    htouched.cell k (Nat.lt_of_lt_of_le hk hle) (Nat.ne_of_lt (Nat.lt_of_lt_of_le hk hbase))⟩

theorem cell_set (hk : k ≠ e) (cell : Cell) : (h.set e cell).cell k = h.cell k :=
  Function.update_of_ne hk _ _

theorem cell_set_self (cell : Cell) : (h.set e cell).cell e = cell := Function.update_self ..

theorem cell_create (hk : k < h.nextKey) (cell : Cell) : (h.create cell).cell k = h.cell k :=
  Function.update_of_ne (Nat.ne_of_lt hk) _ _

theorem cell_create_self (cell : Cell) : (h.create cell).cell h.nextKey = cell :=
  Function.update_self ..

/-- A new node without references. -/
theorem Linked.create (hlinked : h.Linked) {cell : Cell} (ha : cell.attributes = [])
    (hc : cell.children = []) : (h.create cell).Open h.nextKey := by
  have hcell : ∀ k < h.nextKey + 1, (h.create cell).cell k = h.cell k ∧ k < h.nextKey ∨
      (h.create cell).cell k = cell := by
    intro k hk
    rcases Nat.lt_succ_iff_lt_or_eq.mp hk with hk | rfl
    · exact .inl ⟨cell_create hk cell, hk⟩
    · exact .inr (cell_create_self cell)
  have hattributes : ∀ k < h.nextKey + 1, ∀ a ∈ ((h.create cell).cell k).attributes,
      a < h.nextKey := by
    intro k hk a hmem
    rcases hcell k hk with ⟨heq, hk⟩ | heq
    · rw [heq] at hmem
      exact hlinked.attributes k hk a hmem
    · rw [heq, ha] at hmem
      cases hmem
  have hchildren : ∀ k < h.nextKey + 1, ∀ c ∈ ((h.create cell).cell k).children,
      c < h.nextKey := by
    intro k hk c hmem
    rcases hcell k hk with ⟨heq, hk⟩ | heq
    · rw [heq] at hmem
      exact hlinked.children k hk c hmem
    · rw [heq, hc] at hmem
      cases hmem
  refine ⟨⟨fun k hk a ha => ?_, fun k hk c hc => ?_⟩, Nat.lt_succ_self _, fun k hk hmem => ?_,
    fun k hk hmem => ?_⟩
  · exact Nat.lt_succ_of_lt (hattributes k hk a ha)
  · exact Nat.lt_succ_of_lt (hchildren k hk c hc)
  · exact Nat.lt_irrefl _ (hattributes k hk _ hmem)
  · exact Nat.lt_irrefl _ (hchildren k hk _ hmem)

theorem Open.create (hopen : h.Open e) {cell : Cell} (ha : cell.attributes = [])
    (hc : cell.children = []) : (h.create cell).Open e := by
  refine ⟨(hopen.toLinked.create ha hc).toLinked, Nat.lt_succ_of_lt hopen.lt, ?_, ?_⟩
  · intro k hk hmem
    rcases Nat.lt_succ_iff_lt_or_eq.mp hk with hk | rfl
    · rw [cell_create hk] at hmem
      exact hopen.noAttribute k hk hmem
    · rw [cell_create_self, ha] at hmem
      cases hmem
  · intro k hk hmem
    rcases Nat.lt_succ_iff_lt_or_eq.mp hk with hk | rfl
    · rw [cell_create hk] at hmem
      exact hopen.noChild k hk hmem
    · rw [cell_create_self, hc] at hmem
      cases hmem

theorem moved_create (cell : Cell) : Moved h.nextKey [] h (h.create cell) :=
  ⟨Nat.le_succ _, fun _ hk => (cell_create hk cell).trans Cell.without_nil.symm⟩

/-- A cell is replaced by one without a reference to the element. -/
theorem Open.set (hopen : h.Open e) {cell : Cell}
    (ha : ∀ a ∈ cell.attributes, a < h.nextKey ∧ a ≠ e)
    (hc : ∀ c ∈ cell.children, c < h.nextKey ∧ c ≠ e) : (h.set k cell).Open e := by
  have hattributes : ∀ j < h.nextKey, ∀ a ∈ ((h.set k cell).cell j).attributes,
      a < h.nextKey ∧ a ≠ e := by
    intro j hj a hmem
    by_cases hjk : j = k
    · rw [hjk, cell_set_self] at hmem
      exact ha a hmem
    · rw [cell_set hjk] at hmem
      refine ⟨hopen.attributes j hj a hmem, ?_⟩
      rintro rfl
      exact hopen.noAttribute j hj hmem
  have hchildren : ∀ j < h.nextKey, ∀ c ∈ ((h.set k cell).cell j).children,
      c < h.nextKey ∧ c ≠ e := by
    intro j hj c hmem
    by_cases hjk : j = k
    · rw [hjk, cell_set_self] at hmem
      exact hc c hmem
    · rw [cell_set hjk] at hmem
      refine ⟨hopen.children j hj c hmem, ?_⟩
      rintro rfl
      exact hopen.noChild j hj hmem
  exact ⟨⟨fun j hj a ha => (hattributes j hj a ha).1, fun j hj c hc => (hchildren j hj c hc).1⟩,
    hopen.lt, fun j hj hmem => (hattributes j hj e hmem).2 rfl,
    fun j hj hmem => (hchildren j hj e hmem).2 rfl⟩

/-- What an open element is not in refers to other nodes. -/
theorem Open.ne_of_cell {x : Key} (hx : h.Open x) (he : e < h.nextKey)
    (hlinked : h.Linked) (hcell : h.cell e = .element ns name attributes children) :
    (∀ a ∈ attributes, a < h.nextKey ∧ a ≠ x) ∧ ∀ c ∈ children, c < h.nextKey ∧ c ≠ x := by
  constructor
  · intro a ha
    have ha : a ∈ (h.cell e).attributes := by
      rw [hcell]
      exact ha
    refine ⟨hlinked.attributes e he a ha, ?_⟩
    rintro rfl
    exact hx.noAttribute e he ha
  · intro c hc
    have hc : c ∈ (h.cell e).children := by
      rw [hcell]
      exact hc
    refine ⟨hlinked.children e he c hc, ?_⟩
    rintro rfl
    exact hx.noChild e he hc

theorem Open.adoptNode (hopen : h.Open e) (k : Key) : (h.adoptNode k).Open e where
  attributes := by
    intro j hj a ha
    rw [Heap.adoptNode, Cell.attributes_without] at ha
    exact hopen.attributes j hj a (List.mem_filter.mp ha).1
  children := by
    intro j hj c hc
    rw [Heap.adoptNode, Cell.children_without] at hc
    exact hopen.children j hj c (List.mem_filter.mp hc).1
  lt := hopen.lt
  noAttribute := by
    intro j hj he
    rw [Heap.adoptNode, Cell.attributes_without] at he
    exact hopen.noAttribute j hj (List.mem_filter.mp he).1
  noChild := by
    intro j hj he
    rw [Heap.adoptNode, Cell.children_without] at he
    exact hopen.noChild j hj (List.mem_filter.mp he).1

/-- An open element is put into another one. -/
theorem Open.appendChild (hopen : h.Open e) (hc : h.Open c)
    (hcell : h.cell e = .element ns name attributes children) :
    (∀ x, h.Open x → x ≠ c → (h.appendChild e c).Open x) ∧
      Touched e [] h (h.appendChild e c) ∧
      (h.appendChild e c).cell e = .element ns name attributes (children ++ [c]) := by
  have hsame : ∀ k < h.nextKey, (h.adoptNode c).cell k = h.cell k := fun k hk =>
    Cell.without_eq_self
      (fun a ha hmem => hc.noAttribute k hk (List.mem_singleton.mp hmem ▸ ha))
      (fun a ha hmem => hc.noChild k hk (List.mem_singleton.mp hmem ▸ ha))
  have hnew : ((h.adoptNode c).cell e).addChild c =
      .element ns name attributes (children ++ [c]) := by
    rw [hsame e hopen.lt, hcell]
    rfl
  refine ⟨fun x hx hxc => ?_, ⟨le_rfl, fun k hk hke => ?_⟩, (cell_set_self _).trans hnew⟩
  · obtain ⟨hattributes, hchildren⟩ := hx.ne_of_cell hopen.lt hopen.toLinked hcell
    refine (hx.adoptNode c).set ?_ ?_
    · rw [hnew]
      exact hattributes
    · rw [hnew]
      exact List.forall_mem_append.mpr
        ⟨hchildren, List.forall_mem_singleton.mpr ⟨hc.lt, hxc.symm⟩⟩
  · rw [Cell.without_nil, ← hsame k hk]
    exact cell_set hke _

/-- One node is moved into the element. -/
theorem Open.adopt (hopen : h.Open e) (hk : k < h.nextKey)
    (hcell : h.cell e = .element ns name attributes children) :
    (∀ x, h.Open x → x ≠ k → ((h.adoptNode k).appendChild e k).Open x) ∧
      Touched e [k] h ((h.adoptNode k).appendChild e k) ∧
      ((h.adoptNode k).appendChild e k).cell e =
        .element ns name (attributes.filter fun a => a ∉ [k])
          (children.filter (fun c => c ∉ [k]) ++ [k]) := by
  have htwice : ∀ j, ((h.adoptNode k).adoptNode k).cell j = (h.cell j).without [k] := by
    intro j
    apply Cell.without_without.trans
    cases h.cell j <;> simp [Cell.without]
  have hnew : (((h.adoptNode k).adoptNode k).cell e).addChild k =
      .element ns name (attributes.filter fun a => a ∉ [k])
        (children.filter (fun c => c ∉ [k]) ++ [k]) := by
    rw [htwice, hcell]
    rfl
  refine ⟨fun x hx hxk => ?_, ⟨le_rfl, fun j hj hje => (cell_set hje _).trans (htwice j)⟩,
    (cell_set_self _).trans hnew⟩
  obtain ⟨hattributes, hchildren⟩ := hx.ne_of_cell hopen.lt hopen.toLinked hcell
  refine ((hx.adoptNode k).adoptNode k).set ?_ ?_
  · rw [hnew]
    exact fun a ha => hattributes a (List.mem_filter.mp ha).1
  · rw [hnew]
    exact List.forall_mem_append.mpr ⟨fun c hc => hchildren c (List.mem_filter.mp hc).1,
      List.forall_mem_singleton.mpr ⟨hk, hxk.symm⟩⟩

theorem filter_notMem_cons {l' : List Key} :
    (l.filter fun a => a ∉ [k]).filter (fun a => a ∉ l') = l.filter fun a => a ∉ k :: l' := by
  rw [List.filter_filter]
  apply List.filter_congr
  intro a _
  by_cases ha : a = k <;> simp [ha]

/-- **Moving nodes into an element.** -/
theorem Open.adoptAll (l : List Key) (hopen : h.Open e) (hl : ∀ k ∈ l, k < h.nextKey ∧ k ≠ e)
    (hcell : h.cell e = .element ns name attributes children) :
    let h' := l.foldl (fun h k => (h.adoptNode k).appendChild e k) h
    (∀ x, h.Open x → x ∉ l → h'.Open x) ∧ Touched e l h h' ∧ h'.cell e =
      .element ns name (attributes.filter fun a => a ∉ l)
        (children.filter (fun c => c ∉ l) ++ kept l []) := by
  induction l generalizing h attributes children with
  | nil =>
      refine ⟨fun _ hx _ => hx, .refl, hcell.trans ?_⟩
      simp [kept]
  | cons k l ih =>
      obtain ⟨hk, hrest⟩ := List.forall_mem_cons.mp hl
      obtain ⟨hkeeps, htouched, hcell'⟩ := hopen.adopt hk.1 hcell
      obtain ⟨hkeeps', htouched', hcell''⟩ := ih (hkeeps e hopen hk.2.symm) hrest hcell'
      refine ⟨fun x hx hnot => ?_, htouched.trans htouched', hcell''.trans ?_⟩
      · obtain ⟨hxk, hxl⟩ := not_or.mp (List.mem_cons.not.mp hnot)
        exact hkeeps' x (hkeeps x hx hxk) hxl
      · rw [filter_notMem_cons, List.filter_append, filter_notMem_cons, List.append_assoc]
        congr 2
        by_cases hmem : k ∈ l <;> simp [kept, hmem]

theorem attrOf_adoptNode : (h.adoptNode k).attrOf a = h.attrOf a := Cell.nameAndValue_without

/-- An attribute is put on the element. -/
theorem Open.putAttribute (hopen : h.Open e) (ha : a < h.nextKey)
    (hcell : h.cell e = .element ns name attributes children) :
    (∀ x, h.Open x → x ≠ a → (h.setAttributeNode e a).Open x) ∧
      Touched e [] h (h.setAttributeNode e a) ∧
      (h.setAttributeNode e a).cell e = .element ns name
        (attributes.filter (fun b => (h.attrOf b).1 ≠ (h.attrOf a).1) ++ [a]) children := by
  have hnew : (h.cell e).putAttribute (fun b => (h.attrOf b).1 == (h.attrOf a).1) a =
      .element ns name (attributes.filter (fun b => (h.attrOf b).1 ≠ (h.attrOf a).1) ++ [a])
        children := by
    rw [hcell]
    simp only [Cell.putAttribute, ne_eq, decide_not, Bool.beq_eq_decide_eq]
  refine ⟨fun x hx hxa => ?_,
    ⟨le_rfl, fun j _ hje => (cell_set hje _).trans Cell.without_nil.symm⟩,
    (cell_set_self _).trans hnew⟩
  obtain ⟨hattributes, hchildren⟩ := hx.ne_of_cell hopen.lt hopen.toLinked hcell
  refine hx.set ?_ ?_
  · rw [hnew]
    exact List.forall_mem_append.mpr ⟨fun b hb => hattributes b (List.mem_filter.mp hb).1,
      List.forall_mem_singleton.mpr ⟨ha, hxa.symm⟩⟩
  · rw [hnew]
    exact hchildren

theorem Touched.attrOf (htouched : Touched e l h h') (hk : k < h.nextKey) (hne : k ≠ e) :
    h'.attrOf k = h.attrOf k := by
  unfold Heap.attrOf
  rw [htouched.cell k hk hne, Cell.nameAndValue_without]

/-- **Moving attributes to an element.** -/
theorem Open.adoptAttributes (l : List Key) (hopen : h.Open e)
    (hl : ∀ k ∈ l, k < h.nextKey ∧ k ≠ e)
    (hcell : h.cell e = .element ns name attributes children) :
    let h' := l.foldl (fun h a => (h.adoptNode a).setAttributeNode e a) h
    let nameOf := fun a => (h.attrOf a).1
    (∀ x, h.Open x → x ∉ l → h'.Open x) ∧ Touched e l h h' ∧ h'.cell e =
      .element ns name
        (attributes.filter (fun b => nameOf b ∉ l.map nameOf) ++ keptAttributes nameOf l)
        (children.filter fun c => c ∉ l) := by
  induction l generalizing h attributes children with
  | nil =>
      refine ⟨fun _ hx _ => hx, .refl, hcell.trans ?_⟩
      simp [keptAttributes]
  | cons a l ih =>
      obtain ⟨ha, hrest⟩ := List.forall_mem_cons.mp hl
      have hcell' : (h.adoptNode a).cell e = .element ns name
          (attributes.filter fun b => b ∉ [a]) (children.filter fun c => c ∉ [a]) := by
        rw [cell_adoptNode, hcell]
        rfl
      obtain ⟨hkeeps, htouched, hcell''⟩ := (hopen.adoptNode a).putAttribute ha.1 hcell'
      have htouched₁ := (touched_adoptNode (e := e) (k := a) (h := h)).trans htouched
      have hname : ∀ b, ((h.adoptNode a).setAttributeNode e a).attrOf b = h.attrOf b := by
        intro b
        unfold attrOf
        by_cases hbe : b = e
        · rw [hbe, hcell'', hcell]
          rfl
        · rw [show ((h.adoptNode a).setAttributeNode e a).cell b = (h.cell b).without [a] from
            cell_set hbe _, Cell.nameAndValue_without]
      obtain ⟨hkeeps', htouched', hcell₃⟩ :=
        ih (hkeeps e (hopen.adoptNode a) ha.2.symm) hrest hcell''
      refine ⟨fun x hx hnot => ?_, htouched₁.trans htouched', hcell₃.trans ?_⟩
      · obtain ⟨hxa, hxl⟩ := not_or.mp (List.mem_cons.not.mp hnot)
        exact hkeeps' x (hkeeps x (hx.adoptNode a) hxa) hxl
      · simp only [hname, attrOf_adoptNode]
        rw [filter_notMem_cons, putAttribute_keptAttributes]

/-- A new attribute is put on the element. -/
theorem Open.newAttribute (hopen : h.Open e) {n v : String}
    (hcell : h.cell e = .element ns name attributes children)
    (hnew : ∀ b ∈ attributes, (h.attrOf b).1 ≠ n) :
    let h' := (h.create (.attr n v)).setAttributeNode e h.nextKey
    (∀ x, h.Open x → h'.Open x) ∧ Touched e [] h h' ∧
      h'.cell e = .element ns name (attributes ++ [h.nextKey]) children ∧
      (attributes ++ [h.nextKey]).map h'.attrOf = attributes.map h.attrOf ++ [(n, v)] := by
  have hcreate : Touched e [] h (h.create (.attr n v)) := (moved_create _).touched
  have hopen₁ : ∀ x, h.Open x → (h.create (.attr n v)).Open x := fun x hx => hx.create rfl rfl
  have hcell₁ : (h.create (.attr n v)).cell e = .element ns name attributes children := by
    rw [cell_create hopen.lt, hcell]
  obtain ⟨hkeeps, htouched, hcell₂⟩ :=
    (hopen₁ e hopen).putAttribute (Nat.lt_succ_self _) hcell₁
  have hmem := (hopen.ne_of_cell hopen.lt hopen.toLinked hcell).1
  have hnode : (h.create (.attr n v)).attrOf h.nextKey = (n, v) := by
    unfold attrOf
    rw [cell_create_self]
    rfl
  have hold : ∀ b ∈ attributes, (h.create (.attr n v)).attrOf b = h.attrOf b := fun b hb =>
    hcreate.attrOf (hmem b hb).1 (hmem b hb).2
  have hall : attributes.filter (fun b => ((h.create (.attr n v)).attrOf b).1 ≠
      ((h.create (.attr n v)).attrOf h.nextKey).1) = attributes := by
    refine List.filter_eq_self.mpr fun b hb => decide_eq_true ?_
    rw [hold b hb, hnode]
    exact hnew b hb
  rw [hall] at hcell₂
  refine ⟨fun x hx => hkeeps x (hopen₁ x hx) (Nat.ne_of_lt hx.lt), hcreate.trans htouched,
    hcell₂, ?_⟩
  rw [List.map_append, List.map_singleton,
    htouched.attrOf (Nat.lt_succ_self _) (Nat.ne_of_gt hopen.lt), hnode]
  congr 1
  apply List.map_congr_left
  intro b hb
  rw [htouched.attrOf (Nat.lt_succ_of_lt (hmem b hb).1) (hmem b hb).2, hold b hb]

end Heap

end SigVal.SharedDom
