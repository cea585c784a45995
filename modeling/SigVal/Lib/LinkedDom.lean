import SigVal.Lib.HashMap
import Mathlib.Data.List.Nodup
import Mathlib.Data.List.Infix

/-!
# Documents that are changed in place

A program that holds on to elements while it removes and adds others sees the links
between nodes, not a tree of values. Here a node has an identity and the chain of its
ancestors, the nearest first; the nodes stand in document order. A node that was removed
stays, as the root of its own chain, for whoever still holds it.

Cutting several nodes loose at once is one operation, `detachAll`. It composes, and what
is below a node afterwards is what was below it and not below a node that was cut.
-/

namespace SigVal.LinkedDom

open SigVal.Java

/-- The identity of a node. -/
abbrev Key := Nat

/-- What a node is. An absent namespace or prefix is the empty text; comments and
processing instructions are `other`. -/
inductive Content where
  | document
  | element (namespaceURI localName nsPrefix : String) (attributes : List (String × String))
  | text (value : String)
  | other (data : String)
deriving DecidableEq, Repr

structure Node where
  key : Key
  ancestors : List Key
  content : Content
deriving DecidableEq, Repr

/-- The nodes of a document, attached or not, in document order. Attributes that were
declared to be of type ID are listed apart from the nodes. -/
structure Heap where
  nodes : List Node
  idAttributes : List (Key × String)
  nextKey : Key
deriving DecidableEq, Repr

/-- The key of the document node. -/
def documentKey : Key := 0

namespace Content

def isElement : Content → Bool
  | .element .. => true
  | _ => false

def hasName (namespaceURI localName : String) : Content → Bool
  | .element ns name _ _ => ns == namespaceURI && name == localName
  | _ => false

/-- `getLocalName`, of an element. -/
def localName : Content → String
  | .element _ name _ _ => name
  | _ => ""

/-- `getNamespaceURI`, of an element. -/
def namespaceURI : Content → String
  | .element ns _ _ _ => ns
  | _ => ""

/-- `getPrefix`, of an element. -/
def getPrefix : Content → String
  | .element _ _ pre _ => pre
  | _ => ""

/-- `getAttribute`, the empty text for an absent one. -/
def getAttribute (name : String) : Content → String
  | .element _ _ _ attributes => (attributes.lookup name).getD ""
  | _ => ""

/-- `hasAttribute`. -/
def hasAttribute (name : String) : Content → Bool
  | .element _ _ _ attributes => (attributes.lookup name).isSome
  | _ => false

def setAttribute (name value : String) : Content → Content
  | .element ns local' pre attributes => .element ns local' pre (putEntry attributes name value)
  | content => content

/-- The text of a text node. -/
def value? : Content → Option String
  | .text value => some value
  | _ => none

@[simp] theorem hasName_setAttribute (name value ns local' : String) (content : Content) :
    (content.setAttribute name value).hasName ns local' = content.hasName ns local' := by
  cases content <;> rfl

@[simp] theorem getAttribute_setAttribute_self {content : Content}
    (h : content.isElement = true) (name value : String) :
    (content.setAttribute name value).getAttribute name = value := by
  cases content with
  | element ns local' pre attributes => simp [setAttribute, getAttribute]
  | document => cases h
  | text value => cases h
  | other data => cases h

theorem getAttribute_setAttribute_of_ne {content : Content} {name name' : String}
    (h : name' ≠ name) (value : String) :
    (content.setAttribute name value).getAttribute name' = content.getAttribute name' := by
  cases content with
  | element ns local' pre attributes => simp [setAttribute, getAttribute, lookup_putEntry_of_ne h]
  | document => rfl
  | text => rfl
  | other => rfl

@[simp] theorem isElement_setAttribute (name value : String) (content : Content) :
    (content.setAttribute name value).isElement = content.isElement := by
  cases content <;> rfl

theorem names_setAttribute (name value : String) (content : Content) :
    (content.setAttribute name value).namespaceURI = content.namespaceURI ∧
      (content.setAttribute name value).localName = content.localName := by
  cases content with
  | element => exact ⟨rfl, rfl⟩
  | document => exact ⟨rfl, rfl⟩
  | text => exact ⟨rfl, rfl⟩
  | other => exact ⟨rfl, rfl⟩

theorem localName_of_hasName {content : Content} {ns local' : String}
    (h : content.hasName ns local' = true) : content.localName = local' := by
  cases content with
  | element ns' name pre attributes =>
      have hname : name = local' := by simpa using (Bool.and_eq_true_iff.mp h).2
      exact hname
  | document => cases h
  | text => cases h
  | other => cases h

theorem isElement_of_hasName {content : Content} {ns local' : String}
    (h : content.hasName ns local' = true) : content.isElement = true := by
  cases content with
  | element => rfl
  | document => cases h
  | text => cases h
  | other => cases h

end Content

namespace Heap

variable {h : Heap} {x p k : Key} {n m : Node}

/-! ## Reading -/

def node? (h : Heap) (k : Key) : Option Node := h.nodes.find? (·.key == k)

/-- The ancestors of a node, the nearest first. -/
def chain (h : Heap) (k : Key) : List Key := ((h.node? k).map (·.ancestors)).getD []

def contentOf (h : Heap) (k : Key) : Content := ((h.node? k).map (·.content)).getD .document

/-- The nodes below a node, in document order. -/
def below (h : Heap) (k : Key) : List Node := h.nodes.filter fun n => decide (k ∈ n.ancestors)

/-- `getChildNodes`. -/
def children (h : Heap) (k : Key) : List Node :=
  h.nodes.filter fun n => n.ancestors.head? == some k

/-- `getElementsByTagNameNS`, of an element or the document. -/
def getElementsByTagNameNS (h : Heap) (k : Key) (namespaceURI localName : String) : List Key :=
  ((h.below k).filter (·.content.hasName namespaceURI localName)).map (·.key)

/-- `getTextContent`. -/
def getTextContent (h : Heap) (k : Key) : String :=
  String.join ((h.below k).filterMap (·.content.value?))

/-- `getDocumentElement`. -/
def getDocumentElement (h : Heap) : Option Key :=
  ((h.children documentKey).find? (·.content.isElement)).map (·.key)

/-! ## Changing -/

/-- The chain up to the first of the keys. -/
def cut (gone : List Key) : List Key → List Key
  | [] => []
  | a :: rest => if a ∈ gone then [a] else a :: cut gone rest

/-- A node once the nodes of the keys were removed from their parents. -/
def detachNode (gone : List Key) (n : Node) : Node :=
  { n with ancestors := if n.key ∈ gone then [] else cut gone n.ancestors }

/-- `removeChild` on the parents of several nodes. -/
def detachAll (h : Heap) (gone : List Key) : Heap :=
  { h with nodes := h.nodes.map (detachNode gone) }

/-- `removeChild` on the parent of a node. -/
def removeChild (h : Heap) (k : Key) : Heap := h.detachAll [k]

/-- The element stands after the last one with the property. -/
def insertAfterLast {α : Type} (q : α → Bool) (a : α) : List α → List α
  | [] => [a]
  | b :: rest => if q b && !rest.any q then b :: a :: rest else b :: insertAfterLast q a rest

/-- The last child of `p`, with this content. -/
def newChild (h : Heap) (p : Key) (content : Content) : Node :=
  ⟨h.nextKey, p :: h.chain p, content⟩

/-- `appendChild` of a node that was just created. -/
def appendChild (h : Heap) (p : Key) (content : Content) : Heap :=
  { h with
    nodes := insertAfterLast (fun n => n.key == p || decide (p ∈ n.ancestors))
      (h.newChild p content) h.nodes
    nextKey := h.nextKey + 1 }

/-- A node once the attribute of the node `k` is set. -/
def setNodeAttribute (k : Key) (name value : String) (n : Node) : Node :=
  if n.key = k then { n with content := n.content.setAttribute name value } else n

/-- `setAttribute` of an element. -/
def setAttribute (h : Heap) (k : Key) (name value : String) : Heap :=
  { h with nodes := h.nodes.map (setNodeAttribute k name value) }

/-- `setTextContent`, of an element without children. -/
def setTextContent (h : Heap) (k : Key) (value : String) : Heap :=
  if value = "" then h else h.appendChild k (.text value)

/-- `setIdAttribute(name, true)`. -/
def setIdAttribute (h : Heap) (k : Key) (name : String) : Heap :=
  { h with idAttributes := (k, name) :: h.idAttributes }

end Heap

/-- What holds of the nodes of every document: identities are not shared, a chain goes on
with the chain of the parent, and nodes come after their ancestors. -/
structure WellFormed (h : Heap) : Prop where
  keys_nodup : (h.nodes.map Node.key).Nodup
  fresh : ∀ n ∈ h.nodes, n.key < h.nextKey
  coherent : ∀ n ∈ h.nodes, ∀ p rest, n.ancestors = p :: rest →
    ∃ m ∈ h.nodes, m.key = p ∧ m.ancestors = rest
  ordered : h.nodes.Pairwise fun a b => b.key ∉ a.ancestors
  root : ⟨documentKey, [], .document⟩ ∈ h.nodes

/-- The parent of the node is there, with the rest of the chain. -/
def Linked (h : Heap) (n : Node) : Bool :=
  match n.ancestors with
  | [] => true
  | p :: rest => h.nodes.any fun m => m.key == p && m.ancestors == rest

theorem linked_iff {h : Heap} {n : Node} : Linked h n = true ↔
    ∀ p rest, n.ancestors = p :: rest → ∃ m ∈ h.nodes, m.key = p ∧ m.ancestors = rest := by
  unfold Linked
  cases n.ancestors with
  | nil => simp
  | cons p rest => simp

instance (h : Heap) : Decidable (WellFormed h) :=
  decidable_of_iff ((h.nodes.map Node.key).Nodup ∧ (∀ n ∈ h.nodes, n.key < h.nextKey) ∧
      (∀ n ∈ h.nodes, Linked h n = true) ∧ (h.nodes.Pairwise fun a b => b.key ∉ a.ancestors) ∧
      ⟨documentKey, [], .document⟩ ∈ h.nodes)
    ⟨fun ⟨hkeys, hfresh, hlinked, hordered, hroot⟩ =>
        ⟨hkeys, hfresh, fun n hn => linked_iff.mp (hlinked n hn), hordered, hroot⟩,
      fun wf => ⟨wf.keys_nodup, wf.fresh, fun n hn => linked_iff.mpr (wf.coherent n hn),
        wf.ordered, wf.root⟩⟩

/-- A document. -/
structure Document extends Heap where
  wellFormed : WellFormed toHeap

namespace Heap

variable {h : Heap} {a b k p x : Key} {n m : Node} {gone gone' l : List Key}

theorem mem_below : n ∈ h.below k ↔ n ∈ h.nodes ∧ k ∈ n.ancestors := by
  simp [below]

theorem mem_children : n ∈ h.children k ↔ n ∈ h.nodes ∧ n.ancestors.head? = some k := by
  simp [children]

theorem mem_getElementsByTagNameNS {ns name : String} :
    x ∈ h.getElementsByTagNameNS k ns name ↔
      ∃ n ∈ h.nodes, k ∈ n.ancestors ∧ n.content.hasName ns name = true ∧ n.key = x := by
  simp [getElementsByTagNameNS, mem_below, and_assoc]

/-! ## Chains -/

theorem exists_of_mem_chain (ha : a ∈ h.chain x) :
    ∃ n ∈ h.nodes, n.key = x ∧ h.chain x = n.ancestors := by
  unfold chain at ha ⊢
  cases hnode : h.node? x with
  | none =>
      rw [hnode] at ha
      cases ha
  | some n =>
      have hkey : n.key = x := by simpa using List.find?_some hnode
      exact ⟨n, List.mem_of_find?_eq_some hnode, hkey, rfl⟩

section WellFormed

variable (wf : WellFormed h)
include wf

theorem eq_of_key_eq (hn : n ∈ h.nodes) (hm : m ∈ h.nodes) (hkey : n.key = m.key) : n = m :=
  List.inj_on_of_nodup_map wf.keys_nodup hn hm hkey

theorem node?_of_mem (hn : n ∈ h.nodes) : h.node? n.key = some n := by
  unfold node?
  cases hfind : h.nodes.find? (·.key == n.key) with
  | none => exact absurd (List.find?_eq_none.mp hfind n hn) (by simp)
  | some m =>
      have hkey : m.key = n.key := by simpa using List.find?_some hfind
      rw [eq_of_key_eq wf (List.mem_of_find?_eq_some hfind) hn hkey]

theorem chain_of_mem (hn : n ∈ h.nodes) : h.chain n.key = n.ancestors := by
  unfold chain
  rw [node?_of_mem wf hn]
  rfl

theorem contentOf_of_mem (hn : n ∈ h.nodes) : h.contentOf n.key = n.content := by
  unfold contentOf
  rw [node?_of_mem wf hn]
  rfl

/-- From an ancestor on, the chain is the chain of the ancestor. -/
theorem chain_split (ha : a ∈ h.chain x) :
    ∃ pre, h.chain x = pre ++ a :: h.chain a ∧ a ∉ pre := by
  -- induction on the chain, over all nodes that could have it
  have hgen : ∀ (l : List Key) (n : Node), n ∈ h.nodes → n.ancestors = l → a ∈ l →
      ∃ pre, l = pre ++ a :: h.chain a ∧ a ∉ pre := by
    intro l
    induction l with
    | nil =>
        intro n _ _ ha
        cases ha
    | cons q rest ih =>
        intro n hn hanc ha
        obtain ⟨m, hm, hkey, hrest⟩ := wf.coherent n hn q rest hanc
        by_cases haq : a = q
        · refine ⟨[], ?_, List.not_mem_nil⟩
          rw [haq, ← hkey, chain_of_mem wf hm, hrest]
          rfl
        · have hmem : a ∈ rest := (List.mem_cons.mp ha).resolve_left haq
          obtain ⟨pre, hpre, hnot⟩ := ih m hm hrest hmem
          refine ⟨q :: pre, by rw [hpre]; rfl, ?_⟩
          rw [List.mem_cons, not_or]
          exact ⟨haq, hnot⟩
  obtain ⟨n, hn, _, hchain⟩ := exists_of_mem_chain ha
  rw [hchain] at ha ⊢
  exact hgen _ n hn rfl ha

theorem exists_node_of_mem_ancestors (hn : n ∈ h.nodes) (ha : a ∈ n.ancestors) :
    ∃ m ∈ h.nodes, m.key = a := by
  generalize hl : n.ancestors = l at ha
  induction l generalizing n with
  | nil => cases ha
  | cons q rest ih =>
      obtain ⟨m, hm, hkey, hrest⟩ := wf.coherent n hn q rest hl
      rcases List.mem_cons.mp ha with rfl | hmem
      · exact ⟨m, hm, hkey⟩
      · exact ih hm hrest hmem

theorem chain_child (hc : n ∈ h.children k) : h.chain n.key = k :: h.chain k := by
  obtain ⟨hn, hhead⟩ := mem_children.mp hc
  obtain ⟨rest, hrest⟩ := List.head?_eq_some_iff.mp hhead
  obtain ⟨m, hm, hkey, hanc⟩ := wf.coherent n hn k rest hrest
  rw [chain_of_mem wf hn, hrest, ← hkey, chain_of_mem wf hm, hanc]

/-- A node has one parent. -/
theorem parent_unique (hn : n ∈ h.children p) (hm : m ∈ h.children k) (hkey : m.key = n.key) :
    k = p := by
  have hchain := chain_child wf hm
  rw [hkey, chain_child wf hn] at hchain
  exact (List.cons.inj hchain).1.symm

/-- On the way from an ancestor to a node there is a child of the ancestor. -/
theorem exists_child_towards (hb : b ∈ h.chain x) :
    ∃ c ∈ h.children b, c.key ∈ x :: h.chain x := by
  obtain ⟨n, hn, rfl, hchain⟩ := exists_of_mem_chain hb
  rw [hchain] at hb ⊢
  clear hchain
  generalize hl : n.ancestors = l at hb ⊢
  induction l generalizing n with
  | nil => cases hb
  | cons q rest ih =>
      by_cases hbq : b = q
      · refine ⟨n, mem_children.mpr ⟨hn, ?_⟩, List.mem_cons_self⟩
        rw [hl, hbq]
        rfl
      · obtain ⟨m, hm, hkey, hrest⟩ := wf.coherent n hn q rest hl
        obtain ⟨c, hc, hmem⟩ := ih m hm hrest ((List.mem_cons.mp hb).resolve_left hbq)
        rw [hkey] at hmem
        exact ⟨c, hc, List.mem_cons_of_mem _ hmem⟩

theorem mem_chain_trans (hab : a ∈ h.chain x) (hb : b ∈ h.chain a) : b ∈ h.chain x := by
  obtain ⟨pre, hpre, -⟩ := chain_split wf hab
  rw [hpre]
  exact List.mem_append_right _ (List.mem_cons_of_mem _ hb)

theorem not_mem_chain_self : x ∉ h.chain x := by
  intro hx
  obtain ⟨pre, hpre, -⟩ := chain_split wf hx
  have hlength := congrArg List.length hpre
  rw [List.length_append, List.length_cons] at hlength
  omega

/-- What is inside an element is neither the element nor around it. -/
theorem not_mem_cons_chain (ha : a ∈ h.chain x) : x ∉ a :: h.chain a := by
  intro hx
  rcases List.mem_cons.mp hx with rfl | hx
  · exact not_mem_chain_self wf ha
  · exact not_mem_chain_self wf (mem_chain_trans wf ha hx)

/-- Of two ancestors of a node one is an ancestor of the other. -/
theorem chain_comparable (ha : a ∈ h.chain x) (hb : b ∈ h.chain x) :
    a = b ∨ a ∈ h.chain b ∨ b ∈ h.chain a := by
  have hmem : ∀ {c d : Key} {mid : List Key}, d :: h.chain d = mid ++ c :: h.chain c →
      d = c ∨ c ∈ h.chain d := by
    intro c d mid heq
    have hc : c ∈ d :: h.chain d := by
      rw [heq]
      exact List.mem_append_right _ List.mem_cons_self
    rcases List.mem_cons.mp hc with hcd | hc'
    · exact .inl hcd.symm
    · exact .inr hc'
  obtain ⟨pre, hpre, -⟩ := chain_split wf ha
  obtain ⟨pre', hpre', -⟩ := chain_split wf hb
  rw [hpre] at hpre'
  rcases List.append_eq_append_iff.mp hpre' with ⟨mid, -, heq⟩ | ⟨mid, -, heq⟩
  · rcases hmem heq with rfl | hba
    · exact .inl rfl
    · exact .inr (.inr hba)
  · rcases hmem heq with rfl | hab
    · exact .inl rfl
    · exact .inr (.inl hab)

end WellFormed

end Heap

end SigVal.LinkedDom
