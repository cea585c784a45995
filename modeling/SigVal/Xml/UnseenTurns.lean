import SigVal.Lib.NodeSets
import SigVal.Xml.TokenSearch

/-!
# Turns that a reference does not see

A signed reference selects nodes of the document. A turn of `extendDocumentSignature` adds
a property below some element of its signature, with `REPLACE` takes elements away, and may
give the signature an identifier. When none of this is selected, the selected nodes are the
same after the turn.
-/

namespace SigVal.Xml.XMLDocumentSVTIssuer

open SigVal.Java SigVal.LinkedDom Heap
open Svt.XMLSVTValidator (xmldsigNS xmlSvtNS)
open Jose (SVTExtendpolicy)
open DefaultXMLSignatureContext

variable {jvm : Jvm} {rnd : Key → String} {svtMethod : SVTExtendpolicy} {h h' : Heap}
  {s p t : Key} {gone : List Key} {token : String} {n : Node} {v : View}

/-- The turn of `s` is not seen. What it removes is not selected, and the targets stay. Nor
is the new property selected, or the new object when there is no place for the property.
A signature that is given an identifier is neither selected nor a target. -/
structure Unseen (jvm : Jvm) (svtMethod : SVTExtendpolicy) (h : Heap) (s : Key) (v : View) :
    Prop where
  removed : svtMethod = .REPLACE → ∀ k, s ∈ h.chain k → Pruned jvm h k → ¬ v.Covers h k
  targets : svtMethod = .REPLACE →
    ∀ t ∈ v.targets, ∀ k ∈ t :: h.chain t, s ∈ h.chain k → ¬ Pruned jvm h k
  taken : ∀ t, TakesProperty jvm h s t svtMethod → v.Covers h t →
    v.omits h.nextKey xmldsigNS "SignatureProperty" = true
  made : (∀ t, ¬ TakesProperty jvm h s t svtMethod) → v.Covers h s →
    v.omits h.nextKey xmldsigNS "Object" = true
  identified : (h.contentOf s).getAttribute "Id" = "" → ¬ v.Covers h s ∧ s ∉ v.targets

theorem names_withId (n : Node) :
    (withId rnd h s n).content.namespaceURI = n.content.namespaceURI ∧
      (withId rnd h s n).content.localName = n.content.localName := by
  unfold withId setNodeAttribute
  split
  · split
    · exact Content.names_setAttribute _ _ _
    · exact ⟨rfl, rfl⟩
  · exact ⟨rfl, rfl⟩

theorem isElement_withId (n : Node) :
    (withId rnd h s n).content.isElement = n.content.isElement := by
  unfold withId setNodeAttribute
  split
  · split
    · exact Content.isElement_setAttribute _ _ _
    · rfl
  · rfl

section Turn

variable (wf : WellFormed h)
include wf

/-- The place of the new property is known before anything is removed. -/
theorem RemovedBy.takesProperty_iff (hremoved : RemovedBy jvm h s gone svtMethod) :
    existingTarget jvm (h.detachAll gone) s = some t ↔ TakesProperty jvm h s t svtMethod := by
  cases svtMethod with
  | EXTEND =>
      rw [show gone = [] from hremoved, detachAll_nil]
      exact Iff.rfl
  | REPLACE => exact existingTarget_iff_firstLeft wf hremoved.1 (hremoved.alive wf)

omit wf in
theorem Unseen.alive_targets (hunseen : Unseen jvm svtMethod h s v)
    (hremoved : RemovedBy jvm h s gone svtMethod) : ∀ t ∈ v.targets, Alive h gone t := by
  intro t ht b hb hgone
  cases svtMethod with
  | EXTEND =>
      rw [show gone = [] from hremoved] at hgone
      cases hgone
  | REPLACE =>
      obtain ⟨hsb, hpruned⟩ := (hremoved.1 b).mp hgone
      exact hunseen.targets rfl t ht b hb hsb hpruned

omit wf in
theorem Unseen.not_covers_gone (hunseen : Unseen jvm svtMethod h s v)
    (hremoved : RemovedBy jvm h s gone svtMethod) : ∀ g ∈ gone, ¬ v.Covers h g := by
  intro g hgone
  cases svtMethod with
  | EXTEND =>
      rw [show gone = [] from hremoved] at hgone
      cases hgone
  | REPLACE =>
      obtain ⟨hsg, hpruned⟩ := (hremoved.1 g).mp hgone
      exact hunseen.removed rfl g hsg hpruned

variable (hturn : Turn jvm rnd svtMethod h h' s token gone p)
include hturn

theorem Turn.grows : View.Grows (withId rnd (h.detachAll gone) s) (h.detachAll gone) h' where
  wf := wellFormed_detachAll wf
  wf' := hturn.placed.wf
  order := hturn.placed.order
  key := key_withId
  ancestors := ancestors_withId
  name := names_withId

/-- The element that takes the new nodes is not removed. -/
theorem Turn.alive_anchor : Alive h gone (anchor jvm (h.detachAll gone) s) := by
  unfold anchor
  cases ht : existingTarget jvm (h.detachAll gone) s with
  | none => exact hturn.removed.alive wf
  | some t =>
      obtain ⟨hst, -⟩ := existingTarget_spec (wellFormed_detachAll wf) ht
      exact ((mem_chain_detachAll_iff wf (hturn.removed.alive wf)).mp hst).2

/-- What is selected of the new nodes hangs on something that is selected. -/
theorem Turn.covers_anchor (hs : ∃ m ∈ h.nodes, m.key = s)
    (hold : ∀ t ∈ v.targets, t < h.nextKey) (hn : n ∈ h'.nodes) (hnew : h.nextKey ≤ n.key)
    (hcovers : v.Covers h' n.key) :
    v.Covers h (anchor jvm (h.detachAll gone) s) ∧
      v.omits h.nextKey xmldsigNS (topName jvm (h.detachAll gone) s) = false := by
  have wf₁ : WellFormed (h.detachAll gone) := wellFormed_detachAll wf
  have hgrows := hturn.grows wf
  rcases hturn.placed.new n hn with ⟨m, hm, rfl⟩ | hadded
  · rw [key_withId] at hnew
    exact absurd (wf₁.fresh m hm) (Nat.not_lt.mpr hnew)
  obtain ⟨⟨t, ht, htn⟩, homits⟩ := hcovers
  rw [chain_of_mem hturn.placed.wf hn] at htn homits
  have hanchor : ∀ b ∈ anchor jvm (h.detachAll gone) s ::
      (h.detachAll gone).chain (anchor jvm (h.detachAll gone) s), b < h.nextKey ∧
        ∃ m ∈ (h.detachAll gone).nodes, m.key = b := by
    intro b hb
    have hnode : ∃ m ∈ (h.detachAll gone).nodes, m.key = b := by
      rcases List.mem_cons.mp hb with rfl | hb
      · unfold anchor
        cases ht : existingTarget jvm (h.detachAll gone) s with
        | none =>
            obtain ⟨m, hm, rfl⟩ := hs
            exact ⟨_, List.mem_map_of_mem hm, rfl⟩
        | some t =>
            obtain ⟨m, hm, hkey, -⟩ := exists_of_mem_chain (existingTarget_spec wf₁ ht).1
            exact ⟨m, hm, hkey⟩
      · obtain ⟨m, hm, -, hchain⟩ := exists_of_mem_chain hb
        rw [hchain] at hb
        exact exists_node_of_mem_ancestors wf₁ hm hb
    obtain ⟨m, hm, rfl⟩ := hnode
    exact ⟨wf₁.fresh m hm, m, hm, rfl⟩
  refine ⟨(View.covers_detachAll_of_alive (hturn.alive_anchor wf)).mp ⟨⟨t, ht, ?_⟩, ?_⟩, ?_⟩
  · rcases List.mem_cons.mp htn with rfl | htn
    · exact absurd (hold _ ht) (Nat.not_lt.mpr hnew)
    · exact (hadded.ancestors t (hold t ht)).mp htn
  · intro b hb
    obtain ⟨hlt, m, hm, rfl⟩ := hanchor b hb
    have hbn := (hadded.ancestors m.key hlt).mpr hb
    rw [← hgrows.omitted hm]
    exact homits m.key (List.mem_cons_of_mem _ hbn)
  · obtain ⟨top, htop, htopkey, -, hnamespace, hlocal⟩ := hturn.placed.top
    have hnot := homits _ hadded.top
    unfold View.Omitted at hnot
    have hcontent : h'.contentOf (h.detachAll gone).nextKey = top.content := by
      rw [← htopkey]
      exact contentOf_of_mem hturn.placed.wf htop
    rw [hcontent, hnamespace, hlocal] at hnot
    exact (Bool.not_eq_true _).mp hnot

/-- **A turn that is not seen.** -/
theorem Turn.nodeSet_eq (hs : ∃ m ∈ h.nodes, m.key = s) (hold : ∀ t ∈ v.targets, t < h.nextKey)
    (hunseen : Unseen jvm svtMethod h s v) : v.nodeSet h' = v.nodeSet h := by
  have hgrows := hturn.grows wf
  have htargets := hunseen.alive_targets hturn.removed
  rw [← View.nodeSet_detachAll wf htargets (hunseen.not_covers_gone hturn.removed)]
  refine View.nodeSet_of_grows hgrows ?_ ?_
  · intro n hn hnew hcovers
    obtain ⟨hanchor, homits⟩ := hturn.covers_anchor wf hs hold hn hnew hcovers
    have hseen : v.omits h.nextKey xmldsigNS (topName jvm (h.detachAll gone) s) = true := by
      unfold topName
      unfold anchor at hanchor
      cases ht : existingTarget jvm (h.detachAll gone) s with
      | none =>
          rw [ht] at hanchor
          refine hunseen.made ?_ hanchor
          intro t htakes
          rw [(hturn.removed.takesProperty_iff wf).mpr htakes] at ht
          cases ht
      | some t =>
          rw [ht] at hanchor
          exact hunseen.taken t ((hturn.removed.takesProperty_iff wf).mp ht) hanchor
    rw [homits] at hseen
    cases hseen
  · intro n hn hcovers
    by_cases hkey : n.key = s
    · by_cases hid : (h.contentOf s).getAttribute "Id" = ""
      · rw [hkey, View.covers_detachAll_of_alive (hturn.removed.alive wf)] at hcovers
        exact absurd hcovers (hunseen.identified hid).1
      · rw [withId_of_identified (by rw [contentOf_detachAll]; exact hid)]
        rfl
    · exact withId_of_ne hkey

end Turn

/-! ## The element a reference names -/

/-- The identifier of the element is the one the URI names. -/
def carriesId (referenceUri : String) (element : Content) : Bool :=
  match getIdAttrVal element with
  | some idAttrVal => idAttrVal != "" && referenceUri == "#" ++ idAttrVal
  | none => false

/-- The elements that `registerId` finds. -/
def matchingElements (document : Heap) (referenceUri : String) : List Key :=
  (candidateElements document).filter fun element =>
    carriesId referenceUri (document.contentOf element)

theorem registerId_eq (document : Heap) (referenceUri : String) :
    registerId document referenceUri =
      match matchingElements document referenceUri with
      | [element] => registerIdInElement document element referenceUri
      | _ => document := rfl

/-- The identifier of an element that is given one under the name `Id`. -/
theorem getIdAttrVal_setAttribute {content : Content} (helement : content.isElement = true)
    {value : String} (hvalue : value ≠ "") :
    getIdAttrVal (content.setAttribute "Id" value) = getIdAttrVal content ∨
      getIdAttrVal (content.setAttribute "Id" value) = some value := by
  unfold getIdAttrVal idNames
  simp only [List.foldl_cons, List.foldl_nil, Content.getAttribute_setAttribute_self helement,
    Content.getAttribute_setAttribute_of_ne (show "ID" ≠ "Id" by decide), ne_eq, hvalue,
    not_false_eq_true, if_true]
  by_cases hID : content.getAttribute "ID" = ""
  · right
    simp [hID]
  · left
    simp [hID]

section Candidates

variable (wf : WellFormed h) {e x : Key}
include wf

omit wf in
theorem mem_candidateElements (he : h.getDocumentElement = some e) :
    x ∈ candidateElements h ↔ ∃ n ∈ h.nodes, n.key = x ∧ n.content.isElement = true ∧
      e ∈ n.key :: n.ancestors := by
  have hchild : ∃ m ∈ h.nodes, m.key = e ∧ m.content.isElement = true := by
    unfold getDocumentElement at he
    obtain ⟨m, hm, rfl⟩ := Option.map_eq_some_iff.mp he
    refine ⟨m, (mem_children.mp (List.mem_of_find?_eq_some hm)).1, rfl, ?_⟩
    simpa using List.find?_some hm
  unfold candidateElements
  rw [he]
  simp only [List.mem_cons, List.mem_map, List.mem_filter, mem_below]
  constructor
  · rintro (rfl | ⟨n, ⟨⟨hn, hen⟩, helement⟩, rfl⟩)
    · obtain ⟨m, hm, hkey, helement⟩ := hchild
      exact ⟨m, hm, hkey, helement, .inl hkey.symm⟩
    · exact ⟨n, hn, rfl, helement, .inr hen⟩
  · rintro ⟨n, hn, rfl, helement, heq | hen⟩
    · exact .inl heq.symm
    · exact .inr ⟨n, ⟨⟨hn, hen⟩, helement⟩, rfl⟩

omit wf in
theorem exists_of_mem_candidateElements (hx : x ∈ candidateElements h) :
    ∃ n ∈ h.nodes, n.key = x := by
  cases he : h.getDocumentElement with
  | none =>
      unfold candidateElements at hx
      rw [he] at hx
      cases hx
  | some e =>
      obtain ⟨n, hn, hkey, -⟩ := (mem_candidateElements he).mp hx
      exact ⟨n, hn, hkey⟩

theorem nodup_candidateElements : (candidateElements h).Nodup := by
  unfold candidateElements
  cases he : h.getDocumentElement with
  | none => exact List.nodup_nil
  | some e =>
      have hnodup : (((h.below e).filter (·.content.isElement)).map (·.key)).Nodup := by
        refine List.Nodup.sublist ?_ wf.keys_nodup
        exact (List.filter_sublist.trans List.filter_sublist).map _
      refine List.nodup_cons.mpr ⟨?_, hnodup⟩
      intro hmem
      obtain ⟨n, hn, hkey⟩ := List.mem_map.mp hmem
      obtain ⟨hn, hen⟩ := mem_below.mp (List.mem_filter.mp hn).1
      rw [← chain_of_mem wf hn, hkey] at hen
      exact not_mem_chain_self wf hen

/-- The element is the only one with its identifier. -/
theorem matchingElements_eq_singleton {uri : String} : matchingElements h uri = [t] ↔
    ∀ x, (x ∈ candidateElements h ∧ carriesId uri (h.contentOf x) = true) ↔ x = t := by
  have hmem : ∀ x, x ∈ matchingElements h uri ↔
      x ∈ candidateElements h ∧ carriesId uri (h.contentOf x) = true :=
    fun x => List.mem_filter
  constructor
  · intro heq x
    rw [← hmem, heq, List.mem_singleton]
  · intro hall
    have hnodup : (matchingElements h uri).Nodup := (nodup_candidateElements wf).filter _
    refine List.perm_singleton.mp
      ((List.perm_ext_iff_of_nodup hnodup (List.nodup_singleton t)).mpr ?_)
    intro x
    rw [hmem, hall, List.mem_singleton]

end Candidates

/-- `SignedInfo` and `SignatureValue`. -/
def isPart (content : Content) : Bool :=
  content.hasName xmldsigNS "SignedInfo" || content.hasName xmldsigNS "SignatureValue"

/-- The children of a signature element that say what is signed, and the value. -/
def signatureParts (document : Heap) (s : Key) : List Node :=
  (document.children s).filter fun n => isPart n.content

theorem localName_of_isPart {content : Content} (hpart : isPart content = true) :
    content.localName = "SignedInfo" ∨ content.localName = "SignatureValue" := by
  rcases Bool.or_eq_true_iff.mp hpart with hname | hname
  · exact .inl (Content.localName_of_hasName hname)
  · exact .inr (Content.localName_of_hasName hname)

section Identifiers

variable (wf : WellFormed h) (hturn : Turn jvm rnd svtMethod h h' s token gone p)
  (hs : IsSignature h s)
include wf hturn hs

theorem Turn.getDocumentElement_eq : h'.getDocumentElement = h.getDocumentElement := by
  obtain ⟨m, hm, rfl, hname⟩ := hs
  have hne : m.key ≠ documentKey :=
    signature_ne_document wf ⟨m, hm, rfl, Content.isElement_of_hasName hname⟩
  have helement : (fun n : Node => n.content.isElement) ∘ withId rnd (h.detachAll gone) m.key =
      fun n => n.content.isElement := funext isElement_withId
  unfold getDocumentElement
  rw [hturn.children_document wf hne (wf.fresh m hm), List.find?_map, helement, Option.map_map]
  congr 1
  ext n
  exact key_withId n

/-- Only the signature of the turn can be given an identifier. -/
theorem Turn.carriesId_of {uri : String} (hn : n ∈ h.nodes)
    (hfresh : (h.contentOf s).getAttribute "Id" = "" → uri ≠ "#" ++ ("id_" ++ rnd s))
    (hcarries : carriesId uri (h'.contentOf n.key) = true) :
    carriesId uri (h.contentOf n.key) = true := by
  by_cases hid : (h.contentOf s).getAttribute "Id" = ""
  · by_cases hkey : n.key = s
    · obtain ⟨m, hm, hmkey, hname⟩ := hs
      have hnm : n = m := eq_of_key_eq wf hn hm (hkey.trans hmkey.symm)
      have hcontent := contentOf_of_mem hturn.placed.wf (hturn.old hn)
      rw [key_withId, key_detachNode] at hcontent
      rw [hcontent] at hcarries
      have hid' : ((h.detachAll gone).contentOf s).getAttribute "Id" = "" := by
        rw [contentOf_detachAll]
        exact hid
      have hset : (withId rnd (h.detachAll gone) s (detachNode gone n)).content =
          n.content.setAttribute "Id" ("id_" ++ rnd s) := by
        rw [withId, if_pos hid', setNodeAttribute,
          if_pos (show (detachNode gone n).key = s from hkey)]
        rfl
      rw [hset] at hcarries
      rw [contentOf_of_mem wf hn]
      rcases getIdAttrVal_setAttribute (Content.isElement_of_hasName (hnm ▸ hname))
        (id_ne_empty (rnd s)) with hsame | hnew
      · unfold carriesId at hcarries ⊢
        rw [hsame] at hcarries
        exact hcarries
      · unfold carriesId at hcarries
        rw [hnew] at hcarries
        simp only [Bool.and_eq_true, beq_iff_eq] at hcarries
        exact absurd hcarries.2 (hfresh hid)
    · rw [hturn.contentOf_of_ne wf hn hkey] at hcarries
      exact hcarries
  · rw [hturn.contentOf_of_identified wf hid hn] at hcarries
    exact hcarries

/-- **The element a reference names.** It is still the only one with its identifier. -/
theorem Turn.matchingElements_eq {uri : String} (hmatch : matchingElements h uri = [t])
    (halive : Alive h gone t)
    (hid : (h.contentOf s).getAttribute "Id" = "" → t ≠ s ∧ uri ≠ "#" ++ ("id_" ++ rnd s)) :
    matchingElements h' uri = [t] := by
  rw [matchingElements_eq_singleton hturn.placed.wf]
  have hunique := (matchingElements_eq_singleton wf).mp hmatch
  obtain ⟨e, he⟩ : ∃ e, h.getDocumentElement = some e := by
    cases he : h.getDocumentElement with
    | some e => exact ⟨e, rfl⟩
    | none =>
        have hmem := ((hunique t).mpr rfl).1
        unfold candidateElements at hmem
        rw [he] at hmem
        cases hmem
  have he' : h'.getDocumentElement = some e := (hturn.getDocumentElement_eq wf hs).trans he
  intro x
  rw [mem_candidateElements he']
  constructor
  · rintro ⟨⟨n, hn, rfl, helement, hen⟩, hcarries⟩
    rcases hturn.placed.new n hn with ⟨_, hdetached, rfl⟩ | hadded
    · obtain ⟨m, hm, rfl⟩ := List.mem_map.mp hdetached
      rw [key_withId, key_detachNode] at hcarries ⊢
      rw [isElement_withId] at helement
      rw [key_withId, ancestors_withId] at hen
      refine (hunique m.key).mp ⟨(mem_candidateElements he).mpr ⟨m, hm, rfl, helement, ?_⟩,
        hturn.carriesId_of wf hs hm (fun h => (hid h).2) hcarries⟩
      rcases List.mem_cons.mp hen with heq | hen
      · exact List.mem_cons.mpr (.inl heq)
      · exact List.mem_cons_of_mem _ (mem_ancestors_detachNode hen)
    · rw [contentOf_of_mem hturn.placed.wf hn] at hcarries
      unfold carriesId at hcarries
      rw [hadded.noId] at hcarries
      cases hcarries
  · rintro rfl
    obtain ⟨hmem, hcarries⟩ := (hunique x).mpr rfl
    obtain ⟨n, hn, rfl, helement, hen⟩ := (mem_candidateElements he).mp hmem
    have hn' := hturn.old hn
    rw [detachAll_of_alive wf hn halive] at hn'
    have hcontent : h'.contentOf n.key = h.contentOf n.key := by
      by_cases hempty : (h.contentOf s).getAttribute "Id" = ""
      · exact hturn.contentOf_of_ne wf hn (hid hempty).1
      · exact hturn.contentOf_of_identified wf hempty hn
    refine ⟨⟨_, hn', key_withId n, ?_, ?_⟩, ?_⟩
    · rw [isElement_withId]
      exact helement
    · rw [key_withId, ancestors_withId]
      exact hen
    · rw [hcontent]
      exact hcarries

/-! ## The parts of a signature -/

omit hs in
/-- The parts that stay are the same. -/
theorem Turn.signatureParts_eq {s' : Key} (hs : IsSignature h s)
    (halive : ∀ c ∈ signatureParts h s', Alive h gone c.key) :
    signatureParts h' s' = signatureParts h s' := by
  unfold signatureParts children
  rw [List.filter_filter, List.filter_filter]
  generalize hr : (fun n : Node => isPart n.content && (n.ancestors.head? == some s')) = r
  have hmem : ∀ {n : Node}, r n = true ↔
      isPart n.content = true ∧ n.ancestors.head? = some s' := by
    intro n
    rw [← hr]
    simp
  rw [hturn.filter_nodes wf]
  · refine (List.map_congr_left fun n hn => ?_).trans (List.map_id _)
    obtain ⟨hn, hrn⟩ := List.mem_filter.mp hn
    apply withId_of_ne
    intro hkey
    -- a part is no signature
    obtain ⟨m, hm, hmkey, hname⟩ := hs
    have hlocal := Content.localName_of_hasName hname
    rw [← eq_of_key_eq wf hn hm (hkey.trans hmkey.symm)] at hlocal
    rcases localName_of_isPart (hmem.mp hrn).1 with hpart | hpart
    · exact absurd (hpart.symm.trans hlocal) (by decide)
    · exact absurd (hpart.symm.trans hlocal) (by decide)
  · intro n hn hnew
    rw [Bool.eq_false_iff]
    intro hrn
    rcases hturn.placed.new n hn with ⟨m, hm, rfl⟩ | hadded
    · rw [key_withId] at hnew
      exact absurd ((wellFormed_detachAll wf).fresh m hm) (Nat.not_lt.mpr hnew)
    · have hname := hadded.name
      rcases localName_of_isPart (hmem.mp hrn).1 with hpart | hpart
      · rw [hpart] at hname
        exact absurd hname (by decide)
      · rw [hpart] at hname
        exact absurd hname (by decide)
  · intro n
    rw [← hr]
    simp only [isPart, ancestors_withId, hasName_withId]
  · intro n _ hrn
    obtain ⟨hpart, hparent⟩ := hmem.mp hrn
    exact hmem.mpr ⟨hpart, head?_detachNode hparent⟩
  · intro n hn hrn
    obtain ⟨hpart, hparent⟩ := hmem.mp hrn
    exact halive n (List.mem_filter.mpr ⟨mem_children.mpr ⟨hn, hparent⟩, hpart⟩)

end Identifiers

end SigVal.Xml.XMLDocumentSVTIssuer
