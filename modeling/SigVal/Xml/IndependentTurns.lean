import SigVal.Xml.TokenSearch

/-!
# Turns that do not meet

When no signature lies in another one, what a turn of `extendDocumentSignature` changes
lies in one signature. The signatures whose turn is to come are as they were in the
document the tokens were issued for, and those that had their turn stay as it left them.
-/

namespace SigVal.Xml.XMLDocumentSVTIssuer

open SigVal.Java SigVal.LinkedDom Heap
open Svt.XMLSVTValidator (xmldsigNS xmlSvtNS)
open Jose (SVTExtendpolicy)
open DefaultXMLSignatureContext (SameContent)

variable {Cert : Type} {jvm : Jvm} {rnd : Key → String} {svtMethod : SVTExtendpolicy}
  {d h h' : Heap} {s s' p k : Key} {gone signatures : List Key} {token : String} {n : Node}

/-! ## The same below a signature -/

section Same

variable (wf : WellFormed h) (wf' : WellFormed h') (hbelow : h'.below s = h.below s)
include wf wf' hbelow

theorem svtProperties_of_sameBelow (hk : k = s ∨ s ∈ h.chain k) :
    getSvtSignaturePropertyElements h' k = getSvtSignaturePropertyElements h k := by
  have hbelow' : h'.below k = h.below k := by
    rcases hk with rfl | hk
    · exact hbelow
    · exact below_of_sameBelow wf wf' hbelow hk
  unfold getSvtSignaturePropertyElements getElementsByTagNameNS
  rw [hbelow']
  apply List.filter_congr
  intro x hx
  obtain ⟨n, hn, rfl⟩ := List.mem_map.mp hx
  obtain ⟨hn, hkn⟩ := mem_below.mp (List.mem_filter.mp hn).1
  rw [← chain_of_mem wf hn] at hkn
  have hsn : s ∈ h.chain n.key := by
    rcases hk with rfl | hk
    · exact hkn
    · exact mem_chain_trans wf hkn hk
  rw [svtElements_of_sameBelow wf wf' hbelow hsn]

/-- The search for a target comes to the same. -/
theorem existingTarget_of_sameBelow (hcontent : h'.contentOf s = h.contentOf s) :
    existingTarget jvm h' s = existingTarget jvm h s := by
  have hlist : h'.getElementsByTagNameNS s xmldsigNS "SignatureProperties" =
      h.getElementsByTagNameNS s xmldsigNS "SignatureProperties" :=
    signatureProperties_of_sameBelow hbelow
  have hproperties : (h.getElementsByTagNameNS s xmldsigNS "SignatureProperties").flatMap
        (getSvtSignaturePropertyElements h') =
      (h.getElementsByTagNameNS s xmldsigNS "SignatureProperties").flatMap
        (getSvtSignaturePropertyElements h) := by
    rw [List.flatMap_def, List.flatMap_def]
    refine congrArg _ (List.map_congr_left fun q hq => ?_)
    exact svtProperties_of_sameBelow wf wf' hbelow (.inr (mem_signatureProperties wf hq))
  unfold existingTarget
  dsimp only
  rw [hlist, hproperties]
  cases hfirst : ((h.getElementsByTagNameNS s xmldsigNS "SignatureProperties").flatMap
      (getSvtSignaturePropertyElements h)).head? with
  | none => rfl
  | some e =>
      obtain ⟨q, hq, he⟩ := List.mem_flatMap.mp (List.mem_of_mem_head? hfirst)
      have hse : s ∈ h.chain e :=
        mem_chain_trans wf ((mem_svtProperties wf).mp he).1 (mem_signatureProperties wf hq)
      simp only [Option.bind_some, chain_of_sameBelow wf wf' hbelow hse]
      cases hparent : (h.chain e).head? with
      | none => rfl
      | some t =>
          -- the parent lies in the signature too
          have hsame : h'.contentOf t = h.contentOf t := by
            obtain ⟨n, hn, rfl, hchain⟩ := exists_of_mem_chain hse
            have hchild : n ∈ h.children t := mem_children.mpr ⟨hn, hchain ▸ hparent⟩
            rw [chain_child wf hchild] at hse
            rcases List.mem_cons.mp hse with heq | hst
            · rw [← heq]
              exact hcontent
            · exact contentOf_of_sameBelow wf wf' hbelow hst
          simp only [hsame]

theorem leftToken_of_sameBelow (hleft : LeftToken jvm svtMethod h s k) :
    LeftToken jvm svtMethod h' s k := by
  have hsk := signature_mem_of_tokenElement wf hleft.1
  refine ⟨?_, fun hreplace => ?_⟩
  · obtain ⟨htoken, o, hok, hso, hname⟩ := (mem_tokenElements wf).mp hleft.1
    refine (mem_tokenElements wf').mpr ⟨?_, o, ?_, ?_, ?_⟩
    · rw [contentOf_of_sameBelow wf wf' hbelow hsk]
      exact htoken
    · rw [chain_of_sameBelow wf wf' hbelow hsk]
      exact hok
    · rw [chain_of_sameBelow wf wf' hbelow hso]
      exact hso
    · rw [contentOf_of_sameBelow wf wf' hbelow hso]
      exact hname
  · exact (survives_of_sameBelow wf wf' hbelow hsk).mpr (hleft.2 hreplace)

theorem touched_of_sameBelow (hcontent : h'.contentOf s = h.contentOf s)
    (htouched : Touched jvm svtMethod h s k) : Touched jvm svtMethod h' s k := by
  rcases htouched with htakes | ⟨hreplace, hproperty⟩
  · left
    cases svtMethod with
    | EXTEND => exact (existingTarget_of_sameBelow wf wf' hbelow hcontent).trans htakes
    | REPLACE =>
        obtain ⟨l₁, l₂, hsplit, hsurvives, hfirst⟩ := htakes
        have hin : ∀ q ∈ l₁ ++ k :: l₂, s ∈ h.chain q := by
          intro q hq
          rw [← hsplit] at hq
          exact mem_signatureProperties wf hq
        refine ⟨l₁, l₂, (signatureProperties_of_sameBelow hbelow).trans hsplit, ?_, ?_⟩
        · exact (survives_of_sameBelow wf wf' hbelow (hin k (by simp))).mpr hsurvives
        · intro q hq
          rw [survives_of_sameBelow wf wf' hbelow (hin q (by simp [hq]))]
          exact hfirst q hq
  · refine .inr ⟨hreplace, ?_⟩
    rw [svtProperties_of_sameBelow wf wf' hbelow (.inl rfl)]
    exact hproperty

/-- A signature with the same nodes below it keeps to its objects as before. -/
theorem keepsToObjects_of_sameBelow (hcontent : h'.contentOf s = h.contentOf s)
    (hkeeps : KeepsToObjects jvm svtMethod h s) : KeepsToObjects jvm svtMethod h' s := by
  have hback : ∀ {k}, Touched jvm svtMethod h' s k →
      Touched jvm svtMethod h s k ∧ h'.chain k = h.chain k := by
    intro k htouched
    have hold := touched_of_sameBelow wf' wf hbelow.symm hcontent.symm htouched
    exact ⟨hold, chain_of_sameBelow wf wf' hbelow (signature_mem_of_touched wf hold)⟩
  have hchildren : h'.children s = h.children s := by
    rw [children_eq_filter_below, children_eq_filter_below, hbelow]
  constructor
  · intro k htouched
    obtain ⟨hold, hchain⟩ := hback htouched
    rw [hchildren, hchain]
    exact hkeeps.inObject k hold
  · intro k htouched a ha hleft
    obtain ⟨hold, hchain⟩ := hback htouched
    rw [hchain] at ha
    exact hkeeps.outsideTokens k hold a ha (leftToken_of_sameBelow wf' wf hbelow.symm hleft)

theorem signatureSvaTokens_of_sameBelow : signatureSvaTokens h' s = signatureSvaTokens h s := by
  unfold signatureSvaTokens tokenElements getElementsByTagNameNS
  rw [hbelow, List.map_flatMap, List.map_flatMap, List.flatMap_def, List.flatMap_def]
  refine congrArg _ (List.map_congr_left fun o ho => ?_)
  obtain ⟨n, hn, rfl⟩ := List.mem_map.mp ho
  obtain ⟨hn, hsn⟩ := mem_below.mp (List.mem_filter.mp hn).1
  rw [← chain_of_mem wf hn] at hsn
  rw [svtElements_of_sameBelow wf wf' hbelow hsn]
  apply List.map_congr_left
  intro k hk
  obtain ⟨m, hm, hnm, -, rfl⟩ := mem_getElementsByTagNameNS.mp hk
  rw [← chain_of_mem wf hm] at hnm
  unfold getTextContent
  rw [below_of_sameBelow wf wf' hbelow (mem_chain_trans wf hnm hsn)]

end Same

/-! ## One turn -/

section Turn

variable (wf : WellFormed h) (hturn : Turn jvm rnd svtMethod h h' s token gone p)
include wf hturn

/-- A signature beside the one of the turn has the same below it. -/
theorem Turn.below_of_apart (hs' : ∃ m ∈ h.nodes, m.key = s') (hne : s' ≠ s)
    (hout : s ∉ h.chain s') (hnot : s' ∉ h.chain s) :
    h'.below s' = h.below s' ∧ h'.chain s' = h.chain s' := by
  have halive : ∀ {m : Node}, m ∈ h.nodes → s' ∈ m.key :: m.ancestors → Alive h gone m.key :=
    fun hm hmem => alive_of_outside wf hturn.removed hout hne hnot hm hmem
  obtain ⟨n, hn, rfl⟩ := hs'
  refine ⟨?_, hturn.chain_of_alive wf hn (halive hn List.mem_cons_self)⟩
  have hanchor : n.key ∉ anchor jvm (h.detachAll gone) s ::
      (h.detachAll gone).chain (anchor jvm (h.detachAll gone) s) := by
    intro hmem
    have hsanchor : s ∈ anchor jvm (h.detachAll gone) s ::
        (h.detachAll gone).chain (anchor jvm (h.detachAll gone) s) :=
      signature_mem_anchor (wellFormed_detachAll wf)
    generalize anchor jvm (h.detachAll gone) s = t at hmem hsanchor
    have hup : ∀ {a : Key}, a ∈ t :: (h.detachAll gone).chain t → a ∈ t :: h.chain t := by
      intro a ha
      rcases List.mem_cons.mp ha with rfl | ha
      · exact List.mem_cons_self
      · exact List.mem_cons_of_mem _ (mem_chain_detachAll_of ha)
    rcases List.mem_cons.mp (hup hmem) with heq | hnt
    · rcases List.mem_cons.mp (hup hsanchor) with heq' | hst
      · exact hne (heq.trans heq'.symm)
      · exact hout (heq ▸ hst)
    · rcases List.mem_cons.mp (hup hsanchor) with heq' | hst
      · exact hnot (heq' ▸ hnt)
      · rcases chain_comparable wf hnt hst with heq | hns | hsn
        · exact hne heq
        · exact hnot hns
        · exact hout hsn
  rw [hturn.placed.below n.key hanchor (wf.fresh n hn),
    below_detachAll wf (halive hn List.mem_cons_self)]
  refine List.filter_eq_self.mpr fun m hm => decide_eq_true ?_
  obtain ⟨hm, hnm⟩ := mem_below.mp hm
  exact halive hm (List.mem_cons_of_mem _ hnm)

/-- The signatures of the document are the same, when none of them is removed. -/
theorem Turn.getSignatures_eq
    (halive : ∀ n ∈ h.nodes, n.content.hasName xmldsigNS "Signature" = true →
      documentKey ∈ n.ancestors → Alive h gone n.key) : getSignatures h' = getSignatures h := by
  unfold getSignatures getElementsByTagNameNS below
  rw [List.filter_filter, List.filter_filter]
  generalize hr : (fun n : Node => n.content.hasName xmldsigNS "Signature" &&
    decide (documentKey ∈ n.ancestors)) = r
  have hmem : ∀ {n : Node}, r n = true ↔
      n.content.hasName xmldsigNS "Signature" = true ∧ documentKey ∈ n.ancestors := by
    intro n
    rw [← hr]
    simp
  rw [hturn.filter_nodes wf, List.map_map]
  · exact List.map_congr_left fun n _ => key_withId n
  · -- what is added has other names
    intro n hn hnew
    rw [Bool.eq_false_iff]
    intro hrn
    rcases hturn.placed.new n hn with ⟨m, hm, rfl⟩ | hadded
    · rw [key_withId] at hnew
      exact absurd ((wellFormed_detachAll wf).fresh m hm) (Nat.not_lt.mpr hnew)
    · have hname := hadded.name
      rw [Content.localName_of_hasName (hmem.mp hrn).1] at hname
      exact absurd hname (by decide)
  · intro n
    rw [← hr]
    simp only [ancestors_withId, hasName_withId]
  · intro n _ hrn
    obtain ⟨hname, hdocument⟩ := hmem.mp hrn
    exact hmem.mpr ⟨hname, mem_ancestors_detachNode hdocument⟩
  · intro n hn hrn
    exact halive n hn (hmem.mp hrn).1 (hmem.mp hrn).2

end Turn

/-! ## Runs -/

/-- A signature that no other lies in, with an identifier, whose turn keeps to its
objects. -/
structure Independent (jvm : Jvm) (svtMethod : SVTExtendpolicy) (d : Heap) (s : Key) :
    Prop where
  alone : ∀ s' ∈ getSignatures d, s ∉ d.chain s'
  identified : (d.contentOf s).getAttribute "Id" ≠ ""
  keepsToObjects : KeepsToObjects jvm svtMethod d s

/-- The signature has this token, and the others it has were left. -/
def TokenAdded (jvm : Jvm) (svtMethod : SVTExtendpolicy) (d h : Heap) (s : Key)
    (token : String) : Prop :=
  token ∈ signatureSvaTokens h s ∧ ∀ text ∈ signatureSvaTokens h s,
    text = token ∨ ∃ k, LeftToken jvm svtMethod d s k ∧ d.getTextContent k = text

/-- Between two turns over the signatures of `d`. -/
structure IndependentInv (jvm : Jvm) (svtMethod : SVTExtendpolicy) (d h : Heap)
    (done : List (Key × String)) (todo : List Key) : Prop where
  wf : WellFormed h
  split : getSignatures d = done.map Prod.fst ++ todo
  signatures : getSignatures h = getSignatures d
  core : ∀ s ∈ getSignatures d, SameCore d h s
  below : ∀ s ∈ todo, h.below s = d.below s
  top : ∀ n ∈ d.children documentKey, n ∈ h.children documentKey
  tokens : ∀ e ∈ done, TokenAdded jvm svtMethod d h e.1 e.2

section Run

variable {done : List (Key × String)} {todo : List Key}

theorem independentInv_of_sameContent (wf : WellFormed d) (hsame : SameContent d h) :
    IndependentInv jvm svtMethod d h [] (getSignatures d) := by
  obtain ⟨nodes, idAttributes, nextKey⟩ := h
  obtain ⟨rfl, rfl⟩ := hsame
  exact ⟨⟨wf.keys_nodup, wf.fresh, wf.coherent, wf.ordered, wf.root⟩, rfl, rfl,
    fun _ _ => ⟨rfl, fun _ _ => rfl, rfl, fun _ _ => rfl⟩, fun _ _ => rfl, fun _ hn => hn, by simp⟩

/-- **One turn.** -/
theorem IndependentInv.step (wfd : WellFormed d)
    (hinv : IndependentInv jvm svtMethod d h done (s :: todo))
    (hindependent : ∀ s ∈ getSignatures d, Independent jvm svtMethod d s)
    (hturn : Turn jvm rnd svtMethod h h' s token gone p) :
    IndependentInv jvm svtMethod d h' (done ++ [(s, token)]) todo := by
  have wf := hinv.wf
  have wf' := hturn.placed.wf
  have hnode : ∀ s' ∈ getSignatures d, ∃ n ∈ h.nodes, n.key = s' := by
    intro s' hs'
    rw [← hinv.signatures] at hs'
    obtain ⟨n, hn, -, -, rfl⟩ := mem_getElementsByTagNameNS.mp hs'
    exact ⟨n, hn, rfl⟩
  have hmem : s ∈ getSignatures d := by
    rw [hinv.split]
    exact List.mem_append_right _ List.mem_cons_self
  have hnodup := (signaturesOf_getSignatures wfd).nodup
  rw [hinv.split] at hnodup
  have hapart : ∀ s' ∈ getSignatures d, s ∉ h.chain s' ∧ s' ∉ h.chain s := by
    intro s' hs'
    rw [(hinv.core s' hs').chain, (hinv.core s hmem).chain]
    exact ⟨(hindependent s hmem).alone s' hs', (hindependent s' hs').alone s hmem⟩
  have hid : (h.contentOf s).getAttribute "Id" ≠ "" := by
    rw [(hinv.core s hmem).around s List.mem_cons_self]
    exact (hindependent s hmem).identified
  have hbelow : h.below s = d.below s := hinv.below s List.mem_cons_self
  have hcontent := (hinv.core s hmem).around s List.mem_cons_self
  have hkeeps : KeepsToObjects jvm svtMethod h s :=
    keepsToObjects_of_sameBelow wfd wf hbelow hcontent (hindependent s hmem).keepsToObjects
  have hothers : ∀ s' ∈ getSignatures d, s' ≠ s →
      h'.below s' = h.below s' ∧ h'.chain s' = h.chain s' := by
    intro s' hs' hne
    exact hturn.below_of_apart wf (hnode s' hs') hne (hapart s' hs').1 (hapart s' hs').2
  refine ⟨wf', ?_, ?_, ?_, ?_, ?_, ?_⟩
  · rw [hinv.split]
    simp
  · rw [← hinv.signatures]
    apply hturn.getSignatures_eq wf
    intro n hn hname hdocument b hb hbgone
    have hn' : n.key ∈ getSignatures d := by
      rw [← hinv.signatures]
      exact mem_getElementsByTagNameNS.mpr ⟨n, hn, hdocument, hname, rfl⟩
    have hsb := hturn.removed.below hbgone
    rcases List.mem_cons.mp hb with rfl | hb
    · exact (hapart _ hn').1 hsb
    · exact (hapart _ hn').1 (mem_chain_trans wf hb hsb)
  · intro s' hs'
    apply (hinv.core s' hs').trans
    by_cases hne : s' = s
    · rw [hne]
      exact hturn.sameCore wf hkeeps (hnode s hmem) hid
    · obtain ⟨hsame, hchain⟩ := hothers s' hs' hne
      apply sameCore_of_sameBelow wf wf' hsame hchain
      intro a ha
      obtain ⟨n, hn, hkey⟩ := hnode s' hs'
      have hnode' : ∃ m ∈ h.nodes, m.key = a := by
        rcases List.mem_cons.mp ha with rfl | ha
        · exact ⟨n, hn, hkey⟩
        · rw [← hkey, chain_of_mem wf hn] at ha
          exact exists_node_of_mem_ancestors wf hn ha
      obtain ⟨m, hm, rfl⟩ := hnode'
      exact hturn.contentOf_of_identified wf hid hm
  · intro s' hs'
    have hs'mem : s' ∈ getSignatures d := by
      rw [hinv.split]
      exact List.mem_append_right _ (List.mem_cons_of_mem _ hs')
    have hne : s' ≠ s := by
      rintro rfl
      exact (List.nodup_cons.mp (List.nodup_append.mp hnodup).2.1).1 hs'
    rw [(hothers s' hs'mem hne).1]
    exact hinv.below s' (List.mem_cons_of_mem _ hs')
  · intro n hn
    have hne : s ≠ documentKey := by
      rintro rfl
      rw [contentOf_of_mem wf wf.root] at hid
      exact hid rfl
    obtain ⟨m, hm, hkey⟩ := hnode s hmem
    rw [hturn.children_document wf hne (hkey ▸ wf.fresh m hm),
      withId_of_identified (by rw [contentOf_detachAll]; exact hid), List.map_id]
    exact hinv.top n hn
  · intro e he
    rcases List.mem_append.mp he with he | he
    · have hne : e.1 ≠ s :=
        (List.nodup_append.mp hnodup).2.2 _ (List.mem_map_of_mem he) s List.mem_cons_self
      have hemem : e.1 ∈ getSignatures d := by
        rw [hinv.split]
        exact List.mem_append_left _ (List.mem_map_of_mem he)
      unfold TokenAdded
      rw [signatureSvaTokens_of_sameBelow wf wf' (hothers e.1 hemem hne).1]
      exact hinv.tokens e he
    · obtain rfl := List.mem_singleton.mp he
      refine ⟨hturn.token_mem wf hkeeps, ?_⟩
      intro text htext
      rcases hturn.tokens wf hkeeps htext with rfl | ⟨k, hleft, hk⟩
      · exact .inl rfl
      · refine .inr ⟨k, leftToken_of_sameBelow wf wfd hbelow.symm hleft, ?_⟩
        rw [← hk]
        unfold getTextContent
        rw [below_of_sameBelow wf wfd hbelow.symm (signature_mem_of_tokenElement wf hleft.1)]

/-- **All turns.** -/
theorem wp_extendSignatures_independent (env : XmlExtensionEnv Cert) (wfd : WellFormed d)
    (hindependent : ∀ s ∈ getSignatures d, Independent env.jvm svtMethod d s)
    {data : List SVTExtensionData} (hmethod : ∀ x ∈ data, x.svtMethod = svtMethod)
    (hinv : IndependentInv env.jvm svtMethod d h done (data.map SVTExtensionData.element)) :
    Mutating.wp (extendSignatures env data)
      (fun _ h' => IndependentInv env.jvm svtMethod d h'
        (done ++ data.map fun x => (x.element, env.serialize x.signedJWT)) [])
      (fun _ _ => True) h := by
  induction data generalizing h done with
  | nil =>
      show IndependentInv _ _ _ _ _ _
      rw [List.map_nil, List.append_nil]
      exact hinv
  | cons x rest ih =>
      obtain ⟨s, jwt, method⟩ := x
      obtain rfl : method = svtMethod := hmethod _ List.mem_cons_self
      have hs : ∃ m ∈ h.nodes, m.key = s ∧ m.content.hasName xmldsigNS "Signature" = true := by
        have hmem : s ∈ getSignatures h := by
          rw [hinv.signatures, hinv.split]
          exact List.mem_append_right _ List.mem_cons_self
        obtain ⟨n, hn, -, hname, hkey⟩ := mem_getElementsByTagNameNS.mp hmem
        exact ⟨n, hn, hkey, hname⟩
      unfold extendSignatures
      rw [Mutating.wp_bind]
      refine Mutating.wp_mono (wp_extendSignature env hinv.wf hs jwt method) ?_ fun _ _ _ => trivial
      rintro - h₁ ⟨gone, property, hturn⟩
      have hnext := hinv.step wfd hindependent hturn
      refine Mutating.wp_mono (ih (fun y hy => hmethod y (List.mem_cons_of_mem _ hy)) hnext) ?_
        fun _ _ h => h
      intro _ h₂ hlast
      rw [List.append_assoc] at hlast
      exact hlast

end Run

end SigVal.Xml.XMLDocumentSVTIssuer
