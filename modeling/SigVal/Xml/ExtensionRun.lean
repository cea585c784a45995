import SigVal.Xml.SeparateSignatures

/-!
# Runs of `extendDocumentSignature`

One turn after the other: the signatures that had their turn carry their tokens, and the
others are as the first turn would find them. With `EXTEND` nothing is taken away; with
`REPLACE` a token stays as long as it does not lie in a signature whose turn is to come.
-/

namespace SigVal.Xml.XMLDocumentSVTIssuer

open SigVal.Java SigVal.LinkedDom Heap
open Svt.XMLSVTValidator (xmldsigNS xmlSvtNS)
open Jose (SVTExtendpolicy)

variable {Cert : Type} {jvm : Jvm} {rnd : Key → String} {h h' : Heap} {s s' p x : Key}
  {gone signatures : List Key} {token : String}

/-- The signature has the property in the document, and the property names the signature
and holds the token. -/
structure Carries (h : Heap) (s : Key) (token : String) (property : Key) : Prop where
  node : ∃ n ∈ h.nodes, n.key = property ∧ documentKey ∈ n.ancestors ∧ s ∈ n.ancestors ∧
    n.content.hasName xmldsigNS "SignatureProperty" = true ∧
    n.content.getAttribute "Target" = "#" ++ (h.contentOf s).getAttribute "Id"
  holdsToken : HoldsToken h property token

/-- What a turn takes out of the document. -/
def RemovedBy (jvm : Jvm) (h : Heap) (s : Key) (gone : List Key) : SVTExtendpolicy → Prop
  | .REPLACE => Removes jvm h s gone ∧ ∀ p, ¬ EmptiedProperty jvm h s p
  | .EXTEND => gone = []

/-- One turn: nodes are removed, and a property is added. -/
structure Turn (jvm : Jvm) (rnd : Key → String) (svtMethod : SVTExtendpolicy) (h h' : Heap)
    (s : Key) (token : String) (gone : List Key) (property : Key) : Prop where
  removed : RemovedBy jvm h s gone svtMethod
  placed : Placed jvm rnd (h.detachAll gone) h' s token property

/-- A turn that throws has removed nodes of its signature. -/
def FailedTurn (jvm : Jvm) (svtMethod : SVTExtendpolicy) (h h' : Heap) (s : Key) : Prop :=
  svtMethod = .REPLACE ∧ (∃ p, EmptiedProperty jvm h s p) ∧
    ∃ gone, h' = h.detachAll gone ∧ gone ≠ [] ∧ ∀ g ∈ gone, s ∈ h.chain g

theorem RemovedBy.below {svtMethod : SVTExtendpolicy} (hremoved : RemovedBy jvm h s gone svtMethod)
    {g : Key} (hg : g ∈ gone) : s ∈ h.chain g := by
  cases svtMethod with
  | REPLACE => exact ((hremoved.1 g).mp hg).1
  | EXTEND =>
      rw [show gone = [] from hremoved] at hg
      cases hg

/-- The signature of the turn is not removed. -/
theorem RemovedBy.alive (wf : WellFormed h) {svtMethod : SVTExtendpolicy}
    (hremoved : RemovedBy jvm h s gone svtMethod) : Alive h gone s := by
  intro b hb hbgone
  exact not_mem_cons_chain wf (hremoved.below hbgone) hb

/-- The document itself is not removed. -/
theorem RemovedBy.alive_document (wf : WellFormed h) {svtMethod : SVTExtendpolicy}
    (hremoved : RemovedBy jvm h s gone svtMethod) : Alive h gone documentKey := by
  have hroot : h.chain documentKey = [] := chain_of_mem wf wf.root
  intro b hb hbgone
  have hsb := hremoved.below hbgone
  rw [hroot] at hb
  rw [List.mem_singleton.mp hb, hroot] at hsb
  cases hsb

/-- What hangs beside the signature of the turn is not removed. -/
theorem alive_of_outside (wf : WellFormed h) {svtMethod : SVTExtendpolicy}
    (hremoved : RemovedBy jvm h s gone svtMethod) {q : Key} (hout : s ∉ h.chain q) (hqs : q ≠ s)
    (hqchain : q ∉ h.chain s) {n : Node} (hn : n ∈ h.nodes) (hqn : q ∈ n.key :: n.ancestors) :
    Alive h gone n.key := by
  intro b hb hbgone
  have hsb := hremoved.below hbgone
  have hsn : s ∈ h.chain n.key := by
    rcases List.mem_cons.mp hb with rfl | hb
    · exact hsb
    · exact mem_chain_trans wf hb hsb
  rcases List.mem_cons.mp hqn with rfl | hqn
  · exact hout hsn
  · rw [← chain_of_mem wf hn] at hqn
    rcases chain_comparable wf hsn hqn with heq | hsq | hqs'
    · exact hqs heq.symm
    · exact hout hsq
    · exact hqchain hqs'

/-- One turn removes what is to be removed, and adds the property to what is left. -/
theorem wp_extendSignature_added (env : XmlExtensionEnv Cert) (wf : WellFormed h)
    (hs : ∃ m ∈ h.nodes, m.key = s ∧ m.content.hasName xmldsigNS "Signature" = true)
    (jwt : Commons.SignedJWT) (svtMethod : SVTExtendpolicy) :
    Mutating.wp (extendSignature env ⟨s, jwt, svtMethod⟩)
      (fun _ h' => ∃ gone, RemovedBy env.jvm h s gone svtMethod ∧
        h' = addSignatureProperty env.jvm env.secureRandom s (env.serialize jwt)
          (h.detachAll gone))
      (fun _ h' => FailedTurn env.jvm svtMethod h h' s) h := by
  unfold extendSignature
  dsimp only
  rw [Mutating.wp_bind, Mutating.wp_get]
  cases svtMethod with
  | EXTEND =>
      rw [if_neg (by decide)]
      exact ⟨[], rfl, by rw [detachAll_nil]⟩
  | REPLACE =>
      rw [if_pos rfl, Mutating.wp_bind]
      have hprunable : isPrunable env.jvm (h.contentOf s) = false := by
        obtain ⟨m, hm, rfl, hname⟩ := hs
        rw [contentOf_of_mem wf hm]
        exact isPrunable_signature hname
      refine Mutating.wp_mono (wp_removeSvtProperties wf hprunable) ?_ ?_
      · rintro - t ⟨gone, rfl, hremoves, hnone⟩
        exact ⟨gone, ⟨hremoves, hnone⟩, rfl⟩
      · rintro ex t ⟨hgone, hemptied⟩
        exact ⟨rfl, hemptied, hgone⟩

/-- The turn that leaves this document. -/
theorem exists_turn (wf : WellFormed h)
    (hs : ∃ m ∈ h.nodes, m.key = s ∧ m.content.hasName xmldsigNS "Signature" = true)
    (rnd : Key → String) (token : String) {svtMethod : SVTExtendpolicy}
    (hremoved : RemovedBy jvm h s gone svtMethod) :
    ∃ property, Turn jvm rnd svtMethod h (addSignatureProperty jvm rnd s token (h.detachAll gone))
      s token gone property := by
  have hs₁ : ∃ m ∈ (h.detachAll gone).nodes, m.key = s ∧
      m.content.hasName xmldsigNS "Signature" = true := by
    obtain ⟨m, hm, hkey, hname⟩ := hs
    exact ⟨_, List.mem_map_of_mem hm, hkey, hname⟩
  obtain ⟨property, hplaced⟩ :=
    placed_addSignatureProperty (wellFormed_detachAll wf) hs₁ jvm rnd token
  exact ⟨property, hremoved, hplaced⟩

/-- **One turn of the loop.** -/
theorem wp_extendSignature (env : XmlExtensionEnv Cert) (wf : WellFormed h)
    (hs : ∃ m ∈ h.nodes, m.key = s ∧ m.content.hasName xmldsigNS "Signature" = true)
    (jwt : Commons.SignedJWT) (svtMethod : SVTExtendpolicy) :
    Mutating.wp (extendSignature env ⟨s, jwt, svtMethod⟩)
      (fun _ h' => ∃ gone property,
        Turn env.jvm env.secureRandom svtMethod h h' s (env.serialize jwt) gone property)
      (fun _ h' => FailedTurn env.jvm svtMethod h h' s) h := by
  refine Mutating.wp_mono (wp_extendSignature_added env wf hs jwt svtMethod) ?_ fun _ _ h => h
  rintro - h' ⟨gone, hremoved, rfl⟩
  obtain ⟨property, hturn⟩ := exists_turn wf hs env.secureRandom (env.serialize jwt) hremoved
  exact ⟨gone, property, hturn⟩

/-! ## What a turn keeps -/

theorem HoldsToken.of_sameBelow (wf : WellFormed h) (wf' : WellFormed h')
    (hbelow : h'.below p = h.below p) (hholds : HoldsToken h p token) : HoldsToken h' p token where
  token := by
    obtain ⟨k, hk, htext⟩ := hholds.token
    have hsvt : svtElements h' p = svtElements h p := by
      unfold svtElements getElementsByTagNameNS
      rw [hbelow]
    refine ⟨k, hsvt.trans hk, ?_⟩
    have hpk : p ∈ h.chain k := by
      have hmem : k ∈ svtElements h p := by
        rw [hk]
        exact List.mem_singleton_self k
      obtain ⟨n, hn, hpn, _, rfl⟩ := mem_getElementsByTagNameNS.mp hmem
      rw [chain_of_mem wf hn]
      exact hpn
    unfold getTextContent
    rw [below_of_sameBelow wf wf' hbelow hpk]
    exact htext
  inside := by
    rw [hbelow]
    exact hholds.inside

section Turn

variable {svtMethod : SVTExtendpolicy} (wf : WellFormed h)
  (hturn : Turn jvm rnd svtMethod h h' s token gone p)
include wf hturn

omit wf in
/-- An old node is there after the turn, in its old place or cut loose. -/
theorem Turn.old {n : Node} (hn : n ∈ h.nodes) :
    withId rnd (h.detachAll gone) s (detachNode gone n) ∈ h'.nodes :=
  hturn.placed.old _ (List.mem_map_of_mem hn)

/-- A node that is not removed keeps its place. -/
theorem Turn.chain_of_alive {n : Node} (hn : n ∈ h.nodes) (halive : Alive h gone n.key) :
    h'.chain n.key = h.chain n.key := by
  have hn' := hturn.old hn
  rw [detachAll_of_alive wf hn halive] at hn'
  have hkey : (withId rnd (h.detachAll gone) s n).key = n.key := key_withId n
  rw [← hkey, chain_of_mem hturn.placed.wf hn', ancestors_withId, hkey, chain_of_mem wf hn]

/-- All but the signature keep what they are. -/
theorem Turn.contentOf_of_ne {n : Node} (hn : n ∈ h.nodes) (hne : n.key ≠ s) :
    h'.contentOf n.key = h.contentOf n.key := by
  have hn' := hturn.old hn
  have hne' : (detachNode gone n).key ≠ s := hne
  rw [withId_of_ne hne'] at hn'
  have hcontent := contentOf_of_mem hturn.placed.wf hn'
  rw [contentOf_of_mem wf hn]
  exact hcontent

theorem Turn.hasName {n : Node} (hn : n ∈ h.nodes) (ns name : String) :
    (h'.contentOf n.key).hasName ns name = (h.contentOf n.key).hasName ns name := by
  have hn' := hturn.old hn
  have hkey : (withId rnd (h.detachAll gone) s (detachNode gone n)).key = n.key := key_withId _
  rw [← hkey, contentOf_of_mem hturn.placed.wf hn', hasName_withId, hkey, contentOf_of_mem wf hn]
  rfl

omit hturn in
/-- The added property does not hang in the property of another token. -/
theorem anchor_avoids_property {q : Key} {token' : String} (hholds : HoldsToken h q token')
    (hname : (h.contentOf q).hasName xmldsigNS "SignatureProperty" = true) (hqs : q ≠ s)
    (hqchain : q ∉ h.chain s) :
    q ∉ anchor jvm (h.detachAll gone) s ::
      (h.detachAll gone).chain (anchor jvm (h.detachAll gone) s) := by
  have wf₁ : WellFormed (h.detachAll gone) := wellFormed_detachAll wf
  unfold anchor
  cases ht : existingTarget jvm (h.detachAll gone) s with
  | none =>
      rw [Option.getD_none, List.mem_cons, not_or]
      exact ⟨hqs, fun hq => hqchain (mem_chain_detachAll_of hq)⟩
  | some t =>
      obtain ⟨-, htname⟩ := existingTarget_spec wf₁ ht
      have hlength := equalsIgnoreCase_length htname
      rw [contentOf_detachAll] at hlength
      rw [Option.getD_some, List.mem_cons, not_or]
      constructor
      · rintro rfl
        rw [Content.localName_of_hasName hname] at hlength
        exact absurd hlength (by decide)
      · intro hq
        obtain ⟨n, hn, rfl, hchain⟩ := exists_of_mem_chain (mem_chain_detachAll_of hq)
        have hqn : n ∈ h.below q :=
          mem_below.mpr ⟨hn, hchain ▸ mem_chain_detachAll_of hq⟩
        rw [contentOf_of_mem wf hn] at hlength
        rcases hholds.inside n hqn with hinside | hinside
        · rw [hinside] at hlength
          exact absurd hlength (by decide)
        · rw [hinside] at hlength
          exact absurd hlength (by decide)

/-- A token that is not below a removed node stays, if it hangs beside the new one. -/
theorem Turn.carries {s' q : Key} {token' : String} (hs' : ∃ n ∈ h.nodes, n.key = s')
    (hne : s' ≠ s) (hqs : q ≠ s) (hqchain : q ∉ h.chain s) (hcarries : Carries h s' token' q)
    (halive : ∀ n ∈ h.nodes, q ∈ n.key :: n.ancestors → Alive h gone n.key) :
    Carries h' s' token' q := by
  obtain ⟨n, hn, rfl, hdocument, hsn, hname, htarget⟩ := hcarries.node
  have hnalive := halive n hn List.mem_cons_self
  have hn' := hturn.old hn
  rw [detachAll_of_alive wf hn hnalive, withId_of_ne hqs] at hn'
  refine ⟨⟨n, hn', rfl, hdocument, hsn, hname, ?_⟩, ?_⟩
  · obtain ⟨m, hm, rfl⟩ := hs'
    rw [hturn.contentOf_of_ne wf hm hne]
    exact htarget
  · have hcontent : (h.contentOf n.key).hasName xmldsigNS "SignatureProperty" = true := by
      rw [contentOf_of_mem wf hn]
      exact hname
    have havoids : n.key ∉ anchor jvm (h.detachAll gone) s ::
        (h.detachAll gone).chain (anchor jvm (h.detachAll gone) s) :=
      anchor_avoids_property wf hcarries.holdsToken hcontent hqs hqchain
    apply hcarries.holdsToken.of_sameBelow wf hturn.placed.wf
    rw [hturn.placed.below n.key havoids (wf.fresh n hn), below_detachAll wf hnalive]
    refine List.filter_eq_self.mpr fun m hm => decide_eq_true ?_
    obtain ⟨hm, hnm⟩ := mem_below.mp hm
    exact halive m hm (List.mem_cons_of_mem _ hnm)

/-- The new token is carried. -/
theorem Turn.carries_new (hs : ∃ m ∈ h.nodes, m.key = s ∧
    m.content.hasName xmldsigNS "Signature" = true) (hdocument : documentKey ∈ h.chain s) :
    Carries h' s token p := by
  have wf₁ : WellFormed (h.detachAll gone) := wellFormed_detachAll wf
  have hsalive : Alive h gone s := hturn.removed.alive wf
  obtain ⟨n, hn, hkey, hancestors, hname, htarget⟩ := hturn.placed.node
  have hsanchor : s ∈ anchor jvm (h.detachAll gone) s ::
      (h.detachAll gone).chain (anchor jvm (h.detachAll gone) s) := signature_mem_anchor wf₁
  obtain ⟨m, hm, hmkey, hmname⟩ := hs
  have hsold : s < h.nextKey := hmkey ▸ wf.fresh m hm
  have hdocument₁ : documentKey ∈ (h.detachAll gone).chain s := by
    rw [chain_detachAll, if_neg (hsalive s List.mem_cons_self),
      cut_of_disjoint fun b hb => hsalive b (List.mem_cons_of_mem _ hb)]
    exact hdocument
  refine ⟨⟨n, hn, hkey, ?_, (hancestors s hsold).mpr hsanchor, hname, ?_⟩,
    hturn.placed.holdsToken⟩
  · apply (hancestors _ (wf.fresh _ wf.root)).mpr
    rcases List.mem_cons.mp hsanchor with heq | hsanchor
    · rw [← heq]
      exact List.mem_cons_of_mem _ hdocument₁
    · exact List.mem_cons_of_mem _ (mem_chain_trans wf₁ hsanchor hdocument₁)
  · have hm' := hturn.old hm
    have hmkey' : (detachNode gone m).key = s := hmkey
    have hcontent := contentOf_of_mem hturn.placed.wf hm'
    rw [key_withId, hmkey'] at hcontent
    rw [htarget, hcontent, getAttribute_withId wf₁ (List.mem_map_of_mem hm) hmkey'
      (Content.isElement_of_hasName hmname)]

end Turn

/-! ## Runs -/

/-- A signature with its turn behind it: the element, the token and the property. -/
structure Extension where
  element : Key
  token : String
  property : Key

/-- Between two turns. The document is `d` before the first turn. -/
structure RunInv (jvm : Jvm) (svtMethod : SVTExtendpolicy) (d h : Heap) (signatures : List Key)
    (done : List Extension) (todo : List Key) : Prop where
  wf : WellFormed h
  grows : d.nextKey ≤ h.nextKey
  split : signatures = done.map Extension.element ++ todo
  inPlace : ∀ s ∈ signatures, (∃ n ∈ h.nodes, n.key = s ∧
    n.content.hasName xmldsigNS "Signature" = true) ∧ h.chain s = d.chain s
  separate : svtMethod = .REPLACE →
    ∀ s ∈ todo, Separate jvm h signatures s ↔ Separate jvm d signatures s
  carries : ∀ e ∈ done, Carries h e.element e.token e.property
  new : ∀ e ∈ done, d.nextKey ≤ e.property ∧ e.property < h.nextKey
  outside : svtMethod = .REPLACE → ∀ e ∈ done, ∀ s ∈ todo, s ∉ h.chain e.property
  distinct : (done.map Extension.property).Nodup

/-- What the signatures of a document are. -/
structure SignaturesOf (d : Heap) (signatures : List Key) : Prop where
  wf : WellFormed d
  nodup : signatures.Nodup
  old : ∀ s ∈ signatures, s < d.nextKey
  attached : ∀ s ∈ signatures, documentKey ∈ d.chain s
  ordered : signatures.Pairwise fun s s' => s' ∉ d.chain s

section Run

variable {svtMethod : SVTExtendpolicy} {d : Heap} {done : List Extension} {todo : List Key}

/-- An earlier property is newer than every signature, so it is none and above none. -/
theorem RunInv.property_apart (hsigs : SignaturesOf d signatures)
    (hinv : RunInv jvm svtMethod d h signatures done todo) {e : Extension} (he : e ∈ done)
    {s' : Key} (hs' : s' ∈ signatures) : e.property ≠ s' ∧ e.property ∉ h.chain s' := by
  have hnew := (hinv.new e he).1
  constructor
  · rintro rfl
    exact Nat.lt_irrefl _ (Nat.lt_of_lt_of_le (hsigs.old _ hs') hnew)
  · rw [(hinv.inPlace s' hs').2]
    intro hin
    exact Nat.lt_irrefl _ (Nat.lt_of_lt_of_le (Filled.chain_lt hsigs.wf hin) hnew)

/-- The nodes at or below an earlier property are not removed by the turn. -/
theorem RunInv.alive_of_property (hsigs : SignaturesOf d signatures)
    (hinv : RunInv jvm svtMethod d h signatures done (s :: todo))
    (hremoved : RemovedBy jvm h s gone svtMethod) {e : Extension} (he : e ∈ done) {n : Node}
    (hn : n ∈ h.nodes) (hen : e.property ∈ n.key :: n.ancestors) : Alive h gone n.key := by
  cases svtMethod with
  | EXTEND =>
      intro b _ hbgone
      rw [show gone = [] from hremoved] at hbgone
      cases hbgone
  | REPLACE =>
      have hmem : s ∈ signatures := by
        rw [hinv.split]
        simp
      obtain ⟨hne, habove⟩ := hinv.property_apart hsigs he hmem
      exact alive_of_outside hinv.wf hremoved (hinv.outside rfl e he s List.mem_cons_self) hne
        habove hn hen

/-- The signatures are not removed by the turn. -/
theorem RunInv.alive_of_signature (hinv : RunInv jvm svtMethod d h signatures done (s :: todo))
    (hseparate : svtMethod = .REPLACE → Separate jvm h signatures s)
    (hremoved : RemovedBy jvm h s gone svtMethod) (hs' : s' ∈ signatures) : Alive h gone s' := by
  cases svtMethod with
  | EXTEND =>
      intro b _ hbgone
      rw [show gone = [] from hremoved] at hbgone
      cases hbgone
  | REPLACE =>
      obtain ⟨⟨n, hn, hkey, hname⟩, -⟩ := hinv.inPlace s' hs'
      refine alive_of_not_in_property hinv.wf hremoved.1 ?_ ?_
      · rw [← hkey, contentOf_of_mem hinv.wf hn]
        exact hname
      · intro q hq
        exact (hseparate rfl).keepsSignatures q hq s' hs'

/-- A signature whose turn is to come is not the one of this turn or around it. -/
theorem RunInv.later (hsigs : SignaturesOf d signatures)
    (hinv : RunInv jvm svtMethod d h signatures done (s :: todo)) (hs' : s' ∈ todo) :
    s' ≠ s ∧ s' ∉ h.chain s := by
  have hmem : s ∈ signatures := by
    rw [hinv.split]
    simp
  have hnodup := hsigs.nodup
  have hordered := hsigs.ordered
  rw [hinv.split] at hnodup hordered
  have hnodup' := (List.nodup_append.mp hnodup).2.1
  have hordered' := (List.pairwise_append.mp hordered).2.1
  rw [(hinv.inPlace s hmem).2]
  refine ⟨?_, (List.pairwise_cons.mp hordered').1 s' hs'⟩
  rintro rfl
  exact (List.nodup_cons.mp hnodup').1 hs'

/-- The new property does not hang in a signature whose turn is to come. -/
theorem RunInv.anchor_avoids_signature (hsigs : SignaturesOf d signatures)
    (hinv : RunInv jvm .REPLACE d h signatures done (s :: todo))
    (hseparate : Separate jvm h signatures s) (hremoved : RemovedBy jvm h s gone .REPLACE)
    (hs' : s' ∈ todo) :
    s' ∉ anchor jvm (h.detachAll gone) s ::
      (h.detachAll gone).chain (anchor jvm (h.detachAll gone) s) := by
  have wf₁ : WellFormed (h.detachAll gone) := wellFormed_detachAll hinv.wf
  have hmem' : s' ∈ signatures := by
    rw [hinv.split]
    simp [hs']
  have hlater := hinv.later hsigs hs'
  unfold anchor
  cases ht : existingTarget jvm (h.detachAll gone) s with
  | none =>
      rw [Option.getD_none, List.mem_cons, not_or]
      exact ⟨hlater.1, fun hmem => hlater.2 (mem_chain_detachAll_of hmem)⟩
  | some t =>
      obtain ⟨hst, htname⟩ := existingTarget_spec wf₁ ht
      have hfirst :=
        (existingTarget_iff_firstLeft hinv.wf hremoved.1 (hremoved.alive hinv.wf)).mp ht
      rw [Option.getD_some, List.mem_cons, not_or]
      constructor
      · rintro rfl
        obtain ⟨⟨n, hn, hkey, hname⟩, -⟩ := hinv.inPlace s' hmem'
        have hlength := equalsIgnoreCase_length htname
        rw [contentOf_detachAll, ← hkey, contentOf_of_mem hinv.wf hn,
          Content.localName_of_hasName hname] at hlength
        exact absurd hlength (by decide)
      · intro hs't
        have hs't := mem_chain_detachAll_of hs't
        rcases chain_comparable hinv.wf (mem_chain_detachAll_of hst) hs't with heq | hnested | hbad
        · exact hlater.1 heq.symm
        · exact hseparate.ownTarget t hfirst s' hmem' hnested hs't
        · exact hlater.2 hbad

/-- A signature whose turn is to come stays as it was for the tokens of the others. -/
theorem RunInv.separate_step (hsigs : SignaturesOf d signatures)
    (hinv : RunInv jvm .REPLACE d h signatures done (s :: todo))
    (hseparate : Separate jvm h signatures s)
    (hturn : Turn jvm rnd .REPLACE h h' s token gone p)
    (hchain : ∀ s' ∈ signatures, h'.chain s' = h.chain s') (hs' : s' ∈ todo) :
    Separate jvm h' signatures s' ↔ Separate jvm d signatures s' := by
  have wf := hinv.wf
  have hmem' : s' ∈ signatures := by
    rw [hinv.split]
    simp [hs']
  have halive : Alive h gone s' :=
    hinv.alive_of_signature (fun _ => hseparate) hturn.removed hmem'
  rw [← hinv.separate rfl s' (List.mem_cons_of_mem _ hs')]
  obtain ⟨⟨n, hn, hkey, hname⟩, -⟩ := hinv.inPlace s' hmem'
  have hbelow : h'.below s' = (h.detachAll gone).below s' := by
    refine hturn.placed.below s'
      (hinv.anchor_avoids_signature hsigs hseparate hturn.removed hs') ?_
    rw [← hkey]
    exact wf.fresh n hn
  by_cases hnested : s ∈ h.chain s'
  · refine separate_iff_of_nested wf hturn.removed.1 hturn.placed.wf ?_ halive hnested hbelow hchain
      hseparate
    rw [← hkey, contentOf_of_mem wf hn]
    exact hname
  · refine separate_iff_of_sameBelow wf hturn.placed.wf ?_ hchain
    rw [hbelow, below_detachAll wf halive]
    refine List.filter_eq_self.mpr fun m hm => decide_eq_true ?_
    obtain ⟨hm, hs'm⟩ := mem_below.mp hm
    rw [← chain_of_mem wf hm] at hs'm
    intro b hb hbgone
    -- a removed node lies below `s`, and so would `s'` or the other way round
    have hsm : s ∈ h.chain m.key := by
      rcases List.mem_cons.mp hb with rfl | hb
      · exact hturn.removed.below hbgone
      · exact mem_chain_trans wf hb (hturn.removed.below hbgone)
    have hlater := hinv.later hsigs hs'
    rcases chain_comparable wf hs'm hsm with heq | hs's | hss'
    · exact hlater.1 heq
    · exact hlater.2 hs's
    · exact hnested hss'

/-- **One turn keeps the invariant.** -/
theorem RunInv.step (hsigs : SignaturesOf d signatures)
    (hinv : RunInv jvm svtMethod d h signatures done (s :: todo))
    (hseparate : svtMethod = .REPLACE → Separate jvm h signatures s)
    (hturn : Turn jvm rnd svtMethod h h' s token gone p) :
    RunInv jvm svtMethod d h' signatures (done ++ [⟨s, token, p⟩]) todo := by
  have wf := hinv.wf
  have hplaced := hturn.placed
  have hmem : s ∈ signatures := by
    rw [hinv.split]
    simp
  have hchain : ∀ s' ∈ signatures, h'.chain s' = h.chain s' := by
    intro s' hs'
    obtain ⟨⟨n, hn, rfl, -⟩, -⟩ := hinv.inPlace s' hs'
    exact hturn.chain_of_alive wf hn (hinv.alive_of_signature hseparate hturn.removed hs')
  have hdone : ∀ e ∈ done, e.property ≠ s ∧ e.property ∉ h.chain s ∧ e.element ≠ s ∧
      e.element ∈ signatures := by
    intro e he
    obtain ⟨hne, habove⟩ := hinv.property_apart hsigs he hmem
    refine ⟨hne, habove, ?_, ?_⟩
    · have hnodup := hsigs.nodup
      rw [hinv.split] at hnodup
      exact (List.nodup_append.mp hnodup).2.2 _ (List.mem_map_of_mem he) s List.mem_cons_self
    · rw [hinv.split]
      exact List.mem_append_left _ (List.mem_map_of_mem he)
  have hcarries : ∀ e ∈ done, Carries h' e.element e.token e.property ∧
      h'.chain e.property = h.chain e.property := by
    intro e he
    obtain ⟨hps, hpchain, hes, hesig⟩ := hdone e he
    obtain ⟨⟨m, hm, hmkey, -⟩, -⟩ := hinv.inPlace e.element hesig
    obtain ⟨n, hn, hkey, -⟩ := (hinv.carries e he).node
    refine ⟨hturn.carries wf ⟨m, hm, hmkey⟩ hes hps hpchain (hinv.carries e he) ?_, ?_⟩
    · intro n hn hen
      exact hinv.alive_of_property hsigs hturn.removed he hn hen
    · rw [← hkey]
      refine hturn.chain_of_alive wf hn (hinv.alive_of_property hsigs hturn.removed he hn ?_)
      rw [hkey]
      exact List.mem_cons_self
  have hpnew : h.nextKey ≤ p := hplaced.fresh
  obtain ⟨n, hn, hnkey, hnancestors, -⟩ := hplaced.node
  refine ⟨hplaced.wf, Nat.le_trans hinv.grows hplaced.nextKey, ?_, ?_, ?_, ?_, ?_, ?_, ?_⟩
  · rw [hinv.split]
    simp
  · intro s' hs'
    obtain ⟨⟨m, hm, hkey, hname⟩, hold⟩ := hinv.inPlace s' hs'
    refine ⟨⟨_, hturn.old hm, ?_, ?_⟩, (hchain s' hs').trans hold⟩
    · rw [key_withId]
      exact hkey
    · rw [hasName_withId]
      exact hname
  · rintro rfl s' hs'
    exact hinv.separate_step hsigs (hseparate rfl) hturn hchain hs'
  · intro e he
    rcases List.mem_append.mp he with he | he
    · exact (hcarries e he).1
    · obtain rfl := List.mem_singleton.mp he
      apply hturn.carries_new wf (hinv.inPlace s hmem).1
      rw [(hinv.inPlace s hmem).2]
      exact hsigs.attached s hmem
  · intro e he
    rcases List.mem_append.mp he with he | he
    · exact ⟨(hinv.new e he).1, Nat.lt_of_lt_of_le (hinv.new e he).2 hplaced.nextKey⟩
    · obtain rfl := List.mem_singleton.mp he
      exact ⟨Nat.le_trans hinv.grows hpnew, hnkey ▸ hplaced.wf.fresh n hn⟩
  · rintro rfl e he s' hs'
    rcases List.mem_append.mp he with he | he
    · rw [(hcarries e he).2]
      exact hinv.outside rfl e he s' (List.mem_cons_of_mem _ hs')
    · obtain rfl := List.mem_singleton.mp he
      intro hin
      have hs'old : s' < h.nextKey := by
        have hs'mem : s' ∈ signatures := by
          rw [hinv.split]
          simp [hs']
        exact Nat.lt_of_lt_of_le (hsigs.old s' hs'mem) hinv.grows
      refine hinv.anchor_avoids_signature hsigs (hseparate rfl) hturn.removed hs'
        ((hnancestors s' hs'old).mp ?_)
      rw [← chain_of_mem hplaced.wf hn, hnkey]
      exact hin
  · rw [List.map_append, List.nodup_append]
    refine ⟨hinv.distinct, by simp, ?_⟩
    intro q hq r hr
    obtain ⟨e, he, rfl⟩ := List.mem_map.mp hq
    rw [List.map_singleton, List.mem_singleton] at hr
    rw [hr]
    exact Nat.ne_of_lt (Nat.lt_of_lt_of_le (hinv.new e he).2 hpnew)

/-! ## The whole loop -/

/-- The signatures of a document, in document order. -/
theorem signaturesOf_getSignatures (wf : WellFormed d) : SignaturesOf d (getSignatures d) where
  wf := wf
  nodup := wf.keys_nodup.sublist ((List.filter_sublist.trans List.filter_sublist).map _)
  old := by
    intro s hs
    obtain ⟨n, hn, -, -, rfl⟩ := mem_getElementsByTagNameNS.mp hs
    exact wf.fresh n hn
  attached := by
    intro s hs
    obtain ⟨n, hn, hdocument, -, rfl⟩ := mem_getElementsByTagNameNS.mp hs
    rw [chain_of_mem wf hn]
    exact hdocument
  ordered := by
    have hsublist : ((d.below documentKey).filter
        (·.content.hasName xmldsigNS "Signature")).Sublist d.nodes :=
      List.filter_sublist.trans List.filter_sublist
    refine List.pairwise_map.mpr ((wf.ordered.sublist hsublist).imp_of_mem ?_)
    intro a b ha _ hab
    rw [chain_of_mem wf (hsublist.subset ha)]
    exact hab

theorem runInv_start (wf : WellFormed d) : RunInv jvm svtMethod d d (getSignatures d) []
    (getSignatures d) where
  wf := wf
  grows := Nat.le_refl _
  split := rfl
  inPlace := by
    intro s hs
    obtain ⟨n, hn, -, hname, rfl⟩ := mem_getElementsByTagNameNS.mp hs
    exact ⟨⟨n, hn, rfl, hname⟩, rfl⟩
  separate := fun _ _ _ => .rfl
  carries := by simp
  new := by simp
  outside := by simp
  distinct := List.nodup_nil

/-- The extension that was made with the data. -/
def ExtendedWith (env : XmlExtensionEnv Cert) (data : SVTExtensionData) (e : Extension) : Prop :=
  e.element = data.element ∧ e.token = env.serialize data.signedJWT

/-- **The loop over separate signatures.** It does not throw, and each signature carries
its own token in the end. -/
theorem wp_extendSignatures (env : XmlExtensionEnv Cert) (hsigs : SignaturesOf d signatures)
    {data : List SVTExtensionData} (hmethod : ∀ x ∈ data, x.svtMethod = svtMethod)
    (hinv : RunInv env.jvm svtMethod d h signatures done (data.map SVTExtensionData.element))
    (hseparate : svtMethod = .REPLACE → ∀ x ∈ data, Separate env.jvm d signatures x.element) :
    Mutating.wp (extendSignatures env data)
      (fun _ h' => ∃ new, RunInv env.jvm svtMethod d h' signatures (done ++ new) [] ∧
        List.Forall₂ (ExtendedWith env) data new)
      (fun _ _ => False) h := by
  induction data generalizing h done with
  | nil => exact ⟨[], by simpa using hinv, .nil⟩
  | cons x rest ih =>
      obtain ⟨s, jwt, method⟩ := x
      obtain rfl : method = svtMethod := hmethod _ List.mem_cons_self
      have hmem : s ∈ signatures := by
        rw [hinv.split]
        simp
      have hown : method = .REPLACE → Separate env.jvm h signatures s := by
        intro hreplace
        rw [hinv.separate hreplace s List.mem_cons_self]
        exact hseparate hreplace _ List.mem_cons_self
      unfold extendSignatures
      rw [Mutating.wp_bind]
      refine Mutating.wp_mono
        (wp_extendSignature env hinv.wf (hinv.inPlace s hmem).1 jwt method) ?_ ?_
      · rintro - h₁ ⟨gone, property, hturn⟩
        have hnext := hinv.step hsigs hown hturn
        refine Mutating.wp_mono (ih (fun y hy => hmethod y (List.mem_cons_of_mem _ hy)) hnext
          fun hreplace y hy => hseparate hreplace y (List.mem_cons_of_mem _ hy)) ?_ fun _ _ h => h
        rintro - h₂ ⟨new, hlast, hall⟩
        refine ⟨⟨s, env.serialize jwt, property⟩ :: new, ?_, .cons ⟨rfl, rfl⟩ hall⟩
        rw [List.append_cons]
        exact hlast
      · rintro ex h₁ ⟨hreplace, ⟨p, hemptied⟩, -⟩
        exact (hown hreplace).notEmptied p hemptied

end Run

end SigVal.Xml.XMLDocumentSVTIssuer
