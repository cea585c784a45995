import SigVal.Xml.ExtensionRun

/-!
# Tokens that are lost

With `REPLACE` a signature that is not separate does harm in its turn. A property that is
emptied before it is removed ends the run with an exception, after nodes were removed. A
signature in a removed property is no longer in the document. A token that was put into an
inner signature is taken for an old one when the inner signature has its turn.

Each of these is final: there are then never as many new tokens in the document as
signatures.
-/

namespace SigVal.Xml.XMLDocumentSVTIssuer

open SigVal.Java SigVal.LinkedDom Heap
open Svt.XMLSVTValidator (xmldsigNS xmlSvtNS)
open Jose (SVTExtendpolicy)
open DefaultXMLSignatureContext (SameContent)

/-- Every signature has its own new token in the document. The document was `d` before. -/
structure Receives (d h : Heap) (signatures : List Key) (extensions : List Extension) : Prop where
  elements : extensions.map Extension.element = signatures
  carries : ∀ e ∈ extensions, Carries h e.element e.token e.property
  new : ∀ e ∈ extensions, d.nextKey ≤ e.property
  distinct : (extensions.map Extension.property).Nodup

/-- The keys are those of all new properties in the document. -/
def Covers (d h : Heap) (properties : List Key) : Prop :=
  ∀ n ∈ h.nodes, d.nextKey ≤ n.key → n.content.hasName xmldsigNS "SignatureProperty" = true →
    documentKey ∈ n.ancestors → n.key ∈ properties

/-- After some turns. Old nodes are where they were, or cut loose. -/
structure Later (d h : Heap) (signatures : List Key) : Prop where
  wf : WellFormed h
  grows : d.nextKey ≤ h.nextKey
  shrinks : ∀ x < d.nextKey, ∀ a ∈ h.chain x, a ∈ d.chain x
  inPlace : ∀ s ∈ signatures, ∃ n ∈ h.nodes, n.key = s ∧
    n.content.hasName xmldsigNS "Signature" = true

/-- After this many turns a signature or a token is lost, or will be. -/
inductive Doomed (d h : Heap) (signatures todo : List Key) (turns : Nat) : Prop where
  /-- The signature was in a property that was removed. -/
  | lost {s : Key} : s ∈ signatures → documentKey ∉ h.chain s → Doomed d h signatures todo turns
  /-- There are fewer new properties than turns. -/
  | short {properties : List Key} : Covers d h properties → properties.length < turns →
      Doomed d h signatures todo turns
  /-- A new property hangs in a signature whose turn is to come. -/
  | pending {properties : List Key} {e : Extension} {s : Key} : Covers d h properties →
      properties.length ≤ turns → e.element ∉ todo → Carries h e.element e.token e.property →
      d.nextKey ≤ e.property → s ∈ todo → s ∈ h.chain e.property → Doomed d h signatures todo turns

variable {Cert : Type} {jvm : Jvm} {rnd : Key → String} {d h h' : Heap} {s s' p x a : Key}
  {gone signatures todo properties : List Key} {token : String} {turns : Nat}
  {done : List Extension}

/-! ## What a turn does to the rest -/

section Turn

variable {svtMethod : SVTExtendpolicy} (wf : WellFormed h)
  (hturn : Turn jvm rnd svtMethod h h' s token gone p)
include wf hturn

/-- No old node gets a new ancestor. -/
theorem Turn.shrinks (hx : x < h.nextKey) (ha : a ∈ h'.chain x) : a ∈ h.chain x := by
  obtain ⟨n, hn, rfl, hchain⟩ := exists_of_mem_chain ha
  rw [hchain] at ha
  rcases hturn.placed.new n hn with ⟨m, hm, rfl⟩ | ⟨hnew, -⟩
  · rw [ancestors_withId] at ha
    rw [key_withId]
    rw [← chain_of_mem (wellFormed_detachAll wf) hm] at ha
    exact mem_chain_detachAll_of ha
  · exact absurd hx (Nat.not_lt.mpr hnew)

/-- What was removed, or hung in a removed node, is not in the document any more. -/
theorem Turn.not_in_document {b : Key} (hx : x < h.nextKey) (hb : b ∈ x :: h.chain x)
    (hbgone : b ∈ gone) : documentKey ∉ h'.chain x := by
  intro hdocument
  obtain ⟨n, hn, rfl, hchain⟩ := exists_of_mem_chain hdocument
  rw [hchain] at hdocument
  rcases hturn.placed.new n hn with ⟨m, hm, rfl⟩ | ⟨hnew, -⟩
  · rw [ancestors_withId, ← chain_of_mem (wellFormed_detachAll wf) hm,
      mem_chain_detachAll_iff wf (hturn.removed.alive_document wf)] at hdocument
    rw [key_withId] at hb
    exact hdocument.2 b hb hbgone
  · exact absurd hx (Nat.not_lt.mpr hnew)

/-- One new property comes, and those stay that are still in the document. -/
theorem Turn.covers {left : List Key} (hcovers : Covers d h properties)
    (hleft : ∀ q ∈ properties, documentKey ∈ h'.chain q → q ∈ left) : Covers d h' (p :: left) := by
  intro n hn hnew hname hdocument
  rcases hturn.placed.new n hn with ⟨m, hm, rfl⟩ | hadded
  · have hin : documentKey ∈ h'.chain m.key := by
      have hkey : (withId rnd (h.detachAll gone) s m).key = m.key := key_withId m
      rw [← hkey, chain_of_mem hturn.placed.wf hn]
      exact hdocument
    obtain ⟨m', hm', rfl⟩ := List.mem_map.mp hm
    rw [hasName_withId] at hname
    rw [key_withId] at hnew ⊢
    refine List.mem_cons_of_mem _ (hleft _ (hcovers m' hm' hnew hname ?_) hin)
    have hold := hturn.shrinks wf (wf.fresh m' hm') hin
    rw [chain_of_mem wf hm'] at hold
    exact hold
  · rw [hadded.property hname]
    exact List.mem_cons_self

theorem Later.step (hlater : Later d h signatures) : Later d h' signatures where
  wf := hturn.placed.wf
  grows := Nat.le_trans hlater.grows hturn.placed.nextKey
  shrinks := by
    intro x hx a ha
    exact hlater.shrinks x hx a (hturn.shrinks wf (Nat.lt_of_lt_of_le hx hlater.grows) ha)
  inPlace := by
    intro s' hs'
    obtain ⟨n, hn, rfl, hname⟩ := hlater.inPlace s' hs'
    refine ⟨_, hturn.old hn, ?_, ?_⟩
    · exact key_withId _
    · rw [hasName_withId]
      exact hname

end Turn

theorem Carries.isSvtProperty (wf : WellFormed h) (hcarries : Carries h s token p) :
    IsSvtProperty h p := by
  obtain ⟨n, hn, rfl, -, -, hname, -⟩ := hcarries.node
  obtain ⟨k, hk, -⟩ := hcarries.holdsToken.token
  refine ⟨?_, by simp [hk]⟩
  rw [contentOf_of_mem wf hn]
  exact hname

/-! ## Doomed runs -/

/-- **What is lost stays lost.** -/
theorem Doomed.step (hsigs : SignaturesOf d signatures) (hs : s ∈ signatures)
    (hlater : Later d h signatures) (hturn : Turn jvm rnd .REPLACE h h' s token gone p)
    (hdoomed : Doomed d h signatures (s :: todo) turns) :
    Doomed d h' signatures todo (turns + 1) := by
  have wf := hlater.wf
  rcases hdoomed with ⟨hs', hlost⟩ | ⟨hcovers, hlength⟩ |
    @⟨properties, e, s', hcovers, hlength, hdone, hcarries, hnew, hs', hinner⟩
  · refine .lost hs' fun hdocument => hlost (hturn.shrinks wf ?_ hdocument)
    exact Nat.lt_of_lt_of_le (hsigs.old _ hs') hlater.grows
  · exact .short (hturn.covers wf hcovers fun q hq _ => hq) (Nat.succ_lt_succ hlength)
  · obtain ⟨n, hn, hkey, hdocument, hen, hname, -⟩ := id hcarries.node
    by_cases hbelow : s ∈ h.chain e.property
    · -- the property goes in this turn
      have hgone : e.property ∈ gone :=
        (hturn.removed.1 _).mpr ⟨hbelow, .property (hcarries.isSvtProperty wf)⟩
      have hold : e.property < h.nextKey := hkey ▸ wf.fresh n hn
      have hlost := hturn.not_in_document wf hold List.mem_cons_self hgone
      have hmem : e.property ∈ properties := by
        rw [← hkey]
        exact hcovers n hn (hkey ▸ hnew) hname hdocument
      have hleft : Covers d h' (p :: properties.erase e.property) := by
        apply hturn.covers wf hcovers
        intro q hq hin
        refine (List.mem_erase_of_ne ?_).mpr hq
        rintro rfl
        exact hlost hin
      refine .short hleft ?_
      rw [List.length_cons, List.length_erase_of_mem hmem]
      have hpos := List.length_pos_of_mem hmem
      omega
    · have hne : s' ≠ s := by
        rintro rfl
        exact hbelow hinner
      have hps : e.property ≠ s := by
        intro heq
        have hlt := hsigs.old s hs
        rw [← heq] at hlt
        exact Nat.lt_irrefl _ (Nat.lt_of_lt_of_le hlt hnew)
      have hpchain : e.property ∉ h.chain s := by
        intro hin
        have hlt := Filled.chain_lt hsigs.wf (hlater.shrinks s (hsigs.old s hs) _ hin)
        exact Nat.lt_irrefl _ (Nat.lt_of_lt_of_le hlt hnew)
      have halive : ∀ m ∈ h.nodes, e.property ∈ m.key :: m.ancestors → Alive h gone m.key :=
        fun m hm hem => alive_of_outside wf hturn.removed hbelow hps hpchain hm hem
      have hnode : ∃ m ∈ h.nodes, m.key = e.element := exists_node_of_mem_ancestors wf hn hen
      have hother : e.element ≠ s := fun heq => hdone (heq ▸ List.mem_cons_self)
      have hplace : h'.chain e.property = h.chain e.property := by
        rw [← hkey]
        refine hturn.chain_of_alive wf hn (halive n hn ?_)
        rw [hkey]
        exact List.mem_cons_self
      refine .pending (hturn.covers wf hcovers fun q hq _ => hq) (Nat.succ_le_succ hlength)
        (fun hmem => hdone (List.mem_cons_of_mem _ hmem))
        (hturn.carries wf hnode hother hps hpchain hcarries halive) hnew
        ((List.mem_cons.mp hs').resolve_left hne) ?_
      rw [hplace]
      exact hinner

/-- In the end there is a signature without a token of its own. -/
theorem Doomed.not_receives (hlater : Later d h signatures)
    (hdoomed : Doomed d h signatures [] signatures.length) {extensions : List Extension} :
    ¬ Receives d h signatures extensions := by
  intro hreceives
  rcases hdoomed with ⟨hs, hlost⟩ | @⟨properties, hcovers, hlength⟩ | ⟨-, -, -, -, -, hs, -⟩
  · rw [← hreceives.elements] at hs
    obtain ⟨e, he, rfl⟩ := List.mem_map.mp hs
    obtain ⟨n, hn, -, hdocument, hsn, -⟩ := (hreceives.carries e he).node
    rw [← chain_of_mem hlater.wf hn] at hdocument hsn
    rcases chain_comparable hlater.wf hdocument hsn with heq | hin | hin
    · obtain ⟨m, hm, hkey, hname⟩ := hlater.inPlace e.element (by
        rw [← hreceives.elements]
        exact List.mem_map_of_mem he)
      have hroot := eq_of_key_eq hlater.wf hm hlater.wf.root (hkey.trans heq.symm)
      rw [hroot] at hname
      cases hname
    · exact hlost hin
    · rw [chain_of_mem hlater.wf hlater.wf.root] at hin
      cases hin
  · have hsub : extensions.map Extension.property ⊆ properties := by
      intro q hq
      obtain ⟨e, he, rfl⟩ := List.mem_map.mp hq
      obtain ⟨n, hn, hkey, hdocument, -, hname, -⟩ := (hreceives.carries e he).node
      rw [← hkey]
      refine hcovers n hn ?_ hname hdocument
      rw [hkey]
      exact hreceives.new e he
    have hle := (List.subperm_of_subset hreceives.distinct hsub).length_le
    rw [← hreceives.elements, List.length_map] at hlength
    rw [List.length_map] at hle
    exact Nat.lt_irrefl _ (Nat.lt_of_lt_of_le hlength hle)
  · cases hs

/-- A turn that throws leaves a document that is not the one there was. -/
theorem FailedTurn.changed {svtMethod : SVTExtendpolicy} (wf : WellFormed h)
    (hfailed : FailedTurn jvm svtMethod h h' s)
    (hd : h = d ∨ ∃ n ∈ h.nodes, d.nextKey ≤ n.key) (hwf : WellFormed d) :
    ¬ SameContent d h' := by
  obtain ⟨-, -, gone, rfl, hne, hbelow⟩ := hfailed
  rintro ⟨hnodes, -⟩
  rcases hd with rfl | ⟨n, hn, hnew⟩
  · obtain ⟨g, hg⟩ := List.exists_mem_of_ne_nil _ hne
    obtain ⟨n, hn, rfl, hchain⟩ := exists_of_mem_chain (hbelow g hg)
    have hmem : detachNode gone n ∈ h.nodes := by
      rw [← hnodes]
      exact List.mem_map_of_mem hn
    have heq := eq_of_key_eq wf hmem hn rfl
    have hs := hbelow _ hg
    rw [hchain, ← heq] at hs
    simp [detachNode, hg] at hs
  · have hmem : detachNode gone n ∈ d.nodes := by
      rw [← hnodes]
      exact List.mem_map_of_mem hn
    exact Nat.lt_irrefl _ (Nat.lt_of_lt_of_le (hwf.fresh _ hmem) hnew)

/-- After a turn there is a node that was not there before. -/
theorem Turn.exists_new {svtMethod : SVTExtendpolicy}
    (hturn : Turn jvm rnd svtMethod h h' s token gone p) (hgrows : d.nextKey ≤ h.nextKey) :
    ∃ n ∈ h'.nodes, d.nextKey ≤ n.key := by
  obtain ⟨n, hn, hkey, -⟩ := hturn.placed.node
  refine ⟨n, hn, ?_⟩
  rw [hkey]
  exact Nat.le_trans hgrows hturn.placed.fresh

/-- What a run with `REPLACE` comes to when a signature or a token is lost. -/
structure Harmed (d : Heap) (signatures : List Key) (h : Heap) : Prop where
  wf : WellFormed h
  notReceived : ∀ extensions, ¬ Receives d h signatures extensions

theorem wp_extendSignatures_doomed (env : XmlExtensionEnv Cert) (hsigs : SignaturesOf d signatures)
    {data : List SVTExtensionData} (hmethod : ∀ x ∈ data, x.svtMethod = .REPLACE)
    (hmem : ∀ x ∈ data, x.element ∈ signatures) (hlater : Later d h signatures)
    (hnew : ∃ n ∈ h.nodes, d.nextKey ≤ n.key) (hturns : turns + data.length = signatures.length)
    (hdoomed : Doomed d h signatures (data.map SVTExtensionData.element) turns) :
    Mutating.wp (extendSignatures env data) (fun _ h' => Harmed d signatures h')
      (fun _ h' => ¬ SameContent d h') h := by
  induction data generalizing h turns with
  | nil =>
      obtain rfl : turns = signatures.length := hturns
      exact ⟨hlater.wf, fun extensions => hdoomed.not_receives hlater⟩
  | cons x rest ih =>
      obtain ⟨s, jwt, method⟩ := x
      obtain rfl : method = .REPLACE := hmethod _ List.mem_cons_self
      have hs : s ∈ signatures := hmem _ List.mem_cons_self
      unfold extendSignatures
      rw [Mutating.wp_bind]
      refine Mutating.wp_mono
        (wp_extendSignature env hlater.wf (hlater.inPlace s hs) jwt .REPLACE) ?_ ?_
      · rintro - h₁ ⟨gone, property, hturn⟩
        refine ih (fun y hy => hmethod y (List.mem_cons_of_mem _ hy))
          (fun y hy => hmem y (List.mem_cons_of_mem _ hy)) (hlater.step hlater.wf hturn)
          (hturn.exists_new hlater.grows) ?_ (hdoomed.step hsigs hs hlater hturn)
        rw [← hturns, List.length_cons, Nat.add_assoc, Nat.add_comm 1]
      · intro ex h₁ hfailed
        exact hfailed.changed hlater.wf (.inr hnew) hsigs.wf

/-! ## The first turn that does harm -/

theorem later_start (hsigs : SignaturesOf d (getSignatures d)) : Later d d (getSignatures d) where
  wf := hsigs.wf
  grows := Nat.le_refl _
  shrinks := fun _ _ _ ha => ha
  inPlace := by
    intro s hs
    obtain ⟨n, hn, -, hname, rfl⟩ := mem_getElementsByTagNameNS.mp hs
    exact ⟨n, hn, rfl, hname⟩

/-- A turn that ends normally for a signature that is not separate. -/
theorem doomed_of_not_separate (hsigs : SignaturesOf d signatures)
    (hinv : RunInv jvm .REPLACE d h signatures done (s :: todo))
    (hcovers : Covers d h (done.map Extension.property))
    (hnot : ¬ Separate jvm h signatures s)
    (hturn : Turn jvm rnd .REPLACE h h' s token gone p) :
    Doomed d h' signatures todo (done.length + 1) := by
  have wf := hinv.wf
  have hremoves : Removes jvm h s gone := hturn.removed.1
  have hs : s ∈ signatures := by
    rw [hinv.split]
    simp
  by_cases hkeeps : ∀ p ∈ getSvtSignaturePropertyElements h s, ∀ s' ∈ signatures, p ∉ h.chain s'
  · -- the token is put into an inner signature
    have htarget : ∃ t, FirstLeft jvm h s t ∧ ∃ s' ∈ signatures, s ∈ h.chain s' ∧
        s' ∈ h.chain t := by
      by_contra hnone
      refine hnot ⟨hturn.removed.2, hkeeps, ?_⟩
      intro t ht s' hs' hnested hs't
      exact hnone ⟨t, ht, s', hs', hnested, hs't⟩
    obtain ⟨t, ht, s', hs', hnested, hs't⟩ := htarget
    have halive : Alive h gone s := hturn.removed.alive wf
    have hanchor : anchor jvm (h.detachAll gone) s = t := by
      rw [anchor, (existingTarget_iff_firstLeft wf hremoves halive).mpr ht]
      rfl
    have htalive : Alive h gone t := by
      obtain ⟨_, _, _, hsurvives, _⟩ := ht
      exact (alive_iff_survives hremoves).mpr hsurvives
    have hs'alive : Alive h gone s' := by
      intro b hb
      refine htalive b (List.mem_cons_of_mem _ ?_)
      rcases List.mem_cons.mp hb with rfl | hb
      · exact hs't
      · exact mem_chain_trans wf hs't hb
    have hin : s' ∈ h'.chain p := by
      obtain ⟨n, hn, rfl, hancestors, -⟩ := hturn.placed.node
      have hold : s' < h.nextKey := Nat.lt_of_lt_of_le (hsigs.old s' hs') hinv.grows
      rw [chain_of_mem hturn.placed.wf hn, hancestors s' hold, hanchor]
      exact List.mem_cons_of_mem _ ((mem_chain_detachAll_iff wf hs'alive).mpr ⟨hs't, htalive⟩)
    have hordered := hsigs.ordered
    have hnodup := hsigs.nodup
    rw [hinv.split] at hs' hordered hnodup
    have hmem : s' ∈ todo := by
      rcases List.mem_append.mp hs' with hs' | hs'
      · exfalso
        apply (List.pairwise_append.mp hordered).2.2 s' hs' s List.mem_cons_self
        rw [← (hinv.inPlace s' (by rw [hinv.split]; simp [hs'])).2]
        exact hnested
      · rcases List.mem_cons.mp hs' with rfl | hs'
        · exact absurd hnested (not_mem_chain_self wf)
        · exact hs'
    have hother : s ∉ todo := (List.nodup_cons.mp (List.nodup_append.mp hnodup).2.1).1
    have hcarries : Carries h' s token p := by
      apply hturn.carries_new wf (hinv.inPlace s hs).1
      rw [(hinv.inPlace s hs).2]
      exact hsigs.attached s hs
    refine @Doomed.pending d h' signatures todo _ _ ⟨s, token, p⟩ s'
      (hturn.covers wf hcovers fun q hq _ => hq) ?_ hother hcarries ?_ hmem hin
    · rw [List.length_cons, List.length_map]
    · exact Nat.le_trans hinv.grows hturn.placed.fresh
  · -- a signature goes with a property
    push Not at hkeeps
    obtain ⟨q, hq, s', hs', hqs'⟩ := hkeeps
    obtain ⟨hsq, hproperty⟩ := (mem_svtProperties wf).mp hq
    have hgone : q ∈ gone := (hremoves q).mpr ⟨hsq, .property hproperty⟩
    have hold : s' < h.nextKey := Nat.lt_of_lt_of_le (hsigs.old s' hs') hinv.grows
    exact .lost hs' (hturn.not_in_document wf hold (List.mem_cons_of_mem _ hqs') hgone)

/-- **The loop over signatures that are not all separate.** It throws with the document
changed, or ends without a token for each signature. -/
theorem wp_extendSignatures_not_separate (env : XmlExtensionEnv Cert)
    (hsigs : SignaturesOf d signatures) {data : List SVTExtensionData}
    (hmethod : ∀ x ∈ data, x.svtMethod = .REPLACE) (hlater : Later d h signatures)
    (hinv : RunInv env.jvm .REPLACE d h signatures done (data.map SVTExtensionData.element))
    (hcovers : Covers d h (done.map Extension.property))
    (hd : h = d ∨ ∃ n ∈ h.nodes, d.nextKey ≤ n.key)
    (hnot : ∃ x ∈ data, ¬ Separate env.jvm d signatures x.element) :
    Mutating.wp (extendSignatures env data) (fun _ h' => Harmed d signatures h')
      (fun _ h' => ¬ SameContent d h') h := by
  induction data generalizing h done with
  | nil =>
      obtain ⟨x, hx, -⟩ := hnot
      cases hx
  | cons x rest ih =>
      obtain ⟨s, jwt, method⟩ := x
      obtain rfl : method = .REPLACE := hmethod _ List.mem_cons_self
      have hmethod' : ∀ y ∈ rest, y.svtMethod = .REPLACE :=
        fun y hy => hmethod y (List.mem_cons_of_mem _ hy)
      have hs : s ∈ signatures := by
        rw [hinv.split]
        simp
      unfold extendSignatures
      rw [Mutating.wp_bind]
      refine Mutating.wp_mono
        (wp_extendSignature env hlater.wf (hlater.inPlace s hs) jwt .REPLACE) ?_ ?_
      · rintro - h₁ ⟨gone, property, hturn⟩
        have hlater' := hlater.step hlater.wf hturn
        have hnew := hturn.exists_new hlater.grows
        by_cases hseparate : Separate env.jvm h signatures s
        · have hnot' : ∃ y ∈ rest, ¬ Separate env.jvm d signatures y.element := by
            obtain ⟨y, hy, hy'⟩ := hnot
            rcases List.mem_cons.mp hy with rfl | hy
            · exact absurd ((hinv.separate rfl s List.mem_cons_self).mp hseparate) hy'
            · exact ⟨y, hy, hy'⟩
          refine ih hmethod' hlater' (hinv.step hsigs (fun _ => hseparate) hturn) ?_ (.inr hnew)
            hnot'
          intro n hn hkey hname hdocument
          have hmem := hturn.covers hlater.wf hcovers (fun q hq _ => hq) n hn hkey hname hdocument
          rw [List.map_append, List.map_singleton, List.mem_append, List.mem_singleton]
          exact (List.mem_cons.mp hmem).symm
        · have hmem : ∀ y ∈ rest, y.element ∈ signatures := by
            intro y hy
            rw [hinv.split]
            simp [List.mem_map_of_mem hy]
          refine wp_extendSignatures_doomed env hsigs hmethod' hmem hlater' hnew ?_
            (doomed_of_not_separate hsigs hinv hcovers hseparate hturn)
          have hlength := congrArg List.length hinv.split
          simp only [List.length_append, List.length_map, List.length_cons] at hlength
          omega
      · intro ex h₁ hfailed
        exact hfailed.changed hlater.wf hd hsigs.wf

end SigVal.Xml.XMLDocumentSVTIssuer
