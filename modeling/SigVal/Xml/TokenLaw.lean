import SigVal.Xml.OrderlyTurns
import SigVal.Xml.TokenIssuance

/-!
# The tokens of extended signatures

A run of `extendDocumentSignature` over the signatures of a document in which no signature
lies in another one: each turn changes its own signature only, so what the reader finds in
the end is decided by each signature for itself.
-/

namespace SigVal.Xml.XMLDocumentSVTIssuer

open SigVal.Java SigVal.LinkedDom Heap
open Svt.XMLSVTValidator (xmldsigNS xmlSvtNS)
open Jose (SVTExtendpolicy)

variable {Cert : Type} {jvm : Jvm} {rnd : Key → String} {d h h' : Heap} {s s' t k p : Key}
  {gone signatures elements todo : List Key} {token : String} {svtMethod : SVTExtendpolicy}

/-- The node is in the document, and neither one of the elements nor below one. -/
def outside (elements : List Key) (n : Node) : Bool :=
  (n.key == documentKey || decide (documentKey ∈ n.ancestors)) &&
    elements.all fun s => decide (n.key ≠ s ∧ s ∉ n.ancestors)

theorem outside_iff {n : Node} : outside elements n = true ↔
    (n.key = documentKey ∨ documentKey ∈ n.ancestors) ∧
      ∀ s ∈ elements, n.key ≠ s ∧ s ∉ n.ancestors := by
  unfold outside
  rw [Bool.and_eq_true, Bool.or_eq_true, beq_iff_eq, decide_eq_true_eq, List.all_eq_true]
  simp only [decide_eq_true_eq]

/-- **What a turn leaves alone.** Outside the signatures the document is the same. -/
theorem Turn.outside_eq (wf : WellFormed h) (hs : ∃ m ∈ h.nodes, m.key = s)
    (hturn : Turn jvm rnd svtMethod h h' s token gone p) (hmem : s ∈ elements) :
    h'.nodes.filter (outside elements) = h.nodes.filter (outside elements) := by
  have wf₁ : WellFormed (h.detachAll gone) := wellFormed_detachAll wf
  have hsold : s < h.nextKey := by
    obtain ⟨m, hm, rfl⟩ := hs
    exact wf.fresh m hm
  rw [hturn.filter_nodes wf]
  · refine (List.map_congr_left fun n hn => ?_).trans (List.map_id _)
    exact withId_of_ne ((outside_iff.mp (List.mem_filter.mp hn).2).2 s hmem).1
  · -- what is added lies below the signature
    intro n hn hnew
    rw [Bool.eq_false_iff]
    intro hout
    rcases hturn.placed.new n hn with ⟨m, hm, rfl⟩ | hadded
    · rw [key_withId] at hnew
      exact absurd (wf₁.fresh m hm) (Nat.not_lt.mpr hnew)
    · exact ((outside_iff.mp hout).2 s hmem).2
        ((hadded.ancestors s hsold).mpr (signature_mem_anchor wf₁))
  · intro n
    unfold outside
    rw [key_withId, ancestors_withId]
  · -- a node that is still in the document was not cut loose
    intro n hn hout
    have halive : Alive h gone n.key := by
      rcases (outside_iff.mp hout).1 with hroot | hdocument
      · rw [show n.key = documentKey from hroot]
        exact hturn.removed.alive_document wf
      · refine ((mem_chain_detachAll_iff wf (hturn.removed.alive_document wf)).mp ?_).2
        rw [chain_detachAll, chain_of_mem wf hn]
        exact hdocument
    rwa [detachAll_of_alive wf hn halive] at hout
  · intro n hn hout b hb hgone
    have hsb := hturn.removed.below hgone
    apply ((outside_iff.mp hout).2 s hmem).2
    rw [← chain_of_mem wf hn]
    rcases List.mem_cons.mp hb with rfl | hb
    · exact hsb
    · exact mem_chain_trans wf hb hsb

/-! ## Runs -/

/-- Between two turns. -/
structure Ready (h : Heap) (signatures todo : List Key) : Prop where
  wf : WellFormed h
  isSignature : ∀ s ∈ signatures, ∃ m ∈ h.nodes, m.key = s ∧
    m.content.hasName xmldsigNS "Signature" = true
  apart : ∀ s ∈ signatures, ∀ s' ∈ signatures, s ∉ h.chain s'
  orderly : ∀ s ∈ todo, Orderly h s

/-- A turn changes nothing in the other signatures. -/
theorem Ready.others (hready : Ready h signatures todo) (hs : s ∈ signatures)
    (hturn : Turn jvm rnd svtMethod h h' s token gone p) (hs' : s' ∈ signatures) (hne : s' ≠ s) :
    h'.below s' = h.below s' ∧ h'.chain s' = h.chain s' := by
  obtain ⟨m, hm, hkey, -⟩ := hready.isSignature s' hs'
  exact hturn.below_of_apart hready.wf ⟨m, hm, hkey⟩ hne (hready.apart s hs s' hs')
    (hready.apart s' hs' s hs)

theorem Ready.step (hready : Ready h signatures (s :: todo)) (hs : s ∈ signatures)
    (hsub : ∀ s' ∈ todo, s' ∈ signatures) (hnot : s ∉ todo)
    (hturn : Turn jvm rnd svtMethod h h' s token gone p) : Ready h' signatures todo where
  wf := hturn.placed.wf
  isSignature := by
    intro s' hs'
    obtain ⟨m, hm, hkey, hname⟩ := hready.isSignature s' hs'
    refine ⟨_, hturn.old hm, ?_, ?_⟩
    · rw [key_withId]
      exact hkey
    · rw [hasName_withId]
      exact hname
  apart := by
    intro s₁ hs₁ s₂ hs₂
    have hchain : h'.chain s₂ = h.chain s₂ := by
      by_cases heq : s₂ = s
      · obtain ⟨m, hm, hkey, -⟩ := hready.isSignature s hs
        rw [heq, ← hkey]
        apply hturn.chain_of_alive hready.wf hm
        rw [hkey]
        exact hturn.removed.alive hready.wf
      · exact (hready.others hs hturn hs₂ heq).2
    rw [hchain]
    exact hready.apart s₁ hs₁ s₂ hs₂
  orderly := by
    intro s' hs'
    have hne : s' ≠ s := fun heq => hnot (heq ▸ hs')
    obtain ⟨hbelow, hchain⟩ := hready.others hs hturn (hsub s' hs') hne
    exact orderly_of_sameBelow hready.wf hturn.placed.wf hbelow hchain
      (hready.orderly s' (List.mem_cons_of_mem _ hs'))

/-- What a run over these data does to the document `h`. -/
structure Extended (env : XmlExtensionEnv Cert) (h h' : Heap) (signatures : List Key)
    (data : List SVTExtensionData) : Prop where
  wf : WellFormed h'
  tokens : ∀ x ∈ data,
    TokensExtended h h' x.element (env.serialize x.signedJWT) x.svtMethod ↔
      Regular env.jvm h x.element x.svtMethod
  others : ∀ s ∈ signatures, s ∉ data.map SVTExtensionData.element →
    h'.below s = h.below s ∧ h'.chain s = h.chain s
  outside : ∀ elements, (∀ x ∈ data, x.element ∈ elements) →
    h'.nodes.filter (outside elements) = h.nodes.filter (outside elements)

theorem tokensExtended_congr (hbase : signatureSvaTokens d s = signatureSvaTokens h s) :
    TokensExtended d h' s token svtMethod ↔ TokensExtended h h' s token svtMethod := by
  cases svtMethod with
  | EXTEND =>
      unfold TokensExtended
      rw [hbase]
  | REPLACE => exact .rfl

theorem tokensExtended_congr_right
    (hlast : signatureSvaTokens h' s = signatureSvaTokens h s) :
    TokensExtended d h' s token svtMethod ↔ TokensExtended d h s token svtMethod := by
  cases svtMethod <;> simp only [TokensExtended, hlast]

/-- The turn for a signature, whatever the method. -/
theorem tokensExtended_iff (rnd : Key → String) (token : String) (wf : WellFormed h)
    (hs : ∃ m ∈ h.nodes, m.key = s ∧ m.content.hasName xmldsigNS "Signature" = true)
    (horderly : Orderly h s) (hremoved : RemovedBy jvm h s gone svtMethod) :
    TokensExtended h (addSignatureProperty jvm rnd s token (h.detachAll gone)) s token svtMethod ↔
      Regular jvm h s svtMethod := by
  cases svtMethod with
  | EXTEND =>
      rw [show gone = [] from hremoved, detachAll_nil]
      exact tokensExtended_extend_iff wf hs jvm rnd token horderly
  | REPLACE => exact tokensExtended_replace_iff wf hs rnd token horderly hremoved

/-- **The loop.** Each signature decides for itself whether its tokens are extended, and the
run fails at a signature that is not regular. -/
theorem wp_extendSignatures_tokens (env : XmlExtensionEnv Cert) {data : List SVTExtensionData}
    (hready : Ready h signatures (data.map SVTExtensionData.element))
    (hsub : ∀ x ∈ data, x.element ∈ signatures)
    (hnodup : (data.map SVTExtensionData.element).Nodup) :
    Mutating.wp (extendSignatures env data)
      (fun _ h' => Extended env h h' signatures data)
      (fun _ _ => ∃ x ∈ data, ¬ Regular env.jvm h x.element x.svtMethod) h := by
  induction data generalizing h with
  | nil =>
      refine ⟨hready.wf, fun x hx => ?_, fun _ _ _ => ⟨rfl, rfl⟩, fun _ _ => rfl⟩
      exact absurd hx List.not_mem_nil
  | cons x rest ih =>
      obtain ⟨s, jwt, method⟩ := x
      have hs : s ∈ signatures := hsub _ List.mem_cons_self
      have hsub' : ∀ x ∈ rest, x.element ∈ signatures := fun x hx =>
        hsub x (List.mem_cons_of_mem _ hx)
      obtain ⟨hnot, hnodup'⟩ := List.nodup_cons.mp hnodup
      have hnode := hready.isSignature s hs
      unfold extendSignatures
      rw [Mutating.wp_bind]
      refine Mutating.wp_mono (wp_extendSignature_added env hready.wf hnode jwt method) ?_ ?_
      · rintro - h₁ ⟨gone, hremoved, hadd⟩
        obtain ⟨property, hturn⟩ :=
          exists_turn hready.wf hnode env.secureRandom (env.serialize jwt) hremoved
        rw [← hadd] at hturn
        have hnext := hready.step hs (List.forall_mem_map.mpr hsub') hnot hturn
        have hrest : ∀ x ∈ rest, h₁.below x.element = h.below x.element := by
          intro x hx
          refine (hready.others hs hturn (hsub' x hx) fun heq => hnot ?_).1
          obtain rfl : x.element = s := heq
          exact List.mem_map.mpr ⟨x, hx, rfl⟩
        have hregular : ∀ x ∈ rest, Regular env.jvm h₁ x.element x.svtMethod ↔
            Regular env.jvm h x.element x.svtMethod := fun x hx =>
          regular_of_sameBelow hready.wf hturn.placed.wf (hrest x hx)
        refine Mutating.wp_mono (ih hnext hsub' hnodup') ?_ ?_
        · rintro - h₂ hlast
          refine ⟨hlast.wf, List.forall_mem_cons.mpr ⟨?_, fun x hx => ?_⟩, ?_, ?_⟩
          · have hown := (hlast.others s hs hnot).1
            have htokens := tokensExtended_iff env.secureRandom (env.serialize jwt) hready.wf hnode
              (hready.orderly s List.mem_cons_self) hremoved
            rw [← hadd] at htokens
            rw [← htokens]
            exact tokensExtended_congr_right
              (signatureSvaTokens_of_sameBelow hturn.placed.wf hlast.wf hown)
          · rw [← hregular x hx, ← hlast.tokens x hx]
            apply tokensExtended_congr
            exact (signatureSvaTokens_of_sameBelow hready.wf hturn.placed.wf (hrest x hx)).symm
          · intro s' hs' hout
            rw [List.map_cons, List.mem_cons, not_or] at hout
            obtain ⟨hbelow, hchain⟩ := hready.others hs hturn hs' hout.1
            obtain ⟨hbelow', hchain'⟩ := hlast.others s' hs' hout.2
            exact ⟨hbelow'.trans hbelow, hchain'.trans hchain⟩
          · intro elements helements
            obtain ⟨hmem, hmem'⟩ := List.forall_mem_cons.mp helements
            rw [hlast.outside elements hmem']
            exact hturn.outside_eq hready.wf (hnode.imp fun m hm => ⟨hm.1, hm.2.1⟩) hmem
        · rintro ex h₂ ⟨x, hx, hirregular⟩
          exact ⟨x, List.mem_cons_of_mem _ hx, fun hreg => hirregular ((hregular x hx).mpr hreg)⟩
      · rintro ex h₁ ⟨hmethod, ⟨p, hemptied⟩, -⟩
        refine ⟨_, List.mem_cons_self, ?_⟩
        obtain rfl : method = .REPLACE := hmethod
        exact fun hregular => hregular.1 p hemptied

/-! ## Documents with their tokens in place -/

/-- No signature lies in another one, and every token is in place in a signature. -/
structure PlacedTokens (d : Heap) : Prop where
  apart : ∀ s ∈ getSignatures d, ∀ s' ∈ getSignatures d, s ∉ d.chain s'
  inPlace : ∀ k, isToken d k = true → documentKey ∈ d.chain k →
    ∃ s ∈ getSignatures d, InPlace d s k

/-- The signature around a token is the one it is in place in. -/
theorem PlacedTokens.orderly (wf : WellFormed d) (hplaced : PlacedTokens d)
    (hs : s ∈ getSignatures d) : Orderly d s := by
  intro k hk
  obtain ⟨htoken, hsk⟩ := (mem_svtElements wf).mp hk
  have hdocument : documentKey ∈ d.chain s := by
    obtain ⟨n, hn, hroot, -, rfl⟩ := mem_getElementsByTagNameNS.mp hs
    rwa [chain_of_mem wf hn]
  obtain ⟨s', hs', hplace⟩ := hplaced.inPlace k htoken (mem_chain_trans wf hsk hdocument)
  have hs'k : s' ∈ d.chain k := by
    obtain ⟨o, q, p, -, hochain, -, hqchain, -, hpchain, hpk⟩ := hplace
    apply mem_chain_trans wf hpk
    rw [hpchain, hqchain, hochain]
    simp
  rcases chain_comparable wf hsk hs'k with rfl | hss' | hs's
  · exact hplace
  · exact absurd hss' (hplaced.apart s hs s' hs')
  · exact absurd hs's (hplaced.apart s' hs' s hs)

/-- What the extension of the signatures in `data` does to the tokens. -/
structure TokenLaw (env : XmlExtensionEnv Cert) (d h' : Heap) (data : List SVTExtensionData) :
    Prop where
  extended : ∀ x ∈ data, TokensExtended d h' x.element (env.serialize x.signedJWT) x.svtMethod
  others : ∀ s ∈ getSignatures d, s ∉ data.map SVTExtensionData.element →
    signatureSvaTokens h' s = signatureSvaTokens d s
  outside : h'.nodes.filter (outside (data.map SVTExtensionData.element)) =
    d.nodes.filter (XMLDocumentSVTIssuer.outside (data.map SVTExtensionData.element))

/-- The document is extended, and its tokens are as they should be. -/
def KeepsTokenLaw (env : XmlExtensionEnv Cert) (d : Heap) (data : List SVTExtensionData) : Prop :=
  Mutating.wp (extendDocumentSignature env data) (fun _ h' => TokenLaw env d h' data)
    (fun _ _ => False) d

/-- **The token law.** In a document with its tokens in place a token is added to each
extended signature, or replaces the old ones, exactly when each of them is regular. Nothing
else changes. -/
theorem tokenLaw_iff (env : XmlExtensionEnv Cert)
    (hbytes : ∀ h, WellFormed h → ∃ bytes, env.lib.getCanonicalDocBytes h = .ok bytes)
    (d : Document) (hplaced : PlacedTokens d.toHeap) (data : List SVTExtensionData)
    (hsub : ∀ x ∈ data, x.element ∈ getSignatures d.toHeap)
    (hnodup : (data.map SVTExtensionData.element).Nodup) :
    KeepsTokenLaw env d.toHeap data ↔
      ∀ x ∈ data, Regular env.jvm d.toHeap x.element x.svtMethod := by
  have wf := d.wellFormed
  have hready : Ready d.toHeap (getSignatures d.toHeap) (data.map SVTExtensionData.element) := by
    refine ⟨wf, fun s hs => ?_, hplaced.apart, ?_⟩
    · obtain ⟨m, hm, -, hname, hkey⟩ := mem_getElementsByTagNameNS.mp hs
      exact ⟨m, hm, hkey, hname⟩
    · exact List.forall_mem_map.mpr fun x hx => hplaced.orderly wf (hsub x hx)
  have hloop := wp_extendSignatures_tokens env hready hsub hnodup
  unfold KeepsTokenLaw extendDocumentSignature
  rw [Mutating.wp_bind]
  rcases hrun : (extendSignatures env data).run d.toHeap with ⟨ex | a, h'⟩
  · rw [Mutating.wp_iff_of_run_error hrun]
    obtain ⟨x, hx, hirregular⟩ := Mutating.of_run_error hloop hrun
    exact iff_of_false id fun hregular => hirregular (hregular x hx)
  · rw [Mutating.wp_iff_of_run_ok hrun, Mutating.wp_bind, Mutating.wp_get]
    have hextended := Mutating.of_run_ok hloop hrun
    obtain ⟨bytes, hbytes⟩ := hbytes h' hextended.wf
    rw [hbytes]
    constructor
    · intro hlaw x hx
      exact (hextended.tokens x hx).mp (hlaw.extended x hx)
    · intro hregular
      refine ⟨fun x hx => (hextended.tokens x hx).mpr (hregular x hx), fun s hs hout => ?_, ?_⟩
      · exact signatureSvaTokens_of_sameBelow wf hextended.wf (hextended.others s hs hout).1
      · exact hextended.outside _ fun x hx => List.mem_map_of_mem hx

/-! A signature with a token in place, and one whose properties lie in two objects. -/

open XMLSVTSigValClaimsIssuer (dsElement)

def emptyToken : Commons.SignedJWT := ⟨⟨"ES256", none, none⟩, none, [], []⟩

def extendedBefore : Document where
  nodes :=
    [⟨0, [], .document⟩, ⟨1, [0], .element "" "doc" "" []⟩,
      dsElement 2 [1, 0] "Signature" [("Id", "a")], dsElement 3 [2, 1, 0] "Object" [],
      dsElement 4 [3, 2, 1, 0] "SignatureProperties" [],
      dsElement 5 [4, 3, 2, 1, 0] "SignatureProperty" [("Target", "#a")],
      ⟨6, [5, 4, 3, 2, 1, 0], .element xmlSvtNS "SignatureValidationToken" "svt" []⟩,
      ⟨7, [6, 5, 4, 3, 2, 1, 0], .text "e30.e30.CQ"⟩,
      dsElement 8 [1, 0] "Signature" [("Id", "b")]]
  idAttributes := []
  nextKey := 9
  wellFormed := by decide

def objectInObject : Document where
  nodes :=
    [⟨0, [], .document⟩, ⟨1, [0], .element "" "doc" "" []⟩,
      dsElement 2 [1, 0] "Signature" [("Id", "a")], dsElement 3 [2, 1, 0] "Object" [],
      dsElement 4 [3, 2, 1, 0] "Object" [],
      dsElement 5 [4, 3, 2, 1, 0] "SignatureProperties" []]
  idAttributes := []
  nextKey := 6
  wellFormed := by decide

theorem extendedBefore_placed : PlacedTokens extendedBefore.toHeap where
  apart := by decide
  inPlace := by
    intro k htoken _
    obtain ⟨n, hn, rfl, hname⟩ := exists_of_isToken htoken
    obtain rfl : n = ⟨6, [5, 4, 3, 2, 1, 0],
        .element xmlSvtNS "SignatureValidationToken" "svt" []⟩ := by
      revert n
      decide
    exact ⟨2, by decide, 3, 4, 5, rfl, rfl, rfl, rfl, rfl, rfl, by decide⟩

theorem objectInObject_placed : PlacedTokens objectInObject.toHeap where
  apart := by decide
  inPlace := by
    intro k htoken _
    obtain ⟨n, hn, -, hname⟩ := exists_of_isToken htoken
    exfalso
    clear htoken
    revert n
    decide

/-- Both signatures get a token. -/
theorem both_extended :
    KeepsTokenLaw demoEnv extendedBefore.toHeap
      [⟨2, emptyToken, .EXTEND⟩, ⟨8, emptyToken, .EXTEND⟩] := by
  refine (tokenLaw_iff demoEnv (fun _ _ => ⟨[], rfl⟩) extendedBefore extendedBefore_placed _
    (by decide) (by decide)).mpr (List.forall_mem_cons.mpr ⟨.inl (by decide),
      List.forall_mem_singleton.mpr (.inr ?_)⟩)
  rw [show signatureProperties extendedBefore.toHeap 8 = [] by decide]
  exact nofun

/-- The new token is read once for each of the two objects. -/
theorem read_twice :
    PlacedTokens objectInObject.toHeap ∧ 2 ∈ getSignatures objectInObject.toHeap ∧
      ¬ KeepsTokenLaw demoEnv objectInObject.toHeap [⟨2, emptyToken, .EXTEND⟩] := by
  refine ⟨objectInObject_placed, by decide, fun hlaw => ?_⟩
  have htokens : (signatureSvaTokens ((extendDocumentSignature demoEnv
      [⟨2, emptyToken, .EXTEND⟩]).run objectInObject.toHeap).2 2).length = 1 := by
    obtain ⟨_, _, hrun, hlaw⟩ := Mutating.run_of_wp_total hlaw
    rw [hrun]
    exact (hlaw.extended _ List.mem_cons_self).length_eq
  revert htokens
  decide +kernel

end SigVal.Xml.XMLDocumentSVTIssuer
