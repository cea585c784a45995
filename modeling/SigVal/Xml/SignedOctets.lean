import SigVal.Xml.Rereading
import SigVal.Xml.TokenIssuance
import SigVal.Xml.UnseenTurns

/-!
# The octets behind the references

A signature stays valid when every `ds:Reference` in it stands for the same octets as
before. A reference names the document or one of its elements, its transforms leave parts
of that out, and the octets are made from the nodes that are left. The tokens that `issueSvt`
adds, the old ones it removes and the identifiers it sets are harmless as long as they are
not among these nodes, for any reference of any signature.
-/

namespace SigVal.Xml.XMLDocumentSVTIssuer

open SigVal.Java SigVal.LinkedDom SigVal.Commons Heap
open DefaultXMLSignatureContext
open Jose (SVTExtendpolicy)
open Svt.XMLSVTValidator (xmldsigNS xmlSvtNS)

variable {Cert : Type} {d h h' seen : Heap} {s ref t : Key} {uri : String}

/-! ## Processing a reference -/

/-- The processing of references after XML Signature. The nodes below the `Reference`
element say which elements are left out, for the signature it stands in, and how the
octets are made. Data outside the document does not depend on it. -/
structure ReferenceProcessing where
  omits : List Node → Key → Key → String → String → Bool
  transform : List Node → List Node → Option Bytes
  external : List Node → String → Option Bytes

/-- What the reference selects, when it names `t`. -/
def ReferenceProcessing.view (processing : ReferenceProcessing) (h : Heap) (s ref t : Key) : View :=
  ⟨[t], processing.omits (h.below ref) s⟩

/-- The URI leads out of the document. -/
def isExternal (uri : String) : Bool := uri != "" && uri.toList.head? != some '#'

/-- The empty URI names the document, and a fragment the only element with the
identifier. -/
inductive Names (h : Heap) (ref : Key) : Key → Prop where
  | document : (h.contentOf ref).hasAttribute "URI" = true → uriOf h ref = "" →
      Names h ref documentKey
  | element {t : Key} : matchingElements h (uriOf h ref) = [t] → Names h ref t

section Octets

variable {lib : XMLSecurity Cert} {processing : ReferenceProcessing}
  {signature signature' : SignatureObject Cert}

end Octets

/-! ## Runs -/

/-- What the signatures of the document depend on: the nodes their references select, and
their own parts. -/
inductive SignedView (lib : XMLSecurity Cert) (processing : ReferenceProcessing) (d : Heap) :
    View → Prop where
  | part {s : Key} {c : Node} : s ∈ getSignatures d → c ∈ signatureParts d s →
      SignedView lib processing d ⟨[c.key], fun _ _ _ => false⟩
  | reference {s ref t : Key} {signature : SignatureObject Cert} : s ∈ getSignatures d →
      lib.newXMLSignature d s = .ok signature → ref ∈ referenceElements d signature →
      Names d ref t → SignedView lib processing d (processing.view d s ref t)

/-- Each turn is unseen in the document as it then is. -/
def UnseenRun (env : XmlExtensionEnv Cert) (views : View → Prop) :
    List SVTExtensionData → Heap → Prop
  | [], _ => True
  | x :: rest, h =>
      (∀ v, views v → Unseen env.jvm x.svtMethod h x.element v) ∧
        UnseenRun env views rest ((extendSignature env x).run h).2

/-- No reference of the document has this URI. -/
def Unreferenced (lib : XMLSecurity Cert) (d : Heap) (uri : String) : Prop :=
  ∀ s ∈ getSignatures d, ∀ signature, lib.newXMLSignature d s = .ok signature →
    ∀ ref ∈ referenceElements d signature, uriOf d ref ≠ uri

/-- Between two turns. -/
structure OctetsInv (lib : XMLSecurity Cert) (processing : ReferenceProcessing) (d h : Heap) :
    Prop where
  wf : WellFormed h
  nextKey : d.nextKey ≤ h.nextKey
  signatures : ∀ s ∈ getSignatures d, IsSignature h s
  identified : ∀ s ∈ getSignatures d, (d.contentOf s).getAttribute "Id" ≠ "" →
    (h.contentOf s).getAttribute "Id" ≠ ""
  parts : ∀ s ∈ getSignatures d, signatureParts h s = signatureParts d s
  nodes : ∀ v, SignedView lib processing d v → v.nodeSet h = v.nodeSet d
  names : ∀ s ∈ getSignatures d, ∀ signature, lib.newXMLSignature d s = .ok signature →
    ∀ ref ∈ referenceElements d signature, ∀ t, matchingElements d (uriOf d ref) = [t] →
      matchingElements h (uriOf d ref) = [t]

section Run

variable {lib : XMLSecurity Cert} {processing : ReferenceProcessing} {jvm : Jvm}
  {rnd : Key → String} {svtMethod : SVTExtendpolicy} {token : String} {gone : List Key} {p : Key}

theorem SignedView.targets_lt (wf : WellFormed d) {v : View}
    (hv : SignedView lib processing d v) : ∀ t ∈ v.targets, t < d.nextKey := by
  intro t ht
  cases hv with
  | part _ hc =>
      rw [List.mem_singleton.mp ht]
      exact wf.fresh _ (mem_children.mp (List.mem_filter.mp hc).1).1
  | reference _ _ _ hnames =>
      obtain rfl := List.mem_singleton.mp ht
      cases hnames with
      | document _ _ => exact wf.fresh _ wf.root
      | element hmatch =>
          have hmem := (((matchingElements_eq_singleton wf).mp hmatch t).mpr rfl).1
          obtain ⟨n, hn, rfl⟩ := exists_of_mem_candidateElements hmem
          exact wf.fresh n hn

/-- **One turn.** -/
theorem OctetsInv.step (wf : WellFormed d) (hinv : OctetsInv lib processing d h)
    (hs : s ∈ getSignatures d) (hturn : Turn jvm rnd svtMethod h h' s token gone p)
    (hfresh : (d.contentOf s).getAttribute "Id" = "" →
      Unreferenced lib d ("#" ++ ("id_" ++ rnd s)))
    (hunseen : ∀ v, SignedView lib processing d v → Unseen jvm svtMethod h s v) :
    OctetsInv lib processing d h' := by
  have hsignature := hinv.signatures s hs
  have hempty : (h.contentOf s).getAttribute "Id" = "" →
      (d.contentOf s).getAttribute "Id" = "" := by
    intro hid
    by_contra hne
    exact hinv.identified s hs hne hid
  refine ⟨hturn.placed.wf, Nat.le_trans hinv.nextKey hturn.placed.nextKey, ?_, ?_, ?_, ?_, ?_⟩
  · intro s' hs'
    exact hturn.isSignature (hinv.signatures s' hs')
  · intro s' hs' hid
    exact hturn.keeps_identifier hinv.wf hsignature (hinv.signatures s' hs')
      (hinv.identified s' hs' hid)
  · intro s' hs'
    rw [hturn.signatureParts_eq hinv.wf hsignature, hinv.parts s' hs']
    intro c hc
    rw [hinv.parts s' hs'] at hc
    exact (hunseen _ (.part hs' hc)).alive_targets hturn.removed c.key List.mem_cons_self
  · intro v hv
    have hold : ∀ t ∈ v.targets, t < h.nextKey := fun t ht =>
      Nat.lt_of_lt_of_le (hv.targets_lt wf t ht) hinv.nextKey
    obtain ⟨n, hn, hkey, -⟩ := hsignature
    rw [hturn.nodeSet_eq hinv.wf ⟨n, hn, hkey⟩ hold (hunseen v hv), hinv.nodes v hv]
  · intro s' hs' signature hsig ref href t hmatch
    have hview := hunseen _ (.reference hs' hsig href (.element hmatch))
    refine hturn.matchingElements_eq hinv.wf hsignature (hinv.names s' hs' signature hsig ref href t
      hmatch) (hview.alive_targets hturn.removed t List.mem_cons_self) ?_
    intro hid
    refine ⟨?_, hfresh (hempty hid) s' hs' signature hsig ref href⟩
    rintro rfl
    exact (hview.identified hid).2 List.mem_cons_self

/-- **All turns.** -/
theorem OctetsInv.run {env : XmlExtensionEnv Cert} (wf : WellFormed d)
    {data : List SVTExtensionData} {after : Heap}
    (hdata : ∀ x ∈ data, x.element ∈ getSignatures d)
    (hfresh : ∀ s ∈ getSignatures d, (d.contentOf s).getAttribute "Id" = "" →
      Unreferenced lib d ("#" ++ ("id_" ++ env.secureRandom s)))
    (hrun : (extendSignatures env data).run h = (.ok (), after))
    (hinv : OctetsInv lib processing d h)
    (hunseen : UnseenRun env (SignedView lib processing d) data h) :
    OctetsInv lib processing d after := by
  induction data generalizing h with
  | nil =>
      cases hrun
      exact hinv
  | cons x rest ih =>
      obtain ⟨s, jwt, method⟩ := x
      unfold extendSignatures at hrun
      obtain ⟨_, h₁, hfirst, hrest⟩ := Mutating.run_bind_ok_iff.mp hrun
      have hs : s ∈ getSignatures d := hdata _ List.mem_cons_self
      obtain ⟨gone, property, hturn⟩ := Mutating.of_run_ok
        (wp_extendSignature env hinv.wf (hinv.signatures s hs) jwt method) hfirst
      refine ih (fun y hy => hdata y (List.mem_cons_of_mem _ hy)) hrest
        (hinv.step wf hs hturn (hfresh s hs) hunseen.1) ?_
      have hnext := hunseen.2
      rw [hfirst] at hnext
      exact hnext

end Run

/-! ## Issuing -/

section Issuing

variable [DecidableEq Cert] {env : XmlExtensionEnv Cert} {issuer : XMLSVTSigValClaimsIssuer Cert}
  {svtMethod : SVTExtendpolicy} {issueSvtOnFailedValidation : Bool} {document : Document}
  {output : Bytes} {after : Heap} {data : List SVTExtensionData}
  {processing : ReferenceProcessing}

end Issuing

/-! ## A signature of its own, and one over another -/

section Demo

open XMLSVTSigValClaimsIssuer (dsElement)

/-- The octets of a reference. -/
def ReferenceProcessing.octets (processing : ReferenceProcessing) (h : Heap) (s ref : Key) :
    Option Bytes :=
  if isExternal (uriOf h ref) then processing.external (h.below ref) (uriOf h ref)
  else if uriOf h ref = "" then
    processing.transform (h.below ref) ((processing.view h s ref documentKey).nodeSet h)
  else
    match matchingElements h (uriOf h ref) with
    | [t] => processing.transform (h.below ref) ((processing.view h s ref t).nodeSet h)
    | _ => none

/-- A library that processes references in this way. -/
def ReferenceProcessing.library (processing : ReferenceProcessing) : XMLSecurity Unit where
  newXMLSignature := fun h s =>
    match (signatureParts h s).find? (·.content.hasName xmldsigNS "SignedInfo") with
    | none => .error ⟨.io, "Missing SignedInfo"⟩
    | some signedInfo => .ok
        { signedInfo := signedInfo.key
          getId := fun seen => some ((seen.contentOf s).getAttribute "Id")
          getReferencedContentAfterTransformsItem := fun seen i =>
            match ((seen.getElementsByTagNameNS signedInfo.key xmldsigNS "Reference")[i]?).bind
              (processing.octets seen s) with
            | some octets => .ok octets
            | none => .error ⟨.io, "Cannot resolve the reference"⟩
          getSignatureValue := fun _ => .ok [9]
          getCanonicalizedOctetStream := fun _ => .ok [8]
          getKeyInfo := fun _ => .ok (some ⟨.ok (some ()), [.ok (some [.ok (some ())])]⟩) }
  getDocument := fun _ => .error ⟨.io, "not a document"⟩
  getCanonicalDocBytes := fun _ => .ok []

end Demo

end SigVal.Xml.XMLDocumentSVTIssuer
