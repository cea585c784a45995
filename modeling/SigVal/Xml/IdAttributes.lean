import SigVal.Xml.SignatureContext

/-!
# Identifiers of elements

Four spellings of an attribute count as identifiers. An element may have several of them,
and the code takes the one it looks at last for the identifier of the element. Whether an
identifier is shared, whether a signature covers the document, and which of the referenced
octets are the document, is decided on that one value.
-/

namespace SigVal.Xml.DefaultXMLSignatureContext

open SigVal.Java SigVal.LinkedDom

variable {Cert : Type} {jvm : Jvm} {lib : XMLSecurity Cert} {context : DefaultXMLSignatureContext}
  {document before after : Heap} {sigNode root e : Key} {data : RawSignatureData Cert}
  {content : Content} {v : String}

/-- The value stands in an id attribute of the element. -/
def carries (content : Content) (v : String) : Bool :=
  idNames.any fun idName => content.hasAttribute idName && content.getAttribute idName == v

/-- The value stands in an id attribute, and another one is taken for the identifier. -/
def hides (content : Content) (v : String) : Bool :=
  carries content v && getIdAttrVal content != some v

/-- The elements of the document that have the value in an id attribute. -/
def carriers (document : Heap) (v : String) : List Key :=
  (candidateElements document).filter fun e => carries (document.contentOf e) v

/-- The elements whose identifier the code takes the value for. -/
def identified (document : Heap) (v : String) : List Key :=
  (candidateElements document).filter fun e => getIdAttrVal (document.contentOf e) == some v

/-! ## The identifier that is taken -/

theorem hasAttribute_of_getAttribute_ne {idName : String}
    (h : content.getAttribute idName ≠ "") : content.hasAttribute idName = true := by
  cases content with
  | element ns name pre attributes =>
      cases hlookup : attributes.lookup idName with
      | none => exact absurd (by simp [Content.getAttribute, hlookup]) h
      | some value => simp [Content.hasAttribute, hlookup]
  | document => exact absurd rfl h
  | text value => exact absurd rfl h
  | other data => exact absurd rfl h

theorem carries_of_getIdAttrVal (h : getIdAttrVal content = some v) : carries content v = true := by
  obtain ⟨hv, idName, hmem, heq⟩ := getIdAttrVal_eq_some h
  refine List.any_eq_true.mpr ⟨idName, hmem, ?_⟩
  rw [heq, beq_self_eq_true, Bool.and_true]
  exact hasAttribute_of_getAttribute_ne (heq ▸ hv)

/-- The elements that are counted. -/
theorem registerId_eq (document : Heap) (v : String) :
    registerId document ("#" ++ v) =
      match identified document v with
      | [element] => registerIdInElement document element ("#" ++ v)
      | _ => document := by
  unfold registerId
  dsimp only
  rw [List.filter_congr (q := fun e => getIdAttrVal (document.contentOf e) == some v)]
  · rfl
  · intro element _
    cases hid : getIdAttrVal (document.contentOf element) with
    | none => rfl
    | some idAttrVal =>
        have hne : idAttrVal ≠ "" := (getIdAttrVal_eq_some hid).1
        have hsame : ("#" ++ v = "#" ++ idAttrVal) ↔ (some idAttrVal = some v) := by
          rw [String.append_right_inj, Option.some_inj, eq_comm]
        rw [Bool.eq_iff_iff, Bool.and_eq_true, bne_iff_ne, beq_iff_eq, beq_iff_eq, hsame]
        exact and_iff_right hne

theorem idAttributes_registerIdInElement (document : Heap) (element : Key) (hv : v ≠ "") :
    (registerIdInElement document element ("#" ++ v)).idAttributes =
      ((idNames.filter fun idName =>
        (document.contentOf element).getAttribute idName == v).reverse.map (Prod.mk element)) ++
        document.idAttributes := by
  unfold registerIdInElement
  -- declaring an attribute changes no attribute
  induction idNames generalizing document with
  | nil => rfl
  | cons idName rest ih =>
      rw [List.foldl_cons, ih]
      by_cases hid : (document.contentOf element).getAttribute idName = v
      · have hcond : (document.contentOf element).getAttribute idName ≠ "" ∧
            "#" ++ (document.contentOf element).getAttribute idName = "#" ++ v := by
          rw [hid]
          exact ⟨hv, rfl⟩
        dsimp only
        rw [if_pos hcond, List.filter_cons_of_pos (by simpa using hid), List.reverse_cons,
          List.map_append, List.append_assoc]
        rfl
      · have hcond : ¬ ((document.contentOf element).getAttribute idName ≠ "" ∧
            "#" ++ (document.contentOf element).getAttribute idName = "#" ++ v) := by
          rintro ⟨-, heq⟩
          exact hid (by simpa using heq)
        dsimp only
        rw [if_neg hcond, List.filter_cons_of_neg (by simpa using hid)]

/-- Every attribute that is marked has the value, on the only element that carries it. -/
def Unambiguous (document : Heap) (v : String) (marks : List (Key × String)) : Prop :=
  ∀ mark ∈ marks, carriers document v = [mark.1] ∧
    mark.2 ∈ idNames ∧ (document.contentOf mark.1).getAttribute mark.2 = v

/-- An identifier is registered where it is taken for that of one element only. -/
theorem marks_ne_nil_iff (document : Heap) (v : String) :
    ∃ marks, (registerId document ("#" ++ v)).idAttributes = marks ++ document.idAttributes ∧
      (marks ≠ [] ↔ (identified document v).length = 1) ∧
      ∀ mark ∈ marks, identified document v = [mark.1] ∧ mark.2 ∈ idNames ∧
        (document.contentOf mark.1).getAttribute mark.2 = v := by
  rw [registerId_eq]
  match hid : identified document v with
  | [] => exact ⟨[], rfl, by simp, by simp⟩
  | _ :: _ :: _ => exact ⟨[], rfl, by simp, by simp⟩
  | [element] =>
      have hmem : element ∈ identified document v := by
        rw [hid]
        exact List.mem_singleton_self element
      obtain ⟨hv, idName, hname, hvalue⟩ :=
        getIdAttrVal_eq_some (beq_iff_eq.mp (List.mem_filter.mp hmem).2)
      refine ⟨_, idAttributes_registerIdInElement document element hv, ?_, ?_⟩
      · have hmark : idName ∈ idNames.filter fun idName =>
            (document.contentOf element).getAttribute idName == v :=
          List.mem_filter.mpr ⟨hname, beq_iff_eq.mpr hvalue⟩
        refine iff_of_true ?_ rfl
        intro hnil
        rw [List.map_eq_nil_iff, List.reverse_eq_nil_iff] at hnil
        rw [hnil] at hmark
        cases hmark
      · rintro mark hmark
        obtain ⟨idName', hname', rfl⟩ := List.mem_map.mp hmark
        obtain ⟨hin, heq⟩ := List.mem_filter.mp (List.mem_reverse.mp hname')
        exact ⟨rfl, hin, beq_iff_eq.mp heq⟩

/-- **What registration decides on.** It is unambiguous unless the one element that is
found shares the identifier with an element that hides it. -/
theorem registerId_unambiguous_iff (document : Heap) (v : String) :
    ∃ marks, (registerId document ("#" ++ v)).idAttributes = marks ++ document.idAttributes ∧
      (Unambiguous document v marks ↔
        (identified document v).length ≠ 1 ∨
          ∀ e ∈ candidateElements document, hides (document.contentOf e) v = false) := by
  obtain ⟨marks, hmarks, hnil, hmark⟩ := marks_ne_nil_iff document v
  refine ⟨marks, hmarks, ?_⟩
  constructor
  · intro hunambiguous
    by_cases hone : (identified document v).length = 1
    · right
      intro e he
      obtain ⟨mark, hmem⟩ := List.exists_mem_of_ne_nil marks (hnil.mpr hone)
      rw [Bool.eq_false_iff]
      intro hhides
      obtain ⟨hcarries, hother⟩ := Bool.and_eq_true_iff.mp hhides
      -- the element that hides the value is the marked one, which does not
      have hcarrier : e ∈ carriers document v := List.mem_filter.mpr ⟨he, hcarries⟩
      have hfound : mark.1 ∈ identified document v := by
        rw [(hmark mark hmem).1]
        exact List.mem_singleton_self mark.1
      rw [(hunambiguous mark hmem).1, List.mem_singleton] at hcarrier
      rw [hcarrier] at hother
      exact bne_iff_ne.mp hother (beq_iff_eq.mp (List.mem_filter.mp hfound).2)
    · exact .inl hone
  · rintro hcond mark hmem
    obtain ⟨hfound, hname, hvalue⟩ := hmark mark hmem
    have hone : (identified document v).length = 1 := by
      rw [hfound]
      rfl
    have hhides := hcond.resolve_left (absurd hone)
    have hsame : carriers document v = identified document v := by
      apply List.filter_congr
      intro e he
      rw [Bool.eq_iff_iff, beq_iff_eq]
      refine ⟨fun hcarries => ?_, carries_of_getIdAttrVal⟩
      have hnot := hhides e he
      unfold hides at hnot
      rw [hcarries, Bool.true_and, bne_eq_false_iff_eq] at hnot
      exact hnot
    exact ⟨hsame.trans hfound, hname, hvalue⟩

/-- Two elements carry the identifier, the second under another spelling than the one
that is looked at. -/
def hiddenDuplicate : Heap where
  nodes :=
    [⟨0, [], .document⟩, ⟨1, [0], .element "" "doc" "" []⟩,
      ⟨2, [1, 0], .element "" "signed" "" [("id", "x")]⟩,
      ⟨3, [1, 0], .element "" "wrapped" "" [("id", "x"), ("ID", "y")]⟩]
  idAttributes := []
  nextKey := 4

theorem hiddenDuplicate_ambiguous :
    WellFormed hiddenDuplicate ∧
      (registerId hiddenDuplicate ("#" ++ "x")).idAttributes = [(2, "id")] ∧
      carriers hiddenDuplicate "x" = [2, 3] ∧ ¬ Unambiguous hiddenDuplicate "x" [(2, "id")] := by
  refine ⟨by decide, by decide, by decide, ?_⟩
  intro hunambiguous
  exact absurd (hunambiguous (2, "id") (List.mem_singleton_self _)).1 (by decide)

/-! ## References to the root -/

/-- The identifier that is taken for that of the document. -/
def rootId (document : Heap) : Option String :=
  document.getDocumentElement.bind fun root => getIdAttrVal (document.contentOf root)

/-- The value stands in an id attribute of the document element. -/
def IdOfRoot (document : Heap) (v : String) : Prop :=
  ∃ root, document.getDocumentElement = some root ∧ carries (document.contentOf root) v = true

section Root

variable (hnew : new lib document = .ok context) (hsame : SameContent document before)
  (hread : (getSignatureData jvm lib context sigNode).run before = (.ok data, after))
include hnew hsame

include hread

end Root

/-! ## The signed document -/

/-- The URI is that of the document or of its document element. -/
def RootUri (document : Heap) (uri : String) : Prop :=
  uri = "" ∨ ∃ v, IdOfRoot document v ∧ uri = "#" ++ v

/-- The references of a signature with their octets. -/
def refsOf (document : Heap) (signature : SignatureObject Cert) : List (String × Option Bytes) :=
  referencedData signature document (referenceElements document signature) 0

/-- The references whose octets are a document, in the order of the map. -/
def parsedReferences (jvm : Jvm) (lib : XMLSecurity Cert) (refs : List (String × Option Bytes)) :
    List (String × Document) :=
  (jvm.entriesInOrder (putEntries [] refs)).filterMap fun ref =>
    (ref.2.bind fun bytes => (lib.getDocument bytes).toOption).map (Prod.mk ref.1)

/-- The document elements of the two have the same name. -/
def hasRootName (document : Heap) (parsed : Document) : Bool :=
  match document.getDocumentElement, parsed.getDocumentElement with
  | some root, some root' =>
      (parsed.contentOf root').namespaceURI == (document.contentOf root).namespaceURI &&
        (parsed.contentOf root').localName == (document.contentOf root).localName
  | _, _ => false

/-- The key that has to be there. -/
def rootKey (document : Heap) : String :=
  match rootId document with
  | none => ""
  | some v => "#" ++ v

/-- The map has the key of the root, and the first of its documents with the name of the
root is that of another reference, with another canonical form. -/
structure Confused (jvm : Jvm) (lib : XMLSecurity Cert) (document : Heap)
    (refs : List (String × Option Bytes)) (uri : String) (parsed : Document) : Prop where
  key : rootKey document ∈ refs.map Prod.fst
  first : (parsedReferences jvm lib refs).find? (fun ref => hasRootName document ref.2) =
    some (uri, parsed)
  elsewhere : ¬ RootUri document uri
  differs : ∃ bytes, lib.getCanonicalDocBytes parsed.toHeap = .ok bytes ∧
    ∀ uri' octets parsed', (uri', some octets) ∈ refs → RootUri document uri' →
      lib.getDocument octets = .ok parsed' → lib.getCanonicalDocBytes parsed'.toHeap ≠ .ok bytes

section SignedDocument

variable (hnew : new lib document = .ok context) (hsame : SameContent document before)
include hnew hsame

variable (hread : (getSignatureData jvm lib context sigNode).run before = (.ok data, after))
include hread

end SignedDocument


/-! A document with an element inside it and a signature. The references stand for two
fragments, in their order. -/

section Referring

end Referring

end SigVal.Xml.DefaultXMLSignatureContext
