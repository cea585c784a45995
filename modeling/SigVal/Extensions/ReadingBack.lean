import SigVal.Extensions.PrintedContext

/-!
# Reading a printed document

What the constructors read in the elements that printing makes. An element is searched for
below its parent at any depth, and extension elements and attribute values can have anything
below them, so a search may find more than what was put there under its name.
-/

namespace SigVal.Extensions.Saci

open SigVal.Java SigVal.Dom SigVal.Dom.Node SigVal.SharedDom

variable {E A Instant : Type} {platform : Platform Instant} {strictMode : Bool} {g : Heap}
  {later : List Key} {ns name : String}

/-! ## Same content

Getters make no difference between a list that is not there and one without elements, and
attributes have no order. -/

def Attribute.Same (x y : Attribute Node Attr) : Prop :=
  x.name = y.name ∧ x.nameFormat = y.nameFormat ∧ x.friendlyName = y.friendlyName ∧
    x.getAnyAttrList.Perm y.getAnyAttrList ∧ x.getAttributeValues = y.getAttributeValues

def AttributeMapping.Same (x y : AttributeMapping Node Attr) : Prop :=
  x.type = y.type ∧ x.ref = y.ref ∧ Option.Rel Attribute.Same x.samlAttribute y.samlAttribute ∧
    x.getAnyList = y.getAnyList

def IdAttributes.Same (x y : IdAttributes Node Attr) : Prop :=
  List.Forall₂ AttributeMapping.Same x.getAttributeMappings y.getAttributeMappings

def AuthContextInfo.Same (x y : AuthContextInfo Node Instant) : Prop :=
  x.identityProvider = y.identityProvider ∧ x.authenticationInstant = y.authenticationInstant ∧
    x.authnContextClassRef = y.authnContextClassRef ∧ x.assertionRef = y.assertionRef ∧
    x.serviceID = y.serviceID ∧ x.getAnyList = y.getAnyList

def SAMLAuthContext.Same (x y : SAMLAuthContext Node Attr Instant) : Prop :=
  Option.Rel AuthContextInfo.Same x.authContextInfo y.authContextInfo ∧
    Option.Rel IdAttributes.Same x.idAttributes y.idAttributes

/-! ## Fields -/

theorem lookup_present {fields : List (String × Option String)} {rest : List Attr}
    {value : Option String} (hmem : (name, value) ∈ fields) (hnodup : (fields.map Prod.fst).Nodup)
    (hrest : name ∉ rest.map Prod.fst) : (present fields ++ rest).lookup name = value := by
  induction fields with
  | nil => cases hmem
  | cons field fields ih =>
      obtain ⟨n, v⟩ := field
      obtain ⟨hnot, hnodup⟩ := List.nodup_cons.mp hnodup
      rcases List.mem_cons.mp hmem with heq | htail
      · cases heq
        cases value with
        | some value =>
            show List.lookup name ((name, value) :: (present fields ++ rest)) = some value
            exact List.lookup_cons_self
        | none =>
            have habsent : name ∉ (present fields ++ rest).map Prod.fst := by
              rw [List.map_append, List.mem_append, not_or]
              refine ⟨fun hfound => ?_, hrest⟩
              obtain ⟨a, ha, rfl⟩ := List.mem_map.mp hfound
              exact hnot (name_of_mem_present ha)
            show List.lookup name (present fields ++ rest) = none
            rw [List.lookup_eq_none_iff]
            rintro a ha
            rw [bne_iff_ne]
            rintro rfl
            exact habsent (List.mem_map_of_mem ha)
      · have hne : name ≠ n := by
          rintro rfl
          exact hnot (List.mem_map.mpr ⟨_, htail, rfl⟩)
        have ih := ih htail hnodup
        cases v with
        | none => exact ih
        | some v =>
            show List.lookup name ((n, v) :: (present fields ++ rest)) = value
            rw [List.lookup_cons, beq_false_of_ne hne]
            exact ih

/-- A field that is printed is read back, unless it is empty. -/
theorem getAttributeValue_present {fields : List (String × Option String)} {rest : List Attr}
    {value : Option String} {children : List Node} (hmem : (name, value) ∈ fields)
    (hnodup : (fields.map Prod.fst).Nodup) (hrest : name ∉ rest.map Prod.fst)
    (hvalue : ∀ text ∈ value, text ≠ "") {elementName : String} :
    getAttributeValue (.element ns elementName (present fields ++ rest) children) name = value := by
  have hlookup := lookup_present hmem hnodup hrest
  unfold getAttributeValue Node.getAttribute Node.attributes
  dsimp only
  rw [hlookup]
  cases value with
  | none => rfl
  | some text =>
      have hlength : 0 < text.length := by
        rw [Nat.pos_iff_ne_zero, ne_eq, String.length_eq_zero_iff]
        exact hvalue text rfl
      rw [Option.getD_some, if_pos hlength]

theorem getAttributeValue_fields {fields : List (String × Option String)} {value : Option String}
    {children : List Node} {elementName : String} (hmem : (name, value) ∈ fields)
    (hnodup : (fields.map Prod.fst).Nodup) (hvalue : ∀ text ∈ value, text ≠ "") :
    getAttributeValue (.element ns elementName (present fields) children) name = value := by
  have hfound : getAttributeValue (.element ns elementName (present fields ++ []) children) name =
      value := getAttributeValue_present hmem hnodup List.not_mem_nil hvalue
  rwa [List.append_nil] at hfound

/-! ## Attributes -/

/-- What a value must be so that an attribute is read back, with what is moved after it: every
further attribute has a name of its own and is used nowhere else, and in the values that are
still there the search finds the values. -/
structure Attribute.ReadsBack (x : Attribute Key Key) (g : Heap) (later : List Key) : Prop where
  ownNames : (x.getAnyAttrList.map fun a => (g.attrOf a).1).Nodup
  otherNames : ∀ a ∈ x.getAnyAttrList, (g.attrOf a).1 ∉ [NAME, NAME_FORMAT, FRIENDLY_NAME]
  usedOnce : ∀ a ∈ x.getAnyAttrList, a ∉ x.getAttributeValues ++ later
  values : named SAML_ASSERTION_NS ATTRIBUTE_VALUE_ELEMENT
    ((kept x.getAttributeValues later).map g.tree) = x.getAttributeValues.map g.tree

/-- The texts of a value. -/
def Attribute.texts (x : Attribute E A) : List String :=
  x.name.toList ++ x.nameFormat.toList ++ x.friendlyName.toList

theorem Attribute.getAnyAttrList_map (x : Attribute Key Key) :
    (x.map g.tree g.attrOf).getAnyAttrList = x.getAnyAttrList.map g.attrOf := by
  unfold Attribute.getAnyAttrList Attribute.map
  cases x.anyAttrList <;> rfl

theorem Attribute.getAttributeValues_map (x : Attribute Key Key) :
    (x.map g.tree g.attrOf).getAttributeValues = x.getAttributeValues.map g.tree := by
  unfold Attribute.getAttributeValues Attribute.map
  cases x.attributeValues <;> rfl

/-- What is compared with the fields of an element. -/
theorem Attribute.same_setValuesFromElement_iff {x : Attribute Node Attr} {element : Node} :
    x.Same (setValuesFromElement element) ↔
      x.name = getAttributeValue element NAME ∧
        x.nameFormat = getAttributeValue element NAME_FORMAT ∧
        x.friendlyName = getAttributeValue element FRIENDLY_NAME ∧
        x.getAnyAttrList.Perm (getOtherAttributes element [NAME, NAME_FORMAT, FRIENDLY_NAME]) ∧
        x.getAttributeValues =
          element.getElementsByTagNameNS SAML_ASSERTION_NS ATTRIBUTE_VALUE_ELEMENT := Iff.rfl

/-- The adopted attributes that are not read as fields. -/
def Attribute.readAttrs (x : Attribute Key Key) (g : Heap) (later : List Key) : List Key :=
  let nameOf := fun a => (g.attrOf a).1
  let adopted := (keptAttributes nameOf x.getAnyAttrList).filter fun a =>
    a ∉ x.getAttributeValues ++ later
  adopted.filter fun a => nameOf a ∉ [NAME, NAME_FORMAT, FRIENDLY_NAME]

theorem Attribute.readAttrs_sublist (x : Attribute Key Key) :
    (x.readAttrs g later).Sublist x.getAnyAttrList :=
  (List.filter_sublist.trans List.filter_sublist).trans (keptAttributes_sublist _ _)

/-- Nothing is dropped from the list when every attribute has a name of its own and is used
nowhere else. -/
theorem Attribute.readAttrs_eq_iff (x : Attribute Key Key) :
    x.readAttrs g later = x.getAnyAttrList ↔
      (x.getAnyAttrList.map fun a => (g.attrOf a).1).Nodup ∧
        (∀ a ∈ x.getAnyAttrList, (g.attrOf a).1 ∉ [NAME, NAME_FORMAT, FRIENDLY_NAME]) ∧
        ∀ a ∈ x.getAnyAttrList, a ∉ x.getAttributeValues ++ later := by
  unfold readAttrs
  dsimp only
  constructor
  · intro heq
    have hkept : keptAttributes (fun a => (g.attrOf a).1) x.getAnyAttrList = x.getAnyAttrList := by
      apply (keptAttributes_sublist _ _).eq_of_length_le
      conv_lhs => rw [← heq]
      exact (List.filter_sublist.trans List.filter_sublist).length_le
    rw [hkept] at heq
    refine ⟨keptAttributes_eq_self_iff.mp hkept, fun a ha => ?_, fun a ha => ?_⟩
    · rw [← heq] at ha
      exact of_decide_eq_true (List.mem_filter.mp ha).2
    · rw [← heq] at ha
      exact of_decide_eq_true (List.mem_filter.mp (List.mem_filter.mp ha).1).2
  · rintro ⟨hnodup, hother, hused⟩
    have hadopted : x.getAnyAttrList.filter (fun a => a ∉ x.getAttributeValues ++ later) =
        x.getAnyAttrList := List.filter_eq_self.mpr fun a ha => decide_eq_true (hused a ha)
    rw [keptAttributes_eq_self_iff.mpr hnodup, hadopted]
    exact List.filter_eq_self.mpr fun a ha => decide_eq_true (hother a ha)

theorem Attribute.getOtherAttributes_printed (x : Attribute Key Key) :
    getOtherAttributes (x.printed g later) [NAME, NAME_FORMAT, FRIENDLY_NAME] =
      (x.readAttrs g later).map g.attrOf := by
  have hfields : ∀ f ∈ present x.fields, f.1 ∈ [NAME, NAME_FORMAT, FRIENDLY_NAME] :=
    fun f hf => name_of_mem_present hf
  have hown : ((present x.fields).filter fun f =>
      f.1 ∉ x.getAnyAttrList.map fun a => (g.attrOf a).1).filter
        (fun attr => !List.contains [NAME, NAME_FORMAT, FRIENDLY_NAME] attr.1) = [] := by
    apply List.filter_eq_nil_iff.mpr
    intro f hf
    rw [List.contains_iff_mem.mpr (hfields f (List.mem_filter.mp hf).1)]
    exact Bool.false_ne_true
  unfold getOtherAttributes printed readAttrs Node.attributes
  dsimp only
  rw [List.filter_append, hown, List.nil_append, List.filter_map]
  refine congrArg _ (List.filter_congr fun a _ => ?_)
  simp

/-- A field is read where the further attributes leave it alone. -/
theorem Attribute.getAttributeValue_printed (x : Attribute Key Key) {value : Option String}
    (hall : x.readAttrs g later = x.getAnyAttrList) (hf : (name, value) ∈ x.fields)
    (hvalue : ∀ text ∈ value, text ≠ "") :
    getAttributeValue (x.printed g later) name = value := by
  obtain ⟨hnames, hother, hused⟩ := x.readAttrs_eq_iff.mp hall
  have hown : (present x.fields).filter
      (fun f => f.1 ∉ x.getAnyAttrList.map fun a => (g.attrOf a).1) = present x.fields := by
    refine List.filter_eq_self.mpr fun f hf => decide_eq_true fun hmem => ?_
    obtain ⟨a, ha, heq⟩ := List.mem_map.mp hmem
    apply hother a ha
    rw [show (g.attrOf a).1 = f.1 from heq]
    exact name_of_mem_present hf
  have hadopted : (keptAttributes (fun a => (g.attrOf a).1) x.getAnyAttrList).filter
      (fun a => a ∉ x.getAttributeValues ++ later) = x.getAnyAttrList := by
    rw [keptAttributes_eq_self_iff.mpr hnames]
    exact List.filter_eq_self.mpr fun a ha => decide_eq_true (hused a ha)
  have hrest : name ∉ (x.getAnyAttrList.map g.attrOf).map Prod.fst := by
    intro hmem
    rw [List.map_map] at hmem
    obtain ⟨a, ha, rfl⟩ := List.mem_map.mp hmem
    exact hother a ha (List.mem_map_of_mem (f := Prod.fst) hf)
  unfold printed
  dsimp only
  rw [hown, hadopted]
  have hnodup : (x.fields.map Prod.fst).Nodup :=
    show [NAME, NAME_FORMAT, FRIENDLY_NAME].Nodup by decide
  exact getAttributeValue_present hf hnodup hrest hvalue

theorem Attribute.same_printed_iff (x : Attribute Key Key) (later : List Key)
    (htexts : ∀ s ∈ x.texts, s ≠ "") :
    (x.map g.tree g.attrOf).Same (setValuesFromElement (x.printed g later)) ↔
      x.ReadsBack g later := by
  have hvalues : (x.printed g later).getElementsByTagNameNS SAML_ASSERTION_NS
      ATTRIBUTE_VALUE_ELEMENT = named SAML_ASSERTION_NS ATTRIBUTE_VALUE_ELEMENT
        ((kept x.getAttributeValues later).map g.tree) := getElementsByTagNameNS_eq
  rw [same_setValuesFromElement_iff, x.getAnyAttrList_map, x.getAttributeValues_map,
    x.getOtherAttributes_printed, hvalues]
  constructor
  · rintro ⟨-, -, -, hattrs, hsame⟩
    have hlength := hattrs.length_eq
    rw [List.length_map, List.length_map] at hlength
    have hall := x.readAttrs_sublist.eq_of_length_le hlength.le
    obtain ⟨hnames, hother, hused⟩ := x.readAttrs_eq_iff.mp hall
    exact ⟨hnames, hother, hused, hsame.symm⟩
  · intro hreads
    have hall := x.readAttrs_eq_iff.mpr ⟨hreads.ownNames, hreads.otherNames, hreads.usedOnce⟩
    have hread : ∀ {name value}, (name, value) ∈ x.fields → (∀ s ∈ value.toList, s ∈ x.texts) →
        value = getAttributeValue (x.printed g later) name := fun hf hvalue =>
      (x.getAttributeValue_printed hall hf fun text htext =>
        htexts text (hvalue text (Option.mem_toList.mpr htext))).symm
    have hname : x.name = getAttributeValue (x.printed g later) NAME :=
      hread (by simp [fields]) fun s hs => by
        simp only [texts, List.mem_append]
        tauto
    have hnameFormat : x.nameFormat = getAttributeValue (x.printed g later) NAME_FORMAT :=
      hread (by simp [fields]) fun s hs => by
        simp only [texts, List.mem_append]
        tauto
    have hfriendlyName : x.friendlyName = getAttributeValue (x.printed g later) FRIENDLY_NAME :=
      hread (by simp [fields]) fun s hs => by
        simp only [texts, List.mem_append]
        tauto
    rw [hall]
    exact ⟨hname, hnameFormat, hfriendlyName, .refl _, hreads.values.symm⟩

theorem Attribute.ofElement_ok_iff {element : Node} {y : Attribute Node Attr} :
    ofElement strictMode element = .ok y ↔
      (strictMode = true → y.name.isSome = true) ∧ setValuesFromElement element = y := by
  unfold ofElement validate
  dsimp only
  cases strictMode with
  | false =>
      rw [if_neg Bool.false_ne_true]
      exact ⟨fun h => ⟨nofun, Except.ok.inj h⟩, fun h => congrArg _ h.2⟩
  | true =>
      rw [if_pos rfl]
      simp only [bind_ok_iff, required]
      cases hname : (setValuesFromElement element).name with
      | none =>
          refine iff_of_false (by rintro ⟨_, ⟨⟩, -⟩) ?_
          rintro ⟨hsome, rfl⟩
          rw [hname] at hsome
          exact absurd (hsome trivial) Bool.false_ne_true
      | some name =>
          constructor
          · rintro ⟨_, -, ⟨⟩⟩
            exact ⟨fun _ => by rw [hname]; rfl, rfl⟩
          · rintro ⟨-, rfl⟩
            exact ⟨(), rfl, rfl⟩

/-! ## Mappings -/

/-- The loop over the children throws at one without a namespace. -/
theorem filterM_isExtension_ok_iff {children r : List Node} :
    children.filterM isExtension = .ok r ↔ (∀ c ∈ children, c.namespaceURI ≠ "") ∧
      r = children.filter fun c => !c.hasName SAML_ASSERTION_NS ATTRIBUTE_ELEMENT := by
  have haux : ∀ acc r, children.filterAuxM isExtension acc = .ok r ↔
      (∀ c ∈ children, c.namespaceURI ≠ "") ∧
        r = (children.filter fun c => !c.hasName SAML_ASSERTION_NS ATTRIBUTE_ELEMENT).reverse ++
          acc := by
    induction children with
    | nil =>
        intro acc r
        exact ⟨fun h => ⟨nofun, (Except.ok.inj h).symm⟩, fun h => congrArg _ h.2.symm⟩
    | cons c children ih =>
        intro acc r
        rw [List.filterAuxM, bind_ok_iff, List.forall_mem_cons]
        by_cases hns : c.namespaceURI = ""
        · refine iff_of_false ?_ fun h => h.1.1 hns
          rintro ⟨b, hb, -⟩
          rw [isExtension, if_pos hns] at hb
          cases hb
        · have hok : isExtension c = .ok !c.hasName SAML_ASSERTION_NS ATTRIBUTE_ELEMENT := by
            rw [isExtension, if_neg hns]
            rfl
          simp only [hok, Except.ok.injEq, exists_eq_left', ih]
          cases hname : c.hasName SAML_ASSERTION_NS ATTRIBUTE_ELEMENT <;> simp [hns, hname]
  unfold List.filterM
  rw [bind_ok_iff]
  constructor
  · rintro ⟨r', hr', h⟩
    obtain ⟨hns, rfl⟩ := (haux [] r').mp hr'
    refine ⟨hns, ?_⟩
    rw [← Except.ok.inj h]
    simp
  · rintro ⟨hns, rfl⟩
    exact ⟨_, (haux [] _).mpr ⟨hns, rfl⟩, by simp [pure, Except.pure]⟩

/-- What a value must be so that a mapping is read back. -/
structure AttributeMapping.ReadsBack (strictMode : Bool) (x : AttributeMapping Key Key) (g : Heap)
    (later : List Key) : Prop where
  ref : x.ref.isSome = true
  name : ∀ a ∈ x.samlAttribute, strictMode = true → a.name.isSome = true
  samlAttribute : ∀ a ∈ x.samlAttribute, a.ReadsBack g (x.getAnyList ++ later)
  usedOnce : x.getAnyList.Nodup ∧ ∀ k ∈ x.getAnyList, k ∉ later
  extensions : ∀ k ∈ x.getAnyList, (g.tree k).namespaceURI ≠ "" ∧
    (g.tree k).hasName SAML_ASSERTION_NS ATTRIBUTE_ELEMENT = false

def AttributeMapping.texts (x : AttributeMapping E A) : List String :=
  x.ref.toList ++ (x.samlAttribute.map Attribute.texts).getD []

theorem AttributeMapping.getAnyList_map (x : AttributeMapping Key Key) :
    (x.map g.tree g.attrOf).getAnyList = x.getAnyList.map g.tree := by
  unfold AttributeMapping.getAnyList AttributeMapping.map
  cases x.anyList <;> rfl

theorem required_ok_iff {α : Type} {value : Option α} {message : String} {u : Unit} :
    required value message = .ok u ↔ value.isSome = true := by
  cases value with
  | none => exact iff_of_false nofun nofun
  | some a => exact iff_of_true rfl rfl

theorem option_mapM_some_ok_iff {α β : Type} {f : α → Outcome β} {a : α} {r : Option β} :
    (some a).mapM f = .ok r ↔ ∃ b, f a = .ok b ∧ r = some b := by
  rw [Option.mapM_some]
  cases f a with
  | error e => exact iff_of_false nofun (by rintro ⟨_, ⟨⟩, -⟩)
  | ok b =>
      constructor
      · rintro ⟨⟩
        exact ⟨b, rfl, rfl⟩
      · rintro ⟨_, ⟨⟩, rfl⟩
        rfl

theorem getTypeFromName_name (type : Option MappingType) :
    MappingType.getTypeFromName (type.map MappingType.name) = type := by
  rcases type with _ | _ | _ | _ <;> decide

section Mapping

variable (x : AttributeMapping Key Key) {a : Attribute Key Key} (ha : x.samlAttribute = some a)
include ha

/-- The attribute comes first. -/
theorem AttributeMapping.printed_eq : x.printed g later =
    .element SACI_NS ATTRIBUTE_MAPPING_ELEMENT (present x.fields)
      (a.printed g (x.getAnyList ++ later) :: (kept x.getAnyList later).map g.tree) := by
  unfold printed
  rw [ha]
  rfl

theorem AttributeMapping.getSingleElement_printed :
    getSingleElement (x.printed g later) SAML_ASSERTION_NS ATTRIBUTE_ELEMENT =
      some (a.printed g (x.getAnyList ++ later)) := by
  have hname : (a.printed g (x.getAnyList ++ later)).hasName SAML_ASSERTION_NS
      ATTRIBUTE_ELEMENT = true := a.hasName_printed.trans (by decide)
  unfold getSingleElement
  rw [getElementsByTagNameNS_eq, x.printed_eq ha, childNodes, named_cons, if_pos hname]
  rfl

theorem AttributeMapping.childElements_printed
    (helements : ∀ k ∈ x.getAnyList, (g.tree k).isElement = true) :
    (x.printed g later).childElements =
      a.printed g (x.getAnyList ++ later) :: (kept x.getAnyList later).map g.tree := by
  rw [x.printed_eq ha]
  refine List.filter_eq_self.mpr (List.forall_mem_cons.mpr ⟨rfl, List.forall_mem_map.mpr ?_⟩)
  exact fun k hk => helements k (kept_sublist.subset hk)

theorem AttributeMapping.getAttributeValue_printed {value : Option String}
    (hf : (name, value) ∈ x.fields) (hvalue : ∀ text ∈ value, text ≠ "") :
    getAttributeValue (x.printed g later) name = value := by
  have hnodup : (x.fields.map Prod.fst).Nodup := show [TYPE, REF].Nodup by decide
  rw [x.printed_eq ha]
  exact getAttributeValue_fields hf hnodup hvalue

theorem AttributeMapping.getType_printed :
    MappingType.getTypeFromName (getAttributeValue (x.printed g later) TYPE) = x.type := by
  have hread : getAttributeValue (x.printed g later) TYPE = x.type.map MappingType.name := by
    apply x.getAttributeValue_printed ha (by simp [fields])
    intro text htext
    obtain ⟨type, -, rfl⟩ := Option.map_eq_some_iff.mp htext
    cases type <;> decide
  rw [hread]
  exact getTypeFromName_name x.type

/-- What the constructor requires of the element, and what it reads. -/
theorem AttributeMapping.ofElement_printed_iff (strictMode : Bool) (later : List Key)
    (htype : x.type.isSome = true) (href : ∀ text ∈ x.ref, text ≠ "")
    (helements : ∀ k ∈ x.getAnyList, (g.tree k).isElement = true)
    (y : AttributeMapping Node Attr) :
    ofElement strictMode (x.printed g later) = .ok y ↔
      ((strictMode = true → (Attribute.setValuesFromElement
          (a.printed g (x.getAnyList ++ later))).name.isSome = true) ∧
        (∀ k ∈ kept x.getAnyList later, (g.tree k).namespaceURI ≠ "") ∧ x.ref.isSome = true) ∧
        y = { type := x.type
              ref := x.ref
              samlAttribute := some (Attribute.setValuesFromElement
                (a.printed g (x.getAnyList ++ later)))
              anyList := some (((kept x.getAnyList later).filter fun k =>
                !(g.tree k).hasName SAML_ASSERTION_NS ATTRIBUTE_ELEMENT).map g.tree) } := by
  let element := a.printed g (x.getAnyList ++ later)
  let extensions := (kept x.getAnyList later).map g.tree
  have hname : element.hasName SAML_ASSERTION_NS ATTRIBUTE_ELEMENT = true :=
    a.hasName_printed.trans (by decide)
  have hns : (∀ c ∈ element :: extensions, c.namespaceURI ≠ "") ↔
      ∀ k ∈ kept x.getAnyList later, (g.tree k).namespaceURI ≠ "" := by
    rw [List.forall_mem_cons, List.forall_mem_map]
    exact and_iff_right (show SAML_ASSERTION_NS ≠ "" by decide)
  have hfilter : (element :: extensions).filter (fun c =>
      !c.hasName SAML_ASSERTION_NS ATTRIBUTE_ELEMENT) = ((kept x.getAnyList later).filter fun k =>
        !(g.tree k).hasName SAML_ASSERTION_NS ATTRIBUTE_ELEMENT).map g.tree := by
    rw [List.filter_cons_of_neg (by simp [hname]), List.filter_map]
    rfl
  have hreadRef : getAttributeValue (x.printed g later) REF = x.ref :=
    x.getAttributeValue_printed ha (by simp [fields]) href
  unfold ofElement setValuesFromElement validate
  simp only [bind_ok_iff, x.getSingleElement_printed ha, x.childElements_printed ha helements,
    x.getType_printed ha, hreadRef, required_ok_iff, filterM_isExtension_ok_iff,
    option_mapM_some_ok_iff, Attribute.ofElement_ok_iff]
  rw [← hns, ← hfilter]
  constructor
  · rintro ⟨_, ⟨_, ⟨_, ⟨hstrict, rfl⟩, rfl⟩, _, ⟨hns, rfl⟩, ⟨⟩⟩, _, ⟨_, _, _, href, -⟩, ⟨⟩⟩
    exact ⟨⟨hstrict, hns, href⟩, rfl⟩
  · rintro ⟨⟨hstrict, hns, href⟩, rfl⟩
    exact ⟨_, ⟨_, ⟨_, ⟨hstrict, rfl⟩, rfl⟩, _, ⟨hns, rfl⟩, rfl⟩,
      (), ⟨(), htype, (), href, rfl⟩, rfl⟩

end Mapping

theorem AttributeMapping.same_printed_iff (x : AttributeMapping Key Key) (hcomplete : x.Complete)
    (htexts : ∀ s ∈ x.texts, s ≠ "") (helements : ∀ k ∈ x.getAnyList, (g.tree k).isElement = true) :
    (∃ y, ofElement strictMode (x.printed g later) = .ok y ∧
        (x.map g.tree g.attrOf).Same y) ↔ x.ReadsBack strictMode g later := by
  obtain ⟨a, ha⟩ := Option.isSome_iff_exists.mp hcomplete.2
  have hattribute := a.same_printed_iff (g := g) (x.getAnyList ++ later) fun s hs =>
    htexts s (List.mem_append_right _ (by rwa [ha]))
  have hok := x.ofElement_printed_iff ha strictMode later hcomplete.1
    (fun text htext => htexts text (List.mem_append_left _ (Option.mem_toList.mpr htext))) helements
  have hself : ∀ {P : Attribute Key Key → Prop}, (∀ a' ∈ x.samlAttribute, P a') ↔ P a := by
    intro P
    rw [ha]
    exact ⟨fun h => h a rfl, fun h => by rintro _ ⟨⟩; exact h⟩
  have hsame : (x.map g.tree g.attrOf).samlAttribute = some (a.map g.tree g.attrOf) := by
    unfold AttributeMapping.map
    rw [ha]
    rfl
  constructor
  · rintro ⟨y, hy, -, -, hrel, hany⟩
    obtain ⟨⟨hstrict, hns, href⟩, rfl⟩ := (hok y).mp hy
    rw [hsame] at hrel
    obtain ⟨hattr⟩ := hrel
    -- no extension element was dropped
    have hlength := congrArg List.length (x.getAnyList_map.symm.trans hany)
    change _ = (List.map _ _).length at hlength
    rw [List.length_map, List.length_map] at hlength
    have hkept : kept x.getAnyList later = x.getAnyList :=
      kept_sublist.eq_of_length_le (hlength.trans_le (List.length_filter_le _ _))
    rw [hkept, eq_comm, List.length_filter_eq_length_iff] at hlength
    rw [hkept] at hns
    refine ⟨href, hself.mpr fun hstrict' => ?_, hself.mpr (hattribute.mp hattr),
      kept_eq_self_iff.mp hkept, fun k hk => ⟨hns k hk, ?_⟩⟩
    · rw [show a.name = _ from hattr.1]
      exact hstrict hstrict'
    · simpa using hlength k hk
  · intro hreads
    have hattr := hattribute.mpr (hself.mp hreads.samlAttribute)
    have hkept := kept_eq_self_iff.mpr hreads.usedOnce
    refine ⟨_, (hok _).mpr ⟨⟨fun hstrict => ?_, ?_, hreads.ref⟩, rfl⟩, rfl, rfl, ?_, ?_⟩
    · rw [← show a.name = _ from hattr.1]
      exact hself.mp hreads.name hstrict
    · exact fun k hk => (hreads.extensions k (kept_sublist.subset hk)).1
    · rw [hsame]
      exact .some hattr
    · refine x.getAnyList_map.trans (congrArg (List.map g.tree) ?_)
      rw [hkept]
      refine (List.filter_eq_self.mpr fun k hk => ?_).symm
      rw [(hreads.extensions k hk).2]
      rfl

/-! ## Lists of mappings -/

/-- The elements of a mapping that are in their place at the end. -/
def AttributeMapping.placed (x : AttributeMapping Key Key) (later : List Key) : List Key :=
  (x.samlAttribute.map fun a => kept a.getAttributeValues (x.getAnyList ++ later)).getD [] ++
    kept x.getAnyList later

def placedMappings (later : List Key) : List (AttributeMapping Key Key) → List Key
  | [] => []
  | x :: rest =>
      x.placed (rest.flatMap AttributeMapping.moved ++ later) ++ placedMappings later rest

/-- Each mapping is read back, with the others after it. -/
def MappingsReadBack (strictMode : Bool) (g : Heap) (later : List Key) :
    List (AttributeMapping Key Key) → Prop
  | [] => True
  | x :: rest =>
      x.ReadsBack strictMode g (rest.flatMap AttributeMapping.moved ++ later) ∧
        MappingsReadBack strictMode g later rest

/-- What a value must be so that the mappings are read back. -/
structure IdAttributes.ReadsBack (strictMode : Bool) (x : IdAttributes Key Key) (g : Heap)
    (later : List Key) : Prop where
  notEmpty : x.getAttributeMappings ≠ []
  mappings : MappingsReadBack strictMode g later x.getAttributeMappings
  noMapping : named SACI_NS ATTRIBUTE_MAPPING_ELEMENT
    ((placedMappings later x.getAttributeMappings).map g.tree) = []

def IdAttributes.texts (x : IdAttributes E A) : List String :=
  x.getAttributeMappings.flatMap AttributeMapping.texts

theorem IdAttributes.getAttributeMappings_map (x : IdAttributes Key Key) :
    (x.map g.tree g.attrOf).getAttributeMappings =
      x.getAttributeMappings.map (AttributeMapping.map g.tree g.attrOf) := by
  unfold IdAttributes.getAttributeMappings IdAttributes.map
  cases x.attributeMappings <;> rfl

/-- What a search finds in a mapping is in the elements of the value. -/
theorem AttributeMapping.getElementsByTagNameNS_printed (x : AttributeMapping Key Key) :
    (x.printed g later).getElementsByTagNameNS SACI_NS name =
      named SACI_NS name ((x.placed later).map g.tree) := by
  rw [getElementsByTagNameNS_eq]
  unfold printed placed
  rw [childNodes, List.map_append, named_append, named_append]
  refine congrArg (· ++ _) ?_
  cases x.samlAttribute with
  | none => rfl
  | some a =>
      have hother : (a.printed g (x.getAnyList ++ later)).hasName SACI_NS name = false := by
        have hns : (SAML_ASSERTION_NS == SACI_NS) = false := by decide
        rw [a.hasName_printed, hns, Bool.false_and]
      show named SACI_NS name [a.printed g (x.getAnyList ++ later)] = _
      rw [named_cons, if_neg (by rw [hother]; decide), named_nil, List.append_nil, List.nil_append,
        getElementsByTagNameNS_eq]
      rfl

theorem named_printedMappings (l : List (AttributeMapping Key Key))
    (hname : name ≠ ATTRIBUTE_MAPPING_ELEMENT) :
    named SACI_NS name (printedMappings g later l) =
      named SACI_NS name ((placedMappings later l).map g.tree) := by
  induction l with
  | nil => rfl
  | cons x rest ih =>
      have hother : (x.printed g (rest.flatMap AttributeMapping.moved ++ later)).hasName SACI_NS
          name = false := by
        rw [x.hasName_printed, beq_false_of_ne hname.symm, Bool.and_false]
      rw [printedMappings, placedMappings, named_cons, if_neg (by rw [hother]; decide),
        List.nil_append, x.getElementsByTagNameNS_printed, ih, List.map_append, named_append]

/-- The mappings are found, and those in the elements of the value. -/
theorem length_named_printedMappings (l : List (AttributeMapping Key Key)) :
    (named SACI_NS ATTRIBUTE_MAPPING_ELEMENT (printedMappings g later l)).length = l.length +
      (named SACI_NS ATTRIBUTE_MAPPING_ELEMENT ((placedMappings later l).map g.tree)).length := by
  induction l with
  | nil => rfl
  | cons x rest ih =>
      have hown : (x.printed g (rest.flatMap AttributeMapping.moved ++ later)).hasName SACI_NS
          ATTRIBUTE_MAPPING_ELEMENT = true := x.hasName_printed.trans (by decide)
      rw [printedMappings, placedMappings, named_cons, if_pos hown,
        x.getElementsByTagNameNS_printed, List.map_append, named_append]
      simp only [List.length_append, List.length_cons, List.length_nil, ih]
      omega

theorem named_printedMappings_eq_self (l : List (AttributeMapping Key Key))
    (hnone : named SACI_NS ATTRIBUTE_MAPPING_ELEMENT ((placedMappings later l).map g.tree) = []) :
    named SACI_NS ATTRIBUTE_MAPPING_ELEMENT (printedMappings g later l) =
      printedMappings g later l := by
  induction l with
  | nil => rfl
  | cons x rest ih =>
      rw [placedMappings, List.map_append, named_append, List.append_eq_nil_iff] at hnone
      have hown : (x.printed g (rest.flatMap AttributeMapping.moved ++ later)).hasName SACI_NS
          ATTRIBUTE_MAPPING_ELEMENT = true := x.hasName_printed.trans (by decide)
      rw [printedMappings, named_cons, if_pos hown, x.getElementsByTagNameNS_printed, hnone.1,
        ih hnone.2]
      rfl

theorem mapM_printedMappings_iff (strictMode : Bool) (later : List Key)
    (l : List (AttributeMapping Key Key))
    (hcomplete : ∀ x ∈ l, x.Complete) (htexts : ∀ x ∈ l, ∀ s ∈ x.texts, s ≠ "")
    (helements : ∀ x ∈ l, ∀ k ∈ x.getAnyList, (g.tree k).isElement = true) :
    (∃ ys, (printedMappings g later l).mapM (AttributeMapping.ofElement strictMode) = .ok ys ∧
        List.Forall₂ AttributeMapping.Same (l.map (AttributeMapping.map g.tree g.attrOf)) ys) ↔
      MappingsReadBack strictMode g later l := by
  induction l with
  | nil => exact iff_of_true ⟨[], rfl, .nil⟩ trivial
  | cons x rest ih =>
      rw [List.forall_mem_cons] at hcomplete htexts helements
      rw [MappingsReadBack, ← ih hcomplete.2 htexts.2 helements.2,
        ← x.same_printed_iff hcomplete.1 htexts.1 helements.1]
      simp only [printedMappings, List.mapM_cons, bind_ok_iff, List.map_cons]
      constructor
      · rintro ⟨ys, ⟨y, hy, ys', hys', ⟨⟩⟩, hsame⟩
        obtain ⟨hx, hrest⟩ := List.forall₂_cons.mp hsame
        exact ⟨⟨y, hy, hx⟩, ys', hys', hrest⟩
      · rintro ⟨⟨y, hy, hx⟩, ys', hys', hrest⟩
        exact ⟨y :: ys', ⟨y, hy, ys', hys', rfl⟩, .cons hx hrest⟩

theorem IdAttributes.ofElement_ok_iff {element : Node} {y : IdAttributes Node Attr} :
    ofElement strictMode element = .ok y ↔ ∃ ms,
      (element.getElementsByTagNameNS SACI_NS ATTRIBUTE_MAPPING_ELEMENT).mapM
        (AttributeMapping.ofElement strictMode) = .ok ms ∧ ms ≠ [] ∧
      y = { attributeMappings := some ms } := by
  unfold ofElement
  simp only [bind_ok_iff]
  refine exists_congr fun ms => and_congr_right fun _ => ?_
  cases ms with
  | nil => exact iff_of_false (by rintro ⟨_, ⟨⟩, -⟩) fun h => h.1 rfl
  | cons m ms =>
      constructor
      · rintro ⟨_, -, ⟨⟩⟩
        exact ⟨List.cons_ne_nil _ _, rfl⟩
      · rintro ⟨-, rfl⟩
        exact ⟨(), rfl, rfl⟩

/-- **Reading the mappings.** -/
theorem IdAttributes.same_printed_iff (x : IdAttributes Key Key)
    (hcomplete : ∀ m ∈ x.getAttributeMappings, m.Complete) (htexts : ∀ s ∈ x.texts, s ≠ "")
    (helements : ∀ m ∈ x.getAttributeMappings, ∀ k ∈ m.getAnyList,
      (g.tree k).isElement = true) :
    (∃ y, ofElement strictMode (x.printed g later) = .ok y ∧
        (x.map g.tree g.attrOf).Same y) ↔ x.ReadsBack strictMode g later := by
  have htexts' : ∀ m ∈ x.getAttributeMappings, ∀ s ∈ m.texts, s ≠ "" := fun m hm s hs =>
    htexts s (List.mem_flatMap.mpr ⟨m, hm, hs⟩)
  have hloop := mapM_printedMappings_iff strictMode later
    x.getAttributeMappings hcomplete htexts' helements
  have hsearch : (x.printed g later).getElementsByTagNameNS SACI_NS ATTRIBUTE_MAPPING_ELEMENT =
      named SACI_NS ATTRIBUTE_MAPPING_ELEMENT (printedMappings g later x.getAttributeMappings) :=
    getElementsByTagNameNS_eq
  have hsame : ∀ ms, (x.map g.tree g.attrOf).Same { attributeMappings := some ms } ↔
      List.Forall₂ AttributeMapping.Same
        (x.getAttributeMappings.map (AttributeMapping.map g.tree g.attrOf)) ms := by
    intro ms
    unfold IdAttributes.Same
    rw [x.getAttributeMappings_map]
    rfl
  simp only [ofElement_ok_iff, hsearch]
  constructor
  · rintro ⟨_, ⟨ms, hms, hne, rfl⟩, hrel⟩
    have hrel := (hsame ms).mp hrel
    have hlength := hrel.length_eq
    have hlength' := (forall₂_of_mapM_ok hms).length_eq
    rw [length_named_printedMappings] at hlength'
    rw [List.length_map] at hlength
    have hnone : named SACI_NS ATTRIBUTE_MAPPING_ELEMENT
        ((placedMappings later x.getAttributeMappings).map g.tree) = [] :=
      List.length_eq_zero_iff.mp (by omega)
    rw [named_printedMappings_eq_self _ hnone] at hms
    refine ⟨?_, hloop.mp ⟨ms, hms, hrel⟩, hnone⟩
    intro hnil
    rw [hnil] at hrel
    exact hne (List.forall₂_nil_left_iff.mp hrel)
  · intro hreads
    obtain ⟨ms, hms, hrel⟩ := hloop.mpr hreads.mappings
    rw [named_printedMappings_eq_self _ hreads.noMapping]
    refine ⟨_, ⟨ms, hms, ?_, rfl⟩, (hsame ms).mpr hrel⟩
    rintro rfl
    exact hreads.notEmpty (List.map_eq_nil_iff.mp (List.forall₂_nil_right_iff.mp hrel))

/-! ## Times -/

/-- Date-times are printed and read without a loss, as far as the pattern can show them. -/
structure Platform.KeepsTimes (platform : Platform Instant) : Prop where
  notEmpty : ∀ d, platform.isoText d ≠ ""
  parse : ∀ i, 0 < (platform.atZone i).year → (platform.atZone i).nano % 1000000 = 0 →
    platform.parse (platform.isoText (platform.atZone i)) = .ok (platform.atZone i)
  reads : ∀ i d, platform.parse (platform.isoText (toPattern (platform.atZone i))) = .ok d →
    d = toPattern (platform.atZone i)
  toInstant : ∀ i, platform.toInstant (platform.atZone i) = i
  year : ∀ i text year, platform.parse text = .ok { platform.atZone i with year := year } →
    platform.toInstant { platform.atZone i with year := year } = i →
    year = (platform.atZone i).year

/-- A time is read back when its year is not before the era. -/
theorem parseTime_instantToString_iff (htimes : platform.KeepsTimes) {i : Instant}
    (hmillis : (platform.atZone i).nano % 1000000 = 0) :
    parseTime platform (instantToString platform (some i)) = .ok (some i) ↔
      0 < (platform.atZone i).year := by
  have hnano : (platform.atZone i).nano / 1000000 * 1000000 = (platform.atZone i).nano :=
    Nat.div_mul_cancel (Nat.dvd_of_mod_eq_zero hmillis)
  have hpattern : toPattern (platform.atZone i) =
      { platform.atZone i with year := yearOfEra (platform.atZone i).year } := by
    rw [toPattern, hnano]
  show (do
    let dateTime ← platform.parse (platform.isoText (toPattern (platform.atZone i)))
    pure (some (platform.toInstant dateTime))) = .ok (some i) ↔ _
  rw [bind_ok_iff]
  constructor
  · rintro ⟨d, hd, hi⟩
    have hread := htimes.reads i d hd
    have hi := Option.some.inj (Except.ok.inj hi)
    rw [hread, hpattern] at hi hd
    have hyear := htimes.year i _ _ hd hi
    unfold yearOfEra at hyear
    split at hyear
    · assumption
    · omega
  · intro hyear
    have hself : toPattern (platform.atZone i) = platform.atZone i := by
      rw [hpattern, yearOfEra, if_pos hyear]
    rw [hself]
    refine ⟨_, htimes.parse i hyear hmillis, ?_⟩
    rw [htimes.toInstant]
    rfl

/-! ## What authenticated the signer -/

/-- What a value must be so that it is read back. -/
structure AuthContextInfo.ReadsBack (platform : Platform Instant) (x : AuthContextInfo Key Instant)
    (later : List Key) : Prop where
  identityProvider : x.identityProvider.isSome = true
  authenticationInstant : ∃ i ∈ x.authenticationInstant, 0 < (platform.atZone i).year
  authnContextClassRef : x.authnContextClassRef.isSome = true
  usedOnce : x.getAnyList.Nodup ∧ ∀ k ∈ x.getAnyList, k ∉ later

def AuthContextInfo.texts (x : AuthContextInfo E Instant) : List String :=
  x.identityProvider.toList ++ x.authnContextClassRef.toList ++ x.assertionRef.toList ++
    x.serviceID.toList

theorem AuthContextInfo.getAnyList_map (x : AuthContextInfo Key Instant) :
    (x.map g.tree).getAnyList = x.getAnyList.map g.tree := by
  unfold AuthContextInfo.getAnyList AuthContextInfo.map
  cases x.anyList <;> rfl

theorem AuthContextInfo.getAttributeValue_printed (x : AuthContextInfo Key Instant)
    {value : Option String} (hf : (name, value) ∈ x.fields platform)
    (hvalue : ∀ text ∈ value, text ≠ "") :
    getAttributeValue (x.printed platform g later) name = value := by
  have hnodup : ((x.fields platform).map Prod.fst).Nodup :=
    show [IDENTITY_PROVIDER, AUTHENTICATION_INSTANT, AUTHN_CONTEXT_CLASS_REF, ASSERTION_REF,
      SERVICE_ID].Nodup by decide
  exact getAttributeValue_fields hf hnodup hvalue

theorem AuthContextInfo.childElements_printed (x : AuthContextInfo Key Instant)
    (helements : ∀ k ∈ x.getAnyList, (g.tree k).isElement = true) :
    (x.printed platform g later).childElements = (kept x.getAnyList later).map g.tree := by
  refine List.filter_eq_self.mpr (List.forall_mem_map.mpr fun k hk => ?_)
  exact helements k (kept_sublist.subset hk)

/-- What the constructor requires of the element, and what it reads. -/
theorem AuthContextInfo.ofElement_printed_iff (htimes : platform.KeepsTimes)
    (x : AuthContextInfo Key Instant) (later : List Key) (htexts : ∀ s ∈ x.texts, s ≠ "")
    (helements : ∀ k ∈ x.getAnyList, (g.tree k).isElement = true)
    (y : AuthContextInfo Node Instant) :
    ofElement platform (x.printed platform g later) = .ok y ↔ ∃ time,
      parseTime platform (instantToString platform x.authenticationInstant) = .ok time ∧
        (x.identityProvider.isSome = true ∧ time.isSome = true ∧
          x.authnContextClassRef.isSome = true) ∧
        y = { identityProvider := x.identityProvider
              authenticationInstant := time
              authnContextClassRef := x.authnContextClassRef
              assertionRef := x.assertionRef
              serviceID := x.serviceID
              anyList := some ((kept x.getAnyList later).map g.tree) } := by
  have hread : ∀ {name value}, (name, value) ∈ x.fields platform →
      (∀ s ∈ value.toList, s ∈ x.texts) →
        getAttributeValue (x.printed platform g later) name = value := fun hf hsub =>
    x.getAttributeValue_printed hf fun text hmem =>
      htexts text (hsub text (Option.mem_toList.mpr hmem))
  have hprovider : getAttributeValue (x.printed platform g later) IDENTITY_PROVIDER =
      x.identityProvider := hread (by simp [fields]) fun s hs => by
    simp only [texts, List.mem_append]
    tauto
  have hclass : getAttributeValue (x.printed platform g later) AUTHN_CONTEXT_CLASS_REF =
      x.authnContextClassRef := hread (by simp [fields]) fun s hs => by
    simp only [texts, List.mem_append]
    tauto
  have hassertion : getAttributeValue (x.printed platform g later) ASSERTION_REF =
      x.assertionRef := hread (by simp [fields]) fun s hs => by
    simp only [texts, List.mem_append]
    tauto
  have hservice : getAttributeValue (x.printed platform g later) SERVICE_ID = x.serviceID :=
    hread (by simp [fields]) fun s hs => by
      simp only [texts, List.mem_append]
      tauto
  have hinstant : getAttributeValue (x.printed platform g later) AUTHENTICATION_INSTANT =
      instantToString platform x.authenticationInstant := by
    apply x.getAttributeValue_printed (by simp [fields])
    intro text hmem
    obtain ⟨i, -, rfl⟩ := Option.map_eq_some_iff.mp hmem
    exact htimes.notEmpty _
  unfold ofElement setValuesFromElement validate
  simp only [bind_ok_iff, hprovider, hinstant, hclass, hassertion, hservice,
    x.childElements_printed helements, required_ok_iff]
  constructor
  · rintro ⟨_, ⟨time, htime, ⟨⟩⟩, _, ⟨_, hsome, _, htimeSome, hclassSome⟩, ⟨⟩⟩
    exact ⟨time, htime, ⟨hsome, htimeSome, hclassSome⟩, rfl⟩
  · rintro ⟨time, htime, ⟨hsome, htimeSome, hclassSome⟩, rfl⟩
    exact ⟨_, ⟨time, htime, rfl⟩, (), ⟨(), hsome, (), htimeSome, hclassSome⟩, rfl⟩

theorem AuthContextInfo.same_printed_iff (htimes : platform.KeepsTimes)
    (x : AuthContextInfo Key Instant) (htexts : ∀ s ∈ x.texts, s ≠ "")
    (hmillis : ∀ i ∈ x.authenticationInstant, (platform.atZone i).nano % 1000000 = 0)
    (helements : ∀ k ∈ x.getAnyList, (g.tree k).isElement = true) :
    (∃ y, ofElement platform (x.printed platform g later) = .ok y ∧ (x.map g.tree).Same y) ↔
      x.ReadsBack platform later := by
  have hok := x.ofElement_printed_iff htimes later htexts helements
  constructor
  · rintro ⟨y, hy, -, htime', -, -, -, hany⟩
    obtain ⟨time, htime, ⟨hsome, htimeSome, hclassSome⟩, rfl⟩ := (hok y).mp hy
    obtain ⟨i, rfl⟩ := Option.isSome_iff_exists.mp htimeSome
    have htime' : x.authenticationInstant = some i := htime'
    rw [htime'] at htime hmillis
    have hlength := congrArg List.length (x.getAnyList_map.symm.trans hany)
    rw [List.length_map] at hlength
    have hkept : kept x.getAnyList later = x.getAnyList :=
      kept_sublist.eq_of_length_le (hlength.trans (List.length_map _)).le
    refine ⟨hsome, ⟨i, htime', ?_⟩, hclassSome, kept_eq_self_iff.mp hkept⟩
    exact (parseTime_instantToString_iff htimes (hmillis i rfl)).mp htime
  · intro hreads
    obtain ⟨i, hi, hyear⟩ := hreads.authenticationInstant
    have hi : x.authenticationInstant = some i := hi
    refine ⟨_, (hok _).mpr ⟨some i, ?_, ⟨hreads.identityProvider, rfl,
      hreads.authnContextClassRef⟩, rfl⟩, rfl, hi, rfl, rfl, rfl, ?_⟩
    · rw [hi]
      exact (parseTime_instantToString_iff htimes (hmillis i hi)).mpr hyear
    · exact x.getAnyList_map.trans
        (congrArg (List.map g.tree) (kept_eq_self_iff.mpr hreads.usedOnce)).symm

end SigVal.Extensions.Saci
