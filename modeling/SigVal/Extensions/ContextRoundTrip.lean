import SigVal.Extensions.ReadingBack

/-!
# Round trips of authentication contexts

A value comes back from its printed document exactly when printing leaves its elements as
they are, every node of it is used once, and the searches of the reader find nothing but what
was printed.
-/

namespace SigVal.Extensions.Saci

open SigVal.Java SigVal.Dom SigVal.Dom.Node SigVal.SharedDom SigVal.SharedDom.Heap

variable {E A E' A' Instant : Type} {platform : Platform Instant} {strictMode formatted : Bool}
  {g h h' : Heap} {later : List Key} {name : String}

/-! ## The whole document -/

def SAMLAuthContext.texts (x : SAMLAuthContext E A Instant) : List String :=
  (x.authContextInfo.map AuthContextInfo.texts).getD [] ++
    (x.idAttributes.map IdAttributes.texts).getD []

/-- The extension elements of the information about the authentication. -/
def SAMLAuthContext.extensions (x : SAMLAuthContext E A Instant) : List E :=
  (x.authContextInfo.map AuthContextInfo.getAnyList).getD []

/-- What a value must be so that it is read back. Where the extension elements have an
`IdAttributes` among them or below, that one is read, and it must say the same. -/
structure SAMLAuthContext.ReadsBack (platform : Platform Instant) (strictMode : Bool)
    (x : SAMLAuthContext Key Key Instant) (g : Heap) : Prop where
  authContextInfo : ∀ info ∈ x.authContextInfo,
    info.ReadsBack platform ((x.idAttributes.map IdAttributes.moved).getD [])
  noAuthContextInfo : x.authContextInfo = none → ∀ ids ∈ x.idAttributes,
    named SACI_NS AUTH_CONTEXT_INFO_ELEMENT
      ((placedMappings [] ids.getAttributeMappings).map g.tree) = []
  idAttributes : named SACI_NS ID_ATTRIBUTES_ELEMENT (x.extensions.map g.tree) = [] →
    ∀ ids ∈ x.idAttributes, ids.ReadsBack strictMode g []
  otherIdAttributes : ∀ e,
    (named SACI_NS ID_ATTRIBUTES_ELEMENT (x.extensions.map g.tree)).head? = some e →
      ∃ ids ∈ x.idAttributes, ∃ y, IdAttributes.ofElement strictMode e = .ok y ∧
        (ids.map g.tree g.attrOf).Same y

/-- An optional part is read back when there is an element for it exactly if it is there. -/
theorem exists_mapM_rel_iff {α β γ : Type} {f : α → Outcome β} {R : γ → β → Prop}
    {element : Option α} {value : Option γ} :
    (∃ r, element.mapM f = .ok r ∧ Option.Rel R value r) ↔
      (element = none ∧ value = none) ∨
        ∃ e a, element = some e ∧ value = some a ∧ ∃ y, f e = .ok y ∧ R a y := by
  cases element with
  | none =>
      constructor
      · rintro ⟨_, ⟨⟩, hrel⟩
        cases hrel
        exact .inl ⟨rfl, rfl⟩
      · rintro (⟨-, rfl⟩ | ⟨_, _, ⟨⟩, -⟩)
        exact ⟨none, rfl, .none⟩
  | some e =>
      simp only [option_mapM_some_ok_iff]
      constructor
      · rintro ⟨_, ⟨y, hy, rfl⟩, hrel⟩
        cases hrel with
        | some hrel => exact .inr ⟨e, _, rfl, rfl, y, hy, hrel⟩
      · rintro (⟨⟨⟩, -⟩ | ⟨_, a, ⟨⟩, rfl, y, hy, hrel⟩)
        exact ⟨some y, ⟨y, hy, rfl⟩, .some hrel⟩

theorem SAMLAuthContext.same_read_iff {root : Node} {x : SAMLAuthContext Node Attr Instant}
    (hroot : root.namespaceURI = SACI_NS) :
    (∃ y, ofDocument platform strictMode root = .ok y ∧ x.Same y) ↔
      (∃ info, (getSingleElement root SACI_NS AUTH_CONTEXT_INFO_ELEMENT).mapM
          (AuthContextInfo.ofElement platform) = .ok info ∧
        Option.Rel AuthContextInfo.Same x.authContextInfo info) ∧
      ∃ ids, (getSingleElement root SACI_NS ID_ATTRIBUTES_ELEMENT).mapM
          (IdAttributes.ofElement strictMode) = .ok ids ∧
        Option.Rel IdAttributes.Same x.idAttributes ids := by
  simp only [AuthnContext.ofDocument_ok_iff, setValuesFromElement, bind_ok_iff]
  constructor
  · rintro ⟨_, ⟨⟨info, hinfo, ids, hids, ⟨⟩⟩, -⟩, hsame, hsame'⟩
    exact ⟨⟨info, hinfo, hsame⟩, ids, hids, hsame'⟩
  · rintro ⟨⟨info, hinfo, hsame⟩, ids, hids, hsame'⟩
    exact ⟨⟨info, ids⟩, ⟨⟨info, hinfo, ids, hids, rfl⟩, .inl hroot⟩, hsame, hsame'⟩

section Root

variable (x : SAMLAuthContext Key Key Instant)

/-- What a search for the information about the authentication finds. -/
theorem SAMLAuthContext.getSingleElement_authContextInfo :
    getSingleElement (x.printed platform g) SACI_NS AUTH_CONTEXT_INFO_ELEMENT =
      match x.authContextInfo with
      | some info =>
          some (info.printed platform g ((x.idAttributes.map IdAttributes.moved).getD []))
      | none => (x.idAttributes.bind fun ids => (named SACI_NS AUTH_CONTEXT_INFO_ELEMENT
          ((placedMappings [] ids.getAttributeMappings).map g.tree)).head?) := by
  unfold getSingleElement
  rw [getElementsByTagNameNS_eq, printed, childNodes, named_append]
  cases x.authContextInfo with
  | some info =>
      have hown : (info.printed platform g
          ((x.idAttributes.map IdAttributes.moved).getD [])).hasName
            SACI_NS AUTH_CONTEXT_INFO_ELEMENT = true := info.hasName_printed.trans (by decide)
      rw [Option.map_some, Option.toList_some, named_cons, if_pos hown]
      rfl
  | none =>
      rw [Option.map_none, Option.toList_none, named_nil, List.nil_append]
      cases x.idAttributes with
      | none => rfl
      | some ids =>
          have hother : (ids.printed g []).hasName SACI_NS AUTH_CONTEXT_INFO_ELEMENT = false :=
            ids.hasName_printed.trans (by decide)
          rw [Option.map_some, Option.toList_some, named_cons, if_neg (by rw [hother]; decide),
            named_nil, List.nil_append, List.append_nil, getElementsByTagNameNS_eq,
            IdAttributes.printed, childNodes, named_printedMappings _ (by decide)]
          rfl

/-- What a search for the mappings finds: one in the extension elements, or the own one. -/
theorem SAMLAuthContext.getSingleElement_idAttributes :
    getSingleElement (x.printed platform g) SACI_NS ID_ATTRIBUTES_ELEMENT =
      ((named SACI_NS ID_ATTRIBUTES_ELEMENT ((x.authContextInfo.map fun info =>
        (kept info.getAnyList ((x.idAttributes.map IdAttributes.moved).getD [])).map
          g.tree).getD [])).head?.or (x.idAttributes.map fun ids => ids.printed g [])) := by
  unfold getSingleElement
  rw [getElementsByTagNameNS_eq, printed, childNodes, named_append, List.head?_append]
  refine congrArg₂ _ (congrArg _ ?_) ?_
  · cases x.authContextInfo with
    | none => rfl
    | some info =>
        have hother : (info.printed platform g
            ((x.idAttributes.map IdAttributes.moved).getD [])).hasName
              SACI_NS ID_ATTRIBUTES_ELEMENT = false := info.hasName_printed.trans (by decide)
        rw [Option.map_some, Option.toList_some, named_cons, if_neg (by rw [hother]; decide),
          named_nil, List.nil_append, List.append_nil, getElementsByTagNameNS_eq]
        rfl
  · cases x.idAttributes with
    | none => rfl
    | some ids =>
        have hown : (ids.printed g []).hasName SACI_NS ID_ATTRIBUTES_ELEMENT = true :=
          ids.hasName_printed.trans (by decide)
        rw [Option.map_some, Option.toList_some, named_cons, if_pos hown]
        rfl

/-- The elements of a value. -/
def AttributeMapping.elements (x : AttributeMapping E A) : List E :=
  (x.samlAttribute.map Attribute.getAttributeValues).getD [] ++ x.getAnyList

def IdAttributes.elements (x : IdAttributes E A) : List E :=
  x.getAttributeMappings.flatMap AttributeMapping.elements

def SAMLAuthContext.elements (x : SAMLAuthContext E A Instant) : List E :=
  x.extensions ++ (x.idAttributes.map IdAttributes.elements).getD []

section Parts

variable {x} (hcomplete : x.Complete) (htexts : ∀ s ∈ x.texts, s ≠ "")
  (helements : ∀ k ∈ x.elements, (g.tree k).isElement = true)
include htexts helements

/-- The information about the authentication is read back, or nothing is taken for it. -/
theorem SAMLAuthContext.authContextInfo_read_iff (htimes : platform.KeepsTimes)
    (hmillis : ∀ info ∈ x.authContextInfo, ∀ i ∈ info.authenticationInstant,
      (platform.atZone i).nano % 1000000 = 0) :
    (∃ info, (getSingleElement (x.printed platform g) SACI_NS AUTH_CONTEXT_INFO_ELEMENT).mapM
        (AuthContextInfo.ofElement platform) = .ok info ∧
      Option.Rel AuthContextInfo.Same (x.map g.tree g.attrOf).authContextInfo info) ↔
      (∀ info ∈ x.authContextInfo, info.ReadsBack platform
        ((x.idAttributes.map IdAttributes.moved).getD [])) ∧
      (x.authContextInfo = none → ∀ ids ∈ x.idAttributes, named SACI_NS AUTH_CONTEXT_INFO_ELEMENT
        ((placedMappings [] ids.getAttributeMappings).map g.tree) = []) := by
  have hmap : (x.map g.tree g.attrOf).authContextInfo =
      x.authContextInfo.map (AuthContextInfo.map g.tree) := rfl
  rw [x.getSingleElement_authContextInfo, exists_mapM_rel_iff, hmap]
  cases hi : x.authContextInfo with
  | some info =>
      have hread : (∃ y, AuthContextInfo.ofElement platform (info.printed platform g
          ((x.idAttributes.map IdAttributes.moved).getD [])) = .ok y ∧ (info.map g.tree).Same y) ↔
            info.ReadsBack platform ((x.idAttributes.map IdAttributes.moved).getD []) := by
        refine info.same_printed_iff htimes (fun s hs => htexts s ?_) (hmillis info hi)
          fun k hk => helements k ?_
        · rw [texts, hi]
          exact List.mem_append_left _ hs
        · rw [elements, extensions, hi]
          exact List.mem_append_left _ hk
      rw [Option.map_some]
      refine Iff.trans ⟨?_, fun h => .inr ⟨_, _, rfl, rfl, h⟩⟩ (hread.trans ⟨?_, ?_⟩)
      · rintro (⟨⟨⟩, -⟩ | ⟨_, _, ⟨⟩, ⟨⟩, h⟩)
        exact h
      · exact fun h => ⟨by rintro _ ⟨⟩; exact h, nofun⟩
      · exact fun h => h.1 info rfl
  | none =>
      rw [Option.map_none]
      constructor
      · rintro (⟨hnone, -⟩ | ⟨_, _, -, ⟨⟩, -⟩)
        refine ⟨nofun, fun _ ids hids => List.head?_eq_none_iff.mp ?_⟩
        exact Option.bind_eq_none_iff.mp hnone ids hids
      · rintro ⟨-, hnone⟩
        refine .inl ⟨Option.bind_eq_none_iff.mpr fun ids hids => ?_, rfl⟩
        exact List.head?_eq_none_iff.mpr (hnone rfl ids hids)

include hcomplete

/-- The mappings are read back, or those in the extension elements say the same. -/
theorem SAMLAuthContext.idAttributes_read_iff (platform : Platform Instant) (strictMode : Bool)
    (hkept : (x.authContextInfo.map fun info => (kept info.getAnyList
      ((x.idAttributes.map IdAttributes.moved).getD [])).map g.tree).getD [] =
        x.extensions.map g.tree) :
    (∃ ids, (getSingleElement (x.printed platform g) SACI_NS ID_ATTRIBUTES_ELEMENT).mapM
        (IdAttributes.ofElement strictMode) = .ok ids ∧
      Option.Rel IdAttributes.Same (x.map g.tree g.attrOf).idAttributes ids) ↔
      (named SACI_NS ID_ATTRIBUTES_ELEMENT (x.extensions.map g.tree) = [] →
        ∀ ids ∈ x.idAttributes, ids.ReadsBack strictMode g []) ∧
      ∀ e, (named SACI_NS ID_ATTRIBUTES_ELEMENT (x.extensions.map g.tree)).head? = some e →
        ∃ ids ∈ x.idAttributes, ∃ y, IdAttributes.ofElement strictMode e = .ok y ∧
          (ids.map g.tree g.attrOf).Same y := by
  have hmap : (x.map g.tree g.attrOf).idAttributes =
      x.idAttributes.map (IdAttributes.map g.tree g.attrOf) := rfl
  rw [x.getSingleElement_idAttributes, exists_mapM_rel_iff, hkept, hmap]
  cases hsearch : (named SACI_NS ID_ATTRIBUTES_ELEMENT (x.extensions.map g.tree)).head? with
  | some e =>
      have hne : named SACI_NS ID_ATTRIBUTES_ELEMENT (x.extensions.map g.tree) ≠ [] := by
        intro hnil
        rw [hnil] at hsearch
        cases hsearch
      constructor
      · rintro (⟨⟨⟩, -⟩ | ⟨_, _, ⟨⟩, hsome, h⟩)
        obtain ⟨ids, hids, rfl⟩ := Option.map_eq_some_iff.mp hsome
        refine ⟨fun hnil => (hne hnil).elim, ?_⟩
        rintro _ ⟨⟩
        exact ⟨ids, hids, h⟩
      · rintro ⟨-, hother⟩
        obtain ⟨ids, hids, h⟩ := hother e rfl
        exact .inr ⟨e, _, rfl, Option.map_eq_some_iff.mpr ⟨ids, hids, rfl⟩, h⟩
  | none =>
      have hnil := List.head?_eq_none_iff.mp hsearch
      rw [Option.none_or]
      cases hi : x.idAttributes with
      | none => exact iff_of_true (.inl ⟨rfl, rfl⟩) ⟨fun _ => nofun, nofun⟩
      | some ids =>
          have hread : (∃ y, IdAttributes.ofElement strictMode (ids.printed g []) = .ok y ∧
              (ids.map g.tree g.attrOf).Same y) ↔ ids.ReadsBack strictMode g [] := by
            refine ids.same_printed_iff (hcomplete ids hi) (fun s hs => htexts s ?_)
              fun m hm k hk => helements k ?_
            · rw [texts, hi]
              exact List.mem_append_right _ hs
            · rw [elements, hi]
              exact List.mem_append_right _
                (List.mem_flatMap.mpr ⟨m, hm, List.mem_append_right _ hk⟩)
          simp only [Option.map_some]
          refine Iff.trans ⟨?_, fun h => .inr ⟨_, _, rfl, rfl, h⟩⟩ (hread.trans ⟨?_, ?_⟩)
          · rintro (⟨⟨⟩, -⟩ | ⟨_, _, ⟨⟩, ⟨⟩, h⟩)
            exact h
          · exact fun h => ⟨fun _ => by rintro _ ⟨⟩; exact h, nofun⟩
          · exact fun h => h.1 hnil ids rfl

/-- **Reading the document.** -/
theorem SAMLAuthContext.same_printed_iff (strictMode : Bool) (htimes : platform.KeepsTimes)
    (hmillis : ∀ info ∈ x.authContextInfo, ∀ i ∈ info.authenticationInstant,
      (platform.atZone i).nano % 1000000 = 0) :
    (∃ y, ofDocument platform strictMode (x.printed platform g) = .ok y ∧
        (x.map g.tree g.attrOf).Same y) ↔ x.ReadsBack platform strictMode g := by
  -- what is kept of the extension elements, when the first part is read back
  have hkept : (∀ info ∈ x.authContextInfo, info.ReadsBack platform
      ((x.idAttributes.map IdAttributes.moved).getD [])) →
        (x.authContextInfo.map fun info => (kept info.getAnyList
          ((x.idAttributes.map IdAttributes.moved).getD [])).map g.tree).getD [] =
            x.extensions.map g.tree := by
    intro hreads
    rw [extensions]
    cases hi : x.authContextInfo with
    | none => rfl
    | some info => exact congrArg _ (kept_eq_self_iff.mpr (hreads info hi).usedOnce)
  have hinfo := authContextInfo_read_iff htexts helements htimes hmillis
  have hids := fun hreads =>
    idAttributes_read_iff hcomplete htexts helements platform strictMode (hkept hreads)
  rw [same_read_iff rfl]
  constructor
  · rintro ⟨hfirst, hsecond⟩
    obtain ⟨hreads, hnone⟩ := hinfo.mp hfirst
    obtain ⟨hown, hother⟩ := (hids hreads).mp hsecond
    exact ⟨hreads, hnone, hown, hother⟩
  · intro h
    exact ⟨hinfo.mpr ⟨h.authContextInfo, h.noAuthContextInfo⟩,
      (hids h.authContextInfo).mpr ⟨h.idAttributes, h.otherIdAttributes⟩⟩

end Parts

end Root

/-! ## What is seen of a value -/

section Seen

variable {f f' : E → E'} {a a' : A → A'}

theorem map_eq_map_iff {α β : Type} {f f' : α → β} {value : Option α} :
    value.map f' = value.map f ↔ ∀ x ∈ value, f' x = f x := by
  cases value with
  | none => exact iff_of_true rfl nofun
  | some x =>
      rw [Option.map_some, Option.map_some, Option.some.injEq]
      exact ⟨fun h => by rintro _ ⟨⟩; exact h, fun h => h x rfl⟩

theorem map_list_eq_iff {α β : Type} {f f' : α → β} {list : Option (List α)} :
    list.map (List.map f') = list.map (List.map f) ↔ ∀ x ∈ list.getD [], f' x = f x := by
  rw [map_eq_map_iff]
  cases list with
  | none => exact iff_of_true nofun nofun
  | some l =>
      rw [Option.getD_some, ← List.map_inj_left]
      exact ⟨fun h => h l rfl, fun h => by rintro _ ⟨⟩; exact h⟩

theorem Attribute.map_eq_iff {x : Attribute E A} :
    x.map f' a' = x.map f a ↔
      (∀ k ∈ x.getAttributeValues, f' k = f k) ∧ ∀ k ∈ x.getAnyAttrList, a' k = a k := by
  unfold map
  rw [Attribute.mk.injEq, map_list_eq_iff, map_list_eq_iff]
  exact ⟨fun h => ⟨h.2.2.2.2, h.2.2.2.1⟩, fun h => ⟨rfl, rfl, rfl, h.2, h.1⟩⟩

/-- The attribute nodes of a value. -/
def AttributeMapping.attrs (x : AttributeMapping E A) : List A :=
  (x.samlAttribute.map Attribute.getAnyAttrList).getD []

def IdAttributes.attrs (x : IdAttributes E A) : List A :=
  x.getAttributeMappings.flatMap AttributeMapping.attrs

def SAMLAuthContext.attrs (x : SAMLAuthContext E A Instant) : List A :=
  (x.idAttributes.map IdAttributes.attrs).getD []

theorem AttributeMapping.map_eq_iff {x : AttributeMapping E A} :
    x.map f' a' = x.map f a ↔ (∀ k ∈ x.elements, f' k = f k) ∧ ∀ k ∈ x.attrs, a' k = a k := by
  unfold map elements attrs
  rw [AttributeMapping.mk.injEq, map_list_eq_iff, map_eq_map_iff, List.forall_mem_append]
  cases x.samlAttribute with
  | none => exact ⟨fun h => ⟨⟨nofun, h.2.2.2⟩, nofun⟩, fun h => ⟨rfl, rfl, nofun, h.1.2⟩⟩
  | some samlAttribute =>
      have hself : (∀ y ∈ some samlAttribute, y.map f' a' = y.map f a) ↔
          samlAttribute.map f' a' = samlAttribute.map f a :=
        ⟨fun h => h samlAttribute rfl, fun h => by rintro _ ⟨⟩; exact h⟩
      rw [hself, Attribute.map_eq_iff]
      exact ⟨fun h => ⟨⟨h.2.2.1.1, h.2.2.2⟩, h.2.2.1.2⟩,
        fun h => ⟨rfl, rfl, ⟨h.1.1, h.2⟩, h.1.2⟩⟩

theorem IdAttributes.map_eq_iff {x : IdAttributes E A} :
    x.map f' a' = x.map f a ↔ (∀ k ∈ x.elements, f' k = f k) ∧ ∀ k ∈ x.attrs, a' k = a k := by
  unfold map elements attrs
  rw [IdAttributes.mk.injEq, map_list_eq_iff]
  simp only [AttributeMapping.map_eq_iff, List.forall_mem_flatMap, forall_and]
  rfl

theorem AuthContextInfo.map_eq_iff {x : AuthContextInfo E Instant} :
    x.map f' = x.map f ↔ ∀ k ∈ x.getAnyList, f' k = f k := by
  unfold map
  rw [AuthContextInfo.mk.injEq, map_list_eq_iff]
  exact ⟨fun h => h.2.2.2.2.2, fun h => ⟨rfl, rfl, rfl, rfl, rfl, h⟩⟩

theorem SAMLAuthContext.map_eq_iff {x : SAMLAuthContext E A Instant} :
    x.map f' a' = x.map f a ↔ (∀ k ∈ x.elements, f' k = f k) ∧ ∀ k ∈ x.attrs, a' k = a k := by
  unfold map elements attrs extensions
  rw [SAMLAuthContext.mk.injEq, map_eq_map_iff, map_eq_map_iff, List.forall_mem_append, and_assoc]
  refine and_congr ?_ ?_
  · simp only [AuthContextInfo.map_eq_iff]
    cases x.authContextInfo <;> simp
  · simp only [IdAttributes.map_eq_iff]
    cases x.idAttributes <;> simp

end Seen

/-! What is printed depends on what is seen. -/

theorem Attribute.printed_congr {x : Attribute Key Key}
    (hseen : x.map h'.tree h'.attrOf = x.map h.tree h.attrOf) :
    x.printed h' later = x.printed h later := by
  obtain ⟨htree, hattrOf⟩ := map_eq_iff.mp hseen
  have hnames : ∀ k ∈ x.getAnyAttrList, (h'.attrOf k).1 = (h.attrOf k).1 := fun k hk =>
    congrArg Prod.fst (hattrOf k hk)
  unfold printed
  dsimp only
  rw [keptAttributes_congr hnames, List.map_congr_left hnames]
  refine congrArg₂ _ (congrArg _ (List.map_congr_left fun k hk => hattrOf k ?_))
    (List.map_congr_left fun k hk => htree k (kept_sublist.subset hk))
  exact (keptAttributes_sublist _ _).subset (List.mem_filter.mp hk).1

theorem AttributeMapping.printed_congr {x : AttributeMapping Key Key}
    (hseen : x.map h'.tree h'.attrOf = x.map h.tree h.attrOf) :
    x.printed h' later = x.printed h later := by
  have hattribute := (AttributeMapping.mk.injEq .. ▸ hseen).2.2.1
  have htree := (map_eq_iff.mp hseen).1
  unfold printed
  refine congrArg₂ _ rfl (congrArg₂ _ (congrArg _ ?_) (List.map_congr_left fun k hk => ?_))
  · exact map_eq_map_iff.mpr fun y hy => Attribute.printed_congr (map_eq_map_iff.mp hattribute y hy)
  · exact htree k (List.mem_append_right _ (kept_sublist.subset hk))

theorem printedMappings_congr {l : List (AttributeMapping Key Key)}
    (hseen : ∀ x ∈ l, x.map h'.tree h'.attrOf = x.map h.tree h.attrOf) :
    printedMappings h' later l = printedMappings h later l := by
  induction l with
  | nil => rfl
  | cons x rest ih =>
      obtain ⟨hx, hrest⟩ := List.forall_mem_cons.mp hseen
      rw [printedMappings, printedMappings, ih hrest, AttributeMapping.printed_congr hx]

theorem SAMLAuthContext.printed_congr {x : SAMLAuthContext Key Key Instant}
    (hseen : x.content h' = x.content h) : x.printed platform h' = x.printed platform h := by
  have hinfo := (SAMLAuthContext.mk.injEq .. ▸ hseen).1
  have hids := (SAMLAuthContext.mk.injEq .. ▸ hseen).2
  unfold printed
  refine congrArg _ (congrArg₂ _ (congrArg _ ?_) (congrArg _ ?_))
  · refine map_eq_map_iff.mpr fun info hsome => congrArg _ (List.map_congr_left fun k hk => ?_)
    exact AuthContextInfo.map_eq_iff.mp (map_eq_map_iff.mp hinfo info hsome) k
      (kept_sublist.subset hk)
  · refine map_eq_map_iff.mpr fun ids hsome => congrArg _ (printedMappings_congr fun m hm => ?_)
    have hmappings := (IdAttributes.mk.injEq .. ▸ map_eq_map_iff.mp hids ids hsome)
    exact map_list_eq_iff.mp hmappings m hm

/-! Printing moves the elements and the attributes of a value. -/

theorem AttributeMapping.mem_moved_iff {x : AttributeMapping Key Key} {k : Key} :
    k ∈ x.moved ↔ k ∈ x.elements ∨ k ∈ x.attrs := by
  unfold moved elements attrs Attribute.moved
  cases x.samlAttribute with
  | none => simp
  | some samlAttribute =>
      simp only [Option.map_some, Option.getD_some, List.mem_append]
      tauto

theorem SAMLAuthContext.mem_moved_iff {x : SAMLAuthContext Key Key Instant} {k : Key} :
    k ∈ x.moved ↔ k ∈ x.elements ∨ k ∈ x.attrs := by
  unfold moved elements attrs extensions
  rw [List.mem_append, List.mem_append, or_assoc]
  apply or_congr_right
  cases x.idAttributes with
  | none => simp
  | some ids =>
      simp only [Option.map_some, Option.getD_some, IdAttributes.moved, IdAttributes.elements,
        IdAttributes.attrs, List.mem_flatMap, AttributeMapping.mem_moved_iff, and_or_left,
        exists_or]

/-! ## Round trips -/

/-- The text of a document. -/
def Platform.docText (platform : Platform Instant) (formatted : Bool) (root : Node) : String :=
  if formatted then platform.getStyledDocText root else platform.getCanonicalDocText root

/-- A value whose elements and attributes are there, with instants in milliseconds and texts
that are not empty. -/
structure SAMLAuthContext.Valued (platform : Platform Instant) (h : Heap)
    (x : SAMLAuthContext Key Key Instant) : Prop where
  elements : ∀ k ∈ x.elements, k < h.nextKey ∧ (h.cell k).isElement = true
  attrs : ∀ k ∈ x.attrs, k < h.nextKey ∧ (h.cell k).isAttr = true
  texts : ∀ s ∈ x.texts, s ≠ ""
  millis : ∀ info ∈ x.authContextInfo, ∀ i ∈ info.authenticationInstant,
    (platform.atZone i).nano % 1000000 = 0

/-- Parsing the printed text gives the same content, and printing leaves the content as it is
and gives the same text a second time. -/
def SAMLAuthContext.RoundTrips (platform : Platform Instant) (strictMode formatted : Bool)
    (h : Heap) (x : SAMLAuthContext Key Key Instant) : Prop :=
  ∃ text h', (printAuthnContext platform x formatted).run h = (.ok text, h') ∧
    x.content h' = x.content h ∧
    (∃ h'', (printAuthnContext platform x formatted).run h' = (.ok text, h'')) ∧
    ∃ y, AuthnContext.getAuthnContext platform text strictMode = .ok y ∧ (x.content h).Same y

theorem printAuthnContext_ok_iff {x : SAMLAuthContext Key Key Instant} {text : String} :
    (printAuthnContext platform x formatted).run h = (.ok text, h') ↔
      ∃ root, (x.getDocument platform).run h = (.ok root, h') ∧
        text = platform.docText formatted (h'.tree root) := by
  unfold printAuthnContext Platform.docText
  rw [Mutating.run_bind_ok_iff]
  constructor
  · rintro ⟨root, t, hrun, ⟨⟩⟩
    exact ⟨root, hrun, rfl⟩
  · rintro ⟨root, hrun, rfl⟩
    exact ⟨root, h', hrun, rfl⟩

theorem getAuthnContext_docText_iff {root : Node} {y : SAMLAuthContext Node Attr Instant}
    (hfaithful : platform.getDocument (platform.docText formatted root) = .ok root) :
    AuthnContext.getAuthnContext platform (platform.docText formatted root) strictMode = .ok y ↔
      SAMLAuthContext.ofDocument platform strictMode root = .ok y := by
  rw [AuthnContext.getAuthnContext_ok_iff, AuthnContext.ofDocument_ok_iff, hfaithful]
  constructor
  · rintro ⟨_, ⟨⟩, hroot, hread⟩
    exact ⟨hread, hroot⟩
  · rintro ⟨hread, hroot⟩
    exact ⟨root, rfl, hroot, hread⟩

section Valued

variable {x : SAMLAuthContext Key Key Instant} (hvalued : x.Valued platform h)
include hvalued

theorem SAMLAuthContext.Valued.lt_nextKey : ∀ k ∈ x.moved, k < h.nextKey := by
  intro k hk
  rcases mem_moved_iff.mp hk with hk | hk
  · exact (hvalued.elements k hk).1
  · exact (hvalued.attrs k hk).1

/-- A move changes the content of a value when it takes something out of its elements. -/
theorem SAMLAuthContext.Valued.content_eq_iff {l : List Key} (wf : h.WellFormed)
    (hmoved : Moved h.nextKey l h h') :
    x.content h' = x.content h ↔ ∀ k ∈ x.elements, ∀ m ∈ l, ¬ h.Inside k m := by
  unfold content
  rw [map_eq_iff, and_iff_left fun k hk => hmoved.attrOf (hvalued.attrs k hk).1]
  exact forall₂_congr fun k hk => hmoved.tree_eq_iff wf.closed (hvalued.elements k hk).1

theorem SAMLAuthContext.Valued.isElement_tree : ∀ k ∈ x.elements, (h.tree k).isElement = true := by
  intro k hk
  obtain ⟨hlt, helement⟩ := hvalued.elements k hk
  obtain ⟨n, hn⟩ : ∃ n, h.nextKey = n + 1 :=
    Nat.exists_eq_succ_of_ne_zero (Nat.ne_zero_of_lt hlt)
  unfold Heap.tree
  cases hcell : h.cell k with
  | element ns name attributes children =>
      rw [hn, unfold_element hcell]
      rfl
  | attr name value =>
      rw [hcell] at helement
      cases helement
  | text value =>
      rw [hcell] at helement
      cases helement

/-- A value that printing leaves as it is has the same document every time. -/
theorem SAMLAuthContext.Valued.printed_twice (wf : h.WellFormed) (hcomplete : x.Complete)
    (hmoved : Moved h.nextKey x.moved h h') (hlinked : h'.Linked)
    (hnot : ∀ k ∈ x.elements, ∀ m ∈ x.moved, ¬ h.Inside k m) :
    ∃ root h'', (x.getDocument platform).run h' = (.ok root, h'') ∧
      h''.tree root = x.printed platform h := by
  have hagain := wp_getDocument platform x hlinked (hmoved.closed wf.closed)
    hvalued.lt_nextKey
  cases hrun : (x.getDocument platform).run h' with
  | mk r h'' =>
      cases r with
      | error e => exact (Mutating.of_run_error hagain hrun hcomplete).elim
      | ok root =>
          obtain ⟨hprinted, -⟩ := Mutating.of_run_ok hagain hrun
          refine ⟨root, h'', rfl, hprinted.tree.trans (printed_congr ?_)⟩
          have hboth := hmoved.trans (hprinted.frame.mono hmoved.le)
          rw [hvalued.content_eq_iff wf hboth]
          exact fun k hk m hm => hnot k hk m ((List.mem_append.mp hm).elim id id)

end Valued

/-! A document with an extension element and an attribute value, where the value can have
another attribute value in it. -/

def valueHeap (children : List Key) : Heap where
  cell
    | 0 => .element "urn:example" "Extension" [] []
    | 1 => .element SAML_ASSERTION_NS ATTRIBUTE_VALUE_ELEMENT [] children
    | 2 => .text "196301234567"
    | 3 => .element SAML_ASSERTION_NS ATTRIBUTE_VALUE_ELEMENT [] []
    | _ => .text ""
  nextKey := 4

def loginTime : OffsetDateTime := ⟨2024, 5, 1, 12, 0, 0, 0, 0⟩

def login : SAMLAuthContext Key Key Unit where
  authContextInfo := some
    { identityProvider := some "https://idp.example.com"
      authenticationInstant := some ()
      authnContextClassRef := some "http://id.elegnamnden.se/loa/1.0/loa3"
      anyList := some [0] }
  idAttributes := some
    { attributeMappings := some
        [{ type := some .rdn
           ref := some "2.5.4.5"
           samlAttribute := some
             { name := some "urn:oid:1.2.752.29.4.13", attributeValues := some [1] } }] }

def loginDocument (extension value : Node) : Node :=
  .element SACI_NS SAML_AUTH_CONTEXT_ELEMENT []
    [.element SACI_NS AUTH_CONTEXT_INFO_ELEMENT
      [(IDENTITY_PROVIDER, "https://idp.example.com"),
        (AUTHENTICATION_INSTANT, "2024-05-01T12:00:00.000Z"),
        (AUTHN_CONTEXT_CLASS_REF, "http://id.elegnamnden.se/loa/1.0/loa3")]
      [extension],
    .element SACI_NS ID_ATTRIBUTES_ELEMENT []
      [.element SACI_NS ATTRIBUTE_MAPPING_ELEMENT [(TYPE, "rdn"), (REF, "2.5.4.5")]
        [.element SAML_ASSERTION_NS ATTRIBUTE_ELEMENT [(NAME, "urn:oid:1.2.752.29.4.13")]
          [value]]]]

def beforeValue : String :=
  "<SAMLAuthContext xmlns=\"http://id.elegnamnden.se/auth-cont/1.0/saci\"><AuthContextInfo " ++
  "AuthenticationInstant=\"2024-05-01T12:00:00.000Z\" " ++
  "AuthnContextClassRef=\"http://id.elegnamnden.se/loa/1.0/loa3\" " ++
  "IdentityProvider=\"https://idp.example.com\"><Extension xmlns=\"urn:example\"/>" ++
  "</AuthContextInfo><IdAttributes><AttributeMapping Ref=\"2.5.4.5\" Type=\"rdn\">" ++
  "<Attribute xmlns=\"urn:oasis:names:tc:SAML:2.0:assertion\" " ++
  "Name=\"urn:oid:1.2.752.29.4.13\"><AttributeValue>"

def afterValue : String :=
  "</AttributeValue></Attribute></AttributeMapping></IdAttributes></SAMLAuthContext>"

def loginText (value : String) : String := beforeValue ++ value ++ afterValue

def extensionElement : Node := .element "urn:example" "Extension" [] []

def attributeValue (content : Node) : Node :=
  .element SAML_ASSERTION_NS ATTRIBUTE_VALUE_ELEMENT [] [content]

def innerValue : Node := .element SAML_ASSERTION_NS ATTRIBUTE_VALUE_ELEMENT [] []

def textDocument : Node := loginDocument extensionElement (attributeValue (.text "196301234567"))

def innerDocument : Node := loginDocument extensionElement (attributeValue innerValue)

/-- A parser for the documents with a text and with an inner value. -/
def parseLogin (text : String) : Outcome Node :=
  if text = loginText "196301234567" then .ok textDocument
  else if text = loginText "<AttributeValue/>" then .ok innerDocument
  else .error ⟨.parse, "Content is not allowed in prolog."⟩

def loginPlatform : Platform Unit where
  getDocument := parseLogin
  getCanonicalDocText := fun root =>
    loginText (if root.textContent = "" then "<AttributeValue/>" else root.textContent)
  getStyledDocText := fun _ => ""
  parse := fun text =>
    if text = "2024-05-01T12:00:00.000Z" then .ok loginTime
    else .error ⟨.runtime, "Text could not be parsed"⟩
  toInstant := fun _ => ()
  atZone := fun _ => loginTime
  isoText := fun _ => "2024-05-01T12:00:00.000Z"

theorem keepsTimes_login : loginPlatform.KeepsTimes where
  notEmpty := fun _ => show "2024-05-01T12:00:00.000Z" ≠ "" by decide
  parse := fun _ _ _ => rfl
  reads := by
    rintro - _ ⟨⟩
    show loginTime = toPattern loginTime
    decide
  toInstant := fun _ => rfl
  year := by
    intro _ text year htext _
    change (if text = "2024-05-01T12:00:00.000Z" then Except.ok loginTime else _) = _ at htext
    split at htext
    · cases htext
      rfl
    · cases htext

theorem attributes_valueHeap {children : List Key} (k : Key) :
    ((valueHeap children).cell k).attributes = [] := by
  rcases k with _ | _ | _ | _ | k <;> rfl

theorem mem_children_valueHeap {children : List Key} {k c : Key}
    (hc : c ∈ ((valueHeap children).cell k).children) : k = 1 ∧ c ∈ children := by
  rcases k with _ | _ | _ | _ | k
  case succ.zero => exact ⟨rfl, hc⟩
  all_goals cases hc

section Login

variable {children : List Key} (hchildren : ∀ c ∈ children, c = 2 ∨ c = 3)
include hchildren

theorem wellFormed_valueHeap : (valueHeap children).WellFormed := by
  refine ⟨⟨fun k _ a ha => ?_, fun k _ c hc => ?_⟩, fun k => if k = 1 then 1 else 0,
    fun k _ c hc => ?_⟩
  · rw [attributes_valueHeap] at ha
    cases ha
  · show c < 4
    rcases hchildren c (mem_children_valueHeap hc).2 with rfl | rfl <;> decide
  · obtain ⟨rfl, hc⟩ := mem_children_valueHeap hc
    rcases hchildren c hc with rfl | rfl <;> decide

theorem not_inside_login : ∀ k ∈ login.elements, ∀ m ∈ login.moved,
    ¬ (valueHeap children).Inside k m := by
  rintro k - m hm ⟨j, -, hj⟩
  have hm : m = 0 ∨ m = 1 := List.mem_pair.mp hm
  rcases hj with hj | hj
  · rw [attributes_valueHeap] at hj
    cases hj
  · rcases hchildren m (mem_children_valueHeap hj).2 with rfl | rfl <;>
      exact absurd hm (by decide)

end Login

theorem login_valued {children : List Key} : login.Valued loginPlatform (valueHeap children) where
  elements := List.forall_mem_cons.mpr ⟨⟨show 0 < 4 by decide, rfl⟩,
    List.forall_mem_singleton.mpr ⟨show 1 < 4 by decide, rfl⟩⟩
  attrs := nofun
  texts := by decide
  millis := by
    rintro _ ⟨⟩ _ ⟨⟩
    rfl

/-- The document that is printed. -/
theorem tree_login {children : List Key} (hchildren : ∀ c ∈ children, c = 2 ∨ c = 3) {root : Key}
    (hrun : (login.getDocument loginPlatform).run (valueHeap children) = (.ok root, h')) :
    h'.tree root = login.printed loginPlatform (valueHeap children) := by
  have wf := wellFormed_valueHeap hchildren
  obtain ⟨hprinted, -⟩ := Mutating.of_run_ok
    (wp_getDocument loginPlatform login wf.toLinked wf.closed login_valued.lt_nextKey) hrun
  refine hprinted.tree.trans (SAMLAuthContext.printed_congr ?_)
  rw [login_valued.content_eq_iff wf hprinted.frame]
  exact not_inside_login hchildren

theorem getDocument_login : loginPlatform.getDocument = parseLogin := rfl

theorem printed_login (h : Heap) :
    login.printed loginPlatform h = loginDocument (h.tree 0) (h.tree 1) := rfl

theorem printed_login_text : login.printed loginPlatform (valueHeap [2]) = textDocument :=
  printed_login _

theorem printed_login_inner : login.printed loginPlatform (valueHeap [3]) = innerDocument :=
  printed_login _

theorem getDocument_textDocument :
    loginPlatform.getDocument (loginPlatform.docText false textDocument) = .ok textDocument := by
  have htext : loginPlatform.docText false textDocument = loginText "196301234567" :=
    congrArg loginText (by decide)
  rw [getDocument_login, htext, parseLogin, if_pos rfl]

theorem getDocument_innerDocument :
    loginPlatform.getDocument (loginPlatform.docText false innerDocument) = .ok innerDocument := by
  have htext : loginPlatform.docText false innerDocument = loginText "<AttributeValue/>" :=
    congrArg loginText (by decide)
  have hother : loginText "<AttributeValue/>" ≠ loginText "196301234567" := by
    unfold loginText
    rw [ne_eq, String.append_left_inj, String.append_right_inj]
    decide
  rw [getDocument_login, htext, parseLogin, if_neg hother, if_pos rfl]

/-- **Round trips of authentication contexts.** A value comes back, and stays as it is,
exactly when its mappings can be printed, none of its elements has something of the value
inside it, and what is printed for it can be read back. -/
theorem SAMLAuthContext.roundTrips_iff {x : SAMLAuthContext Key Key Instant} (wf : h.WellFormed)
    (hvalued : x.Valued platform h) (htimes : platform.KeepsTimes)
    (hfaithful : ∀ root h', (x.getDocument platform).run h = (.ok root, h') →
      platform.getDocument (platform.docText formatted (h'.tree root)) = .ok (h'.tree root)) :
    x.RoundTrips platform strictMode formatted h ↔
      x.Complete ∧ (∀ k ∈ x.elements, ∀ m ∈ x.moved, ¬ h.Inside k m) ∧
        x.ReadsBack platform strictMode h := by
  have hprint := wp_getDocument platform x wf.toLinked wf.closed hvalued.lt_nextKey
  cases hrun : (x.getDocument platform).run h with
  | mk r h' =>
  cases r with
  | error e =>
      refine iff_of_false ?_ fun h => Mutating.of_run_error hprint hrun h.1
      rintro ⟨text, h', hok, -⟩
      obtain ⟨root, hok, -⟩ := printAuthnContext_ok_iff.mp hok
      rw [hrun] at hok
      cases hok
  | ok root =>
  obtain ⟨hprinted, hcomplete⟩ := Mutating.of_run_ok hprint hrun
  have hcontent := hvalued.content_eq_iff wf hprinted.frame
  have hread := same_printed_iff hcomplete hvalued.texts hvalued.isElement_tree strictMode htimes
    hvalued.millis
  constructor
  · rintro ⟨_, _, hprinting, hsame, -, y, hy, hsameY⟩
    obtain ⟨_, hok, rfl⟩ := printAuthnContext_ok_iff.mp hprinting
    rw [hrun] at hok
    cases hok
    rw [getAuthnContext_docText_iff (hfaithful root h' hrun), hprinted.tree,
      printed_congr hsame] at hy
    exact ⟨hcomplete, hcontent.mp hsame, hread.mp ⟨y, hy, hsameY⟩⟩
  · rintro ⟨-, hnot, hreads⟩
    have hsame := hcontent.mpr hnot
    have htree := hprinted.tree.trans (printed_congr hsame)
    obtain ⟨y, hy, hsameY⟩ := hread.mpr hreads
    obtain ⟨root', h'', hrun', htree'⟩ :=
      hvalued.printed_twice wf hcomplete hprinted.frame hprinted.linked hnot
    refine ⟨_, h', printAuthnContext_ok_iff.mpr ⟨root, hrun, rfl⟩, hsame, ⟨h'', ?_⟩, y, ?_, hsameY⟩
    · exact printAuthnContext_ok_iff.mpr ⟨root', hrun', by rw [htree, htree']⟩
    · rw [getAuthnContext_docText_iff (hfaithful root h' hrun), htree]
      exact hy

/-- A value with text comes back, with its extension element. -/
theorem SAMLAuthContext.login_round_trips :
    (valueHeap [2]).WellFormed ∧ login.Valued loginPlatform (valueHeap [2]) ∧
      login.RoundTrips loginPlatform true false (valueHeap [2]) := by
  have hchildren : ∀ c ∈ [2], c = 2 ∨ c = 3 := List.forall_mem_singleton.mpr (.inl rfl)
  have wf := wellFormed_valueHeap hchildren
  refine ⟨wf, login_valued, (roundTrips_iff wf login_valued keepsTimes_login ?_).mpr
    ⟨?_, not_inside_login hchildren, ?_⟩⟩
  · intro root h' hrun
    rw [tree_login hchildren hrun, printed_login_text, getDocument_textDocument]
  · rintro _ ⟨⟩ m hm
    rw [List.mem_singleton.mp hm]
    exact ⟨rfl, rfl⟩
  · refine ⟨?_, nofun, ?_, nofun⟩
    · rintro _ ⟨⟩
      exact ⟨rfl, ⟨(), rfl, by decide⟩, rfl, by decide⟩
    · rintro - _ ⟨⟩
      refine ⟨List.cons_ne_nil _ _, ⟨⟨rfl, ?_, ?_, by decide, nofun⟩, trivial⟩, rfl⟩
      · rintro _ ⟨⟩ -
        rfl
      · rintro _ ⟨⟩
        exact ⟨List.nodup_nil, nofun, nofun, rfl⟩

/-- A value in another one is read as a second value. -/
theorem SAMLAuthContext.inner_value_read_twice :
    (valueHeap [3]).WellFormed ∧ login.Valued loginPlatform (valueHeap [3]) ∧
      loginPlatform.KeepsTimes ∧
      (∀ root h', (login.getDocument loginPlatform).run (valueHeap [3]) = (.ok root, h') →
        loginPlatform.getDocument (loginPlatform.docText false (h'.tree root)) =
          .ok (h'.tree root)) ∧
      ¬ login.RoundTrips loginPlatform true false (valueHeap [3]) := by
  have hchildren : ∀ c ∈ [3], c = 2 ∨ c = 3 := List.forall_mem_singleton.mpr (.inr rfl)
  refine ⟨wellFormed_valueHeap hchildren, login_valued, keepsTimes_login,
    fun root h' hrun => ?_, ?_⟩
  · rw [tree_login hchildren hrun, printed_login_inner, getDocument_innerDocument]
  · rintro ⟨_, h', hprinting, -, -, y, hy, -, hsame⟩
    obtain ⟨root, hrun, rfl⟩ := printAuthnContext_ok_iff.mp hprinting
    rw [tree_login hchildren hrun, printed_login_inner,
      getAuthnContext_docText_iff getDocument_innerDocument] at hy
    cases hy
    have hsame := (Option.rel_some_some.mp hsame)
    have hvalues := (Option.rel_some_some.mp (List.forall₂_cons.mp hsame).1.2.2.1).2.2.2.2
    exact absurd (congrArg List.length hvalues) (by decide)

end SigVal.Extensions.Saci
