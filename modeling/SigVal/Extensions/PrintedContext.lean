import SigVal.Extensions.ContextPrinting

/-!
# The printed document

What printing a value leaves behind: the elements of the new document, with the nodes of the
value that are still in their places at the end, and the nodes themselves, without what was
moved out of them. A node that is used in several places ends up in the last one.
-/

namespace SigVal.Extensions.Saci

open SigVal.Java SigVal.Dom SigVal.SharedDom SigVal.SharedDom.Heap

variable {Instant : Type} {platform : Platform Instant} {base : Nat} {g h h' h₀ h₁ : Heap}
  {e k : Key} {later moved : List Key} {ns name : String} {T : Heap → List Key → Node}

/-- The fields that are there, as attributes. -/
def present (fields : List (String × Option String)) : List Attr :=
  fields.filterMap fun field => field.2.map fun value => (field.1, value)

/-! ## The elements

Each is given what is moved after it was made. -/

def Attribute.fields (x : Attribute Key Key) : List (String × Option String) :=
  [(NAME, x.name), (NAME_FORMAT, x.nameFormat), (FRIENDLY_NAME, x.friendlyName)]

def Attribute.printed (x : Attribute Key Key) (g : Heap) (later : List Key) : Node :=
  let nameOf := fun a => (g.attrOf a).1
  .element SAML_ASSERTION_NS ATTRIBUTE_ELEMENT
    ((present x.fields).filter (fun field => field.1 ∉ x.getAnyAttrList.map nameOf) ++
      ((keptAttributes nameOf x.getAnyAttrList).filter
        fun a => a ∉ x.getAttributeValues ++ later).map g.attrOf)
    ((kept x.getAttributeValues later).map g.tree)

def AttributeMapping.fields (x : AttributeMapping Key Key) : List (String × Option String) :=
  [(TYPE, x.type.map MappingType.name), (REF, x.ref)]

def AttributeMapping.printed (x : AttributeMapping Key Key) (g : Heap) (later : List Key) : Node :=
  .element SACI_NS ATTRIBUTE_MAPPING_ELEMENT (present x.fields)
    ((x.samlAttribute.map fun a => a.printed g (x.getAnyList ++ later)).toList ++
      (kept x.getAnyList later).map g.tree)

def printedMappings (g : Heap) (later : List Key) : List (AttributeMapping Key Key) → List Node
  | [] => []
  | x :: rest =>
      x.printed g (rest.flatMap AttributeMapping.moved ++ later) :: printedMappings g later rest

def IdAttributes.printed (x : IdAttributes Key Key) (g : Heap) (later : List Key) : Node :=
  .element SACI_NS ID_ATTRIBUTES_ELEMENT [] (printedMappings g later x.getAttributeMappings)

def AuthContextInfo.fields (platform : Platform Instant) (x : AuthContextInfo Key Instant) :
    List (String × Option String) :=
  [(IDENTITY_PROVIDER, x.identityProvider),
    (AUTHENTICATION_INSTANT, instantToString platform x.authenticationInstant),
    (AUTHN_CONTEXT_CLASS_REF, x.authnContextClassRef), (ASSERTION_REF, x.assertionRef),
    (SERVICE_ID, x.serviceID)]

def AuthContextInfo.printed (platform : Platform Instant) (x : AuthContextInfo Key Instant)
    (g : Heap) (later : List Key) : Node :=
  .element SACI_NS AUTH_CONTEXT_INFO_ELEMENT (present (x.fields platform))
    ((kept x.getAnyList later).map g.tree)

def SAMLAuthContext.printed (platform : Platform Instant) (x : SAMLAuthContext Key Key Instant)
    (g : Heap) : Node :=
  .element SACI_NS SAML_AUTH_CONTEXT_ELEMENT []
    ((x.authContextInfo.map fun info =>
        info.printed platform g ((x.idAttributes.map IdAttributes.moved).getD [])).toList ++
      (x.idAttributes.map fun ids => ids.printed g []).toList)

theorem Attribute.hasName_printed (x : Attribute Key Key) :
    (x.printed g later).hasName ns name =
      (SAML_ASSERTION_NS == ns && ATTRIBUTE_ELEMENT == name) := rfl

theorem AttributeMapping.hasName_printed (x : AttributeMapping Key Key) :
    (x.printed g later).hasName ns name =
      (SACI_NS == ns && ATTRIBUTE_MAPPING_ELEMENT == name) := rfl

theorem IdAttributes.hasName_printed (x : IdAttributes Key Key) :
    (x.printed g later).hasName ns name = (SACI_NS == ns && ID_ATTRIBUTES_ELEMENT == name) := rfl

theorem AuthContextInfo.hasName_printed (x : AuthContextInfo Key Instant) :
    (x.printed platform g later).hasName ns name =
      (SACI_NS == ns && AUTH_CONTEXT_INFO_ELEMENT == name) := rfl

/-! ## One element -/

/-- A later heap, seen from the nodes that were made between `h` and `h'`. -/
structure Sees (base : Nat) (h h' : Heap) (later : List Key) (g : Heap) : Prop where
  old : ∀ k ∈ later, k < base
  cell : ∀ k, h.nextKey ≤ k → k < h'.nextKey → g.cell k = (h'.cell k).without later
  attrOf : ∀ a < base, g.attrOf a = h.attrOf a
  closed : g.Closed base

/-- The element `e` was made between `h` and `h'`, and the nodes of `moved` were put into it. In
a later heap it shows `T`. -/
structure Built (base : Nat) (h h' : Heap) (e : Key) (moved : List Key)
    (T : Heap → List Key → Node) : Prop where
  opened : h'.Open e
  keeps : ∀ x, base ≤ x → h.Open x → h'.Open x
  frame : Moved h.nextKey moved h h'
  le : h.nextKey ≤ e
  shape : ∃ height, h.nextKey + height ≤ h'.nextKey ∧
    ∀ g later, Sees base h h' later g → ∀ n, base + height ≤ n → g.unfold n e = T g later

/-- The element `e` was made since `h₀` and has these fields, and nothing in it yet. -/
structure Own (h₀ h : Heap) (e : Key) (ns name : String) (fields : List (String × Option String)) :
    Prop where
  opened : h.Open e
  keeps : ∀ x, h₀.Open x → h.Open x
  frame : Moved h₀.nextKey [] h₀ h
  le : h₀.nextKey ≤ e
  cell : ∃ attributes, h.cell e = .element ns name attributes [] ∧
    attributes.map h.attrOf = present fields ∧ ∀ a ∈ attributes, h₀.nextKey ≤ a

/-! Each step is stated with what comes after it. -/

section Steps

variable {α : Type} {Q : α → Heap → Prop} {E : Exn → Heap → Prop}
  {attributes children : List Key}

theorem wp_createElementNS {next : Key → Mutating Heap α} (hlinked : h.Linked)
    (hnext : ∀ e h', Own h h' e ns name [] → Mutating.wp (next e) Q E h') :
    Mutating.wp (createElementNS ns name >>= next) Q E h := by
  unfold createElementNS
  rw [Mutating.wp_bind, Mutating.wp_bind, Mutating.wp_get, Mutating.wp_bind, Mutating.wp_modify,
    Mutating.wp_pure]
  exact hnext _ _ ⟨hlinked.create rfl rfl, fun _ hx => hx.create rfl rfl, moved_create _, le_rfl,
    [], cell_create_self _, rfl, nofun⟩

theorem present_append (fields fields' : List (String × Option String)) :
    present (fields ++ fields') = present fields ++ present fields' := List.filterMap_append

theorem name_of_mem_present {fields : List (String × Option String)} {a : Attr}
    (ha : a ∈ present fields) : a.1 ∈ fields.map Prod.fst := by
  obtain ⟨field, hfield, hvalue⟩ := List.mem_filterMap.mp ha
  obtain ⟨value, -, rfl⟩ := Option.map_eq_some_iff.mp hvalue
  exact List.mem_map_of_mem hfield

theorem Own.wp_setAttribute {fields : List (String × Option String)} {n : String}
    {value : Option String} {next : PUnit → Mutating Heap α} (hown : Own h₀ h e ns name fields)
    (hn : n ∉ fields.map Prod.fst)
    (hnext : ∀ h', Own h₀ h' e ns name (fields ++ [(n, value)]) →
      Mutating.wp (next PUnit.unit) Q E h') :
    Mutating.wp (setAttribute e n value >>= next) Q E h := by
  obtain ⟨hopen, hkeeps, hframe, hle, attributes, hcell, hattributes, hnew⟩ := hown
  rw [Mutating.wp_bind]
  cases value with
  | none =>
      refine hnext h ⟨hopen, hkeeps, hframe, hle, attributes, hcell, ?_, hnew⟩
      rw [present_append, hattributes]
      exact (List.append_nil _).symm
  | some value =>
      have hfresh : ∀ b ∈ attributes, (h.attrOf b).1 ≠ n := by
        rintro b hb rfl
        refine hn (name_of_mem_present ?_)
        rw [← hattributes]
        exact List.mem_map_of_mem hb
      obtain ⟨hkeeps', htouched, hcell', hattributes'⟩ := hopen.newAttribute hcell hfresh
      refine hnext _ ⟨hkeeps' e hopen, fun x hx => hkeeps' x (hkeeps x hx),
        hframe.trans (htouched.moved hle hframe.le), hle, _, hcell', ?_, ?_⟩
      · rw [hattributes', hattributes, present_append]
        rfl
      · intro a ha
        rcases List.mem_append.mp ha with ha | ha
        · exact hnew a ha
        · rw [List.mem_singleton.mp ha]
          exact hframe.le

theorem wp_adoptElements {elements : Option (List Key)} {next : PUnit → Mutating Heap α}
    (hopen : h.Open e) (hl : ∀ k ∈ elements.getD [], k < h.nextKey ∧ k ≠ e)
    (hcell : h.cell e = .element ns name attributes children)
    (hnext : ∀ h', (∀ x, h.Open x → x ∉ elements.getD [] → h'.Open x) →
      Touched e (elements.getD []) h h' →
      h'.cell e = .element ns name (attributes.filter fun a => a ∉ elements.getD [])
        (children.filter (fun c => c ∉ elements.getD []) ++ kept (elements.getD []) []) →
      Mutating.wp (next PUnit.unit) Q E h') :
    Mutating.wp (adoptElements e elements >>= next) Q E h := by
  rw [Mutating.wp_bind]
  cases elements with
  | none =>
      refine hnext h (fun _ hx _ => hx) .refl (hcell.trans ?_)
      simp [kept]
  | some elements =>
      obtain ⟨hkeeps, htouched, hcell'⟩ := hopen.adoptAll elements hl hcell
      exact hnext _ hkeeps htouched hcell'

theorem wp_adoptAttributes {attrs : Option (List Key)} {next : PUnit → Mutating Heap α}
    (hopen : h.Open e) (hl : ∀ k ∈ attrs.getD [], k < h.nextKey ∧ k ≠ e)
    (hcell : h.cell e = .element ns name attributes children)
    (hnext : ∀ h', (∀ x, h.Open x → x ∉ attrs.getD [] → h'.Open x) →
      Touched e (attrs.getD []) h h' →
      h'.cell e = .element ns name
        (attributes.filter
            (fun b => (h.attrOf b).1 ∉ (attrs.getD []).map fun a => (h.attrOf a).1) ++
          keptAttributes (fun a => (h.attrOf a).1) (attrs.getD []))
        (children.filter fun c => c ∉ attrs.getD []) →
      Mutating.wp (next PUnit.unit) Q E h') :
    Mutating.wp (adoptAttributes e attrs >>= next) Q E h := by
  rw [Mutating.wp_bind]
  cases attrs with
  | none =>
      refine hnext h (fun _ hx _ => hx) .refl (hcell.trans ?_)
      simp [keptAttributes]
  | some attrs =>
      obtain ⟨hkeeps, htouched, hcell'⟩ := hopen.adoptAttributes attrs hl hcell
      exact hnext _ hkeeps htouched hcell'

end Steps

/-- Before `base` and after it. -/
theorem notMem_of_le {l : List Key} (hl : ∀ k ∈ l, k < base) (hk : base ≤ k) : k ∉ l :=
  fun hmem => Nat.not_lt.mpr hk (hl k hmem)

theorem Own.lt_and_ne {fields : List (String × Option String)} {j : Key}
    (hown : Own h₀ h e ns name fields) (hbase : base ≤ h₀.nextKey) (hj : j < base) :
    j < h.nextKey ∧ j ≠ e :=
  ⟨Nat.lt_of_lt_of_le hj (hbase.trans hown.frame.le),
    Nat.ne_of_lt (Nat.lt_of_lt_of_le hj (hbase.trans hown.le))⟩

/-- What was made before an element is in it shows the same from outside. -/
theorem filter_eq_self_of_le {l : List Key} (hl : ∀ a ∈ l, base ≤ a)
    (hold : ∀ k ∈ later, k < base) : l.filter (fun a => a ∉ later) = l := by
  refine List.filter_eq_self.mpr fun a ha => decide_eq_true ?_
  exact notMem_of_le hold (hl a ha)

/-- Attributes that were made with an element are on it later. -/
theorem Sees.attrOf_made {attributes children : List Key} (hsees : Sees base h₀ h' later g)
    (htouched : Touched e moved h h') (hopen : h.Open e)
    (hcell : h.cell e = .element ns name attributes children)
    (hnew : ∀ a ∈ attributes, h₀.nextKey ≤ a) : ∀ a ∈ attributes, g.attrOf a = h.attrOf a := by
  intro a ha
  have hmem : a ∈ (h.cell e).attributes := by
    rw [hcell]
    exact ha
  have hlt := hopen.attributes e hopen.lt a hmem
  have hne : a ≠ e := by
    rintro rfl
    exact hopen.noAttribute _ hopen.lt hmem
  rw [← htouched.attrOf hlt hne]
  unfold Heap.attrOf
  rw [hsees.cell a (hnew a ha) (Nat.lt_of_lt_of_le hlt htouched.le), Cell.nameAndValue_without]

/-- The nodes of a value that are in their place. -/
theorem Sees.map_unfold (hsees : Sees base h₀ h later g) {l : List Key} {n : Nat}
    (hl : ∀ k ∈ l, k < base) (hn : base ≤ n) : l.map (g.unfold n) = l.map g.tree :=
  List.map_congr_left fun k hk => hsees.closed.unfold_eq (hl k hk) hn

theorem wp_attribute_getElement (x : Attribute Key Key) (hlinked : h.Linked)
    (hbase : base ≤ h.nextKey) (hmoved : ∀ k ∈ x.moved, k < base) :
    Mutating.wp x.getElement (fun e h' => Built base h h' e x.moved x.printed)
      (fun _ _ => False) h := by
  have hany : ∀ k ∈ x.getAnyAttrList, k < base := fun k hk =>
    hmoved k (List.mem_append_left _ hk)
  have hvalues : ∀ k ∈ x.getAttributeValues, k < base := fun k hk =>
    hmoved k (List.mem_append_right _ hk)
  unfold Attribute.getElement
  apply wp_createElementNS hlinked
  intro e h₁ hown
  apply hown.wp_setAttribute (by simp)
  intro h₂ hown
  apply hown.wp_setAttribute (show NAME_FORMAT ∉ [NAME] by decide)
  intro h₃ hown
  refine hown.wp_setAttribute (show FRIENDLY_NAME ∉ [NAME, NAME_FORMAT] by decide)
    fun h₄ hown => ?_
  have hnot : ∀ k < base, k < h₄.nextKey ∧ k ≠ e := fun _ => hown.lt_and_ne hbase
  obtain ⟨hopen, hkeeps, hframe, hle, attributes, hcell, hattributes, hnew⟩ := hown
  refine wp_adoptAttributes hopen (fun k hk => hnot k (hany k hk)) hcell
    fun h₅ hkeeps₅ htouched hcell₅ => ?_
  have hopen₅ := hkeeps₅ e hopen (notMem_of_le hany (hbase.trans hle))
  refine wp_adoptElements hopen₅ (fun k hk => ?_) hcell₅ fun h₆ hkeeps₆ htouched₆ hcell₆ => ?_
  · have hk := hnot k (hvalues k hk)
    exact ⟨Nat.lt_of_lt_of_le hk.1 htouched.le, hk.2⟩
  have hopen₆ := hkeeps₆ e hopen₅ (notMem_of_le hvalues (hbase.trans hle))
  rw [Mutating.wp_pure]
  have htouched' := htouched.trans htouched₆
  refine ⟨hopen₆, fun x hx hopenx => ?_, hframe.trans (htouched'.moved hle hframe.le), hle, 1,
    Nat.lt_of_le_of_lt hle hopen₆.lt, ?_⟩
  · exact hkeeps₆ x (hkeeps₅ x (hkeeps x hopenx) (notMem_of_le hany hx)) (notMem_of_le hvalues hx)
  intro g later hsees n hn
  obtain ⟨n, rfl⟩ : ∃ m, n = m + 1 := Nat.exists_eq_succ_of_ne_zero (by omega)
  have hcell' : g.cell e = _ := (hsees.cell e hle hopen₆.lt).trans (congrArg _ hcell₆)
  rw [unfold_element hcell']
  -- the names of the adopted attributes are the same in all these heaps
  have hattrOf : ∀ a < base, h₄.attrOf a = g.attrOf a := by
    intro a ha
    rw [hframe.attrOf (Nat.lt_of_lt_of_le ha hbase), hsees.attrOf a ha]
  have hnames : (x.getAnyAttrList.map fun a => (h₄.attrOf a).1) =
      x.getAnyAttrList.map fun a => (g.attrOf a).1 :=
    List.map_congr_left fun a ha => by rw [hattrOf a (hany a ha)]
  have hkept : keptAttributes (fun a => (h₄.attrOf a).1) x.getAnyAttrList =
      keptAttributes (fun a => (g.attrOf a).1) x.getAnyAttrList :=
    keptAttributes_congr fun a ha => by rw [hattrOf a (hany a ha)]
  have hmade := hsees.attrOf_made htouched' hopen hcell hnew
  have hown : ((attributes.filter fun b =>
      (h₄.attrOf b).1 ∉ x.getAnyAttrList.map fun a => (g.attrOf a).1).map g.attrOf) =
        (present x.fields).filter fun field =>
          field.1 ∉ x.getAnyAttrList.map fun a => (g.attrOf a).1 := by
    rw [List.map_congr_left fun a ha => hmade a (List.mem_filter.mp ha).1,
      show present x.fields = attributes.map h₄.attrOf from hattributes.symm, List.filter_map]
    rfl
  unfold Attribute.printed
  have hafter : ∀ k ∈ x.getAttributeValues ++ later, k < base := by
    intro k hk
    rcases List.mem_append.mp hk with hk | hk
    · exact hvalues k hk
    · exact hsees.old k hk
  refine congrArg₂ _ ?_ ?_
  · rw [show x.anyAttrList.getD [] = x.getAnyAttrList from rfl,
      show x.attributeValues.getD [] = x.getAttributeValues from rfl, hnames, hkept,
      filter_notMem_filter_notMem, List.filter_append, List.map_append, ← hown]
    refine congrArg₂ _ (congrArg _ (filter_eq_self_of_le (fun a ha => ?_) hafter)) rfl
    exact hbase.trans (hnew a (List.mem_filter.mp ha).1)
  · rw [show x.attributeValues.getD [] = x.getAttributeValues from rfl]
    simp only [List.filter_nil, List.nil_append]
    rw [kept_append, List.nil_append]
    exact hsees.map_unfold (fun k hk => hvalues k (kept_sublist.subset hk)) (by omega)

theorem wp_authContextInfo_getElement (info : AuthContextInfo Key Instant) (hlinked : h.Linked)
    (hbase : base ≤ h.nextKey) (hmoved : ∀ k ∈ info.getAnyList, k < base) :
    Mutating.wp (info.getElement platform)
      (fun e h' => Built base h h' e info.getAnyList (info.printed platform))
      (fun _ _ => False) h := by
  unfold AuthContextInfo.getElement
  apply wp_createElementNS hlinked
  intro e h₁ hown
  apply hown.wp_setAttribute (by simp)
  intro h₂ hown
  refine hown.wp_setAttribute (show AUTHENTICATION_INSTANT ∉ [IDENTITY_PROVIDER] by decide)
    fun h₃ hown => ?_
  refine hown.wp_setAttribute
    (show AUTHN_CONTEXT_CLASS_REF ∉ [IDENTITY_PROVIDER, AUTHENTICATION_INSTANT] by decide)
    fun h₄ hown => ?_
  refine hown.wp_setAttribute (show ASSERTION_REF ∉
    [IDENTITY_PROVIDER, AUTHENTICATION_INSTANT, AUTHN_CONTEXT_CLASS_REF] by decide)
    fun h₅ hown => ?_
  refine hown.wp_setAttribute (show SERVICE_ID ∉ [IDENTITY_PROVIDER, AUTHENTICATION_INSTANT,
    AUTHN_CONTEXT_CLASS_REF, ASSERTION_REF] by decide) fun h₆ hown => ?_
  have hnot : ∀ k ∈ info.getAnyList, k < h₆.nextKey ∧ k ≠ e := fun k hk =>
    hown.lt_and_ne hbase (hmoved k hk)
  obtain ⟨hopen, hkeeps, hframe, hle, attributes, hcell, hattributes, hnew⟩ := hown
  refine wp_adoptElements hopen hnot hcell fun h₇ hkeeps₇ htouched hcell₇ => ?_
  have hopen₇ := hkeeps₇ e hopen (notMem_of_le hmoved (hbase.trans hle))
  rw [Mutating.wp_pure]
  refine ⟨hopen₇, fun x hx hopenx => hkeeps₇ x (hkeeps x hopenx) (notMem_of_le hmoved hx),
    hframe.trans (htouched.moved hle hframe.le), hle, 1, Nat.lt_of_le_of_lt hle hopen₇.lt, ?_⟩
  intro g later hsees n hn
  obtain ⟨n, rfl⟩ : ∃ m, n = m + 1 := Nat.exists_eq_succ_of_ne_zero (by omega)
  have hcell' : g.cell e = _ := (hsees.cell e hle hopen₇.lt).trans (congrArg _ hcell₇)
  rw [unfold_element hcell']
  have hmade := hsees.attrOf_made htouched hopen hcell hnew
  have hbefore : ∀ a ∈ attributes, base ≤ a := fun a ha => hbase.trans (hnew a ha)
  unfold AuthContextInfo.printed
  refine congrArg₂ _ ?_ ?_
  · rw [show info.anyList.getD [] = info.getAnyList from rfl, filter_eq_self_of_le hbefore hmoved,
      filter_eq_self_of_le hbefore hsees.old, List.map_congr_left hmade, hattributes]
    rfl
  · rw [show info.anyList.getD [] = info.getAnyList from rfl, List.filter_nil, List.nil_append,
      kept_append,
      List.nil_append]
    exact hsees.map_unfold (fun k hk => hmoved k (kept_sublist.subset hk)) (by omega)

/-! ## Elements in elements -/

/-- An element that was made is put into another one, which was made before. -/
theorem Built.append {attributes children : List Key} (hbuilt : Built base h h₁ k moved T)
    (hbase : base ≤ e) (hopen : h.Open e)
    (hcell : h.cell e = .element ns name attributes children) :
    (∀ x, base ≤ x → h.Open x → (h₁.appendChild e k).Open x) ∧
      Touched e moved h (h₁.appendChild e k) ∧ Touched e [] h₁ (h₁.appendChild e k) ∧
      (h₁.appendChild e k).cell e = .element ns name (attributes.filter fun a => a ∉ moved)
        (children.filter (fun c => c ∉ moved) ++ [k]) := by
  have hcell₁ : h₁.cell e = .element ns name (attributes.filter fun a => a ∉ moved)
      (children.filter fun c => c ∉ moved) := by
    rw [hbuilt.frame.cell e hopen.lt, hcell]
    rfl
  obtain ⟨hkeeps, htouched, hcell₂⟩ :=
    (hbuilt.keeps e hbase hopen).appendChild hbuilt.opened hcell₁
  refine ⟨fun x hx hopenx => hkeeps x (hbuilt.keeps x hx hopenx) ?_, ?_, htouched, hcell₂⟩
  · exact Nat.ne_of_lt (Nat.lt_of_lt_of_le hopenx.lt hbuilt.le)
  · have htouched₁ := (hbuilt.frame.touched (e := e)).trans htouched
    rwa [List.append_nil] at htouched₁

/-- What is seen of an element from the outside is seen of the elements in it. -/
theorem Sees.inner {before : List Key} (hsees : Sees base h₀ h' later g)
    (hle : h₀.nextKey ≤ h.nextKey)
    (hmoved : ∀ k ∈ before, k < base) (htouched : Touched e before h₁ h') (he : e < h.nextKey)
    (hattrOf : ∀ a < base, h.attrOf a = h₀.attrOf a) : Sees base h h₁ (before ++ later) g where
  old := List.forall_mem_append.mpr ⟨hmoved, hsees.old⟩
  cell := by
    intro k hk hk₁
    rw [hsees.cell k (hle.trans hk) (Nat.lt_of_lt_of_le hk₁ htouched.le),
      htouched.cell k hk₁ (Nat.ne_of_gt (Nat.lt_of_lt_of_le he hk)), Cell.without_without]
  attrOf := fun a ha => (hsees.attrOf a ha).trans (hattrOf a ha).symm
  closed := hsees.closed

theorem Sees.part (hsees : Sees base h₀ h' later g) (hle : h₀.nextKey ≤ h.nextKey)
    (htouched : Touched e [] h₁ h') (he : e < h.nextKey)
    (hattrOf : ∀ a < base, h.attrOf a = h₀.attrOf a) : Sees base h h₁ later g :=
  hsees.inner hle (fun _ hk => absurd hk List.not_mem_nil) htouched he hattrOf

/-- What a mapping must have to be printed. -/
def AttributeMapping.Complete (x : AttributeMapping Key Key) : Prop :=
  x.type.isSome = true ∧ x.samlAttribute.isSome = true

theorem wp_deref {α : Type} {Q : α → Heap → Prop} {E : Exn → Heap → Prop} (value : Option α)
    (hsome : ∀ a, value = some a → Q a h) (hnone : value = none → ∀ ex, E ex h) :
    Mutating.wp (Mutating.call (deref value)) Q E h := by
  cases value with
  | none => exact hnone rfl _
  | some a => exact hsome a rfl

theorem wp_attributeMapping_getElement (x : AttributeMapping Key Key) (hlinked : h.Linked)
    (hbase : base ≤ h.nextKey) (hmoved : ∀ k ∈ x.moved, k < base) :
    Mutating.wp x.getElement (fun e h' => Built base h h' e x.moved x.printed ∧ x.Complete)
      (fun _ _ => ¬ x.Complete) h := by
  have hany : ∀ k ∈ x.getAnyList, k < base := fun k hk => hmoved k (List.mem_append_right _ hk)
  unfold AttributeMapping.getElement
  apply wp_createElementNS hlinked
  intro e h₁ hown
  rw [Mutating.wp_bind]
  refine wp_deref _ (fun type htype => ?_) fun hnone _ hcomplete => ?_
  swap
  · rw [AttributeMapping.Complete, hnone] at hcomplete
    exact absurd hcomplete.1 (by decide)
  apply hown.wp_setAttribute (by simp)
  intro h₂ hown
  apply hown.wp_setAttribute (show REF ∉ [TYPE] by decide)
  intro h₃ hown
  have hnot : ∀ k ∈ x.getAnyList, k < h₃.nextKey ∧ k ≠ e := fun k hk =>
    hown.lt_and_ne hbase (hany k hk)
  obtain ⟨hopen, hkeeps, hframe, hle, attributes, hcell, hattributes, hnew⟩ := hown
  rw [Mutating.wp_bind]
  refine wp_deref _ (fun samlAttribute hattribute => ?_) fun hnone _ hcomplete => ?_
  swap
  · rw [AttributeMapping.Complete, hnone] at hcomplete
    exact absurd hcomplete.2 (by decide)
  have hcomplete : x.Complete := by
    rw [AttributeMapping.Complete, htype, hattribute]
    exact ⟨rfl, rfl⟩
  have hmoved_eq : x.moved = samlAttribute.moved ++ x.getAnyList := by
    rw [AttributeMapping.moved, hattribute]
    rfl
  have hinner : ∀ k ∈ samlAttribute.moved, k < base := fun k hk =>
    hmoved k (hmoved_eq ▸ List.mem_append_left _ hk)
  have hbase₃ : base ≤ h₃.nextKey := hbase.trans hframe.le
  rw [Mutating.wp_bind]
  refine Mutating.wp_mono (wp_attribute_getElement samlAttribute hopen.toLinked hbase₃ hinner) ?_
    fun _ _ h => h.elim
  rintro a h₄ hbuilt
  obtain ⟨hkeeps₅, htouched₅, hlast₅, hcell₅⟩ :=
    hbuilt.append (hbase.trans hle) hopen hcell
  rw [Mutating.wp_bind, Mutating.wp_modify]
  have hopen₅ := hkeeps₅ e (hbase.trans hle) hopen
  refine wp_adoptElements hopen₅ (fun k hk => ?_) hcell₅ fun h₆ hkeeps₆ htouched₆ hcell₆ => ?_
  · have hk := hnot k hk
    exact ⟨Nat.lt_of_lt_of_le hk.1 htouched₅.le, hk.2⟩
  have hopen₆ := hkeeps₆ e hopen₅ (notMem_of_le hany (hbase.trans hle))
  rw [Mutating.wp_pure]
  have htouched := htouched₅.trans htouched₆
  obtain ⟨height, hheight, hshape⟩ := hbuilt.shape
  refine ⟨⟨hopen₆, fun y hy hopeny => ?_, ?_, hle, height + 1, ?_, ?_⟩, hcomplete⟩
  · exact hkeeps₆ y (hkeeps₅ y hy (hkeeps y hopeny)) (notMem_of_le hany hy)
  · rw [hmoved_eq]
    exact hframe.trans (htouched.moved hle hframe.le)
  · -- the mapping was made first, and the attribute after it
    have he : h.nextKey < h₃.nextKey := Nat.lt_of_le_of_lt hle hopen.lt
    have hlast : h₄.nextKey ≤ h₆.nextKey := hlast₅.le.trans htouched₆.le
    omega
  intro g later hsees n hn
  obtain ⟨n, rfl⟩ : ∃ m, n = m + 1 := Nat.exists_eq_succ_of_ne_zero (by omega)
  have hcell' : g.cell e = _ := (hsees.cell e hle hopen₆.lt).trans (congrArg _ hcell₆)
  rw [unfold_element hcell']
  have hmade := hsees.attrOf_made htouched hopen hcell hnew
  have hbefore : ∀ a ∈ attributes, base ≤ a := fun a ha => hbase.trans (hnew a ha)
  have hkeep : ∀ {l : List Key}, (∀ k ∈ l, k < base) → [a].filter (fun c => c ∉ l) = [a] :=
    filter_eq_self_of_le (List.forall_mem_singleton.mpr (hbase₃.trans hbuilt.le))
  have hattribute' : g.unfold n a = samlAttribute.printed g (x.getAnyList ++ later) := by
    refine hshape g _ (hsees.inner hframe.le hany ?_ hopen.lt fun a ha => ?_) n (by omega)
    · exact hlast₅.trans htouched₆
    · exact hframe.attrOf (Nat.lt_of_lt_of_le ha hbase)
  unfold AttributeMapping.printed
  refine congrArg₂ _ ?_ ?_
  · rw [show x.anyList.getD [] = x.getAnyList from rfl, filter_eq_self_of_le hbefore hinner,
      filter_eq_self_of_le hbefore hany, filter_eq_self_of_le hbefore hsees.old,
      List.map_congr_left hmade, hattributes, AttributeMapping.fields, htype]
    rfl
  · rw [show x.anyList.getD [] = x.getAnyList from rfl, List.filter_nil, List.nil_append,
      List.filter_append, hkeep hany, hkeep hsees.old, kept_append, List.nil_append, hattribute,
      List.map_append, hsees.map_unfold (fun k hk => hany k (kept_sublist.subset hk)) (by omega),
      List.map_singleton, hattribute']
    rfl

/-- Elements that show `T` were made and put into `e`, after what it had before. -/
structure Appended (base : Nat) (h h' : Heap) (e : Key) (ns name : String)
    (attributes children moved : List Key) (T : Heap → List Key → List Node) : Prop where
  keeps : ∀ x, base ≤ x → h.Open x → h'.Open x
  touched : Touched e moved h h'
  made : ∃ elements height, h'.cell e = .element ns name (attributes.filter fun a => a ∉ moved)
      (children.filter (fun c => c ∉ moved) ++ elements) ∧
    (∀ c ∈ elements, base ≤ c) ∧ h.nextKey + height ≤ h'.nextKey ∧
    ∀ g later, Sees base h h' later g → ∀ n, base + height ≤ n →
      elements.map (g.unfold n) = T g later

theorem Appended.none {attributes children : List Key}
    (hcell : h.cell e = .element ns name attributes children) :
    Appended base h h e ns name attributes children [] fun _ _ => [] where
  keeps := fun _ _ hx => hx
  touched := .refl
  made := by
    refine ⟨[], 0, hcell.trans ?_, nofun, le_rfl, fun _ _ _ _ _ => rfl⟩
    simp

theorem Built.appended {attributes children : List Key} (hbuilt : Built base h h₁ k moved T)
    (hbase : base ≤ e) (hopen : h.Open e)
    (hcell : h.cell e = .element ns name attributes children) :
    Appended base h (h₁.appendChild e k) e ns name attributes children moved
      fun g later => [T g later] := by
  obtain ⟨hkeeps, htouched, hlast, hcell'⟩ := hbuilt.append hbase hopen hcell
  obtain ⟨height, hheight, hshape⟩ := hbuilt.shape
  refine ⟨hkeeps, htouched, [k], height, hcell', ?_, hheight.trans hlast.le, ?_⟩
  · exact List.forall_mem_singleton.mpr ((hbase.trans hopen.lt.le).trans hbuilt.le)
  · intro g later hsees n hn
    rw [List.map_singleton, hshape g later (hsees.part le_rfl hlast hopen.lt fun _ _ => rfl) n hn]

/-- One after the other. -/
theorem Appended.trans {attributes children l l' : List Key} {h₂ : Heap}
    {S S' : Heap → List Key → List Node} (hl' : ∀ k ∈ l', k < base) (hbase : base ≤ e)
    (he : e < h.nextKey)
    (h₁₂ : Appended base h h₁ e ns name attributes children l S)
    (h₂₃ : ∀ attributes children, h₁.cell e = .element ns name attributes children →
      Appended base h₁ h₂ e ns name attributes children l' S') :
    Appended base h h₂ e ns name attributes children (l ++ l')
      fun g later => S g (l' ++ later) ++ S' g later := by
  obtain ⟨elements, height, hcell, hmade, hheight, hshape⟩ := h₁₂.made
  have hsecond := h₂₃ _ _ hcell
  obtain ⟨elements', height', hcell', hmade', hheight', hshape'⟩ := hsecond.made
  refine ⟨fun x hx hopen => hsecond.keeps x hx (h₁₂.keeps x hx hopen),
    h₁₂.touched.trans hsecond.touched, elements ++ elements', max height height', ?_, ?_, ?_, ?_⟩
  · rw [hcell', List.filter_append, filter_notMem_filter_notMem, filter_notMem_filter_notMem,
      filter_eq_self_of_le hmade hl', List.append_assoc]
  · exact List.forall_mem_append.mpr ⟨hmade, hmade'⟩
  · have hle := h₁₂.touched.le
    have hle' := hsecond.touched.le
    omega
  · intro g later hsees n hn
    have hattrOf : ∀ a < base, h₁.attrOf a = h.attrOf a := by
      intro a ha
      have hae := Nat.lt_of_lt_of_le ha hbase
      exact h₁₂.touched.attrOf (hae.trans he) (Nat.ne_of_lt hae)
    rw [List.map_append,
      hshape g _ (hsees.inner le_rfl hl' hsecond.touched he fun _ _ => rfl) n (by omega),
      hshape' g _ (hsees.part h₁₂.touched.le .refl (Nat.lt_of_lt_of_le he h₁₂.touched.le)
        hattrOf) n (by omega)]

/-- Two parts that are known for the element in between. -/
theorem Appended.cell_eq {attributes children attributes' children' l : List Key}
    {S : Heap → List Key → List Node} (hcell : h.cell e = .element ns name attributes children)
    (hcell' : h.cell e = .element ns name attributes' children')
    (happended : Appended base h h' e ns name attributes children l S) :
    Appended base h h' e ns name attributes' children' l S := by
  rw [hcell] at hcell'
  cases hcell'
  exact happended

theorem wp_appendMappings {attributes children : List Key} (l : List (AttributeMapping Key Key))
    (hopen : h.Open e) (hbase : base ≤ e)
    (hcell : h.cell e = .element ns name attributes children)
    (hmoved : ∀ k ∈ l.flatMap AttributeMapping.moved, k < base) :
    Mutating.wp (appendMappings e l)
      (fun _ h' => Appended base h h' e ns name attributes children
        (l.flatMap AttributeMapping.moved) (fun g later => printedMappings g later l) ∧
          ∀ x ∈ l, x.Complete)
      (fun _ _ => ¬ ∀ x ∈ l, x.Complete) h := by
  induction l generalizing h attributes children with
  | nil => exact ⟨.none hcell, nofun⟩
  | cons x rest ih =>
      have hx : ∀ k ∈ x.moved, k < base := fun k hk => hmoved k (List.mem_append_left _ hk)
      have hrest : ∀ k ∈ rest.flatMap AttributeMapping.moved, k < base := fun k hk =>
        hmoved k (List.mem_append_right _ hk)
      unfold appendMappings
      rw [Mutating.wp_bind]
      refine Mutating.wp_mono (wp_attributeMapping_getElement x hopen.toLinked
        (hbase.trans hopen.lt.le) hx) ?_ fun _ _ hx hall => hx (hall x List.mem_cons_self)
      rintro k h₁ ⟨hbuilt, hcomplete⟩
      rw [Mutating.wp_bind, Mutating.wp_modify]
      have hfirst := hbuilt.appended hbase hopen hcell
      obtain ⟨_, _, hcell₂, -⟩ := hfirst.made
      refine Mutating.wp_mono (ih (hfirst.keeps e hbase hopen) hcell₂ hrest) ?_ ?_
      · rintro - h₂ ⟨hlast, hcompletes⟩
        refine ⟨?_, List.forall_mem_cons.mpr ⟨hcomplete, hcompletes⟩⟩
        exact hfirst.trans hrest hbase hopen.lt fun _ _ hcell' => hlast.cell_eq hcell₂ hcell'
      · exact fun _ _ hnot hall => hnot (List.forall_mem_cons.mp hall).2

theorem wp_appendElement {α : Type} {attributes children : List Key}
    {getElement : α → Mutating Heap Key} {value : Option α} (movedOf : α → List Key)
    (S : α → Heap → List Key → Node) (C : α → Prop) (hopen : h.Open e) (hbase : base ≤ e)
    (hcell : h.cell e = .element ns name attributes children)
    (hspec : ∀ a, value = some a → Mutating.wp (getElement a)
      (fun k h' => Built base h h' k (movedOf a) (S a) ∧ C a) (fun _ _ => ¬ C a) h) :
    Mutating.wp (appendElement e getElement value)
      (fun _ h' => Appended base h h' e ns name attributes children
        ((value.map movedOf).getD []) (fun g later => (value.map fun a => S a g later).toList) ∧
          ∀ a, value = some a → C a)
      (fun _ _ => ¬ ∀ a, value = some a → C a) h := by
  cases value with
  | none => exact ⟨.none hcell, nofun⟩
  | some a =>
      unfold appendElement
      rw [Mutating.wp_bind]
      refine Mutating.wp_mono (hspec a rfl) ?_ fun _ _ hnot hall => hnot (hall a rfl)
      rintro k h₁ ⟨hbuilt, hc⟩
      rw [Mutating.wp_modify]
      refine ⟨hbuilt.appended hbase hopen hcell, ?_⟩
      rintro _ ⟨⟩
      exact hc

/-- An element with nothing but the elements that were put into it. -/
theorem Own.built {S : Heap → List Key → List Node} (hown : Own h₀ h e ns name [])
    (hbase : base ≤ h₀.nextKey)
    (happended : ∀ attributes, h.cell e = .element ns name attributes [] →
      Appended base h h' e ns name attributes [] moved S) :
    Built base h₀ h' e moved fun g later => .element ns name [] (S g later) := by
  obtain ⟨hopen, hkeeps, hframe, hle, attributes, hcell, hattributes, hnew⟩ := hown
  have hlast := happended attributes hcell
  obtain ⟨elements, height, hcell', hmade, hheight, hshape⟩ := hlast.made
  obtain rfl : attributes = [] := List.map_eq_nil_iff.mp hattributes
  have hopen' := hlast.keeps e (hbase.trans hle) hopen
  refine ⟨hopen', fun x hx hopenx => hlast.keeps x hx (hkeeps x hopenx),
    hframe.trans (hlast.touched.moved hle hframe.le), hle, height + 1, ?_, ?_⟩
  · have he : h₀.nextKey < h.nextKey := Nat.lt_of_le_of_lt hle hopen.lt
    omega
  · intro g later hsees n hn
    obtain ⟨n, rfl⟩ : ∃ m, n = m + 1 := Nat.exists_eq_succ_of_ne_zero (by omega)
    have hcell'' : g.cell e = _ := (hsees.cell e hle hopen'.lt).trans (congrArg _ hcell')
    rw [unfold_element hcell'']
    refine congrArg₂ _ rfl ?_
    rw [List.filter_nil, List.nil_append, filter_eq_self_of_le hmade hsees.old]
    refine hshape g later (hsees.part hframe.le .refl hopen.lt fun a ha => ?_) n (by omega)
    exact hframe.attrOf (Nat.lt_of_lt_of_le ha hbase)

theorem wp_idAttributes_getElement (x : IdAttributes Key Key) (hlinked : h.Linked)
    (hbase : base ≤ h.nextKey) (hmoved : ∀ k ∈ x.moved, k < base) :
    Mutating.wp x.getElement
      (fun e h' => Built base h h' e x.moved x.printed ∧
        ∀ m ∈ x.getAttributeMappings, m.Complete)
      (fun _ _ => ¬ ∀ m ∈ x.getAttributeMappings, m.Complete) h := by
  unfold IdAttributes.getElement
  apply wp_createElementNS hlinked
  intro e h₁ hown
  obtain ⟨attributes, hcell, -⟩ := hown.cell
  rw [Mutating.wp_bind]
  refine Mutating.wp_mono (wp_appendMappings x.getAttributeMappings hown.opened
    (hbase.trans hown.le) hcell hmoved) ?_ fun _ _ h => h
  rintro - h₂ ⟨hlast, hcomplete⟩
  rw [Mutating.wp_pure]
  exact ⟨hown.built hbase fun _ hcell' => hlast.cell_eq hcell hcell', hcomplete⟩

/-! ## The document -/

/-- Every mapping can be printed. -/
def SAMLAuthContext.Complete (x : SAMLAuthContext Key Key Instant) : Prop :=
  ∀ ids, x.idAttributes = some ids → ∀ m ∈ ids.getAttributeMappings, m.Complete

/-- What a print leaves behind. -/
structure Printed (platform : Platform Instant) (base : Nat) (h h' : Heap) (e : Key)
    (x : SAMLAuthContext Key Key Instant) : Prop where
  linked : h'.Linked
  frame : Moved h.nextKey x.moved h h'
  tree : h'.tree e = x.printed platform h'

/-- **Printing.** It ends for a value whose mappings have a type and an attribute, and the new
document has what is described above. -/
theorem wp_getDocument (platform : Platform Instant) (x : SAMLAuthContext Key Key Instant)
    (hlinked : h.Linked)
    (hclosed : h.Closed base) (hmoved : ∀ k ∈ x.moved, k < base) :
    Mutating.wp (x.getDocument platform)
      (fun e h' => Printed platform base h h' e x ∧ x.Complete) (fun _ _ => ¬ x.Complete) h := by
  have hbase := hclosed.le
  have hinfo : ∀ k ∈ (x.authContextInfo.map AuthContextInfo.getAnyList).getD [], k < base :=
    fun k hk => hmoved k (List.mem_append_left _ hk)
  have hids : ∀ k ∈ (x.idAttributes.map IdAttributes.moved).getD [], k < base :=
    fun k hk => hmoved k (List.mem_append_right _ hk)
  unfold SAMLAuthContext.getDocument SAMLAuthContext.getElement
  apply wp_createElementNS hlinked
  intro e h₁ hown
  obtain ⟨attributes, hcell, -⟩ := hown.cell
  have he : base ≤ e := hbase.trans hown.le
  rw [Mutating.wp_bind]
  refine Mutating.wp_mono (wp_appendElement AuthContextInfo.getAnyList
    (AuthContextInfo.printed platform) (fun _ => True) hown.opened he hcell fun info hsome => ?_) ?_
    fun _ _ h => (h fun _ _ => trivial).elim
  · refine Mutating.wp_mono (wp_authContextInfo_getElement info hown.opened.toLinked
      (hbase.trans hown.frame.le) fun k hk => hinfo k ?_) (fun _ _ h => ⟨h, trivial⟩)
      fun _ _ h => h.elim
    rw [hsome]
    exact hk
  rintro - h₂ ⟨hfirst, -⟩
  obtain ⟨_, _, hcell₂, -⟩ := hfirst.made
  have hopen₂ := hfirst.keeps e he hown.opened
  rw [Mutating.wp_bind]
  refine Mutating.wp_mono (wp_appendElement IdAttributes.moved IdAttributes.printed
    (fun ids => ∀ m ∈ ids.getAttributeMappings, m.Complete) hopen₂ he hcell₂ fun ids hsome => ?_) ?_
    fun _ _ h => h
  · apply wp_idAttributes_getElement ids hopen₂.toLinked (he.trans hopen₂.lt.le)
    intro k hk
    apply hids k
    rw [hsome]
    exact hk
  rintro - h₃ ⟨hlast, hcomplete⟩
  rw [Mutating.wp_pure]
  have hboth := hfirst.trans hids he hown.opened.lt fun _ _ hcell' => hlast.cell_eq hcell₂ hcell'
  have hbuilt := hown.built hbase fun _ hcell' => hboth.cell_eq hcell hcell'
  refine ⟨⟨hbuilt.opened.toLinked, hbuilt.frame, ?_⟩, hcomplete⟩
  obtain ⟨height, hheight, hshape⟩ := hbuilt.shape
  have hmove := hbuilt.frame.mono hbase
  have hsees : Sees base h h₃ [] h₃ := by
    refine ⟨nofun, fun _ _ _ => Cell.without_nil.symm, fun a ha => hmove.attrOf ha, ?_⟩
    exact hmove.closed hclosed
  rw [Heap.tree, hshape h₃ [] hsees h₃.nextKey (by omega)]
  unfold SAMLAuthContext.printed
  simp only [List.append_nil]

end SigVal.Extensions.Saci
