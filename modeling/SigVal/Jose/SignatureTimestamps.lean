import SigVal.Jose.SvtClaimsIssuer
import SigVal.Policy.DirectSoundness

/-!
# The timestamps in `etsiU`

`etsiU` holds components of many kinds, each as JSON text, as the base64url form of such
text, or as a JSON object of its own. The signature timestamps are the tokens of the
`sigTst` components. The validator reads every text into a class that knows `sigTst`
only, so a component of another kind cannot be read, and one text that cannot be read
hides the tokens of all others.
-/

namespace SigVal.Jose

open SigVal.Java
open JOSESignatureDataValidator

variable {Cert : Type}

/-! ## The tokens of a list -/

/-- The first JSON value that passes, of the text of an item and its decoded text. -/
def readingOf (env : JoseEnv Cert) (passes : Json JsonScalar → Bool) (etsiUItem : String) :
    Option (Json JsonScalar) :=
  ((env.readJson etsiUItem).toOption.filter passes).or
    ((env.readDecodedJson etsiUItem).toOption.filter passes)

/-- The component that stands in an item. Of two readings the one that the class takes
goes first, then one that is an object. -/
def componentOf (env : JoseEnv Cert) : Json JsonScalar → Option (Json JsonScalar)
  | .string etsiUItem =>
      (readingOf env isComponent etsiUItem).or (readingOf env Json.isObject etsiUItem)
  | .object members => some (.object members)
  | _ => none

def decoded (env : JoseEnv Cert) (val : String) : Option Bytes :=
  match env.base64Decode val with
  | .ok bytes => some bytes
  | .error _ => none

/-- The decodable tokens of the `sigTst` member of an item. -/
def tokensOf (env : JoseEnv Cert) (item : Json JsonScalar) : List Bytes :=
  match componentOf env item with
  | none => []
  | some component => (sigTstVals component).filterMap (decoded env)

/-- **The signature timestamps of a list.** -/
def sigTstTokens (env : JoseEnv Cert) (items : List (Json JsonScalar)) : List Bytes :=
  items.flatMap (tokensOf env)

/-- When they are found: each text is read as a component, and no object that is no text
has tokens; or some text cannot be read, and there are no tokens. -/
def TokensReachable (env : JoseEnv Cert) (items : List (Json JsonScalar)) : Prop :=
  ((∀ text, .string text ∈ items →
        ∃ members, readingOf env isComponent text = some (.object members)) ∧
      ∀ members, .object members ∈ items → tokensOf env (.object members) = []) ∨
    (∃ text, .string text ∈ items ∧ readingOf env isComponent text = none) ∧
      sigTstTokens env items = []

/-! ## What the validator reads -/

section Reading

variable {env : JoseEnv Cert} {items : List (Json JsonScalar)} {text : String}

/-- The class takes objects and `null`. -/
theorem component_shape {json : Json JsonScalar} (h : isComponent json = true) :
    json = .scalar .null ∨ ∃ members, json = .object members := by
  cases json with
  | scalar value => cases value with
    | null => exact .inl rfl
    | bool b => cases h
    | number n => cases h
  | string s => cases h
  | array items => cases h
  | object members => exact .inr ⟨members, rfl⟩

/-- What is read passes. -/
theorem reading_passes {passes : Json JsonScalar → Bool} {json : Json JsonScalar}
    (h : readingOf env passes text = some json) : passes json = true := by
  rcases Option.or_eq_some_iff.mp h with hplain | ⟨-, hdecoded⟩
  · exact (Option.filter_eq_some_iff.mp hplain).2
  · exact (Option.filter_eq_some_iff.mp hdecoded).2

/-- A value that the class takes is bound. -/
theorem bind_of_passes {x : Outcome (Json JsonScalar)} {json : Json JsonScalar}
    (h : x.toOption.filter isComponent = some json) :
    ∃ component, (x >>= EtsiUComponent.ofJson) = .ok component ∧
      EtsiUComponent.ofJson json = .ok component := by
  cases x with
  | error ex => cases h
  | ok json' =>
      obtain ⟨hsame, hpasses⟩ := Option.filter_eq_some_iff.mp h
      cases hsame
      obtain ⟨component, hcomponent⟩ := (checks_component json).mpr hpasses
      exact ⟨component, hcomponent, hcomponent⟩

theorem bind_of_not_passes {x : Outcome (Json JsonScalar)}
    (h : x.toOption.filter isComponent = none) :
    ∃ ex, (x >>= EtsiUComponent.ofJson) = .error ex := by
  cases x with
  | error ex => exact ⟨ex, rfl⟩
  | ok json =>
      show ∃ ex, EtsiUComponent.ofJson json = .error ex
      cases hjson : EtsiUComponent.ofJson json with
      | error ex => exact ⟨ex, rfl⟩
      | ok component =>
          have hpasses := (checks_component json).mp ⟨component, hjson⟩
          have hsome : (Except.ok json : Outcome _).toOption.filter isComponent = some json :=
            Option.filter_eq_some_iff.mpr ⟨rfl, hpasses⟩
          rw [hsome] at h
          cases h

/-- An item is bound from the first reading that the class takes. -/
theorem readItem_of_some {json : Json JsonScalar}
    (h : readingOf env isComponent text = some json) :
    ∃ component, readItem env text = .ok component ∧
      EtsiUComponent.ofJson json = .ok component := by
  unfold readingOf at h
  unfold readItem
  cases hplain : (env.readJson text).toOption.filter isComponent with
  | some json' =>
      rw [hplain, Option.some_or] at h
      cases h
      obtain ⟨component, hbound, hjson⟩ := bind_of_passes hplain
      rw [hbound]
      exact ⟨component, rfl, hjson⟩
  | none =>
      rw [hplain, Option.none_or] at h
      obtain ⟨ex, herror⟩ := bind_of_not_passes hplain
      rw [herror]
      exact bind_of_passes h

theorem readItem_of_none (h : readingOf env isComponent text = none) :
    ∃ ex, readItem env text = .error ex := by
  obtain ⟨hplain, hdecoded⟩ := Option.or_eq_none_iff.mp h
  unfold readItem
  obtain ⟨ex, herror⟩ := bind_of_not_passes hplain
  rw [herror]
  exact bind_of_not_passes hdecoded

/-- One text that cannot be read empties the list. -/
theorem readComponents_none
    (h : ∃ text, .string text ∈ items ∧ readingOf env isComponent text = none) :
    readComponents env (toJsonValues items) = none := by
  obtain ⟨text, hmem, hnone⟩ := h
  induction items with
  | nil => cases hmem
  | cons item rest ih =>
      rcases List.mem_cons.mp hmem with rfl | hrest
      · obtain ⟨ex, herror⟩ := readItem_of_none hnone
        simp only [toJsonValues, toJsonValue, readComponents, herror]
      · cases item with
        | string other =>
            simp only [toJsonValues, toJsonValue, readComponents, ih hrest]
            cases readItem env other <;> rfl
        | scalar value => exact ih hrest
        | array items' => exact ih hrest
        | object members => exact ih hrest

/-- A text and the component that was read from it. -/
def ReadAs (env : JoseEnv Cert) (text : String) (component : Option EtsiUComponent) : Prop :=
  ∃ json, readingOf env isComponent text = some json ∧
    EtsiUComponent.ofJson json = .ok component

/-- Texts that can all be read give the components in their order. -/
theorem readComponents_some
    (h : ∀ text, .string text ∈ items → ∃ json, readingOf env isComponent text = some json) :
    ∃ components, readComponents env (toJsonValues items) = some components ∧
      List.Forall₂ (ReadAs env) (Json.textsOf (.array items)) components := by
  induction items with
  | nil => exact ⟨[], rfl, .nil⟩
  | cons item rest ih =>
      obtain ⟨components, hread, hall⟩ :=
        ih fun text hmem => h text (List.mem_cons_of_mem item hmem)
      cases item with
      | string text =>
          obtain ⟨json, hjson⟩ := h text List.mem_cons_self
          obtain ⟨component, hitem, hbound⟩ := readItem_of_some hjson
          refine ⟨component :: components, ?_, .cons ⟨json, hjson, hbound⟩ hall⟩
          simp only [toJsonValues, toJsonValue, readComponents, hitem, hread]
          rfl
      | scalar value => exact ⟨components, hread, hall⟩
      | array items' => exact ⟨components, hread, hall⟩
      | object members => exact ⟨components, hread, hall⟩

theorem mem_textsOf_iff {items : List (Json JsonScalar)} :
    text ∈ Json.textsOf (.array items) ↔ .string text ∈ items := by
  unfold Json.textsOf
  rw [List.mem_filterMap]
  constructor
  · rintro ⟨item, hmem, htext⟩
    split at htext
    · cases htext
      exact hmem
    · cases htext
  · intro hmem
    exact ⟨.string text, hmem, rfl⟩

/-- A token decodes as its text does. -/
theorem decodeToken_eq (token : Option TimeStampToken) :
    decodeToken env token = (token.bind (·.val)).bind (decoded env) := by
  cases token with
  | none => rfl
  | some token =>
      obtain ⟨val⟩ := token
      cases val with
      | none => rfl
      | some val => rfl

theorem componentOf_of_reading {json : Json JsonScalar}
    (h : readingOf env isComponent text = some json) :
    componentOf env (.string text) = some json := by
  show (readingOf env isComponent text).or _ = _
  rw [h, Option.some_or]

/-- The tokens of a component are those of the text it was read from. -/
theorem tokens_of_readAs {component : Option EtsiUComponent}
    {members : List (String × Json JsonScalar)}
    (hreading : readingOf env isComponent text = some (.object members))
    (hread : ReadAs env text component) :
    ∃ c, component = some c ∧
      c.tokens.filterMap (decodeToken env) = tokensOf env (.string text) := by
  obtain ⟨json, hjson, hbound⟩ := hread
  cases hjson.symm.trans hreading
  cases component with
  | none => cases bindBean_none hbound
  | some c =>
      refine ⟨c, rfl, ?_⟩
      unfold tokensOf
      rw [componentOf_of_reading hreading]
      show _ = (sigTstVals (.object members)).filterMap (decoded env)
      rw [← vals_of_ofJson hbound, List.filterMap_filterMap]
      exact List.filterMap_congr fun token _ => decodeToken_eq token

/-- The loop over the components. -/
def collectTokens (env : JoseEnv Cert) (components : List (Option EtsiUComponent)) :
    Outcome (List (List Bytes)) :=
  components.mapM fun etsiUComponent => do
    let etsiUComponent ← deref etsiUComponent
    return etsiUComponent.tokens.filterMap (decodeToken env)

theorem collectTokens_bound {texts : List String} {components : List (Option EtsiUComponent)}
    (hread : List.Forall₂ (ReadAs env) texts components)
    (hbound : ∀ text ∈ texts,
      ∃ members, readingOf env isComponent text = some (.object members)) :
    ∃ lists, collectTokens env components = .ok lists ∧
      lists.flatten = texts.flatMap fun text => tokensOf env (.string text) := by
  induction hread with
  | nil => exact ⟨[], rfl, rfl⟩
  | @cons text component texts components hhead _ ih =>
      obtain ⟨members, hreading⟩ := hbound text List.mem_cons_self
      obtain ⟨c, rfl, htokens⟩ := tokens_of_readAs hreading hhead
      obtain ⟨lists, hlists, hflat⟩ :=
        ih fun other hmem => hbound other (List.mem_cons_of_mem text hmem)
      refine ⟨c.tokens.filterMap (decodeToken env) :: lists, ?_, ?_⟩
      · unfold collectTokens at hlists ⊢
        rw [List.mapM_cons, hlists]
        rfl
      · rw [List.flatten_cons, List.flatMap_cons, htokens, hflat]

theorem collectTokens_null {texts : List String} {components : List (Option EtsiUComponent)}
    (hread : List.Forall₂ (ReadAs env) texts components) (hmem : text ∈ texts)
    (hnull : readingOf env isComponent text = some (.scalar .null)) :
    ∃ ex, collectTokens env components = .error ex := by
  obtain ⟨component, hcomponent, json, hjson, hbound⟩ := forall₂_left hread text hmem
  cases hjson.symm.trans hnull
  cases hbound
  cases hall : collectTokens env components with
  | error ex => exact ⟨ex, rfl⟩
  | ok lists =>
      obtain ⟨list, hlist⟩ := exists_mapM_ok_iff.mp ⟨lists, hall⟩ none hcomponent
      cases hlist

/-! ## Texts and objects -/

/-- The tokens of the texts of a list. -/
def textTokens (env : JoseEnv Cert) (items : List (Json JsonScalar)) : List Bytes :=
  (Json.textsOf (.array items)).flatMap fun text => tokensOf env (.string text)

theorem textTokens_cons_string (text : String) (rest : List (Json JsonScalar)) :
    textTokens env (.string text :: rest) =
      tokensOf env (.string text) ++ textTokens env rest := rfl

theorem sigTstTokens_cons (item : Json JsonScalar) (rest : List (Json JsonScalar)) :
    sigTstTokens env (item :: rest) = tokensOf env item ++ sigTstTokens env rest := rfl

/-- They are among those of the list. -/
theorem textTokens_sublist (items : List (Json JsonScalar)) :
    (textTokens env items).Sublist (sigTstTokens env items) := by
  induction items with
  | nil => exact List.Sublist.refl _
  | cons item rest ih =>
      cases item with
      | string text =>
          exact List.Sublist.append (List.Sublist.refl (tokensOf env (.string text))) ih
      | scalar value => exact ih
      | array items => exact ih
      | object members => exact ih.trans (List.sublist_append_right _ _)

/-- They are all of them exactly when no object has tokens. -/
theorem textTokens_eq_iff (items : List (Json JsonScalar)) :
    textTokens env items = sigTstTokens env items ↔
      ∀ members, .object members ∈ items → tokensOf env (.object members) = [] := by
  induction items with
  | nil => exact iff_of_true rfl fun members h => (by cases h)
  | cons item rest ih =>
      rw [sigTstTokens_cons]
      cases item with
      | string text =>
          rw [textTokens_cons_string, List.append_cancel_left_eq, ih]
          simp
      | scalar value => exact ih.trans (by simp)
      | array items => exact ih.trans (by simp)
      | object members =>
          have hlength : (textTokens env rest).length ≤ _ := (textTokens_sublist rest).length_le
          show textTokens env rest = _ ↔ _
          constructor
          · intro h
            have hempty : tokensOf env (.object members) = [] := by
              rw [h, List.length_append] at hlength
              exact List.length_eq_zero_iff.mp (by omega)
            rw [hempty, List.nil_append] at h
            intro other hother
            rcases List.mem_cons.mp hother with hhead | hrest
            · cases hhead
              exact hempty
            · exact ih.mp h other hrest
          · intro h
            rw [h members List.mem_cons_self, List.nil_append]
            exact ih.mpr fun other hother => h other (List.mem_cons_of_mem _ hother)

/-! ## What the validator returns -/

variable {signatureData : JOSESignatureData Cert}
  (hetsiU : etsiUParam signatureData = some (toJsonValue (.array items)))

include hetsiU

/-- The two loops of `getSignatureTimestampList`. -/
theorem getSignatureTimestampList_eq :
    getSignatureTimestampList env signatureData =
      (collectTokens env ((readComponents env (toJsonValues items)).getD [])).map
        List.flatten := by
  unfold getSignatureTimestampList
  rw [hetsiU]
  show (collectTokens env _ >>= fun lists => pure lists.flatten) = _
  cases collectTokens env ((readComponents env (toJsonValues items)).getD []) <;> rfl

theorem timestamps_unreadable
    (h : ∃ text, .string text ∈ items ∧ readingOf env isComponent text = none) :
    getSignatureTimestampList env signatureData = .ok [] := by
  rw [getSignatureTimestampList_eq hetsiU, readComponents_none h]
  rfl

theorem timestamps_null {text : String} (hmem : .string text ∈ items)
    (hread : ∀ text, .string text ∈ items → ∃ json, readingOf env isComponent text = some json)
    (hnull : readingOf env isComponent text = some (.scalar .null)) :
    ∃ ex, getSignatureTimestampList env signatureData = .error ex := by
  obtain ⟨components, hcomponents, hall⟩ := readComponents_some hread
  obtain ⟨ex, herror⟩ := collectTokens_null hall (mem_textsOf_iff.mpr hmem) hnull
  refine ⟨ex, ?_⟩
  rw [getSignatureTimestampList_eq hetsiU, hcomponents, Option.getD_some, herror]
  rfl

theorem timestamps_bound
    (hbound : ∀ text, .string text ∈ items →
      ∃ members, readingOf env isComponent text = some (.object members)) :
    getSignatureTimestampList env signatureData = .ok (textTokens env items) := by
  have hread : ∀ text, .string text ∈ items →
      ∃ json, readingOf env isComponent text = some json := by
    intro text hmem
    obtain ⟨members, hsome⟩ := hbound text hmem
    exact ⟨_, hsome⟩
  obtain ⟨components, hcomponents, hall⟩ := readComponents_some hread
  obtain ⟨lists, hlists, hflat⟩ := collectTokens_bound hall fun text hmem =>
    hbound text (mem_textsOf_iff.mp hmem)
  rw [getSignatureTimestampList_eq hetsiU, hcomponents, Option.getD_some, hlists]
  show Except.ok lists.flatten = _
  rw [hflat]
  rfl

/-- The validator finds the tokens of a list exactly when they can be reached. -/
theorem found_iff_reachable :
    getSignatureTimestampList env signatureData = .ok (sigTstTokens env items) ↔
      TokensReachable env items := by
  by_cases hunreadable : ∃ text, .string text ∈ items ∧ readingOf env isComponent text = none
  · rw [timestamps_unreadable hetsiU hunreadable]
    constructor
    · intro h
      exact .inr ⟨hunreadable, (Except.ok.inj h).symm⟩
    · rintro (⟨hbound, -⟩ | ⟨-, hempty⟩)
      · obtain ⟨text, hmem, hnone⟩ := hunreadable
        obtain ⟨members, hsome⟩ := hbound text hmem
        rw [hnone] at hsome
        cases hsome
      · rw [hempty]
  · have hread : ∀ text, .string text ∈ items →
        ∃ json, readingOf env isComponent text = some json := by
      intro text hmem
      apply Option.ne_none_iff_exists'.mp
      exact fun hnone => hunreadable ⟨text, hmem, hnone⟩
    by_cases hbound : ∀ text, .string text ∈ items →
        ∃ members, readingOf env isComponent text = some (.object members)
    · rw [timestamps_bound hetsiU hbound]
      constructor
      · intro h
        exact .inl ⟨hbound, (textTokens_eq_iff items).mp (Except.ok.inj h)⟩
      · rintro (⟨-, hobjects⟩ | ⟨h, -⟩)
        · rw [(textTokens_eq_iff items).mpr hobjects]
        · exact absurd h hunreadable
    · -- what the class takes and is no object is null
      obtain ⟨text, hmem, hnull⟩ : ∃ text, .string text ∈ items ∧
          readingOf env isComponent text = some (.scalar .null) := by
        by_contra hnone
        apply hbound
        intro text hmem
        obtain ⟨json, hjson⟩ := hread text hmem
        rcases component_shape (reading_passes hjson) with rfl | ⟨members, rfl⟩
        · exact absurd ⟨text, hmem, hjson⟩ hnone
        · exact ⟨members, hjson⟩
      obtain ⟨ex, herror⟩ := timestamps_null hetsiU hmem hread hnull
      rw [herror]
      apply iff_of_false (by simp)
      rintro (⟨h, -⟩ | ⟨h, -⟩)
      · exact hbound h
      · exact hunreadable h

end Reading

/-- An item without tokens does not change the tokens of a list. -/
theorem sigTstTokens_insert {env : JoseEnv Cert} {item : Json JsonScalar}
    (hitem : tokensOf env item = []) (before after : List (Json JsonScalar)) :
    sigTstTokens env (before ++ item :: after) = sigTstTokens env (before ++ after) := by
  unfold sigTstTokens
  rw [List.flatMap_append, List.flatMap_append, List.flatMap_cons, hitem, List.nil_append]

/-- **When the signature timestamps are found.** For every list in `etsiU` the validator
returns its tokens exactly when they can be reached. And when they can, an item without
tokens may be put anywhere into the list without a change exactly when they still can
with it. -/
theorem signatureTimestamps_found_iff (env : JoseEnv Cert) :
    (∀ (signatureData : JOSESignatureData Cert) (items : List (Json JsonScalar)),
      etsiUParam signatureData = some (toJsonValue (.array items)) →
        (getSignatureTimestampList env signatureData = .ok (sigTstTokens env items) ↔
          TokensReachable env items)) ∧
      ∀ (signatureData inserted : JOSESignatureData Cert) (before after : List (Json JsonScalar))
        (item : Json JsonScalar),
        etsiUParam signatureData = some (toJsonValue (.array (before ++ after))) →
        etsiUParam inserted = some (toJsonValue (.array (before ++ item :: after))) →
        tokensOf env item = [] → TokensReachable env (before ++ after) →
          (getSignatureTimestampList env inserted = getSignatureTimestampList env signatureData ↔
            TokensReachable env (before ++ item :: after)) := by
  constructor
  · intro signatureData items hetsiU
    exact found_iff_reachable hetsiU
  · intro signatureData inserted before after item hetsiU hinserted hitem hreachable
    rw [(found_iff_reachable hetsiU).mpr hreachable, ← sigTstTokens_insert hitem before after]
    exact found_iff_reachable hinserted

/-! A list with a timestamp and with the validation data that long-term signatures hold,
both in base64url form. -/

def sigTstItem : String := "eyJzaWdUc3QiOnsidHN0VG9rZW5zIjpbeyJ2YWwiOiJNQUE9In1dfX0"
def xValsItem : String := "eyJ4VmFscyI6W119"

/-- The decoded texts of the two items. -/
def readDemoItem (etsiUItem : String) : Outcome (Json JsonScalar) :=
  if etsiUItem = sigTstItem then
    .ok (.object [("sigTst", .object [("tstTokens",
      .array [.object [("val", .string "MAA=")]])])])
  else if etsiUItem = xValsItem then .ok (.object [("xVals", .array [])])
  else .error ⟨.io, "not JSON"⟩

def etsiUEnv : JoseEnv Nat :=
  { Policy.joseEnv with
    readDecodedJson := readDemoItem
    base64Decode := fun val =>
      if val = "MAA=" then .ok [0x30, 0] else .error ⟨.runtime, "not base64"⟩ }

/-- A signature with the list in its unprotected header. -/
def withEtsiU (items : List (Json JsonScalar)) : JOSESignatureData Nat :=
  { Policy.verifiedJose with
    unprotectedHeader := some [("etsiU", toJsonValue (.array items))] }

theorem sigTst_reachable (after : List (Json JsonScalar))
    (hafter : ∀ item ∈ after, item = .object [("arcTst", .array [])]) :
    TokensReachable etsiUEnv (.string sigTstItem :: after) := by
  refine .inl ⟨?_, ?_⟩
  · intro text hmem
    rcases List.mem_cons.mp hmem with htext | hrest
    · cases htext
      exact ⟨_, rfl⟩
    · cases hafter _ hrest
  · intro members hmem
    rcases List.mem_cons.mp hmem with htext | hrest
    · cases htext
    · cases hafter _ hrest
      rfl

/-- The timestamp is found, and still with an archive timestamp beside it. -/
theorem signatureTimestamps_found_iff_archived :
    getSignatureTimestampList etsiUEnv (withEtsiU [.string sigTstItem]) = .ok [[0x30, 0]] ∧
      getSignatureTimestampList etsiUEnv
          (withEtsiU [.string sigTstItem, .object [("arcTst", .array [])]]) =
        getSignatureTimestampList etsiUEnv (withEtsiU [.string sigTstItem]) := by
  obtain ⟨hfound, hinsert⟩ := signatureTimestamps_found_iff etsiUEnv
  have hreachable := sigTst_reachable [] (fun _ h => (by cases h))
  constructor
  · exact (hfound _ _ rfl).mpr hreachable
  · refine (hinsert _ _ [.string sigTstItem] [] (.object [("arcTst", .array [])]) rfl rfl rfl
      hreachable).mpr ?_
    exact sigTst_reachable _ fun item h => List.mem_singleton.mp h

/-- The validation data beside it hide the timestamp. -/
theorem xVals_hide_timestamp :
    getSignatureTimestampList etsiUEnv
        (withEtsiU [.string sigTstItem, .string xValsItem]) ≠
      .ok (sigTstTokens etsiUEnv [.string sigTstItem, .string xValsItem]) ∧
    tokensOf etsiUEnv (.string xValsItem) = [] ∧
    getSignatureTimestampList etsiUEnv
        (withEtsiU [.string sigTstItem, .string xValsItem]) ≠
      getSignatureTimestampList etsiUEnv (withEtsiU [.string sigTstItem]) := by
  have hempty : getSignatureTimestampList etsiUEnv
      (withEtsiU [.string sigTstItem, .string xValsItem]) = .ok [] := rfl
  refine ⟨?_, rfl, ?_⟩
  · rw [hempty]
    intro h
    cases h
  · rw [hempty]
    intro h
    cases h

end SigVal.Jose
