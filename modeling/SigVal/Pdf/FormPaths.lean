import SigVal.Pdf.Cos

/-!
# Looking up a path in a form

`AcroForm.getObjectRef` is to find the object that is referenced under a path of keys, and
an update of that object is let through later. The lookup is more willing than that. A key
that is missing in a dictionary is searched for in the dictionaries below it, and a value
that is no dictionary leaves the search where it is, for the next key.
-/

namespace SigVal.Pdf

open SigVal.Java

/-- The dictionary under a key. -/
def dictionaryAt (entries : List (String × COSBase)) (name : String) :
    Option (List (String × COSBase)) :=
  (entries.lookup name).bind COSBase.asDictionary

/-- The number of the object that is referenced under a path. Every key is an entry of the
dictionary reached so far, and all but the last lead to a dictionary. -/
def referenceAt : List (String × COSBase) → List String → Option Nat
  | _, [] => none
  | entries, [name] =>
      match entries.lookup name with
      | some (.object key) => some key.number
      | _ => none
  | entries, name :: next :: path =>
      match dictionaryAt entries name with
      | some inner => referenceAt inner (next :: path)
      | none => none

/-! ## The dictionaries below -/

/-- The keys of each dictionary are distinct. -/
def DistinctKeys (entries : List (String × COSBase)) : Prop :=
  (COSBase.dictionary entries).wf = true

/-- The name is a key of the dictionary, or of a dictionary somewhere below it. -/
inductive Occurs (name : String) : List (String × COSBase) → Prop where
  | key {entries : List (String × COSBase)} {v : COSBase} :
      entries.lookup name = some v → Occurs name entries
  | deeper {entries inner : List (String × COSBase)} {k : String} :
      dictionaryAt entries k = some inner → Occurs name inner → Occurs name entries

/-- The first dictionary in the dictionary in which the name occurs, as the keys are
visited. -/
def FirstWith (jvm : Jvm) (name : String) (entries inner : List (String × COSBase)) : Prop :=
  ∃ before k after, jvm.keySetOrder (entries.map Prod.fst) = before ++ k :: after ∧
    dictionaryAt entries k = some inner ∧ Occurs name inner ∧
    ∀ k' ∈ before, ∀ other, dictionaryAt entries k' = some other → ¬ Occurs name other

/-- The value of a name in the nearest dictionary: its own entry, or else what the first
dictionary has in which the name occurs. -/
inductive Nearest (jvm : Jvm) (name : String) : List (String × COSBase) → COSBase → Prop where
  | own {entries : List (String × COSBase)} {v : COSBase} :
      entries.lookup name = some v → Nearest jvm name entries v
  | deeper {entries inner : List (String × COSBase)} {v : COSBase} :
      entries.lookup name = none → FirstWith jvm name entries inner →
        Nearest jvm name inner v → Nearest jvm name entries v

/-- A path of nearest values that ends at a reference to the object. A value that is no
dictionary is passed over. -/
inductive Wanders (jvm : Jvm) : List (String × COSBase) → List String → Nat → Prop where
  | ends {entries : List (String × COSBase)} {name : String} {key : COSObjectKey} :
      Nearest jvm name entries (.object key) → Wanders jvm entries [name] key.number
  | into {entries inner : List (String × COSBase)} {name : String} {path : List String}
      {number : Nat} {v : COSBase} :
      Nearest jvm name entries v → v.asDictionary = some inner → Wanders jvm inner path number →
        Wanders jvm entries (name :: path) number
  | past {entries : List (String × COSBase)} {name : String} {path : List String} {number : Nat}
      {v : COSBase} :
      Nearest jvm name entries v → v.asDictionary = none → Wanders jvm entries path number →
        Wanders jvm entries (name :: path) number

/-- The path is left, at a key that is missing or leads to no dictionary, and from there on
nearest values lead to a reference all the same. -/
inductive Astray (jvm : Jvm) : List (String × COSBase) → List String → Nat → Prop where
  | missing {entries : List (String × COSBase)} {name : String} {path : List String}
      {number : Nat} :
      entries.lookup name = none → Wanders jvm entries (name :: path) number →
        Astray jvm entries (name :: path) number
  | noDictionary {entries : List (String × COSBase)} {name : String} {path : List String}
      {number : Nat} {v : COSBase} :
      entries.lookup name = some v → v.asDictionary = none → Wanders jvm entries path number →
        Astray jvm entries (name :: path) number
  | further {entries inner : List (String × COSBase)} {name : String} {path : List String}
      {number : Nat} {v : COSBase} :
      entries.lookup name = some v → v.asDictionary = some inner →
        Astray jvm inner path number → Astray jvm entries (name :: path) number

variable {jvm : Jvm} {entries inner : List (String × COSBase)} {name : String}
  {path : List String} {number : Nat} {v : COSBase}

theorem dictionaryAt_some_iff :
    dictionaryAt entries name = some inner ↔
      ∃ v, entries.lookup name = some v ∧ v.asDictionary = some inner :=
  Option.bind_eq_some_iff

theorem sizeOf_asDictionary (h : v.asDictionary = some inner) : sizeOf inner < sizeOf v := by
  cases v with
  | dictionary entries =>
      cases h
      simp
  | stream entries =>
      cases h
      simp
  | _ => cases h

theorem sizeOf_dictionaryAt (h : dictionaryAt entries name = some inner) :
    sizeOf inner < sizeOf entries := by
  obtain ⟨v, hv, hinner⟩ := dictionaryAt_some_iff.mp h
  have hmem := List.sizeOf_lt_of_mem (mem_of_lookup hv)
  have hvalue := sizeOf_asDictionary hinner
  simp only [Prod.mk.sizeOf_spec] at hmem
  omega

/-- What holds of a dictionary once it holds of the dictionaries in it holds of all. -/
theorem dictionary_induction {P : List (String × COSBase) → Prop}
    (step : ∀ entries, (∀ k inner, dictionaryAt entries k = some inner → P inner) → P entries)
    (entries : List (String × COSBase)) : P entries :=
  step entries fun _ inner h =>
    have := sizeOf_dictionaryAt h
    dictionary_induction step inner
termination_by sizeOf entries

theorem DistinctKeys.nodup (h : DistinctKeys entries) : (entries.map Prod.fst).Nodup := by
  unfold DistinctKeys at h
  rw [COSBase.wf, Bool.and_eq_true, decide_eq_true_eq] at h
  exact h.1

theorem distinctKeys_of_asDictionary (hwf : v.wf = true) (h : v.asDictionary = some entries) :
    DistinctKeys entries := by
  cases v with
  | dictionary entries =>
      cases h
      exact hwf
  | stream entries =>
      cases h
      exact hwf
  | _ => cases h

theorem DistinctKeys.value (h : DistinctKeys entries) (hv : entries.lookup name = some v) :
    v.wf = true := by
  unfold DistinctKeys at h
  rw [COSBase.wf, Bool.and_eq_true] at h
  exact COSBase.wf_of_mem h.2 (mem_of_lookup hv)

theorem DistinctKeys.sub (h : DistinctKeys entries)
    (hinner : dictionaryAt entries name = some inner) : DistinctKeys inner := by
  obtain ⟨v, hv, hinner⟩ := dictionaryAt_some_iff.mp hinner
  exact distinctKeys_of_asDictionary (h.value hv) hinner

theorem FirstWith.dictionaryAt (h : FirstWith jvm name entries inner) :
    ∃ k, dictionaryAt entries k = some inner := by
  obtain ⟨_, k, _, _, hinner, _⟩ := h
  exact ⟨k, hinner⟩

/-- The first dictionary is one. -/
theorem FirstWith.unique {other : List (String × COSBase)} (h : FirstWith jvm name entries inner)
    (h' : FirstWith jvm name entries other) : inner = other := by
  obtain ⟨before, k, after, hkeys, hinner, hoccurs, hbefore⟩ := h
  obtain ⟨before', k', after', hkeys', hother, hoccurs', hbefore'⟩ := h'
  rw [hkeys] at hkeys'
  rcases List.append_eq_append_iff.mp hkeys' with ⟨rest, rfl, hrest⟩ | ⟨rest, rfl, hrest⟩
  · cases rest with
    | nil =>
        cases hrest
        exact Option.some.inj (hinner.symm.trans hother)
    | cons first rest =>
        cases hrest
        exact absurd hoccurs (hbefore' k (by simp) inner hinner)
  · cases rest with
    | nil =>
        cases hrest
        exact Option.some.inj (hinner.symm.trans hother)
    | cons first rest =>
        cases hrest
        exact absurd hoccurs' (hbefore k' (by simp) other hother)

theorem Nearest.unique {v' : COSBase} (h : Nearest jvm name entries v)
    (h' : Nearest jvm name entries v') : v = v' := by
  induction h with
  | own hv =>
      cases h' with
      | own hv' => exact Option.some.inj (hv.symm.trans hv')
      | deeper hnone _ _ =>
          rw [hv] at hnone
          cases hnone
  | deeper hnone hfirst _ ih =>
      cases h' with
      | own hv' =>
          rw [hnone] at hv'
          cases hv'
      | deeper _ hfirst' hnearest' =>
          rw [← hfirst.unique hfirst'] at hnearest'
          exact ih hnearest'

theorem Nearest.wf (h : Nearest jvm name entries v) (hkeys : DistinctKeys entries) :
    v.wf = true := by
  induction h with
  | own hv => exact hkeys.value hv
  | deeper _ hfirst _ ih =>
      obtain ⟨k, hinner⟩ := hfirst.dictionaryAt
      exact ih (hkeys.sub hinner)

/-! ## The search of the source -/

section Search

open ObjectValue

/-- No dictionary. -/
def IsPlain (value : ObjectValue) : Prop := ∀ m, value ≠ .cosDictionary m

theorem ofBase_dictionary (h : v.asDictionary = some inner) :
    ofBase v = .cosDictionary (Dictionary.ofCOSDictionary inner) := by
  cases v with
  | dictionary entries =>
      cases h
      rfl
  | stream entries =>
      cases h
      rfl
  | _ => cases h

theorem ofBase_plain (h : v.asDictionary = none) : IsPlain (ofBase v) := by
  intro m hm
  cases v with
  | dictionary entries => cases h
  | stream entries => cases h
  | _ => cases hm

theorem findIn_plain {value : ObjectValue} (h : IsPlain value) :
    Dictionary.findIn jvm name value = none := by
  cases value with
  | cosDictionary m => exact absurd rfl (h m)
  | _ => rfl

theorem map_fst_ofEntries (entries : List (String × COSBase)) :
    (ofEntries entries).map Prod.fst = entries.map Prod.fst := by
  induction entries with
  | nil => rfl
  | cons e rest ih => exact congrArg (e.1 :: ·) ih

/-- A hit that is kept for a key is the hit in the value of the key. -/
theorem lookup_nestedHits {m : Dictionary} (hnodup : (m.map Prod.fst).Nodup) (k : String) :
    (Dictionary.nestedHits jvm name m).lookup k =
      (m.lookup k).bind (Dictionary.findIn jvm name) := by
  induction m with
  | nil => rfl
  | cons e rest ih =>
      obtain ⟨k', value⟩ := e
      rw [List.map_cons, List.nodup_cons] at hnodup
      have ih := ih hnodup.2
      rw [Dictionary.nestedHits, lookup_cons_eq]
      by_cases hk : k = k'
      · subst hk
        have hnone : rest.lookup k = none := by
          rw [Option.eq_none_iff_forall_ne_some]
          intro found hfound
          exact hnodup.1 (List.mem_map.mpr ⟨(k, found), mem_of_lookup hfound, rfl⟩)
        rw [if_pos rfl, Option.bind_some]
        cases hhit : Dictionary.findIn jvm name value with
        | none =>
            rw [ih, hnone]
            rfl
        | some hit => exact List.lookup_cons_self
      · rw [if_neg hk, ← ih]
        cases hhit : Dictionary.findIn jvm name value with
        | none => rfl
        | some hit =>
            rw [lookup_cons_eq, if_neg hk]

/-- A key that is missing is searched for below, key by key. -/
theorem getValueByName_below (hkeys : DistinctKeys entries) (hnone : entries.lookup name = none) :
    Dictionary.getValueByName jvm (Dictionary.ofCOSDictionary entries) name =
      (jvm.keySetOrder (entries.map Prod.fst)).findSome? fun k =>
        (dictionaryAt entries k).bind fun inner =>
          Dictionary.getValueByName jvm (Dictionary.ofCOSDictionary inner) name := by
  have hmap : (Dictionary.ofCOSDictionary entries).map Prod.fst = entries.map Prod.fst :=
    map_fst_ofEntries entries
  have hlookup : ∀ k, (Dictionary.ofCOSDictionary entries).lookup k =
      (entries.lookup k).map ofBase := fun k => ofEntries_lookup k entries
  rw [Dictionary.getValueByName, Dictionary.findIn, hlookup, hnone, hmap]
  dsimp only [Option.map_none]
  congr 1
  funext k
  rw [lookup_nestedHits (by rw [hmap]; exact hkeys.nodup), hlookup, dictionaryAt]
  cases entries.lookup k with
  | none => rfl
  | some v =>
      cases hv : v.asDictionary with
      | none => simp [hv, findIn_plain (ofBase_plain hv)]
      | some inner =>
          simp only [Option.map_some, Option.bind_some, hv, ofBase_dictionary hv]
          rfl

theorem getValueByName_own (hv : entries.lookup name = some v) :
    Dictionary.getValueByName jvm (Dictionary.ofCOSDictionary entries) name =
      some (ofBase v) := by
  have hlookup : (Dictionary.ofCOSDictionary entries).lookup name =
      (entries.lookup name).map ofBase := ofEntries_lookup name entries
  rw [Dictionary.getValueByName, Dictionary.findIn, hlookup, hv]
  rfl

/-- **The search finds a name where it occurs.** -/
theorem getValueByName_isSome_iff (hkeys : DistinctKeys entries) :
    (Dictionary.getValueByName jvm (Dictionary.ofCOSDictionary entries) name).isSome = true ↔
      Occurs name entries := by
  induction entries using dictionary_induction with
  | step entries ih =>
      cases hlookup : entries.lookup name with
      | some v =>
          rw [getValueByName_own hlookup]
          exact iff_of_true rfl (.key hlookup)
      | none =>
          rw [getValueByName_below hkeys hlookup, List.findSome?_isSome_iff]
          constructor
          · rintro ⟨k, -, hhit⟩
            cases hinner : dictionaryAt entries k with
            | none =>
                rw [hinner] at hhit
                cases hhit
            | some inner =>
                rw [hinner, Option.bind_some] at hhit
                exact .deeper hinner ((ih k inner hinner (hkeys.sub hinner)).mp hhit)
          · intro hoccurs
            cases hoccurs with
            | key hv =>
                rw [hlookup] at hv
                cases hv
            | deeper hinner hoccurs =>
                obtain ⟨v, hv, -⟩ := dictionaryAt_some_iff.mp hinner
                have hkey := List.mem_map_of_mem (f := Prod.fst) (mem_of_lookup hv)
                refine ⟨_, (jvm.keySetOrder_perm _).mem_iff.mpr hkey, ?_⟩
                rw [hinner, Option.bind_some]
                exact (ih _ _ hinner (hkeys.sub hinner)).mpr hoccurs

/-- **The search finds the nearest value.** -/
theorem getValueByName_iff (hkeys : DistinctKeys entries) {value : ObjectValue} :
    Dictionary.getValueByName jvm (Dictionary.ofCOSDictionary entries) name = some value ↔
      ∃ v, Nearest jvm name entries v ∧ ofBase v = value := by
  induction entries using dictionary_induction with
  | step entries ih =>
      cases hlookup : entries.lookup name with
      | some v =>
          rw [getValueByName_own hlookup, Option.some.injEq]
          constructor
          · intro hvalue
            exact ⟨v, .own hlookup, hvalue⟩
          · rintro ⟨v', hnearest, hvalue⟩
            rw [(Nearest.own hlookup).unique hnearest]
            exact hvalue
      | none =>
          rw [getValueByName_below hkeys hlookup, List.findSome?_eq_some_iff]
          constructor
          · rintro ⟨before, k, after, horder, hhit, hbefore⟩
            obtain ⟨inner, hinner, hhit⟩ := Option.bind_eq_some_iff.mp hhit
            have hoccurs : Occurs name inner :=
              (getValueByName_isSome_iff (hkeys.sub hinner)).mp (by rw [hhit]; rfl)
            obtain ⟨v, hnearest, hvalue⟩ := (ih k inner hinner (hkeys.sub hinner)).mp hhit
            refine ⟨v, .deeper hlookup ⟨before, k, after, horder, hinner, hoccurs, ?_⟩ hnearest,
              hvalue⟩
            intro k' hk' other hother hoccurs'
            have hnone := hbefore k' hk'
            rw [hother, Option.bind_some] at hnone
            rw [← getValueByName_isSome_iff (hkeys.sub hother), hnone] at hoccurs'
            cases hoccurs'
          · rintro ⟨v, hnearest, hvalue⟩
            cases hnearest with
            | own hv =>
                rw [hlookup] at hv
                cases hv
            | deeper _ hfirst hnearest =>
                obtain ⟨before, k, after, horder, hinner, hoccurs, hbefore⟩ := hfirst
                refine ⟨before, k, after, horder, ?_, ?_⟩
                · rw [hinner, Option.bind_some]
                  exact (ih k _ hinner (hkeys.sub hinner)).mpr ⟨v, hnearest, hvalue⟩
                · intro k' hk'
                  cases hother : dictionaryAt entries k' with
                  | none => rfl
                  | some other =>
                      rw [Option.bind_some, Option.eq_none_iff_forall_ne_some]
                      intro found hfound
                      apply hbefore k' hk' other hother
                      exact (getValueByName_isSome_iff (hkeys.sub hother)).mp
                        (by rw [hfound]; rfl)

end Search

namespace AcroForm

open ObjectValue

/-- The entries of the form dictionary. -/
def formEntries (objectValue : COSBase) (cosDocument : COSDocument) :
    Option (List (String × COSBase)) :=
  match objectValue with
  | .object key => (cosDocument.getObject key).bind COSBase.asDictionary
  | value => value.asDictionary

theorem ofCOS_eq (objectValue : COSBase) (cosDocument : COSDocument) :
    ofCOS objectValue cosDocument =
      ⟨(formEntries objectValue cosDocument).map Dictionary.ofCOSDictionary⟩ := by
  cases objectValue <;> rfl

theorem formEntries_distinct {objectValue : COSBase} {cosDocument : COSDocument}
    (hwf : objectValue.wf = true) (h : formEntries objectValue cosDocument = some entries) :
    DistinctKeys entries := by
  cases objectValue with
  | object key =>
      obtain ⟨value, hvalue, hentries⟩ := Option.bind_eq_some_iff.mp h
      exact distinctKeys_of_asDictionary (COSDocument.getObject_wf hvalue) hentries
  | _ => exact distinctKeys_of_asDictionary hwf h

theorem not_wanders_nil : ¬ Wanders jvm entries [] number := by
  rintro ⟨⟩

/-! One key, by what is nearest for it. -/

theorem not_wanders_of_none (hnone : ∀ v, ¬ Nearest jvm name entries v) :
    ¬ Wanders jvm entries (name :: path) number := by
  rintro (h | ⟨h, -, -⟩ | ⟨h, -, -⟩)
  · exact hnone _ h
  · exact hnone _ h
  · exact hnone _ h

theorem wanders_into_iff (hnearest : Nearest jvm name entries v)
    (hinner : v.asDictionary = some inner) :
    Wanders jvm entries (name :: path) number ↔ Wanders jvm inner path number := by
  constructor
  · rintro (h | ⟨h, hother, hrest⟩ | ⟨h, hplain, -⟩)
    · rw [hnearest.unique h] at hinner
      cases hinner
    · rw [hnearest.unique h, hother] at hinner
      cases hinner
      exact hrest
    · rw [hnearest.unique h, hplain] at hinner
      cases hinner
  · exact .into hnearest hinner

theorem wanders_past_iff (hnearest : Nearest jvm name entries v) (hplain : v.asDictionary = none) :
    Wanders jvm entries (name :: path) number ↔
      (path = [] ∧ ofBase v = .cosObject number) ∨ Wanders jvm entries path number := by
  constructor
  · rintro (h | ⟨h, hinner, -⟩ | ⟨h, -, hrest⟩)
    · rw [hnearest.unique h]
      exact .inl ⟨rfl, rfl⟩
    · rw [hnearest.unique h, hinner] at hplain
      cases hplain
    · exact .inr hrest
  · rintro (⟨rfl, hvalue⟩ | hrest)
    · cases v with
      | object key =>
          cases hvalue
          exact .ends hnearest
      | _ => cases hvalue
    · exact .past hnearest hplain hrest

theorem followPath_plain {m : Dictionary} {value : ObjectValue} {last : Option ObjectValue}
    (hfound : Dictionary.getValueByName jvm m name = some value) (hplain : IsPlain value) :
    followPath jvm (name :: path) (some m) last = followPath jvm path (some m) (some value) := by
  rw [followPath, hfound]
  cases value with
  | cosDictionary inner => exact absurd rfl (hplain inner)
  | _ => rfl

/-- **What the lookup finds.** -/
theorem followPath_iff (hkeys : DistinctKeys entries) {last : Option ObjectValue} :
    followPath jvm (name :: path) (some (Dictionary.ofCOSDictionary entries)) last =
        some (.cosObject number) ↔
      Wanders jvm entries (name :: path) number := by
  induction path generalizing entries name last with
  | nil =>
      cases hfound : Dictionary.getValueByName jvm (Dictionary.ofCOSDictionary entries) name with
      | none =>
          rw [followPath, hfound]
          refine iff_of_false (by simp) (not_wanders_of_none fun v hnearest => ?_)
          rw [(getValueByName_iff hkeys).mpr ⟨v, hnearest, rfl⟩] at hfound
          cases hfound
      | some value =>
          obtain ⟨v, hnearest, rfl⟩ := (getValueByName_iff hkeys).mp hfound
          cases hv : v.asDictionary with
          | some inner =>
              rw [followPath, hfound, ofBase_dictionary hv, wanders_into_iff hnearest hv]
              exact iff_of_false (by simp [followPath]) not_wanders_nil
          | none =>
              rw [followPath_plain hfound (ofBase_plain hv), wanders_past_iff hnearest hv]
              simp [followPath, not_wanders_nil]
  | cons next path ih =>
      cases hfound : Dictionary.getValueByName jvm (Dictionary.ofCOSDictionary entries) name with
      | none =>
          rw [followPath, hfound]
          refine iff_of_false (by simp) (not_wanders_of_none fun v hnearest => ?_)
          rw [(getValueByName_iff hkeys).mpr ⟨v, hnearest, rfl⟩] at hfound
          cases hfound
      | some value =>
          obtain ⟨v, hnearest, rfl⟩ := (getValueByName_iff hkeys).mp hfound
          have hwf := hnearest.wf hkeys
          cases hv : v.asDictionary with
          | some inner =>
              rw [followPath, hfound, ofBase_dictionary hv, wanders_into_iff hnearest hv]
              exact ih (distinctKeys_of_asDictionary hwf hv)
          | none =>
              rw [followPath_plain hfound (ofBase_plain hv), wanders_past_iff hnearest hv,
                ih hkeys]
              simp

theorem getObjectRef_iff {form : AcroForm}
    (hkeys : form.dictionary = some (Dictionary.ofCOSDictionary entries))
    (hdistinct : DistinctKeys entries) :
    getObjectRef jvm form (name :: path) = number ↔ Wanders jvm entries (name :: path) number := by
  rw [← followPath_iff hdistinct, ← hkeys]
  unfold getObjectRef
  split
  · rename_i found hfound
    rw [hfound]
    simp only [Option.some.injEq, ObjectValue.cosObject.injEq, Int.ofNat_inj]
  · rename_i hnot
    exact iff_of_false (by simp) (hnot number)

/-! ## On the path and astray -/

/-- Astray there is nothing at the end of the path. -/
theorem referenceAt_of_astray (h : Astray jvm entries path number) :
    referenceAt entries path = none := by
  induction h with
  | missing hmissing hwanders =>
      rename_i path _
      cases path with
      | nil => rw [referenceAt, hmissing]
      | cons next path => rw [referenceAt, dictionaryAt, hmissing, Option.bind_none]
  | noDictionary hvalue hplain hwanders =>
      rename_i path _ _
      cases path with
      | nil => exact absurd hwanders not_wanders_nil
      | cons next path => rw [referenceAt, dictionaryAt, hvalue, Option.bind_some, hplain]
  | further hvalue hinner hastray ih =>
      rename_i path _ _
      cases path with
      | nil => cases hastray
      | cons next path =>
          rw [referenceAt, dictionaryAt, hvalue, Option.bind_some, hinner]
          exact ih

/-- A key with a dictionary, and more of the path. -/
theorem referenceAt_into (hvalue : entries.lookup name = some v)
    (hinner : v.asDictionary = some inner) :
    referenceAt entries (name :: path) = referenceAt inner path := by
  cases path with
  | nil =>
      unfold referenceAt
      rw [hvalue]
      cases v with
      | object key => cases hinner
      | _ => rfl
  | cons next path => rw [referenceAt, dictionaryAt, hvalue, Option.bind_some, hinner]

/-- A key with another value ends the path. -/
theorem referenceAt_plain (hvalue : entries.lookup name = some v)
    (hplain : v.asDictionary = none) :
    referenceAt entries (name :: path) = some number ↔
      path = [] ∧ ofBase v = .cosObject number := by
  cases path with
  | nil =>
      rw [referenceAt, hvalue]
      cases v with
      | object key => simp [ofBase]
      | _ => simp [ofBase]
  | cons next path =>
      rw [referenceAt, dictionaryAt, hvalue, Option.bind_some, hplain]
      simp

theorem astray_into_iff (hvalue : entries.lookup name = some v)
    (hinner : v.asDictionary = some inner) :
    Astray jvm entries (name :: path) number ↔ Astray jvm inner path number := by
  constructor
  · rintro (⟨h, -⟩ | ⟨h, hplain, -⟩ | ⟨h, hother, hastray⟩)
    · rw [hvalue] at h
      cases h
    · rw [hvalue] at h
      cases h
      rw [hinner] at hplain
      cases hplain
    · rw [hvalue] at h
      cases h
      rw [hinner] at hother
      cases hother
      exact hastray
  · exact .further hvalue hinner

theorem astray_plain_iff (hvalue : entries.lookup name = some v) (hplain : v.asDictionary = none) :
    Astray jvm entries (name :: path) number ↔ Wanders jvm entries path number := by
  constructor
  · rintro (⟨h, -⟩ | ⟨-, -, hwanders⟩ | ⟨h, hinner, -⟩)
    · rw [hvalue] at h
      cases h
    · exact hwanders
    · rw [hvalue] at h
      cases h
      rw [hplain] at hinner
      cases hinner
  · exact .noDictionary hvalue hplain

/-- **The lookup follows the path or goes astray.** -/
theorem wanders_iff : Wanders jvm entries path number ↔
    referenceAt entries path = some number ∨ Astray jvm entries path number := by
  induction path generalizing entries with
  | nil =>
      apply iff_of_false not_wanders_nil
      rintro (h | h)
      · cases h
      · cases h
  | cons name path ih =>
      cases hlookup : entries.lookup name with
      | none =>
          constructor
          · intro hwanders
            exact .inr (.missing hlookup hwanders)
          · rintro (hexact | ⟨-, hwanders⟩ | ⟨h, -, -⟩ | ⟨h, -, -⟩)
            · cases path with
              | nil =>
                  rw [referenceAt, hlookup] at hexact
                  cases hexact
              | cons next path =>
                  rw [referenceAt, dictionaryAt, hlookup, Option.bind_none] at hexact
                  cases hexact
            · exact hwanders
            · rw [hlookup] at h
              cases h
            · rw [hlookup] at h
              cases h
      | some v =>
          cases hv : v.asDictionary with
          | some inner =>
              rw [wanders_into_iff (.own hlookup) hv, referenceAt_into hlookup hv,
                astray_into_iff hlookup hv]
              exact ih
          | none =>
              rw [wanders_past_iff (.own hlookup) hv, referenceAt_plain hlookup hv,
                astray_plain_iff hlookup hv]

/-- **Exact lookup.** Under a path the lookup finds what is referenced there and nothing
else, exactly when no path of nearest values leads astray to a reference. -/
theorem getObjectRef_exact_iff (jvm : Jvm) {objectValue : COSBase} (hwf : objectValue.wf = true)
    (cosDocument : COSDocument) (name : String) (path : List String) :
    (∀ number : Nat,
      getObjectRef jvm (ofCOS objectValue cosDocument) (name :: path) = number ↔
        ∃ entries, formEntries objectValue cosDocument = some entries ∧
          referenceAt entries (name :: path) = some number) ↔
    ∀ entries, formEntries objectValue cosDocument = some entries →
      ∀ number, ¬ Astray jvm entries (name :: path) number := by
  rw [ofCOS_eq]
  cases hform : formEntries objectValue cosDocument with
  | none => simp [getObjectRef, followPath]
  | some entries =>
      have hdistinct := formEntries_distinct hwf hform
      have hresult : ∀ number : Nat, getObjectRef jvm
          ⟨(some entries).map Dictionary.ofCOSDictionary⟩ (name :: path) = number ↔
            referenceAt entries (name :: path) = some number ∨
              Astray jvm entries (name :: path) number := by
        intro number
        exact (getObjectRef_iff rfl hdistinct).trans wanders_iff
      simp only [hresult, Option.some.injEq, exists_eq_left', forall_eq']
      constructor
      · intro hexact number hastray
        have hpath := (hexact number).mp (.inr hastray)
        rw [referenceAt_of_astray hastray] at hpath
        cases hpath
      · intro hnot number
        exact or_iff_left (hnot number)

/-- `<< /DR 7 0 R /MK << /Font 4 0 R >> >>`: the resources are an object of their own. -/
def referencedResources : COSBase :=
  .dictionary [("DR", .object ⟨7, 0⟩), ("MK", .dictionary [("Font", .object ⟨4, 0⟩)])]

def emptyDocument : COSDocument where
  xrefTable := ∅
  objects := ∅
  trailer := []
  objects_wf := by simp

theorem getObjectRef_exact_iff_referenced :
    referencedResources.wf = true ∧
      ((∀ number : Nat,
        getObjectRef plainJvm (ofCOS referencedResources emptyDocument) ["DR", "Font"] = number ↔
          ∃ entries, formEntries referencedResources emptyDocument = some entries ∧
            referenceAt entries ["DR", "Font"] = some number) ↔
      ∀ entries, formEntries referencedResources emptyDocument = some entries →
        ∀ number, ¬ Astray plainJvm entries ["DR", "Font"] number) :=
  ⟨by decide, getObjectRef_exact_iff plainJvm (by decide) emptyDocument "DR" ["Font"]⟩

/-- Nothing is referenced under `DR`, `Font`, and the object 4 is found. -/
theorem font_found_elsewhere :
    getObjectRef plainJvm (ofCOS referencedResources emptyDocument) ["DR", "Font"] = 4 ∧
      ¬ ∃ entries, formEntries referencedResources emptyDocument = some entries ∧
        referenceAt entries ["DR", "Font"] = some 4 := by
  refine ⟨by decide, ?_⟩
  rintro ⟨entries, hform, href⟩
  cases hform
  revert href
  decide

end AcroForm

end SigVal.Pdf
