import SigVal.Lib.Java
import SigVal.Lib.Json
import Mathlib.Data.List.Induction

/-!
# Components of `etsiU`

`EtsiUComponent` and its parts, and what `ObjectMapper.readValue` makes of a JSON value
for them. Each of the classes has one property. The mapper is used as it comes: a member
the class does not know is an error, `null` is a missing reference, of a repeated member
the last value stays, and a number or a boolean is taken for its text where a text is
expected.
-/

namespace SigVal.Jose

open SigVal.Java

/-- The scalars of a JSON text; a number is kept as it is written. -/
inductive JsonScalar where
  | null
  | bool (value : Bool)
  | number (text : String)
deriving DecidableEq, Repr

structure TimeStampToken where
  val : Option String
deriving DecidableEq, Repr

structure TimeStampData where
  tstTokens : Option (List (Option TimeStampToken))
deriving DecidableEq, Repr

structure EtsiUComponent where
  sigTst : Option TimeStampData
deriving DecidableEq, Repr

/-! ## The mapper -/

section Mapper

variable {β γ : Type}

/-- A class with one property, `make` being its constructor. -/
def bindBean (property : String) (bind : Json JsonScalar → Outcome (Option β))
    (make : Option β → γ) : Json JsonScalar → Outcome (Option γ)
  | .scalar .null => .ok none
  | .object members => do
      let value ← members.foldlM
        (fun _ member =>
          if member.1 = property then bind member.2
          else .error ⟨.io, "Unrecognized field \"" ++ member.1 ++ "\""⟩)
        none
      return some (make value)
  | _ => .error ⟨.io, "Cannot deserialize value"⟩

/-- A list of such values. -/
def bindList (bind : Json JsonScalar → Outcome (Option β)) :
    Json JsonScalar → Outcome (Option (List (Option β)))
  | .scalar .null => .ok none
  | .array items => do
      let values ← items.mapM bind
      return some values
  | _ => .error ⟨.io, "Cannot deserialize value"⟩

/-- The text of a value, where it has one. -/
def textOf : Json JsonScalar → Option String
  | .string s => some s
  | .scalar (.number text) => some text
  | .scalar (.bool true) => some "true"
  | .scalar (.bool false) => some "false"
  | _ => none

/-- A property of class `String`. -/
def bindText : Json JsonScalar → Outcome (Option String)
  | .scalar .null => .ok none
  | json =>
      match textOf json with
      | some text => .ok (some text)
      | none => .error ⟨.io, "Cannot deserialize value"⟩

end Mapper

def TimeStampToken.ofJson : Json JsonScalar → Outcome (Option TimeStampToken) :=
  bindBean "val" bindText TimeStampToken.mk

def TimeStampData.ofJson : Json JsonScalar → Outcome (Option TimeStampData) :=
  bindBean "tstTokens" (bindList TimeStampToken.ofJson) TimeStampData.mk

/-- `OBJECT_MAPPER.readValue(…, EtsiUComponent.class)` on the parsed text. -/
def EtsiUComponent.ofJson : Json JsonScalar → Outcome (Option EtsiUComponent) :=
  bindBean "sigTst" TimeStampData.ofJson EtsiUComponent.mk

/-! ## What can be bound -/

/-- `null`, or an object whose members all have the name and pass the check. -/
def isBean (property : String) (check : Json JsonScalar → Bool) : Json JsonScalar → Bool
  | .scalar .null => true
  | .object members => members.all fun member => member.1 == property && check member.2
  | _ => false

def isList (check : Json JsonScalar → Bool) : Json JsonScalar → Bool
  | .scalar .null => true
  | .array items => items.all check
  | _ => false

def isText : Json JsonScalar → Bool
  | .scalar _ => true
  | .string _ => true
  | _ => false

/-- A component with no member but `sigTst`, whose parts have no others either. -/
def isComponent : Json JsonScalar → Bool :=
  isBean "sigTst" (isBean "tstTokens" (isList (isBean "val" isText)))

section Shapes

variable {β γ : Type} {bind : Json JsonScalar → Outcome (Option β)}
  {check : Json JsonScalar → Bool} {property : String} {make : Option β → γ}

/-- Binding succeeds exactly on the values that pass the check. -/
def Checks (bind : Json JsonScalar → Outcome (Option β)) (check : Json JsonScalar → Bool) : Prop :=
  ∀ json, (∃ value, bind json = .ok value) ↔ check json = true

theorem checks_bindText : Checks bindText isText := by
  intro json
  cases json with
  | scalar value => cases value with
    | null => simp [bindText, isText]
    | bool b => cases b <;> simp [bindText, textOf, isText]
    | number text => simp [bindText, textOf, isText]
  | string s => simp [bindText, textOf, isText]
  | array items => simp [bindText, textOf, isText]
  | object members => simp [bindText, textOf, isText]

/-- The loop over the members ends well exactly when each of them does. -/
theorem members_ok_iff (members : List (String × Json JsonScalar)) (start : Option β)
    (h : Checks bind check) :
    (∃ value, members.foldlM
        (fun _ member =>
          if member.1 = property then bind member.2
          else .error ⟨.io, "Unrecognized field \"" ++ member.1 ++ "\""⟩) start = .ok value) ↔
      (members.all fun member => member.1 == property && check member.2) = true := by
  induction members generalizing start with
  | nil => exact iff_of_true ⟨start, rfl⟩ rfl
  | cons member rest ih =>
      rw [List.foldlM_cons, List.all_cons, Bool.and_eq_true, Bool.and_eq_true, beq_iff_eq, ← h]
      simp only [bind_ok_iff]
      constructor
      · rintro ⟨value, next, hmember, hrest⟩
        split at hmember
        · rename_i hname
          exact ⟨⟨hname, next, hmember⟩, (ih next).mp ⟨value, hrest⟩⟩
        · cases hmember
      · rintro ⟨⟨hname, next, hmember⟩, hrest⟩
        obtain ⟨value, hvalue⟩ := (ih next).mpr hrest
        refine ⟨value, next, ?_, hvalue⟩
        rw [if_pos hname]
        exact hmember

theorem checks_bindBean (h : Checks bind check) :
    Checks (bindBean property bind make) (isBean property check) := by
  intro json
  cases json with
  | scalar value => cases value <;> simp [bindBean, isBean]
  | string s => simp [bindBean, isBean]
  | array items => simp [bindBean, isBean]
  | object members =>
      refine Iff.trans ?_ (members_ok_iff members none h)
      simp only [bindBean, bind_ok_iff]
      constructor
      · rintro ⟨-, value, hvalue, -⟩
        exact ⟨value, hvalue⟩
      · rintro ⟨value, hvalue⟩
        exact ⟨_, value, hvalue, rfl⟩

theorem checks_bindList (h : Checks bind check) : Checks (bindList bind) (isList check) := by
  intro json
  cases json with
  | scalar value => cases value <;> simp [bindList, isList]
  | string s => simp [bindList, isList]
  | object members => simp [bindList, isList]
  | array items =>
      show _ ↔ items.all check = true
      rw [List.all_eq_true]
      refine Iff.trans ?_ (exists_mapM_ok_iff.trans (forall₂_congr fun item _ => h item))
      simp only [bindList, bind_ok_iff]
      constructor
      · rintro ⟨-, values, hvalues, -⟩
        exact ⟨values, hvalues⟩
      · rintro ⟨values, hvalues⟩
        exact ⟨_, values, hvalues, rfl⟩

/-- Only `null` is bound to a missing reference. -/
theorem bindBean_none {json : Json JsonScalar}
    (h : bindBean property bind make json = .ok none) : json = .scalar .null := by
  cases json with
  | scalar value => cases value with
    | null => rfl
    | bool b => cases h
    | number text => cases h
  | string s => cases h
  | array items => cases h
  | object members =>
      obtain ⟨value, -, hmake⟩ := bind_ok_iff.mp h
      cases hmake

/-- The property is that of the member that counts. -/
theorem bindBean_some {json : Json JsonScalar} {bean : γ}
    (h : bindBean property bind make json = .ok (some bean)) :
    ∃ value, bean = make value ∧ (json.member property = none → value = none) ∧
      ∀ j, json.member property = some j → bind j = .ok value := by
  cases json with
  | scalar value => cases value <;> cases h
  | string s => cases h
  | array items => cases h
  | object members =>
      obtain ⟨value, hvalue, hmake⟩ := bind_ok_iff.mp h
      cases hmake
      refine ⟨value, rfl, ?_⟩
      -- the last member is the one whose value stays
      induction members using List.reverseRecOn with
      | nil =>
          cases hvalue
          exact ⟨fun _ => rfl, fun j hj => (by cases hj)⟩
      | append_singleton members member _ =>
          rw [List.foldlM_append, bind_ok_iff] at hvalue
          obtain ⟨before, -, hlast⟩ := hvalue
          rw [List.foldlM_cons, bind_ok_iff] at hlast
          obtain ⟨last, hlast, hend⟩ := hlast
          cases hend
          split at hlast
          · rename_i hname
            have hmember : (Json.object (members ++ [member])).member property =
                some member.2 := by
              show (members ++ [member]).reverse.lookup property = _
              rw [List.reverse_append, ← hname]
              exact List.lookup_cons_self
            rw [hmember]
            refine ⟨fun hnone => (by cases hnone), ?_⟩
            intro j hj
            cases hj
            exact hlast
          · cases hlast

end Shapes

/-- **What is bound, and what is refused.** -/
theorem checks_component : Checks EtsiUComponent.ofJson isComponent :=
  checks_bindBean (checks_bindBean (checks_bindList (checks_bindBean checks_bindText)))

/-! ## The texts of the tokens -/

/-- The tokens of a component. -/
def EtsiUComponent.tokens (component : EtsiUComponent) : List (Option TimeStampToken) :=
  match component.sigTst with
  | none => []
  | some sigTst => sigTst.tstTokens.getD []

/-- The texts that a JSON value carries as tokens in its `sigTst` member. Other members
do not matter, at no level. -/
def sigTstVals (component : Json JsonScalar) : List String :=
  match (component.member "sigTst").bind (Json.member "tstTokens") with
  | some (.array tokens) => tokens.filterMap fun token => (token.member "val").bind textOf
  | _ => []

theorem bindText_ok {json : Json JsonScalar} {text : Option String}
    (h : bindText json = .ok text) : text = textOf json := by
  unfold bindText at h
  split at h
  · cases h
    rfl
  · cases htext : textOf json with
    | none =>
        rw [htext] at h
        cases h
    | some s =>
        rw [htext] at h
        cases h
        rfl

theorem val_of_ofJson {json : Json JsonScalar} {token : Option TimeStampToken}
    (h : TimeStampToken.ofJson json = .ok token) :
    token.bind (·.val) = (json.member "val").bind textOf := by
  cases token with
  | none =>
      rw [bindBean_none h]
      rfl
  | some token =>
      obtain ⟨value, rfl, hnone, hsome⟩ := bindBean_some h
      cases hmember : json.member "val" with
      | none => exact hnone hmember
      | some j => exact bindText_ok (hsome j hmember)

theorem vals_of_bindList {json : Json JsonScalar}
    {tokens : Option (List (Option TimeStampToken))}
    (h : bindList TimeStampToken.ofJson json = .ok tokens) :
    (tokens.getD []).filterMap (fun token => token.bind (·.val)) =
      match some json with
      | some (.array items) => items.filterMap fun token => (token.member "val").bind textOf
      | _ => [] := by
  cases json with
  | scalar value => cases value <;> cases h; rfl
  | string s => cases h
  | object members => cases h
  | array items =>
      obtain ⟨values, hvalues, hsome⟩ := bind_ok_iff.mp h
      cases hsome
      exact filterMap_eq_of_forall₂
        ((forall₂_of_mapM_ok hvalues).imp fun _ _ hitem => val_of_ofJson hitem)

/-- **The bound component carries the tokens of the JSON value.** -/
theorem vals_of_ofJson {json : Json JsonScalar} {component : EtsiUComponent}
    (h : EtsiUComponent.ofJson json = .ok (some component)) :
    component.tokens.filterMap (fun token => token.bind (·.val)) = sigTstVals json := by
  obtain ⟨sigTst, rfl, hnone, hsome⟩ := bindBean_some h
  unfold sigTstVals EtsiUComponent.tokens
  cases hsigTst : json.member "sigTst" with
  | none =>
      rw [hnone hsigTst]
      rfl
  | some data =>
      have hdata := hsome data hsigTst
      cases sigTst with
      | none =>
          rw [bindBean_none hdata]
          rfl
      | some bean =>
          obtain ⟨tokens, rfl, hnone', hsome'⟩ := bindBean_some hdata
          rw [Option.bind_some]
          cases htokens : data.member "tstTokens" with
          | none =>
              rw [hnone' htokens]
              rfl
          | some list =>
              exact vals_of_bindList (hsome' list htokens)

end SigVal.Jose
