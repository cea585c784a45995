import SigVal.Extensions.ParsedStatements

/-!
# Encoding and decoding statements

The encoder writes each kind of statement at most once, so that the decoder finds the data
of a kind in the one statement there is. What it finds is what was written wherever both
use the same string type.
-/

namespace SigVal.Extensions.QCStatements

open SigVal.Java SigVal.Asn1

variable {GeneralName α : Type} {lib : Library GeneralName} {x y : QCStatements GeneralName}

/-! ## The statements that are written -/

/-- The value of a statement, if it could be made. -/
def valueList (value : Outcome (Option Primitive)) : List Primitive :=
  match value with
  | .ok value => value.toList
  | .error _ => []

/-- The statements whose flag is set. -/
def writtenStatements (statements : List (Bool × ObjectIdentifier × Outcome (Option Primitive))) :
    List (List Primitive) :=
  statements.flatMap fun statement =>
    if statement.1 then [.oid statement.2.1 :: valueList statement.2.2] else []

section Written

variable {statements : List (Bool × ObjectIdentifier × Outcome (Option Primitive))} {flag : Bool}
  {statementId : ObjectIdentifier} {value : Outcome (Option Primitive)}

theorem mapM_statementIf {parts : List (Option Primitive)}
    (h : statements.mapM statementIf = .ok parts) :
    parts.filterMap id = (writtenStatements statements).map .sequence := by
  have hforall := forall₂_of_mapM_ok h
  clear h
  unfold writtenStatements
  induction hforall with
  | nil => rfl
  | @cons statement part rest parts hpart _ ih =>
      unfold statementIf at hpart
      rw [List.flatMap_cons, List.map_append, ← ih]
      split at hpart
      · rename_i hflag
        obtain ⟨value, hvalue, hpart⟩ := bind_ok_iff.mp hpart
        cases hpart
        rw [if_pos hflag, hvalue]
        rfl
      · rename_i hflag
        cases hpart
        rw [if_neg hflag]
        rfl

theorem isA_cons (statementId id : ObjectIdentifier) (values : List Primitive) :
    isA statementId (.oid id :: values) = (id == statementId) := rfl

theorem lastOf_if (u : List Primitive → Option α) (statementSeq : List Primitive) :
    lastOf u (if flag then [statementSeq] else []) = if flag then u statementSeq else none := by
  cases flag with
  | false => rfl
  | true => exact lastOf_singleton u

theorem lastOf_written_eq_none {u : List Primitive → Option α}
    (h : ∀ statement ∈ statements, ∀ values, u (.oid statement.2.1 :: values) = none) :
    lastOf u (writtenStatements statements) = none := by
  rw [← Option.not_isSome_iff_eq_none, Option.isSome_iff_exists, lastOf_isSome_iff]
  rintro ⟨written, hwritten, a, ha⟩
  obtain ⟨statement, hstatement, hin⟩ := List.mem_flatMap.mp hwritten
  split at hin
  · rw [List.mem_singleton.mp hin, h statement hstatement] at ha
    cases ha
  · cases hin

/-- The data of a kind is read from the statement of the kind, if there is one. -/
theorem lastOf_written {u : List Primitive → Option α} {i : Nat}
    (hother : ∀ id values, id ≠ statementId → u (.oid id :: values) = none)
    (hnodup : (statements.map (·.2.1)).Nodup)
    (hget : statements[i]? = some (flag, statementId, value)) :
    lastOf u (writtenStatements statements) =
      if flag then u (.oid statementId :: valueList value) else none := by
  have hmem := List.mem_of_getElem? hget
  clear hget
  induction statements with
  | nil => cases hmem
  | cons statement rest ih =>
      rw [List.map_cons, List.nodup_cons] at hnodup
      have hcons : writtenStatements (statement :: rest) =
          (if statement.1 then [.oid statement.2.1 :: valueList statement.2.2] else []) ++
            writtenStatements rest := rfl
      rw [hcons, lastOf_append]
      rcases List.mem_cons.mp hmem with rfl | hmem
      · have hrest : lastOf u (writtenStatements rest) = none := by
          refine lastOf_written_eq_none fun other hother' values => hother _ _ ?_
          rintro heq
          exact hnodup.1 (List.mem_map.mpr ⟨other, hother', heq⟩)
        rw [hrest, Option.none_or]
        exact lastOf_if u _
      · have hne : statement.2.1 ≠ statementId := by
          rintro heq
          exact hnodup.1 (List.mem_map.mpr ⟨_, hmem, heq.symm⟩)
        have hfirst : lastOf u (if statement.1 then [.oid statement.2.1 :: valueList statement.2.2]
            else []) = none := by
          rw [lastOf_if, hother _ _ hne]
          exact ite_self none
        rw [ih hnodup.2 hmem, hfirst, Option.or_none]

theorem valueOf_other {read : List Primitive → Outcome α} (id : ObjectIdentifier)
    (values : List Primitive) (h : id ≠ statementId) :
    valueOf statementId read (.oid id :: values) = none := by
  unfold valueOf
  rw [isA_cons, beq_eq_false_iff_ne.mpr h]
  rfl

/-- The flag of a kind is there when it was set. -/
theorem any_written {i : Nat} (hnodup : (statements.map (·.2.1)).Nodup)
    (hget : statements[i]? = some (flag, statementId, value)) :
    (writtenStatements statements).any (isA statementId) = flag := by
  have hlast := lastOf_written (u := valueOf statementId fun _ => .ok ()) valueOf_other hnodup hget
  have hself : valueOf statementId (fun _ => .ok ()) (.oid statementId :: valueList value) =
      some () := valueOf_eq_some_iff.mpr ⟨beq_self_eq_true _, rfl⟩
  rw [hself] at hlast
  cases flag with
  | false =>
      rw [List.any_eq_false]
      intro s hs hkind
      have hread : valueOf statementId (fun _ => .ok ()) s = some () :=
        valueOf_eq_some_iff.mpr ⟨hkind, rfl⟩
      obtain ⟨_, hsome⟩ := lastOf_isSome_iff.mpr ⟨s, hs, (), hread⟩
      rw [hlast] at hsome
      cases hsome
  | true =>
      obtain ⟨s, hs, hkind⟩ := exists_of_lastOf hlast
      exact List.any_eq_true.mpr ⟨s, hs, (valueOf_eq_some_iff.mp hkind).1⟩

end Written

/-- Encoding writes the statements, in their order, and decoding reads them. -/
theorem getInstance_encoded (h : DataPresent x) (lib : Library GeneralName) :
    ∃ encoded, x.toASN1Primitive lib = .ok encoded ∧
      getInstance lib (some encoded) =
        .ok (some (parsed lib (writtenStatements (statementsOf lib x)))) := by
  obtain ⟨encoded, hencoded⟩ := (toASN1Primitive_ok_iff lib).mpr h
  obtain ⟨parts, hparts, hok⟩ := bind_ok_iff.mp hencoded
  cases hok
  refine ⟨_, hencoded, ?_⟩
  rw [mapM_statementIf hparts]
  rcases ofSequence_cases lib ((writtenStatements (statementsOf lib x)).map .sequence) with
    ⟨statements, heq, hread⟩ | ⟨⟨element, hmem, hnot⟩, -⟩
  · rw [List.map_injective_iff.mpr (fun _ _ h => by injection h) heq] at hread ⊢
    show (do
      let x ← ofSequence lib _
      pure (some x)) = _
    rw [hread]
    rfl
  · obtain ⟨elements, -, rfl⟩ := List.mem_map.mp hmem
    exact absurd rfl (hnot elements)

/-! ## The data of each kind -/

/-- What is kept of the semantics information: the getters of its fields. -/
def semanticsFields (info : SemanticsInformation GeneralName) :
    Option ObjectIdentifier × List GeneralName :=
  (info.semanticsIdentifier, info.getNameRegistrationAuthorityList)

/-- The two are equal in every field. -/
structure SameFields (x y : QCStatements GeneralName) : Prop where
  pkixSyntaxV1 : x.pkixSyntaxV1 = y.pkixSyntaxV1
  pkixSyntaxV2 : x.pkixSyntaxV2 = y.pkixSyntaxV2
  qcCompliance : x.qcCompliance = y.qcCompliance
  pdsStatement : x.pdsStatement = y.pdsStatement
  qcSscd : x.qcSscd = y.qcSscd
  qcType : x.qcType = y.qcType
  retentionPeriod : x.retentionPeriod = y.retentionPeriod
  limitValue : x.limitValue = y.limitValue
  qcCClegislation : x.qcCClegislation = y.qcCClegislation
  monetaryValue : x.monetaryValue = y.monetaryValue
  qcTypeIdList : x.qcTypeIdList = y.qcTypeIdList
  retentionPeriodVal : x.retentionPeriodVal = y.retentionPeriodVal
  locationList : x.locationList = y.locationList
  semanticsInfo : x.semanticsInfo.map semanticsFields = y.semanticsInfo.map semanticsFields
  legislationCountryList : x.legislationCountryList = y.legislationCountryList

/-- The values that survive: there are no locations, a kind that is not stated has no data,
and the texts can be represented. -/
structure Survives (lib : Library GeneralName) (x : QCStatements GeneralName) : Prop where
  locations : x.locationList = some []
  types : x.qcType = false → x.qcTypeIdList = some []
  no_limit : x.limitValue = false → x.monetaryValue = none
  limit : x.limitValue = true → ∀ limit currency, x.monetaryValue = some limit →
    limit.currency = some currency → lib.printable currency = currency
  years : x.retentionPeriod = false → x.retentionPeriodVal = none
  semantics : x.pkixSyntaxV1 = false → x.pkixSyntaxV2 = false → x.semanticsInfo = none
  no_countries : x.qcCClegislation = false → x.legislationCountryList = none
  countries : x.qcCClegislation = true → ∀ countries, x.legislationCountryList = some countries →
    ∀ country ∈ countries, lib.printable country = country

/-- The kinds are distinct. -/
theorem statementsOf_nodup (lib : Library GeneralName) (x : QCStatements GeneralName) :
    ((statementsOf lib x).map (·.2.1)).Nodup := by
  show [PKIX_SYNTAX_V1, PKIX_SYNTAX_V2, QC_COMPLIANCE, QC_SSCD, QC_TYPE, LIMITVAL,
    RETENTION_PERIOD, PKI_DISCLOSURE, QC_CC_LEGISLATION].Nodup
  decide

section Kinds

variable (lib : Library GeneralName) (x : QCStatements GeneralName)

/-- What is read of the object that was written. -/
def reread (lib : Library GeneralName) (x : QCStatements GeneralName) : QCStatements GeneralName :=
  parsed lib (writtenStatements (statementsOf lib x))

/-- The flags survive. -/
theorem reread_flags :
    (reread lib x).pkixSyntaxV1 = x.pkixSyntaxV1 ∧ (reread lib x).pkixSyntaxV2 = x.pkixSyntaxV2 ∧
      (reread lib x).qcCompliance = x.qcCompliance ∧ (reread lib x).qcSscd = x.qcSscd ∧
      (reread lib x).qcType = x.qcType ∧ (reread lib x).limitValue = x.limitValue ∧
      (reread lib x).retentionPeriod = x.retentionPeriod ∧
      (reread lib x).pdsStatement = x.pdsStatement ∧
      (reread lib x).qcCClegislation = x.qcCClegislation := by
  have hnodup := statementsOf_nodup lib x
  exact ⟨any_written (i := 0) hnodup rfl, any_written (i := 1) hnodup rfl,
    any_written (i := 2) hnodup rfl, any_written (i := 3) hnodup rfl,
    any_written (i := 4) hnodup rfl, any_written (i := 5) hnodup rfl,
    any_written (i := 6) hnodup rfl, any_written (i := 7) hnodup rfl,
    any_written (i := 8) hnodup rfl⟩

theorem readable_map_oid (types : List ObjectIdentifier) :
    readable Primitive.getOid (types.map .oid) = types := by
  induction types with
  | nil => rfl
  | cons type rest ih => exact congrArg (type :: ·) ih

theorem readable_map_printableString (texts : List String) :
    readable Primitive.getPrintableString (texts.map .printableString) = texts := by
  induction texts with
  | nil => rfl
  | cons text rest ih => exact congrArg (text :: ·) ih

/-- The language of a location is no IA5 string. -/
theorem readable_locations {lib : Library GeneralName} {locations : List PDSLocation}
    {elements : List Primitive} (h : locations.mapM (encodeLocation lib) = .ok elements) :
    readable readLocation elements = [] := by
  cases forall₂_of_mapM_ok h with
  | nil => rfl
  | cons hfirst _ =>
      obtain ⟨url, -, hfirst⟩ := bind_ok_iff.mp hfirst
      obtain ⟨lang, -, hfirst⟩ := bind_ok_iff.mp hfirst
      cases hfirst
      rfl

theorem listOf_other {read : Primitive → Outcome α} {statementId : ObjectIdentifier}
    (id : ObjectIdentifier) (values : List Primitive) (h : id ≠ statementId) :
    listOf statementId read (.oid id :: values) = none := by
  unfold listOf
  rw [valueOf_other id values h]
  rfl

/-- The list of a statement whose value is a sequence. -/
theorem listOf_self {read : Primitive → Outcome α} (statementId : ObjectIdentifier)
    (elements : List Primitive) :
    listOf statementId read [.oid statementId, .sequence elements] =
      some (readable read elements) := by
  have hvalue : valueOf statementId valueSequence [.oid statementId, .sequence elements] =
      some elements := valueOf_eq_some_iff.mpr ⟨beq_self_eq_true _, rfl⟩
  unfold listOf
  rw [hvalue, Option.map_some]

variable {x} (h : DataPresent x)
include h

theorem reread_qcTypeIdList :
    (reread lib x).qcTypeIdList = if x.qcType then x.qcTypeIdList else some [] := by
  show (lastOf _ _).or (some []) = _
  rw [lastOf_written (i := 4) listOf_other (statementsOf_nodup lib x) rfl]
  cases hflag : x.qcType with
  | false => rfl
  | true =>
      obtain ⟨types, htypes⟩ := h.qcType hflag
      rw [htypes]
      show (listOf _ _ [.oid QC_TYPE, .sequence (types.map .oid)]).or _ = _
      rw [listOf_self, readable_map_oid]
      rfl

theorem reread_retentionPeriodVal :
    (reread lib x).retentionPeriodVal =
      if x.retentionPeriod then x.retentionPeriodVal else none := by
  show lastOf (valueOf RETENTION_PERIOD valueInteger) _ = _
  rw [lastOf_written (i := 6) valueOf_other (statementsOf_nodup lib x) rfl]
  cases hflag : x.retentionPeriod with
  | false => rfl
  | true =>
      obtain ⟨years, hyears⟩ := h.retentionPeriod hflag
      rw [hyears]
      rfl

theorem reread_monetaryValue :
    (reread lib x).monetaryValue =
      if x.limitValue then x.monetaryValue.map fun limit =>
        { limit with currency := limit.currency.map lib.printable } else none := by
  show lastOf (valueOf LIMITVAL fun statementSeq => valueSequence statementSeq >>= readLimit) _ = _
  rw [lastOf_written (i := 5) valueOf_other (statementsOf_nodup lib x) rfl]
  cases hflag : x.limitValue with
  | false => rfl
  | true =>
      obtain ⟨currency, amount, exponent, hlimit⟩ := h.limitValue hflag
      rw [hlimit]
      rfl

theorem reread_locationList : (reread lib x).locationList = some [] := by
  show (lastOf _ _).or (some []) = _
  rw [lastOf_written (i := 7) listOf_other (statementsOf_nodup lib x) rfl]
  cases hflag : x.pdsStatement with
  | false => rfl
  | true =>
      obtain ⟨locations, hlocations, htexts⟩ := h.pdsStatement hflag
      obtain ⟨pdsSeq, hpds⟩ := exists_mapM_ok_iff.mpr fun location hmem =>
        (encodeLocation_ok_iff lib).mpr (htexts location hmem)
      rw [hlocations, deref, if_pos rfl]
      show (listOf _ _ (.oid PKI_DISCLOSURE :: valueList (do
        let pdsSeq ← locations.mapM (encodeLocation lib)
        pure (some (.sequence pdsSeq))))).or _ = _
      rw [hpds]
      show (listOf _ _ [.oid PKI_DISCLOSURE, .sequence pdsSeq]).or _ = _
      rw [listOf_self, readable_locations hpds]
      rfl

theorem reread_legislationCountryList :
    (reread lib x).legislationCountryList =
      if x.qcCClegislation then x.legislationCountryList.map (·.map lib.printable) else none := by
  show lastOf _ _ = _
  rw [lastOf_written (i := 8) listOf_other (statementsOf_nodup lib x) rfl]
  cases hflag : x.qcCClegislation with
  | false => rfl
  | true =>
      obtain ⟨countries, hcountries⟩ := h.qcCClegislation hflag
      rw [hcountries, if_pos rfl]
      show listOf _ _ [.oid QC_CC_LEGISLATION,
        .sequence (countries.map fun country => .printableString (lib.printable country))] = _
      have hmap : (countries.map fun country => .printableString (lib.printable country)) =
          (countries.map lib.printable).map Primitive.printableString := by
        rw [List.map_map]
        rfl
      rw [listOf_self, hmap, readable_map_printableString]
      rfl

omit h in
/-- The names that were encoded are the names that are read. -/
theorem filterMap_encodeName (names : List GeneralName) :
    (names.map lib.encodeName).filterMap (fun name => (lib.getName name).toOption) = names := by
  rw [List.filterMap_map]
  refine (List.filterMap_congr fun name _ => ?_).trans List.filterMap_some
  show (lib.getName (lib.encodeName name)).toOption = some name
  rw [lib.getName_encodeName]
  rfl

omit h in
theorem semanticsOf_self (lib : Library GeneralName) {statementId : ObjectIdentifier}
    (hkind : statementId = PKIX_SYNTAX_V1 ∨ statementId = PKIX_SYNTAX_V2)
    (semanticsInfo : Option (SemanticsInformation GeneralName)) :
    (semanticsOf lib (.oid statementId ::
        valueList (pure (setSemanticsInfo lib semanticsInfo)))).map semanticsFields =
      semanticsInfo.map semanticsFields := by
  cases semanticsInfo with
  | none => rcases hkind with rfl | rfl <;> rfl
  | some info =>
      have hfields : ∀ siSeq, setSemanticsInfo lib (some info) = some (.sequence siSeq) →
          semanticsOf lib [.oid statementId, .sequence siSeq] =
            some (siSeq.foldl (getSemanticsInfoVals lib) {}) := by
        rintro siSeq -
        rcases hkind with rfl | rfl <;> rfl
      show (semanticsOf lib [.oid statementId, .sequence _]).map semanticsFields = _
      rw [hfields _ rfl, Option.map_some, Option.map_some]
      obtain ⟨semanticsIdentifier, names⟩ := info
      -- an absent list is read as an absent list, and so is an empty one
      cases hnames : names.getD [] with
      | nil => cases semanticsIdentifier <;> simp [semanticsFields,
          SemanticsInformation.getNameRegistrationAuthorityList, hnames, getSemanticsInfoVals]
      | cons name rest =>
          have hread := filterMap_encodeName lib (name :: rest)
          cases semanticsIdentifier <;> simp [semanticsFields,
            SemanticsInformation.getNameRegistrationAuthorityList, hnames, getSemanticsInfoVals] <;>
            exact hread

omit h in
theorem reread_semanticsInfo :
    (reread lib x).semanticsInfo.map semanticsFields =
      if x.pkixSyntaxV1 || x.pkixSyntaxV2 then x.semanticsInfo.map semanticsFields else none := by
  have hwritten : writtenStatements (statementsOf lib x) =
      (if x.pkixSyntaxV1 then
        [.oid PKIX_SYNTAX_V1 :: valueList (pure (setSemanticsInfo lib x.semanticsInfo))] else []) ++
      ((if x.pkixSyntaxV2 then
        [.oid PKIX_SYNTAX_V2 :: valueList (pure (setSemanticsInfo lib x.semanticsInfo))] else []) ++
      writtenStatements ((statementsOf lib x).drop 2)) := rfl
  have hrest : lastOf (semanticsOf lib) (writtenStatements ((statementsOf lib x).drop 2)) =
      none := by
    apply lastOf_written_eq_none
    intro statement hmem values
    have hid : statement.2.1 ∈ [QC_COMPLIANCE, QC_SSCD, QC_TYPE, LIMITVAL, RETENTION_PERIOD,
      PKI_DISCLOSURE, QC_CC_LEGISLATION] := List.mem_map_of_mem (f := (·.2.1)) hmem
    have hne : ∀ id ∈ [QC_COMPLIANCE, QC_SSCD, QC_TYPE, LIMITVAL, RETENTION_PERIOD,
        PKI_DISCLOSURE, QC_CC_LEGISLATION], id ≠ PKIX_SYNTAX_V1 ∧ id ≠ PKIX_SYNTAX_V2 := by
      decide
    unfold semanticsOf
    rw [valueOf_other _ _ (hne _ hid).1, valueOf_other _ _ (hne _ hid).2]
    rfl
  show (lastOf (semanticsOf lib) (writtenStatements (statementsOf lib x))).map semanticsFields = _
  have hv1 := semanticsOf_self lib (.inl (rfl : PKIX_SYNTAX_V1 = _)) x.semanticsInfo
  have hv2 := semanticsOf_self lib (.inr (rfl : PKIX_SYNTAX_V2 = _)) x.semanticsInfo
  rw [hwritten, lastOf_append, lastOf_append, hrest, Option.none_or, lastOf_if, lastOf_if]
  cases x.pkixSyntaxV1 with
  | false =>
      cases x.pkixSyntaxV2 with
      | false => rfl
      | true => exact (congrArg _ Option.or_none).trans hv2
  | true =>
      cases x.pkixSyntaxV2 with
      | false => exact hv1
      | true =>
          exact Option.map_or.trans ((congrArg₂ Option.or hv2 hv1).trans Option.or_self)

end Kinds

theorem ite_eq_iff_of_flag {flag : Bool} {a b : α} :
    (if flag then a else b) = a ↔ (flag = false → a = b) := by
  cases flag with
  | false => exact ⟨fun h _ => h.symm, fun h => (h rfl).symm⟩
  | true => exact iff_of_true rfl nofun

theorem limit_survives_iff {limit : Option MonetaryValue} :
    (limit.map fun limit => { limit with currency := limit.currency.map lib.printable }) = limit ↔
      ∀ value currency, limit = some value → value.currency = some currency →
        lib.printable currency = currency := by
  cases limit with
  | none => exact iff_of_true rfl nofun
  | some limit =>
      obtain ⟨currency, amount, exponent⟩ := limit
      cases currency with
      | none =>
          apply iff_of_true rfl
          rintro value currency ⟨⟩ ⟨⟩
      | some currency =>
          constructor
          · rintro heq value currency' ⟨⟩ ⟨⟩
            simpa using heq
          · intro hkept
            simpa using hkept _ currency rfl rfl

theorem map_eq_self_iff {l : List α} {f : α → α} : l.map f = l ↔ ∀ a ∈ l, f a = a := by
  have hid : l.map f = l.map id ↔ ∀ a ∈ l, f a = id a := List.map_inj_left
  rw [List.map_id] at hid
  exact hid

/-- **The round trip.** A value with its data comes back unless it has locations, data of a
kind that it does not state, or texts that its string types cannot represent. -/
theorem roundTrip_iff (h : DataPresent x) (lib : Library GeneralName) :
    ∃ encoded y, x.toASN1Primitive lib = .ok encoded ∧
      getInstance lib (some encoded) = .ok (some y) ∧ (SameFields y x ↔ Survives lib x) := by
  obtain ⟨encoded, hencoded, hread⟩ := getInstance_encoded h lib
  refine ⟨encoded, reread lib x, hencoded, hread, ?_⟩
  obtain ⟨hv1, hv2, hcompliance, hsscd, htype, hlimit, hretention, hpds, hlegislation⟩ :=
    reread_flags lib x
  have htypes := reread_qcTypeIdList lib h
  have hvalue := reread_monetaryValue lib h
  have hyears := reread_retentionPeriodVal lib h
  have hlocations := reread_locationList lib h
  have hinfo := reread_semanticsInfo lib (x := x)
  have hcountries := reread_legislationCountryList lib h
  constructor
  · intro hsame
    refine ⟨hsame.locationList.symm.trans hlocations,
      ite_eq_iff_of_flag.mp (htypes.symm.trans hsame.qcTypeIdList), ?_, ?_,
      ite_eq_iff_of_flag.mp (hyears.symm.trans hsame.retentionPeriodVal), ?_, ?_, ?_⟩
    · intro hflag
      rw [← hsame.monetaryValue, hvalue, hflag]
      rfl
    · intro hflag
      rw [hflag, if_pos rfl] at hvalue
      exact limit_survives_iff.mp (hvalue.symm.trans hsame.monetaryValue)
    · intro hnot1 hnot2
      rw [hnot1, hnot2] at hinfo
      exact Option.map_eq_none_iff.mp (hsame.semanticsInfo.symm.trans hinfo)
    · intro hflag
      rw [← hsame.legislationCountryList, hcountries, hflag]
      rfl
    · intro hflag countries heq country hmem
      rw [hflag, if_pos rfl, hsame.legislationCountryList, heq, Option.map_some,
        Option.some_inj] at hcountries
      exact map_eq_self_iff.mp hcountries.symm country hmem
  · intro hsurvives
    refine ⟨hv1, hv2, hcompliance, hpds, hsscd, htype, hretention, hlimit, hlegislation, ?_,
      htypes.trans (ite_eq_iff_of_flag.mpr hsurvives.types),
      hyears.trans (ite_eq_iff_of_flag.mpr hsurvives.years),
      hlocations.trans hsurvives.locations.symm, ?_, ?_⟩
    · rw [hvalue]
      cases hflag : x.limitValue with
      | false => exact (hsurvives.no_limit hflag).symm
      | true => exact limit_survives_iff.mpr (hsurvives.limit hflag)
    · rw [hinfo]
      apply ite_eq_iff_of_flag.mpr
      intro hnot
      rw [Bool.or_eq_false_iff] at hnot
      rw [hsurvives.semantics hnot.1 hnot.2]
      rfl
    · rw [hcountries]
      cases hflag : x.qcCClegislation with
      | false => exact (hsurvives.no_countries hflag).symm
      | true =>
          cases hlist : x.legislationCountryList with
          | none => rfl
          | some countries =>
              exact congrArg some (map_eq_self_iff.mpr (hsurvives.countries hflag countries hlist))

/-- One location, with texts in ASCII. -/
def oneLocation : QCStatements String where
  pdsStatement := true
  locationList := some [⟨some "en", some "https://example.com/pds"⟩]

/-- It is written, and read as no location. -/
theorem location_lost :
    DataPresent oneLocation ∧ ∃ encoded y, oneLocation.toASN1Primitive uriLibrary = .ok encoded ∧
      getInstance uriLibrary (some encoded) = .ok (some y) ∧ y.locationList = some [] ∧
      ¬ SameFields y oneLocation := by
  refine ⟨⟨nofun, nofun, nofun, ?_, nofun⟩, _, _, rfl, rfl, rfl, ?_⟩
  · rintro -
    refine ⟨_, rfl, ?_⟩
    intro location hmem
    cases List.mem_singleton.mp hmem
    exact ⟨"en", "https://example.com/pds", rfl⟩
  · intro hsame
    cases hsame.locationList

/-- The other eight kinds, with both versions of the syntax. -/
def allOthers : QCStatements String where
  pkixSyntaxV1 := true
  pkixSyntaxV2 := true
  qcCompliance := true
  qcSscd := true
  qcType := true
  retentionPeriod := true
  limitValue := true
  qcCClegislation := true
  monetaryValue := some ⟨some "SEK", some 5, some 3⟩
  qcTypeIdList := some [QC_TYPE_ELECTRONIC_SIGNATURE, QC_TYPE_ELECTRONIC_SEAL]
  retentionPeriodVal := some 10
  semanticsInfo := some ⟨some "0.4.0.194121.1.1", some ["https://example.com/names"]⟩
  legislationCountryList := some ["SE", "NO"]

theorem others_survive :
    ∃ encoded y, allOthers.toASN1Primitive uriLibrary = .ok encoded ∧
      getInstance uriLibrary (some encoded) = .ok (some y) ∧ SameFields y allOthers := by
  have hdata : DataPresent allOthers :=
    ⟨fun _ => ⟨_, rfl⟩, fun _ => ⟨_, _, _, rfl⟩, fun _ => ⟨_, rfl⟩, nofun, fun _ => ⟨_, rfl⟩⟩
  obtain ⟨encoded, y, hencoded, hread, hiff⟩ := roundTrip_iff hdata uriLibrary
  exact ⟨encoded, y, hencoded, hread, hiff.mpr
    ⟨rfl, nofun, nofun, fun _ _ _ _ _ => rfl, nofun, nofun, nofun, fun _ _ _ _ _ => rfl⟩⟩

end SigVal.Extensions.QCStatements
