import SigVal.Extensions.QCStatements
import Mathlib.Data.List.Induction

/-!
# What parsed statements hold

The data of a kind of statement comes from the last statement of the kind that had any, a
flag from any statement of its kind. The two need not be the same statement: a flag can be
there without data, and a list can be that of a statement that broke off.
-/

namespace SigVal.Extensions.QCStatements

open SigVal.Java SigVal.Asn1

variable {GeneralName α : Type} {lib : Library GeneralName} {statements : List (List Primitive)}
  {statementSeq : List Primitive}

/-- What the last statement that has it says. -/
def lastOf (u : List Primitive → Option α) (statements : List (List Primitive)) : Option α :=
  statements.reverse.findSome? u

@[simp] theorem lastOf_nil (u : List Primitive → Option α) : lastOf u [] = none := rfl

theorem lastOf_append (u : List Primitive → Option α) (before after : List (List Primitive)) :
    lastOf u (before ++ after) = (lastOf u after).or (lastOf u before) := by
  unfold lastOf
  rw [List.reverse_append, List.findSome?_append]

theorem lastOf_singleton (u : List Primitive → Option α) :
    lastOf u [statementSeq] = u statementSeq := by
  unfold lastOf
  cases h : u statementSeq <;> simp [h]

theorem exists_of_lastOf {u : List Primitive → Option α} {a : α}
    (h : lastOf u statements = some a) : ∃ s ∈ statements, u s = some a := by
  obtain ⟨s, hs, hu⟩ := List.exists_of_findSome?_eq_some h
  exact ⟨s, List.mem_reverse.mp hs, hu⟩

theorem lastOf_isSome_iff {u : List Primitive → Option α} :
    (∃ a, lastOf u statements = some a) ↔ ∃ s ∈ statements, ∃ a, u s = some a := by
  constructor
  · rintro ⟨a, ha⟩
    obtain ⟨s, hs, hu⟩ := exists_of_lastOf ha
    exact ⟨s, hs, a, hu⟩
  · rintro ⟨s, hs, a, hu⟩
    rw [← Option.isSome_iff_exists]
    exact List.findSome?_isSome_iff.mpr ⟨s, List.mem_reverse.mpr hs, by rw [hu]; rfl⟩

/-- The object that holds what a list of statements says. -/
def parsed (lib : Library GeneralName) (statements : List (List Primitive)) :
    QCStatements GeneralName where
  pkixSyntaxV1 := statements.any (isA PKIX_SYNTAX_V1)
  pkixSyntaxV2 := statements.any (isA PKIX_SYNTAX_V2)
  qcCompliance := statements.any (isA QC_COMPLIANCE)
  pdsStatement := statements.any (isA PKI_DISCLOSURE)
  qcSscd := statements.any (isA QC_SSCD)
  qcType := statements.any (isA QC_TYPE)
  retentionPeriod := statements.any (isA RETENTION_PERIOD)
  limitValue := statements.any (isA LIMITVAL)
  qcCClegislation := statements.any (isA QC_CC_LEGISLATION)
  monetaryValue := lastOf limitOf statements
  qcTypeIdList := (lastOf (listOf QC_TYPE Primitive.getOid) statements).or (some [])
  retentionPeriodVal := lastOf yearsOf statements
  locationList := (lastOf (listOf PKI_DISCLOSURE readLocation) statements).or (some [])
  semanticsInfo := lastOf (semanticsOf lib) statements
  legislationCountryList :=
    lastOf (listOf QC_CC_LEGISLATION Primitive.getPrintableString) statements

/-- **All statements.** -/
theorem foldl_setStatementVals (lib : Library GeneralName) (statements : List (List Primitive)) :
    statements.foldl (setStatementVals lib) {} = parsed lib statements := by
  induction statements using List.reverseRecOn with
  | nil => rfl
  | append_singleton before s ih =>
      rw [List.foldl_append, ih, List.foldl_cons, List.foldl_nil, setStatementVals_eq]
      unfold afterStatement parsed
      simp only [lastOf_append, lastOf_singleton, List.any_append, List.any_cons, List.any_nil,
        Bool.or_false, Option.or_assoc]

/-- A sequence whose elements are sequences is parsed, any other is refused. -/
theorem ofSequence_cases (lib : Library GeneralName) (seq : List Primitive) :
    (∃ statements, seq = statements.map .sequence ∧
        ofSequence lib seq = .ok (parsed lib statements)) ∨
      (∃ element ∈ seq, ∀ elements, element ≠ .sequence elements) ∧
        ofSequence lib seq = .error ⟨.illegalArgument, "Bad extension content"⟩ := by
  unfold ofSequence
  cases hstatements : statementSequences seq with
  | error ex =>
      refine .inr ⟨?_, rfl⟩
      by_contra hall
      have hok : ∃ l, statementSequences seq = .ok l := by
        apply exists_mapM_ok_iff.mpr
        intro element helement
        by_contra hnone
        exact hall ⟨element, helement, fun elements heq => hnone ⟨elements, by rw [heq]; rfl⟩⟩
      obtain ⟨l, hl⟩ := hok
      rw [hstatements] at hl
      cases hl
  | ok statements =>
      refine .inl ⟨statements, ?_, ?_⟩
      · have hforall := forall₂_of_mapM_ok hstatements
        clear hstatements
        induction hforall with
        | nil => rfl
        | cons hread _ ih => rw [List.map_cons, ← ih, Primitive.getSequence_ok_iff.mp hread]
      · show Except.ok (statements.foldl (setStatementVals lib) {}) = _
        rw [foldl_setStatementVals]

/-! ## Consistency -/

/-- The semantics information can be read to its end: every element of it is an identifier,
or a list of names that can all be read. -/
def AllRead (lib : Library GeneralName) (siSeq : List Primitive) : Prop :=
  ∀ element ∈ siSeq, (∃ id, element = .oid id) ∨
    ∃ names, element = .sequence names ∧ ∀ name ∈ names, ∃ n, lib.getName name = .ok n

/-- A statement on the syntax, with its information if it has any. -/
def SyntaxComplete (lib : Library GeneralName) (statementId : ObjectIdentifier)
    (statementSeq : List Primitive) : Prop :=
  isA statementId statementSeq = true ∧ (1 < statementSeq.length →
    ∃ siSeq, valueSequence statementSeq = .ok siSeq ∧ AllRead lib siSeq)

/-- A statement on the syntax that has this information. -/
def SaysSemantics (lib : Library GeneralName) (info : SemanticsInformation GeneralName)
    (statementSeq : List Primitive) : Prop :=
  (isA PKIX_SYNTAX_V1 statementSeq = true ∨ isA PKIX_SYNTAX_V2 statementSeq = true) ∧
    ∃ siSeq, valueSequence statementSeq = .ok siSeq ∧ AllRead lib siSeq ∧
      info = siSeq.foldl (getSemanticsInfoVals lib) {}

/-- A statement of the kind whose value is this list, read to its end. -/
def SaysList (statementId : ObjectIdentifier) (read : Primitive → Outcome α) (values : List α)
    (statementSeq : List Primitive) : Prop :=
  isA statementId statementSeq = true ∧
    ∃ elements, valueSequence statementSeq = .ok elements ∧ ReadsAll read elements values

/-- **Consistency.** A flag is set only if a statement of its kind was read to its end, and
what the object holds of the kind is what such a statement says. -/
structure Consistent (jvm : CaseTable) (lib : Library GeneralName)
    (statements : List (List Primitive)) (x : QCStatements GeneralName) : Prop where
  pkixSyntaxV1 : x.pkixSyntaxV1 = true → ∃ s ∈ statements, SyntaxComplete lib PKIX_SYNTAX_V1 s
  pkixSyntaxV2 : x.pkixSyntaxV2 = true → ∃ s ∈ statements, SyntaxComplete lib PKIX_SYNTAX_V2 s
  semanticsInfo : ∀ info, x.semanticsInfo = some info → ∃ s ∈ statements, SaysSemantics lib info s
  qcType : x.qcType = true → ∃ types, x.qcTypeIdList = some types ∧
    ∃ s ∈ statements, SaysList QC_TYPE Primitive.getOid types s
  limitValue : x.limitValue = true → ∃ limit, x.monetaryValue = some limit ∧
    ∃ s ∈ statements, limitOf s = some limit
  retentionPeriod : x.retentionPeriod = true → ∃ years, x.retentionPeriodVal = some years ∧
    ∃ s ∈ statements, yearsOf s = some years
  pdsStatement : x.pdsStatement = true → ∃ locations, x.locationList = some locations ∧
    ∃ s ∈ statements, SaysList PKI_DISCLOSURE readLocation locations s
  qcCClegislation : x.qcCClegislation = true → ∃ countries,
    x.legislationCountryList = some countries ∧
      ∃ s ∈ statements, SaysList QC_CC_LEGISLATION Primitive.getPrintableString countries s
  encodes : ∃ encoded, x.toASN1Primitive lib = .ok encoded
  prints : ∃ text, x.toString jvm lib = .ok text

/-- If there is a statement of the kind, one of them has a value that can be read. -/
def ValueReadable (statementId : ObjectIdentifier) (u : List Primitive → Option α)
    (statements : List (List Primitive)) : Prop :=
  (∃ s ∈ statements, isA statementId s = true) → ∃ s ∈ statements, ∃ a, u s = some a

/-- If there is a statement of the kind, the last of them that has a list can be read as far
as one that can be read to its end. -/
def ListReadable (statementId : ObjectIdentifier) (read : Primitive → Outcome α)
    (statements : List (List Primitive)) : Prop :=
  (∃ s ∈ statements, isA statementId s = true) →
    ∃ values, lastOf (listOf statementId read) statements = some values ∧
      ∃ s ∈ statements, SaysList statementId read values s

/-- The statements that lead to a consistent object. -/
structure WellRead (lib : Library GeneralName) (statements : List (List Primitive)) : Prop where
  syntaxV1 : (∃ s ∈ statements, isA PKIX_SYNTAX_V1 s = true) →
    ∃ s ∈ statements, SyntaxComplete lib PKIX_SYNTAX_V1 s
  syntaxV2 : (∃ s ∈ statements, isA PKIX_SYNTAX_V2 s = true) →
    ∃ s ∈ statements, SyntaxComplete lib PKIX_SYNTAX_V2 s
  semantics : ∀ info, lastOf (semanticsOf lib) statements = some info →
    ∃ s ∈ statements, SaysSemantics lib info s
  types : ListReadable QC_TYPE Primitive.getOid statements
  limit : ValueReadable LIMITVAL limitOf statements
  years : ValueReadable RETENTION_PERIOD yearsOf statements
  locations : ListReadable PKI_DISCLOSURE readLocation statements
  countries : ListReadable QC_CC_LEGISLATION Primitive.getPrintableString statements

theorem flag_iff {statementId : ObjectIdentifier} :
    statements.any (isA statementId) = true ↔ ∃ s ∈ statements, isA statementId s = true :=
  List.any_eq_true

theorem valueOf_eq_some_iff {statementId : ObjectIdentifier} {read : List Primitive → Outcome α}
    {a : α} :
    valueOf statementId read statementSeq = some a ↔
      isA statementId statementSeq = true ∧ read statementSeq = .ok a := by
  unfold valueOf
  split
  · rename_i hkind
    rw [and_iff_right hkind]
    cases read statementSeq with
    | error ex => exact iff_of_false nofun nofun
    | ok b => simp [Except.toOption]
  · rename_i hkind
    exact iff_of_false nofun fun h => hkind h.1

theorem listOf_of_saysList {statementId : ObjectIdentifier} {read : Primitive → Outcome α}
    {values : List α} (h : SaysList statementId read values statementSeq) :
    listOf statementId read statementSeq = some values := by
  obtain ⟨hkind, elements, helements, hall⟩ := h
  unfold listOf
  rw [valueOf_eq_some_iff.mpr ⟨hkind, helements⟩, Option.map_some, readable_of_readsAll hall]

/-- What a list field holds, with its initial value. -/
theorem list_consistent_iff {statementId : ObjectIdentifier} {read : Primitive → Outcome α}
    (initial : Option (List α)) :
    (statements.any (isA statementId) = true → ∃ values,
      (lastOf (listOf statementId read) statements).or initial = some values ∧
        ∃ s ∈ statements, SaysList statementId read values s) ↔
      ListReadable statementId read statements := by
  unfold ListReadable
  rw [flag_iff]
  refine forall_congr' fun _ => exists_congr fun values => and_congr_left ?_
  rintro ⟨s, hs, hsays⟩
  -- a list that was read to its end is a list
  obtain ⟨last, hlast⟩ := lastOf_isSome_iff.mpr ⟨s, hs, values, listOf_of_saysList hsays⟩
  rw [hlast, Option.some_or]

theorem value_consistent_iff {statementId : ObjectIdentifier} {u : List Primitive → Option α} :
    (statements.any (isA statementId) = true → ∃ a, lastOf u statements = some a ∧
      ∃ s ∈ statements, u s = some a) ↔ ValueReadable statementId u statements := by
  unfold ValueReadable
  rw [flag_iff, ← lastOf_isSome_iff]
  refine forall_congr' fun _ => exists_congr fun a => and_iff_left_of_imp ?_
  exact exists_of_lastOf

/-- A limit that was read has all its parts. -/
theorem limit_present {limit : MonetaryValue} (h : limitOf statementSeq = some limit) :
    ∃ currency amount exponent, limit = ⟨some currency, some amount, some exponent⟩ := by
  obtain ⟨-, hread⟩ := valueOf_eq_some_iff.mp h
  obtain ⟨elements, -, hlimit⟩ := bind_ok_iff.mp hread
  obtain ⟨currency, -, hlimit⟩ := bind_ok_iff.mp hlimit
  obtain ⟨amount, -, hlimit⟩ := bind_ok_iff.mp hlimit
  obtain ⟨exponent, -, hlimit⟩ := bind_ok_iff.mp hlimit
  cases hlimit
  exact ⟨currency, amount, exponent, rfl⟩

theorem location_present {element : Primitive} {location : PDSLocation}
    (h : readLocation element = .ok location) :
    ∃ lang url, location = ⟨some lang, some url⟩ := by
  obtain ⟨elements, -, h⟩ := bind_ok_iff.mp h
  obtain ⟨url, -, h⟩ := bind_ok_iff.mp h
  obtain ⟨lang, -, h⟩ := bind_ok_iff.mp h
  cases h
  exact ⟨lang, url, rfl⟩

theorem locations_present {elements : List Primitive} {locations : List PDSLocation}
    (h : ReadsAll readLocation elements locations) :
    ∀ location ∈ locations, ∃ lang url, location = ⟨some lang, some url⟩ := by
  induction h with
  | nil => exact nofun
  | cons hread _ ih => exact List.forall_mem_cons.mpr ⟨location_present hread, ih⟩

theorem parsed_dataPresent (h : WellRead lib statements) : DataPresent (parsed lib statements) where
  qcType hflag := by
    obtain ⟨types, htypes, -⟩ := (list_consistent_iff (some [])).mpr h.types hflag
    exact ⟨types, htypes⟩
  limitValue hflag := by
    obtain ⟨limit, hlimit, s, -, hs⟩ := value_consistent_iff.mpr h.limit hflag
    obtain ⟨currency, amount, exponent, rfl⟩ := limit_present hs
    exact ⟨currency, amount, exponent, hlimit⟩
  retentionPeriod hflag := by
    obtain ⟨years, hyears, -⟩ := value_consistent_iff.mpr h.years hflag
    exact ⟨years, hyears⟩
  pdsStatement hflag := by
    obtain ⟨locations, hlocations, s, -, -, elements, -, hall⟩ :=
      (list_consistent_iff (some [])).mpr h.locations hflag
    exact ⟨locations, hlocations, locations_present hall⟩
  qcCClegislation hflag := by
    obtain ⟨countries, hcountries, -⟩ := h.countries (flag_iff.mp hflag)
    exact ⟨countries, hcountries⟩

theorem consistent_iff (jvm : CaseTable) :
    Consistent jvm lib statements (parsed lib statements) ↔ WellRead lib statements := by
  constructor
  · intro h
    refine ⟨?_, ?_, h.semanticsInfo, (list_consistent_iff _).mp h.qcType,
      value_consistent_iff.mp h.limitValue, value_consistent_iff.mp h.retentionPeriod,
      (list_consistent_iff _).mp h.pdsStatement, ?_⟩
    · exact fun hflag => h.pkixSyntaxV1 (flag_iff.mpr hflag)
    · exact fun hflag => h.pkixSyntaxV2 (flag_iff.mpr hflag)
    · exact fun hflag => h.qcCClegislation (flag_iff.mpr hflag)
  · intro h
    have hdata := parsed_dataPresent h
    refine ⟨?_, ?_, h.semantics, (list_consistent_iff _).mpr h.types,
      value_consistent_iff.mpr h.limit, value_consistent_iff.mpr h.years,
      (list_consistent_iff _).mpr h.locations, ?_, (toASN1Primitive_ok_iff _).mpr hdata,
      toString_ok hdata jvm lib⟩
    · exact fun hflag => h.syntaxV1 (flag_iff.mp hflag)
    · exact fun hflag => h.syntaxV2 (flag_iff.mp hflag)
    · exact fun hflag => h.countries (flag_iff.mp hflag)

/-- **Parsing.** A sequence is refused or leads to a consistent object, unless its statements
break off. -/
theorem getInstance_consistent_iff (jvm : CaseTable) (lib : Library GeneralName)
    (seq : List Primitive) :
    ((∃ msg, getInstance lib (some (.sequence seq)) = .error ⟨.illegalArgument, msg⟩) ∨
        ∃ statements x, seq = statements.map .sequence ∧
          getInstance lib (some (.sequence seq)) = .ok (some x) ∧
          Consistent jvm lib statements x) ↔
      ∀ statements, seq = statements.map .sequence → WellRead lib statements := by
  have hinj : ∀ {a b : List (List Primitive)},
      a.map Primitive.sequence = b.map .sequence → a = b := by
    intro a b hab
    exact List.map_injective_iff.mpr (fun _ _ h => by injection h) hab
  have hget : getInstance lib (some (.sequence seq)) = (do
      let x ← ofSequence lib seq
      pure (some x)) := rfl
  rw [hget]
  rcases ofSequence_cases lib seq with ⟨statements, rfl, hok⟩ | ⟨⟨element, hmem, hnot⟩, herror⟩
  · rw [hok]
    constructor
    · rintro (⟨msg, herror⟩ | ⟨statements', x, heq, hx, hconsistent⟩) statements'' heq''
      · cases herror
      · cases hx
        rw [← hinj heq''] at *
        rw [← hinj heq] at hconsistent
        exact (consistent_iff jvm).mp hconsistent
    · intro h
      exact .inr ⟨statements, _, rfl, rfl, (consistent_iff jvm).mpr (h statements rfl)⟩
  · rw [herror]
    refine iff_of_true (.inl ⟨_, rfl⟩) ?_
    rintro statements rfl
    obtain ⟨elements, -, rfl⟩ := List.mem_map.mp hmem
    exact absurd rfl (hnot elements)

/-- A reliance limit without its value: the flag is set, and the object can neither be encoded
nor printed. -/
theorem limit_without_value :
    ∃ x, getInstance uriLibrary (some (.sequence [.sequence [.oid LIMITVAL]])) = .ok (some x) ∧
      x.limitValue = true ∧ x.monetaryValue = none ∧
      x.toASN1Primitive uriLibrary = .error Exn.nullPointer ∧
      x.toString asciiCase uriLibrary = .error Exn.nullPointer ∧
      ¬ Consistent asciiCase uriLibrary [[.oid LIMITVAL]] x := by
  refine ⟨_, rfl, rfl, rfl, rfl, rfl, ?_⟩
  intro hconsistent
  obtain ⟨encoded, hencoded⟩ := hconsistent.encodes
  cases hencoded

end SigVal.Extensions.QCStatements
