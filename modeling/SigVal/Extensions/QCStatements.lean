import SigVal.Lib.Asn1

/-!
# The statements of a qualified certificate

`QCStatements` holds nine flags and the data of the statements they announce. Encoding
writes a statement for each flag that is set. Decoding goes through the statements and
sets the flag of a statement before it reads its data, in a `try` whose `catch` is empty.
-/

namespace SigVal.Extensions

open SigVal.Java SigVal.Asn1

variable {GeneralName : Type}

structure MonetaryValue where
  currency : Option String
  amount : Option Int
  exponent : Option Int
deriving DecidableEq, Repr

structure PDSLocation where
  lang : Option String
  url : Option String
deriving DecidableEq, Repr

structure SemanticsInformation (GeneralName : Type) where
  semanticsIdentifier : Option ObjectIdentifier := none
  nameRegistrationAuthorityList : Option (List GeneralName) := none

/-- The getter, which has an empty list for an absent one. -/
def SemanticsInformation.getNameRegistrationAuthorityList
    (info : SemanticsInformation GeneralName) : List GeneralName :=
  info.nameRegistrationAuthorityList.getD []

structure QCStatements (GeneralName : Type) where
  pkixSyntaxV1 : Bool := false
  pkixSyntaxV2 : Bool := false
  qcCompliance : Bool := false
  pdsStatement : Bool := false
  qcSscd : Bool := false
  qcType : Bool := false
  retentionPeriod : Bool := false
  limitValue : Bool := false
  qcCClegislation : Bool := false
  monetaryValue : Option MonetaryValue := none
  qcTypeIdList : Option (List ObjectIdentifier) := some []
  retentionPeriodVal : Option Int := none
  locationList : Option (List PDSLocation) := some []
  semanticsInfo : Option (SemanticsInformation GeneralName) := none
  legislationCountryList : Option (List String) := none

namespace QCStatements

def OID : ObjectIdentifier := "1.3.6.1.5.5.7.1.3"
def PKIX_SYNTAX_V1 : ObjectIdentifier := "1.3.6.1.5.5.7.11.1"
def PKIX_SYNTAX_V2 : ObjectIdentifier := "1.3.6.1.5.5.7.11.2"
def QC_COMPLIANCE : ObjectIdentifier := "0.4.0.1862.1.1"
def QC_SSCD : ObjectIdentifier := "0.4.0.1862.1.4"
def LIMITVAL : ObjectIdentifier := "0.4.0.1862.1.2"
def RETENTION_PERIOD : ObjectIdentifier := "0.4.0.1862.1.3"
def PKI_DISCLOSURE : ObjectIdentifier := "0.4.0.1862.1.5"
def QC_TYPE : ObjectIdentifier := "0.4.0.1862.1.6"
def QC_TYPE_ELECTRONIC_SIGNATURE : ObjectIdentifier := "0.4.0.1862.1.6.1"
def QC_TYPE_ELECTRONIC_SEAL : ObjectIdentifier := "0.4.0.1862.1.6.2"
def QC_TYPE_WEBSITE_AUTH : ObjectIdentifier := "0.4.0.1862.1.6.3"
def QC_CC_LEGISLATION : ObjectIdentifier := "0.4.0.1862.1.7"

/-! ## Encoding -/

/-- `setStatementVal`, with `null` for a statement without a value. -/
def setStatementVal (statementId : ObjectIdentifier) (value : Option Primitive) : Primitive :=
  .sequence (.oid statementId :: value.toList)

/-- The value `setSemanticsInfo` gives a statement. -/
def setSemanticsInfo (lib : Library GeneralName)
    (semanticsInfo : Option (SemanticsInformation GeneralName)) : Option Primitive :=
  semanticsInfo.map fun info =>
    let names := info.getNameRegistrationAuthorityList
    let nraSeq := if names.isEmpty then [] else [.sequence (names.map lib.encodeName)]
    .sequence ((info.semanticsIdentifier.map .oid).toList ++ nraSeq)

/-- A location without text throws. -/
def encodeLocation (lib : Library GeneralName) (pdsLoc : PDSLocation) : Outcome Primitive := do
  let url ← deref pdsLoc.url
  let lang ← deref pdsLoc.lang
  pure (.sequence [.ia5String (lib.ia5 url), .printableString (lib.printable lang)])

def encodeLimit (lib : Library GeneralName) (monetaryValue : Option MonetaryValue) :
    Outcome Primitive := do
  let monetaryValue ← deref monetaryValue
  let currency ← deref monetaryValue.currency
  let amount ← deref monetaryValue.amount
  let exponent ← deref monetaryValue.exponent
  pure (.sequence [.printableString (lib.printable currency), .integer amount, .integer exponent])

/-- The statements in the order they are written: the flag, the identifier and the value. -/
def statementsOf (lib : Library GeneralName) (x : QCStatements GeneralName) :
    List (Bool × ObjectIdentifier × Outcome (Option Primitive)) :=
  [(x.pkixSyntaxV1, PKIX_SYNTAX_V1, pure (setSemanticsInfo lib x.semanticsInfo)),
    (x.pkixSyntaxV2, PKIX_SYNTAX_V2, pure (setSemanticsInfo lib x.semanticsInfo)),
    (x.qcCompliance, QC_COMPLIANCE, pure none),
    (x.qcSscd, QC_SSCD, pure none),
    (x.qcType, QC_TYPE, do
      let types ← deref x.qcTypeIdList
      pure (some (.sequence (types.map .oid)))),
    (x.limitValue, LIMITVAL, do
      let limit ← encodeLimit lib x.monetaryValue
      pure (some limit)),
    (x.retentionPeriod, RETENTION_PERIOD, do
      let years ← deref x.retentionPeriodVal
      pure (some (.integer years))),
    (x.pdsStatement, PKI_DISCLOSURE, do
      let locations ← deref x.locationList
      let pdsSeq ← locations.mapM (encodeLocation lib)
      pure (some (.sequence pdsSeq))),
    (x.qcCClegislation, QC_CC_LEGISLATION, do
      let countries ← deref x.legislationCountryList
      pure (some (.sequence
        (countries.map fun country => .printableString (lib.printable country)))))]

/-- A statement is there when its flag is set. -/
def statementIf (statement : Bool × ObjectIdentifier × Outcome (Option Primitive)) :
    Outcome (Option Primitive) :=
  if statement.1 then do
    let value ← statement.2.2
    pure (some (setStatementVal statement.2.1 value))
  else pure none

def toASN1Primitive (lib : Library GeneralName) (x : QCStatements GeneralName) :
    Outcome Primitive := do
  let qcStatements ← (statementsOf lib x).mapM statementIf
  pure (.sequence (qcStatements.filterMap id))

/-- The set flags have their data, and locations their texts. -/
structure DataPresent (x : QCStatements GeneralName) : Prop where
  qcType : x.qcType = true → ∃ types, x.qcTypeIdList = some types
  limitValue : x.limitValue = true → ∃ currency amount exponent,
    x.monetaryValue = some ⟨some currency, some amount, some exponent⟩
  retentionPeriod : x.retentionPeriod = true → ∃ years, x.retentionPeriodVal = some years
  pdsStatement : x.pdsStatement = true → ∃ locations, x.locationList = some locations ∧
    ∀ location ∈ locations, ∃ lang url, location = ⟨some lang, some url⟩
  qcCClegislation : x.qcCClegislation = true →
    ∃ countries, x.legislationCountryList = some countries

theorem statementIf_ok_iff {statement : Bool × ObjectIdentifier × Outcome (Option Primitive)} :
    (∃ p, statementIf statement = .ok p) ↔
      (statement.1 = true → ∃ value, statement.2.2 = .ok value) := by
  unfold statementIf
  split
  · rename_i hflag
    simp only [exists_bind_ok_iff, exists_pure_ok, and_true, hflag, forall_const]
  · rename_i hflag
    exact iff_of_true ⟨none, rfl⟩ fun h => absurd h hflag

theorem encodeLimit_ok_iff {lib : Library GeneralName} {monetaryValue : Option MonetaryValue} :
    (∃ p, encodeLimit lib monetaryValue = .ok p) ↔ ∃ currency amount exponent,
      monetaryValue = some ⟨some currency, some amount, some exponent⟩ := by
  unfold encodeLimit
  simp only [exists_bind_ok_iff, deref_ok_iff, exists_pure_ok, and_true]
  constructor
  · rintro ⟨⟨_, _, _⟩, rfl, currency, rfl, amount, rfl, exponent, rfl⟩
    exact ⟨currency, amount, exponent, rfl⟩
  · rintro ⟨currency, amount, exponent, rfl⟩
    exact ⟨_, rfl, currency, rfl, amount, rfl, exponent, rfl⟩

theorem encodeLocation_ok_iff (lib : Library GeneralName) {location : PDSLocation} :
    (∃ p, encodeLocation lib location = .ok p) ↔
      ∃ lang url, location = ⟨some lang, some url⟩ := by
  unfold encodeLocation
  simp only [exists_bind_ok_iff, deref_ok_iff, exists_pure_ok, and_true]
  obtain ⟨lang, url⟩ := location
  constructor
  · rintro ⟨url', hurl, lang', hlang⟩
    exact ⟨lang', url', by rw [← hurl, ← hlang]⟩
  · rintro ⟨lang', url', heq⟩
    cases heq
    exact ⟨url', rfl, lang', rfl⟩

/-- **Encoding fails on missing data only.** -/
theorem toASN1Primitive_ok_iff (lib : Library GeneralName) {x : QCStatements GeneralName} :
    (∃ encoded, x.toASN1Primitive lib = .ok encoded) ↔ DataPresent x := by
  unfold toASN1Primitive
  simp only [exists_bind_ok_iff, exists_pure_ok, and_true, exists_mapM_ok_iff,
    statementIf_ok_iff, statementsOf, List.forall_mem_cons, implies_true, true_and,
    List.not_mem_nil, IsEmpty.forall_iff, deref_ok_iff, encodeLimit_ok_iff, encodeLocation_ok_iff]
  constructor
  · rintro ⟨htypes, hlimit, hyears, hlocations, hcountries⟩
    exact ⟨htypes, hlimit, hyears, hlocations, hcountries⟩
  · rintro ⟨htypes, hlimit, hyears, hlocations, hcountries⟩
    exact ⟨htypes, hlimit, hyears, hlocations, hcountries⟩

/-! ## Printing -/

def generalNameTagText : List String :=
  ["Other Name", "E-Mail", "DNS", "x400Address", "Directory Name", "EDI Party Name", "URI",
    "IP Address", "Registered ID"]

/-- `ExtensionUtils.getGeneralNameStr`: the number before the colon is replaced by its
display name. -/
def getGeneralNameStr (lib : Library GeneralName) (generalName : GeneralName) : String :=
  let text := (lib.nameToString generalName).toList
  let tagText := do
    let tagNo ← (String.ofList (text.takeWhile (· ≠ ':'))).toNat?
    generalNameTagText[tagNo]?
  match tagText with
  | some tagText => tagText ++ String.ofList (text.dropWhile (· ≠ ':'))
  | none => String.ofList text

/-- What a `StringBuilder` appends for a reference that may be `null`. -/
def appended (text : Option String) : String := text.getD "null"

def semanticsLines (lib : Library GeneralName) (info : SemanticsInformation GeneralName) :
    List String :=
  (info.semanticsIdentifier.map fun id => "    - SemanticsID: " ++ id).toList ++
    info.getNameRegistrationAuthorityList.map fun name =>
      "    - NameRegistrationAuthority: " ++ getGeneralNameStr lib name

/-- Types that are not known have no line. -/
def typeLines (jvm : CaseTable) (type : ObjectIdentifier) : List String :=
  (if jvm.equalsIgnoreCase type QC_TYPE_ELECTRONIC_SIGNATURE then ["    - Electronic Signature"]
    else []) ++
  (if jvm.equalsIgnoreCase type QC_TYPE_ELECTRONIC_SEAL then ["    - Electronic Seal"] else []) ++
  (if jvm.equalsIgnoreCase type QC_TYPE_WEBSITE_AUTH then ["    - Website Authentication"]
    else [])

/-- Lines that are there when a flag is set. -/
def linesIf (flag : Bool) (lines : Outcome (List String)) : Outcome (List String) :=
  if flag then lines else pure []

/-- The lines of `toString`. -/
def toLines (jvm : CaseTable) (lib : Library GeneralName) (x : QCStatements GeneralName) :
    Outcome (List String) := do
  let syntaxLines :=
    (if x.pkixSyntaxV1 then ["  QC Syntax V1"] else []) ++
    (if x.pkixSyntaxV2 then ["  QC Syntax V2"] else []) ++
    (if x.pkixSyntaxV1 || x.pkixSyntaxV2 then
      (x.semanticsInfo.map (semanticsLines lib)).getD [] else []) ++
    (if x.qcCompliance then ["  QC Compliance"] else []) ++
    (if x.qcSscd then ["  QC SSCD"] else [])
  let types ← linesIf x.qcType do
    let types ← deref x.qcTypeIdList
    pure ("  QC Types" :: types.flatMap (typeLines jvm))
  let limit ← linesIf x.limitValue do
    let monetaryValue ← deref x.monetaryValue
    pure
      ["  Reliance Limit", "    - Currency: " ++ appended monetaryValue.currency,
        "    - Amount: " ++ appended (monetaryValue.amount.map Int.repr),
        "    - Exponent: " ++ appended (monetaryValue.exponent.map Int.repr)]
  let retention :=
    if x.retentionPeriod then
      ["  Retention Period",
        "    - Years after cert expiry: " ++ appended (x.retentionPeriodVal.map Int.repr)]
    else []
  let locations ← linesIf x.pdsStatement do
    let locations ← deref x.locationList
    pure ("  PKI Disclosure Statements" :: locations.flatMap fun location =>
      ["    Location", "     - URL: " ++ appended location.url,
        "     - Lang: " ++ appended location.lang])
  let countries ← linesIf x.qcCClegislation do
    let countries ← deref x.legislationCountryList
    pure ("  QC Legislation Countries" :: countries.map ("    " ++ ·))
  pure (syntaxLines ++ types ++ limit ++ retention ++ locations ++ countries)

/-- `toString`, with the same separator after every line. -/
def toString (jvm : CaseTable) (lib : Library GeneralName) (x : QCStatements GeneralName) :
    Outcome String := do
  let lines ← toLines jvm lib x
  pure (String.join (lines.map (· ++ "\n")))

theorem linesIf_ok_iff {flag : Bool} {lines : Outcome (List String)} :
    (∃ l, linesIf flag lines = .ok l) ↔ (flag = true → ∃ l, lines = .ok l) := by
  unfold linesIf
  cases flag with
  | false => exact iff_of_true ⟨[], rfl⟩ nofun
  | true => simp

/-- Printing needs no more than encoding. -/
theorem toString_ok {x : QCStatements GeneralName} (h : DataPresent x) (jvm : CaseTable)
    (lib : Library GeneralName) : ∃ text, x.toString jvm lib = .ok text := by
  unfold QCStatements.toString toLines
  simp only [exists_bind_ok_iff, exists_pure_ok, and_true, exists_and_right, linesIf_ok_iff,
    deref_ok_iff]
  refine ⟨h.qcType, ?_, ?_, h.qcCClegislation⟩
  · intro hlimit
    obtain ⟨currency, amount, exponent, heq⟩ := h.limitValue hlimit
    exact ⟨_, heq⟩
  · intro hpds
    obtain ⟨locations, heq, -⟩ := h.pdsStatement hpds
    exact ⟨locations, heq⟩

/-! ## Decoding -/

/-- `getSemanticsInfoVals`. Names that cannot be read are dropped. -/
def getSemanticsInfoVals (lib : Library GeneralName)
    (semanticsInfo : SemanticsInformation GeneralName)
    (siObject : Primitive) : SemanticsInformation GeneralName :=
  match siObject with
  | .oid id => { semanticsInfo with semanticsIdentifier := some id }
  | .sequence nraSeq =>
      { semanticsInfo with
        nameRegistrationAuthorityList :=
          some (nraSeq.filterMap fun name => (lib.getName name).toOption) }
  | _ => semanticsInfo

def readCurrency (currencyEnc : Primitive) : Outcome String :=
  match currencyEnc with
  | .printableString text => pure text
  | _ => do
      let value ← currencyEnc.getInteger
      pure value.repr

def readLimit (lvSequence : List Primitive) : Outcome MonetaryValue := do
  let currency ← arrayGet lvSequence 0 >>= readCurrency
  let amount ← arrayGet lvSequence 1 >>= Primitive.getInteger
  let exp ← arrayGet lvSequence 2 >>= Primitive.getInteger
  pure ⟨some currency, some amount, some exp⟩

/-- Both texts are read as IA5 strings. -/
def readLocation (location : Primitive) : Outcome PDSLocation := do
  let locationSeq ← location.getSequence
  let url ← arrayGet locationSeq 0 >>= Primitive.getIA5String
  let lang ← arrayGet locationSeq 1 >>= Primitive.getIA5String
  pure ⟨some lang, some url⟩

/-- `list.add`, to a list that is there. -/
def addTo {α : Type} (list : Option (List α)) (a : α) : Option (List α) := list.map (· ++ [a])

/-- The value of a statement as a sequence. -/
def valueSequence (statementSeq : List Primitive) : Outcome (List Primitive) :=
  arrayGet statementSeq 1 >>= Primitive.getSequence

/-- The value of a statement as a number. -/
def valueInteger (statementSeq : List Primitive) : Outcome Int :=
  arrayGet statementSeq 1 >>= Primitive.getInteger

/-- The body of `setStatementVals`. -/
def readStatement (lib : Library GeneralName) (statementSeq : List Primitive) :
    Mutating (QCStatements GeneralName) Unit := do
  let statementIdStr ← Mutating.call (arrayGet statementSeq 0 >>= Primitive.getOid)
  if statementIdStr = PKIX_SYNTAX_V1 then
    modify ({ · with pkixSyntaxV1 := true })
  if statementIdStr = PKIX_SYNTAX_V2 then
    modify ({ · with pkixSyntaxV2 := true })
  if statementIdStr = PKIX_SYNTAX_V2 ∨ statementIdStr = PKIX_SYNTAX_V1 then
    if statementSeq.length > 1 then
      let siSeq ← Mutating.call (valueSequence statementSeq)
      modify ({ · with semanticsInfo := some (siSeq.foldl (getSemanticsInfoVals lib) {}) })
  if statementIdStr = QC_COMPLIANCE then
    modify ({ · with qcCompliance := true })
  if statementIdStr = QC_SSCD then
    modify ({ · with qcSscd := true })
  if statementIdStr = QC_TYPE then
    modify ({ · with qcType := true })
    let qcTypeSequence ← Mutating.call (valueSequence statementSeq)
    modify ({ · with qcTypeIdList := some [] })
    collect Primitive.getOid (fun type x => { x with qcTypeIdList := addTo x.qcTypeIdList type })
      qcTypeSequence
  if statementIdStr = LIMITVAL then
    modify ({ · with limitValue := true })
    let monetaryValue ← Mutating.call (valueSequence statementSeq >>= readLimit)
    modify ({ · with monetaryValue := some monetaryValue })
  if statementIdStr = RETENTION_PERIOD then
    modify ({ · with retentionPeriod := true })
    let years ← Mutating.call (valueInteger statementSeq)
    modify ({ · with retentionPeriodVal := some years })
  if statementIdStr = PKI_DISCLOSURE then
    modify ({ · with pdsStatement := true })
    let pdsSequence ← Mutating.call (valueSequence statementSeq)
    modify ({ · with locationList := some [] })
    collect readLocation
      (fun location x => { x with locationList := addTo x.locationList location })
      pdsSequence
  if statementIdStr = QC_CC_LEGISLATION then
    modify ({ · with qcCClegislation := true })
    let qcLegislationSeq ← Mutating.call (valueSequence statementSeq)
    modify ({ · with legislationCountryList := some [] })
    collect Primitive.getPrintableString
      (fun country x => { x with legislationCountryList := addTo x.legislationCountryList country })
      qcLegislationSeq

/-- `setStatementVals`, whose `catch` is empty. -/
def setStatementVals (lib : Library GeneralName) (x : QCStatements GeneralName)
    (statementSeq : List Primitive) : QCStatements GeneralName :=
  Mutating.tryCatch (readStatement lib statementSeq) (fun _ x => x) x

/-- The statements as sequences. -/
def statementSequences (seq : List Primitive) : Outcome (List (List Primitive)) :=
  seq.mapM Primitive.getSequence

/-- The private constructor. An element that is no sequence is all that can throw. -/
def ofSequence (lib : Library GeneralName) (seq : List Primitive) :
    Outcome (QCStatements GeneralName) :=
  rethrowAs .illegalArgument "Bad extension content" do
    let statements ← statementSequences seq
    pure (statements.foldl (setStatementVals lib) {})

/-- `getInstance`, with `null` for `null`. -/
def getInstance (lib : Library GeneralName) (obj : Option Primitive) :
    Outcome (Option (QCStatements GeneralName)) :=
  match obj with
  | none => pure none
  | some obj => do
      let seq ← obj.getSequence
      let x ← ofSequence lib seq
      pure (some x)

/-! ## What one statement does -/

/-- The statement is of the kind. -/
def isA (statementId : ObjectIdentifier) (statementSeq : List Primitive) : Bool :=
  (arrayGet statementSeq 0 >>= Primitive.getOid).toOption == some statementId

/-- What is read from a statement of the kind, if nothing throws. -/
def valueOf {α : Type} (statementId : ObjectIdentifier) (read : List Primitive → Outcome α)
    (statementSeq : List Primitive) : Option α :=
  if isA statementId statementSeq then (read statementSeq).toOption else none

/-- The list a statement of the kind leaves: what can be read from the start of its value. -/
def listOf {α : Type} (statementId : ObjectIdentifier) (read : Primitive → Outcome α)
    (statementSeq : List Primitive) : Option (List α) :=
  (valueOf statementId valueSequence statementSeq).map (readable read)

def limitOf : List Primitive → Option MonetaryValue :=
  valueOf LIMITVAL fun statementSeq => valueSequence statementSeq >>= readLimit

def yearsOf : List Primitive → Option Int := valueOf RETENTION_PERIOD valueInteger

/-- Both versions of the syntax have the information. -/
def semanticsOf (lib : Library GeneralName) (statementSeq : List Primitive) :
    Option (SemanticsInformation GeneralName) :=
  ((valueOf PKIX_SYNTAX_V1 valueSequence statementSeq).or
    (valueOf PKIX_SYNTAX_V2 valueSequence statementSeq)).map
      fun siSeq => siSeq.foldl (getSemanticsInfoVals lib) {}

/-- The object after one more statement. -/
def afterStatement (lib : Library GeneralName) (x : QCStatements GeneralName)
    (statementSeq : List Primitive) : QCStatements GeneralName where
  pkixSyntaxV1 := x.pkixSyntaxV1 || isA PKIX_SYNTAX_V1 statementSeq
  pkixSyntaxV2 := x.pkixSyntaxV2 || isA PKIX_SYNTAX_V2 statementSeq
  qcCompliance := x.qcCompliance || isA QC_COMPLIANCE statementSeq
  pdsStatement := x.pdsStatement || isA PKI_DISCLOSURE statementSeq
  qcSscd := x.qcSscd || isA QC_SSCD statementSeq
  qcType := x.qcType || isA QC_TYPE statementSeq
  retentionPeriod := x.retentionPeriod || isA RETENTION_PERIOD statementSeq
  limitValue := x.limitValue || isA LIMITVAL statementSeq
  qcCClegislation := x.qcCClegislation || isA QC_CC_LEGISLATION statementSeq
  monetaryValue := (limitOf statementSeq).or x.monetaryValue
  qcTypeIdList := (listOf QC_TYPE Primitive.getOid statementSeq).or x.qcTypeIdList
  retentionPeriodVal := (yearsOf statementSeq).or x.retentionPeriodVal
  locationList := (listOf PKI_DISCLOSURE readLocation statementSeq).or x.locationList
  semanticsInfo := (semanticsOf lib statementSeq).or x.semanticsInfo
  legislationCountryList :=
    (listOf QC_CC_LEGISLATION Primitive.getPrintableString statementSeq).or
      x.legislationCountryList

/-- A list field that is replaced by what can be read from the start of the value. -/
theorem wp_readList {σ α : Type} {read : Primitive → Outcome α} {value : Outcome (List Primitive)}
    (get : σ → Option (List α)) (set : σ → Option (List α) → σ)
    (hget : ∀ x l, get (set x l) = l) (hset : ∀ x l l', set (set x l) l' = set x l')
    (hsame : ∀ x, set x (get x) = x) (x : σ) :
    Mutating.wp
      (do
        let elements ← Mutating.call value
        modify fun x => set x (some [])
        collect read (fun a x => set x (addTo (get x) a)) elements)
      (fun _ t => t = set x ((value.toOption.map (readable read)).or (get x)))
      (fun _ t => t = set x ((value.toOption.map (readable read)).or (get x))) x := by
  have hfold : ∀ (values l : List α),
      values.foldl (fun x a => set x (addTo (get x) a)) (set x (some l)) =
        set x (some (l ++ values)) := by
    intro values
    induction values with
    | nil =>
        intro l
        rw [List.foldl_nil, List.append_nil]
    | cons a rest ih =>
        intro l
        rw [List.foldl_cons, hget, hset]
        exact (ih (l ++ [a])).trans (by rw [List.append_assoc, List.singleton_append])
  rw [Mutating.wp_bind, Mutating.wp_call]
  cases value with
  | error ex =>
      refine ⟨by rintro _ ⟨⟩, ?_⟩
      intro _ _
      exact (hsame x).symm
  | ok elements =>
      refine ⟨?_, by rintro _ ⟨⟩⟩
      rintro _ ⟨⟩
      rw [Mutating.wp_bind, Mutating.wp_modify]
      refine Mutating.wp_mono (wp_collect elements _) ?_ ?_
      · rintro _ t rfl
        exact hfold _ []
      · rintro _ t rfl
        exact hfold _ []

/-- A field that is set to a value that may throw. -/
theorem wp_readField {σ α : Type} {value : Outcome α} (get : σ → Option α)
    (set : σ → Option α → σ) (hsame : ∀ x, set x (get x) = x) (x : σ) :
    Mutating.wp
      (do
        let a ← Mutating.call value
        modify fun x => set x (some a))
      (fun _ t => t = set x (value.toOption.or (get x)))
      (fun _ t => t = set x (value.toOption.or (get x))) x := by
  rw [Mutating.wp_bind, Mutating.wp_call]
  cases value with
  | error ex =>
      refine ⟨by rintro _ ⟨⟩, ?_⟩
      intro _ _
      exact (hsame x).symm
  | ok a =>
      refine ⟨?_, by rintro _ ⟨⟩⟩
      rintro _ ⟨⟩
      exact rfl

/-- A statement without a value has no information. -/
theorem wp_readSemantics (lib : Library GeneralName) (x : QCStatements GeneralName)
    (statementSeq : List Primitive) :
    Mutating.wp
      (if 1 < statementSeq.length then do
        let siSeq ← Mutating.call (valueSequence statementSeq)
        modify fun x : QCStatements GeneralName =>
          { x with semanticsInfo := some (siSeq.foldl (getSemanticsInfoVals lib) {}) }
      else pure ())
      (fun _ t => t =
        { x with
          semanticsInfo := ((valueSequence statementSeq).toOption.map fun siSeq =>
            siSeq.foldl (getSemanticsInfoVals lib) {}).or x.semanticsInfo })
      (fun _ t => t =
        { x with
          semanticsInfo := ((valueSequence statementSeq).toOption.map fun siSeq =>
            siSeq.foldl (getSemanticsInfoVals lib) {}).or x.semanticsInfo }) x := by
  by_cases hlength : 1 < statementSeq.length
  · rw [if_pos hlength, Mutating.wp_bind, Mutating.wp_call]
    cases valueSequence statementSeq with
    | error ex =>
        refine ⟨by rintro _ ⟨⟩, ?_⟩
        intro _ _
        exact rfl
    | ok siSeq =>
        refine ⟨?_, by rintro _ ⟨⟩⟩
        rintro _ ⟨⟩
        exact rfl
  · have hnone : valueSequence statementSeq = .error Exn.indexOutOfBounds := by
      unfold valueSequence arrayGet
      rw [List.getElem?_eq_none (by omega)]
      rfl
    rw [if_neg hlength, Mutating.wp_pure, hnone]
    rfl

section Kinds

attribute [local simp] PKIX_SYNTAX_V1 PKIX_SYNTAX_V2 QC_COMPLIANCE QC_SSCD LIMITVAL RETENTION_PERIOD
  PKI_DISCLOSURE QC_TYPE QC_CC_LEGISLATION afterStatement valueOf listOf limitOf yearsOf
  semanticsOf

/-- **One statement.** Its flag is set, and its data as far as it can be read. -/
theorem setStatementVals_eq (lib : Library GeneralName) (x : QCStatements GeneralName)
    (statementSeq : List Primitive) :
    setStatementVals lib x statementSeq = afterStatement lib x statementSeq := by
  apply Mutating.tryCatch_of_wp (P := (· = afterStatement lib x statementSeq))
  unfold readStatement
  rw [Mutating.wp_bind, Mutating.wp_call]
  cases hid : arrayGet statementSeq 0 >>= Primitive.getOid with
  | error ex =>
      have hisA : ∀ kind, isA kind statementSeq = false := by
        intro kind
        unfold isA
        rw [hid]
        rfl
      refine ⟨by rintro _ ⟨⟩, ?_⟩
      intro _ _
      simp [hisA]
  | ok id =>
      refine ⟨?_, by rintro _ ⟨⟩⟩
      rintro _ ⟨⟩
      have hisA : ∀ kind, isA kind statementSeq = (id == kind) := by
        intro kind
        unfold isA
        rw [hid]
        rfl
      by_cases hv1 : id = PKIX_SYNTAX_V1
      · subst hv1
        simp [hisA]
        exact wp_readSemantics lib { x with pkixSyntaxV1 := true } statementSeq
      by_cases hv2 : id = PKIX_SYNTAX_V2
      · subst hv2
        simp [hisA]
        exact wp_readSemantics lib { x with pkixSyntaxV2 := true } statementSeq
      by_cases hcompliance : id = QC_COMPLIANCE
      · subst hcompliance
        simp [hisA]
      by_cases hsscd : id = QC_SSCD
      · subst hsscd
        simp [hisA]
      by_cases htype : id = QC_TYPE
      · subst htype
        simp [hisA]
        exact wp_readList (·.qcTypeIdList) (fun x l => { x with qcTypeIdList := l })
          (fun _ _ => rfl) (fun _ _ _ => rfl) (fun _ => rfl) { x with qcType := true }
      by_cases hlimit : id = LIMITVAL
      · subst hlimit
        simp [hisA]
        exact wp_readField (·.monetaryValue) (fun x limit => { x with monetaryValue := limit })
          (fun _ => rfl) { x with limitValue := true }
      by_cases hretention : id = RETENTION_PERIOD
      · subst hretention
        simp [hisA]
        exact wp_readField (·.retentionPeriodVal)
          (fun x years => { x with retentionPeriodVal := years }) (fun _ => rfl)
          { x with retentionPeriod := true }
      by_cases hpds : id = PKI_DISCLOSURE
      · subst hpds
        simp [hisA]
        exact wp_readList (·.locationList) (fun x l => { x with locationList := l })
          (fun _ _ => rfl) (fun _ _ _ => rfl) (fun _ => rfl) { x with pdsStatement := true }
      by_cases hlegislation : id = QC_CC_LEGISLATION
      · subst hlegislation
        simp [hisA]
        exact wp_readList (·.legislationCountryList)
          (fun x l => { x with legislationCountryList := l })
          (fun _ _ => rfl) (fun _ _ _ => rfl) (fun _ => rfl) { x with qcCClegislation := true }
      · have hother : ∀ kind, id ≠ kind → isA kind statementSeq = false :=
          fun kind hne => (hisA kind).trans (beq_eq_false_iff_ne.mpr hne)
        simp only [hv1, hv2, hcompliance, hsscd, htype, hlimit, hretention, hpds, hlegislation,
          or_self, if_false, Mutating.wp_pure]
        unfold afterStatement semanticsOf limitOf yearsOf listOf valueOf
        simp only [hother _ hv1, hother _ hv2, hother _ hcompliance, hother _ hsscd,
          hother _ htype, hother _ hlimit, hother _ hretention, hother _ hpds,
          hother _ hlegislation, Bool.or_false, Bool.false_eq_true, if_false, Option.map_none,
          Option.none_or]

end Kinds

end QCStatements

end SigVal.Extensions
