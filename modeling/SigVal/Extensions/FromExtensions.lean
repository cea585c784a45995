import SigVal.Extensions.AuthnContext
import SigVal.Extensions.QCStatements

/-!
# Finding an extension

Every class of the module decodes the extension that it finds in a set of X.509 extensions.
Three classes look under their own identifier. `PrivateKeyUsagePeriod` and
`SubjectInformationAccess` look under the one of the authority information access, whose
value they can decode: the first drops elements that are no times, and the second has the
same syntax.
-/

namespace SigVal.Extensions

open SigVal.Java SigVal.Asn1 SigVal.Dom Saci
open AuthnContext (twoDocuments)

variable {GeneralName BiometricData Instant : Type}

/-- The extensions of a certificate: what parsing the value under an identifier gives. -/
abbrev ExtensionSet := List (ObjectIdentifier × Outcome Primitive)

/-- `getExtensionParsedValue`, with `null` for an extension that is absent. -/
def ExtensionSet.getExtensionParsedValue (extensions : ExtensionSet) (oid : ObjectIdentifier) :
    Outcome (Option Primitive) :=
  match extensions.lookup oid with
  | none => pure none
  | some value => do
      let v ← value
      pure (some v)

/-- `Extension.authorityInfoAccess`. -/
def authorityInfoAccess : ObjectIdentifier := "1.3.6.1.5.5.7.1.1"

/-- Biometric data and times in the ASN.1 library. A time is read under an implicit tag. -/
structure Encodings (BiometricData : Type) where
  encodeData : BiometricData → Primitive
  /-- `BiometricData.getInstance`. -/
  getData : Primitive → Outcome BiometricData
  /-- `DERGeneralizedTime` of a date. -/
  encodeTime : Date → Primitive
  /-- `ASN1GeneralizedTime.getInstance` of what is under the tag, and `getDate`. -/
  getTime : Primitive → Outcome Date

/-! ## The decoders -/

structure BiometricInfo (BiometricData : Type) where
  biometricDataList : List BiometricData := []

namespace BiometricInfo

def OID : ObjectIdentifier := "1.3.6.1.5.5.7.1.2"

def ofSequence (enc : Encodings BiometricData) (seq : List Primitive) :
    Outcome (BiometricInfo BiometricData) :=
  rethrowAs .illegalArgument "Bad extension content" do
    let biometricDataList ← seq.mapM enc.getData
    pure { biometricDataList := biometricDataList }

def getInstance (enc : Encodings BiometricData) (obj : Option Primitive) :
    Outcome (Option (BiometricInfo BiometricData)) :=
  match obj with
  | none => pure none
  | some obj => do
      let seq ← obj.getSequence
      let x ← ofSequence enc seq
      pure (some x)

def toASN1Primitive (enc : Encodings BiometricData) (x : BiometricInfo BiometricData) :
    Primitive :=
  .sequence (x.biometricDataList.map enc.encodeData)

def fromExtensions (enc : Encodings BiometricData) (extensions : ExtensionSet) :
    Outcome (Option (BiometricInfo BiometricData)) := do
  let value ← extensions.getExtensionParsedValue OID
  getInstance enc value

end BiometricInfo

structure PrivateKeyUsagePeriod where
  notBefore : Option Date := none
  notAfter : Option Date := none
deriving DecidableEq, Repr

namespace PrivateKeyUsagePeriod

/-- `Extension.privateKeyUsagePeriod`. -/
def OID : ObjectIdentifier := "2.5.29.16"

/-- One pass of the loop, whose `catch` is empty. -/
def readTime (enc : Encodings BiometricData) (x : PrivateKeyUsagePeriod) (element : Primitive) :
    PrivateKeyUsagePeriod :=
  match element with
  | .tagged tagNo content =>
      match enc.getTime content with
      | .ok time =>
          if tagNo = 0 then { x with notBefore := some time }
          else if tagNo = 1 then { x with notAfter := some time }
          else x
      | .error _ => x
  | _ => x

def ofSequence (enc : Encodings BiometricData) (seq : List Primitive) : PrivateKeyUsagePeriod :=
  seq.foldl (readTime enc) {}

def getInstance (enc : Encodings BiometricData) (obj : Option Primitive) :
    Outcome (Option PrivateKeyUsagePeriod) :=
  match obj with
  | none => pure none
  | some obj => do
      let seq ← obj.getSequence
      pure (some (ofSequence enc seq))

def toASN1Primitive (enc : Encodings BiometricData) (x : PrivateKeyUsagePeriod) : Primitive :=
  .sequence
    ((x.notBefore.map fun date => Primitive.tagged 0 (enc.encodeTime date)).toList ++
      (x.notAfter.map fun date => Primitive.tagged 1 (enc.encodeTime date)).toList)

/-- The identifier is not `OID`. -/
def fromExtensions (enc : Encodings BiometricData) (extensions : ExtensionSet) :
    Outcome (Option PrivateKeyUsagePeriod) := do
  let value ← extensions.getExtensionParsedValue authorityInfoAccess
  getInstance enc value

end PrivateKeyUsagePeriod

structure AccessDescription (GeneralName : Type) where
  accessMethod : ObjectIdentifier
  accessLocation : GeneralName
deriving DecidableEq, Repr

namespace AccessDescription

def getInstance (lib : Library GeneralName) (obj : Primitive) :
    Outcome (AccessDescription GeneralName) := do
  match ← obj.getSequence with
  | [method, location] =>
      let accessMethod ← method.getOid
      let accessLocation ← lib.getName location
      pure { accessMethod := accessMethod, accessLocation := accessLocation }
  | _ => .error ⟨.illegalArgument, "wrong number of elements in sequence"⟩

def toASN1Primitive (lib : Library GeneralName) (x : AccessDescription GeneralName) : Primitive :=
  .sequence [.oid x.accessMethod, lib.encodeName x.accessLocation]

end AccessDescription

/-- The value of an authority information access, and of a subject information access. -/
def accessSyntax (lib : Library GeneralName) (descriptions : List (AccessDescription GeneralName)) :
    Primitive :=
  .sequence (descriptions.map (AccessDescription.toASN1Primitive lib))

structure SubjectInformationAccess (GeneralName : Type) where
  accessDescriptions : List (AccessDescription GeneralName)

namespace SubjectInformationAccess

/-- `Extension.subjectInfoAccess`. -/
def OID : ObjectIdentifier := "1.3.6.1.5.5.7.1.11"

def ofSequence (lib : Library GeneralName) (seq : List Primitive) :
    Outcome (SubjectInformationAccess GeneralName) :=
  if seq.length < 1 then .error ⟨.illegalArgument, "sequence may not be empty"⟩
  else do
    let accessDescriptions ← seq.mapM (AccessDescription.getInstance lib)
    pure { accessDescriptions := accessDescriptions }

def getInstance (lib : Library GeneralName) (obj : Option Primitive) :
    Outcome (Option (SubjectInformationAccess GeneralName)) :=
  match obj with
  | none => pure none
  | some obj => do
      let seq ← obj.getSequence
      let x ← ofSequence lib seq
      pure (some x)

def toASN1Primitive (lib : Library GeneralName) (x : SubjectInformationAccess GeneralName) :
    Primitive :=
  accessSyntax lib x.accessDescriptions

/-- The identifier is not `OID`. -/
def fromExtensions (lib : Library GeneralName) (extensions : ExtensionSet) :
    Outcome (Option (SubjectInformationAccess GeneralName)) := do
  let value ← extensions.getExtensionParsedValue authorityInfoAccess
  getInstance lib value

end SubjectInformationAccess

def AuthnContext.fromExtensions (jvm : CaseTable) (platform : Platform Instant)
    (extensions : ExtensionSet) (strictMode : Bool) : Outcome (Option (AuthnContext Instant)) := do
  let value ← extensions.getExtensionParsedValue AuthnContext.OID
  AuthnContext.getInstance jvm platform value strictMode

def QCStatements.fromExtensions (lib : Library GeneralName) (extensions : ExtensionSet) :
    Outcome (Option (QCStatements GeneralName)) := do
  let value ← extensions.getExtensionParsedValue QCStatements.OID
  QCStatements.getInstance lib value

/-! ## What each decoder finds -/

section Finds

variable {α : Type}

/-- The result is what is stored under the identifier, `null` when nothing is. -/
def Finds (getInstance : Option Primitive → Outcome (Option α)) (oid : ObjectIdentifier)
    (extensions : ExtensionSet) (result : Outcome (Option α)) : Prop :=
  (extensions.lookup oid = none → result = .ok none) ∧
    ∀ value, extensions.lookup oid = some value →
      result = value >>= fun v => getInstance (some v)

/-- Every class finds its own extension. -/
structure FindsOwn (jvm : CaseTable) (platform : Platform Instant) (lib : Library GeneralName)
    (enc : Encodings BiometricData) (extensions : ExtensionSet) : Prop where
  authnContext : ∀ strictMode,
    Finds (AuthnContext.getInstance jvm platform · strictMode) AuthnContext.OID extensions
      (AuthnContext.fromExtensions jvm platform extensions strictMode)
  biometricInfo : Finds (BiometricInfo.getInstance enc) BiometricInfo.OID extensions
    (BiometricInfo.fromExtensions enc extensions)
  privateKeyUsagePeriod : Finds (PrivateKeyUsagePeriod.getInstance enc) PrivateKeyUsagePeriod.OID
    extensions (PrivateKeyUsagePeriod.fromExtensions enc extensions)
  qcStatements : Finds (QCStatements.getInstance lib) QCStatements.OID extensions
    (QCStatements.fromExtensions lib extensions)
  subjectInformationAccess : Finds (SubjectInformationAccess.getInstance lib)
    SubjectInformationAccess.OID extensions (SubjectInformationAccess.fromExtensions lib extensions)

/-- There is neither this extension nor an authority information access, or there are both and
they read alike. -/
def ReadAlike (getInstance : Option Primitive → Outcome (Option α)) (oid : ObjectIdentifier)
    (extensions : ExtensionSet) : Prop :=
  (extensions.lookup oid = none ∧ extensions.lookup authorityInfoAccess = none) ∨
    ∃ value access, extensions.lookup oid = some value ∧
      extensions.lookup authorityInfoAccess = some access ∧
      (value >>= fun v => getInstance (some v)) = access >>= fun v => getInstance (some v)

variable {f : Option Primitive → Outcome (Option α)} {oid : ObjectIdentifier}
  {extensions : ExtensionSet}

theorem getExtensionParsedValue_bind (hnull : f none = .ok none) :
    (extensions.getExtensionParsedValue oid >>= f) =
      match extensions.lookup oid with
      | none => .ok none
      | some value => value >>= fun v => f (some v) := by
  unfold ExtensionSet.getExtensionParsedValue
  cases extensions.lookup oid with
  | none => exact hnull
  | some value =>
      cases value with
      | error ex => rfl
      | ok v => rfl

theorem finds_own (hnull : f none = .ok none) :
    Finds f oid extensions
      (extensions.getExtensionParsedValue oid >>= f) := by
  rw [getExtensionParsedValue_bind hnull]
  exact ⟨fun habsent => by rw [habsent], fun value hvalue => by rw [hvalue]⟩

/-- A decoder that looks under the other identifier. -/
theorem finds_access_iff (f : Option Primitive → Outcome (Option α)) (oid : ObjectIdentifier)
    (extensions : ExtensionSet) (hnull : f none = .ok none)
    (hsome : ∀ v, f (some v) ≠ .ok none) :
    Finds f oid extensions
        (extensions.getExtensionParsedValue authorityInfoAccess >>= f) ↔
      ReadAlike f oid extensions := by
  have hpresent : ∀ value : Outcome Primitive,
      (value >>= fun v => f (some v)) ≠ .ok none := by
    intro value h
    obtain ⟨v, -, hv⟩ := bind_ok_iff.mp h
    exact hsome v hv
  rw [getExtensionParsedValue_bind hnull]
  unfold Finds ReadAlike
  cases extensions.lookup oid with
  | none =>
      cases extensions.lookup authorityInfoAccess with
      | none => exact iff_of_true ⟨fun _ => rfl, nofun⟩ (.inl ⟨rfl, rfl⟩)
      | some access =>
          apply iff_of_false (fun h => hpresent access (h.1 rfl))
          rintro (⟨-, ⟨⟩⟩ | ⟨_, _, ⟨⟩, -⟩)
  | some value =>
      cases extensions.lookup authorityInfoAccess with
      | none =>
          apply iff_of_false (fun h => hpresent value (h.2 value rfl).symm)
          rintro (⟨⟨⟩, -⟩ | ⟨_, _, -, ⟨⟩, -⟩)
      | some access =>
          constructor
          · intro h
            exact .inr ⟨value, access, rfl, rfl, (h.2 value rfl).symm⟩
          · rintro (⟨⟨⟩, -⟩ | ⟨_, _, ⟨⟩, ⟨⟩, heq⟩)
            refine ⟨nofun, ?_⟩
            rintro _ ⟨⟩
            exact heq.symm

end Finds

variable {jvm : CaseTable} {platform : Platform Instant} {lib : Library GeneralName}
  {enc : Encodings BiometricData} {extensions : ExtensionSet}

theorem PrivateKeyUsagePeriod.getInstance_some_ne (v : Primitive) :
    PrivateKeyUsagePeriod.getInstance enc (some v) ≠ .ok none := by
  intro h
  obtain ⟨seq, -, h⟩ := bind_ok_iff.mp h
  cases h

theorem SubjectInformationAccess.getInstance_some_ne (v : Primitive) :
    SubjectInformationAccess.getInstance lib (some v) ≠ .ok none := by
  intro h
  obtain ⟨seq, -, h⟩ := bind_ok_iff.mp h
  obtain ⟨x, -, h⟩ := bind_ok_iff.mp h
  cases h

/-- The first three classes find what is theirs whatever else there is. -/
theorem findsOwn_iff :
    FindsOwn jvm platform lib enc extensions ↔
      ReadAlike (PrivateKeyUsagePeriod.getInstance enc) PrivateKeyUsagePeriod.OID extensions ∧
        ReadAlike (SubjectInformationAccess.getInstance lib) SubjectInformationAccess.OID
          extensions := by
  have hperiod := finds_access_iff (PrivateKeyUsagePeriod.getInstance enc) PrivateKeyUsagePeriod.OID
    extensions rfl PrivateKeyUsagePeriod.getInstance_some_ne
  have haccess := finds_access_iff (SubjectInformationAccess.getInstance lib)
    SubjectInformationAccess.OID extensions rfl SubjectInformationAccess.getInstance_some_ne
  constructor
  · intro h
    exact ⟨hperiod.mp h.privateKeyUsagePeriod, haccess.mp h.subjectInformationAccess⟩
  · rintro ⟨hp, ha⟩
    exact
      { authnContext := fun strictMode => finds_own rfl
        biometricInfo := finds_own rfl
        privateKeyUsagePeriod := hperiod.mpr hp
        qcStatements := finds_own rfl
        subjectInformationAccess := haccess.mpr ha }

/-! ## What the decoders make of an encoding -/

namespace PrivateKeyUsagePeriod

/-- Access descriptions are no times, and are dropped. -/
theorem getInstance_accessSyntax (descriptions : List (AccessDescription GeneralName)) :
    getInstance enc (some (accessSyntax lib descriptions)) = .ok (some {}) := by
  have hdropped : ∀ x : PrivateKeyUsagePeriod,
      (descriptions.map (AccessDescription.toASN1Primitive lib)).foldl (readTime enc) x = x := by
    intro x
    induction descriptions with
    | nil => rfl
    | cons description rest ih => exact ih
  have hget : getInstance enc (some (accessSyntax lib descriptions)) =
      .ok (some (ofSequence enc (descriptions.map (AccessDescription.toASN1Primitive lib)))) := rfl
  rw [hget]
  unfold ofSequence
  rw [hdropped]

/-- The decoder itself reads an encoding back. -/
theorem getInstance_toASN1Primitive {x : PrivateKeyUsagePeriod}
    (hbefore : ∀ date, x.notBefore = some date → enc.getTime (enc.encodeTime date) = .ok date)
    (hafter : ∀ date, x.notAfter = some date → enc.getTime (enc.encodeTime date) = .ok date) :
    getInstance enc (some (x.toASN1Primitive enc)) = .ok (some x) := by
  obtain ⟨notBefore, notAfter⟩ := x
  cases notBefore with
  | none =>
      cases notAfter with
      | none => rfl
      | some after =>
          have hread := hafter after rfl
          simp [getInstance, toASN1Primitive, ofSequence, readTime, hread, Primitive.getSequence,
            bind, Except.bind, pure, Except.pure]
  | some before =>
      have hread := hbefore before rfl
      cases notAfter with
      | none =>
          simp [getInstance, toASN1Primitive, ofSequence, readTime, hread, Primitive.getSequence,
            bind, Except.bind, pure, Except.pure]
      | some after =>
          have hread' := hafter after rfl
          simp [getInstance, toASN1Primitive, ofSequence, readTime, hread, hread',
            Primitive.getSequence, bind, Except.bind, pure, Except.pure]

end PrivateKeyUsagePeriod

theorem AccessDescription.getInstance_toASN1Primitive (x : AccessDescription GeneralName) :
    AccessDescription.getInstance lib (x.toASN1Primitive lib) = .ok x := by
  have hget : AccessDescription.getInstance lib (x.toASN1Primitive lib) = (do
      let accessLocation ← lib.getName (lib.encodeName x.accessLocation)
      pure { accessMethod := x.accessMethod, accessLocation := accessLocation }) := rfl
  rw [hget, lib.getName_encodeName]
  rfl

theorem BiometricInfo.getInstance_toASN1Primitive {x : BiometricInfo BiometricData}
    (h : ∀ data ∈ x.biometricDataList, enc.getData (enc.encodeData data) = .ok data) :
    BiometricInfo.getInstance enc (some (x.toASN1Primitive enc)) = .ok (some x) := by
  have hget : BiometricInfo.getInstance enc (some (x.toASN1Primitive enc)) = (do
      let x ← BiometricInfo.ofSequence enc (x.biometricDataList.map enc.encodeData)
      pure (some x)) := rfl
  rw [hget, BiometricInfo.ofSequence, mapM_encode h]
  rfl

namespace SubjectInformationAccess

/-- An authority information access is read as a subject information access. -/
theorem getInstance_accessSyntax_iff {descriptions : List (AccessDescription GeneralName)}
    {x : SubjectInformationAccess GeneralName} :
    getInstance lib (some (accessSyntax lib descriptions)) = .ok (some x) ↔
      x.accessDescriptions = descriptions ∧ descriptions ≠ [] := by
  have hget : getInstance lib (some (accessSyntax lib descriptions)) = (do
      let x ← ofSequence lib (descriptions.map (AccessDescription.toASN1Primitive lib))
      pure (some x)) := rfl
  have hread : (descriptions.map (AccessDescription.toASN1Primitive lib)).mapM
      (AccessDescription.getInstance lib) = .ok descriptions :=
    mapM_encode fun d _ => d.getInstance_toASN1Primitive
  rw [hget]
  unfold ofSequence
  rw [hread, List.length_map]
  cases descriptions with
  | nil => exact iff_of_false nofun fun h => h.2 rfl
  | cons d rest =>
      obtain ⟨accessDescriptions⟩ := x
      constructor
      · intro h
        cases h
        exact ⟨rfl, List.cons_ne_nil _ _⟩
      · rintro ⟨rfl, -⟩
        rfl

/-- The decoder itself reads an encoding back, unless there is nothing in it. -/
theorem getInstance_toASN1Primitive {x : SubjectInformationAccess GeneralName}
    (h : x.accessDescriptions ≠ []) :
    getInstance lib (some (x.toASN1Primitive lib)) = .ok (some x) :=
  getInstance_accessSyntax_iff.mpr ⟨rfl, h⟩

end SubjectInformationAccess

/-- **Round trip**, for the sets in which every class finds its own extension. -/
theorem roundTrip_of_findsOwn (h : FindsOwn jvm platform lib enc extensions) :
    (∀ x, (∀ data ∈ x.biometricDataList, enc.getData (enc.encodeData data) = .ok data) →
      extensions.lookup BiometricInfo.OID = some (.ok (x.toASN1Primitive enc)) →
      BiometricInfo.fromExtensions enc extensions = .ok (some x)) ∧
    (∀ x, (∀ date, x.notBefore = some date ∨ x.notAfter = some date →
        enc.getTime (enc.encodeTime date) = .ok date) →
      extensions.lookup PrivateKeyUsagePeriod.OID = some (.ok (x.toASN1Primitive enc)) →
      PrivateKeyUsagePeriod.fromExtensions enc extensions = .ok (some x)) ∧
    ∀ x, x.accessDescriptions ≠ [] →
      extensions.lookup SubjectInformationAccess.OID = some (.ok (x.toASN1Primitive lib)) →
      SubjectInformationAccess.fromExtensions lib extensions = .ok (some x) := by
  refine ⟨fun x hdata hstored => ?_, fun x hdates hstored => ?_, fun x hne hstored => ?_⟩
  · exact (h.biometricInfo.2 _ hstored).trans (BiometricInfo.getInstance_toASN1Primitive hdata)
  · apply (h.privateKeyUsagePeriod.2 _ hstored).trans
    exact PrivateKeyUsagePeriod.getInstance_toASN1Primitive (fun date hd => hdates date (.inl hd))
      fun date hd => hdates date (.inr hd)
  · exact (h.subjectInformationAccess.2 _ hstored).trans
      (SubjectInformationAccess.getInstance_toASN1Primitive hne)

/-- What a decoder that looks under the identifier of an authority information access makes of
one. -/
theorem fromExtensions_access {α : Type} {f : Option Primitive → Outcome (Option α)}
    {access : Primitive} (haccess : extensions.lookup authorityInfoAccess = some (.ok access)) :
    (extensions.getExtensionParsedValue authorityInfoAccess >>= f) = f (some access) := by
  unfold ExtensionSet.getExtensionParsedValue
  rw [haccess]
  rfl

/-- **Finding.** Each class finds its own extension unless it is a usage period or a subject
information access that differs from what an authority information access reads as. Beside an
authority information access a usage period is read back when it is empty, and a subject
information access when the two have the same descriptions. -/
theorem fromExtensions_iff (jvm : CaseTable) (platform : Platform Instant)
    (lib : Library GeneralName) (enc : Encodings BiometricData) (extensions : ExtensionSet) :
    (FindsOwn jvm platform lib enc extensions ↔
      ReadAlike (PrivateKeyUsagePeriod.getInstance enc) PrivateKeyUsagePeriod.OID extensions ∧
        ReadAlike (SubjectInformationAccess.getInstance lib) SubjectInformationAccess.OID
          extensions) ∧
    ∀ descriptions,
      extensions.lookup authorityInfoAccess = some (.ok (accessSyntax lib descriptions)) →
      (∀ x, extensions.lookup PrivateKeyUsagePeriod.OID = some (.ok (x.toASN1Primitive enc)) →
        (PrivateKeyUsagePeriod.fromExtensions enc extensions = .ok (some x) ↔ x = {})) ∧
      ∀ x, extensions.lookup SubjectInformationAccess.OID = some (.ok (x.toASN1Primitive lib)) →
        (SubjectInformationAccess.fromExtensions lib extensions = .ok (some x) ↔
          x.accessDescriptions = descriptions ∧ descriptions ≠ []) := by
  refine ⟨findsOwn_iff, fun descriptions haccess => ⟨fun x _ => ?_, fun x _ => ?_⟩⟩
  · have hfound : PrivateKeyUsagePeriod.fromExtensions enc extensions = .ok (some {}) :=
      (fromExtensions_access haccess).trans
        (PrivateKeyUsagePeriod.getInstance_accessSyntax descriptions)
    rw [hfound]
    constructor
    · intro h
      cases h
      rfl
    · rintro rfl
      rfl
  · have hfound : SubjectInformationAccess.fromExtensions lib extensions =
        SubjectInformationAccess.getInstance lib (some (accessSyntax lib descriptions)) :=
      fromExtensions_access haccess
    rw [hfound]
    exact SubjectInformationAccess.getInstance_accessSyntax_iff

/-- A library that knows one time. -/
def epochEncodings : Encodings Unit where
  encodeData := fun _ => .sequence []
  getData := fun _ => .ok ()
  encodeTime := fun _ => .generalizedTime "19700101000000Z"
  getTime := fun time =>
    match time with
    | .generalizedTime "19700101000000Z" => .ok 0
    | _ => .error ⟨.parse, "Unparseable date"⟩

/-- Where an OCSP responder is. -/
def ocspAccess : AccessDescription String := ⟨"1.3.6.1.5.5.7.48.1", "http://ocsp.example.com"⟩

/-- Where a time stamp service is. -/
def timeStampingAccess : AccessDescription String :=
  ⟨"1.3.6.1.5.5.7.48.3", "http://tsa.example.com"⟩

theorem equal_access_found :
    let extensions : ExtensionSet :=
      [(PrivateKeyUsagePeriod.OID, .ok (PrivateKeyUsagePeriod.toASN1Primitive epochEncodings {})),
        (SubjectInformationAccess.OID, .ok (SubjectInformationAccess.toASN1Primitive uriLibrary
          ⟨[ocspAccess]⟩)),
        (authorityInfoAccess, .ok (accessSyntax uriLibrary [ocspAccess]))]
    PrivateKeyUsagePeriod.fromExtensions epochEncodings extensions = .ok (some {}) ∧
      SubjectInformationAccess.fromExtensions uriLibrary extensions =
        .ok (some ⟨[ocspAccess]⟩) := by
  intro extensions
  obtain ⟨-, hread⟩ :=
    fromExtensions_iff asciiCase twoDocuments uriLibrary epochEncodings extensions
  obtain ⟨hperiod, haccess⟩ := hread [ocspAccess] rfl
  exact ⟨(hperiod {} rfl).mpr rfl, (haccess ⟨[ocspAccess]⟩ rfl).mpr ⟨rfl, List.cons_ne_nil _ _⟩⟩

/-- A usage period alone is not found. Beside an authority information access an empty one is
found in its place, and in the place of a subject information access the other access. -/
theorem other_extension_found :
    let period : PrivateKeyUsagePeriod := { notBefore := some 0 }
    let alone : ExtensionSet :=
      [(PrivateKeyUsagePeriod.OID, .ok (period.toASN1Primitive epochEncodings))]
    let extensions : ExtensionSet :=
      [(PrivateKeyUsagePeriod.OID, .ok (period.toASN1Primitive epochEncodings)),
        (SubjectInformationAccess.OID, .ok (SubjectInformationAccess.toASN1Primitive uriLibrary
          ⟨[timeStampingAccess]⟩)),
        (authorityInfoAccess, .ok (accessSyntax uriLibrary [ocspAccess]))]
    PrivateKeyUsagePeriod.getInstance epochEncodings
        (some (period.toASN1Primitive epochEncodings)) = .ok (some period) ∧
      PrivateKeyUsagePeriod.fromExtensions epochEncodings alone = .ok none ∧
      PrivateKeyUsagePeriod.fromExtensions epochEncodings extensions = .ok (some {}) ∧
      SubjectInformationAccess.fromExtensions uriLibrary extensions =
        .ok (some ⟨[ocspAccess]⟩) ∧
      ¬ FindsOwn asciiCase twoDocuments uriLibrary epochEncodings alone ∧
      ¬ FindsOwn asciiCase twoDocuments uriLibrary epochEncodings extensions := by
  refine ⟨rfl, rfl, rfl, rfl, fun h => ?_, fun h => ?_⟩
  · cases h.privateKeyUsagePeriod.2 _ rfl
  · cases h.privateKeyUsagePeriod.2 _ rfl

end SigVal.Extensions
