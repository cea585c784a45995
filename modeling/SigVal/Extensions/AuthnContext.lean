import SigVal.Extensions.SAMLAuthContext
import SigVal.Lib.Asn1

/-!
# The authentication context extension

The extension is a sequence of contexts, each with a type and an optional text. One type of
context is known here, and its text is an XML document.

The loop of the decoder asks for the text of every context and parses it before it looks at
the type. What it refuses in a document is a root with neither the namespace nor the name of
a `SAMLAuthContext`.
-/

namespace SigVal.Extensions

open SigVal.Java SigVal.Asn1 SigVal.Dom Saci

variable {Instant : Type}

/-- The extension, with what was parsed from its texts. -/
structure AuthnContext (Instant : Type) where
  statementInfoList : List (SAMLAuthContext Node Attr Instant) := []
  strictMode : Bool := false

namespace AuthnContext

def OID : ObjectIdentifier := "1.2.752.201.5.1"
def CONTENT_TYPE : String := "http://id.elegnamnden.se/auth-cont/1.0/saci"

/-! ## Decoding -/

/-- `getAuthnContext`. Parser and certificate exceptions become I/O exceptions, others are
thrown as they are. -/
def getAuthnContext (platform : Platform Instant) (xml : String) (strictMode : Bool) :
    Outcome (SAMLAuthContext Node Attr Instant) :=
  match platform.getDocument xml >>= SAMLAuthContext.ofDocument platform strictMode with
  | .ok context => .ok context
  | .error e =>
      if e.cls = .parse ∨ e.cls = .security then
        .error ⟨.io, "Unable to parse SAMLAuthContext xml: " ++ e.msg⟩
      else .error e

/-- One pass of the loop: what it adds to the list. -/
def readContext (jvm : CaseTable) (platform : Platform Instant) (strictMode : Bool)
    (element : Primitive) : Outcome (Option (SAMLAuthContext Node Attr Instant)) := do
  let contSeq ← element.getSequence
  let contextType ← arrayGet contSeq 0 >>= Primitive.getUTF8String
  let contextInfo ← arrayGet contSeq 1 >>= Primitive.getUTF8String
  let samlAuthContext ← getAuthnContext platform contextInfo strictMode
  pure (if jvm.equalsIgnoreCase contextType CONTENT_TYPE then some samlAuthContext else none)

/-- The constructor that reads a sequence. -/
def ofSequence (jvm : CaseTable) (platform : Platform Instant) (seq : List Primitive)
    (strictMode : Bool) : Outcome (AuthnContext Instant) :=
  rethrowAs .illegalArgument "Bad extension content" do
    let added ← seq.mapM (readContext jvm platform strictMode)
    pure { statementInfoList := added.filterMap id, strictMode := strictMode }

/-- `getInstance`, with `null` for `null`. -/
def getInstance (jvm : CaseTable) (platform : Platform Instant) (obj : Option Primitive)
    (strictMode : Bool) : Outcome (Option (AuthnContext Instant)) :=
  match obj with
  | none => pure none
  | some obj => do
      let seq ← obj.getSequence
      let x ← ofSequence jvm platform seq strictMode
      pure (some x)

/-! ## The grammar -/

/-- `AuthenticationContext ::= SEQUENCE { contextType UTF8String, contextInfo UTF8String
OPTIONAL }`. -/
structure AuthenticationContext where
  contextType : String
  contextInfo : Option String
deriving DecidableEq, Repr

namespace AuthenticationContext

def toPrimitive (c : AuthenticationContext) : Primitive :=
  .sequence (.utf8String c.contextType :: (c.contextInfo.map .utf8String).toList)

def isSaci (jvm : CaseTable) (c : AuthenticationContext) : Bool :=
  jvm.equalsIgnoreCase c.contextType CONTENT_TYPE

/-- The text is a `SAMLAuthContext` document with this content. -/
def Says (platform : Platform Instant) (strictMode : Bool) (c : AuthenticationContext)
    (content : SAMLAuthContext Node Attr Instant) : Prop :=
  ∃ info root, c.contextInfo = some info ∧ platform.getDocument info = .ok root ∧
    root.hasName SACI_NS SAML_AUTH_CONTEXT_ELEMENT = true ∧
    SAMLAuthContext.setValuesFromElement platform strictMode root = .ok content

/-- The text is a document with another root. -/
def OtherRoot (platform : Platform Instant) (c : AuthenticationContext) : Prop :=
  ∃ info root, c.contextInfo = some info ∧ platform.getDocument info = .ok root ∧
    root.hasName SACI_NS SAML_AUTH_CONTEXT_ELEMENT = false

/-- There is a text, it is a document whose root has the namespace or the name of a
`SAMLAuthContext`, and its content can be read. -/
def Acceptable (platform : Platform Instant) (strictMode : Bool) (c : AuthenticationContext) :
    Prop :=
  ∃ info root, c.contextInfo = some info ∧ platform.getDocument info = .ok root ∧
    (root.namespaceURI = SACI_NS ∨ root.localName = SAML_AUTH_CONTEXT_ELEMENT) ∧
    ∃ content, SAMLAuthContext.setValuesFromElement platform strictMode root = .ok content

end AuthenticationContext

open AuthenticationContext

/-- `AuthenticationContexts`. -/
def toSequence (contexts : List AuthenticationContext) : Primitive :=
  .sequence (contexts.map toPrimitive)

/-- Contexts of the known type are read, in order, and contexts of other types are ignored;
a context of the known type with another document is refused. -/
structure AcceptsGrammar (jvm : CaseTable) (platform : Platform Instant) (strictMode : Bool)
    (contexts : List AuthenticationContext) : Prop where
  accepts : ∀ statements,
    List.Forall₂ (Says platform strictMode) (contexts.filter (isSaci jvm)) statements →
    getInstance jvm platform (some (toSequence contexts)) strictMode =
      .ok (some { statementInfoList := statements, strictMode := strictMode })
  refuses : (∃ c ∈ contexts, c.isSaci jvm = true ∧ c.OtherRoot platform) →
    ∃ msg, getInstance jvm platform (some (toSequence contexts)) strictMode =
      .error ⟨.illegalArgument, msg⟩

/-- Where every context of the known type is in order, the contexts of other types carry an
acceptable document too; and where one of the known type has another root, not all are
acceptable. -/
structure Tolerable (jvm : CaseTable) (platform : Platform Instant) (strictMode : Bool)
    (contexts : List AuthenticationContext) : Prop where
  others : (∀ c ∈ contexts, c.isSaci jvm = true → ∃ content, c.Says platform strictMode content) →
    ∀ c ∈ contexts, c.isSaci jvm = false → c.Acceptable platform strictMode
  roots : (∃ c ∈ contexts, c.isSaci jvm = true ∧ c.OtherRoot platform) →
    ∃ c ∈ contexts, ¬ c.Acceptable platform strictMode

variable {jvm : CaseTable} {platform : Platform Instant} {strictMode : Bool}
  {contexts : List AuthenticationContext} {c : AuthenticationContext}
  {content : SAMLAuthContext Node Attr Instant}

theorem ofDocument_ok_iff {root : Node} :
    SAMLAuthContext.ofDocument platform strictMode root = .ok content ↔
      SAMLAuthContext.setValuesFromElement platform strictMode root = .ok content ∧
        (root.namespaceURI = SACI_NS ∨ root.localName = SAML_AUTH_CONTEXT_ELEMENT) := by
  have hvalidate : SAMLAuthContext.validateDocument root = .ok () ↔
      (root.namespaceURI = SACI_NS ∨ root.localName = SAML_AUTH_CONTEXT_ELEMENT) := by
    unfold SAMLAuthContext.validateDocument
    rw [eq_comm (a := root.namespaceURI), eq_comm (a := root.localName)]
    split
    · rename_i hneither
      exact iff_of_false nofun (not_or.mpr hneither)
    · rename_i heither
      exact iff_of_true rfl (or_iff_not_and_not.mpr heither)
  unfold SAMLAuthContext.ofDocument
  simp only [bind_ok_iff]
  constructor
  · rintro ⟨_, hread, ⟨⟩, hroot, ⟨⟩⟩
    exact ⟨hread, hvalidate.mp hroot⟩
  · rintro ⟨hread, hroot⟩
    exact ⟨content, hread, (), hvalidate.mpr hroot, rfl⟩

theorem getAuthnContext_ok_iff {info : String} :
    getAuthnContext platform info strictMode = .ok content ↔ ∃ root,
      platform.getDocument info = .ok root ∧
        (root.namespaceURI = SACI_NS ∨ root.localName = SAML_AUTH_CONTEXT_ELEMENT) ∧
        SAMLAuthContext.setValuesFromElement platform strictMode root = .ok content := by
  have hcaught : getAuthnContext platform info strictMode = .ok content ↔
      (platform.getDocument info >>= SAMLAuthContext.ofDocument platform strictMode) =
        .ok content := by
    unfold getAuthnContext
    split
    · rename_i hok
      rw [hok]
    · rename_i e herror
      rw [herror]
      split <;> exact iff_of_false nofun nofun
  rw [hcaught]
  simp only [bind_ok_iff, ofDocument_ok_iff]
  exact exists_congr fun root => and_congr_right fun _ => and_comm

/-- One pass asks for the text and parses it, whatever the type. -/
theorem readContext_ok_iff {r : Option (SAMLAuthContext Node Attr Instant)} :
    readContext jvm platform strictMode c.toPrimitive = .ok r ↔ ∃ info, c.contextInfo = some info ∧
      ∃ content, getAuthnContext platform info strictMode = .ok content ∧
        r = if c.isSaci jvm then some content else none := by
  obtain ⟨contextType, contextInfo⟩ := c
  cases contextInfo with
  | none => exact iff_of_false nofun nofun
  | some info =>
      have hread : readContext jvm platform strictMode
          (toPrimitive ⟨contextType, some info⟩) = (do
            let samlAuthContext ← getAuthnContext platform info strictMode
            pure (if jvm.equalsIgnoreCase contextType CONTENT_TYPE then some samlAuthContext
              else none)) := rfl
      rw [hread, bind_ok_iff]
      constructor
      · rintro ⟨content, hcontent, hr⟩
        cases hr
        exact ⟨info, rfl, content, hcontent, rfl⟩
      · rintro ⟨_, ⟨⟩, content, hcontent, rfl⟩
        exact ⟨content, hcontent, rfl⟩

theorem acceptable_iff :
    c.Acceptable platform strictMode ↔
      ∃ r, readContext jvm platform strictMode c.toPrimitive = .ok r := by
  simp only [readContext_ok_iff, getAuthnContext_ok_iff]
  constructor
  · rintro ⟨info, root, hinfo, hdoc, hroot, content, hcontent⟩
    exact ⟨_, info, hinfo, content, ⟨root, hdoc, hroot, hcontent⟩, rfl⟩
  · rintro ⟨_, info, hinfo, content, ⟨root, hdoc, hroot, hcontent⟩, -⟩
    exact ⟨info, root, hinfo, hdoc, hroot, content, hcontent⟩

theorem acceptable_of_content (h : c.Says platform strictMode content) :
    c.Acceptable platform strictMode := by
  obtain ⟨info, root, hinfo, hdoc, hname, hcontent⟩ := h
  refine ⟨info, root, hinfo, hdoc, .inl ?_, content, hcontent⟩
  cases root with
  | element ns name attrs children =>
      have hns : ns = SACI_NS := by simpa using (Bool.and_eq_true_iff.mp hname).1
      exact hns
  | text value => cases hname

/-- What the loop adds for a context of the known type is what its document says. -/
theorem readContext_of_content (h : c.Says platform strictMode content)
    {r : Option (SAMLAuthContext Node Attr Instant)}
    (hread : readContext jvm platform strictMode c.toPrimitive = .ok r) :
    r = if c.isSaci jvm then some content else none := by
  obtain ⟨info, root, hinfo, hdoc, -, hcontent⟩ := h
  obtain ⟨info', hinfo', content', hcontent', rfl⟩ := readContext_ok_iff.mp hread
  obtain ⟨root', hdoc', -, hcontent'⟩ := getAuthnContext_ok_iff.mp hcontent'
  cases hinfo.symm.trans hinfo'
  cases hdoc.symm.trans hdoc'
  cases hcontent.symm.trans hcontent'
  rfl

/-- The passes together: the contexts of the known type, in order. -/
theorem added_eq {added : List (Option (SAMLAuthContext Node Attr Instant))}
    (hadded : List.Forall₂ (fun c r => readContext jvm platform strictMode (toPrimitive c) = .ok r)
      contexts added) :
    ∀ {statements},
      List.Forall₂ (Says platform strictMode) (contexts.filter (isSaci jvm)) statements →
      added.filterMap id = statements := by
  induction hadded with
  | nil =>
      intro statements h
      cases h
      rfl
  | @cons c r contexts added hread _ ih =>
      intro statements h
      cases hsaci : c.isSaci jvm with
      | true =>
          rw [List.filter_cons_of_pos hsaci] at h
          cases h with
          | cons hsays hrest =>
              rw [readContext_of_content hsays hread, hsaci, if_pos rfl, List.filterMap_cons,
                ih hrest]
              rfl
      | false =>
          rw [List.filter_cons_of_neg (by simp [hsaci])] at h
          obtain ⟨info, -, content, -, rfl⟩ := readContext_ok_iff.mp hread
          rw [hsaci, if_neg Bool.false_ne_true, List.filterMap_cons, ih h]
          rfl

/-- A sequence of contexts is decoded or refused as a whole. -/
theorem getInstance_cases (jvm : CaseTable) (platform : Platform Instant) (strictMode : Bool)
    (contexts : List AuthenticationContext) :
    (∃ added, getInstance jvm platform (some (toSequence contexts)) strictMode =
          .ok (some { statementInfoList := added.filterMap id, strictMode := strictMode }) ∧
        List.Forall₂ (fun c r => readContext jvm platform strictMode (toPrimitive c) = .ok r)
          contexts added) ∨
      (∃ msg, getInstance jvm platform (some (toSequence contexts)) strictMode =
          .error ⟨.illegalArgument, msg⟩) ∧
        ∃ c ∈ contexts, ¬ c.Acceptable platform strictMode := by
  have hget : getInstance jvm platform (some (toSequence contexts)) strictMode = (do
      let x ← ofSequence jvm platform (contexts.map toPrimitive) strictMode
      pure (some x)) := rfl
  rw [hget]
  unfold ofSequence
  cases hadded : (contexts.map toPrimitive).mapM (readContext jvm platform strictMode) with
  | ok added =>
      refine .inl ⟨added, rfl, ?_⟩
      exact List.forall₂_map_left_iff.mp (forall₂_of_mapM_ok hadded)
  | error e =>
      refine .inr ⟨⟨_, rfl⟩, ?_⟩
      by_contra hall
      push Not at hall
      have hok : ∃ added,
          (contexts.map toPrimitive).mapM (readContext jvm platform strictMode) = .ok added := by
        refine exists_mapM_ok_iff.mpr (List.forall_mem_map.mpr ?_)
        exact fun c hc => acceptable_iff.mp (hall c hc)
      obtain ⟨added, hok⟩ := hok
      cases hadded.symm.trans hok

theorem forall_acceptable_of_added
    {added : List (Option (SAMLAuthContext Node Attr Instant))}
    (hadded : List.Forall₂ (fun c r => readContext jvm platform strictMode (toPrimitive c) = .ok r)
      contexts added) :
    ∀ c ∈ contexts, c.Acceptable platform strictMode := by
  intro c hc
  obtain ⟨r, -, hread⟩ := forall₂_left hadded c hc
  exact acceptable_iff.mpr ⟨r, hread⟩

/-- Contexts that are all in order say something. -/
theorem exists_says_iff :
    (∃ statements, List.Forall₂ (Says platform strictMode) (contexts.filter (isSaci jvm))
        statements) ↔
      ∀ c ∈ contexts, c.isSaci jvm = true → ∃ content, c.Says platform strictMode content := by
  constructor
  · rintro ⟨statements, h⟩ c hc hsaci
    obtain ⟨content, -, hsays⟩ := forall₂_left h c (List.mem_filter.mpr ⟨hc, hsaci⟩)
    exact ⟨content, hsays⟩
  · intro h
    induction contexts with
    | nil => exact ⟨[], .nil⟩
    | cons c contexts ih =>
        obtain ⟨hhead, hrest⟩ := List.forall_mem_cons.mp h
        obtain ⟨statements, hstatements⟩ := ih hrest
        cases hsaci : c.isSaci jvm with
        | true =>
            obtain ⟨content, hsays⟩ := hhead hsaci
            refine ⟨content :: statements, ?_⟩
            rw [List.filter_cons_of_pos hsaci]
            exact .cons hsays hstatements
        | false =>
            refine ⟨statements, ?_⟩
            rwa [List.filter_cons_of_neg (by simp [hsaci])]

/-- **The grammar.** Contexts of other types are ignored when they carry an acceptable document
of the known type, and another root is refused when it is wrong in both respects. -/
theorem acceptsGrammar_iff (jvm : CaseTable) (platform : Platform Instant) (strictMode : Bool)
    (contexts : List AuthenticationContext) :
    AcceptsGrammar jvm platform strictMode contexts ↔
      Tolerable jvm platform strictMode contexts := by
  rcases getInstance_cases jvm platform strictMode contexts with
    ⟨added, hok, hadded⟩ | ⟨⟨msg, herror⟩, c, hc, hnot⟩
  · have hall := forall_acceptable_of_added hadded
    constructor
    · intro h
      refine ⟨fun _ c hc _ => hall c hc, fun hother => ?_⟩
      obtain ⟨msg, herror⟩ := h.refuses hother
      cases hok.symm.trans herror
    · intro h
      refine ⟨fun statements hsays => ?_, fun hother => ?_⟩
      · rw [hok, added_eq hadded hsays]
      · obtain ⟨c, hc, hnot⟩ := h.roots hother
        exact absurd (hall c hc) hnot
  · constructor
    · intro h
      refine ⟨fun hgood => ?_, fun _ => ⟨c, hc, hnot⟩⟩
      obtain ⟨statements, hsays⟩ := exists_says_iff.mpr hgood
      cases herror.symm.trans (h.accepts statements hsays)
    · intro h
      refine ⟨fun statements hsays => ?_, fun _ => ⟨msg, herror⟩⟩
      have hgood := exists_says_iff.mp ⟨statements, hsays⟩
      cases hsaci : c.isSaci jvm with
      | true =>
          obtain ⟨content, hcontent⟩ := hgood c hc hsaci
          exact absurd (acceptable_of_content hcontent) hnot
      | false => exact absurd (h.others hgood c hc hsaci) hnot

def emptyContext : String :=
  "<SAMLAuthContext xmlns=\"http://id.elegnamnden.se/auth-cont/1.0/saci\"/>"

def foreignContext : String := "<SAMLAuthContext xmlns=\"urn:other\"/>"

/-- A parser for two texts: an empty document of the known type and one in a namespace of its
own. -/
def twoDocuments : Platform Unit where
  getDocument := fun text =>
    if text = emptyContext then
      .ok (.element SACI_NS SAML_AUTH_CONTEXT_ELEMENT [] [])
    else if text = foreignContext then
      .ok (.element "urn:other" SAML_AUTH_CONTEXT_ELEMENT [] [])
    else .error ⟨.parse, "Content is not allowed in prolog."⟩
  getCanonicalDocText := fun _ => ""
  getStyledDocText := fun _ => ""
  parse := fun _ => .error ⟨.runtime, "Text could not be parsed"⟩
  toInstant := fun _ => ()
  atZone := fun _ => ⟨1970, 1, 1, 0, 0, 0, 0, 0⟩
  isoText := fun _ => "1970-01-01T00:00:00.000Z"

/-- A context of another type needs no text, but without one the extension is refused; and a
document in another namespace is taken for a `SAMLAuthContext`. -/
theorem other_type_refused :
    getInstance asciiCase twoDocuments (some (toSequence
      [⟨CONTENT_TYPE, some emptyContext⟩, ⟨"urn:other", none⟩])) false =
        .error ⟨.illegalArgument, "Bad extension content"⟩ ∧
    getInstance asciiCase twoDocuments (some (toSequence
      [⟨CONTENT_TYPE, some foreignContext⟩])) false =
        .ok (some { statementInfoList := [{}], strictMode := false }) ∧
    ¬ AcceptsGrammar asciiCase twoDocuments false [⟨"urn:other", none⟩] ∧
    ¬ AcceptsGrammar asciiCase twoDocuments false
      [⟨CONTENT_TYPE, some foreignContext⟩] := by
  refine ⟨rfl, rfl, fun h => ?_, fun h => ?_⟩
  · cases h.accepts [] .nil
  · have hother : OtherRoot twoDocuments
        ⟨CONTENT_TYPE, some foreignContext⟩ := ⟨_, _, rfl, rfl, rfl⟩
    obtain ⟨msg, herror⟩ := h.refuses ⟨_, List.mem_cons_self, rfl, hother⟩
    cases herror

end AuthnContext

end SigVal.Extensions
