import SigVal.Jose.Document
import SigVal.Lib.Base64Url

/-!
# A JOSE library by the book

A library that reads and writes the JSON serializations of JWS as they are specified,
over a list of the protected headers it can parse and a check of signature values. It
satisfies everything that is assumed of the libraries, so the assumptions do not
contradict each other, and documents can be run through the model with it.
-/

namespace SigVal.Jose

open SigVal.Java SigVal.Commons

/-- What the library is made from. -/
structure Book where
  headers : List JWSHeader
  check : JWSHeader → Payload → Bytes → JWSVerifier → Bool
  serialize : SignedJWT → String

namespace Book

/-- The `ParseException` of this library. -/
def malformed (msg : String) : Exn := ⟨.parse, msg⟩

def parseJWSHeader (book : Book) (text : String) : Outcome JWSHeader :=
  match book.headers.find? fun header => header.base64URL == text with
  | some header => .ok header
  | none => .error (malformed "Invalid JWS header")

/-! ## The compact form -/

/-- The parts between the dots. -/
def splitDots : List Char → List (List Char)
  | [] => [[]]
  | c :: cs =>
      if c = '.' then [] :: splitDots cs
      else
        match splitDots cs with
        | [] => [[c]]
        | part :: parts => (c :: part) :: parts

def notCompact : String := "Invalid serialized object"

/-- Header, payload and signature of a compact form. -/
def parts (book : Book) (text : String) : Outcome (JWSHeader × String × String) :=
  if text.toList.head? = some '{' then .error (malformed notCompact)
  else
    match splitDots text.toList with
    | [header, payload, signature] => do
        let header ← book.parseJWSHeader (String.ofList header)
        if signature = [] then .error (malformed "The signature must not be empty")
        else pure (header, String.ofList payload, String.ofList signature)
    | _ => .error (malformed "Unexpected number of Base64URL parts, must be three")

def parseJWSObject (book : Book) (text : String) : Outcome JWSObject := do
  let (header, payload, signature) ← book.parts text
  pure ⟨header, ⟨payload⟩, signature⟩

def parseDetachedJWSObject (book : Book) (text : String) (detachedPayload : Payload) :
    Outcome JWSObject := do
  let (header, payload, signature) ← book.parts text
  if payload = "" then pure ⟨header, detachedPayload, signature⟩
  else .error (malformed "The payload Base64URL part must be empty")

/-! ## The JSON forms -/

def notDisjoint : String :=
  "The parameters in the protected header and the unprotected header must be disjoint"

def disjoint (sig : Signature Unit) : Bool :=
  sig.header.includedParams.all fun name =>
    ((sig.unprotectedHeader.getD []).lookup name).isNone

/-- A key identifier is a text. -/
def parseUnprotectedHeader (u : UnprotectedHeader Unit) : Outcome Unit :=
  match u.lookup "kid" with
  | none => .ok ()
  | some (.string _) => .ok ()
  | some _ => .error (malformed "Unexpected type of JSON object member kid")

def readUnprotected (obj : List (String × Json Unit)) :
    Outcome (Option (UnprotectedHeader Unit)) :=
  match obj.lookup "header" with
  | none => .ok none
  | some (.object u) => do
      parseUnprotectedHeader u
      pure (some u)
  | some _ => .error (malformed "Unexpected type of JSON object member header")

def readSignature (book : Book) (obj : List (String × Json Unit)) : Outcome (Signature Unit) :=
  match obj.lookup "protected", obj.lookup "signature" with
  | some (.string text), some (.string signature) => do
      let header ← book.parseJWSHeader text
      let unprotectedHeader ← readUnprotected obj
      let sig : Signature Unit := ⟨header, unprotectedHeader, signature⟩
      if disjoint sig then pure sig
      else .error (malformed notDisjoint)
  | _, _ => .error (malformed "Missing protected header or signature")

def readItem (book : Book) : Json Unit → Outcome (Signature Unit)
  | .object obj => book.readSignature obj
  | _ => .error (malformed "Unexpected item of the signatures")

def readSignatures (book : Book) (obj : List (String × Json Unit)) :
    Outcome (List (Signature Unit)) :=
  match obj.lookup "signature", obj.lookup "signatures" with
  | some _, none => do
      let sig ← book.readSignature obj
      pure [sig]
  | none, some (.array items) =>
      if items.isEmpty then .error (malformed "Missing signatures")
      else items.mapM book.readItem
  | _, _ => .error (malformed "Neither the flattened nor the general form")

def parseJSONObject (book : Book) (obj : List (String × Json Unit)) :
    Outcome (JWSObjectJSON Unit) :=
  match obj.lookup "payload" with
  | some (.string payload) => do
      let signatures ← book.readSignatures obj
      pure ⟨⟨payload⟩, signatures⟩
  | _ => .error (malformed "Missing payload")

def parseJSON (book : Book) (text : String) : Outcome (JWSObjectJSON Unit) :=
  match Json.read text.toList with
  | some (.object obj) => book.parseJSONObject obj
  | _ => .error (malformed "Invalid JSON object")

def signatureMembers (sig : Signature Unit) : List (String × Json Unit) :=
  [("protected", .string sig.header.base64URL), ("signature", .string sig.signature)] ++
    ((sig.unprotectedHeader.filter fun u => !u.isEmpty).map fun u =>
      ("header", Json.object u)).toList

def toGeneralJSONObject (jws : JWSObjectJSON Unit) : List (String × Json Unit) :=
  [("payload", .string jws.payload.base64URL),
    ("signatures", .array (jws.signatures.map fun sig => .object (signatureMembers sig)))]

/-! ## The library -/

def newString (bytes : Bytes) : String := (String.fromUTF8? ⟨bytes.toArray⟩).getD ""

def writeValueAsBytes (value : Json Unit) : Bytes :=
  (String.ofList (Json.render value)).toUTF8.data.toList

def readText : Json Unit → Outcome String
  | .string s => .ok s
  | _ => .error ⟨.io, "Cannot deserialize value"⟩

def readStrings : Json Unit → Outcome (List String)
  | .array items => items.mapM readText
  | _ => .error ⟨.io, "Cannot deserialize value"⟩

def library (book : Book) : JoseLibrary Unit where
  newString := newString
  encode := Base64Url.encode
  decode := Base64Url.decode
  parseJWSHeader := book.parseJWSHeader
  parseUnprotectedHeader := parseUnprotectedHeader
  parseJWSObject := book.parseJWSObject
  parseDetachedJWSObject := book.parseDetachedJWSObject
  parseJSON := book.parseJSON
  parseJSONObject := book.parseJSONObject
  toGeneralJSONObject := toGeneralJSONObject
  newECDSAVerifier := fun publicKey crit => .ok ⟨publicKey, crit⟩
  newRSASSAVerifier := fun publicKey crit => .ok ⟨publicKey, crit⟩
  verify := fun header payload signature verifier =>
    if signature = "" then .error (malformed "The signature must not be empty")
    else .ok (book.check header payload (Base64Url.decode signature) verifier)
  serialize := book.serialize
  writeValueAsBytes := writeValueAsBytes
  readStrings := readStrings

/-! ## It keeps to what is documented -/

section Lawful

variable {book : Book}

theorem parseJWSHeader_self {text : String} {header : JWSHeader}
    (h : book.parseJWSHeader text = .ok header) :
    book.parseJWSHeader header.base64URL = .ok header := by
  have hfound := h
  unfold parseJWSHeader at hfound
  split at hfound
  · rename_i found hfind
    cases hfound
    have htext : header.base64URL = text := by simpa using List.find?_some hfind
    rw [htext]
    exact h
  · cases hfound

/-- A header the library knows is read from its text, if no other one has the text. -/
theorem parseJWSHeader_of_mem {header : JWSHeader} (hmem : header ∈ book.headers)
    (hdistinct : ∀ other ∈ book.headers, other.base64URL = header.base64URL → other = header) :
    book.parseJWSHeader header.base64URL = .ok header := by
  unfold parseJWSHeader
  cases hfound : book.headers.find? fun other => other.base64URL == header.base64URL with
  | none =>
      have hnot := List.find?_eq_none.mp hfound header hmem
      exact absurd (beq_self_eq_true _) hnot
  | some found =>
      have htext : found.base64URL = header.base64URL := by simpa using List.find?_some hfound
      rw [hdistinct found (List.mem_of_find?_eq_some hfound) htext]

theorem disjoint_iff {sig : Signature Unit} : disjoint sig = true ↔ sig.Disjoint := by
  unfold disjoint Signature.Disjoint
  cases sig.unprotectedHeader with
  | none => simp
  | some u => simp [Option.isNone_iff_eq_none]

theorem newString_toUTF8 (s : String) : newString s.toUTF8.data.toList = s := by
  have hvalid : ByteArray.IsValidUTF8 ⟨s.toUTF8.data⟩ := s.isValidUTF8
  unfold newString String.fromUTF8?
  rw [Array.toArray_toList, dif_pos hvalid]
  rfl

theorem newString_write (value : Json Unit) :
    newString (writeValueAsBytes value) = String.ofList (Json.render value) := by
  exact newString_toUTF8 _

theorem readSignature_of_members {obj : List (String × Json Unit)} {sig : Signature Unit}
    (h : sig.Members book.library obj) :
    book.readSignature obj =
      if disjoint sig then .ok sig
      else .error (malformed notDisjoint) := by
  have hheader : book.parseJWSHeader sig.header.base64URL = .ok sig.header := h.header
  have hunprotected : readUnprotected obj = .ok sig.unprotectedHeader := by
    unfold readUnprotected
    rw [h.headerMember]
    cases hu : sig.unprotectedHeader with
    | none => rfl
    | some u =>
        have hparses : parseUnprotectedHeader u = .ok () := h.unprotected u hu
        show (parseUnprotectedHeader u >>= _) = _
        rw [hparses]
        rfl
  unfold readSignature
  rw [h.protectedMember, h.signatureMember]
  simp only [hheader, hunprotected, bind, Except.bind, pure, Except.pure]

theorem readUnprotected_parses {obj : List (String × Json Unit)}
    {unprotectedHeader : Option (UnprotectedHeader Unit)}
    (h : readUnprotected obj = .ok unprotectedHeader) :
    ∀ u, unprotectedHeader = some u → parseUnprotectedHeader u = .ok () := by
  intro u hu
  unfold readUnprotected at h
  split at h
  · cases h
    cases hu
  · obtain ⟨_, hparses, h⟩ := bind_ok_iff.mp h
    cases h
    cases hu
    exact hparses
  · cases h

theorem accepted_of_readSignature {obj : List (String × Json Unit)} {sig : Signature Unit}
    (h : book.readSignature obj = .ok sig) : sig.Accepted book.library := by
  unfold readSignature at h
  split at h
  · obtain ⟨header, hheader, h⟩ := bind_ok_iff.mp h
    obtain ⟨unprotectedHeader, hunprotected, h⟩ := bind_ok_iff.mp h
    dsimp only at h
    split at h
    · rename_i hdisjoint
      cases h
      exact ⟨⟨parseJWSHeader_self hheader, readUnprotected_parses hunprotected⟩,
        disjoint_iff.mp hdisjoint⟩
    · cases h
  · cases h

theorem readItems_of_members {objs : List (List (String × Json Unit))}
    {sigs : List (Signature Unit)} (h : List.Forall₂ (Signature.Members book.library) objs sigs)
    (hdisjoint : ∀ sig ∈ sigs, sig.Disjoint) :
    (objs.map Json.object).mapM book.readItem = .ok sigs := by
  induction h with
  | nil => rfl
  | cons hhead _ ih =>
      obtain ⟨hfirst, hrest⟩ := List.forall_mem_cons.mp hdisjoint
      have hread := readSignature_of_members hhead
      rw [if_pos (disjoint_iff.mpr hfirst)] at hread
      rw [List.map_cons, List.mapM_cons]
      show (book.readSignature _ >>= _) = _
      rw [hread, ih hrest]
      rfl

theorem readItems_clash {objs : List (List (String × Json Unit))}
    {sigs : List (Signature Unit)} (h : List.Forall₂ (Signature.Members book.library) objs sigs)
    (hclash : ∃ sig ∈ sigs, ¬ sig.Disjoint) :
    ∃ msg, (objs.map Json.object).mapM book.readItem = .error (malformed msg) := by
  induction h with
  | nil =>
      obtain ⟨sig, hmem, -⟩ := hclash
      cases hmem
  | @cons obj sig objs sigs hhead _ ih =>
      have hread := readSignature_of_members hhead
      rw [List.map_cons, List.mapM_cons]
      show ∃ msg, (book.readSignature obj >>= _) = _
      by_cases hdisjoint : sig.Disjoint
      · obtain ⟨sig', hmem, hsig'⟩ := hclash
        have hrest : ∃ sig' ∈ sigs, ¬ sig'.Disjoint := by
          rcases List.mem_cons.mp hmem with rfl | hmem
          · exact absurd hdisjoint hsig'
          · exact ⟨sig', hmem, hsig'⟩
        obtain ⟨msg, hmsg⟩ := ih hrest
        refine ⟨msg, ?_⟩
        rw [hread, if_pos (disjoint_iff.mpr hdisjoint), hmsg]
        rfl
      · refine ⟨notDisjoint, ?_⟩
        rw [hread, if_neg (fun h => hdisjoint (disjoint_iff.mp h))]
        rfl

theorem readSignatures_flattened {obj : List (String × Json Unit)} {sig : Signature Unit}
    (hnone : obj.lookup "signatures" = none) (h : sig.Members book.library obj) :
    book.readSignatures obj = (book.readSignature obj).map fun sig => [sig] := by
  unfold readSignatures
  rw [hnone, h.signatureMember]
  rfl

theorem readSignatures_general {obj : List (String × Json Unit)} {jws : JWSObjectJSON Unit}
    (h : jws.GeneralMembers book.library obj) (hne : jws.signatures ≠ []) :
    ∃ objs, book.readSignatures obj = (objs.map Json.object).mapM book.readItem ∧
      List.Forall₂ (Signature.Members book.library) objs jws.signatures := by
  obtain ⟨objs, hobjs, hmembers⟩ := h.signatures
  refine ⟨objs, ?_, hmembers⟩
  have hempty : (objs.map Json.object).isEmpty = false := by
    cases objs with
    | nil => exact absurd (List.forall₂_nil_left_iff.mp hmembers) hne
    | cons obj objs => rfl
  unfold readSignatures
  rw [h.noSignature, hobjs]
  simp only [hempty, Bool.false_eq_true, if_false]

theorem accepted_of_parse {obj : List (String × Json Unit)} {jws : JWSObjectJSON Unit}
    (h : book.parseJSONObject obj = .ok jws) :
    obj.lookup "payload" = some (.string jws.payload.base64URL) ∧
      ∀ sig ∈ jws.signatures, sig.Accepted book.library := by
  unfold parseJSONObject at h
  split at h
  · rename_i payload hpayload
    obtain ⟨signatures, hsignatures, h⟩ := bind_ok_iff.mp h
    cases h
    refine ⟨hpayload, ?_⟩
    unfold readSignatures at hsignatures
    split at hsignatures
    · obtain ⟨sig, hsig, h⟩ := bind_ok_iff.mp hsignatures
      cases h
      intro sig' hmem
      cases List.mem_singleton.mp hmem
      exact accepted_of_readSignature hsig
    · split at hsignatures
      · cases hsignatures
      · intro sig hmem
        obtain ⟨item, -, hitem⟩ := forall₂_left (forall₂_of_mapM_ok hsignatures).flip sig hmem
        cases item with
        | object obj => exact accepted_of_readSignature hitem
        | scalar u => cases hitem
        | string s => cases hitem
        | array items => cases hitem
    · cases hsignatures
  · cases h

/-- A JSON object does not look like a compact form. -/
theorem parts_written (book : Book) (obj : List (String × Json Unit)) :
    book.parts (newString (writeValueAsBytes (.object obj))) =
      .error (malformed notCompact) := by
  unfold parts
  rw [newString_write, String.toList_ofList]
  rfl

theorem parts_header {text : String} {header : JWSHeader} {payload signature : String}
    (h : book.parts text = .ok (header, payload, signature)) :
    book.parseJWSHeader header.base64URL = .ok header := by
  unfold parts at h
  split at h
  · cases h
  · split at h
    · obtain ⟨found, hfound, h⟩ := bind_ok_iff.mp h
      split at h
      · cases h
      · cases h
        exact parseJWSHeader_self hfound
    · cases h

/-! ### A compact form -/

theorem splitDots_of_not_mem {cs : List Char} (h : '.' ∉ cs) : splitDots cs = [cs] := by
  induction cs with
  | nil => rfl
  | cons c cs ih =>
      have hc : c ≠ '.' := fun hc => h (hc ▸ List.mem_cons_self)
      have hcs : '.' ∉ cs := fun hcs => h (List.mem_cons_of_mem c hcs)
      simp only [splitDots, if_neg hc, ih hcs]

theorem splitDots_append {cs : List Char} (rest : List Char) (h : '.' ∉ cs) :
    splitDots (cs ++ '.' :: rest) = cs :: splitDots rest := by
  induction cs with
  | nil => rfl
  | cons c cs ih =>
      have hc : c ≠ '.' := fun hc => h (hc ▸ List.mem_cons_self)
      have hcs : '.' ∉ cs := fun hcs => h (List.mem_cons_of_mem c hcs)
      simp only [List.cons_append, splitDots, if_neg hc, ih hcs]

theorem parts_compact {header : JWSHeader} {payload signature : String}
    (hheader : book.parseJWSHeader header.base64URL = .ok header)
    (hbrace : '{' ∉ header.base64URL.toList) (hdot : '.' ∉ header.base64URL.toList)
    (hpayload : '.' ∉ payload.toList) (hsignature : '.' ∉ signature.toList)
    (hne : signature ≠ "") :
    book.parts (header.base64URL ++ "." ++ payload ++ "." ++ signature) =
      .ok (header, payload, signature) := by
  have htext : (header.base64URL ++ "." ++ payload ++ "." ++ signature).toList =
      header.base64URL.toList ++ '.' :: (payload.toList ++ '.' :: signature.toList) := by
    simp
  have hfirst : (header.base64URL.toList ++
      '.' :: (payload.toList ++ '.' :: signature.toList)).head? ≠ some '{' := by
    cases hchars : header.base64URL.toList with
    | nil => simp
    | cons c cs =>
        rintro ⟨⟩
        exact hbrace (hchars ▸ List.mem_cons_self)
  have hvalue : signature.toList ≠ [] := mt String.toList_eq_nil_iff.mp hne
  unfold parts
  rw [htext, if_neg hfirst, splitDots_append _ hdot, splitDots_append _ hpayload,
    splitDots_of_not_mem hsignature]
  simp only [String.ofList_toList, hheader, bind, Except.bind, if_neg hvalue, pure, Except.pure]

/-- A text that begins like that of a header object in base64url is no JSON value. -/
theorem parseJSON_of_head {text : String} (h : text.toList.head? = some 'e') :
    book.parseJSON text = .error (malformed "Invalid JSON object") := by
  unfold parseJSON
  cases htext : text.toList with
  | nil =>
      rw [htext] at h
      cases h
  | cons c cs =>
      rw [htext] at h
      cases h
      rfl

theorem lookup_signatureMembers (sig : Signature Unit) :
    (signatureMembers sig).lookup "protected" = some (.string sig.header.base64URL) ∧
      (signatureMembers sig).lookup "header" = sig.dropEmpty.unprotectedHeader.map .object ∧
      (signatureMembers sig).lookup "signature" = some (.string sig.signature) := by
  unfold signatureMembers Signature.dropEmpty
  cases sig.unprotectedHeader.filter fun u => !u.isEmpty with
  | none => exact ⟨rfl, rfl, rfl⟩
  | some u => exact ⟨rfl, rfl, rfl⟩

theorem parseJSONObject_of_payload (book : Book) {obj : List (String × Json Unit)}
    {payload : String}
    (h : obj.lookup "payload" = some (.string payload)) :
    book.parseJSONObject obj =
      (book.readSignatures obj).map fun signatures => ⟨⟨payload⟩, signatures⟩ := by
  unfold parseJSONObject
  rw [h]
  rfl

theorem parseJSONObject_flattened {obj : List (String × Json Unit)} {payload : String}
    {sig : Signature Unit} (hpayload : obj.lookup "payload" = some (.string payload))
    (hnone : obj.lookup "signatures" = none) (hmembers : sig.Members book.library obj) :
    book.parseJSONObject obj =
      if disjoint sig then .ok ⟨⟨payload⟩, [sig]⟩ else .error (malformed notDisjoint) := by
  rw [parseJSONObject_of_payload book hpayload, readSignatures_flattened hnone hmembers,
    readSignature_of_members hmembers]
  by_cases hdisjoint : disjoint sig
  · rw [if_pos hdisjoint, if_pos hdisjoint]
    rfl
  · rw [if_neg hdisjoint, if_neg hdisjoint]
    rfl

theorem parseJSON_written (book : Book) (obj : List (String × Json Unit)) :
    book.parseJSON (newString (writeValueAsBytes (.object obj))) = book.parseJSONObject obj := by
  unfold parseJSON
  rw [newString_write, String.toList_ofList, Json.read_render]

/-- A text that decodes to something is not empty. -/
theorem ne_empty_of_decode {text : String} (h : Base64Url.decode text ≠ []) : text ≠ "" := by
  rintro rfl
  exact h rfl

theorem parseUnprotectedHeader_put {u : UnprotectedHeader Unit} {name : String}
    (value : Json Unit) (hne : name ≠ "kid") :
    parseUnprotectedHeader (putEntry u name value) = parseUnprotectedHeader u := by
  unfold parseUnprotectedHeader
  rw [lookup_putEntry_of_ne (Ne.symm hne)]

theorem readStrings_strings (texts : List String) :
    readStrings (Json.strings texts) = .ok texts := by
  show (texts.map Json.string).mapM readText = .ok texts
  induction texts with
  | nil => rfl
  | cons text texts ih =>
      rw [List.map_cons, List.mapM_cons, ih]
      rfl

theorem generalMembers_toGeneralJSONObject {jws : JWSObjectJSON Unit}
    (haccepted : ∀ sig ∈ jws.signatures, sig.Accepted book.library) :
    JWSObjectJSON.GeneralMembers book.library (toGeneralJSONObject jws)
      { jws with signatures := jws.signatures.map Signature.dropEmpty } := by
  refine ⟨rfl, rfl, jws.signatures.map signatureMembers, ?_, ?_⟩
  · show some (Json.array _) = some (Json.array _)
    simp [List.map_map, Function.comp_def]
  · rw [List.forall₂_map_left_iff, List.forall₂_map_right_iff, List.forall₂_same]
    intro sig hmem
    obtain ⟨hprotected, hheader, hsignature⟩ := lookup_signatureMembers sig
    refine ⟨⟨(haccepted sig hmem).header, ?_⟩, hprotected, hheader, hsignature⟩
    intro u hu
    exact (haccepted sig hmem).unprotected u (Option.filter_eq_some_iff.mp hu).1

theorem library_parseJSON (book : Book) : book.library.parseJSON = book.parseJSON := rfl

/-- **By the book.** The library satisfies the assumptions. -/
theorem library_lawful (book : Book) : book.library.Lawful where
  decode_encode := Base64Url.decode_encode
  encode_nil := rfl
  verify_decode := by
    intro header payload s s' verifier hdecode hne
    have hne' : Base64Url.decode s' ≠ [] := fun h => hne (hdecode.trans h)
    show (if s = "" then _ else _) = if s' = "" then _ else _
    rw [if_neg (ne_empty_of_decode hne), if_neg (ne_empty_of_decode hne')]
    exact congrArg (fun bytes => Except.ok (book.check header payload bytes verifier)) hdecode
  verify_empty := fun _ _ _ => ⟨_, rfl⟩
  unprotected_nil := rfl
  unprotected_put := fun _ _ value hu hne => (parseUnprotectedHeader_put value hne).trans hu
  compact_header := by
    intro s jws h
    obtain ⟨⟨header, payload, signature⟩, hparts, h⟩ := bind_ok_iff.mp h
    cases h
    exact parts_header hparts
  detached_header := by
    intro s p jws h
    obtain ⟨⟨header, payload, signature⟩, hparts, h⟩ := bind_ok_iff.mp h
    dsimp only at h
    split at h
    · cases h
      exact ⟨parts_header hparts, rfl⟩
    · cases h
  compact_json := by
    intro obj
    refine ⟨notCompact, ?_⟩
    show (book.parts (newString (writeValueAsBytes (.object obj))) >>= _) = _
    rw [parts_written]
    rfl
  detached_json := by
    intro obj p
    refine ⟨notCompact, ?_⟩
    show (book.parts (newString (writeValueAsBytes (.object obj))) >>= _) = _
    rw [parts_written]
    rfl
  parse_written := fun obj =>
    (congrFun book.library_parseJSON _).trans (book.parseJSON_written obj)
  parse_flattened := by
    intro obj p sig hpayload hnone hmembers hdisjoint
    have hparse := parseJSONObject_flattened hpayload hnone hmembers
    rw [if_pos (disjoint_iff.mpr hdisjoint)] at hparse
    exact hparse
  flattened_clash := by
    intro obj p sig hpayload hnone hmembers hclash
    have hparse := parseJSONObject_flattened hpayload hnone hmembers
    rw [if_neg fun h => hclash (disjoint_iff.mp h)] at hparse
    exact ⟨notDisjoint, hparse⟩
  parse_general := by
    intro obj jws hmembers hne hdisjoint
    obtain ⟨objs, hread, hobjs⟩ := readSignatures_general hmembers hne
    have hparse := parseJSONObject_of_payload book hmembers.payload
    rw [hread, readItems_of_members hobjs hdisjoint] at hparse
    exact hparse
  general_clash := by
    intro obj jws hmembers hclash
    have hne : jws.signatures ≠ [] := by
      obtain ⟨sig, hmem, -⟩ := hclash
      exact List.ne_nil_of_mem hmem
    obtain ⟨objs, hread, hobjs⟩ := readSignatures_general hmembers hne
    obtain ⟨msg, hmsg⟩ := readItems_clash hobjs hclash
    have hparse := parseJSONObject_of_payload book hmembers.payload
    rw [hread, hmsg] at hparse
    exact ⟨msg, hparse⟩
  accepted_text := by
    intro s jws h
    replace h : book.parseJSON s = .ok jws := h
    unfold parseJSON at h
    split at h
    · exact (accepted_of_parse h).2
    · cases h
  accepted_object := fun obj jws h => accepted_of_parse h
  general_members := fun _ _ haccepted => generalMembers_toGeneralJSONObject haccepted
  readStrings_strings := readStrings_strings

end Lawful

end Book

end SigVal.Jose
