import SigVal.Lib.Mutating

/-!
# ASN.1 values

The values a certificate extension is built from, and the `getInstance` methods by which
Java code takes them apart: each throws on a value of another type. A string type keeps
the characters it can represent, so that the text read from a string is a function of the
text it was made of, and which function is left open. So are general names.

A loop over the elements of a sequence that reads each and adds it to an object ends early
at the first that cannot be read, and what was added stays.
-/

namespace SigVal.Asn1

open SigVal.Java

/-- An object identifier in dotted form. -/
abbrev ObjectIdentifier := String

inductive Primitive where
  | oid (id : ObjectIdentifier)
  | integer (value : Int)
  | printableString (text : String)
  | ia5String (text : String)
  | utf8String (text : String)
  | generalizedTime (text : String)
  | tagged (tagNo : Nat) (content : Primitive)
  | sequence (elements : List Primitive)
  /-- Any other type. -/
  | other (data : List UInt8)
deriving Repr

def illegalObject : Exn := ⟨.illegalArgument, "illegal object in getInstance"⟩

namespace Primitive

/-- `ASN1Sequence.getInstance`. -/
def getSequence : Primitive → Outcome (List Primitive)
  | sequence elements => .ok elements
  | _ => .error illegalObject

/-- `ASN1ObjectIdentifier.getInstance`. -/
def getOid : Primitive → Outcome ObjectIdentifier
  | oid id => .ok id
  | _ => .error illegalObject

/-- `ASN1Integer.getInstance`. -/
def getInteger : Primitive → Outcome Int
  | integer value => .ok value
  | _ => .error illegalObject

/-- `ASN1PrintableString.getInstance`. -/
def getPrintableString : Primitive → Outcome String
  | printableString text => .ok text
  | _ => .error illegalObject

/-- `ASN1IA5String.getInstance`. -/
def getIA5String : Primitive → Outcome String
  | ia5String text => .ok text
  | _ => .error illegalObject

/-- `ASN1UTF8String.getInstance`. -/
def getUTF8String : Primitive → Outcome String
  | utf8String text => .ok text
  | _ => .error illegalObject

@[simp] theorem getSequence_ok_iff {p : Primitive} {elements : List Primitive} :
    p.getSequence = .ok elements ↔ p = .sequence elements := by
  cases p <;> simp [getSequence]

@[simp] theorem getOid_ok_iff {p : Primitive} {id : ObjectIdentifier} :
    p.getOid = .ok id ↔ p = .oid id := by
  cases p <;> simp [getOid]

@[simp] theorem getInteger_ok_iff {p : Primitive} {value : Int} :
    p.getInteger = .ok value ↔ p = .integer value := by
  cases p <;> simp [getInteger]

end Primitive

/-- The library: what a text becomes in a string of a type, and general names. -/
structure Library (GeneralName : Type) where
  /-- The text of a `DERPrintableString` of a text. -/
  printable : String → String
  /-- The text of a `DERIA5String` of a text. -/
  ia5 : String → String
  encodeName : GeneralName → Primitive
  /-- `GeneralName.getInstance`. -/
  getName : Primitive → Outcome GeneralName
  nameToString : GeneralName → String
  getName_encodeName : ∀ name, getName (encodeName name) = .ok name

/-- A library whose names are URIs, for texts that every string type can represent. -/
def uriLibrary : Library String where
  printable := id
  ia5 := id
  encodeName := fun uri => .tagged 6 (.ia5String uri)
  getName := fun name =>
    match name with
    | .tagged 6 (.ia5String uri) => .ok uri
    | _ => .error illegalObject
  nameToString := fun uri => "6: " ++ uri
  getName_encodeName := fun _ => rfl

/-! ## Reading the elements of a sequence -/

section Collect

variable {σ α : Type} {read : Primitive → Outcome α} {add : α → σ → σ}

/-- Every element is read and added, up to the first that cannot be read. -/
def collect (read : Primitive → Outcome α) (add : α → σ → σ) : List Primitive → Mutating σ Unit
  | [] => pure ()
  | element :: rest => do
      let a ← Mutating.call (read element)
      modify (add a)
      collect read add rest

/-- What can be read before the first element that cannot. -/
def readable (read : Primitive → Outcome α) : List Primitive → List α
  | [] => []
  | element :: rest =>
      match read element with
      | .ok a => a :: readable read rest
      | .error _ => []

/-- Every element can be read, and these are the values. -/
def ReadsAll (read : Primitive → Outcome α) (elements : List Primitive) (values : List α) : Prop :=
  List.Forall₂ (fun element a => read element = .ok a) elements values

theorem wp_collect (elements : List Primitive) (s : σ) :
    Mutating.wp (collect read add elements)
      (fun _ t => t = (readable read elements).foldl (fun s a => add a s) s)
      (fun _ t => t = (readable read elements).foldl (fun s a => add a s) s) s := by
  induction elements generalizing s with
  | nil => exact rfl
  | cons element rest ih =>
      unfold collect readable
      rw [Mutating.wp_bind, Mutating.wp_call]
      cases hread : read element with
      | error ex =>
          refine ⟨?_, fun _ _ => rfl⟩
          rintro _ ⟨⟩
      | ok a =>
          refine ⟨?_, by rintro _ ⟨⟩⟩
          rintro _ ⟨⟩
          rw [Mutating.wp_bind, Mutating.wp_modify]
          exact ih (add a s)

theorem readable_of_readsAll {elements : List Primitive} {values : List α}
    (h : ReadsAll read elements values) : readable read elements = values := by
  induction h with
  | nil => rfl
  | cons hread _ ih =>
      unfold readable
      rw [hread, ih]

/-- A sequence of encodings, each of which is read back. -/
theorem mapM_encode {encode : α → Primitive} {values : List α}
    (h : ∀ a ∈ values, read (encode a) = .ok a) : (values.map encode).mapM read = .ok values := by
  induction values with
  | nil => rfl
  | cons a rest ih =>
      obtain ⟨ha, hrest⟩ := List.forall_mem_cons.mp h
      rw [List.map_cons, List.mapM_cons, ha, ih hrest]
      rfl

end Collect

end SigVal.Asn1
