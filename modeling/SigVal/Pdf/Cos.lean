import SigVal.Lib.HashMap
import Mathlib.Data.List.AList

/-!
# PDF objects and their comparison

`COSBase` is the object tree the PDF library hands out: a reference to another
object is a leaf, and resolving it is a matter of the document, not of the
value. `ObjectValue`, `Dictionary` and `ObjectArray` are the source's own view
of such a tree, made to be compared (`matches`) and searched
(`getValueByName`).

Dictionary entries are listed in the order the library keeps them. Their keys
are distinct, which `COSBase.Wf` states.
-/

namespace SigVal.Pdf

open SigVal.Java

/-- `COSObjectKey`: object and generation number. -/
structure COSObjectKey where
  number : Nat
  generation : Nat
deriving DecidableEq, Repr

/-- A PDF object. A string stands for its decoded text; the data of a stream is
never looked at. -/
inductive COSBase where
  | null
  | boolean (value : Bool)
  | integer (value : Int)
  | float (value : Rat)
  | name (value : String)
  | string (value : String)
  | array (items : List COSBase)
  | dictionary (entries : List (String × COSBase))
  | stream (entries : List (String × COSBase))
  | object (key : COSObjectKey)

namespace COSBase

/-- The entries of a `COSDictionary`; a `COSStream` is one too. -/
def asDictionary : COSBase → Option (List (String × COSBase))
  | .dictionary entries => some entries
  | .stream entries => some entries
  | _ => none

mutual
/-- The references in a value, at any depth. -/
def refs : COSBase → List COSObjectKey
  | .array items => refsList items
  | .dictionary entries => refsEntries entries
  | .stream entries => refsEntries entries
  | .object key => [key]
  | _ => []

def refsList : List COSBase → List COSObjectKey
  | [] => []
  | v :: vs => refs v ++ refsList vs

def refsEntries : List (String × COSBase) → List COSObjectKey
  | [] => []
  | (_, v) :: es => refs v ++ refsEntries es
end

mutual
/-- The keys of every dictionary in a value are distinct. -/
def wf : COSBase → Bool
  | .array items => wfList items
  | .dictionary entries => decide (entries.map Prod.fst).Nodup && wfEntries entries
  | .stream entries => decide (entries.map Prod.fst).Nodup && wfEntries entries
  | _ => true

def wfList : List COSBase → Bool
  | [] => true
  | v :: vs => wf v && wfList vs

def wfEntries : List (String × COSBase) → Bool
  | [] => true
  | (_, v) :: es => wf v && wfEntries es
end

theorem wf_of_mem {entries : List (String × COSBase)} (h : wfEntries entries = true)
    {k : String} {v : COSBase} (hmem : (k, v) ∈ entries) : v.wf = true := by
  induction entries with
  | nil => cases hmem
  | cons e es ih =>
      rw [wfEntries, Bool.and_eq_true] at h
      rcases List.mem_cons.mp hmem with rfl | hmem
      · exact h.1
      · exact ih h.2 hmem

end COSBase

/-! ## Values made for comparison -/

/-- `ObjectValue` with its type tag. An integer passes the `COSNumber` test
after the `COSInteger` one, so its tag is `COSNumber`; no value built by the
constructor keeps the tag `COSInteger`. -/
inductive ObjectValue where
  | cosObject (number : Nat)
  | cosDictionary (valueMap : List (String × ObjectValue))
  | cosName (value : String)
  | cosString (value : String)
  | cosArray (values : List ObjectValue)
  | other
  | error
  | cosBoolean (value : Bool)
  | cosNumber (value : Int)
  | null

/-- `Dictionary`: the values of a PDF dictionary. -/
abbrev Dictionary := List (String × ObjectValue)

/-- The `long` a real number is cast to: rounded towards zero, and clamped. -/
def floatToLong (q : Rat) : Int :=
  let truncated := if q < 0 then q.ceil else q.floor
  max (-(2 ^ 63)) (min (2 ^ 63 - 1) truncated)

namespace ObjectValue

mutual
/-- The value of an object that is there. -/
def ofBase : COSBase → ObjectValue
  | .null => .other
  | .boolean b => .cosBoolean b
  | .integer n => .cosNumber n
  | .float q => .cosNumber (floatToLong q)
  | .name s => .cosName s
  | .string s => .cosString s
  | .array items => .cosArray (ofItems items)
  | .dictionary entries => .cosDictionary (ofEntries entries)
  | .stream entries => .cosDictionary (ofEntries entries)
  | .object key => .cosObject key.number

def ofItems : List COSBase → List ObjectValue
  | [] => []
  | v :: vs => ofBase v :: ofItems vs

def ofEntries : List (String × COSBase) → List (String × ObjectValue)
  | [] => []
  | (k, v) :: es => (k, ofBase v) :: ofEntries es
end

/-- The constructor `ObjectValue(COSBase)`, on a reference that may be `null`. -/
def ofCOS : Option COSBase → ObjectValue
  | none => .null
  | some v => ofBase v

mutual
/-- `matches`: the tags agree, and so do the values in the tag's own way. -/
def valueMatches (jvm : Jvm) : ObjectValue → ObjectValue → Bool
  | .cosObject a, .cosObject b => a == b
  | .cosNumber a, .cosNumber b => a == b
  | .cosDictionary m, .cosDictionary m' => m.length == m'.length && entriesMatch jvm m m'
  | .cosName a, .cosName b => jvm.equalsIgnoreCase a b
  | .cosString a, .cosString b => jvm.equalsIgnoreCase a b
  | .cosArray xs, .cosArray ys => xs.length == ys.length && itemsMatch jvm xs ys
  | .other, .other => true
  | .cosBoolean a, .cosBoolean b => a == b
  | _, _ => false

/-- The loop of `Dictionary.matches`; a key the other side lacks is a mismatch. -/
def entriesMatch (jvm : Jvm) : Dictionary → Dictionary → Bool
  | [], _ => true
  | (k, v) :: es, m' =>
      (match m'.lookup k with
        | some w => valueMatches jvm v w
        | none => false) && entriesMatch jvm es m'

/-- The loop of `ObjectArray.matches`. -/
def itemsMatch (jvm : Jvm) : List ObjectValue → List ObjectValue → Bool
  | x :: xs, y :: ys => valueMatches jvm x y && itemsMatch jvm xs ys
  | _, _ => true
end

/-! ## Small facts about comparison -/

theorem ofEntries_lookup (k : String) :
    ∀ es : List (String × COSBase), (ofEntries es).lookup k = (es.lookup k).map ofBase
  | [] => rfl
  | (k', v) :: es => by
      simp only [ofEntries, List.lookup_cons]
      cases k == k' with
      | true => rfl
      | false => exact ofEntries_lookup k es

theorem ofBase_ne_null (v : COSBase) : ofBase v ≠ .null := by
  cases v <;> simp [ofBase]

mutual
/-- A well-formed value matches itself. -/
theorem valueMatches_self (jvm : Jvm) :
    ∀ v : COSBase, v.wf = true → valueMatches jvm (ofBase v) (ofBase v) = true
  | .null, _ => rfl
  | .boolean b, _ => beq_self_eq_true b
  | .integer n, _ => beq_self_eq_true n
  | .float q, _ => beq_self_eq_true (floatToLong q)
  | .name s, _ => jvm.equalsIgnoreCase_self s
  | .string s, _ => jvm.equalsIgnoreCase_self s
  | .object key, _ => beq_self_eq_true key.number
  | .array items, h => by
      rw [ofBase, valueMatches, beq_self_eq_true, Bool.true_and]
      exact itemsMatch_self jvm items h
  | .dictionary entries, h => by
      rw [ofBase, valueMatches, beq_self_eq_true, Bool.true_and]
      rw [COSBase.wf, Bool.and_eq_true, decide_eq_true_eq] at h
      exact entriesMatch_self jvm entries entries h.2 fun _ _ he => lookup_of_mem h.1 he
  | .stream entries, h => by
      rw [ofBase, valueMatches, beq_self_eq_true, Bool.true_and]
      rw [COSBase.wf, Bool.and_eq_true, decide_eq_true_eq] at h
      exact entriesMatch_self jvm entries entries h.2 fun _ _ he => lookup_of_mem h.1 he

theorem itemsMatch_self (jvm : Jvm) :
    ∀ vs : List COSBase, COSBase.wfList vs = true →
      itemsMatch jvm (ofItems vs) (ofItems vs) = true
  | [], _ => rfl
  | v :: vs, h => by
      rw [COSBase.wfList, Bool.and_eq_true] at h
      rw [ofItems, itemsMatch, Bool.and_eq_true]
      exact ⟨valueMatches_self jvm v h.1, itemsMatch_self jvm vs h.2⟩

theorem entriesMatch_self (jvm : Jvm) :
    ∀ es full : List (String × COSBase), COSBase.wfEntries es = true →
      (∀ k v, (k, v) ∈ es → full.lookup k = some v) →
      entriesMatch jvm (ofEntries es) (ofEntries full) = true
  | [], _, _, _ => rfl
  | (k, v) :: es, full, h, hfull => by
      rw [COSBase.wfEntries, Bool.and_eq_true] at h
      rw [ofEntries, entriesMatch, Bool.and_eq_true, ofEntries_lookup,
        hfull k v List.mem_cons_self]
      refine ⟨valueMatches_self jvm v h.1, entriesMatch_self jvm es full h.2 ?_⟩
      intro k' v' hmem
      exact hfull k' v' (List.mem_cons_of_mem _ hmem)
end

end ObjectValue

/-! ## Searching a dictionary -/

namespace Dictionary

/-- The constructor `Dictionary(COSDictionary)`. -/
def ofCOSDictionary (entries : List (String × COSBase)) : Dictionary :=
  ObjectValue.ofEntries entries

mutual
/-- What `getValueByName` finds in a value that is a sub-dictionary: the value
of the key, or else the first hit further down, in the order the map is
visited. -/
def findIn (jvm : Jvm) (name : String) : ObjectValue → Option ObjectValue
  | .cosDictionary m =>
      match m.lookup name with
      | some v => some v
      | none =>
          (jvm.keySetOrder (m.map Prod.fst)).findSome? fun k => (nestedHits jvm name m).lookup k
  | _ => none

/-- The hits in the sub-dictionaries of a map, by the key of each. -/
def nestedHits (jvm : Jvm) (name : String) : Dictionary → Dictionary
  | [] => []
  | (k, v) :: es =>
      match findIn jvm name v with
      | some hit => (k, hit) :: nestedHits jvm name es
      | none => nestedHits jvm name es
end

/-- `getValueByName`. -/
def getValueByName (jvm : Jvm) (m : Dictionary) (name : String) : Option ObjectValue :=
  findIn jvm name (.cosDictionary m)

end Dictionary

/-! ## Documents -/

/-- What is read of a `COSDocument`: its cross-reference table, the objects its
parser resolves, and its trailer. A negative offset is the number of the object
stream that holds the object. -/
structure COSDocument where
  xrefTable : AList fun _ : COSObjectKey => Int
  objects : AList fun _ : COSObjectKey => COSBase
  trailer : List (String × COSBase)
  objects_wf : ∀ e ∈ objects.entries, e.2.wf = true

namespace COSDocument

/-- `getObject` of a reference: `null` when nothing is found for it. -/
def getObject (doc : COSDocument) (key : COSObjectKey) : Option COSBase :=
  doc.objects.lookup key

theorem getObject_wf {doc : COSDocument} {key : COSObjectKey} {v : COSBase}
    (h : doc.getObject key = some v) : v.wf = true :=
  doc.objects_wf ⟨key, v⟩ (AList.mem_lookup_iff.mp h)

end COSDocument

/-- `AcroForm`: the form dictionary, `none` when it cannot be read. -/
structure AcroForm where
  dictionary : Option Dictionary

namespace AcroForm

/-- The constructor `AcroForm(COSBase, COSDocument)`. -/
def ofCOS (objectValue : COSBase) (cosDocument : COSDocument) : AcroForm :=
  match objectValue with
  | .dictionary entries => ⟨some (Dictionary.ofCOSDictionary entries)⟩
  | .stream entries => ⟨some (Dictionary.ofCOSDictionary entries)⟩
  | .object key =>
      -- a null object or one that is no dictionary throws, and the exception is swallowed
      ⟨((cosDocument.getObject key).bind COSBase.asDictionary).map Dictionary.ofCOSDictionary⟩
  | _ => ⟨none⟩

/-- The loop of `getObjectRef`: a value that is no dictionary leaves the search
dictionary as it is. -/
def followPath (jvm : Jvm) :
    List String → Option Dictionary → Option ObjectValue → Option ObjectValue
  | [], _, lastValue => lastValue
  | _ :: _, none, _ => none
  | name :: path, some searchDictionary, _ =>
      match Dictionary.getValueByName jvm searchDictionary name with
      | none => none
      | some (.cosDictionary m) => followPath jvm path (some m) (some (.cosDictionary m))
      | some v => followPath jvm path (some searchDictionary) (some v)

/-- `getObjectRef`: the object number found under the path, or -1. -/
def getObjectRef (jvm : Jvm) (form : AcroForm) (path : List String) : Int :=
  match followPath jvm path form.dictionary none with
  | some (.cosObject number) => number
  | _ => -1

end AcroForm

end SigVal.Pdf
