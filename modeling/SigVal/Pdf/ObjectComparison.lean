import SigVal.Pdf.Cos

/-!
# What the comparison of PDF objects overlooks

`ObjectValue.matches` guards the entries of the catalog: a value that matches counts as
unchanged. It compares texts without regard to case, numbers after a cast to `long`, and
references by their object number. Arrays and dictionaries are compared piece by piece, so
that a difference of one of these kinds is overlooked at any depth, and nothing else is.

Streams are always referred to, never held; a direct value has none. Its integers fit a
`long`, as the library reads them.
-/

namespace SigVal.Pdf

open SigVal.Java

namespace COSBase

mutual
/-- There is no stream in the value, and its integers are `long`s. -/
def direct : COSBase → Bool
  | .integer n => decide (-(2 ^ 63) ≤ n ∧ n < 2 ^ 63)
  | .array items => directList items
  | .dictionary entries => directEntries entries
  | .stream _ => false
  | _ => true

def directList : List COSBase → Bool
  | [] => true
  | v :: vs => direct v && directList vs

def directEntries : List (String × COSBase) → Bool
  | [] => true
  | (_, v) :: es => direct v && directEntries es
end

/-- The number an integer or a real stands for. -/
def number? : COSBase → Option Rat
  | .integer n => some n
  | .float q => some q
  | _ => none

/-- `longValue`, of a number. -/
def longValue? : COSBase → Option Int
  | .integer n => some n
  | .float q => some (floatToLong q)
  | _ => none

end COSBase

/-- A value that can stand in an array or a dictionary. -/
structure DirectValue where
  value : COSBase
  wf : value.wf = true
  direct : value.direct = true

/-! ## Comparison piece by piece -/

section Agree

variable (leaf : COSBase → COSBase → Bool)

mutual
/-- Arrays agree item by item and dictionaries key by key; `leaf` decides about the rest. -/
def agree : COSBase → COSBase → Bool
  | .array xs, .array ys => xs.length == ys.length && agreeItems xs ys
  | .dictionary es, .dictionary es' => es.length == es'.length && agreeEntries es es'
  | a, b => leaf a b

def agreeItems : List COSBase → List COSBase → Bool
  | x :: xs, y :: ys => agree x y && agreeItems xs ys
  | _, _ => true

def agreeEntries : List (String × COSBase) → List (String × COSBase) → Bool
  | [], _ => true
  | (k, v) :: es, es' =>
      (match es'.lookup k with
        | some w => agree v w
        | none => false) && agreeEntries es es'
end

end Agree

/-- The same value, of those that have no parts. Integers and reals are numbers, and
compared as such. -/
def sameLeaf (a b : COSBase) : Bool :=
  match a, b with
  | .null, .null => true
  | .boolean x, .boolean y => decide (x = y)
  | .name x, .name y => decide (x = y)
  | .string x, .string y => decide (x = y)
  | .object x, .object y => decide (x = y)
  | a, b => a.number?.isSome && decide (a.number? = b.number?)

/-- Two values that differ in letter case, in what a cast to `long` drops, or in the
generation. -/
def blurredLeaf (jvm : Jvm) (a b : COSBase) : Bool :=
  match a, b with
  | .name x, .name y => decide (x ≠ y) && jvm.equalsIgnoreCase x y
  | .string x, .string y => decide (x ≠ y) && jvm.equalsIgnoreCase x y
  | .object x, .object y => decide (x ≠ y ∧ x.number = y.number)
  | a, b =>
      a.longValue?.isSome && decide (a.number? ≠ b.number? ∧ a.longValue? = b.longValue?)

/-- The same, or blurred. -/
def similarLeaf (jvm : Jvm) (a b : COSBase) : Bool := sameLeaf a b || blurredLeaf jvm a b

/-- Equal as PDF values. -/
def SameValue (a b : COSBase) : Prop := agree sameLeaf a b = true

instance (a b : COSBase) : Decidable (SameValue a b) :=
  inferInstanceAs (Decidable (agree sameLeaf a b = true))

/-- Equal up to differences of the three kinds. -/
def SimilarValue (jvm : Jvm) (a b : COSBase) : Prop :=
  agree (similarLeaf jvm) a b = true

/-- `x` and `y` stand at the same place in two values. -/
inductive SamePlace : COSBase → COSBase → COSBase → COSBase → Prop where
  | here {a b : COSBase} : SamePlace a b a b
  | item {xs ys : List COSBase} {i : Nat} {a b x y : COSBase} :
      xs[i]? = some a → ys[i]? = some b → SamePlace a b x y →
        SamePlace (.array xs) (.array ys) x y
  | entry {es es' : List (String × COSBase)} {k : String} {a b x y : COSBase} :
      (k, a) ∈ es → es'.lookup k = some b → SamePlace a b x y →
        SamePlace (.dictionary es) (.dictionary es') x y

/-- The values are similar, and at some place they differ all the same. -/
def Confused (jvm : Jvm) (a b : COSBase) : Prop :=
  SimilarValue jvm a b ∧ ∃ x y, SamePlace a b x y ∧ blurredLeaf jvm x y = true

/-! ## The comparison of the source -/

section Matches

variable {jvm : Jvm}

/-- What is left to `leaf`. -/
theorem agree_leaf {leaf : COSBase → COSBase → Bool} {a b : COSBase}
    (harray : ∀ xs ys, ¬ (a = .array xs ∧ b = .array ys))
    (hdictionary : ∀ es es', ¬ (a = .dictionary es ∧ b = .dictionary es')) :
    agree leaf a b = leaf a b := by
  unfold agree
  split
  · rename_i xs ys
    exact absurd ⟨rfl, rfl⟩ (harray xs ys)
  · rename_i es es'
    exact absurd ⟨rfl, rfl⟩ (hdictionary es es')
  · rfl

/-- The same up to case. -/
theorem equalsIgnoreCase_eq (x y : String) : jvm.equalsIgnoreCase x y =
    (decide (x = y) || decide (x ≠ y) && jvm.equalsIgnoreCase x y) := by
  by_cases h : x = y
  · rw [h, decide_eq_true rfl, Bool.true_or]
    exact jvm.equalsIgnoreCase_self y
  · simp [h]

/-- The cast does nothing to a number that is a `long`. -/
theorem floatToLong_intCast {n : Int} (hn : -(2 ^ 63) ≤ n ∧ n < 2 ^ 63) :
    floatToLong (n : Rat) = n := by
  unfold floatToLong
  have htruncated : (if (n : Rat) < 0 then (n : Rat).ceil else (n : Rat).floor) = n := by
    split
    · exact Rat.ceil_intCast n
    · exact Rat.floor_intCast n
  dsimp only
  rw [htruncated]
  omega

/-- Numbers are the same after the cast exactly when they are the same or blurred. -/
theorem beq_longs {x y : Int} {p q : Rat} (hcast : p = q → x = y) :
    (x == y) = (decide (some p = some q) || decide (some p ≠ some q ∧ some x = some y)) := by
  by_cases h : p = q
  · rw [hcast h, h]
    simp
  · simp [h, beq_eq_decide]

/-- `matches`, of two values that are not both arrays or both dictionaries. -/
theorem valueMatches_leaf {a b : COSBase} (ha : a.direct = true) (hb : b.direct = true)
    (harray : ∀ xs ys, ¬ (a = .array xs ∧ b = .array ys))
    (hdictionary : ∀ es es', ¬ (a = .dictionary es ∧ b = .dictionary es')) :
    ObjectValue.valueMatches jvm (.ofBase a) (.ofBase b) = similarLeaf jvm a b := by
  cases a <;> cases b
  case boolean.boolean x y =>
      show (x == y) = (decide (x = y) || false)
      rw [Bool.or_false, beq_eq_decide]
  case name.name x y => exact equalsIgnoreCase_eq x y
  case string.string x y => exact equalsIgnoreCase_eq x y
  case object.object x y =>
      show (x.number == y.number) = (decide (x = y) || decide (x ≠ y ∧ x.number = y.number))
      by_cases h : x = y
      · simp [h]
      · simp [h, beq_eq_decide]
  case integer.integer m n => exact beq_longs Rat.intCast_inj.mp
  case integer.float m q =>
      have hcast : (m : Rat) = q → m = floatToLong q := by
        rintro rfl
        exact (floatToLong_intCast (of_decide_eq_true ha)).symm
      exact beq_longs hcast
  case float.integer p n =>
      have hcast : p = (n : Rat) → floatToLong p = n := by
        rintro rfl
        exact floatToLong_intCast (of_decide_eq_true hb)
      exact beq_longs hcast
  case float.float p q => exact beq_longs (congrArg floatToLong)
  case array.array xs ys => exact absurd ⟨rfl, rfl⟩ (harray xs ys)
  case dictionary.dictionary es es' => exact absurd ⟨rfl, rfl⟩ (hdictionary es es')
  -- the others have no two values of one type, or a stream
  all_goals
    simp_all [ObjectValue.ofBase, ObjectValue.valueMatches, similarLeaf, sameLeaf, blurredLeaf,
      COSBase.direct, COSBase.number?, COSBase.longValue?]

/-- `matches` and `agree` do the same where there are no parts. -/
theorem valueMatches_eq_of_leaf {a b : COSBase} (ha : a.direct = true) (hb : b.direct = true)
    (harray : ∀ xs ys, ¬ (a = .array xs ∧ b = .array ys))
    (hdictionary : ∀ es es', ¬ (a = .dictionary es ∧ b = .dictionary es')) :
    ObjectValue.valueMatches jvm (.ofBase a) (.ofBase b) =
      agree (similarLeaf jvm) a b :=
  (valueMatches_leaf ha hb harray hdictionary).trans (agree_leaf harray hdictionary).symm

theorem length_ofItems : ∀ xs : List COSBase, (ObjectValue.ofItems xs).length = xs.length
  | [] => rfl
  | _ :: xs => congrArg (· + 1) (length_ofItems xs)

theorem length_ofEntries :
    ∀ es : List (String × COSBase), (ObjectValue.ofEntries es).length = es.length
  | [] => rfl
  | _ :: es => congrArg (· + 1) (length_ofEntries es)

theorem direct_of_lookup {es : List (String × COSBase)} (hes : COSBase.directEntries es = true)
    {k : String} {v : COSBase} (hv : es.lookup k = some v) : v.direct = true := by
  induction es with
  | nil => cases hv
  | cons e es ih =>
      rw [COSBase.directEntries, Bool.and_eq_true] at hes
      rw [lookup_cons_eq] at hv
      split at hv
      · cases hv
        exact hes.1
      · exact ih hes.2 hv

mutual
/-- **What `matches` compares.** -/
theorem valueMatches_eq : ∀ a b : COSBase, a.direct = true → b.direct = true →
    ObjectValue.valueMatches jvm (.ofBase a) (.ofBase b) =
      agree (similarLeaf jvm) a b
  | .array xs, b, ha, hb => by
      cases b with
      | array ys =>
          rw [ObjectValue.ofBase, ObjectValue.ofBase, ObjectValue.valueMatches, agree,
            length_ofItems, length_ofItems, itemsMatch_eq xs ys ha hb]
      | _ => exact valueMatches_eq_of_leaf ha hb (by simp) (by simp)
  | .dictionary es, b, ha, hb => by
      cases b with
      | dictionary es' =>
          rw [ObjectValue.ofBase, ObjectValue.ofBase, ObjectValue.valueMatches, agree,
            length_ofEntries, length_ofEntries, entriesMatch_eq es es' ha hb]
      | _ => exact valueMatches_eq_of_leaf ha hb (by simp) (by simp)
  | .null, _, ha, hb => valueMatches_eq_of_leaf ha hb (by simp) (by simp)
  | .boolean _, _, ha, hb => valueMatches_eq_of_leaf ha hb (by simp) (by simp)
  | .integer _, _, ha, hb => valueMatches_eq_of_leaf ha hb (by simp) (by simp)
  | .float _, _, ha, hb => valueMatches_eq_of_leaf ha hb (by simp) (by simp)
  | .name _, _, ha, hb => valueMatches_eq_of_leaf ha hb (by simp) (by simp)
  | .string _, _, ha, hb => valueMatches_eq_of_leaf ha hb (by simp) (by simp)
  | .object _, _, ha, hb => valueMatches_eq_of_leaf ha hb (by simp) (by simp)

theorem itemsMatch_eq : ∀ xs ys : List COSBase, COSBase.directList xs = true →
    COSBase.directList ys = true →
    ObjectValue.itemsMatch jvm (ObjectValue.ofItems xs) (ObjectValue.ofItems ys) =
      agreeItems (similarLeaf jvm) xs ys
  | [], ys, _, _ => by
      cases ys with
      | nil => rfl
      | cons y ys => rfl
  | x :: xs, [], _, _ => rfl
  | x :: xs, y :: ys, hxs, hys => by
      rw [COSBase.directList, Bool.and_eq_true] at hxs hys
      rw [ObjectValue.ofItems, ObjectValue.ofItems, ObjectValue.itemsMatch, agreeItems,
        valueMatches_eq x y hxs.1 hys.1, itemsMatch_eq xs ys hxs.2 hys.2]

theorem entriesMatch_eq : ∀ es es' : List (String × COSBase), COSBase.directEntries es = true →
    COSBase.directEntries es' = true →
    ObjectValue.entriesMatch jvm (ObjectValue.ofEntries es) (ObjectValue.ofEntries es') =
      agreeEntries (similarLeaf jvm) es es'
  | [], _, _, _ => rfl
  | (k, v) :: es, es', hes, hes' => by
      rw [COSBase.directEntries, Bool.and_eq_true] at hes
      rw [ObjectValue.ofEntries, ObjectValue.entriesMatch, agreeEntries,
        entriesMatch_eq es es' hes.2 hes', ObjectValue.ofEntries_lookup]
      cases hw : es'.lookup k with
      | none => rfl
      | some w =>
          have hvw := valueMatches_eq v w hes.1 (direct_of_lookup hes' hw)
          show (ObjectValue.valueMatches jvm (.ofBase v) (.ofBase w) && _) = _
          rw [hvw]
end

end Matches

/-! ## Same and similar -/

section Similar

variable {jvm : Jvm}

/-- What is the same is not blurred. -/
theorem sameLeaf_iff {a b : COSBase} :
    sameLeaf a b = true ↔ similarLeaf jvm a b = true ∧ blurredLeaf jvm a b = false := by
  have hdisjoint : sameLeaf a b = true → blurredLeaf jvm a b = false := by
    intro hsame
    unfold sameLeaf at hsame
    unfold blurredLeaf
    split at hsame <;> simp_all
  unfold similarLeaf
  rw [Bool.or_eq_true]
  constructor
  · intro hsame
    exact ⟨.inl hsame, hdisjoint hsame⟩
  · rintro ⟨hsame | hblurred, hnot⟩
    · exact hsame
    · rw [hblurred] at hnot
      cases hnot

/-- Nothing is blurred at any place of the two values. -/
def Clear (jvm : Jvm) (a b : COSBase) : Prop :=
  ∀ x y, SamePlace a b x y → blurredLeaf jvm x y = false

theorem clear_leaf_iff {a b : COSBase} (harray : ∀ xs ys, ¬ (a = .array xs ∧ b = .array ys))
    (hdictionary : ∀ es es', ¬ (a = .dictionary es ∧ b = .dictionary es')) :
    Clear jvm a b ↔ blurredLeaf jvm a b = false := by
  constructor
  · intro hclear
    exact hclear a b .here
  · rintro hleaf x y (_ | _ | _)
    · exact hleaf
    · exact absurd ⟨rfl, rfl⟩ (harray _ _)
    · exact absurd ⟨rfl, rfl⟩ (hdictionary _ _)

theorem clear_array_iff {xs ys : List COSBase} : Clear jvm (.array xs) (.array ys) ↔
    ∀ (i : Nat) a b, xs[i]? = some a → ys[i]? = some b → Clear jvm a b := by
  constructor
  · intro hclear i a b ha hb x y hplace
    exact hclear x y (.item ha hb hplace)
  · rintro hitems x y (_ | ⟨ha, hb, hplace⟩ | _)
    · rfl
    · exact hitems _ _ _ ha hb x y hplace

theorem clear_dictionary_iff {es es' : List (String × COSBase)} :
    Clear jvm (.dictionary es) (.dictionary es') ↔
      ∀ k a b, (k, a) ∈ es → es'.lookup k = some b → Clear jvm a b := by
  constructor
  · intro hclear k a b ha hb x y hplace
    exact hclear x y (.entry ha hb hplace)
  · rintro hentries x y (_ | _ | ⟨ha, hb, hplace⟩)
    · rfl
    · exact hentries _ _ _ ha hb x y hplace

theorem agree_same_of_leaf {a b : COSBase} (harray : ∀ xs ys, ¬ (a = .array xs ∧ b = .array ys))
    (hdictionary : ∀ es es', ¬ (a = .dictionary es ∧ b = .dictionary es')) :
    agree sameLeaf a b = true ↔ agree (similarLeaf jvm) a b = true ∧ Clear jvm a b := by
  rw [agree_leaf harray hdictionary, agree_leaf harray hdictionary,
    clear_leaf_iff harray hdictionary]
  exact sameLeaf_iff

mutual
/-- **The same is similar without a blur.** -/
theorem agree_same_iff : ∀ a b : COSBase,
    agree sameLeaf a b = true ↔ agree (similarLeaf jvm) a b = true ∧ Clear jvm a b
  | .array xs, b => by
      cases b with
      | array ys =>
          rw [clear_array_iff, agree, agree, Bool.and_eq_true, Bool.and_eq_true,
            agreeItems_same_iff xs ys, and_assoc]
      | _ => exact agree_same_of_leaf (by simp) (by simp)
  | .dictionary es, b => by
      cases b with
      | dictionary es' =>
          rw [clear_dictionary_iff, agree, agree, Bool.and_eq_true, Bool.and_eq_true,
            agreeEntries_same_iff es es', and_assoc]
      | _ => exact agree_same_of_leaf (by simp) (by simp)
  | .null, _ => agree_same_of_leaf (by simp) (by simp)
  | .boolean _, _ => agree_same_of_leaf (by simp) (by simp)
  | .integer _, _ => agree_same_of_leaf (by simp) (by simp)
  | .float _, _ => agree_same_of_leaf (by simp) (by simp)
  | .name _, _ => agree_same_of_leaf (by simp) (by simp)
  | .string _, _ => agree_same_of_leaf (by simp) (by simp)
  | .stream _, _ => agree_same_of_leaf (by simp) (by simp)
  | .object _, _ => agree_same_of_leaf (by simp) (by simp)

theorem agreeItems_same_iff : ∀ xs ys : List COSBase,
    agreeItems sameLeaf xs ys = true ↔ agreeItems (similarLeaf jvm) xs ys = true ∧
      ∀ (i : Nat) a b, xs[i]? = some a → ys[i]? = some b → Clear jvm a b
  | [], ys => by simp [agreeItems]
  | x :: xs, [] => by simp [agreeItems]
  | x :: xs, y :: ys => by
      rw [agreeItems, agreeItems, Bool.and_eq_true, Bool.and_eq_true, agree_same_iff x y,
        agreeItems_same_iff xs ys]
      constructor
      · rintro ⟨⟨hxy, hclear⟩, hrest, hitems⟩
        refine ⟨⟨hxy, hrest⟩, ?_⟩
        rintro (_ | i) a b ha hb
        · cases ha
          cases hb
          exact hclear
        · exact hitems i a b ha hb
      · rintro ⟨⟨hxy, hrest⟩, hitems⟩
        exact ⟨⟨hxy, hitems 0 x y rfl rfl⟩, hrest, fun i a b => hitems (i + 1) a b⟩

theorem agreeEntries_same_iff : ∀ es es' : List (String × COSBase),
    agreeEntries sameLeaf es es' = true ↔ agreeEntries (similarLeaf jvm) es es' = true ∧
      ∀ k a b, (k, a) ∈ es → es'.lookup k = some b → Clear jvm a b
  | [], es' => by simp [agreeEntries]
  | (k, v) :: es, es' => by
      rw [agreeEntries, agreeEntries, Bool.and_eq_true, Bool.and_eq_true,
        agreeEntries_same_iff es es']
      cases hw : es'.lookup k with
      | none => simp
      | some w =>
          dsimp only
          rw [agree_same_iff v w]
          constructor
          · rintro ⟨⟨hvw, hclear⟩, hrest, hentries⟩
            refine ⟨⟨hvw, hrest⟩, ?_⟩
            intro k' a b ha hb
            rcases List.mem_cons.mp ha with heq | ha
            · cases heq
              rw [hw] at hb
              cases hb
              exact hclear
            · exact hentries k' a b ha hb
          · rintro ⟨⟨hvw, hrest⟩, hentries⟩
            exact ⟨⟨hvw, hentries k v w List.mem_cons_self hw⟩, hrest,
              fun k' a b ha => hentries k' a b (List.mem_cons_of_mem _ ha)⟩
end

end Similar

/-! ## How far a match can be trusted -/

/-- **Faithful comparison.** A match of two values means that they are equal, exactly when
they are not confused. -/
theorem matches_faithful_iff (jvm : Jvm) (a b : DirectValue) :
    (ObjectValue.valueMatches jvm (.ofCOS (some a.value)) (.ofCOS (some b.value)) = true →
      SameValue a.value b.value) ↔ ¬ Confused jvm a.value b.value := by
  unfold SameValue Confused SimilarValue
  rw [@agree_same_iff jvm, show ObjectValue.ofCOS (some a.value) = .ofBase a.value from rfl,
    show ObjectValue.ofCOS (some b.value) = .ofBase b.value from rfl,
    valueMatches_eq a.value b.value a.direct b.direct]
  constructor
  · rintro hfaithful ⟨hsimilar, x, y, hplace, hblurred⟩
    have hclear := (hfaithful hsimilar).2 x y hplace
    rw [hblurred] at hclear
    cases hclear
  · intro hnot hsimilar
    refine ⟨hsimilar, ?_⟩
    intro x y hplace
    by_contra hblurred
    exact hnot ⟨hsimilar, x, y, hplace, by simpa using hblurred⟩

/-- `[/Yes 1.5 7 0 R]`. -/
def signedItems : DirectValue where
  value := .array [.name "Yes", .float (3 / 2), .object ⟨7, 0⟩]
  wf := by decide
  direct := by decide

/-- `[/yes 1.25 7 1 R]`. -/
def alteredItems : DirectValue where
  value := .array [.name "yes", .float (5 / 4), .object ⟨7, 1⟩]
  wf := by decide
  direct := by decide

/-- None of the three items is the same, and the arrays match. -/
theorem altered_items_match :
    ObjectValue.valueMatches plainJvm (.ofCOS (some signedItems.value))
        (.ofCOS (some alteredItems.value)) = true ∧
      ¬ SameValue signedItems.value alteredItems.value := by
  decide +kernel

end SigVal.Pdf
