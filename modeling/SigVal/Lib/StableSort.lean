import Mathlib.Data.List.Pairwise
import SigVal.Lib.Sort

/-!
# Stable sorts, and comparing by a difference

`Stream.sorted` is stable for a list: what the comparator does not tell apart stays in
the order it had. So the first element of the result is known from the comparator, the
first one of the list that need not stand after any other.

A comparator that returns the difference of two keys as an `int` compares them around a
circle. It keeps its contract on keys that all lie in one half of it.
-/

namespace SigVal.Java

/-- A sort as the library documents it for elements that have an order already. -/
structure StableSort extends LibrarySort where
  stable : ∀ {α : Type} (cmp : α → α → Outcome Int) (xs ys kept : List α), KeepsContract cmp xs →
    sort cmp xs = .ok ys → kept.Pairwise (NotAfter cmp) → kept.Sublist xs → kept.Sublist ys

section Insertion

variable {α : Type} {cmp : α → α → Outcome Int} {x y : α} {xs ys zs : List α}

theorem KeepsContract.perm (h : KeepsContract cmp xs) (hperm : ys.Perm xs) :
    KeepsContract cmp ys where
  mirrors := (hperm.pairwise_iff Mirrors.symm).mpr h.mirrors
  chains a ha b hb c hc :=
    h.chains a (hperm.mem_iff.mp ha) b (hperm.mem_iff.mp hb) c (hperm.mem_iff.mp hc)
  ties a ha b hb hzero c hc :=
    h.ties a (hperm.mem_iff.mp ha) b (hperm.mem_iff.mp hb) hzero c (hperm.mem_iff.mp hc)

theorem KeepsContract.sublist (h : KeepsContract cmp xs) (hsub : ys.Sublist xs) :
    KeepsContract cmp ys where
  mirrors := h.mirrors.sublist hsub
  chains a ha b hb c hc := h.chains a (hsub.subset ha) b (hsub.subset hb) c (hsub.subset hc)
  ties a ha b hb hzero c hc :=
    h.ties a (hsub.subset ha) b (hsub.subset hb) hzero c (hsub.subset hc)

theorem keepsContract_nil : KeepsContract cmp [] :=
  ⟨.nil, fun _ ha => absurd ha List.not_mem_nil, fun _ ha => absurd ha List.not_mem_nil⟩

/-- What comes before the first of a sorted list comes before all of it. -/
theorem precedes_all (h : KeepsContract cmp (x :: y :: ys))
    (hsorted : (y :: ys).Pairwise (NotAfter cmp)) (hfirst : ∃ c, cmp x y = .ok c ∧ c < 0) :
    ∀ z ∈ y :: ys, ∃ d, cmp x z = .ok d ∧ d < 0 := by
  obtain ⟨c, hc, hneg⟩ := hfirst
  obtain ⟨hx, hrest⟩ := List.pairwise_cons.mp h.mirrors
  intro z hz
  rcases List.mem_cons.mp hz with rfl | hz'
  · exact ⟨c, hc, hneg⟩
  have hxz := hx z hz
  have hyz := List.rel_of_pairwise_cons hrest hz'
  obtain ⟨e, he, hle⟩ := List.rel_of_pairwise_cons hsorted hz'
  obtain ⟨d, d', hd, -, -⟩ := hxz
  refine ⟨d, hd, ?_⟩
  by_contra hnonneg
  rcases Int.lt_or_eq_of_le (Int.not_lt.mp hnonneg) with hpos | hzero
  · -- `y` comes after `x` and `x` after `z`
    obtain ⟨c₁, c₂, hc₁, hc₂, hsign⟩ := hx y List.mem_cons_self
    rw [hc] at hc₁
    cases hc₁
    rw [Int.sign_eq_neg_one_of_neg hneg] at hsign
    have hafter : 0 < c₂ := Int.pos_of_sign_eq_one (by omega)
    obtain ⟨r, hr, hrpos⟩ := h.chains y (by simp) x (by simp) z (by simp [hz']) c₂ d hc₂ hd
      hafter hpos
    rw [he] at hr
    cases hr
    omega
  · -- `z` is tied with `x`, which comes before `y`
    obtain ⟨e₁, e₂, he₁, he₂, hsign⟩ := hyz
    rw [he] at he₁
    cases he₁
    rw [← hzero] at hd
    have hsame := h.ties x (by simp) z (by simp [hz']) hd y (by simp) c e₂ hc he₂
    rw [Int.sign_eq_neg_one_of_neg hneg] at hsame
    have hpos : 0 < e := Int.pos_of_sign_eq_one (by omega)
    omega

theorem sublist_insertWith :
    ∀ {ys zs : List α}, insertWith cmp x ys = .ok zs → ys.Sublist zs
  | [], zs, _ => List.nil_sublist zs
  | y :: ys, zs, h => by
      obtain ⟨c, -, h⟩ := bind_ok_iff.mp h
      split at h
      · cases h
        exact List.sublist_cons_self _ _
      · obtain ⟨rest, hrest, h⟩ := bind_ok_iff.mp h
        cases h
        exact (sublist_insertWith hrest).cons_cons y

/-- What need not stand after the new element stays before it. -/
theorem insertWith_stable {kept : List α} (hkept : ∀ a ∈ kept, NotAfter cmp a x) :
    ∀ {ys zs : List α}, KeepsContract cmp (x :: ys) → ys.Pairwise (NotAfter cmp) →
      insertWith cmp x ys = .ok zs → kept.Sublist ys → (kept ++ [x]).Sublist zs := by
  intro ys
  induction ys generalizing kept with
  | nil =>
      intro zs _ _ h hsub
      cases h
      rw [List.sublist_nil.mp hsub]
      exact List.Sublist.refl _
  | cons y ys ih =>
      intro zs hcontract hsorted h hsub
      obtain ⟨c, hc, h⟩ := bind_ok_iff.mp h
      split at h
      · rename_i hneg
        cases h
        -- the new element comes before all of the list
        have hnil : kept = [] := by
          apply List.eq_nil_iff_forall_not_mem.mpr
          intro a ha
          obtain ⟨d, hd, hdneg⟩ :=
            precedes_all hcontract hsorted ⟨c, hc, hneg⟩ a (hsub.subset ha)
          obtain ⟨e, he, hle⟩ := hkept a ha
          obtain ⟨d₁, d₂, hd₁, hd₂, hsign⟩ :=
            (List.pairwise_cons.mp hcontract.mirrors).1 a (hsub.subset ha)
          rw [hd] at hd₁
          cases hd₁
          rw [he] at hd₂
          cases hd₂
          rw [Int.sign_eq_neg_one_of_neg hdneg] at hsign
          have hpos : 0 < e := Int.pos_of_sign_eq_one (by omega)
          omega
        rw [hnil]
        exact (List.nil_sublist _).cons_cons x
      · obtain ⟨rest, hrest, h⟩ := bind_ok_iff.mp h
        cases h
        have hcontract' : KeepsContract cmp (x :: ys) :=
          hcontract.sublist ((List.sublist_cons_self y ys).cons_cons x)
        have hsorted' := hsorted.sublist (List.sublist_cons_self y ys)
        rcases List.sublist_cons_iff.mp hsub with hlater | ⟨kept', rfl, hlater⟩
        · exact (ih hkept hcontract' hsorted' hrest hlater).cons y
        · exact (ih (fun a ha => hkept a (List.mem_cons_of_mem _ ha)) hcontract' hsorted' hrest
            hlater).cons_cons y

theorem foldlM_insertWith_stable :
    ∀ {xs acc zs kept : List α}, KeepsContract cmp (acc ++ xs) → acc.Pairwise (NotAfter cmp) →
      xs.foldlM (fun sorted x => insertWith cmp x sorted) acc = .ok zs →
        kept.Pairwise (NotAfter cmp) → kept.Sublist (acc ++ xs) → kept.Sublist zs
  | [], acc, zs, kept, _, _, h, _, hsub => by
      cases h
      rwa [List.append_nil] at hsub
  | x :: xs, acc, zs, kept, hcontract, hsorted, h, hpairs, hsub => by
      rw [List.foldlM_cons] at h
      obtain ⟨acc', hins, h⟩ := bind_ok_iff.mp h
      have hmid : (x :: acc ++ xs).Perm (acc ++ x :: xs) := List.perm_middle.symm
      have hperm : (acc' ++ xs).Perm (acc ++ x :: xs) :=
        ((insertWith_perm hins).append_right xs).trans hmid
      have hfront : KeepsContract cmp (x :: acc) :=
        (hcontract.perm hmid).sublist (List.sublist_append_left _ _)
      have hsorted' : acc'.Pairwise (NotAfter cmp) := by
        obtain ⟨placed, hplaced, hall⟩ := @insertWith_sorted _ cmp x acc
          (fun y hy => List.rel_of_pairwise_cons hfront.mirrors hy)
          (fun y hy z hz => hfront.chains y (List.mem_cons_of_mem _ hy) x List.mem_cons_self z
            (List.mem_cons_of_mem _ hz)) hsorted
        rw [hins] at hplaced
        cases hplaced
        exact hall
      rw [List.append_cons] at hsub
      obtain ⟨front, back, rfl, hfrontsub, hback⟩ := List.sublist_append_iff.mp hsub
      obtain ⟨early, last, rfl, hearly, hlast⟩ := List.sublist_append_iff.mp hfrontsub
      have hplaced : (early ++ last).Sublist acc' := by
        rcases List.sublist_cons_iff.mp hlast with hnil | ⟨none, rfl, hnil⟩
        · rw [List.sublist_nil.mp hnil, List.append_nil]
          exact hearly.trans (sublist_insertWith hins)
        · rw [List.sublist_nil.mp hnil] at hpairs ⊢
          have hbefore := (List.pairwise_append.mp (List.pairwise_append.mp hpairs).1).2.2
          exact insertWith_stable (fun a ha => hbefore a ha x List.mem_cons_self) hfront hsorted
            hins hearly
      exact foldlM_insertWith_stable (hcontract.perm hperm) hsorted' h hpairs
        (hplaced.append hback)

end Insertion

/-- Sorting by insertion is stable. -/
def stableInsertionSort : StableSort where
  toLibrarySort := insertionSort
  stable cmp xs ys kept hcontract h hpairs hsub :=
    @foldlM_insertWith_stable _ cmp xs [] ys kept hcontract .nil h hpairs hsub

open Classical in
/-- Refusing the comparators that break the contract changes nothing for the others. -/
noncomputable def StableSort.refusing (library : StableSort) : StableSort where
  sort cmp xs :=
    if KeepsContract cmp xs then library.sort cmp xs
    else .error ⟨.illegalArgument, "Comparison method violates its general contract!"⟩
  sorts := by
    intro α cmp xs hcontract
    rw [if_pos hcontract]
    exact library.sorts cmp xs hcontract
  stable := by
    intro α cmp xs ys kept hcontract h
    rw [if_pos hcontract] at h
    exact library.stable cmp xs ys kept hcontract h

theorem StableSort.refusing_ok {library : StableSort} {α : Type} {cmp : α → α → Outcome Int}
    {xs ys : List α} (h : library.refusing.sort cmp xs = .ok ys) : KeepsContract cmp xs := by
  by_contra hbroken
  simp only [refusing, if_neg hbroken] at h
  cases h

/-! ## The first element -/

section First

variable {α : Type} {cmp : α → α → Outcome Int} {xs : List α}

/-- The element need not stand after any other. -/
def Foremost (cmp : α → α → Outcome Int) (xs : List α) (a : α) : Prop :=
  ∀ b ∈ xs, NotAfter cmp a b

/-- The first of the list that need not stand after any other. -/
def FirstForemost (cmp : α → α → Outcome Int) (xs : List α) (first : α) : Prop :=
  ∃ before after, xs = before ++ first :: after ∧ Foremost cmp xs first ∧
    ∀ b ∈ before, ¬ Foremost cmp xs b

theorem FirstForemost.mem {first : α} (h : FirstForemost cmp xs first) : first ∈ xs := by
  obtain ⟨before, after, rfl, -, -⟩ := h
  simp

/-- Those that need not stand after any other keep their order, so the first of them is the
first of all. -/
theorem StableSort.sort_first (library : StableSort) (hcontract : KeepsContract cmp xs)
    (hself : ∀ a ∈ xs, NotAfter cmp a a) (hne : xs ≠ []) :
    ∃ first rest, library.sort cmp xs = .ok (first :: rest) ∧ FirstForemost cmp xs first := by
  classical
  obtain ⟨ys, hys, hperm, hsorted⟩ := library.sorts cmp xs hcontract
  cases ys with
  | nil => exact absurd hperm.symm.eq_nil hne
  | cons first rest =>
      refine ⟨first, rest, hys, ?_⟩
      have hforemost : Foremost cmp xs first := by
        intro b hb
        rcases List.mem_cons.mp (hperm.mem_iff.mpr hb) with rfl | hlater
        · exact hself b hb
        · exact List.rel_of_pairwise_cons hsorted hlater
      have hpairs : (xs.filter fun a => decide (Foremost cmp xs a)).Pairwise (NotAfter cmp) := by
        apply List.pairwise_of_forall_mem_list
        intro a ha b hb
        exact of_decide_eq_true (List.mem_filter.mp ha).2 b (List.mem_of_mem_filter hb)
      have hkept := (library.stable cmp xs _ _ hcontract hys hpairs List.filter_sublist).filter
        fun a => decide (Foremost cmp xs a)
      simp only [List.filter_filter, Bool.and_self] at hkept
      have heq := hkept.eq_of_length (hperm.filter _).length_eq.symm
      rw [List.filter_cons, if_pos (decide_eq_true hforemost)] at heq
      obtain ⟨before, after, hsplit, hbefore, -, -⟩ := List.filter_eq_cons_iff.mp heq
      refine ⟨before, after, hsplit, hforemost, fun b hb hb' => ?_⟩
      exact hbefore b hb (decide_eq_true hb')

end First

/-! ## A difference as an `int` -/

section Difference

variable {α : Type} {cmp : α → α → Outcome Int} {xs : List α} {key : α → Int}

/-- The key lies ahead of the other one, by less than half of the `int`s. -/
def Ahead (m k : Int) : Prop := (k - m) % 2 ^ 32 < 2 ^ 31

instance (m k : Int) : Decidable (Ahead m k) := inferInstanceAs (Decidable (_ < _))

/-- The comparator returns the difference of the keys as an `int`. -/
def ComparesBy (cmp : α → α → Outcome Int) (key : α → Int) (xs : List α) : Prop :=
  ∀ a ∈ xs, ∀ b ∈ xs, cmp a b = .ok (toInt (key a - key b))

theorem toInt_eq (d : Int) :
    toInt d = if d % 2 ^ 32 < 2 ^ 31 then d % 2 ^ 32 else d % 2 ^ 32 - 2 ^ 32 := by
  unfold toInt
  rw [Int.bmod_def]
  rfl

theorem toInt_nonpos_iff {d : Int} : toInt d ≤ 0 ↔ (-d) % 2 ^ 32 ≤ 2 ^ 31 := by
  rw [toInt_eq]
  split
  · omega
  · omega

/-- Keys in one half are compared by how far they lie ahead. -/
theorem toInt_sub_of_ahead {m k k' : Int} (h : Ahead m k) (h' : Ahead m k') :
    toInt (k - k') = (k - m) % 2 ^ 32 - (k' - m) % 2 ^ 32 := by
  unfold Ahead at h h'
  rw [toInt_eq]
  split
  · omega
  · omega

variable (hcmp : ComparesBy cmp key xs)
include hcmp

theorem ComparesBy.keepsContract {m : Int} (h : ∀ a ∈ xs, Ahead m (key a)) :
    KeepsContract cmp xs := by
  have hdiff : ∀ a ∈ xs, ∀ b ∈ xs,
      cmp a b = .ok ((key a - m) % 2 ^ 32 - (key b - m) % 2 ^ 32) := by
    intro a ha b hb
    rw [hcmp a ha b hb, toInt_sub_of_ahead (h a ha) (h b hb)]
  refine ⟨?_, ?_, ?_⟩
  · apply List.pairwise_of_forall_mem_list
    intro a ha b hb
    refine ⟨_, _, hdiff a ha b hb, hdiff b hb a ha, ?_⟩
    rw [← Int.neg_sub, Int.sign_neg]
  · intro x hx y hy z hz p q hp hq hppos hqpos
    rw [hdiff x hx y hy] at hp
    rw [hdiff y hy z hz] at hq
    cases hp
    cases hq
    exact ⟨_, hdiff x hx z hz, by omega⟩
  · intro x hx y hy hzero z hz p q hp hq
    rw [hdiff x hx y hy] at hzero
    rw [hdiff x hx z hz] at hp
    rw [hdiff y hy z hz] at hq
    cases hp
    cases hq
    have heq := Except.ok.inj hzero
    rw [Int.sub_eq_zero.mp heq]

theorem ComparesBy.notAfter_iff {a b : α} (ha : a ∈ xs) (hb : b ∈ xs) :
    NotAfter cmp a b ↔ (key b - key a) % 2 ^ 32 ≤ 2 ^ 31 := by
  unfold NotAfter
  rw [hcmp a ha b hb, ← Int.neg_sub (key a), ← toInt_nonpos_iff]
  constructor
  · rintro ⟨c, hc, hle⟩
    cases hc
    exact hle
  · intro hle
    exact ⟨_, rfl, hle⟩

theorem ComparesBy.notAfter_self {a : α} (ha : a ∈ xs) : NotAfter cmp a a := by
  rw [hcmp.notAfter_iff ha ha, Int.sub_self]
  decide

/-- Where the contract is kept the keys lie in one half, from the foremost one on. -/
theorem ComparesBy.ahead_of_foremost (hcontract : KeepsContract cmp xs) {first : α}
    (hfirst : first ∈ xs) (hforemost : Foremost cmp xs first) :
    ∀ a ∈ xs, Ahead (key first) (key a) := by
  classical
  intro a ha
  unfold Ahead
  by_cases hsame : first = a
  · rw [hsame, Int.sub_self]
    decide
  · have hle := (hcmp.notAfter_iff hfirst ha).mp (hforemost a ha)
    have : Std.Symm (Mirrors cmp) := ⟨fun _ _ => Mirrors.symm⟩
    obtain ⟨c, c', hc, hc', hsign⟩ := hcontract.mirrors.forall hfirst ha hsame
    rw [hcmp first hfirst a ha] at hc
    rw [hcmp a ha first hfirst] at hc'
    cases hc
    cases hc'
    -- opposite keys come before each other
    by_contra hfar
    have hopposite : (key a - key first) % 2 ^ 32 = 2 ^ 31 := by omega
    have hbefore : toInt (key first - key a) < 0 := by
      rw [toInt_eq]
      split
      · omega
      · omega
    have hbefore' : toInt (key a - key first) < 0 := by
      rw [toInt_eq]
      split
      · omega
      · omega
    rw [Int.sign_eq_neg_one_of_neg hbefore, Int.sign_eq_neg_one_of_neg hbefore'] at hsign
    cases hsign

/-- In one half, the foremost keys are those where it begins. -/
theorem ComparesBy.foremost_iff {m : Int} (h : ∀ a ∈ xs, Ahead m (key a))
    (hbegins : ∃ b ∈ xs, (key b - m) % 2 ^ 32 = 0) {a : α} (ha : a ∈ xs) :
    Foremost cmp xs a ↔ (key a - m) % 2 ^ 32 = 0 := by
  have hahead := h a ha
  unfold Ahead at hahead
  constructor
  · intro hforemost
    obtain ⟨b, hb, hzero⟩ := hbegins
    have hle := (hcmp.notAfter_iff ha hb).mp (hforemost b hb)
    omega
  · intro hzero b hb
    have hb' := h b hb
    unfold Ahead at hb'
    rw [hcmp.notAfter_iff ha hb]
    omega

end Difference

end SigVal.Java
