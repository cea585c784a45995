import Mathlib.Data.List.Basic

/-!
# Traversals of a list that may grow

A stream over a list that is not synchronized takes the length of the list with its first
access, reads the elements one after the other, and looks whether the list has changed since.
A search looks after every element, a collection once, after the last one. A list to which
elements are only added has changed exactly when it is longer than it was.

Between two accesses other threads may add elements. What a search or a collection finds is
what the list held when the traversal began, unless the change is noticed.
-/

namespace SigVal.FailFast

variable {α : Type}

/-- The length that the list had at the first access, and the number of elements read. -/
structure Traversal where
  fence : Nat
  index : Nat

def Traversal.start (l : List α) : Traversal := ⟨l.length, 0⟩

/-- An element is left to be read. -/
def Traversal.hasMore (t : Traversal) : Bool := decide (t.index < t.fence)

def Traversal.next (t : Traversal) : Traversal := { t with index := t.index + 1 }

/-- The elements that have been read are the first ones of `l₀`, the list as it was. -/
structure Traversal.Reads (t : Traversal) (l₀ : List α) : Prop where
  fence : t.fence = l₀.length
  index : t.index ≤ l₀.length

theorem Traversal.start_reads (l : List α) : (Traversal.start l).Reads l :=
  ⟨rfl, Nat.zero_le _⟩

theorem Traversal.Reads.next {t : Traversal} {l₀ : List α} (h : t.Reads l₀)
    (hmore : t.hasMore = true) : t.next.Reads l₀ := by
  have hlt : t.index < t.fence := of_decide_eq_true hmore
  exact ⟨h.fence, h.fence ▸ hlt⟩

theorem Traversal.Reads.all_read {t : Traversal} {l₀ : List α} (h : t.Reads l₀)
    (hmore : t.hasMore = false) : l₀.take t.index = l₀ := by
  have hge : ¬ t.index < t.fence := of_decide_eq_false hmore
  rw [h.fence] at hge
  exact List.take_of_length_le (Nat.not_lt.mp hge)

/-- The element that is read next, in the list as it has become. -/
theorem Traversal.Reads.exists_next {t : Traversal} {l₀ l : List α} (h : t.Reads l₀)
    (hgrown : l₀ <+: l) (hmore : t.hasMore = true) :
    ∃ a, l[t.index]? = some a ∧ l₀.take t.next.index = l₀.take t.index ++ [a] := by
  have hlt : t.index < l₀.length := h.fence ▸ of_decide_eq_true hmore
  refine ⟨l₀[t.index], ?_, ?_⟩
  · obtain ⟨added, rfl⟩ := hgrown
    rw [List.getElem?_append_left hlt, List.getElem?_eq_getElem hlt]
  · exact (List.take_append_getElem hlt).symm

/-- A list that only grew is the old one if it has the same length. -/
theorem Traversal.Reads.eq_of_length {t : Traversal} {l₀ l : List α} (h : t.Reads l₀)
    (hgrown : l₀ <+: l) (hlength : l.length = t.fence) : l = l₀ :=
  (hgrown.eq_of_length (h.fence.symm.trans hlength.symm)).symm

/-! ## Searching -/

/-- What one access of a search comes to. -/
inductive Advance (α : Type) where
  | modified
  | found (a : α)
  | exhausted
  | more (t : Traversal)

/-- An access of a search for the first element with `p`. The change is looked for after the
element was read, also when it is the one that was searched. -/
def Traversal.advance (p : α → Bool) (l : List α) (t : Traversal) : Advance α :=
  if t.hasMore then
    if l.length = t.fence then
      match l[t.index]? with
      | some a => if p a then .found a else .more t.next
      | none => .exhausted
    else .modified
  else .exhausted

/-- The search has not met an element with `p`. -/
structure Traversal.Searches (t : Traversal) (p : α → Bool) (l₀ : List α) : Prop where
  reads : t.Reads l₀
  unmet : ∀ a ∈ l₀.take t.index, p a = false

theorem Traversal.start_searches (p : α → Bool) (l : List α) :
    (Traversal.start l).Searches p l := by
  refine ⟨Traversal.start_reads l, ?_⟩
  intro a ha
  cases ha

/-- A change is noticed only if there is one, and what is found is what `l₀` holds, the list
as it was. -/
def Advance.Right (t : Traversal) (p : α → Bool) (l₀ l : List α) : Advance α → Prop
  | .modified => t.hasMore = true ∧ l.length ≠ t.fence
  | .found a => l₀.find? p = some a
  | .exhausted => l₀.find? p = none
  | .more t' => t' = t.next ∧ t.hasMore = true ∧ t'.Searches p l₀

theorem Traversal.Searches.advance {t : Traversal} {p : α → Bool} {l₀ l : List α}
    (h : t.Searches p l₀) (hgrown : l₀ <+: l) : (t.advance p l).Right t p l₀ l := by
  unfold Traversal.advance
  cases hmore : t.hasMore with
  | false =>
      rw [if_neg Bool.false_ne_true]
      have hall := h.reads.all_read hmore
      exact List.find?_eq_none.mpr fun a ha => by simp [h.unmet a (hall.symm ▸ ha)]
  | true =>
      rw [if_pos rfl]
      by_cases hlength : l.length = t.fence
      · rw [if_pos hlength]
        obtain ⟨a, hget, htake⟩ := h.reads.exists_next hgrown hmore
        rw [hget]
        by_cases hp : p a = true
        · simp only [hp, if_true]
          show l₀.find? p = some a
          have hsplit : l₀ = l₀.take t.next.index ++ l₀.drop t.next.index :=
            (List.take_append_drop _ _).symm
          have hbefore : (l₀.take t.index).find? p = none :=
            List.find?_eq_none.mpr fun b hb => by simp [h.unmet b hb]
          rw [hsplit, htake, List.find?_append, List.find?_append, hbefore]
          simp [hp]
        · simp only [hp]
          refine ⟨rfl, hmore, h.reads.next hmore, ?_⟩
          intro b hb
          rw [htake, List.mem_append, List.mem_singleton] at hb
          rcases hb with hb | rfl
          · exact h.unmet b hb
          · exact Bool.eq_false_iff.mpr hp
      · rw [if_neg hlength]
        exact ⟨hmore, hlength⟩

/-! ## Collecting -/

/-- A collection that has found an element with `p` among those it has read, or has not. -/
structure Traversal.Collects (t : Traversal) (p : α → Bool) (found : Bool) (l₀ : List α) :
    Prop where
  reads : t.Reads l₀
  found : found = (l₀.take t.index).any p

theorem Traversal.start_collects (p : α → Bool) (l : List α) :
    (Traversal.start l).Collects p false l :=
  ⟨Traversal.start_reads l, rfl⟩

theorem Traversal.Collects.next {t : Traversal} {p : α → Bool} {found : Bool} {l₀ l : List α}
    (h : t.Collects p found l₀) (hgrown : l₀ <+: l) (hmore : t.hasMore = true) :
    t.next.Collects p (found || l[t.index]?.any p) l₀ := by
  obtain ⟨a, hget, htake⟩ := h.reads.exists_next hgrown hmore
  refine ⟨h.reads.next hmore, ?_⟩
  rw [htake, List.any_append, ← h.found, hget]
  simp

theorem Traversal.Collects.all {t : Traversal} {p : α → Bool} {found : Bool} {l₀ : List α}
    (h : t.Collects p found l₀) (hmore : t.hasMore = false) : found = l₀.any p := by
  rw [h.found, h.reads.all_read hmore]

end SigVal.FailFast
