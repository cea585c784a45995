import SigVal.Lib.Java
import Mathlib.Data.List.Perm.Basic

/-!
# Hash maps keyed by strings

A `HashMap<String, V>` is a list of entries with distinct keys, in the order
the keys were put. Reading it by key does not depend on that order; visiting
its entries does, and the language leaves open which order that is. `Jvm`
makes the choice an argument.
-/

namespace SigVal.Java

variable {α : Type}

/-- What the running JVM leaves open: its case mapping, and the order in which
the keys of a `HashMap` are visited, which is some order of them. -/
structure Jvm extends CaseTable where
  keySetOrder : List String → List String
  keySetOrder_perm : ∀ keys, (keySetOrder keys).Perm keys

/-- A JVM with ASCII case mapping that visits keys in insertion order. -/
def plainJvm : Jvm where
  toCaseTable := asciiCase
  keySetOrder := id
  keySetOrder_perm := List.Perm.refl

/-- The entries of a map in the order they are visited. -/
def Jvm.entriesInOrder (jvm : Jvm) (m : List (String × α)) : List (String × α) :=
  (jvm.keySetOrder (m.map Prod.fst)).filterMap fun k => (m.lookup k).map (Prod.mk k)

theorem mem_of_lookup {m : List (String × α)} {k : String} {v : α}
    (h : m.lookup k = some v) : (k, v) ∈ m := by
  obtain ⟨l₁, l₂, rfl, _⟩ := List.lookup_eq_some_iff.mp h
  simp

theorem lookup_of_mem {m : List (String × α)} (hnodup : (m.map Prod.fst).Nodup) {k : String}
    {v : α} (h : (k, v) ∈ m) : m.lookup k = some v := by
  induction m with
  | nil => cases h
  | cons e es ih =>
      obtain ⟨k', v'⟩ := e
      rw [List.map_cons, List.nodup_cons] at hnodup
      rcases List.mem_cons.mp h with heq | hmem
      · cases heq
        exact List.lookup_cons_self
      · have hne : k ≠ k' := by
          rintro rfl
          exact hnodup.1 (List.mem_map.mpr ⟨(k, v), hmem, rfl⟩)
        rw [List.lookup_cons, beq_eq_false_iff_ne.mpr hne]
        exact ih hnodup.2 hmem

/-- `HashMap.put`: the value of a known key is replaced, a new key comes last. -/
def putEntry (m : List (String × α)) (k : String) (v : α) : List (String × α) :=
  if (m.lookup k).isSome then m.map fun e => if e.1 = k then (k, v) else e
  else m ++ [(k, v)]

theorem lookup_cons_eq {m : List (String × α)} {k k' : String} {v : α} :
    ((k, v) :: m).lookup k' = if k' = k then some v else m.lookup k' := by
  rw [List.lookup_cons]
  by_cases h : k' = k
  · simp [h]
  · rw [beq_eq_false_iff_ne.mpr h, if_neg h]

theorem lookup_map_replace {m : List (String × α)} {k k' : String} {v : α} :
    (m.map fun e => if e.1 = k then (k, v) else e).lookup k' =
      if k' = k then (m.lookup k).map fun _ => v else m.lookup k' := by
  induction m with
  | nil => simp
  | cons e rest ih =>
      obtain ⟨a, b⟩ := e
      rw [List.map_cons]
      by_cases ha : a = k
      · subst ha
        rw [if_pos rfl, lookup_cons_eq, lookup_cons_eq, lookup_cons_eq, ih]
        by_cases hk' : k' = a
        · simp [hk']
        · simp [hk']
      · rw [if_neg ha, lookup_cons_eq, lookup_cons_eq, lookup_cons_eq, ih, if_neg (Ne.symm ha)]
        by_cases hk' : k' = k
        · subst hk'
          simp [Ne.symm ha]
        · simp [hk']

@[simp] theorem lookup_putEntry_self (m : List (String × α)) (k : String) (v : α) :
    (putEntry m k v).lookup k = some v := by
  unfold putEntry
  split
  · rename_i hsome
    obtain ⟨w, hw⟩ := Option.isSome_iff_exists.mp hsome
    rw [lookup_map_replace, if_pos rfl, hw]
    rfl
  · rename_i hnone
    rw [List.lookup_append, Option.not_isSome_iff_eq_none.mp hnone, Option.none_or]
    exact List.lookup_cons_self

theorem lookup_putEntry_of_ne {m : List (String × α)} {k k' : String} {v : α} (h : k' ≠ k) :
    (putEntry m k v).lookup k' = m.lookup k' := by
  unfold putEntry
  split
  · rw [lookup_map_replace, if_neg h]
  · rw [List.lookup_append, lookup_cons_eq, if_neg h]
    simp

theorem mem_putEntry {m : List (String × α)} {k : String} {v : α} {e : String × α}
    (h : e ∈ putEntry m k v) : e = (k, v) ∨ e ∈ m := by
  unfold putEntry at h
  split at h
  · obtain ⟨old, hold, rfl⟩ := List.mem_map.mp h
    split
    · exact .inl rfl
    · exact .inr hold
  · rcases List.mem_append.mp h with hold | hnew
    · exact .inr hold
    · exact .inl (List.mem_singleton.mp hnew)

/-- Putting a known key leaves the keys as they are. -/
theorem keys_putEntry_of_known {m : List (String × α)} {k : String} (v : α)
    (hknown : (m.lookup k).isSome) : (putEntry m k v).map Prod.fst = m.map Prod.fst := by
  unfold putEntry
  rw [if_pos hknown, List.map_map]
  apply List.map_congr_left
  intro e _
  by_cases he : e.1 = k
  · simp [he]
  · simp [he]

/-- The keys stay distinct. -/
theorem nodup_putEntry {m : List (String × α)} (hnodup : (m.map Prod.fst).Nodup) (k : String)
    (v : α) : ((putEntry m k v).map Prod.fst).Nodup := by
  by_cases hknown : (m.lookup k).isSome
  · rw [keys_putEntry_of_known v hknown]
    exact hnodup
  unfold putEntry
  split
  · rename_i hsome
    exact absurd hsome hknown
  · rename_i hnone
    rw [Option.not_isSome_iff_eq_none, List.lookup_eq_none_iff] at hnone
    rw [List.map_append, List.nodup_append]
    refine ⟨hnodup, by simp, ?_⟩
    intro a ha b hb
    obtain ⟨e, he, rfl⟩ := List.mem_map.mp ha
    rw [List.map_singleton, List.mem_singleton] at hb
    rw [hb]
    exact Ne.symm (bne_iff_ne.mp (hnone e he))

/-- Several entries, put one after the other. -/
def putEntries (m entries : List (String × α)) : List (String × α) :=
  entries.foldl (fun m e => putEntry m e.1 e.2) m

@[simp] theorem putEntries_cons (m rest : List (String × α)) (e : String × α) :
    putEntries m (e :: rest) = putEntries (putEntry m e.1 e.2) rest := rfl

/-- Of the values that were put for a key the last one is found. -/
theorem lookup_putEntries {m entries : List (String × α)} {k : String} :
    (putEntries m entries).lookup k = (entries.reverse.lookup k).or (m.lookup k) := by
  induction entries generalizing m with
  | nil => simp [putEntries]
  | cons e rest ih =>
      rw [putEntries_cons, ih, List.reverse_cons, List.lookup_append, Option.or_assoc]
      by_cases hk : k = e.1
      · rw [hk, lookup_putEntry_self, lookup_cons_eq, if_pos rfl, Option.some_or]
      · rw [lookup_putEntry_of_ne hk, lookup_cons_eq, if_neg hk]
        simp

theorem nodup_putEntries {m entries : List (String × α)} (hnodup : (m.map Prod.fst).Nodup) :
    ((putEntries m entries).map Prod.fst).Nodup := by
  induction entries generalizing m with
  | nil => exact hnodup
  | cons e rest ih =>
      rw [putEntries_cons]
      exact ih (nodup_putEntry hnodup e.1 e.2)

/-- `HashMap.remove`. -/
def removeEntry (m : List (String × α)) (k : String) : List (String × α) :=
  m.filter fun e => decide (e.1 ≠ k)

@[simp] theorem lookup_removeEntry_self (m : List (String × α)) (k : String) :
    (removeEntry m k).lookup k = none := by
  rw [List.lookup_eq_none_iff]
  intro e he
  have hne : e.1 ≠ k := by simpa using (List.mem_filter.mp he).2
  exact bne_iff_ne.mpr (Ne.symm hne)

theorem lookup_removeEntry_of_ne {m : List (String × α)} {k k' : String} (h : k' ≠ k) :
    (removeEntry m k).lookup k' = m.lookup k' := by
  unfold removeEntry
  induction m with
  | nil => rfl
  | cons e rest ih =>
      obtain ⟨a, b⟩ := e
      by_cases ha : a = k
      · subst ha
        rw [List.filter_cons_of_neg (by simp), ih, lookup_cons_eq, if_neg h]
      · rw [List.filter_cons_of_pos (by simpa using ha), lookup_cons_eq, lookup_cons_eq, ih]

/-- The keys that are left stay in their order. -/
theorem keys_removeEntry_sublist (m : List (String × α)) (k : String) :
    ((removeEntry m k).map Prod.fst).Sublist (m.map Prod.fst) :=
  List.Sublist.map Prod.fst List.filter_sublist

/-- Removing an absent key changes nothing. -/
theorem removeEntry_of_lookup_none {m : List (String × α)} {k : String}
    (h : m.lookup k = none) : removeEntry m k = m := by
  apply List.filter_eq_self.mpr
  intro e he
  have hne : k ≠ e.1 := bne_iff_ne.mp (List.lookup_eq_none_iff.mp h e he)
  exact decide_eq_true (Ne.symm hne)

/-- The visited entries are the ones that can be looked up. -/
theorem Jvm.mem_entriesInOrder (jvm : Jvm) {m : List (String × α)} {k : String} {v : α} :
    (k, v) ∈ jvm.entriesInOrder m ↔ m.lookup k = some v := by
  unfold entriesInOrder
  rw [List.mem_filterMap]
  constructor
  · rintro ⟨k', _, h⟩
    obtain ⟨v', hv', heq⟩ := Option.map_eq_some_iff.mp h
    cases heq
    exact hv'
  · intro h
    refine ⟨k, ?_, by rw [h]; rfl⟩
    rw [(jvm.keySetOrder_perm _).mem_iff]
    exact List.mem_map_of_mem (mem_of_lookup h)

/-- Each key is visited once. -/
theorem Jvm.nodup_entriesInOrder (jvm : Jvm) {m : List (String × α)}
    (hnodup : (m.map Prod.fst).Nodup) : ((jvm.entriesInOrder m).map Prod.fst).Nodup := by
  have hkeys : (jvm.entriesInOrder m).map Prod.fst =
      (jvm.keySetOrder (m.map Prod.fst)).filter fun k => (m.lookup k).isSome := by
    unfold entriesInOrder
    induction jvm.keySetOrder (m.map Prod.fst) with
    | nil => rfl
    | cons k rest ih =>
        cases hk : m.lookup k with
        | none => simp [hk, ih]
        | some v => simp [hk, ih]
  rw [hkeys]
  exact ((jvm.keySetOrder_perm _).nodup_iff.mpr hnodup).filter _

end SigVal.Java
