import Mathlib.Data.List.Basic

/-!
# Logs that are started anew

An entry is put behind the log, or takes its place. What is left in the end are the entries
from the last replacement on; the log that was there at the start is left only where
nothing replaced it.
-/

namespace SigVal.Replacement

variable {α : Type}

/-- What happens to a log. -/
inductive Change (α : Type) where
  | extend (a : α)
  | replace (a : α)
deriving DecidableEq, Repr

namespace Change

/-- The new entry. -/
def entry : Change α → α
  | extend a => a
  | replace a => a

def apply (log : List α) : Change α → List α
  | extend a => log ++ [a]
  | replace a => [a]

/-- The entries from the last replacement on. -/
def sinceReplacement : List (Change α) → Option (List α)
  | [] => none
  | extend _ :: later => sinceReplacement later
  | replace a :: later => some ((sinceReplacement later).getD (a :: later.map entry))

/-- What is in the log after the changes. -/
def logAfter (log : List α) (changes : List (Change α)) : List α :=
  (sinceReplacement changes).getD (log ++ changes.map entry)

theorem foldl_apply (changes : List (Change α)) :
    ∀ log, changes.foldl apply log = logAfter log changes := by
  induction changes with
  | nil => exact fun log => (List.append_nil log).symm
  | cons change later ih =>
      intro log
      rw [List.foldl_cons, ih]
      unfold logAfter
      cases change with
      | extend a =>
          show (sinceReplacement later).getD (log ++ [a] ++ later.map entry) =
            (sinceReplacement later).getD (log ++ a :: later.map entry)
          rw [List.append_assoc, List.singleton_append]
      | replace a => rfl

/-- Nothing comes into a log but by a change. -/
theorem mem_logAfter {a : α} {changes : List (Change α)} :
    ∀ {log : List α}, a ∈ logAfter log changes → a ∈ log ∨ a ∈ changes.map entry := by
  induction changes with
  | nil =>
      intro log h
      rw [← foldl_apply] at h
      exact .inl h
  | cons change later ih =>
      intro log h
      rw [← foldl_apply, List.foldl_cons, foldl_apply] at h
      rcases ih h with hlog | hlater
      · cases change with
        | extend b =>
            rcases List.mem_append.mp hlog with hlog | hnew
            · exact .inl hlog
            · exact .inr (List.mem_cons.mpr (.inl (List.mem_singleton.mp hnew)))
        | replace b => exact .inr (List.mem_cons.mpr (.inl (List.mem_singleton.mp hlog)))
      · exact .inr (List.mem_cons_of_mem _ hlater)

/-- The last entry is in the log, whatever it did to the others. -/
theorem entry_mem_logAfter (log : List α) (changes : List (Change α)) (last : Change α) :
    last.entry ∈ logAfter log (changes ++ [last]) := by
  rw [← foldl_apply, List.foldl_append]
  cases last with
  | extend a => exact List.mem_append_right _ List.mem_cons_self
  | replace a => exact List.mem_cons_self

end Change

end SigVal.Replacement
