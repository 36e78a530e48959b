import Mathlib.Logic.Function.Basic
import Mathlib.Tactic.Common

/-!
# Working copies of a shared map

A working copy is taken from a shared map as a whole, edited key by key, and written back as a
whole. Writing it back changes the edited keys only exactly when the shared map still has, at all
other keys, the values that it had when the copy was taken (`writesOnlyEdited_iff`).
-/

/-- A copy with the map it was taken from and the keys that were edited. -/
structure WorkingCopy (K V : Type) where
  original : K → V
  data : K → V
  edited : List K
  agrees : ∀ k, k ∉ edited → data k = original k

namespace WorkingCopy

variable {K V : Type}

def checkOut (shared : K → V) : WorkingCopy K V where
  original := shared
  data := shared
  edited := []
  agrees _ _ := rfl

def edit [DecidableEq K] (c : WorkingCopy K V) (k : K) (f : V → V) : WorkingCopy K V where
  original := c.original
  data := Function.update c.data k (f (c.data k))
  edited := k :: c.edited
  agrees k' hk' := by
    rw [Function.update_of_ne (List.ne_of_not_mem_cons hk')]
    exact c.agrees k' (List.not_mem_of_not_mem_cons hk')

/-- The shared map has the values of the copy at the keys that were not edited. -/
def UpToDate (c : WorkingCopy K V) (shared : K → V) : Prop :=
  ∀ k, k ∉ c.edited → shared k = c.original k

/-- Writing the copy back changes no key that was not edited. -/
def WritesOnlyEdited (c : WorkingCopy K V) (shared : K → V) : Prop :=
  ∀ k, k ∉ c.edited → c.data k = shared k

theorem writesOnlyEdited_iff {c : WorkingCopy K V} {shared : K → V} :
    c.WritesOnlyEdited shared ↔ c.UpToDate shared := by
  constructor
  · intro h k hk
    rw [← h k hk, c.agrees k hk]
  · intro h k hk
    rw [h k hk, c.agrees k hk]

theorem upToDate_checkOut (shared : K → V) : (checkOut shared).UpToDate shared :=
  fun _ _ => rfl

theorem upToDate_data (c : WorkingCopy K V) : c.UpToDate c.data := c.agrees

theorem UpToDate.edit [DecidableEq K] {c : WorkingCopy K V} {shared : K → V}
    (h : c.UpToDate shared) (k : K) (f : V → V) : (c.edit k f).UpToDate shared :=
  fun k' hk' => h k' (List.not_mem_of_not_mem_cons hk')

theorem UpToDate.of_edit [DecidableEq K] {c c' : WorkingCopy K V} {shared : K → V}
    (h : c.UpToDate shared) (hedit : c' = c ∨ ∃ k f, c' = c.edit k f) : c'.UpToDate shared := by
  rcases hedit with rfl | ⟨k, f, rfl⟩
  · exact h
  · exact h.edit k f

end WorkingCopy
