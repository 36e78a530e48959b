import AstronomyShop.Library.Interleaving
import Mathlib.Algebra.BigOperators.Group.Finset.Piecewise
import Mathlib.Algebra.Ring.Int.Defs

/-!
# Totals over a run

Each call of a program contributes a number. The `total` over the labels of a run grows label by
label, which suits an induction on the run; it is also the sum of what each program contributes
over its own trace (`total_eq_sum`).
-/

namespace Interaction

variable {Op : Type} {Res : Op → Type} {Act ι : Type} [DecidableEq ι]

/-- What the calls of the programs in `S` contribute. -/
def total (S : Finset ι) (f : ι → Event Res → Int) (ls : List (Label ι Res Act)) : Int :=
  (ls.map fun
    | .call i e => if i ∈ S then f i e else 0
    | .act _ => 0).sum

variable {S : Finset ι} {f : ι → Event Res → Int}

theorem total_append (ls ls' : List (Label ι Res Act)) :
    total S f (ls ++ ls') = total S f ls + total S f ls' := by
  simp [total]

theorem total_call (i : ι) (e : Event Res) :
    total S f [(.call i e : Label ι Res Act)] = if i ∈ S then f i e else 0 := by
  simp [total]

theorem total_act (a : Act) : total S f [(.act a : Label ι Res Act)] = 0 := by
  simp [total]

/-- A total over the run is the sum of the totals over the traces. -/
theorem total_eq_sum (S : Finset ι) (f : ι → Event Res → Int) (ls : List (Label ι Res Act)) :
    total S f ls = ∑ i ∈ S, ((trace i ls).map (f i)).sum := by
  induction ls with
  | nil => simp [total]
  | cons l ls ih =>
    rw [← List.singleton_append, total_append, ih]
    cases l with
    | act a =>
      rw [total_act, zero_add]
      simp only [List.singleton_append, trace_act]
    | call j e =>
      have hone : ∀ i, ((trace i ([.call j e] ++ ls)).map (f i)).sum =
          (if j = i then f j e else 0) + ((trace i ls).map (f i)).sum := by
        intro i
        rw [List.singleton_append]
        by_cases hj : j = i
        · subst hj
          rw [trace_call_self, List.map_cons, List.sum_cons, if_pos rfl]
        · rw [trace_call_ne hj, if_neg hj, zero_add]
      rw [total_call]
      simp only [hone, Finset.sum_add_distrib, Finset.sum_ite_eq]

end Interaction
