import Mathlib.Data.List.Sort
import Mathlib.Data.List.FinRange
import Mathlib.Logic.Equiv.Basic

/-!
# The small-slice path of Go's `sort.Sort`

`ConversationRaw` orders a connection's fragments with `sort.Sort`, whose documentation
promises a sorted result and says that "the sort is not guaranteed to be stable". The
conversation model takes the sort as a parameter with exactly that contract
(`Netcap.Sorter`). This module gives one concrete sort that meets it: the path Go's
`sort.Sort` takes on every slice of at most 12 elements up to Go 1.18,

```
for i := a + 6; i < b; i++ { if data.Less(i, i-6) { data.Swap(i, i-6) } }
insertionSort(data, a, b)
```

a ShellSort pass with gap 6 followed by an insertion sort. The slice is a function on
`Fin n`, so that a swap is a composition with `Equiv.swap` and the pass is a permutation of
the slice by construction (`gapPass_eq_comp`). Go's insertion sort moves each element left
past the strictly greater ones, which is the stable insertion sort `List.insertionSort`.

The gap pass swaps elements six positions apart over the ones between them, which is what
makes the whole sort unstable.
-/

namespace Netcap

namespace GoSort

variable {α : Type}

/-- `if data.Less(i, i-6) { data.Swap(i, i-6) }`, for an index `i` of the slice. -/
def gapStep {n : Nat} (less : α → α → Bool) (f : Fin n → α) (i : Nat) : Fin n → α :=
  if h : 6 ≤ i ∧ i < n then
    if less (f ⟨i, h.2⟩) (f ⟨i - 6, by omega⟩) then f ∘ Equiv.swap ⟨i, h.2⟩ ⟨i - 6, by omega⟩
    else f
  else f

/-- The ShellSort pass with gap 6: `gapStep` for `i` from `6` to `n - 1`, in order. -/
def gapPass {n : Nat} (less : α → α → Bool) (f : Fin n → α) : Fin n → α :=
  (List.range' 6 (n - 6)).foldl (gapStep less) f

/-- The small-slice path of `sort.Sort` on a list: the gap-6 pass, then insertion sort by `r`,
the non-strict order of which `less` is the strict part. -/
def smallSort (less : α → α → Bool) (r : α → α → Prop) [DecidableRel r] (l : List α) :
    List α :=
  (List.ofFn (gapPass less l.get)).insertionSort r

theorem gapStep_eq_comp {n : Nat} (less : α → α → Bool) (f : Fin n → α) (i : Nat) :
    ∃ σ : Equiv.Perm (Fin n), gapStep less f i = f ∘ σ := by
  unfold gapStep
  split_ifs
  · exact ⟨Equiv.swap _ _, rfl⟩
  · exact ⟨Equiv.refl _, rfl⟩
  · exact ⟨Equiv.refl _, rfl⟩

theorem foldl_gapStep_eq_comp {n : Nat} (less : α → α → Bool) :
    ∀ (is : List Nat) (f : Fin n → α), ∃ σ : Equiv.Perm (Fin n),
      is.foldl (gapStep less) f = f ∘ σ
  | [], _ => ⟨Equiv.refl _, rfl⟩
  | i :: is, f => by
    obtain ⟨σ, hσ⟩ := gapStep_eq_comp less f i
    obtain ⟨τ, hτ⟩ := foldl_gapStep_eq_comp less is (gapStep less f i)
    exact ⟨τ.trans σ, by rw [List.foldl_cons, hτ, hσ, Equiv.coe_trans, Function.comp_assoc]⟩

/-- The gap pass only permutes the slice. -/
theorem gapPass_eq_comp {n : Nat} (less : α → α → Bool) (f : Fin n → α) :
    ∃ σ : Equiv.Perm (Fin n), gapPass less f = f ∘ σ :=
  foldl_gapStep_eq_comp less _ f

theorem smallSort_perm (less : α → α → Bool) (r : α → α → Prop) [DecidableRel r]
    (l : List α) : (smallSort less r l).Perm l := by
  obtain ⟨σ, hσ⟩ := gapPass_eq_comp less l.get
  refine (List.perm_insertionSort r _).trans ?_
  rw [hσ]
  exact (σ.ofFn_comp_perm l.get).trans (List.Perm.of_eq (List.ofFn_get l))

theorem smallSort_sorted (less : α → α → Bool) (r : α → α → Prop) [DecidableRel r]
    [IsTotal α r] [IsTrans α r] (l : List α) : (smallSort less r l).Sorted r :=
  List.sorted_insertionSort r _

end GoSort

end Netcap
