import Mathlib.Data.List.Nodup
import Mathlib.Algebra.BigOperators.Group.List

/-!
# Go maps keyed by strings

The profile registry and the profiles themselves keep their data in Go maps keyed by
strings (`map[string]*profile`, `map[string]*types.Port`, `map[string]string`, ...). A Go
map is read back here as an association list whose keys are distinct: `GoMap V` carries the
`Nodup` proof of its keys as a field, so that a map with a repeated key cannot be built.

The code touches these maps in three ways, each one operation here:

* `v, ok := m[k]` is `GoMap.get?`;
* the modify-or-add idiom `if v, ok := m[k]; ok { modify *v } else { m[k] = d }`, where `v`
  is a pointer mutated in place, is `GoMap.upsert k f d`;
* the plain assignment `m[k] = v` is `GoMap.insert`, the upsert that drops the old value.

Go ranges over a map in no fixed order. The entry list fixes one such order; what is proved
about sums (`sumBy_upsert`) and key sets (`mem_keys_upsert`) does not depend on it.
-/

namespace Netcap

/-- A Go `map[string]V`: its entries in one iteration order, with distinct keys. -/
structure GoMap (V : Type) where
  entries : List (String × V)
  nodup : (entries.map Prod.fst).Nodup
deriving DecidableEq

namespace GoMap

variable {V : Type}

@[ext] theorem ext {m m' : GoMap V} (h : m.entries = m'.entries) : m = m' := by
  cases m; cases m'; cases h; rfl

/-- `make(map[string]V)`. -/
def empty : GoMap V := ⟨[], List.nodup_nil⟩

/-- The keys of the map, in its iteration order. -/
def keys (m : GoMap V) : List String := m.entries.map Prod.fst

/-- The value stored under `k` in an entry list. -/
def lookupEntries (k : String) : List (String × V) → Option V
  | [] => none
  | (k', v) :: es => if k' = k then some v else lookupEntries k es

/-- `v, ok := m[k]`: `some v` exactly when `ok`. -/
def get? (m : GoMap V) (k : String) : Option V := lookupEntries k m.entries

/-- Modify the entry under `k` with `f`, or add `(k, d)` at the end when there is none. -/
def upsertEntries (k : String) (f : V → V) (d : V) : List (String × V) → List (String × V)
  | [] => [(k, d)]
  | (k', v) :: es => if k' = k then (k', f v) :: es else (k', v) :: upsertEntries k f d es

theorem keys_upsertEntries (k : String) (f : V → V) (d : V) (es : List (String × V)) :
    (upsertEntries k f d es).map Prod.fst =
      if k ∈ es.map Prod.fst then es.map Prod.fst else es.map Prod.fst ++ [k] := by
  induction es with
  | nil => simp [upsertEntries]
  | cons e es ih =>
    obtain ⟨k', v⟩ := e
    by_cases hk : k' = k
    · simp [upsertEntries, hk]
    · by_cases hm : k ∈ es.map Prod.fst <;> simp [upsertEntries, hk, ih, hm, Ne.symm hk]

theorem nodup_upsertEntries (k : String) (f : V → V) (d : V) {es : List (String × V)}
    (h : (es.map Prod.fst).Nodup) : ((upsertEntries k f d es).map Prod.fst).Nodup := by
  rw [keys_upsertEntries]
  split
  · exact h
  · exact h.append (List.nodup_singleton k) (List.disjoint_singleton.mpr ‹_›)

/-- The modify-or-add idiom `if v, ok := m[k]; ok { *v = f *v } else { m[k] = d }`. -/
def upsert (m : GoMap V) (k : String) (f : V → V) (d : V) : GoMap V :=
  ⟨upsertEntries k f d m.entries, nodup_upsertEntries k f d m.nodup⟩

/-- The assignment `m[k] = v`. -/
def insert (m : GoMap V) (k : String) (v : V) : GoMap V := m.upsert k (fun _ => v) v

/-- The sum of `g` over the values of the map. -/
def sumBy {M : Type} [AddCommMonoid M] (g : V → M) (m : GoMap V) : M :=
  (m.entries.map fun e => g e.2).sum

@[simp] theorem get?_empty (k : String) : (empty : GoMap V).get? k = none := rfl

@[simp] theorem keys_empty : (empty : GoMap V).keys = [] := rfl

@[simp] theorem sumBy_empty {M : Type} [AddCommMonoid M] (g : V → M) :
    (empty : GoMap V).sumBy g = 0 := rfl

theorem mem_keys_upsert (m : GoMap V) (k k' : String) (f : V → V) (d : V) :
    k' ∈ (m.upsert k f d).keys ↔ k' = k ∨ k' ∈ m.keys := by
  simp only [keys, upsert, keys_upsertEntries]
  split <;> simp_all [or_comm, or_iff_right_of_imp]

theorem get?_upsert_self (m : GoMap V) (k : String) (f : V → V) (d : V) :
    (m.upsert k f d).get? k = some ((m.get? k).elim d f) := by
  simp only [get?, upsert]
  induction m.entries with
  | nil => simp [upsertEntries, lookupEntries]
  | cons e es ih =>
    obtain ⟨k', v⟩ := e
    by_cases hk : k' = k <;> simp [upsertEntries, lookupEntries, hk, ih]

theorem get?_upsert_of_ne (m : GoMap V) {k k' : String} (f : V → V) (d : V) (h : k' ≠ k) :
    (m.upsert k f d).get? k' = m.get? k' := by
  simp only [get?, upsert]
  induction m.entries with
  | nil => simp [upsertEntries, lookupEntries, Ne.symm h]
  | cons e es ih =>
    obtain ⟨k'', v⟩ := e
    by_cases hk : k'' = k <;> by_cases hk' : k'' = k' <;>
      simp_all [upsertEntries, lookupEntries]

@[simp] theorem get?_insert_self (m : GoMap V) (k : String) (v : V) :
    (m.insert k v).get? k = some v := by
  simp only [insert, get?_upsert_self]
  cases m.get? k <;> rfl

theorem get?_insert_of_ne (m : GoMap V) {k k' : String} (v : V) (h : k' ≠ k) :
    (m.insert k v).get? k' = m.get? k' :=
  get?_upsert_of_ne m _ _ h

theorem mem_keys_iff_get? (m : GoMap V) (k : String) : k ∈ m.keys ↔ (m.get? k).isSome := by
  simp only [keys, get?]
  induction m.entries with
  | nil => simp [lookupEntries]
  | cons e es ih =>
    obtain ⟨k', v⟩ := e
    by_cases hk : k' = k <;> simp [lookupEntries, hk, ih, Ne.symm]

theorem upsertEntries_eq_of_not_mem {k : String} (f g : V → V) (d : V) :
    ∀ {es : List (String × V)}, k ∉ es.map Prod.fst →
      upsertEntries k f d es = upsertEntries k g d es
  | [], _ => rfl
  | (k', v) :: es, h => by
    have hk : k' ≠ k := fun he => h (by simp [he])
    have ih := upsertEntries_eq_of_not_mem f g d
      fun hm : k ∈ es.map Prod.fst => h (List.mem_cons_of_mem _ hm)
    simp [upsertEntries, hk, ih]

/-- On a key that is not in the map, an upsert only adds `(k, d)`: the modification is not
used. -/
theorem upsert_eq_of_not_mem {m : GoMap V} {k : String} (h : k ∉ m.keys) (f g : V → V) (d : V) :
    m.upsert k f d = m.upsert k g d :=
  ext (upsertEntries_eq_of_not_mem f g d h)

/-- **Sums over an upsert.** When modifying a value and adding a fresh one both add `δ` to
`g`, the upsert adds `δ` to the sum of `g`, whether or not `k` was present. -/
theorem sumBy_upsert {M : Type} [AddCommMonoid M] (g : V → M) (m : GoMap V) (k : String)
    {f : V → V} {d : V} {δ : M} (hf : ∀ v, g (f v) = g v + δ) (hd : g d = δ) :
    (m.upsert k f d).sumBy g = m.sumBy g + δ := by
  simp only [sumBy, upsert]
  induction m.entries with
  | nil => simp [upsertEntries, hd]
  | cons e es ih =>
    obtain ⟨k', v⟩ := e
    by_cases hk : k' = k
    · simp [upsertEntries, hk, hf, add_right_comm]
    · simp [upsertEntries, hk, ih, add_assoc]

end GoMap

end Netcap
