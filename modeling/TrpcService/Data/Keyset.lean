import Mathlib.Data.List.Sort
import TrpcService.Data.Dict

/-! Queries with `ORDER BY` a key, and pages of them behind a key. -/

namespace TrpcService.Data

variable {κ α Key Row : Type} [DecidableEq κ] [LinearOrder Key]

def Dict.sortedRows (dict : Dict κ α) (select : κ → α → Option (Key × Row)) : List (Key × Row) :=
  (dict.entries.filterMap fun (key, value) => select key value).insertionSort
    fun first second => first.1 ≤ second.1

def KeyedBy (select : κ → α → Option (Key × Row)) : Prop :=
  ∀ first second value other key row another,
    select first value = some (key, row) →
      select second other = some (key, another) → first = second

section Rows

variable {dict : Dict κ α} {select : κ → α → Option (Key × Row)}

omit [LinearOrder Key] in
theorem mem_selected {item : Key × Row} :
    item ∈ (dict.entries.filterMap fun (key, value) => select key value) ↔
      ∃ key value, dict.get? key = some value ∧ select key value = some item := by
  simp only [List.mem_filterMap, Prod.exists, dict.mem_entries_iff]

theorem mem_sortedRows {item : Key × Row} : item ∈ dict.sortedRows select ↔
      ∃ key value, dict.get? key = some value ∧ select key value = some item :=
  (List.mem_insertionSort _).trans mem_selected

omit [DecidableEq κ] [LinearOrder Key] in
theorem distinct_selected (keyed : KeyedBy select) :
    (dict.entries.filterMap fun (key, value) => select key value).Pairwise
      fun first second => first.1 ≠ second.1 := by
  have nodup := List.pairwise_map.mp dict.nodup
  refine nodup.filterMap _ ?_
  rintro ⟨key, value⟩ ⟨other, another⟩ different first selected second
    selectedOther same
  obtain ⟨firstKey, firstRow⟩ := first
  obtain ⟨secondKey, secondRow⟩ := second
  obtain rfl : firstKey = secondKey := same
  exact different (keyed _ _ _ _ _ _ _ selected selectedOther)

omit [DecidableEq κ] in
theorem pairwise_sortedRows (keyed : KeyedBy select) :
    (dict.sortedRows select).Pairwise fun first second => first.1 < second.1 := by
  have sorted : (dict.sortedRows select).Pairwise fun first second =>
      first.1 ≤ second.1 := List.pairwise_insertionSort _ _
  have distinct : (dict.sortedRows select).Pairwise fun first second =>
      first.1 ≠ second.1 :=
    ((List.perm_insertionSort _ _).pairwise_iff fun different =>
      different.symm).mpr (distinct_selected keyed)
  exact (sorted.and distinct).imp fun both => lt_of_le_of_ne both.1 both.2

theorem sortedRows_eq (keyed : KeyedBy select) {rows : List (Key × Row)}
    (ordered : rows.Pairwise fun first second => first.1 < second.1)
    (same : ∀ item, item ∈ rows ↔ ∃ key value,
      dict.get? key = some value ∧ select key value = some item) :
    dict.sortedRows select = rows := by
  have sorted : (dict.sortedRows select).Pairwise fun first second =>
      first.1 < second.1 := pairwise_sortedRows keyed
  have nodup : ∀ {list : List (Key × Row)}, (list.Pairwise fun first second => first.1 < second.1) →
      list.Nodup := fun ordered => ordered.imp fun less same => less.ne (congrArg _ same)
  refine List.Perm.eq_of_pairwise ?_ sorted ordered ?_
  · intro first second _ _ less greater
    exact absurd less greater.asymm
  · refine (List.perm_ext_iff_of_nodup (nodup sorted) (nodup ordered)).mpr ?_
    exact fun item => mem_sortedRows.trans (same item).symm

end Rows

end TrpcService.Data
