import Mathlib.Data.List.Basic
import Mathlib.Data.List.Nodup

namespace TrpcService.Data

universe u v

/-! Insertion-ordered finite maps.  Writing a present key keeps its position,
writing a fresh key appends it, so iteration follows first insertion. -/

/-- An association list whose keys are pairwise different. -/
structure Dict (κ : Type u) (α : Type v) where
  entries : List (κ × α)
  nodup : (entries.map Prod.fst).Nodup
  deriving DecidableEq

namespace Dict

variable {β : Type*}

section Entries

variable {κ : Type u} {α : Type v} [DecidableEq κ]

def lookup : List (κ × α) → κ → Option α
  | [], _ => none
  | (key, value) :: rest, wanted => if key = wanted then some value else lookup rest wanted

def assign : List (κ × α) → κ → α → List (κ × α)
  | [], wanted, value => [(wanted, value)]
  | (key, old) :: rest, wanted, value =>
      if key = wanted then (key, value) :: rest
      else (key, old) :: assign rest wanted value

theorem lookup_assign (entries : List (κ × α)) (wanted other : κ) (value : α) :
    lookup (assign entries wanted value) other =
      if wanted = other then some value else lookup entries other := by
  induction entries with
  | nil => simp [assign, lookup]
  | cons entry rest induction =>
    obtain ⟨key, old⟩ := entry
    by_cases present : key = wanted
    · subst present
      by_cases same : key = other
      · simp [assign, lookup, same]
      · simp [assign, lookup, same]
    · by_cases same : key = other
      · subst same
        simp [assign, lookup, present, Ne.symm present]
      · simp [assign, lookup, present, same, induction]

theorem keys_assign (entries : List (κ × α)) (wanted : κ) (value : α) :
    (assign entries wanted value).map Prod.fst =
      if wanted ∈ entries.map Prod.fst then entries.map Prod.fst
      else entries.map Prod.fst ++ [wanted] := by
  induction entries with
  | nil => simp [assign]
  | cons entry rest induction =>
    obtain ⟨key, old⟩ := entry
    by_cases present : key = wanted
    · simp [assign, present]
    · simp only [assign, if_neg present, List.map_cons, induction]
      by_cases member : wanted ∈ rest.map Prod.fst
      · simp [member]
      · have absent : wanted ∉ key :: rest.map Prod.fst := by
          simp only [List.mem_cons, not_or]
          exact ⟨fun equal => present equal.symm, member⟩
        rw [if_neg member, if_neg absent]
        rfl

theorem lookup_eq_some_iff {entries : List (κ × α)} (nodup : (entries.map Prod.fst).Nodup)
    (wanted : κ) (value : α) : lookup entries wanted = some value ↔ (wanted, value) ∈ entries := by
  induction entries with
  | nil => simp [lookup]
  | cons entry rest induction =>
    obtain ⟨key, old⟩ := entry
    simp only [List.map_cons, List.nodup_cons] at nodup
    by_cases present : key = wanted
    · subst present
      have absent : (key, value) ∉ rest := fun member =>
        nodup.1 (List.mem_map_of_mem (f := Prod.fst) member)
      simp only [lookup, if_true, Option.some.injEq, List.mem_cons,
        Prod.mk.injEq, true_and, absent, or_false]
      exact eq_comm
    · simp only [lookup, if_neg present, induction nodup.2, List.mem_cons, Prod.mk.injEq]
      constructor
      · exact Or.inr
      · rintro (⟨equal, _⟩ | member)
        · exact absurd equal.symm present
        · exact member

theorem lookup_eq_none_iff (entries : List (κ × α)) (wanted : κ) :
    lookup entries wanted = none ↔ wanted ∉ entries.map Prod.fst := by
  induction entries with
  | nil => simp [lookup]
  | cons entry rest induction =>
    obtain ⟨key, old⟩ := entry
    by_cases present : key = wanted
    · simp [lookup, present]
    · simp [lookup, present, induction, Ne.symm present]

theorem lookup_filter (entries : List (κ × α)) (wanted other : κ) :
    lookup (entries.filter fun entry => !decide (entry.1 = wanted)) other =
      if wanted = other then none else lookup entries other := by
  induction entries with
  | nil => simp [lookup]
  | cons entry rest induction =>
    obtain ⟨key, old⟩ := entry
    by_cases dropped : key = wanted
    · subst dropped
      by_cases same : key = other
      · simpa [same] using induction
      · simpa [lookup, same] using induction
    · by_cases same : wanted = other
      · subst same
        simpa [lookup, dropped] using induction
      · simp only [if_neg same] at induction
        simp [lookup, dropped, same, induction]

omit [DecidableEq κ] in
theorem keys_map (change : α → β) (entries : List (κ × α)) :
    (entries.map fun entry => (entry.1, change entry.2)).map Prod.fst = entries.map Prod.fst := by
  simp [Function.comp_def]

theorem lookup_map (change : α → β) (entries : List (κ × α)) (wanted : κ) :
    lookup (entries.map fun entry => (entry.1, change entry.2)) wanted =
      (lookup entries wanted).map change := by
  induction entries with
  | nil => rfl
  | cons entry rest induction =>
    simp only [List.map_cons, lookup, induction]
    split <;> rfl

theorem map_assign (project : κ × α → β) (entries : List (κ × α)) (wanted : κ)
    (old value : α) (present : lookup entries wanted = some old)
    (same : project (wanted, value) = project (wanted, old)) :
    (assign entries wanted value).map project = entries.map project := by
  induction entries with
  | nil => simp [lookup] at present
  | cons entry rest induction =>
    obtain ⟨key, head⟩ := entry
    by_cases found : key = wanted
    · simp only [lookup, if_pos found, Option.some.injEq] at present
      simp [assign, found, same, present]
    · simp only [lookup, if_neg found] at present
      simp [assign, found, induction present]

theorem assign_of_lookup (entries : List (κ × α)) (wanted : κ) (value : α)
    (present : lookup entries wanted = some value) : assign entries wanted value = entries := by
  induction entries with
  | nil => simp [lookup] at present
  | cons entry rest induction =>
    obtain ⟨key, head⟩ := entry
    by_cases found : key = wanted
    · simp only [lookup, if_pos found, Option.some.injEq] at present
      simp [assign, found, present]
    · simp only [lookup, if_neg found] at present
      simp [assign, found, induction present]

theorem assign_of_not_mem (entries : List (κ × α)) (wanted : κ) (value : α)
    (absent : wanted ∉ entries.map Prod.fst) :
    assign entries wanted value = entries ++ [(wanted, value)] := by
  induction entries with
  | nil => rfl
  | cons entry rest induction =>
    obtain ⟨key, old⟩ := entry
    simp only [List.map_cons, List.mem_cons, not_or] at absent
    simp [assign, Ne.symm absent.1, induction absent.2]

end Entries

variable {κ : Type u} {α : Type v} [DecidableEq κ]

def empty : Dict κ α := ⟨[], List.nodup_nil⟩

def get? (dict : Dict κ α) (key : κ) : Option α := lookup dict.entries key

def set (dict : Dict κ α) (key : κ) (value : α) : Dict κ α where
  entries := assign dict.entries key value
  nodup := by
    rw [keys_assign]
    split
    · exact dict.nodup
    · rename_i absent
      exact List.nodup_append.mpr ⟨dict.nodup, List.nodup_singleton key, by
        intro left leftMember right rightMember equal
        rw [List.mem_singleton] at rightMember
        exact absent (rightMember ▸ equal ▸ leftMember)⟩

def erase (dict : Dict κ α) (key : κ) : Dict κ α where
  entries := dict.entries.filter fun entry => !decide (entry.1 = key)
  nodup := dict.nodup.sublist (List.filter_sublist.map Prod.fst)

def mapValues {β : Type*} (change : α → β) (dict : Dict κ α) : Dict κ β where
  entries := dict.entries.map fun entry => (entry.1, change entry.2)
  nodup := by
    rw [keys_map]
    exact dict.nodup

def keys (dict : Dict κ α) : List κ := dict.entries.map Prod.fst

def values (dict : Dict κ α) : List α := dict.entries.map Prod.snd

omit [DecidableEq κ] in
@[simp] theorem values_empty : (empty : Dict κ α).values = [] := rfl

@[simp] theorem get?_empty (key : κ) : (empty : Dict κ α).get? key = none := rfl

theorem get?_set (dict : Dict κ α) (key other : κ) (value : α) :
    (dict.set key value).get? other = if key = other then some value else dict.get? other :=
  lookup_assign dict.entries key other value

@[simp] theorem get?_set_self (dict : Dict κ α) (key : κ) (value : α) :
    (dict.set key value).get? key = some value := by
  simp [get?_set]

variable {key other : κ}

@[simp] theorem get?_set_of_ne (dict : Dict κ α) (value : α) (different : key ≠ other) :
    (dict.set key value).get? other = dict.get? other := by
  simp [get?_set, different]

theorem get?_erase (dict : Dict κ α) (key other : κ) :
    (dict.erase key).get? other = if key = other then none else dict.get? other :=
  lookup_filter dict.entries key other

@[simp] theorem get?_erase_self (dict : Dict κ α) (key : κ) : (dict.erase key).get? key = none := by
  simp [get?_erase]

@[simp] theorem get?_erase_of_ne (dict : Dict κ α) (different : key ≠ other) :
    (dict.erase key).get? other = dict.get? other := by
  simp [get?_erase, different]

@[simp] theorem get?_mapValues (change : α → β) (dict : Dict κ α) (key : κ) :
    (dict.mapValues change).get? key = (dict.get? key).map change :=
  lookup_map change dict.entries key

theorem mem_entries_iff (dict : Dict κ α) (key : κ) (value : α) :
    (key, value) ∈ dict.entries ↔ dict.get? key = some value :=
  (lookup_eq_some_iff dict.nodup key value).symm

theorem mem_keys_iff (dict : Dict κ α) (key : κ) :
    key ∈ dict.keys ↔ ∃ value, dict.get? key = some value := by
  rw [← Option.isSome_iff_exists, ← Option.ne_none_iff_isSome, ne_eq, get?,
    lookup_eq_none_iff, not_not, keys]

theorem mem_values_iff (dict : Dict κ α) (value : α) :
    value ∈ dict.values ↔ ∃ key, dict.get? key = some value := by
  simp only [values, List.mem_map, get?, lookup_eq_some_iff dict.nodup]
  constructor
  · rintro ⟨⟨key, stored⟩, member, rfl⟩
    exact ⟨key, member⟩
  · rintro ⟨key, member⟩
    exact ⟨(key, value), member, rfl⟩

theorem isSome_get?_set (dict : Dict κ α) (key : κ) (value : α)
    (present : (dict.get? other).isSome) : ((dict.set key value).get? other).isSome := by
  rw [get?_set]
  split
  · rfl
  · exact present

variable {value : α}

theorem mem_entries_set (dict : Dict κ α) {entry : κ × α}
    (stored : entry ∈ (dict.set key value).entries) :
    entry = (key, value) ∨ entry ∈ dict.entries := by
  obtain ⟨other, current⟩ := entry
  rw [mem_entries_iff, get?_set] at stored
  split at stored
  case isTrue same =>
    cases stored
    exact .inl (Prod.ext same.symm rfl)
  case isFalse => exact .inr ((mem_entries_iff dict other current).mpr stored)

theorem set_of_get? (dict : Dict κ α) (present : dict.get? key = some value) :
    dict.set key value = dict := by
  obtain ⟨entries, nodup⟩ := dict
  simp only [set, mk.injEq]
  exact assign_of_lookup entries key value present

variable {old : α}

theorem keys_set_of_get? (dict : Dict κ α) (value : α) (present : dict.get? key = some old) :
    (dict.set key value).keys = dict.keys := by
  have member : key ∈ dict.entries.map Prod.fst := (dict.mem_keys_iff key).mpr ⟨old, present⟩
  simp [keys, set, keys_assign, member]

theorem map_entries_set_of_get? (project : κ × α → β) (dict : Dict κ α)
    (present : dict.get? key = some old) (same : project (key, value) = project (key, old)) :
    (dict.set key value).entries.map project = dict.entries.map project :=
  map_assign project dict.entries key old value present same

theorem map_values_set_of_get? (project : α → β) (dict : Dict κ α)
    (present : dict.get? key = some old) (same : project value = project old) :
    (dict.set key value).values.map project = dict.values.map project := by
  simpa [values] using map_entries_set_of_get? (project ∘ Prod.snd) dict present same

theorem entries_set_of_get?_eq_none (dict : Dict κ α) (value : α) (absent : dict.get? key = none) :
    (dict.set key value).entries = dict.entries ++ [(key, value)] :=
  assign_of_not_mem dict.entries key value ((lookup_eq_none_iff dict.entries key).mp absent)

theorem keys_set_of_not_mem (dict : Dict κ α) (value : α) (absent : key ∉ dict.keys) :
    (dict.set key value).keys = dict.keys ++ [key] := by
  simp only [keys] at absent
  simp [keys, set, keys_assign, absent]

theorem values_set_of_not_mem (dict : Dict κ α) (value : α) (absent : key ∉ dict.keys) :
    (dict.set key value).values = dict.values ++ [value] := by
  simp [values, set, assign_of_not_mem dict.entries key value absent]

theorem get?_of_keys_range {dict : Dict Nat α} {first count : Nat}
    (numbered : dict.keys = List.range' first count) (offset : Nat) :
    dict.get? (first + offset) = dict.values[offset]? := by
  obtain ⟨entries, nodup⟩ := dict
  simp only [keys, get?, values] at numbered ⊢
  clear nodup
  induction entries generalizing first count offset with
  | nil => simp [lookup]
  | cons entry rest induction =>
    obtain ⟨key, value⟩ := entry
    cases count with
    | zero => simp at numbered
    | succ count =>
      simp only [List.map_cons, List.range'_succ, List.cons.injEq] at numbered
      obtain ⟨rfl, tail⟩ := numbered
      cases offset with
      | zero => simp [lookup]
      | succ offset =>
        have shifted := induction offset tail
        rw [show key + 1 + offset = key + (offset + 1) by omega] at shifted
        simp [lookup, shifted]

end Dict

end TrpcService.Data
