/-!
Finite tables that list their entries in the order in which the keys first came in. A table has one
entry for a key, and what a change does to it is told by what looking up each key gives afterwards.
-/

namespace Switchboard

universe u v

/-- Entries under distinct keys, in a fixed order. -/
structure Table (κ : Type u) (α : Type v) where
  entries : List (κ × α)
  nodup : (entries.map Prod.fst).Nodup

namespace Table

variable {κ : Type u} {α : Type v}

theorem ext {s t : Table κ α} (h : s.entries = t.entries) : s = t := by
  cases s
  cases t
  cases h
  rfl

def empty : Table κ α :=
  ⟨[], List.nodup_nil⟩

instance : Inhabited (Table κ α) :=
  ⟨empty⟩

def keys (t : Table κ α) : List κ :=
  t.entries.map Prod.fst

def values (t : Table κ α) : List α :=
  t.entries.map Prod.snd

def size (t : Table κ α) : Nat :=
  t.entries.length

def isEmpty (t : Table κ α) : Bool :=
  t.entries.isEmpty

def mapEntries (f : κ → α → α) (t : Table κ α) : Table κ α where
  entries := t.entries.map fun (k, a) => (k, f k a)
  nodup := by
    have : (t.entries.map fun (k, a) => (k, f k a)).map Prod.fst = t.entries.map Prod.fst := by
      simp
    rw [this]
    exact t.nodup

def filter (keep : κ → α → Bool) (t : Table κ α) : Table κ α where
  entries := t.entries.filter fun (k, a) => keep k a
  nodup := (List.filter_sublist.map Prod.fst).nodup t.nodup

section Keyed

variable [DecidableEq κ]

def find (k : κ) : List (κ × α) → Option α
  | [] => none
  | (j, a) :: rest => if j = k then some a else find k rest

/-- Replaces the value of a key where it stands, or appends an entry. -/
def put (k : κ) (a : α) : List (κ × α) → List (κ × α)
  | [] => [(k, a)]
  | (j, b) :: rest => if j = k then (k, a) :: rest else (j, b) :: put k a rest

theorem keys_put_of_mem {k : κ} {a : α} {l : List (κ × α)} (h : k ∈ l.map Prod.fst) :
    (put k a l).map Prod.fst = l.map Prod.fst := by
  induction l with
  | nil => simp at h
  | cons entry rest ih =>
    obtain ⟨j, b⟩ := entry
    by_cases hj : j = k
    · simp [put, hj]
    · have : k ∈ rest.map Prod.fst := by
        simpa [Ne.symm hj] using h
      simp [put, hj, ih this]

theorem keys_put_of_not_mem {k : κ} {a : α} {l : List (κ × α)} (h : k ∉ l.map Prod.fst) :
    (put k a l).map Prod.fst = l.map Prod.fst ++ [k] := by
  induction l with
  | nil => rfl
  | cons entry rest ih =>
    obtain ⟨j, b⟩ := entry
    have hj : j ≠ k := fun e => h (by simp [e])
    have hr : k ∉ rest.map Prod.fst := fun hm => h (List.mem_cons_of_mem _ hm)
    simp [put, hj, ih hr]

theorem nodup_put {k : κ} {a : α} {l : List (κ × α)} (h : (l.map Prod.fst).Nodup) :
    ((put k a l).map Prod.fst).Nodup := by
  by_cases hk : k ∈ l.map Prod.fst
  · rw [keys_put_of_mem hk]
    exact h
  · rw [keys_put_of_not_mem hk]
    refine List.nodup_append.2 ⟨h, by simp, ?_⟩
    intro x hx y hy e
    simp only [List.mem_singleton] at hy
    exact hk (hy ▸ e ▸ hx)

def get? (t : Table κ α) (k : κ) : Option α :=
  find k t.entries

def contains (t : Table κ α) (k : κ) : Bool :=
  (t.get? k).isSome

def insert (t : Table κ α) (k : κ) (a : α) : Table κ α :=
  ⟨put k a t.entries, nodup_put t.nodup⟩

def erase (t : Table κ α) (k : κ) : Table κ α :=
  t.filter fun j _ => decide (j ≠ k)

theorem find_put (j k : κ) (a : α) (l : List (κ × α)) :
    find j (put k a l) = if j = k then some a else find j l := by
  induction l with
  | nil => by_cases h : j = k <;> simp [put, find, h, eq_comm]
  | cons entry rest ih =>
    obtain ⟨i, b⟩ := entry
    by_cases hi : i = k
    · by_cases hj : j = k
      · simp [put, find, hi, hj]
      · simp [put, find, hi, hj, Ne.symm hj]
    · by_cases hij : i = j
      · have hj : j ≠ k := hij ▸ hi
        simp [put, find, hij, hj]
      · simp [put, find, hi, hij, ih]

theorem get?_insert (t : Table κ α) (j k : κ) (a : α) :
    (t.insert k a).get? j = if j = k then some a else t.get? j :=
  find_put j k a t.entries

theorem find_eq_none_iff {k : κ} {l : List (κ × α)} : find k l = none ↔ k ∉ l.map Prod.fst := by
  induction l with
  | nil => simp [find]
  | cons entry rest ih =>
    obtain ⟨j, b⟩ := entry
    by_cases h : j = k
    · simp [find, h]
    · simp [find, h, ih, Ne.symm h]

theorem mem_of_find {k : κ} {a : α} {l : List (κ × α)} (h : find k l = some a) : (k, a) ∈ l := by
  induction l with
  | nil => simp [find] at h
  | cons entry rest ih =>
    obtain ⟨j, b⟩ := entry
    by_cases hj : j = k
    · simp only [find, hj, if_true, Option.some.injEq] at h
      simp [hj, h]
    · simp only [find, hj, if_false] at h
      exact List.mem_cons_of_mem _ (ih h)

theorem find_of_mem {k : κ} {a : α} {l : List (κ × α)} (hl : (l.map Prod.fst).Nodup)
    (h : (k, a) ∈ l) : find k l = some a := by
  induction l with
  | nil => simp at h
  | cons entry rest ih =>
    obtain ⟨j, b⟩ := entry
    simp only [List.map_cons, List.nodup_cons] at hl
    rcases List.mem_cons.1 h with e | hr
    · cases e
      simp [find]
    · have hj : j ≠ k := by
        rintro rfl
        exact hl.1 (List.mem_map.2 ⟨_, hr, rfl⟩)
      simp [find, hj, ih hl.2 hr]

theorem get?_eq_some_iff {t : Table κ α} {k : κ} {a : α} :
    t.get? k = some a ↔ (k, a) ∈ t.entries :=
  ⟨mem_of_find, find_of_mem t.nodup⟩

theorem get?_filter (keep : κ → α → Bool) (t : Table κ α) (k : κ) :
    (t.filter keep).get? k = (t.get? k).filter (keep k) := by
  cases h : t.get? k with
  | none =>
    have hk : k ∉ t.entries.map Prod.fst := find_eq_none_iff.1 h
    refine find_eq_none_iff.2 fun hm => hk ?_
    exact (List.filter_sublist.map Prod.fst).subset hm
  | some a =>
    have ha := get?_eq_some_iff.1 h
    cases hk : keep k a with
    | true =>
      simp only [Option.filter, hk, if_true]
      exact get?_eq_some_iff.2 (List.mem_filter.2 ⟨ha, hk⟩)
    | false =>
      simp only [Option.filter, hk]
      refine find_eq_none_iff.2 fun hm => ?_
      obtain ⟨⟨j, b⟩, hb, rfl⟩ := List.mem_map.1 hm
      obtain ⟨hb, hkb⟩ := List.mem_filter.1 hb
      have := (get?_eq_some_iff.2 hb).symm.trans h
      cases this
      simp_all

theorem get?_erase (t : Table κ α) (j k : κ) :
    (t.erase k).get? j = if j = k then none else t.get? j := by
  rw [erase, get?_filter]
  by_cases h : j = k
  · cases t.get? j <;> simp [Option.filter, h]
  · cases t.get? j <;> simp [Option.filter, h]

theorem find_map (f : κ → α → α) (k : κ) (l : List (κ × α)) :
    find k (l.map fun (j, a) => (j, f j a)) = (find k l).map (f k) := by
  induction l with
  | nil => rfl
  | cons entry rest ih =>
    obtain ⟨j, b⟩ := entry
    by_cases h : j = k
    · simp [find, h]
    · simpa [find, h] using ih

theorem get?_mapEntries (f : κ → α → α) (t : Table κ α) (k : κ) :
    (t.mapEntries f).get? k = (t.get? k).map (f k) :=
  find_map f k t.entries

end Keyed

end Table

end Switchboard
