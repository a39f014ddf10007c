import Mathlib.Data.List.Nodup
import Switchboard.Connection
import Switchboard.Table

namespace Switchboard

namespace Table

universe u v

variable {κ : Type u} {α : Type v}

theorem filter_eq_self {keep : κ → α → Bool} {t : Table κ α}
    (h : ∀ k a, (k, a) ∈ t.entries → keep k a = true) : t.filter keep = t := by
  apply ext
  exact List.filter_eq_self.mpr fun entry hentry => h entry.1 entry.2 hentry

theorem mapEntries_eq_self {f : κ → α → α} {t : Table κ α}
    (h : ∀ k a, (k, a) ∈ t.entries → f k a = a) : t.mapEntries f = t := by
  apply ext
  change (t.entries.map fun entry => (entry.1, f entry.1 entry.2)) = t.entries
  conv => rhs; rw [← List.map_id t.entries]
  apply List.map_congr_left
  intro entry hentry
  rw [h entry.1 entry.2 hentry]
  rfl

theorem keys_mapEntries (f : κ → α → α) (t : Table κ α) : (t.mapEntries f).keys = t.keys := by
  unfold mapEntries keys
  rw [List.map_map]
  rfl

theorem mapEntries_mapEntries (f g : κ → α → α) (t : Table κ α) :
    (t.mapEntries f).mapEntries g = t.mapEntries fun k a => g k (f k a) := by
  apply ext
  exact List.map_map

theorem mapEntries_congr {f g : κ → α → α} {t : Table κ α}
    (h : ∀ k a, (k, a) ∈ t.entries → f k a = g k a) : t.mapEntries f = t.mapEntries g := by
  apply ext
  apply List.map_congr_left
  intro entry hentry
  exact Prod.ext rfl (h entry.1 entry.2 hentry)

theorem isEmpty_iff {t : Table κ α} : t.isEmpty = true ↔ t.entries = [] :=
  List.isEmpty_iff

variable [DecidableEq κ]

theorem get?_eq_none_of_not_contains {t : Table κ α} {k : κ} (h : ¬ t.contains k = true) :
    t.get? k = none := by
  simpa [contains] using h

theorem mem_keys_iff {t : Table κ α} {k : κ} : k ∈ t.keys ↔ (t.get? k).isSome = true := by
  rw [Option.isSome_iff_ne_none, ← not_iff_not, not_not]
  exact find_eq_none_iff.symm

theorem mem_values_of_get? {t : Table κ α} {k : κ} {a : α} (h : t.get? k = some a) : a ∈ t.values :=
  List.mem_map.mpr ⟨(k, a), get?_eq_some_iff.mp h, rfl⟩

theorem erase_eq_self {t : Table κ α} {k : κ} (h : t.get? k = none) : t.erase k = t := by
  apply filter_eq_self
  intro j a hentry
  have hj : t.get? j = some a := get?_eq_some_iff.mpr hentry
  have hne : j ≠ k := by
    rintro rfl
    rw [h] at hj
    exact absurd hj (by simp)
  exact decide_eq_true hne

@[simp] theorem get?_empty (k : κ) : (empty : Table κ α).get? k = none := rfl

theorem get?_of_isEmpty {t : Table κ α} (h : t.isEmpty = true) (k : κ) : t.get? k = none := by
  unfold get?
  rw [isEmpty_iff.mp h]
  rfl

theorem isEmpty_iff_get? {t : Table κ α} : t.isEmpty = true ↔ ∀ k, t.get? k = none := by
  constructor
  · exact get?_of_isEmpty
  · intro h
    rw [isEmpty_iff, List.eq_nil_iff_forall_not_mem]
    rintro ⟨k, a⟩ hentry
    have hget : t.get? k = some a := get?_eq_some_iff.mpr hentry
    rw [h k] at hget
    cases hget

end Table

def Keyed (t : Table ConnectionId Connection) : Prop :=
  ∀ id connection, t.get? id = some connection → connection.id = id

namespace Keyed

variable {t : Table ConnectionId Connection}

theorem mem_values_iff (h : Keyed t) (connection : Connection) :
    connection ∈ t.values ↔ t.get? connection.id = some connection := by
  unfold Table.values
  rw [List.mem_map]
  constructor
  · rintro ⟨⟨id, listed⟩, hentry, rfl⟩
    have hget : t.get? id = some listed := Table.get?_eq_some_iff.mpr hentry
    change t.get? listed.id = some listed
    rw [h id listed hget]
    exact hget
  · intro hget
    exact ⟨(connection.id, connection), Table.get?_eq_some_iff.mp hget, rfl⟩

theorem map_id_values (h : Keyed t) : t.values.map Connection.id = t.keys := by
  unfold Table.values Table.keys
  rw [List.map_map]
  apply List.map_congr_left
  rintro ⟨id, connection⟩ hentry
  exact h id connection (Table.get?_eq_some_iff.mpr hentry)

theorem nodup_values (h : Keyed t) : t.values.Nodup := by
  apply List.Nodup.of_map Connection.id
  rw [h.map_id_values]
  exact t.nodup

theorem empty : Keyed Table.empty := by
  intro id connection hget
  exact absurd hget (by simp)

end Keyed

end Switchboard
