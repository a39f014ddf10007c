import Mathlib.Algebra.BigOperators.Group.Finset.Basic
import Mathlib.Algebra.GroupWithZero.Nat
import Switchboard.Proofs.Stores

/-!
How many connections are attached and how many memberships there are. A number that is added up over a
table is told by looking up each key, so a change at one key shows in it as what was there before and what
is there afterwards.
-/

namespace Switchboard

namespace Table

universe u v

variable {κ : Type u} {α : Type v}

def total (weight : α → Nat) (t : Table κ α) : Nat :=
  (t.values.map weight).sum

theorem size_eq_total (t : Table κ α) : t.size = t.total fun _ => 1 := by
  simp [total, values, size, Function.comp_def]

variable [DecidableEq κ]

theorem total_eq_sum {weight : α → Nat} {t : Table κ α} {keys : Finset κ}
    (h : ∀ k ∈ t.keys, k ∈ keys) : t.total weight = ∑ k ∈ keys, (t.get? k).elim 0 weight := by
  have hlisted : t.values.map weight = t.keys.map fun k => (t.get? k).elim 0 weight := by
    unfold values Table.keys
    rw [List.map_map, List.map_map]
    apply List.map_congr_left
    intro entry hentry
    have hget : t.get? entry.1 = some entry.2 := get?_eq_some_iff.mpr hentry
    change weight entry.2 = (t.get? entry.1).elim 0 weight
    rw [hget]
    rfl
  have hnodup : t.keys.Nodup := t.nodup
  unfold total
  rw [hlisted, ← List.sum_toFinset _ hnodup]
  apply Finset.sum_subset
  · intro k hk
    exact h k (List.mem_toFinset.mp hk)
  · intro k _ hk
    rw [List.mem_toFinset, mem_keys_iff, Option.not_isSome_iff_eq_none] at hk
    rw [hk]
    rfl

theorem total_of_differ (weight : α → Nat) {s t : Table κ α} {k : κ}
    (h : ∀ j, j ≠ k → (s.get? j).elim 0 weight = (t.get? j).elim 0 weight) :
    s.total weight + (t.get? k).elim 0 weight = t.total weight + (s.get? k).elim 0 weight := by
  let keys : Finset κ := {k} ∪ (s.keys.toFinset ∪ t.keys.toFinset)
  have hs : ∀ j ∈ s.keys, j ∈ keys := fun j hj => by simp [keys, hj]
  have ht : ∀ j ∈ t.keys, j ∈ keys := fun j hj => by simp [keys, hj]
  have hk : k ∈ keys := by simp [keys]
  have hrest : ∑ j ∈ keys.erase k, (s.get? j).elim 0 weight =
      ∑ j ∈ keys.erase k, (t.get? j).elim 0 weight :=
    Finset.sum_congr rfl fun j hj => h j (Finset.ne_of_mem_erase hj)
  rw [total_eq_sum hs, total_eq_sum ht, ← Finset.add_sum_erase keys _ hk,
    ← Finset.add_sum_erase keys (fun j => (t.get? j).elim 0 weight) hk, hrest]
  omega

theorem total_congr {weight : α → Nat} {s t : Table κ α}
    (h : ∀ k, (s.get? k).elim 0 weight = (t.get? k).elim 0 weight) :
    s.total weight = t.total weight := by
  have hs : ∀ k ∈ s.keys, k ∈ s.keys.toFinset ∪ t.keys.toFinset := fun k hk => by simp [hk]
  have ht : ∀ k ∈ t.keys, k ∈ s.keys.toFinset ∪ t.keys.toFinset := fun k hk => by simp [hk]
  rw [total_eq_sum hs, total_eq_sum ht]
  exact Finset.sum_congr rfl fun k _ => h k

theorem size_insert (t : Table κ α) (k : κ) (a : α) :
    (t.insert k a).size + (if t.contains k then 1 else 0) = t.size + 1 := by
  have hdiffer := total_of_differ (fun _ => 1) (s := t.insert k a) (t := t) (k := k)
    fun j hj => by rw [get?_insert, if_neg hj]
  rw [get?_insert, if_pos rfl] at hdiffer
  rw [size_eq_total, size_eq_total]
  unfold contains
  cases hget : t.get? k with
  | none => simpa [hget] using hdiffer
  | some b => simpa [hget] using hdiffer

theorem size_erase (t : Table κ α) (k : κ) :
    (t.erase k).size + (if t.contains k then 1 else 0) = t.size := by
  have hdiffer := total_of_differ (fun _ => 1) (s := t.erase k) (t := t) (k := k)
    fun j hj => by rw [get?_erase, if_neg hj]
  rw [get?_erase, if_pos rfl] at hdiffer
  rw [size_eq_total, size_eq_total]
  unfold contains
  cases hget : t.get? k with
  | none => simpa [hget] using hdiffer
  | some b => simpa [hget] using hdiffer

theorem size_congr {s t : Table κ α} (h : ∀ k, s.get? k = t.get? k) : s.size = t.size := by
  rw [size_eq_total, size_eq_total]
  exact total_congr fun k => by rw [h k]

end Table

namespace Group

theorem size_insert (group : Group) (connection : Connection) :
    (group.insert connection).size + (if group.contains connection.id then 1 else 0) =
      group.size + 1 :=
  Table.size_insert group.members connection.id connection

theorem size_remove (group : Group) (id : ConnectionId) :
    (group.remove id).size + (if group.contains id then 1 else 0) = group.size :=
  Table.size_erase group.members id

theorem contains_of_holds {group : Group} {connection : Connection}
    (h : group.holds connection = true) : group.contains connection.id = true := by
  have hget := (group.holds_iff connection).mp h
  unfold contains Table.contains
  rw [hget]
  rfl

theorem size_removeSame (group : Group) (connection : Connection) :
    (group.removeSame connection).size + (if group.holds connection then 1 else 0) =
      group.size := by
  cases hholds : group.holds connection with
  | false =>
      rw [removeSame_eq_self hholds]
      rfl
  | true =>
      have hsize := group.size_remove connection.id
      rw [contains_of_holds hholds] at hsize
      unfold removeSame
      rw [if_pos hholds]
      exact hsize

end Group

namespace Directory

/-- How many memberships there are in all groups together. -/
def memberships (directory : Directory) : Nat :=
  directory.total Group.size

theorem elim_size (directory : Directory) (name : String) :
    (directory.get? name).elim 0 Group.size = (directory.group name).size := by
  unfold group
  cases directory.get? name with
  | none => rfl
  | some found => rfl

theorem memberships_congr {directory other : Directory}
    (h : ∀ name, (directory.group name).size = (other.group name).size) :
    directory.memberships = other.memberships := by
  apply Table.total_congr
  intro name
  rw [elim_size, elim_size, h]

/-- What a change of one group does to the number of all memberships. -/
theorem memberships_of_differ (directory other : Directory) {name : String}
    (h : ∀ another, another ≠ name → directory.group another = other.group another) :
    directory.memberships + (other.group name).size =
      other.memberships + (directory.group name).size := by
  rw [← elim_size, ← elim_size]
  apply Table.total_of_differ Group.size
  intro another hanother
  rw [elim_size, elim_size, h another hanother]

theorem memberships_join (directory : Directory) (name : String) (connection : Connection) :
    (directory.join name connection).memberships +
        (if (directory.group name).contains connection.id then 1 else 0) =
      directory.memberships + 1 := by
  have hdiffer := memberships_of_differ (directory.join name connection) directory
    fun another (hanother : another ≠ name) => by rw [group_join, if_neg hanother]
  have hsize := (directory.group name).size_insert connection
  rw [group_join, if_pos rfl] at hdiffer
  omega

theorem memberships_leave (directory : Directory) (name : String) (id : ConnectionId) :
    (directory.leave name id).memberships +
        (if directory.containsMember name id then 1 else 0) = directory.memberships := by
  have hdiffer := memberships_of_differ (directory.leave name id) directory
    fun another (hanother : another ≠ name) => by rw [group_leave, if_neg hanother]
  have hsize := (directory.group name).size_remove id
  rw [group_leave, if_pos rfl] at hdiffer
  unfold containsMember
  omega

theorem memberships_evict (directory : Directory) (name : String) (connection : Connection) :
    (directory.evict name connection).memberships +
        (if (directory.group name).holds connection then 1 else 0) = directory.memberships := by
  have hdiffer := memberships_of_differ (directory.evict name connection) directory
    fun another (hanother : another ≠ name) => by rw [group_evict, if_neg hanother]
  have hsize := (directory.group name).size_removeSame connection
  rw [group_evict, if_pos rfl] at hdiffer
  omega

theorem memberships_leaveAll (directory : Directory) (connection : Connection) :
    (directory.leaveAll connection).memberships + directory.countHolding connection =
      directory.memberships := by
  have hvalues : (directory.leaveAll connection).values =
      directory.values.map fun group => group.removeSame connection := by
    unfold leaveAll Table.mapEntries Table.values
    rw [List.map_map, List.map_map]
    rfl
  unfold memberships countHolding Table.total
  rw [hvalues]
  induction directory.values with
  | nil => rfl
  | cons group rest ih =>
      have hsize := group.size_removeSame connection
      simp only [List.map_cons, List.sum_cons, List.countP_cons]
      omega

theorem memberships_prune (directory : Directory) :
    directory.prune.memberships = directory.memberships := by
  apply memberships_congr
  intro name
  rw [← elim_size, ← elim_size, get?_prune]
  cases directory.get? name with
  | none => rfl
  | some found =>
      rw [Option.filter_some]
      split
      · rfl
      · rename_i hempty
        have hnone : found.members.entries = [] := by
          apply Table.isEmpty_iff.mp
          simpa [Group.isEmpty] using hempty
        change 0 = found.members.entries.length
        rw [hnone]
        rfl

end Directory

namespace Registry

theorem size_attach (registry : Registry) (connection : Connection) :
    (registry.attach connection).size + (if registry.contains connection.id then 1 else 0) =
      registry.size + 1 :=
  Table.size_insert registry connection.id connection

theorem size_detach (registry : Registry) (id : ConnectionId) :
    (registry.detach id).size + (if registry.contains id then 1 else 0) = registry.size :=
  Table.size_erase registry id

theorem size_detachAll (registry : Registry) (test : Connection → Bool) :
    (registry.detachAll test).size + (registry.select test).length = registry.size := by
  have hdetached : (registry.detachAll test).size =
      registry.entries.countP fun entry => ¬ test entry.2 = true := by
    rw [List.countP_eq_length_filter]
    unfold detachAll Table.filter Table.size
    simp
  have hselected : (registry.select test).length =
      registry.entries.countP fun entry => test entry.2 := by
    unfold select Table.values
    rw [← List.countP_eq_length_filter, List.countP_map]
    rfl
  rw [hdetached, hselected, Nat.add_comm]
  exact (registry.entries.length_eq_countP_add_countP fun entry => test entry.2).symm

end Registry

namespace Stores

theorem Same.size_registry {stores other : Stores} (same : stores.Same other) :
    stores.registry.size = other.registry.size :=
  Table.size_congr same.attached

theorem Same.memberships {stores other : Stores} (same : stores.Same other) :
    stores.groups.memberships = other.groups.memberships :=
  Directory.memberships_congr fun name => Table.size_congr (same.members name)

end Stores

end Switchboard
