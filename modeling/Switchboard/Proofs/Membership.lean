import Switchboard.Proofs.History
import Switchboard.Proofs.Tally

namespace Switchboard

namespace Group

def after (group : Group) (changes : List Change) : Group :=
  changes.foldl (fun group change => (group.change change).2) group

/-- A change after which a connection is no member, though it was one: another is put in its place, its
identifier is removed, or the very connection is. -/
def Change.Displaces (connection : Connection) : Change → Prop
  | .insert other => other.id = connection.id
  | .remove id => id = connection.id
  | .removeSame other => other = connection

/-- A connection was inserted, and no later change has displaced it. -/
def LastInserted (changes : List Change) (connection : Connection) : Prop :=
  Lasting (· = Change.insert connection) (Change.Displaces connection) changes

/-- All that a group tells of its members is about the same connections. -/
structure Tells (group : Group) (member : Connection → Prop) : Prop where
  entry : ∀ id connection,
    group.members.get? id = some connection ↔ connection.id = id ∧ member connection
  contains : ∀ id, group.contains id = true ↔ ∃ connection, connection.id = id ∧ member connection
  connections : ∀ connection, connection ∈ group.connections ↔ member connection
  memberIds : ∀ id, id ∈ group.memberIds ↔ ∃ connection, connection.id = id ∧ member connection
  nodup_connections : group.connections.Nodup
  nodup_memberIds : group.memberIds.Nodup
  size_connections : group.size = group.connections.length
  size_memberIds : group.size = group.memberIds.length
  isEmpty : group.isEmpty = true ↔ ∀ connection, ¬ member connection

variable {group : Group}

theorem tells_of_keyed (h : Keyed group.members) {member : Connection → Prop}
    (hmember : ∀ connection,
      group.members.get? connection.id = some connection ↔ member connection) :
    group.Tells member := by
  have hentry : ∀ id connection,
      group.members.get? id = some connection ↔ connection.id = id ∧ member connection := by
    intro id connection
    constructor
    · intro hget
      obtain rfl := h id connection hget
      exact ⟨rfl, (hmember connection).mp hget⟩
    · rintro ⟨rfl, hconnection⟩
      exact (hmember connection).mpr hconnection
  have hcontains : ∀ id, group.contains id = true ↔
      ∃ connection, connection.id = id ∧ member connection := by
    intro id
    rw [contains, Table.contains, Option.isSome_iff_exists]
    exact exists_congr (hentry id)
  exact {
    entry := hentry
    contains := hcontains
    connections := fun connection => (h.mem_values_iff connection).trans (hmember connection)
    memberIds := fun id => Table.mem_keys_iff.trans (hcontains id)
    nodup_connections := h.nodup_values
    nodup_memberIds := group.members.nodup
    size_connections := (List.length_map _).symm
    size_memberIds := (List.length_map _).symm
    isEmpty := by
      rw [isEmpty, Table.isEmpty_iff_get?]
      constructor
      · intro hnone connection hconnection
        have hget := (hmember connection).mpr hconnection
        rw [hnone] at hget
        cases hget
      · intro hnone id
        by_contra hsome
        obtain ⟨connection, hget⟩ := Option.ne_none_iff_exists'.mp hsome
        exact hnone connection ((hentry id connection).mp hget).2 }

theorem after_concat (group : Group) (changes : List Change) (change : Change) :
    group.after (changes ++ [change]) = ((group.after changes).change change).2 :=
  List.foldl_concat ..

theorem keyed_change (h : Keyed group.members) (change : Change) :
    Keyed (group.change change).2.members := by
  cases change with
  | insert connection => exact keyed_insert h connection
  | remove id => exact keyed_remove h id
  | removeSame connection => exact keyed_removeSame h connection

theorem keyed_after (h : Keyed group.members) (changes : List Change) :
    Keyed (group.after changes).members := by
  induction changes using List.reverseRecOn with
  | nil => exact h
  | append_singleton changes change ih =>
      rw [after_concat]
      exact keyed_change ih change

/-- What one change does to the member of an identifier. -/
theorem member_change_iff (group : Group) (change : Change) (connection : Connection) :
    (group.change change).2.members.get? connection.id = some connection ↔
      change = .insert connection ∨
        group.members.get? connection.id = some connection ∧ ¬ change.Displaces connection := by
  cases change with
  | insert other =>
      change (group.insert other).members.get? connection.id = _ ↔ _
      rw [member_insert, Change.insert.injEq, Change.Displaces]
      rcases eq_or_ne other.id connection.id with hid | hid
      · simp [hid]
      · have hother : other ≠ connection := fun hsame => hid (congrArg _ hsame)
        simp [hid, hid.symm, hother]
  | remove id =>
      change (group.remove id).members.get? connection.id = _ ↔ _
      rw [member_remove, Change.Displaces]
      rcases eq_or_ne id connection.id with hid | hid
      · simp [hid]
      · simp [hid, hid.symm]
  | removeSame other =>
      change (group.removeSame other).members.get? connection.id = _ ↔ _
      rw [member_removeSame, Change.Displaces]
      rcases eq_or_ne other connection with rfl | hother
      · simp
      · have hstays : ¬ (connection.id = other.id ∧
            group.members.get? other.id = some other ∧
              group.members.get? connection.id = some connection) := by
          rintro ⟨hid, hheld, hmember⟩
          rw [hid, hheld] at hmember
          exact hother (Option.some.inj hmember)
        by_cases hmember : group.members.get? connection.id = some connection
        · simp_all
        · simp_all

theorem member_after_iff (name : String) (changes : List Change) (connection : Connection) :
    ((named name).after changes).members.get? connection.id = some connection ↔
      LastInserted changes connection := by
  induction changes using List.reverseRecOn with
  | nil => exact iff_of_false (by simp [after, named]) not_lasting_nil
  | append_singleton changes change ih =>
      rw [after_concat, member_change_iff, ih, LastInserted, LastInserted, lasting_concat_iff]

theorem size_change_insert (group : Group) (connection : Connection) :
    (group.change (.insert connection)).2.size =
      group.size + (group.change (.insert connection)).1.toNat := by
  have hsize := group.size_insert connection
  change (group.insert connection).size = group.size + (!group.contains connection.id).toNat
  cases hcontains : group.contains connection.id with
  | false => simpa [hcontains] using hsize
  | true => simpa [hcontains] using hsize

/-- What a removal answers and leaves, given what it takes out. -/
theorem removal_tells {next : Group} {removed : Bool}
    (hsize : next.size + (if removed then 1 else 0) = group.size)
    (hkept : removed = false → next = group) :
    group.size = next.size + removed.toNat ∧ (removed = false ↔ next = group) := by
  cases removed with
  | false => exact ⟨hsize.symm, iff_of_true rfl (hkept rfl)⟩
  | true =>
      refine ⟨hsize.symm, iff_of_false nofun ?_⟩
      rintro rfl
      exact absurd hsize (Nat.succ_ne_self _)

/-- The member of an identifier is the connection that was inserted last under it, unless a later change
has removed the identifier or that very connection; all that the group tells of its members is about
those. An insertion answers whether there is one member more, and stores its connection in any case. A
removal answers whether there is one member less, and changes nothing otherwise; a removal of a connection
takes out that connection only, and not another of its identifier. -/
theorem members_last_inserted (name : String) (changes : List Change) :
    let group := (named name).after changes
    group.Tells (LastInserted changes) ∧
      (∀ connection,
        let (added, next) := group.change (.insert connection)
        next.size = group.size + added.toNat ∧
          next.members.get? connection.id = some connection) ∧
      (∀ id,
        let (removed, next) := group.change (.remove id)
        group.size = next.size + removed.toNat ∧ (removed = false ↔ next = group)) ∧
      ∀ connection,
        let (removed, next) := group.change (.removeSame connection)
        group.size = next.size + removed.toNat ∧ (removed = false ↔ next = group) ∧
          (removed = true ↔ group.members.get? connection.id = some connection) := by
  intro group
  have hkeyed : Keyed group.members := keyed_after Keyed.empty changes
  refine ⟨tells_of_keyed hkeyed (member_after_iff name changes), ?_, ?_, ?_⟩
  · intro connection
    refine ⟨group.size_change_insert connection, ?_⟩
    exact (member_change_iff group (.insert connection) connection).mpr (.inl rfl)
  · intro id
    refine removal_tells (group.size_remove id) fun hnot => ?_
    exact remove_eq_self (Table.get?_eq_none_of_not_contains (Bool.not_eq_true _ ▸ hnot))
  · intro connection
    obtain ⟨hsize, hkept⟩ := removal_tells (group.size_removeSame connection) removeSame_eq_self
    exact ⟨hsize, hkept, group.holds_iff connection⟩

/-- A client comes back under its identifier and takes the place of its old connection. The old one
cannot take it out again. -/
example :
    let old : Connection := ⟨0, ⟨"client"⟩⟩
    let new : Connection := ⟨1, ⟨"client"⟩⟩
    let group := (named "room").after [.insert old, .insert new, .removeSame old]
    group.connections = [new] ∧ (group.change (.removeSame old)).1 = false ∧
      (group.change (.insert old)).1 = false ∧ (group.change (.removeSame new)).1 = true := by
  decide

end Group

end Switchboard
