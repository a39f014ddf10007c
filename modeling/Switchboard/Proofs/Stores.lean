import Switchboard.Hub.Operation
import Switchboard.Proofs.Table

/-!
What each change does to the stores of a hub, told by looking up the attached connection of an
identifier and the member of a group under an identifier; and the soundness that every change keeps.
-/

namespace Switchboard

namespace Group

theorem remove_eq_self {group : Group} {id : ConnectionId} (h : group.members.get? id = none) :
    group.remove id = group := by
  unfold remove
  rw [Table.erase_eq_self h]

theorem removeSame_eq_self {group : Group} {connection : Connection}
    (h : group.holds connection = false) : group.removeSame connection = group := by
  unfold removeSame
  simp [h]

theorem removeSame_named (name : String) (connection : Connection) :
    (named name).removeSame connection = named name :=
  removeSame_eq_self rfl

theorem member_removeSame_of_keyed {group : Group} (h : Keyed group.members)
    (connection : Connection) (id : ConnectionId) :
    (group.removeSame connection).members.get? id =
      (group.members.get? id).filter fun member => member ≠ connection := by
  rw [member_removeSame]
  cases hget : group.members.get? id with
  | none => simp
  | some member =>
      have hid : member.id = id := h id member hget
      rcases eq_or_ne member connection with rfl | hsame
      · simp [hid, hget, Option.filter]
      · have hother : ¬ (id = connection.id ∧
            group.members.get? connection.id = some connection) := by
          rintro ⟨rfl, hconnection⟩
          rw [hget] at hconnection
          exact hsame (Option.some.inj hconnection)
        simp [hother, hsame, Option.filter]

theorem keyed_insert {group : Group} (h : Keyed group.members) (connection : Connection) :
    Keyed (group.insert connection).members := by
  intro id member hget
  rw [member_insert] at hget
  split at hget
  · rename_i hid
    rw [hid, Option.some.inj hget]
  · exact h id member hget

theorem keyed_remove {group : Group} (h : Keyed group.members) (removed : ConnectionId) :
    Keyed (group.remove removed).members := by
  intro id member hget
  rw [member_remove] at hget
  split at hget
  · exact absurd hget (by simp)
  · exact h id member hget

theorem keyed_removeSame {group : Group} (h : Keyed group.members) (connection : Connection) :
    Keyed (group.removeSame connection).members := by
  unfold removeSame
  split
  · exact keyed_remove h connection.id
  · exact h

end Group

namespace Directory

theorem group_eq {directory : Directory} {name : String} {group : Group}
    (h : directory.get? name = some group) : directory.group name = group := by
  unfold Directory.group
  rw [h]
  rfl

theorem group_join (directory : Directory) (name other : String) (connection : Connection) :
    (directory.join name connection).group other =
      if other = name then (directory.group name).insert connection
      else directory.group other := by
  unfold Directory.group
  rw [get?_join]
  split
  · rfl
  · rfl

theorem group_alter {name : String} (change : Group → Group)
    (h : change (Group.named name) = Group.named name) (directory : Directory) (other : String) :
    (directory.alter name change).group other =
      if other = name then change (directory.group other) else directory.group other := by
  unfold Directory.group
  rw [get?_alter]
  rcases eq_or_ne other name with rfl | hother
  · cases directory.get? other with
    | none => simp [h]
    | some group => simp
  · simp [hother]

theorem group_leave (directory : Directory) (name other : String) (id : ConnectionId) :
    (directory.leave name id).group other =
      if other = name then (directory.group other).remove id else directory.group other :=
  group_alter (fun group => group.remove id) (Group.remove_eq_self rfl) directory other

theorem group_evict (directory : Directory) (name other : String) (connection : Connection) :
    (directory.evict name connection).group other =
      if other = name then (directory.group other).removeSame connection
      else directory.group other :=
  group_alter (fun group => group.removeSame connection)
    (Group.removeSame_named name connection) directory other

theorem group_leaveAll (directory : Directory) (connection : Connection) (name : String) :
    (directory.leaveAll connection).group name = (directory.group name).removeSame connection := by
  unfold Directory.group
  rw [get?_leaveAll]
  cases directory.get? name with
  | none => exact (Group.removeSame_named name connection).symm
  | some group => rfl

theorem member_prune (directory : Directory) (name : String) (id : ConnectionId) :
    (directory.prune.group name).members.get? id = (directory.group name).members.get? id := by
  unfold Directory.group
  rw [get?_prune]
  cases directory.get? name with
  | none => rfl
  | some group =>
      cases hempty : group.isEmpty with
      | false => simp [Option.filter, hempty]
      | true =>
          have hnone : group.members.get? id = none := Table.get?_of_isEmpty hempty id
          simp [Option.filter, hempty, hnone, Group.named]

theorem alter_eq_self {directory : Directory} {name : String} {change : Group → Group}
    (h : change (directory.group name) = directory.group name) :
    directory.alter name change = directory := by
  apply Table.mapEntries_eq_self
  intro other group hentry
  split
  · rename_i hother
    subst hother
    rw [group_eq (Table.get?_eq_some_iff.mpr hentry)] at h
    exact h
  · rfl

theorem leaveAll_eq_self {directory : Directory} {connection : Connection}
    (h : directory.countHolding connection = 0) : directory.leaveAll connection = directory := by
  apply Table.mapEntries_eq_self
  intro name group hentry
  apply Group.removeSame_eq_self
  have hnot := List.countP_eq_zero.mp h group (List.mem_map.mpr ⟨(name, group), hentry, rfl⟩)
  simpa using hnot

theorem prune_eq_self {directory : Directory} (h : directory.size ≤ directory.prune.size) :
    directory.prune = directory := by
  apply Table.ext
  exact List.filter_sublist.eq_of_length_le h

end Directory

namespace Registry

theorem detachAll_eq_self {registry : Registry} {test : Connection → Bool}
    (h : registry.select test = []) : registry.detachAll test = registry := by
  apply Table.filter_eq_self
  intro id connection hentry
  have hmem : connection ∈ registry.values := List.mem_map.mpr ⟨(id, connection), hentry, rfl⟩
  have hfails := List.filter_eq_nil_iff.mp h connection hmem
  simpa using hfails

theorem detachEach_map_fst {test : Connection → Bool} {registry : Registry}
    {found : List (ConnectionId × Connection)} (hnodup : (found.map Prod.fst).Nodup)
    (h : ∀ entry ∈ found, registry.get? entry.1 = some entry.2 ∧ test entry.2 = true) :
    registry.detachEach test (found.map Prod.fst) =
      (found.map Prod.snd, registry.filter fun id _ => id ∉ found.map Prod.fst) := by
  induction found generalizing registry with
  | nil =>
      have hself : registry.filter (fun id _ => decide (id ∉ [])) = registry :=
        Table.filter_eq_self fun _ _ _ => by simp
      exact Prod.ext rfl hself.symm
  | cons entry rest ih =>
      obtain ⟨id, connection⟩ := entry
      obtain ⟨hnew, hrest⟩ := List.nodup_cons.mp hnodup
      obtain ⟨hget, htest⟩ := h _ List.mem_cons_self
      have hdetach : registry.detachIf test id = (some connection, registry.detach id) := by
        unfold detachIf
        simp [hget, htest]
      have hlater : ∀ entry ∈ rest,
          (registry.detach id).get? entry.1 = some entry.2 ∧ test entry.2 = true := by
        intro entry hentry
        have hother : entry.1 ≠ id := fun hsame => hnew (List.mem_map.mpr ⟨entry, hentry, hsame⟩)
        rw [get?_detach, if_neg hother]
        exact h entry (List.mem_cons_of_mem _ hentry)
      have hboth : (registry.detach id).filter (fun key _ => key ∉ rest.map Prod.fst) =
          registry.filter fun key _ => key ∉ id :: rest.map Prod.fst := by
        apply Table.ext
        change (registry.entries.filter _).filter _ = registry.entries.filter _
        rw [List.filter_filter]
        apply List.filter_congr
        intro other _
        rw [Bool.eq_iff_iff]
        simp [and_comm]
      rw [List.map_cons, detachEach, hdetach]
      simp only
      rw [ih hrest hlater, hboth]
      rfl

/-- To look at each connection once more that was found to pass a test is to detach all that do. -/
theorem detachEach_idsOf (registry : Registry) (test : Connection → Bool) :
    registry.detachEach test (registry.idsOf test) =
      (registry.select test, registry.detachAll test) := by
  have hfound : ∀ entry ∈ (registry.filter fun _ connection => test connection).entries,
      registry.get? entry.1 = some entry.2 ∧ test entry.2 = true := by
    intro entry hentry
    obtain ⟨hmem, htest⟩ := List.mem_filter.mp hentry
    exact ⟨Table.get?_eq_some_iff.mpr hmem, htest⟩
  refine (detachEach_map_fst (registry.filter _).nodup hfound).trans (Prod.ext ?_ ?_)
  · exact List.filter_map.symm
  · apply Table.ext
    apply List.filter_congr
    rintro ⟨id, connection⟩ hentry
    have hget : registry.get? id = some connection := Table.get?_eq_some_iff.mpr hentry
    change decide (id ∉ registry.idsOf test) = !test connection
    cases htest : test connection with
    | true =>
        have hlisted : id ∈ registry.idsOf test :=
          List.mem_map.mpr ⟨(id, connection), List.mem_filter.mpr ⟨hentry, htest⟩, rfl⟩
        exact decide_eq_false (not_not.mpr hlisted)
    | false =>
        apply decide_eq_true
        intro hlisted
        obtain ⟨other, hother, rfl⟩ := List.mem_map.mp hlisted
        obtain ⟨hsame, hpasses⟩ := hfound other hother
        rw [hget] at hsame
        rw [← Option.some.inj hsame, htest] at hpasses
        exact Bool.false_ne_true hpasses

end Registry

namespace Stores

def member (stores : Stores) (group : String) (id : ConnectionId) : Option Connection :=
  (stores.groups.group group).members.get? id

def register (stores : Stores) (connection : Connection) : Stores :=
  { stores with registry := stores.registry.attach connection }

def unregister (stores : Stores) (id : ConnectionId) : Stores :=
  { stores with registry := stores.registry.detach id }

def join (stores : Stores) (group : String) (id : ConnectionId) : Stores :=
  match stores.registry.get? id with
  | none => stores
  | some connection => { stores with groups := stores.groups.join group connection }

def leave (stores : Stores) (group : String) (id : ConnectionId) : Stores :=
  { stores with groups := stores.groups.leave group id }

def evict (stores : Stores) (group : String) (connection : Connection) : Stores :=
  { stores with groups := stores.groups.evict group connection }

def leaveAll (stores : Stores) (connection : Connection) : Stores :=
  { stores with groups := stores.groups.leaveAll connection }

def prune (stores : Stores) : Stores :=
  { stores with groups := stores.groups.prune }

def detachAll (stores : Stores) (test : Connection → Bool) : Stores :=
  { stores with registry := stores.registry.detachAll test }

def grant (stores : Stores) : Request → Stores
  | .register connection => stores.register connection
  | .unregister id => stores.unregister id
  | .leave group id => stores.leave group id
  | .join group id => stores.join group id

/-- Every connection stands under its own identifier, and every group under its own name. -/
structure Sound (stores : Stores) : Prop where
  registry : Keyed stores.registry
  named : ∀ name group, stores.groups.get? name = some group → group.name = name
  members : ∀ name, Keyed (stores.groups.group name).members

/-- The same connections are attached, and there are the same groups with the same members; only the
order in which the tables list them may differ. -/
structure Same (stores other : Stores) : Prop where
  attached : ∀ id, stores.registry.get? id = other.registry.get? id
  names : ∀ name, (stores.groups.get? name).map Group.name =
    (other.groups.get? name).map Group.name
  members : ∀ name id, stores.member name id = other.member name id

/-- Whoever is attached in the stores, or a member of a group there, is so in other stores. -/
structure Within (stores other : Stores) : Prop where
  attached : ∀ id connection, stores.registry.get? id = some connection →
    other.registry.get? id = some connection
  member : ∀ group id connection, stores.member group id = some connection →
    other.member group id = some connection

@[simp] theorem member_empty (group : String) (id : ConnectionId) :
    empty.member group id = none := rfl

theorem join_of_attached {stores : Stores} {id : ConnectionId} {connection : Connection}
    (h : stores.registry.get? id = some connection) (group : String) :
    stores.join group id = { stores with groups := stores.groups.join group connection } := by
  unfold join
  rw [h]

theorem join_of_not_attached {stores : Stores} {id : ConnectionId}
    (h : stores.registry.get? id = none) (group : String) : stores.join group id = stores := by
  unfold join
  rw [h]

@[simp] theorem registry_join (stores : Stores) (group : String) (id : ConnectionId) :
    (stores.join group id).registry = stores.registry := by
  unfold join
  split
  · rfl
  · rfl

theorem member_join {stores : Stores} {id : ConnectionId} {connection : Connection}
    (h : stores.registry.get? id = some connection) (group other : String) (key : ConnectionId) :
    (stores.join group id).member other key =
      if other = group ∧ key = connection.id then some connection
      else stores.member other key := by
  rw [join_of_attached h]
  unfold member
  rw [Directory.group_join]
  rcases eq_or_ne other group with rfl | hother
  · rw [if_pos rfl, Group.member_insert]
    simp
  · simp [hother]

theorem member_leave (stores : Stores) (group other : String) (id key : ConnectionId) :
    (stores.leave group id).member other key =
      if other = group ∧ key = id then none else stores.member other key := by
  unfold member leave
  rw [Directory.group_leave]
  rcases eq_or_ne other group with rfl | hother
  · rw [if_pos rfl, Group.member_remove]
    simp
  · simp [hother]

theorem member_evict {stores : Stores} (h : stores.Sound) (group other : String)
    (connection : Connection) (key : ConnectionId) :
    (stores.evict group connection).member other key =
      if other = group then (stores.member other key).filter fun member => member ≠ connection
      else stores.member other key := by
  unfold member evict
  rw [Directory.group_evict]
  rcases eq_or_ne other group with rfl | hother
  · rw [if_pos rfl, if_pos rfl, Group.member_removeSame_of_keyed (h.members other)]
  · simp [hother]

theorem member_leaveAll {stores : Stores} (h : stores.Sound) (group : String)
    (connection : Connection) (key : ConnectionId) :
    (stores.leaveAll connection).member group key =
      (stores.member group key).filter fun member => member ≠ connection := by
  unfold member leaveAll
  rw [Directory.group_leaveAll, Group.member_removeSame_of_keyed (h.members group)]

theorem member_of_member_leave {stores : Stores} {group other : String} {id key : ConnectionId}
    {connection : Connection}
    (hmember : (stores.leave group id).member other key = some connection) :
    stores.member other key = some connection := by
  rw [member_leave] at hmember
  split at hmember
  · exact absurd hmember (by simp)
  · exact hmember

theorem member_of_member_evict {stores : Stores} (h : stores.Sound) {group other : String}
    {evicted connection : Connection} {key : ConnectionId}
    (hmember : (stores.evict group evicted).member other key = some connection) :
    stores.member other key = some connection := by
  rw [member_evict h] at hmember
  split at hmember
  · exact (Option.filter_eq_some_iff.mp hmember).1
  · exact hmember

theorem member_prune (stores : Stores) (group : String) (key : ConnectionId) :
    stores.prune.member group key = stores.member group key :=
  Directory.member_prune _ _ _

namespace Within

theorem refl (stores : Stores) : stores.Within stores where
  attached _ _ hget := hget
  member _ _ _ hget := hget

theorem unregister (stores : Stores) (removed : ConnectionId) :
    (stores.unregister removed).Within stores where
  attached id connection hget := by
    change (stores.registry.detach removed).get? id = some connection at hget
    rw [Registry.get?_detach] at hget
    split at hget
    · exact absurd hget (by simp)
    · exact hget
  member _ _ _ hget := hget

theorem detachAll (stores : Stores) (test : Connection → Bool) :
    (stores.detachAll test).Within stores where
  attached id connection hget := by
    change (stores.registry.detachAll test).get? id = some connection at hget
    rw [Registry.get?_detachAll] at hget
    exact (Option.filter_eq_some_iff.mp hget).1
  member _ _ _ hget := hget

theorem leave (stores : Stores) (group : String) (id : ConnectionId) :
    (stores.leave group id).Within stores where
  attached _ _ hget := hget
  member _ _ _ := member_of_member_leave

theorem evict {stores : Stores} (h : stores.Sound) (group : String) (connection : Connection) :
    (stores.evict group connection).Within stores where
  attached _ _ hget := hget
  member _ _ _ := member_of_member_evict h

theorem leaveAll {stores : Stores} (h : stores.Sound) (connection : Connection) :
    (stores.leaveAll connection).Within stores where
  attached _ _ hget := hget
  member group key member hget := by
    rw [member_leaveAll h] at hget
    exact (Option.filter_eq_some_iff.mp hget).1

theorem prune (stores : Stores) : stores.prune.Within stores where
  attached _ _ hget := hget
  member group key member hget := by
    rw [member_prune] at hget
    exact hget

end Within

namespace Sound

variable {stores : Stores}

theorem empty : Stores.empty.Sound where
  registry := Keyed.empty
  named name group hget := absurd hget (by simp [Stores.empty])
  members name := Keyed.empty

theorem of_same {other : Stores} (h : stores.Sound) (same : other.Same stores) : other.Sound where
  registry id connection hget := h.registry id connection (same.attached id ▸ hget)
  named name group hget := by
    have hname := same.names name
    rw [hget] at hname
    obtain ⟨found, hfound, hsame⟩ := Option.map_eq_some_iff.mp hname.symm
    rw [← hsame]
    exact h.named name found hfound
  members name id connection hget :=
    h.members name id connection ((same.members name id).symm.trans hget)

theorem register (h : stores.Sound) (connection : Connection) :
    (stores.register connection).Sound where
  registry id attached hget := by
    change (stores.registry.attach connection).get? id = some attached at hget
    rw [Registry.get?_attach] at hget
    split at hget
    · rename_i hid
      rw [hid, Option.some.inj hget]
    · exact h.registry id attached hget
  named := h.named
  members := h.members

theorem unregister (h : stores.Sound) (removed : ConnectionId) :
    (stores.unregister removed).Sound where
  registry id attached hget := by
    change (stores.registry.detach removed).get? id = some attached at hget
    rw [Registry.get?_detach] at hget
    split at hget
    · exact absurd hget (by simp)
    · exact h.registry id attached hget
  named := h.named
  members := h.members

theorem detachAll (h : stores.Sound) (test : Connection → Bool) :
    (stores.detachAll test).Sound where
  registry id attached hget := by
    change (stores.registry.detachAll test).get? id = some attached at hget
    rw [Registry.get?_detachAll] at hget
    exact h.registry id attached (Option.filter_eq_some_iff.mp hget).1
  named := h.named
  members := h.members

theorem withJoined (h : stores.Sound) (group : String) (connection : Connection) :
    ({ stores with groups := stores.groups.join group connection } : Stores).Sound where
  registry := h.registry
  named name found hget := by
    change (stores.groups.join group connection).get? name = some found at hget
    rw [Directory.get?_join] at hget
    split at hget
    · rename_i hname
      subst hname
      rw [← Option.some.inj hget, Group.name_insert]
      unfold Directory.group
      cases hgroup : stores.groups.get? name with
      | none => rfl
      | some existing => exact h.named name existing hgroup
    · exact h.named name found hget
  members name := by
    change Keyed ((stores.groups.join group connection).group name).members
    rw [Directory.group_join]
    split
    · exact Group.keyed_insert (h.members group) connection
    · exact h.members name

theorem join (h : stores.Sound) (group : String) (id : ConnectionId) :
    (stores.join group id).Sound := by
  cases hget : stores.registry.get? id with
  | none =>
      rw [join_of_not_attached hget]
      exact h
  | some connection =>
      rw [join_of_attached hget]
      exact h.withJoined group connection

theorem withAltered (h : stores.Sound) {group : String} {change : Group → Group}
    (hnamed : ∀ found, (change found).name = found.name)
    (hempty : change (Group.named group) = Group.named group)
    (hkeyed : ∀ found, Keyed found.members → Keyed (change found).members) :
    ({ stores with groups := stores.groups.alter group change } : Stores).Sound where
  registry := h.registry
  named name found hget := by
    change (stores.groups.alter group change).get? name = some found at hget
    rw [Directory.get?_alter] at hget
    split at hget
    · obtain ⟨existing, hexisting, rfl⟩ := Option.map_eq_some_iff.mp hget
      rw [hnamed]
      exact h.named name existing hexisting
    · exact h.named name found hget
  members name := by
    change Keyed ((stores.groups.alter group change).group name).members
    rw [Directory.group_alter change hempty]
    split
    · exact hkeyed _ (h.members name)
    · exact h.members name

theorem leave (h : stores.Sound) (group : String) (id : ConnectionId) :
    (stores.leave group id).Sound :=
  h.withAltered (fun found => Group.name_remove found id) (Group.remove_eq_self rfl)
    (fun _ hkeyed => Group.keyed_remove hkeyed id)

theorem evict (h : stores.Sound) (group : String) (connection : Connection) :
    (stores.evict group connection).Sound :=
  h.withAltered (fun found => Group.name_removeSame found connection)
    (Group.removeSame_named group connection)
    (fun _ hkeyed => Group.keyed_removeSame hkeyed connection)

theorem leaveAll (h : stores.Sound) (connection : Connection) :
    (stores.leaveAll connection).Sound where
  registry := h.registry
  named name found hget := by
    change (stores.groups.leaveAll connection).get? name = some found at hget
    rw [Directory.get?_leaveAll] at hget
    obtain ⟨existing, hexisting, rfl⟩ := Option.map_eq_some_iff.mp hget
    rw [Group.name_removeSame]
    exact h.named name existing hexisting
  members name := by
    change Keyed ((stores.groups.leaveAll connection).group name).members
    rw [Directory.group_leaveAll]
    exact Group.keyed_removeSame (h.members name) connection

theorem prune (h : stores.Sound) : stores.prune.Sound where
  registry := h.registry
  named name found hget := by
    change stores.groups.prune.get? name = some found at hget
    rw [Directory.get?_prune] at hget
    exact h.named name found (Option.filter_eq_some_iff.mp hget).1
  members name id connection hget :=
    h.members name id connection (Directory.member_prune stores.groups name id ▸ hget)

theorem foldl {α : Type} {change : Stores → α → Stores}
    (hchange : ∀ stores a, stores.Sound → (change stores a).Sound) (h : stores.Sound)
    (items : List α) : (items.foldl change stores).Sound := by
  induction items generalizing stores with
  | nil => exact h
  | cons item rest ih => exact ih (hchange stores item h)

theorem grant (h : stores.Sound) (request : Request) : (stores.grant request).Sound := by
  cases request with
  | register connection => exact h.register connection
  | unregister id => exact h.unregister id
  | leave group id => exact h.leave group id
  | join group id => exact h.join group id

end Sound

theorem get?_evict_of_ne {group name : String} (h : name ≠ group) (stores : Stores)
    (connection : Connection) :
    (stores.evict group connection).groups.get? name = stores.groups.get? name := by
  change (stores.groups.evict group connection).get? name = _
  unfold Directory.evict
  rw [Directory.get?_alter, if_neg h]

theorem name_evict (stores : Stores) (group : String) (connection : Connection) (name : String) :
    ((stores.evict group connection).groups.get? name).map Group.name =
      (stores.groups.get? name).map Group.name := by
  change ((stores.groups.evict group connection).get? name).map Group.name = _
  unfold Directory.evict
  rw [Directory.get?_alter]
  split
  · rw [Option.map_map]
    congr 1
    funext found
    exact Group.name_removeSame found connection
  · rfl

theorem view_foldl {α γ : Type} (view : Stores → γ) {change : Stores → α → Stores}
    (h : ∀ stores a, view (change stores a) = view stores) (items : List α) (stores : Stores) :
    view (items.foldl change stores) = view stores := by
  induction items generalizing stores with
  | nil => rfl
  | cons item rest ih => rw [List.foldl_cons, ih, h]

theorem filter_not_mem_nil (member : Option Connection) :
    member.filter (fun found => found ∉ []) = member := by
  cases member with
  | none => rfl
  | some found => exact Option.filter_some_pos (by simp)

theorem filter_ne_filter_not_mem (member : Option Connection) (connection : Connection)
    (rest : List Connection) :
    (member.filter fun found => found ≠ connection).filter (fun found => found ∉ rest) =
      member.filter fun found => found ∉ connection :: rest := by
  rw [Option.filter_filter]
  congr 1
  funext found
  simp

theorem member_foldl_evict {stores : Stores} (h : stores.Sound) (group other : String)
    (gone : List Connection) (key : ConnectionId) :
    (gone.foldl (fun stores connection => stores.evict group connection) stores).member other key =
      if other = group then (stores.member other key).filter fun found => found ∉ gone
      else stores.member other key := by
  induction gone generalizing stores with
  | nil =>
      rw [filter_not_mem_nil, ite_self]
      rfl
  | cons connection rest ih =>
      rw [List.foldl_cons, ih (h.evict group connection), member_evict h]
      split
      · exact filter_ne_filter_not_mem _ connection rest
      · rfl

theorem member_foldl_leaveAll {stores : Stores} (h : stores.Sound) (group : String)
    (gone : List Connection) (key : ConnectionId) :
    (gone.foldl leaveAll stores).member group key =
      (stores.member group key).filter fun found => found ∉ gone := by
  induction gone generalizing stores with
  | nil => exact (filter_not_mem_nil (stores.member group key)).symm
  | cons connection rest ih =>
      rw [List.foldl_cons, ih (h.leaveAll connection), member_leaveAll h]
      exact filter_ne_filter_not_mem _ connection rest

end Stores

end Switchboard
