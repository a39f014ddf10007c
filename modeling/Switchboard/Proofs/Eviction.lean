import Switchboard.Peer
import Switchboard.Proofs.Reachable

namespace Switchboard

namespace Group

theorem holds_removeSame (group : Group) (connection : Connection) :
    (group.removeSame connection).holds connection = false := by
  rw [Bool.eq_false_iff, ne_eq, holds_iff, member_removeSame]
  intro hmember
  split at hmember
  · exact absurd hmember (by simp)
  · rename_i hother
    exact hother ⟨rfl, hmember⟩

theorem removeSame_removeSame (group : Group) (connection : Connection) :
    (group.removeSame connection).removeSame connection = group.removeSame connection :=
  removeSame_eq_self (group.holds_removeSame connection)

end Group

namespace Directory

variable (directory : Directory) (connection : Connection)

theorem countHolding_eq_countP_keys :
    directory.countHolding connection =
      directory.keys.countP fun name => (directory.group name).holds connection := by
  unfold countHolding Table.values Table.keys
  rw [List.countP_map, List.countP_map]
  apply List.countP_congr
  rintro ⟨name, group⟩ hentry
  change group.holds connection = true ↔ (directory.group name).holds connection = true
  rw [group_eq (Table.get?_eq_some_iff.mpr hentry)]

theorem countHolding_leaveAll : (directory.leaveAll connection).countHolding connection = 0 := by
  rw [countHolding_eq_countP_keys, List.countP_eq_zero]
  intro name _
  rw [group_leaveAll, Group.holds_removeSame]
  exact Bool.false_ne_true

/-- What evictions leave of a group depends on whether it is among those that are gone through, and not on
when that is or how often. -/
theorem foldl_evict (names : List String) :
    names.foldl (fun directory name => directory.evict name connection) directory =
      directory.mapEntries fun name group =>
        if name ∈ names then group.removeSame connection else group := by
  induction names generalizing directory with
  | nil => exact (Table.mapEntries_eq_self fun _ _ _ => if_neg List.not_mem_nil).symm
  | cons name rest ih =>
      rw [List.foldl_cons, ih]
      unfold evict alter
      rw [Table.mapEntries_mapEntries]
      apply Table.mapEntries_congr
      intro other group _
      rcases eq_or_ne other name with rfl | hother
      · rw [if_pos rfl, if_pos List.mem_cons_self, Group.removeSame_removeSame, ite_self]
      · simp [hother]

variable {directory} in
theorem foldl_evict_eq_leaveAll {names : List String} (h : directory.keys ⊆ names) :
    names.foldl (fun directory name => directory.evict name connection) directory =
      directory.leaveAll connection := by
  rw [foldl_evict]
  apply Table.mapEntries_congr
  intro name group hentry
  exact if_pos (h (List.mem_map.mpr ⟨(name, group), hentry, rfl⟩))

end Directory

namespace Stores

theorem holds_group (stores : Stores) (name : String) (connection : Connection) :
    (stores.groups.group name).holds connection =
      decide (stores.member name connection.id = some connection) := by
  rw [Bool.eq_iff_iff, Group.holds_iff, decide_eq_true_eq]
  rfl

theorem member_evict_of_ne {group name : String} (h : name ≠ group) (stores : Stores)
    (connection : Connection) (id : ConnectionId) :
    (stores.evict group connection).member name id = stores.member name id := by
  unfold member evict
  rw [Directory.group_evict, if_neg h]

theorem keys_leaveAll (stores : Stores) (connection : Connection) :
    (stores.leaveAll connection).groups.keys = stores.groups.keys :=
  Table.keys_mapEntries _ _

theorem foldl_evict_eq_leaveAll {stores : Stores} {names : List String}
    (h : stores.groups.keys ⊆ names) (connection : Connection) :
    names.foldl (fun stores name => stores.evict name connection) stores =
      stores.leaveAll connection := by
  have hgroups : names.foldl (fun stores name => stores.evict name connection) stores =
      { stores with
        groups := names.foldl (fun groups name => groups.evict name connection) stores.groups } :=
    List.foldl_hom (fun groups => { stores with groups }) fun _ _ => rfl
  rw [hgroups, Directory.foldl_evict_eq_leaveAll connection h]
  rfl

end Stores

theorem Reply.count_flag_true {α : Type} (test : α → Bool) (items : List α) :
    (items.map fun item => Reply.flag (test item)).count (.flag true) = items.countP test := by
  rw [List.count_eq_countP, List.countP_map]
  apply List.countP_congr
  intro item _
  change (Reply.flag (test item) == .flag true) = true ↔ test item = true
  rw [beq_iff_eq, Reply.flag.injEq]

namespace World

variable {σ : Type} (connection : Connection)

theorem evict_fst (world : World σ) (group : String) :
    (world.evict group connection).1 =
      decide (world.stores.member group connection.id = some connection) := by
  rw [← Stores.holds_group]
  unfold evict
  simp only
  split
  · rename_i hholds
    exact hholds.symm
  · rename_i hnot
    exact (Bool.eq_false_iff.mpr hnot).symm

theorem leaveAll_fst (world : World σ) :
    (world.leaveAll connection).1 =
      world.stores.groups.keys.countP fun name =>
        world.stores.member name connection.id = some connection := by
  simp only [← Stores.holds_group]
  rw [← Directory.countHolding_eq_countP_keys]
  unfold leaveAll
  simp only
  split
  · rfl
  · rename_i hnone
    exact (Nat.eq_zero_of_not_pos hnone).symm

theorem leaveAll_of_countHolding_eq_zero {world : World σ}
    (h : world.stores.groups.countHolding connection = 0) :
    world.leaveAll connection = (0, world) := by
  unfold leaveAll
  simp [h]

theorem leaveAll_leaveAll (world : World σ) :
    (world.leaveAll connection).2.leaveAll connection = (0, (world.leaveAll connection).2) := by
  apply leaveAll_of_countHolding_eq_zero
  rw [stores_leaveAll]
  exact world.stores.groups.countHolding_leaveAll connection

section Run

variable (network : Network σ) (cleanup : Cleanup)

theorem run_evictions_snd (names : List String) (world : World σ) :
    (world.run network cleanup (names.map fun name => .evict name connection)).2 =
      names.foldl (fun world name => (world.evict name connection).2) world := by
  induction names generalizing world with
  | nil => rfl
  | cons name rest ih => exact ih (world.evict name connection).2

theorem run_evictions_fst {names : List String} (hnodup : names.Nodup) (world : World σ) :
    (world.run network cleanup (names.map fun name => .evict name connection)).1 =
      names.map fun name =>
        .flag (world.stores.member name connection.id = some connection) := by
  induction names generalizing world with
  | nil => rfl
  | cons name rest ih =>
      obtain ⟨hnew, hrest⟩ := List.nodup_cons.mp hnodup
      have hlater : ∀ other ∈ rest, (world.evict name connection).2.stores.member other
          connection.id = world.stores.member other connection.id := by
        intro other hother
        rw [stores_evict, Stores.member_evict_of_ne (ne_of_mem_of_not_mem hother hnew)]
      refine List.cons_eq_cons.mpr ⟨congrArg Reply.flag (evict_fst connection world name), ?_⟩
      refine (ih hrest (world.evict name connection).2).trans ?_
      apply List.map_congr_left
      intro other hother
      rw [hlater other hother]

theorem state_run_evictions {names : List String} {world : World σ}
    (h : world.stores.groups.keys ⊆ names) :
    (world.run network cleanup (names.map fun name => .evict name connection)).2.state =
      (world.leaveAll connection).2.state := by
  rw [run_evictions_snd, state_leaveAll, ← Stores.foldl_evict_eq_leaveAll h]
  exact state_foldl (fun world name => world.state_evict name connection) names world

end Run

end World

section

variable {σ : Type} (network : Network σ) (cleanup : Cleanup) {world : World σ}

/-- When a connection leaves all groups, as many are counted as hold that very connection, and the same is
left as when it is evicted from each group once, in any order; as many of these evictions find it. Every
group stays, with all its other members, also with another connection of the same identifier. When the
connection leaves all groups once more, none is counted and nothing changes. -/
theorem leaving_all_evicts_from_each (h : Reachable network cleanup world) (connection : Connection)
    {names : List String} (hnames : names.Perm world.stores.groups.keys) :
    let left := world.perform network cleanup (.leaveAll connection)
    let evicted := world.run network cleanup (names.map fun name => .evict name connection)
    left.1 = .count (world.stores.groups.keys.countP fun name =>
        world.stores.member name connection.id = some connection) ∧
      evicted.1 = names.map (fun name =>
        .flag (world.stores.member name connection.id = some connection)) ∧
      left.1 = .count (evicted.1.count (.flag true)) ∧
      evicted.2.stores = left.2.stores ∧ evicted.2.peers = left.2.peers ∧
      left.2.stores.registry = world.stores.registry ∧ left.2.peers = world.peers ∧
      left.2.stores.groups.keys = world.stores.groups.keys ∧
      (∀ group id member, left.2.stores.member group id = some member ↔
        world.stores.member group id = some member ∧ member ≠ connection) ∧
      left.2.perform network cleanup (.leaveAll connection) = (.count 0, left.2) := by
  intro left evicted
  have hcount : left.1 = .count (world.stores.groups.keys.countP fun name =>
      world.stores.member name connection.id = some connection) :=
    congrArg Reply.count (World.leaveAll_fst connection world)
  have hreplies : evicted.1 = names.map (fun name =>
      .flag (world.stores.member name connection.id = some connection)) :=
    World.run_evictions_fst connection network cleanup
      (hnames.nodup_iff.mpr world.stores.groups.nodup) world
  have hstate : evicted.2.state = left.2.state :=
    World.state_run_evictions connection network cleanup hnames.symm.subset
  have hleft : left.2.state = (world.stores.leaveAll connection, world.peers) :=
    World.state_leaveAll world connection
  have hstores : left.2.stores = world.stores.leaveAll connection := congrArg Prod.fst hleft
  refine ⟨hcount, hreplies, ?_, congrArg Prod.fst hstate, congrArg Prod.snd hstate, ?_,
    congrArg Prod.snd hleft, ?_, ?_, ?_⟩
  · rw [hcount, hreplies, Reply.count_flag_true, hnames.countP_eq]
  · rw [hstores]
    rfl
  · rw [hstores]
    exact world.stores.keys_leaveAll connection
  · intro group id member
    rw [hstores, Stores.member_leaveAll h.sound, Option.filter_eq_some_iff, decide_eq_true_eq]
  · exact congrArg (Reply.of Reply.count) (World.leaveAll_leaveAll connection world)

/-- A client is back in a hall, where it has taken the place of its old connection; a guest is in a room
with the old one, and a cellar is empty. The old connection leaves the room and the porch, whatever order
the four groups are gone through in, and nobody else leaves any. -/
theorem leaving_all_evicts_replaced_client :
    let old : Connection := ⟨0, ⟨"client"⟩⟩
    let new : Connection := ⟨1, ⟨"client"⟩⟩
    let guest : Connection := ⟨2, ⟨"guest"⟩⟩
    let arrivals : List Operation :=
      [.connect old, .addToGroup "room" old.id, .addToGroup "hall" old.id,
        .addToGroup "porch" old.id, .connect guest, .addToGroup "room" guest.id,
        .addToGroup "cellar" guest.id, .removeFromGroup "cellar" guest.id, .connect new,
        .addToGroup "hall" new.id]
    let world := ((World.fresh Peers.empty).run Peers.network .retain arrivals).2
    let names := ["cellar", "porch", "hall", "room"]
    let left := world.perform Peers.network .retain (.leaveAll old)
    let evicted := world.run Peers.network .retain (names.map fun name => .evict name old)
    Reachable Peers.network .retain world ∧ names.Perm world.stores.groups.keys ∧
      world.stores.groups.keys = ["room", "hall", "porch", "cellar"] ∧
      left.1 = .count 2 ∧ evicted.1 = [.flag false, .flag true, .flag false, .flag true] ∧
      evicted.2.stores = left.2.stores ∧
      left.2.stores.groups.keys = ["room", "hall", "porch", "cellar"] ∧
      left.2.stores.member "hall" old.id = some new ∧
      left.2.stores.groups.membersOf "room" = [guest] ∧
      left.2.perform Peers.network .retain (.leaveAll old) = (.count 0, left.2) := by
  intro old new guest arrivals world names left evicted
  have hreach : Reachable Peers.network .retain world := (Reachable.fresh Peers.empty).run arrivals
  have hkeys : world.stores.groups.keys = ["room", "hall", "porch", "cellar"] := by decide
  have hnames : names.Perm world.stores.groups.keys := by
    rw [hkeys]
    decide
  obtain ⟨hcount, hreplies, -, hstores, -, -, -, -, hmembers, hagain⟩ :=
    leaving_all_evicts_from_each Peers.network .retain hreach old hnames
  have hnew : left.2.stores.member "hall" old.id = some new :=
    (hmembers "hall" old.id new).mpr (by decide)
  exact ⟨hreach, hnames, hkeys, hcount.trans (by decide), hreplies.trans (by decide), hstores,
    by decide, hnew, by decide, hagain⟩

end

end Switchboard
