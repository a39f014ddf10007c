import Switchboard.Proofs.Share

/-!
Commands of independent clients in any order. What a client leaves behind is told by its own commands in
their order, and a group is there as soon as one client has created it, so how the commands of different
clients are interleaved does not matter.
-/

namespace Switchboard

namespace Share

/-- Whether a command creates a group, if it is not there: it adds a client that is attached. -/
def creates (share : Share) (name : String) : Command → Bool
  | .addToGroup group _ => group = name && share.attached.isSome
  | _ => false

def everCreates (cleanup : Cleanup) (name : String) : Share → List Command → Bool
  | _, [] => false
  | share, command :: rest =>
      share.creates name command || everCreates cleanup name (share.step cleanup command) rest

end Share

def Command.about (id : ConnectionId) (commands : List Command) : List Command :=
  commands.filter fun command => command.client = some id

theorem Command.about_cons {command : Command} {client : ConnectionId}
    (hclient : command.client = some client) (id : ConnectionId) (rest : List Command) :
    about id (command :: rest) = if id = client then command :: about id rest else about id rest := by
  unfold about
  rw [List.filter_cons, hclient]
  simp [eq_comm]

namespace Stores

variable {stores : Stores}

theorem Sound.name_eq (h : stores.Sound) (name : String) :
    (stores.groups.get? name).map Group.name =
      if stores.groups.contains name then some name else none := by
  unfold Table.contains
  cases hgroup : stores.groups.get? name with
  | none => rfl
  | some group => exact congrArg some (h.named name group hgroup)

theorem contains_join (stores : Stores) (group name : String) (id : ConnectionId) :
    (stores.join group id).groups.contains name =
      (stores.groups.contains name ||
        (decide (group = name) && (stores.registry.get? id).isSome)) := by
  cases hget : stores.registry.get? id with
  | none =>
      rw [join_of_not_attached hget]
      simp
  | some connection =>
      rw [join_of_attached hget]
      unfold Table.contains
      rw [Directory.get?_join]
      rcases eq_or_ne name group with rfl | hname
      · simp
      · simp [hname, Ne.symm hname]

theorem contains_leave (stores : Stores) (group name : String) (id : ConnectionId) :
    (stores.leave group id).groups.contains name = stores.groups.contains name := by
  unfold leave Directory.leave Table.contains
  rw [Directory.get?_alter]
  split
  · rw [Option.isSome_map]
  · rfl

theorem contains_leaveAll (stores : Stores) (connection : Connection) (name : String) :
    (stores.leaveAll connection).groups.contains name = stores.groups.contains name := by
  unfold leaveAll Table.contains
  rw [Directory.get?_leaveAll, Option.isSome_map]

theorem mem_memberIds_iff (stores : Stores) (group : String) (id : ConnectionId) :
    id ∈ stores.groups.memberIds group ↔ (stores.member group id).isSome = true :=
  Table.mem_keys_iff

theorem nodup_memberIds (stores : Stores) (group : String) :
    (stores.groups.memberIds group).Nodup :=
  (stores.groups.group group).members.nodup

theorem perm_memberIds {stores other : Stores} {group : String} {ids : List ConnectionId}
    (hnodup : ids.Nodup)
    (h : ∀ id, (other.member group id).isSome = true ↔
      (stores.member group id).isSome = true ∨ id ∈ ids) :
    (other.groups.memberIds group).Perm (stores.groups.memberIds group ++
      ids.filter fun id => id ∉ stores.groups.memberIds group) := by
  have hdisjoint : (stores.groups.memberIds group ++
      ids.filter fun id => id ∉ stores.groups.memberIds group).Nodup := by
    refine List.nodup_append.mpr ⟨stores.nodup_memberIds group, hnodup.filter _, ?_⟩
    rintro id hbefore _ hnew rfl
    exact of_decide_eq_true (List.mem_filter.mp hnew).2 hbefore
  rw [List.perm_ext_iff_of_nodup (other.nodup_memberIds group) hdisjoint]
  intro id
  simp only [List.mem_append, List.mem_filter, decide_eq_true_eq]
  rw [mem_memberIds_iff, h, ← mem_memberIds_iff]
  by_cases hmember : id ∈ stores.groups.memberIds group
  · simp only [hmember, true_or]
  · simp only [hmember, false_or, not_false_eq_true, and_true]

end Stores

section

variable {σ : Type} (network : Network σ) (cleanup : Cleanup) {world : World σ}

theorem contains_disconnect (world : World σ) (connection : Connection) (name : String) :
    (world.disconnect cleanup connection).stores.groups.contains name =
      world.stores.groups.contains name := by
  rw [World.stores_disconnect]
  split
  · exact Stores.contains_leaveAll (world.stores.unregister connection.id) connection name
  · rfl

/-- A command about a client leaves every group there, and may create one. -/
theorem contains_client {command : Command} {client : ConnectionId}
    (hclient : command.client = some client) (name : String) :
    (world.perform network cleanup command.operation).2.stores.groups.contains name =
      (world.stores.groups.contains name || (world.stores.share client).creates name command) := by
  cases command with
  | connect connection => exact (Bool.or_false _).symm
  | disconnect connection =>
      exact (contains_disconnect cleanup world connection name).trans (Bool.or_false _).symm
  | addToGroup group id =>
      cases hclient
      change (world.join group client).2.stores.groups.contains name = _
      rw [World.stores_join]
      exact world.stores.contains_join group name client
  | removeFromGroup group id =>
      change (world.leave group id).2.stores.groups.contains name = _
      rw [World.stores_leave, Stores.contains_leave]
      exact (Bool.or_false _).symm
  | invoke audience invocation => cases hclient
  | pruneGroups => cases hclient
  | sweep => cases hclient

/-- After commands about clients the share of each is what its own commands have made of it. -/
theorem share_run (h : world.stores.Sound) {commands : List Command}
    (hclients : ∀ command ∈ commands, command.client.isSome = true) (id : ConnectionId) :
    (world.run network cleanup (commands.map Command.operation)).2.stores.share id =
      (Command.about id commands).foldl (Share.step cleanup) (world.stores.share id) := by
  induction commands generalizing world with
  | nil => rfl
  | cons command rest ih =>
      obtain ⟨client, hclient⟩ := Option.isSome_iff_exists.mp (hclients command List.mem_cons_self)
      have hsound := World.sound_perform network cleanup h command.operation
      have hrest := ih hsound fun later hmem => hclients later (List.mem_cons_of_mem _ hmem)
      change (World.run network cleanup (world.perform network cleanup command.operation).2
        (rest.map Command.operation)).2.stores.share id = _
      rw [hrest, share_client network cleanup h hclient, Command.about_cons hclient]
      split
      · rfl
      · rfl

/-- After commands about clients a group is there if it was there before or some client has created it. -/
theorem contains_run (h : world.stores.Sound) {commands : List Command}
    (hclients : ∀ command ∈ commands, command.client.isSome = true) (name : String) :
    (world.run network cleanup (commands.map Command.operation)).2.stores.groups.contains name =
        true ↔
      world.stores.groups.contains name = true ∨
        ∃ id, (world.stores.share id).everCreates cleanup name (Command.about id commands) =
          true := by
  induction commands generalizing world with
  | nil => exact (or_iff_left fun ⟨id, hnone⟩ => Bool.false_ne_true hnone).symm
  | cons command rest ih =>
      obtain ⟨client, hclient⟩ := Option.isSome_iff_exists.mp (hclients command List.mem_cons_self)
      have hsound := World.sound_perform network cleanup h command.operation
      have hrest := ih hsound fun later hmem => hclients later (List.mem_cons_of_mem _ hmem)
      -- The first command can create the group for its own client only, and the shares of all others are
      -- the same after it, so for them the rest of the commands starts from where it did.
      have hsplit : ∀ id, (world.stores.share id).everCreates cleanup name
            (Command.about id (command :: rest)) = true ↔
          id = client ∧ (world.stores.share client).creates name command = true ∨
            ((world.perform network cleanup command.operation).2.stores.share id).everCreates cleanup
              name (Command.about id rest) = true := by
        intro id
        rw [share_client network cleanup h hclient, Command.about_cons hclient]
        rcases eq_or_ne id client with rfl | hid
        · simp [Share.everCreates]
        · simp [hid]
      change (World.run network cleanup (world.perform network cleanup command.operation).2
        (rest.map Command.operation)).2.stores.groups.contains name = true ↔ _
      rw [hrest, contains_client network cleanup hclient, Bool.or_eq_true, or_assoc]
      simp only [hsplit, exists_or, exists_eq_left]

theorem about_joins (group : String) {ids : List ConnectionId} (hnodup : ids.Nodup)
    (id : ConnectionId) :
    Command.about id (ids.map (Command.addToGroup group)) =
      if id ∈ ids then [.addToGroup group id] else [] := by
  have hfilter : Command.about id (ids.map (Command.addToGroup group)) =
      (ids.filter fun other => some other = some id).map (Command.addToGroup group) :=
    List.filter_map
  simp only [Option.some.injEq] at hfilter
  rw [hfilter, List.filter_eq, hnodup.count]
  split
  · rfl
  · rfl

theorem share_run_joins (h : world.stores.Sound) (group : String) {ids : List ConnectionId}
    (hnodup : ids.Nodup) (id : ConnectionId) :
    let joins : List Command := ids.map (.addToGroup group)
    (world.run network cleanup (joins.map Command.operation)).2.stores.share id =
      if id ∈ ids then (world.stores.share id).join group else world.stores.share id := by
  intro joins
  rw [share_run network cleanup h (by simp [joins, Command.client]), about_joins group hnodup]
  split
  · rfl
  · rfl

theorem contains_run_joins (world : World σ) (group : String) (ids : List ConnectionId)
    {other : String} (hother : other ≠ group) :
    let joins : List Command := ids.map (.addToGroup group)
    (world.run network cleanup (joins.map Command.operation)).2.stores.groups.contains other =
      world.stores.groups.contains other := by
  induction ids generalizing world with
  | nil => rfl
  | cons id rest ih =>
      have hclient : (Command.addToGroup group id).client = some id := rfl
      refine (ih _).trans ((contains_client network cleanup hclient other).trans ?_)
      simp [Share.creates, Ne.symm hother]

theorem same_of_about_eq (h : Reachable network cleanup world) {commands others : List Command}
    (hclients : ∀ command ∈ commands, command.client.isSome = true)
    (hothers : ∀ command ∈ others, command.client.isSome = true)
    (habout : ∀ id, Command.about id commands = Command.about id others) :
    (world.run network cleanup (commands.map Command.operation)).2.stores.Same
      (world.run network cleanup (others.map Command.operation)).2.stores := by
  have hshare : ∀ id,
      (world.run network cleanup (commands.map Command.operation)).2.stores.share id =
        (world.run network cleanup (others.map Command.operation)).2.stores.share id := by
    intro id
    rw [share_run network cleanup h.sound hclients, share_run network cleanup h.sound hothers, habout]
  have hcontains : ∀ name,
      (world.run network cleanup (commands.map Command.operation)).2.stores.groups.contains name =
        (world.run network cleanup (others.map Command.operation)).2.stores.groups.contains name := by
    intro name
    rw [Bool.eq_iff_iff, contains_run network cleanup h.sound hclients,
      contains_run network cleanup h.sound hothers]
    simp only [habout]
  constructor
  · intro id
    exact congrArg Share.attached (hshare id)
  · intro name
    rw [(h.run _).sound.name_eq, (h.run _).sound.name_eq, hcontains]
  · intro name id
    exact congrFun (congrArg Share.member (hshare id)) name

/-- However the commands of different clients are interleaved, as long as each client's own commands keep
their order, the same connections end up attached, and the same groups are there with the same members.
So when clients that are attached are added to a group in any order, each becomes a member as what it is
attached as; the group gains those that were not in it, and nothing else changes. -/
theorem interleavings_agree (h : Reachable network cleanup world) :
    (∀ commands others : List Command,
      (∀ command ∈ commands, command.client.isSome = true) →
      (∀ command ∈ others, command.client.isSome = true) →
      (∀ id, Command.about id commands = Command.about id others) →
      (world.run network cleanup (commands.map Command.operation)).2.stores.Same
        (world.run network cleanup (others.map Command.operation)).2.stores) ∧
      ∀ (group : String) (ids : List ConnectionId), ids.Nodup →
        (∀ id ∈ ids, world.stores.registry.contains id = true) →
        let joins : List Command := ids.map (.addToGroup group)
        let joined := (world.run network cleanup (joins.map Command.operation)).2
        (∀ id, joined.stores.registry.get? id = world.stores.registry.get? id) ∧
          (∀ id, joined.stores.member group id =
            if id ∈ ids then world.stores.registry.get? id else world.stores.member group id) ∧
          (joined.stores.groups.memberIds group).Perm
            (world.stores.groups.memberIds group ++
              ids.filter fun id => id ∉ world.stores.groups.memberIds group) ∧
          ∀ other, other ≠ group →
            joined.stores.groups.contains other = world.stores.groups.contains other ∧
              ∀ id, joined.stores.member other id = world.stores.member other id := by
  refine ⟨fun commands others hclients hothers habout =>
    same_of_about_eq network cleanup h hclients hothers habout, ?_⟩
  intro group ids hnodup hattached joins joined
  have hshare : ∀ id, joined.stores.share id =
      if id ∈ ids then (world.stores.share id).join group else world.stores.share id :=
    share_run_joins network cleanup h.sound group hnodup
  have hmember : ∀ id, joined.stores.member group id =
      if id ∈ ids then world.stores.registry.get? id else world.stores.member group id := by
    intro id
    have hplace := congrFun (congrArg Share.member (hshare id)) group
    refine hplace.trans ?_
    split
    · rename_i hid
      obtain ⟨connection, hget⟩ := Option.isSome_iff_exists.mp (hattached id hid)
      change (if group = group then (world.stores.registry.get? id).or _ else _) = _
      rw [if_pos rfl, hget, Option.some_or]
    · rfl
  refine ⟨?_, hmember, ?_, ?_⟩
  · intro id
    have hregistry := congrArg Share.attached (hshare id)
    refine hregistry.trans ?_
    split
    · rfl
    · rfl
  · apply Stores.perm_memberIds hnodup
    intro id
    rw [hmember]
    split
    · rename_i hid
      exact iff_of_true (hattached id hid) (.inr hid)
    · rename_i hid
      exact (or_iff_left hid).symm
  · intro other hother
    refine ⟨contains_run_joins network cleanup world group ids hother, ?_⟩
    intro id
    have hplace := congrFun (congrArg Share.member (hshare id)) other
    refine hplace.trans ?_
    split
    · exact if_neg hother
    · rfl

/-- A client is back as another connection before its old one is found to be gone, so that it is detached
and misses a hall; a guest goes to the hall and leaves. In another order of the two the same is left: an
empty hall, and the client attached. The guest, added to the room with the client, is new there. -/
theorem interleavings_agree_returning_client :
    let old : Connection := ⟨0, ⟨"client"⟩⟩
    let new : Connection := ⟨1, ⟨"client"⟩⟩
    let guest : Connection := ⟨2, ⟨"guest"⟩⟩
    let arrivals : List Command := [.connect old, .addToGroup "room" old.id, .connect guest]
    let world := ((World.fresh Peers.empty).run Peers.network .onDisconnect
      (arrivals.map Command.operation)).2
    let inTurn : List Command := [.connect new, .disconnect old, .addToGroup "hall" new.id,
      .connect new, .addToGroup "hall" guest.id, .removeFromGroup "hall" guest.id]
    let mixed : List Command := [.addToGroup "hall" guest.id, .connect new, .disconnect old,
      .removeFromGroup "hall" guest.id, .addToGroup "hall" new.id, .connect new]
    let after := (world.run Peers.network .onDisconnect (inTurn.map Command.operation)).2
    let other := (world.run Peers.network .onDisconnect (mixed.map Command.operation)).2
    let joins : List Command := [guest.id, old.id].map (.addToGroup "room")
    let joined := (world.run Peers.network .onDisconnect (joins.map Command.operation)).2
    Reachable Peers.network .onDisconnect world ∧ after.stores.Same other.stores ∧
      after.stores.groups.keys = ["room", "hall"] ∧ other.stores.groups.keys = ["room", "hall"] ∧
      other.stores.registry.get? new.id = some new ∧ other.stores.groups.membersOf "hall" = [] ∧
      (joined.stores.groups.memberIds "room").Perm [old.id, guest.id] ∧
      joined.stores.member "room" guest.id = some guest := by
  intro old new guest arrivals world inTurn mixed after other joins joined
  have hreach : Reachable Peers.network .onDisconnect world := (Reachable.fresh Peers.empty).run _
  obtain ⟨hsame, hjoined⟩ := interleavings_agree Peers.network .onDisconnect hreach
  have habout : ∀ id, Command.about id inTurn = Command.about id mixed := by
    intro id
    simp only [Command.about, inTurn, mixed, List.filter_cons, Command.client, Option.some.injEq]
    by_cases hclient : id = ⟨"client"⟩
    · subst hclient
      rfl
    · by_cases hguest : id = ⟨"guest"⟩
      · subst hguest
        rfl
      · simp [new, old, guest, Ne.symm hclient, Ne.symm hguest]
  have hjoins := hjoined "room" [guest.id, old.id] (by decide) (by decide)
  exact ⟨hreach, hsame inTurn mixed (by decide) (by decide) habout, by decide, by decide, by decide,
    by decide, hjoins.2.2.1, (hjoins.2.1 guest.id).trans (by decide)⟩

end

end Switchboard
