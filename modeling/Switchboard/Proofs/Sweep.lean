import Switchboard.Proofs.Interleaving

namespace Switchboard

namespace Share

variable {share : Share} {closed : Connection → Bool} {connection : Connection} (cleanup : Cleanup)

theorem sweep_eq_disconnect (hattached : share.attached = some connection)
    (hclosed : closed connection = true) :
    share.sweep cleanup closed = share.disconnect cleanup connection := by
  have hshed : share.shed closed = share.detach := by
    refine Share.ext ?_ rfl
    change share.attached.filter _ = none
    rw [hattached, Option.filter_some_neg (by simp [hclosed])]
  unfold sweep disconnect
  rw [hshed]
  split
  · refine release_congr fun group member _ => ?_
    rw [decide_eq_decide, hattached]
    constructor
    · rintro ⟨hsame, -⟩
      exact (Option.some.inj hsame).symm
    · rintro rfl
      exact ⟨rfl, hclosed⟩
  · rfl

theorem sweep_eq_self (h : ∀ connection, share.attached = some connection →
    closed connection = false) : share.sweep cleanup closed = share := by
  have hshed : share.shed closed = share := by
    refine Share.ext (filter_eq_self_of_some fun connection hattached => ?_) rfl
    rw [h connection hattached]
    rfl
  unfold sweep
  rw [hshed]
  split
  · refine Share.ext rfl (funext fun group => filter_eq_self_of_some fun member _ => ?_)
    rw [Bool.not_eq_true', decide_eq_false_iff_not]
    rintro ⟨hattached, hclosed⟩
    rw [h member hattached] at hclosed
    exact Bool.false_ne_true hclosed
  · rfl

end Share

section

variable {σ : Type} (network : Network σ) (cleanup : Cleanup) {world : World σ}

theorem contains_sweep (world : World σ) (name : String) :
    (world.sweep network cleanup).2.stores.groups.contains name =
      world.stores.groups.contains name := by
  rw [World.stores_sweep]
  split
  · exact Stores.view_foldl (fun stores => stores.groups.contains name)
      (fun stores connection => stores.contains_leaveAll connection name) _ _
  · rfl

theorem World.sweep_of_none_closed (h : world.closedAttached network = []) :
    world.sweep network cleanup = (0, world) := by
  have hremoved : world.removeClosed network = ([], world) := by
    unfold removeClosed
    simp only [Registry.detachEach_idsOf]
    unfold closedAttached at h
    rw [h]
    rfl
  unfold sweep
  simp [hremoved]

theorem World.sweep_fst (world : World σ) :
    (world.sweep network cleanup).1 = (world.closedAttached network).length := by
  unfold sweep
  simp only [removeClosed_fst]

theorem closedAttached_sweep (h : world.stores.Sound) :
    (world.sweep network cleanup).2.closedAttached network = [] := by
  have hpeers : (world.sweep network cleanup).2.peers = world.peers :=
    congrArg Prod.snd (World.state_sweep network cleanup world)
  rw [List.eq_nil_iff_forall_not_mem]
  intro connection hmem
  rw [mem_closedAttached_iff (World.sound_sweep network cleanup h), get?_sweep,
    Option.filter_eq_some_iff, hpeers] at hmem
  obtain ⟨⟨-, hopen⟩, hclosed⟩ := hmem
  rw [hclosed] at hopen
  exact Bool.false_ne_true hopen

theorem contains_run_disconnects (world : World σ) (gone : List Connection) (name : String) :
    (world.run network cleanup (gone.map .disconnect)).2.stores.groups.contains name =
      world.stores.groups.contains name := by
  induction gone generalizing world with
  | nil => rfl
  | cons connection rest ih =>
      exact (ih (world.disconnect cleanup connection)).trans
        (contains_disconnect cleanup world connection name)

theorem peers_run_disconnects (world : World σ) (gone : List Connection) :
    (world.run network cleanup (gone.map .disconnect)).2.peers = world.peers := by
  induction gone generalizing world with
  | nil => rfl
  | cons connection rest ih =>
      exact (ih (world.disconnect cleanup connection)).trans
        (congrArg Prod.snd (World.state_disconnect cleanup world connection))

variable (gone : List Connection)

theorem about_disconnects (id : ConnectionId) :
    Command.about id (gone.map Command.disconnect) =
      (gone.filter fun connection => connection.id = id).map Command.disconnect := by
  have hfilter : Command.about id (gone.map Command.disconnect) =
      (gone.filter fun connection => some connection.id = some id).map Command.disconnect :=
    List.filter_map
  simp only [Option.some.injEq] at hfilter
  exact hfilter

variable {gone}

/-- Among the connections that are attached and closed, an identifier has at most one. -/
theorem filter_id_gone (h : world.stores.Sound) (hnodup : gone.Nodup)
    (hgone : ∀ connection, connection ∈ gone ↔
      world.stores.registry.get? connection.id = some connection ∧
        network.isClosed connection world.peers = true) (id : ConnectionId) :
    gone.filter (fun connection => connection.id = id) =
      ((world.stores.registry.get? id).filter fun connection =>
        network.isClosed connection world.peers).toList := by
  cases hget : world.stores.registry.get? id with
  | none =>
      rw [Option.filter_none, Option.toList_none, List.filter_eq_nil_iff]
      intro connection hmem hid
      rw [hgone, of_decide_eq_true hid, hget] at hmem
      exact absurd hmem.1 (by simp)
  | some attached =>
      have hid : attached.id = id := h.registry id attached hget
      have honly : gone.filter (fun connection => connection.id = id) =
          gone.filter fun connection => connection = attached := by
        apply List.filter_congr
        intro connection hmem
        rw [decide_eq_decide]
        constructor
        · intro hsame
          rw [hgone, hsame, hget] at hmem
          exact (Option.some.inj hmem.1).symm
        · rintro rfl
          exact hid
      have hmem : attached ∈ gone ↔ network.isClosed attached world.peers = true := by
        rw [hgone, hid]
        exact and_iff_right hget
      rw [honly, List.filter_eq, hnodup.count]
      by_cases hclosed : network.isClosed attached world.peers = true
      · rw [if_pos (hmem.mpr hclosed), Option.filter_some, if_pos hclosed]
        rfl
      · rw [if_neg (hmem.not.mpr hclosed), Option.filter_some, if_neg hclosed]
        rfl

theorem share_run_disconnects (h : world.stores.Sound) (hnodup : gone.Nodup)
    (hgone : ∀ connection, connection ∈ gone ↔
      world.stores.registry.get? connection.id = some connection ∧
        network.isClosed connection world.peers = true) (id : ConnectionId) :
    (world.run network cleanup (gone.map .disconnect)).2.stores.share id =
      (world.sweep network cleanup).2.stores.share id := by
  have hrun : (world.run network cleanup (gone.map .disconnect)).2.stores.share id =
      (Command.about id (gone.map Command.disconnect)).foldl (Share.step cleanup)
        (world.stores.share id) := by
    rw [← share_run network cleanup h (by simp [Command.client]), List.map_map]
    rfl
  rw [hrun, about_disconnects, filter_id_gone network h hnodup hgone,
    share_sweep network cleanup h]
  cases hfound : (world.stores.registry.get? id).filter fun connection =>
      network.isClosed connection world.peers with
  | none =>
      refine (Share.sweep_eq_self cleanup fun connection hattached => ?_).symm
      rw [Option.filter_eq_none_iff] at hfound
      simpa using hfound connection hattached
  | some connection =>
      obtain ⟨hattached, hclosed⟩ := Option.filter_eq_some_iff.mp hfound
      exact (Share.sweep_eq_disconnect cleanup hattached hclosed).symm

/-- A sweep leaves what is left when each attached connection that is closed is found to be gone, one
after another in any order, and counts them. After it those that are open are attached as they were, and
no others are; memberships are lost only by those that were swept; and a second sweep finds nothing. -/
theorem sweep_disconnects_closed (h : Reachable network cleanup world) (hnodup : gone.Nodup)
    (hgone : ∀ connection, connection ∈ gone ↔
      world.stores.registry.get? connection.id = some connection ∧
        network.isClosed connection world.peers = true) :
    let swept := world.perform network cleanup .sweep
    let disconnected := (world.run network cleanup (gone.map .disconnect)).2
    swept.1 = .count gone.length ∧
      swept.2.stores.Same disconnected.stores ∧
      swept.2.peers = world.peers ∧ disconnected.peers = world.peers ∧
      (∀ id connection, swept.2.stores.registry.get? id = some connection ↔
        world.stores.registry.get? id = some connection ∧
          network.isClosed connection world.peers = false) ∧
      (∀ group id member, member ∉ gone →
        (swept.2.stores.member group id = some member ↔
          world.stores.member group id = some member)) ∧
      swept.2.perform network cleanup .sweep = (.count 0, swept.2) := by
  intro swept disconnected
  have hmem : ∀ connection, connection ∈ world.closedAttached network ↔ connection ∈ gone := by
    intro connection
    rw [mem_closedAttached_iff h.sound, hgone]
  have hclosed : (world.closedAttached network).Nodup := h.sound.registry.nodup_values.filter _
  have hperm : (world.closedAttached network).Perm gone :=
    (List.perm_ext_iff_of_nodup hclosed hnodup).mpr hmem
  refine ⟨?_, ⟨?_, ?_, ?_⟩, ?_, ?_, ?_, ?_, ?_⟩
  · change Reply.count (world.sweep network cleanup).1 = _
    rw [World.sweep_fst, hperm.length_eq]
  · intro id
    exact (congrArg Share.attached
      (share_run_disconnects network cleanup h.sound hnodup hgone id)).symm
  · intro name
    have hswept : swept.2.stores.Sound := (h.perform .sweep).sound
    rw [hswept.name_eq, (h.run _).sound.name_eq]
    rw [show swept.2.stores.groups.contains name = _ from contains_sweep network cleanup world name,
      show disconnected.stores.groups.contains name = _ from
        contains_run_disconnects network cleanup world gone name]
  · intro name id
    exact (congrFun (congrArg Share.member
      (share_run_disconnects network cleanup h.sound hnodup hgone id)) name).symm
  · exact congrArg Prod.snd (World.state_sweep network cleanup world)
  · exact peers_run_disconnects network cleanup world gone
  · intro id connection
    change (world.sweep network cleanup).2.stores.registry.get? id = some connection ↔ _
    rw [get?_sweep, Option.filter_eq_some_iff, Bool.not_eq_true']
  · intro group id member hkept
    change (world.sweep network cleanup).2.stores.member group id = some member ↔ _
    rw [member_sweep h.sound]
    split
    · rw [Option.filter_eq_some_iff, decide_eq_true_eq, hmem]
      exact and_iff_left hkept
    · exact Iff.rfl
  · have hnone := closedAttached_sweep network cleanup h.sound
    have hagain := World.sweep_of_none_closed network cleanup hnone
    exact congrArg (Reply.of Reply.count) hagain

/-- A client has come back, and its old connection is still in a room. The new connection and a guest are
closed, and swept: the old one keeps its place, and so does a connection that is open. -/
theorem sweep_disconnects_returned_client :
    let old : Connection := ⟨0, ⟨"client"⟩⟩
    let new : Connection := ⟨1, ⟨"client"⟩⟩
    let guest : Connection := ⟨2, ⟨"guest"⟩⟩
    let other : Connection := ⟨3, ⟨"other"⟩⟩
    let arrivals : List Operation :=
      [.connect old, .addToGroup "room" old.id, .connect new, .addToGroup "hall" new.id,
        .connect guest, .addToGroup "room" guest.id, .connect other, .addToGroup "room" other.id]
    let before := ((World.fresh Peers.empty).run Peers.network .onDisconnect arrivals).2
    let world : World Peers := { before with peers := (before.peers.close new).close guest }
    let gone := [guest, new]
    let swept := world.perform Peers.network .onDisconnect .sweep
    let disconnected := (world.run Peers.network .onDisconnect (gone.map .disconnect)).2
    Reachable Peers.network .onDisconnect world ∧
      (∀ connection, connection ∈ gone ↔
        world.stores.registry.get? connection.id = some connection ∧
          Peers.network.isClosed connection world.peers = true) ∧
      swept.1 = .count 2 ∧ swept.2.stores.Same disconnected.stores ∧
      disconnected.stores.registry.values = [other] ∧
      disconnected.stores.groups.membersOf "room" = [old, other] ∧
      swept.2.stores.member "room" old.id = some old ∧
      swept.2.perform Peers.network .onDisconnect .sweep = (.count 0, swept.2) := by
  intro old new guest other arrivals before world gone swept disconnected
  have hreach : Reachable Peers.network .onDisconnect world :=
    ((Reachable.fresh Peers.empty).run arrivals).stir _
  have hgone : ∀ connection, connection ∈ gone ↔
      world.stores.registry.get? connection.id = some connection ∧
        Peers.network.isClosed connection world.peers = true := by
    intro connection
    have hclosed : world.closedAttached Peers.network = [new, guest] := by decide
    rw [← mem_closedAttached_iff hreach.sound, hclosed, List.mem_pair, List.mem_pair, or_comm]
  obtain ⟨hcount, hsame, -, -, -, hkept, hagain⟩ :=
    sweep_disconnects_closed Peers.network .onDisconnect hreach (by decide) hgone
  have hold : swept.2.stores.member "room" old.id = some old :=
    (hkept "room" old.id old (by decide)).mpr (by decide)
  exact ⟨hreach, hgone, hcount, hsame, by decide, by decide, hold, hagain⟩

end

end Switchboard
