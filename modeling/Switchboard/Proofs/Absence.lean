import Switchboard.Proofs.Sequel

namespace Switchboard

namespace Stores

/-- A connection is neither attached nor a member of any group. -/
structure Lacks (stores : Stores) (connection : Connection) : Prop where
  attached : ∀ id, stores.registry.get? id ≠ some connection
  member : ∀ group id, stores.member group id ≠ some connection

namespace Lacks

variable {stores : Stores} {connection : Connection}

theorem empty (connection : Connection) : Stores.empty.Lacks connection where
  attached id := by simp [Stores.empty]
  member group id := by simp

theorem of_same {other : Stores} (h : stores.Lacks connection) (same : other.Same stores) :
    other.Lacks connection where
  attached id := by
    rw [same.attached]
    exact h.attached id
  member group id := by
    rw [same.members]
    exact h.member group id

theorem of_within {other : Stores} (h : stores.Lacks connection) (within : other.Within stores) :
    other.Lacks connection where
  attached id hget := h.attached id (within.attached id connection hget)
  member group id hget := h.member group id (within.member group id connection hget)

theorem register (h : stores.Lacks connection) {other : Connection} (hne : other ≠ connection) :
    (stores.register other).Lacks connection where
  attached id := by
    change (stores.registry.attach other).get? id ≠ some connection
    rw [Registry.get?_attach]
    split
    · exact fun hget => hne (Option.some.inj hget)
    · exact h.attached id
  member := h.member

theorem unregister (h : stores.Lacks connection) (removed : ConnectionId) :
    (stores.unregister removed).Lacks connection :=
  h.of_within (.unregister stores removed)

theorem join (h : stores.Lacks connection) (group : String) (id : ConnectionId) :
    (stores.join group id).Lacks connection where
  attached key := by
    rw [registry_join]
    exact h.attached key
  member other key := by
    cases hget : stores.registry.get? id with
    | none =>
        rw [join_of_not_attached hget]
        exact h.member other key
    | some joined =>
        rw [member_join hget]
        split
        · rw [← hget]
          exact h.attached id
        · exact h.member other key

theorem leave (h : stores.Lacks connection) (group : String) (id : ConnectionId) :
    (stores.leave group id).Lacks connection :=
  h.of_within (.leave stores group id)

theorem evict (h : stores.Lacks connection) (hsound : stores.Sound) (group : String)
    (evicted : Connection) : (stores.evict group evicted).Lacks connection :=
  h.of_within (.evict hsound group evicted)

theorem prune (h : stores.Lacks connection) : stores.prune.Lacks connection :=
  h.of_within (.prune stores)

theorem grant (h : stores.Lacks connection) {request : Request}
    (hnot : request ≠ .register connection) : (stores.grant request).Lacks connection := by
  cases request with
  | register other =>
      apply h.register
      rintro rfl
      exact hnot rfl
  | unregister id => exact h.unregister id
  | leave group id => exact h.leave group id
  | join group id => exact h.join group id

theorem not_includes (h : stores.Lacks connection) (audience : Audience) :
    ¬ audience.Includes stores connection := by
  cases audience with
  | everyone excluded => exact fun hincluded => h.attached _ hincluded.1
  | client id => exact h.attached id
  | members group excluded => exact fun hincluded => h.member group _ hincluded.1

end Lacks

theorem registry_isEmpty_of_lacks {stores : Stores} (h : ∀ connection, stores.Lacks connection) :
    stores.registry.isEmpty = true := by
  rw [Table.isEmpty_iff, List.eq_nil_iff_forall_not_mem]
  rintro ⟨id, connection⟩ hentry
  exact (h connection).attached id (Table.get?_eq_some_iff.mpr hentry)

theorem group_isEmpty_of_lacks {stores : Stores} (h : ∀ connection, stores.Lacks connection)
    {name : String} {group : Group} (hgroup : stores.groups.get? name = some group) :
    group.isEmpty = true := by
  change group.members.isEmpty = true
  rw [Table.isEmpty_iff, List.eq_nil_iff_forall_not_mem]
  rintro ⟨id, connection⟩ hentry
  apply (h connection).member name id
  unfold member
  rw [Directory.group_eq hgroup]
  exact Table.get?_eq_some_iff.mpr hentry

end Stores

namespace Directory

theorem prune_eq_empty {directory : Directory}
    (h : ∀ name group, directory.get? name = some group → group.isEmpty = true) :
    directory.prune = Table.empty := by
  apply Table.ext
  change directory.entries.filter (fun entry => !entry.2.isEmpty) = []
  rw [List.filter_eq_nil_iff]
  rintro ⟨name, group⟩ hentry
  simpa using h name group (Table.get?_eq_some_iff.mpr hentry)

end Directory

namespace World

variable {σ : Type}

theorem pruneGroups_fst (world : World σ) :
    world.pruneGroups.1 = world.stores.groups.size - world.stores.groups.prune.size := by
  unfold pruneGroups
  simp only
  split
  · rfl
  · rename_i hnone
    exact (Nat.eq_zero_of_not_pos hnone).symm

variable {network : Network σ} {cleanup : Cleanup} {world : World σ} {connection : Connection}

theorem lacks_disconnect (h : world.stores.Lacks connection) (hsound : world.stores.Sound)
    (gone : Connection) : (world.disconnect cleanup gone).stores.Lacks connection :=
  h.of_within (within_disconnect hsound gone)

theorem lacks_sweep (h : world.stores.Lacks connection) (hsound : world.stores.Sound) :
    (world.sweep network cleanup).2.stores.Lacks connection :=
  h.of_within (within_sweep hsound)

/-- Under cleanup on disconnection a connection that is gone leaves nothing behind, whoever is attached
under its identifier by then. -/
theorem lacks_disconnect_self (h : world.stores.Sound) (connection : Connection) :
    (world.disconnect .onDisconnect connection).stores.Lacks connection where
  attached id hget := by
    rw [get?_disconnect] at hget
    split at hget
    · exact absurd hget (by simp)
    · rename_i hid
      exact hid (h.registry id connection hget).symm
  member group id hget := by
    rw [member_disconnect h, if_pos rfl, Option.filter_eq_some_iff] at hget
    exact of_decide_eq_true hget.2 rfl

end World

namespace Deed

variable {σ : Type} {network : Network σ} {cleanup : Cleanup} {deed : Deed σ}
  {connection : Connection}

theorem lacks_after (hsound : deed.world.stores.Sound) (h : deed.world.stores.Lacks connection)
    (hnot : connection ∉ deed.registered network) :
    (deed.after network cleanup).stores.Lacks connection := by
  have hkept : (deed.after network cleanup).stores.Sound ∧
      (deed.after network cleanup).stores.Lacks connection := by
    apply deed.keeps (P := fun stores => stores.Sound ∧ stores.Lacks connection)
    · rintro ⟨stores, request⟩ hask ⟨hstores, hlacks⟩
      refine ⟨hstores.grant request, hlacks.grant ?_⟩
      rintro rfl
      exact hnot ((deed.mem_registered_iff network connection).mpr ⟨stores, hask⟩)
    · rintro stores group evicted ⟨hstores, hlacks⟩
      exact ⟨hstores.evict group evicted, hlacks.evict hstores group evicted⟩
    · rintro stores ⟨hstores, hlacks⟩
      exact ⟨hstores.prune, hlacks.prune⟩
    · rintro gone - ⟨hstores, hlacks⟩
      exact ⟨World.sound_disconnect cleanup hstores gone, World.lacks_disconnect hlacks hstores gone⟩
    · rintro ⟨hstores, hlacks⟩
      exact ⟨World.sound_sweep network cleanup hstores, World.lacks_sweep hlacks hstores⟩
    · exact ⟨hsound, h⟩
  exact hkept.2

theorem not_called_of_lacks (hsound : deed.world.stores.Sound)
    (h : deed.world.stores.Lacks connection) :
    connection ∉ (deed.calls network cleanup).map Call.connection := by
  intro hcalled
  obtain ⟨audience, hincluded⟩ := deed.includes_of_called network cleanup hsound hcalled
  exact h.not_includes audience hincluded

end Deed

namespace Sequel

variable {σ : Type} {network : Network σ} {cleanup : Cleanup} {start world : World σ}
  {deeds : List (Deed σ)}

theorem lacks (h : Sequel network cleanup start deeds world) (hsound : start.stores.Sound)
    {connection : Connection} (hlacks : start.stores.Lacks connection)
    (hnot : ∀ deed ∈ deeds, connection ∉ deed.registered network) :
    world.stores.Lacks connection ∧ ∀ deed ∈ deeds, deed.world.stores.Lacks connection := by
  apply h.keeps (P := fun stores => stores.Lacks connection)
  · exact fun _ _ hkept same => hkept.of_same same
  · intro deed hmem hkept
    exact Deed.lacks_after ((h.sound hsound).2 deed hmem) hkept (hnot deed hmem)
  · exact hlacks

theorem lacks_of_disconnected {peers : σ}
    (h : Sequel network .onDisconnect (World.fresh peers) deeds world) {connection : Connection}
    (hgone : ∀ deed later, deed :: later <:+ deeds → connection ∈ deed.registered network →
      ∃ last ∈ later, last.command = .disconnect connection) :
    world.stores.Lacks connection := by
  -- The induction is on the run from its end: after the last deed there is nothing to take a
  -- registration back, and if it disconnects the connection the deeds before it do not matter.
  induction h with
  | start => exact Stores.Lacks.empty connection
  | @perform deeds world hbefore command ih =>
      have hsound := (hbefore.sound Stores.Sound.empty).1
      by_cases hlast : command = .disconnect connection
      · subst hlast
        exact World.lacks_disconnect_self hsound connection
      · have hnot : connection ∉ (Deed.mk world command).registered network := by
          intro hregistered
          obtain ⟨last, hmem, -⟩ := hgone ⟨world, command⟩ [] (List.suffix_append _ _) hregistered
          exact absurd hmem List.not_mem_nil
        apply Deed.lacks_after hsound _ hnot
        apply ih
        rintro deed later ⟨earlier, rfl⟩ hregistered
        obtain ⟨last, hmem, hcommand⟩ := hgone deed (later ++ [⟨world, command⟩])
          ⟨earlier, by simp⟩ hregistered
        rcases List.mem_append.mp hmem with hlater | hend
        · exact ⟨last, hlater, hcommand⟩
        · rw [List.mem_singleton.mp hend] at hcommand
          exact absurd hcommand hlast
  | stir _ peers ih => exact ih hgone
  | relist _ same ih => exact (ih hgone).of_same same

end Sequel

section

variable {σ : Type}

/-- Under cleanup on disconnection a connection that is gone is held nowhere, whoever has its identifier
by then; and until it is registered again it stays away and is not called, whatever is done and whatever
the connections ask of the hub. So when each connection has gone since it was last registered, only empty
groups are left, and a pruning drops and counts them all. -/
theorem disconnected_stays_away (network : Network σ) :
    (∀ world connection, Reachable network .onDisconnect world →
      let gone := (world.perform network .onDisconnect (.disconnect connection)).2
      gone.stores.Lacks connection ∧
        ∀ deeds later, Sequel network .onDisconnect gone deeds later →
          (∀ deed ∈ deeds, connection ∉ deed.registered network) →
          later.stores.Lacks connection ∧
            ∀ deed ∈ deeds, deed.world.stores.Lacks connection ∧
              connection ∉ (deed.calls network .onDisconnect).map Call.connection) ∧
      ∀ peers deeds world, Sequel network .onDisconnect (World.fresh peers) deeds world →
        (∀ deed later, deed :: later <:+ deeds → ∀ connection ∈ deed.registered network,
          ∃ last ∈ later, last.command = .disconnect connection) →
        let pruned := world.perform network .onDisconnect .pruneGroups
        world.stores.registry.isEmpty = true ∧
          (∀ name group, world.stores.groups.get? name = some group → group.isEmpty = true) ∧
          pruned.1 = .count world.stores.groups.size ∧ pruned.2.stores.groups.isEmpty = true := by
  constructor
  · intro world connection hreach gone
    have hgone : gone.stores.Lacks connection := World.lacks_disconnect_self hreach.sound connection
    refine ⟨hgone, ?_⟩
    intro deeds later hsequel hnot
    have hsound : gone.stores.Sound := (hreach.perform (.disconnect connection)).sound
    obtain ⟨hlater, hdeeds⟩ := hsequel.lacks hsound hgone hnot
    refine ⟨hlater, ?_⟩
    intro deed hmem
    exact ⟨hdeeds deed hmem,
      Deed.not_called_of_lacks ((hsequel.sound hsound).2 deed hmem) (hdeeds deed hmem)⟩
  · intro peers deeds world hsequel hgone pruned
    have hlacks : ∀ connection, world.stores.Lacks connection := fun connection =>
      hsequel.lacks_of_disconnected fun deed later hsuffix => hgone deed later hsuffix connection
    have hempty : ∀ name group, world.stores.groups.get? name = some group → group.isEmpty = true :=
      fun name group => Stores.group_isEmpty_of_lacks hlacks
    have hprune : world.stores.groups.prune = Table.empty := Directory.prune_eq_empty hempty
    have hcount : pruned.1 = .count world.pruneGroups.1 := rfl
    have hleft : pruned.2.stores = world.stores.prune := world.stores_pruneGroups
    refine ⟨Stores.registry_isEmpty_of_lacks hlacks, hempty, ?_, ?_⟩
    · rw [hcount, World.pruneGroups_fst, hprune]
      rfl
    · rw [hleft]
      change world.stores.groups.prune.isEmpty = true
      rw [hprune]
      rfl

/-- A client comes back before its old connection, which is still in a room, is found to be gone: the
old connection leaves the room for good. Once the new one is gone too, the room is dropped. -/
theorem disconnected_stays_away_returned_client :
    let old : Connection := ⟨0, ⟨"client"⟩⟩
    let new : Connection := ⟨1, ⟨"client"⟩⟩
    let start : World Peers := World.fresh Peers.empty
    let world := (start.run Peers.network .onDisconnect
      [.connect old, .addToGroup "room" old.id, .connect new]).2
    let gone := (world.perform Peers.network .onDisconnect (.disconnect old)).2
    let back : List Command :=
      [.connect new, .addToGroup "room" new.id, .invoke (.members "room" []) ⟨"hello", []⟩]
    let later := (gone.run Peers.network .onDisconnect (back.map Command.operation)).2
    let visits : List Command :=
      [.connect old, .addToGroup "room" old.id, .connect new, .addToGroup "hall" new.id,
        .disconnect new, .disconnect old]
    let left := (start.run Peers.network .onDisconnect (visits.map Command.operation)).2
    Reachable Peers.network .onDisconnect world ∧
      world.stores.registry.get? old.id = some new ∧ world.stores.member "room" old.id = some old ∧
      gone.stores.Lacks old ∧ later.stores.Lacks old ∧
      later.stores.member "room" new.id = some new ∧
      left.stores.groups.keys = ["room", "hall"] ∧
      (left.perform Peers.network .onDisconnect .pruneGroups).1 = .count 2 := by
  intro old new start world gone back later visits left
  have hreach : Reachable Peers.network .onDisconnect world := (Reachable.fresh Peers.empty).run _
  obtain ⟨hgone, hstays⟩ := (disconnected_stays_away Peers.network).1 world old hreach
  have hnot : ∀ deed ∈ gone.deeds Peers.network .onDisconnect back,
      old ∉ deed.registered Peers.network := by
    decide
  have hlater := (hstays _ later (Sequel.run _ _ gone back) hnot).1
  have hback : ∀ deed rest, deed :: rest <:+ start.deeds Peers.network .onDisconnect visits →
      ∀ connection ∈ deed.registered Peers.network,
        ∃ last ∈ rest, last.command = .disconnect connection := by
    intro deed rest hsuffix connection hregistered
    simp only [visits, World.deeds, List.suffix_cons_iff, List.suffix_nil, List.cons.injEq,
      reduceCtorEq, or_false] at hsuffix
    rcases hsuffix with ⟨rfl, rfl⟩ | ⟨rfl, rfl⟩ | ⟨rfl, rfl⟩ | ⟨rfl, rfl⟩ | ⟨rfl, rfl⟩ | ⟨rfl, rfl⟩ <;>
      simp [Deed.registered, Deed.asked] at hregistered <;> simp [hregistered]
  have hleft := (disconnected_stays_away Peers.network).2 Peers.empty _ left
    (Sequel.run _ _ start visits) hback
  exact ⟨hreach, by decide, by decide, hgone, hlater, by decide, by decide, hleft.2.2.1.trans rfl⟩

end

end Switchboard
