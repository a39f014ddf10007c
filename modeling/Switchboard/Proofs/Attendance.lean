import Switchboard.Proofs.Sequel

namespace Switchboard

namespace Stores

/-- The identifier of a connection is not attached, or it is attached as that connection. -/
def Admits (stores : Stores) (connection : Connection) : Prop :=
  stores.registry.get? connection.id = none ∨
    stores.registry.get? connection.id = some connection

instance (stores : Stores) (connection : Connection) : Decidable (stores.Admits connection) :=
  inferInstanceAs (Decidable (_ ∨ _))

theorem Admits.eq {stores : Stores} {connection other : Connection} (h : stores.Admits connection)
    (hattached : stores.registry.get? connection.id = some other) : other = connection := by
  rcases h with hnone | hsome
  · rw [hattached] at hnone
    exact absurd hnone (by simp)
  · rw [hattached] at hsome
    exact Option.some.inj hsome

/-- What the transport may ask of the stores: to register a connection that is admitted, and to join and
leave groups. To detach a connection it tells the hub that the connection is gone. -/
def Allows (stores : Stores) : Request → Prop
  | .register connection => stores.Admits connection
  | .unregister _ => False
  | .leave _ _ => True
  | .join _ _ => True

instance (stores : Stores) : DecidablePred stores.Allows
  | .register connection => inferInstanceAs (Decidable (stores.Admits connection))
  | .unregister _ => inferInstanceAs (Decidable False)
  | .leave _ _ => inferInstanceAs (Decidable True)
  | .join _ _ => inferInstanceAs (Decidable True)

/-- Every member of a group is attached, under the identifier that the group has it under. -/
def Attended (stores : Stores) : Prop :=
  ∀ group id connection, stores.member group id = some connection →
    stores.registry.get? id = some connection

namespace Attended

variable {stores : Stores}

theorem empty : Stores.empty.Attended := by
  intro group id connection hmember
  exact absurd hmember (by simp)

theorem of_same {other : Stores} (h : stores.Attended) (same : other.Same stores) :
    other.Attended := by
  intro group id connection hmember
  rw [same.members] at hmember
  rw [same.attached]
  exact h group id connection hmember

theorem of_fewer_members {other : Stores} (h : stores.Attended)
    (hregistry : other.registry = stores.registry) (within : other.Within stores) :
    other.Attended := by
  intro group id connection hother
  rw [hregistry]
  exact h group id connection (within.member group id connection hother)

theorem register (h : stores.Attended) {connection : Connection}
    (hadmits : stores.Admits connection) : (stores.register connection).Attended := by
  intro group id member hmember
  have hattached : stores.registry.get? id = some member := h group id member hmember
  change (stores.registry.attach connection).get? id = some member
  rw [Registry.get?_attach]
  split
  · rename_i hid
    subst hid
    rw [hadmits.eq hattached]
  · exact hattached

theorem join (h : stores.Attended) (hsound : stores.Sound) (group : String) (id : ConnectionId) :
    (stores.join group id).Attended := by
  intro other key member hmember
  rw [registry_join]
  cases hget : stores.registry.get? id with
  | none =>
      rw [join_of_not_attached hget] at hmember
      exact h other key member hmember
  | some connection =>
      rw [member_join hget] at hmember
      split at hmember
      · rename_i hplace
        have hid : connection.id = id := hsound.registry id connection hget
        rw [hplace.2, hid, hget]
        exact hmember
      · exact h other key member hmember

theorem leave (h : stores.Attended) (group : String) (id : ConnectionId) :
    (stores.leave group id).Attended :=
  h.of_fewer_members rfl (.leave stores group id)

theorem evict (h : stores.Attended) (hsound : stores.Sound) (group : String)
    (connection : Connection) : (stores.evict group connection).Attended :=
  h.of_fewer_members rfl (.evict hsound group connection)

theorem prune (h : stores.Attended) : stores.prune.Attended :=
  h.of_fewer_members rfl (.prune stores)

theorem grant (h : stores.Attended) (hsound : stores.Sound) {request : Request}
    (hallows : stores.Allows request) : (stores.grant request).Attended := by
  cases request with
  | register connection => exact h.register hallows
  | unregister id => exact hallows.elim
  | leave group id => exact h.leave group id
  | join group id => exact h.join hsound group id

end Attended

end Stores

namespace World

variable {σ : Type} {network : Network σ} {world : World σ}

/-- Whoever is detached gives up its memberships, and whoever has a membership under the identifier is
the one that is detached. -/
theorem attended_disconnect (h : world.stores.Attended) (hsound : world.stores.Sound)
    {gone : Connection} (hadmits : world.stores.Admits gone) :
    (world.disconnect .onDisconnect gone).stores.Attended := by
  intro group id connection hmember
  rw [member_disconnect hsound, if_pos rfl, Option.filter_eq_some_iff] at hmember
  obtain ⟨hmember, hne⟩ := hmember
  have hattached : world.stores.registry.get? id = some connection := h group id connection hmember
  rw [get?_disconnect]
  split
  · rename_i hid
    subst hid
    exact absurd (hadmits.eq hattached) (of_decide_eq_true hne)
  · exact hattached

/-- A sweep takes out of the groups exactly the members that it detaches. -/
theorem attended_sweep (h : world.stores.Attended) (hsound : world.stores.Sound) :
    (world.sweep network .onDisconnect).2.stores.Attended := by
  intro group id connection hmember
  rw [member_sweep hsound, if_pos rfl, Option.filter_eq_some_iff] at hmember
  obtain ⟨hmember, hopen⟩ := hmember
  have hattached : world.stores.registry.get? id = some connection := h group id connection hmember
  have hid : connection.id = id := hsound.registry id connection hattached
  rw [decide_eq_true_eq, mem_closedAttached_iff hsound, hid] at hopen
  rw [get?_sweep, hattached, Option.filter_eq_some_iff]
  refine ⟨rfl, ?_⟩
  simpa [hattached] using hopen

end World

/-- In a deed the transport keeps its contract: a connection comes and goes only while no other one is
attached under its identifier, also where a connection asks for it while it is called. -/
structure Deed.KeepsContract {σ : Type} (network : Network σ) (deed : Deed σ) : Prop where
  asked : ∀ ask ∈ deed.asked network, ask.1.Allows ask.2
  gone : ∀ connection, deed.command = .disconnect connection → deed.world.stores.Admits connection

section

variable {σ : Type} {network : Network σ}

theorem Deed.attended_after {deed : Deed σ} (hsound : deed.world.stores.Sound)
    (h : deed.world.stores.Attended) (hcontract : deed.KeepsContract network) :
    (deed.after network .onDisconnect).stores.Attended := by
  have hkept : (deed.after network .onDisconnect).stores.Sound ∧
      (deed.after network .onDisconnect).stores.Attended := by
    apply deed.keeps (P := fun stores => stores.Sound ∧ stores.Attended)
    · rintro ⟨stores, request⟩ hask ⟨hstores, hattended⟩
      exact ⟨hstores.grant request, hattended.grant hstores (hcontract.asked _ hask)⟩
    · rintro stores group evicted ⟨hstores, hattended⟩
      exact ⟨hstores.evict group evicted, hattended.evict hstores group evicted⟩
    · rintro stores ⟨hstores, hattended⟩
      exact ⟨hstores.prune, hattended.prune⟩
    · rintro gone hcommand ⟨hstores, hattended⟩
      exact ⟨World.sound_disconnect .onDisconnect hstores gone,
        World.attended_disconnect hattended hstores (hcontract.gone gone hcommand)⟩
    · rintro ⟨hstores, hattended⟩
      exact ⟨World.sound_sweep network .onDisconnect hstores,
        World.attended_sweep hattended hstores⟩
    · exact ⟨hsound, h⟩
  exact hkept.2

theorem Sequel.attended {start world : World σ} {deeds : List (Deed σ)}
    (h : Sequel network .onDisconnect start deeds world) (hsound : start.stores.Sound)
    (hattended : start.stores.Attended) (hcontract : ∀ deed ∈ deeds, deed.KeepsContract network) :
    world.stores.Attended := by
  have hkept := h.keeps (P := Stores.Attended) (fun _ _ hstores same => hstores.of_same same)
    (fun deed hmem hstores =>
      Deed.attended_after ((h.sound hsound).2 deed hmem) hstores (hcontract deed hmem))
    hattended
  exact hkept.1

/-- Under cleanup on disconnection, as long as the transport keeps its contract, every member of a group
is attached under its identifier, whatever has been closed meanwhile. So whoever is sent an invocation of
a group is also reached by one of all connections and by one of the client. -/
theorem members_attached {peers : σ} {deeds : List (Deed σ)} {world : World σ}
    (h : Sequel network .onDisconnect (World.fresh peers) deeds world)
    (hcontract : ∀ deed ∈ deeds, deed.KeepsContract network) :
    (∀ group id connection, world.stores.member group id = some connection →
      world.stores.registry.get? id = some connection) ∧
      ∀ group invocation excluded connection,
        connection ∈ (world.calls network .onDisconnect
          (.invokeGroup group invocation excluded)).map Call.connection →
        (∀ others, connection.id ∉ others → connection ∈ (world.calls network .onDisconnect
          (.invokeAll invocation others)).map Call.connection) ∧
        connection ∈ (world.calls network .onDisconnect
          (.invokeClient connection.id invocation)).map Call.connection := by
  have hsound : world.stores.Sound := (h.sound Stores.Sound.empty).1
  have hattended : world.stores.Attended :=
    h.attended Stores.Sound.empty Stores.Attended.empty hcontract
  refine ⟨hattended, ?_⟩
  intro group invocation excluded connection hcalled
  have hreached : ∀ audience : Audience, _ ↔ audience.Includes world.stores connection :=
    fun audience => World.called_iff network .onDisconnect hsound audience invocation connection
  have hincluded := (hreached (.members group excluded)).mp hcalled
  have hattached : world.stores.registry.get? connection.id = some connection :=
    hattended group connection.id connection hincluded.1
  constructor
  · intro others hother
    exact (hreached (.everyone others)).mpr ⟨hattached, hother⟩
  · exact (hreached (.client connection.id)).mpr hattached

/-- A member of a room is closed and swept away. Its client comes back as another connection and joins
again, and a guest comes and goes. -/
theorem members_attached_after_return :
    let gone : Connection := ⟨0, ⟨"client"⟩⟩
    let back : Connection := ⟨1, ⟨"client"⟩⟩
    let guest : Connection := ⟨2, ⟨"guest"⟩⟩
    let start : World Peers := World.fresh Peers.empty
    let first : List Command := [.connect gone, .addToGroup "room" gone.id]
    let before := (start.run Peers.network .onDisconnect (first.map Command.operation)).2
    let closed : World Peers := { before with peers := before.peers.close gone }
    let second : List Command :=
      [.sweep, .connect back, .addToGroup "room" back.id, .connect guest, .addToGroup "room" guest.id,
        .disconnect guest]
    let world := (closed.run Peers.network .onDisconnect (second.map Command.operation)).2
    let deeds := start.deeds Peers.network .onDisconnect first ++
      closed.deeds Peers.network .onDisconnect second
    Sequel Peers.network .onDisconnect start deeds world ∧
      (∀ deed ∈ deeds, deed.KeepsContract Peers.network) ∧
      closed.stores.member "room" gone.id = some gone ∧
      world.stores.groups.membersOf "room" = [back] ∧
      world.stores.registry.get? back.id = some back := by
  intro gone back guest start first before closed second world deeds
  have hsequel : Sequel Peers.network .onDisconnect start deeds world :=
    ((Sequel.run Peers.network .onDisconnect start first).stir closed.peers).append_deeds second
  have hcontract : ∀ deed ∈ deeds, deed.KeepsContract Peers.network := by
    intro deed hmem
    constructor
    · revert deed
      decide
    · intro connection hcommand
      simp only [deeds, first, second, World.deeds, List.cons_append, List.nil_append, List.mem_cons,
        List.not_mem_nil, or_false] at hmem
      rcases hmem with rfl | rfl | rfl | rfl | rfl | rfl | rfl | rfl <;> cases hcommand
      decide
  have hattached := (members_attached hsequel hcontract).1 "room" back.id back (by decide)
  exact ⟨hsequel, hcontract, by decide, by decide, hattached⟩

end

end Switchboard
