import Switchboard.Peer
import Switchboard.Proofs.Reachable

namespace Switchboard

namespace Audience

theorem eq_of_includes {stores : Stores} {audience : Audience}
    {connection other : Connection} (hconnection : audience.Includes stores connection)
    (hother : audience.Includes stores other) (hid : connection.id = other.id) :
    connection = other := by
  cases audience with
  | everyone excluded =>
      have hsame := hconnection.1
      rw [hid, hother.1] at hsame
      exact (Option.some.inj hsame).symm
  | client id => exact Option.some.inj (hconnection.symm.trans hother)
  | members group excluded =>
      have hsame := hconnection.1
      rw [hid, hother.1] at hsame
      exact (Option.some.inj hsame).symm

theorem settle_eq_self {audience : Audience} {cleanup : Cleanup}
    (h : cleanup ≠ .lazy ∨ ∀ group excluded, audience ≠ .members group excluded)
    (gone : List Connection) (stores : Stores) : audience.settle cleanup gone stores = stores := by
  cases audience with
  | everyone excluded => rfl
  | client id => rfl
  | members group excluded =>
      rcases h with hlazy | hmembers
      · exact if_neg hlazy
      · exact absurd rfl (hmembers group excluded)

theorem view_settle {γ : Type} (view : Stores → γ)
    (h : ∀ stores group connection, view (stores.evict group connection) = view stores)
    (audience : Audience) (cleanup : Cleanup) (gone : List Connection) (stores : Stores) :
    view (audience.settle cleanup gone stores) = view stores := by
  unfold settle
  split
  · split
    · exact Stores.view_foldl view (fun stores connection => h stores _ connection) gone stores
    · rfl
  · rfl

theorem registry_settle (audience : Audience) (cleanup : Cleanup) (gone : List Connection)
    (stores : Stores) : (audience.settle cleanup gone stores).registry = stores.registry :=
  view_settle Stores.registry (fun _ _ _ => rfl) audience cleanup gone stores

theorem name_settle (audience : Audience) (cleanup : Cleanup) (gone : List Connection)
    (stores : Stores) (name : String) :
    ((audience.settle cleanup gone stores).groups.get? name).map Group.name =
      (stores.groups.get? name).map Group.name :=
  view_settle (fun stores => (stores.groups.get? name).map Group.name)
    (fun stores group connection => stores.name_evict group connection name)
    audience cleanup gone stores

end Audience

namespace World

variable {σ : Type} (network : Network σ) (cleanup : Cleanup) (world : World σ)

theorem order_invoke (audience : Audience) (invocation : Invocation) :
    (world.calls network cleanup (audience.operation invocation)).map Call.connection =
      audience.listed world.stores := by
  rw [calls_invoke, Network.map_connection_calls]

theorem called_iff {world : World σ} (h : world.stores.Sound) (audience : Audience)
    (invocation : Invocation) (connection : Connection) :
    connection ∈ (world.calls network cleanup (audience.operation invocation)).map Call.connection ↔
      audience.Includes world.stores connection := by
  rw [order_invoke]
  exact Audience.mem_listed_iff h audience connection

theorem state_invoke_eq_settle (audience : Audience) (invocation : Invocation) :
    let made := world.calls network cleanup (audience.operation invocation)
    let sent := (made.map Call.connection).foldl (network.exchange invocation) world.state
    (world.perform network cleanup (audience.operation invocation)).2.state =
      (audience.settle cleanup (Call.closed made) sent.1, sent.2) := by
  intro made sent
  have hmade : made = network.calls invocation (audience.listed world.stores) world.state :=
    calls_invoke network cleanup world audience invocation
  have horder : made.map Call.connection = audience.listed world.stores :=
    order_invoke network cleanup world audience invocation
  have hsent : sent =
      (audience.listed world.stores).foldl (network.exchange invocation) world.state := by
    rw [← horder]
  rw [hsent, hmade]
  exact state_invoke network cleanup world audience invocation

end World

section Main

variable {σ : Type} {network : Network σ} {cleanup : Cleanup} {world : World σ}

/-- An invocation makes one call of each connection that was in its audience when it began and of no
other, whatever the calls change meanwhile. It leaves behind the changes of the calls, in the order in
which they were made, and then what the cleanup policy takes away. -/
theorem invoke_calls_starting_audience (h : Reachable network cleanup world)
    (audience : Audience) (invocation : Invocation) :
    let made := world.calls network cleanup (audience.operation invocation)
    let sent := (made.map Call.connection).foldl (network.exchange invocation)
      (world.stores, world.peers)
    let after := (world.perform network cleanup (audience.operation invocation)).2
    (made.map Call.connection).Nodup ∧
      (∀ connection, connection ∈ made.map Call.connection ↔
        audience.Includes world.stores connection) ∧
      (∀ call ∈ made, call.invocation = invocation) ∧
      after.peers = sent.2 ∧
      after.stores = audience.settle cleanup (Call.closed made) sent.1 := by
  intro made sent after
  have horder : made.map Call.connection = audience.listed world.stores :=
    World.order_invoke network cleanup world audience invocation
  have hstate : after.state = (audience.settle cleanup (Call.closed made) sent.1, sent.2) :=
    World.state_invoke_eq_settle network cleanup world audience invocation
  refine ⟨?_, ?_, ?_, congrArg Prod.snd hstate, congrArg Prod.fst hstate⟩
  · rw [horder]
    exact Audience.nodup_listed h.sound audience
  · intro connection
    rw [horder]
    exact Audience.mem_listed_iff h.sound audience connection
  · intro call hcall
    rw [show made = network.calls invocation (audience.listed world.stores) world.state from
      World.calls_invoke network cleanup world audience invocation] at hcall
    exact network.invocation_of_mem_calls invocation hcall

/-- The first connection, when called, detaches the second, which is called all the same, and attaches
a third, which is not. -/
theorem invoke_calls_detached_not_attached :
    let first : Connection := ⟨0, ⟨"first"⟩⟩
    let second : Connection := ⟨1, ⟨"second"⟩⟩
    let third : Connection := ⟨2, ⟨"third"⟩⟩
    let peers := Peers.empty.addScripted first
      [(0, .unregister second.id), (0, .register third)] .accepted
    let world := ((World.fresh peers).run Peers.network .lazy [.connect first, .connect second]).2
    let audience := Audience.everyone []
    let made := world.calls Peers.network .lazy (audience.operation ⟨"hello", []⟩)
    let after := (world.perform Peers.network .lazy (audience.operation ⟨"hello", []⟩)).2
    Reachable Peers.network .lazy world ∧
      (∀ connection, connection ∈ made.map Call.connection ↔
        audience.Includes world.stores connection) ∧
      made.map Call.connection = [first, second] ∧
      after.stores.registry.values = [first, third] := by
  intro first second third peers world audience made after
  have hreach : Reachable Peers.network .lazy world := (Reachable.fresh peers).run _
  have hcalls := invoke_calls_starting_audience hreach audience ⟨"hello", []⟩
  exact ⟨hreach, hcalls.2.1, by decide, by decide⟩

theorem not_called_of_other_called {audience : Audience} {invocation : Invocation}
    (h : Reachable network cleanup world) {call : Call} {connection : Connection}
    (hcall : call ∈ world.calls network cleanup (audience.operation invocation))
    (hid : call.connection.id = connection.id) (hne : call.connection ≠ connection) :
    connection ∉ (world.calls network cleanup (audience.operation invocation)).map
      Call.connection := by
  rw [World.order_invoke]
  intro hlisted
  have hcalled : call.connection ∈ audience.listed world.stores := by
    rw [← World.order_invoke network cleanup world audience invocation]
    exact List.mem_map.mpr ⟨call, hcall, rfl⟩
  rw [Audience.mem_listed_iff h.sound] at hlisted hcalled
  exact hne (Audience.eq_of_includes hcalled hlisted hid)

theorem answer_eq_of_called {audience : Audience} {invocation : Invocation}
    (h : Reachable network cleanup world) {call other : Call}
    (hcall : call ∈ world.calls network cleanup (audience.operation invocation))
    (hother : other ∈ world.calls network cleanup (audience.operation invocation))
    (hsame : call.connection = other.connection) : call.answer = other.answer := by
  have hnodup : ((world.calls network cleanup (audience.operation invocation)).map
      Call.connection).Nodup := by
    rw [World.order_invoke]
    exact Audience.nodup_listed h.sound audience
  rw [List.inj_on_of_nodup_map hnodup hcall hother hsame]

theorem not_excluded_of_called {group : String} {excluded : List ConnectionId}
    {invocation : Invocation} (h : Reachable network cleanup world) {call : Call}
    (hcall : call ∈ world.calls network cleanup
      ((Audience.members group excluded).operation invocation)) :
    call.connection.id ∉ excluded := by
  have hcalled : call.connection ∈ (Audience.members group excluded).listed world.stores := by
    rw [← World.order_invoke network cleanup world _ invocation]
    exact List.mem_map.mpr ⟨call, hcall, rfl⟩
  exact ((Audience.mem_listed_iff h.sound _ _).mp hcalled).2

/-- Under lazy cleanup an invocation of a group takes out of it exactly the members that are the very
connections that answered in this call that they are closed: one that was full, one that was excluded
and another one under the identifier of a closed one stay. All else is as the last call left it, and
so is everything under the other policies and for the other audiences. -/
theorem invoke_evicts_exactly_closed (h : Reachable network cleanup world)
    (audience : Audience) (invocation : Invocation) :
    let made := world.calls network cleanup (audience.operation invocation)
    let sent := (made.map Call.connection).foldl (network.exchange invocation)
      (world.stores, world.peers)
    let after := (world.perform network cleanup (audience.operation invocation)).2
    after.peers = sent.2 ∧ after.stores.registry = sent.1.registry ∧
      (∀ name, (after.stores.groups.get? name).map Group.name =
        (sent.1.groups.get? name).map Group.name) ∧
      (∀ group excluded, audience = .members group excluded → cleanup = .lazy →
        (∀ other, other ≠ group → after.stores.groups.get? other = sent.1.groups.get? other) ∧
        (∀ id member, after.stores.member group id = some member ↔
          sent.1.member group id = some member ∧
            ¬ ∃ call ∈ made, call.connection = member ∧ call.answer = .refused .closed) ∧
        (∀ id member, sent.1.member group id = some member →
          (member.id ∈ excluded ∨
            (∃ call ∈ made, call.connection = member ∧ call.answer ≠ .refused .closed) ∨
            (∃ call ∈ made, call.connection ≠ member ∧ call.connection.id = member.id)) →
          after.stores.member group id = some member)) ∧
      ((cleanup ≠ .lazy ∨ ∀ group excluded, audience ≠ .members group excluded) →
        after.stores = sent.1) := by
  intro made sent after
  have hstate : after.state = (audience.settle cleanup (Call.closed made) sent.1, sent.2) :=
    World.state_invoke_eq_settle network cleanup world audience invocation
  have hstores : after.stores = audience.settle cleanup (Call.closed made) sent.1 :=
    congrArg Prod.fst hstate
  have hsound : sent.1.Sound := network.sound_foldl_exchange invocation h.sound _
  refine ⟨congrArg Prod.snd hstate, ?_, ?_, ?_, ?_⟩
  · rw [hstores, Audience.registry_settle]
  · intro name
    rw [hstores, Audience.name_settle]
  · rintro group excluded rfl rfl
    have hevicted : after.stores =
        (Call.closed made).foldl (fun stores connection => stores.evict group connection) sent.1 :=
      hstores
    have hmember : ∀ id member, after.stores.member group id = some member ↔
        sent.1.member group id = some member ∧
          ¬ ∃ call ∈ made, call.connection = member ∧ call.answer = .refused .closed := by
      intro id member
      rw [hevicted, Stores.member_foldl_evict hsound, if_pos rfl, Option.filter_eq_some_iff,
        decide_eq_true_eq, Call.mem_closed_iff]
    refine ⟨?_, hmember, ?_⟩
    · intro other hother
      rw [hevicted]
      exact Stores.view_foldl (fun stores => stores.groups.get? other)
        (fun stores connection => Stores.get?_evict_of_ne hother stores connection) _ sent.1
    · intro id member hsent hstays
      refine (hmember id member).mpr ⟨hsent, ?_⟩
      rintro ⟨call, hcall, rfl, hclosed⟩
      rcases hstays with hexcluded | ⟨other, hother, hsame, hanswer⟩ | ⟨other, hother, hne, hid⟩
      · exact not_excluded_of_called h hcall hexcluded
      · exact hanswer ((answer_eq_of_called h hother hcall hsame).trans hclosed)
      · exact not_called_of_other_called h hother hid hne (List.mem_map.mpr ⟨call, hcall, rfl⟩)
  · intro hpolicy
    rw [hstores]
    exact Audience.settle_eq_self hpolicy _ _

/-- The gone member is evicted; the one that puts another in its place while it is called, the full one
and the excluded one leave their places taken. -/
theorem invoke_evicts_gone_member :
    let gone : Connection := ⟨0, ⟨"gone"⟩⟩
    let replaced : Connection := ⟨1, ⟨"client"⟩⟩
    let replacement : Connection := ⟨2, ⟨"client"⟩⟩
    let full : Connection := ⟨3, ⟨"full"⟩⟩
    let excluded : Connection := ⟨4, ⟨"excluded"⟩⟩
    let peers := (((Peers.empty.addScripted gone [] (.refused .closed)).addScripted replaced
      [(0, .register replacement), (0, .join "room" replaced.id)] (.refused .closed)).addScripted
      full [] (.refused .full)).addScripted excluded [] (.refused .closed)
    let world := ((World.fresh peers).run Peers.network .lazy
      ([gone, replaced, full, excluded].flatMap fun connection =>
        [.connect connection, .addToGroup "room" connection.id])).2
    let audience := Audience.members "room" [excluded.id]
    let after := (world.perform Peers.network .lazy (audience.operation ⟨"hello", []⟩)).2
    Reachable Peers.network .lazy world ∧ after.stores.member "room" gone.id = none ∧
      after.stores.member "room" replaced.id = some replacement ∧
      after.stores.member "room" full.id = some full ∧
      after.stores.member "room" excluded.id = some excluded := by
  intro gone replaced replacement full excluded peers world audience after
  have hreach : Reachable Peers.network .lazy world := (Reachable.fresh peers).run _
  obtain ⟨-, -, hstays⟩ := (invoke_evicts_exactly_closed hreach audience ⟨"hello", []⟩).2.2.2.1
    "room" [excluded.id] rfl rfl
  have hexcluded : after.stores.member "room" excluded.id = some excluded :=
    hstays excluded.id excluded (by decide) (.inl List.mem_cons_self)
  exact ⟨hreach, by decide, by decide, by decide, hexcluded⟩

end Main

end Switchboard
