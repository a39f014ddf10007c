import Switchboard.Proofs.Detach
import Switchboard.Proofs.Sequel

namespace Switchboard

/-- An invocation under way: who is still to be handed it, who has answered that it is closed, and the
group that those are taken out of at the end, if they are. -/
structure Dispatch where
  invocation : Invocation
  waiting : List Connection
  gone : List Connection
  group : Option String

/-- An operation with the stores at which it begins. -/
structure Undertaking where
  stores : Stores
  operation : Operation

namespace Dispatch

def answered (dispatch : Dispatch) (connection : Connection) (waiting : List Connection)
    (answer : Answer) : Dispatch :=
  { dispatch with
    waiting, gone := dispatch.gone ++ if answer = .refused .closed then [connection] else [] }

def finished (dispatch : Dispatch) (calls : List Call) : Dispatch :=
  { dispatch with waiting := [], gone := dispatch.gone ++ Call.closed calls }

def settle (dispatch : Dispatch) (stores : Stores) : Stores :=
  match dispatch.group with
  | none => stores
  | some group => dispatch.gone.foldl (fun stores connection => stores.evict group connection) stores

end Dispatch

namespace Operation

def registers : Operation → Option Connection
  | .connect connection => some connection
  | .register connection => some connection
  | _ => none

def joins : Operation → Option (String × ConnectionId)
  | .addToGroup group id => some (group, id)
  | .join group id => some (group, id)
  | _ => none

def dispatch (cleanup : Cleanup) (stores : Stores) : Operation → Option Dispatch
  | .invokeAll invocation excluded =>
      some ⟨invocation, (Audience.everyone excluded).listed stores, [], none⟩
  | .invokeClient id invocation => some ⟨invocation, (Audience.client id).listed stores, [], none⟩
  | .invokeGroup group invocation excluded =>
      some ⟨invocation, (Audience.members group excluded).listed stores, [],
        if cleanup = .lazy then some group else none⟩
  | .fanOut recipients invocation excluded =>
      some ⟨invocation, recipients.filter fun connection => connection.id ∉ excluded, [], none⟩
  | _ => none

end Operation

/-- The stores that a hub may come to, with the invocations under way, the latest first, and all the
operations so far. Any operation may begin at any time, also while invocations are under way, as when a
connection that is handed one asks for it. What the connections are by then, and what they answer, is left
open, and the tables may be listed anew in any order. -/
inductive Chronicle {σ : Type} (network : Network σ) (cleanup : Cleanup) :
    List Dispatch → List Undertaking → Stores → Prop
  | start : Chronicle network cleanup [] [] Stores.empty
  | perform {pending : List Dispatch} {record : List Undertaking} {world : World σ}
      (h : Chronicle network cleanup pending record world.stores) (operation : Operation)
      (quiet : operation.dispatch cleanup world.stores = none) :
      Chronicle network cleanup pending (record ++ [⟨world.stores, operation⟩])
        (world.perform network cleanup operation).2.stores
  | dispatch {pending : List Dispatch} {record : List Undertaking} {stores : Stores}
      (h : Chronicle network cleanup pending record stores) (operation : Operation)
      {dispatch : Dispatch} (begins : operation.dispatch cleanup stores = some dispatch) :
      Chronicle network cleanup (dispatch :: pending) (record ++ [⟨stores, operation⟩]) stores
  | answer {pending : List Dispatch} {record : List Undertaking} {stores : Stores}
      {dispatch : Dispatch} (h : Chronicle network cleanup (dispatch :: pending) record stores)
      {connection : Connection} {waiting : List Connection}
      (next : dispatch.waiting = connection :: waiting) (answer : Answer) :
      Chronicle network cleanup (dispatch.answered connection waiting answer :: pending) record stores
  | settle {pending : List Dispatch} {record : List Undertaking} {stores : Stores}
      {dispatch : Dispatch} (h : Chronicle network cleanup (dispatch :: pending) record stores)
      (done : dispatch.waiting = []) :
      Chronicle network cleanup pending record (dispatch.settle stores)
  | relist {pending : List Dispatch} {record : List Undertaking} {stores other : Stores}
      (h : Chronicle network cleanup pending record stores) (same : other.Same stores) :
      Chronicle network cleanup pending record other

def Request.operation : Request → Operation
  | .register connection => .register connection
  | .unregister id => .unregister id
  | .leave group id => .leave group id
  | .join group id => .join group id

def Undertaking.ofAsked (asked : List (Stores × Request)) : List Undertaking :=
  asked.map fun ask => ⟨ask.1, ask.2.operation⟩

/-- An operation, and those that the connections make while it is under way. -/
def World.undertaken {σ : Type} (network : Network σ) (cleanup : Cleanup) (world : World σ)
    (operation : Operation) : List Undertaking :=
  ⟨world.stores, operation⟩ ::
    match operation.dispatch cleanup world.stores with
    | none => []
    | some dispatch =>
        Undertaking.ofAsked (network.asked dispatch.invocation dispatch.waiting world.state)

namespace World

variable {σ : Type} (network : Network σ) (cleanup : Cleanup) (world : World σ)

theorem perform_request (request : Request) :
    (world.perform network cleanup request.operation).2 = world.grant request := by
  cases request with
  | register connection => rfl
  | unregister id => rfl
  | leave group id => rfl
  | join group id => rfl

/-- An operation that gets an invocation under way leaves what handing it to each leaves, with those that
answered that they are closed taken out of its group at the end, if they are. -/
theorem stores_perform_of_dispatch {operation : Operation} {dispatch : Dispatch}
    (h : operation.dispatch cleanup world.stores = some dispatch) :
    (world.perform network cleanup operation).2.stores =
      (dispatch.finished
        (network.calls dispatch.invocation dispatch.waiting world.state)).settle
        (dispatch.waiting.foldl (network.exchange dispatch.invocation) world.state).1 := by
  have hinvoke : ∀ audience invocation, _ := fun audience invocation =>
    congrArg Prod.fst (state_invoke network cleanup world audience invocation)
  cases operation with
  | invokeAll invocation excluded =>
      cases h
      exact hinvoke (.everyone excluded) invocation
  | invokeClient id invocation =>
      cases h
      exact hinvoke (.client id) invocation
  | invokeGroup group invocation excluded =>
      cases h
      refine (hinvoke (.members group excluded) invocation).trans ?_
      unfold Audience.settle
      by_cases hlazy : cleanup = .lazy
      · simp only [if_pos hlazy]
        rfl
      · simp only [if_neg hlazy]
        rfl
  | fanOut recipients invocation excluded =>
      cases h
      exact congrArg Prod.fst (state_fanOut network invocation excluded recipients world)
  | _ => cases h

/-- What an operation that calls nobody may do to the stores: register a connection, have an identifier
join a group, or only take away. -/
theorem quiet_cases (hsound : world.stores.Sound) {operation : Operation}
    (quiet : operation.dispatch cleanup world.stores = none) :
    let after := (world.perform network cleanup operation).2.stores
    (∃ connection, operation.registers = some connection ∧ operation.joins = none ∧
        after = world.stores.register connection) ∨
      (∃ group id, operation.joins = some (group, id) ∧ after = world.stores.join group id) ∨
      operation.joins = none ∧ after.Within world.stores := by
  intro after
  have hwithin : ∀ {stores : Stores} {peers : σ} {next : World σ}, next.state = (stores, peers) →
      stores.Within world.stores → next.stores.Within world.stores := by
    intro stores peers next hstate hless
    rw [show next.stores = stores from congrArg Prod.fst hstate]
    exact hless
  cases operation with
  | connect connection => exact .inl ⟨connection, rfl, rfl, rfl⟩
  | register connection => exact .inl ⟨connection, rfl, rfl, rfl⟩
  | addToGroup group id => exact .inr (.inl ⟨group, id, rfl, world.stores_join group id⟩)
  | join group id => exact .inr (.inl ⟨group, id, rfl, world.stores_join group id⟩)
  | disconnect connection => exact .inr (.inr ⟨rfl, within_disconnect hsound connection⟩)
  | removeFromGroup group id =>
      exact .inr (.inr ⟨rfl, hwithin (world.state_leave group id) (.leave _ group id)⟩)
  | leave group id =>
      exact .inr (.inr ⟨rfl, hwithin (world.state_leave group id) (.leave _ group id)⟩)
  | pruneGroups => exact .inr (.inr ⟨rfl, hwithin world.state_pruneGroups (.prune _)⟩)
  | sweep => exact .inr (.inr ⟨rfl, within_sweep hsound⟩)
  | unregister id => exact .inr (.inr ⟨rfl, hwithin (world.state_unregister id) (.unregister _ id)⟩)
  | removeClosed =>
      exact .inr (.inr ⟨rfl, hwithin (world.state_removeClosed network) (.detachAll _ _)⟩)
  | evict group connection =>
      exact .inr (.inr ⟨rfl,
        hwithin (world.state_evict group connection) (.evict hsound group connection)⟩)
  | leaveAll connection =>
      exact .inr (.inr ⟨rfl,
        hwithin (world.state_leaveAll connection) (.leaveAll hsound connection)⟩)
  | invokeAll invocation excluded => cases quiet
  | invokeClient id invocation => cases quiet
  | invokeGroup group invocation excluded => cases quiet
  | fanOut recipients invocation excluded => cases quiet
  | _ => exact .inr (.inr ⟨rfl, .refl world.stores⟩)

end World

namespace Chronicle

variable {σ : Type} {network : Network σ} {cleanup : Cleanup} {pending : List Dispatch}
  {record : List Undertaking}

theorem grant {stores : Stores} (h : Chronicle network cleanup pending record stores) (peers : σ)
    (request : Request) :
    Chronicle network cleanup pending (record ++ [⟨stores, request.operation⟩])
      (stores.grant request) := by
  let world : World σ := ⟨stores, peers, []⟩
  have hquiet : request.operation.dispatch cleanup world.stores = none := by
    cases request with
    | register connection => rfl
    | unregister id => rfl
    | leave group id => rfl
    | join group id => rfl
  have hstores : (world.perform network cleanup request.operation).2.stores =
      stores.grant request := by
    rw [World.perform_request]
    exact congrArg Prod.fst (world.state_grant request)
  rw [← hstores]
  exact Chronicle.perform h request.operation hquiet

theorem grants {stores : Stores} (h : Chronicle network cleanup pending record stores) (peers : σ)
    (requests : List Request) :
    Chronicle network cleanup pending (record ++ Undertaking.ofAsked (stores.asked requests))
      (requests.foldl Stores.grant stores) := by
  induction requests generalizing record stores with
  | nil =>
      rw [Stores.asked, Undertaking.ofAsked, List.map_nil, List.append_nil]
      exact h
  | cons request rest ih =>
      have hrest := ih (h.grant peers request)
      rw [List.append_assoc] at hrest
      exact hrest

theorem exchanges {dispatch : Dispatch} (state : Stores × σ)
    (h : Chronicle network cleanup (dispatch :: pending) record state.1) :
    Chronicle network cleanup
      (dispatch.finished (network.calls dispatch.invocation dispatch.waiting state) :: pending)
      (record ++ Undertaking.ofAsked (network.asked dispatch.invocation dispatch.waiting state))
      (dispatch.waiting.foldl (network.exchange dispatch.invocation) state).1 := by
  obtain ⟨invocation, waiting, gone, group⟩ := dispatch
  induction waiting generalizing record state gone with
  | nil =>
      simp only [Network.asked, Network.calls, Undertaking.ofAsked, Dispatch.finished, Call.closed,
        List.filter_nil, List.map_nil, List.append_nil]
      exact h
  | cons connection rest ih =>
      let call := network.call invocation state connection
      let next := network.exchange invocation state connection
      have hasked := h.grants state.2
        (network.send connection invocation state.1 state.2).requests
      have hrest := ih next _ (hasked.answer rfl call.answer)
      have hgone : Call.closed (network.calls invocation (connection :: rest) state) =
          (if call.answer = .refused .closed then [connection] else []) ++
            Call.closed (network.calls invocation rest next) :=
        (Call.closed_append [call] _).trans (congrArg (· ++ _) (Call.closed_singleton call))
      have hrecord : Undertaking.ofAsked (network.asked invocation (connection :: rest) state) =
          Undertaking.ofAsked
              (state.1.asked (network.send connection invocation state.1 state.2).requests) ++
            Undertaking.ofAsked (network.asked invocation rest next) :=
        List.map_append
      unfold Dispatch.finished
      simp only
      rw [hgone, hrecord, ← List.append_assoc, ← List.append_assoc]
      exact hrest

theorem of_perform {world : World σ} (h : Chronicle network cleanup pending record world.stores)
    (operation : Operation) :
    Chronicle network cleanup pending (record ++ world.undertaken network cleanup operation)
      (world.perform network cleanup operation).2.stores := by
  unfold World.undertaken
  cases hdispatch : operation.dispatch cleanup world.stores with
  | none => exact h.perform operation hdispatch
  | some dispatch =>
      have hsettled := ((h.dispatch operation hdispatch).exchanges world.state).settle rfl
      rw [List.append_assoc] at hsettled
      rw [World.stores_perform_of_dispatch network cleanup world hdispatch]
      exact hsettled

end Chronicle

/-- Worlds that a hub may come to are among those where operations begin inside others. -/
theorem Reachable.chronicle {σ : Type} {network : Network σ} {cleanup : Cleanup} {world : World σ}
    (h : Reachable network cleanup world) :
    ∃ record, Chronicle network cleanup [] record world.stores := by
  induction h with
  | fresh peers => exact ⟨[], .start⟩
  | perform _ operation ih =>
      obtain ⟨record, hrecord⟩ := ih
      exact ⟨_, hrecord.of_perform operation⟩
  | stir _ peers ih => exact ih
  | relist _ same ih =>
      obtain ⟨record, hrecord⟩ := ih
      exact ⟨record, hrecord.relist same⟩

namespace Undertaking

variable {record : List Undertaking} {group : String} {id : ConnectionId} {connection : Connection}

def Registered (record : List Undertaking) (connection : Connection) : Prop :=
  ∃ undertaking ∈ record, undertaking.operation.registers = some connection

/-- When an identifier last joined a group, a connection was attached under it that had been registered
before. Whoever tried to join since then found nobody attached. -/
def Joined (record : List Undertaking) (group : String) (id : ConnectionId)
    (connection : Connection) : Prop :=
  ∃ before last after, record = before ++ last :: after ∧
    last.operation.joins = some (group, id) ∧
    last.stores.registry.get? id = some connection ∧ Registered before connection ∧
    ∀ later ∈ after, later.operation.joins = some (group, id) →
      later.stores.registry.get? id = none

theorem Registered.append (h : Registered record connection) (more : List Undertaking) :
    Registered (record ++ more) connection := by
  obtain ⟨undertaking, hmem, hregisters⟩ := h
  exact ⟨undertaking, List.mem_append_left more hmem, hregisters⟩

theorem Registered.concat {last : Undertaking} (h : last.operation.registers = some connection) :
    Registered (record ++ [last]) connection :=
  ⟨last, List.mem_append_right record List.mem_cons_self, h⟩

theorem Joined.append (h : Joined record group id connection) {next : Undertaking}
    (hnext : next.operation.joins = some (group, id) → next.stores.registry.get? id = none) :
    Joined (record ++ [next]) group id connection := by
  obtain ⟨before, last, after, rfl, hjoins, hattached, hregistered, hafter⟩ := h
  refine ⟨before, last, after ++ [next], by simp, hjoins, hattached, hregistered, ?_⟩
  intro later hlater
  rcases List.mem_append.mp hlater with hold | hnew
  · exact hafter later hold
  · rw [List.mem_singleton.mp hnew]
    exact hnext

theorem Joined.concat {last : Undertaking} (hjoins : last.operation.joins = some (group, id))
    (hattached : last.stores.registry.get? id = some connection)
    (hregistered : Registered record connection) :
    Joined (record ++ [last]) group id connection :=
  ⟨record, last, [], rfl, hjoins, hattached, hregistered, fun _ hlater =>
    absurd hlater List.not_mem_nil⟩

end Undertaking

/-- Whoever the stores hold came there by the operations so far. -/
structure Stores.Traced (record : List Undertaking) (stores : Stores) : Prop where
  sound : stores.Sound
  attached : ∀ id connection, stores.registry.get? id = some connection →
    Undertaking.Registered record connection
  member : ∀ group id connection, stores.member group id = some connection →
    Undertaking.Joined record group id connection

namespace Stores.Traced

variable {record : List Undertaking} {stores : Stores} {operation : Operation}

theorem empty : Stores.empty.Traced [] where
  sound := Sound.empty
  attached id connection hget := absurd hget (by simp [Stores.empty])
  member group id connection hget := absurd hget (by simp)

theorem of_within (h : stores.Traced record) {other : Stores} (hsound : other.Sound)
    (within : other.Within stores) : other.Traced record where
  sound := hsound
  attached id connection hget := h.attached id connection (within.attached id connection hget)
  member group id connection hget :=
    h.member group id connection (within.member group id connection hget)

theorem of_same (h : stores.Traced record) {other : Stores} (same : other.Same stores) :
    other.Traced record :=
  h.of_within (h.sound.of_same same) {
    attached := fun id _ hget => same.attached id ▸ hget
    member := fun group id _ hget => same.members group id ▸ hget }

/-- An operation that has nobody join adds nothing that a member must answer for. -/
theorem append (h : stores.Traced record) (hjoins : operation.joins = none) :
    stores.Traced (record ++ [⟨stores, operation⟩]) where
  sound := h.sound
  attached id connection hget := (h.attached id connection hget).append _
  member group id connection hget :=
    (h.member group id connection hget).append fun hjoin => by
      rw [hjoins] at hjoin
      cases hjoin

theorem register (h : stores.Traced record) {connection : Connection}
    (hregisters : operation.registers = some connection) (hjoins : operation.joins = none) :
    (stores.register connection).Traced (record ++ [⟨stores, operation⟩]) where
  sound := h.sound.register connection
  attached id found hget := by
    change (stores.registry.attach connection).get? id = some found at hget
    rw [Registry.get?_attach] at hget
    split at hget
    · rw [← Option.some.inj hget]
      exact .concat hregisters
    · exact (h.attached id found hget).append _
  member := (h.append hjoins).member

theorem join (h : stores.Traced record) {group : String} {id : ConnectionId}
    (hjoins : operation.joins = some (group, id)) :
    (stores.join group id).Traced (record ++ [⟨stores, operation⟩]) where
  sound := h.sound.join group id
  attached key connection hget := by
    rw [registry_join] at hget
    exact (h.attached key connection hget).append _
  member other key member hget := by
    cases hattached : stores.registry.get? id with
    | none =>
        rw [join_of_not_attached hattached] at hget
        apply (h.member other key member hget).append
        intro hjoin
        rw [hjoins] at hjoin
        cases hjoin
        exact hattached
    | some connection =>
        have hid : connection.id = id := h.sound.registry id connection hattached
        rw [member_join hattached, hid] at hget
        split at hget
        · rename_i hplace
          obtain ⟨rfl, rfl⟩ := hplace
          rw [← Option.some.inj hget]
          exact .concat hjoins hattached (h.attached key connection hattached)
        · rename_i hplace
          apply (h.member other key member hget).append
          intro hjoin
          rw [hjoins] at hjoin
          cases hjoin
          exact absurd ⟨rfl, rfl⟩ hplace

theorem settle (h : stores.Traced record) (dispatch : Dispatch) :
    (dispatch.settle stores).Traced record := by
  unfold Dispatch.settle
  split
  · exact h
  · rename_i group hgroup
    induction dispatch.gone generalizing stores with
    | nil => exact h
    | cons connection rest ih =>
        exact ih (h.of_within (h.sound.evict group connection) (.evict h.sound group connection))

end Stores.Traced

namespace Chronicle

variable {σ : Type} {network : Network σ} {cleanup : Cleanup} {pending : List Dispatch}
  {record : List Undertaking} {stores : Stores}

theorem traced (h : Chronicle network cleanup pending record stores) : stores.Traced record := by
  -- An operation is recorded with the stores before its own change, so one that joins finds there the
  -- connection that becomes a member; any other leaves to the members what they already answer for.
  induction h with
  | start => exact Stores.Traced.empty
  | @perform pending record world _ operation quiet ih =>
      rcases world.quiet_cases network cleanup ih.sound quiet with
        ⟨connection, hregisters, hjoins, hafter⟩ | ⟨group, id, hjoins, hafter⟩ | ⟨hjoins, within⟩
      · rw [hafter]
        exact ih.register hregisters hjoins
      · rw [hafter]
        exact ih.join hjoins
      · exact (ih.append hjoins).of_within (World.sound_perform network cleanup ih.sound operation)
          within
  | @dispatch pending record stores _ operation dispatch begins ih =>
      apply ih.append
      cases operation with
      | invokeAll invocation excluded => rfl
      | invokeClient id invocation => rfl
      | invokeGroup group invocation excluded => rfl
      | fanOut recipients invocation excluded => rfl
      | _ => cases begins
  | answer _ next answer ih => exact ih
  | settle _ done ih => exact ih.settle _
  | relist _ same ih => exact ih.of_same same

end Chronicle

namespace Keyed

variable {t : Table ConnectionId Connection}

theorem contains_eq (h : Keyed t) (id : ConnectionId) :
    t.contains id = decide (id ∈ t.values.map Connection.id) := by
  rw [h.map_id_values, Bool.eq_iff_iff, decide_eq_true_eq, Table.mem_keys_iff]
  rfl

theorem find?_values (h : Keyed t) (id : ConnectionId) :
    t.values.find? (fun connection => connection.id = id) = t.get? id := by
  cases hget : t.get? id with
  | none =>
      rw [List.find?_eq_none]
      intro connection hmem hid
      rw [h.mem_values_iff, of_decide_eq_true hid, hget] at hmem
      cases hmem
  | some connection =>
      have hid : connection.id = id := h id connection hget
      cases hfind : t.values.find? fun other => other.id = id with
      | none =>
          have hmem : connection ∈ t.values := (h.mem_values_iff connection).mpr (hid ▸ hget)
          exact absurd (decide_eq_true hid) (List.find?_eq_none.mp hfind connection hmem)
      | some other =>
          have hother : other.id = id := by simpa using List.find?_some hfind
          have hmem := List.mem_of_find?_eq_some hfind
          rw [h.mem_values_iff, hother, hget] at hmem
          exact hmem.symm

end Keyed

section

variable {σ : Type} (network : Network σ) (cleanup : Cleanup)

/-- All views of the attached connections show the same ones, no two of which have one identifier. -/
structure World.ShowsAttached (world : World σ) (attached : List Connection) : Prop where
  nodup : (attached.map Connection.id).Nodup
  snapshot : (world.perform network cleanup .snapshot).1 = .connections attached
  ids : (world.perform network cleanup .connectionIds).1 = .ids (attached.map Connection.id)
  count : (world.perform network cleanup .connectionCount).1 = .count attached.length
  contains : ∀ id, (world.perform network cleanup (.contains id)).1 =
    .flag (decide (id ∈ attached.map Connection.id))
  lookup : ∀ id, (world.perform network cleanup (.lookup id)).1 =
    .found (attached.find? fun connection => connection.id = id)

/-- All views of a group show the same members, no two of which have one identifier. -/
structure World.ShowsMembers (world : World σ) (group : String) (members : List Connection) :
    Prop where
  nodup : (members.map Connection.id).Nodup
  listed : (world.perform network cleanup (.members group)).1 = .connections members
  ids : (world.perform network cleanup (.memberIds group)).1 = .ids (members.map Connection.id)
  contains : ∀ id, (world.perform network cleanup (.containsMember group id)).1 =
    .flag (decide (id ∈ members.map Connection.id))

theorem World.showsAttached {world : World σ} (h : world.stores.Sound) :
    world.ShowsAttached network cleanup world.stores.registry.values where
  nodup := by
    rw [h.registry.map_id_values]
    exact world.stores.registry.nodup
  snapshot := rfl
  ids := congrArg Reply.ids h.registry.map_id_values.symm
  count := congrArg Reply.count (List.length_map _).symm
  contains id := congrArg Reply.flag (h.registry.contains_eq id)
  lookup id := congrArg Reply.found (h.registry.find?_values id).symm

theorem World.showsMembers {world : World σ} (h : world.stores.Sound) (group : String) :
    world.ShowsMembers network cleanup group (world.stores.groups.membersOf group) where
  nodup := by
    have hids : (world.stores.groups.membersOf group).map Connection.id =
        (world.stores.groups.group group).members.keys := (h.members group).map_id_values
    rw [hids]
    exact (world.stores.groups.group group).members.nodup
  listed := rfl
  ids := congrArg Reply.ids (h.members group).map_id_values.symm
  contains id := congrArg Reply.flag ((h.members group).contains_eq id)

/-- Whatever the stores come to, also by operations that begin inside others: each connection is attached
under its own identifier; each group stands under its own name, and each member under its own identifier,
one for each; each member had been registered, and was attached under its identifier, when that last joined
the group; and all views of the attached connections show the same, as do all views of a group, which are
empty where there is no such group. -/
theorem stores_consistent :
    (∀ world, Reachable network cleanup world →
      ∃ record, Chronicle network cleanup [] record world.stores) ∧
    ∀ pending record (world : World σ), Chronicle network cleanup pending record world.stores →
      (∀ id connection, world.stores.registry.get? id = some connection → connection.id = id) ∧
      (∀ name group, world.stores.groups.get? name = some group →
        group.name = name ∧ group.memberIds.Nodup ∧
          ∀ id member, group.members.get? id = some member → member.id = id) ∧
      (∀ group id member, world.stores.member group id = some member →
        Undertaking.Joined record group id member) ∧
      (∃ attached, world.ShowsAttached network cleanup attached) ∧
      ∀ group, ∃ members, world.ShowsMembers network cleanup group members ∧
        (world.stores.groups.get? group = none → members = []) := by
  refine ⟨fun world hreach => hreach.chronicle, ?_⟩
  intro pending record world hchronicle
  have htraced : world.stores.Traced record := hchronicle.traced
  have hsound : world.stores.Sound := htraced.sound
  refine ⟨hsound.registry, ?_, htraced.member, ⟨_, world.showsAttached network cleanup hsound⟩, ?_⟩
  · intro name group hget
    have hkeyed := hsound.members name
    rw [Directory.group_eq hget] at hkeyed
    exact ⟨hsound.named name group hget, group.members.nodup, hkeyed⟩
  · intro group
    refine ⟨_, world.showsMembers network cleanup hsound group, ?_⟩
    intro hnone
    unfold Directory.membersOf Directory.group
    rw [hnone]
    rfl

end

/-- A client comes back while its old connection is handed an invocation of a room. Meanwhile another
invocation is sent, and while the new connection is handed that one it joins the room. The old connection
turns out to be closed, and it is the new one that is left in the room. -/
theorem stores_consistent_nested_return :
    let old : Connection := ⟨0, ⟨"client"⟩⟩
    let new : Connection := ⟨1, ⟨"client"⟩⟩
    let hello : Invocation := ⟨"hello", []⟩
    let start : World Peers := World.fresh Peers.empty
    let attached := (start.perform Peers.network .lazy (.connect old)).2
    let entered := (attached.perform Peers.network .lazy (.addToGroup "room" old.id)).2
    let returned := (entered.perform Peers.network .lazy (.connect new)).2
    let joined := (returned.perform Peers.network .lazy (.join "room" new.id)).2
    let record : List Undertaking :=
      [⟨start.stores, .connect old⟩, ⟨attached.stores, .addToGroup "room" old.id⟩,
        ⟨entered.stores, .invokeGroup "room" hello []⟩, ⟨entered.stores, .connect new⟩,
        ⟨returned.stores, .invokeAll hello []⟩, ⟨returned.stores, .join "room" new.id⟩]
    let world : World Peers := { joined with stores := joined.stores.evict "room" old }
    Chronicle Peers.network .lazy [] record world.stores ∧
      world.stores.member "room" new.id = some new ∧
      Undertaking.Joined record "room" new.id new ∧
      (∃ members, world.ShowsMembers Peers.network .lazy "room" members) ∧
      (world.perform Peers.network .lazy (.members "room")).1 = .connections [new] := by
  intro old new hello start attached entered returned joined record world
  have hstart : Chronicle Peers.network .lazy [] [] start.stores := .start
  have hentered : Chronicle Peers.network .lazy [] _ entered.stores :=
    (hstart.perform (.connect old) rfl).perform (.addToGroup "room" old.id) rfl
  have hreturned : Chronicle Peers.network .lazy [_] _ returned.stores :=
    (hentered.dispatch (.invokeGroup "room" hello []) rfl).perform (.connect new) rfl
  have hjoined : Chronicle Peers.network .lazy [_, _] _ joined.stores :=
    (hreturned.dispatch (.invokeAll hello []) rfl).perform (.join "room" new.id) rfl
  have hsettled := ((hjoined.answer rfl .accepted).settle rfl).answer rfl (.refused .closed)
  have hworld : Chronicle Peers.network .lazy [] record world.stores := hsettled.settle rfl
  have hmember : world.stores.member "room" new.id = some new := by decide
  obtain ⟨-, hconsistent⟩ := stores_consistent Peers.network .lazy
  obtain ⟨-, -, hjoins, -, hshows⟩ := hconsistent [] record world hworld
  obtain ⟨members, hmembers, -⟩ := hshows "room"
  exact ⟨hworld, hmember, hjoins "room" new.id new hmember, ⟨members, hmembers⟩, by decide⟩

end Switchboard
