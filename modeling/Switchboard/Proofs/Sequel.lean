import Switchboard.Proofs.Detach
import Switchboard.Proofs.History

/-!
What a hub goes through from one world to another: commands, and between them whatever happens to the
connections on their own. Each command is kept with the world in which it is given, so that what it asks
of the stores and whom it calls can be told afterwards.
-/

namespace Switchboard

def Stores.asked (stores : Stores) : List Request → List (Stores × Request)
  | [] => []
  | request :: rest => (stores, request) :: asked (stores.grant request) rest

theorem Stores.keeps_grants {P : Stores → Prop} {requests : List Request} {stores : Stores}
    (hasked : ∀ ask ∈ stores.asked requests, P ask.1 → P (ask.1.grant ask.2))
    (h : P stores) : P (requests.foldl Stores.grant stores) := by
  induction requests generalizing stores with
  | nil => exact h
  | cons request rest ih =>
      apply ih
      · intro ask hask
        exact hasked ask (List.mem_cons_of_mem _ hask)
      · exact hasked (stores, request) List.mem_cons_self h

namespace Network

variable {σ : Type} (network : Network σ) (invocation : Invocation)

def asked : List Connection → Stores × σ → List (Stores × Request)
  | [], _ => []
  | connection :: rest, state =>
      state.1.asked (network.send connection invocation state.1 state.2).requests ++
        asked rest (network.exchange invocation state connection)

theorem keeps_exchanges {P : Stores → Prop} {order : List Connection} {state : Stores × σ}
    (hasked : ∀ ask ∈ network.asked invocation order state, P ask.1 → P (ask.1.grant ask.2))
    (h : P state.1) : P (order.foldl (network.exchange invocation) state).1 := by
  induction order generalizing state with
  | nil => exact h
  | cons connection rest ih =>
      apply ih
      · intro ask hask
        exact hasked ask (List.mem_append_right _ hask)
      · apply Stores.keeps_grants _ h
        intro ask hask
        exact hasked ask (List.mem_append_left _ hask)

end Network

/-- A command that calls no connection. -/
def Command.Quiet (command : Command) : Prop :=
  ∀ audience invocation, command ≠ .invoke audience invocation

theorem Command.quiet_or_invoke (command : Command) :
    command.Quiet ∨ ∃ audience invocation, command = .invoke audience invocation := by
  unfold Quiet
  cases command with
  | invoke audience invocation => exact .inr ⟨audience, invocation, rfl⟩
  | _ => exact .inl fun _ _ hinvoke => by cases hinvoke

section

variable {σ : Type} (network : Network σ) (cleanup : Cleanup) (world : World σ) {command : Command}

theorem World.peers_of_quiet (h : command.Quiet) :
    (world.perform network cleanup command.operation).2.peers = world.peers := by
  have hpeers : ∀ {after : World σ} {stores : Stores}, after.state = (stores, world.peers) →
      after.peers = world.peers := fun hstate => congrArg Prod.snd hstate
  cases command with
  | connect connection => rfl
  | disconnect connection => exact hpeers (state_disconnect cleanup world connection)
  | addToGroup group id => exact hpeers (world.state_join group id)
  | removeFromGroup group id => exact hpeers (world.state_leave group id)
  | invoke audience invocation => exact absurd rfl (h audience invocation)
  | pruneGroups => exact hpeers world.state_pruneGroups
  | sweep => exact hpeers (state_sweep network cleanup world)

theorem World.calls_of_quiet (h : command.Quiet) :
    world.calls network cleanup command.operation = [] := by
  have hpeers := peers_of_quiet network.recorded cleanup world.recorded h
  exact congrArg Prod.snd hpeers

end

/-- A command and the world in which it is given. -/
structure Deed (σ : Type) where
  world : World σ
  command : Command

namespace Deed

variable {σ : Type} (network : Network σ) (cleanup : Cleanup)

def after (deed : Deed σ) : World σ :=
  (deed.world.perform network cleanup deed.command.operation).2

def calls (deed : Deed σ) : List Call :=
  deed.world.calls network cleanup deed.command.operation

/-- What is asked of the stores by a command, or by the connections that it calls. A connection that
comes is registered; one that goes, a sweep and a pruning are the hub's own work. -/
def asked (deed : Deed σ) : List (Stores × Request) :=
  match deed.command with
  | .connect connection => [(deed.world.stores, .register connection)]
  | .addToGroup group id => [(deed.world.stores, .join group id)]
  | .removeFromGroup group id => [(deed.world.stores, .leave group id)]
  | .invoke audience invocation =>
      network.asked invocation (audience.listed deed.world.stores) deed.world.state
  | .disconnect _ => []
  | .pruneGroups => []
  | .sweep => []

/-- The connections that are registered in the course of a deed. -/
def registered (deed : Deed σ) : List Connection :=
  (deed.asked network).filterMap fun
    | (_, .register connection) => some connection
    | _ => none

theorem mem_registered_iff (deed : Deed σ) (connection : Connection) :
    connection ∈ deed.registered network ↔
      ∃ stores, (stores, .register connection) ∈ deed.asked network := by
  unfold registered
  rw [List.mem_filterMap]
  constructor
  · rintro ⟨⟨stores, request⟩, hask, hregister⟩
    cases request with
    | register other =>
        cases hregister
        exact ⟨stores, hask⟩
    | unregister id => cases hregister
    | leave group id => cases hregister
    | join group id => cases hregister
  · rintro ⟨stores, hask⟩
    exact ⟨_, hask, rfl⟩

theorem keeps {P : Stores → Prop} {deed : Deed σ}
    (hasked : ∀ ask ∈ deed.asked network, P ask.1 → P (ask.1.grant ask.2))
    (hevict : ∀ stores group connection, P stores → P (stores.evict group connection))
    (hprune : ∀ stores, P stores → P stores.prune)
    (hdisconnect : ∀ connection, deed.command = .disconnect connection → P deed.world.stores →
      P (deed.world.disconnect cleanup connection).stores)
    (hsweep : P deed.world.stores → P (deed.world.sweep network cleanup).2.stores)
    (h : P deed.world.stores) : P (deed.after network cleanup).stores := by
  obtain ⟨world, command⟩ := deed
  cases command with
  | connect connection => exact hasked _ List.mem_cons_self h
  | disconnect connection => exact hdisconnect connection rfl h
  | addToGroup group id =>
      change P (world.join group id).2.stores
      rw [World.stores_join]
      exact hasked _ List.mem_cons_self h
  | removeFromGroup group id =>
      change P (world.leave group id).2.stores
      rw [World.stores_leave]
      exact hasked _ List.mem_cons_self h
  | invoke audience invocation =>
      have hsent := network.keeps_exchanges invocation hasked h
      have hstate := World.state_invoke network cleanup world audience invocation
      rw [show (after network cleanup ⟨world, .invoke audience invocation⟩).stores = _ from
        congrArg Prod.fst hstate]
      unfold Audience.settle
      split
      · split
        · exact List.foldlRecOn _ _ hsent fun stores hkept connection _ => hevict _ _ _ hkept
        · exact hsent
      · exact hsent
  | pruneGroups =>
      change P world.pruneGroups.2.stores
      rw [World.stores_pruneGroups]
      exact hprune _ h
  | sweep => exact hsweep h

/-- Only an invocation calls connections, and only those of its audience. -/
theorem includes_of_called {deed : Deed σ} (h : deed.world.stores.Sound) {connection : Connection}
    (hcalled : connection ∈ (deed.calls network cleanup).map Call.connection) :
    ∃ audience : Audience, audience.Includes deed.world.stores connection := by
  obtain ⟨world, command⟩ := deed
  rcases command.quiet_or_invoke with hquiet | ⟨audience, invocation, rfl⟩
  · have hnone : calls network cleanup ⟨world, command⟩ = [] :=
      World.calls_of_quiet network cleanup world hquiet
    rw [hnone] at hcalled
    exact absurd hcalled List.not_mem_nil
  · exact ⟨audience, (World.called_iff network cleanup h audience invocation connection).mp hcalled⟩

end Deed

/-- The worlds that may follow on a world, with the deeds that lead there. Between the commands the
connections may change on their own, and the tables may be listed anew in any order. -/
inductive Sequel {σ : Type} (network : Network σ) (cleanup : Cleanup) (start : World σ) :
    List (Deed σ) → World σ → Prop
  | start : Sequel network cleanup start [] start
  | perform {deeds : List (Deed σ)} {world : World σ} (h : Sequel network cleanup start deeds world)
      (command : Command) :
      Sequel network cleanup start (deeds ++ [⟨world, command⟩])
        (Deed.after network cleanup ⟨world, command⟩)
  | stir {deeds : List (Deed σ)} {world : World σ} (h : Sequel network cleanup start deeds world)
      (peers : σ) : Sequel network cleanup start deeds { world with peers }
  | relist {deeds : List (Deed σ)} {world : World σ} (h : Sequel network cleanup start deeds world)
      {stores : Stores} (same : stores.Same world.stores) :
      Sequel network cleanup start deeds { world with stores }

def World.deeds {σ : Type} (network : Network σ) (cleanup : Cleanup) (world : World σ) :
    List Command → List (Deed σ)
  | [] => []
  | command :: rest =>
      ⟨world, command⟩ :: deeds network cleanup (Deed.after network cleanup ⟨world, command⟩) rest

namespace Sequel

variable {σ : Type} {network : Network σ} {cleanup : Cleanup} {start world : World σ}
  {deeds : List (Deed σ)}

theorem append_deeds (h : Sequel network cleanup start deeds world) (commands : List Command) :
    Sequel network cleanup start (deeds ++ world.deeds network cleanup commands)
      (world.run network cleanup (commands.map Command.operation)).2 := by
  induction commands generalizing deeds world with
  | nil =>
      rw [World.deeds, List.append_nil]
      exact h
  | cons command rest ih =>
      have hrest := ih (h.perform command)
      rw [List.append_assoc] at hrest
      exact hrest

theorem run (network : Network σ) (cleanup : Cleanup) (world : World σ) (commands : List Command) :
    Sequel network cleanup world (world.deeds network cleanup commands)
      (world.run network cleanup (commands.map Command.operation)).2 :=
  Sequel.start.append_deeds commands

/-- What each deed keeps, and what does not depend on the order in which the tables are listed, holds
of every world on the way. -/
theorem keeps {P : Stores → Prop} (h : Sequel network cleanup start deeds world)
    (hsame : ∀ stores other, P stores → other.Same stores → P other)
    (hdeed : ∀ deed ∈ deeds, P deed.world.stores → P (deed.after network cleanup).stores)
    (hstart : P start.stores) :
    P world.stores ∧ ∀ deed ∈ deeds, P deed.world.stores := by
  induction h with
  | start => exact ⟨hstart, fun deed hmem => absurd hmem List.not_mem_nil⟩
  | @perform deeds world _ command ih =>
      obtain ⟨hworld, hdeeds⟩ := ih fun deed hmem => hdeed deed (List.mem_append_left _ hmem)
      refine ⟨hdeed ⟨world, command⟩ (by simp) hworld, ?_⟩
      intro deed hmem
      rcases List.mem_append.mp hmem with hbefore | hlast
      · exact hdeeds deed hbefore
      · rw [List.mem_singleton.mp hlast]
        exact hworld
  | stir _ peers ih => exact ih hdeed
  | relist _ same ih =>
      obtain ⟨hworld, hdeeds⟩ := ih hdeed
      exact ⟨hsame _ _ hworld same, hdeeds⟩

theorem sound (h : Sequel network cleanup start deeds world) (hstart : start.stores.Sound) :
    world.stores.Sound ∧ ∀ deed ∈ deeds, deed.world.stores.Sound :=
  h.keeps (fun _ _ hsound same => hsound.of_same same)
    (fun deed _ hsound => World.sound_perform network cleanup hsound deed.command.operation) hstart

end Sequel

end Switchboard
