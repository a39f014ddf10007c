import Switchboard.Proofs.Detach
import Switchboard.Proofs.History
import Switchboard.Proofs.Recording

namespace Switchboard

open History

def World.take (cleanup : Cleanup) (world : World Peers) : Step → World Peers
  | .command command => (world.perform Peers.network cleanup command.operation).2
  | .close connection => { world with peers := world.peers.close connection }

/-- The worlds that a history may lead to, from a new hub over connections that keep records. The
stores may list their entries anew in any order at any time. -/
inductive Course (cleanup : Cleanup) : List Step → World Peers → Prop
  | start : Course cleanup [] (World.fresh Peers.empty)
  | next {history : List Step} {world : World Peers} (h : Course cleanup history world)
      (step : Step) : Course cleanup (history ++ [step]) (world.take cleanup step)
  | relist {history : List Step} {world : World Peers} (h : Course cleanup history world)
      {stores : Stores} (same : stores.Same world.stores) :
      Course cleanup history { world with stores }

theorem exists_course (cleanup : Cleanup) (history : List Step) :
    ∃ world, Course cleanup history world := by
  induction history using List.reverseRecOn with
  | nil => exact ⟨_, .start⟩
  | append_singleton history step ih =>
      obtain ⟨world, hcourse⟩ := ih
      exact ⟨_, hcourse.next step⟩

namespace History

variable (cleanup : Cleanup) (history : List Step) (step : Step) (connection : Connection)

theorem closed_concat : closed (history ++ [step]) connection =
    (closed history connection || closed [step] connection) := by
  simp [closed]

theorem attempts_concat : attempts cleanup (history ++ [step]) connection =
    attempts cleanup history connection +
      if (meant cleanup connection ⟨history, step⟩).isSome then 1 else 0 := by
  unfold attempts
  rw [moments_concat, List.countP_append, List.countP_singleton]

theorem received_concat : received cleanup (history ++ [step]) connection =
    received cleanup history connection ++
      if closed history connection then []
      else (meant cleanup connection ⟨history, step⟩).toList := by
  unfold received
  rw [moments_concat, List.filter_append, List.filterMap_append]
  cases hclosed : closed history connection with
  | true => simp [hclosed]
  | false =>
      cases hmeant : meant cleanup connection ⟨history, step⟩ with
      | none => simp [hclosed, hmeant]
      | some invocation => simp [hclosed, hmeant]

theorem mem_connected_of_attached {history : List Step} {connection : Connection}
    (h : Attached history connection) : connection ∈ connected history := by
  induction history using List.reverseRecOn with
  | nil => exact absurd h (not_since_nil _ _)
  | append_singleton history step ih =>
      unfold connected at ih ⊢
      rw [List.filterMap_append, List.mem_append]
      rcases (since_concat_iff _ _ history step).mp h with hattaches | ⟨hheld, -⟩
      · right
        unfold attaches at hattaches
        split at hattaches
        · rename_i other hstep
          simp only at hstep
          rw [hstep, ← of_decide_eq_true hattaches]
          exact List.mem_singleton_self other
        · exact absurd hattaches (by simp)
      · exact .inl (ih hheld)

end History

/-- The stores and the connections are what the history tells. -/
structure Agrees (cleanup : Cleanup) (history : List Step) (world : World Peers) : Prop where
  sound : world.stores.Sound
  attached : ∀ connection, world.stores.registry.get? connection.id = some connection ↔
    Attached history connection
  member : ∀ group connection, world.stores.member group connection.id = some connection ↔
    InGroup cleanup history group connection
  peer : ∀ connection, world.peers.peer connection =
    .recorder (received cleanup history connection) (closed history connection)
      (attempts cleanup history connection)

namespace Agrees

variable {cleanup : Cleanup} {history : List Step} {world : World Peers}

theorem recording (h : Agrees cleanup history world) : world.peers.Recording := by
  intro connection
  exact ⟨_, _, _, h.peer connection⟩

theorem isClosed_eq (h : Agrees cleanup history world) (connection : Connection) :
    world.peers.isClosed connection = closed history connection :=
  Peers.isClosed_of_recorder (h.peer connection)

theorem superseded_iff (h : Agrees cleanup history world) (connection : Connection) :
    Superseded history connection ↔
      ∃ other, world.stores.registry.get? connection.id = some other ∧ other ≠ connection := by
  unfold Superseded
  constructor
  · rintro ⟨other, -, hid, hne, hattached⟩
    rw [← h.attached, hid] at hattached
    exact ⟨other, hattached, hne⟩
  · rintro ⟨other, hget, hne⟩
    have hid : other.id = connection.id := h.sound.registry _ _ hget
    have hattached : Attached history other := by
      rw [← h.attached, hid]
      exact hget
    exact ⟨other, mem_connected_of_attached hattached, hid, hne, hattached⟩

theorem includes_iff (h : Agrees cleanup history world) (audience : Audience)
    (connection : Connection) :
    audience.Includes world.stores connection ↔
      Targeted cleanup history connection audience := by
  cases audience with
  | everyone excluded => exact and_congr_left fun _ => h.attached connection
  | client id =>
      change world.stores.registry.get? id = some connection ↔
        id = connection.id ∧ Attached history connection
      rw [← h.attached]
      constructor
      · intro hget
        have hid : connection.id = id := h.sound.registry _ _ hget
        subst hid
        exact ⟨rfl, hget⟩
      · rintro ⟨rfl, hget⟩
        exact hget
  | members group excluded => exact and_congr_left fun _ => h.member group connection

theorem attached_take (h : Agrees cleanup history world) (step : Step)
    (connection : Connection) :
    (world.take cleanup step).stores.registry.get? connection.id = some connection ↔
      attaches connection ⟨history, step⟩ = true ∨
        world.stores.registry.get? connection.id = some connection ∧
          detaches connection ⟨history, step⟩ = false := by
  cases step with
  | close other => simp [World.take, attaches, detaches]
  | command command =>
      cases command with
      | connect other =>
          change (world.stores.registry.attach other).get? connection.id = some connection ↔ _
          rw [Registry.get?_attach]
          by_cases hid : connection.id = other.id
          · simp [attaches, detaches, hid]
          · have hne : other ≠ connection := by
              rintro rfl
              exact hid rfl
            simp [attaches, detaches, hid, Ne.symm hid, hne]
      | disconnect other =>
          change (world.disconnect cleanup other).stores.registry.get? connection.id =
            some connection ↔ _
          rw [get?_disconnect]
          by_cases hid : connection.id = other.id
          · simp [attaches, detaches, hid]
          · simp [attaches, detaches, hid, Ne.symm hid]
      | addToGroup group id =>
          change (world.join group id).2.stores.registry.get? connection.id = some connection ↔ _
          rw [World.stores_join, Stores.registry_join]
          simp [attaches, detaches]
      | removeFromGroup group id =>
          change (world.leave group id).2.stores.registry.get? connection.id = some connection ↔ _
          rw [World.stores_leave]
          simp [Stores.leave, attaches, detaches]
      | invoke audience invocation =>
          obtain ⟨hstores, -⟩ :=
            state_invoke_recording cleanup h.sound h.recording audience invocation
          change (world.perform Peers.network cleanup
            (audience.operation invocation)).2.stores.registry.get? connection.id = _ ↔ _
          rw [hstores, Audience.registry_settle]
          simp [attaches, detaches]
      | pruneGroups =>
          change world.pruneGroups.2.stores.registry.get? connection.id = some connection ↔ _
          rw [World.stores_pruneGroups]
          simp [Stores.prune, attaches, detaches]
      | sweep =>
          change (world.sweep Peers.network cleanup).2.stores.registry.get? connection.id =
            some connection ↔ _
          have hclosed : Peers.network.isClosed connection world.peers =
              closed history connection := h.isClosed_eq connection
          rw [get?_sweep, Option.filter_eq_some_iff, hclosed]
          simp [attaches, detaches]

theorem member_join_iff (h : Agrees cleanup history world) (name group : String)
    (id : ConnectionId) (connection : Connection) :
    (world.stores.join name id).member group connection.id = some connection ↔
      enters group connection ⟨history, .command (.addToGroup name id)⟩ = true ∨
        world.stores.member group connection.id = some connection ∧
          exits cleanup group connection ⟨history, .command (.addToGroup name id)⟩ = false := by
  have hattached := h.attached connection
  have hsuperseded := h.superseded_iff connection
  by_cases hplace : name = group ∧ id = connection.id
  · obtain ⟨rfl, rfl⟩ := hplace
    simp only [enters, exits, decide_true, Bool.true_and, decide_eq_true_eq,
      decide_eq_false_iff_not, ← hattached, hsuperseded]
    cases hget : world.stores.registry.get? connection.id with
    | none =>
        rw [Stores.join_of_not_attached hget]
        simp
    | some other =>
        have hid : other.id = connection.id := h.sound.registry _ _ hget
        rw [Stores.member_join hget, if_pos ⟨rfl, hid.symm⟩]
        by_cases hsame : other = connection
        · simp [hsame]
        · simp [hsame]
  · have hquiet : enters group connection ⟨history, .command (.addToGroup name id)⟩ = false ∧
        exits cleanup group connection ⟨history, .command (.addToGroup name id)⟩ = false := by
      simp only [enters, exits, Bool.and_eq_false_iff, decide_eq_false_iff_not]
      tauto
    rw [hquiet.1, hquiet.2]
    cases hget : world.stores.registry.get? id with
    | none =>
        rw [Stores.join_of_not_attached hget]
        simp
    | some other =>
        have hid : other.id = id := h.sound.registry _ _ hget
        rw [Stores.member_join hget, if_neg ?_]
        · simp
        · rintro ⟨rfl, hkey⟩
          exact hplace ⟨rfl, hid.symm.trans hkey.symm⟩

theorem member_invoke_iff (h : Agrees cleanup history world) (audience : Audience)
    (invocation : Invocation) (group : String) (connection : Connection) :
    let step := Step.command (.invoke audience invocation)
    (world.take cleanup step).stores.member group connection.id = some connection ↔
      world.stores.member group connection.id = some connection ∧
        exits cleanup group connection ⟨history, step⟩ = false := by
  intro step
  obtain ⟨hstores, -⟩ :=
    state_invoke_recording cleanup h.sound h.recording audience invocation
  change (world.perform Peers.network cleanup
    (audience.operation invocation)).2.stores.member group connection.id = _ ↔ _
  rw [hstores]
  cases audience with
  | everyone excluded => simp [step, Audience.settle, exits]
  | client id => simp [step, Audience.settle, exits]
  | members name excluded =>
      rcases eq_or_ne cleanup .lazy with rfl | hlazy
      · change (List.foldl (fun stores connection => stores.evict name connection) world.stores
          _).member group connection.id = _ ↔ _
        rw [Stores.member_foldl_evict h.sound]
        rcases eq_or_ne group name with rfl | hname
        · rw [if_pos rfl, Option.filter_eq_some_iff]
          refine and_congr_right fun hmember => ?_
          have hlisted : connection ∈ (Audience.members group excluded).listed world.stores ↔
              connection.id ∉ excluded := by
            rw [Audience.mem_listed_iff h.sound]
            exact and_iff_right hmember
          rw [decide_eq_true_eq, List.mem_filter, hlisted, h.isClosed_eq]
          simp [step, exits]
        · rw [if_neg hname]
          simp [step, exits, Ne.symm hname]
      · rw [Audience.settle_eq_self (.inl hlazy)]
        simp [step, exits, hlazy]

theorem member_take (h : Agrees cleanup history world) (step : Step) (group : String)
    (connection : Connection) :
    (world.take cleanup step).stores.member group connection.id = some connection ↔
      enters group connection ⟨history, step⟩ = true ∨
        world.stores.member group connection.id = some connection ∧
          exits cleanup group connection ⟨history, step⟩ = false := by
  cases step with
  | close other => simp [World.take, enters, exits]
  | command command =>
      cases command with
      | connect other =>
          change (world.stores.register other).member group connection.id = some connection ↔ _
          simp [Stores.register, Stores.member, enters, exits]
      | disconnect other =>
          change (world.disconnect cleanup other).stores.member group connection.id =
            some connection ↔ _
          rw [member_disconnect h.sound]
          by_cases hpolicy : cleanup = .onDisconnect
          · rw [if_pos hpolicy, Option.filter_eq_some_iff]
            simp only [decide_eq_true_eq, enters, exits, hpolicy]
            grind
          · rw [if_neg hpolicy]
            simp [enters, exits, hpolicy]
      | addToGroup name id =>
          change (world.join name id).2.stores.member group connection.id = some connection ↔ _
          rw [World.stores_join]
          exact h.member_join_iff name group id connection
      | removeFromGroup name id =>
          change (world.leave name id).2.stores.member group connection.id = some connection ↔ _
          rw [World.stores_leave, Stores.member_leave]
          by_cases hplace : group = name ∧ connection.id = id
          · obtain ⟨rfl, rfl⟩ := hplace
            simp [enters, exits]
          · rw [if_neg hplace]
            simp only [enters, exits]
            grind
      | invoke audience invocation =>
          refine (h.member_invoke_iff audience invocation group connection).trans ?_
          simp [enters]
      | pruneGroups =>
          change world.pruneGroups.2.stores.member group connection.id = some connection ↔ _
          rw [World.stores_pruneGroups, Stores.member_prune]
          simp [enters, exits]
      | sweep =>
          change (world.sweep Peers.network cleanup).2.stores.member group connection.id =
            some connection ↔ _
          have hclosed : Peers.network.isClosed connection world.peers =
              closed history connection := h.isClosed_eq connection
          rw [member_sweep h.sound]
          by_cases hpolicy : cleanup = .onDisconnect
          · rw [if_pos hpolicy, Option.filter_eq_some_iff, decide_eq_true_eq,
              mem_closedAttached_iff h.sound, hclosed, h.attached]
            simp only [enters, exits, hpolicy]
            grind
          · rw [if_neg hpolicy]
            simp [enters, exits, hpolicy]

theorem peer_of_quiet (h : Agrees cleanup history world) {step : Step} {connection : Connection}
    (hmeant : meant cleanup connection ⟨history, step⟩ = none)
    (hclosed : closed [step] connection = false) :
    world.peers.peer connection =
      .recorder (received cleanup (history ++ [step]) connection)
        (closed (history ++ [step]) connection)
        (attempts cleanup (history ++ [step]) connection) := by
  rw [h.peer, received_concat, closed_concat, attempts_concat, hmeant, hclosed]
  simp

theorem peer_of_state (h : Agrees cleanup history world) {after : World Peers} {stores : Stores}
    (hstate : after.state = (stores, world.peers)) {step : Step} {connection : Connection}
    (hmeant : meant cleanup connection ⟨history, step⟩ = none)
    (hclosed : closed [step] connection = false) :
    after.peers.peer connection =
      .recorder (received cleanup (history ++ [step]) connection)
        (closed (history ++ [step]) connection)
        (attempts cleanup (history ++ [step]) connection) := by
  have hpeers : after.peers = world.peers := congrArg Prod.snd hstate
  rw [hpeers]
  exact h.peer_of_quiet hmeant hclosed

theorem peer_invoke (h : Agrees cleanup history world) (audience : Audience)
    (invocation : Invocation) (connection : Connection) :
    let step := Step.command (.invoke audience invocation)
    (world.take cleanup step).peers.peer connection =
      .recorder (received cleanup (history ++ [step]) connection)
        (closed (history ++ [step]) connection)
        (attempts cleanup (history ++ [step]) connection) := by
  intro step
  obtain ⟨-, hpeers⟩ :=
    state_invoke_recording cleanup h.sound h.recording audience invocation
  obtain ⟨htaken, huntaken⟩ := hpeers connection
  rw [h.includes_iff] at htaken huntaken
  by_cases htargeted : Targeted cleanup history connection audience
  · have hmeant : meant cleanup connection ⟨history, step⟩ = some invocation := if_pos htargeted
    refine (htaken htargeted).trans ?_
    rw [h.peer, received_concat, closed_concat, attempts_concat, hmeant]
    cases hclosed : closed history connection with
    | false => simp [Peer.take, closed, step]
    | true => simp [Peer.take]
  · have hmeant : meant cleanup connection ⟨history, step⟩ = none := if_neg htargeted
    exact (huntaken htargeted).trans (h.peer_of_quiet hmeant rfl)

theorem peer_take (h : Agrees cleanup history world) (step : Step) (connection : Connection) :
    (world.take cleanup step).peers.peer connection =
      .recorder (received cleanup (history ++ [step]) connection)
        (closed (history ++ [step]) connection)
        (attempts cleanup (history ++ [step]) connection) := by
  cases step with
  | close other =>
      obtain ⟨taken, shut, tries, hpeer, hafter⟩ :=
        Peers.peer_close h.recording other connection
      rw [h.peer] at hpeer
      cases hpeer
      refine hafter.trans ?_
      rw [received_concat, closed_concat, attempts_concat]
      simp [meant, closed]
  | command command =>
      cases command with
      | invoke audience invocation => exact h.peer_invoke audience invocation connection
      | connect other => exact h.peer_of_state (world.state_register other) rfl rfl
      | disconnect other =>
          exact h.peer_of_state (World.state_disconnect cleanup world other) rfl rfl
      | addToGroup group id => exact h.peer_of_state (world.state_join group id) rfl rfl
      | removeFromGroup group id => exact h.peer_of_state (world.state_leave group id) rfl rfl
      | pruneGroups => exact h.peer_of_state world.state_pruneGroups rfl rfl
      | sweep => exact h.peer_of_state (World.state_sweep Peers.network cleanup world) rfl rfl

theorem start : Agrees cleanup [] (World.fresh Peers.empty) where
  sound := Stores.Sound.empty
  attached connection := iff_of_false (by simp [World.fresh, Stores.empty]) (not_since_nil _ _)
  member group connection :=
    iff_of_false (by simp [World.fresh])
      (not_since_nil _ _)
  peer connection := rfl

theorem next (h : Agrees cleanup history world) (step : Step) :
    Agrees cleanup (history ++ [step]) (world.take cleanup step) where
  sound := by
    cases step with
    | close connection => exact h.sound
    | command command => exact World.sound_perform Peers.network cleanup h.sound command.operation
  attached connection := by
    refine (h.attached_take step connection).trans ?_
    rw [h.attached]
    exact (since_concat_iff _ _ history step).symm
  member group connection := by
    refine (h.member_take step group connection).trans ?_
    rw [h.member]
    exact (since_concat_iff _ _ history step).symm
  peer := h.peer_take step

theorem relist (h : Agrees cleanup history world) {stores : Stores}
    (same : stores.Same world.stores) : Agrees cleanup history { world with stores } where
  sound := h.sound.of_same same
  attached connection := by
    change stores.registry.get? connection.id = some connection ↔ _
    rw [same.attached]
    exact h.attached connection
  member group connection := by
    change stores.member group connection.id = some connection ↔ _
    rw [same.members]
    exact h.member group connection
  peer := h.peer

end Agrees

theorem agrees_of_course {cleanup : Cleanup} {history : List Step} {world : World Peers}
    (h : Course cleanup history world) : Agrees cleanup history world := by
  -- Neither attachment nor membership carries itself: who enters a group depends on who is attached,
  -- and who leaves on who was closed, so all of it goes through the induction together.
  induction h with
  | start => exact Agrees.start
  | next _ step ih => exact ih.next step
  | relist _ same ih => exact ih.relist same

/-- Delivery end to end. Whatever worlds a history leads to, every connection has been tried once for
each invocation that the history means for it, and its record holds, in order and unaltered, exactly
those of them that came before it was closed. -/
theorem recorded_eq_meant (cleanup : Cleanup) (history : List Step) :
    (∃ world, Course cleanup history world) ∧
      ∀ world, Course cleanup history world → ∀ connection,
        world.peers.peer connection =
          .recorder (received cleanup history connection) (closed history connection)
            (attempts cleanup history connection) := by
  refine ⟨exists_course cleanup history, ?_⟩
  intro world hcourse connection
  exact (agrees_of_course hcourse).peer connection

/-- A client comes back under its identifier. Its old connection is still sent what is for the room,
until it is closed and a last attempt takes it out. -/
example :
    let old : Connection := ⟨0, ⟨"client"⟩⟩
    let new : Connection := ⟨1, ⟨"client"⟩⟩
    let toAll : Step := .command (.invoke (.everyone []) ⟨"all", []⟩)
    let toRoom : Step := .command (.invoke (.members "room" []) ⟨"room", []⟩)
    let history : List Step :=
      [.command (.connect old), .command (.addToGroup "room" old.id), .command (.connect new),
        toAll, toRoom, .close old, toRoom, toRoom]
    received .lazy history old = [⟨"room", []⟩] ∧ attempts .lazy history old = 2 ∧
      received .lazy history new = [⟨"all", []⟩] ∧ attempts .lazy history new = 1 :=
  ⟨rfl, rfl, rfl, rfl⟩

end Switchboard
