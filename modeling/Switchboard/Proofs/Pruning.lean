import Switchboard.Peer
import Switchboard.Proofs.Absence

/-!
Groups without members. A group that has none and one that is not there are the same to all operations
but those that count or list the groups, so whether groups are pruned shows nowhere else.
-/

namespace Switchboard

namespace Directory

/-- The names of the groups that a connection is in. -/
def holding (directory : Directory) (connection : Connection) : List String :=
  (directory.filter fun _ group => group.holds connection).keys

theorem length_holding (directory : Directory) (connection : Connection) :
    (directory.holding connection).length = directory.countHolding connection := by
  unfold holding countHolding Table.keys Table.values
  rw [List.length_map, List.countP_map, List.countP_eq_length_filter]
  rfl

theorem mem_holding_iff (directory : Directory) (connection : Connection) (name : String) :
    name ∈ directory.holding connection ↔ (directory.group name).holds connection = true := by
  unfold holding
  rw [Table.mem_keys_iff, Table.get?_filter]
  unfold group
  cases directory.get? name with
  | none => exact iff_of_false (by simp) (by simp [Group.holds, Group.named])
  | some found => rw [Option.filter_some, Option.getD_some]; split <;> simp_all

theorem countHolding_congr {directory other : Directory}
    (h : ∀ name, directory.group name = other.group name) (connection : Connection) :
    directory.countHolding connection = other.countHolding connection := by
  rw [← length_holding, ← length_holding]
  have hsame : ∀ name, name ∈ directory.holding connection ↔ name ∈ other.holding connection := by
    intro name
    rw [mem_holding_iff, mem_holding_iff, h name]
  exact ((List.perm_ext_iff_of_nodup (Table.nodup _) (Table.nodup _)).mpr hsame).length_eq

theorem named_of_isEmpty {group : Group} {name : String} (hname : group.name = name)
    (hempty : group.isEmpty = true) : group = Group.named name := by
  obtain ⟨found, members⟩ := group
  subst hname
  have hnone : members = Table.empty := Table.ext (Table.isEmpty_iff.mp hempty)
  rw [hnone]
  rfl

theorem group_prune {directory : Directory}
    (h : ∀ name group, directory.get? name = some group → group.name = name) (name : String) :
    directory.prune.group name = directory.group name := by
  unfold group
  rw [get?_prune]
  cases hget : directory.get? name with
  | none => rfl
  | some found =>
      cases hempty : found.isEmpty with
      | false => simp [Option.filter, hempty]
      | true =>
          have hnamed := named_of_isEmpty (h name found hget) hempty
          subst hnamed
          rfl

theorem get?_prune_eq (directory : Directory) (name : String) :
    directory.prune.get? name =
      if (directory.group name).isEmpty then none else some (directory.group name) := by
  rw [get?_prune]
  unfold group
  cases directory.get? name with
  | none => rfl
  | some found => cases hempty : found.isEmpty <;> simp [Option.filter, hempty]

theorem size_sub_size_prune (directory : Directory) :
    directory.size - directory.prune.size = directory.values.countP fun group => group.isEmpty := by
  have hprune : directory.prune.size =
      directory.entries.countP fun entry => ¬ entry.2.isEmpty = true := by
    rw [List.countP_eq_length_filter]
    unfold prune Table.filter Table.size
    simp
  have hall := directory.entries.length_eq_countP_add_countP fun entry => entry.2.isEmpty
  have hempty : (directory.values.countP fun group => group.isEmpty) =
      directory.entries.countP fun entry => entry.2.isEmpty := List.countP_map
  rw [hprune, hempty]
  unfold Table.size
  omega

end Directory

namespace Stores

/-- The same connections are attached, and the groups of each name have the same members; where there is
no group of a name it is as if there were one without members. -/
structure Resembles (stores other : Stores) : Prop where
  registry : stores.registry = other.registry
  group : ∀ name, stores.groups.group name = other.groups.group name

namespace Resembles

variable {stores other : Stores}

theorem symm (h : stores.Resembles other) : other.Resembles stores :=
  ⟨h.registry.symm, fun name => (h.group name).symm⟩

theorem trans {last : Stores} (h : stores.Resembles other) (hlast : other.Resembles last) :
    stores.Resembles last :=
  ⟨h.registry.trans hlast.registry, fun name => (h.group name).trans (hlast.group name)⟩

theorem prune (h : stores.Sound) : stores.prune.Resembles stores :=
  ⟨rfl, fun name => Directory.group_prune h.named name⟩

end Resembles

end Stores

/-- What the connections do when they are called depends on the attached connections and on the members
of groups, but not on which groups without members there are. -/
def Network.Oblivious {σ : Type} (network : Network σ) : Prop :=
  ∀ connection invocation peers stores other, Stores.Resembles stores other →
    network.send connection invocation stores peers = network.send connection invocation other peers

theorem Network.Oblivious.recorded {σ : Type} {network : Network σ} (h : network.Oblivious) :
    network.recorded.Oblivious := by
  intro connection invocation peers stores other hstores
  unfold Network.recorded
  simp only [h connection invocation peers.1 stores other hstores]

def Event.isPruning : Event → Bool
  | .pruned _ => true
  | _ => false

namespace World

variable {σ : Type}

def plainLog (world : World σ) : List Event :=
  world.log.filter fun event => !event.isPruning

structure Resembles (world other : World σ) : Prop where
  stores : world.stores.Resembles other.stores
  peers : world.peers = other.peers
  log : world.plainLog = other.plainLog

/-- Results that are the same, and worlds that resemble each other. -/
structure Matches {α : Type} (result other : α × World σ) : Prop where
  value : result.1 = other.1
  world : result.2.Resembles other.2

namespace Resembles

variable {world other : World σ} (h : world.Resembles other)

include h

theorem note (event : Event) : (world.note event).Resembles (other.note event) where
  stores := h.stores
  peers := h.peers
  log := by
    unfold plainLog World.note
    rw [List.filter_append, List.filter_append]
    exact congrArg (· ++ _) h.log

theorem withRegistry (registry : Registry) :
    (world.withRegistry registry).Resembles (other.withRegistry registry) :=
  ⟨⟨rfl, h.stores.group⟩, h.peers, h.log⟩

theorem withGroups {groups groups' : Directory}
    (hgroup : ∀ name, groups.group name = groups'.group name) :
    (world.withGroups groups).Resembles (other.withGroups groups') :=
  ⟨⟨h.stores.registry, hgroup⟩, h.peers, h.log⟩

theorem register (connection : Connection) :
    (world.register connection).Resembles (other.register connection) := by
  unfold World.register
  simp only [h.stores.registry]
  exact (h.withRegistry _).note _

theorem unregister (id : ConnectionId) : Matches (world.unregister id) (other.unregister id) := by
  unfold World.unregister
  simp only [h.stores.registry]
  split
  · exact ⟨rfl, (h.withRegistry _).note _⟩
  · exact ⟨rfl, h⟩

theorem join (group : String) (id : ConnectionId) :
    Matches (world.join group id) (other.join group id) := by
  unfold World.join
  simp only [h.stores.registry, h.stores.group]
  split
  · exact ⟨rfl, h.note _⟩
  · refine ⟨rfl, (h.withGroups fun name => ?_).note _⟩
    rw [Directory.group_join, Directory.group_join, h.stores.group, h.stores.group]

theorem leave (group : String) (id : ConnectionId) :
    Matches (world.leave group id) (other.leave group id) := by
  unfold World.leave Directory.containsMember
  simp only [h.stores.group]
  split
  · refine ⟨rfl, (h.withGroups fun name => ?_).note _⟩
    rw [Directory.group_leave, Directory.group_leave, h.stores.group]
  · exact ⟨rfl, h⟩

theorem evict (group : String) (connection : Connection) :
    Matches (world.evict group connection) (other.evict group connection) := by
  unfold World.evict
  simp only [h.stores.group]
  split
  · refine ⟨rfl, (h.withGroups fun name => ?_).note _⟩
    rw [Directory.group_evict, Directory.group_evict, h.stores.group]
  · exact ⟨rfl, h⟩

theorem leaveAll (connection : Connection) :
    Matches (world.leaveAll connection) (other.leaveAll connection) := by
  unfold World.leaveAll
  simp only [Directory.countHolding_congr h.stores.group]
  split
  · refine ⟨rfl, (h.withGroups fun name => ?_).note _⟩
    rw [Directory.group_leaveAll, Directory.group_leaveAll, h.stores.group]
  · exact ⟨rfl, h⟩

theorem removeClosed (network : Network σ) :
    Matches (world.removeClosed network) (other.removeClosed network) := by
  unfold World.removeClosed
  simp only [h.stores.registry, h.peers]
  split
  · exact ⟨rfl, h⟩
  · exact ⟨rfl, (h.withRegistry _).note _⟩

theorem foldl {α : Type} {change : World σ → α → World σ}
    (hchange : ∀ {world other : World σ} (a : α), world.Resembles other →
      (change world a).Resembles (change other a)) (items : List α) :
    (items.foldl change world).Resembles (items.foldl change other) := by
  induction items generalizing world other with
  | nil => exact h
  | cons item rest ih => exact ih (hchange item h)

theorem grant (request : Request) : (world.grant request).Resembles (other.grant request) := by
  cases request with
  | register connection => exact h.register connection
  | unregister id => exact (h.unregister id).world
  | leave group id => exact (h.leave group id).world
  | join group id => exact (h.join group id).world

theorem hand {network : Network σ} (hnetwork : network.Oblivious) (invocation : Invocation)
    (connection : Connection) :
    Matches (world.hand network invocation connection) (other.hand network invocation connection) := by
  unfold World.hand
  rw [h.peers, hnetwork connection invocation other.peers _ _ h.stores]
  generalize network.send connection invocation other.stores other.peers = attempt
  have hstart : Resembles { world with peers := attempt.peers }
      { other with peers := attempt.peers } := ⟨h.stores, rfl, h.log⟩
  exact ⟨rfl, hstart.foldl (fun request hworld => hworld.grant request) attempt.requests⟩

theorem visit {network : Network σ} (hnetwork : network.Oblivious) (invocation : Invocation)
    (excluded : List ConnectionId) (report : Report) (connection : Connection) :
    Matches (World.visit network invocation excluded (report, world) connection)
      (World.visit network invocation excluded (report, other) connection) := by
  obtain ⟨hanswer, hafter⟩ := h.hand hnetwork invocation connection
  unfold World.visit
  simp only
  split
  · exact ⟨rfl, h⟩
  · generalize world.hand network invocation connection = result at hanswer hafter ⊢
    generalize other.hand network invocation connection = result' at hanswer hafter ⊢
    obtain ⟨answer, after⟩ := result
    obtain ⟨answer', after'⟩ := result'
    simp only at hanswer hafter
    subst hanswer
    cases answer with
    | accepted => exact ⟨rfl, hafter⟩
    | refused refusal =>
        cases refusal with
        | full => exact ⟨rfl, hafter.note _⟩
        | closed => exact ⟨rfl, hafter.note _⟩

theorem foldl_visit {network : Network σ} (hnetwork : network.Oblivious) (invocation : Invocation)
    (excluded : List ConnectionId) (recipients : List Connection) (report : Report) :
    Matches (recipients.foldl (World.visit network invocation excluded) (report, world))
      (recipients.foldl (World.visit network invocation excluded) (report, other)) := by
  induction recipients generalizing world other report with
  | nil => exact ⟨rfl, h⟩
  | cons connection rest ih =>
      obtain ⟨hreport, hafter⟩ := h.visit hnetwork invocation excluded report connection
      rw [List.foldl_cons, List.foldl_cons]
      generalize World.visit network invocation excluded (report, world) connection = next
        at hreport hafter ⊢
      generalize World.visit network invocation excluded (report, other) connection = next'
        at hreport hafter ⊢
      obtain ⟨report', world'⟩ := next
      obtain ⟨report'', other'⟩ := next'
      simp only at hreport hafter
      subst hreport
      exact ih hafter report'

theorem fanOut {network : Network σ} (hnetwork : network.Oblivious) (recipients : List Connection)
    (invocation : Invocation) (excluded : List ConnectionId) :
    Matches (world.fanOut network recipients invocation excluded)
      (other.fanOut network recipients invocation excluded) :=
  h.foldl_visit hnetwork invocation excluded recipients .empty

theorem disconnect (cleanup : Cleanup) (connection : Connection) :
    (world.disconnect cleanup connection).Resembles (other.disconnect cleanup connection) := by
  have hdetached := (h.unregister connection.id).world
  unfold World.disconnect
  simp only
  split
  · exact (hdetached.leaveAll connection).world
  · exact hdetached

theorem sweep (network : Network σ) (cleanup : Cleanup) :
    Matches (world.sweep network cleanup) (other.sweep network cleanup) := by
  obtain ⟨hremoved, hdetached⟩ := h.removeClosed network
  unfold World.sweep
  simp only [hremoved]
  refine ⟨rfl, ?_⟩
  split
  · exact hdetached.foldl (fun connection hworld => (hworld.leaveAll connection).world) _
  · exact hdetached

theorem invokeAll {network : Network σ} (hnetwork : network.Oblivious) (invocation : Invocation)
    (excluded : List ConnectionId) :
    (world.invokeAll network invocation excluded).Resembles
      (other.invokeAll network invocation excluded) := by
  have hsent := h.fanOut hnetwork other.stores.registry.values invocation excluded
  unfold World.invokeAll World.noteReport
  simp only [h.stores.registry, hsent.value]
  exact hsent.world.note _

theorem invokeClient {network : Network σ} (hnetwork : network.Oblivious) (id : ConnectionId)
    (invocation : Invocation) :
    (world.invokeClient network id invocation).Resembles
      (other.invokeClient network id invocation) := by
  unfold World.invokeClient World.noteReport
  simp only [h.stores.registry]
  split
  · exact h.note _
  · rename_i connection _
    have hsent := h.fanOut hnetwork [connection] invocation []
    simp only [hsent.value]
    exact hsent.world.note _

theorem invokeGroup {network : Network σ} (hnetwork : network.Oblivious) (cleanup : Cleanup)
    (group : String) (invocation : Invocation) (excluded : List ConnectionId) :
    (world.invokeGroup network cleanup group invocation excluded).Resembles
      (other.invokeGroup network cleanup group invocation excluded) := by
  have hsent := h.fanOut hnetwork (other.stores.groups.membersOf group) invocation excluded
  have hmembers : world.stores.groups.membersOf group = other.stores.groups.membersOf group :=
    congrArg Group.connections (h.stores.group group)
  unfold World.invokeGroup World.noteReport
  simp only [hmembers, hsent.value]
  split
  · exact (hsent.world.note _).foldl
      (fun connection hworld => (hworld.evict group connection).world) _
  · exact hsent.world.note _

theorem symm : other.Resembles world :=
  ⟨h.stores.symm, h.peers.symm, h.log.symm⟩

theorem trans {last : World σ} (hlast : other.Resembles last) : world.Resembles last :=
  ⟨h.stores.trans hlast.stores, h.peers.trans hlast.peers, h.log.trans hlast.log⟩

omit h in
theorem pruneGroups (hsound : world.stores.Sound) : world.pruneGroups.2.Resembles world where
  stores := by
    rw [stores_pruneGroups]
    exact Stores.Resembles.prune hsound
  peers := congrArg Prod.snd world.state_pruneGroups
  log := by
    unfold World.pruneGroups
    simp only
    split
    · unfold plainLog World.note
      simp [World.withGroups, Event.isPruning]
    · rfl

end Resembles

end World

/-- An operation whose reply counts or lists the groups, those without members among them. -/
def Operation.countsGroups : Operation → Bool
  | .pruneGroups => true
  | .groupNames => true
  | .groupCount => true
  | _ => false

namespace World.Resembles

variable {σ : Type} {world other : World σ} {network : Network σ} (cleanup : Cleanup)

theorem of_matches {α : Type} {result result' : α × World σ} (h : Matches result result')
    (reply : α → Reply) {p : Prop} :
    (p → (Reply.of reply result).1 = (Reply.of reply result').1) ∧
      (Reply.of reply result).2.Resembles (Reply.of reply result').2 :=
  ⟨fun _ => congrArg reply h.value, h.world⟩

theorem perform (h : world.Resembles other) (hnetwork : network.Oblivious)
    (hsound : world.stores.Sound) (hother : other.stores.Sound) (operation : Operation) :
    (operation.countsGroups = false → (world.perform network cleanup operation).1 =
        (other.perform network cleanup operation).1) ∧
      (world.perform network cleanup operation).2.Resembles
        (other.perform network cleanup operation).2 := by
  have hregistry := h.stores.registry
  have hgroup := h.stores.group
  cases operation with
  | connect connection => exact ⟨fun _ => rfl, h.register connection⟩
  | disconnect connection => exact ⟨fun _ => rfl, h.disconnect cleanup connection⟩
  | invokeAll invocation excluded =>
      exact ⟨fun _ => rfl, h.invokeAll hnetwork invocation excluded⟩
  | invokeClient id invocation => exact ⟨fun _ => rfl, h.invokeClient hnetwork id invocation⟩
  | invokeGroup group invocation excluded =>
      exact ⟨fun _ => rfl, h.invokeGroup hnetwork cleanup group invocation excluded⟩
  | addToGroup group id => exact ⟨fun _ => rfl, (h.join group id).world⟩
  | removeFromGroup group id => exact ⟨fun _ => rfl, (h.leave group id).world⟩
  | pruneGroups =>
      refine ⟨fun hcounts => absurd hcounts (by decide), ?_⟩
      exact ((pruneGroups hsound).trans h).trans (pruneGroups hother).symm
  | sweep => exact of_matches (h.sweep network cleanup) Reply.count
  | fanOut recipients invocation excluded =>
      exact of_matches (h.fanOut hnetwork recipients invocation excluded) Reply.report
  | register connection => exact ⟨fun _ => rfl, h.register connection⟩
  | unregister id => exact of_matches (h.unregister id) Reply.flag
  | removeClosed =>
      exact of_matches (h.removeClosed network) Reply.connections
  | join group id => exact of_matches (h.join group id) Reply.flag
  | leave group id => exact of_matches (h.leave group id) Reply.flag
  | evict group connection =>
      exact of_matches (h.evict group connection) Reply.flag
  | leaveAll connection =>
      exact of_matches (h.leaveAll connection) Reply.count
  | lookup id => exact ⟨fun _ => by simp only [World.perform, hregistry], h⟩
  | contains id => exact ⟨fun _ => by simp only [World.perform, hregistry], h⟩
  | snapshot => exact ⟨fun _ => by simp only [World.perform, hregistry], h⟩
  | connectionIds => exact ⟨fun _ => by simp only [World.perform, hregistry], h⟩
  | connectionCount => exact ⟨fun _ => by simp only [World.perform, hregistry], h⟩
  | members group =>
      exact ⟨fun _ => by simp only [World.perform, Directory.membersOf, hgroup], h⟩
  | memberIds group =>
      exact ⟨fun _ => by simp only [World.perform, Directory.memberIds, hgroup], h⟩
  | containsMember group id =>
      exact ⟨fun _ => by simp only [World.perform, Directory.containsMember, hgroup], h⟩
  | groupNames => exact ⟨fun hcounts => absurd hcounts (by decide), h⟩
  | groupCount => exact ⟨fun hcounts => absurd hcounts (by decide), h⟩

end World.Resembles

/-- A way to list the tables of the stores anew, which does not go by groups without members. -/
structure Listing where
  list : Stores → Stores
  same : ∀ stores, (list stores).Same stores
  resembles : ∀ {stores other : Stores}, stores.Resembles other →
    (list stores).Resembles (list other)

/-- A move of a run: an operation of the hub, or that the connections change on their own, or that the
tables are listed anew. -/
inductive Move (σ : Type)
  | operation (operation : Operation)
  | stir (change : σ → σ)
  | relist (listing : Listing)

/-- What a move shows: the reply, if it does not count or list the groups, the calls, and what is left, but
for groups without members and the log of prunings. -/
structure Showing (σ : Type) where
  reply : Option Reply
  calls : List Call
  attached : Registry
  populated : String → Option Group
  peers : σ
  log : List Event

namespace World

variable {σ : Type} (network : Network σ) (cleanup : Cleanup)

def move (world : World σ) : Move σ → World σ
  | .operation operation => (world.perform network cleanup operation).2
  | .stir change => { world with peers := change world.peers }
  | .relist listing => { world with stores := listing.list world.stores }

def replyTo (world : World σ) : Move σ → Option Reply
  | .operation operation =>
      if operation.countsGroups then none else some (world.perform network cleanup operation).1
  | _ => none

def callsIn (world : World σ) : Move σ → List Call
  | .operation operation => world.calls network cleanup operation
  | _ => []

def showing (world : World σ) (move : Move σ) : Showing σ :=
  let after := world.move network cleanup move
  { reply := world.replyTo network cleanup move
    calls := world.callsIn network cleanup move
    attached := after.stores.registry
    populated := fun name => (after.stores.groups.get? name).filter fun group => !group.isEmpty
    peers := after.peers
    log := after.plainLog }

def showings (world : World σ) : List (Move σ) → List (Showing σ)
  | [] => []
  | move :: rest => world.showing network cleanup move ::
      showings (world.move network cleanup move) rest

variable {network} {world other : World σ}

theorem sound_move (h : world.stores.Sound) (move : Move σ) :
    (world.move network cleanup move).stores.Sound := by
  cases move with
  | operation operation => exact sound_perform network cleanup h operation
  | stir change => exact h
  | relist listing => exact h.of_same (listing.same world.stores)

namespace Resembles

theorem populated_eq (h : world.Resembles other) (name : String) :
    (world.stores.groups.get? name).filter (fun group => !group.isEmpty) =
      (other.stores.groups.get? name).filter fun group => !group.isEmpty := by
  rw [← Directory.get?_prune, ← Directory.get?_prune, Directory.get?_prune_eq,
    Directory.get?_prune_eq, h.stores.group name]

variable (h : world.Resembles other) (hnetwork : network.Oblivious) (hsound : world.stores.Sound)
  (hother : other.stores.Sound)

include h hnetwork hsound hother

theorem calls_eq (operation : Operation) :
    world.calls network cleanup operation = other.calls network cleanup operation := by
  have hrecorded : world.recorded.Resembles other.recorded :=
    ⟨h.stores, congrArg (fun peers => (peers, [])) h.peers, h.log⟩
  have hafter := (hrecorded.perform cleanup hnetwork.recorded hsound hother operation).2
  exact congrArg Prod.snd hafter.peers

theorem move (move : Move σ) :
    (world.move network cleanup move).Resembles (other.move network cleanup move) := by
  cases move with
  | operation operation => exact (h.perform cleanup hnetwork hsound hother operation).2
  | stir change => exact ⟨h.stores, congrArg change h.peers, h.log⟩
  | relist listing => exact ⟨listing.resembles h.stores, h.peers, h.log⟩

theorem showing_eq (move : Move σ) :
    world.showing network cleanup move = other.showing network cleanup move := by
  have hafter := h.move cleanup hnetwork hsound hother move
  have hreply : world.replyTo network cleanup move = other.replyTo network cleanup move := by
    cases move with
    | operation operation =>
        simp only [replyTo]
        split
        · rfl
        · rename_i hcounts
          rw [Bool.not_eq_true] at hcounts
          exact congrArg some ((h.perform cleanup hnetwork hsound hother operation).1 hcounts)
    | stir change => rfl
    | relist listing => rfl
  have hcalls : world.callsIn network cleanup move = other.callsIn network cleanup move := by
    cases move with
    | operation operation => exact h.calls_eq cleanup hnetwork hsound hother operation
    | stir change => rfl
    | relist listing => rfl
  unfold showing
  simp only [hreply, hcalls, hafter.stores.registry, hafter.populated_eq, hafter.peers, hafter.log]

theorem showings_eq (moves : List (Move σ)) :
    world.showings network cleanup moves = other.showings network cleanup moves := by
  induction moves generalizing world other with
  | nil => rfl
  | cons move rest ih =>
      have hafter := h.move cleanup hnetwork hsound hother move
      have hrest := ih hafter (sound_move cleanup hsound move) (sound_move cleanup hother move)
      rw [showings, showings, h.showing_eq cleanup hnetwork hsound hother move, hrest]

end Resembles

end World

section

variable {σ : Type} {network : Network σ} {cleanup : Cleanup} {world : World σ}

/-- A pruning drops exactly the groups without members, and counts them. Whatever is done afterwards, it
shows nowhere but where groups are counted or listed: every other reply is the same as without it, and so
are the calls with their answers, and at every step the attached connections, the groups that have
members, the connections, and what is logged but for prunings. Whenever the order changes in which the tables
list their entries, it becomes the same with the pruning and without it, as `Move.relist` says. -/
theorem pruning_unnoticed (hnetwork : network.Oblivious) (h : Reachable network cleanup world)
    (moves : List (Move σ)) :
    let pruned := world.perform network cleanup .pruneGroups
    (∀ name group, pruned.2.stores.groups.get? name = some group ↔
      world.stores.groups.get? name = some group ∧ group.isEmpty = false) ∧
      pruned.1 = .count (world.stores.groups.values.countP fun group => group.isEmpty) ∧
      pruned.2.stores.registry = world.stores.registry ∧ pruned.2.peers = world.peers ∧
      pruned.2.showings network cleanup moves = world.showings network cleanup moves := by
  intro pruned
  have hresembles : pruned.2.Resembles world := World.Resembles.pruneGroups h.sound
  have hstores : pruned.2.stores = world.stores.prune := world.stores_pruneGroups
  refine ⟨?_, ?_, hresembles.stores.registry, hresembles.peers, ?_⟩
  · intro name group
    rw [hstores]
    change world.stores.groups.prune.get? name = some group ↔ _
    rw [Directory.get?_prune, Option.filter_eq_some_iff, Bool.not_eq_true']
  · change Reply.count world.pruneGroups.1 = _
    rw [World.pruneGroups_fst, Directory.size_sub_size_prune]
  · exact hresembles.showings_eq cleanup hnetwork (h.perform .pruneGroups).sound h.sound moves

/-- A room that everyone has left is pruned, or is not; then a client opens it again, is sent to, is
closed, and is evicted. Only the count of the groups tells the difference. -/
theorem pruning_unnoticed_reopened_room :
    let client : Connection := ⟨0, ⟨"client"⟩⟩
    let guest : Connection := ⟨1, ⟨"guest"⟩⟩
    let world := ((World.fresh Peers.empty).run Peers.network .lazy
      [.connect client, .connect guest, .addToGroup "room" client.id, .addToGroup "hall" guest.id,
        .removeFromGroup "room" client.id]).2
    let pruned := world.perform Peers.network .lazy .pruneGroups
    let moves : List (Move Peers) :=
      [.operation (.join "room" client.id), .operation (.invokeGroup "room" ⟨"hello", []⟩ []),
        .stir fun peers => peers.close client,
        .operation (.invokeGroup "room" ⟨"again", []⟩ []), .operation (.members "room")]
    let showings := pruned.2.showings Peers.network .lazy moves
    Peers.network.Oblivious ∧ Reachable Peers.network .lazy world ∧ pruned.1 = .count 1 ∧
      showings = world.showings Peers.network .lazy moves ∧
      showings.map Showing.reply =
        [some (.flag true), some .done, none, some .done, some (.connections [])] ∧
      showings.map (fun showing => showing.calls.map Call.connection) =
        [[], [client], [], [client], []] ∧
      (pruned.2.perform Peers.network .lazy .groupCount).1 = .count 1 ∧
      (world.perform Peers.network .lazy .groupCount).1 = .count 2 := by
  intro client guest world pruned moves showings
  have hnetwork : Peers.network.Oblivious := fun _ _ _ _ _ _ => rfl
  have hreach : Reachable Peers.network .lazy world := (Reachable.fresh Peers.empty).run _
  obtain ⟨-, hcount, -, -, hshowings⟩ := pruning_unnoticed hnetwork hreach moves
  exact ⟨hnetwork, hreach, hcount.trans (by decide), hshowings, by decide, by decide, by decide,
    by decide⟩

end

end Switchboard
