import Switchboard.Proofs.Detach
import Switchboard.Proofs.History

/-!
What the stores hold under one identifier. In sound stores each change works on the shares one by one:
what becomes of a share is told by the share itself, and only that of the identifier in question changes.
-/

namespace Switchboard

theorem filter_congr_of_some {α : Type} {found : Option α} {keep other : α → Bool}
    (h : ∀ a, found = some a → keep a = other a) : found.filter keep = found.filter other := by
  cases found with
  | none => rfl
  | some a => rw [Option.filter_some, Option.filter_some, h a rfl]

theorem filter_eq_self_of_some {α : Type} {found : Option α} {keep : α → Bool}
    (h : ∀ a, found = some a → keep a = true) : found.filter keep = found := by
  cases found with
  | none => rfl
  | some a => exact Option.filter_some_pos (h a rfl)

/-- The connection that is attached under an identifier, and the member that each group has under it. -/
@[ext] structure Share where
  attached : Option Connection
  member : String → Option Connection

namespace Share

def attach (share : Share) (connection : Connection) : Share :=
  { share with attached := some connection }

def detach (share : Share) : Share :=
  { share with attached := none }

/-- The attached connection takes the place in a group; if there is none, the place stays as it is. -/
def join (share : Share) (group : String) : Share :=
  { share with
    member := fun other =>
      if other = group then share.attached.or (share.member other) else share.member other }

def leave (share : Share) (group : String) : Share :=
  { share with member := fun other => if other = group then none else share.member other }

def release (share : Share) (gone : String → Connection → Bool) : Share :=
  { share with member := fun group => (share.member group).filter fun member => !gone group member }

/-- Detaches the connection that is attached, if it is closed. -/
def shed (share : Share) (closed : Connection → Bool) : Share :=
  { share with attached := share.attached.filter fun connection => !closed connection }

theorem release_congr {share : Share} {gone other : String → Connection → Bool}
    (h : ∀ group member, share.member group = some member → gone group member = other group member) :
    share.release gone = share.release other := by
  refine Share.ext rfl (funext fun group => filter_congr_of_some fun member hmember => ?_)
  rw [h group member hmember]

theorem shed_congr {share : Share} {closed other : Connection → Bool}
    (h : ∀ connection, share.attached = some connection → closed connection = other connection) :
    share.shed closed = share.shed other := by
  refine Share.ext (filter_congr_of_some fun connection hattached => ?_) rfl
  rw [h connection hattached]

end Share

namespace Stores

def share (stores : Stores) (id : ConnectionId) : Share :=
  ⟨stores.registry.get? id, fun group => stores.member group id⟩

variable {stores : Stores}

theorem Sound.share_attached (h : stores.Sound) {id : ConnectionId} {connection : Connection}
    (hattached : (stores.share id).attached = some connection) : connection.id = id :=
  h.registry id connection hattached

theorem Sound.share_member (h : stores.Sound) {id : ConnectionId} {group : String}
    {member : Connection} (hmember : (stores.share id).member group = some member) :
    member.id = id :=
  h.members group id member hmember

theorem Same.share {other : Stores} (same : stores.Same other) (id : ConnectionId) :
    stores.share id = other.share id := by
  ext1
  · exact same.attached id
  · funext group
    exact same.members group id

theorem share_register (stores : Stores) (connection : Connection) (id : ConnectionId) :
    (stores.register connection).share id =
      if id = connection.id then (stores.share id).attach connection else stores.share id := by
  have hget := Registry.get?_attach stores.registry connection id
  split
  · rename_i hid
    rw [if_pos hid] at hget
    exact Share.ext hget rfl
  · rename_i hid
    rw [if_neg hid] at hget
    exact Share.ext hget rfl

theorem share_join (h : stores.Sound) (group : String) (id key : ConnectionId) :
    (stores.join group id).share key =
      if key = id then (stores.share key).join group else stores.share key := by
  cases hget : stores.registry.get? id with
  | none =>
      rw [join_of_not_attached hget]
      split
      · rename_i hkey
        subst hkey
        refine Share.ext rfl (funext fun other => ?_)
        change stores.member other key =
          if other = group then (stores.registry.get? key).or (stores.member other key)
          else stores.member other key
        rw [hget, Option.none_or, ite_self]
      · rfl
  | some connection =>
      have hid : connection.id = id := h.registry id connection hget
      have hmember : ∀ other, (stores.join group id).member other key =
          if other = group ∧ key = id then some connection else stores.member other key := by
        intro other
        rw [member_join hget, hid]
      have hregistry : (stores.join group id).registry.get? key = stores.registry.get? key := by
        rw [registry_join]
      split
      · rename_i hkey
        subst hkey
        refine Share.ext hregistry (funext fun other => (hmember other).trans ?_)
        change _ = if other = group then (stores.registry.get? key).or (stores.member other key)
          else stores.member other key
        rw [hget, Option.some_or]
        simp
      · rename_i hkey
        refine Share.ext hregistry (funext fun other => (hmember other).trans ?_)
        rw [if_neg fun hplace => hkey hplace.2]
        rfl

theorem share_leave (stores : Stores) (group : String) (id key : ConnectionId) :
    (stores.leave group id).share key =
      if key = id then (stores.share key).leave group else stores.share key := by
  split
  · rename_i hkey
    refine Share.ext rfl (funext fun other => (member_leave stores group other id key).trans ?_)
    simp only [hkey, and_true]
    rfl
  · rename_i hkey
    refine Share.ext rfl (funext fun other => (member_leave stores group other id key).trans ?_)
    rw [if_neg fun hplace => hkey hplace.2]
    rfl

theorem share_prune (stores : Stores) (id : ConnectionId) :
    stores.prune.share id = stores.share id :=
  Share.ext rfl (funext fun group => member_prune stores group id)

end Stores

/-- The client that a command is about, if it is about one. -/
def Command.client : Command → Option ConnectionId
  | .connect connection => some connection.id
  | .disconnect connection => some connection.id
  | .addToGroup _ id => some id
  | .removeFromGroup _ id => some id
  | .invoke _ _ => none
  | .pruneGroups => none
  | .sweep => none

namespace Share

def disconnect (cleanup : Cleanup) (share : Share) (connection : Connection) : Share :=
  if cleanup = .onDisconnect then share.detach.release fun _ member => member = connection
  else share.detach

def sweep (cleanup : Cleanup) (share : Share) (closed : Connection → Bool) : Share :=
  if cleanup = .onDisconnect then
    (share.shed closed).release fun _ member => share.attached = some member ∧ closed member
  else share.shed closed

/-- What becomes of a share once an invocation has been sent, where some connections were found gone. -/
def settle (cleanup : Cleanup) (audience : Audience) (share : Share) (gone : Connection → Bool) :
    Share :=
  match audience with
  | .members group _ =>
      if cleanup = .lazy then share.release fun other member => other = group ∧ gone member
      else share
  | _ => share

/-- What a command makes of the share of the client that it is about. -/
def step (cleanup : Cleanup) (share : Share) : Command → Share
  | .connect connection => share.attach connection
  | .disconnect connection => share.disconnect cleanup connection
  | .addToGroup group _ => share.join group
  | .removeFromGroup group _ => share.leave group
  | .invoke _ _ => share
  | .pruneGroups => share
  | .sweep => share

theorem sweep_congr {share : Share} {closed other : Connection → Bool} (cleanup : Cleanup)
    (h : ∀ connection, share.attached = some connection → closed connection = other connection) :
    share.sweep cleanup closed = share.sweep cleanup other := by
  unfold sweep
  rw [shed_congr h]
  split
  · refine release_congr fun group member _ => ?_
    rw [decide_eq_decide]
    exact and_congr_right fun hattached => by rw [h member hattached]
  · rfl

theorem settle_congr {share : Share} {gone other : Connection → Bool} (cleanup : Cleanup)
    (audience : Audience)
    (h : ∀ group member, share.member group = some member → gone member = other member) :
    share.settle cleanup audience gone = share.settle cleanup audience other := by
  cases audience with
  | everyone excluded => rfl
  | client id => rfl
  | members group excluded =>
      simp only [settle]
      split
      · exact release_congr fun place member hmember => by rw [h place member hmember]
      · rfl

end Share

section

variable {σ : Type} (network : Network σ) (cleanup : Cleanup) {world : World σ}

theorem share_disconnect (h : world.stores.Sound) (connection : Connection) (id : ConnectionId) :
    (world.disconnect cleanup connection).stores.share id =
      if id = connection.id then (world.stores.share id).disconnect cleanup connection
      else world.stores.share id := by
  have hget : (world.disconnect cleanup connection).stores.registry.get? id = _ :=
    get?_disconnect connection id
  have hmember : ∀ group, (world.disconnect cleanup connection).stores.member group id = _ :=
    fun group => member_disconnect h connection group id
  by_cases hid : id = connection.id
  · rw [if_pos hid]
    rw [if_pos hid] at hget
    unfold Share.disconnect
    split
    · rename_i hpolicy
      refine Share.ext hget (funext fun group => (hmember group).trans ?_)
      rw [if_pos hpolicy]
      simp [Share.release, Share.detach, Stores.share]
    · rename_i hpolicy
      refine Share.ext hget (funext fun group => (hmember group).trans ?_)
      rw [if_neg hpolicy]
      rfl
  · rw [if_neg hid]
    rw [if_neg hid] at hget
    refine Share.ext hget (funext fun group => (hmember group).trans ?_)
    split
    · refine filter_eq_self_of_some fun member hfound => decide_eq_true ?_
      rintro rfl
      exact hid (h.members group id member hfound).symm
    · rfl

/-- A command about a client works on the share of that client alone. -/
theorem share_client (h : world.stores.Sound) {command : Command} {client : ConnectionId}
    (hclient : command.client = some client) (id : ConnectionId) :
    (world.perform network cleanup command.operation).2.stores.share id =
      if id = client then (world.stores.share id).step cleanup command
      else world.stores.share id := by
  cases command with
  | connect connection =>
      cases hclient
      exact world.stores.share_register connection id
  | disconnect connection =>
      cases hclient
      exact share_disconnect cleanup h connection id
  | addToGroup group key =>
      cases hclient
      change (world.join group client).2.stores.share id = _
      rw [World.stores_join]
      exact Stores.share_join h group client id
  | removeFromGroup group key =>
      cases hclient
      change (world.leave group client).2.stores.share id = _
      rw [World.stores_leave]
      exact world.stores.share_leave group client id
  | invoke audience invocation => cases hclient
  | pruneGroups => cases hclient
  | sweep => cases hclient

theorem share_sweep (h : world.stores.Sound) (id : ConnectionId) :
    (world.sweep network cleanup).2.stores.share id =
      (world.stores.share id).sweep cleanup fun connection =>
        network.isClosed connection world.peers := by
  have hget : (world.sweep network cleanup).2.stores.registry.get? id = _ := get?_sweep id
  have hmember : ∀ group, (world.sweep network cleanup).2.stores.member group id = _ :=
    fun group => member_sweep h group id
  unfold Share.sweep
  split
  · rename_i hpolicy
    refine Share.ext hget (funext fun group => (hmember group).trans ?_)
    rw [if_pos hpolicy]
    refine filter_congr_of_some fun member hfound => ?_
    have hkey : member.id = id := h.members group id member hfound
    have hclosed : member ∈ world.closedAttached network ↔ _ := mem_closedAttached_iff h member
    rw [hkey] at hclosed
    rw [← decide_not, decide_eq_decide]
    exact not_congr hclosed
  · rename_i hpolicy
    refine Share.ext hget (funext fun group => (hmember group).trans ?_)
    rw [if_neg hpolicy]
    rfl

theorem share_settle {stores : Stores} (h : stores.Sound) (audience : Audience)
    (gone : List Connection) (id : ConnectionId) :
    (audience.settle cleanup gone stores).share id =
      (stores.share id).settle cleanup audience fun connection => connection ∈ gone := by
  cases audience with
  | everyone excluded => rfl
  | client key => rfl
  | members group excluded =>
      have hregistry := Audience.registry_settle (.members group excluded) cleanup gone stores
      unfold Audience.settle Share.settle at *
      simp only at *
      split
      · rename_i hlazy
        rw [if_pos hlazy] at hregistry
        refine Share.ext (congrArg (fun registry : Registry => registry.get? id) hregistry)
          (funext fun other => (Stores.member_foldl_evict h group other gone id).trans ?_)
        split
        · rename_i hother
          refine filter_congr_of_some fun member _ => ?_
          simp [hother]
        · rename_i hother
          refine (filter_eq_self_of_some fun member _ => ?_).symm
          simp [hother]
      · rfl

end

end Switchboard
