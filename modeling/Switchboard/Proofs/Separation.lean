import Switchboard.Proofs.Recording

/-!
Connections with separate queues. Each goes by its own part of their joint state, so a fan-out hands the
invocation to each recipient as if there were no other.
-/

namespace Switchboard

/-- How a connection with a queue of its own behaves: what it answers to an invocation, in what state
that leaves it, and whether it is closed. -/
structure Conduct (τ : Type) where
  send : Invocation → τ → Answer × τ
  isClosed : τ → Bool

/-- How the joint state of connections falls into parts while their queues are separate: a connection
goes by its own part, which no other one touches, and asks nothing of the hub. -/
structure Separation {σ : Type} (network : Network σ) (τ : Type) where
  separate : σ → Prop
  part : σ → Connection → τ
  conduct : Connection → Conduct τ
  silent : ∀ {peers}, separate peers → ∀ connection invocation stores,
    (network.send connection invocation stores peers).requests = []
  answer : ∀ {peers}, separate peers → ∀ connection invocation stores,
    (network.send connection invocation stores peers).answer =
      ((conduct connection).send invocation (part peers connection)).1
  part_send : ∀ {peers}, separate peers → ∀ connection invocation stores,
    part (network.send connection invocation stores peers).peers =
      Function.update (part peers) connection
        ((conduct connection).send invocation (part peers connection)).2
  separate_send : ∀ {peers}, separate peers → ∀ connection invocation stores,
    separate (network.send connection invocation stores peers).peers
  isClosed : ∀ {peers}, separate peers → ∀ connection,
    network.isClosed connection peers = (conduct connection).isClosed (part peers connection)

namespace Separation

variable {σ τ : Type} {network : Network σ} (parts : Separation network τ)

def call (invocation : Invocation) (peers : σ) (connection : Connection) : Call :=
  ⟨connection, invocation,
    ((parts.conduct connection).send invocation (parts.part peers connection)).1⟩

def handed (invocation : Invocation) (peers : σ) (connection : Connection) : τ :=
  ((parts.conduct connection).send invocation (parts.part peers connection)).2

variable {parts} {peers : σ}

theorem exchange_eq (h : parts.separate peers) (invocation : Invocation) (stores : Stores)
    (connection : Connection) :
    network.exchange invocation (stores, peers) connection =
      (stores, (network.send connection invocation stores peers).peers) := by
  simp only [Network.exchange, parts.silent h, List.foldl_nil]

theorem part_send_of_ne (h : parts.separate peers) {connection other : Connection}
    (hne : other ≠ connection) (invocation : Invocation) (stores : Stores) :
    parts.part (network.send connection invocation stores peers).peers other =
      parts.part peers other := by
  rw [parts.part_send h, Function.update_of_ne hne]

theorem foldl_exchange (h : parts.separate peers) (invocation : Invocation) (stores : Stores)
    {order : List Connection} (hnodup : order.Nodup) :
    let sent := order.foldl (network.exchange invocation) (stores, peers)
    sent.1 = stores ∧ parts.separate sent.2 ∧
      ∀ connection, parts.part sent.2 connection =
        if connection ∈ order then parts.handed invocation peers connection
        else parts.part peers connection := by
  induction order generalizing peers with
  | nil => exact ⟨rfl, h, fun connection => by simp⟩
  | cons first rest ih =>
      obtain ⟨hfirst, hrest⟩ := List.nodup_cons.mp hnodup
      rw [List.foldl_cons, exchange_eq h]
      obtain ⟨hstores, hseparate, hparts⟩ := ih (parts.separate_send h first invocation stores) hrest
      refine ⟨hstores, hseparate, ?_⟩
      intro connection
      rw [hparts]
      unfold handed
      rcases eq_or_ne connection first with rfl | hother
      · rw [if_neg hfirst, if_pos List.mem_cons_self, parts.part_send h, Function.update_self]
      · rw [part_send_of_ne h hother]
        simp [hother]

theorem calls_eq_map (h : parts.separate peers) (invocation : Invocation) (stores : Stores)
    {order : List Connection} (hnodup : order.Nodup) :
    network.calls invocation order (stores, peers) = order.map (parts.call invocation peers) := by
  induction order generalizing peers with
  | nil => rfl
  | cons first rest ih =>
      obtain ⟨hfirst, hrest⟩ := List.nodup_cons.mp hnodup
      have hcall : network.call invocation (stores, peers) first =
          parts.call invocation peers first := by
        unfold Network.call call
        rw [parts.answer h]
      rw [Network.calls, exchange_eq h, ih (parts.separate_send h first invocation stores) hrest,
        hcall, List.map_cons]
      congr 1
      apply List.map_congr_left
      intro connection hconnection
      have hother : connection ≠ first := by
        rintro rfl
        exact hfirst hconnection
      unfold call
      rw [part_send_of_ne h hother]

theorem filter_map_call (invocation : Invocation) (peers : σ) {order : List Connection}
    (hnodup : order.Nodup) (connection : Connection) :
    (order.map (parts.call invocation peers)).filter
        (fun call => call.connection = connection) =
      if connection ∈ order then [parts.call invocation peers connection] else [] := by
  have hfilter : (order.map (parts.call invocation peers)).filter
      (fun call => call.connection = connection) =
        (order.filter fun other => other = connection).map (parts.call invocation peers) :=
    List.filter_map
  rw [hfilter, List.filter_eq, hnodup.count]
  split
  · rfl
  · rfl

variable {world : World σ} (cleanup : Cleanup)

/-- What an invocation does: it makes one call of each connection of the audience, each of which works on
the part of that connection, and then the stores are settled. -/
theorem invoke (hsound : world.stores.Sound) (h : parts.separate world.peers) (audience : Audience)
    (invocation : Invocation) :
    let made := world.calls network cleanup (audience.operation invocation)
    let after := (world.perform network cleanup (audience.operation invocation)).2
    made = (audience.listed world.stores).map (parts.call invocation world.peers) ∧
      after.stores = audience.settle cleanup (Call.closed made) world.stores ∧
      parts.separate after.peers ∧
      ∀ connection, parts.part after.peers connection =
        if connection ∈ audience.listed world.stores then
          parts.handed invocation world.peers connection
        else parts.part world.peers connection := by
  intro made after
  have hnodup := Audience.nodup_listed hsound audience
  have hmade : made = network.calls invocation (audience.listed world.stores) world.state :=
    World.calls_invoke network cleanup world audience invocation
  obtain ⟨hstores, hseparate, hparts⟩ := foldl_exchange h invocation world.stores hnodup
  have hstate := World.state_invoke network cleanup world audience invocation
  have hafter : after.stores = audience.settle cleanup
      (Call.closed (network.calls invocation (audience.listed world.stores) world.state))
        ((audience.listed world.stores).foldl (network.exchange invocation) world.state).1 :=
    congrArg Prod.fst hstate
  have hpeers : after.peers =
      ((audience.listed world.stores).foldl (network.exchange invocation) world.state).2 :=
    congrArg Prod.snd hstate
  refine ⟨?_, ?_, ?_, ?_⟩
  · exact hmade.trans (calls_eq_map h invocation world.stores hnodup)
  · rw [hafter, ← hmade]
    exact congrArg (audience.settle cleanup (Call.closed made)) hstores
  · rw [hpeers]
    exact hseparate
  · rw [hpeers]
    exact hparts

end Separation

namespace Peer

def number : Peer → Option Nat
  | .channel number _ _ _ => some number
  | _ => none

def errands : Peer → List Errand
  | .scripted errands _ _ => errands
  | _ => []

def inbox : Peer → Option Nat
  | .channel number true _ _ => some number
  | _ => none

theorem exists_of_inbox {peer : Peer} {number : Nat} (h : peer.inbox = some number) :
    ∃ sent dropped, peer = .channel number true sent dropped := by
  cases peer with
  | channel other owner sent dropped =>
      cases owner with
      | true => exact ⟨sent, dropped, by rw [Option.some.inj h]⟩
      | false => cases h
  | recorder received closed attempts => cases h
  | scripted errands answer attempts => cases h

end Peer

/-- A connection with what is its own. -/
inductive Seat
  | channel (mailbox : Mailbox) (sent dropped : Nat)
  | recorder (received : List Invocation) (closed : Bool) (attempts : Nat)
  | scripted (answer : Answer) (attempts : Nat)

namespace Seat

def send (invocation : Invocation) : Seat → Answer × Seat
  | .channel mailbox sent dropped =>
      match mailbox.offer invocation with
      | (.accepted, mailbox) => (.accepted, .channel mailbox (sent + 1) dropped)
      | (.refused refusal, mailbox) => (.refused refusal, .channel mailbox sent (dropped + 1))
  | .recorder received closed attempts =>
      if closed then (.refused .closed, .recorder received closed (attempts + 1))
      else (.accepted, .recorder (received ++ [invocation]) closed (attempts + 1))
  | .scripted answer attempts => (answer, .scripted answer (attempts + 1))

def drain : Seat → Seat
  | .channel mailbox sent dropped =>
      .channel (mailbox.take mailbox.queued.length).2 sent dropped
  | seat => seat

def isClosed : Seat → Bool
  | .channel mailbox _ _ => mailbox.isClosed
  | .recorder _ closed _ => closed
  | .scripted _ _ => false

end Seat

namespace Peers

section Receiver

variable {peers : Peers} {connection : Connection} {number sent dropped : Nat}

theorem receive_of_owner (h : peers.peer connection = .channel number true sent dropped)
    (count : Option Nat) :
    let mailbox := peers.mailbox number
    let taken := count.getD mailbox.queued.length
    peers.receive connection count = (some (mailbox.queued.take taken),
      peers.setMailbox number { mailbox with queued := mailbox.queued.drop taken }) := by
  unfold receive
  rw [h]
  rfl

theorem close_of_owner (h : peers.peer connection = .channel number true sent dropped) :
    peers.close connection = peers.setMailbox number (peers.mailbox number).close := by
  unfold close
  rw [h]

theorem dropReceiver_of_owner (h : peers.peer connection = .channel number true sent dropped) :
    peers.dropReceiver connection = (peers.setMailbox number (peers.mailbox number).drop).set
      connection (.channel number false sent dropped) := by
  unfold dropReceiver
  rw [h]

theorem receive_of_sharing (h : peers.peer connection = .channel number false sent dropped)
    (count : Option Nat) : peers.receive connection count = (none, peers) := by
  unfold receive
  rw [h]

theorem close_of_sharing (h : peers.peer connection = .channel number false sent dropped) :
    peers.close connection = peers := by
  unfold close
  rw [h]

theorem dropReceiver_of_sharing (h : peers.peer connection = .channel number false sent dropped) :
    peers.dropReceiver connection = peers := by
  unfold dropReceiver
  rw [h]

end Receiver

def seatOf (peers : Peers) : Peer → Seat
  | .channel number _ sent dropped => .channel (peers.mailbox number) sent dropped
  | .recorder received closed attempts => .recorder received closed attempts
  | .scripted _ answer attempts => .scripted answer attempts

def seat (peers : Peers) (connection : Connection) : Seat :=
  peers.seatOf (peers.peer connection)

/-- No two connections put invocations into one mailbox, and none has errands. -/
structure Separate (peers : Peers) : Prop where
  number : ∀ {connection other number}, (peers.peer connection).number = some number →
    (peers.peer other).number = some number → connection = other
  errands : ∀ connection, (peers.peer connection).errands = []

theorem Separate.empty : Peers.empty.Separate where
  number hnumber _ := by cases hnumber
  errands _ := rfl

theorem Separate.setMailbox {peers : Peers} (h : peers.Separate) (number : Nat)
    (mailbox : Mailbox) : (peers.setMailbox number mailbox).Separate where
  number := h.number
  errands := h.errands

theorem Separate.set {peers : Peers} (h : peers.Separate) {connection : Connection} {state : Peer}
    (hnumber : ∀ other number, other ≠ connection → (peers.peer other).number = some number →
      state.number ≠ some number)
    (herrands : state.errands = []) : (peers.set connection state).Separate where
  number {first second number} hfirst hsecond := by
    rw [peer_set] at hfirst hsecond
    split at hfirst
    · rename_i hsame
      subst hsame
      split at hsecond
      · rename_i hother
        exact hother.symm
      · rename_i hother
        exact absurd hfirst (hnumber second number hother hsecond)
    · rename_i hne
      split at hsecond
      · exact absurd hsecond (hnumber first number hne hfirst)
      · exact h.number hfirst hsecond
  errands other := by
    rw [peer_set]
    split
    · exact herrands
    · exact h.errands other

theorem mailbox_setMailbox (peers : Peers) (number other : Nat) (mailbox : Mailbox) :
    (peers.setMailbox number mailbox).mailbox other =
      if other = number then mailbox else peers.mailbox other := by
  change ((peers.mailboxes.insert number mailbox).get? other).getD _ = _
  rw [Table.get?_insert]
  split
  · rfl
  · rfl

theorem seat_set (peers : Peers) (connection : Connection) (state : Peer) :
    (peers.set connection state).seat =
      Function.update peers.seat connection (peers.seatOf state) := by
  funext other
  unfold seat
  rw [peer_set]
  rcases eq_or_ne other connection with rfl | hother
  · rw [if_pos rfl, Function.update_self]
    rfl
  · rw [if_neg hother, Function.update_of_ne hother]
    rfl

theorem seatOf_setMailbox_of_ne (peers : Peers) {number : Nat} (mailbox : Mailbox) {state : Peer}
    (hne : state.number ≠ some number) :
    (peers.setMailbox number mailbox).seatOf state = peers.seatOf state := by
  cases state with
  | channel other owner sent dropped =>
      have hother : other ≠ number := fun hsame => hne (congrArg some hsame)
      simp only [seatOf, mailbox_setMailbox, if_neg hother]
  | recorder received closed attempts => rfl
  | scripted errands answer attempts => rfl

theorem seat_setMailbox {peers : Peers} (h : peers.Separate) {connection : Connection}
    {number sent dropped : Nat} {owner : Bool}
    (hpeer : peers.peer connection = .channel number owner sent dropped) (mailbox : Mailbox) :
    (peers.setMailbox number mailbox).seat =
      Function.update peers.seat connection (.channel mailbox sent dropped) := by
  have hnumber : (peers.peer connection).number = some number := by
    rw [hpeer]
    rfl
  funext other
  change (peers.setMailbox number mailbox).seatOf (peers.peer other) = _
  rcases eq_or_ne other connection with rfl | hother
  · rw [Function.update_self, hpeer]
    simp only [seatOf, mailbox_setMailbox, if_true]
  · rw [Function.update_of_ne hother]
    exact seatOf_setMailbox_of_ne peers mailbox fun hsame => hother (h.number hsame hnumber)

theorem seat_setMailbox_set {peers : Peers} (h : peers.Separate) {connection : Connection}
    {number sent dropped : Nat} {owner : Bool}
    (hpeer : peers.peer connection = .channel number owner sent dropped) (mailbox : Mailbox)
    (sent' dropped' : Nat) :
    ((peers.setMailbox number mailbox).set connection (.channel number owner sent' dropped')).seat =
      Function.update peers.seat connection (.channel mailbox sent' dropped') := by
  rw [seat_set, seat_setMailbox h hpeer, Function.update_idem]
  simp only [seatOf, mailbox_setMailbox, if_true]

theorem seat_close {peers : Peers} (h : peers.Separate) {connection : Connection}
    {number sent dropped : Nat}
    (hpeer : peers.peer connection = .channel number true sent dropped) :
    (peers.close connection).seat =
      Function.update peers.seat connection (.channel (peers.mailbox number).close sent dropped) := by
  rw [close_of_owner hpeer]
  exact seat_setMailbox h hpeer _

theorem seat_receive {peers : Peers} (h : peers.Separate) {connection : Connection}
    {number sent dropped : Nat}
    (hpeer : peers.peer connection = .channel number true sent dropped) :
    (peers.receive connection none).2.seat =
      Function.update peers.seat connection (peers.seat connection).drain := by
  have hseat : peers.seat connection = .channel (peers.mailbox number) sent dropped := by
    unfold seat
    rw [hpeer]
    rfl
  rw [hseat, receive_of_owner hpeer]
  exact seat_setMailbox h hpeer _

theorem seat_send {peers : Peers} (h : peers.Separate) (connection : Connection)
    (invocation : Invocation) :
    (peers.send connection invocation).1.seat =
        Function.update peers.seat connection ((peers.seat connection).send invocation).2 ∧
      (peers.send connection invocation).2.2 = ((peers.seat connection).send invocation).1 := by
  unfold send seat
  cases hpeer : peers.peer connection with
  | channel number owner sent dropped =>
      simp only [seatOf, Seat.send]
      cases hoffer : (peers.mailbox number).offer invocation with
      | mk answer mailbox =>
          cases answer with
          | accepted => exact ⟨seat_setMailbox_set h hpeer mailbox _ _, rfl⟩
          | refused refusal => exact ⟨seat_setMailbox_set h hpeer mailbox _ _, rfl⟩
  | recorder received closed attempts =>
      cases closed with
      | false => exact ⟨seat_set peers connection _, rfl⟩
      | true => exact ⟨seat_set peers connection _, rfl⟩
  | scripted errands answer attempts => exact ⟨seat_set peers connection _, rfl⟩

theorem Separate.send {peers : Peers} (h : peers.Separate) (connection : Connection)
    (invocation : Invocation) : (peers.send connection invocation).1.Separate := by
  have hset : ∀ {next : Peers} {state : Peer}, next.Separate →
      (∀ other, (next.peer other).number = (peers.peer other).number) →
      state.number = (peers.peer connection).number → state.errands = [] →
      (next.set connection state).Separate := by
    intro next state hnext hnumbers hstate herrands
    apply hnext.set _ herrands
    intro other number hother hfound hsame
    rw [hnumbers] at hfound
    exact hother (h.number hfound (hstate ▸ hsame))
  unfold Peers.send
  cases hpeer : peers.peer connection with
  | channel number owner sent dropped =>
      simp only
      apply hset (h.setMailbox number _) (fun _ => rfl)
      · rw [hpeer]
        split
        · rfl
        · rfl
      · split
        · rfl
        · rfl
  | recorder received closed attempts =>
      simp only
      split
      · exact hset h (fun _ => rfl) (by rw [hpeer]; rfl) rfl
      · exact hset h (fun _ => rfl) (by rw [hpeer]; rfl) rfl
  | scripted errands answer attempts =>
      have herrands : errands = [] := by
        have hnone := h.errands connection
        rw [hpeer] at hnone
        exact hnone
      exact hset h (fun _ => rfl) (by rw [hpeer]; rfl) herrands

theorem Separate.close {peers : Peers} (h : peers.Separate) {connection : Connection}
    {number sent dropped : Nat}
    (hpeer : peers.peer connection = .channel number true sent dropped) :
    (peers.close connection).Separate := by
  rw [close_of_owner hpeer]
  exact h.setMailbox number _

theorem Separate.receive {peers : Peers} (h : peers.Separate) {connection : Connection}
    {number sent dropped : Nat}
    (hpeer : peers.peer connection = .channel number true sent dropped) (count : Option Nat) :
    (peers.receive connection count).2.Separate := by
  rw [receive_of_owner hpeer]
  exact h.setMailbox number _

theorem errands_send {peers : Peers} (h : peers.Separate) (connection : Connection)
    (invocation : Invocation) : (peers.send connection invocation).2.1 = [] := by
  have hnone := h.errands connection
  unfold send
  cases hpeer : peers.peer connection with
  | channel number owner sent dropped => rfl
  | recorder received closed attempts =>
      cases closed with
      | false => rfl
      | true => rfl
  | scripted errands answer attempts =>
      rw [hpeer] at hnone
      exact hnone

/-- Connections with separate mailboxes and without errands go each by what is its own. -/
def separation : Separation network Seat where
  separate := Separate
  part := seat
  conduct _ := ⟨Seat.send, Seat.isClosed⟩
  silent {peers} h connection invocation _ := by
    change (peers.send connection invocation).2.1.map Prod.snd = []
    rw [errands_send h connection invocation, List.map_nil]
  answer h connection invocation _ := (seat_send h connection invocation).2
  part_send h connection invocation _ := (seat_send h connection invocation).1
  separate_send h connection invocation _ := h.send connection invocation
  isClosed {peers} _ connection := by
    change peers.isClosed connection = (peers.seatOf (peers.peer connection)).isClosed
    unfold isClosed
    cases peers.peer connection with
    | channel number owner sent dropped => rfl
    | recorder received closed attempts => rfl
    | scripted errands answer attempts => rfl

end Peers

end Switchboard
