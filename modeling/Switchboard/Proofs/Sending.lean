import Switchboard.Proofs.Separation

namespace Switchboard

/-- A connection as it was before it was handed anything: what being handed invocations cannot
change. -/
def Peer.bearing : Peer → Peer
  | .channel number owner _ _ => .channel number owner 0 0
  | .recorder _ closed _ => .recorder [] closed 0
  | .scripted errands answer _ => .scripted errands answer 0

theorem Peer.number_bearing (peer : Peer) : peer.bearing.number = peer.number := by
  cases peer with
  | channel number owner sent dropped => rfl
  | recorder received closed attempts => rfl
  | scripted errands answer attempts => rfl

theorem Peer.errands_bearing (peer : Peer) : peer.bearing.errands = peer.errands := by
  cases peer with
  | channel number owner sent dropped => rfl
  | recorder received closed attempts => rfl
  | scripted errands answer attempts => rfl

theorem Mailbox.receiver_offer (mailbox : Mailbox) (invocation : Invocation) :
    (mailbox.offer invocation).2.receiver = mailbox.receiver := by
  unfold offer
  split
  · rfl
  · split
    · rfl
    · rfl

namespace Peers

theorem exists_set_of_send (peers : Peers) (connection : Connection) (invocation : Invocation) :
    ∃ (next : Peers) (state : Peer),
      (peers.send connection invocation).1 = next.set connection state ∧
      state.bearing = (peers.peer connection).bearing ∧ next.states = peers.states ∧
      (∀ number, (peers.peer connection).number ≠ some number →
        next.mailbox number = peers.mailbox number) ∧
      ∀ number, (next.mailbox number).receiver = (peers.mailbox number).receiver := by
  unfold send
  cases hpeer : peers.peer connection with
  | channel number owner sent dropped =>
      refine ⟨_, _, rfl, ?_, rfl, ?_, ?_⟩
      · split
        · rfl
        · rfl
      · intro other hother
        rw [mailbox_setMailbox, if_neg fun hsame => hother (congrArg some hsame.symm)]
      · intro other
        rw [mailbox_setMailbox]
        split
        · rename_i hsame
          rw [Mailbox.receiver_offer, hsame]
        · rfl
  | recorder received closed attempts =>
      cases closed with
      | false => exact ⟨peers, _, rfl, rfl, rfl, fun _ _ => rfl, fun _ => rfl⟩
      | true => exact ⟨peers, _, rfl, rfl, rfl, fun _ _ => rfl, fun _ => rfl⟩
  | scripted errands answer attempts =>
      exact ⟨peers, _, rfl, rfl, rfl, fun _ _ => rfl, fun _ => rfl⟩

theorem peer_of_states_eq {peers next : Peers} (h : next.states = peers.states)
    (connection : Connection) : next.peer connection = peers.peer connection := by
  unfold peer
  rw [h]

theorem peer_send_of_ne (peers : Peers) {connection other : Connection} (hne : other ≠ connection)
    (invocation : Invocation) :
    (peers.send connection invocation).1.peer other = peers.peer other := by
  obtain ⟨next, state, hsend, -, hstates, -⟩ := peers.exists_set_of_send connection invocation
  rw [hsend, peer_set, if_neg hne, peer_of_states_eq hstates]

theorem bearing_send (peers : Peers) (connection other : Connection) (invocation : Invocation) :
    ((peers.send connection invocation).1.peer other).bearing = (peers.peer other).bearing := by
  obtain ⟨next, state, hsend, hbearing, hstates, -⟩ :=
    peers.exists_set_of_send connection invocation
  rw [hsend, peer_set]
  split
  · rename_i hsame
    rw [hsame, hbearing]
  · rw [peer_of_states_eq hstates]

theorem number_send (peers : Peers) (connection other : Connection) (invocation : Invocation) :
    ((peers.send connection invocation).1.peer other).number = (peers.peer other).number := by
  rw [← Peer.number_bearing, bearing_send, Peer.number_bearing]

theorem mailbox_send_of_ne (peers : Peers) {connection : Connection} {number : Nat}
    (hne : (peers.peer connection).number ≠ some number) (invocation : Invocation) :
    (peers.send connection invocation).1.mailbox number = peers.mailbox number := by
  obtain ⟨next, state, hsend, -, -, hmailbox, -⟩ := peers.exists_set_of_send connection invocation
  rw [hsend]
  exact hmailbox number hne

theorem receiver_send (peers : Peers) (connection : Connection) (invocation : Invocation)
    (number : Nat) :
    ((peers.send connection invocation).1.mailbox number).receiver =
      (peers.mailbox number).receiver := by
  obtain ⟨next, state, hsend, -, -, -, hreceiver⟩ := peers.exists_set_of_send connection invocation
  rw [hsend]
  exact hreceiver number

theorem errands_of_send (peers : Peers) (connection : Connection) (invocation : Invocation) :
    (peers.send connection invocation).2.1 = (peers.peer connection).errands := by
  unfold send
  cases peers.peer connection with
  | channel number owner sent dropped => rfl
  | recorder received closed attempts =>
      cases closed with
      | false => rfl
      | true => rfl
  | scripted errands answer attempts => rfl

theorem send_congr {peers other : Peers} {connection : Connection}
    (hpeer : other.peer connection = peers.peer connection)
    (hmailbox : ∀ number, (peers.peer connection).number = some number →
      other.mailbox number = peers.mailbox number) (invocation : Invocation) :
    (other.send connection invocation).2 = (peers.send connection invocation).2 ∧
      (other.send connection invocation).1.peer connection =
        (peers.send connection invocation).1.peer connection ∧
      ∀ number, (peers.peer connection).number = some number →
        (other.send connection invocation).1.mailbox number =
          (peers.send connection invocation).1.mailbox number := by
  unfold send
  rw [hpeer]
  cases hstate : peers.peer connection with
  | channel number owner sent dropped =>
      rw [hstate] at hmailbox
      simp only [hmailbox number rfl]
      have hset : ∀ (before : Peers) (mailbox : Mailbox) (state : Peer),
          ((before.setMailbox number mailbox).set connection state).mailbox number = mailbox :=
        fun before mailbox _ => (mailbox_setMailbox before _ _ mailbox).trans (if_pos rfl)
      refine ⟨trivial, ?_, ?_⟩
      · rw [peer_set, peer_set, if_pos rfl, if_pos rfl]
      · intro same hsame
        cases hsame
        rw [hset, hset]
  | recorder received closed attempts =>
      cases closed with
      | false => exact ⟨rfl, by simp [peer_set], nofun⟩
      | true => exact ⟨rfl, by simp [peer_set], nofun⟩
  | scripted errands answer attempts => exact ⟨rfl, by simp [peer_set], nofun⟩

theorem seat_send_of_ne {peers : Peers} {connection other : Connection} (hne : other ≠ connection)
    (hnumber : ∀ number, (peers.peer connection).number = some number →
      (peers.peer other).number ≠ some number) (invocation : Invocation) :
    (peers.send connection invocation).1.seat other = peers.seat other := by
  unfold seat
  rw [peer_send_of_ne peers hne]
  cases hother : peers.peer other with
  | channel number owner sent dropped =>
      rw [hother] at hnumber
      have hmailbox := mailbox_send_of_ne peers (fun hsame => hnumber number hsame rfl) invocation
      exact congrArg (Seat.channel · sent dropped) hmailbox
  | recorder received closed attempts => rfl
  | scripted errands answer attempts => rfl

end Peers

end Switchboard
