import Switchboard.Cluster
import Switchboard.Proofs.Queueing
import Switchboard.Proofs.Round
import Switchboard.Proofs.Sending

namespace Switchboard

namespace Call

def answersOf (connection : Connection) (calls : List Call) : List Answer :=
  (calls.filter fun call => call.connection = connection).map answer

theorem answersOf_append (connection : Connection) (calls more : List Call) :
    answersOf connection (calls ++ more) =
      answersOf connection calls ++ answersOf connection more := by
  simp [answersOf]

theorem answersOf_singleton (connection other : Connection) (invocation : Invocation)
    (answer : Answer) :
    answersOf connection [⟨other, invocation, answer⟩] =
      if other = connection then [answer] else [] := by
  by_cases h : other = connection
  · simp [answersOf, h]
  · simp [answersOf, h]

end Call

theorem LifetimeSettings.buffer_usable (settings : LifetimeSettings) :
    settings.usable.buffer = max 1 settings.buffer := by
  unfold usable
  split
  · rename_i hzero
    rw [hzero]
    rfl
  · rename_i hpos
    exact (Nat.max_eq_right (Nat.one_le_iff_ne_zero.mpr hpos)).symm

namespace Answer

/-- The answers to a number of invocations: accepted as long as there is a place, then refused as full. -/
def untilFull (capacity handed : Nat) : List Answer :=
  List.replicate (min handed capacity) .accepted ++
    List.replicate (handed - capacity) (.refused .full)

theorem untilFull_succ (capacity handed : Nat) :
    untilFull capacity (handed + 1) =
      untilFull capacity handed ++
        [if handed < capacity then .accepted else .refused .full] := by
  unfold untilFull
  split
  · rename_i hroom
    have hnone : handed + 1 - capacity = 0 := by omega
    rw [Nat.min_eq_left hroom, Nat.min_eq_left (Nat.le_of_lt hroom), hnone,
      Nat.sub_eq_zero_of_le (Nat.le_of_lt hroom), List.replicate_succ']
    simp
  · rename_i hfull
    have hsucc : handed + 1 - capacity = handed - capacity + 1 := by omega
    have hle : capacity ≤ handed := Nat.le_of_not_lt hfull
    rw [Nat.min_eq_right (Nat.le_succ_of_le hle), Nat.min_eq_right hle, hsucc,
      List.replicate_succ', List.append_assoc]

end Answer

theorem Seat.send_of_listening (capacity : Nat) (queued : List Invocation) (sent dropped : Nat)
    (invocation : Invocation) :
    (Seat.channel ⟨capacity, queued, .listening⟩ sent dropped).send invocation =
      if queued.length < capacity then
        (.accepted, .channel ⟨capacity, queued ++ [invocation], .listening⟩ (sent + 1) dropped)
      else (.refused .full, .channel ⟨capacity, queued, .listening⟩ sent (dropped + 1)) := by
  have hopen : (⟨capacity, queued, .listening⟩ : Mailbox).isClosed = false := rfl
  unfold send
  by_cases hroom : queued.length < capacity
  · simp only [Mailbox.offer_accepted hopen hroom, if_pos hroom]
  · simp only [Mailbox.offer_full hopen (Nat.le_of_not_lt hroom), if_neg hroom]

namespace Peers

/-- What a connection has answered since it was created, while its far end stayed and received nothing:
invocations are handed to it, and besides, anything happens that leaves it with what is its own. -/
inductive Filling (connection : Connection) (created : Peers) : List Answer → Peers → Prop
  | start : Filling connection created [] created
  | send {answers : List Answer} {peers : Peers} (h : Filling connection created answers peers)
      (invocation : Invocation) :
      Filling connection created (answers ++ [(peers.send connection invocation).2.2])
        (peers.send connection invocation).1
  | aside {answers : List Answer} {peers other : Peers}
      (h : Filling connection created answers peers)
      (unchanged : other.seat connection = peers.seat connection) :
      Filling connection created answers other

theorem seat_set_self (peers : Peers) (connection : Connection) (state : Peer) :
    (peers.set connection state).seat connection = peers.seatOf state := by
  rw [seat_set, Function.update_self]

theorem seat_send_self (peers : Peers) (connection : Connection) (invocation : Invocation) :
    (peers.send connection invocation).1.seat connection =
        ((peers.seat connection).send invocation).2 ∧
      (peers.send connection invocation).2.2 = ((peers.seat connection).send invocation).1 := by
  unfold send
  cases hpeer : peers.peer connection with
  | channel number owner sent dropped =>
      have hseat : peers.seat connection = .channel (peers.mailbox number) sent dropped :=
        congrArg peers.seatOf hpeer
      have hmailbox : ∀ mailbox, (peers.setMailbox number mailbox).mailbox number = mailbox :=
        fun mailbox => (mailbox_setMailbox peers number number mailbox).trans (if_pos rfl)
      simp only [hseat, Seat.send, seat_set_self]
      cases hoffer : (peers.mailbox number).offer invocation with
      | mk answer mailbox =>
          cases answer with
          | accepted => simp only [seatOf, hmailbox, and_self]
          | refused refusal => simp only [seatOf, hmailbox, and_self]
  | recorder received closed attempts =>
      have hseat : peers.seat connection = .recorder received closed attempts :=
        congrArg peers.seatOf hpeer
      cases closed with
      | false => simp [hseat, Seat.send, seat_set_self, seatOf]
      | true => simp [hseat, Seat.send, seat_set_self, seatOf]
  | scripted errands answer attempts =>
      have hseat : peers.seat connection = .scripted answer attempts :=
        congrArg peers.seatOf hpeer
      simp only [hseat, Seat.send, seat_set_self, seatOf, and_self]

namespace Filling

variable {connection : Connection} {created peers : Peers} {answers : List Answer}

theorem fills {capacity : Nat} (h : Filling connection created answers peers)
    (hcreated : created.seat connection = .channel ⟨capacity, [], .listening⟩ 0 0) :
    answers = Answer.untilFull capacity answers.length ∧
      ∃ queued sent dropped,
        peers.seat connection = .channel ⟨capacity, queued, .listening⟩ sent dropped ∧
          queued.length = min answers.length capacity := by
  induction h with
  | start => exact ⟨by simp [Answer.untilFull], [], 0, 0, hcreated, by simp⟩
  | @send answers peers h invocation ih =>
      obtain ⟨hanswers, queued, sent, dropped, hseat, hlength⟩ := ih
      obtain ⟨hafter, hanswer⟩ := peers.seat_send_self connection invocation
      rw [hseat, Seat.send_of_listening] at hafter hanswer
      rw [List.length_append, List.length_singleton, Answer.untilFull_succ, ← hanswers, hanswer]
      by_cases hroom : queued.length < capacity
      · rw [if_pos hroom] at hafter ⊢
        refine ⟨?_, _, _, _, hafter, ?_⟩
        · rw [if_pos (by omega)]
        · rw [List.length_append, List.length_singleton]
          omega
      · rw [if_neg hroom] at hafter ⊢
        refine ⟨?_, _, _, _, hafter, ?_⟩
        · rw [if_neg (by omega)]
        · omega
  | aside h unchanged ih => exact ⟨ih.1, by simpa only [unchanged] using ih.2⟩

end Filling

/-- The queue of a connection is put into by no other. -/
def Alone (connection : Connection) (peers : Peers) : Prop :=
  ∀ other number, other ≠ connection → (peers.peer other).number = some number →
    (peers.peer connection).number ≠ some number

section

variable {connection : Connection} {created peers : Peers} {answers : List Answer}

theorem Filling.exchanges (h : Filling connection created answers peers)
    (halone : Alone connection peers) (invocation : Invocation) (order : List Connection)
    (stores : Stores) :
    let called := order.foldl (network.exchange invocation) (stores, peers)
    Filling connection created
        (answers ++ Call.answersOf connection (network.calls invocation order (stores, peers)))
        called.2 ∧
      Alone connection called.2 := by
  induction order generalizing answers stores peers with
  | nil => exact ⟨by simpa [Call.answersOf, Network.calls] using h, halone⟩
  | cons next rest ih =>
      have hstill : Alone connection (peers.send next invocation).1 := by
        intro other number hother hnumber
        rw [number_send] at hnumber ⊢
        exact halone other number hother hnumber
      have hnext : Filling connection created
          (answers ++ Call.answersOf connection [network.call invocation (stores, peers) next])
          (peers.send next invocation).1 := by
        rw [Network.call, Call.answersOf_singleton]
        rcases eq_or_ne next connection with rfl | hne
        · rw [if_pos rfl]
          exact h.send invocation
        · have hseat := seat_send_of_ne hne.symm (fun number => halone next number hne) invocation
          rw [if_neg hne, List.append_nil]
          exact h.aside hseat
      rw [List.foldl_cons, Network.calls, ← List.singleton_append, Call.answersOf_append,
        ← List.append_assoc]
      exact ih hnext hstill _

theorem Filling.run {cleanup : Cleanup} {world : World Peers}
    (h : Filling connection created answers world.peers) (halone : Alone connection world.peers)
    (operations : List Operation) :
    Filling connection created
      (answers ++ Call.answersOf connection (world.runCalls network cleanup operations))
      (world.run network cleanup operations).2.peers := by
  induction operations generalizing answers world with
  | nil =>
      rw [World.runCalls, Call.answersOf, List.filter_nil, List.map_nil, List.append_nil]
      exact h
  | cons operation rest ih =>
      obtain ⟨invocation, order, hpeers, hcalls⟩ :=
        world.exists_order network cleanup operation
      obtain ⟨hcalled, hstill⟩ := h.exchanges halone invocation order world.stores
      rw [World.runCalls, Call.answersOf_append, ← List.append_assoc, hcalls]
      change Filling connection created _ ((world.perform network cleanup operation).2.run network
        cleanup rest).2.peers
      refine ih ?_ ?_
      · rw [hpeers]
        exact hcalled
      · rw [hpeers]
        exact hstill

theorem addChannel_eq_tooLarge_iff {capacity : Nat} :
    peers.addChannel connection capacity = .error .tooLarge ↔ Mailbox.maxCapacity < capacity := by
  unfold addChannel Mailbox.create
  split
  · rename_i hzero
    rw [hzero]
    exact iff_of_false (by simp [bind, Except.bind]) (Nat.not_lt_zero _)
  · split
    · rename_i hlarge
      exact iff_of_true rfl hlarge
    · rename_i hsmall
      exact iff_of_false (by simp [bind, Except.bind]) hsmall

theorem alone_of_addChannel {capacity : Nat}
    (hcreated : peers.addChannel connection capacity = .ok created)
    (hunused : ∀ other, (peers.peer other).number ≠ some peers.mailboxes.size) :
    Alone connection created := by
  obtain ⟨-, rfl⟩ := addChannel_eq_ok_iff.mp hcreated
  intro other number hother hnumber hsame
  rw [peer_setMailbox_set, if_neg hother] at hnumber
  rw [peer_setMailbox_set, if_pos rfl] at hsame
  rw [← hsame] at hnumber
  exact hunused other hnumber

theorem seat_addChannel {capacity : Nat}
    (hcreated : peers.addChannel connection capacity = .ok created) :
    created.seat connection = .channel ⟨capacity, [], .listening⟩ 0 0 := by
  obtain ⟨-, rfl⟩ := addChannel_eq_ok_iff.mp hcreated
  rw [seat_set_self]
  exact congrArg (Seat.channel · 0 0) ((mailbox_setMailbox _ _ _ _).trans (if_pos rfl))

end

end Peers

/-- With the settings of a hub a connection can be created unless the buffer is to have more places than
a queue may have. It then accepts as many invocations as the buffer is to hold, one at least, and refuses
all later ones as full, while its far end receives none: whoever hands them to it, as do the operations
of hubs. -/
theorem created_connection_fills (settings : LifetimeSettings) (peers : Peers)
    (connection : Connection) :
    let addition := peers.addChannel connection (Node.create settings).settings.buffer
    let capacity := max 1 settings.buffer
    ((∃ created, addition = .ok created) ↔ settings.buffer ≤ Mailbox.maxCapacity) ∧
    (addition = .error .tooLarge ↔ Mailbox.maxCapacity < settings.buffer) ∧
    ∀ created, addition = .ok created →
      (∀ answers after, Peers.Filling connection created answers after →
        answers = Answer.untilFull capacity answers.length) ∧
      ((∀ other, (peers.peer other).number ≠ some peers.mailboxes.size) →
        ∀ (world : World Peers) cleanup operations, world.peers = created →
          let answers :=
            Call.answersOf connection (world.runCalls Peers.network cleanup operations)
          answers = Answer.untilFull capacity answers.length) := by
  intro addition capacity
  have hbuffer : (Node.create settings).settings.buffer = max 1 settings.buffer :=
    settings.buffer_usable
  have hle : max 1 settings.buffer ≤ Mailbox.maxCapacity ↔
      settings.buffer ≤ Mailbox.maxCapacity := by
    rw [Nat.max_le]
    exact and_iff_right (by decide)
  refine ⟨?_, ?_, ?_⟩
  · rw [← hle, ← hbuffer]
    constructor
    · rintro ⟨created, hcreated⟩
      exact (Peers.addChannel_eq_ok_iff.mp hcreated).1.2
    · intro hsmall
      have hpos : 1 ≤ (Node.create settings).settings.buffer := hbuffer ▸ Nat.le_max_left _ _
      exact ⟨_, Peers.addChannel_eq_ok_iff.mpr ⟨⟨hpos, hsmall⟩, rfl⟩⟩
  · rw [← Nat.not_le, ← hle, Nat.not_le, ← hbuffer]
    exact Peers.addChannel_eq_tooLarge_iff
  · intro created hcreated
    have hseat := Peers.seat_addChannel hcreated
    rw [hbuffer] at hseat
    refine ⟨fun answers after hfilling => (hfilling.fills hseat).1, ?_⟩
    intro hunused world cleanup operations hpeers
    subst hpeers
    have halone := Peers.alone_of_addChannel hcreated hunused
    exact ((Peers.Filling.start.run halone operations).fills hseat).1

/-- A buffer of no size is raised to one place. A hub that is sent two invocations hands both to the
connection, which accepts the first and has no place for the second. -/
theorem created_connection_fills_raised_buffer :
    let settings : LifetimeSettings := { buffer := 0, cleanup := .lazy }
    let guest : Connection := ⟨0, ⟨"guest"⟩⟩
    let created : Peers :=
      (Peers.empty.setMailbox 0 ⟨1, [], .listening⟩).set guest (.channel 0 true 0 0)
    let world : World Peers := ⟨Stores.empty, created, settings.setUpLog⟩
    let operations : List Operation :=
      [.connect guest, .invokeAll ⟨"hello", []⟩ [], .invokeClient guest.id ⟨"again", []⟩]
    let answers := Call.answersOf guest (world.runCalls Peers.network .lazy operations)
    Peers.empty.addChannel guest (Node.create settings).settings.buffer = .ok created ∧
      Peers.Filling guest created [.accepted] (created.send guest ⟨"hello", []⟩).1 ∧
      (∀ other, (Peers.empty.peer other).number ≠ some Peers.empty.mailboxes.size) ∧
      settings.buffer ≤ Mailbox.maxCapacity ∧
      [Answer.accepted] = Answer.untilFull 1 1 ∧
      answers = Answer.untilFull 1 answers.length ∧
      answers = [.accepted, .refused .full] := by
  intro settings guest created world operations answers
  obtain ⟨hcreates, -, hfills⟩ := created_connection_fills settings Peers.empty guest
  have hcreated : Peers.empty.addChannel guest (Node.create settings).settings.buffer =
      .ok created := rfl
  have hfilling : Peers.Filling guest created [.accepted] (created.send guest ⟨"hello", []⟩).1 :=
    .send .start ⟨"hello", []⟩
  have hunused : ∀ other, (Peers.empty.peer other).number ≠ some Peers.empty.mailboxes.size :=
    fun _ => nofun
  obtain ⟨hfirst, hrun⟩ := hfills created hcreated
  exact ⟨hcreated, hfilling, hunused, hcreates.mp ⟨created, hcreated⟩, hfirst _ _ hfilling,
    hrun hunused world .lazy operations rfl, by decide⟩

/-- A buffer size beyond what a queue can have is accepted from the variables, but no connection can be
created with it. -/
theorem not_creatable_of_given_buffer :
    let given : Variables := fun name =>
      if name = "HUB_CONNECTION_BUFFER" then some "2305843009213693952" else none
    ∃ settings, LifetimeSettings.ofVariables given = .ok settings ∧
      settings.buffer = Mailbox.maxCapacity + 1 ∧
      ∀ (peers : Peers) connection,
        peers.addChannel connection (Node.create settings).settings.buffer = .error .tooLarge := by
  intro given
  refine ⟨⟨2305843009213693952, Cleanup.initial⟩, by decide, rfl, ?_⟩
  intro peers connection
  exact Peers.addChannel_eq_tooLarge_iff.mpr (by decide)

end Switchboard
