import Mathlib.Algebra.BigOperators.Group.List.Basic
import Mathlib.Algebra.GroupWithZero.Nat
import Switchboard.Proofs.Separation

namespace Switchboard

/-- Something that happens at a queue: an invocation is handed to one of the connections that put into it,
the far end receives up to a number of invocations, or all, or it closes the queue, or it goes away. -/
inductive Passage
  | send (connection : Connection) (invocation : Invocation)
  | receive (count : Option Nat)
  | close
  | drop

/-- What has come of a passage. -/
inductive Incident
  | sent (connection : Connection) (invocation : Invocation) (answer : Answer)
  | received (taken : List Invocation)
  | closed
  | dropped

def Passage.Over (connections : List Connection) : Passage → Prop
  | .send connection _ => connection ∈ connections
  | _ => True

namespace Incident

def isEnd : Incident → Bool
  | .closed => true
  | .dropped => true
  | _ => false

def isDrop : Incident → Bool
  | .dropped => true
  | _ => false

/-- The invocations that were accepted, by whichever connection. -/
def accepted (incidents : List Incident) : List Invocation :=
  incidents.filterMap fun
    | .sent _ invocation .accepted => some invocation
    | _ => none

def acceptances (connection : Connection) (incidents : List Incident) : Nat :=
  incidents.countP fun
    | .sent other _ answer => other = connection && answer = .accepted
    | _ => false

def refusals (connection : Connection) (incidents : List Incident) : Nat :=
  incidents.countP fun
    | .sent other _ answer => other = connection && answer ≠ .accepted
    | _ => false

def taken (incidents : List Incident) : List Invocation :=
  incidents.flatMap fun
    | .received taken => taken
    | _ => []

def receiver (incidents : List Incident) : Receiver :=
  if incidents.any isDrop then .gone else if incidents.any isEnd then .closed else .listening

variable (incidents rest : List Incident) (connection other : Connection) (invocation : Invocation)

theorem accepted_append : accepted (incidents ++ rest) = accepted incidents ++ accepted rest :=
  List.filterMap_append

theorem taken_append : taken (incidents ++ rest) = taken incidents ++ taken rest :=
  List.flatMap_append

theorem acceptances_append :
    acceptances connection (incidents ++ rest) =
      acceptances connection incidents + acceptances connection rest :=
  List.countP_append

theorem refusals_append :
    refusals connection (incidents ++ rest) =
      refusals connection incidents + refusals connection rest :=
  List.countP_append

theorem acceptances_sent (answer : Answer) :
    acceptances connection [.sent other invocation answer] =
      if other = connection ∧ answer = .accepted then 1 else 0 := by
  unfold acceptances
  rw [List.countP_singleton]
  simp

theorem refusals_sent (answer : Answer) :
    refusals connection [.sent other invocation answer] =
      if other = connection ∧ answer ≠ .accepted then 1 else 0 := by
  unfold refusals
  rw [List.countP_singleton]
  simp

theorem any_concat (test : Incident → Bool) (incident : Incident) :
    (incidents ++ [incident]).any test = (incidents.any test || test incident) := by
  rw [List.any_append]
  simp

theorem isEnd_of_isDrop {incident : Incident} (h : incident.isDrop = true) :
    incident.isEnd = true := by
  cases incident with
  | dropped => rfl
  | sent connection invocation answer => exact h
  | received taken => exact h
  | closed => exact absurd h Bool.false_ne_true

theorem receiver_of_not_end {incident : Incident} (h : incident.isEnd = false) :
    receiver (incidents ++ [incident]) = receiver incidents := by
  have hdrop : incident.isDrop = false := by
    rw [← Bool.not_eq_true]
    exact fun hdrop => Bool.false_ne_true (h.symm.trans (isEnd_of_isDrop hdrop))
  unfold receiver
  rw [any_concat, any_concat, h, hdrop, Bool.or_false, Bool.or_false]

variable {incidents}

theorem receiver_closed (h : incidents.any isDrop = false) :
    receiver (incidents ++ [.closed]) = .closed := by
  unfold receiver
  rw [any_concat, any_concat, h]
  simp [isDrop, isEnd]

theorem receiver_ne_gone (h : incidents.any isDrop = false) : receiver incidents ≠ .gone := by
  unfold receiver
  rw [h]
  cases incidents.any isEnd with
  | true => exact nofun
  | false => exact nofun

end Incident

namespace Peers

def sentCount (peers : Peers) (connection : Connection) : Nat :=
  match peers.peer connection with
  | .channel _ _ sent _ => sent
  | _ => 0

def droppedCount (peers : Peers) (connection : Connection) : Nat :=
  match peers.peer connection with
  | .channel _ _ _ dropped => dropped
  | _ => 0

/-- What happens at the queue whose receiver came with `owner`. -/
def pass (owner : Connection) (peers : Peers) : Passage → Incident × Peers
  | .send connection invocation =>
      let (peers, _, answer) := peers.send connection invocation
      (.sent connection invocation answer, peers)
  | .receive count =>
      let (taken, peers) := peers.receive owner count
      (.received (taken.getD []), peers)
  | .close => (.closed, peers.close owner)
  | .drop => (.dropped, peers.dropReceiver owner)

def passAll (owner : Connection) (peers : Peers) : List Passage → List Incident × Peers
  | [] => ([], peers)
  | passage :: rest =>
      let (incident, peers) := peers.pass owner passage
      let (incidents, peers) := passAll owner peers rest
      (incident :: incidents, peers)

theorem passAll_cons (owner : Connection) (peers : Peers) (passage : Passage) (rest : List Passage) :
    peers.passAll owner (passage :: rest) =
      ([(peers.pass owner passage).1] ++ ((peers.pass owner passage).2.passAll owner rest).1,
        ((peers.pass owner passage).2.passAll owner rest).2) :=
  rfl

theorem peer_setMailbox_set (peers : Peers) (number : Nat) (mailbox : Mailbox)
    (connection other : Connection) (state : Peer) :
    ((peers.setMailbox number mailbox).set connection state).peer other =
      if other = connection then state else peers.peer other :=
  peer_set (peers.setMailbox number mailbox) connection other state

theorem mailbox_setMailbox_set (peers : Peers) (number : Nat) (mailbox : Mailbox)
    (connection : Connection) (state : Peer) :
    ((peers.setMailbox number mailbox).set connection state).mailbox number = mailbox :=
  (mailbox_setMailbox peers number number mailbox).trans (if_pos rfl)

theorem addChannel_eq_ok_iff {peers created : Peers} {owner : Connection} {capacity : Nat} :
    peers.addChannel owner capacity = .ok created ↔
      (1 ≤ capacity ∧ capacity ≤ Mailbox.maxCapacity) ∧
        (peers.setMailbox peers.mailboxes.size ⟨capacity, [], .listening⟩).set owner
          (.channel peers.mailboxes.size true 0 0) = created := by
  unfold addChannel Mailbox.create
  by_cases hzero : capacity = 0
  · rw [if_pos hzero]
    exact iff_of_false (by simp [bind, Except.bind]) (by omega)
  · rw [if_neg hzero]
    by_cases hlarge : Mailbox.maxCapacity < capacity
    · rw [if_pos hlarge]
      exact iff_of_false (by simp [bind, Except.bind]) (by omega)
    · rw [if_neg hlarge]
      refine Iff.trans ?_ (and_iff_right (by omega)).symm
      exact ⟨Except.ok.inj, congrArg Except.ok⟩

theorem peer_foldl_addSharing (taps : List Connection) (number : Nat) (peers : Peers)
    (connection : Connection) :
    (taps.foldl (fun peers tap => peers.addSharing tap number) peers).peer connection =
      if connection ∈ taps then .channel number false 0 0 else peers.peer connection := by
  induction taps generalizing peers with
  | nil => simp
  | cons tap rest ih =>
      rw [List.foldl_cons, ih, addSharing, peer_set]
      by_cases hrest : connection ∈ rest
      · simp [hrest]
      · by_cases htap : connection = tap
        · simp [htap]
        · simp [hrest, htap]

theorem mailbox_foldl_addSharing (taps : List Connection) (number other : Nat) (peers : Peers) :
    (taps.foldl (fun peers tap => peers.addSharing tap number) peers).mailbox other =
      peers.mailbox other := by
  induction taps generalizing peers with
  | nil => rfl
  | cons tap rest ih => exact ih (peers.addSharing tap number)

section Send

variable {peers : Peers} {connection : Connection} {number sent dropped : Nat} {owner : Bool}
  (h : peers.peer connection = .channel number owner sent dropped) {invocation : Invocation}
  {mailbox : Mailbox}

include h

theorem send_of_accepted
    (hoffer : (peers.mailbox number).offer invocation = (.accepted, mailbox)) :
    peers.send connection invocation =
      ((peers.setMailbox number mailbox).set connection (.channel number owner (sent + 1) dropped),
        [], .accepted) := by
  unfold send
  rw [h]
  simp only [hoffer]

theorem send_of_refused {refusal : Refusal}
    (hoffer : (peers.mailbox number).offer invocation = (.refused refusal, mailbox)) :
    peers.send connection invocation =
      ((peers.setMailbox number mailbox).set connection (.channel number owner sent (dropped + 1)),
        [], .refused refusal) := by
  unfold send
  rw [h]
  simp only [hoffer]

end Send

/-- A queue and the connections that put into it are as the incidents there tell. -/
structure Accounts (owner : Connection) (connections : List Connection) (capacity number : Nat)
    (incidents : List Incident) (peers : Peers) : Prop where
  size : (peers.mailbox number).capacity = capacity
  receiver : (peers.mailbox number).receiver = Incident.receiver incidents
  conserved : incidents.any Incident.isDrop = false →
    Incident.taken incidents ++ (peers.mailbox number).queued = Incident.accepted incidents
  taken : Incident.taken incidents <+: Incident.accepted incidents
  bound : (peers.mailbox number).queued.length ≤ capacity
  peer : ∀ connection ∈ connections, peers.peer connection =
    .channel number (decide (connection = owner) && !incidents.any Incident.isDrop)
      (Incident.acceptances connection incidents) (Incident.refusals connection incidents)

namespace Accounts

variable {owner : Connection} {connections : List Connection} {capacity number : Nat}
  {incidents : List Incident} {peers : Peers}

theorem isClosed_mailbox (h : Accounts owner connections capacity number incidents peers) :
    (peers.mailbox number).isClosed = incidents.any Incident.isEnd := by
  have hdrop : incidents.any Incident.isDrop = true → incidents.any Incident.isEnd = true := by
    rw [List.any_eq_true, List.any_eq_true]
    rintro ⟨incident, hmem, hdropped⟩
    exact ⟨incident, hmem, Incident.isEnd_of_isDrop hdropped⟩
  unfold Mailbox.isClosed
  rw [h.receiver]
  unfold Incident.receiver
  cases hended : incidents.any Incident.isEnd with
  | true => split <;> rfl
  | false =>
      rw [if_neg fun hdropped => Bool.false_ne_true (hended.symm.trans (hdrop hdropped))]
      rfl

theorem peer_sent (h : Accounts owner connections capacity number incidents peers)
    {connection : Connection} {invocation : Invocation} {answer : Answer} {mailbox : Mailbox}
    {sent dropped : Nat}
    (hsent : sent = Incident.acceptances connection incidents + if answer = .accepted then 1 else 0)
    (hdropped : dropped = Incident.refusals connection incidents +
      if answer = .accepted then 0 else 1) :
    let after := incidents ++ [.sent connection invocation answer]
    ∀ other ∈ connections,
      ((peers.setMailbox number mailbox).set connection
          (.channel number (decide (connection = owner) && !incidents.any Incident.isDrop)
            sent dropped)).peer other =
        .channel number (decide (other = owner) && !after.any Incident.isDrop)
          (Incident.acceptances other after) (Incident.refusals other after) := by
  intro after other hother
  rw [peer_setMailbox_set, Incident.acceptances_append, Incident.refusals_append,
    Incident.acceptances_sent, Incident.refusals_sent, Incident.any_concat]
  rcases eq_or_ne other connection with rfl | hne
  · rw [if_pos rfl, hsent, hdropped]
    simp [Incident.isDrop]
  · rw [if_neg hne, h.peer other hother]
    simp [Incident.isDrop, Ne.symm hne]

theorem peer_of_not_sent (h : Accounts owner connections capacity number incidents peers)
    {incident : Incident} (hdrop : incident.isDrop = true → incidents.any Incident.isDrop = true)
    (hacceptances : ∀ connection, Incident.acceptances connection [incident] = 0)
    (hrefusals : ∀ connection, Incident.refusals connection [incident] = 0) :
    ∀ connection ∈ connections, peers.peer connection =
      .channel number
        (decide (connection = owner) && !(incidents ++ [incident]).any Incident.isDrop)
        (Incident.acceptances connection (incidents ++ [incident]))
        (Incident.refusals connection (incidents ++ [incident])) := by
  intro connection hmem
  have hany : (incidents ++ [incident]).any Incident.isDrop = incidents.any Incident.isDrop := by
    rw [Incident.any_concat, Bool.or_eq_left_iff_imp]
    exact hdrop
  rw [Incident.acceptances_append, Incident.refusals_append, hany, hacceptances, hrefusals]
  exact h.peer connection hmem

/-- What happens at a queue whose receiver is gone changes nothing, but for what is handed to it. -/
theorem idle (h : Accounts owner connections capacity number incidents peers)
    (hgone : incidents.any Incident.isDrop = true) {incident : Incident}
    (haccepted : Incident.accepted [incident] = []) (htaken : Incident.taken [incident] = [])
    (hacceptances : ∀ connection, Incident.acceptances connection [incident] = 0)
    (hrefusals : ∀ connection, Incident.refusals connection [incident] = 0) :
    Accounts owner connections capacity number (incidents ++ [incident]) peers where
  size := h.size
  receiver := by
    rw [h.receiver]
    simp [Incident.receiver, hgone]
  conserved hlistening := by
    rw [Incident.any_concat, hgone] at hlistening
    cases hlistening
  taken := by
    rw [Incident.taken_append, Incident.accepted_append, htaken, haccepted, List.append_nil,
      List.append_nil]
    exact h.taken
  bound := h.bound
  peer := h.peer_of_not_sent (fun _ => hgone) hacceptances hrefusals

theorem sent_of_refused (h : Accounts owner connections capacity number incidents peers)
    {connection : Connection} (hmem : connection ∈ connections) {invocation : Invocation}
    {refusal : Refusal}
    (hoffer : (peers.mailbox number).offer invocation = (.refused refusal, peers.mailbox number)) :
    Accounts owner connections capacity number
      (incidents ++ [.sent connection invocation (.refused refusal)])
      (peers.send connection invocation).1 := by
  rw [send_of_refused (h.peer connection hmem) hoffer]
  constructor
  · rw [mailbox_setMailbox_set]
    exact h.size
  · rw [mailbox_setMailbox_set, Incident.receiver_of_not_end incidents rfl]
    exact h.receiver
  · rw [mailbox_setMailbox_set, Incident.any_concat, Incident.taken_append,
      Incident.accepted_append]
    simpa [Incident.taken, Incident.accepted, Incident.isDrop] using h.conserved
  · rw [Incident.taken_append, Incident.accepted_append]
    simpa [Incident.taken, Incident.accepted] using h.taken
  · rw [mailbox_setMailbox_set]
    exact h.bound
  · exact h.peer_sent rfl rfl

theorem sent_of_accepted (h : Accounts owner connections capacity number incidents peers)
    {connection : Connection} (hmem : connection ∈ connections) (invocation : Invocation)
    (hopen : (peers.mailbox number).isClosed = false)
    (hroom : (peers.mailbox number).queued.length < (peers.mailbox number).capacity) :
    Accounts owner connections capacity number
      (incidents ++ [.sent connection invocation .accepted])
      (peers.send connection invocation).1 := by
  rw [send_of_accepted (h.peer connection hmem) (Mailbox.offer_accepted hopen hroom invocation)]
  constructor
  · rw [mailbox_setMailbox_set]
    exact h.size
  · rw [mailbox_setMailbox_set, Incident.receiver_of_not_end incidents rfl]
    exact h.receiver
  · rw [mailbox_setMailbox_set, Incident.any_concat, Incident.taken_append,
      Incident.accepted_append]
    intro hgone
    rw [← h.conserved (by simpa [Incident.isDrop] using hgone)]
    simp [Incident.taken, Incident.accepted]
  · rw [Incident.taken_append, Incident.accepted_append]
    simpa [Incident.taken] using h.taken.trans (List.prefix_append _ _)
  · rw [mailbox_setMailbox_set]
    rw [h.size] at hroom
    rw [List.length_append]
    exact hroom
  · exact h.peer_sent rfl rfl

/-- A send is refused as closed once the receiver has closed the queue or is gone, otherwise as full while
the queue is full, and otherwise accepted. -/
theorem send (h : Accounts owner connections capacity number incidents peers)
    {connection : Connection} (hmem : connection ∈ connections) (invocation : Invocation) :
    (peers.send connection invocation).2.2 =
        (if incidents.any Incident.isEnd then .refused .closed
        else if (peers.mailbox number).queued.length = capacity then .refused .full
        else .accepted) ∧
      Accounts owner connections capacity number
        (incidents ++ [.sent connection invocation (peers.send connection invocation).2.2])
        (peers.send connection invocation).1 := by
  rw [← h.isClosed_mailbox]
  cases hclosed : (peers.mailbox number).isClosed with
  | true =>
      have hoffer := Mailbox.offer_closed hclosed invocation
      have hafter := h.sent_of_refused hmem hoffer
      rw [send_of_refused (h.peer connection hmem) hoffer] at hafter ⊢
      exact ⟨rfl, hafter⟩
  | false =>
      by_cases hfull : (peers.mailbox number).queued.length = capacity
      · have hoffer := Mailbox.offer_full hclosed (Nat.le_of_eq (h.size.trans hfull.symm)) invocation
        have hafter := h.sent_of_refused hmem hoffer
        rw [send_of_refused (h.peer connection hmem) hoffer] at hafter ⊢
        exact ⟨by simp [hfull], hafter⟩
      · have hroom : (peers.mailbox number).queued.length < (peers.mailbox number).capacity :=
          h.size.symm ▸ Nat.lt_of_le_of_ne h.bound hfull
        have hoffer := Mailbox.offer_accepted hclosed hroom invocation
        have hafter := h.sent_of_accepted hmem invocation hclosed hroom
        rw [send_of_accepted (h.peer connection hmem) hoffer] at hafter ⊢
        exact ⟨by simp [hfull], hafter⟩

section Receiver

variable (h : Accounts owner connections capacity number incidents peers)
  (howner : owner ∈ connections)

include h howner

theorem peer_owner : peers.peer owner = .channel number (!incidents.any Incident.isDrop)
    (Incident.acceptances owner incidents) (Incident.refusals owner incidents) := by
  rw [h.peer owner howner]
  simp

theorem receive (count : Option Nat) :
    Accounts owner connections capacity number
      (incidents ++ [.received ((peers.receive owner count).1.getD [])])
      (peers.receive owner count).2 := by
  have hpeer := h.peer_owner howner
  cases hgone : incidents.any Incident.isDrop with
  | true =>
      rw [hgone] at hpeer
      rw [receive_of_sharing hpeer]
      exact h.idle hgone rfl rfl (fun _ => rfl) (fun _ => rfl)
  | false =>
      rw [hgone] at hpeer
      have hconserved := h.conserved hgone
      rw [receive_of_owner hpeer]
      generalize count.getD (peers.mailbox number).queued.length = taken
      constructor
      · rw [mailbox_setMailbox, if_pos rfl]
        exact h.size
      · rw [mailbox_setMailbox, if_pos rfl, Incident.receiver_of_not_end incidents rfl]
        exact h.receiver
      · rw [mailbox_setMailbox, if_pos rfl, Incident.taken_append, Incident.accepted_append,
          ← hconserved]
        simp [Incident.taken, Incident.accepted]
      · rw [Incident.taken_append, Incident.accepted_append, ← hconserved]
        simpa [Incident.taken, Incident.accepted] using List.take_prefix _ _
      · rw [mailbox_setMailbox, if_pos rfl]
        rw [List.length_drop]
        exact Nat.le_trans (Nat.sub_le _ _) h.bound
      · exact h.peer_of_not_sent (by simp [Incident.isDrop]) (fun _ => rfl) (fun _ => rfl)

theorem close :
    Accounts owner connections capacity number (incidents ++ [.closed]) (peers.close owner) := by
  have hpeer := h.peer_owner howner
  cases hgone : incidents.any Incident.isDrop with
  | true =>
      rw [hgone] at hpeer
      rw [close_of_sharing hpeer]
      exact h.idle hgone rfl rfl (fun _ => rfl) (fun _ => rfl)
  | false =>
      rw [hgone] at hpeer
      rw [close_of_owner hpeer]
      constructor
      · rw [mailbox_setMailbox, if_pos rfl, Mailbox.close_eq]
        exact h.size
      · rw [mailbox_setMailbox, if_pos rfl, Mailbox.close_eq]
        change (if (peers.mailbox number).receiver = .gone then Receiver.gone else .closed) = _
        rw [if_neg fun hreceiver => Incident.receiver_ne_gone hgone (h.receiver ▸ hreceiver),
          Incident.receiver_closed hgone]
      · rw [mailbox_setMailbox, if_pos rfl, Mailbox.close_eq, Incident.taken_append,
          Incident.accepted_append, ← h.conserved hgone]
        simp [Incident.taken, Incident.accepted]
      · rw [Incident.taken_append, Incident.accepted_append]
        simpa [Incident.taken, Incident.accepted] using h.taken
      · rw [mailbox_setMailbox, if_pos rfl, Mailbox.close_eq]
        exact h.bound
      · exact h.peer_of_not_sent (by simp [Incident.isDrop]) (fun _ => rfl) (fun _ => rfl)

theorem drop : Accounts owner connections capacity number (incidents ++ [.dropped])
    (peers.dropReceiver owner) := by
  have hpeer := h.peer_owner howner
  cases hgone : incidents.any Incident.isDrop with
  | true =>
      rw [hgone] at hpeer
      rw [dropReceiver_of_sharing hpeer]
      exact h.idle hgone rfl rfl (fun _ => rfl) (fun _ => rfl)
  | false =>
      rw [hgone] at hpeer
      rw [dropReceiver_of_owner hpeer]
      constructor
      · rw [mailbox_setMailbox_set]
        exact h.size
      · rw [mailbox_setMailbox_set]
        simp [Incident.receiver, Incident.isDrop, Mailbox.drop]
      · rw [Incident.any_concat]
        exact fun hlistening => absurd hlistening (by simp [Incident.isDrop])
      · rw [Incident.taken_append, Incident.accepted_append]
        simpa [Incident.taken, Incident.accepted] using h.taken
      · rw [mailbox_setMailbox_set]
        exact Nat.zero_le capacity
      · intro connection hmem
        rw [peer_setMailbox_set, Incident.any_concat, Incident.acceptances_append,
          Incident.refusals_append]
        rcases eq_or_ne connection owner with rfl | hne
        · simp [Incident.isDrop, Incident.acceptances, Incident.refusals]
        · rw [if_neg hne, h.peer connection hmem]
          simp [hne, Incident.acceptances, Incident.refusals]

theorem pass {passage : Passage} (hover : passage.Over connections) :
    Accounts owner connections capacity number (incidents ++ [(peers.pass owner passage).1])
      (peers.pass owner passage).2 := by
  cases passage with
  | send connection invocation => exact (h.send hover invocation).2
  | receive count => exact h.receive howner count
  | close => exact h.close howner
  | drop => exact h.drop howner

end Receiver

theorem passAll (h : Accounts owner connections capacity number incidents peers)
    (howner : owner ∈ connections) {passages : List Passage}
    (hover : ∀ passage ∈ passages, passage.Over connections) :
    Accounts owner connections capacity number (incidents ++ (peers.passAll owner passages).1)
      (peers.passAll owner passages).2 := by
  induction passages generalizing incidents peers with
  | nil =>
      rw [Peers.passAll, List.append_nil]
      exact h
  | cons passage rest ih =>
      obtain ⟨hfirst, hrest⟩ := List.forall_mem_cons.mp hover
      have hafter := ih (h.pass howner hfirst) hrest
      rw [List.append_assoc] at hafter
      exact hafter

theorem sentCount (h : Accounts owner connections capacity number incidents peers)
    {connection : Connection} (hmem : connection ∈ connections) :
    peers.sentCount connection = Incident.acceptances connection incidents := by
  unfold Peers.sentCount
  rw [h.peer connection hmem]

theorem droppedCount (h : Accounts owner connections capacity number incidents peers)
    {connection : Connection} (hmem : connection ∈ connections) :
    peers.droppedCount connection = Incident.refusals connection incidents := by
  unfold Peers.droppedCount
  rw [h.peer connection hmem]

theorem isClosed (h : Accounts owner connections capacity number incidents peers)
    {connection : Connection} (hmem : connection ∈ connections) :
    peers.isClosed connection = incidents.any Incident.isEnd := by
  unfold Peers.isClosed
  rw [h.peer connection hmem]
  exact h.isClosed_mailbox

theorem acceptances_of_ended (h : Accounts owner connections capacity number incidents peers)
    (howner : owner ∈ connections) {passages : List Passage}
    (hover : ∀ passage ∈ passages, passage.Over connections)
    (hended : incidents.any Incident.isEnd = true) {connection : Connection} :
    Incident.acceptances connection (peers.passAll owner passages).1 = 0 := by
  induction passages generalizing incidents peers with
  | nil => rfl
  | cons passage rest ih =>
      obtain ⟨hfirst, hrest⟩ := List.forall_mem_cons.mp hover
      have hlater := ih (h.pass howner hfirst) hrest (by rw [Incident.any_concat, hended]; rfl)
      have hnow : Incident.acceptances connection [(peers.pass owner passage).1] = 0 := by
        cases passage with
        | send other invocation =>
            obtain ⟨hanswer, -⟩ := h.send hfirst invocation
            rw [if_pos hended] at hanswer
            simp only [Peers.pass, Incident.acceptances_sent, hanswer]
            exact if_neg nofun
        | receive count => rfl
        | close => rfl
        | drop => rfl
      rw [Peers.passAll_cons, Incident.acceptances_append, hnow, hlater]

theorem start (peers : Peers) (owner : Connection) (capacity : Nat) (taps : List Connection)
    (howner : owner ∉ taps) :
    let created := (peers.setMailbox number ⟨capacity, [], .listening⟩).set owner
      (.channel number true 0 0)
    Accounts owner (owner :: taps) capacity number []
      (taps.foldl (fun peers tap => peers.addSharing tap number) created) := by
  intro created
  have hmailbox : (taps.foldl (fun peers tap => peers.addSharing tap number) created).mailbox
      number = ⟨capacity, [], .listening⟩ :=
    (mailbox_foldl_addSharing taps number number created).trans
      (mailbox_setMailbox_set peers number _ owner _)
  constructor
  · rw [hmailbox]
  · rw [hmailbox]
    rfl
  · rw [hmailbox]
    exact fun _ => rfl
  · exact List.prefix_rfl
  · rw [hmailbox]
    exact Nat.zero_le capacity
  · intro connection hmem
    rw [peer_foldl_addSharing]
    rcases List.mem_cons.mp hmem with rfl | htap
    · rw [if_neg howner, peer_setMailbox_set, if_pos rfl]
      simp [Incident.acceptances, Incident.refusals]
    · have hne : connection ≠ owner := ne_of_mem_of_not_mem htap howner
      rw [if_pos htap]
      simp [hne, Incident.acceptances, Incident.refusals]

end Accounts

theorem passAll_append (owner : Connection) (peers : Peers) (first rest : List Passage) :
    peers.passAll owner (first ++ rest) =
      ((peers.passAll owner first).1 ++ ((peers.passAll owner first).2.passAll owner rest).1,
        ((peers.passAll owner first).2.passAll owner rest).2) := by
  induction first generalizing peers with
  | nil => rfl
  | cons passage passages ih => simp only [List.cons_append, passAll, ih]

theorem sum_acceptances_pass {connections : List Connection} (hnodup : connections.Nodup)
    (owner : Connection) (peers : Peers) {passage : Passage}
    (hover : passage.Over connections) :
    let incidents := [(peers.pass owner passage).1]
    (connections.map fun connection => Incident.acceptances connection incidents).sum =
      (Incident.accepted incidents).length := by
  cases passage with
  | send other invocation =>
      simp only [pass, Incident.acceptances_sent]
      generalize (peers.send other invocation).2.2 = answer
      have hmem : other ∈ connections := hover
      rw [List.sum_map_eq_nsmul_single other _ fun connection hne _ =>
        if_neg fun hsame => hne hsame.1.symm, List.count_eq_one_of_mem hnodup hmem]
      cases answer with
      | accepted => simp [Incident.accepted]
      | refused refusal => simp [Incident.accepted]
  | receive count => exact List.sum_map_zero
  | close => exact List.sum_map_zero
  | drop => exact List.sum_map_zero

theorem sum_acceptances {connections : List Connection} (hnodup : connections.Nodup)
    (owner : Connection) (peers : Peers) {passages : List Passage}
    (hover : ∀ passage ∈ passages, passage.Over connections) :
    let incidents := (peers.passAll owner passages).1
    (connections.map fun connection => Incident.acceptances connection incidents).sum =
      (Incident.accepted incidents).length := by
  induction passages generalizing peers with
  | nil => exact List.sum_map_zero
  | cons passage rest ih =>
      obtain ⟨hfirst, hrest⟩ := List.forall_mem_cons.mp hover
      have hrun := ih (peers.pass owner passage).2 hrest
      have hpass := sum_acceptances_pass hnodup owner peers hfirst
      rw [passAll_cons]
      simp only [Incident.acceptances_append, Incident.accepted_append, List.length_append,
        List.sum_map_add]
      rw [hpass, hrun]

end Peers

/-- Connections that put invocations into one new queue, of which one came with the receiver. Whatever is
handed to them, received, or done to the queue: while the receiver is there, what was received and what is
queued are what was accepted, in that order, and what was received comes first in it; the queue keeps to
its capacity; an invocation is refused as closed once the queue is closed or its receiver gone, else as
full when the queue is full, else accepted; each connection counts its own; and once the queue is
closed all of them are, and count no more as sent. -/
theorem shared_queue_conserves (peers : Peers) {owner : Connection} {taps : List Connection}
    (hnodup : (owner :: taps).Nodup) (capacity : Nat) :
    ((∃ created, peers.addChannel owner capacity = .ok created) ↔
      1 ≤ capacity ∧ capacity ≤ Mailbox.maxCapacity) ∧
    ∀ created, peers.addChannel owner capacity = .ok created →
    ∀ passages : List Passage, (∀ passage ∈ passages, passage.Over (owner :: taps)) →
      let number := peers.mailboxes.size
      let start := taps.foldl (fun peers tap => peers.addSharing tap number) created
      let incidents := (start.passAll owner passages).1
      let after := (start.passAll owner passages).2
      let queued := (after.mailbox number).queued
      (incidents.any Incident.isDrop = false →
        Incident.taken incidents ++ queued = Incident.accepted incidents) ∧
      Incident.taken incidents <+: Incident.accepted incidents ∧
      queued.length ≤ capacity ∧
      ((owner :: taps).map after.sentCount).sum = (Incident.accepted incidents).length ∧
      ∀ connection ∈ owner :: taps,
        (∀ invocation, (after.send connection invocation).2.2 =
          if incidents.any Incident.isEnd then .refused .closed
          else if queued.length = capacity then .refused .full
          else .accepted) ∧
        after.sentCount connection = Incident.acceptances connection incidents ∧
        after.droppedCount connection = Incident.refusals connection incidents ∧
        after.isClosed connection = incidents.any Incident.isEnd ∧
        (incidents.any Incident.isEnd = true →
          ∀ later : List Passage, (∀ passage ∈ later, passage.Over (owner :: taps)) →
            (start.passAll owner (passages ++ later)).2.sentCount connection =
              after.sentCount connection) := by
  obtain ⟨howner, -⟩ := List.nodup_cons.mp hnodup
  refine ⟨?_, ?_⟩
  · refine ⟨?_, ?_⟩
    · rintro ⟨created, hcreated⟩
      exact (Peers.addChannel_eq_ok_iff.mp hcreated).1
    · exact fun hcapacity => ⟨_, Peers.addChannel_eq_ok_iff.mpr ⟨hcapacity, rfl⟩⟩
  · rintro created hcreated passages hover number start incidents after queued
    obtain ⟨-, rfl⟩ := Peers.addChannel_eq_ok_iff.mp hcreated
    have hstart : Peers.Accounts owner (owner :: taps) capacity number [] start :=
      Peers.Accounts.start peers owner capacity taps howner
    have hafter : Peers.Accounts owner (owner :: taps) capacity number incidents after :=
      hstart.passAll List.mem_cons_self hover
    have hsum : ((owner :: taps).map after.sentCount).sum = (Incident.accepted incidents).length := by
      rw [List.map_congr_left fun connection hmem => hafter.sentCount hmem]
      exact Peers.sum_acceptances hnodup owner start hover
    refine ⟨hafter.conserved, hafter.taken, hafter.bound, hsum, ?_⟩
    intro connection hmem
    refine ⟨fun invocation => (hafter.send hmem invocation).1, hafter.sentCount hmem,
      hafter.droppedCount hmem, hafter.isClosed hmem, ?_⟩
    intro hended later hlater
    rw [Peers.passAll_append]
    have hend := hafter.passAll List.mem_cons_self hlater
    rw [hend.sentCount hmem, hafter.sentCount hmem, Incident.acceptances_append,
      hafter.acceptances_of_ended List.mem_cons_self hlater hended]
    rfl

/-- Two connections fill a queue of two; one invocation is received, another one is accepted in its place,
and the queue is closed while it is full. -/
theorem shared_queue_conserves_two_senders :
    let owner : Connection := ⟨0, ⟨"owner"⟩⟩
    let tap : Connection := ⟨1, ⟨"tap"⟩⟩
    let first : Invocation := ⟨"first", []⟩
    let second : Invocation := ⟨"second", []⟩
    let third : Invocation := ⟨"third", []⟩
    let passages : List Passage :=
      [.send owner first, .send tap second, .send owner third, .receive (some 1), .send tap third,
        .close]
    [owner, tap].Nodup ∧ ∃ created, Peers.empty.addChannel owner 2 = .ok created ∧
      (∀ passage ∈ passages, passage.Over [owner, tap]) ∧
      let number := Peers.empty.mailboxes.size
      let start := [tap].foldl (fun peers tap => peers.addSharing tap number) created
      let incidents := (start.passAll owner passages).1
      let after := (start.passAll owner passages).2
      Incident.taken incidents = [first] ∧
        Incident.accepted incidents = [first, second, third] ∧
        Incident.taken incidents ++ (after.mailbox number).queued = Incident.accepted incidents ∧
        (after.send owner first).2.2 = .refused .closed ∧
        after.sentCount owner = 1 ∧ after.droppedCount owner = 1 ∧ after.sentCount tap = 2 ∧
        after.isClosed tap = true ∧
        (start.passAll owner (passages ++ [.send tap first, .drop])).2.sentCount tap = 2 := by
  intro owner tap first second third passages
  have hnodup : [owner, tap].Nodup := by decide
  have hover : ∀ passage ∈ passages, passage.Over [owner, tap] := by
    simp [passages, Passage.Over]
  obtain ⟨hexists, hcreated⟩ := shared_queue_conserves Peers.empty hnodup 2
  obtain ⟨created, hcreate⟩ := hexists.mpr (by decide)
  obtain ⟨hconserved, -, -, -, hcounts⟩ := hcreated created hcreate passages hover
  obtain ⟨-, rfl⟩ := Peers.addChannel_eq_ok_iff.mp hcreate
  obtain ⟨howner, hsent, hdropped, -, -⟩ := hcounts owner List.mem_cons_self
  obtain ⟨-, htap, -, hclosed, hlater⟩ := hcounts tap (by decide)
  refine ⟨hnodup, _, hcreate, hover, by rfl, by rfl, ?_, ?_, ?_, ?_, ?_, ?_, ?_⟩
  · exact hconserved (by rfl)
  · exact (howner first).trans (by rfl)
  · exact hsent.trans (by rfl)
  · exact hdropped.trans (by rfl)
  · exact htap.trans (by rfl)
  · exact hclosed.trans (by rfl)
  · exact (hlater (by rfl) [.send tap first, .drop] (by simp [Passage.Over])).trans
      (htap.trans (by rfl))

end Switchboard
