import Switchboard.Proofs.Interleaving
import Switchboard.Proofs.Round
import Switchboard.Proofs.Sending

/-!
The order in which an invocation goes through its recipients. Where no two of them put into one queue and
none asks anything of the hub, each is handed the invocation as if it came first, so that it does not
matter in which order the stores list them.
-/

namespace Switchboard

namespace Call

theorem closed_perm {calls others : List Call} (h : others.Perm calls) :
    (closed others).Perm (closed calls) :=
  (h.filter _).map connection

theorem tally_perm {calls others : List Call} (h : others.Perm calls) (answer : Answer) :
    tally others answer = tally calls answer :=
  h.countP_eq _

end Call

/-- Two reports that tell the same, but for the order of those that were closed. -/
structure Report.Matches (report other : Report) : Prop where
  sent : report.sent = other.sent
  skipped : report.skipped = other.skipped
  full : report.full = other.full
  closed : report.closed.Perm other.closed

theorem Report.Matches.failed {report other : Report} (h : report.Matches other) :
    report.failed = other.failed := by
  unfold Report.failed
  rw [h.full, h.closed.length_eq]

theorem Report.matches_extend {skipped more : Nat} {calls others : List Call} (report : Report)
    (hskipped : more = skipped) (hcalls : others.Perm calls) :
    (report.extend more others).Matches (report.extend skipped calls) where
  sent := congrArg (report.sent + ·) (Call.tally_perm hcalls .accepted)
  skipped := congrArg (report.skipped + ·) hskipped
  full := congrArg (report.full + ·) (Call.tally_perm hcalls (.refused .full))
  closed := (Call.closed_perm hcalls).append_left _

/-- The joint state of connections as cells, with those that a connection works on when it is handed an
invocation. A calm connection is one that asks nothing of the hub then. -/
structure Cells (σ κ τ : Type) where
  cell : σ → κ → τ
  touches : σ → Connection → κ → Prop
  calm : σ → Connection → Prop

def Cells.Same {σ κ τ : Type} (cells : Cells σ κ τ) (connection : Connection) (peers other : σ) :
    Prop :=
  ∀ k, cells.touches peers connection k → cells.cell other k = cells.cell peers k

/-- Calm connections leave all cells alone that they do not work on, and go by those that they do. -/
structure Footprint {σ : Type} (network : Network σ) (κ τ : Type) extends Cells σ κ τ where
  requests : ∀ {peers connection}, calm peers connection → ∀ invocation stores,
    (network.send connection invocation stores peers).requests = []
  spares : ∀ {peers connection}, calm peers connection → ∀ invocation stores {k},
    ¬ touches peers connection k →
      cell (network.send connection invocation stores peers).peers k = cell peers k
  steady : ∀ {peers other connection}, calm peers connection →
    toCells.Same connection peers other →
      calm other connection ∧ ∀ k, touches other connection k ↔ touches peers connection k
  answer : ∀ {peers other connection}, calm peers connection →
    toCells.Same connection peers other → ∀ invocation stores stores',
      (network.send connection invocation stores' other).answer =
        (network.send connection invocation stores peers).answer
  works : ∀ {peers other connection}, calm peers connection →
    toCells.Same connection peers other → ∀ invocation stores stores' {k},
      touches peers connection k →
        cell (network.send connection invocation stores' other).peers k =
          cell (network.send connection invocation stores peers).peers k

namespace Footprint

variable {σ κ τ : Type} {network : Network σ} (footprint : Footprint network κ τ)

/-- Recipients that ask nothing of the hub, no two of which work on the same cell. -/
structure Apart (peers : σ) (recipients : List Connection) : Prop where
  calm : ∀ connection ∈ recipients, footprint.calm peers connection
  disjoint : ∀ connection ∈ recipients, ∀ other ∈ recipients, connection ≠ other →
    ∀ k, footprint.touches peers connection k → ¬ footprint.touches peers other k

variable {footprint} {peers : σ} {order other : List Connection}

theorem Apart.perm (h : footprint.Apart peers order) (hperm : other.Perm order) :
    footprint.Apart peers other where
  calm connection hmem := h.calm connection (hperm.mem_iff.mp hmem)
  disjoint connection hconnection another hanother :=
    h.disjoint connection (hperm.mem_iff.mp hconnection) another (hperm.mem_iff.mp hanother)

section Send

variable {first : Connection} {rest : List Connection}
  (h : footprint.Apart peers (first :: rest)) (hfirst : first ∉ rest) (invocation : Invocation)
  (stores : Stores)

include h hfirst

/-- The recipients that are still to come find their cells as they were. -/
theorem Apart.same_send {connection : Connection} (hmem : connection ∈ rest) :
    footprint.Same connection peers (network.send first invocation stores peers).peers := by
  intro k htouches
  apply footprint.spares (h.calm first List.mem_cons_self)
  intro htouched
  have hne : first ≠ connection := fun heq => hfirst (heq ▸ hmem)
  exact h.disjoint first List.mem_cons_self connection (List.mem_cons_of_mem _ hmem) hne k htouched
    htouches

theorem Apart.touches_send {connection : Connection} (hmem : connection ∈ rest) (k : κ) :
    footprint.touches (network.send first invocation stores peers).peers connection k ↔
      footprint.touches peers connection k :=
  (footprint.steady (h.calm connection (List.mem_cons_of_mem _ hmem))
    (h.same_send hfirst invocation stores hmem)).2 k

theorem Apart.send : footprint.Apart (network.send first invocation stores peers).peers rest where
  calm connection hmem :=
    (footprint.steady (h.calm connection (List.mem_cons_of_mem _ hmem))
      (h.same_send hfirst invocation stores hmem)).1
  disjoint connection hconnection another hanother hne k := by
    rw [h.touches_send hfirst invocation stores hconnection,
      h.touches_send hfirst invocation stores hanother]
    exact h.disjoint connection (List.mem_cons_of_mem _ hconnection) another
      (List.mem_cons_of_mem _ hanother) hne k

end Send

theorem exchange_eq {connection : Connection} (h : footprint.calm peers connection)
    (invocation : Invocation) (stores : Stores) :
    network.exchange invocation (stores, peers) connection =
      (stores, (network.send connection invocation stores peers).peers) := by
  simp only [Network.exchange, footprint.requests h, List.foldl_nil]

/-- Each recipient leaves its cells as if it were the only one. -/
theorem Apart.foldl_exchange (h : footprint.Apart peers order) (hnodup : order.Nodup)
    (invocation : Invocation) (stores : Stores) :
    let sent := order.foldl (network.exchange invocation) (stores, peers)
    sent.1 = stores ∧
      (∀ connection ∈ order, ∀ k, footprint.touches peers connection k →
        footprint.cell sent.2 k =
          footprint.cell (network.send connection invocation stores peers).peers k) ∧
      ∀ k, (∀ connection ∈ order, ¬ footprint.touches peers connection k) →
        footprint.cell sent.2 k = footprint.cell peers k := by
  induction order generalizing peers with
  | nil =>
      refine ⟨rfl, ?_, fun _ _ => rfl⟩
      intro connection hmem
      cases hmem
  | cons first rest ih =>
      obtain ⟨hfirst, hrest⟩ := List.nodup_cons.mp hnodup
      have hcalm := h.calm first List.mem_cons_self
      rw [List.foldl_cons, exchange_eq hcalm]
      obtain ⟨hstores, htouched, hspared⟩ := ih (h.send hfirst invocation stores) hrest
      refine ⟨hstores, ?_, ?_⟩
      · intro connection hmem k htouches
        rcases List.mem_cons.mp hmem with rfl | hlater
        · apply hspared
          intro another hanother
          rw [h.touches_send hfirst invocation stores hanother]
          have hne : connection ≠ another := fun heq => hfirst (heq ▸ hanother)
          exact h.disjoint connection List.mem_cons_self another
            (List.mem_cons_of_mem _ hanother) hne k htouches
        · have hsame := h.same_send hfirst invocation stores hlater
          rw [htouched connection hlater k
            ((h.touches_send hfirst invocation stores hlater k).mpr htouches)]
          exact footprint.works (h.calm connection hmem) hsame invocation stores stores htouches
      · intro k huntouched
        rw [hspared k fun connection hmem htouches =>
          huntouched connection (List.mem_cons_of_mem _ hmem)
            ((h.touches_send hfirst invocation stores hmem k).mp htouches)]
        exact footprint.spares hcalm invocation stores (huntouched first List.mem_cons_self)

theorem Apart.calls_eq_map (h : footprint.Apart peers order) (hnodup : order.Nodup)
    (invocation : Invocation) (stores : Stores) :
    network.calls invocation order (stores, peers) =
      order.map (network.call invocation (stores, peers)) := by
  induction order generalizing peers with
  | nil => rfl
  | cons first rest ih =>
      obtain ⟨hfirst, hrest⟩ := List.nodup_cons.mp hnodup
      rw [Network.calls, List.map_cons, exchange_eq (h.calm first List.mem_cons_self),
        ih (h.send hfirst invocation stores) hrest]
      congr 1
      apply List.map_congr_left
      intro connection hmem
      unfold Network.call
      rw [footprint.answer (h.calm connection (List.mem_cons_of_mem _ hmem))
        (h.same_send hfirst invocation stores hmem) invocation stores stores]

section Perm

variable (h : footprint.Apart peers order) (hperm : other.Perm order) (hnodup : order.Nodup)
  (invocation : Invocation) (stores stores' : Stores)

include h hperm hnodup

theorem Apart.calls_perm :
    (network.calls invocation other (stores', peers)).Perm
      (network.calls invocation order (stores, peers)) := by
  rw [h.calls_eq_map hnodup, (h.perm hperm).calls_eq_map (hperm.nodup_iff.mpr hnodup)]
  have hcall : ∀ connection ∈ order, network.call invocation (stores', peers) connection =
      network.call invocation (stores, peers) connection := by
    intro connection hmem
    unfold Network.call
    rw [footprint.answer (h.calm connection hmem) (fun _ _ => rfl) invocation stores stores']
  rw [← List.map_congr_left hcall]
  exact hperm.map _

theorem Apart.cell_perm (k : κ) :
    footprint.cell (other.foldl (network.exchange invocation) (stores', peers)).2 k =
      footprint.cell (order.foldl (network.exchange invocation) (stores, peers)).2 k := by
  obtain ⟨-, htouched, hspared⟩ := h.foldl_exchange hnodup invocation stores
  obtain ⟨-, htouched', hspared'⟩ :=
    (h.perm hperm).foldl_exchange (hperm.nodup_iff.mpr hnodup) invocation stores'
  by_cases hmem : ∃ connection ∈ order, footprint.touches peers connection k
  · obtain ⟨connection, hconnection, htouches⟩ := hmem
    rw [htouched connection hconnection k htouches,
      htouched' connection (hperm.mem_iff.mpr hconnection) k htouches]
    exact footprint.works (h.calm connection hconnection) (fun _ _ => rfl) invocation stores stores'
      htouches
  · have hnone : ∀ connection ∈ order, ¬ footprint.touches peers connection k :=
      fun connection hconnection htouches => hmem ⟨connection, hconnection, htouches⟩
    rw [hspared k hnone,
      hspared' k fun connection hconnection => hnone connection (hperm.mem_iff.mp hconnection)]

end Perm

end Footprint

namespace Peers

/-- Each connection works on its own state and on the mailbox that it puts invocations into. -/
def cells : Cells Peers (Connection ⊕ Nat) (Peer ⊕ Mailbox) where
  cell peers := Sum.map peers.peer peers.mailbox
  touches peers connection
    | .inl other => other = connection
    | .inr number => (peers.peer connection).number = some number
  calm peers connection := (peers.peer connection).errands = []

theorem peer_of_same {peers other : Peers} {connection : Connection}
    (same : cells.Same connection peers other) : other.peer connection = peers.peer connection :=
  Sum.inl.inj (same (.inl connection) rfl)

theorem mailbox_of_same {peers other : Peers} {connection : Connection}
    (same : cells.Same connection peers other) {number : Nat}
    (hnumber : (peers.peer connection).number = some number) :
    other.mailbox number = peers.mailbox number :=
  Sum.inr.inj (same (.inr number) hnumber)

def footprint : Footprint network (Connection ⊕ Nat) (Peer ⊕ Mailbox) where
  toCells := cells
  requests {peers connection} hcalm invocation _ := by
    change (peers.send connection invocation).2.1.map Prod.snd = []
    rw [errands_of_send, hcalm, List.map_nil]
  spares {peers connection} _ invocation _ k huntouched := by
    cases k with
    | inl other => exact congrArg Sum.inl (peer_send_of_ne peers huntouched invocation)
    | inr number => exact congrArg Sum.inr (mailbox_send_of_ne peers huntouched invocation)
  steady {peers other connection} hcalm same := by
    have hpeer := peer_of_same same
    refine ⟨(congrArg Peer.errands hpeer).trans hcalm, ?_⟩
    intro k
    cases k with
    | inl another => exact Iff.rfl
    | inr number => exact iff_of_eq (congrArg (fun peer : Peer => peer.number = some number) hpeer)
  answer _ same invocation _ _ :=
    congrArg Prod.snd (send_congr (peer_of_same same) (fun _ => mailbox_of_same same) invocation).1
  works _ same invocation _ _ k htouches := by
    obtain ⟨-, hpeer, hmailbox⟩ :=
      send_congr (peer_of_same same) (fun _ => mailbox_of_same same) invocation
    cases k with
    | inl another =>
        cases htouches
        exact congrArg Sum.inl hpeer
    | inr number => exact congrArg Sum.inr (hmailbox number htouches)

/-- Connections are apart when they have no errands and no two of them put into one mailbox. -/
theorem apart_iff {peers : Peers} {order : List Connection} :
    footprint.Apart peers order ↔
      (∀ connection ∈ order, (peers.peer connection).errands = []) ∧
        ∀ connection ∈ order, ∀ other ∈ order, connection ≠ other → ∀ number,
          (peers.peer connection).number = some number →
            (peers.peer other).number ≠ some number := by
  constructor
  · intro apart
    refine ⟨apart.calm, ?_⟩
    intro connection hconnection other hother hne number
    exact apart.disjoint connection hconnection other hother hne (.inr number)
  · rintro ⟨hcalm, hnumber⟩
    refine ⟨hcalm, ?_⟩
    intro connection hconnection other hother hne k htouches htouched
    cases k with
    | inl another => exact hne (htouches.symm.trans htouched)
    | inr number => exact hnumber connection hconnection other hother hne number htouches htouched

end Peers

theorem Table.get?_of_perm {κ α : Type} [DecidableEq κ] {t s : Table κ α}
    (h : s.entries.Perm t.entries) (k : κ) : s.get? k = t.get? k := by
  apply Option.ext
  intro a
  rw [get?_eq_some_iff, get?_eq_some_iff, h.mem_iff]

namespace Stores.Same

variable {stores other : Stores}

theorem of_perm (h : stores.Sound) (hother : other.Sound)
    (hregistry : stores.registry.entries.Perm other.registry.entries)
    (hnames : stores.groups.keys.Perm other.groups.keys)
    (hmembers : ∀ name ∈ other.groups.keys, (stores.groups.group name).members.entries.Perm
      (other.groups.group name).members.entries) : stores.Same other where
  attached := Table.get?_of_perm hregistry
  names name := by
    have hcontains : stores.groups.contains name = other.groups.contains name := by
      unfold Table.contains
      rw [Bool.eq_iff_iff, ← Table.mem_keys_iff, ← Table.mem_keys_iff, hnames.mem_iff]
    rw [h.name_eq, hother.name_eq, hcontains]
  members name id := by
    by_cases hname : name ∈ other.groups.keys
    · exact Table.get?_of_perm (hmembers name hname) id
    · have hnone : ∀ directory : Directory, name ∉ directory.keys →
          directory.group name = Group.named name := by
        intro directory habsent
        rw [Table.mem_keys_iff, Option.not_isSome_iff_eq_none] at habsent
        unfold Directory.group
        rw [habsent]
        rfl
      unfold member
      rw [hnone _ hname, hnone _ fun hmem => hname (hnames.mem_iff.mp hmem)]

theorem perm_values {t s : Table ConnectionId Connection} (ht : Keyed t) (hs : Keyed s)
    (h : ∀ id, s.get? id = t.get? id) : s.values.Perm t.values := by
  rw [List.perm_ext_iff_of_nodup hs.nodup_values ht.nodup_values]
  intro connection
  rw [hs.mem_values_iff, ht.mem_values_iff, h]

/-- The round that an operation begins is the same but for the order of those who wait. -/
theorem exists_round (same : stores.Same other) (h : stores.Sound) (hother : other.Sound)
    {operation : Operation} {round : Round} (hround : operation.round other = some round) :
    ∃ waiting, operation.round stores = some { round with waiting } ∧
      waiting.Perm round.waiting := by
  cases operation with
  | invokeAll invocation excluded =>
      cases hround
      exact ⟨_, rfl, perm_values hother.registry h.registry same.attached⟩
  | invokeClient id invocation =>
      obtain ⟨connection, hget, rfl⟩ := Option.map_eq_some_iff.mp hround
      refine ⟨_, ?_, .refl _⟩
      change (stores.registry.get? id).map _ = _
      rw [same.attached, hget]
      rfl
  | invokeGroup group invocation excluded =>
      cases hround
      exact ⟨_, rfl, perm_values (hother.members group) (h.members group) (same.members group)⟩
  | _ => cases hround

theorem perm_listed (same : stores.Same other) (h : stores.Sound) (hother : other.Sound)
    (audience : Audience) : (audience.listed stores).Perm (audience.listed other) := by
  rw [List.perm_ext_iff_of_nodup (audience.nodup_listed h) (audience.nodup_listed hother)]
  intro connection
  rw [Audience.mem_listed_iff h, Audience.mem_listed_iff hother]
  cases audience with
  | everyone excluded => simp only [Audience.Includes, same.attached]
  | client id => simp only [Audience.Includes, same.attached]
  | members group excluded => simp only [Audience.Includes, same.members]

theorem settle (same : stores.Same other) (h : stores.Sound) (hother : other.Sound)
    (audience : Audience) (cleanup : Cleanup) {gone lost : List Connection}
    (hgone : gone.Perm lost) :
    (audience.settle cleanup gone stores).Same (audience.settle cleanup lost other) := by
  have hshare : ∀ id, (audience.settle cleanup gone stores).share id =
      (audience.settle cleanup lost other).share id := by
    intro id
    rw [share_settle cleanup h, share_settle cleanup hother, same.share]
    simp only [hgone.mem_iff]
  constructor
  · intro id
    exact congrArg Share.attached (hshare id)
  · intro name
    rw [Audience.name_settle, Audience.name_settle, same.names]
  · intro group id
    exact congrFun (congrArg Share.member (hshare id)) group

end Stores.Same

namespace World

variable {σ : Type} (network : Network σ)

/-- How the invocation fares that an operation begins; none if it invokes nobody. -/
def report (world : World σ) (operation : Operation) : Option Report :=
  (operation.round world.stores).map fun round =>
    (world.fanOut network round.waiting round.invocation round.excluded).1

theorem report_of_round (cleanup : Cleanup) (world : World σ) {operation : Operation}
    {round : Round} (h : operation.round world.stores = some round) :
    world.report network operation = some (Report.empty.extend
      (round.waiting.countP fun connection => connection.id ∈ round.excluded)
      (world.calls network cleanup operation)) := by
  unfold report
  rw [h, Option.map_some, calls_of_round network cleanup world h, ← report_foldl_visit]
  rfl

end World

section

variable {σ κ τ : Type} {network : Network σ} {cleanup : Cleanup} {world : World σ}
  {footprint : Footprint network κ τ} {stores : Stores}

/-- Calls that ask nothing of the hub leave the stores to be settled as they were. -/
theorem Footprint.Apart.invoke (h : world.stores.Sound) (audience : Audience)
    (apart : footprint.Apart world.peers (audience.listed world.stores)) (invocation : Invocation) :
    let operation := audience.operation invocation
    let made := world.calls network cleanup operation
    let after := (world.perform network cleanup operation).2
    made = network.calls invocation (audience.listed world.stores) (world.stores, world.peers) ∧
      after.stores = audience.settle cleanup (Call.closed made) world.stores ∧
      after.peers = ((audience.listed world.stores).foldl (network.exchange invocation)
        (world.stores, world.peers)).2 := by
  intro operation made after
  have hmade : made = _ := World.calls_invoke network cleanup world audience invocation
  have hstate : after.state = _ := World.state_invoke network cleanup world audience invocation
  have hkept := (apart.foldl_exchange (audience.nodup_listed h) invocation world.stores).1
  refine ⟨hmade, ?_, congrArg Prod.snd hstate⟩
  rw [hmade]
  exact (congrArg Prod.fst hstate).trans (congrArg (audience.settle cleanup _) hkept)

/-- Two worlds differ only in the order in which their tables list the same connections. An invocation
that goes to recipients which ask nothing of the hub, no two of which work on the same cell, leaves the
same cells and the same connections attached and in the groups, under every cleanup policy, and fares the
same: as many recipients took it, were left out, had no place for it and failed, and the same ones were
closed. -/
theorem invocation_indifferent_to_order (h : Reachable network cleanup world)
    (same : stores.Same world.stores) (audience : Audience) (invocation : Invocation)
    (apart : footprint.Apart world.peers (audience.listed world.stores)) :
    let operation := audience.operation invocation
    let relisted : World σ := { world with stores }
    let after := (world.perform network cleanup operation).2
    let after' := (relisted.perform network cleanup operation).2
    (∀ k, footprint.cell after'.peers k = footprint.cell after.peers k) ∧
      after'.stores.Same after.stores ∧
      ∀ report ∈ world.report network operation,
        ∃ report' ∈ relisted.report network operation,
          report'.Matches report ∧ report'.failed = report.failed := by
  intro operation relisted after after'
  have hsound : stores.Sound := h.sound.of_same same
  have hnodup := audience.nodup_listed h.sound
  have hperm := same.perm_listed hsound h.sound audience
  have apart' : footprint.Apart relisted.peers (audience.listed stores) := apart.perm hperm
  obtain ⟨hmade, hstores, hpeers⟩ := apart.invoke h.sound audience invocation
  obtain ⟨hmade', hstores', hpeers'⟩ := apart'.invoke hsound audience invocation
  have hcalls : (relisted.calls network cleanup operation).Perm
      (world.calls network cleanup operation) := by
    rw [hmade, hmade']
    exact apart.calls_perm hperm hnodup invocation world.stores stores
  refine ⟨?_, ?_, ?_⟩
  · intro k
    rw [hpeers, hpeers']
    exact apart.cell_perm hperm hnodup invocation world.stores stores k
  · rw [hstores, hstores']
    exact same.settle hsound h.sound audience cleanup (Call.closed_perm hcalls)
  · intro report hreport
    obtain ⟨round, hround, -⟩ := Option.map_eq_some_iff.mp hreport
    obtain ⟨waiting, hround', hwaiting⟩ := same.exists_round hsound h.sound hround
    rw [World.report_of_round network cleanup world hround] at hreport
    cases hreport
    have hmatches := Report.empty.matches_extend (hwaiting.countP_eq fun connection =>
      decide (connection.id ∈ round.excluded)) hcalls
    exact ⟨_, World.report_of_round network cleanup relisted hround', hmatches, hmatches.failed⟩

end

/-- A room is listed in two orders. One member has no place for an invocation of the room, one is closed,
one takes it and one is left out. In either order the closed member is evicted. -/
theorem invocation_indifferent_to_order_mixed_room :
    let busy : Connection := ⟨0, ⟨"busy"⟩⟩
    let gone : Connection := ⟨1, ⟨"gone"⟩⟩
    let guest : Connection := ⟨2, ⟨"guest"⟩⟩
    let spared : Connection := ⟨3, ⟨"spared"⟩⟩
    let hello : Invocation := ⟨"hello", []⟩
    let waiting : Peers :=
      (Peers.empty.setMailbox 0 ⟨1, [hello], .listening⟩).set busy (.channel 0 true 1 0)
    let peers : Peers := (waiting.setMailbox 1 ⟨1, [], .closed⟩).set gone (.channel 1 true 0 0)
    let start : World Peers := World.fresh peers
    let opening (order : List Connection) : List Operation :=
      order.map .connect ++ order.map fun connection => .addToGroup "room" connection.id
    let world := (start.run Peers.network .lazy (opening [busy, gone, guest, spared])).2
    let stores := (start.run Peers.network .lazy (opening [spared, guest, gone, busy])).2.stores
    let relisted : World Peers := { world with stores }
    let audience : Audience := .members "room" [spared.id]
    let operation := audience.operation hello
    let after := (world.perform Peers.network .lazy operation).2
    let after' := (relisted.perform Peers.network .lazy operation).2
    audience.listed world.stores = [busy, gone, guest] ∧
      audience.listed stores = [guest, gone, busy] ∧
      Reachable Peers.network .lazy world ∧ stores.Same world.stores ∧
      Peers.footprint.Apart world.peers (audience.listed world.stores) ∧
      (∀ connection, after'.peers.peer connection = after.peers.peer connection) ∧
      after'.stores.Same after.stores ∧
      (∃ report ∈ relisted.report Peers.network operation, report.Matches ⟨1, 1, 1, [gone]⟩) ∧
      after'.stores.groups.memberIds "room" = [spared.id, guest.id, busy.id] := by
  intro busy gone guest spared hello waiting peers start opening world stores relisted audience
    operation after after'
  have hreach : ∀ order, Reachable Peers.network .lazy (start.run Peers.network .lazy order).2 :=
    (Reachable.fresh peers).run
  have hsame : stores.Same world.stores :=
    .of_perm (hreach _).sound (hreach _).sound (by decide) (by decide) (by decide)
  have hlisted : audience.listed world.stores = [busy, gone, guest] := by decide
  have hapart : Peers.footprint.Apart world.peers (audience.listed world.stores) := by
    have hbusy : (world.peers.peer busy).number = some 0 := by decide
    have hgone : (world.peers.peer gone).number = some 1 := by decide
    have hguest : (world.peers.peer guest).number = none := by decide
    rw [hlisted, Peers.apart_iff]
    simp only [List.forall_mem_cons, hbusy, hgone, hguest]
    refine ⟨⟨rfl, rfl, rfl, nofun⟩, ?_⟩
    simp
  obtain ⟨hcells, hstores, hreports⟩ :=
    invocation_indifferent_to_order (hreach _) hsame audience hello hapart
  have hreport : world.report Peers.network operation = some ⟨1, 1, 1, [gone]⟩ := by decide
  obtain ⟨report, hmem, hmatches, -⟩ := hreports _ hreport
  exact ⟨hlisted, by decide, hreach _, hsame, hapart,
    fun connection => Sum.inl.inj (hcells (.inl connection)), hstores, ⟨report, hmem, hmatches⟩,
    by decide⟩

end Switchboard
