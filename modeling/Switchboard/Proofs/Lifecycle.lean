import Switchboard.Proofs.Consistency
import Switchboard.Proofs.Sweep

namespace Switchboard

namespace Stores

theorem contains_evict (stores : Stores) (group : String) (connection : Connection)
    (name : String) :
    (stores.evict group connection).groups.contains name = stores.groups.contains name := by
  have hname := congrArg Option.isSome (stores.name_evict group connection name)
  rw [Option.isSome_map, Option.isSome_map] at hname
  exact hname

theorem contains_prune_iff (stores : Stores) (name : String) :
    stores.prune.groups.contains name = true ↔
      stores.groups.contains name = true ∧ ¬ ∀ id, stores.member name id = none := by
  have hempty : (stores.groups.group name).isEmpty = true ↔
      ∀ id, stores.member name id = none := Table.isEmpty_iff_get?
  rw [← hempty]
  unfold prune Table.contains Directory.group
  simp only [Directory.get?_prune]
  cases stores.groups.get? name with
  | none => simp
  | some group => cases hgroup : group.isEmpty <;> simp [hgroup]

theorem Same.contains_eq {stores other : Stores} (h : stores.Same other) (name : String) :
    stores.groups.contains name = other.groups.contains name := by
  have hname := congrArg Option.isSome (h.names name)
  rw [Option.isSome_map, Option.isSome_map] at hname
  exact hname

end Stores

theorem Dispatch.contains_settle (dispatch : Dispatch) (stores : Stores) (name : String) :
    (dispatch.settle stores).groups.contains name = stores.groups.contains name := by
  unfold settle
  split
  · rfl
  · rename_i group _
    exact Stores.view_foldl (fun stores => stores.groups.contains name)
      (fun stores connection => stores.contains_evict group connection name) _ stores

namespace Undertaking

/-- An attached identifier joins the group. -/
def Opens (group : String) (undertaking : Undertaking) : Prop :=
  ∃ id, undertaking.operation.joins = some (group, id) ∧
    (undertaking.stores.registry.get? id).isSome = true

/-- The groups are pruned while the group has no members. -/
def Shuts (group : String) (undertaking : Undertaking) : Prop :=
  undertaking.operation = .pruneGroups ∧ ∀ id, undertaking.stores.member group id = none

/-- Some operation opened the group, and none has shut it since. -/
def OpenSince (group : String) (record : List Undertaking) : Prop :=
  Lasting (Opens group) (Shuts group) record

/-- Nothing that could open the group or shut it: one joins that is not attached, or another group, or the
groups are pruned while the group has a member. No other operation could. -/
def Spares (group : String) (undertaking : Undertaking) : Prop :=
  match undertaking.operation with
  | .addToGroup name id => name = group → undertaking.stores.registry.get? id = none
  | .join name id => name = group → undertaking.stores.registry.get? id = none
  | .pruneGroups => ∃ id member, undertaking.stores.member group id = some member
  | _ => True

variable {group : String} {record : List Undertaking} {undertaking : Undertaking}

theorem spares_of_not_attached {stores : Stores} {id : ConnectionId}
    (h : stores.registry.get? id = none) (group name : String) :
    Spares group ⟨stores, .addToGroup name id⟩ :=
  fun _ => h

theorem spares_of_member {stores : Stores} {group : String} {id : ConnectionId}
    {member : Connection} (h : stores.member group id = some member) :
    Spares group ⟨stores, .pruneGroups⟩ :=
  ⟨id, member, h⟩

theorem Spares.not_opens (h : undertaking.Spares group) : ¬ undertaking.Opens group := by
  rintro ⟨id, hjoins, hattached⟩
  obtain ⟨stores, operation⟩ := undertaking
  cases operation with
  | addToGroup name other =>
      cases hjoins
      rw [show stores.registry.get? id = none from h rfl] at hattached
      cases hattached
  | join name other =>
      cases hjoins
      rw [show stores.registry.get? id = none from h rfl] at hattached
      cases hattached
  | _ => cases hjoins

theorem Spares.not_shuts (h : undertaking.Spares group) : ¬ undertaking.Shuts group := by
  rintro ⟨hprunes, hempty⟩
  obtain ⟨stores, operation⟩ := undertaking
  cases hprunes
  obtain ⟨id, member, hmember⟩ := h
  rw [hempty id] at hmember
  cases hmember

theorem opens_or_shuts_or_spares (group : String) (undertaking : Undertaking) :
    undertaking.Opens group ∨ undertaking.Shuts group ∨ undertaking.Spares group := by
  obtain ⟨stores, operation⟩ := undertaking
  have hjoin : ∀ name id, operation.joins = some (name, id) →
      Opens group ⟨stores, operation⟩ ∨ (name = group → stores.registry.get? id = none) := by
    intro name id hjoins
    rcases eq_or_ne name group with rfl | hother
    · rcases hget : stores.registry.get? id with _ | connection
      · exact .inr fun _ => rfl
      · exact .inl ⟨id, hjoins, by simp [hget]⟩
    · exact .inr fun hsame => absurd hsame hother
  cases operation with
  | addToGroup name id => exact (hjoin name id rfl).imp_right .inr
  | join name id => exact (hjoin name id rfl).imp_right .inr
  | pruneGroups =>
      by_cases hempty : ∀ id, stores.member group id = none
      · exact .inr (.inl ⟨rfl, hempty⟩)
      · obtain ⟨id, hid⟩ := not_forall.mp hempty
        exact .inr (.inr ⟨id, Option.ne_none_iff_exists'.mp hid⟩)
  | _ => exact .inr (.inr trivial)

theorem not_openSince_nil : ¬ OpenSince group [] :=
  not_lasting_nil

theorem openSince_concat_iff :
    OpenSince group (record ++ [undertaking]) ↔
      undertaking.Opens group ∨ OpenSince group record ∧ ¬ undertaking.Shuts group :=
  lasting_concat_iff

theorem openSince_append_iff_of_spares {more : List Undertaking}
    (h : ∀ undertaking ∈ more, undertaking.Spares group) :
    OpenSince group (record ++ more) ↔ OpenSince group record := by
  induction more using List.reverseRecOn with
  | nil => rw [List.append_nil]
  | append_singleton more last ih =>
      have hlast : last.Spares group := h last (List.mem_append_right _ List.mem_cons_self)
      rw [← List.append_assoc, openSince_concat_iff,
        ih fun undertaking hmem => h undertaking (List.mem_append_left _ hmem)]
      rw [or_iff_right hlast.not_opens, and_iff_left hlast.not_shuts]

/-- All that is undertaken in some deeds: their own operations, and those that connections make
meanwhile. -/
def ofDeeds {σ : Type} (network : Network σ) (cleanup : Cleanup) (deeds : List (Deed σ)) :
    List Undertaking :=
  deeds.flatMap fun deed => deed.world.undertaken network cleanup deed.command.operation

end Undertaking

open Undertaking

section

variable {σ : Type} (network : Network σ) (cleanup : Cleanup) (world : World σ)

variable {operation : Operation} {group : String}

theorem World.spares_of_quiet (quiet : operation.dispatch cleanup world.stores = none)
    (h : Spares group ⟨world.stores, operation⟩) :
    ∀ undertaking ∈ world.undertaken network cleanup operation, undertaking.Spares group := by
  unfold undertaken
  rw [quiet]
  exact List.forall_mem_singleton.mpr h

theorem contains_perform_of_opens (h : Opens group ⟨world.stores, operation⟩) :
    (world.perform network cleanup operation).2.stores.groups.contains group = true := by
  obtain ⟨id, hjoins, hattached⟩ := h
  have hjoin : (world.perform network cleanup operation).2.stores = world.stores.join group id := by
    cases operation with
    | addToGroup name other => cases hjoins; exact world.stores_join group id
    | join name other => cases hjoins; exact world.stores_join group id
    | _ => cases hjoins
  rw [hjoin, Stores.contains_join, hattached]
  simp

theorem contains_perform_of_shuts (h : Shuts group ⟨world.stores, operation⟩) :
    (world.perform network cleanup operation).2.stores.groups.contains group = false := by
  obtain ⟨hprunes, hempty⟩ := h
  cases hprunes
  have hprune : (world.perform network cleanup .pruneGroups).2.stores = world.stores.prune :=
    world.stores_pruneGroups
  rw [hprune, ← Bool.not_eq_true, Stores.contains_prune_iff]
  exact fun hcontains => hcontains.2 hempty

theorem contains_perform_of_spares (h : Spares group ⟨world.stores, operation⟩)
    (quiet : operation.dispatch cleanup world.stores = none) :
    (world.perform network cleanup operation).2.stores.groups.contains group =
      world.stores.groups.contains group := by
  have hjoin : ∀ name id, (name = group → world.stores.registry.get? id = none) →
      (world.join name id).2.stores.groups.contains group =
        world.stores.groups.contains group := by
    intro name id hspares
    rw [World.stores_join, Stores.contains_join]
    rcases eq_or_ne name group with rfl | hother
    · simp [hspares rfl]
    · simp [hother]
  have hstays : ∀ {stores : Stores} {next : World σ}, next.state = (stores, world.peers) →
      stores.groups.contains group = world.stores.groups.contains group →
      next.stores.groups.contains group = world.stores.groups.contains group := by
    intro stores next hstate hsame
    rw [show next.stores = stores from congrArg Prod.fst hstate]
    exact hsame
  cases operation with
  | addToGroup name id => exact hjoin name id h
  | join name id => exact hjoin name id h
  | pruneGroups =>
      obtain ⟨id, member, hmember⟩ := h
      refine hstays world.state_pruneGroups (Bool.eq_iff_iff.mpr ?_)
      rw [Stores.contains_prune_iff]
      refine and_iff_left fun hempty => ?_
      rw [hempty id] at hmember
      cases hmember
  | disconnect connection => exact contains_disconnect cleanup world connection group
  | sweep => exact contains_sweep network cleanup world group
  | removeFromGroup name id =>
      exact hstays (world.state_leave name id) (world.stores.contains_leave name group id)
  | leave name id =>
      exact hstays (world.state_leave name id) (world.stores.contains_leave name group id)
  | evict name connection =>
      exact hstays (world.state_evict name connection)
        (world.stores.contains_evict name connection group)
  | leaveAll connection =>
      exact hstays (world.state_leaveAll connection)
        (world.stores.contains_leaveAll connection group)
  | unregister id => exact hstays (world.state_unregister id) rfl
  | removeClosed => exact hstays (world.state_removeClosed network) rfl
  | invokeAll invocation excluded => cases quiet
  | invokeClient id invocation => cases quiet
  | invokeGroup name invocation excluded => cases quiet
  | fanOut recipients invocation excluded => cases quiet
  | _ => rfl

/-- What an operation that calls nobody does to the groups that there are. -/
theorem contains_perform_iff (quiet : operation.dispatch cleanup world.stores = none)
    (group : String) :
    (world.perform network cleanup operation).2.stores.groups.contains group = true ↔
      Opens group ⟨world.stores, operation⟩ ∨
        world.stores.groups.contains group = true ∧ ¬ Shuts group ⟨world.stores, operation⟩ := by
  rcases opens_or_shuts_or_spares group ⟨world.stores, operation⟩ with hopens | hshuts | hspares
  · exact iff_of_true (contains_perform_of_opens network cleanup world hopens) (.inl hopens)
  · rw [contains_perform_of_shuts network cleanup world hshuts]
    refine iff_of_false Bool.false_ne_true ?_
    rintro (⟨id, hjoins, -⟩ | ⟨-, hnot⟩)
    · rw [show operation = .pruneGroups from hshuts.1] at hjoins
      cases hjoins
    · exact hnot hshuts
  · rw [contains_perform_of_spares network cleanup world hspares quiet,
      or_iff_right hspares.not_opens, and_iff_left hspares.not_shuts]

end

namespace Chronicle

variable {σ : Type} {network : Network σ} {cleanup : Cleanup} {pending : List Dispatch}
  {record : List Undertaking} {stores : Stores}

theorem contains_iff (h : Chronicle network cleanup pending record stores) (group : String) :
    stores.groups.contains group = true ↔ OpenSince group record := by
  induction h with
  | start => exact iff_of_false Bool.false_ne_true not_openSince_nil
  | @perform pending record world _ operation quiet ih =>
      rw [openSince_concat_iff, contains_perform_iff network cleanup world quiet, ih]
  | @dispatch pending record stores _ operation dispatch begins ih =>
      have hspares : Spares group ⟨stores, operation⟩ := by
        cases operation with
        | invokeAll invocation excluded => trivial
        | invokeClient id invocation => trivial
        | invokeGroup name invocation excluded => trivial
        | fanOut recipients invocation excluded => trivial
        | _ => cases begins
      rw [openSince_concat_iff, or_iff_right hspares.not_opens, and_iff_left hspares.not_shuts]
      exact ih
  | answer _ next answer ih => exact ih
  | settle _ done ih =>
      rw [Dispatch.contains_settle]
      exact ih
  | relist _ same ih =>
      rw [same.contains_eq]
      exact ih

end Chronicle

theorem Sequel.chronicle {σ : Type} {network : Network σ} {cleanup : Cleanup} {peers : σ}
    {deeds : List (Deed σ)} {world : World σ}
    (h : Sequel network cleanup (World.fresh peers) deeds world) :
    Chronicle network cleanup [] (ofDeeds network cleanup deeds) world.stores := by
  induction h with
  | start => exact .start
  | perform _ command ih =>
      unfold ofDeeds
      rw [List.flatMap_append, List.flatMap_singleton]
      exact ih.of_perform command.operation
  | stir _ peers ih => exact ih
  | relist _ same ih => exact ih.relist same

/-- There is a group of a name if and only if some operation so far had an attached identifier join it, and
the groups have not been pruned since while it had no members; this goes for operations that begin inside
others too. So an operation leaves the group there or not there, as it was, if nothing in the course of it
joins the group but identifiers that are not attached, and no pruning finds it without members. -/
theorem group_present_iff_open_since {σ : Type} (network : Network σ) (cleanup : Cleanup) :
    (∀ peers deeds world, Sequel network cleanup (World.fresh peers) deeds world →
      Chronicle network cleanup [] (ofDeeds network cleanup deeds) world.stores) ∧
    ∀ pending record (world : World σ), Chronicle network cleanup pending record world.stores →
      ∀ group,
        (world.stores.groups.contains group = true ↔ OpenSince group record) ∧
        ∀ operation,
          (∀ undertaking ∈ world.undertaken network cleanup operation,
            undertaking.Spares group) →
          (world.perform network cleanup operation).2.stores.groups.contains group =
            world.stores.groups.contains group := by
  refine ⟨fun peers deeds world hsequel => hsequel.chronicle, ?_⟩
  intro pending record world hchronicle group
  refine ⟨hchronicle.contains_iff group, ?_⟩
  intro operation hspares
  have hafter := (hchronicle.of_perform operation).contains_iff group
  rw [Bool.eq_iff_iff, hafter, openSince_append_iff_of_spares hspares, hchronicle.contains_iff]

/-- While a guest is handed an invocation of a room, it leaves the room, has the groups pruned, and joins
a hall, and somebody who is not attached tries to join the room. The room is gone afterwards, as it was
empty when the groups were pruned, and the hall is there; nothing comes of another try, nor of another
pruning. -/
theorem group_present_iff_open_since_nested_pruning :
    let guest : Connection := ⟨0, ⟨"guest"⟩⟩
    let nobody : ConnectionId := ⟨"nobody"⟩
    let arrival : List Command := [.connect guest, .addToGroup "room" guest.id]
    let start : World Peers := World.fresh Peers.empty
    let deeds := start.deeds Peers.network .lazy arrival
    let entered := (start.run Peers.network .lazy (arrival.map Command.operation)).2
    let left := (entered.perform Peers.network .lazy (.removeFromGroup "room" guest.id)).2
    let pruned := (left.perform Peers.network .lazy .pruneGroups).2
    let refused := (pruned.perform Peers.network .lazy (.addToGroup "room" nobody)).2
    let world := (refused.perform Peers.network .lazy (.join "hall" guest.id)).2
    let record := ofDeeds Peers.network .lazy deeds ++
      [⟨entered.stores, .invokeGroup "room" ⟨"hello", []⟩ []⟩,
        ⟨entered.stores, .removeFromGroup "room" guest.id⟩, ⟨left.stores, .pruneGroups⟩,
        ⟨pruned.stores, .addToGroup "room" nobody⟩, ⟨refused.stores, .join "hall" guest.id⟩]
    Sequel Peers.network .lazy start deeds entered ∧
      Chronicle Peers.network .lazy [] record world.stores ∧
      world.stores.groups.contains "room" = false ∧ ¬ OpenSince "room" record ∧
      world.stores.groups.contains "hall" = true ∧ OpenSince "hall" record ∧
      (world.perform Peers.network .lazy
        (.addToGroup "room" nobody)).2.stores.groups.contains "room" = false ∧
      (world.perform Peers.network .lazy .pruneGroups).2.stores.groups.contains "hall" = true := by
  intro guest nobody arrival start deeds entered left pruned refused world record
  obtain ⟨hsequels, hpresent⟩ := group_present_iff_open_since Peers.network .lazy
  have hsequel : Sequel Peers.network .lazy start deeds entered := Sequel.run _ _ _ arrival
  have hentered : Chronicle Peers.network .lazy [] _ entered.stores :=
    hsequels Peers.empty deeds entered hsequel
  have hleft : Chronicle Peers.network .lazy [_] _ left.stores :=
    (hentered.dispatch (.invokeGroup "room" ⟨"hello", []⟩ []) rfl).perform
      (.removeFromGroup "room" guest.id) rfl
  have hpruned : Chronicle Peers.network .lazy [_] _ pruned.stores :=
    hleft.perform .pruneGroups rfl
  have hrefused : Chronicle Peers.network .lazy [_] _ refused.stores :=
    hpruned.perform (.addToGroup "room" nobody) rfl
  have hmoved : Chronicle Peers.network .lazy [_] _ world.stores :=
    hrefused.perform (.join "hall" guest.id) rfl
  have hworld : Chronicle Peers.network .lazy [] record world.stores :=
    (hmoved.answer rfl .accepted).settle rfl
  have hroom : world.stores.groups.contains "room" = false := by decide
  have hhall : world.stores.groups.contains "hall" = true := by decide
  have hnobody : world.stores.registry.get? nobody = none := by decide
  have hguest : world.stores.member "hall" guest.id = some guest := by decide
  obtain ⟨hroomOpen, hroomStays⟩ := hpresent [] record world hworld "room"
  obtain ⟨hhallOpen, hhallStays⟩ := hpresent [] record world hworld "hall"
  have hshut : ¬ OpenSince "room" record := by
    rw [← hroomOpen, hroom]
    exact Bool.false_ne_true
  have hopen : OpenSince "hall" record := hhallOpen.mp hhall
  have htried := hroomStays (.addToGroup "room" nobody)
    (World.spares_of_quiet _ _ world rfl (spares_of_not_attached hnobody "room" "room"))
  have hkept := hhallStays .pruneGroups
    (World.spares_of_quiet _ _ world rfl (spares_of_member hguest))
  exact ⟨hsequel, hworld, hroom, hshut, hhall, hopen, htried.trans hroom, hkept.trans hhall⟩

end Switchboard
