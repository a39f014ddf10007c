import Mathlib.Data.List.Induction
import Switchboard.Proofs.Reachable

/-!
Histories of a hub, and what can be told from a history alone: which connections are attached, which
groups they are in, whom an invocation is meant for, and what has been delivered.
-/

namespace Switchboard

section

variable {α : Type} {begins ends : α → Prop} {items : List α} {item : α}

/-- Some item begins, and no later one ends. -/
def Lasting (begins ends : α → Prop) (items : List α) : Prop :=
  ∃ before beginning after, items = before ++ beginning :: after ∧ begins beginning ∧
    ∀ later ∈ after, ¬ ends later

theorem not_lasting_nil : ¬ Lasting begins ends [] := by
  rintro ⟨before, beginning, after, hsplit, -, -⟩
  exact absurd hsplit (by simp)

theorem lasting_concat_iff :
    Lasting begins ends (items ++ [item]) ↔
      begins item ∨ Lasting begins ends items ∧ ¬ ends item := by
  constructor
  · rintro ⟨before, beginning, after, hsplit, hbegins, hlater⟩
    rcases List.eq_nil_or_concat after with rfl | ⟨between, last, rfl⟩
    · obtain ⟨-, hlast⟩ := List.append_inj' hsplit rfl
      rw [List.singleton_inj.mp hlast]
      exact .inl hbegins
    · rw [List.concat_eq_append, ← List.cons_append, ← List.append_assoc] at hsplit
      obtain ⟨hbefore, hlast⟩ := List.append_inj' hsplit rfl
      rw [List.concat_eq_append] at hlater
      rw [List.singleton_inj.mp hlast]
      refine .inr ⟨⟨before, beginning, between, hbefore, hbegins, ?_⟩, ?_⟩
      · intro later hmem
        exact hlater later (List.mem_append_left _ hmem)
      · exact hlater last (List.mem_append_right _ List.mem_cons_self)
  · rintro (hbegins | ⟨⟨before, beginning, after, rfl, hbegins, hlater⟩, hlast⟩)
    · exact ⟨items, item, [], rfl, hbegins, fun _ hmem => absurd hmem List.not_mem_nil⟩
    · refine ⟨before, beginning, after ++ [item], by simp, hbegins, ?_⟩
      intro later hmem
      rcases List.mem_append.mp hmem with hold | hnew
      · exact hlater later hold
      · rw [List.mem_singleton.mp hnew]
        exact hlast

end

/-- What the rest of the program asks of a hub. -/
inductive Command
  | connect (connection : Connection)
  | disconnect (connection : Connection)
  | addToGroup (group : String) (id : ConnectionId)
  | removeFromGroup (group : String) (id : ConnectionId)
  | invoke (audience : Audience) (invocation : Invocation)
  | pruneGroups
  | sweep

def Command.operation : Command → Operation
  | .connect connection => .connect connection
  | .disconnect connection => .disconnect connection
  | .addToGroup group id => .addToGroup group id
  | .removeFromGroup group id => .removeFromGroup group id
  | .invoke audience invocation => audience.operation invocation
  | .pruneGroups => .pruneGroups
  | .sweep => .sweep

/-- A step of a history: a command, or that the far end of a connection closes it. -/
inductive Step
  | command (command : Command)
  | close (connection : Connection)

/-- A step together with the steps before it. -/
structure Moment where
  past : List Step
  step : Step

namespace History

def momentsAfter (past : List Step) : List Step → List Moment
  | [] => []
  | step :: rest => ⟨past, step⟩ :: momentsAfter (past ++ [step]) rest

def moments (history : List Step) : List Moment :=
  momentsAfter [] history

theorem momentsAfter_concat (past history : List Step) (step : Step) :
    momentsAfter past (history ++ [step]) =
      momentsAfter past history ++ [⟨past ++ history, step⟩] := by
  induction history generalizing past with
  | nil => simp [momentsAfter]
  | cons first rest ih => simp [momentsAfter, ih]

theorem moments_concat (history : List Step) (step : Step) :
    moments (history ++ [step]) = moments history ++ [⟨history, step⟩] :=
  momentsAfter_concat [] history step

/-- Some moment of the history opens, and no later one ends. -/
def Since (opens ends : Moment → Bool) (history : List Step) : Prop :=
  Lasting (opens · = true) (ends · = true) (moments history)

theorem not_since_nil (opens ends : Moment → Bool) : ¬ Since opens ends [] :=
  not_lasting_nil

theorem since_concat_iff (opens ends : Moment → Bool) (history : List Step) (step : Step) :
    Since opens ends (history ++ [step]) ↔
      opens ⟨history, step⟩ = true ∨
        Since opens ends history ∧ ends ⟨history, step⟩ = false := by
  unfold Since
  rw [moments_concat, lasting_concat_iff, Bool.not_eq_true]

def holds (opens ends : Moment → Bool) (history : List Step) : Bool :=
  (moments history).foldl (fun held moment => opens moment || (held && !ends moment)) false

theorem holds_iff_since (opens ends : Moment → Bool) (history : List Step) :
    holds opens ends history = true ↔ Since opens ends history := by
  induction history using List.reverseRecOn with
  | nil => exact iff_of_false (by simp [holds, moments, momentsAfter]) (not_since_nil opens ends)
  | append_singleton history step ih =>
      rw [since_concat_iff, ← ih]
      simp [holds, moments_concat]

instance (opens ends : Moment → Bool) (history : List Step) :
    Decidable (Since opens ends history) :=
  decidable_of_iff _ (holds_iff_since opens ends history)

def closed (history : List Step) (connection : Connection) : Bool :=
  history.any fun
    | .close other => other = connection
    | .command _ => false

def connected (history : List Step) : List Connection :=
  history.filterMap fun
    | .command (.connect connection) => some connection
    | _ => none

def attaches (connection : Connection) (moment : Moment) : Bool :=
  match moment.step with
  | .command (.connect other) => other = connection
  | _ => false

/-- Another connection takes over the identifier, the identifier is detached, or a sweep finds the
connection closed. -/
def detaches (connection : Connection) (moment : Moment) : Bool :=
  match moment.step with
  | .command (.connect other) => other.id = connection.id && other ≠ connection
  | .command (.disconnect other) => other.id = connection.id
  | .command .sweep => closed moment.past connection
  | _ => false

def Attached (history : List Step) (connection : Connection) : Prop :=
  Since (attaches connection) (detaches connection) history

instance (history : List Step) (connection : Connection) : Decidable (Attached history connection) :=
  inferInstanceAs (Decidable (Since _ _ history))

/-- Another connection is attached under the identifier of a connection. -/
def Superseded (history : List Step) (connection : Connection) : Prop :=
  ∃ other ∈ connected history,
    other.id = connection.id ∧ other ≠ connection ∧ Attached history other

instance (history : List Step) (connection : Connection) :
    Decidable (Superseded history connection) :=
  inferInstanceAs (Decidable (∃ other ∈ connected history, _))

/-- The identifier of a connection is added to a group while the connection is attached. -/
def enters (group : String) (connection : Connection) (moment : Moment) : Bool :=
  match moment.step with
  | .command (.addToGroup name id) =>
      name = group && id = connection.id && Attached moment.past connection
  | _ => false

/-- The identifier is added again while another connection is attached under it, or it is removed from
the group; under lazy cleanup the connection is sent an invocation of the group when it is closed; under
cleanup on disconnection the connection is gone, or a sweep finds it attached and closed. -/
def exits (cleanup : Cleanup) (group : String) (connection : Connection) (moment : Moment) : Bool :=
  match moment.step with
  | .command (.addToGroup name id) =>
      name = group && id = connection.id && Superseded moment.past connection
  | .command (.removeFromGroup name id) => name = group && id = connection.id
  | .command (.invoke (.members name excluded) _) =>
      cleanup = .lazy && name = group && connection.id ∉ excluded && closed moment.past connection
  | .command (.disconnect other) => cleanup = .onDisconnect && other = connection
  | .command .sweep =>
      cleanup = .onDisconnect && closed moment.past connection && Attached moment.past connection
  | _ => false

def InGroup (cleanup : Cleanup) (history : List Step) (group : String) (connection : Connection) :
    Prop :=
  Since (enters group connection) (exits cleanup group connection) history

instance (cleanup : Cleanup) (history : List Step) (group : String) (connection : Connection) :
    Decidable (InGroup cleanup history group connection) :=
  inferInstanceAs (Decidable (Since _ _ history))

/-- A connection is meant by an audience at the end of a history. -/
def Targeted (cleanup : Cleanup) (history : List Step) (connection : Connection) :
    Audience → Prop
  | .everyone excluded => Attached history connection ∧ connection.id ∉ excluded
  | .client id => id = connection.id ∧ Attached history connection
  | .members group excluded =>
      InGroup cleanup history group connection ∧ connection.id ∉ excluded

instance (cleanup : Cleanup) (history : List Step) (connection : Connection) :
    DecidablePred (Targeted cleanup history connection)
  | .everyone _ => inferInstanceAs (Decidable (_ ∧ _))
  | .client _ => inferInstanceAs (Decidable (_ ∧ _))
  | .members _ _ => inferInstanceAs (Decidable (_ ∧ _))

/-- The invocation that is meant for a connection at a moment, if there is one. -/
def meant (cleanup : Cleanup) (connection : Connection) (moment : Moment) : Option Invocation :=
  match moment.step with
  | .command (.invoke audience invocation) =>
      if Targeted cleanup moment.past connection audience then some invocation else none
  | _ => none

def attempts (cleanup : Cleanup) (history : List Step) (connection : Connection) : Nat :=
  (moments history).countP fun moment => (meant cleanup connection moment).isSome

/-- The invocations that are meant for a connection before it is closed, in order. -/
def received (cleanup : Cleanup) (history : List Step) (connection : Connection) :
    List Invocation :=
  ((moments history).filter fun moment => !closed moment.past connection).filterMap
    (meant cleanup connection)

end History

end Switchboard
