import Switchboard.Tracing.Filter

/-!
What a filter lets through stays within its bound. Only a span that a directive is about is let through
whatever its level, so a bound that is higher than the one of the filter makes no difference to a filter
that is about no spans.
-/

namespace Switchboard.Tracing

theorem rank_le_trace (level : Level) : level.rank ≤ Level.trace.rank := by
  cases level <;> decide

namespace Directives

def Bounded (directives : Directives) : Prop :=
  ∀ directive ∈ directives.all, directive.level.rank ≤ directives.bound

variable {directives : Directives}

theorem Bounded.add (h : directives.Bounded) (directive : Directive) :
    (directives.add directive).Bounded := by
  intro other hother
  rcases List.mem_append.mp hother with hearlier | hlast
  · exact Nat.le_trans (h other (List.mem_filter.mp hearlier).1) (Nat.le_max_left _ _)
  · rw [List.mem_singleton.mp hlast]
    exact Nat.le_max_right _ _

theorem mem_of_decisive {applies : Directive → Bool} {directive : Directive}
    (h : directives.decisive applies = some directive) : directive ∈ directives.all := by
  have hmem : ∀ best, directives.decisive applies = some best →
      best ∈ directives.all.filter applies := by
    unfold decisive
    refine List.foldlRecOn
      (motive := fun best => ∀ found, best = some found → found ∈ directives.all.filter applies)
      _ _ (fun _ h => nomatch h) ?_
    intro best hbest other hother
    rcases best with _ | best
    · rintro _ ⟨⟩
      exact hother
    · dsimp only
      split
      · rintro _ ⟨⟩
        exact hother
      · exact hbest
  exact (List.mem_filter.mp (hmem directive h)).1

end Directives

namespace Filter

variable {filter : Filter}

theorem rank_le_bound {level : Level}
    (h : level.rank ≤ max filter.statics.bound filter.dynamics.bound) :
    level.rank ≤ filter.bound := by
  unfold bound
  split
  · exact rank_le_trace level
  · exact h

theorem rank_le_of_admitsInside {opened : List Ceiling} {level : Level}
    (h : filter.admitsInside opened level = true) : level.rank ≤ filter.bound := by
  unfold admitsInside at h
  have hdynamics := of_decide_eq_true (Bool.and_eq_true_iff.mp h).1
  exact rank_le_bound (Nat.le_trans hdynamics (Nat.le_max_right _ _))

theorem rank_le_of_admitsStatically (hfilter : filter.statics.Bounded) {target : String}
    {fields : List String} {level : Level} {event : Bool}
    (h : filter.admitsStatically target fields level event = true) : level.rank ≤ filter.bound := by
  unfold admitsStatically at h
  dsimp only at h
  split at h
  · cases h
  · rename_i directive hdecisive
    have hlevel : level.rank ≤ directive.level.rank := of_decide_eq_true h
    have hbound := hfilter directive (Directives.mem_of_decisive hdecisive)
    exact rank_le_bound (Nat.le_trans (Nat.le_trans hlevel hbound) (Nat.le_max_left _ _))

/-- An event that is let through is within the bound. -/
theorem rank_le_of_admitsEvent (hfilter : filter.statics.Bounded) {opened : List Ceiling}
    {target : String} {fields : List String} {level : Level}
    (h : filter.admitsEvent opened target fields level = true) : level.rank ≤ filter.bound := by
  rcases Bool.or_eq_true_iff.mp h with hinside | hstatic
  · exact rank_le_of_admitsInside hinside
  · exact rank_le_of_admitsStatically hfilter hstatic

theorem spanLevel?_of_all_eq_nil (h : filter.dynamics.all = []) (span : Span) :
    filter.spanLevel? span = none := by
  unfold spanLevel?
  rw [h]
  rfl

/-- A span that no directive is about is let through within the bound only. -/
theorem rank_le_of_admitsSpan (hfilter : filter.statics.Bounded) {opened : List Ceiling}
    {span : Span} (hspan : filter.spanLevel? span = none)
    (h : filter.admitsSpan opened span = true) : span.level.rank ≤ filter.bound := by
  unfold admitsSpan at h
  rw [hspan] at h
  rcases Bool.or_eq_true_iff.mp h with hinside | hstatic
  · exact rank_le_of_admitsInside hinside
  · exact rank_le_of_admitsStatically hfilter hstatic

/-- A bound on what is told makes no difference beyond the one of the filter: it is that one, or it is higher
and the filter is about no spans. -/
def Tolerates (filter : Filter) (bound : Nat) : Prop :=
  bound = filter.bound ∨ filter.bound ≤ bound ∧ filter.dynamics.all = []

def shows (filter : Filter) (outer : List Span) (span : Span) : Bool :=
  span.level.rank ≤ filter.bound && filter.admitsSpan (outer.filterMap filter.spanLevel?) span

variable {bound : Nat}

theorem Tolerates.le (h : filter.Tolerates bound) : filter.bound ≤ bound := by
  rcases h with hsame | ⟨hle, -⟩
  · exact Nat.le_of_eq hsame.symm
  · exact hle

theorem Tolerates.admitsEvent (h : filter.Tolerates bound) (hfilter : filter.statics.Bounded)
    (opened : List Ceiling) (target : String) (fields : List String) (level : Level) :
    (decide (level.rank ≤ bound) && filter.admitsEvent opened target fields level) =
      filter.admitsEvent opened target fields level := by
  rw [Bool.and_eq_right_iff_imp, decide_eq_true_iff]
  exact fun hadmits => Nat.le_trans (rank_le_of_admitsEvent hfilter hadmits) h.le

theorem Tolerates.admitsSpan (h : filter.Tolerates bound) (hfilter : filter.statics.Bounded)
    (outer : List Span) (span : Span) :
    (decide (span.level.rank ≤ bound) && filter.admitsSpan (outer.filterMap filter.spanLevel?) span) =
      filter.shows outer span := by
  unfold shows
  rcases h with hsame | ⟨hle, hnone⟩
  · rw [hsame]
  · rcases hadmits : filter.admitsSpan (outer.filterMap filter.spanLevel?) span with _ | _
    · rw [Bool.and_false, Bool.and_false]
    · have hrank := rank_le_of_admitsSpan hfilter (spanLevel?_of_all_eq_nil hnone span) hadmits
      rw [decide_eq_true hrank, decide_eq_true (Nat.le_trans hrank hle)]

end Filter

end Switchboard.Tracing
