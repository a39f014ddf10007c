import Mathlib.Data.List.Basic
import Switchboard.Proofs.Spelling

/-!
Lower-casing makes all of a text small at once: to do it again changes nothing. It neither makes blanks nor
takes any away, so a text without blanks at its ends stays one.
-/

namespace Switchboard.Text

namespace LowerCase

/-- The small letters of a run are no capitals of another one: they lie before it or after it, or between
its capitals where those are every other character. -/
def Run.misses (run other : Run) : Bool :=
  let first := (run.first + run.shift).toNat
  let last := (run.last + run.shift).toNat
  Nat.blt last other.first || Nat.blt other.last first ||
    (Nat.beq run.step 2 || Nat.beq run.first run.last) && Nat.beq other.step 2 &&
      Nat.beq ((first + other.first) % 2) 1

theorem misses_of_mem_runs :
    (runs.all fun run => runs.all run.misses) = true := by
  decide +kernel

theorem blanks_of_mem_runs : ∀ run ∈ runs, 0 < run.first ∧ 0 < run.first + run.shift ∧
    (run.last + run.shift < 'İ'.toNat ∨ 'İ'.toNat < run.first + run.shift) ∧
    ∀ range ∈ blanks, (run.last < range.1 ∨ range.2 < run.first) ∧
      (run.last + run.shift < range.1 ∨ range.2 < run.first + run.shift) := by
  decide +kernel

theorem Run.not_covers_of_misses {run other : Run} (h : run.misses other = true)
    (hpositive : 0 < run.first + run.shift) {n : Nat} (hn : run.covers n = true) :
    other.covers (n + run.shift).toNat = false := by
  rw [← Bool.not_eq_true]
  intro hcovers
  simp only [covers, Bool.and_eq_true, decide_eq_true_eq, beq_iff_eq] at hn hcovers
  simp only [misses, Bool.or_eq_true, Bool.and_eq_true, Nat.blt_eq, Nat.beq_eq] at h
  obtain ⟨⟨hfirst, hlast⟩, hstep⟩ := hn
  obtain ⟨⟨hfirst', hlast'⟩, hstep'⟩ := hcovers
  rcases h with (hbefore | hafter) | ⟨⟨hevery, hother⟩, hodd⟩
  · omega
  · omega
  · rw [hother] at hstep'
    rcases hevery with hevery | hsingle
    · rw [hevery] at hstep
      omega
    · omega

def Small (c : Char) : Prop :=
  c ≠ 'İ' ∧ runs.find? (·.covers c.toNat) = none

instance : DecidablePred Small :=
  fun c => inferInstanceAs (Decidable (c ≠ 'İ' ∧ _ = none))

theorem Small.ofChar_eq {c : Char} (h : Small c) : ofChar c = [c] := by
  rw [ofChar, if_neg h.1, h.2]

theorem Small.ne_sigma {c : Char} (h : Small c) : c ≠ 'Σ' := by
  rintro rfl
  exact absurd h (by decide)

/-- The small letter of a capital is small, and neither of them is a blank. -/
theorem small_of_covers {run : Run} (hrun : run ∈ runs) {c : Char}
    (hc : run.covers c.toNat = true) :
    let d := Char.ofNat (c.toNat + run.shift).toNat
    Small d ∧ isBlank d = isBlank c := by
  intro d
  obtain ⟨hpositive, hpositive', hdotted, hblanks⟩ := blanks_of_mem_runs run hrun
  have hrange := hc
  simp only [Run.covers, Bool.and_eq_true, decide_eq_true_eq] at hrange
  have hd : d.toNat = (c.toNat + run.shift).toNat ∨ d.toNat = 0 := toNat_ofNat _
  refine ⟨⟨?_, List.find?_eq_none.mpr fun other hother hcovers => ?_⟩, ?_⟩
  · intro hsame
    have hnumber : d.toNat = 'İ'.toNat := congrArg Char.toNat hsame
    have hcode : 'İ'.toNat = 0x130 := rfl
    rw [hcode] at hnumber hdotted
    omega
  · have hmisses := misses_of_mem_runs
    simp only [List.all_eq_true] at hmisses
    rcases hd with hvalid | hzero
    · rw [hvalid, Run.not_covers_of_misses (hmisses run hrun other hother) hpositive' hc] at hcovers
      cases hcovers
    · obtain ⟨hother, -⟩ := blanks_of_mem_runs other hother
      simp only [Run.covers, Bool.and_eq_true, decide_eq_true_eq] at hcovers
      omega
  · have hnone : ∀ n, (∀ range ∈ blanks, n < range.1 ∨ range.2 < n) → blanks.contains n = false := by
      intro n hn
      refine List.any_eq_false.mpr fun range hrange => ?_
      have hout := hn range hrange
      simp only [Bool.and_eq_true, decide_eq_true_eq]
      omega
    have hzero : blanks.contains 0 = false := by decide
    have hsmall : isBlank d = false := by
      rcases hd with hvalid | hinvalid
      · refine hnone _ fun range hrange => ?_
        have hout := hblanks range hrange
        omega
      · rw [isBlank, hinvalid, hzero]
    have hcapital : isBlank c = false := by
      refine hnone _ fun range hrange => ?_
      have hout := hblanks range hrange
      omega
    rw [hsmall, hcapital]

theorem small_of_mem_ofChar {c d : Char} (h : d ∈ ofChar c) :
    Small d ∧ isBlank d = isBlank c := by
  unfold ofChar at h
  split at h
  · rename_i hdotted
    subst hdotted
    have hletter : Small 'i' ∧ isBlank 'i' = isBlank 'İ' := by decide +kernel
    have hdot : Small '\u0307' ∧ isBlank '\u0307' = isBlank 'İ' := by decide +kernel
    rcases List.mem_pair.mp h with rfl | rfl
    · exact hletter
    · exact hdot
  · rename_i hplain
    split at h
    · rename_i run hrun
      obtain rfl := List.mem_singleton.mp h
      exact small_of_covers (List.mem_of_find?_eq_some hrun) (by simpa using List.find?_some hrun)
    · rename_i hnone
      obtain rfl := List.mem_singleton.mp h
      exact ⟨⟨hplain, hnone⟩, rfl⟩

theorem exists_following_cons (before : List Char) (c : Char) (rest : List Char) :
    ∃ lowered, lowered ≠ [] ∧ (∀ d ∈ lowered, Small d ∧ isBlank d = isBlank c) ∧
      following before (c :: rest) = lowered ++ following (c :: before) rest := by
  refine ⟨_, ?_, ?_, rfl⟩
  · unfold ofChar
    split_ifs
    · simp
    · simp
    · simp
    · split <;> simp
  · intro d hd
    split at hd
    · rename_i hsigma
      subst hsigma
      have hfinal : Small 'ς' ∧ isBlank 'ς' = isBlank 'Σ' := by decide +kernel
      have hother : Small 'σ' ∧ isBlank 'σ' = isBlank 'Σ' := by decide +kernel
      split_ifs at hd
      · exact List.mem_singleton.mp hd ▸ hfinal
      · exact List.mem_singleton.mp hd ▸ hother
    · exact small_of_mem_ofChar hd

theorem small_of_mem_following {d : Char} (before text : List Char) (h : d ∈ following before text) :
    Small d := by
  induction text generalizing before with
  | nil => cases h
  | cons c rest ih =>
      obtain ⟨lowered, -, hlowered, hfollowing⟩ := exists_following_cons before c rest
      rw [hfollowing] at h
      rcases List.mem_append.mp h with hmem | hmem
      · exact (hlowered d hmem).1
      · exact ih _ hmem

theorem following_of_small {text : List Char} (h : ∀ c ∈ text, Small c) (before : List Char) :
    following before text = text := by
  induction text generalizing before with
  | nil => rfl
  | cons c rest ih =>
      obtain ⟨hc, hrest⟩ := List.forall_mem_cons.mp h
      rw [following, if_neg hc.ne_sigma, hc.ofChar_eq, ih hrest, List.singleton_append]

theorem isBlank_of_mem_head?_following {before text : List Char} {d : Char}
    (h : d ∈ (following before text).head?) : ∃ c ∈ text.head?, isBlank d = isBlank c := by
  rcases text with _ | ⟨c, rest⟩
  · cases h
  · obtain ⟨lowered, hne, hlowered, hfollowing⟩ := exists_following_cons before c rest
    rw [hfollowing, List.head?_append_of_ne_nil _ hne] at h
    exact ⟨c, rfl, (hlowered d (List.mem_of_mem_head? h)).2⟩

theorem isBlank_of_mem_getLast?_following {before text : List Char} {d : Char}
    (h : d ∈ (following before text).getLast?) : ∃ c ∈ text.getLast?, isBlank d = isBlank c := by
  induction text generalizing before with
  | nil => cases h
  | cons c rest ih =>
      obtain ⟨lowered, hne, hlowered, hfollowing⟩ := exists_following_cons before c rest
      rw [hfollowing] at h
      rcases rest with _ | ⟨next, rest⟩
      · rw [following, List.append_nil] at h
        exact ⟨c, rfl, (hlowered d (List.mem_of_mem_getLast? h)).2⟩
      · obtain ⟨lowered', hne', -, hfollowing'⟩ := exists_following_cons (c :: before) next rest
        have hrest : following (c :: before) (next :: rest) ≠ [] := by
          rw [hfollowing']
          exact List.append_ne_nil_of_left_ne_nil hne' _
        rw [List.getLast?_append_of_ne_nil _ hrest] at h
        rw [List.getLast?_cons_cons]
        exact ih h

end LowerCase

theorem lowerCase_lowerCase (text : List Char) : lowerCase (lowerCase text) = lowerCase text :=
  LowerCase.following_of_small (fun _ => LowerCase.small_of_mem_following [] text) []

theorem Trimmed.lowerCase {text : List Char} (h : Trimmed text) : Trimmed (lowerCase text) := by
  constructor
  · intro d hd
    obtain ⟨c, hc, hsame⟩ := LowerCase.isBlank_of_mem_head?_following hd
    rw [hsame]
    exact h.1 c hc
  · intro d hd
    obtain ⟨c, hc, hsame⟩ := LowerCase.isBlank_of_mem_getLast?_following hd
    rw [hsame]
    exact h.2 c hc

end Switchboard.Text
