import Mathlib.Data.List.Basic
import Switchboard.Text.Characters
import Switchboard.Text.Numeral

namespace Switchboard.Text.Numeral

theorem extend_cons (n : Nat) (c : Char) (rest : List Char) :
    extend n (c :: rest) = extend (10 * n + digitValue c) rest := by
  unfold extend
  rw [List.foldl_cons]

theorem le_extend (n : Nat) (digits : List Char) : n ≤ extend n digits := by
  induction digits generalizing n with
  | nil => exact Nat.le_refl n
  | cons c rest ih =>
      rw [extend_cons]
      have hrest := ih (10 * n + digitValue c)
      omega

theorem value_digits (n : Nat) : value (digits n) = n :=
  Nat.ofDigitChars_ten_toDigits

theorem value_zeros_append_digits (zeros n : Nat) :
    value (List.replicate zeros '0' ++ digits n) = n := by
  induction zeros with
  | zero => exact value_digits n
  | succ zeros ih => exact ih

theorem isDigit_of_mem_digits {n : Nat} {c : Char} (h : c ∈ digits n) : c.isDigit = true :=
  Nat.isDigit_of_mem_toDigits (by decide) (by decide) h

theorem digits_ne_nil (n : Nat) : digits n ≠ [] :=
  Nat.toDigits_ne_nil

theorem head?_digits_ne_zero {n : Nat} (h : n ≠ 0) : (digits n).head? ≠ some '0' := by
  induction n using Nat.strongRecOn with
  | _ n ih =>
      unfold digits
      rw [Nat.toDigits_eq_if (by decide)]
      split
      · intro hzero
        exact h (Nat.digitChar_eq_zero.mp (Option.some.inj hzero))
      · rw [List.head?_append_of_ne_nil _ Nat.toDigits_ne_nil]
        exact ih (n / 10) (by omega) (by omega)

theorem readDigits_eq_ok_iff {limit n m : Nat} {text : List Char} (h : n ≤ limit) :
    readDigits limit n text = .ok m ↔
      (∀ c ∈ text, c.isDigit = true) ∧ extend n text = m ∧ m ≤ limit := by
  induction text generalizing n with
  | nil =>
      constructor
      · rintro ⟨⟩
        exact ⟨by simp, rfl, h⟩
      · rintro ⟨-, hvalue, -⟩
        exact congrArg Except.ok hvalue
  | cons c rest ih =>
      unfold readDigits
      rw [List.forall_mem_cons, extend_cons]
      split
      · rename_i hc
        exact iff_of_false nofun fun hread => by simp [hc] at hread
      · rename_i hc
        split
        · rename_i hlarge
          refine iff_of_false nofun ?_
          rintro ⟨-, hvalue, hle⟩
          have hgrows := le_extend (10 * n + digitValue c) rest
          omega
        · rename_i hfits
          rw [ih (Nat.le_of_not_lt hfits), and_iff_right (Bool.not_eq_false _ |>.mp hc)]

/-- A text of one digit or more, with or without a plus sign, and the number whose digits they are. -/
def Denotes (text : List Char) (n : Nat) : Prop :=
  ∃ sign digits, text = sign ++ digits ∧ (sign = [] ∨ sign = ['+']) ∧ digits ≠ [] ∧
    (∀ c ∈ digits, c.isDigit = true) ∧ value digits = n

theorem denotes_digits {sign : List Char} (hsign : sign = [] ∨ sign = ['+']) (zeros n : Nat) :
    Denotes (sign ++ (List.replicate zeros '0' ++ digits n)) n := by
  refine ⟨sign, _, rfl, hsign, ?_, ?_, value_zeros_append_digits zeros n⟩
  · exact List.append_ne_nil_of_right_ne_nil _ (digits_ne_nil n)
  · intro c hc
    rcases List.mem_append.mp hc with hzero | hdigit
    · rw [List.eq_of_mem_replicate hzero]
      rfl
    · exact isDigit_of_mem_digits hdigit

theorem not_blank_of_isDigit {c : Char} (h : c.isDigit = true) : isBlank c = false := by
  have hall : ∀ n, 48 ≤ n → n ≤ 57 → blanks.contains n = false := by
    intro n hlow hhigh
    have hrange : ∀ m < 10, blanks.contains (48 + m) = false := by decide
    have hn := hrange (n - 48) (by omega)
    rw [Nat.add_sub_cancel' hlow] at hn
    exact hn
  simp only [Char.isDigit, Bool.and_eq_true, decide_eq_true_eq] at h
  exact hall c.toNat (UInt32.le_iff_toNat_le.mp h.1) (UInt32.le_iff_toNat_le.mp h.2)

theorem Denotes.forall_not_blank {text : List Char} {n : Nat} (h : Denotes text n) :
    ∀ c ∈ text, isBlank c = false := by
  obtain ⟨sign, digits, rfl, hsign, -, hdigits, -⟩ := h
  intro c hc
  rcases List.mem_append.mp hc with hc | hc
  · rcases hsign with rfl | rfl
    · cases hc
    · obtain rfl := List.mem_singleton.mp hc
      decide
  · exact not_blank_of_isDigit (hdigits c hc)

theorem read_eq_ok_iff {limit n : Nat} {text : List Char} :
    read limit text = .ok n ↔ Denotes text n ∧ n ≤ limit := by
  have hplus : ¬ ('+').isDigit = true := by decide
  constructor
  · intro h
    unfold read at h
    split at h
    · cases h
    · cases h
    · rename_i rest hrest
      obtain ⟨hdigits, hvalue, hle⟩ := (readDigits_eq_ok_iff (Nat.zero_le limit)).mp h
      exact ⟨⟨['+'], rest, rfl, .inr rfl, hrest, hdigits, hvalue⟩, hle⟩
    · rename_i hnonempty _ _
      obtain ⟨hdigits, hvalue, hle⟩ := (readDigits_eq_ok_iff (Nat.zero_le limit)).mp h
      exact ⟨⟨[], text, rfl, .inl rfl, hnonempty, hdigits, hvalue⟩, hle⟩
  · rintro ⟨⟨sign, digits, rfl, hsign, hnonempty, hdigits, hvalue⟩, hle⟩
    have hread : readDigits limit 0 digits = .ok n :=
      (readDigits_eq_ok_iff (Nat.zero_le limit)).mpr ⟨hdigits, hvalue, hle⟩
    obtain ⟨c, rest, rfl⟩ := List.exists_cons_of_ne_nil hnonempty
    rcases hsign with rfl | rfl
    · have hc : c ≠ '+' := by
        rintro rfl
        exact hplus (hdigits '+' List.mem_cons_self)
      unfold read
      split
      · rename_i hnil
        cases hnil
      · rename_i hsame
        cases hsame
        exact absurd rfl hc
      · rename_i hsame
        cases hsame
        exact absurd rfl hc
      · exact hread
    · exact hread

end Switchboard.Text.Numeral
