import Mathlib.Data.List.TakeWhile
import Switchboard.Text.Characters
import Switchboard.Text.LowerCase

namespace Switchboard.Text

/-- A text with nothing but blanks around a part of it. -/
def Padded (text core : List Char) : Prop :=
  ∃ before after, text = before ++ core ++ after ∧ (∀ c ∈ before, isBlank c = true) ∧
    ∀ c ∈ after, isBlank c = true

theorem padded_trim (text : List Char) : Padded text (trim text) := by
  refine ⟨text.takeWhile isBlank, ((trimStart text).reverse.takeWhile isBlank).reverse, ?_, ?_, ?_⟩
  · have hend : trim text ++ ((trimStart text).reverse.takeWhile isBlank).reverse =
        trimStart text := by
      unfold trim trimEnd
      rw [← List.reverse_append]
      unfold trimStart
      rw [List.takeWhile_append_dropWhile, List.reverse_reverse]
    rw [List.append_assoc, hend]
    exact List.takeWhile_append_dropWhile.symm
  · exact fun c hmem => List.mem_takeWhile_imp hmem
  · intro c hmem
    rw [List.mem_reverse] at hmem
    exact List.mem_takeWhile_imp hmem

theorem trimStart_append {before text : List Char} (hbefore : ∀ c ∈ before, isBlank c = true)
    (htext : ∀ c ∈ text.head?, isBlank c = false) : trimStart (before ++ text) = text := by
  unfold trimStart
  rw [List.dropWhile_append_of_pos hbefore]
  cases text with
  | nil => rfl
  | cons c rest =>
      rw [List.dropWhile_cons_of_neg]
      simp [htext c rfl]

/-- A text that neither begins nor ends with a blank. -/
def Trimmed (text : List Char) : Prop :=
  (∀ c ∈ text.head?, isBlank c = false) ∧ ∀ c ∈ text.getLast?, isBlank c = false

instance (text : List Char) : Decidable (Trimmed text) :=
  decidable_of_iff (text.head?.any isBlank = false ∧ text.getLast?.any isBlank = false)
    (and_congr (Option.any_eq_false _ _) (Option.any_eq_false _ _))

theorem head?_trimStart (text : List Char) : ∀ c ∈ (trimStart text).head?, isBlank c = false := by
  intro c hc
  have hhead := List.head?_dropWhile_not isBlank text
  rw [Option.mem_def] at hc
  unfold trimStart at hc
  rw [hc] at hhead
  exact hhead

theorem trimmed_trim (text : List Char) : Trimmed (trim text) := by
  constructor
  · intro c hc
    obtain ⟨blanks, hblanks⟩ : trim text <+: trimStart text := by
      rw [← List.reverse_suffix, trim, trimEnd, List.reverse_reverse]
      exact List.dropWhile_suffix isBlank
    have hhead : (trimStart text).head? = some c := by
      rw [← hblanks, List.head?_append, hc, Option.some_or]
    exact head?_trimStart text c hhead
  · intro c hc
    rw [trim, trimEnd, List.getLast?_reverse] at hc
    exact head?_trimStart _ c hc

theorem trim_of_padded {text core : List Char} (h : Padded text core) (hcore : Trimmed core) :
    trim text = core := by
  obtain ⟨before, after, rfl, hbefore, hafter⟩ := h
  have hstart : trimStart (before ++ core ++ after) = if core = [] then [] else core ++ after := by
    rcases core with _ | ⟨c, rest⟩
    · have hblank : ∀ c ∈ before ++ after, isBlank c = true := by
        intro c hmem
        rcases List.mem_append.mp hmem with hleft | hright
        · exact hbefore c hleft
        · exact hafter c hright
      have hnone : trimStart (before ++ after ++ []) = [] := trimStart_append hblank (by simp)
      simpa using hnone
    · have hhead : ∀ d ∈ (c :: rest ++ after).head?, isBlank d = false := hcore.1
      rw [List.append_assoc, trimStart_append hbefore hhead, if_neg (List.cons_ne_nil _ _)]
  unfold trim
  rw [hstart]
  split
  · rename_i hnone
    rw [hnone]
    rfl
  · unfold trimEnd
    rw [List.reverse_append, trimStart_append, List.reverse_reverse]
    · intro c hmem
      exact hafter c (List.mem_reverse.mp hmem)
    · intro c hmem
      rw [List.head?_reverse] at hmem
      exact hcore.2 c hmem

theorem Padded.unique {text core core' : List Char} (h : Padded text core) (hcore : Trimmed core)
    (h' : Padded text core') (hcore' : Trimmed core') : core = core' :=
  (trim_of_padded h hcore).symm.trans (trim_of_padded h' hcore')

theorem trim_eq_iff {text core : List Char} (h : ∀ c ∈ core, isBlank c = false) :
    trim text = core ↔ Padded text core := by
  constructor
  · rintro rfl
    exact padded_trim text
  · intro hpadded
    exact trim_of_padded hpadded ⟨fun c hc => h c (List.mem_of_mem_head? hc),
      fun c hc => h c (List.mem_of_mem_getLast? hc)⟩

theorem toLower_of_not_ascii {c : Char} (h : 128 ≤ c.toNat) : c.toLower = c := by
  unfold Char.toLower
  rw [dif_neg]
  rintro ⟨-, hupper⟩
  have hle : c.toNat ≤ 'Z'.toNat := UInt32.le_iff_toNat_le.mp hupper
  exact absurd (h.trans hle) (by decide)

theorem toNat_ofNat (n : Nat) : (Char.ofNat n).toNat = n ∨ (Char.ofNat n).toNat = 0 := by
  rcases Decidable.em n.isValidChar with hvalid | hinvalid
  · rw [Char.ofNat, dif_pos hvalid]
    exact .inl rfl
  · rw [Char.ofNat, dif_neg hinvalid]
    exact .inr rfl

namespace LowerCase

/-- A character of an English word in small letters. The letter `k` is left out, being also the small
letter of the Kelvin sign. -/
def Plain (c : Char) : Prop :=
  c ≠ 'k' ∧ c.toNat ≠ 0 ∧ c.toNat < 128

instance : DecidablePred Plain :=
  fun c => inferInstanceAs (Decidable (c ≠ 'k' ∧ c.toNat ≠ 0 ∧ c.toNat < 128))

theorem shift_of_mem_runs : ∀ run ∈ runs,
    run.last < 128 ∨ run.first = 0x212a ∧ run.last = 0x212a ∧ run.shift = -8383 ∨
      128 ≤ run.first + run.shift := by
  decide +kernel

theorem first_of_mem_tail_runs : ∀ run ∈ runs.tail, 128 ≤ run.first := by
  decide +kernel

theorem ofChar_of_ascii {c : Char} (h : c.toNat < 128) : ofChar c = [c.toLower] := by
  have hcapitals : ∀ n < 128,
      (([Run.mk 0x41 0x5a 1 32].find? (·.covers n)).elim [Char.ofNat n] fun run =>
        [Char.ofNat (n + run.shift).toNat]) = [(Char.ofNat n).toLower] := by decide
  have hothers : runs.tail.find? (·.covers c.toNat) = none := by
    refine List.find?_eq_none.mpr fun run hrun hcovers => ?_
    simp only [Run.covers, Bool.and_eq_true, decide_eq_true_eq] at hcovers
    have hfirst := first_of_mem_tail_runs run hrun
    omega
  have hfind : runs.find? (·.covers c.toNat) =
      [Run.mk 0x41 0x5a 1 32].find? (·.covers c.toNat) := by
    rw [show runs = Run.mk 0x41 0x5a 1 32 :: runs.tail from rfl, List.find?_cons, hothers]
    rfl
  have hc := hcapitals c.toNat h
  rw [← hfind, Char.ofNat_toNat] at hc
  unfold ofChar
  rw [if_neg (by rintro rfl; exact absurd h (by decide))]
  generalize runs.find? (·.covers c.toNat) = found at hc ⊢
  rcases found with _ | run
  · exact hc
  · exact hc

/-- The small letter of a character outside ASCII is no character of a plain word. -/
theorem exists_not_plain_of_ofChar {c : Char} (h : 128 ≤ c.toNat) :
    ∃ d ∈ ofChar c, ¬ Plain d := by
  unfold ofChar
  split
  · exact ⟨'\u0307', by simp, by decide⟩
  · split
    · rename_i run hrun
      refine ⟨_, List.mem_singleton_self _, ?_⟩
      have hcovers : run.covers c.toNat = true := by simpa using List.find?_some hrun
      simp only [Run.covers, Bool.and_eq_true, decide_eq_true_eq] at hcovers
      obtain ⟨⟨hfirst, hlast⟩, -⟩ := hcovers
      rcases shift_of_mem_runs run (List.mem_of_find?_eq_some hrun) with
        hin | ⟨hkelvin, hkelvin', hshift⟩ | hout
      · omega
      · have hkay : (c.toNat + run.shift).toNat = 'k'.toNat := by
          rw [hshift, show c.toNat = 0x212a by omega]
          rfl
        rw [hkay, Char.ofNat_toNat]
        exact fun hplain => hplain.1 rfl
      · rintro ⟨-, hzero, hascii⟩
        rcases toNat_ofNat (c.toNat + run.shift).toNat with hvalid | hinvalid
        · omega
        · exact hzero hinvalid
    · refine ⟨c, List.mem_singleton_self c, ?_⟩
      rintro ⟨-, -, hascii⟩
      omega

/-- A text is a plain word in lower case exactly if it is so when the English capitals alone are made
small. -/
theorem following_eq_iff {word : List Char} (h : ∀ c ∈ word, Plain c) (before text : List Char) :
    following before text = word ↔ text.map Char.toLower = word := by
  induction text generalizing before word with
  | nil => rfl
  | cons c rest ih =>
      rw [List.map_cons, following]
      by_cases hascii : c.toNat < 128
      · have hsigma : c ≠ 'Σ' := by
          rintro rfl
          exact absurd hascii (by decide)
        rw [if_neg hsigma, ofChar_of_ascii hascii, List.singleton_append]
        rcases word with _ | ⟨d, more⟩
        · simp
        · rw [List.cons.injEq, List.cons.injEq, ih fun e hmem => h e (List.mem_cons_of_mem d hmem)]
      · have hc : 128 ≤ c.toNat := Nat.le_of_not_lt hascii
        constructor
        · intro hword
          exfalso
          split at hword
          · have hsigma : ∃ d ∈ word, ¬ Plain d := by
              rw [← hword]
              split
              · exact ⟨'ς', by simp, by decide⟩
              · exact ⟨'σ', by simp, by decide⟩
            obtain ⟨d, hmem, hd⟩ := hsigma
            exact hd (h d hmem)
          · obtain ⟨d, hmem, hd⟩ := exists_not_plain_of_ofChar hc
            exact hd (h d (hword ▸ List.mem_append_left _ hmem))
        · intro hword
          rw [toLower_of_not_ascii hc] at hword
          have hplain : Plain c := h c (hword ▸ List.mem_cons_self)
          exact absurd hplain.2.2 hascii

end LowerCase

/-- The same texts but for the case of English letters. -/
def SameButCase (text word : List Char) : Prop :=
  text.map Char.toLower = word.map Char.toLower

instance (text word : List Char) : Decidable (SameButCase text word) :=
  inferInstanceAs (Decidable (_ = _))

theorem isBlank_toLower (c : Char) : isBlank c.toLower = isBlank c := by
  rcases Nat.lt_or_ge c.toNat 128 with hascii | hbeyond
  · have hall : ∀ n < 128, isBlank (Char.ofNat n).toLower = isBlank (Char.ofNat n) := by
      decide +kernel
    have hc := hall c.toNat hascii
    rw [Char.ofNat_toNat] at hc
    exact hc
  · rw [toLower_of_not_ascii hbeyond]

theorem SameButCase.forall_not_blank {text word : List Char} (h : SameButCase text word)
    (hword : ∀ c ∈ word, isBlank c = false) : ∀ c ∈ text, isBlank c = false := by
  intro c hc
  have hlower : c.toLower ∈ word.map Char.toLower := h ▸ List.mem_map_of_mem hc
  obtain ⟨d, hd, hsame⟩ := List.mem_map.mp hlower
  rw [← isBlank_toLower, ← hsame, isBlank_toLower]
  exact hword d hd

/-- A word in small letters that full lower-casing makes of no other letters than the English ones. -/
def SmallWord (word : List Char) : Prop :=
  (∀ c ∈ word, LowerCase.Plain c) ∧ word.map Char.toLower = word

instance (word : List Char) : Decidable (SmallWord word) :=
  have : Decidable (∀ c ∈ word, LowerCase.Plain c) := List.decidableBAll LowerCase.Plain word
  inferInstanceAs (Decidable (_ ∧ _))

theorem lowerCase_eq_iff {word : List Char} (h : SmallWord word) (text : List Char) :
    lowerCase text = word ↔ SameButCase text word := by
  unfold SameButCase
  rw [h.2]
  exact LowerCase.following_eq_iff h.1 [] text

theorem lookup_eq_some_iff_mem {α β : Type} [DecidableEq α] {entries : List (α × β)}
    (h : (entries.map Prod.fst).Nodup) {a : α} {b : β} :
    entries.lookup a = some b ↔ (a, b) ∈ entries := by
  rw [List.lookup_eq_some_iff]
  constructor
  · rintro ⟨before, after, rfl, -⟩
    exact List.mem_append_right _ List.mem_cons_self
  · intro hmem
    obtain ⟨before, after, rfl⟩ := List.append_of_mem hmem
    refine ⟨before, after, rfl, ?_⟩
    rintro ⟨other, value⟩ hbefore
    rw [List.map_append, List.map_cons] at h
    have hne := (List.nodup_append.mp h).2.2 other (List.mem_map_of_mem hbefore) a List.mem_cons_self
    simpa using hne.symm

/-- To look up a text in lower case among small words is to find a word that has its letters. -/
theorem lookup_lowerCase_eq_some_iff {α : Type} {choices : List (String × α)}
    (hnodup : (choices.map Prod.fst).Nodup)
    (hwords : ∀ name ∈ choices.map Prod.fst, SmallWord name.toList) {text : List Char} {a : α} :
    choices.lookup (String.ofList (lowerCase text)) = some a ↔
      ∃ name, (name, a) ∈ choices ∧ SameButCase text name.toList := by
  rw [lookup_eq_some_iff_mem hnodup]
  have hlower : ∀ name, (name, a) ∈ choices →
      (String.ofList (lowerCase text) = name ↔ SameButCase text name.toList) := by
    intro name hmem
    rw [← lowerCase_eq_iff (hwords name (List.mem_map_of_mem hmem)), ← String.toList_inj,
      String.toList_ofList]
  constructor
  · intro hmem
    exact ⟨_, hmem, (hlower _ hmem).mp rfl⟩
  · rintro ⟨name, hmem, hsame⟩
    rw [(hlower name hmem).mpr hsame]
    exact hmem

end Switchboard.Text
