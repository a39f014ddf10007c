import Switchboard.Json.Printer
import Switchboard.Json.Reader
import Switchboard.Proofs.Numeral

namespace Switchboard.Json

open Switchboard.Text

theorem bind_eq_ok_iff {ε α β : Type} {x : Except ε α} {f : α → Except ε β} {b : β} :
    (x >>= f) = .ok b ↔ ∃ a, x = .ok a ∧ f a = .ok b := by
  rcases x with fault | a
  · exact iff_of_false nofun nofun
  · constructor
    · intro h
      exact ⟨a, rfl, h⟩
    · rintro ⟨_, ⟨⟩, h⟩
      exact h

theorem ok_bind {ε α β : Type} (a : α) (f : α → Except ε β) : (Except.ok a >>= f) = f a :=
  rfl

theorem hexValue?_hexDigit {n : Nat} (h : n < 16) : Numeral.hexValue? (hexDigit n) = some n := by
  have hall : ∀ m < 16, Numeral.hexValue? (hexDigit m) = some m := by decide
  exact hall n h

theorem readUnicodeEscape_control {c : Char} (h : c.toNat < 0x20) (text : List Char) :
    readUnicodeEscape ('0' :: '0' :: hexDigit (c.toNat / 16) :: hexDigit (c.toNat % 16) :: text) =
      .ok (c, text) := by
  have hzero : Numeral.hexValue? '0' = some 0 := rfl
  have hunit : readHexUnit
      ('0' :: '0' :: hexDigit (c.toNat / 16) :: hexDigit (c.toNat % 16) :: text) =
        .ok (c.toNat, text) := by
    unfold readHexUnit
    simp only [hzero, hexValue?_hexDigit (show c.toNat / 16 < 16 by omega),
      hexValue?_hexDigit (Nat.mod_lt c.toNat (show 0 < 16 by decide))]
    congr 2
    omega
  unfold readUnicodeEscape
  rw [hunit]
  show (if _ then _ else _) = _
  rw [if_neg (by simp; omega), if_pos (by simp; omega), Char.ofNat_toNat]

theorem readStringChars_charText (bound : Nat) (c : Char) (text : List Char) :
    readStringChars (bound + 1) (charText c ++ text) = (do
      let (cs, rest) ← readStringChars bound text
      .ok (c :: cs, rest)) := by
  unfold charText
  split_ifs with hquote hbackslash hbackspace hformfeed hnewline hreturn htab hcontrol
  · subst hquote
    rfl
  · subst hbackslash
    rfl
  · subst hbackspace
    rfl
  · subst hformfeed
    rfl
  · subst hnewline
    rfl
  · subst hreturn
    rfl
  · subst htab
    rfl
  · show (readUnicodeEscape ('0' :: '0' :: hexDigit (c.toNat / 16) :: hexDigit (c.toNat % 16) ::
      text) >>= _) = _
    rw [readUnicodeEscape_control hcontrol]
    rfl
  · rw [List.singleton_append, readStringChars]
    · rw [if_neg hcontrol]
    · exact hquote
    · exact fun hsame => absurd hsame hbackslash
    · exact fun _ hsame => absurd hsame hbackslash
    · exact fun _ _ hsame => absurd hsame hbackslash

theorem readStringChars_body {bound : Nat} {cs : List Char} (h : cs.length < bound)
    (text : List Char) :
    readStringChars bound (cs.flatMap charText ++ '"' :: text) = .ok (cs, text) := by
  induction cs generalizing bound with
  | nil =>
      obtain ⟨bound, rfl⟩ := Nat.exists_eq_add_one.mpr h
      rfl
  | cons c cs ih =>
      obtain ⟨bound, rfl⟩ := Nat.exists_eq_add_one.mpr (Nat.zero_lt_of_lt h)
      rw [List.flatMap_cons, List.append_assoc, readStringChars_charText,
        ih (Nat.lt_of_succ_lt_succ h)]
      rfl

theorem length_le_length_flatMap_charText (cs : List Char) :
    cs.length ≤ (cs.flatMap charText).length := by
  have hpositive (c : Char) : 1 ≤ (charText c).length := by
    unfold charText
    split_ifs <;> simp
  induction cs with
  | nil => exact Nat.le_refl 0
  | cons c cs ih =>
      rw [List.flatMap_cons, List.length_append, List.length_cons]
      have hc := hpositive c
      omega

theorem readStringBody_flatMap_charText (s : String) (text : List Char) :
    readStringBody (s.toList.flatMap charText ++ '"' :: text) = .ok (s, text) := by
  have hbound : s.toList.length < (s.toList.flatMap charText ++ '"' :: text).length + 1 := by
    have hlength := length_le_length_flatMap_charText s.toList
    rw [List.length_append]
    omega
  unfold readStringBody
  rw [readStringChars_body hbound]
  show Except.ok (String.ofList s.toList, text) = _
  rw [String.ofList_toList]

/-- What may follow a value that stands in a list or an object, or alone. -/
def EndsValue (text : List Char) : Prop :=
  ∀ c ∈ text.head?, c = ',' ∨ c = ']' ∨ c = '}'

theorem skipSpace_cons {c : Char} (h : isSpace c = false) (text : List Char) :
    skipSpace (c :: text) = c :: text := by
  unfold skipSpace
  rw [List.dropWhile_cons_of_neg]
  simp [h]

theorem isSpace_of_isDigit {c : Char} (h : c.isDigit = true) : isSpace c = false := by
  rw [← Bool.not_eq_true]
  intro hspace
  simp only [isSpace, Bool.or_eq_true, decide_eq_true_eq] at hspace
  rcases hspace with ((rfl | rfl) | rfl) | rfl <;> exact absurd h (by decide)

/-- What may follow a value: white space, a comma or a closing bracket, or the end of the text. -/
def Delimits (text : List Char) : Prop :=
  ∀ c ∈ text.head?, c ∈ [' ', '\n', '\t', '\r', ',', ']', '\x7d']

theorem EndsValue.delimits {text : List Char} (h : EndsValue text) : Delimits text := by
  intro c hc
  rcases h c hc with rfl | rfl | rfl <;> decide

theorem Delimits.not_isDigit {text : List Char} (h : Delimits text) :
    ∀ c ∈ text.head?, c.isDigit = false := by
  have hall : [' ', '\n', '\t', '\r', ',', ']', '\x7d'].any Char.isDigit = false := by decide
  intro c hc
  simpa using List.any_eq_false.mp hall c (h c hc)

theorem Delimits.not_point {text : List Char} (h : Delimits text) {c : Char} (hc : c ∈ text.head?) :
    c ≠ '.' ∧ c ≠ 'e' ∧ c ≠ 'E' := by
  have hnone : '.' ∉ [' ', '\n', '\t', '\r', ',', ']', '\x7d'] ∧
      'e' ∉ [' ', '\n', '\t', '\r', ',', ']', '\x7d'] ∧
      'E' ∉ [' ', '\n', '\t', '\r', ',', ']', '\x7d'] := by decide
  have hmem := h c hc
  exact ⟨ne_of_mem_of_not_mem hmem hnone.1, ne_of_mem_of_not_mem hmem hnone.2.1,
    ne_of_mem_of_not_mem hmem hnone.2.2⟩

structure Digits where
  chars : List Char
  nonempty : chars ≠ []
  isDigit : ∀ c ∈ chars, c.isDigit = true

/-- A whole number as it is written, without a sign and without needless zeros in front. -/
structure Whole extends Digits where
  leading : chars.head? = some '0' → chars = ['0']

def Whole.ofNat (n : Nat) : Whole where
  chars := Numeral.digits n
  nonempty := Numeral.digits_ne_nil n
  isDigit _ := Numeral.isDigit_of_mem_digits
  leading := by
    intro hzero
    rcases Nat.eq_zero_or_pos n with rfl | hpositive
    · rfl
    · exact absurd hzero (Numeral.head?_digits_ne_zero (Nat.ne_of_gt hpositive))

theorem spanDigits_append (digits : Digits) {text : List Char}
    (htext : ∀ c ∈ text.head?, c.isDigit = false) :
    spanDigits (digits.chars ++ text) = (digits.chars, text) := by
  unfold spanDigits
  rw [List.takeWhile_append_of_pos digits.isDigit, List.dropWhile_append_of_pos digits.isDigit]
  rcases text with _ | ⟨c, more⟩
  · simp
  · have hc := htext c rfl
    simp [hc]

theorem gather_eq {n used : Nat} {digits : List Char} (h : Numeral.extend n digits ≤ maxWhole) :
    gather n used digits = (Numeral.extend n digits, used + digits.length, false) := by
  induction digits generalizing n used with
  | nil => rfl
  | cons c rest ih =>
      rw [Numeral.extend_cons] at h ⊢
      have hc := Numeral.le_extend (10 * n + Numeral.digitValue c) rest
      rw [gather, if_neg (by omega), ih h, List.length_cons, Nat.add_right_comm, Nat.add_assoc]

/-- A number beyond 64 bits is not gathered to its end. -/
theorem gather_beyond {n used : Nat} {digits : List Char} (hn : n ≤ maxWhole)
    (h : maxWhole < Numeral.extend n digits) : (gather n used digits).2.2 = true := by
  induction digits generalizing n used with
  | nil => exact absurd h (Nat.not_lt.mpr hn)
  | cons c rest ih =>
      rw [Numeral.extend_cons] at h
      rw [gather]
      split
      · rfl
      · exact ih (by omega) h

theorem gather_fst_le {n : Nat} (h : n ≤ maxWhole) (used : Nat) (digits : List Char) :
    (gather n used digits).1 ≤ maxWhole := by
  induction digits generalizing n used with
  | nil => exact h
  | cons c rest ih =>
      rw [gather]
      split
      · exact h
      · exact ih (by omega) _

def readTail (negative : Bool) (digits : List Char) : Reader Number := fun rest =>
  let (n, used, beyond) := gather 0 0 digits
  let exponent : Int := digits.length - used
  match rest with
  | '.' :: rest => do
    let (x, rest) ← readFraction negative n exponent rest
    .ok (.float x, rest)
  | 'e' :: rest => do
    let (x, rest) ← readExponent negative n exponent rest
    .ok (.float x, rest)
  | 'E' :: rest => do
    let (x, rest) ← readExponent negative n exponent rest
    .ok (.float x, rest)
  | _ =>
    if beyond then do
      let x ← assemble negative n exponent
      .ok (.float x, rest)
    else do
      let n ← wholeNumber negative n
      .ok (n, rest)

theorem head?_any_isDigit {text : List Char} (htext : ∀ c ∈ text.head?, c.isDigit = false) :
    text.head?.any Char.isDigit = false := by
  rcases text with _ | ⟨c, rest⟩
  · rfl
  · exact htext c rfl

theorem readNumber_append (negative : Bool) (whole : Whole) {text : List Char}
    (htext : ∀ c ∈ text.head?, c.isDigit = false) :
    readNumber negative (whole.chars ++ text) = readTail negative whole.chars text := by
  have hspan := spanDigits_append whole.toDigits htext
  obtain ⟨⟨chars, hne, hdigits⟩, hleading⟩ := whole
  obtain ⟨c, rest, rfl⟩ := List.exists_cons_of_ne_nil hne
  have hc : c.isDigit = true := hdigits c List.mem_cons_self
  by_cases hzero : c = '0'
  · subst hzero
    obtain rfl : rest = [] := by simpa using hleading rfl
    show (if text.head?.any Char.isDigit then _ else readTail negative ['0'] text) = _
    rw [head?_any_isDigit htext]
    rfl
  · unfold readNumber
    extract_lets afterWhole
    split
    · rename_i hnil
      cases hnil
    · rename_i hsame
      exact absurd (List.cons.inj hsame).1 hzero
    · rename_i hsame
      obtain ⟨rfl, -⟩ := List.cons.inj hsame
      rw [if_pos hc, hspan]
      rfl

theorem readTail_of_delimits (negative : Bool) (digits : List Char) {text : List Char}
    (h : Delimits text) :
    readTail negative digits text =
      let (n, used, beyond) := gather 0 0 digits
      (·, text) <$> if beyond then .float <$> assemble negative n (digits.length - used)
        else wholeNumber negative n := by
  unfold readTail
  rcases gather 0 0 digits with ⟨n, used, beyond⟩
  dsimp only
  split
  · exact absurd rfl (h.not_point rfl).1
  · exact absurd rfl (h.not_point rfl).2.1
  · exact absurd rfl (h.not_point rfl).2.2
  · rcases beyond with _ | _
    · exact (map_eq_pure_bind _ _).symm
    · simp only [if_true, map_eq_pure_bind, bind_assoc]
      rfl

theorem readNumber_whole {whole : Whole} (h : Numeral.value whole.chars ≤ maxWhole) (negative : Bool)
    {text : List Char} (htext : Delimits text) :
    readNumber negative (whole.chars ++ text) = (do
      let number ← wholeNumber negative (Numeral.value whole.chars)
      .ok (number, text)) := by
  have hgather : gather 0 0 whole.chars =
      (Numeral.value whole.chars, 0 + whole.chars.length, false) := gather_eq h
  rw [readNumber_append negative whole htext.not_isDigit, readTail_of_delimits negative _ htext, hgather]
  exact map_eq_pure_bind _ _

/-- A whole number of a JSON value is within 64 bits, with or without a sign. -/
def Number.Fits : Number → Prop
  | .whole n => -((UInt64.size / 2 : Nat) : Int) ≤ n ∧ n < UInt64.size
  | .float _ => True

theorem Number.Fits.natAbs_le {n : Int} (h : (Number.whole n).Fits) : n.natAbs ≤ maxWhole := by
  have hmax : maxWhole = 2 ^ 64 - 1 := rfl
  have hsize : UInt64.size = 2 ^ 64 := rfl
  obtain ⟨hlow, hhigh⟩ := h
  omega

theorem fits_of_wholeNumber {negative : Bool} {n : Nat} {number : Number} (h : n ≤ maxWhole)
    (hnumber : wholeNumber negative n = .ok number) : number.Fits := by
  have hmax : maxWhole = 2 ^ 64 - 1 := rfl
  have hhalf : UInt64.size / 2 = 2 ^ 63 := rfl
  unfold wholeNumber at hnumber
  split_ifs at hnumber with hpositive hrange
  · cases hnumber
    exact ⟨by omega, by omega⟩
  · rcases hfloat : assemble true n 0 with fault | x
    · rw [hfloat] at hnumber
      cases hnumber
    · rw [hfloat] at hnumber
      cases hnumber
      trivial
  · cases hnumber
    rw [hhalf] at hrange
    exact ⟨by omega, by omega⟩

theorem wholeNumber_natAbs {n : Int} (h : (Number.whole n).Fits) :
    wholeNumber (decide (n < 0)) n.natAbs = .ok (.whole n) := by
  have hhalf : UInt64.size / 2 = 2 ^ 63 := rfl
  obtain ⟨hlow, hhigh⟩ := h
  unfold wholeNumber
  rcases Int.lt_or_le n 0 with hneg | hpos
  · rw [decide_eq_true hneg, if_neg (by simp), if_neg (by rw [hhalf]; omega)]
    congr 2
    omega
  · rw [decide_eq_false (Int.not_lt.mpr hpos), if_pos rfl]
    congr 2
    omega

theorem fits_of_float {read : Except Fault (Decimal.Binary64 × List Char)} {rest : List Char}
    {number : Number} (h : (do
      let (x, after) ← read
      Except.ok (Number.float x, after)) = .ok (number, rest)) : number.Fits := by
  obtain ⟨x, -, h⟩ := bind_eq_ok_iff.mp h
  cases h
  trivial

theorem fits_of_readNumber {negative : Bool} {text rest : List Char} {number : Number}
    (h : readNumber negative text = .ok (number, rest)) : number.Fits := by
  unfold readNumber at h
  extract_lets afterWhole at h
  have hafter : ∀ digits more, afterWhole digits more = .ok (number, rest) → number.Fits := by
    intro digits more hmore
    have hle : (gather 0 0 digits).1 ≤ maxWhole := gather_fst_le (by omega) 0 digits
    rcases hgather : gather 0 0 digits with ⟨n, used, beyond⟩
    simp only [afterWhole, hgather] at hmore
    rw [hgather] at hle
    split at hmore
    · exact fits_of_float hmore
    · exact fits_of_float hmore
    · exact fits_of_float hmore
    · split at hmore
      · obtain ⟨x, -, hmore⟩ := bind_eq_ok_iff.mp hmore
        cases hmore
        trivial
      · obtain ⟨found, hfound, hmore⟩ := bind_eq_ok_iff.mp hmore
        cases hmore
        exact fits_of_wholeNumber hle hfound
  split at h
  · cases h
  · rename_i more
    split at h
    · cases h
    · exact hafter ['0'] more h
  · split at h
    · exact hafter _ _ h
    · cases h

section Entries

variable {text start rest : List Char} {c : Char}

theorem nextItem_first (h : skipSpace text = c :: rest) (hc : c ≠ ']') :
    nextItem true text = .ok (some (c :: rest)) := by
  rw [nextItem, h]
  split
  · rename_i hnil
    cases hnil
  · rename_i hsame
    exact absurd (List.cons.inj hsame).1 hc
  · rename_i hsame
    rw [if_pos rfl, hsame]

theorem nextItem_comma (h : skipSpace text = ',' :: start) :
    nextItem false text =
      match skipSpace start with
      | [] => .error .endInValue
      | ']' :: _ => .error .trailingComma
      | rest => .ok (some rest) := by
  rw [nextItem, h]
  rfl

theorem nextItem_next (hcomma : skipSpace text = ',' :: start) (h : skipSpace start = c :: rest)
    (hc : c ≠ ']') : nextItem false text = .ok (some (c :: rest)) := by
  rw [nextItem_comma hcomma, h]
  split
  · rename_i hnil
    cases hnil
  · rename_i hsame
    exact absurd (List.cons.inj hsame).1 hc
  · rfl

theorem nextName_first (h : skipSpace text = '"' :: rest) :
    nextName true text = some <$> readStringBody rest := by
  rw [nextName, h]
  rfl

theorem nextName_comma (h : skipSpace text = ',' :: start) :
    nextName false text =
      match skipSpace start with
      | [] => .error .endInValue
      | '"' :: rest => some <$> readStringBody rest
      | '\x7d' :: _ => .error .trailingComma
      | _ => .error .keyNotString := by
  rw [nextName, h]
  rfl

theorem nextName_next (hcomma : skipSpace text = ',' :: start) (h : skipSpace start = '"' :: rest) :
    nextName false text = some <$> readStringBody rest := by
  rw [nextName_comma hcomma, h]
  rfl

theorem closeList_comma (h : skipSpace text = ',' :: start) :
    closeList text =
      match skipSpace start with
      | ']' :: _ => .error .trailingComma
      | _ => .error .trailingText := by
  rw [closeList, h]
  rfl

end Entries

end Switchboard.Json
