import Switchboard.Json.Skim
import Switchboard.Proofs.Written

namespace Switchboard.Json

open Switchboard.Text

section Strings

variable {chars rest : List Char} {bound : Nat}

theorem exists_readHexUnit {a b c d : Char}
    (h : ∀ digit ∈ [a, b, c, d], (Numeral.hexValue? digit).isSome) :
    ∃ unit, ∀ rest, readHexUnit (a :: b :: c :: d :: rest) = .ok (unit, rest) := by
  simp only [List.forall_mem_cons, Option.isSome_iff_exists] at h
  obtain ⟨⟨w, ha⟩, ⟨x, hb⟩, ⟨y, hc⟩, ⟨z, hd⟩, -⟩ := h
  refine ⟨((w * 16 + x) * 16 + y) * 16 + z, fun rest => ?_⟩
  rw [readHexUnit, ha, hb, hc, hd]

theorem escaped?_isSome {letter : Char} (h : letter ∈ ['"', '\\', '/', 'b', 'f', 'n', 'r', 't']) :
    letter ≠ 'u' ∧ (escaped? letter).isSome := by
  have hescaped : ['"', '\\', '/', 'b', 'f', 'n', 'r', 't'].all fun c => (escaped? c).isSome := by decide
  exact ⟨ne_of_mem_of_not_mem h (by decide), List.all_eq_true.mp hescaped letter h⟩

theorem skimChars_escape (bound : Nat) {letter : Char}
    (h : letter ∈ ['"', '\\', '/', 'b', 'f', 'n', 'r', 't']) (rest : List Char) :
    skimChars (bound + 1) ('\\' :: letter :: rest) = skimChars bound rest := by
  obtain ⟨hunit, hletter⟩ := escaped?_isSome h
  rw [skimChars]
  · rw [if_pos hletter]
  · exact hunit

theorem skimChars_plain (bound : Nat) {c : Char} (hcontrol : 0x20 ≤ c.toNat) (hquote : c ≠ '"')
    (hbackslash : c ≠ '\\') (rest : List Char) :
    skimChars (bound + 1) (c :: rest) = skimChars bound rest := by
  rw [skimChars]
  · rw [if_neg (Nat.not_lt.mpr hcontrol)]
  · exact hquote
  · exact fun hsame => absurd hsame hbackslash
  · exact fun _ hsame => absurd hsame hbackslash
  · exact fun _ _ hsame => absurd hsame hbackslash

theorem skimChars_quotable (h : Quotable chars) (hbound : chars.length < bound) :
    skimChars bound (chars ++ '"' :: rest) = .ok rest := by
  induction h generalizing bound with
  | nil =>
      obtain ⟨bound, rfl⟩ := Nat.exists_eq_add_one.mpr hbound
      rfl
  | plain hcontrol hquote hbackslash _ ih =>
      obtain ⟨bound, rfl⟩ := Nat.exists_eq_add_one.mpr (Nat.zero_lt_of_lt hbound)
      rw [List.cons_append, skimChars_plain bound hcontrol hquote hbackslash]
      exact ih (Nat.lt_of_succ_lt_succ hbound)
  | escape hletter _ ih =>
      obtain ⟨bound, rfl⟩ := Nat.exists_eq_add_one.mpr (Nat.zero_lt_of_lt hbound)
      rw [List.cons_append, List.cons_append, skimChars_escape bound hletter]
      refine ih ?_
      simp only [List.length_cons] at hbound
      omega
  | @unit a b c d rest' hdigits _ ih =>
      obtain ⟨bound, rfl⟩ := Nat.exists_eq_add_one.mpr (Nat.zero_lt_of_lt hbound)
      obtain ⟨unit, hunit⟩ := exists_readHexUnit hdigits
      show (readHexUnit (a :: b :: c :: d :: (rest' ++ '"' :: rest)) >>= _) = _
      rw [hunit]
      refine ih ?_
      simp only [List.length_cons] at hbound
      omega

theorem map_bind_ok {α β γ : Type} (f : α → β) (rest : γ) (x : Except Fault α) :
    ((·, rest) <$> x >>= fun (a, rest) => .ok (f a, rest)) = (·, rest) <$> f <$> x := by
  rcases x with fault | a
  · rfl
  · rfl

theorem readStringChars_escape {letter : Char}
    (h : letter ∈ ['"', '\\', '/', 'b', 'f', 'n', 'r', 't']) :
    ∃ c, ∀ bound rest, readStringChars (bound + 1) ('\\' :: letter :: rest) = (do
      let (cs, rest) ← readStringChars bound rest
      .ok (c :: cs, rest)) := by
  obtain ⟨hunit, hletter⟩ := escaped?_isSome h
  obtain ⟨c, hc⟩ := Option.isSome_iff_exists.mp hletter
  refine ⟨c, fun bound rest => ?_⟩
  rw [readStringChars]
  · rw [hc]
  · exact hunit

theorem readStringChars_plain (bound : Nat) {c : Char} (hcontrol : 0x20 ≤ c.toNat) (hquote : c ≠ '"')
    (hbackslash : c ≠ '\\') (rest : List Char) :
    readStringChars (bound + 1) (c :: rest) = (do
      let (cs, rest) ← readStringChars bound rest
      .ok (c :: cs, rest)) := by
  rw [readStringChars]
  · rw [if_neg (Nat.not_lt.mpr hcontrol)]
  · exact hquote
  · exact fun hsame => absurd hsame hbackslash
  · exact fun _ hsame => absurd hsame hbackslash
  · exact fun _ _ hsame => absurd hsame hbackslash

def readSecond (unit : Nat) : Reader Char
  | [] => .error .endInString
  | '\\' :: [] => .error .endInString
  | '\\' :: 'u' :: rest => do
    let (low, rest) ← readHexUnit rest
    if low < 0xdc00 || 0xdfff < low then .error .loneSurrogate
    else .ok (Char.ofNat ((unit - 0xd800) * 0x400 + (low - 0xdc00) + 0x10000), rest)
  | _ => .error .brokenPair

theorem readUnicodeEscape_of_readHexUnit {text : List Char} {unit : Nat}
    (h : readHexUnit text = .ok (unit, rest)) :
    readUnicodeEscape text =
      if 0xdc00 ≤ unit && unit ≤ 0xdfff then .error .loneSurrogate
      else if unit < 0xd800 || 0xdbff < unit then .ok (Char.ofNat unit, rest)
      else readSecond unit rest := by
  unfold readUnicodeEscape
  rw [h]
  rfl

theorem readSecond_plain {c : Char} (hbackslash : c ≠ '\\') (unit : Nat) (rest : List Char) :
    readSecond unit (c :: rest) = .error .brokenPair := by
  rw [readSecond]
  · exact nofun
  · exact fun hsame => absurd (List.cons.inj hsame).1 hbackslash
  · exact fun _ hsame => absurd (List.cons.inj hsame).1 hbackslash

theorem readSecond_escape {letter : Char} (hletter : letter ≠ 'u') (unit : Nat) (rest : List Char) :
    readSecond unit ('\\' :: letter :: rest) = .error .brokenPair := by
  rw [readSecond]
  · exact nofun
  · exact nofun
  · rintro _ ⟨⟩
    exact hletter rfl

/-- A pair of units is read alike whatever follows, and what is left of the string may again stand between
quotes. -/
theorem exists_readSecond (unit : Nat) (h : Quotable chars) :
    ∃ (x : Except Fault Char) (after : List Char), Quotable after ∧ after.length ≤ chars.length ∧
      ∀ rest, readSecond unit (chars ++ '"' :: rest) = (·, after ++ '"' :: rest) <$> x := by
  cases h with
  | nil => exact ⟨.error .brokenPair, [], .nil, Nat.le_refl _, readSecond_plain (by decide) unit⟩
  | plain hcontrol hquote hbackslash h =>
      exact ⟨.error .brokenPair, [], .nil, Nat.zero_le _, fun _ => readSecond_plain hbackslash unit _⟩
  | escape hletter h =>
      exact ⟨.error .brokenPair, [], .nil, Nat.zero_le _,
        fun _ => readSecond_escape (escaped?_isSome hletter).1 unit _⟩
  | @unit a b c d rest' hdigits h =>
      obtain ⟨low, hlow⟩ := exists_readHexUnit hdigits
      refine ⟨if low < 0xdc00 || 0xdfff < low then .error .loneSurrogate
        else .ok (Char.ofNat ((unit - 0xd800) * 0x400 + (low - 0xdc00) + 0x10000)), rest', h,
        by simp only [List.length_cons]; omega, fun rest => ?_⟩
      show (readHexUnit (a :: b :: c :: d :: (rest' ++ '"' :: rest)) >>= _) = _
      rw [hlow]
      show (if _ then _ else _) = _
      split
      · rfl
      · rfl

theorem exists_readUnicodeEscape {a b c d : Char}
    (hdigits : ∀ digit ∈ [a, b, c, d], (Numeral.hexValue? digit).isSome) (h : Quotable chars) :
    ∃ (x : Except Fault Char) (after : List Char), Quotable after ∧ after.length ≤ chars.length ∧
      ∀ rest, readUnicodeEscape (a :: b :: c :: d :: (chars ++ '"' :: rest)) =
        (·, after ++ '"' :: rest) <$> x := by
  obtain ⟨unit, hunit⟩ := exists_readHexUnit hdigits
  simp only [fun rest => readUnicodeEscape_of_readHexUnit (hunit rest)]
  split_ifs
  · exact ⟨.error .loneSurrogate, chars, h, Nat.le_refl _, fun _ => rfl⟩
  · exact ⟨.ok (Char.ofNat unit), chars, h, Nat.le_refl _, fun _ => rfl⟩
  · exact exists_readSecond unit h

/-- What is written between quotes is read alike whatever follows. The induction is on its length, since a
pair of units takes two steps of its structure. -/
theorem exists_readStringChars (h : Quotable chars) :
    ∃ x, ∀ bound rest, chars.length < bound →
      readStringChars bound (chars ++ '"' :: rest) = (·, rest) <$> x := by
  induction hlength : chars.length using Nat.strongRecOn generalizing chars with
  | _ length ih =>
      subst hlength
      cases h with
      | nil =>
          refine ⟨.ok [], fun bound rest hbound => ?_⟩
          obtain ⟨bound, rfl⟩ := Nat.exists_eq_add_one.mpr hbound
          rfl
      | @plain c rest' hcontrol hquote hbackslash h =>
          obtain ⟨x, hx⟩ := ih _ (Nat.lt_succ_self _) h rfl
          refine ⟨(c :: ·) <$> x, fun bound rest hbound => ?_⟩
          obtain ⟨bound, rfl⟩ := Nat.exists_eq_add_one.mpr (Nat.zero_lt_of_lt hbound)
          rw [List.cons_append, readStringChars_plain bound hcontrol hquote hbackslash,
            hx bound rest (Nat.lt_of_succ_lt_succ hbound)]
          exact map_bind_ok (c :: ·) rest x
      | @escape letter rest' hletter h =>
          obtain ⟨x, hx⟩ := ih rest'.length (by simp only [List.length_cons]; omega) h rfl
          obtain ⟨c, hc⟩ := readStringChars_escape hletter
          refine ⟨(c :: ·) <$> x, fun bound rest hbound => ?_⟩
          obtain ⟨bound, rfl⟩ := Nat.exists_eq_add_one.mpr (Nat.zero_lt_of_lt hbound)
          rw [List.cons_append, List.cons_append, hc bound,
            hx bound rest (Nat.lt_of_succ_lt (Nat.lt_of_succ_lt_succ hbound))]
          exact map_bind_ok (c :: ·) rest x
      | @unit a b c d rest' hdigits h =>
          obtain ⟨x, after, hafter, hle, hx⟩ := exists_readUnicodeEscape hdigits h
          obtain ⟨y, hy⟩ := ih after.length (by simp only [List.length_cons]; omega) hafter rfl
          refine ⟨x >>= fun c => (c :: ·) <$> y, fun bound rest hbound => ?_⟩
          obtain ⟨bound, rfl⟩ := Nat.exists_eq_add_one.mpr (Nat.zero_lt_of_lt hbound)
          show (readUnicodeEscape (a :: b :: c :: d :: (rest' ++ '"' :: rest)) >>= _) = _
          rw [hx, bind_map_left, map_bind]
          congr 1
          funext c
          show (readStringChars bound (after ++ '"' :: rest) >>= _) = _
          rw [hy bound rest (by simp only [List.length_cons] at hbound; omega)]
          exact map_bind_ok (c :: ·) rest y

/-- A written string is read alike whatever follows. -/
theorem Quotation.readStringBody_append (s : Quotation) (rest : List Char) :
    readStringBody (s.chars ++ '"' :: rest) = (·, rest) <$> s.reading := by
  obtain ⟨x, hx⟩ := exists_readStringChars s.quotable
  have hread : ∀ rest, readStringBody (s.chars ++ '"' :: rest) = (·, rest) <$> String.ofList <$> x := by
    intro rest
    rw [readStringBody, hx _ _ (by rw [List.length_append]; omega)]
    exact map_bind_ok String.ofList rest x
  have hreading : s.reading = String.ofList <$> x := by
    rw [Quotation.reading, hread []]
    rcases x with fault | cs
    · rfl
    · rfl
  rw [hread, hreading]

theorem Quotation.skimString_append (s : Quotation) (rest : List Char) :
    skimString (s.chars ++ '"' :: rest) = .ok rest :=
  skimChars_quotable s.quotable (by rw [List.length_append]; omega)

end Strings

section Numbers

variable {text rest : List Char}

theorem Figures.exponentText_append (n : Figures) (h : Delimits rest) :
    ∀ c ∈ (n.exponentText ++ rest).head?, c.isDigit = false ∧ c ≠ '.' := by
  intro c hc
  rcases hexponent : n.exponent with _ | e
  · rw [Figures.exponentText, hexponent] at hc
    exact ⟨h.not_isDigit c hc, (h.not_point hc).1⟩
  · rw [Figures.exponentText, hexponent] at hc
    obtain rfl : e.mark = c := Option.some.inj hc
    rcases e.mark_valid with hmark | hmark
    · rw [hmark]
      decide
    · rw [hmark]
      decide

/-- The sign in front of the digits of an exponent, whether it is a minus, and what comes after it. -/
def splitSign (text : List Char) : Bool × List Char :=
  match text with
  | '+' :: rest => (false, rest)
  | '-' :: rest => (true, rest)
  | _ => (false, text)

theorem skimExponent_eq (text : List Char) :
    skimExponent text =
      let (digits, rest) := spanDigits (splitSign text).2
      if digits.isEmpty then .error .invalidNumber else .ok rest := by
  have hsplit : (splitSign text).2 =
      match text with
      | '+' :: rest => rest
      | '-' :: rest => rest
      | _ => text := by
    unfold splitSign
    split <;> rfl
  rw [hsplit]
  rfl

theorem Exponent.splitSign_append (e : Exponent) (rest : List Char) :
    splitSign (e.sign ++ (e.digits.chars ++ rest)) =
      (decide (e.sign = ['-']), e.digits.chars ++ rest) := by
  rcases e.sign_valid with hsign | hsign | hsign
  · obtain ⟨c, more, hchars, hc⟩ := e.digits.exists_cons
    rw [hsign, hchars, List.nil_append, List.cons_append]
    unfold splitSign
    split
    · rename_i hsame
      obtain ⟨rfl, -⟩ := List.cons.inj hsame
      exact absurd hc (by decide)
    · rename_i hsame
      obtain ⟨rfl, -⟩ := List.cons.inj hsame
      exact absurd hc (by decide)
    · rfl
  · rw [hsign]
    rfl
  · rw [hsign]
    rfl

theorem Exponent.skimExponent_append (e : Exponent) (h : Delimits rest) :
    skimExponent (e.sign ++ (e.digits.chars ++ rest)) = .ok rest := by
  rw [skimExponent_eq, e.splitSign_append]
  dsimp only
  rw [spanDigits_append e.digits h.not_isDigit]
  exact if_neg (by simp [e.digits.nonempty])

theorem readExponent_eq (negative : Bool) (n : Nat) (exponent : Int) (text : List Char) :
    readExponent negative n exponent text =
      match (splitSign text).2 with
      | [] => .error .endInValue
      | c :: _ =>
        if c.isDigit then do
          let (digits, rest) := spanDigits (splitSign text).2
          let places : Int := Numeral.value digits
          let x ← assemble negative n
            (if (splitSign text).1 then exponent - places else exponent + places)
          .ok (x, rest)
        else .error .invalidNumber :=
  rfl

theorem Exponent.exists_readExponent (e : Exponent) (negative : Bool) (n : Nat) (exponent : Int) :
    ∃ x, ∀ rest, Delimits rest →
      readExponent negative n exponent (e.sign ++ (e.digits.chars ++ rest)) = (·, rest) <$> x := by
  obtain ⟨c, more, hchars, hc⟩ := e.digits.exists_cons
  let places : Int := Numeral.value e.digits.chars
  refine ⟨assemble negative n
    (if decide (e.sign = ['-']) then exponent - places else exponent + places), fun rest h => ?_⟩
  rw [readExponent_eq, e.splitSign_append]
  dsimp only
  rw [spanDigits_append e.digits h.not_isDigit]
  have hhead : e.digits.chars ++ rest = c :: (more ++ rest) := by rw [hchars, List.cons_append]
  rw [hhead]
  dsimp only
  rw [if_pos hc]
  exact (map_eq_pure_bind _ _).symm

theorem Figures.tail_not_isDigit (n : Figures) (h : Delimits rest) :
    ∀ c ∈ (n.fractionText ++ (n.exponentText ++ rest)).head?, c.isDigit = false := by
  unfold Figures.fractionText
  rcases n.fraction with _ | digits
  · exact fun c hc => (n.exponentText_append h c hc).1
  · rintro _ ⟨⟩
    rfl

theorem Figures.skimTail_append (n : Figures) (h : Delimits rest) :
    skimTail (n.exponentText ++ rest) = .ok rest := by
  unfold Figures.exponentText
  rcases n.exponent with _ | e
  · show skimTail rest = _
    unfold skimTail
    split
    · exact absurd rfl (h.not_point (c := 'e') rfl).2.1
    · exact absurd rfl (h.not_point (c := 'E') rfl).2.2
    · rfl
  · show skimTail (e.mark :: (e.sign ++ e.digits.chars ++ rest)) = _
    rw [List.append_assoc]
    rcases e.mark_valid with hmark | hmark
    · rw [hmark]
      exact e.skimExponent_append h
    · rw [hmark]
      exact e.skimExponent_append h

def skimAfter (text : List Char) : Except Fault (List Char) :=
  match text with
  | '.' :: rest =>
    let (digits, rest) := spanDigits rest
    if digits.isEmpty then .error .invalidNumber else skimTail rest
  | _ => skimTail text

theorem skimNumber_append (whole : Whole) (htext : ∀ c ∈ text.head?, c.isDigit = false) :
    skimNumber (whole.chars ++ text) = skimAfter text := by
  have hspan := spanDigits_append whole.toDigits htext
  obtain ⟨⟨chars, hne, hdigits⟩, hleading⟩ := whole
  obtain ⟨c, rest, rfl⟩ := List.exists_cons_of_ne_nil hne
  by_cases hzero : c = '0'
  · subst hzero
    obtain rfl : rest = [] := by simpa using hleading rfl
    show (if text.head?.any Char.isDigit then _ else skimAfter text) = _
    rw [head?_any_isDigit htext]
    rfl
  · unfold skimNumber
    extract_lets afterWhole
    split
    · rename_i hsame
      exact absurd (List.cons.inj hsame).1 hzero
    · rw [hspan]
      rfl

theorem Figures.skimNumber_append (n : Figures) (h : Delimits rest) :
    skimNumber (n.magnitude ++ rest) = .ok rest := by
  rw [Figures.magnitude, List.append_assoc, List.append_assoc,
    Json.skimNumber_append n.whole (n.tail_not_isDigit h)]
  unfold Figures.fractionText
  rcases n.fraction with _ | digits
  · show skimAfter (n.exponentText ++ rest) = _
    unfold skimAfter
    split
    · rename_i hpoint
      exact absurd rfl (n.exponentText_append h '.' (by rw [hpoint]; rfl)).2
    · exact n.skimTail_append h
  · have hspan := spanDigits_append digits fun c hc => (n.exponentText_append h c hc).1
    show (if (spanDigits (digits.chars ++ (n.exponentText ++ rest))).1.isEmpty then _
      else skimTail (spanDigits (digits.chars ++ (n.exponentText ++ rest))).2) = _
    rw [hspan, if_neg (by simp [digits.nonempty])]
    exact n.skimTail_append h

def readScale (negative : Bool) (n : Nat) (exponent : Int) : Reader Decimal.Binary64 := fun text =>
  match text with
  | 'e' :: rest => readExponent negative n exponent rest
  | 'E' :: rest => readExponent negative n exponent rest
  | _ => do
    let x ← assemble negative n exponent
    .ok (x, text)

theorem Figures.exists_readScale (n : Figures) (m : Nat) (exponent : Int) :
    ∃ x, ∀ rest, Delimits rest →
      readScale n.negative m exponent (n.exponentText ++ rest) = (·, rest) <$> x := by
  unfold Figures.exponentText
  rcases n.exponent with _ | e
  · refine ⟨assemble n.negative m exponent, fun rest h => ?_⟩
    show readScale n.negative m exponent rest = _
    unfold readScale
    split
    · exact absurd rfl (h.not_point (c := 'e') rfl).2.1
    · exact absurd rfl (h.not_point (c := 'E') rfl).2.2
    · exact (map_eq_pure_bind _ _).symm
  · obtain ⟨x, hx⟩ := e.exists_readExponent n.negative m exponent
    refine ⟨x, fun rest h => ?_⟩
    show readScale n.negative m exponent (e.mark :: (e.sign ++ e.digits.chars ++ rest)) = _
    rw [List.append_assoc]
    rcases e.mark_valid with hmark | hmark
    · rw [hmark]
      exact hx rest h
    · rw [hmark]
      exact hx rest h

theorem readFraction_append (digits : Digits) (negative : Bool) (n : Nat) (exponent : Int)
    (htext : ∀ c ∈ text.head?, c.isDigit = false) :
    readFraction negative n exponent (digits.chars ++ text) =
      let (n, used, _) := gather n 0 digits.chars
      readScale negative n (exponent - used) text := by
  unfold readFraction
  rw [spanDigits_append digits htext]
  dsimp only
  rw [if_neg (by simp [digits.nonempty])]
  rfl

theorem readTail_mark {mark : Char} (hmark : mark = 'e' ∨ mark = 'E') (negative : Bool)
    (digits rest : List Char) :
    readTail negative digits (mark :: rest) = (do
      let (n, used, _) := gather 0 0 digits
      let (x, rest) ← readExponent negative n (digits.length - used) rest
      .ok (.float x, rest)) := by
  rcases hmark with rfl | rfl
  · rfl
  · rfl

theorem readTail_point (negative : Bool) (digits rest : List Char) :
    readTail negative digits ('.' :: rest) = (do
      let (n, used, _) := gather 0 0 digits
      let (x, rest) ← readFraction negative n (digits.length - used) rest
      .ok (.float x, rest)) :=
  rfl

/-- A written number is read alike whatever follows. -/
theorem Figures.exists_readNumber (n : Figures) :
    ∃ x, ∀ rest, Delimits rest →
      readNumber n.negative (n.magnitude ++ rest) = (·, rest) <$> x := by
  rcases hgather : gather 0 0 n.whole.chars with ⟨m, used, beyond⟩
  have hread : ∀ rest, Delimits rest → readNumber n.negative (n.magnitude ++ rest) =
      readTail n.negative n.whole.chars (n.fractionText ++ (n.exponentText ++ rest)) := by
    intro rest h
    rw [Figures.magnitude, List.append_assoc, List.append_assoc]
    exact readNumber_append n.negative n.whole (n.tail_not_isDigit h)
  rcases hfraction : n.fraction with _ | digits
  · have hnone : n.fractionText = [] := by rw [Figures.fractionText, hfraction]; rfl
    simp only [hnone, List.nil_append] at hread
    rcases hexponent : n.exponent with _ | e
    · have hnone' : n.exponentText = [] := by rw [Figures.exponentText, hexponent]; rfl
      simp only [hnone', List.nil_append] at hread
      exact ⟨_, fun rest h => (hread rest h).trans (readTail_of_delimits n.negative _ h)⟩
    · have hsome : n.exponentText = e.text := by rw [Figures.exponentText, hexponent]; rfl
      simp only [hsome, Exponent.text, List.cons_append, List.append_assoc] at hread
      obtain ⟨x, hx⟩ := e.exists_readExponent n.negative m (n.whole.chars.length - used)
      refine ⟨.float <$> x, fun rest h => ?_⟩
      rw [hread rest h, readTail_mark e.mark_valid, hgather]
      show (readExponent n.negative m (n.whole.chars.length - used) _ >>= _) = _
      rw [hx rest h]
      exact map_bind_ok Number.float rest x
  · have hsome : n.fractionText = '.' :: digits.chars := by rw [Figures.fractionText, hfraction]; rfl
    simp only [hsome, List.cons_append] at hread
    rcases hgather' : gather m 0 digits.chars with ⟨m', used', beyond'⟩
    obtain ⟨x, hx⟩ := n.exists_readScale m' (n.whole.chars.length - used - used')
    refine ⟨.float <$> x, fun rest h => ?_⟩
    rw [hread rest h, readTail_point, hgather]
    show (readFraction n.negative m (n.whole.chars.length - used) _ >>= _) = _
    rw [readFraction_append digits _ _ _ fun c hc => (n.exponentText_append h c hc).1, hgather']
    show (readScale n.negative m' (n.whole.chars.length - used - used') _ >>= _) = _
    rw [hx rest h]
    exact map_bind_ok Number.float rest x

end Numbers

section Values

open Written

variable {skimItem : List Char → Except Fault (List Char)} {text rest close : List Char}
  {room bound : Nat}

theorem skimItems_of_itemsBegin {item : Written} {items : List Written}
    (hitems : ∀ value ∈ item :: items, ∀ start after, start.length < room →
      value.Begins start after → Delimits after → skimItem start = .ok after)
    (hroom : text.length < room) (hbound : items.length < bound)
    (h : ItemsBegin true (item :: items) text close) (hclose : Token [']'] close rest) :
    skimItems skimItem bound text = .ok rest := by
  induction items generalizing item text bound with
  | nil =>
      obtain ⟨bound, rfl⟩ := Nat.exists_eq_add_one.mpr hbound
      rw [ItemsBegin] at h
      obtain ⟨_, after, rfl, hitem, hnone⟩ := h
      have hskim := hitems item List.mem_cons_self _ _ hroom hitem (hnone.delimits hclose)
      rw [ItemsBegin] at hnone
      subst hnone
      rw [skimItems, hskim, ok_bind, hclose]
      rfl
  | cons next items ih =>
      obtain ⟨bound, rfl⟩ := Nat.exists_eq_add_one.mpr (Nat.zero_lt_of_lt hbound)
      rw [ItemsBegin] at h
      obtain ⟨_, after, rfl, hitem, hmore⟩ := h
      obtain ⟨hfirst, hothers⟩ := List.forall_mem_cons.mp hitems
      have hskim := hfirst _ _ hroom hitem (hmore.delimits hclose)
      rw [ItemsBegin] at hmore
      obtain ⟨start, after', hcomma, hnext, hmore⟩ := hmore
      have hshorter := hitem.length_lt
      have hshorter' := Token.length_lt hcomma
      rw [skimItems, hskim, ok_bind, hcomma]
      have hstart : start.length < room := by omega
      refine ih hothers hstart (Nat.lt_of_succ_lt_succ hbound) ?_
      rw [ItemsBegin]
      exact ⟨start, after', rfl, hnext, hmore⟩

theorem skimName_token (name : Quotation) {colon valueStart : List Char}
    (hname : Token name.quoted text colon) (hcolon : Token [':'] colon valueStart) :
    skimName text = .ok valueStart := by
  unfold skimName
  rw [hname, name.quoted_append]
  show (skimString (name.chars ++ '"' :: colon) >>= _) = _
  rw [name.skimString_append, ok_bind, hcolon]
  rfl

theorem skimMembers_of_membersBegin {member : Quotation × Written}
    {members : List (Quotation × Written)}
    (hmembers : ∀ other ∈ member :: members, ∀ start after, start.length < room →
      other.2.Begins start after → Delimits after → skimItem start = .ok after)
    (hroom : text.length < room) (hbound : members.length < bound)
    (h : MembersBegin true (member :: members) text close) (hclose : Token ['\x7d'] close rest) :
    skimMembers skimItem bound text = .ok rest := by
  induction members generalizing member text bound with
  | nil =>
      obtain ⟨bound, rfl⟩ := Nat.exists_eq_add_one.mpr hbound
      rw [MembersBegin] at h
      obtain ⟨_, colon, valueStart, after, rfl, hname, hcolon, hvalue, hnone⟩ := h
      have hshort := Token.length_lt hname
      have hshort' := Token.length_lt hcolon
      have hskim := hmembers member List.mem_cons_self valueStart after (by omega) hvalue
        (hnone.delimits hclose)
      rw [MembersBegin] at hnone
      subst hnone
      rw [skimMembers, skimName_token member.1 hname hcolon, ok_bind, hskim, ok_bind, hclose]
      rfl
  | cons next members ih =>
      obtain ⟨bound, rfl⟩ := Nat.exists_eq_add_one.mpr (Nat.zero_lt_of_lt hbound)
      rw [MembersBegin] at h
      obtain ⟨_, colon, valueStart, after, rfl, hname, hcolon, hvalue, hmore⟩ := h
      obtain ⟨hfirst, hothers⟩ := List.forall_mem_cons.mp hmembers
      have hshort := Token.length_lt hname
      have hshort' := Token.length_lt hcolon
      have hskim := hfirst valueStart after (by omega) hvalue (hmore.delimits hclose)
      rw [MembersBegin] at hmore
      obtain ⟨start, colon', valueStart', after', hcomma, hnext⟩ := hmore
      have hshorter := hvalue.length_lt
      have hshorter' := Token.length_lt hcomma
      rw [skimMembers, skimName_token member.1 hname hcolon, ok_bind, hskim, ok_bind, hcomma]
      have hstart : start.length < room := by omega
      refine ih hothers hstart (Nat.lt_of_succ_lt_succ hbound) ?_
      rw [MembersBegin]
      exact ⟨start, colon', valueStart', after', rfl, hnext⟩

theorem skimWithin_of_isDigit {c : Char} {more : List Char} (hc : c.isDigit = true)
    (h : skipSpace text = c :: more) (room : Nat) : skimWithin room text = skimNumber (c :: more) := by
  unfold skimWithin
  rw [h]
  split
  all_goals rename_i hsame; cases hsame
  all_goals first
    | exact absurd hc (by decide)
    | exact if_pos hc

theorem skimWithin_array (room : Nat) {inner : List Char} (h : Token ['['] text inner) :
    skimWithin (room + 1) text =
      match skipSpace inner with
      | [] => .error .endInList
      | ']' :: rest => .ok rest
      | rest => skimItems (skimWithin room) (rest.length + 1) rest := by
  rw [skimWithin, h]
  rfl

theorem skimWithin_object (room : Nat) {inner : List Char} (h : Token ['\x7b'] text inner) :
    skimWithin (room + 1) text =
      match skipSpace inner with
      | [] => .error .endInObject
      | '\x7d' :: rest => .ok rest
      | rest => skimMembers (skimWithin room) (rest.length + 1) rest := by
  rw [skimWithin, h]
  rfl

/-- Every written value is passed over to its end, whatever its strings and numbers are. There is room as
long as the text is shorter, since each container takes a character at least. -/
theorem skimWithin_of_begins {value : Written} (h : value.Begins text rest) (hrest : Delimits rest)
    (hroom : text.length < room) : skimWithin room text = .ok rest := by
  induction value using Written.induct generalizing room text rest with
  | null =>
      rw [Begins, Token] at h
      unfold skimWithin
      rw [h]
      rfl
  | bool b =>
      cases b with
      | false =>
          rw [Begins, Token] at h
          unfold skimWithin
          rw [h]
          rfl
      | true =>
          rw [Begins, Token] at h
          unfold skimWithin
          rw [h]
          rfl
  | number n =>
      have hskim : skimWithin room text = skimNumber (n.magnitude ++ rest) := by
        refine h.number_cases (fun _ => skimNumber) (fun text more hminus => ?_)
          fun text c more hc hdigit => skimWithin_of_isDigit hc hdigit room
        unfold skimWithin
        rw [hminus]
        rfl
      rw [hskim, n.skimNumber_append hrest]
  | string s =>
      rw [Begins, Token] at h
      unfold skimWithin
      rw [h, s.quoted_append]
      exact s.skimString_append rest
  | array items ih =>
      rw [Begins] at h
      obtain ⟨inner, close, hopen, hitems, hclose⟩ := h
      obtain ⟨room, rfl⟩ := Nat.exists_eq_add_one.mpr (Nat.zero_lt_of_lt hroom)
      have hinner := Token.length_lt hopen
      have hle := length_skipSpace_le inner
      rw [skimWithin_array room hopen]
      cases items with
      | nil =>
          rw [ItemsBegin] at hitems
          rw [hitems, hclose]
          rfl
      | cons item items =>
          rw [← itemsBegin_skipSpace] at hitems
          have hshort := hitems.length_add_le fun _ _ _ _ => Begins.length_lt
          obtain ⟨c, more, hcons, hc⟩ := hitems.exists_cons
          rw [skipSpace_skipSpace] at hcons
          have hroom' : (skipSpace inner).length < room := by omega
          have hbound : items.length < (skipSpace inner).length + 1 := by
            rw [List.length_cons] at hshort
            omega
          have hskim := skimItems_of_itemsBegin (fun value hmem _ _ hshort hvalue hafter =>
            ih value hmem hvalue hafter hshort) hroom' hbound hitems hclose
          split
          · rename_i hnil
            rw [hnil] at hcons
            cases hcons
          · rename_i hsame
            rw [hsame] at hcons
            exact absurd (List.cons.inj hcons).1.symm hc
          · exact hskim
  | object members ih =>
      rw [Begins] at h
      obtain ⟨inner, close, hopen, hmembers, hclose⟩ := h
      obtain ⟨room, rfl⟩ := Nat.exists_eq_add_one.mpr (Nat.zero_lt_of_lt hroom)
      have hinner := Token.length_lt hopen
      have hle := length_skipSpace_le inner
      rw [skimWithin_object room hopen]
      cases members with
      | nil =>
          rw [MembersBegin] at hmembers
          rw [hmembers, hclose]
          rfl
      | cons member members =>
          rw [← membersBegin_skipSpace] at hmembers
          have hshort := hmembers.length_add_le fun _ _ _ _ => Begins.length_lt
          obtain ⟨more, hcons⟩ := hmembers.exists_cons
          rw [skipSpace_skipSpace] at hcons
          have hroom' : (skipSpace inner).length < room := by omega
          have hbound : members.length < (skipSpace inner).length + 1 := by
            rw [List.length_cons] at hshort
            omega
          have hskim := skimMembers_of_membersBegin (fun member hmem _ _ hshort hvalue hafter =>
            ih member hmem hvalue hafter hshort) hroom' hbound hmembers hclose
          rw [hcons] at hskim ⊢
          exact hskim

theorem skim_of_begins {value : Written} (h : value.Begins text rest) (hrest : Delimits rest) :
    skim text = .ok rest :=
  skimWithin_of_begins h hrest (Nat.lt_succ_self _)

end Values

end Switchboard.Json
