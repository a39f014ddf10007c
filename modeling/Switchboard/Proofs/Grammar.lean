import Switchboard.Proofs.Records

/-!
What is taken off a text is JSON. Whatever a reader gives, the text began with a written value, and the rest
is what followed it; so it is for values that are only passed over.
-/

namespace Switchboard.Json

open Switchboard.Text

section Strings

variable {text rest : List Char} {bound : Nat}

theorem exists_of_readHexUnit {unit : Nat} (h : readHexUnit text = .ok (unit, rest)) :
    ∃ a b c d, text = a :: b :: c :: d :: rest ∧
      ∀ digit ∈ [a, b, c, d], (Numeral.hexValue? digit).isSome := by
  unfold readHexUnit at h
  split at h
  · split at h
    · rename_i ha hb hc hd
      cases h
      refine ⟨_, _, _, _, rfl, ?_⟩
      simp only [List.forall_mem_cons, ha, hb, hc, hd]
      exact ⟨rfl, rfl, rfl, rfl, nofun⟩
    · cases h
  · split_ifs at h

theorem exists_of_readUnicodeEscape {c : Char} (h : readUnicodeEscape text = .ok (c, rest)) :
    ∃ units, text = units ++ rest ∧
      ∀ chars, Quotable chars → Quotable ('\\' :: 'u' :: (units ++ chars)) := by
  obtain ⟨⟨unit, after⟩, hunit, -⟩ := bind_eq_ok_iff.mp h
  rw [readUnicodeEscape_of_readHexUnit hunit] at h
  obtain ⟨a, b, c, d, rfl, hdigits⟩ := exists_of_readHexUnit hunit
  split_ifs at h
  · cases h
    exact ⟨[a, b, c, d], rfl, fun chars hchars => .unit hdigits hchars⟩
  · unfold readSecond at h
    split at h
    · cases h
    · cases h
    · obtain ⟨⟨low, last⟩, hlow, hpair⟩ := bind_eq_ok_iff.mp h
      dsimp only at hpair
      split_ifs at hpair
      obtain ⟨-, rfl⟩ := Prod.mk.inj (Except.ok.inj hpair)
      obtain ⟨a', b', c', d', rfl, hdigits'⟩ := exists_of_readHexUnit hlow
      exact ⟨[a, b, c, d, '\\', 'u', a', b', c', d'], rfl,
        fun chars hchars => .unit hdigits (.unit hdigits' hchars)⟩
    · cases h

theorem mem_of_escaped? {letter : Char} (h : (escaped? letter).isSome) :
    letter ∈ ['"', '\\', '/', 'b', 'f', 'n', 'r', 't'] := by
  unfold escaped? at h
  split at h
  all_goals first
    | decide
    | cases h

theorem ne_backslash {c : Char} {more : List Char} (hend : c = '\\' → more = [] → False)
    (hescape : ∀ letter rest, c = '\\' → more = letter :: rest → False) : c ≠ '\\' := by
  intro hc
  rcases more with _ | ⟨letter, rest⟩
  · exact hend hc rfl
  · exact hescape letter rest hc rfl

/-- The characters of a string that is read, up to its closing quote, may stand between quotes. -/
theorem exists_of_readStringChars {cs : List Char} (h : readStringChars bound text = .ok (cs, rest)) :
    ∃ chars, Quotable chars ∧ text = chars ++ '"' :: rest := by
  induction bound generalizing text cs with
  | zero => cases h
  | succ bound ih =>
      unfold readStringChars at h
      split at h
      · cases h
      · cases h
        exact ⟨[], .nil, rfl⟩
      · cases h
      · obtain ⟨⟨c, after⟩, hescape, h⟩ := bind_eq_ok_iff.mp h
        obtain ⟨⟨others, _⟩, hmore, h⟩ := bind_eq_ok_iff.mp h
        cases h
        obtain ⟨units, rfl, hunits⟩ := exists_of_readUnicodeEscape hescape
        obtain ⟨chars, hchars, rfl⟩ := ih hmore
        exact ⟨_, hunits chars hchars, by simp⟩
      · split at h
        · cases h
        · rename_i hletter
          obtain ⟨⟨others, _⟩, hmore, h⟩ := bind_eq_ok_iff.mp h
          cases h
          obtain ⟨chars, hchars, rfl⟩ := ih hmore
          exact ⟨_, .escape (mem_of_escaped? (Option.isSome_of_eq_some hletter)) hchars, rfl⟩
      · rename_i c more hquote hend _ hescape
        split_ifs at h with hcontrol
        obtain ⟨⟨others, _⟩, hmore, h⟩ := bind_eq_ok_iff.mp h
        cases h
        have hbackslash := ne_backslash hend hescape
        obtain ⟨chars, hchars, rfl⟩ := ih hmore
        exact ⟨_, .plain (Nat.not_lt.mp hcontrol) hquote hbackslash hchars, rfl⟩

theorem exists_of_skimChars (h : skimChars bound text = .ok rest) :
    ∃ chars, Quotable chars ∧ text = chars ++ '"' :: rest := by
  induction bound generalizing text with
  | zero => cases h
  | succ bound ih =>
      unfold skimChars at h
      split at h
      · cases h
      · cases h
        exact ⟨[], .nil, rfl⟩
      · cases h
      · obtain ⟨⟨unit, after⟩, hunit, hmore⟩ := bind_eq_ok_iff.mp h
        obtain ⟨a, b, c, d, rfl, hdigits⟩ := exists_of_readHexUnit hunit
        obtain ⟨chars, hchars, rfl⟩ := ih hmore
        exact ⟨_, .unit hdigits hchars, rfl⟩
      · split_ifs at h with hletter
        obtain ⟨chars, hchars, rfl⟩ := ih h
        exact ⟨_, .escape (mem_of_escaped? hletter) hchars, rfl⟩
      · rename_i c more hquote hend _ hescape
        split_ifs at h with hcontrol
        have hbackslash := ne_backslash hend hescape
        obtain ⟨chars, hchars, rfl⟩ := ih h
        exact ⟨_, .plain (Nat.not_lt.mp hcontrol) hquote hbackslash hchars, rfl⟩

theorem exists_of_readStringBody {s : String} (h : readStringBody text = .ok (s, rest)) :
    ∃ s : Quotation, text = s.chars ++ '"' :: rest := by
  obtain ⟨⟨cs, _⟩, hread, h⟩ := bind_eq_ok_iff.mp h
  cases h
  obtain ⟨chars, hchars, rfl⟩ := exists_of_readStringChars hread
  exact ⟨⟨chars, hchars⟩, rfl⟩

theorem exists_of_skimString (h : skimString text = .ok rest) :
    ∃ s : Quotation, text = s.chars ++ '"' :: rest := by
  obtain ⟨chars, hchars, rfl⟩ := exists_of_skimChars h
  exact ⟨⟨chars, hchars⟩, rfl⟩

end Strings

section Numbers

variable {text rest : List Char} {negative : Bool}

theorem exists_digits_append (h : (spanDigits text).1 ≠ []) :
    ∃ digits : Digits, text = digits.chars ++ (spanDigits text).2 :=
  ⟨⟨_, h, fun _ hmem => List.mem_takeWhile_imp hmem⟩, List.takeWhile_append_dropWhile.symm⟩

theorem spanDigits_ne_nil {c : Char} {more : List Char} (hc : c.isDigit = true) :
    (spanDigits (c :: more)).1 ≠ [] := by
  rw [spanDigits, List.takeWhile_cons_of_pos hc]
  exact List.cons_ne_nil _ _

theorem exists_splitSign (text : List Char) :
    ∃ sign, (sign = [] ∨ sign = ['+'] ∨ sign = ['-']) ∧ text = sign ++ (splitSign text).2 := by
  unfold splitSign
  split
  · exact ⟨['+'], .inr (.inl rfl), rfl⟩
  · exact ⟨['-'], .inr (.inr rfl), rfl⟩
  · exact ⟨[], .inl rfl, rfl⟩

theorem exists_exponent_append {mark : Char} (hmark : mark = 'e' ∨ mark = 'E')
    (h : (spanDigits (splitSign text).2).1 ≠ []) :
    ∃ e : Exponent, mark :: text = e.text ++ (spanDigits (splitSign text).2).2 := by
  obtain ⟨sign, hsign, htext⟩ := exists_splitSign text
  obtain ⟨digits, hdigits⟩ := exists_digits_append h
  refine ⟨⟨mark, sign, digits, hmark, hsign⟩, ?_⟩
  rw [Exponent.text, List.cons_append, List.append_assoc, ← hdigits, ← htext]

theorem exists_of_readExponent {mark : Char} (hmark : mark = 'e' ∨ mark = 'E') {n : Nat} {exponent : Int}
    {x : Decimal.Binary64} (h : readExponent negative n exponent text = .ok (x, rest)) :
    ∃ e : Exponent, mark :: text = e.text ++ rest := by
  rw [readExponent_eq] at h
  split at h
  · cases h
  · rename_i c more hcons
    split at h
    · rename_i hc
      obtain ⟨_, -, h⟩ := bind_eq_ok_iff.mp h
      cases h
      exact exists_exponent_append hmark (hcons ▸ spanDigits_ne_nil hc)
    · cases h

theorem exists_of_skimExponent {mark : Char} (hmark : mark = 'e' ∨ mark = 'E')
    (h : skimExponent text = .ok rest) : ∃ e : Exponent, mark :: text = e.text ++ rest := by
  rw [skimExponent_eq] at h
  dsimp only at h
  split_ifs at h with hnone
  cases h
  exact exists_exponent_append hmark (by simpa using hnone)

def ScaleEnds (text rest : List Char) : Prop :=
  ∃ exponent : Option Exponent, text = exponent.elim [] Exponent.text ++ rest

theorem scaleEnds_of_readScale {n : Nat} {exponent : Int} {x : Decimal.Binary64}
    (h : readScale negative n exponent text = .ok (x, rest)) : ScaleEnds text rest := by
  unfold readScale at h
  split at h
  · obtain ⟨e, he⟩ := exists_of_readExponent (.inl rfl) h
    exact ⟨some e, he⟩
  · obtain ⟨e, he⟩ := exists_of_readExponent (.inr rfl) h
    exact ⟨some e, he⟩
  · obtain ⟨_, -, h⟩ := bind_eq_ok_iff.mp h
    cases h
    exact ⟨none, rfl⟩

theorem scaleEnds_of_skimTail (h : skimTail text = .ok rest) : ScaleEnds text rest := by
  unfold skimTail at h
  split at h
  · obtain ⟨e, he⟩ := exists_of_skimExponent (.inl rfl) h
    exact ⟨some e, he⟩
  · obtain ⟨e, he⟩ := exists_of_skimExponent (.inr rfl) h
    exact ⟨some e, he⟩
  · cases h
    exact ⟨none, rfl⟩

def TailEnds (text rest : List Char) : Prop :=
  ∀ (negative : Bool) (whole : Whole),
    ∃ n : Figures, n.negative = negative ∧ whole.chars ++ text = n.magnitude ++ rest

theorem ScaleEnds.tailEnds (h : ScaleEnds text rest) : TailEnds text rest := by
  obtain ⟨exponent, rfl⟩ := h
  intro negative whole
  exact ⟨⟨negative, whole, none, exponent⟩, rfl, (List.append_assoc _ _ _).symm⟩

theorem tailEnds_point (hdigits : (spanDigits text).1 ≠ []) (h : ScaleEnds (spanDigits text).2 rest) :
    TailEnds ('.' :: text) rest := by
  obtain ⟨digits, htext⟩ := exists_digits_append hdigits
  obtain ⟨exponent, hscale⟩ := h
  intro negative whole
  refine ⟨⟨negative, whole, some digits, exponent⟩, rfl, ?_⟩
  rw [htext, hscale]
  simp [Figures.magnitude, Figures.fractionText, Figures.exponentText]

theorem tailEnds_of_readFraction {n : Nat} {exponent : Int} {x : Decimal.Binary64}
    (h : readFraction negative n exponent text = .ok (x, rest)) : TailEnds ('.' :: text) rest := by
  unfold readFraction at h
  dsimp only at h
  split at h
  · split_ifs at h
  · rename_i hnone
    have hscale : readScale negative (gather n 0 (spanDigits text).1).1
        (exponent - (gather n 0 (spanDigits text).1).2.1) (spanDigits text).2 = .ok (x, rest) := h
    exact tailEnds_point (by simpa using hnone) (scaleEnds_of_readScale hscale)

theorem tailEnds_of_readTail {digits : List Char} {number : Number}
    (h : readTail negative digits text = .ok (number, rest)) : TailEnds text rest := by
  unfold readTail at h
  rcases gather 0 0 digits with ⟨n, used, beyond⟩
  dsimp only at h
  split at h
  · obtain ⟨⟨x, _⟩, hread, h⟩ := bind_eq_ok_iff.mp h
    cases h
    exact tailEnds_of_readFraction hread
  · obtain ⟨⟨x, _⟩, hread, h⟩ := bind_eq_ok_iff.mp h
    cases h
    obtain ⟨e, he⟩ := exists_of_readExponent (.inl rfl) hread
    exact ScaleEnds.tailEnds ⟨some e, he⟩
  · obtain ⟨⟨x, _⟩, hread, h⟩ := bind_eq_ok_iff.mp h
    cases h
    obtain ⟨e, he⟩ := exists_of_readExponent (.inr rfl) hread
    exact ScaleEnds.tailEnds ⟨some e, he⟩
  · refine ScaleEnds.tailEnds ⟨none, ?_⟩
    split_ifs at h
    · obtain ⟨_, -, h⟩ := bind_eq_ok_iff.mp h
      cases h
      rfl
    · obtain ⟨_, -, h⟩ := bind_eq_ok_iff.mp h
      cases h
      rfl

theorem tailEnds_of_skimAfter (h : skimAfter text = .ok rest) : TailEnds text rest := by
  unfold skimAfter at h
  split at h
  · dsimp only at h
    split_ifs at h with hnone
    exact tailEnds_point (by simpa using hnone) (scaleEnds_of_skimTail h)
  · exact (scaleEnds_of_skimTail h).tailEnds

theorem exists_whole_append (hzero : text.head? ≠ some '0') (h : (spanDigits text).1 ≠ []) :
    ∃ whole : Whole, text = whole.chars ++ (spanDigits text).2 := by
  obtain ⟨digits, htext⟩ := exists_digits_append h
  have hhead : text.head? = digits.chars.head? := by
    rw [htext]
    exact List.head?_append_of_ne_nil _ digits.nonempty
  exact ⟨⟨digits, fun hfirst => absurd (hhead.trans hfirst) hzero⟩, htext⟩

theorem exists_of_readNumber {number : Number} (h : readNumber negative text = .ok (number, rest)) :
    ∃ n : Figures, n.negative = negative ∧ text = n.magnitude ++ rest := by
  unfold readNumber at h
  extract_lets afterWhole at h
  have hafter : afterWhole = readTail negative := rfl
  rw [hafter] at h
  split at h
  · cases h
  · split_ifs at h
    exact tailEnds_of_readTail h negative (Whole.ofNat 0)
  · rename_i c more hzero
    split_ifs at h with hc
    have hhead : (c :: more).head? ≠ some '0' := fun hhead => hzero (Option.some.inj hhead)
    obtain ⟨whole, htext⟩ := exists_whole_append hhead (spanDigits_ne_nil hc)
    rw [htext]
    exact tailEnds_of_readTail h negative whole

theorem exists_of_skimNumber (h : skimNumber text = .ok rest) (negative : Bool) :
    ∃ n : Figures, n.negative = negative ∧ text = n.magnitude ++ rest := by
  unfold skimNumber at h
  extract_lets afterWhole at h
  have hafter : afterWhole = skimAfter := rfl
  rw [hafter] at h
  split at h
  · split_ifs at h
    exact tailEnds_of_skimAfter h negative (Whole.ofNat 0)
  · rename_i hzero
    dsimp only at h
    split_ifs at h with hnone
    have hhead : text.head? ≠ some '0' := by
      intro hhead
      obtain ⟨more, hmore⟩ := List.head?_eq_some_iff.mp hhead
      exact hzero more hmore
    obtain ⟨whole, htext⟩ := exists_whole_append hhead (by simpa using hnone)
    rw [htext]
    exact tailEnds_of_skimAfter h negative whole

end Numbers

open Written

/-- A text begins with some written value and goes on with the rest. -/
def ValueBegins (text rest : List Char) : Prop :=
  ∃ value : Written, value.Begins text rest

section Leaves

variable {text rest more : List Char}

theorem eq_append_of_readWord {word : List Char} (h : readWord word text = .ok rest) :
    text = word ++ rest := by
  induction word generalizing text with
  | nil =>
      cases h
      rfl
  | cons c word ih =>
      rcases text with _ | ⟨d, text⟩
      · cases h
      · rw [readWord] at h
        split_ifs at h with hsame
        rw [hsame, ih h, List.cons_append]

theorem token_of_readWord {c : Char} {word : List Char} (h : skipSpace text = c :: more)
    (hword : readWord word more = .ok rest) : Token (c :: word) text rest := by
  rw [Token, h, eq_append_of_readWord hword, List.cons_append]

theorem Quotation.token_quoted {s : Quotation} (h : skipSpace text = '"' :: (s.chars ++ '"' :: rest)) :
    Token s.quoted text rest := by
  rw [Token, h, s.quoted_append]

theorem valueBegins_string (h : skipSpace text = '"' :: more)
    (hstring : ∃ s : Quotation, more = s.chars ++ '"' :: rest) : ValueBegins text rest := by
  obtain ⟨s, rfl⟩ := hstring
  exact ⟨.string s, Quotation.token_quoted h⟩

theorem valueBegins_minus (h : skipSpace text = '-' :: more)
    (hnumber : ∃ n : Figures, n.negative = true ∧ more = n.magnitude ++ rest) : ValueBegins text rest := by
  obtain ⟨n, hnegative, rfl⟩ := hnumber
  refine ⟨.number n, ?_⟩
  rw [Begins, Token, h, n.text_append, if_pos hnegative]

theorem valueBegins_digit (h : skipSpace text = more)
    (hnumber : ∃ n : Figures, n.negative = false ∧ more = n.magnitude ++ rest) : ValueBegins text rest := by
  obtain ⟨n, hnegative, rfl⟩ := hnumber
  refine ⟨.number n, ?_⟩
  rw [Begins, Token, h, n.text_append, if_neg (by rw [hnegative]; exact Bool.false_ne_true)]

end Leaves

/-- Nothing but written values is taken off a text by the reader. -/
def Sound {α : Type} (reader : Reader α) : Prop :=
  ∀ text a rest, reader text = .ok (a, rest) → ValueBegins text rest

section Containers

variable {α σ : Type} {first : Bool} {text rest close : List Char} {bound : Nat}

theorem exists_lead_of_nextItem {next : List Char} (h : nextItem first text = .ok (some next)) :
    ∃ start, Lead first text start ∧ next = skipSpace start := by
  unfold nextItem at h
  split at h
  · cases h
  · cases h
  · rename_i c more _ hcons
    cases first with
    | true =>
        cases h
        exact ⟨text, rfl, hcons.symm⟩
    | false =>
        rw [if_neg Bool.false_ne_true] at h
        split at h
        · rename_i hcomma
          subst hcomma
          split at h
          · cases h
          · cases h
          · cases h
            exact ⟨more, hcons, rfl⟩
        · cases h

theorem token_of_closeList (h : closeList text = .ok rest) : Token [']'] text rest := by
  unfold closeList at h
  split at h
  · cases h
  · rename_i hclose
    cases h
    exact hclose
  · split at h
    · cases h
    · cases h
  · cases h

theorem exists_lead_of_nextName {name : String} {colon : List Char}
    (h : nextName first text = .ok (some (name, colon))) :
    ∃ start, ∃ quotation : Quotation, Lead first text start ∧ Token quotation.quoted start colon := by
  have hquoted {start more : List Char} (hstart : skipSpace start = '"' :: more)
      (hname : some <$> readStringBody more = .ok (some (name, colon))) :
      ∃ quotation : Quotation, Token quotation.quoted start colon := by
    obtain ⟨_, hread, hsame⟩ := map_eq_ok_iff.mp hname
    obtain rfl := Option.some.inj hsame
    obtain ⟨quotation, rfl⟩ := exists_of_readStringBody hread
    exact ⟨quotation, Quotation.token_quoted hstart⟩
  unfold nextName at h
  split at h
  · cases h
  · cases h
  · rename_i c more _ hcons
    cases first with
    | true =>
        rw [if_pos rfl] at h
        split_ifs at h with hquote
        obtain ⟨quotation, htoken⟩ := hquoted (hquote ▸ hcons) h
        exact ⟨text, quotation, rfl, htoken⟩
    | false =>
        rw [if_neg Bool.false_ne_true] at h
        split at h
        · rename_i hcomma
          subst hcomma
          split at h
          · cases h
          · rename_i hstart
            obtain ⟨quotation, htoken⟩ := hquoted hstart h
            exact ⟨more, quotation, hcons, htoken⟩
          · cases h
          · cases h
        · cases h

theorem token_of_readColon (h : readColon text = .ok rest) : Token [':'] text rest := by
  unfold readColon at h
  split at h
  · cases h
  · rename_i hcolon
    cases h
    exact hcolon
  · cases h

theorem token_of_closeObject (h : closeObject text = .ok rest) : Token ['\x7d'] text rest := by
  unfold closeObject at h
  split at h
  · cases h
  · rename_i hclose
    cases h
    exact hclose
  · cases h
  · cases h

theorem itemsBegin_nil (first : Bool) (text : List Char) : ItemsBegin first [] text text := by
  rw [ItemsBegin]

theorem membersBegin_nil (first : Bool) (text : List Char) : MembersBegin first [] text text := by
  rw [MembersBegin]

theorem itemsBegin_of_readItems {item : Reader α} (hitem : Sound item) {all : List α}
    (h : readItems item bound first text = .ok (all, close)) :
    ∃ items, ItemsBegin first items text close := by
  induction bound generalizing first text all with
  | zero => cases h
  | succ bound ih =>
      unfold readItems at h
      obtain ⟨next, hnext, h⟩ := bind_eq_ok_iff.mp h
      rcases next with _ | next
      · cases h
        exact ⟨[], itemsBegin_nil first _⟩
      · obtain ⟨⟨a, after⟩, ha, h⟩ := bind_eq_ok_iff.mp h
        obtain ⟨⟨others, _⟩, hothers, h⟩ := bind_eq_ok_iff.mp h
        cases h
        obtain ⟨start, hlead, rfl⟩ := exists_lead_of_nextItem hnext
        obtain ⟨value, hvalue⟩ := hitem _ a after ha
        obtain ⟨items, hitems⟩ := ih hothers
        refine ⟨value :: items, ?_⟩
        rw [ItemsBegin]
        exact ⟨start, after, hlead, begins_skipSpace.mp hvalue, hitems⟩

theorem membersBegin_of_readMembers {member : σ → String → Except Fault (Reader σ)}
    (hmember : ∀ all name read, member all name = .ok read → Sound read) {all result : σ}
    (h : readMembers member bound first all text = .ok (result, close)) :
    ∃ members, MembersBegin first members text close := by
  induction bound generalizing first text all with
  | zero => cases h
  | succ bound ih =>
      unfold readMembers at h
      obtain ⟨next, hnext, h⟩ := bind_eq_ok_iff.mp h
      rcases next with _ | ⟨name, colon⟩
      · cases h
        exact ⟨[], membersBegin_nil first _⟩
      · obtain ⟨read, hread, h⟩ := bind_eq_ok_iff.mp h
        obtain ⟨valueStart, hcolon, h⟩ := bind_eq_ok_iff.mp h
        obtain ⟨⟨added, after⟩, hadded, h⟩ := bind_eq_ok_iff.mp h
        obtain ⟨start, quotation, hlead, hname⟩ := exists_lead_of_nextName hnext
        obtain ⟨value, hvalue⟩ := hmember all name read hread valueStart added after hadded
        obtain ⟨members, hmembers⟩ := ih h
        refine ⟨(quotation, value) :: members, ?_⟩
        rw [MembersBegin]
        exact ⟨start, colon, valueStart, after, hlead, hname, token_of_readColon hcolon, hvalue, hmembers⟩

theorem valueBegins_array {inner : List Char} {items : List Written} (h : skipSpace text = '[' :: inner)
    (hitems : ItemsBegin true items inner close) (hclose : Token [']'] close rest) :
    ValueBegins text rest := by
  refine ⟨.array items, ?_⟩
  rw [Begins]
  exact ⟨inner, close, h, hitems, hclose⟩

theorem valueBegins_object {inner : List Char} {members : List (Quotation × Written)}
    (h : skipSpace text = '\x7b' :: inner) (hmembers : MembersBegin true members inner close)
    (hclose : Token ['\x7d'] close rest) : ValueBegins text rest := by
  refine ⟨.object members, ?_⟩
  rw [Begins]
  exact ⟨inner, close, h, hmembers, hclose⟩

end Containers

section Skims

variable {skimItem : List Char → Except Fault (List Char)} {text rest : List Char} {bound : Nat}

theorem itemsBegin_of_skimItems (hitem : ∀ text rest, skimItem text = .ok rest → ValueBegins text rest)
    (h : skimItems skimItem bound text = .ok rest) :
    ∃ item items close, ItemsBegin true (item :: items) text close ∧ Token [']'] close rest := by
  induction bound generalizing text with
  | zero => cases h
  | succ bound ih =>
      unfold skimItems at h
      obtain ⟨after, hafter, h⟩ := bind_eq_ok_iff.mp h
      obtain ⟨item, hbegins⟩ := hitem text after hafter
      split at h
      · cases h
      · rename_i more hcomma
        obtain ⟨next, items, close, hmore, hclose⟩ := ih h
        refine ⟨item, next :: items, close, ?_, hclose⟩
        rw [ItemsBegin] at hmore ⊢
        obtain ⟨_, after', rfl, hnext, hmore⟩ := hmore
        refine ⟨text, after, rfl, hbegins, ?_⟩
        rw [ItemsBegin]
        exact ⟨more, after', hcomma, hnext, hmore⟩
      · rename_i hclose
        cases h
        refine ⟨item, [], after, ?_, hclose⟩
        simp only [ItemsBegin]
        exact ⟨text, after, rfl, hbegins, rfl⟩
      · cases h

theorem tokens_of_skimName (h : skimName text = .ok rest) :
    ∃ (quotation : Quotation) (colon : List Char), Token quotation.quoted text colon ∧
      Token [':'] colon rest := by
  unfold skimName at h
  split at h
  · cases h
  · rename_i hquote
    obtain ⟨colon, hname, hread⟩ := bind_eq_ok_iff.mp h
    obtain ⟨quotation, rfl⟩ := exists_of_skimString hname
    refine ⟨quotation, colon, Quotation.token_quoted hquote, ?_⟩
    split at hread
    · cases hread
    · rename_i hcolon
      cases hread
      exact hcolon
    · cases hread
  · cases h

theorem membersBegin_of_skimMembers
    (hitem : ∀ text rest, skimItem text = .ok rest → ValueBegins text rest)
    (h : skimMembers skimItem bound text = .ok rest) :
    ∃ member members close, MembersBegin true (member :: members) text close ∧
      Token ['\x7d'] close rest := by
  induction bound generalizing text with
  | zero => cases h
  | succ bound ih =>
      unfold skimMembers at h
      obtain ⟨valueStart, hname, h⟩ := bind_eq_ok_iff.mp h
      obtain ⟨after, hafter, h⟩ := bind_eq_ok_iff.mp h
      obtain ⟨quotation, colon, hname, hcolon⟩ := tokens_of_skimName hname
      obtain ⟨value, hbegins⟩ := hitem valueStart after hafter
      split at h
      · cases h
      · rename_i more hcomma
        obtain ⟨⟨name, next⟩, members, close, hmore, hclose⟩ := ih h
        refine ⟨(quotation, value), (name, next) :: members, close, ?_, hclose⟩
        rw [MembersBegin] at hmore ⊢
        obtain ⟨_, colon', valueStart', after', rfl, hnext⟩ := hmore
        refine ⟨text, colon, valueStart, after, rfl, hname, hcolon, hbegins, ?_⟩
        rw [MembersBegin]
        exact ⟨more, colon', valueStart', after', hcomma, hnext⟩
      · rename_i hclose
        cases h
        refine ⟨(quotation, value), [], after, ?_, hclose⟩
        simp only [MembersBegin]
        exact ⟨text, colon, valueStart, after, rfl, hname, hcolon, hbegins, rfl⟩
      · cases h

/-- Nothing but written values is passed over. -/
theorem valueBegins_of_skimWithin {room : Nat} (h : skimWithin room text = .ok rest) :
    ValueBegins text rest := by
  -- The values within a container are passed over with less room, so the induction is on the room.
  induction room using Nat.strongRecOn generalizing text rest with
  | _ room ih =>
      unfold skimWithin at h
      split at h
      · cases h
      · rename_i hhead
        exact ⟨.null, token_of_readWord hhead h⟩
      · rename_i hhead
        exact ⟨.bool true, token_of_readWord hhead h⟩
      · rename_i hhead
        exact ⟨.bool false, token_of_readWord hhead h⟩
      · rename_i hhead
        exact valueBegins_string hhead (exists_of_skimString h)
      · rename_i hhead
        exact valueBegins_minus hhead (exists_of_skimNumber h true)
      · rename_i inner hhead
        split at h
        · cases h
        · rename_i room
          split at h
          · cases h
          · rename_i hclose
            cases h
            exact valueBegins_array hhead (itemsBegin_nil true inner) hclose
          · obtain ⟨item, items, close, hitems, hclose⟩ :=
              itemsBegin_of_skimItems (fun _ _ => ih room (Nat.lt_succ_self room)) h
            exact valueBegins_array hhead (itemsBegin_skipSpace.mp hitems) hclose
      · rename_i inner hhead
        split at h
        · cases h
        · rename_i room
          split at h
          · cases h
          · rename_i hclose
            cases h
            exact valueBegins_object hhead (membersBegin_nil true inner) hclose
          · obtain ⟨member, members, close, hmembers, hclose⟩ :=
              membersBegin_of_skimMembers (fun _ _ => ih room (Nat.lt_succ_self room)) h
            exact valueBegins_object hhead (membersBegin_skipSpace.mp hmembers) hclose
      · rename_i hhead
        split_ifs at h
        exact valueBegins_digit hhead (exists_of_skimNumber h false)

theorem valueBegins_of_skim (h : skim text = .ok rest) : ValueBegins text rest :=
  valueBegins_of_skimWithin h

end Skims

section Readers

variable {α β : Type} {text rest : List Char} {room : Nat}

theorem Sound.map {reader : Reader α} (h : Sound reader) (f : α → β) :
    Sound (fun text => do
      let (a, rest) ← reader text
      .ok (f a, rest)) := by
  intro text b rest hread
  obtain ⟨⟨a, _⟩, ha, hread⟩ := bind_eq_ok_iff.mp hread
  cases hread
  exact h text a _ ha

theorem sound_readString (expected : String) : Sound (readString expected) := by
  intro text s rest h
  unfold readString at h
  split at h
  · rename_i hhead
    exact valueBegins_string hhead (exists_of_readStringBody h)
  · cases h

theorem sound_readNatural (expected : String) : Sound (readNatural expected) := by
  intro text n rest h
  rw [readNatural_eq] at h
  dsimp only at h
  split at h
  · rename_i hhead
    obtain ⟨⟨number, _⟩, hnumber, h⟩ := bind_eq_ok_iff.mp h
    obtain ⟨_, -, hsame⟩ := map_eq_ok_iff.mp h
    cases hsame
    exact valueBegins_minus hhead (exists_of_readNumber hnumber)
  · rename_i hhead
    split at h
    · obtain ⟨⟨number, _⟩, hnumber, h⟩ := bind_eq_ok_iff.mp h
      obtain ⟨_, -, hsame⟩ := map_eq_ok_iff.mp h
      cases hsame
      exact valueBegins_digit hhead (exists_of_readNumber hnumber)
    · cases h
  · cases h

theorem sound_readList {item : Nat → Reader α} (hitem : ∀ room, Sound (item room)) (room : Nat) :
    Sound (readList item room) := by
  intro text all rest h
  unfold readList at h
  split at h
  · rename_i hhead
    split at h
    · cases h
    · obtain ⟨⟨items, close⟩, hitems, h⟩ := bind_eq_ok_iff.mp h
      obtain ⟨_, hclose, h⟩ := bind_eq_ok_iff.mp h
      cases h
      obtain ⟨_, hbegin⟩ := itemsBegin_of_readItems (hitem _) hitems
      exact valueBegins_array hhead hbegin (token_of_closeList hclose)
  · cases h

theorem sound_readValue (room : Nat) : Sound (readValue room) := by
  induction room using Nat.strongRecOn with
  | _ room ih =>
      intro text value rest h
      unfold readValue at h
      split at h
      · cases h
      · rename_i hhead
        obtain ⟨_, hword, h⟩ := bind_eq_ok_iff.mp h
        cases h
        exact ⟨.null, token_of_readWord hhead hword⟩
      · rename_i hhead
        obtain ⟨_, hword, h⟩ := bind_eq_ok_iff.mp h
        cases h
        exact ⟨.bool true, token_of_readWord hhead hword⟩
      · rename_i hhead
        obtain ⟨_, hword, h⟩ := bind_eq_ok_iff.mp h
        cases h
        exact ⟨.bool false, token_of_readWord hhead hword⟩
      · rename_i hhead
        obtain ⟨⟨s, _⟩, hstring, h⟩ := bind_eq_ok_iff.mp h
        cases h
        exact valueBegins_string hhead (exists_of_readStringBody hstring)
      · rename_i hhead
        obtain ⟨⟨n, _⟩, hnumber, h⟩ := bind_eq_ok_iff.mp h
        cases h
        exact valueBegins_minus hhead (exists_of_readNumber hnumber)
      · rename_i hhead
        split at h
        · cases h
        · rename_i room
          obtain ⟨⟨items, close⟩, hitems, h⟩ := bind_eq_ok_iff.mp h
          obtain ⟨_, hclose, h⟩ := bind_eq_ok_iff.mp h
          cases h
          obtain ⟨_, hbegin⟩ := itemsBegin_of_readItems (ih room (Nat.lt_succ_self room)) hitems
          exact valueBegins_array hhead hbegin (token_of_closeList hclose)
      · rename_i inner hhead
        split at h
        · cases h
        · rename_i room
          obtain ⟨⟨members, close⟩, hmembers, h⟩ := bind_eq_ok_iff.mp h
          obtain ⟨_, hclose, h⟩ := bind_eq_ok_iff.mp h
          cases h
          have hvalue := ih room (Nat.lt_succ_self room)
          obtain ⟨_, hbegin⟩ : ∃ written, MembersBegin true written inner close := by
            refine membersBegin_of_readMembers ?_ hmembers
            rintro all name _ ⟨⟩
            exact hvalue.map (putMember name · all)
          exact valueBegins_object hhead hbegin (token_of_closeObject hclose)
      · rename_i hhead
        split at h
        · obtain ⟨⟨n, _⟩, hnumber, h⟩ := bind_eq_ok_iff.mp h
          cases h
          exact valueBegins_digit hhead (exists_of_readNumber hnumber)
        · cases h

theorem token_of_readUnit (h : readUnit text = .ok rest) : Token ['n', 'u', 'l', 'l'] text rest := by
  unfold readUnit at h
  split at h
  · rename_i hhead
    exact token_of_readWord hhead h
  · cases h

theorem token_of_closeSole {a b : α} (h : closeSole a text = .ok (b, rest)) :
    Token ['\x7d'] text rest := by
  unfold closeSole at h
  split at h
  · cases h
  · rename_i hclose
    cases h
    exact hclose
  · cases h

theorem quoted_of_readFirstName {name : String} (h : readFirstName text = .ok (name, rest)) :
    ∃ quotation : Quotation, Token quotation.quoted text rest := by
  unfold readFirstName at h
  split at h
  · cases h
  · rename_i hhead
    obtain ⟨quotation, rfl⟩ := exists_of_readStringBody h
    exact ⟨quotation, Quotation.token_quoted hhead⟩
  · cases h
  · cases h

theorem valueBegins_of_readSoleName {choices : List (String × α)} {inner : List Char} {a : α}
    (hopen : Token ['\x7b'] text inner) (h : readSoleName choices inner = .ok (a, rest)) :
    ValueBegins text rest := by
  obtain ⟨⟨name, colon⟩, hname, h⟩ := bind_eq_ok_iff.mp h
  obtain ⟨_, -, h⟩ := bind_eq_ok_iff.mp h
  obtain ⟨valueStart, hcolon, h⟩ := bind_eq_ok_iff.mp h
  obtain ⟨close, hunit, hclose⟩ := bind_eq_ok_iff.mp h
  obtain ⟨quotation, hquoted⟩ := quoted_of_readFirstName hname
  have hmembers : MembersBegin true [(quotation, .null)] inner close := by
    simp only [MembersBegin]
    exact ⟨inner, colon, valueStart, close, rfl, hquoted, token_of_readColon hcolon,
      token_of_readUnit hunit, rfl⟩
  exact valueBegins_object hopen hmembers (token_of_closeSole hclose)

theorem sound_readName (choices : List (String × α)) (room : Nat) : Sound (readName choices room) := by
  intro text a rest h
  have hread := h
  unfold readName at hread
  split at hread
  · cases hread
  · rename_i hhead
    obtain ⟨⟨name, _⟩, hname, hread⟩ := bind_eq_ok_iff.mp hread
    obtain ⟨_, -, hread⟩ := bind_eq_ok_iff.mp hread
    cases hread
    exact valueBegins_string hhead (exists_of_readStringBody hname)
  · rename_i inner hhead
    rcases room with _ | room
    · cases hread
    · rw [readName_object room hhead] at h
      exact valueBegins_of_readSoleName hhead h
  · cases hread

end Readers

section Records

variable {α β : Type} {f : Field α} {g : Field β} {room : Nat} {text rest : List Char}

theorem sound_fieldMember (hf : Sound (f.read room)) (hg : Sound (g.read room))
    {found : Option α × Option β} {name : String} {read : Reader (Option α × Option β)}
    (h : fieldMember f g room found name = .ok read) : Sound read := by
  unfold fieldMember at h
  split_ifs at h
  · cases h
    exact hf.map (some ·, found.2)
  · cases h
    exact hg.map (found.1, some ·)
  · cases h
    intro text after rest hread
    obtain ⟨_, hskim, hread⟩ := bind_eq_ok_iff.mp hread
    cases hread
    exact valueBegins_of_skim hskim

theorem itemsBegin_of_readItem (hf : Sound (f.read room)) {title : String} {position : Nat} {first : Bool}
    {a : α} (h : f.readItem title position room first text = .ok (a, rest)) :
    (rest = text ∧ nextItem first text = .ok none) ∨
      ∃ start value, Lead first text start ∧ Begins value start rest := by
  obtain ⟨next, hnext, h⟩ := bind_eq_ok_iff.mp h
  rcases next with _ | next
  · dsimp only at h
    split at h
    · cases h
      exact .inl ⟨rfl, hnext⟩
    · cases h
  · obtain ⟨start, hlead, rfl⟩ := exists_lead_of_nextItem hnext
    obtain ⟨value, hvalue⟩ := hf _ a rest h
    exact .inr ⟨start, value, hlead, begins_skipSpace.mp hvalue⟩

theorem token_of_nextItem {first : Bool} (h : nextItem first text = .ok none) :
    ∃ rest, Token [']'] text rest := by
  unfold nextItem at h
  split at h
  · cases h
  · rename_i hclose
    exact ⟨_, hclose⟩
  · split at h
    · cases h
    · split at h
      · split at h
        · cases h
        · cases h
        · cases h
      · cases h

theorem sound_readRecord (hf : Sound (f.read room)) (hg : Sound (g.read room)) (title : String) :
    Sound (readRecord title f g (room + 1)) := by
  rintro text ⟨a, b⟩ rest h
  unfold readRecord at h
  split at h
  · rename_i inner hhead
    obtain ⟨⟨_, after⟩, ha, h⟩ := bind_eq_ok_iff.mp h
    obtain ⟨⟨_, close⟩, hb, h⟩ := bind_eq_ok_iff.mp h
    obtain ⟨_, hclose, h⟩ := bind_eq_ok_iff.mp h
    cases h
    have hclose := token_of_closeList hclose
    rcases itemsBegin_of_readItem hf ha with ⟨rfl, hend⟩ | ⟨start, value, hlead, hvalue⟩
    · obtain ⟨_, htoken⟩ := token_of_nextItem hend
      rcases itemsBegin_of_readItem hg hb with ⟨rfl, -⟩ | ⟨start, value, hlead, hvalue⟩
      · exact valueBegins_array hhead (itemsBegin_nil true _) hclose
      · cases hlead.symm.trans htoken
    · rcases itemsBegin_of_readItem hg hb with ⟨rfl, -⟩ | ⟨start', value', hlead', hvalue'⟩
      · have hone : ItemsBegin true [value] inner close := by
          simp only [ItemsBegin]
          exact ⟨start, close, hlead, hvalue, rfl⟩
        exact valueBegins_array hhead hone hclose
      · have hboth : ItemsBegin true [value, value'] inner close := by
          simp only [ItemsBegin]
          exact ⟨start, after, hlead, hvalue, start', close, hlead', hvalue', rfl⟩
        exact valueBegins_array hhead hboth hclose
  · rename_i inner hhead
    obtain ⟨⟨found, close⟩, hmembers, h⟩ := bind_eq_ok_iff.mp h
    obtain ⟨_, -, h⟩ := bind_eq_ok_iff.mp h
    obtain ⟨_, -, h⟩ := bind_eq_ok_iff.mp h
    obtain ⟨_, hclose, h⟩ := bind_eq_ok_iff.mp h
    cases h
    obtain ⟨_, hbegin⟩ := membersBegin_of_readMembers (fun _ _ _ => sound_fieldMember hf hg) hmembers
    exact valueBegins_object hhead hbegin (token_of_closeObject hclose)
  · cases h

end Records

/-- A text that is decoded is a written value with nothing but white space after it. -/
theorem exists_document_of_readAll {α : Type} {reader : Nat → Reader α} (h : Sound (reader maxDepth))
    {text : String} {a : α} (hread : readAll reader text = .ok a) :
    ∃ value : Written, value.Document text := by
  obtain ⟨⟨_, rest⟩, hvalue, hread⟩ := bind_eq_ok_iff.mp hread
  obtain ⟨value, hbegins⟩ := h _ _ rest hvalue
  dsimp only at hread
  split_ifs at hread with hend
  exact ⟨value, rest, hbegins, List.isEmpty_iff.mp hend⟩

end Switchboard.Json
