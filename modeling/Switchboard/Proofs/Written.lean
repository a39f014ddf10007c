import Mathlib.Data.List.DropRight
import Switchboard.Json.Reader
import Switchboard.Proofs.Lexemes

/-!
JSON values as they are written: what a JSON text says when the white space between its tokens is left out
of account. Strings keep their escapes, numbers their digits, and objects all their members in order, also
repeated ones. Every written value is a JSON value, and every JSON value can be written so.
-/

namespace Switchboard.Json

open Switchboard.Text

/-- What may stand between the quotes of a string. -/
inductive Quotable : List Char → Prop
  | nil : Quotable []
  | plain {c : Char} {rest : List Char} (hcontrol : 0x20 ≤ c.toNat) (hquote : c ≠ '"')
      (hbackslash : c ≠ '\\') (h : Quotable rest) : Quotable (c :: rest)
  | escape {letter : Char} {rest : List Char}
      (hletter : letter ∈ ['"', '\\', '/', 'b', 'f', 'n', 'r', 't']) (h : Quotable rest) :
      Quotable ('\\' :: letter :: rest)
  | unit {a b c d : Char} {rest : List Char}
      (hdigits : ∀ digit ∈ [a, b, c, d], (Numeral.hexValue? digit).isSome) (h : Quotable rest) :
      Quotable ('\\' :: 'u' :: a :: b :: c :: d :: rest)

structure Quotation where
  chars : List Char
  quotable : Quotable chars

structure Exponent where
  mark : Char
  sign : List Char
  digits : Digits
  mark_valid : mark = 'e' ∨ mark = 'E'
  sign_valid : sign = [] ∨ sign = ['+'] ∨ sign = ['-']

structure Figures where
  negative : Bool
  whole : Whole
  fraction : Option Digits
  exponent : Option Exponent

/-- A JSON value as it is written, but for the white space between its tokens. -/
inductive Written
  | null
  | bool (b : Bool)
  | number (n : Figures)
  | string (s : Quotation)
  | array (items : List Written)
  | object (members : List (Quotation × Written))

def Quotation.quoted (s : Quotation) : List Char :=
  '"' :: (s.chars ++ ['"'])

/-- The text that is written, or why there is none: an escape may be one half of a character. -/
def Quotation.reading (s : Quotation) : Except Fault String :=
  Prod.fst <$> readStringBody (s.chars ++ ['"'])

def Quotation.text? (s : Quotation) : Option String :=
  s.reading.toOption

def Exponent.text (e : Exponent) : List Char :=
  e.mark :: (e.sign ++ e.digits.chars)

namespace Figures

def fractionText (n : Figures) : List Char :=
  n.fraction.elim [] fun digits => '.' :: digits.chars

def exponentText (n : Figures) : List Char :=
  n.exponent.elim [] Exponent.text

def magnitude (n : Figures) : List Char :=
  n.whole.chars ++ (n.fractionText ++ n.exponentText)

def text (n : Figures) : List Char :=
  if n.negative then '-' :: n.magnitude else n.magnitude

def ofWhole (whole : Whole) : Figures :=
  ⟨false, whole, none, none⟩

theorem magnitude_ofWhole (whole : Whole) : (ofWhole whole).magnitude = whole.chars :=
  List.append_nil whole.chars

end Figures

/-- A text begins with a token, which white space may precede, and goes on with the rest. -/
def Token (token text rest : List Char) : Prop :=
  skipSpace text = token ++ rest

/-- What stands before an item or a member: a comma, but nothing before the first one. -/
def Lead (first : Bool) (text rest : List Char) : Prop :=
  if first then text = rest else Token [','] text rest

namespace Written

mutual

/-- A text begins with a written value, between whose tokens white space may stand, and goes on with the
rest. -/
def Begins : Written → List Char → List Char → Prop
  | null, text, rest => Token ['n', 'u', 'l', 'l'] text rest
  | bool true, text, rest => Token ['t', 'r', 'u', 'e'] text rest
  | bool false, text, rest => Token ['f', 'a', 'l', 's', 'e'] text rest
  | number n, text, rest => Token n.text text rest
  | string s, text, rest => Token s.quoted text rest
  | array items, text, rest =>
    ∃ inner close, Token ['['] text inner ∧ ItemsBegin true items inner close ∧ Token [']'] close rest
  | object members, text, rest =>
    ∃ inner close, Token ['\x7b'] text inner ∧ MembersBegin true members inner close ∧
      Token ['\x7d'] close rest

def ItemsBegin (first : Bool) : List Written → List Char → List Char → Prop
  | [], text, rest => text = rest
  | item :: items, text, rest =>
    ∃ start after, Lead first text start ∧ item.Begins start after ∧ ItemsBegin false items after rest

def MembersBegin (first : Bool) : List (Quotation × Written) → List Char → List Char → Prop
  | [], text, rest => text = rest
  | (name, value) :: members, text, rest =>
    ∃ start colon valueStart after, Lead first text start ∧ Token name.quoted start colon ∧
      Token [':'] colon valueStart ∧ value.Begins valueStart after ∧
      MembersBegin false members after rest

end

/-- A whole text is a written value, with white space between its tokens and after the last. -/
def Document (value : Written) (text : String) : Prop :=
  ∃ rest, value.Begins text.toList rest ∧ skipSpace rest = []

/-- Induction over written values, with the hypothesis for every item of a list and for the value of every
member of an object. -/
theorem induct {motive : Written → Prop} (null : motive .null) (bool : ∀ b, motive (.bool b))
    (number : ∀ n, motive (.number n)) (string : ∀ s, motive (.string s))
    (array : ∀ items, (∀ item ∈ items, motive item) → motive (.array items))
    (object : ∀ members, (∀ member ∈ members, motive member.2) → motive (.object members)) :
    ∀ value, motive value
  | .null => null
  | .bool b => bool b
  | .number n => number n
  | .string s => string s
  | .array items => array items fun item _ => induct null bool number string array object item
  | .object members =>
    object members fun member _ => induct null bool number string array object member.2
termination_by value => sizeOf value
decreasing_by
  · have hitem := List.sizeOf_lt_of_mem ‹item ∈ items›
    simp only [Written.array.sizeOf_spec]
    omega
  · have hmember := List.sizeOf_lt_of_mem ‹member ∈ members›
    obtain ⟨name, value⟩ := member
    simp only [Written.object.sizeOf_spec, Prod.mk.sizeOf_spec] at hmember ⊢
    omega

end Written

theorem Delimits.of_skipSpace {text : List Char} (h : Delimits (skipSpace text)) : Delimits text := by
  rcases text with _ | ⟨c, rest⟩
  · exact nofun
  · rcases hspace : isSpace c with _ | _
    · rw [skipSpace_cons hspace] at h
      exact h
    · rintro _ ⟨⟩
      simp only [isSpace, Bool.or_eq_true, decide_eq_true_eq] at hspace
      rcases hspace with ((rfl | rfl) | rfl) | rfl <;> decide

theorem Token.delimits {text rest : List Char} {c : Char} (h : Token [c] text rest)
    (hc : c ∈ [',', ']', '\x7d']) : Delimits text := by
  refine Delimits.of_skipSpace ?_
  rw [h]
  rintro _ ⟨⟩
  exact List.mem_append_right [' ', '\n', '\t', '\r'] hc

theorem skipSpace_skipSpace (text : List Char) : skipSpace (skipSpace text) = skipSpace text :=
  List.dropWhile_idempotent isSpace text

theorem length_skipSpace_le (text : List Char) : (skipSpace text).length ≤ text.length :=
  (List.dropWhile_suffix isSpace).length_le

theorem token_skipSpace {token text rest : List Char} :
    Token token (skipSpace text) rest ↔ Token token text rest := by
  unfold Token
  rw [skipSpace_skipSpace]

theorem Token.length_lt {c : Char} {token text rest : List Char} (h : Token (c :: token) text rest) :
    rest.length < text.length := by
  have hle := length_skipSpace_le text
  rw [h, List.length_append, List.length_cons] at hle
  omega

theorem Lead.length_le {first : Bool} {text rest : List Char} (h : Lead first text rest) :
    rest.length ≤ text.length := by
  cases first with
  | true => exact Nat.le_of_eq (congrArg List.length h.symm)
  | false => exact Nat.le_of_lt (Token.length_lt h)

theorem Quotation.quoted_append (s : Quotation) (rest : List Char) :
    s.quoted ++ rest = '"' :: (s.chars ++ '"' :: rest) := by
  simp [quoted]

theorem Quotable.charText_append (c : Char) {rest : List Char} (h : Quotable rest) :
    Quotable (charText c ++ rest) := by
  unfold charText
  split_ifs with hquote hbackslash hbackspace hformfeed hnewline hreturn htab hcontrol
  · exact .escape (by decide) h
  · exact .escape (by decide) h
  · exact .escape (by decide) h
  · exact .escape (by decide) h
  · exact .escape (by decide) h
  · exact .escape (by decide) h
  · exact .escape (by decide) h
  · refine .unit ?_ h
    simp only [List.forall_mem_cons, hexValue?_hexDigit (show c.toNat / 16 < 16 by omega),
      hexValue?_hexDigit (Nat.mod_lt c.toNat (show 0 < 16 by decide))]
    exact ⟨rfl, rfl, rfl, rfl, nofun⟩
  · exact .plain (Nat.not_lt.mp hcontrol) hquote hbackslash h

/-- The usual way to write a string. -/
def Quotation.ofText (s : String) : Quotation where
  chars := s.toList.flatMap charText
  quotable := by
    induction s.toList with
    | nil => exact .nil
    | cons c cs ih => exact ih.charText_append c

theorem Quotation.reading_ofText (s : String) : (Quotation.ofText s).reading = .ok s := by
  rw [Quotation.reading, Quotation.ofText, readStringBody_flatMap_charText]
  rfl

theorem Quotation.text?_ofText (s : String) : (Quotation.ofText s).text? = some s := by
  rw [Quotation.text?, Quotation.reading_ofText]
  rfl

theorem Digits.exists_cons (digits : Digits) :
    ∃ c more, digits.chars = c :: more ∧ c.isDigit = true := by
  obtain ⟨c, more, hchars⟩ := List.exists_cons_of_ne_nil digits.nonempty
  exact ⟨c, more, hchars, digits.isDigit c (hchars ▸ List.mem_cons_self)⟩

theorem Figures.exists_magnitude_cons (n : Figures) :
    ∃ c more, n.magnitude = c :: more ∧ c.isDigit = true := by
  obtain ⟨c, more, hchars, hc⟩ := n.whole.exists_cons
  exact ⟨c, _, by rw [magnitude, hchars, List.cons_append], hc⟩

theorem Figures.text_append (n : Figures) (rest : List Char) :
    n.text ++ rest = if n.negative then '-' :: (n.magnitude ++ rest) else n.magnitude ++ rest := by
  unfold text
  split
  · rfl
  · rfl

theorem Figures.exists_cons (n : Figures) :
    ∃ c more, n.text = c :: more ∧ (c = '-' ∨ c.isDigit = true) := by
  obtain ⟨c, more, hmagnitude, hc⟩ := n.exists_magnitude_cons
  unfold Figures.text
  split
  · exact ⟨'-', _, rfl, .inl rfl⟩
  · exact ⟨c, more, hmagnitude, .inr hc⟩

namespace Written

variable {first : Bool} {text rest after : List Char}

theorem begins_skipSpace {value : Written} :
    value.Begins (skipSpace text) rest ↔ value.Begins text rest := by
  cases value with
  | null => exact token_skipSpace
  | bool b =>
      cases b with
      | false => exact token_skipSpace
      | true => exact token_skipSpace
  | number n => exact token_skipSpace
  | string s => exact token_skipSpace
  | array items => simp only [Begins, token_skipSpace]
  | object members => simp only [Begins, token_skipSpace]

theorem itemsBegin_skipSpace {item : Written} {items : List Written} :
    ItemsBegin true (item :: items) (skipSpace text) rest ↔
      ItemsBegin true (item :: items) text rest := by
  simp only [ItemsBegin, Lead, if_true, exists_eq_left', exists_and_left, begins_skipSpace]

theorem membersBegin_skipSpace {member : Quotation × Written} {members : List (Quotation × Written)} :
    MembersBegin true (member :: members) (skipSpace text) rest ↔
      MembersBegin true (member :: members) text rest := by
  simp only [MembersBegin, Lead, if_true, exists_eq_left', exists_and_left, token_skipSpace]

/-- A reader of numbers tells them by a minus sign or by the first digit, and goes on accordingly. -/
theorem Begins.number_cases {γ : Sort*} {n : Figures} (h : (number n).Begins text rest)
    {read : List Char → γ} (go : Bool → List Char → γ)
    (hminus : ∀ text more, skipSpace text = '-' :: more → read text = go true more)
    (hdigit : ∀ text c more, c.isDigit = true → skipSpace text = c :: more →
      read text = go false (c :: more)) : read text = go n.negative (n.magnitude ++ rest) := by
  rw [Begins, Token, n.text_append] at h
  cases hnegative : n.negative with
  | true =>
      rw [hnegative, if_pos rfl] at h
      exact hminus text _ h
  | false =>
      obtain ⟨c, more, hchars, hc⟩ := n.exists_magnitude_cons
      rw [hnegative, if_neg Bool.false_ne_true, hchars, List.cons_append] at h
      rw [hchars, List.cons_append]
      exact hdigit text c _ hc h

def heads : Written → List Char
  | null => ['n']
  | bool _ => ['t', 'f']
  | number _ => '-' :: List.ofFn fun digit : Fin 10 => Nat.digitChar digit
  | string _ => ['"']
  | array _ => ['[']
  | object _ => ['\x7b']

theorem mem_ofFn_digitChar {c : Char} (h : c.isDigit = true) :
    c ∈ List.ofFn fun digit : Fin 10 => Nat.digitChar digit := by
  have hall : ∀ n < 58, 48 ≤ n →
      Char.ofNat n ∈ List.ofFn fun digit : Fin 10 => Nat.digitChar digit := by decide
  rw [← Char.ofNat_toNat c]
  simp only [Char.isDigit, Bool.and_eq_true, decide_eq_true_eq] at h
  exact hall c.toNat (Nat.lt_succ_of_le h.2) h.1

theorem Begins.exists_head {value : Written} (h : value.Begins text rest) :
    ∃ c more, skipSpace text = c :: more ∧ c ∈ value.heads := by
  cases value with
  | null => exact ⟨'n', _, h, by decide⟩
  | bool b =>
      cases b with
      | false => exact ⟨'f', _, h, by decide⟩
      | true => exact ⟨'t', _, h, by decide⟩
  | number n =>
      obtain ⟨c, more, htext, hc⟩ := n.exists_cons
      rw [Begins, Token, htext] at h
      refine ⟨c, _, h, List.mem_cons.mpr ?_⟩
      exact hc.imp_right mem_ofFn_digitChar
  | string s => exact ⟨'"', _, h, List.mem_singleton_self _⟩
  | array items =>
      rw [Begins] at h
      obtain ⟨inner, close, hopen, -⟩ := h
      exact ⟨'[', inner, hopen, List.mem_singleton_self _⟩
  | object members =>
      rw [Begins] at h
      obtain ⟨inner, close, hopen, -⟩ := h
      exact ⟨'\x7b', inner, hopen, List.mem_singleton_self _⟩

theorem closing_not_mem_heads (value : Written) : ']' ∉ value.heads := by
  cases value with
  | null | bool b | number n | string s | array items | object members => exact of_decide_eq_true rfl

theorem Begins.exists_cons {value : Written} (h : value.Begins text rest) :
    ∃ c more, skipSpace text = c :: more ∧ c ≠ ']' := by
  obtain ⟨c, more, hcons, hc⟩ := h.exists_head
  exact ⟨c, more, hcons, ne_of_mem_of_not_mem hc value.closing_not_mem_heads⟩

theorem ItemsBegin.exists_cons {item : Written} {items : List Written}
    (h : ItemsBegin true (item :: items) text rest) : ∃ c more, skipSpace text = c :: more ∧ c ≠ ']' := by
  rw [ItemsBegin] at h
  obtain ⟨_, _, rfl, hitem, -⟩ := h
  exact hitem.exists_cons

theorem MembersBegin.exists_cons {member : Quotation × Written} {members : List (Quotation × Written)}
    (h : MembersBegin true (member :: members) text rest) : ∃ more, skipSpace text = '"' :: more := by
  rw [MembersBegin] at h
  obtain ⟨_, _, _, _, rfl, hname, -⟩ := h
  exact ⟨_, hname⟩

theorem ItemsBegin.length_add_le {items : List Written}
    (hitems : ∀ item ∈ items, ∀ text rest, item.Begins text rest → rest.length < text.length)
    (h : ItemsBegin first items text rest) : rest.length + items.length ≤ text.length := by
  induction items generalizing first text with
  | nil =>
      rw [ItemsBegin] at h
      exact Nat.le_of_eq (congrArg List.length h.symm)
  | cons item items ih =>
      rw [ItemsBegin] at h
      obtain ⟨start, after, hlead, hitem, hrest⟩ := h
      obtain ⟨hshorter, hothers⟩ := List.forall_mem_cons.mp hitems
      have hitem := hshorter _ _ hitem
      have hrest := ih hothers hrest
      have hlead := hlead.length_le
      rw [List.length_cons]
      omega

theorem MembersBegin.length_add_le {members : List (Quotation × Written)}
    (hmembers : ∀ member ∈ members, ∀ text rest,
      member.2.Begins text rest → rest.length < text.length)
    (h : MembersBegin first members text rest) : rest.length + members.length ≤ text.length := by
  induction members generalizing first text with
  | nil =>
      rw [MembersBegin] at h
      exact Nat.le_of_eq (congrArg List.length h.symm)
  | cons member members ih =>
      rw [MembersBegin] at h
      obtain ⟨start, colon, valueStart, after, hlead, hname, hcolon, hvalue, hrest⟩ := h
      obtain ⟨hshorter, hothers⟩ := List.forall_mem_cons.mp hmembers
      have hvalue := hshorter _ _ hvalue
      have hrest := ih hothers hrest
      have hlead := hlead.length_le
      have hname := Token.length_lt hname
      have hcolon := Token.length_lt hcolon
      rw [List.length_cons]
      omega

theorem Begins.length_lt {value : Written} (h : value.Begins text rest) :
    rest.length < text.length := by
  induction value using Written.induct generalizing text rest with
  | null => exact Token.length_lt h
  | bool b =>
      cases b with
      | false => exact Token.length_lt h
      | true => exact Token.length_lt h
  | number n =>
      obtain ⟨c, more, htext, -⟩ := n.exists_cons
      rw [Begins, htext] at h
      exact Token.length_lt h
  | string s => exact Token.length_lt h
  | array items ih =>
      rw [Begins] at h
      obtain ⟨inner, close, hopen, hitems, hclose⟩ := h
      have hinner := hitems.length_add_le fun item hmem _ _ => ih item hmem
      have hopen := Token.length_lt hopen
      have hclose := Token.length_lt hclose
      omega
  | object members ih =>
      rw [Begins] at h
      obtain ⟨inner, close, hopen, hmembers, hclose⟩ := h
      have hinner := hmembers.length_add_le fun member hmem _ _ => ih member hmem
      have hopen := Token.length_lt hopen
      have hclose := Token.length_lt hclose
      omega

theorem ItemsBegin.delimits {items : List Written} (h : ItemsBegin false items text rest)
    (hclose : Token [']'] rest after) : Delimits text := by
  cases items with
  | nil =>
      rw [ItemsBegin] at h
      exact h ▸ hclose.delimits (by decide)
  | cons item items =>
      rw [ItemsBegin] at h
      obtain ⟨start, _, hlead, -⟩ := h
      exact hlead.delimits (by decide)

theorem MembersBegin.delimits {members : List (Quotation × Written)}
    (h : MembersBegin false members text rest) (hclose : Token ['\x7d'] rest after) :
    Delimits text := by
  cases members with
  | nil =>
      rw [MembersBegin] at h
      exact h ▸ hclose.delimits (by decide)
  | cons member members =>
      rw [MembersBegin] at h
      obtain ⟨start, _, _, _, hlead, -⟩ := h
      exact hlead.delimits (by decide)

mutual

def compact : Written → List Char
  | null => ['n', 'u', 'l', 'l']
  | bool true => ['t', 'r', 'u', 'e']
  | bool false => ['f', 'a', 'l', 's', 'e']
  | number n => n.text
  | string s => s.quoted
  | array items => '[' :: (compactItems true items ++ [']'])
  | object members => '\x7b' :: (compactMembers true members ++ ['\x7d'])

def compactItems (first : Bool) : List Written → List Char
  | [] => []
  | item :: items => (if first then [] else [',']) ++ (item.compact ++ compactItems false items)

def compactMembers (first : Bool) : List (Quotation × Written) → List Char
  | [] => []
  | (name, value) :: members =>
    (if first then [] else [',']) ++
      (name.quoted ++ ':' :: (value.compact ++ compactMembers false members))

end

end Written

theorem token_cons_append {c : Char} (h : isSpace c = false) (token rest : List Char) :
    Token (c :: token) (c :: token ++ rest) rest :=
  skipSpace_cons h (token ++ rest)

theorem lead_append (first : Bool) (rest : List Char) :
    Lead first ((if first then [] else [',']) ++ rest) rest := by
  cases first with
  | false => exact token_cons_append rfl [] rest
  | true => rfl

theorem Figures.token_append (n : Figures) (rest : List Char) : Token n.text (n.text ++ rest) rest := by
  obtain ⟨c, more, htext, hc⟩ := n.exists_cons
  rw [htext]
  refine token_cons_append ?_ more rest
  rcases hc with rfl | hc
  · rfl
  · exact isSpace_of_isDigit hc

namespace Written

theorem itemsBegin_compactItems {items : List Written}
    (hitems : ∀ item ∈ items, ∀ rest, item.Begins (item.compact ++ rest) rest) (first : Bool)
    (rest : List Char) : ItemsBegin first items (compactItems first items ++ rest) rest := by
  induction items generalizing first with
  | nil =>
      rw [ItemsBegin]
      rfl
  | cons item items ih =>
      obtain ⟨hitem, hothers⟩ := List.forall_mem_cons.mp hitems
      rw [ItemsBegin, compactItems, List.append_assoc, List.append_assoc]
      exact ⟨_, _, lead_append first _, hitem _, ih hothers false⟩

theorem membersBegin_compactMembers {members : List (Quotation × Written)}
    (hmembers : ∀ member ∈ members, ∀ rest, member.2.Begins (member.2.compact ++ rest) rest)
    (first : Bool) (rest : List Char) :
    MembersBegin first members (compactMembers first members ++ rest) rest := by
  induction members generalizing first with
  | nil =>
      rw [MembersBegin]
      rfl
  | cons member members ih =>
      obtain ⟨hmember, hothers⟩ := List.forall_mem_cons.mp hmembers
      rw [MembersBegin, compactMembers, List.append_assoc, List.append_assoc, List.cons_append,
        List.append_assoc]
      exact ⟨_, _, _, _, lead_append first _, token_cons_append rfl _ _, token_cons_append rfl [] _,
        hmember _, ih hothers false⟩

theorem begins_compact (value : Written) (rest : List Char) :
    value.Begins (value.compact ++ rest) rest := by
  induction value using Written.induct generalizing rest with
  | null => exact token_cons_append rfl _ rest
  | bool b =>
      cases b with
      | false => exact token_cons_append rfl _ rest
      | true => exact token_cons_append rfl _ rest
  | number n => exact n.token_append rest
  | string s => exact token_cons_append rfl _ rest
  | array items ih =>
      rw [Begins, compact, List.cons_append, List.append_assoc]
      exact ⟨_, _, token_cons_append rfl [] _, itemsBegin_compactItems ih true _,
        token_cons_append rfl [] rest⟩
  | object members ih =>
      rw [Begins, compact, List.cons_append, List.append_assoc]
      exact ⟨_, _, token_cons_append rfl [] _, membersBegin_compactMembers ih true _,
        token_cons_append rfl [] rest⟩

theorem document_compact (value : Written) : value.Document (String.ofList value.compact) := by
  refine ⟨[], ?_, rfl⟩
  rw [String.toList_ofList]
  simpa using value.begins_compact []

end Written

end Switchboard.Json
