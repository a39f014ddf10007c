import Switchboard.Invocation
import Switchboard.Proofs.WellFormed

namespace Switchboard.Json

open Switchboard.Text

section Room

variable {α β : Type}

/-- What reading gives if containers are nested to a depth: the result if there is room for them. -/
def ifRoom (room depth : Nat) (a : α) : Except Fault α :=
  if depth ≤ room then .ok a else .error .tooDeep

theorem ifRoom_of_le {room depth : Nat} (h : depth ≤ room) (a : α) : ifRoom room depth a = .ok a :=
  if_pos h

theorem ifRoom_succ (room depth : Nat) (a : α) :
    ifRoom (room + 1) (depth + 1) a = ifRoom room depth a := by
  unfold ifRoom
  simp only [Nat.add_le_add_iff_right]

/-- One reading after another needs room for the deeper one. -/
theorem ifRoom_bind {room depth depth' : Nat} {a : α} {b : β} {f : α → Except Fault β}
    (h : f a = ifRoom room depth' b) :
    (ifRoom room depth a >>= f) = ifRoom room (max depth depth') b := by
  rcases Nat.lt_or_ge room depth with hdeep | hfits
  · rw [ifRoom, if_neg (Nat.not_le_of_lt hdeep), ifRoom, if_neg (by omega)]
    rfl
  · rw [ifRoom_of_le hfits]
    refine h.trans ?_
    unfold ifRoom
    simp only [Nat.max_le, hfits, true_and]

theorem ifRoom_bind_ok {room depth : Nat} {a : α} {b : β} {f : α → Except Fault β}
    (h : f a = .ok b) : (ifRoom room depth a >>= f) = ifRoom room depth b := by
  rw [ifRoom_bind (h.trans (ifRoom_of_le (Nat.zero_le room) b).symm), Nat.max_zero]

end Room

/-- A text begins neither with a blank nor with the end of a list. -/
def StartsValue (text : List Char) : Prop :=
  ∃ c more, text = c :: more ∧ isSpace c = false ∧ c ≠ ']'

theorem stringText_append (s : String) (text : List Char) :
    stringText s ++ text = '"' :: (s.toList.flatMap charText ++ '"' :: text) := by
  simp [stringText]

def lead (first : Bool) : List Char :=
  if first then [] else [',']

section Steps

variable {α σ : Type} (item : Reader α) (member : σ → String → Except Fault (Reader σ)) (bound : Nat)
  (first : Bool)

theorem nextItem_lead {text : List Char} (h : StartsValue text) :
    nextItem first (lead first ++ text) = .ok (some text) := by
  obtain ⟨c, more, rfl, hspace, hclose⟩ := h
  rcases first with _ | _
  · show nextItem false (',' :: c :: more) = _
    exact nextItem_next rfl (skipSpace_cons hspace more) hclose
  · exact nextItem_first (skipSpace_cons hspace more) hclose

theorem readItems_lead {text : List Char} (h : StartsValue text) :
    readItems item (bound + 1) first (lead first ++ text) = (do
      let (a, rest) ← item text
      let (as, rest) ← readItems item bound false rest
      .ok (a :: as, rest)) := by
  rw [readItems, nextItem_lead first h]
  rfl

theorem nextName_lead (name : String) (text : List Char) :
    nextName first (lead first ++ (stringText name ++ text)) = .ok (some (name, text)) := by
  rw [stringText_append]
  rcases first with _ | _
  · show some <$> readStringBody _ = _
    rw [readStringBody_flatMap_charText]
    rfl
  · show some <$> readStringBody _ = _
    rw [readStringBody_flatMap_charText]
    rfl

theorem readMembers_lead (all : σ) (name : String) (text : List Char) :
    readMembers member (bound + 1) first all (lead first ++ (stringText name ++ ':' :: text)) = (do
      let read ← member all name
      let (all, rest) ← read text
      readMembers member bound false all rest) := by
  rw [readMembers, nextName_lead]
  rfl

end Steps

def itemRun (first : Bool) : List Json → List Char
  | [] => []
  | item :: rest => lead first ++ (item.chars ++ itemRun false rest)

def memberRun (first : Bool) : List (String × Json) → List Char
  | [] => []
  | (name, value) :: rest =>
    lead first ++ (stringText name ++ ':' :: (value.chars ++ memberRun false rest))

theorem itemRun_true (items : List Json) : itemRun true items = itemChars items := by
  have hcons : ∀ item rest, itemChars (item :: rest) = item.chars ++ itemRun false rest := by
    intro item rest
    induction rest generalizing item with
    | nil => simp [itemChars, itemRun]
    | cons other rest ih =>
        show item.chars ++ ',' :: itemChars (other :: rest) = _
        rw [ih other]
        rfl
  rcases items with _ | ⟨item, rest⟩
  · simp [itemChars, itemRun]
  · exact (hcons item rest).symm

theorem memberRun_true (members : List (String × Json)) :
    memberRun true members = memberChars members := by
  have hcons : ∀ name value rest, memberChars ((name, value) :: rest) =
      stringText name ++ ':' :: (value.chars ++ memberRun false rest) := by
    intro name value rest
    induction rest generalizing name value with
    | nil => simp [memberChars, memberRun]
    | cons other rest ih =>
        obtain ⟨name', value'⟩ := other
        show stringText name ++ ':' :: value.chars ++ ',' :: memberChars ((name', value') :: rest) = _
        rw [ih name' value', List.append_assoc]
        rfl
  rcases members with _ | ⟨⟨name, value⟩, rest⟩
  · simp [memberChars, memberRun]
  · exact (hcons name value rest).symm

theorem endsValue_itemRun (items : List Json) (text : List Char) :
    EndsValue (itemRun false items ++ ']' :: text) := by
  rcases items with _ | ⟨item, rest⟩
  · rintro _ ⟨⟩
    exact .inr (.inl rfl)
  · rintro _ ⟨⟩
    exact .inl rfl

theorem endsValue_memberRun (members : List (String × Json)) (text : List Char) :
    EndsValue (memberRun false members ++ '\x7d' :: text) := by
  rcases members with _ | ⟨⟨name, value⟩, rest⟩
  · rintro _ ⟨⟩
    exact .inr (.inr rfl)
  · rintro _ ⟨⟩
    exact .inl rfl

/-- A value is read back wherever a value may stand, if there is room for its depth. -/
def ReadsBack (value : Json) : Prop :=
  (∀ text, StartsValue (value.chars ++ text)) ∧ ∀ room text, EndsValue text →
    readValue room (value.chars ++ text) = ifRoom room value.depth (value, text)

theorem readItems_itemRun {items : List Json} (h : ∀ item ∈ items, ReadsBack item) {bound : Nat}
    (hbound : items.length < bound) (room : Nat) (first : Bool) (text : List Char) :
    readItems (readValue room) bound first (itemRun first items ++ ']' :: text) =
      ifRoom room (depthItems items) (items, ']' :: text) := by
  induction items generalizing bound first with
  | nil =>
      obtain ⟨bound, rfl⟩ := Nat.exists_eq_add_one.mpr hbound
      exact (ifRoom_of_le (Nat.zero_le room) _).symm
  | cons item rest ih =>
      obtain ⟨bound, rfl⟩ := Nat.exists_eq_add_one.mpr (Nat.zero_lt_of_lt hbound)
      obtain ⟨⟨hstarts, hitem⟩, hrest⟩ := List.forall_mem_cons.mp h
      have hmore := ih hrest (Nat.lt_of_succ_lt_succ hbound) false
      rw [itemRun, List.append_assoc, List.append_assoc, readItems_lead _ _ _ (hstarts _),
        hitem _ _ (endsValue_itemRun rest text), depthItems]
      refine ifRoom_bind ?_
      show (readItems _ _ _ _ >>= _) = _
      rw [hmore]
      exact ifRoom_bind_ok rfl

def readMember (room : Nat) (all : List (String × Json)) (name : String) :
    Reader (List (String × Json)) := fun text => do
  let (value, rest) ← readValue room text
  .ok (putMember name value all, rest)

theorem readMembers_memberRun {members : List (String × Json)}
    (h : ∀ member ∈ members, ReadsBack member.2) {bound : Nat} (hbound : members.length < bound)
    (room : Nat) (first : Bool) {all : List (String × Json)} (hall : Ascending (all ++ members))
    (text : List Char) :
    readMembers (fun all name => .ok (readMember room all name)) bound first all
        (memberRun first members ++ '\x7d' :: text) =
      ifRoom room (depthMembers members) (all ++ members, '\x7d' :: text) := by
  induction members generalizing bound first all with
  | nil =>
      obtain ⟨bound, rfl⟩ := Nat.exists_eq_add_one.mpr hbound
      rw [List.append_nil]
      exact (ifRoom_of_le (Nat.zero_le room) _).symm
  | cons member rest ih =>
      obtain ⟨bound, rfl⟩ := Nat.exists_eq_add_one.mpr (Nat.zero_lt_of_lt hbound)
      obtain ⟨name, value⟩ := member
      obtain ⟨⟨-, hvalue⟩, hrest⟩ := List.forall_mem_cons.mp h
      -- The members are written in ascending order, so each goes to the end of those before it.
      have hput : putMember name value all = all ++ [(name, value)] := by
        refine putMember_eq_concat (fun member hmem => ?_) value
        exact (List.pairwise_append.mp hall).2.2 member hmem _ List.mem_cons_self
      have hmoved : all ++ [(name, value)] ++ rest = all ++ (name, value) :: rest := by simp
      have hmore := ih hrest (Nat.lt_of_succ_lt_succ hbound) false (hmoved ▸ hall)
      rw [hmoved] at hmore
      have hread : readMember room all name (value.chars ++ (memberRun false rest ++ '\x7d' :: text)) =
          ifRoom room value.depth (all ++ [(name, value)], memberRun false rest ++ '\x7d' :: text) := by
        rw [readMember, hvalue _ _ (endsValue_memberRun rest text), ← hput]
        exact ifRoom_bind_ok rfl
      have htext : memberRun first ((name, value) :: rest) ++ '\x7d' :: text = lead first ++
          (stringText name ++ ':' :: (value.chars ++ (memberRun false rest ++ '\x7d' :: text))) := by
        simp [memberRun]
      rw [htext, readMembers_lead, depthMembers]
      show (readMember room all name _ >>= _) = _
      rw [hread]
      exact ifRoom_bind hmore

theorem readValue_of_isDigit {c : Char} (h : c.isDigit = true) (room : Nat) (text : List Char) :
    readValue room (c :: text) = (do
      let (n, rest) ← readNumber false (c :: text)
      .ok (.number n, rest)) := by
  rw [readValue, skipSpace_cons (isSpace_of_isDigit h)]
  split
  all_goals rename_i hsame; cases hsame
  all_goals first
    | exact absurd h (by decide)
    | exact if_pos h

theorem readsBack_whole {n : Int} (h : (Number.whole n).Fits) :
    ReadsBack (.number (.whole n)) := by
  have hwhole := wholeNumber_natAbs h
  have hread : ∀ negative {text}, Delimits text →
      readNumber negative (Numeral.digits n.natAbs ++ text) = (do
        let number ← wholeNumber negative n.natAbs
        .ok (number, text)) := by
    intro negative text htext
    have hvalue : Numeral.value (Whole.ofNat n.natAbs).chars = n.natAbs := Numeral.value_digits _
    have hread := readNumber_whole (hvalue.trans_le h.natAbs_le) negative htext
    rw [hvalue] at hread
    exact hread
  rcases Int.lt_or_le n 0 with hneg | hpos
  · have hchars : (Json.number (.whole n)).chars = '-' :: Numeral.digits n.natAbs := by
      simp [chars, Number.text, Numeral.renderInt, Numeral.render, hneg]
    rw [decide_eq_true hneg] at hwhole
    constructor
    · intro text
      rw [hchars]
      exact ⟨'-', _, rfl, rfl, by decide⟩
    · intro room text htext
      rw [hchars, readValue]
      show (readNumber true (Numeral.digits n.natAbs ++ text) >>= _) = _
      rw [hread true htext.delimits, hwhole]
      exact (ifRoom_of_le (Nat.zero_le room) _).symm
  · have hchars : (Json.number (.whole n)).chars = Numeral.digits n.natAbs := by
      simp [chars, Number.text, Numeral.renderInt, Numeral.render, Int.not_lt.mpr hpos]
    obtain ⟨c, more, hdigits⟩ := List.exists_cons_of_ne_nil (Numeral.digits_ne_nil n.natAbs)
    have hc : c.isDigit = true :=
      Numeral.isDigit_of_mem_digits (hdigits ▸ List.mem_cons_self)
    rw [decide_eq_false (Int.not_lt.mpr hpos)] at hwhole
    constructor
    · intro text
      rw [hchars, hdigits]
      refine ⟨c, _, rfl, isSpace_of_isDigit hc, ?_⟩
      rintro rfl
      exact absurd hc (by decide)
    · intro room text htext
      have hread := hread false htext.delimits
      rw [hdigits, List.cons_append] at hread
      rw [hchars, hdigits, List.cons_append, readValue_of_isDigit hc, hread, hwhole]
      exact (ifRoom_of_le (Nat.zero_le room) _).symm

theorem length_lt_itemRun (first : Bool) (items : List Json) (text : List Char) :
    items.length < (itemRun first items ++ ']' :: text).length + 1 := by
  have hrun : ∀ items, items.length ≤ (itemRun false items).length := by
    intro items
    induction items with
    | nil => exact Nat.le_refl 0
    | cons item rest ih =>
        have hlead : (lead false).length = 1 := rfl
        simp only [itemRun, List.length_append, List.length_cons]
        omega
  rcases items with _ | ⟨item, rest⟩
  · simp
  · have hrest := hrun rest
    simp only [itemRun, List.length_append, List.length_cons]
    omega

theorem length_lt_memberRun (first : Bool) (members : List (String × Json)) (text : List Char) :
    members.length < (memberRun first members ++ '\x7d' :: text).length + 1 := by
  induction members generalizing first with
  | nil => simp
  | cons member rest ih =>
      have hrest := ih false
      simp only [memberRun, List.length_append, List.length_cons] at hrest ⊢
      omega

theorem ifRoom_zero_succ {α : Type} (depth : Nat) (a : α) :
    ifRoom 0 (depth + 1) a = .error .tooDeep :=
  rfl

theorem array_chars_append (items : List Json) (text : List Char) :
    (Json.array items).chars ++ text = '[' :: (itemRun true items ++ ']' :: text) := by
  simp [chars, itemRun_true]

theorem object_chars_append (members : List (String × Json)) (text : List Char) :
    (Json.object members).chars ++ text = '\x7b' :: (memberRun true members ++ '\x7d' :: text) := by
  simp [chars, memberRun_true]

theorem readsBack_array {items : List Json} (h : ∀ item ∈ items, ReadsBack item) :
    ReadsBack (.array items) := by
  constructor
  · intro text
    exact ⟨'[', _, array_chars_append items text, rfl, by decide⟩
  · intro room text _
    rw [array_chars_append, readValue, depth]
    rcases room with _ | room
    · exact (ifRoom_zero_succ _ _).symm
    · show (readItems (readValue room) _ true _ >>= _) = _
      rw [readItems_itemRun h (length_lt_itemRun true items text), ifRoom_succ]
      exact ifRoom_bind_ok rfl

theorem readsBack_object {members : List (String × Json)} (hascending : Ascending members)
    (h : ∀ member ∈ members, ReadsBack member.2) : ReadsBack (.object members) := by
  constructor
  · intro text
    exact ⟨'\x7b', _, object_chars_append members text, rfl, by decide⟩
  · intro room text _
    rw [object_chars_append, readValue, depth]
    rcases room with _ | room
    · exact (ifRoom_zero_succ _ _).symm
    · have hall : Ascending ([] ++ members) := hascending
      show (readMembers (fun all name => .ok (readMember room all name)) _ true [] _ >>= _) = _
      rw [readMembers_memberRun h (length_lt_memberRun true members text) room true hall,
        ifRoom_succ]
      exact ifRoom_bind_ok rfl

/-- A well-formed value without floating-point numbers is read back. The induction is on its being well
formed, which gives the hypothesis for every item and every member at once. -/
theorem WellFormed.readsBack {value : Json} (hwell : value.WellFormed) (hfree : value.FloatFree) :
    ReadsBack value := by
  induction hwell with
  | null =>
      refine ⟨fun text => ⟨'n', _, rfl, rfl, by decide⟩, fun room text _ => ?_⟩
      rw [readValue]
      exact (ifRoom_of_le (Nat.zero_le room) _).symm
  | bool b =>
      rcases b with _ | _
      · refine ⟨fun text => ⟨'f', _, rfl, rfl, by decide⟩, fun room text _ => ?_⟩
        rw [readValue]
        exact (ifRoom_of_le (Nat.zero_le room) _).symm
      · refine ⟨fun text => ⟨'t', _, rfl, rfl, by decide⟩, fun room text _ => ?_⟩
        rw [readValue]
        exact (ifRoom_of_le (Nat.zero_le room) _).symm
  | number h =>
      obtain ⟨n⟩ := hfree
      exact readsBack_whole h
  | string s =>
      refine ⟨fun text => ⟨'"', _, stringText_append s text, rfl, by decide⟩, fun room text _ => ?_⟩
      rw [chars, stringText_append, readValue]
      show (readStringBody _ >>= _) = _
      rw [readStringBody_flatMap_charText]
      exact (ifRoom_of_le (Nat.zero_le room) _).symm
  | array _ ih =>
      cases hfree with
      | array hfree => exact readsBack_array fun item hmem => ih item hmem (hfree item hmem)
  | object hascending _ ih =>
      cases hfree with
      | object hfree =>
          exact readsBack_object hascending fun member hmem => ih member hmem (hfree member hmem)

theorem readString_chars (expected s : String) (text : List Char) :
    readString expected ((Json.string s).chars ++ text) = .ok (s, text) := by
  rw [chars, stringText_append]
  exact readStringBody_flatMap_charText s text

theorem readList_chars {items : List Json} (h : ∀ item ∈ items, ReadsBack item) (room : Nat)
    (text : List Char) :
    readList readValue (room + 1) ((Json.array items).chars ++ text) =
      ifRoom room (depthItems items) (items, text) := by
  rw [array_chars_append]
  show (readItems (readValue room) _ true _ >>= _) = _
  rw [readItems_itemRun h (length_lt_itemRun true items text)]
  exact ifRoom_bind_ok rfl

section Fields

variable {α β : Type} (f : Field α) (g : Field β) (room : Nat) {found : Option α × Option β}

theorem fieldMember_first (hfound : found.1 = none) :
    fieldMember f g room found f.name = .ok (fun text => do
      let (a, rest) ← f.read room text
      .ok ((some a, found.2), rest)) := by
  rw [fieldMember, if_pos rfl, hfound]
  rfl

theorem fieldMember_second (hne : g.name ≠ f.name) (hfound : found.2 = none) :
    fieldMember f g room found g.name = .ok (fun text => do
      let (b, rest) ← g.read room text
      .ok ((found.1, some b), rest)) := by
  rw [fieldMember, if_neg hne, if_pos rfl, hfound]
  rfl

end Fields

end Switchboard.Json

namespace Switchboard.Invocation

open Switchboard.Json

def WellFormed (invocation : Invocation) : Prop :=
  ∀ value ∈ invocation.arguments, value.WellFormed

def FloatFree (invocation : Invocation) : Prop :=
  ∀ value ∈ invocation.arguments, value.FloatFree

def depth (invocation : Invocation) : Nat :=
  depthItems invocation.arguments

variable {invocation : Invocation}

theorem readMembers_text (hwell : invocation.WellFormed) (hfree : invocation.FloatFree)
    (bound room : Nat) :
    readMembers (fieldMember targetField argumentsField (room + 1)) (bound + 3) true (none, none)
      (memberRun true [("target", .string invocation.target),
        ("arguments", .array invocation.arguments)] ++ ['\x7d']) =
      ifRoom room invocation.depth
        ((some invocation.target, some invocation.arguments), ['\x7d']) := by
  have hback : ∀ value ∈ invocation.arguments, ReadsBack value :=
    fun value hmem => (hwell value hmem).readsBack (hfree value hmem)
  have htarget : ∀ text, targetField.read (room + 1) ((Json.string invocation.target).chars ++ text) =
      .ok (invocation.target, text) :=
    readString_chars "a string" invocation.target
  have harguments : ∀ text, argumentsField.read (room + 1)
      ((Json.array invocation.arguments).chars ++ text) =
        ifRoom room invocation.depth (invocation.arguments, text) :=
    readList_chars hback room
  simp only [memberRun, List.append_assoc, List.cons_append, List.nil_append]
  rw [readMembers_lead]
  show (fieldMember targetField argumentsField (room + 1) (none, none) targetField.name >>= _) = _
  rw [fieldMember_first targetField argumentsField (room + 1) rfl]
  show ((targetField.read (room + 1) _ >>= _) >>= _) = _
  rw [htarget]
  show readMembers _ _ _ _ _ = _
  rw [readMembers_lead]
  show (fieldMember targetField argumentsField (room + 1) _ argumentsField.name >>= _) = _
  rw [fieldMember_second targetField argumentsField (room + 1) (by decide) rfl]
  show ((argumentsField.read (room + 1) _ >>= _) >>= _) = _
  rw [harguments, bind_assoc]
  exact ifRoom_bind_ok rfl

theorem reader_text (hwell : invocation.WellFormed) (hfree : invocation.FloatFree) (room : Nat) :
    reader (room + 2) invocation.text.toList = ifRoom room invocation.depth (invocation, []) := by
  let members : List (String × Json) :=
    [("target", .string invocation.target), ("arguments", .array invocation.arguments)]
  have htext : invocation.text.toList = '\x7b' :: (memberRun true members ++ ['\x7d']) := by
    rw [Invocation.text, Json.text, String.toList_ofList, ← object_chars_append, List.append_nil]
  obtain ⟨bound, hbound⟩ : ∃ bound, (memberRun true members ++ ['\x7d']).length + 1 = bound + 3 :=
    Nat.exists_eq_add_of_le' (length_lt_memberRun true members [])
  rw [htext, reader, readRecord]
  show ((readMembers (fieldMember targetField argumentsField (room + 1)) _ true (none, none) _ >>=
    _) >>= _) = _
  rw [hbound, readMembers_text hwell hfree, bind_assoc]
  exact ifRoom_bind_ok rfl

theorem parse_text (hwell : invocation.WellFormed) (hfree : invocation.FloatFree) :
    parse invocation.text = ifRoom 125 invocation.depth invocation := by
  show (reader (125 + 2) invocation.text.toList >>= _) = _
  rw [reader_text hwell hfree]
  exact ifRoom_bind_ok rfl

/-- The arguments that are read from any text leave room for the record and the list that they stand in. -/
theorem wellFormed_of_parse {text : String} (h : parse text = .ok invocation) :
    invocation.WellFormed ∧ invocation.depth ≤ 125 := by
  obtain ⟨_, hread⟩ := exists_of_readAll h
  obtain ⟨⟨⟨target, arguments⟩, _⟩, hrecord, hread⟩ := bind_eq_ok_iff.mp hread
  cases hread
  have hvalue : ∀ text value rest, readValue 125 text = .ok (value, rest) →
      value.WellFormed ∧ value.depth ≤ 125 :=
    fun text value rest => wellFormed_of_readValue
  have harguments : True ∧ ∀ value ∈ arguments, value.WellFormed ∧ value.depth ≤ 125 := by
    refine of_readRecord (fun _ => True)
      (fun all => ∀ value ∈ all, value.WellFormed ∧ value.depth ≤ 125) (fun _ _ _ _ => trivial)
      (fun _ _ => trivial) ?_ ?_ hrecord
    · exact fun _ _ _ hlist => forall_of_readList hvalue hlist
    · rintro _ ⟨⟩
      exact nofun
  exact ⟨fun value hmem => (harguments.2 value hmem).1,
    depthItems_le_iff.mpr fun value hmem => (harguments.2 value hmem).2⟩

end Switchboard.Invocation

namespace Switchboard

/-- An invocation without floating-point numbers is read back from its text if its arguments have
containers nested at most 125 deep. A deeper one is refused for its depth alone, as it is read back where
there is room. Any text that is read as such an invocation gives one that is read back. -/
theorem invocation_read_back (invocation : Invocation) (h : invocation.FloatFree) :
    (invocation.WellFormed →
      (Invocation.parse invocation.text =
        if invocation.depth ≤ 125 then .ok invocation else .error .tooDeep) ∧
      ∀ room, invocation.depth ≤ room →
        Invocation.reader (room + 2) invocation.text.toList = .ok (invocation, [])) ∧
    ∀ text, Invocation.parse text = .ok invocation →
      invocation.WellFormed ∧ invocation.depth ≤ 125 ∧
        Invocation.parse invocation.text = .ok invocation := by
  refine ⟨fun hwell => ⟨Invocation.parse_text hwell h, fun room hroom => ?_⟩, fun text htext => ?_⟩
  · rw [Invocation.reader_text hwell h]
    exact Json.ifRoom_of_le hroom _
  · obtain ⟨hwell, hdepth⟩ := Invocation.wellFormed_of_parse htext
    refine ⟨hwell, hdepth, ?_⟩
    rw [Invocation.parse_text hwell h]
    exact Json.ifRoom_of_le hdepth _

def Json.inLists : Nat → Json → Json
  | 0, value => value
  | n + 1, value => .array [inLists n value]

theorem Json.depth_inLists (n : Nat) (value : Json) :
    (inLists n value).depth = value.depth + n := by
  induction n with
  | zero => rfl
  | succ n ih => rw [inLists, depth, depthItems, ih, depthItems, Nat.max_zero, Nat.add_assoc]

theorem Json.WellFormed.inLists {value : Json} (h : value.WellFormed) (n : Nat) :
    (inLists n value).WellFormed := by
  induction n with
  | zero => exact h
  | succ n ih => exact .array (List.forall_mem_singleton.mpr ih)

theorem Json.FloatFree.inLists {value : Json} (h : value.FloatFree) (n : Nat) :
    (inLists n value).FloatFree := by
  induction n with
  | zero => exact h
  | succ n ih => exact .array (List.forall_mem_singleton.mpr ih)

theorem invocation_read_back_at_limit :
    let value : Json := .object [("a", .array []), ("b", .string "😀")]
    let invocation : Invocation :=
      ⟨"draw\n", [.inLists 123 value, .number (.whole 18446744073709551615)]⟩
    let deeper : Invocation := ⟨"draw\n", [.inLists 124 value]⟩
    let read : Invocation := ⟨"", [value, .number (.whole (-1))]⟩
    let text :=
      "\x7b\"arguments\":[\x7b\"b\":0,\"a\":[],\"\\u0062\":\"\\ud83d\\ude00\"\x7d,\t-1],\"x\":1e9,\"target\":\"\"\x7d "
    (invocation.FloatFree ∧ invocation.WellFormed ∧ invocation.depth = 125 ∧
      Invocation.parse invocation.text = .ok invocation) ∧
    (deeper.FloatFree ∧ deeper.WellFormed ∧ Invocation.parse deeper.text = .error .tooDeep ∧
      Invocation.reader 128 deeper.text.toList = .ok (deeper, [])) ∧
    read.FloatFree ∧ Invocation.parse text = .ok read ∧
      Invocation.parse read.text = .ok read := by
  intro value invocation deeper read text
  have hwell : value.WellFormed :=
    .object (List.pairwise_pair.mpr (by decide))
      (List.forall_mem_cons.mpr ⟨.array nofun, List.forall_mem_singleton.mpr (.string "😀")⟩)
  have hfree : value.FloatFree :=
    .object (List.forall_mem_cons.mpr ⟨.array nofun, List.forall_mem_singleton.mpr (.string "😀")⟩)
  have hinvocation : invocation.FloatFree ∧ invocation.WellFormed :=
    ⟨List.forall_mem_cons.mpr ⟨hfree.inLists 123, List.forall_mem_singleton.mpr (.whole _)⟩,
      List.forall_mem_cons.mpr ⟨hwell.inLists 123,
        List.forall_mem_singleton.mpr (.number ⟨by decide, by decide⟩)⟩⟩
  have hdeeper : deeper.FloatFree ∧ deeper.WellFormed :=
    ⟨List.forall_mem_singleton.mpr (hfree.inLists 124),
      List.forall_mem_singleton.mpr (hwell.inLists 124)⟩
  have hread : read.FloatFree :=
    List.forall_mem_cons.mpr ⟨hfree, List.forall_mem_singleton.mpr (.whole _)⟩
  have htext : Invocation.parse text = .ok read := by
    simp only [text, read, value]
    rfl
  have hdepth : invocation.depth = 125 := by
    show max (value.inLists 123).depth 0 = 125
    rw [Json.depth_inLists]
    rfl
  have hbeyond : deeper.depth = 126 := by
    show max (value.inLists 124).depth 0 = 126
    rw [Json.depth_inLists]
    rfl
  obtain ⟨hback, -⟩ := (invocation_read_back invocation hinvocation.1).1 hinvocation.2
  obtain ⟨hrefused, hroom⟩ := (invocation_read_back deeper hdeeper.1).1 hdeeper.2
  rw [if_pos (Nat.le_of_eq hdepth)] at hback
  rw [hbeyond, if_neg (by decide)] at hrefused
  exact ⟨⟨hinvocation.1, hinvocation.2, hdepth, hback⟩,
    ⟨hdeeper.1, hdeeper.2, hrefused, hroom 126 (Nat.le_of_eq hbeyond)⟩, hread, htext,
    ((invocation_read_back read hread).2 text htext).2.2⟩

end Switchboard
