import Switchboard.Proofs.Readings

/-!
What a record reader makes of a written value. Of an object only the values count that stand under the names
of the fields, each name at most once; a list gives the values in the order of the fields. Both forms come
down to the same: each field takes at most one value, and none only if it may be left out.
-/

namespace Switchboard.Json

open Written

variable {α β : Type} {text rest : List Char}

theorem map_eq_ok_iff {f : α → β} {x : Except Fault α} {b : β} :
    f <$> x = .ok b ↔ ∃ a, x = .ok a ∧ b = f a := by
  rcases x with fault | a
  · exact iff_of_false nofun nofun
  · constructor
    · rintro ⟨⟩
      exact ⟨a, rfl, rfl⟩
    · rintro ⟨_, ⟨⟩, rfl⟩
      rfl

theorem map_eq_ok_apply_iff {f : α → β} (hf : Function.Injective f) {x : Except Fault α} {a : α} :
    f <$> x = .ok (f a) ↔ x = .ok a := by
  rw [map_eq_ok_iff]
  constructor
  · rintro ⟨b, hb, hsame⟩
    exact hf hsame ▸ hb
  · exact fun h => ⟨a, h, rfl⟩

theorem answer_eq_ok_iff {x : Option α} {fault : Fault} {a : α} :
    (match x with
      | some a => Except.ok a
      | none => .error fault) = .ok a ↔ x = some a := by
  rcases x with _ | b
  · exact iff_of_false nofun nofun
  · exact ⟨fun h => congrArg some (Except.ok.inj h), fun h => congrArg Except.ok (Option.some.inj h)⟩

/-- The values that stand under a name, in the order of the members. -/
def valuesOf (field : String) (members : List (Quotation × Written)) : List Written :=
  members.filterMap fun member => if member.1.text? = some field then some member.2 else none

/-- Every name of an object is a text. -/
def Named (members : List (Quotation × Written)) : Prop :=
  ∀ member ∈ members, member.1.text?.isSome

/-- What a field takes from the values that are given for it: the only one, or its own value for one that is
left out. -/
def Field.Takes (field : Field α) (make : Written → Except Fault α) : List Written → α → Prop
  | [], a => field.absent = some a
  | [value], a => make value = .ok a
  | _ :: _ :: _, _ => False

section Values

variable {field : String} {name : Quotation} {value : Written} {members : List (Quotation × Written)}

theorem valuesOf_cons_of_eq (h : name.text? = some field) :
    valuesOf field ((name, value) :: members) = value :: valuesOf field members :=
  List.filterMap_cons_some (if_pos h)

theorem valuesOf_cons_of_ne (h : name.text? ≠ some field) :
    valuesOf field ((name, value) :: members) = valuesOf field members :=
  List.filterMap_cons_none (if_neg h)

theorem valuesOf_append (before after : List (Quotation × Written)) :
    valuesOf field (before ++ after) = valuesOf field before ++ valuesOf field after :=
  List.filterMap_append

theorem Quotation.reading_eq_ok_iff {text : String} :
    name.reading = .ok text ↔ name.text? = some text := by
  rw [Quotation.text?]
  rcases name.reading with fault | other
  · exact iff_of_false (by rintro ⟨⟩) (by rintro ⟨⟩)
  · exact ⟨fun h => congrArg some (Except.ok.inj h), fun h => congrArg Except.ok (Option.some.inj h)⟩

theorem named_cons {entry : Quotation × Written} :
    Named (entry :: members) ↔ entry.1.text?.isSome ∧ Named members :=
  List.forall_mem_cons

end Values

theorem named_append {before after : List (Quotation × Written)} :
    Named (before ++ after) ↔ Named before ∧ Named after :=
  List.forall_mem_append

theorem valuesOf_perm {members members' : List (Quotation × Written)} (h : members.Perm members')
    (field : String) : (valuesOf field members).Perm (valuesOf field members') :=
  h.filterMap _

theorem named_perm {members members' : List (Quotation × Written)} (h : members.Perm members') :
    Named members ↔ Named members' :=
  forall_congr' fun _ => imp_congr_left h.mem_iff

section Takes

variable {f : Field α} {make : Written → Except Fault α} {a : α}

/-- The order of its values makes no difference to a field, since it takes one at most. -/
theorem Field.takes_perm {values values' : List Written} (h : values.Perm values') :
    f.Takes make values a ↔ f.Takes make values' a := by
  match values with
  | [] => rw [h.nil_eq]
  | [value] => rw [List.perm_singleton.mp h.symm]
  | value :: value' :: values =>
      match values', h.length_eq with
      | _ :: _ :: _, _ => exact Iff.rfl

theorem Field.length_le_of_takes {values : List Written} (h : f.Takes make values a) :
    values.length ≤ 1 := by
  match values with
  | [] => exact Nat.zero_le 1
  | [_] => exact Nat.le_refl 1

theorem Field.eq_ok_of_takes {values : List Written} {value : Written} (h : f.Takes make values a)
    (hvalue : value ∈ values) : make value = .ok a := by
  match values with
  | [other] => exact List.mem_singleton.mp hvalue ▸ h

end Takes

section Members

variable (f : Field α) (g : Field β) (makeF : Written → Except Fault α) (makeG : Written → Except Fault β)

/-- What is found of a field when its values are read onto what was found before. -/
def Gathers (make : Written → Except Fault α) : Option α → List Written → Option α → Prop
  | found, [], all => all = found
  | none, value :: values, all => ∃ a, make value = .ok a ∧ Gathers make (some a) values all
  | some _, _ :: _, _ => False

def collectField (found : Option α × Option β) (name : String) (value : Written) :
    Except Fault (Option α × Option β) :=
  if name = f.name then
    if found.1.isSome then .error (.repeatedField name) else (some ·, found.2) <$> makeF value
  else if name = g.name then
    if found.2.isSome then .error (.repeatedField name) else (found.1, some ·) <$> makeG value
  else .ok found

def collectMember (found : Option α × Option β) (member : Quotation × Written) :
    Except Fault (Option α × Option β) :=
  member.1.reading >>= fun name => collectField f g makeF makeG found name member.2

def recordOfMembers (members : List (Quotation × Written)) : Except Fault (α × β) := do
  let found ← members.foldlM (collectMember f g makeF makeG) (none, none)
  let a ← f.resolve found.1
  let b ← g.resolve found.2
  .ok (a, b)

variable {f g makeF makeG}

theorem fieldMember_begins {room : Nat} (hF : Makes (f.read room) makeF) (hG : Makes (g.read room) makeG)
    {value : Written} (h : value.Begins text rest) (hrest : Delimits rest)
    (found : Option α × Option β) (name : String) :
    (fieldMember f g room found name >>= fun read => read text) =
      (·, rest) <$> collectField f g makeF makeG found name value := by
  unfold fieldMember collectField
  split_ifs
  · rfl
  · show (f.read room text >>= _) = _
    rw [hF value text rest h hrest]
    exact map_bind_ok (some ·, found.2) rest (makeF value)
  · rfl
  · show (g.read room text >>= _) = _
    rw [hG value text rest h hrest]
    exact map_bind_ok (found.1, some ·) rest (makeG value)
  · show (skim text >>= _) = _
    rw [skim_of_begins h hrest]
    rfl

theorem readsAs_readRecord_object {room : Nat} (hF : Makes (f.read room) makeF)
    (hG : Makes (g.read room) makeG) (title : String) (members : List (Quotation × Written)) :
    ReadsAs (readRecord title f g (room + 1)) (.object members)
      (recordOfMembers f g makeF makeG members) := by
  intro text rest h _
  rw [Begins] at h
  obtain ⟨inner, close, hopen, hmembers, hclose⟩ := h
  have hlength := hmembers.length_add_le fun _ _ _ _ => Begins.length_lt
  have hread := readMembers_of_membersBegin (collectField f g makeF makeG)
    (fun entry _ found name text rest => fun h hrest => fieldMember_begins hF hG h hrest found name)
    (show members.length < inner.length + 1 by omega) hmembers hclose (none, none)
  rw [readRecord, hopen]
  show (readMembers (fieldMember f g room) (inner.length + 1) true (none, none) inner >>= _) = _
  rw [hread, recordOfMembers, bind_map_left, map_bind]
  congr 1
  funext found
  show (f.resolve found.1 >>= _) = _ <$> (f.resolve found.1 >>= _)
  rcases f.resolve found.1 with fault | a
  · rfl
  show (g.resolve found.2 >>= _) = _ <$> (g.resolve found.2 >>= _)
  rcases g.resolve found.2 with fault | b
  · rfl
  show (closeObject close >>= _) = _
  rw [closeObject_of_token hclose]
  rfl

def Field.Adds (field : Field α) (make : Written → Except Fault α) (found : Option α)
    (member : Quotation × Written) (all : Option α) : Prop :=
  if member.1.text? = some field.name then
    found = none ∧ ∃ a, make member.2 = .ok a ∧ all = some a
  else all = found

theorem gathers_valuesOf_cons {member : Quotation × Written} {members : List (Quotation × Written)}
    {found all : Option α} :
    Gathers makeF found (valuesOf f.name (member :: members)) all ↔
      ∃ next, f.Adds makeF found member next ∧ Gathers makeF next (valuesOf f.name members) all := by
  obtain ⟨name, value⟩ := member
  unfold Field.Adds
  by_cases hname : name.text? = some f.name
  · rw [valuesOf_cons_of_eq hname]
    simp only [if_pos hname]
    rcases found with _ | a
    · constructor
      · rintro ⟨a, ha, hall⟩
        exact ⟨some a, ⟨rfl, a, ha, rfl⟩, hall⟩
      · rintro ⟨_, ⟨-, a, ha, rfl⟩, hall⟩
        exact ⟨a, ha, hall⟩
    · exact iff_of_false id nofun
  · rw [valuesOf_cons_of_ne hname]
    simp only [if_neg hname, exists_eq_left]

/-- A member adds to the field of its name, and the other one is left as it was found. -/
theorem collectMember_eq_ok_iff (hfg : f.name ≠ g.name) {member : Quotation × Written}
    {found all : Option α × Option β} :
    collectMember f g makeF makeG found member = .ok all ↔
      member.1.text?.isSome ∧ f.Adds makeF found.1 member all.1 ∧ g.Adds makeG found.2 member all.2 := by
  obtain ⟨a, b⟩ := found
  obtain ⟨a', b'⟩ := all
  rw [collectMember, bind_eq_ok_iff]
  simp only [Quotation.reading_eq_ok_iff]
  unfold Field.Adds collectField
  rcases member.1.text? with _ | text
  · exact iff_of_false nofun nofun
  simp only [Option.some.injEq, exists_eq_left', Option.isSome_some, true_and]
  by_cases hf : text = f.name
  · have hg : text ≠ g.name := fun hg => hfg (hf.symm.trans hg)
    simp only [if_pos hf, if_neg hg]
    rcases a with _ | a
    · show _ <$> makeF member.2 = _ ↔ _
      simp only [map_eq_ok_iff, Prod.mk.injEq, true_and]
      exact ⟨fun ⟨x, hx, ha, hb⟩ => ⟨⟨x, hx, ha⟩, hb⟩, fun ⟨⟨x, hx, ha⟩, hb⟩ => ⟨x, hx, ha, hb⟩⟩
    · exact iff_of_false nofun nofun
  · simp only [if_neg hf]
    by_cases hg : text = g.name
    · simp only [if_pos hg]
      rcases b with _ | b
      · show _ <$> makeG member.2 = _ ↔ _
        simp only [map_eq_ok_iff, Prod.mk.injEq, true_and]
        exact ⟨fun ⟨x, hx, ha, hb⟩ => ⟨ha, x, hx, hb⟩, fun ⟨ha, x, hx, hb⟩ => ⟨x, hx, ha, hb⟩⟩
      · exact iff_of_false nofun nofun
    · simp only [if_neg hg, Except.ok.injEq, Prod.mk.injEq]
      exact and_congr eq_comm eq_comm

/-- The fields are collected each from its own values. The induction is on the members; the fields have
different names, so that a member is of one at most. -/
theorem foldlM_collectMember_eq_ok_iff (hfg : f.name ≠ g.name) {members : List (Quotation × Written)}
    {found all : Option α × Option β} :
    members.foldlM (collectMember f g makeF makeG) found = .ok all ↔
      Named members ∧ Gathers makeF found.1 (valuesOf f.name members) all.1 ∧
        Gathers makeG found.2 (valuesOf g.name members) all.2 := by
  induction members generalizing found with
  | nil =>
      obtain ⟨a, b⟩ := found
      obtain ⟨a', b'⟩ := all
      show Except.ok (a, b) = .ok (a', b') ↔ Named [] ∧ a' = a ∧ b' = b
      rw [Except.ok.injEq, Prod.mk.injEq, eq_comm, @eq_comm _ b]
      exact ⟨fun h => ⟨nofun, h⟩, And.right⟩
  | cons entry members ih =>
      rw [List.foldlM_cons, bind_eq_ok_iff, named_cons, gathers_valuesOf_cons, gathers_valuesOf_cons]
      simp only [ih, collectMember_eq_ok_iff hfg]
      constructor
      · rintro ⟨next, ⟨hname, hf, hg⟩, hnamed, hallF, hallG⟩
        exact ⟨⟨hname, hnamed⟩, ⟨_, hf, hallF⟩, _, hg, hallG⟩
      · rintro ⟨⟨hname, hnamed⟩, ⟨a, hf, hallF⟩, b, hg, hallG⟩
        exact ⟨(a, b), ⟨hname, hf, hg⟩, hnamed, hallF, hallG⟩

theorem resolve_none_eq_ok_iff {a : α} : f.resolve none = .ok a ↔ f.absent = some a :=
  answer_eq_ok_iff

/-- A field takes what is found among its values. -/
theorem takes_iff_gathers {values : List Written} {a : α} :
    f.Takes makeF values a ↔ ∃ found, Gathers makeF none values found ∧ f.resolve found = .ok a := by
  match values with
  | [] => simp only [Gathers, exists_eq_left, resolve_none_eq_ok_iff, Field.Takes]
  | [value] =>
      constructor
      · exact fun h => ⟨some a, ⟨a, h, rfl⟩, rfl⟩
      · rintro ⟨_, ⟨b, hb, rfl⟩, hresolve⟩
        exact (Except.ok.inj hresolve) ▸ hb
  | _ :: _ :: _ => exact iff_of_false id fun ⟨_, ⟨_, _, hmore⟩, _⟩ => hmore

theorem recordOfMembers_eq_ok_iff (hfg : f.name ≠ g.name) {members : List (Quotation × Written)} {a : α}
    {b : β} :
    recordOfMembers f g makeF makeG members = .ok (a, b) ↔
      Named members ∧ f.Takes makeF (valuesOf f.name members) a ∧
        g.Takes makeG (valuesOf g.name members) b := by
  rw [recordOfMembers, takes_iff_gathers, takes_iff_gathers]
  simp only [bind_eq_ok_iff, foldlM_collectMember_eq_ok_iff hfg, Except.ok.injEq, Prod.mk.injEq]
  constructor
  · rintro ⟨found, ⟨hnamed, hF, hG⟩, _, ha, _, hb, rfl, rfl⟩
    exact ⟨hnamed, ⟨_, hF, ha⟩, _, hG, hb⟩
  · rintro ⟨hnamed, ⟨c, hF, ha⟩, d, hG, hb⟩
    exact ⟨(c, d), ⟨hnamed, hF, hG⟩, a, ha, b, hb, rfl, rfl⟩

end Members

section Items

variable (title : String) (f : Field α) (g : Field β) (makeF : Written → Except Fault α)
  (makeG : Written → Except Fault β)

/-- The value of a field that is left out of a list. -/
def Field.unlisted (field : Field α) (position : Nat) : Except Fault α :=
  match field.absent with
  | some a => .ok a
  | none => .error (.wrongLength position ("struct " ++ title ++ " with 2 elements"))

def recordOfItems : List Written → Except Fault (α × β)
  | [] => do
    let a ← f.unlisted title 0
    let b ← g.unlisted title 1
    .ok (a, b)
  | [value] => do
    let a ← makeF value
    let b ← g.unlisted title 1
    .ok (a, b)
  | [value, value'] => do
    let a ← makeF value
    let b ← makeG value'
    .ok (a, b)
  | value :: value' :: _ :: _ => do
    let _ ← makeF value
    let _ ← makeG value'
    .error .trailingText

variable {title f g makeF makeG}

theorem readItem_of_close {room position : Nat} {first : Bool} (h : Token [']'] text rest) :
    f.readItem title position room first text = (·, text) <$> f.unlisted title position := by
  rw [Field.readItem, nextItem_of_close h, ok_bind, Field.unlisted]
  rcases f.absent with _ | a
  · rfl
  · rfl

theorem readItem_of_lead {room : Nat} (hF : Makes (f.read room) makeF) {position : Nat} {first : Bool}
    {start : List Char} {value : Written} (hlead : Lead first text start)
    (h : value.Begins start rest) (hrest : Delimits rest) :
    f.readItem title position room first text = (·, rest) <$> makeF value := by
  rw [Field.readItem, nextItem_of_lead hlead h]
  exact hF value _ rest (begins_skipSpace.mpr h) hrest

theorem closeList_of_lead {start : List Char} {value : Written} (hlead : Lead false text start)
    (h : value.Begins start rest) : closeList text = .error .trailingText := by
  obtain ⟨c, more, hcons, hc⟩ := h.exists_cons
  have hcomma : skipSpace text = ',' :: start := hlead
  rw [closeList_comma hcomma, hcons]
  split
  · rename_i hsame
    exact absurd (List.cons.inj hsame).1 hc
  · rfl

theorem readItems_both {text after after' rest : List Char} {readF : Reader α} {readG : Reader β}
    {x : Except Fault α} {y : Except Fault β} {z : Except Fault Unit}
    (hF : readF text = (·, after) <$> x) (hG : readG after = (·, after') <$> y)
    (hclose : closeList after' = (fun _ => rest) <$> z) :
    (do
      let (a, after) ← readF text
      let (b, after) ← readG after
      let rest ← closeList after
      .ok ((a, b), rest)) = (·, rest) <$> (do
        let a ← x
        let b ← y
        let _ ← z
        .ok (a, b)) := by
  rw [hF]
  rcases x with fault | a
  · rfl
  show (readG after >>= _) = _
  rw [hG]
  rcases y with fault | b
  · rfl
  show (closeList after' >>= _) = _
  rw [hclose]
  rcases z with fault | -
  · rfl
  · rfl

theorem readsAs_readRecord_array {room : Nat} (hF : Makes (f.read room) makeF)
    (hG : Makes (g.read room) makeG) (items : List Written) :
    ReadsAs (readRecord title f g (room + 1)) (.array items)
      (recordOfItems title f g makeF makeG items) := by
  intro text rest h _
  rw [Begins] at h
  obtain ⟨inner, close, hopen, hitems, hclose⟩ := h
  have hend := closeList_of_token hclose
  rw [readRecord, hopen]
  rcases items with _ | ⟨value, _ | ⟨value', _ | ⟨value'', items⟩⟩⟩
  · rw [ItemsBegin] at hitems
    subst hitems
    exact readItems_both (readItem_of_close hclose) (readItem_of_close hclose) (z := .ok ()) hend
  · simp only [ItemsBegin] at hitems
    obtain ⟨start, after, hlead, hvalue, rfl⟩ := hitems
    have hdelimits := hclose.delimits (by decide)
    exact readItems_both (z := .ok ()) (readItem_of_lead hF hlead hvalue hdelimits)
      (readItem_of_close hclose) hend
  · rw [ItemsBegin] at hitems
    obtain ⟨start, after, hlead, hvalue, hmore⟩ := hitems
    have hdelimits := hmore.delimits hclose
    simp only [ItemsBegin] at hmore
    obtain ⟨start', after', hlead', hvalue', rfl⟩ := hmore
    exact readItems_both (z := .ok ()) (readItem_of_lead hF hlead hvalue hdelimits)
      (readItem_of_lead hG hlead' hvalue' (hclose.delimits (by decide))) hend
  · rw [ItemsBegin] at hitems
    obtain ⟨start, after, hlead, hvalue, hmore⟩ := hitems
    have hdelimits := hmore.delimits hclose
    rw [ItemsBegin] at hmore
    obtain ⟨start', after', hlead', hvalue', hmore⟩ := hmore
    have hdelimits' := hmore.delimits hclose
    rw [ItemsBegin] at hmore
    obtain ⟨start'', _, hlead'', hvalue'', -⟩ := hmore
    exact readItems_both (z := .error .trailingText) (readItem_of_lead hF hlead hvalue hdelimits)
      (readItem_of_lead hG hlead' hvalue' hdelimits') (closeList_of_lead hlead'' hvalue'')

theorem unlisted_eq_ok_iff {position : Nat} {a : α} :
    f.unlisted title position = .ok a ↔ f.absent = some a :=
  answer_eq_ok_iff

/-- The first value of a list is of the first field, and the others are of the second. -/
theorem recordOfItems_eq_ok_iff {items : List Written} {a : α} {b : β} :
    recordOfItems title f g makeF makeG items = .ok (a, b) ↔
      f.Takes makeF (items.take 1) a ∧ g.Takes makeG (items.drop 1) b := by
  have hboth {x : Except Fault α} {y : Except Fault β} :
      (x >>= fun a => y >>= fun b => .ok (a, b)) = .ok (a, b) ↔ x = .ok a ∧ y = .ok b := by
    simp only [bind_eq_ok_iff, Except.ok.injEq, Prod.mk.injEq]
    exact ⟨fun ⟨_, hx, _, hy, ha, hb⟩ => ⟨ha ▸ hx, hb ▸ hy⟩, fun ⟨hx, hy⟩ => ⟨a, hx, b, hy, rfl, rfl⟩⟩
  match items with
  | [] => exact hboth.trans (and_congr unlisted_eq_ok_iff unlisted_eq_ok_iff)
  | [value] => exact hboth.trans (and_congr Iff.rfl unlisted_eq_ok_iff)
  | [value, value'] => exact hboth
  | value :: value' :: value'' :: items =>
      refine iff_of_false (fun h => ?_) And.right
      simp only [recordOfItems, bind_eq_ok_iff] at h
      obtain ⟨_, -, _, -, h⟩ := h
      cases h

theorem exists_readsAs_readRecord {value : Written} (room : Nat)
    (h : '[' ∉ value.heads ∧ '\x7b' ∉ value.heads) :
    ∃ x, ReadsAs (readRecord title f g room) value x := by
  refine exists_readsAs_mismatch ("struct " ++ title) fun text c more hcons hc => ?_
  rw [readRecord, hcons]
  split
  · rename_i hsame
    exact absurd ((List.cons.inj hsame).1 ▸ hc) h.1
  · rename_i hsame
    exact absurd ((List.cons.inj hsame).1 ▸ hc) h.2
  · rfl

theorem exists_makes_readRecord {room : Nat} (hF : Makes (f.read room) makeF)
    (hG : Makes (g.read room) makeG) (title : String) :
    ∃ make, Makes (readRecord title f g (room + 1)) make := by
  refine exists_makes fun value => ?_
  cases value with
  | array items => exact ⟨_, readsAs_readRecord_array hF hG items⟩
  | object members => exact ⟨_, readsAs_readRecord_object hF hG title members⟩
  | null | bool b | number n | string s =>
      exact exists_readsAs_readRecord (room + 1) (of_decide_eq_true rfl)

end Items

section Gathered

variable {f : Field α} {g : Field β} {F : Written → Except Fault α} {G : Written → Except Fault β}
  {make : Written → Except Fault (α × β)} {title : String} {room : Nat}

/-- What is made of an object or a list is what its fields take from it. -/
structure Gathered (f : Field α) (g : Field β) (F : Written → Except Fault α) (G : Written → Except Fault β)
    (make : Written → Except Fault (α × β)) : Prop where
  distinct : f.name ≠ g.name
  object (members : List (Quotation × Written)) (a : α) (b : β) :
    make (.object members) = .ok (a, b) ↔
      Named members ∧ f.Takes F (valuesOf f.name members) a ∧ g.Takes G (valuesOf g.name members) b
  array (items : List Written) (a : α) (b : β) :
    make (.array items) = .ok (a, b) ↔ f.Takes F (items.take 1) a ∧ g.Takes G (items.drop 1) b

theorem gathered_of_makes (hF : Makes (f.read room) F) (hG : Makes (g.read room) G)
    (hfg : f.name ≠ g.name) (hmake : Makes (readRecord title f g (room + 1)) make) :
    Gathered f g F G make where
  distinct := hfg
  object members a b := by
    rw [(hmake _).unique (readsAs_readRecord_object hF hG title members)]
    exact recordOfMembers_eq_ok_iff hfg
  array items a b := by
    rw [(hmake _).unique (readsAs_readRecord_array hF hG items)]
    exact recordOfItems_eq_ok_iff

def entry (name : String) (value : Option Written) : List (Quotation × Written) :=
  value.toList.map (Quotation.ofText name, ·)

theorem named_entry (name : String) (value : Option Written) : Named (entry name value) := by
  intro member hmember
  obtain ⟨value, -, rfl⟩ := List.mem_map.mp hmember
  rw [Quotation.text?_ofText]
  rfl

theorem valuesOf_entry (name : String) (value : Option Written) :
    valuesOf name (entry name value) = value.toList := by
  rcases value with _ | value
  · rfl
  · exact valuesOf_cons_of_eq (Quotation.text?_ofText name)

theorem valuesOf_entry_of_ne {field name : String} (h : field ≠ name) (value : Option Written) :
    valuesOf field (entry name value) = [] := by
  rcases value with _ | value
  · rfl
  · refine valuesOf_cons_of_ne ?_
    rw [Quotation.text?_ofText]
    exact fun hsame => h (Option.some.inj hsame).symm

theorem Gathered.entries (h : Gathered f g F G make) (value value' : Option Written) (a : α) (b : β) :
    make (.object (entry f.name value ++ entry g.name value')) = .ok (a, b) ↔
      f.Takes F value.toList a ∧ g.Takes G value'.toList b := by
  have hnamed : Named (entry f.name value ++ entry g.name value') :=
    named_append.mpr ⟨named_entry f.name value, named_entry g.name value'⟩
  rw [h.object, and_iff_right hnamed, valuesOf_append, valuesOf_append, valuesOf_entry, valuesOf_entry,
    valuesOf_entry_of_ne h.distinct, valuesOf_entry_of_ne h.distinct.symm, List.append_nil,
    List.nil_append]

/-- A record whose fields are put into a structure is made from the members of its fields. -/
theorem exists_makes_entries {γ : Type} {build : α → β → γ} (hbuild : Function.Injective2 build)
    (hF : Makes (f.read room) F) (hG : Makes (g.read room) G) (hfg : f.name ≠ g.name) (title : String) :
    ∃ make, Makes (fun text => do
        let (fields, rest) ← readRecord title f g (room + 1) text
        .ok (build fields.1 fields.2, rest)) make ∧
      ∀ value value' a b, make (.object (entry f.name value ++ entry g.name value')) = .ok (build a b) ↔
        f.Takes F value.toList a ∧ g.Takes G value'.toList b := by
  obtain ⟨make, hmake⟩ := exists_makes_readRecord hF hG title
  have hgathered := gathered_of_makes hF hG hfg hmake
  exact ⟨_, hmake.map (Function.uncurry build), fun value value' a b =>
    (map_eq_ok_apply_iff hbuild.uncurry (a := (a, b))).trans (hgathered.entries value value' a b)⟩

end Gathered

end Switchboard.Json
