import Mathlib.Logic.Relation
import Switchboard.Proofs.Grammar

/-!
The form of JSON values that does not matter. A value may be known to be a record of named fields, whose
values may be such records again; then the order of its members, members of other names, and the choice
between an object and a list of the values in the order of the fields are only a matter of form. A record is
flawed if it has a field twice or not all the fields that it must have.
-/

namespace Switchboard.Json

open Written

variable {α β : Type}

/-- What is known of the values that a reader takes: nothing, or that they are records of certain fields, some
of which must be there. -/
inductive Shape
  | plain
  | record (required : List String) (fields : List (String × Shape))

/-- Two answers are the same value, or both are refusals. -/
def Agree (x y : Except Fault α) : Prop :=
  ∀ a, x = .ok a ↔ y = .ok a

namespace Shape

/-- A change of form: of a value of some shape, or of a record within it. -/
inductive Step : Shape → Written → Written → Prop
  | permute {required : List String} {fields : List (String × Shape)}
      {members members' : List (Quotation × Written)} (h : members.Perm members') :
      Step (record required fields) (.object members) (.object members')
  | insert {required : List String} {fields : List (String × Shape)}
      {before after : List (Quotation × Written)} {name : Quotation} {text : String} (value : Written)
      (hname : name.text? = some text) (hunknown : text ∉ fields.map Prod.fst) :
      Step (record required fields) (.object (before ++ after))
        (.object (before ++ (name, value) :: after))
  | listed {required : List String} {fields : List (String × Shape)}
      {members : List (Quotation × Written)}
      (h : (members.map fun member => member.1.text?) <+: fields.map fun field => some field.1) :
      Step (record required fields) (.object members) (.array (members.map Prod.snd))
  | member {required : List String} {fields : List (String × Shape)} {field : String} {shape : Shape}
      {before after : List (Quotation × Written)} {name : Quotation} {value value' : Written}
      (hfield : (field, shape) ∈ fields) (hname : name.text? = some field) (h : Step shape value value') :
      Step (record required fields) (.object (before ++ (name, value) :: after))
        (.object (before ++ (name, value') :: after))
  | item {required : List String} {fields : List (String × Shape)} {field : String} {shape : Shape}
      {before after : List Written} {value value' : Written}
      (hfield : fields[before.length]? = some (field, shape)) (h : Step shape value value') :
      Step (record required fields) (.array (before ++ value :: after))
        (.array (before ++ value' :: after))

def Alike (shape : Shape) : Written → Written → Prop :=
  Relation.EqvGen shape.Step

/-- A record, or one within it, has a field twice, or lacks one that must be there. -/
inductive Flawed : Shape → Written → Prop
  | repeated {required : List String} {fields : List (String × Shape)} {field : String}
      {members : List (Quotation × Written)} (hfield : field ∈ fields.map Prod.fst)
      (h : 2 ≤ (valuesOf field members).length) : Flawed (record required fields) (.object members)
  | missing {required : List String} {fields : List (String × Shape)} {field : String}
      {members : List (Quotation × Written)} (hfield : field ∈ required)
      (h : valuesOf field members = []) : Flawed (record required fields) (.object members)
  | short {required : List String} {fields : List (String × Shape)} {field : String}
      {items : List Written} (hfield : field ∈ required)
      (h : field ∉ (fields.take items.length).map Prod.fst) :
      Flawed (record required fields) (.array items)
  | member {required : List String} {fields : List (String × Shape)} {field : String} {shape : Shape}
      {members : List (Quotation × Written)} {value : Written} (hfield : (field, shape) ∈ fields)
      (hvalue : value ∈ valuesOf field members) (h : Flawed shape value) :
      Flawed (record required fields) (.object members)
  | item {required : List String} {fields : List (String × Shape)} {field : String} {shape : Shape}
      {items : List Written} {value : Written} (hvalue : ((field, shape), value) ∈ fields.zip items)
      (h : Flawed shape value) : Flawed (record required fields) (.array items)

/-- Changes of form make no difference, and a flawed value is refused. -/
structure Ruled (shape : Shape) (make : Written → Except Fault α) : Prop where
  step {value value' : Written} (h : shape.Step value value') : Agree (make value) (make value')
  flawed {value : Written} (h : shape.Flawed value) (a : α) : make value ≠ .ok a

/-- The same of what a reader makes of a value, whatever the text that it stands in; and it takes nothing
but values. -/
structure Rules (shape : Shape) (reader : Reader α) : Prop where
  sound : Sound reader
  ruled : ∃ make, Makes reader make ∧ shape.Ruled make

theorem rules_plain {reader : Reader α} (hsound : Sound reader) (h : ∃ make, Makes reader make) :
    plain.Rules reader := by
  obtain ⟨make, hmake⟩ := h
  exact ⟨hsound, make, hmake, nofun, nofun⟩

end Shape

section Records

variable {f : Field α} {g : Field β} {F : Written → Except Fault α} {G : Written → Except Fault β}
  {shape shape' : Shape} {required : List String} {make : Written → Except Fault (α × β)}

theorem Field.takes_member {before after : List (Quotation × Written)} {name : Quotation}
    {field : String} {value value' : Written} (hname : name.text? = some field)
    (h : field = f.name → Agree (F value) (F value')) (a : α) :
    f.Takes F (valuesOf f.name (before ++ (name, value) :: after)) a ↔
      f.Takes F (valuesOf f.name (before ++ (name, value') :: after)) a := by
  rw [valuesOf_append, valuesOf_append]
  by_cases hfield : field = f.name
  · rw [valuesOf_cons_of_eq (hfield ▸ hname), valuesOf_cons_of_eq (hfield ▸ hname)]
    rcases valuesOf f.name before with _ | ⟨_, _ | _⟩ <;> rcases valuesOf f.name after with _ | _
    · exact h hfield a
    all_goals exact Iff.rfl
  · have hne : name.text? ≠ some f.name := fun hsame =>
      hfield (Option.some.inj (hname.symm.trans hsame))
    rw [valuesOf_cons_of_ne hne, valuesOf_cons_of_ne hne]

namespace Gathered

theorem agree_insert (h : Gathered f g F G make) {before after : List (Quotation × Written)}
    {name : Quotation} {text : String} (value : Written) (hname : name.text? = some text)
    (hunknown : text ∉ [f.name, g.name]) :
    Agree (make (.object (before ++ after))) (make (.object (before ++ (name, value) :: after))) := by
  have hother : ∀ field ∈ [f.name, g.name],
      valuesOf field (before ++ (name, value) :: after) = valuesOf field (before ++ after) := by
    intro field hfield
    rw [valuesOf_append, valuesOf_append, valuesOf_cons_of_ne]
    rw [hname]
    exact fun hsame => hunknown (Option.some.inj hsame ▸ hfield)
  have hnamed : Named (before ++ (name, value) :: after) ↔ Named (before ++ after) := by
    rw [named_append, named_append, named_cons, hname]
    simp
  rintro ⟨a, b⟩
  rw [h.object, h.object, hnamed, hother f.name List.mem_cons_self,
    hother g.name (List.mem_cons_of_mem _ List.mem_cons_self)]

theorem agree_listed (h : Gathered f g F G make) {members : List (Quotation × Written)}
    (hnames : (members.map fun member => member.1.text?) <+: [some f.name, some g.name]) :
    Agree (make (.object members)) (make (.array (members.map Prod.snd))) := by
  have hvalues : Named members ∧ valuesOf f.name members = (members.map Prod.snd).take 1 ∧
      valuesOf g.name members = (members.map Prod.snd).drop 1 := by
    match members with
    | [] => exact ⟨nofun, rfl, rfl⟩
    | [(name, value)] =>
        have hname : name.text? = some f.name := (List.cons_prefix_cons.mp hnames).1
        have hne : name.text? ≠ some g.name := hname ▸ fun hsame => h.distinct (Option.some.inj hsame)
        rw [valuesOf_cons_of_eq hname, valuesOf_cons_of_ne hne, named_cons, hname]
        exact ⟨⟨rfl, nofun⟩, rfl, rfl⟩
    | [(name, value), (name', value')] =>
        obtain ⟨hname, hnames⟩ := List.cons_prefix_cons.mp hnames
        have hname : name.text? = some f.name := hname
        have hname' : name'.text? = some g.name := (List.cons_prefix_cons.mp hnames).1
        have hne : name.text? ≠ some g.name := hname ▸ fun hsame => h.distinct (Option.some.inj hsame)
        have hne' : name'.text? ≠ some f.name :=
          hname' ▸ fun hsame => h.distinct (Option.some.inj hsame).symm
        rw [valuesOf_cons_of_eq hname, valuesOf_cons_of_ne hne', valuesOf_cons_of_ne hne,
          valuesOf_cons_of_eq hname', named_cons, named_cons, hname, hname']
        exact ⟨⟨rfl, rfl, nofun⟩, rfl, rfl⟩
    | _ :: _ :: _ :: _ =>
        have hlength := hnames.length_le
        simp at hlength
  obtain ⟨hnamed, hf, hg⟩ := hvalues
  rintro ⟨a, b⟩
  rw [h.object, h.array, hf, hg, and_iff_right hnamed]

theorem agree_member (h : Gathered f g F G make) {before after : List (Quotation × Written)}
    {name : Quotation} {field : String} {value value' : Written} (hname : name.text? = some field)
    (hf : field = f.name → Agree (F value) (F value'))
    (hg : field = g.name → Agree (G value) (G value')) :
    Agree (make (.object (before ++ (name, value) :: after)))
      (make (.object (before ++ (name, value') :: after))) := by
  rintro ⟨a, b⟩
  rw [h.object, h.object, Field.takes_member hname hf, Field.takes_member hname hg, named_append,
    named_append, named_cons, named_cons]

theorem agree_item (h : Gathered f g F G make) {before after : List Written} {value value' : Written}
    (hf : before.length = 0 → Agree (F value) (F value'))
    (hg : before.length = 1 → Agree (G value) (G value')) :
    Agree (make (.array (before ++ value :: after))) (make (.array (before ++ value' :: after))) := by
  rintro ⟨a, b⟩
  rw [h.array, h.array]
  match before with
  | [] => exact and_congr (hf rfl a) Iff.rfl
  | [_] =>
      refine and_congr Iff.rfl ?_
      rcases after with _ | _
      · exact hg rfl b
      · exact Iff.rfl
  | [_, _] => exact Iff.rfl
  | _ :: _ :: _ :: _ => exact Iff.rfl

/-- No change of form makes a difference to a record, if none does to the values of its fields. -/
theorem agree_of_step (h : Gathered f g F G make) (hF : shape.Ruled F) (hG : shape'.Ruled G)
    {value value' : Written}
    (hstep : (Shape.record required [(f.name, shape), (g.name, shape')]).Step value value') :
    Agree (make value) (make value') := by
  cases hstep with
  | permute hperm =>
      rintro ⟨a, b⟩
      rw [h.object, h.object, named_perm hperm, Field.takes_perm (valuesOf_perm hperm f.name),
        Field.takes_perm (valuesOf_perm hperm g.name)]
  | insert value hname hunknown => exact h.agree_insert value hname hunknown
  | listed hnames => exact h.agree_listed hnames
  | member hfield hname hvalue =>
      rcases List.mem_pair.mp hfield with hfield | hfield
      · obtain ⟨rfl, rfl⟩ := Prod.mk.inj hfield
        exact h.agree_member hname (fun _ => hF.step hvalue) fun hsame => absurd hsame h.distinct
      · obtain ⟨rfl, rfl⟩ := Prod.mk.inj hfield
        exact h.agree_member hname (fun hsame => absurd hsame.symm h.distinct) fun _ => hG.step hvalue
  | item hfield hvalue =>
      refine h.agree_item (fun hlength => ?_) fun hlength => ?_
      · rw [hlength] at hfield
        cases hfield
        exact hF.step hvalue
      · rw [hlength] at hfield
        cases hfield
        exact hG.step hvalue

theorem ne_ok_of_flawed (h : Gathered f g F G make) (hF : shape.Ruled F) (hG : shape'.Ruled G)
    (hrequired : ∀ field ∈ required,
      (field = f.name ∧ f.absent = none) ∨ (field = g.name ∧ g.absent = none))
    {value : Written}
    (hflawed : (Shape.record required [(f.name, shape), (g.name, shape')]).Flawed value) (a : α)
    (b : β) : make value ≠ .ok (a, b) := by
  intro hok
  cases hflawed with
  | repeated hfield hlength =>
      obtain ⟨-, hf, hg⟩ := (h.object _ a b).mp hok
      rcases List.mem_pair.mp hfield with rfl | rfl
      · exact absurd (Field.length_le_of_takes hf) (Nat.not_le.mpr hlength)
      · exact absurd (Field.length_le_of_takes hg) (Nat.not_le.mpr hlength)
  | missing hfield hnone =>
      obtain ⟨-, hf, hg⟩ := (h.object _ a b).mp hok
      rcases hrequired _ hfield with ⟨rfl, habsent⟩ | ⟨rfl, habsent⟩
      · rw [hnone, Field.Takes, habsent] at hf
        cases hf
      · rw [hnone, Field.Takes, habsent] at hg
        cases hg
  | @short _ _ field items hfield hshort =>
      obtain ⟨hf, hg⟩ := (h.array _ a b).mp hok
      rcases hrequired _ hfield with ⟨rfl, habsent⟩ | ⟨rfl, habsent⟩
      · rcases items with _ | ⟨value, items⟩
        · cases habsent.symm.trans hf
        · exact hshort List.mem_cons_self
      · rcases items with _ | ⟨value, _ | ⟨value', items⟩⟩
        · cases habsent.symm.trans hg
        · cases habsent.symm.trans hg
        · exact hshort (List.mem_cons_of_mem _ List.mem_cons_self)
  | member hfield hvalue hflawed =>
      obtain ⟨-, hf, hg⟩ := (h.object _ a b).mp hok
      rcases List.mem_pair.mp hfield with hfield | hfield
      · obtain ⟨rfl, rfl⟩ := Prod.mk.inj hfield
        exact hF.flawed hflawed a (Field.eq_ok_of_takes hf hvalue)
      · obtain ⟨rfl, rfl⟩ := Prod.mk.inj hfield
        exact hG.flawed hflawed b (Field.eq_ok_of_takes hg hvalue)
  | @item _ _ field inner items value hvalue hflawed =>
      obtain ⟨hf, hg⟩ := (h.array _ a b).mp hok
      rcases items with _ | ⟨first, _ | ⟨second, others⟩⟩
      · cases hvalue
      · obtain ⟨⟨rfl, rfl⟩, rfl⟩ := Prod.mk.inj (List.mem_singleton.mp hvalue)
        exact hF.flawed hflawed a hf
      · rcases List.mem_pair.mp hvalue with hvalue | hvalue
        · obtain ⟨⟨rfl, rfl⟩, rfl⟩ := Prod.mk.inj hvalue
          exact hF.flawed hflawed a hf
        · obtain ⟨⟨rfl, rfl⟩, rfl⟩ := Prod.mk.inj hvalue
          exact hG.flawed hflawed b (Field.eq_ok_of_takes hg List.mem_cons_self)

end Gathered

variable {room : Nat}

theorem rules_readRecord (title : String) {f : Field α} {g : Field β} (hf : shape.Rules (f.read room))
    (hg : shape'.Rules (g.read room)) (hfg : f.name ≠ g.name) (required : List String)
    (hrequired : ∀ field ∈ required,
      (field = f.name ∧ f.absent = none) ∨ (field = g.name ∧ g.absent = none)) :
    (Shape.record required [(f.name, shape), (g.name, shape')]).Rules
      (readRecord title f g (room + 1)) := by
  obtain ⟨hsoundF, F, hF, hruledF⟩ := hf
  obtain ⟨hsoundG, G, hG, hruledG⟩ := hg
  obtain ⟨make, hmake⟩ := exists_makes_readRecord hF hG title
  have hgathered := gathered_of_makes hF hG hfg hmake
  exact ⟨sound_readRecord hsoundF hsoundG title, make, hmake, hgathered.agree_of_step hruledF hruledG,
    fun hflawed (a, b) => hgathered.ne_ok_of_flawed hruledF hruledG hrequired hflawed a b⟩

end Records

theorem Agree.map {x y : Except Fault α} (h : Agree x y) (f : α → β) : Agree (f <$> x) (f <$> y) := by
  intro b
  rw [map_eq_ok_iff, map_eq_ok_iff]
  exact exists_congr fun a => and_congr_left' (h a)

theorem Shape.Rules.map {shape : Shape} {reader : Reader α} (h : shape.Rules reader) (f : α → β) :
    shape.Rules (fun text => do
      let (a, rest) ← reader text
      .ok (f a, rest)) := by
  obtain ⟨hsound, make, hmake, hruled⟩ := h
  refine ⟨hsound.map f, _, hmake.map f, fun hstep => (hruled.step hstep).map f, fun hflawed b hok => ?_⟩
  obtain ⟨a, ha, -⟩ := map_eq_ok_iff.mp hok
  exact hruled.flawed hflawed a ha

/-- A decoder goes by a shape: whatever is decoded is a JSON text, texts that differ only in form and in white
space are decoded alike, and texts of flawed values are refused. -/
structure Shape.Governs (shape : Shape) (decode : String → Except Fault α) : Prop where
  written {text : String} {a : α} (h : decode text = .ok a) : ∃ value : Written, value.Document text
  alike {value value' : Written} {text text' : String} (h : shape.Alike value value')
    (htext : value.Document text) (htext' : value'.Document text') :
    ∀ a, decode text = .ok a ↔ decode text' = .ok a
  refused {value : Written} {text : String} (h : shape.Flawed value) (htext : value.Document text) :
    ∃ fault, decode text = .error fault

theorem Shape.Rules.governs {shape : Shape} {reader : Nat → Reader α}
    (h : shape.Rules (reader maxDepth)) : shape.Governs (readAll reader) := by
  obtain ⟨hsound, make, hmake, hruled⟩ := h
  refine ⟨exists_document_of_readAll hsound, fun halike htext htext' => ?_, fun hflawed htext => ?_⟩
  · rw [readAll_of_document hmake htext, readAll_of_document hmake htext']
    clear htext htext'
    induction halike with
    | rel value value' hstep => exact hruled.step hstep
    | refl value => exact fun _ => Iff.rfl
    | symm value value' _ ih => exact fun a => (ih a).symm
    | trans value value' value'' _ _ ih ih' => exact fun a => (ih a).trans (ih' a)
  · rw [readAll_of_document hmake htext]
    rcases hvalue : make _ with fault | a
    · exact ⟨fault, rfl⟩
    · exact absurd hvalue (hruled.flawed hflawed a)

end Switchboard.Json
