import Mathlib.Data.String.Basic
import Switchboard.Json.Record
import Switchboard.Proofs.Lexemes

namespace Switchboard.Json

/-- The members stand in ascending order of their names, so that no two of them have the same. -/
def Ascending (members : List (String × Json)) : Prop :=
  members.Pairwise fun a b => a.1 < b.1

/-- A value whose whole numbers are within 64 bits and whose objects have their members in order. -/
inductive WellFormed : Json → Prop
  | null : WellFormed .null
  | bool (b : Bool) : WellFormed (.bool b)
  | number {n : Number} (h : n.Fits) : WellFormed (.number n)
  | string (s : String) : WellFormed (.string s)
  | array {items : List Json} (h : ∀ item ∈ items, WellFormed item) : WellFormed (.array items)
  | object {members : List (String × Json)} (hascending : Ascending members)
      (h : ∀ member ∈ members, WellFormed member.2) : WellFormed (.object members)

/-- A value without floating-point numbers at any depth. -/
inductive FloatFree : Json → Prop
  | null : FloatFree .null
  | bool (b : Bool) : FloatFree (.bool b)
  | whole (n : Int) : FloatFree (.number (.whole n))
  | string (s : String) : FloatFree (.string s)
  | array {items : List Json} (h : ∀ item ∈ items, FloatFree item) : FloatFree (.array items)
  | object {members : List (String × Json)} (h : ∀ member ∈ members, FloatFree member.2) :
      FloatFree (.object members)

theorem depthItems_le_iff {items : List Json} {room : Nat} :
    depthItems items ≤ room ↔ ∀ item ∈ items, item.depth ≤ room := by
  induction items with
  | nil => simp [depthItems]
  | cons item rest ih => rw [depthItems, Nat.max_le, ih, List.forall_mem_cons]

theorem depthMembers_le_iff {members : List (String × Json)} {room : Nat} :
    depthMembers members ≤ room ↔ ∀ member ∈ members, member.2.depth ≤ room := by
  induction members with
  | nil => simp [depthMembers]
  | cons member rest ih =>
      obtain ⟨name, value⟩ := member
      rw [depthMembers, Nat.max_le, ih, List.forall_mem_cons]

theorem mem_putMember {name : String} {value : Json} {members : List (String × Json)}
    {member : String × Json} (h : member ∈ putMember name value members) :
    member = (name, value) ∨ member ∈ members := by
  induction members with
  | nil => exact .inl (List.mem_singleton.mp h)
  | cons first rest ih =>
      obtain ⟨other, old⟩ := first
      unfold putMember at h
      split_ifs at h with hsame hless
      · rcases List.mem_cons.mp h with hnew | hrest
        · exact .inl hnew
        · exact .inr (List.mem_cons_of_mem _ hrest)
      · exact List.mem_cons.mp h
      · rcases List.mem_cons.mp h with hfirst | hrest
        · exact .inr (hfirst ▸ List.mem_cons_self)
        · exact (ih hrest).imp_right (List.mem_cons_of_mem _)

theorem Ascending.putMember {members : List (String × Json)} (h : Ascending members) (name : String)
    (value : Json) : Ascending (putMember name value members) := by
  induction members with
  | nil => exact List.pairwise_singleton _ _
  | cons first rest ih =>
      obtain ⟨other, old⟩ := first
      obtain ⟨hfirst, hrest⟩ := List.pairwise_cons.mp h
      unfold Json.putMember
      split_ifs with hsame hless
      · subst hsame
        exact List.pairwise_cons.mpr ⟨hfirst, hrest⟩
      · refine List.pairwise_cons.mpr ⟨?_, h⟩
        rintro member hmember
        rcases List.mem_cons.mp hmember with rfl | hmember
        · exact hless
        · exact hless.trans (hfirst member hmember)
      · refine List.pairwise_cons.mpr ⟨?_, ih hrest⟩
        intro member hmember
        rcases mem_putMember hmember with rfl | hmember
        · exact lt_of_le_of_ne (not_lt.mp hless) (Ne.symm hsame)
        · exact hfirst member hmember

def Admitted (room : Nat) (members : List (String × Json)) : Prop :=
  Ascending members ∧ ∀ member ∈ members, member.2.WellFormed ∧ member.2.depth ≤ room

theorem Admitted.putMember {room : Nat} {members : List (String × Json)} (h : Admitted room members)
    (name : String) {value : Json} (hvalue : value.WellFormed ∧ value.depth ≤ room) :
    Admitted room (putMember name value members) := by
  refine ⟨h.1.putMember name value, fun member hmember => ?_⟩
  rcases mem_putMember hmember with rfl | hmember
  · exact hvalue
  · exact h.2 member hmember

theorem putMember_eq_concat {members : List (String × Json)} {name : String}
    (h : ∀ member ∈ members, member.1 < name) (value : Json) :
    putMember name value members = members ++ [(name, value)] := by
  induction members with
  | nil => rfl
  | cons first rest ih =>
      obtain ⟨other, old⟩ := first
      obtain ⟨hfirst, hrest⟩ := List.forall_mem_cons.mp h
      have hless : other < name := hfirst
      rw [putMember, if_neg hless.ne', if_neg hless.not_gt, ih hrest, List.cons_append]

section Reading

variable {α β σ : Type} {text rest : List Char} {bound : Nat} {first : Bool}

/-- What every item that is read has in common is true of all items of a list. -/
theorem forall_of_readItems {item : Reader α} {P : α → Prop}
    (hitem : ∀ text a rest, item text = .ok (a, rest) → P a) {all : List α}
    (h : readItems item bound first text = .ok (all, rest)) : ∀ a ∈ all, P a := by
  induction bound generalizing first text all with
  | zero => cases h
  | succ bound ih =>
      unfold readItems at h
      obtain ⟨next, -, h⟩ := bind_eq_ok_iff.mp h
      rcases next with _ | more
      · cases h
        simp
      · obtain ⟨⟨a, after⟩, ha, h⟩ := bind_eq_ok_iff.mp h
        obtain ⟨⟨others, after'⟩, hothers, h⟩ := bind_eq_ok_iff.mp h
        cases h
        exact List.forall_mem_cons.mpr ⟨hitem more a after ha, ih hothers⟩

theorem forall_of_readList {item : Nat → Reader α} {P : α → Prop} {room : Nat}
    (hitem : ∀ text a rest, item room text = .ok (a, rest) → P a) {all : List α}
    (h : readList item (room + 1) text = .ok (all, rest)) : ∀ a ∈ all, P a := by
  rw [readList] at h
  split at h
  · obtain ⟨⟨items, _⟩, hitems, h⟩ := bind_eq_ok_iff.mp h
    obtain ⟨_, -, h⟩ := bind_eq_ok_iff.mp h
    cases h
    exact forall_of_readItems hitem hitems
  · cases h

theorem of_readMembers {member : σ → String → Except Fault (Reader σ)} (P : σ → Prop)
    (hmember : ∀ all name read, P all → member all name = .ok read →
      ∀ text after rest, read text = .ok (after, rest) → P after)
    {all after : σ} (hall : P all)
    (h : readMembers member bound first all text = .ok (after, rest)) : P after := by
  induction bound generalizing first text all with
  | zero => cases h
  | succ bound ih =>
      unfold readMembers at h
      obtain ⟨next, -, h⟩ := bind_eq_ok_iff.mp h
      rcases next with _ | ⟨name, more⟩
      · cases h
        exact hall
      · obtain ⟨read, hread, h⟩ := bind_eq_ok_iff.mp h
        obtain ⟨value, -, h⟩ := bind_eq_ok_iff.mp h
        obtain ⟨⟨added, left⟩, hadded, h⟩ := bind_eq_ok_iff.mp h
        exact ih (hmember all name read hall hread value added left hadded) h

/-- A value that is read is well formed, and it is nested no deeper than there is room for. -/
theorem wellFormed_of_readValue {room : Nat} {value : Json}
    (h : readValue room text = .ok (value, rest)) : value.WellFormed ∧ value.depth ≤ room := by
  induction room using Nat.strongRecOn generalizing text rest value with
  | _ room ih =>
      unfold readValue at h
      split at h
      · cases h
      · obtain ⟨_, -, h⟩ := bind_eq_ok_iff.mp h
        cases h
        exact ⟨.null, Nat.zero_le room⟩
      · obtain ⟨_, -, h⟩ := bind_eq_ok_iff.mp h
        cases h
        exact ⟨.bool true, Nat.zero_le room⟩
      · obtain ⟨_, -, h⟩ := bind_eq_ok_iff.mp h
        cases h
        exact ⟨.bool false, Nat.zero_le room⟩
      · obtain ⟨⟨s, _⟩, -, h⟩ := bind_eq_ok_iff.mp h
        cases h
        exact ⟨.string s, Nat.zero_le room⟩
      · obtain ⟨⟨n, _⟩, hn, h⟩ := bind_eq_ok_iff.mp h
        cases h
        exact ⟨.number (fits_of_readNumber hn), Nat.zero_le room⟩
      · split at h
        · cases h
        · rename_i room
          obtain ⟨⟨items, _⟩, hitems, h⟩ := bind_eq_ok_iff.mp h
          obtain ⟨_, -, h⟩ := bind_eq_ok_iff.mp h
          cases h
          have hall : ∀ item ∈ items, item.WellFormed ∧ item.depth ≤ room :=
            forall_of_readItems (fun _ _ _ hitem => ih room (Nat.lt_succ_self room) hitem) hitems
          exact ⟨.array fun item hmem => (hall item hmem).1,
            Nat.succ_le_succ (depthItems_le_iff.mpr fun item hmem => (hall item hmem).2)⟩
      · split at h
        · cases h
        · rename_i room
          obtain ⟨⟨members, _⟩, hmembers, h⟩ := bind_eq_ok_iff.mp h
          obtain ⟨_, -, h⟩ := bind_eq_ok_iff.mp h
          cases h
          have hnone : Admitted room [] := ⟨.nil, nofun⟩
          have hall : Admitted room members := by
            refine of_readMembers (Admitted room) ?_ hnone hmembers
            rintro all name _ hall ⟨⟩ text after rest hread
            obtain ⟨⟨value, _⟩, hvalue, hread⟩ := bind_eq_ok_iff.mp hread
            cases hread
            exact hall.putMember name (ih room (Nat.lt_succ_self room) hvalue)
          exact ⟨.object hall.1 fun member hmem => (hall.2 member hmem).1,
            Nat.succ_le_succ (depthMembers_le_iff.mpr fun member hmem => (hall.2 member hmem).2)⟩
      · split at h
        · obtain ⟨⟨n, _⟩, hn, h⟩ := bind_eq_ok_iff.mp h
          cases h
          exact ⟨.number (fits_of_readNumber hn), Nat.zero_le room⟩
        · cases h

theorem exists_of_readAll {reader : Nat → Reader α} {text : String} {a : α}
    (h : readAll reader text = .ok a) : ∃ rest, reader maxDepth text.toList = .ok (a, rest) := by
  obtain ⟨⟨b, rest⟩, hread, h⟩ := bind_eq_ok_iff.mp h
  dsimp only at h
  split_ifs at h
  cases h
  exact ⟨rest, hread⟩

variable {P : α → Prop}

theorem Field.of_resolve {field : Field α} {found : Option α} {a : α}
    (hfound : ∀ a ∈ found, P a) (habsent : ∀ a ∈ field.absent, P a)
    (h : field.resolve found = .ok a) : P a := by
  rw [resolve] at h
  split at h
  · rename_i b hb
    cases h
    rcases found with _ | c
    · exact habsent a hb
    · exact hfound a hb
  · cases h

theorem Field.of_readItem {field : Field α} {title : String} {position room : Nat} {a : α}
    (hread : ∀ text a rest, field.read room text = .ok (a, rest) → P a)
    (habsent : ∀ a ∈ field.absent, P a)
    (h : field.readItem title position room first text = .ok (a, rest)) : P a := by
  rw [Field.readItem] at h
  obtain ⟨next, -, h⟩ := bind_eq_ok_iff.mp h
  split at h
  · exact hread _ a rest h
  · split at h
    · rename_i b hb
      cases h
      exact habsent a hb
    · cases h

theorem of_fieldMember {f : Field α} {g : Field β} {room : Nat} {Q : β → Prop} {name : String}
    {found after : Option α × Option β} {read : Reader (Option α × Option β)}
    (hf : ∀ text a rest, f.read room text = .ok (a, rest) → P a)
    (hg : ∀ text b rest, g.read room text = .ok (b, rest) → Q b)
    (hfound : (∀ a ∈ found.1, P a) ∧ ∀ b ∈ found.2, Q b)
    (hmember : fieldMember f g room found name = .ok read) (h : read text = .ok (after, rest)) :
    (∀ a ∈ after.1, P a) ∧ ∀ b ∈ after.2, Q b := by
  rw [fieldMember] at hmember
  split_ifs at hmember
  · cases hmember
    obtain ⟨⟨a, _⟩, ha, h⟩ := bind_eq_ok_iff.mp h
    cases h
    refine ⟨?_, hfound.2⟩
    rintro _ ⟨⟩
    exact hf _ a _ ha
  · cases hmember
    obtain ⟨⟨b, _⟩, hb, h⟩ := bind_eq_ok_iff.mp h
    cases h
    refine ⟨hfound.1, ?_⟩
    rintro _ ⟨⟩
    exact hg _ b _ hb
  · cases hmember
    obtain ⟨_, -, h⟩ := bind_eq_ok_iff.mp h
    cases h
    exact hfound

/-- What every value that is read for a field has in common, and its value when it is left out, is true
of the field of a record that is read, in either form of the record. -/
theorem of_readRecord {title : String} {f : Field α} {g : Field β} {room : Nat} {a : α} {b : β}
    (P : α → Prop) (Q : β → Prop)
    (hf : ∀ text a rest, f.read room text = .ok (a, rest) → P a) (hfabsent : ∀ a ∈ f.absent, P a)
    (hg : ∀ text b rest, g.read room text = .ok (b, rest) → Q b) (hgabsent : ∀ b ∈ g.absent, Q b)
    (h : readRecord title f g (room + 1) text = .ok ((a, b), rest)) : P a ∧ Q b := by
  rw [readRecord] at h
  split at h
  · obtain ⟨⟨a', _⟩, ha, h⟩ := bind_eq_ok_iff.mp h
    obtain ⟨⟨b', _⟩, hb, h⟩ := bind_eq_ok_iff.mp h
    obtain ⟨_, -, h⟩ := bind_eq_ok_iff.mp h
    cases h
    exact ⟨Field.of_readItem hf hfabsent ha, Field.of_readItem hg hgabsent hb⟩
  · obtain ⟨⟨found, _⟩, hfound, h⟩ := bind_eq_ok_iff.mp h
    obtain ⟨a', ha, h⟩ := bind_eq_ok_iff.mp h
    obtain ⟨b', hb, h⟩ := bind_eq_ok_iff.mp h
    obtain ⟨_, -, h⟩ := bind_eq_ok_iff.mp h
    cases h
    have hnone : (∀ a ∈ (none : Option α), P a) ∧ ∀ b ∈ (none : Option β), Q b := by simp
    have hboth : (∀ a ∈ found.1, P a) ∧ ∀ b ∈ found.2, Q b :=
      of_readMembers (fun all => (∀ a ∈ all.1, P a) ∧ ∀ b ∈ all.2, Q b)
        (fun _ _ _ hall hmember _ _ _ => of_fieldMember hf hg hall hmember) hnone hfound
    exact ⟨Field.of_resolve hboth.1 hfabsent ha, Field.of_resolve hboth.2 hgabsent hb⟩
  · cases h

end Reading

end Switchboard.Json
