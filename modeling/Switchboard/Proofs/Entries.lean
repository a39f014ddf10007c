import Mathlib.Data.List.TakeWhile
import Switchboard.Settings.EnvFile

/-!
What a file of variables says. Which of its parts are entries, under which names, and where the first
malformed one stands, does not depend on the variables that are known; these only fill in the references.
A value is made of characters of its part and of known values.
-/

namespace Switchboard

theorem toByteArray_of_fromUTF8? {bytes : ByteArray} {text : String}
    (h : String.fromUTF8? bytes = some text) : text.toByteArray = bytes := by
  unfold String.fromUTF8? at h
  split at h
  · cases h
    rfl
  · cases h

theorem fromUTF8?_toUTF8 (text : String) : String.fromUTF8? text.toUTF8 = some text :=
  dif_pos text.isValidUTF8

theorem zero_mem_toByteArray {text : String} (h : '\x00' ∈ text.toList) :
    (0 : UInt8) ∈ text.toByteArray.data.toList := by
  rw [← String.utf8Encode_toList, List.utf8Encode, List.toList_data_toByteArray]
  exact List.mem_flatMap.mpr ⟨'\x00', h, by decide⟩

theorem forall_ne_zero_of_fromUTF8? {bytes : ByteArray} {text : String}
    (h : String.fromUTF8? bytes = some text) (hbytes : ∀ byte ∈ bytes.data.toList, byte ≠ 0) :
    ∀ c ∈ text.toList, c ≠ '\x00' := by
  rintro c hc rfl
  have hzero := zero_mem_toByteArray hc
  rw [toByteArray_of_fromUTF8? h] at hzero
  exact hbytes 0 hzero rfl

namespace Variable

theorem eq_append_of_after? {start text rest : List Char} (h : after? start text = some rest) :
    text = start ++ rest := by
  induction start generalizing text with
  | nil => exact Option.some.inj h
  | cons c start ih =>
      cases text with
      | nil => cases h
      | cons d text =>
          rw [after?] at h
          split at h
          · rename_i hsame
            rw [hsame, ih h, List.cons_append]
          · cases h

theorem exists_suffix_of_lookUp {value? : String → Option String} {name found : String}
    (h : lookUp value? name = some found) :
    ∃ own value, value? own = some value ∧ found.toList <:+ value.toList := by
  unfold lookUp at h
  split at h
  · exact ⟨name, found, h, List.suffix_rfl⟩
  · rename_i own _ start _
    obtain ⟨value, hvalue, h⟩ := Option.bind_eq_some_iff.mp h
    obtain ⟨rest, hrest, h⟩ := Option.bind_eq_some_iff.mp h
    cases h
    refine ⟨_, value, hvalue, start ++ ['='], ?_⟩
    rw [String.toList_ofList, ← eq_append_of_after? hrest]

theorem lookUp_of_not_mem {name : String} (h : '=' ∉ name.toList)
    (value? : String → Option String) : lookUp value? name = value? name := by
  have hnone : name.toList.dropWhile (· ≠ '=') = [] := by
    rw [List.dropWhile_eq_nil_iff]
    intro c hc
    exact decide_eq_true fun hsame => h (hsame ▸ hc)
  unfold lookUp split
  rw [hnone]

end Variable

open Switchboard.Text

namespace EnvFile

variable {known other : String → Option String}

/-- A name that a variable can be set under. -/
structure Proper (name : String) : Prop where
  nonempty : name.isEmpty = false
  no_equals : '=' ∉ name.toList
  no_zero : '\x00' ∉ name.toList

theorem continuesName_of_startsName {c : Char} (h : startsName c = true) :
    continuesName c = true := by
  unfold startsName at h
  unfold continuesName Char.isAlphanum
  rcases Bool.or_eq_true_iff.mp h with hletter | hline
  · simp [hletter]
  · simp [hline]

theorem proper_of_name? {line name rest : List Char} (h : name? line = some (name, rest)) :
    Proper (String.ofList name) := by
  unfold name? at h
  split at h
  · rename_i hstarts
    cases h
    have hname : ∀ c ∈ line.takeWhile continuesName, continuesName c = true :=
      fun c hc => List.mem_takeWhile_imp hc
    refine ⟨?_, fun hmem => ?_, fun hmem => ?_⟩
    · cases line with
      | nil => cases hstarts
      | cons c line =>
          rw [List.takeWhile_cons, continuesName_of_startsName hstarts, if_pos rfl]
          simp
    · rw [String.toList_ofList] at hmem
      exact absurd (hname _ hmem) (by decide)
    · rw [String.toList_ofList] at hmem
      exact absurd (hname _ hmem) (by decide)
  · cases h

theorem suffix_of_name? {line name rest : List Char} (h : name? line = some (name, rest)) :
    rest <:+ line := by
  unfold name? at h
  split at h
  · cases h
    exact List.dropWhile_suffix _
  · cases h

theorem suffix_of_equals? {line rest : List Char} (h : equals? line = some rest) :
    rest <:+ line := by
  unfold equals? at h
  split at h
  · cases h
    exact List.suffix_cons _ _
  · cases h

theorem suffix_trimStart (line : List Char) : trimStart line <:+ line :=
  List.dropWhile_suffix _

theorem proper_of_binding? {line name rest : List Char} (h : binding? line = some (name, rest)) :
    Proper (String.ofList name) ∧ rest <:+ line := by
  unfold binding? at h
  obtain ⟨⟨first, after⟩, hfirst, h⟩ := Option.bind_eq_some_iff.mp h
  have hafter : trimStart after <:+ line := (suffix_trimStart after).trans (suffix_of_name? hfirst)
  simp only at h
  split at h
  · rename_i hequals
    cases h
    exact ⟨proper_of_name? hfirst, (suffix_of_equals? hequals).trans hafter⟩
  · split at h
    · obtain ⟨⟨second, later⟩, hsecond, h⟩ := Option.bind_eq_some_iff.mp h
      obtain ⟨rest, hequals, h⟩ := Option.bind_eq_some_iff.mp h
      cases h
      have hlater : trimStart later <:+ line :=
        (suffix_trimStart later).trans ((suffix_of_name? hsecond).trans hafter)
      exact ⟨proper_of_name? hsecond, (suffix_of_equals? hequals).trans hlater⟩
    · cases h

section

variable {P : Char → Prop}

theorem forall_mem_resolve
    (hknown : ∀ name value, known name = some value → ∀ c ∈ value.toList, P c)
    (name : List Char) : ∀ c ∈ resolve known name, P c := by
  unfold resolve
  rcases hfound : Variable.lookUp known (String.ofList name) with _ | found
  · simp
  · obtain ⟨own, value, hvalue, hsuffix⟩ := Variable.exists_suffix_of_lookUp hfound
    intro c hc
    exact hknown own value hvalue c (hsuffix.subset hc)

theorem eq_of_escaped? {c d : Char} (h : escaped? c = some d) : d = c ∨ d = '\n' := by
  unfold escaped? at h
  split_ifs at h
  · exact .inl (Option.some.inj h).symm
  · exact .inr (Option.some.inj h).symm

/-- The characters of a value come from its part and from known values; an escape may stand for the end of
a line. -/
theorem forall_mem_value? (hnewline : P '\n')
    (hknown : ∀ name value, known name = some value → ∀ c ∈ value.toList, P c) {place : Place}
    {text value : List Char} (htext : ∀ c ∈ text, P c) (h : value? known place text = some value) :
    ∀ c ∈ value, P c := by
  induction text generalizing place value with
  | nil =>
      unfold value? at h
      split at h
      · cases h
        exact List.forall_mem_nil P
      · cases h
        exact List.forall_mem_nil P
      · cases h
        exact List.forall_mem_nil P
      · cases h
        exact forall_mem_resolve hknown _
      · cases h
  | cons c rest ih =>
      obtain ⟨hc, hrest⟩ := List.forall_mem_cons.mp htext
      have hmore : ∀ {place : Place} {extend : List Char → List Char},
          (∀ more, (∀ c ∈ more, P c) → ∀ c ∈ extend more, P c) →
            (value? known place rest).map extend = some value → ∀ c ∈ value, P c := by
        intro place extend hextend h
        obtain ⟨more, hmore, rfl⟩ := Option.map_eq_some_iff.mp h
        exact hextend more (ih hrest hmore)
      have hchar : ∀ {d : Char}, P d → ∀ more, (∀ c ∈ more, P c) → ∀ c ∈ d :: more, P c :=
        fun hd more hmore => List.forall_mem_cons.mpr ⟨hd, hmore⟩
      have hresolved : ∀ name more, (∀ c ∈ more, P c) → ∀ c ∈ resolve known name ++ more, P c :=
        fun name more hmore => List.forall_mem_append.mpr ⟨forall_mem_resolve hknown name, hmore⟩
      unfold value? at h
      cases place with
      | afterValue =>
          simp only at h
          split_ifs at h
          · exact ih hrest h
          · cases h
            exact List.forall_mem_nil P
      | escape inDouble =>
          simp only at h
          split at h
          · rename_i d hd
            rcases eq_of_escaped? hd with rfl | rfl
            · exact hmore (hchar hc) h
            · exact hmore (hchar hnewline) h
          · cases h
      | single =>
          simp only at h
          split_ifs at h
          · exact ih hrest h
          · exact hmore (hchar hc) h
      | reference inDouble name =>
          simp only at h
          split_ifs at h
          · exact ih hrest h
          · exact ih hrest h
          · exact hmore (hresolved name) h
          · exact hmore (fun more h => hresolved name _ (hchar hc more h)) h
      | bracedReference inDouble name =>
          simp only at h
          split_ifs at h
          · exact hmore (hresolved name) h
          · exact ih hrest h
      | double =>
          simp only at h
          split_ifs at h
          · exact ih hrest h
          · exact ih hrest h
          · exact ih hrest h
          · exact hmore (hchar hc) h
      | bare =>
          simp only at h
          split_ifs at h
          · exact ih hrest h
          · exact ih hrest h
          · exact ih hrest h
          · exact ih hrest h
          · exact ih hrest h
          · exact hmore (hchar hc) h

end

/-- Whether a value is malformed does not depend on what its references stand for. -/
theorem isSome_value? (known other : String → Option String) (place : Place) (text : List Char) :
    (value? known place text).isSome = (value? other place text).isSome := by
  induction text generalizing place with
  | nil =>
      unfold value?
      split
      · rfl
      · rfl
      · rfl
      · rfl
      · rfl
  | cons c rest ih =>
      unfold value?
      cases place with
      | escape inDouble =>
          simp only
          split
          · rw [Option.isSome_map, Option.isSome_map, ih]
          · rfl
      | _ =>
          simp only
          split_ifs
          all_goals simp only [Option.isSome_map, ih]

theorem mem_of_mem_trim {part : List Char} : ∀ c ∈ trimStart (trimEnd part), c ∈ part := by
  intro c hc
  have hend : c ∈ (trimStart part.reverse).reverse := (suffix_trimStart _).subset hc
  exact List.mem_reverse.mp ((suffix_trimStart _).subset (List.mem_reverse.mp hend))

theorem spec_of_entryOf? {part : List Char} {entry : String × String}
    (h : entryOf? known part = some (some entry)) :
    Proper entry.1 ∧
      (entry.2 = "" ∨ ∃ rest value, (∀ c ∈ rest, c ∈ part) ∧
        value? known .bare rest = some value ∧ entry.2 = String.ofList value) := by
  unfold entryOf? at h
  simp only at h
  split at h
  · cases h
  · obtain ⟨⟨name, rest⟩, hbinding, h⟩ := Option.bind_eq_some_iff.mp h
    obtain ⟨hname, hrest⟩ := proper_of_binding? hbinding
    simp only at h
    split at h
    · cases h
      exact ⟨hname, .inl rfl⟩
    · obtain ⟨value, hvalue, h⟩ := Option.bind_eq_some_iff.mp h
      cases h
      refine ⟨hname, .inr ⟨_, value, fun c hc => ?_, hvalue, rfl⟩⟩
      exact mem_of_mem_trim c (hrest.subset ((suffix_trimStart rest).subset hc))

/-- Whether a part is an entry, and under which name, does not depend on what is known. -/
theorem name_entryOf? (known other : String → Option String) (part : List Char) :
    (entryOf? known part).map (Option.map Prod.fst) =
      (entryOf? other part).map (Option.map Prod.fst) := by
  unfold entryOf?
  simp only
  split
  · rfl
  · rcases binding? (trimStart (trimEnd part)) with _ | ⟨name, rest⟩
    · rfl
    · simp only [Option.bind_eq_bind, Option.bind_some]
      split
      · rfl
      · have hvalue := isSome_value? known other .bare (trimStart rest)
        rcases hfirst : value? known .bare (trimStart rest) with _ | value
        · rw [hfirst, eq_comm, Option.isSome_none, Option.isSome_eq_false_iff,
            Option.isNone_iff_eq_none] at hvalue
          rw [hvalue]
        · rw [hfirst, eq_comm, Option.isSome_some, Option.isSome_iff_exists] at hvalue
          obtain ⟨second, hsecond⟩ := hvalue
          rw [hsecond]
          rfl

/-- The name of a part that is an entry: `some none` if the part says nothing, `none` if it is malformed. -/
def heading? (part : Option (List Char)) : Option (Option String) :=
  part.bind fun part => (entryOf? (fun _ => none) part).map (Option.map Prod.fst)

/-- The entries of a file have the names of its parts up to the first malformed one. -/
theorem map_fst_entriesOf (known : String → Option String) (parts : List (Option (List Char))) :
    (entriesOf known parts).map Prod.fst =
      ((parts.map heading?).takeWhile Option.isSome).filterMap Option.join := by
  induction parts generalizing known with
  | nil => rfl
  | cons part rest ih =>
      rcases part with _ | part
      · rfl
      · have hheading : heading? (some part) = (entryOf? known part).map (Option.map Prod.fst) :=
          name_entryOf? _ known part
        rw [List.map_cons, hheading, entriesOf]
        rcases entryOf? known part with _ | _ | entry
        · rfl
        · exact ih known
        · exact congrArg (entry.1 :: ·) (ih (withEntry known entry))

theorem names_entriesOf (known other : String → Option String)
    (parts : List (Option (List Char))) :
    (entriesOf known parts).map Prod.fst = (entriesOf other parts).map Prod.fst := by
  rw [map_fst_entriesOf, map_fst_entriesOf]

theorem proper_of_mem_entriesOf {parts : List (Option (List Char))} {entry : String × String}
    (h : entry ∈ entriesOf known parts) : Proper entry.1 := by
  induction parts generalizing known with
  | nil => cases h
  | cons part rest ih =>
      rcases part with _ | part
      · cases h
      · unfold entriesOf at h
        rcases hentry : entryOf? known part with _ | _ | first
        · simp [hentry] at h
        · rw [hentry] at h
          exact ih h
        · rw [hentry] at h
          rcases List.mem_cons.mp h with rfl | hlater
          · exact (spec_of_entryOf? hentry).1
          · exact ih hlater

section

variable {P : Char → Prop}

theorem withEntry_eq_some {entry : String × String} {name value : String}
    (h : withEntry known entry name = some value) : known name = some value ∨ value = entry.2 := by
  unfold withEntry at h
  rcases hknown : known name with _ | found
  · rw [hknown] at h
    change (if name = entry.1 then some entry.2 else none) = some value at h
    split at h
    · exact .inr (Option.some.inj h).symm
    · cases h
  · rw [hknown] at h
    exact .inl h

theorem forall_mem_entryOf? (hnewline : P '\n')
    (hknown : ∀ name value, known name = some value → ∀ c ∈ value.toList, P c) {part : List Char}
    (hpart : ∀ c ∈ part, P c) {entry : String × String}
    (h : entryOf? known part = some (some entry)) : ∀ c ∈ entry.2.toList, P c := by
  obtain ⟨-, hempty | ⟨rest, value, hrest, hvalue, hentry⟩⟩ := spec_of_entryOf? h
  · rw [hempty]
    exact List.forall_mem_nil P
  · rw [hentry, String.toList_ofList]
    exact forall_mem_value? hnewline hknown (fun c hc => hpart c (hrest c hc)) hvalue

theorem forall_mem_entriesOf (hnewline : P '\n')
    (hknown : ∀ name value, known name = some value → ∀ c ∈ value.toList, P c)
    {parts : List (Option (List Char))} (hparts : ∀ part, some part ∈ parts → ∀ c ∈ part, P c) :
    ∀ entry ∈ entriesOf known parts, ∀ c ∈ entry.2.toList, P c := by
  induction parts generalizing known with
  | nil => exact List.forall_mem_nil _
  | cons part rest ih =>
      have hrest : ∀ part, some part ∈ rest → ∀ c ∈ part, P c :=
        fun part hmem => hparts part (List.mem_cons_of_mem _ hmem)
      rcases part with _ | part
      · exact List.forall_mem_nil _
      · unfold entriesOf
        rcases hentry : entryOf? known part with _ | _ | first
        · exact List.forall_mem_nil _
        · exact ih hknown hrest
        · have hfirst : ∀ c ∈ first.2.toList, P c :=
            forall_mem_entryOf? hnewline hknown (hparts part List.mem_cons_self) hentry
          refine List.forall_mem_cons.mpr ⟨hfirst, ih (fun name value hvalue => ?_) hrest⟩
          rcases withEntry_eq_some hvalue with hold | rfl
          · exact hknown name value hold
          · exact hfirst

theorem prefix_scan (quoting : Quoting) (line : List Char) : (scan quoting line).1 <+: line := by
  induction line generalizing quoting with
  | nil => exact List.prefix_rfl
  | cons c rest ih =>
      unfold scan
      split
      · exact List.nil_prefix
      · exact (List.prefix_cons_inj c).mpr (ih _)

theorem forall_mem_parts {lines : List (List Char)} (hlines : ∀ line ∈ lines, ∀ c ∈ line, P c)
    {before : List Char} (hbefore : ∀ c ∈ before, P c) (quoting : Quoting) :
    ∀ part, some part ∈ parts before quoting lines → ∀ c ∈ part, P c := by
  induction lines generalizing before quoting with
  | nil =>
      intro part hmem
      unfold parts at hmem
      split at hmem
      · cases hmem
      · simp at hmem
  | cons line rest ih =>
      obtain ⟨hline, hrest⟩ := List.forall_mem_cons.mp hlines
      have hnext := ih hrest (List.forall_mem_nil P) .plain
      have hwhole : ∀ c ∈ before ++ line, P c := List.forall_mem_append.mpr ⟨hbefore, hline⟩
      have hcut : ∀ c ∈ before ++ (scan quoting line).1, P c :=
        fun c hc => hwhole c (((List.prefix_append_right_inj before).mpr
          (prefix_scan quoting line)).subset hc)
      have hcons : ∀ {first : List Char}, (∀ c ∈ first, P c) → ∀ part,
          some part ∈ some first :: parts [] .plain rest → ∀ c ∈ part, P c := by
        intro first hfirst part hmem
        rcases List.mem_cons.mp hmem with hsame | hmem
        · cases hsame
          exact hfirst
        · exact hnext part hmem
      unfold parts
      split
      · exact hcons (List.forall_mem_nil P)
      · split
        · rename_i kept hscan
          rw [hscan] at hcut
          exact hcons hcut
        · exact hcons hwhole
        · exact ih hrest hwhole _

end

theorem mem_of_mem_lines {bytes : List UInt8} :
    ∀ line ∈ lines bytes, ∀ byte ∈ line, byte ∈ bytes := by
  fun_induction lines bytes with
  | case1 => exact List.forall_mem_nil _
  | case2 rest ih =>
      refine List.forall_mem_cons.mpr ⟨fun byte hbyte => ?_, fun line hline byte hbyte => ?_⟩
      · rw [List.mem_singleton.mp hbyte]
        exact List.mem_cons_self
      · exact List.mem_cons_of_mem _ (ih line hline byte hbyte)
  | case3 first rest hfirst hrest =>
      refine List.forall_mem_singleton.mpr fun byte hbyte => ?_
      rw [List.mem_singleton.mp hbyte]
      exact List.mem_cons_self
  | case4 first rest hfirst line more hrest ih =>
      rw [hrest] at ih
      obtain ⟨hline, hmore⟩ := List.forall_mem_cons.mp ih
      refine List.forall_mem_cons.mpr ⟨fun byte hbyte => ?_, fun line hline byte hbyte => ?_⟩
      · rcases List.mem_cons.mp hbyte with rfl | hbyte
        · exact List.mem_cons_self
        · exact List.mem_cons_of_mem _ (hline byte hbyte)
      · exact List.mem_cons_of_mem _ (hmore line hline byte hbyte)

theorem forall_ne_zero_of_legible {bytes : List (List UInt8)}
    (h : ∀ line ∈ bytes, ∀ byte ∈ line, byte ≠ 0) :
    ∀ line ∈ legible bytes, ∀ c ∈ line, c ≠ '\x00' := by
  induction bytes with
  | nil => exact List.forall_mem_nil _
  | cons line rest ih =>
      obtain ⟨hline, hrest⟩ := List.forall_mem_cons.mp h
      unfold legible
      split
      · exact List.forall_mem_nil _
      · rename_i text htext
        have hbytes : ∀ byte ∈ line.toByteArray.data.toList, byte ≠ 0 := by
          rwa [List.toList_data_toByteArray]
        exact List.forall_mem_cons.mpr ⟨forall_ne_zero_of_fromUTF8? htext hbytes, ih hrest⟩

theorem forall_ne_zero_of_partsOf {file : ByteArray} (h : ∀ byte ∈ file.data.toList, byte ≠ 0) :
    ∀ part, some part ∈ partsOf file → ∀ c ∈ part, c ≠ '\x00' := by
  have hbytes : ∀ {bytes : List UInt8}, (∀ byte ∈ bytes, byte ≠ 0) →
      ∀ part, some part ∈ parts [] .plain (legible (lines bytes)) → ∀ c ∈ part, c ≠ '\x00' := by
    intro bytes hbytes
    refine forall_mem_parts (forall_ne_zero_of_legible fun line hline byte hbyte => ?_)
      (List.forall_mem_nil _) .plain
    exact hbytes byte (mem_of_mem_lines line hline byte hbyte)
  unfold partsOf
  simp only
  split
  · rename_i rest hmark
    rw [hmark] at h
    exact hbytes fun byte hbyte => h byte (by simp [hbyte])
  · exact hbytes h

end EnvFile

end Switchboard
