import Switchboard.Proofs.Entries
import Switchboard.Proofs.Table
import Switchboard.Settings.Ambient

namespace Switchboard

theorem Settings.ofVariables_congr {given other : Variables}
    (h : ∀ name ∈ ["APP_NAME", "APP_ENV", "HUB_CONNECTION_BUFFER", "HUB_GROUP_CLEANUP"],
      given name = other name) : Settings.ofVariables given = Settings.ofVariables other := by
  simp only [List.forall_mem_cons] at h
  obtain ⟨hname, henvironment, hbuffer, hcleanup, -⟩ := h
  unfold Settings.ofVariables LifetimeSettings.ofVariables ApplicationSettings.ofVariables
  rw [hname, henvironment, hbuffer, hcleanup]

namespace Ambient

open EnvFile

/-- No value holds a zero byte: such a byte ends a variable. -/
def ZeroFree (ambient : Ambient) : Prop :=
  ∀ value ∈ ambient.variables.values, ∀ byte ∈ value.data.toList, byte ≠ 0

/-- Goes through the parts of a file. Each is read with the variables as they are by then, and what it names
is set if there is nothing under its name; the first part that is malformed ends it. -/
def follow (ambient : Ambient) : List (Option (List Char)) → Except Unsettable Ambient
  | [] => .ok ambient
  | none :: _ => .ok ambient
  | some part :: rest =>
    match entryOf? ambient.value? part with
    | none => .ok ambient
    | some none => follow ambient rest
    | some (some entry) => do
      let ambient ← ambient.complete entry
      follow ambient rest

/-- The variables with an entry, which counts if there is no text under its name. -/
def completed (ambient : Ambient) (entry : String × String) : Ambient :=
  if (ambient.value? entry.1).isSome then ambient
  else ⟨ambient.variables.insert entry.1 entry.2.toUTF8⟩

variable {ambient : Ambient} {entry : String × String}

theorem lookup_of_not_mem {name : String} (h : '=' ∉ name.toList) (ambient : Ambient) :
    ambient.lookup name = ambient.value? name :=
  Variable.lookUp_of_not_mem h ambient.value?

theorem complete_of_proper (ambient : Ambient) (hname : Proper entry.1) :
    ambient.complete entry = .ok (ambient.completed entry) ∨
      ∃ fault, '\x00' ∈ entry.2.toList ∧ ambient.complete entry = .error fault := by
  unfold complete completed
  rw [lookup_of_not_mem hname.no_equals]
  split
  · exact .inl rfl
  · unfold set
    by_cases hzero : '\x00' ∈ entry.2.toList
    · exact .inr ⟨_, hzero, if_pos (by simp [hzero])⟩
    · refine .inl ?_
      rw [if_neg (by simp [hname.no_zero, hzero]),
        if_neg (by simp [hname.nonempty, hname.no_equals])]

theorem get?_completed (ambient : Ambient) (entry : String × String) (name : String) :
    (ambient.completed entry).variables.get? name =
      if name = entry.1 ∧ ambient.value? name = none then some entry.2.toUTF8
      else ambient.variables.get? name := by
  unfold completed
  split
  · rename_i hthere
    rw [if_neg]
    rintro ⟨rfl, hnone⟩
    rw [hnone] at hthere
    cases hthere
  · rename_i hthere
    rw [Option.not_isSome_iff_eq_none] at hthere
    rw [Table.get?_insert]
    split
    · rename_i hsame
      rw [if_pos ⟨hsame, hsame ▸ hthere⟩]
    · rename_i hother
      rw [if_neg fun h => hother h.1]

theorem value?_completed (ambient : Ambient) (entry : String × String) :
    (ambient.completed entry).value? = withEntry ambient.value? entry := by
  funext name
  change ((ambient.completed entry).variables.get? name).bind String.fromUTF8? = _
  rw [get?_completed]
  unfold withEntry
  rcases hvalue : ambient.value? name with _ | value
  · by_cases hsame : name = entry.1
    · rw [if_pos ⟨hsame, rfl⟩, if_pos hsame]
      exact fromUTF8?_toUTF8 entry.2
    · rw [if_neg fun h => hsame h.1, if_neg hsame]
      exact hvalue
  · rw [if_neg fun h => nomatch h.2]
    exact hvalue

/-- It makes no difference that the entries are read before the first of them is set. -/
theorem foldlM_complete_eq_follow (ambient : Ambient) (parts : List (Option (List Char))) :
    (entriesOf ambient.value? parts).foldlM complete ambient = ambient.follow parts := by
  -- Once an entry is set, what is known is what it was and the entry, as it is while they are only read.
  induction parts generalizing ambient with
  | nil => rfl
  | cons part rest ih =>
      rcases part with _ | part
      · rfl
      · unfold entriesOf follow
        rcases hentry : entryOf? ambient.value? part with _ | _ | entry
        · rfl
        · exact ih ambient
        · simp only [List.foldlM_cons]
          have hname : Proper entry.1 := (spec_of_entryOf? hentry).1
          rcases complete_of_proper ambient hname with hcomplete | ⟨fault, -, hcomplete⟩
          · rw [hcomplete, ← value?_completed]
            exact ih (ambient.completed entry)
          · rw [hcomplete]
            rfl

theorem foldlM_complete {entries : List (String × String)}
    (h : ∀ entry ∈ entries, Proper entry.1 ∧ ∀ c ∈ entry.2.toList, c ≠ '\x00')
    (ambient : Ambient) :
    entries.foldlM complete ambient = .ok (entries.foldl completed ambient) := by
  induction entries generalizing ambient with
  | nil => rfl
  | cons entry rest ih =>
      obtain ⟨⟨hname, hvalue⟩, hrest⟩ := List.forall_mem_cons.mp h
      have hcomplete := (complete_of_proper ambient hname).resolve_right
        fun ⟨fault, hzero, _⟩ => hvalue _ hzero rfl
      rw [List.foldlM_cons, hcomplete, List.foldl_cons]
      exact ih hrest (ambient.completed entry)

theorem foldlM_complete_of_there {entries : List (String × String)}
    (h : ∀ name ∈ entries.map Prod.fst, Proper name ∧ (ambient.value? name).isSome = true) :
    entries.foldlM complete ambient = .ok ambient := by
  induction entries with
  | nil => rfl
  | cons entry rest ih =>
      obtain ⟨⟨hname, hthere⟩, hrest⟩ := List.forall_mem_cons.mp h
      have hcomplete : ambient.complete entry = .ok ambient := by
        unfold complete
        rw [lookup_of_not_mem hname.no_equals, if_pos hthere]
      rw [List.foldlM_cons, hcomplete]
      exact ih hrest

theorem get?_foldl_completed (entries : List (String × String)) (ambient : Ambient)
    (name : String) :
    (entries.foldl completed ambient).variables.get? name =
      if (ambient.value? name).isSome then ambient.variables.get? name
      else ((entries.lookup name).map String.toUTF8 <|> ambient.variables.get? name) := by
  induction entries generalizing ambient with
  | nil => simp
  | cons entry rest ih =>
      rw [List.foldl_cons, ih, get?_completed, value?_completed, List.lookup_cons]
      unfold withEntry
      rcases hvalue : ambient.value? name with _ | value
      · by_cases hsame : name = entry.1
        · simp [hsame]
        · simp [beq_eq_false_iff_ne.mpr hsame, hsame]
      · simp

theorem value?_foldl_completed (entries : List (String × String)) (ambient : Ambient)
    (name : String) :
    (entries.foldl completed ambient).value? name =
      (ambient.value? name <|> entries.lookup name) := by
  change ((entries.foldl completed ambient).variables.get? name).bind String.fromUTF8? = _
  rw [get?_foldl_completed]
  rcases hvalue : ambient.value? name with _ | value
  · rcases entries.lookup name with _ | found
    · exact hvalue
    · exact fromUTF8?_toUTF8 found
  · exact hvalue

def entries (ambient : Ambient) (file : Option ByteArray) : List (String × String) :=
  file.elim [] (EnvFile.entries ambient.value?)

/-- What is given for a name: the text that is there, or else the first entry of that name. -/
def given (ambient : Ambient) (file : Option ByteArray) : Variables :=
  fun name => ambient.value? name <|> (ambient.entries file).lookup name

theorem load_eq_foldlM (ambient : Ambient) (file : Option ByteArray) :
    ambient.load file = (ambient.entries file).foldlM complete ambient := by
  cases file with
  | none => rfl
  | some file => rfl

theorem forall_ne_zero_of_value? (h : ambient.ZeroFree) {name value : String}
    (hvalue : ambient.value? name = some value) : ∀ c ∈ value.toList, c ≠ '\x00' := by
  obtain ⟨bytes, hbytes, hvalue⟩ := Option.bind_eq_some_iff.mp hvalue
  exact forall_ne_zero_of_fromUTF8? hvalue (h bytes (Table.mem_values_of_get? hbytes))

theorem proper_of_mem_entries {file : Option ByteArray} :
    ∀ entry ∈ ambient.entries file, Proper entry.1 := by
  cases file with
  | none => exact List.forall_mem_nil _
  | some file => exact fun entry => proper_of_mem_entriesOf

theorem settable_of_mem_entries (hambient : ambient.ZeroFree) {file : Option ByteArray}
    (hfile : ∀ bytes ∈ file, ∀ byte ∈ bytes.data.toList, byte ≠ 0) :
    ∀ entry ∈ ambient.entries file, Proper entry.1 ∧ ∀ c ∈ entry.2.toList, c ≠ '\x00' := by
  intro entry hentry
  refine ⟨proper_of_mem_entries entry hentry, ?_⟩
  cases file with
  | none => cases hentry
  | some file =>
      exact forall_mem_entriesOf (by decide) (fun _ _ => forall_ne_zero_of_value? hambient)
        (forall_ne_zero_of_partsOf (hfile file rfl)) entry hentry

theorem names_entries (ambient other : Ambient) (file : Option ByteArray) :
    (ambient.entries file).map Prod.fst = (other.entries file).map Prod.fst := by
  cases file with
  | none => rfl
  | some file => exact names_entriesOf _ _ _

theorem load_eq_follow (ambient : Ambient) (file : Option ByteArray) :
    ambient.load file = ambient.follow (file.elim [] partsOf) := by
  cases file with
  | none => rfl
  | some file => exact foldlM_complete_eq_follow ambient (partsOf file)

def after (ambient : Ambient) (file : Option ByteArray) : Ambient :=
  (ambient.entries file).foldl completed ambient

theorem value?_after (ambient : Ambient) (file : Option ByteArray) :
    (ambient.after file).value? = ambient.given file :=
  funext (value?_foldl_completed (ambient.entries file) ambient)

theorem isSome_value?_after {file : Option ByteArray} {name : String}
    (h : name ∈ (ambient.entries file).map Prod.fst) :
    ((ambient.after file).value? name).isSome = true := by
  obtain ⟨entry, hentry, rfl⟩ := List.mem_map.mp h
  rw [value?_after]
  unfold given
  rcases ambient.value? entry.1 with _ | value
  · rw [Option.isSome_iff_ne_none]
    intro hnone
    exact absurd (List.lookup_eq_none_iff.mp hnone entry hentry) (by simp)
  · rfl

/-- The file says nothing new to variables that have its entries already. -/
theorem load_after (ambient : Ambient) (file : Option ByteArray) :
    (ambient.after file).load file = .ok (ambient.after file) := by
  rw [load_eq_foldlM]
  refine foldlM_complete_of_there fun name hname => ?_
  rw [names_entries (ambient.after file) ambient file] at hname
  refine ⟨?_, isSome_value?_after hname⟩
  obtain ⟨entry, hentry, rfl⟩ := List.mem_map.mp hname
  exact proper_of_mem_entries entry hentry

theorem settings_of_load {file : Option ByteArray} {loaded : Ambient}
    (h : ambient.load file = .ok loaded) :
    ambient.settings file = .ok (loaded, Settings.ofVariables loaded.value?) := by
  have hsame : Settings.ofVariables loaded.lookup = Settings.ofVariables loaded.value? := by
    refine Settings.ofVariables_congr fun name hname => lookup_of_not_mem ?_ loaded
    revert name
    decide
  unfold settings
  rw [h, ← hsame]
  rfl

/-- Whatever a file holds, the settings are those of the variables that are there as texts, and of the first
entry of a name that has none. Only names without a text are set, each to its first entry, and a second time
nothing is. -/
theorem settings_of_given (ambient : Ambient) (hambient : ambient.ZeroFree) (file : Option ByteArray)
    (hfile : ∀ bytes ∈ file, ∀ byte ∈ bytes.data.toList, byte ≠ 0) :
    ambient.load file = ambient.follow (file.elim [] partsOf) ∧
    ∃ after : Ambient,
      ambient.settings file = .ok (after, Settings.ofVariables (ambient.given file)) ∧
      (∀ name, after.variables.get? name =
        if (ambient.value? name).isSome then ambient.variables.get? name
        else ((ambient.entries file).lookup name).map String.toUTF8 <|>
          ambient.variables.get? name) ∧
      after.settings file = .ok (after, Settings.ofVariables (ambient.given file)) := by
  refine ⟨load_eq_follow ambient file, ambient.after file, ?_,
    get?_foldl_completed (ambient.entries file) ambient, ?_⟩
  · have hload : ambient.load file = .ok (ambient.after file) := by
      rw [load_eq_foldlM]
      exact foldlM_complete (settable_of_mem_entries hambient hfile) ambient
    rw [settings_of_load hload, value?_after]
  · rw [settings_of_load (load_after ambient file), value?_after]

/-- A name whose value is no text has two entries, of which the first refers to the entry before it, and
another name has a text besides its entry. What stands after the malformed line is not read. -/
theorem settings_of_given_unreadable_name :
    let ambient : Ambient :=
      ⟨⟨[("APP_NAME", ⟨#[0xff]⟩), ("HUB_CONNECTION_BUFFER", "7".toUTF8)], by decide⟩⟩
    let file := "X='a b'\nAPP_NAME=$X!\nAPP_NAME=c\nHUB_CONNECTION_BUFFER=9\n?\nAPP_ENV=test".toUTF8
    let settings : Settings := ⟨⟨"a b!", .development⟩, ⟨7, .retain⟩⟩
    ambient.ZeroFree ∧ (∀ byte ∈ file.data.toList, byte ≠ 0) ∧
      ∃ after, ambient.settings (some file) = .ok (after, .ok settings) ∧
        after.settings (some file) = .ok (after, .ok settings) := by
  intro ambient file settings
  have hambient : ambient.ZeroFree := by
    unfold ZeroFree
    decide +kernel
  have hfile : ∀ byte ∈ file.data.toList, byte ≠ 0 := by
    decide +kernel
  have hgiven : Settings.ofVariables (ambient.given (some file)) = .ok settings := by
    decide +kernel
  obtain ⟨-, after, hfirst, -, hsecond⟩ := settings_of_given ambient hambient (some file)
    (by rintro bytes ⟨⟩; exact hfile)
  exact ⟨hambient, hfile, after, hgiven ▸ hfirst, hgiven ▸ hsecond⟩

end Ambient

end Switchboard
