import Switchboard.Cluster
import Switchboard.Proofs.Records
import Switchboard.Proofs.Variables

namespace Switchboard

open Switchboard.Json Switchboard.Text

/-- What a JSON text of settings gives; each of it may be left out. -/
structure SettingsMembers where
  name : Option Quotation
  environment : Option Quotation
  buffer : Option Whole
  cleanup : Option Quotation

namespace SettingsMembers

def application (members : SettingsMembers) : Written :=
  .object (entry "name" (members.name.map .string) ++ entry "env" (members.environment.map .string))

def lifetime (members : SettingsMembers) : Written :=
  .object (entry "connection_buffer" (members.buffer.map fun whole => .number (.ofWhole whole)) ++
    entry "group_cleanup" (members.cleanup.map .string))

def written (members : SettingsMembers) : Written :=
  .object [(.ofText "app", members.application), (.ofText "lifetime", members.lifetime)]

/-- What the members say: the settings that they name, with the initial values for those left out. -/
structure Say (members : SettingsMembers) (settings : Settings) : Prop where
  name : members.name.elim (settings.application.name = "hub-server")
    fun quotation => quotation.text? = some settings.application.name
  environment : members.environment.elim (settings.application.environment = .development)
    fun quotation => quotation.text? = some settings.application.environment.name
  buffer : members.buffer.elim (settings.lifetime.buffer = 256)
    fun whole => Numeral.value whole.chars = settings.lifetime.buffer ∧
      settings.lifetime.buffer ≤ maxWhole
  cleanup : members.cleanup.elim (settings.lifetime.cleanup = .retain)
    fun quotation => quotation.text? = some settings.lifetime.cleanup.name

end SettingsMembers

theorem chooseName_eq_ok_iff {α : Type} {choices : List (String × α)}
    (h : (choices.map Prod.fst).Nodup) {text : String} {a : α} :
    chooseName choices text = .ok a ↔ (text, a) ∈ choices := by
  rw [← lookup_eq_some_iff_mem h, chooseName]
  exact answer_eq_ok_iff

theorem Environment.mem_choices_iff {text : String} {environment : Environment} :
    (text, environment) ∈ Environment.choices ↔ text = environment.name := by
  cases environment with
  | development => simp [choices, name]
  | staging => simp [choices, name]
  | production => simp [choices, name]

theorem Cleanup.mem_choices_iff {text : String} {cleanup : Cleanup} :
    (text, cleanup) ∈ Cleanup.choices ↔ text = cleanup.name := by
  cases cleanup with
  | retain => simp [choices, name]
  | lazy => simp [choices, name]
  | onDisconnect => simp [choices, name]

section Fields

variable {α : Type} {field : Json.Field α} {make : Written → Except Fault α} {a initial : α}

theorem takes_member_iff {γ : Type} (habsent : field.absent = some initial) (member : Option γ)
    (write : γ → Written) :
    field.Takes make (member.map write).toList a ↔
      member.elim (a = initial) fun c => make (write c) = .ok a := by
  rcases member with _ | c
  · show field.absent = some a ↔ a = initial
    rw [habsent, Option.some.injEq, eq_comm]
  · exact Iff.rfl

theorem readName_string_eq_ok_iff {choices : List (String × α)} {room : Nat}
    (hmake : Makes (readName choices room) make) (hnodup : (choices.map Prod.fst).Nodup)
    {name : α → String} (hname : ∀ text, (text, a) ∈ choices ↔ text = name a) (quotation : Quotation) :
    make (.string quotation) = .ok a ↔ quotation.text? = some (name a) := by
  rw [(hmake _).unique (readsAs_readName_string choices room quotation), bind_eq_ok_iff]
  simp only [Quotation.reading_eq_ok_iff, chooseName_eq_ok_iff hnodup, hname, exists_eq_right]

end Fields

/-- What the first part of the settings is decoded to. -/
theorem ApplicationSettings.exists_makes_reader (room : Nat) :
    ∃ make, Makes (ApplicationSettings.reader (room + 1)) make ∧
      ∀ (members : SettingsMembers) (settings : ApplicationSettings),
        make members.application = .ok settings ↔
          (members.name.elim (settings.name = "hub-server")
            fun quotation => quotation.text? = some settings.name) ∧
          members.environment.elim (settings.environment = .development)
            fun quotation => quotation.text? = some settings.environment.name := by
  obtain ⟨F, hF⟩ : ∃ F, Makes (nameField.read room) F := exists_makes_readString "a string"
  obtain ⟨G, hG⟩ : ∃ G, Makes (environmentField.read room) G :=
    exists_makes_readName Environment.choices room
  have hbuild : Function.Injective2 ApplicationSettings.mk := fun _ _ _ _ => ApplicationSettings.mk.inj
  obtain ⟨make, hmake, hentries⟩ := exists_makes_entries hbuild hF hG (by decide) "AppSettings"
  refine ⟨make, hmake, ?_⟩
  rintro members ⟨name, environment⟩
  have hname : ∀ quotation, F (.string quotation) = .ok name ↔ quotation.text? = some name := by
    intro quotation
    rw [(hF _).unique (readsAs_readString "a string" quotation)]
    exact Quotation.reading_eq_ok_iff
  have henvironment : ∀ quotation, G (.string quotation) = .ok environment ↔
      quotation.text? = some environment.name :=
    readName_string_eq_ok_iff hG (by decide) fun _ => Environment.mem_choices_iff
  refine (hentries _ _ name environment).trans ?_
  rw [takes_member_iff (show nameField.absent = some "hub-server" from rfl),
    takes_member_iff (show environmentField.absent = some .development from rfl)]
  simp only [hname, henvironment]

/-- What the second part of the settings is decoded to. -/
theorem LifetimeSettings.exists_makes_reader (room : Nat) :
    ∃ make, Makes (LifetimeSettings.reader (room + 1)) make ∧
      ∀ (members : SettingsMembers) (settings : LifetimeSettings),
        make members.lifetime = .ok settings ↔
          (members.buffer.elim (settings.buffer = 256)
            fun whole => Numeral.value whole.chars = settings.buffer ∧ settings.buffer ≤ maxWhole) ∧
          members.cleanup.elim (settings.cleanup = .retain)
            fun quotation => quotation.text? = some settings.cleanup.name := by
  obtain ⟨F, hF⟩ : ∃ F, Makes (bufferField.read room) F := exists_makes_readNatural "usize"
  obtain ⟨G, hG⟩ : ∃ G, Makes (cleanupField.read room) G := exists_makes_readName Cleanup.choices room
  have hbuild : Function.Injective2 LifetimeSettings.mk := fun _ _ _ _ => LifetimeSettings.mk.inj
  obtain ⟨make, hmake, hentries⟩ := exists_makes_entries hbuild hF hG (by decide) "LifetimeConfig"
  refine ⟨make, hmake, ?_⟩
  rintro members ⟨buffer, cleanup⟩
  have hbuffer : ∀ whole, F (.number (.ofWhole whole)) = .ok buffer ↔
      Numeral.value whole.chars = buffer ∧ buffer ≤ maxWhole :=
    fun whole => readNatural_whole_eq_ok_iff (hF _) buffer
  have hcleanup : ∀ quotation, G (.string quotation) = .ok cleanup ↔
      quotation.text? = some cleanup.name :=
    readName_string_eq_ok_iff hG (by decide) fun _ => Cleanup.mem_choices_iff
  refine (hentries _ _ buffer cleanup).trans ?_
  rw [takes_member_iff (show bufferField.absent = some 256 from rfl),
    takes_member_iff (show cleanupField.absent = some .retain from rfl)]
  simp only [hbuffer, hcleanup]

namespace SettingsMembers

/-- A JSON text is decoded to the settings that its members say, and to none if they say none. -/
theorem decode_eq_ok_iff {members : SettingsMembers} {text : String}
    (htext : members.written.Document text) (settings : Settings) :
    readAll Settings.reader text = .ok settings ↔ members.Say settings := by
  obtain ⟨F, hF, happlication⟩ := ApplicationSettings.exists_makes_reader 125
  obtain ⟨G, hG, hlifetime⟩ := LifetimeSettings.exists_makes_reader 125
  have hF : Makes (Settings.applicationField.read 126) F := hF
  have hG : Makes (Settings.lifetimeField.read 126) G := hG
  have hbuild : Function.Injective2 Settings.mk := fun _ _ _ _ => Settings.mk.inj
  obtain ⟨make, hmake, hentries⟩ := exists_makes_entries hbuild hF hG (by decide) "AppConfig"
  have hdecode : readAll Settings.reader text = make members.written := readAll_of_document hmake htext
  obtain ⟨application, lifetime⟩ := settings
  have hparts : make members.written = .ok ⟨application, lifetime⟩ ↔
      F members.application = .ok application ∧ G members.lifetime = .ok lifetime :=
    hentries (some members.application) (some members.lifetime) application lifetime
  rw [hdecode, hparts, happlication, hlifetime]
  constructor
  · rintro ⟨⟨hname, henvironment⟩, hbuffer, hcleanup⟩
    exact ⟨hname, henvironment, hbuffer, hcleanup⟩
  · rintro ⟨hname, henvironment, hbuffer, hcleanup⟩
    exact ⟨⟨hname, henvironment⟩, hbuffer, hcleanup⟩

/-- The variables hold the texts of the members, and those of the members that are left out are not there. -/
structure HeldBy (members : SettingsMembers) (given : Variables) : Prop where
  name : Option.Rel (fun quotation text => quotation.text? = some text) members.name (given "APP_NAME")
  environment : Option.Rel (fun quotation text => quotation.text? = some text) members.environment
    (given "APP_ENV")
  buffer : given "HUB_CONNECTION_BUFFER" = members.buffer.map fun whole => String.ofList whole.chars
  cleanup : Option.Rel (fun quotation text => quotation.text? = some text) members.cleanup
    (given "HUB_GROUP_CLEANUP")

/-- The members give the settings under their own names, but for some that are not there as variables
either. -/
structure Canonical (members : SettingsMembers) (given : Variables) (settings : Settings) : Prop where
  name : members.name.elim (given "APP_NAME" = none)
    fun quotation => quotation.text? = some settings.application.name
  environment : members.environment.elim (given "APP_ENV" = none)
    fun quotation => quotation.text? = some settings.application.environment.name
  buffer : members.buffer.elim (given "HUB_CONNECTION_BUFFER" = none)
    fun whole => Numeral.value whole.chars = settings.lifetime.buffer
  cleanup : members.cleanup.elim (given "HUB_GROUP_CLEANUP" = none)
    fun quotation => quotation.text? = some settings.lifetime.cleanup.name

section Agreement

variable {α : Type} {given : Variables} {variableName : String} {NamedBy : String → α → Prop}
  {member : Option Quotation} {initial a : α} (name : α → String)

theorem gives_of_held
    (hheld : Option.Rel (fun quotation text => quotation.text? = some text) member (given variableName))
    (hsay : member.elim (a = initial) fun quotation => quotation.text? = some (name a))
    (hname : NamedBy (name a) a) : given.Gives variableName NamedBy initial a := by
  unfold Variables.Gives
  rcases hvariable : given variableName with _ | text
  · rw [hvariable] at hheld
    cases hheld
    exact hsay
  · rw [hvariable] at hheld
    cases hheld with
    | some htext =>
        obtain rfl : text = name a := Option.some.inj (htext.symm.trans hsay)
        exact hname

theorem eq_initial_of_gives (h : given.Gives variableName NamedBy initial a)
    (hnone : given variableName = none) : a = initial := by
  rw [Variables.Gives, hnone] at h
  exact h

/-- A member that names what the variables give says it, and so does one that is left out together with its
variable. -/
theorem say_of_canonical (hnone : given variableName = none → a = initial)
    (hcanonical : member.elim (given variableName = none) fun quotation => quotation.text? = some (name a)) :
    member.elim (a = initial) fun quotation => quotation.text? = some (name a) := by
  rcases member with _ | quotation
  · exact hnone hcanonical
  · exact hcanonical

end Agreement

theorem named_by_own_name (environment : Environment) :
    Environment.NamedBy environment.name environment :=
  rfl

theorem cleanup_named_by_own_name (cleanup : Cleanup) : Cleanup.NamedBy cleanup.name cleanup := by
  refine ⟨cleanup.name.toList, cleanup.name, ⟨[], [], by simp, nofun, nofun⟩, ?_, rfl⟩
  cases cleanup with
  | retain => decide
  | lazy => decide
  | onDisconnect => decide

theorem buffer_named_by_whole {whole : Whole} (hpositive : Numeral.value whole.chars ≠ 0)
    (hle : Numeral.value whole.chars ≤ maxWhole) :
    LifetimeSettings.BufferNamedBy (String.ofList whole.chars) (Numeral.value whole.chars) := by
  refine ⟨whole.chars, ⟨[], [], by simp, nofun, nofun⟩,
    ⟨[], whole.chars, rfl, .inl rfl, whole.nonempty, whole.isDigit, rfl⟩, Nat.pos_of_ne_zero hpositive, ?_⟩
  exact (Nat.le_sub_one_iff_lt (by decide)).mp hle

variable {members : SettingsMembers} {given : Variables} {settings : Settings}

/-- What the members say is what the variables give that hold the same texts. -/
theorem ofVariables_of_say (hheld : members.HeldBy given) (hsay : members.Say settings)
    (hbuffer : settings.lifetime.buffer ≠ 0) : Settings.ofVariables given = .ok settings := by
  have hname : given.Gives "APP_NAME" Eq "hub-server" settings.application.name :=
    gives_of_held id hheld.name hsay.name rfl
  have henvironment : given.Gives "APP_ENV" Environment.NamedBy .development
      settings.application.environment :=
    gives_of_held Environment.name hheld.environment hsay.environment (named_by_own_name _)
  have hcleanup : given.Gives "HUB_GROUP_CLEANUP" Cleanup.NamedBy .retain settings.lifetime.cleanup :=
    gives_of_held Cleanup.name hheld.cleanup hsay.cleanup (cleanup_named_by_own_name _)
  have hsize : given.Gives "HUB_CONNECTION_BUFFER" LifetimeSettings.BufferNamedBy 256
      settings.lifetime.buffer := by
    have hsaid := hsay.buffer
    unfold Variables.Gives
    rw [hheld.buffer]
    rcases hmember : members.buffer with _ | whole
    · rw [hmember] at hsaid
      exact hsaid
    · rw [hmember] at hsaid
      obtain ⟨hvalue, hle⟩ := hsaid
      rw [← hvalue] at hbuffer hle ⊢
      exact buffer_named_by_whole hbuffer hle
  rw [Settings.ofVariables_eq_ok_iff, LifetimeSettings.ofVariables_eq_ok_iff]
  refine ⟨?_, hsize, hcleanup⟩
  obtain ⟨⟨name, environment⟩, lifetime⟩ := settings
  exact ApplicationSettings.mk.injEq .. ▸
    ⟨(ApplicationSettings.ofVariables_name_eq_iff given name).mpr hname,
      (ApplicationSettings.ofVariables_environment_eq_iff given environment).mpr (.inl henvironment)⟩

theorem buffer_of_ofVariables (h : Settings.ofVariables given = .ok settings) :
    settings.lifetime.buffer ≠ 0 ∧ settings.lifetime.buffer ≤ maxWhole := by
  obtain ⟨-, hlifetime⟩ := (Settings.ofVariables_eq_ok_iff given settings).mp h
  obtain ⟨hbuffer, -⟩ := (LifetimeSettings.ofVariables_eq_ok_iff given settings.lifetime).mp hlifetime
  rcases hgiven : given "HUB_CONNECTION_BUFFER" with _ | text
  · rw [eq_initial_of_gives hbuffer hgiven]
    decide
  · rw [Variables.Gives, hgiven] at hbuffer
    obtain ⟨core, -, -, hpositive, hlt⟩ := hbuffer
    exact ⟨Nat.ne_of_gt hpositive, Nat.le_sub_one_of_lt hlt⟩

/-- Members under the names of what the variables give say the same settings. -/
theorem say_of_ofVariables (h : Settings.ofVariables given = .ok settings)
    (hcanonical : members.Canonical given settings) : members.Say settings := by
  obtain ⟨happlication, hlifetime⟩ := (Settings.ofVariables_eq_ok_iff given settings).mp h
  obtain ⟨hsize, hcleanup⟩ :=
    (LifetimeSettings.ofVariables_eq_ok_iff given settings.lifetime).mp hlifetime
  have hname := (ApplicationSettings.ofVariables_name_eq_iff given _).mp rfl
  have henvironment := (ApplicationSettings.ofVariables_environment_eq_iff given _).mp rfl
  rw [happlication] at hname henvironment
  refine ⟨say_of_canonical id (eq_initial_of_gives hname) hcanonical.name,
    say_of_canonical Environment.name (fun hnone => ?_) hcanonical.environment, ?_,
    say_of_canonical Cleanup.name (eq_initial_of_gives hcleanup) hcanonical.cleanup⟩
  · rcases henvironment with hgiven | ⟨-, hinitial⟩
    · exact eq_initial_of_gives hgiven hnone
    · exact hinitial
  · have hcanonical := hcanonical.buffer
    rcases hmember : members.buffer with _ | whole
    · rw [hmember] at hcanonical
      exact eq_initial_of_gives hsize hcanonical
    · rw [hmember] at hcanonical
      exact ⟨hcanonical, (buffer_of_ofVariables h).2⟩

theorem say_zero (h : members.Say settings) :
    Say { members with buffer := some (Whole.ofNat 0) }
      { settings with lifetime := { settings.lifetime with buffer := 0 } } where
  name := h.name
  environment := h.environment
  buffer := ⟨rfl, Nat.zero_le _⟩
  cleanup := h.cleanup

end SettingsMembers

open SettingsMembers

/-- A JSON text of settings and the variables that hold the same texts give the same settings, unless the
buffer is zero. Conversely the settings that variables give are decoded from every JSON text that gives them
under their own names. What is left out of both makes no difference. A buffer of zero is taken from a JSON
text only, and a hub that is set up with it uses one of one. -/
theorem sources_agree (given : Variables) (members : SettingsMembers) (text : String)
    (htext : members.written.Document text) (settings : Settings) :
    let decoded := readAll Settings.reader text
    let unbuffered : SettingsMembers := { members with buffer := some (Whole.ofNat 0) }
    let zero : LifetimeSettings := { settings.lifetime with buffer := 0 }
    (members.HeldBy given → decoded = .ok settings → settings.lifetime.buffer ≠ 0 →
      Settings.ofVariables given = .ok settings) ∧
    (Settings.ofVariables given = .ok settings →
      settings.lifetime.buffer ≠ 0 ∧ (members.Canonical given settings → decoded = .ok settings)) ∧
    (decoded = .ok settings →
      (∀ other, unbuffered.written.Document other →
        readAll Settings.reader other = .ok { settings with lifetime := zero }) ∧
      (unbuffered.HeldBy given → Settings.ofVariables given = .error (.buffer "0")) ∧
      (Node.create zero).settings = { settings.lifetime with buffer := 1 }) := by
  intro decoded unbuffered zero
  refine ⟨fun hheld hdecoded hbuffer => ?_,
    fun hgiven => ⟨(buffer_of_ofVariables hgiven).1, fun hcanonical => ?_⟩,
    fun hdecoded => ⟨fun other hother => ?_, fun hheld => ?_, rfl⟩⟩
  · exact ofVariables_of_say hheld ((decode_eq_ok_iff htext settings).mp hdecoded) hbuffer
  · exact (decode_eq_ok_iff htext settings).mpr (say_of_ofVariables hgiven hcanonical)
  · exact (decode_eq_ok_iff hother _).mpr (say_zero ((decode_eq_ok_iff htext settings).mp hdecoded))
  · have hzero : given "HUB_CONNECTION_BUFFER" = some "0" := hheld.buffer
    rw [Settings.ofVariables, LifetimeSettings.ofVariables, hzero]
    rfl

/-- The largest buffer and an escaped name, with neither environment nor policy: the settings are those of the
variables, and of a text that names the environment and the policy as well. -/
theorem sources_agree_at_limit :
    let members : SettingsMembers := ⟨some (.ofText "a\"b"), none, some (.ofNat 18446744073709551615), none⟩
    let text :=
      "\x7b\"app\":\x7b\"name\" :\"a\\\"b\"\x7d,\n\"lifetime\":\x7b\"connection_buffer\":18446744073709551615\x7d\x7d "
    let named : SettingsMembers :=
      { members with environment := some (.ofText "development"), cleanup := some (.ofText "retain") }
    let given : Variables := fun name =>
      if name = "APP_NAME" then some "a\"b"
      else if name = "HUB_CONNECTION_BUFFER" then some "18446744073709551615"
      else none
    let settings : Settings := ⟨⟨"a\"b", .development⟩, ⟨18446744073709551615, .retain⟩⟩
    members.written.Document text ∧ readAll Settings.reader text = .ok settings ∧
      Settings.ofVariables given = .ok settings ∧
      readAll Settings.reader (String.ofList named.written.compact) = .ok settings := by
  intro members text named given settings
  have htext : members.written.Document text := by
    refine ⟨[' '], ?_, rfl⟩
    simp only [text, written, application, lifetime, entry, members, Option.map, Option.toList, List.map,
      List.append_nil, Written.Begins, Written.MembersBegin]
    exact ⟨_, _, rfl, ⟨_, _, _, _, rfl, rfl, rfl, ⟨_, _, rfl, ⟨_, _, _, _, rfl, rfl, rfl, rfl, rfl⟩, rfl⟩,
      _, _, _, _, rfl, rfl, rfl, ⟨_, _, rfl, ⟨_, _, _, _, rfl, rfl, rfl, rfl, rfl⟩, rfl⟩, rfl⟩, rfl⟩
  have hvalue : Numeral.value (Whole.ofNat 18446744073709551615).chars = 18446744073709551615 :=
    Numeral.value_digits 18446744073709551615
  have hdecode : readAll Settings.reader text = .ok settings :=
    (decode_eq_ok_iff htext settings).mpr ⟨Quotation.text?_ofText _, rfl, ⟨hvalue, by decide⟩, rfl⟩
  have hheld : members.HeldBy given := ⟨.some (Quotation.text?_ofText _), .none, rfl, .none⟩
  have hnamed : named.Canonical given settings :=
    ⟨Quotation.text?_ofText _, Quotation.text?_ofText _, hvalue, Quotation.text?_ofText _⟩
  obtain ⟨hgiven, -⟩ := sources_agree given members text htext settings
  obtain ⟨-, hdecoded, -⟩ := sources_agree given named _ named.written.document_compact settings
  have hvariables := hgiven hheld hdecode (by decide)
  exact ⟨htext, hdecode, hvariables, (hdecoded hvariables).2 hnamed⟩

end Switchboard
