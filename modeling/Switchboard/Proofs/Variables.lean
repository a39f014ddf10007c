import Switchboard.Proofs.Numeral
import Switchboard.Proofs.Spelling
import Switchboard.Settings.Basic

namespace Switchboard

open Switchboard.Text

/-- A text is the name of an environment, in any letter case. -/
def Environment.NamedBy (text : String) (environment : Environment) : Prop :=
  SameButCase text.toList environment.name.toList

instance (text : String) (environment : Environment) :
    Decidable (Environment.NamedBy text environment) :=
  inferInstanceAs (Decidable (SameButCase _ _))

/-- A text is a spelling of a policy, in any letter case and with blanks around it. -/
def Cleanup.NamedBy (text : String) (cleanup : Cleanup) : Prop :=
  ∃ core spelling, Padded text.toList core ∧ (spelling, cleanup) ∈ Cleanup.spellings ∧
    SameButCase core spelling.toList

/-- A text is a numeral of a buffer size that is not zero and fits in 64 bits, with blanks around it. -/
def LifetimeSettings.BufferNamedBy (text : String) (n : Nat) : Prop :=
  ∃ core, Padded text.toList core ∧ Numeral.Denotes core n ∧ 1 ≤ n ∧ n < UInt64.size

namespace Variables

variable {α : Type} (given : Variables) (name : String) (NamedBy : String → α → Prop)

/-- A variable is there, but its text names no value. -/
def Malformed : Prop :=
  ∃ text, given name = some text ∧ ∀ a, ¬ NamedBy text a

/-- What a variable stands for: the value that its text names if it is there, and the initial one only if
it is not. -/
def Gives (initial a : α) : Prop :=
  match given name with
  | some text => NamedBy text a
  | none => a = initial

theorem exists_gives_iff (initial : α) :
    (∃ a, given.Gives name NamedBy initial a) ↔ ¬ given.Malformed name NamedBy := by
  unfold Gives Malformed
  cases given name with
  | none => simp
  | some text => simp

/-- The value of a variable as `read` makes it out, and the initial one if there is no such variable. -/
def reading {ε : Type} (read : String → Except ε α) (initial : α) : Except ε α :=
  match given name with
  | some text => read text
  | none => .ok initial

theorem reading_eq_ok_iff {ε : Type} {read : String → Except ε α}
    (hread : ∀ text a, read text = .ok a ↔ NamedBy text a) (initial a : α) :
    given.reading name read initial = .ok a ↔ given.Gives name NamedBy initial a := by
  unfold reading Gives
  rcases given name with _ | text
  · rw [Except.ok.injEq, eq_comm]
  · exact hread text a

end Variables

theorem Environment.ofText?_eq_some_iff (text : String) (environment : Environment) :
    Environment.ofText? text = some environment ↔ Environment.NamedBy text environment := by
  have hlookup : Environment.ofText? text = some environment ↔
      ∃ name, (name, environment) ∈ Environment.choices ∧ SameButCase text.toList name.toList :=
    lookup_lowerCase_eq_some_iff (by decide) (by decide)
  rw [hlookup]
  unfold NamedBy
  cases environment with
  | development => simp [choices, name]
  | staging => simp [choices, name]
  | production => simp [choices, name]

theorem Cleanup.ofText_eq_ok_iff (text : String) (cleanup : Cleanup) :
    Cleanup.ofText text = .ok cleanup ↔ Cleanup.NamedBy text cleanup := by
  have hlookup : spellings.lookup (normalize text) = some cleanup ↔
      ∃ name, (name, cleanup) ∈ spellings ∧ SameButCase (trim text.toList) name.toList :=
    lookup_lowerCase_eq_some_iff (by decide) (by decide)
  have hofText : Cleanup.ofText text = .ok cleanup ↔
      spellings.lookup (normalize text) = some cleanup := by
    rcases h : spellings.lookup (normalize text) with _ | found
    · simp [ofText, h]
    · simp [ofText, h]
  have hspellings : ∀ entry ∈ spellings, entry.1.toList.any isBlank = false := by decide
  rw [hofText, hlookup]
  constructor
  · rintro ⟨spelling, hmem, hsame⟩
    exact ⟨trim text.toList, spelling, padded_trim _, hmem, hsame⟩
  · rintro ⟨core, spelling, hpadded, hmem, hsame⟩
    have hcore : ∀ c ∈ core, isBlank c = false :=
      hsame.forall_not_blank (by simpa using hspellings (spelling, cleanup) hmem)
    rw [(trim_eq_iff hcore).mpr hpadded]
    exact ⟨spelling, hmem, hsame⟩

namespace LifetimeSettings

theorem cleanupOfText_eq_ok_iff (text : String) (cleanup : Cleanup) :
    cleanupOfText text = .ok cleanup ↔ Cleanup.NamedBy text cleanup := by
  rw [← Cleanup.ofText_eq_ok_iff]
  unfold cleanupOfText
  split
  · rename_i found hfound
    rw [hfound, Except.ok.injEq, Except.ok.injEq]
  · rename_i normal hnormal
    rw [hnormal]
    exact iff_of_false nofun nofun

theorem bufferOfText_eq_ok_iff (text : String) (n : Nat) :
    bufferOfText text = .ok n ↔ BufferNamedBy text n := by
  have hread : bufferOfText text = .ok n ↔
      Numeral.read maxBuffer (trim text.toList) = .ok n ∧ n ≠ 0 := by
    unfold bufferOfText
    split
    · rename_i m hm
      rw [hm, Except.ok.injEq]
      split
      · rename_i hzero
        refine iff_of_false nofun ?_
        rintro ⟨rfl, hpositive⟩
        exact hpositive hzero
      · rename_i hpositive
        rw [Except.ok.injEq]
        exact ⟨fun hsame => ⟨hsame, hsame ▸ hpositive⟩, fun hsame => hsame.1⟩
    · rename_i fault hfault
      rw [hfault]
      exact iff_of_false nofun nofun
  have hlimit : n ≤ maxBuffer ↔ n < UInt64.size := Nat.le_sub_one_iff_lt (by decide)
  rw [hread, Numeral.read_eq_ok_iff, hlimit]
  constructor
  · rintro ⟨⟨hdenotes, hle⟩, hpositive⟩
    exact ⟨trim text.toList, padded_trim _, hdenotes, Nat.pos_of_ne_zero hpositive, hle⟩
  · rintro ⟨core, hpadded, hdenotes, hpositive, hle⟩
    rw [(trim_eq_iff hdenotes.forall_not_blank).mpr hpadded]
    exact ⟨⟨hdenotes, hle⟩, Nat.ne_of_gt hpositive⟩

theorem ofVariables_eq_readings (given : Variables) :
    ofVariables given = (do
      let buffer ← given.reading "HUB_CONNECTION_BUFFER" bufferOfText initial.buffer
      let cleanup ← given.reading "HUB_GROUP_CLEANUP" cleanupOfText initial.cleanup
      .ok ⟨buffer, cleanup⟩) := by
  unfold ofVariables Variables.reading
  rcases given "HUB_CONNECTION_BUFFER" with _ | buffer <;>
    rcases given "HUB_GROUP_CLEANUP" with _ | cleanup <;> rfl

theorem ofVariables_eq_ok_iff (given : Variables) (settings : LifetimeSettings) :
    ofVariables given = .ok settings ↔
      given.Gives "HUB_CONNECTION_BUFFER" BufferNamedBy initial.buffer settings.buffer ∧
        given.Gives "HUB_GROUP_CLEANUP" Cleanup.NamedBy initial.cleanup settings.cleanup := by
  rw [← given.reading_eq_ok_iff _ _ bufferOfText_eq_ok_iff,
    ← given.reading_eq_ok_iff _ _ cleanupOfText_eq_ok_iff, ofVariables_eq_readings]
  rcases given.reading "HUB_CONNECTION_BUFFER" bufferOfText initial.buffer with fault | buffer
  · exact iff_of_false nofun nofun
  · rcases given.reading "HUB_GROUP_CLEANUP" cleanupOfText initial.cleanup with fault | cleanup
    · exact iff_of_false nofun nofun
    · constructor
      · rintro ⟨⟩
        exact ⟨rfl, rfl⟩
      · rintro ⟨hbuffer, hcleanup⟩
        cases hbuffer
        cases hcleanup
        rfl

end LifetimeSettings

theorem ApplicationSettings.ofVariables_name_eq_iff (given : Variables) (name : String) :
    (ApplicationSettings.ofVariables given).name = name ↔
      given.Gives "APP_NAME" Eq "hub-server" name := by
  unfold ofVariables Variables.Gives
  rcases given "APP_NAME" with _ | text
  · exact eq_comm
  · exact Iff.rfl

theorem ApplicationSettings.ofVariables_environment_eq_iff (given : Variables)
    (environment : Environment) :
    (ApplicationSettings.ofVariables given).environment = environment ↔
      given.Gives "APP_ENV" Environment.NamedBy .development environment ∨
        given.Malformed "APP_ENV" Environment.NamedBy ∧ environment = .development := by
  unfold ofVariables Variables.Gives Variables.Malformed
  simp only [← Environment.ofText?_eq_some_iff]
  rcases given "APP_ENV" with _ | text
  · simp [initial, Environment.initial, eq_comm]
  · rcases hread : Environment.ofText? text with _ | found
    · simp [hread, initial, Environment.initial, eq_comm]
    · simp [hread]

theorem Settings.ofVariables_eq_ok_iff (given : Variables) (settings : Settings) :
    Settings.ofVariables given = .ok settings ↔
      ApplicationSettings.ofVariables given = settings.application ∧
        LifetimeSettings.ofVariables given = .ok settings.lifetime := by
  unfold Settings.ofVariables
  rcases LifetimeSettings.ofVariables given with fault | lifetime
  · exact iff_of_false nofun nofun
  · constructor
    · rintro ⟨⟩
      exact ⟨rfl, rfl⟩
    · rintro ⟨happlication, hlifetime⟩
      cases hlifetime
      rw [happlication]
      rfl

theorem exists_error_iff {ε α : Type} {x : Except ε α} :
    (∃ fault, x = .error fault) ↔ ¬ ∃ a, x = .ok a := by
  rcases x with fault | a
  · simp
  · simp

/-- Settings are refused exactly if the buffer or the cleanup policy is malformed. Where they are given,
every variable is what its text names and only one that is not there is as initially, but for a malformed
environment, which counts as not there. -/
theorem settings_refused_iff_malformed (given : Variables) :
    ((∃ fault, Settings.ofVariables given = .error fault) ↔
      given.Malformed "HUB_CONNECTION_BUFFER" LifetimeSettings.BufferNamedBy ∨
        given.Malformed "HUB_GROUP_CLEANUP" Cleanup.NamedBy) ∧
    ∀ settings, Settings.ofVariables given = .ok settings ↔
      given.Gives "APP_NAME" Eq "hub-server" settings.application.name ∧
        (given.Gives "APP_ENV" Environment.NamedBy .development settings.application.environment ∨
          given.Malformed "APP_ENV" Environment.NamedBy ∧
            settings.application.environment = .development) ∧
        given.Gives "HUB_CONNECTION_BUFFER" LifetimeSettings.BufferNamedBy 256
          settings.lifetime.buffer ∧
        given.Gives "HUB_GROUP_CLEANUP" Cleanup.NamedBy .retain settings.lifetime.cleanup := by
  constructor
  · have hgiven : (∃ settings, Settings.ofVariables given = .ok settings) ↔
        (∃ buffer, given.Gives "HUB_CONNECTION_BUFFER" LifetimeSettings.BufferNamedBy 256 buffer) ∧
          ∃ cleanup, given.Gives "HUB_GROUP_CLEANUP" Cleanup.NamedBy .retain cleanup := by
      simp only [Settings.ofVariables_eq_ok_iff, LifetimeSettings.ofVariables_eq_ok_iff]
      constructor
      · rintro ⟨settings, -, hbuffer, hcleanup⟩
        exact ⟨⟨_, hbuffer⟩, _, hcleanup⟩
      · rintro ⟨⟨buffer, hbuffer⟩, cleanup, hcleanup⟩
        exact ⟨⟨_, ⟨buffer, cleanup⟩⟩, rfl, hbuffer, hcleanup⟩
    rw [exists_error_iff, hgiven, Variables.exists_gives_iff, Variables.exists_gives_iff, not_and_or,
      not_not, not_not]
  · rintro ⟨⟨name, environment⟩, lifetime⟩
    have happlication : ApplicationSettings.ofVariables given = ⟨name, environment⟩ ↔
        (ApplicationSettings.ofVariables given).name = name ∧
          (ApplicationSettings.ofVariables given).environment = environment := by
      rw [ApplicationSettings.mk.injEq]
    rw [Settings.ofVariables_eq_ok_iff, happlication, ApplicationSettings.ofVariables_name_eq_iff,
      ApplicationSettings.ofVariables_environment_eq_iff, LifetimeSettings.ofVariables_eq_ok_iff,
      and_assoc]
    rfl

/-- A text that names an environment but for a blank after it is malformed, and the settings are given
nevertheless. -/
theorem padded_environment_not_refused :
    let given : Variables := fun name => if name = "APP_ENV" then some "production " else none
    given.Malformed "APP_ENV" Environment.NamedBy ∧
      Settings.ofVariables given = .ok ⟨⟨"hub-server", .development⟩, ⟨256, .retain⟩⟩ := by
  refine ⟨⟨"production ", rfl, ?_⟩, by decide +kernel⟩
  rintro (_ | _ | _) <;> decide

end Switchboard
