import Switchboard.Proofs.Lowering
import Switchboard.Proofs.Variables

namespace Switchboard

open Switchboard.Text

namespace LifetimeSettings

/-- A text is compared with the names of policies by its part without blanks at the ends, in lower case. -/
theorem cleanupOfText_of_padded {text : String} {core : List Char}
    (hpadded : Padded text.toList core) (htrimmed : Trimmed core) :
    cleanupOfText text = (Cleanup.spellings.lookup (String.ofList (lowerCase core))).elim
      (.error (.cleanup (String.ofList (lowerCase core)))) .ok := by
  simp only [cleanupOfText, Cleanup.ofText, Cleanup.normalize, trim_of_padded hpadded htrimmed]
  rcases Cleanup.spellings.lookup (String.ofList (lowerCase core)) with _ | cleanup
  · rfl
  · rfl

theorem cleanupOfText_eq_ok_iff_of_padded {text : String} {core : List Char}
    (hpadded : Padded text.toList core) (htrimmed : Trimmed core) (cleanup : Cleanup) :
    cleanupOfText text = .ok cleanup ↔
      ∃ name, (name, cleanup) ∈ Cleanup.spellings ∧ SameButCase core name.toList := by
  rw [← lookup_lowerCase_eq_some_iff (by decide) (by decide), cleanupOfText_of_padded hpadded htrimmed]
  rcases Cleanup.spellings.lookup (String.ofList (lowerCase core)) with _ | found
  · exact iff_of_false nofun nofun
  · simp

theorem cleanupOfText_of_forall_not_named {text : String} {core : List Char}
    (hpadded : Padded text.toList core) (htrimmed : Trimmed core)
    (hnone : ∀ cleanup name, (name, cleanup) ∈ Cleanup.spellings → ¬ SameButCase core name.toList) :
    cleanupOfText text = .error (.cleanup (String.ofList (lowerCase core))) ∧
      cleanupOfText (String.ofList (lowerCase core)) =
        .error (.cleanup (String.ofList (lowerCase core))) := by
  have hlookup : Cleanup.spellings.lookup (String.ofList (lowerCase core)) = none := by
    refine Option.eq_none_iff_forall_ne_some.mpr fun cleanup hfound => ?_
    obtain ⟨name, hmem, hsame⟩ := (lookup_lowerCase_eq_some_iff (by decide) (by decide)).mp hfound
    exact hnone cleanup name hmem hsame
  have hagain : Padded (String.ofList (lowerCase core)).toList (lowerCase core) :=
    ⟨[], [], by simp, nofun, nofun⟩
  constructor
  · rw [cleanupOfText_of_padded hpadded htrimmed, hlookup, Option.elim_none]
  · rw [cleanupOfText_of_padded hagain htrimmed.lowerCase, lowerCase_lowerCase, hlookup,
      Option.elim_none]

theorem cleanupOfText_of_sameButCase_name {text : String} {core : List Char}
    (hpadded : Padded text.toList core) {cleanup : Cleanup}
    (hsame : SameButCase core cleanup.name.toList) : cleanupOfText text = .ok cleanup := by
  have hname : (cleanup.name, cleanup) ∈ Cleanup.spellings ∧
      cleanup.name.toList.any isBlank = false := by
    cases cleanup with
    | retain => decide
    | lazy => decide
    | onDisconnect => decide
  have hcore : ∀ c ∈ core, isBlank c = false := hsame.forall_not_blank (by simpa using hname.2)
  have htrimmed : Trimmed core :=
    ⟨fun c hc => hcore c (List.mem_of_mem_head? hc), fun c hc => hcore c (List.mem_of_mem_getLast? hc)⟩
  exact (cleanupOfText_eq_ok_iff_of_padded hpadded htrimmed cleanup).mpr ⟨_, hname.1, hsame⟩

theorem bufferOfText_eq_error_iff (text : String) (fault : SettingsFault) :
    bufferOfText text = .error fault ↔ fault = .buffer text ∧ ¬ ∃ n, BufferNamedBy text n := by
  simp only [← bufferOfText_eq_ok_iff]
  have hfault : ∀ other, bufferOfText text = .error other → other = .buffer text := by
    intro other hother
    unfold bufferOfText at hother
    split at hother
    · split_ifs at hother
      exact (Except.error.inj hother).symm
    · exact (Except.error.inj hother).symm
  constructor
  · intro h
    refine ⟨hfault fault h, ?_⟩
    rintro ⟨n, hn⟩
    rw [hn] at h
    cases h
  · rintro ⟨rfl, hnone⟩
    rcases hread : bufferOfText text with other | n
    · rw [hfault other hread]
    · exact absurd ⟨n, hread⟩ hnone

theorem cleanupOfText_ne_buffer (text other : String) :
    cleanupOfText text ≠ .error (.buffer other) := by
  unfold cleanupOfText
  split
  · exact nofun
  · exact nofun

/-- What becomes of a buffer size: settings with the policy that its variable names, or with the first one
if there is no such variable, unless that variable is malformed. -/
def withBuffer (given : Variables) (n : Nat) : Except SettingsFault LifetimeSettings :=
  match given "HUB_GROUP_CLEANUP" with
  | some policy => LifetimeSettings.mk n <$> cleanupOfText policy
  | none => .ok ⟨n, .retain⟩

theorem withBuffer_ne_buffer (given : Variables) (n : Nat) (other : String) :
    withBuffer given n ≠ .error (.buffer other) := by
  unfold withBuffer
  rcases given "HUB_GROUP_CLEANUP" with _ | policy
  · exact nofun
  · show LifetimeSettings.mk n <$> cleanupOfText policy ≠ _
    rcases hread : cleanupOfText policy with fault | cleanup
    · rintro ⟨⟩
      exact cleanupOfText_ne_buffer policy other hread
    · exact nofun

/-- The variable of the buffer is read first, and then, whatever its size, that of the policy. -/
theorem ofVariables_eq_bind (given : Variables) :
    ofVariables given =
      given.reading "HUB_CONNECTION_BUFFER" bufferOfText 256 >>= withBuffer given := by
  rw [ofVariables_eq_readings]
  congr 1
  funext n
  unfold withBuffer Variables.reading
  rcases given "HUB_GROUP_CLEANUP" with _ | policy
  · rfl
  · exact (map_eq_pure_bind (LifetimeSettings.mk n) (cleanupOfText policy)).symm

end LifetimeSettings

/-- A text names a policy exactly if its part without white space at the ends is one of four names, but
for the case of English letters. Every other text is refused as that part in lower case, and so is that part
in lower case. The name under which a policy is shown is read as that policy, in any case and with any white
space around it. -/
theorem cleanup_named_exactly (text : String) :
    let names : List (String × Cleanup) :=
      [("retain", .retain), ("lazy", .lazy), ("on_disconnect", .onDisconnect),
        ("on-disconnect", .onDisconnect)]
    (∃ core, Padded text.toList core ∧ Trimmed core ∧
      let Named (cleanup : Cleanup) : Prop :=
        ∃ name, (name, cleanup) ∈ names ∧ SameButCase core name.toList
      let normal := String.ofList (lowerCase core)
      let fault := SettingsFault.cleanup normal
      (∀ cleanup, LifetimeSettings.cleanupOfText text = .ok cleanup ↔ Named cleanup) ∧
        ((¬ ∃ cleanup, Named cleanup) →
          LifetimeSettings.cleanupOfText text = .error fault ∧
            LifetimeSettings.cleanupOfText normal = .error fault ∧
            fault.variableName = "HUB_GROUP_CLEANUP" ∧ fault.value = normal)) ∧
    ∀ (cleanup : Cleanup) part, Padded text.toList part → SameButCase part cleanup.name.toList →
      LifetimeSettings.cleanupOfText text = .ok cleanup := by
  intro names
  have hpadded := padded_trim text.toList
  have htrimmed := trimmed_trim text.toList
  refine ⟨⟨trim text.toList, hpadded, htrimmed,
    LifetimeSettings.cleanupOfText_eq_ok_iff_of_padded hpadded htrimmed, fun hnone => ?_⟩,
    fun _ _ hshown hsame => LifetimeSettings.cleanupOfText_of_sameButCase_name hshown hsame⟩
  obtain ⟨hrefused, hagain⟩ := LifetimeSettings.cleanupOfText_of_forall_not_named hpadded htrimmed
    fun cleanup name hmem hsame => hnone ⟨cleanup, name, hmem, hsame⟩
  exact ⟨hrefused, hagain, rfl, rfl⟩

/-- The Kelvin sign and the dotted capital have English letters among their small ones, but make no name;
a capital sigma at the end becomes the final small one. -/
theorem cleanup_named_exactly_kelvin_sign :
    let named := "\u2003ON-disConnect\u0085\n"
    let shown := "On_Disconnect\u3000"
    let other := " LAZY\u212a\u0130\u03a3\t"
    let normal := "lazyki\u0307\u03c2"
    (Padded named.toList "ON-disConnect".toList ∧ Trimmed "ON-disConnect".toList ∧
      LifetimeSettings.cleanupOfText named = .ok .onDisconnect ∧
      Padded shown.toList "On_Disconnect".toList ∧
      LifetimeSettings.cleanupOfText shown = .ok .onDisconnect) ∧
    Padded other.toList "LAZY\u212a\u0130\u03a3".toList ∧
      Trimmed "LAZY\u212a\u0130\u03a3".toList ∧
      LifetimeSettings.cleanupOfText other = .error (.cleanup normal) ∧
      LifetimeSettings.cleanupOfText normal = .error (.cleanup normal) := by
  intro named shown other normal
  have hnamed : Padded named.toList "ON-disConnect".toList :=
    ⟨['\u2003'], ['\u0085', '\n'], by decide, List.all_eq_true.mp rfl, List.all_eq_true.mp rfl⟩
  have hshown : Padded shown.toList "On_Disconnect".toList :=
    ⟨[], ['\u3000'], by decide, nofun, List.all_eq_true.mp rfl⟩
  have hother : Padded other.toList "LAZY\u212a\u0130\u03a3".toList :=
    ⟨[' '], ['\t'], by decide, List.all_eq_true.mp rfl, List.all_eq_true.mp rfl⟩
  have htrimmed : Trimmed "ON-disConnect".toList := by decide
  have htrimmed' : Trimmed "LAZY\u212a\u0130\u03a3".toList := by decide
  have hnormal : String.ofList (lowerCase "LAZY\u212a\u0130\u03a3".toList) = normal := by
    decide +kernel
  obtain ⟨⟨core, hcore, htrimmedCore, haccepted, -⟩, -⟩ := cleanup_named_exactly named
  obtain rfl := hcore.unique htrimmedCore hnamed htrimmed
  obtain ⟨⟨core', hcore', htrimmedCore', -, hrefused⟩, -⟩ := cleanup_named_exactly other
  obtain rfl := hcore'.unique htrimmedCore' hother htrimmed'
  have hnames : ∀ entry ∈ Cleanup.spellings,
      ¬ SameButCase "LAZY\u212a\u0130\u03a3".toList entry.1.toList := by decide
  have hnone := hrefused fun ⟨_, _, hmem, hsame⟩ => hnames _ hmem hsame
  rw [hnormal] at hnone
  exact ⟨⟨hnamed, htrimmed, (haccepted _).mpr ⟨"on-disconnect", by decide, by decide⟩, hshown,
    (cleanup_named_exactly shown).2 _ _ hshown (by decide)⟩, hother, htrimmed', hnone.1, hnone.2.1⟩

/-- The text of a variable is a buffer size exactly if it is a decimal numeral from 1 to the largest number
of 64 bits, with or without a plus sign and with white space around it, whatever zeros it begins with. Any
other text is reported as it is, even if the policy is malformed as well. With the buffer size given by the
variable, or 256 without it, the outcome is that of the policy. -/
theorem buffer_read_exactly (given : Variables) :
    let outcome := LifetimeSettings.withBuffer given
    (∀ text, given "HUB_CONNECTION_BUFFER" = some text →
      (∀ other, LifetimeSettings.ofVariables given = .error (.buffer other) ↔
        other = text ∧ ¬ ∃ n, LifetimeSettings.BufferNamedBy text n) ∧
      (∀ n, LifetimeSettings.BufferNamedBy text n → LifetimeSettings.ofVariables given = outcome n) ∧
      (∀ sign zeros n, sign = [] ∨ sign = ['+'] → 1 ≤ n → n < UInt64.size →
        Padded text.toList (sign ++ (List.replicate zeros '0' ++ Nat.toDigits 10 n)) →
        LifetimeSettings.ofVariables given = outcome n)) ∧
    (given "HUB_CONNECTION_BUFFER" = none → LifetimeSettings.ofVariables given = outcome 256) := by
  intro outcome
  have hnamed : ∀ text, given "HUB_CONNECTION_BUFFER" = some text →
      ∀ n, LifetimeSettings.BufferNamedBy text n → LifetimeSettings.ofVariables given = outcome n := by
    intro text htext n hn
    rw [LifetimeSettings.ofVariables_eq_bind, Variables.reading, htext]
    show LifetimeSettings.bufferOfText text >>= _ = _
    rw [(LifetimeSettings.bufferOfText_eq_ok_iff text n).mpr hn]
    rfl
  refine ⟨fun text htext => ⟨fun other => ?_, hnamed text htext, ?_⟩, fun hnone => ?_⟩
  · rw [LifetimeSettings.ofVariables_eq_bind, Variables.reading, htext]
    show LifetimeSettings.bufferOfText text >>= _ = _ ↔ _
    rcases hread : LifetimeSettings.bufferOfText text with fault | n
    · obtain ⟨rfl, hmalformed⟩ := (LifetimeSettings.bufferOfText_eq_error_iff text fault).mp hread
      show Except.error _ = _ ↔ _
      rw [Except.error.injEq, SettingsFault.buffer.injEq, and_iff_left hmalformed, eq_comm]
    · refine iff_of_false (LifetimeSettings.withBuffer_ne_buffer given n other) ?_
      rintro ⟨-, hmalformed⟩
      exact hmalformed ⟨n, (LifetimeSettings.bufferOfText_eq_ok_iff text n).mp hread⟩
  · intro sign zeros n hsign hpositive hfits hpadded
    exact hnamed text htext n ⟨_, hpadded, Numeral.denotes_digits hsign zeros n, hpositive, hfits⟩
  · rw [LifetimeSettings.ofVariables_eq_bind, Variables.reading, hnone]
    rfl

/-- A numeral of the largest size is read as it is, and one more than it is no size at all; either way
nothing is said about the policy as long as the buffer is malformed. -/
theorem buffer_read_exactly_at_limit :
    let given (buffer : String) : Variables := fun name =>
      if name = "HUB_CONNECTION_BUFFER" then some buffer
      else if name = "HUB_GROUP_CLEANUP" then some "Sometimes"
      else none
    let largest := "\u3000+00018446744073709551615\n"
    let beyond := "18446744073709551616"
    let arabic := "\u0663"
    LifetimeSettings.ofVariables (given largest) = .error (.cleanup "sometimes") ∧
      LifetimeSettings.ofVariables (given beyond) = .error (.buffer beyond) ∧
      LifetimeSettings.ofVariables (given arabic) = .error (.buffer arabic) ∧
      LifetimeSettings.ofVariables (fun _ => none) = .ok ⟨256, .retain⟩ := by
  intro given largest beyond arabic
  have hlargest : Padded largest.toList
      (['+'] ++ (List.replicate 3 '0' ++ Nat.toDigits 10 18446744073709551615)) :=
    ⟨['\u3000'], ['\n'], by decide, List.all_eq_true.mp rfl, List.all_eq_true.mp rfl⟩
  have hpolicy : LifetimeSettings.cleanupOfText "Sometimes" = .error (.cleanup "sometimes") := by
    decide +kernel
  have hmalformed : ∀ text, LifetimeSettings.bufferOfText text = .error (.buffer text) →
      ¬ ∃ n, LifetimeSettings.BufferNamedBy text n :=
    fun text hread => ((LifetimeSettings.bufferOfText_eq_error_iff text _).mp hread).2
  obtain ⟨hgiven, -⟩ := buffer_read_exactly (given largest)
  obtain ⟨-, -, hzeros⟩ := hgiven largest rfl
  obtain ⟨hgiven', -⟩ := buffer_read_exactly (given beyond)
  obtain ⟨hgiven'', -⟩ := buffer_read_exactly (given arabic)
  refine ⟨?_, ((hgiven' beyond rfl).1 beyond).mpr ⟨rfl, hmalformed _ (by decide +kernel)⟩,
    ((hgiven'' arabic rfl).1 arabic).mpr ⟨rfl, hmalformed _ (by decide +kernel)⟩,
    (buffer_read_exactly fun _ => none).2 rfl⟩
  rw [hzeros ['+'] 3 _ (.inr rfl) (by decide) (by decide) hlargest]
  show LifetimeSettings.mk _ <$> LifetimeSettings.cleanupOfText "Sometimes" = _
  rw [hpolicy]
  rfl

end Switchboard
