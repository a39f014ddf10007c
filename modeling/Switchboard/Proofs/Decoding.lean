import Switchboard.Invocation
import Switchboard.Proofs.Shapes
import Switchboard.Settings.Basic

namespace Switchboard

open Switchboard.Json

def LifetimeSettings.shape : Shape :=
  .record [] [("connection_buffer", .plain), ("group_cleanup", .plain)]

def ApplicationSettings.shape : Shape :=
  .record [] [("name", .plain), ("env", .plain)]

def Settings.shape : Shape :=
  .record ["app", "lifetime"]
    [("app", ApplicationSettings.shape), ("lifetime", LifetimeSettings.shape)]

def Invocation.shape : Shape :=
  .record ["target"] [("target", .plain), ("arguments", .plain)]

theorem LifetimeSettings.rules_reader (room : Nat) :
    LifetimeSettings.shape.Rules (LifetimeSettings.reader (room + 1)) := by
  have hbuffer : Shape.plain.Rules (bufferField.read room) :=
    Shape.rules_plain (sound_readNatural "usize") (exists_makes_readNatural "usize")
  have hcleanup : Shape.plain.Rules (cleanupField.read room) :=
    Shape.rules_plain (sound_readName Cleanup.choices room) (exists_makes_readName Cleanup.choices room)
  have hrecord := rules_readRecord "LifetimeConfig" hbuffer hcleanup (by decide) [] nofun
  exact hrecord.map fun fields => LifetimeSettings.mk fields.1 fields.2

theorem ApplicationSettings.rules_reader (room : Nat) :
    ApplicationSettings.shape.Rules (ApplicationSettings.reader (room + 1)) := by
  have hname : Shape.plain.Rules (nameField.read room) :=
    Shape.rules_plain (sound_readString "a string") (exists_makes_readString "a string")
  have henvironment : Shape.plain.Rules (environmentField.read room) :=
    Shape.rules_plain (sound_readName Environment.choices room)
      (exists_makes_readName Environment.choices room)
  have hrecord := rules_readRecord "AppSettings" hname henvironment (by decide) [] nofun
  exact hrecord.map fun fields => ApplicationSettings.mk fields.1 fields.2

theorem Settings.rules_reader (room : Nat) : Settings.shape.Rules (Settings.reader (room + 2)) := by
  have happlication : ApplicationSettings.shape.Rules (applicationField.read (room + 1)) :=
    ApplicationSettings.rules_reader room
  have hlifetime : LifetimeSettings.shape.Rules (lifetimeField.read (room + 1)) :=
    LifetimeSettings.rules_reader room
  have hrequired : ∀ field ∈ ["app", "lifetime"],
      (field = applicationField.name ∧ applicationField.absent = none) ∨
        (field = lifetimeField.name ∧ lifetimeField.absent = none) :=
    List.forall_mem_cons.mpr ⟨.inl ⟨rfl, rfl⟩, List.forall_mem_cons.mpr ⟨.inr ⟨rfl, rfl⟩, nofun⟩⟩
  have hrecord := rules_readRecord "AppConfig" happlication hlifetime (by decide) ["app", "lifetime"]
    hrequired
  exact hrecord.map fun fields => Settings.mk fields.1 fields.2

theorem Invocation.rules_reader (room : Nat) :
    Invocation.shape.Rules (Invocation.reader (room + 1)) := by
  have hvalue (room : Nat) : ∃ make, Makes (readValue room) make :=
    exists_makes (exists_readsAs_readValue room)
  have htarget : Shape.plain.Rules (targetField.read room) :=
    Shape.rules_plain (sound_readString "a string") (exists_makes_readString "a string")
  have harguments : Shape.plain.Rules (argumentsField.read room) :=
    Shape.rules_plain (sound_readList sound_readValue room) (exists_makes_readList hvalue room)
  have hrequired : ∀ field ∈ ["target"],
      (field = targetField.name ∧ targetField.absent = none) ∨
        (field = argumentsField.name ∧ argumentsField.absent = none) :=
    List.forall_mem_cons.mpr ⟨.inl ⟨rfl, rfl⟩, nofun⟩
  have hrecord := rules_readRecord "Invocation" htarget harguments (by decide) ["target"] hrequired
  exact hrecord.map fun fields => Invocation.mk fields.1 fields.2

/-- Settings, their parts and invocations are decoded from JSON texts only, and the form of such a text makes
no difference to what is decoded from it: neither white space, nor the order of the members, nor members of
other names, nor whether a record is written as an object or as a list. A text with a known member twice is
refused, and so is one without the parts of the settings or the target of the invocation. -/
theorem decoding_ignores_form :
    Settings.shape.Governs (readAll Settings.reader) ∧
      ApplicationSettings.shape.Governs (readAll ApplicationSettings.reader) ∧
      LifetimeSettings.shape.Governs (readAll LifetimeSettings.reader) ∧
      Invocation.shape.Governs Invocation.parse :=
  ⟨(Settings.rules_reader 125).governs, (ApplicationSettings.rules_reader 126).governs,
    (LifetimeSettings.rules_reader 126).governs, (Invocation.rules_reader 126).governs⟩

/-- Settings with one part as a list, an unknown member whose value is out of range, and the parts in another
order; settings with a buffer given twice; an invocation with its arguments first and an unknown member before
them; and one without a target. -/
theorem decoding_ignores_form_rearranged :
    readAll Settings.reader "\x7b \"lifetime\":[16],\"x\":1e999,\n\"app\":\x7b\x7d\x7d " =
        .ok ⟨⟨"hub-server", .development⟩, ⟨16, .retain⟩⟩ ∧
      (∃ fault, readAll Settings.reader
        "\x7b\"app\":\x7b\x7d,\"lifetime\":\x7b\"connection_buffer\":1,\"connection_buffer\":16\x7d\x7d" =
          .error fault) ∧
      Invocation.parse "\x7b\"id\":null, \"arguments\":[7],\"target\":\"join\"\x7d" =
        .ok ⟨"join", [.ofNat 7]⟩ ∧
      ∃ fault, Invocation.parse "\x7b\"arguments\":[7]\x7d" = .error fault := by
  let app : Quotation × Written := (.ofText "app", .object [])
  let size : Written := .number (.ofWhole (.ofNat 16))
  let buffer : Quotation × Written := (.ofText "connection_buffer", size)
  let other : Quotation × Written := (.ofText "connection_buffer", .number (.ofWhole (.ofNat 1)))
  let huge : Written :=
    .number ⟨false, .ofNat 1, none, some ⟨'e', [], (Whole.ofNat 999).toDigits, .inl rfl, .inl rfl⟩⟩
  let target : Quotation × Written := (.ofText "target", .string (.ofText "join"))
  let arguments : Quotation × Written := (.ofText "arguments", .array [.number (.ofWhole (.ofNat 7))])
  have hmember : ("lifetime", LifetimeSettings.shape) ∈
      [("app", ApplicationSettings.shape), ("lifetime", LifetimeSettings.shape)] :=
    List.mem_cons_of_mem _ List.mem_cons_self
  obtain ⟨hsettings, -, -, hinvocation⟩ := decoding_ignores_form
  refine ⟨?_, ?_, ?_, ?_⟩
  · have hlisted : Settings.shape.Step (.object [app, (.ofText "lifetime", .object [buffer])])
        (.object [app, (.ofText "lifetime", .array [size])]) :=
      @Shape.Step.member _ _ _ _ [app] [] _ _ _ hmember (Quotation.text?_ofText _)
        (.listed ⟨[some "group_cleanup"], by simp [Quotation.text?_ofText, buffer]⟩)
    have hinsert : Settings.shape.Step (.object [app, (.ofText "lifetime", .array [size])])
        (.object [app, (.ofText "x", huge), (.ofText "lifetime", .array [size])]) :=
      @Shape.Step.insert _ _ [app] [(.ofText "lifetime", .array [size])] _ _ huge
        (Quotation.text?_ofText "x") (by decide)
    have hpermute : Settings.shape.Step
        (.object [app, (.ofText "x", huge), (.ofText "lifetime", .array [size])])
        (.object [(.ofText "lifetime", .array [size]), (.ofText "x", huge), app]) :=
      .permute (List.reverse_perm _).symm
    have halike : Settings.shape.Alike _ _ :=
      .trans _ _ _ (.rel _ _ hlisted) (.trans _ _ _ (.rel _ _ hinsert) (.rel _ _ hpermute))
    have hplain : (Written.object [app, (.ofText "lifetime", .object [buffer])]).Document
        "\x7b\"app\":\x7b\x7d,\"lifetime\":\x7b\"connection_buffer\":16\x7d\x7d" :=
      Written.document_compact _
    refine (hsettings.alike halike hplain ⟨[' '], ?_, rfl⟩ _).mp rfl
    simp only [app, size, huge, Written.Begins, Written.MembersBegin, Written.ItemsBegin]
    exact ⟨_, _, rfl, ⟨_, _, _, _, rfl, rfl, rfl, ⟨_, _, rfl, ⟨_, _, rfl, rfl, rfl⟩, rfl⟩,
      _, _, _, _, rfl, rfl, rfl, rfl, _, _, _, _, rfl, rfl, rfl, ⟨_, _, rfl, rfl, rfl⟩, rfl⟩, rfl⟩
  · have htwice : LifetimeSettings.shape.Flawed (.object [other, buffer]) :=
      @Shape.Flawed.repeated _ _ "connection_buffer" _ List.mem_cons_self (by
        simp [valuesOf, other, buffer, Quotation.text?_ofText])
    have hflawed : Settings.shape.Flawed (.object [app, (.ofText "lifetime", .object [other, buffer])]) :=
      @Shape.Flawed.member _ _ _ _ _ (.object [other, buffer]) hmember (by
        simp [valuesOf, app, Quotation.text?_ofText]) htwice
    exact hsettings.refused hflawed (Written.document_compact _)
  · have hswap : Invocation.shape.Step (.object [target, arguments]) (.object [arguments, target]) :=
      .permute (.swap _ _ _)
    have hbefore : Invocation.shape.Step (.object [arguments, target])
        (.object [(.ofText "id", .null), arguments, target]) :=
      @Shape.Step.insert _ _ [] [arguments, target] _ _ .null (Quotation.text?_ofText "id") (by decide)
    have hcompact : (Written.object [target, arguments]).Document
        "\x7b\"target\":\"join\",\"arguments\":[7]\x7d" :=
      Written.document_compact _
    have halike : Invocation.shape.Alike _ _ := .trans _ _ _ (.rel _ _ hswap) (.rel _ _ hbefore)
    refine (hinvocation.alike halike hcompact ⟨[], ?_, rfl⟩ _).mp rfl
    simp only [target, arguments, Written.Begins, Written.MembersBegin, Written.ItemsBegin]
    exact ⟨_, _, rfl, ⟨_, _, _, _, rfl, rfl, rfl, rfl, _, _, _, _, rfl, rfl, rfl,
      ⟨_, _, rfl, ⟨_, _, rfl, rfl, rfl⟩, rfl⟩, _, _, _, _, rfl, rfl, rfl, rfl, rfl⟩, rfl⟩
  · have hmissing : Invocation.shape.Flawed (.object [arguments]) :=
      @Shape.Flawed.missing _ _ "target" _ List.mem_cons_self (by
        simp [valuesOf, arguments, Quotation.text?_ofText])
    exact hinvocation.refused hmissing (Written.document_compact _)

end Switchboard
