import FareTerminal.Proofs.Card.Budget
import FareTerminal.Proofs.Card.ControlInformation
import FareTerminal.Proofs.Card.Startup

/-! Decoding undoes the card's self-description. An identity is recovered exactly from a description that
tells all of the card, in whatever way it is written (`ofFci_eq_ok_iff_of_written`), and what is
reported of any other is a fault that it has (`has_of_ofFci`). -/

namespace FareTerminal.Card

open Tlv Identity

/-- The size of the session buffer in bytes, by its indicator: from 6 to 55 the size goes up to twice
as much in four steps, 1024 at 15, and is rounded down; for any other indicator it is zero. -/
abbrev IsBufferSize (indicator size : Nat) : Prop :=
  if 6 ≤ indicator ∧ indicator ≤ 55 then
    Nat.pow size 4 ≤ Nat.pow 2 (25 + indicator) ∧
      Nat.pow 2 (25 + indicator) < Nat.pow (size + 1) 4
  else size = 0

/-- The identity of a card that was told by its description. -/
structure Identity.Recovers (identity : Identity) (name serial startup atr : Bytes)
    (status : StatusWord) : Prop where
  name : identity.name = some name
  serial : identity.serial = serial
  startup : identity.startup.toBytes = startup.take 7
  atr : identity.atr = atr
  isInvalidated : identity.isInvalidated = true ↔ status = 0x6283
  hasType : identity.revision.HasType identity.startup.applicationType.toNat
  notOldest : identity.revision ≠ .rev1
  capabilities : identity.capabilities =
    .ofBits identity.startup.applicationType.toNat.testBit
  unused : identity.budget.used = 0
  commands : identity.revision = .rev24 →
    identity.budget.unit = .commands ∧ identity.budget.max = 6
  bytes : identity.revision ≠ .rev24 → identity.budget.unit = .bytes ∧
    IsBufferSize identity.startup.bufferSizeIndicator.toNat identity.budget.max.toNat

theorem isBufferSize_bufferSize (indicator : UInt8) :
    IsBufferSize indicator.toNat (bufferSize indicator).toNat := by
  have inUse : ∀ index : Fin 56, IsBufferSize index (bufferSizes[index.val]?.getD 0).toNat := by
    decide
  rcases Nat.lt_or_ge indicator.toNat 56 with listed | beyond
  · exact inUse ⟨indicator.toNat, listed⟩
  · have absent : bufferSizes[indicator.toNat]? = none := List.getElem?_eq_none beyond
    rw [bufferSize, absent, IsBufferSize, if_neg (by omega)]
    rfl

namespace Identity

theorem ite_eq_ok_iff {ε α : Type} {p : Prop} [Decidable p] {told read : α} {error : ε} :
    (if p then .ok told else .error error : Except ε α) = .ok read ↔ told = read ∧ p := by
  split
  · rename_i fits
    exact ⟨fun same => ⟨Except.ok.inj same, fits⟩, fun ⟨same, _⟩ => by rw [same]⟩
  · rename_i unfit
    exact ⟨nofun, fun ⟨_, fits⟩ => absurd fits unfit⟩

theorem bind_eq_ok_iff {ε α β : Type} {first : Except ε α} {next : α → Except ε β} {result : β} :
    first >>= next = .ok result ↔ ∃ a, first = .ok a ∧ next a = .ok result := by
  cases first with
  | error error => exact ⟨nofun, fun ⟨_, told, _⟩ => by cases told⟩
  | ok a => exact ⟨fun told => ⟨a, rfl, told⟩, fun ⟨_, same, told⟩ => by cases same; exact told⟩

theorem bind_eq_error_iff {ε α β : Type} {first : Except ε α} {next : α → Except ε β} {error : ε} :
    first >>= next = .error error ↔
      first = .error error ∨ ∃ a, first = .ok a ∧ next a = .error error := by
  cases first with
  | error other =>
    exact ⟨fun failed => .inl (by cases failed; rfl), fun
      | .inl failed => by cases failed; rfl
      | .inr ⟨_, told, _⟩ => by cases told⟩
  | ok a =>
    exact ⟨fun failed => .inr ⟨a, rfl, failed⟩, fun
      | .inl failed => by cases failed
      | .inr ⟨_, same, failed⟩ => by cases same; exact failed⟩

theorem readName_eq_ok_iff {fci name : Bytes} :
    readName fci = .ok name ↔
      findPath? fci [fciTag, nameTag] = some name ∧ 5 ≤ name.length ∧ name.length ≤ 16 := by
  unfold readName
  cases findPath? fci [fciTag, nameTag] with
  | none => exact ⟨nofun, fun ⟨absent, _⟩ => by cases absent⟩
  | some found =>
    rw [ite_eq_ok_iff, Option.some.injEq]
    constructor <;> rintro ⟨rfl, fits⟩ <;> exact ⟨rfl, fits⟩

theorem readDiscretionary_eq_ok_iff {fci data : Bytes} :
    readDiscretionary fci = .ok data ↔
      findPath? fci [fciTag, proprietaryTag, discretionaryTag] = some data := by
  unfold readDiscretionary
  cases findPath? fci [fciTag, proprietaryTag, discretionaryTag] <;> simp

theorem readSerial_eq_ok_iff {data serial : Bytes} :
    readSerial data = .ok serial ↔ find? data serialTag = some serial ∧ serial.length = 8 := by
  unfold readSerial
  cases find? data serialTag with
  | none => exact ⟨nofun, fun ⟨absent, _⟩ => by cases absent⟩
  | some found =>
    rw [ite_eq_ok_iff, Option.some.injEq]
    constructor <;> rintro ⟨rfl, fits⟩ <;> exact ⟨rfl, fits⟩

theorem readStartup_eq_ok_iff {data : Bytes} {startup : Startup} :
    readStartup data = .ok startup ↔
      ∃ bytes, find? data startupTag = some bytes ∧ Startup.ofBytes? bytes = some startup := by
  rw [← Option.bind_eq_some_iff, readStartup]
  cases (find? data startupTag).bind Startup.ofBytes? <;> simp

/-- The identity that the parts of a description make up. -/
def ofParts (name serial : Bytes) (startup : Startup) (atr : Bytes) (status : StatusWord) : Identity :=
  { revision := .ofApplicationType startup.applicationType, serial, name := some name, startup
    isInvalidated := status == .invalidated, atr }

/-- An identity is told exactly if all four readings succeed. -/
theorem ofFci_eq_ok_iff {atr fci : Bytes} {status : StatusWord} {identity : Identity} :
    ofFci atr fci status = .ok identity ↔
      ∃ name, readName fci = .ok name ∧ ∃ data, readDiscretionary fci = .ok data ∧
        ∃ serial, readSerial data = .ok serial ∧ ∃ startup, readStartup data = .ok startup ∧
        ofParts name serial startup atr status = identity := by
  simp only [ofFci, bind_eq_ok_iff]
  simp only [pure, Except.pure, Except.ok.injEq]
  exact Iff.rfl

theorem capabilities_of_ne_rev1 {identity : Identity} (newer : identity.revision ≠ .rev1) :
    identity.capabilities = .ofBits identity.startup.applicationType.toNat.testBit := by
  rw [← Capabilities.ofApplicationType_eq_ofBits, Identity.capabilities]
  cases revision : identity.revision with
  | rev1 => exact absurd revision newer
  | rev24 | rev31 | rev31Clap | rev32 => rfl

theorem budget_of_rev24 {identity : Identity} (older : identity.revision = .rev24) :
    identity.budget = { unit := .commands, max := 6 } := by
  rw [Identity.budget, older]

theorem budget_of_newer {identity : Identity} (notOldest : identity.revision ≠ .rev1)
    (newer : identity.revision ≠ .rev24) :
    identity.budget = { unit := .bytes, max := bufferSize identity.startup.bufferSizeIndicator } := by
  rw [Identity.budget]
  cases revision : identity.revision with
  | rev1 => exact absurd revision notOldest
  | rev24 => exact absurd revision newer
  | rev31 | rev31Clap | rev32 => rfl

theorem recovers_ofParts {name serial bytes atr : Bytes} {status : StatusWord} {startup : Startup}
    (read : Startup.ofBytes? bytes = some startup) :
    (ofParts name serial startup atr status).Recovers name serial bytes atr status where
  name := rfl
  serial := rfl
  startup := Startup.ofBytes?_eq_some_iff.mp read
  atr := rfl
  isInvalidated := beq_iff_eq
  hasType := Revision.hasType_ofApplicationType startup.applicationType
  notOldest := Revision.ofApplicationType_ne_rev1 startup.applicationType
  capabilities :=
    capabilities_of_ne_rev1 (Revision.ofApplicationType_ne_rev1 startup.applicationType)
  unused := used_budget _
  commands older := by
    rw [budget_of_rev24 older]
    exact ⟨rfl, rfl⟩
  bytes newer := by
    rw [budget_of_newer (Revision.ofApplicationType_ne_rev1 startup.applicationType) newer]
    exact ⟨rfl, isBufferSize_bufferSize _⟩

section

variable {information : ControlInformation} {fci : Bytes} {fault : ControlFault}

theorem exists_of_readDiscretionary (written : information.Written fci) {data : Bytes}
    (read : readDiscretionary fci = .ok data) :
    ∃ discretionary, information.discretionary? = some discretionary ∧
      discretionary.Written data := by
  have described := written.rel_findPath?_discretionary
  rw [readDiscretionary_eq_ok_iff.mp read] at described
  generalize information.discretionary? = discretionary at described ⊢
  cases described with
  | some inside => exact ⟨_, rfl, inside⟩

theorem exists_readDiscretionary (written : information.Written fci) {discretionary : Discretionary}
    (described : information.discretionary? = some discretionary) :
    ∃ data, readDiscretionary fci = .ok data ∧ discretionary.Written data := by
  have found := written.rel_findPath?_discretionary
  simp only [readDiscretionary_eq_ok_iff]
  rw [described] at found
  generalize findPath? fci [fciTag, proprietaryTag, discretionaryTag] = data at found ⊢
  cases found with
  | some inside => exact ⟨_, rfl, inside⟩

/-- An identity is decoded exactly from a description that tells all of it. -/
theorem ofFci_eq_ok_iff_of_written (written : information.Written fci) (atr : Bytes)
    (status : StatusWord) (identity : Identity) :
    ofFci atr fci status = .ok identity ↔
      ∃ name serial bytes startup, information.Tells name serial bytes ∧
        Startup.ofBytes? bytes = some startup ∧
        ofParts name serial startup atr status = identity := by
  simp only [ofFci_eq_ok_iff, ControlInformation.tells_iff, readName_eq_ok_iff,
    readSerial_eq_ok_iff, readStartup_eq_ok_iff, written.findPath?_name]
  constructor
  · rintro ⟨name, named, data, read, serial, numbered, startup, ⟨bytes, started, told⟩, same⟩
    obtain ⟨discretionary, described, inside⟩ := exists_of_readDiscretionary written read
    rw [inside.find?_serial] at numbered
    rw [inside.find?_startup] at started
    exact ⟨name, serial, bytes, startup, ⟨named, _, described, numbered, started,
      Startup.exists_ofBytes?_iff.mp ⟨startup, told⟩⟩, told, same⟩
  · rintro ⟨name, serial, bytes, startup, ⟨named, _, described, numbered, started, -⟩, told, same⟩
    obtain ⟨data, read, inside⟩ := exists_readDiscretionary written described
    rw [← inside.find?_serial] at numbered
    rw [← inside.find?_startup] at started
    exact ⟨name, named, data, read, serial, numbered, startup, ⟨bytes, started, told⟩, same⟩

theorem has_of_readName (written : information.Written fci)
    (failed : readName fci = .error fault) : information.Has fault := by
  rw [readName, written.findPath?_name] at failed
  cases named : information.name? with
  | none =>
    rw [named] at failed
    cases failed
    exact named
  | some name =>
    simp only [named] at failed
    split at failed
    · cases failed
    · rename_i unfit
      cases failed
      exact ⟨name, named, rfl, unfit⟩

theorem has_of_readDiscretionary (written : information.Written fci)
    (failed : readDiscretionary fci = .error fault) : information.Has fault := by
  cases described : information.discretionary? with
  | none =>
    unfold readDiscretionary at failed
    split at failed
    · cases failed
      exact described
    · cases failed
  | some discretionary =>
    obtain ⟨data, read, -⟩ := exists_readDiscretionary written described
    rw [read] at failed
    cases failed

theorem has_of_readSerial {discretionary : Discretionary} {data : Bytes}
    (described : information.discretionary? = some discretionary)
    (inside : discretionary.Written data) (failed : readSerial data = .error fault) :
    information.Has fault := by
  have unread : ∀ serial, discretionary.serial = some serial → serial.length ≠ 8 := by
    intro serial numbered eight
    rw [readSerial_eq_ok_iff.mpr ⟨inside.find?_serial.trans numbered, eight⟩] at failed
    cases failed
  unfold readSerial at failed
  split at failed
  · cases failed
    exact ⟨discretionary, described, unread⟩
  · split at failed
    · cases failed
    · cases failed
      exact ⟨discretionary, described, unread⟩

theorem has_of_readStartup {discretionary : Discretionary} {data : Bytes}
    (described : information.discretionary? = some discretionary)
    (inside : discretionary.Written data) (failed : readStartup data = .error fault) :
    information.Has fault := by
  have unread : ∀ startup, discretionary.startup = some startup → startup.length < 7 := by
    refine fun startup started => Nat.lt_of_not_le fun long => ?_
    obtain ⟨told, read⟩ := Startup.exists_ofBytes?_iff.mpr long
    rw [readStartup_eq_ok_iff.mpr ⟨startup, inside.find?_startup.trans started, read⟩] at failed
    cases failed
  unfold readStartup at failed
  split at failed
  · cases failed
    exact ⟨discretionary, described, unread⟩
  · cases failed

/-- The fault that is reported is one of the description. -/
theorem has_of_ofFci (written : information.Written fci) {atr : Bytes} {status : StatusWord}
    (failed : ofFci atr fci status = .error fault) : information.Has fault := by
  simp only [ofFci, bind_eq_error_iff] at failed
  obtain name | ⟨_, -, discretionary | ⟨data, read, later⟩⟩ := failed
  · exact has_of_readName written name
  · exact has_of_readDiscretionary written discretionary
  · obtain ⟨_, described, inside⟩ := exists_of_readDiscretionary written read
    obtain serial | ⟨_, -, startup | ⟨_, -, told⟩⟩ := later
    · exact has_of_readSerial described inside serial
    · exact has_of_readStartup described inside startup
    · cases told

end

end Identity

/-- A description that tells all of a card is decoded to its identity, however it is written. Any other
is malformed, for a fault that it has. -/
theorem decode_written {information : ControlInformation} {fci : Bytes}
    (written : information.Written fci) (atr : Bytes) (status : StatusWord) :
    (∀ name serial startup, information.Tells name serial startup →
      ∃ identity, Identity.decode (.fci atr fci status) = .ok identity ∧
        identity.Recovers name serial startup atr status) ∧
    ((∀ name serial startup, ¬information.Tells name serial startup) →
      ∃ fault, Identity.decode (.fci atr fci status) = .error (.malformed fault) ∧
        information.Has fault) := by
  have decoded := ofFci_eq_ok_iff_of_written written atr status
  constructor
  · intro name serial bytes tells
    obtain ⟨startup, read⟩ := Startup.exists_ofBytes?_iff.mpr tells.startupLength
    have told := (decoded _).mpr ⟨name, serial, bytes, startup, tells, read, rfl⟩
    exact ⟨_, by rw [Identity.decode, told]; rfl, recovers_ofParts read⟩
  · intro untold
    cases outcome : ofFci atr fci status with
    | error fault =>
      exact ⟨fault, by rw [Identity.decode, outcome]; rfl, has_of_ofFci written outcome⟩
    | ok identity =>
      obtain ⟨name, serial, bytes, -, tells, -⟩ := (decoded identity).mp outcome
      exact absurd tells (untold name serial bytes)

/-- A card of an invalidated application, with the startup information before the serial number, the
name behind the rest, other objects between and lengths in four forms; and one that tells its name
only. -/
theorem decode_written_reordered :
    let name : Bytes := [0x31, 0x54, 0x49, 0x43, 0x2E]
    let serial : Bytes := [0x00, 0x00, 0x00, 0x00, 0x7A, 0xB1, 0x11, 0x42]
    let startup : Bytes := [0x0A, 0x3C, 0x2B, 0x11, 0x01, 0x01, 0x01, 0xFF]
    let issued := encode [⟨[0x53], .short, startup⟩, ⟨[0x9F, 0x7F], .long 2, [0x84]⟩,
      ⟨[0xC7], .long 1, serial⟩]
    let proprietary := encode [⟨[0xBF, 0x0C], .long 3, issued⟩]
    let template := encode [⟨[0xA5], .short, proprietary⟩, ⟨[0x50], .short, [0xA5]⟩,
      ⟨[0x84], .short, name⟩]
    let named := encode [⟨[0x84], .short, name⟩]
    (∃ identity, Identity.decode (.fci [0x3B] (encode [⟨[0x6F], .long 8, template⟩]) 0x6283) =
        .ok identity ∧ identity.Recovers name serial startup [0x3B] 0x6283) ∧
      ∃ fault, Identity.decode (.fci [0x3B] (encode [⟨[0x6F], .short, named⟩]) 0x9000) =
        .error (.malformed fault) ∧ ControlInformation.Has ⟨some ⟨some name, none⟩⟩ fault := by
  intro name serial startup issued proprietary template named
  have issuedWritten : Discretionary.Written ⟨some serial, some startup⟩ issued :=
    ⟨_, ⟨rfl, by decide⟩,
      @Holds.present _ _ _ [⟨[0x53], .short, startup⟩, ⟨[0x9F, 0x7F], .long 2, [0x84]⟩] []
        ⟨[0xC7], .long 1, serial⟩ _ rfl rfl (by decide),
      @Holds.present _ _ _ [] _ ⟨[0x53], .short, startup⟩ _ rfl rfl (by decide)⟩
  have proprietaryWritten : Proprietary.Written ⟨some ⟨some serial, some startup⟩⟩ proprietary :=
    ⟨_, ⟨rfl, by decide⟩, @Holds.present _ _ _ [] [] ⟨[0xBF, 0x0C], .long 3, issued⟩ _ rfl
      issuedWritten (by decide)⟩
  have templateWritten :
      Template.Written ⟨some name, some ⟨some ⟨some serial, some startup⟩⟩⟩ template :=
    ⟨_, ⟨rfl, by decide⟩,
      @Holds.present _ _ _ [⟨[0xA5], .short, proprietary⟩, ⟨[0x50], .short, [0xA5]⟩] []
        ⟨[0x84], .short, name⟩ _ rfl rfl (by decide),
      @Holds.present _ _ _ [] _ ⟨[0xA5], .short, proprietary⟩ _ rfl proprietaryWritten
        (by decide)⟩
  have namedWritten : Template.Written ⟨some name, none⟩ named :=
    ⟨_, ⟨rfl, by decide⟩, @Holds.present _ _ _ [] [] ⟨[0x84], .short, name⟩ _ rfl rfl (by decide),
      .absent (by decide)⟩
  have whole : ControlInformation.Written
      ⟨some ⟨some name, some ⟨some ⟨some serial, some startup⟩⟩⟩⟩
      (encode [⟨[0x6F], .long 8, template⟩]) :=
    ⟨_, ⟨rfl, by decide⟩, @Holds.present _ _ _ [] [] ⟨[0x6F], .long 8, template⟩ _ rfl
      templateWritten (by decide)⟩
  have part : ControlInformation.Written ⟨some ⟨some name, none⟩⟩
      (encode [⟨[0x6F], .short, named⟩]) :=
    ⟨_, ⟨rfl, by decide⟩, @Holds.present _ _ _ [] [] ⟨[0x6F], .short, named⟩ _ rfl namedWritten
      (by decide)⟩
  exact ⟨(decode_written whole [0x3B] 0x6283).1 name serial startup
      ⟨rfl, by decide, by decide, by decide⟩,
    (decode_written part [0x3B] 0x9000).2 fun _ _ _ tells => by cases tells.eq⟩

end FareTerminal.Card
