import FareTerminal.Card.Startup

/-! What the bytes of the startup information say, in plain numbers. -/

namespace FareTerminal.Card

/-- The application types of a generation: 1xxxxxxx is the light application, 00101xxx is 3.2, 00100xxx
is 3.1 and any other is 2.4. The oldest cards have none. -/
def Revision.HasType : Revision → Nat → Prop
  | rev1, _ => False
  | rev24, type => type < 0x20 ∨ 0x30 ≤ type ∧ type < 0x80
  | rev31, type => 0x20 ≤ type ∧ type < 0x28
  | rev31Clap, type => 0x80 ≤ type
  | rev32, type => 0x28 ≤ type ∧ type < 0x30

instance (revision : Revision) (type : Nat) : Decidable (revision.HasType type) := by
  cases revision <;> unfold Revision.HasType <;> infer_instance

theorem Revision.hasType_ofApplicationType (applicationType : UInt8) :
    (ofApplicationType applicationType).HasType applicationType.toNat := by
  have table : ∀ type : Fin 256, (ofApplicationType (UInt8.ofNat type.val)).HasType type.val := by
    decide +kernel
  have found := table ⟨applicationType.toNat, applicationType.toNat_lt⟩
  rwa [UInt8.ofNat_toNat] at found

/-- What the bits of an application type say, the lowest first: a PIN, a stored value, a ratification
command that is required, confidential sessions, public keys. -/
def Capabilities.ofBits (bit : Nat → Bool) : Capabilities where
  pin := bit 0
  storedValue := bit 1
  deselectRatification := !bit 2
  confidentialSession := bit 3
  publicAuthentication := bit 4

theorem Capabilities.ofApplicationType_eq_ofBits (applicationType : UInt8) :
    ofApplicationType applicationType = ofBits applicationType.toNat.testBit := by
  have table : ∀ type : Fin 256,
      ofApplicationType (UInt8.ofNat type.val) = ofBits type.val.testBit := by
    decide +kernel
  have found := table ⟨applicationType.toNat, applicationType.toNat_lt⟩
  rwa [UInt8.ofNat_toNat] at found

/-- The startup information is the first seven bytes, whatever follows them. -/
theorem Startup.ofBytes?_eq_some_iff {bytes : Bytes} {startup : Startup} :
    ofBytes? bytes = some startup ↔ startup.toBytes = bytes.take 7 := by
  constructor
  · intro read
    unfold ofBytes? at read
    split at read
    · cases read
      rfl
    · cases read
  · intro first
    rw [← List.take_append_drop 7 bytes, ← first, ofBytes?_toBytes]

theorem Startup.exists_ofBytes?_iff {bytes : Bytes} :
    (∃ startup, ofBytes? bytes = some startup) ↔ 7 ≤ bytes.length := by
  constructor
  · rintro ⟨startup, read⟩
    have seven : startup.toBytes.length = 7 := rfl
    rw [ofBytes?_eq_some_iff.mp read, List.length_take] at seven
    omega
  · intro long
    match bytes with
    | [] | [_] | [_, _] | [_, _, _] | [_, _, _, _] | [_, _, _, _, _] | [_, _, _, _, _, _] =>
      simp at long
    | _ :: _ :: _ :: _ :: _ :: _ :: _ :: _ => exact ⟨_, rfl⟩

end FareTerminal.Card
