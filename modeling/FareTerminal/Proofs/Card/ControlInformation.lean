import FareTerminal.Card.Identity
import FareTerminal.Proofs.Tlv.Level

/-! A card's description of itself, apart from the ways to write it. It is a tree of data objects, any of
which may be missing. `ControlInformation.Written` says how it may be written: siblings in any order,
other objects anywhere, lengths in any form. Whichever way is taken, the same parts are found in it. -/

namespace FareTerminal.Card

/-- What the issuer says about a card. -/
structure Discretionary where
  serial : Option Bytes
  startup : Option Bytes
  deriving Repr, DecidableEq

structure Proprietary where
  discretionary : Option Discretionary
  deriving Repr, DecidableEq

structure Template where
  name : Option Bytes
  proprietary : Option Proprietary
  deriving Repr, DecidableEq

/-- A card's description of itself, as far as it is there. -/
structure ControlInformation where
  template : Option Template
  deriving Repr, DecidableEq

open Tlv Identity

def Discretionary.Written (discretionary : Discretionary) (data : Bytes) : Prop :=
  ∃ objects, Spells objects data ∧
    Holds [0xC7] Eq objects discretionary.serial ∧
    Holds [0x53] Eq objects discretionary.startup

def Proprietary.Written (proprietary : Proprietary) (data : Bytes) : Prop :=
  ∃ objects, Spells objects data ∧
    Holds [0xBF, 0x0C] Discretionary.Written objects proprietary.discretionary

def Template.Written (template : Template) (data : Bytes) : Prop :=
  ∃ objects, Spells objects data ∧
    Holds [0x84] Eq objects template.name ∧
    Holds [0xA5] Proprietary.Written objects template.proprietary

/-- The bytes that spell a description. -/
def ControlInformation.Written (information : ControlInformation) (data : Bytes) : Prop :=
  ∃ objects, Spells objects data ∧
    Holds [0x6F] Template.Written objects information.template

/-- Nothing is missing, the name has five to sixteen bytes, the serial number eight, and the startup
information at least seven. -/
structure ControlInformation.Tells (information : ControlInformation) (name serial startup : Bytes) :
    Prop where
  eq : information = ⟨some ⟨some name, some ⟨some ⟨some serial, some startup⟩⟩⟩⟩
  nameLength : 5 ≤ name.length ∧ name.length ≤ 16
  serialLength : serial.length = 8
  startupLength : 7 ≤ startup.length

namespace ControlInformation

def name? (information : ControlInformation) : Option Bytes := information.template.bind (·.name)

def discretionary? (information : ControlInformation) : Option Discretionary :=
  information.template.bind fun template => template.proprietary.bind (·.discretionary)

/-- What is wrong with a description: the fault names the part that is missing or has a wrong length. -/
def Has (information : ControlInformation) : ControlFault → Prop
  | .nameMissing => information.name? = none
  | .nameLength length =>
    ∃ name, information.name? = some name ∧ name.length = length ∧ ¬(5 ≤ length ∧ length ≤ 16)
  | .discretionaryMissing => information.discretionary? = none
  | .serial =>
    ∃ discretionary, information.discretionary? = some discretionary ∧
      ∀ serial, discretionary.serial = some serial → serial.length ≠ 8
  | .startup =>
    ∃ discretionary, information.discretionary? = some discretionary ∧
      ∀ startup, discretionary.startup = some startup → startup.length < 7

theorem tells_iff {information : ControlInformation} {name serial startup : Bytes} :
    information.Tells name serial startup ↔
      (information.name? = some name ∧ 5 ≤ name.length ∧ name.length ≤ 16) ∧
      ∃ discretionary, information.discretionary? = some discretionary ∧
        (discretionary.serial = some serial ∧ serial.length = 8) ∧
        discretionary.startup = some startup ∧ 7 ≤ startup.length := by
  constructor
  · rintro ⟨rfl, nameLength, serialLength, startupLength⟩
    exact ⟨⟨rfl, nameLength⟩, _, rfl, ⟨rfl, serialLength⟩, rfl, startupLength⟩
  · rintro ⟨⟨named, nameLength⟩, ⟨_, _⟩, described, ⟨rfl, serialLength⟩, rfl, startupLength⟩
    obtain ⟨template, present, named⟩ := Option.bind_eq_some_iff.mp named
    obtain ⟨_, present', described⟩ := Option.bind_eq_some_iff.mp described
    obtain rfl := Option.some.inj (present.symm.trans present')
    obtain ⟨proprietary, inside, described⟩ := Option.bind_eq_some_iff.mp described
    obtain ⟨_⟩ := information
    obtain ⟨_, _⟩ := template
    obtain ⟨_⟩ := proprietary
    simp only at present named inside described
    subst present named inside described
    exact ⟨rfl, nameLength, serialLength, startupLength⟩

end ControlInformation

section

variable {data : Bytes}

theorem Discretionary.Written.find?_serial {discretionary : Discretionary}
    (written : discretionary.Written data) : find? data serialTag = discretionary.serial := by
  obtain ⟨objects, spells, serial, -⟩ := written
  exact eq_of_rel (serial.rel_find? spells)

theorem Discretionary.Written.find?_startup {discretionary : Discretionary}
    (written : discretionary.Written data) : find? data startupTag = discretionary.startup := by
  obtain ⟨objects, spells, -, startup⟩ := written
  exact eq_of_rel (startup.rel_find? spells)

theorem Proprietary.Written.rel_find? {proprietary : Proprietary}
    (written : proprietary.Written data) :
    Option.Rel Discretionary.Written proprietary.discretionary (find? data discretionaryTag) := by
  obtain ⟨objects, spells, discretionary⟩ := written
  exact discretionary.rel_find? spells

theorem Template.Written.rel_find?_name {template : Template} (written : template.Written data) :
    Option.Rel Eq template.name (find? data nameTag) := by
  obtain ⟨objects, spells, name, -⟩ := written
  exact name.rel_find? spells

theorem Template.Written.rel_find? {template : Template} (written : template.Written data) :
    Option.Rel Proprietary.Written template.proprietary (find? data proprietaryTag) := by
  obtain ⟨objects, spells, -, proprietary⟩ := written
  exact proprietary.rel_find? spells

end

namespace ControlInformation.Written

variable {information : ControlInformation} {fci : Bytes}

theorem rel_find? (written : information.Written fci) :
    Option.Rel Template.Written information.template (find? fci fciTag) := by
  obtain ⟨objects, spells, template⟩ := written
  exact template.rel_find? spells

theorem findPath?_name (written : information.Written fci) :
    findPath? fci [fciTag, nameTag] = information.name? := by
  refine eq_of_rel (rel_findPath?_cons written.rel_find? fun template value inside => ?_)
  rw [findPath?_singleton]
  exact inside.rel_find?_name

theorem rel_findPath?_discretionary (written : information.Written fci) :
    Option.Rel Discretionary.Written information.discretionary?
      (findPath? fci [fciTag, proprietaryTag, discretionaryTag]) := by
  refine rel_findPath?_cons written.rel_find? fun template value inside => ?_
  refine rel_findPath?_cons inside.rel_find? fun proprietary value inside => ?_
  rw [findPath?_singleton]
  exact inside.rel_find?

end ControlInformation.Written

end FareTerminal.Card
