import FareTerminal.Proofs.Tlv.Lookup

/-! Objects next to each other whose order does not matter: what belongs to a tag is found wherever it
stands and whatever stands around it. -/

namespace FareTerminal.Tlv

/-- The data of a level: valid objects, one after the other. -/
structure Spells (objects : List Object) (data : Bytes) : Prop where
  eq_encode : data = encode objects
  valid : ∀ object ∈ objects, object.Valid

/-- Of the objects exactly one has the tag, with a value that is written from the content; if there is
no content, none has. -/
inductive Holds {α : Type} (tag : Bytes) (written : α → Bytes → Prop) :
    List Object → Option α → Prop
  | absent {objects : List Object} (others : ∀ object ∈ objects, object.tag ≠ tag) :
    Holds tag written objects none
  | present {before behind : List Object} {object : Object} {content : α} (same : object.tag = tag)
    (value : written content object.value)
    (others : ∀ other ∈ before ++ behind, other.tag ≠ tag) :
    Holds tag written (before ++ object :: behind) (some content)

/-- What is found under the tag is what was written there. -/
theorem Holds.rel_find? {α : Type} {objects : List Object} {data tag : Bytes}
    {written : α → Bytes → Prop} {content : Option α} (holds : Holds tag written objects content)
    (spells : Spells objects data) : Option.Rel written content (find? data tag) := by
  obtain ⟨rfl, valid⟩ := spells
  cases holds with
  | absent others =>
    have absent := find?_encode_append_of_ne
      (fun object member => ⟨valid object member, others object member⟩) []
    rw [List.append_nil, find?_nil] at absent
    rw [absent]
    exact .none
  | @present before behind object content same value others =>
    have passed : ∀ other ∈ before, other.Valid ∧ other.tag ≠ tag := fun other member =>
      ⟨valid other (List.mem_append_left _ member), others other (List.mem_append_left _ member)⟩
    have whole : encode (before ++ object :: behind) =
        encode before ++ (object.toBytes ++ encode behind) := List.flatMap_append
    rw [whole, find?_encode_append_of_ne passed, find?_toBytes_append (valid object (by simp)),
      if_pos same]
    exact .some value

theorem eq_of_rel {content value : Option Bytes} (found : Option.Rel Eq content value) :
    value = content := by
  cases found with
  | none => rfl
  | some same => rw [same]

/-- A path that goes on into the value of an object finds there what was written of its content. -/
theorem rel_findPath?_cons {α β : Type} {written : α → Bytes → Prop} {inside : β → Bytes → Prop}
    {content : Option α} {part : α → Option β} {data tag : Bytes} {path : List Bytes}
    (outer : Option.Rel written content (find? data tag))
    (inner : ∀ content value, written content value →
      Option.Rel inside (part content) (findPath? value path)) :
    Option.Rel inside (content.bind part) (findPath? data (tag :: path)) := by
  rw [findPath?_cons]
  generalize find? data tag = value at outer ⊢
  cases outer with
  | none => exact .none
  | some related => exact inner _ _ related

@[simp] theorem findPath?_singleton (data tag : Bytes) : findPath? data [tag] = find? data tag :=
  Option.bind_fun_some (find? data tag)

end FareTerminal.Tlv
