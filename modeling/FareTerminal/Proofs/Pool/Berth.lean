import Mathlib.Data.List.Nodup
import FareTerminal.Proofs.Pool.Scene

/-! Berths: behind every slot stands the handle that it was made for, there or not. What callers
have got from the slots is out of different berths, under the leases that these show. -/

namespace FareTerminal.Pool

open scoped List

variable {η : Type}

/-- A slot with the handle that it was made for, and the lease under which this is out, or zero. -/
structure Berth (η : Type) where
  name : String
  descriptor : Descriptor
  handle : η
  lease : Nat := 0

namespace Berth

/-- What can be seen of a berth. -/
def slot (berth : Berth η) : Slot η where
  name := berth.name
  descriptor := berth.descriptor
  handle := if berth.lease = 0 then some berth.handle else none
  lease := berth.lease

/-- The slot as it was made. -/
def original (berth : Berth η) : Slot η :=
  { name := berth.name, descriptor := berth.descriptor, handle := some berth.handle }

/-- The berths whose handles are out. -/
def lent (berths : List (Berth η)) : List (Berth η) := berths.filter (·.lease != 0)

theorem mem_lent {berths : List (Berth η)} {berth : Berth η} :
    berth ∈ lent berths ↔ berth ∈ berths ∧ berth.lease ≠ 0 := by
  simp [lent]

theorem lent_middle_free {before after : List (Berth η)} {berth : Berth η}
    (free : berth.lease = 0) :
    lent (before ++ berth :: after) = lent (before ++ after) := by
  simp [lent, free]

theorem lent_middle {before after : List (Berth η)} {berth : Berth η} (out : berth.lease ≠ 0) :
    lent (before ++ berth :: after) ~ berth :: lent (before ++ after) := by
  simp [lent, out]

theorem length_lent_add_countP (berths : List (Berth η)) :
    (lent berths).length + (berths.map slot).countP Slot.isFree = berths.length := by
  rw [lent, List.countP_map, ← List.countP_eq_length_filter, List.length_eq_countP_add_countP]
  congr 1
  refine List.countP_congr fun berth _ => ?_
  by_cases free : berth.lease = 0 <;> simp [slot, Slot.isFree, free]

end Berth

/-- Where a security module is out of, going by what it shows. -/
def Resource.berth (resource : Resource η) : Berth η where
  name := resource.name
  descriptor := resource.descriptor
  handle := resource.handle
  lease := resource.slotLease

theorem Action.slot?_eq_none {action : Action η} (bare : action.handle? = none) :
    action.slot? = none := by
  cases action <;> first | rfl | cases bare

open Berth

theorem awaits_slot_iff {berth : Berth η} {resource : Resource η}
    (leased : resource.slotLease ≠ 0) :
    berth.slot.awaits resource ↔ berth.name = resource.name ∧ berth.lease = resource.slotLease := by
  unfold Slot.awaits slot
  constructor
  · rintro ⟨name, _, lease⟩
    exact ⟨name, lease⟩
  · rintro ⟨name, lease⟩
    exact ⟨name, by simp [lease, leased], lease⟩

/-- What is given out is out of a berth that was free. -/
theorem GivesOut.exists_berth {wanted : Descriptor → Bool} {lease : Nat} {berths : List (Berth η)}
    {slots : List (Slot η)} {resource : Resource η}
    (h : GivesOut wanted lease (berths.map slot) slots resource) (positive : lease ≠ 0) :
    ∃ before berth after, berths = before ++ berth :: after ∧ berth.lease = 0 ∧
      resource.berth = { berth with lease } ∧
      slots = (before ++ { berth with lease } :: after).map slot := by
  generalize seen : berths.map slot = old at h
  obtain ⟨_, _, free, _⟩ := h
  obtain ⟨before, rest, rfl, rfl, last⟩ := List.map_eq_append_iff.mp seen
  obtain ⟨berth, after, rfl, rfl, rfl⟩ := List.map_eq_cons_iff.mp last
  have unleased : berth.lease = 0 := by
    by_contra out
    simp [slot, out] at free
  have handle := by simpa only [slot, unleased, if_true, Option.some.injEq] using free
  refine ⟨before, berth, after, rfl, unleased, ?_, ?_⟩
  · simp [Resource.berth, slot, handle]
  · simp [slot, positive]

/-- What is taken back goes into a berth of its name that shows its lease. -/
theorem TakesBack.exists_berth {berths : List (Berth η)} {slots : List (Slot η)}
    {resource : Resource η} (h : TakesBack resource (berths.map slot) slots)
    (leased : resource.slotLease ≠ 0) :
    ∃ before berth after, berths = before ++ berth :: after ∧ berth.name = resource.name ∧
      berth.lease = resource.slotLease ∧
      slots =
        (before ++ { berth with handle := resource.handle, lease := 0 } :: after).map slot := by
  generalize seen : berths.map slot = old at h
  obtain ⟨_, _, awaits⟩ := h
  obtain ⟨before, rest, rfl, rfl, last⟩ := List.map_eq_append_iff.mp seen
  obtain ⟨berth, after, rfl, rfl, rfl⟩ := List.map_eq_cons_iff.mp last
  obtain ⟨name, lease⟩ := (awaits_slot_iff leased).mp awaits
  exact ⟨before, berth, after, rfl, name, lease, by simp [slot]⟩

/-- What is known of a scene over berths: the slots show them, each lease is given once, and the
callers have at most what is out. -/
structure Kept (scene : Scene η) (berths : List (Berth η)) : Prop where
  slots : scene.pool.provider.slots = berths.map slot
  positive : scene.pool.provider.nextLease ≠ 0
  bounded : ∀ berth ∈ berths, berth.lease < scene.pool.provider.nextLease
  leases : ((lent berths).map (·.lease)).Nodup
  outstanding : scene.outstanding.map Resource.berth <+~ lent berths
  unleased : ∀ possession ∈ scene.held, possession.forged →
    possession.resource.slotLease = 0 ∧ possession.resource.poolLease = 0

namespace Kept

variable {scene : Scene η} {berths : List (Berth η)}

theorem forged_eq_false (kept : Kept scene berths) {possession : Possession η}
    (member : possession ∈ scene.held) (leased : possession.resource.slotLease ≠ 0) :
    possession.forged = false := by
  by_contra forged
  exact leased (kept.unleased possession member (by simpa using forged)).1

/-- Only one berth shows the lease of what is out. -/
theorem eq_berth (kept : Kept scene berths) {resource : Resource η} {berth : Berth η}
    (outstanding : resource ∈ scene.outstanding) (member : berth ∈ lent berths)
    (lease : berth.lease = resource.slotLease) : berth = resource.berth :=
  List.inj_on_of_nodup_map kept.leases member
    (kept.outstanding.subset (List.mem_map_of_mem outstanding)) lease

theorem givesOut (kept : Kept scene berths) {wanted : Descriptor → Bool} {slots : List (Slot η)}
    {resource : Resource η}
    (h : GivesOut wanted scene.pool.provider.nextLease scene.pool.provider.slots slots resource) :
    ∃ berths', berths'.map original = berths.map original ∧
      ∀ pool : Pool (Slots η),
        pool.provider = { slots, nextLease := scene.pool.provider.nextLease + 1 } →
        Kept { pool, held := { resource } :: scene.held } berths' := by
  obtain ⟨seen, positive, bounded, leases, outstanding, unleased⟩ := kept
  rw [seen] at h
  generalize scene.pool.provider.nextLease = lease at h positive bounded
  obtain ⟨before, berth, after, rfl, free, origin, rfl⟩ := h.exists_berth positive
  rw [lent_middle_free free] at leases outstanding
  have out : lent (before ++ { berth with lease } :: after) ~ _ := lent_middle positive
  refine ⟨before ++ { berth with lease } :: after, by simp [original],
    fun pool provider => ⟨by rw [provider], ?_, ?_, ?_, ?_, ?_⟩⟩
  · rw [provider]
    exact Nat.succ_ne_zero _
  · rw [provider]
    intro other member
    simp only [List.mem_append, List.mem_cons] at member bounded
    obtain member | rfl | member := member
    · exact Nat.lt_succ_of_lt (bounded other (.inl member))
    · exact Nat.lt_succ_self _
    · exact Nat.lt_succ_of_lt (bounded other (.inr (.inr member)))
  · -- All leases that are shown are older than this one.
    refine (out.map _).nodup_iff.mpr (List.nodup_cons.mpr ⟨?_, leases⟩)
    intro known
    obtain ⟨other, member, same⟩ := List.mem_map.mp known
    have below := bounded other (by
      have member := (mem_lent.mp member).1
      simp only [List.mem_append, List.mem_cons] at member ⊢
      tauto)
    exact absurd same (Nat.ne_of_lt below)
  · refine out.subperm_left.mpr ?_
    have first : Scene.outstanding { pool, held := { resource } :: scene.held } =
      resource :: scene.outstanding := rfl
    rw [first, List.map_cons, origin]
    exact (List.subperm_cons _).mpr outstanding
  · intro possession member
    obtain rfl | member := List.mem_cons.mp member
    · nofun
    · exact unleased possession member

theorem takesBack (kept : Kept scene berths) {index : Nat} {possession : Possession η}
    {slots : List (Slot η)} (at_index : scene.held[index]? = some possession)
    (leased : possession.resource.slotLease ≠ 0)
    (h : TakesBack possession.resource scene.pool.provider.slots slots) :
    ∃ berths', berths'.map original = berths.map original ∧
      ∀ pool : Pool (Slots η), pool.provider = { scene.pool.provider with slots } →
        Kept { pool, held := scene.held.eraseIdx index } berths' := by
  have member := List.mem_of_getElem? at_index
  have given := kept.forged_eq_false member leased
  have given_out : possession.resource ∈ scene.outstanding :=
    List.mem_map_of_mem (List.mem_filter.mpr ⟨member, by simp [given]⟩)
  have held := ((perm_cons_eraseIdx at_index).filter (!·.forged)).map (·.resource.berth)
  have h' := h
  rw [kept.slots] at h'
  obtain ⟨before, berth, after, rfl, _, lease, rfl⟩ := h'.exists_berth leased
  have out : berth.lease ≠ 0 := lease ▸ leased
  -- Only one berth shows the lease, so the handle that goes in is the one it was made for.
  obtain rfl := kept.eq_berth given_out (mem_lent.mpr ⟨by simp, out⟩) lease
  have fewer : lent (before ++ { possession.resource.berth with lease := 0 } :: after) =
      lent (before ++ after) := lent_middle_free rfl
  refine ⟨before ++ { possession.resource.berth with lease := 0 } :: after, by simp [original],
    fun pool provider => ⟨by rw [provider]; rfl, ?_, ?_, ?_, ?_, ?_⟩⟩
  · rw [provider]
    exact kept.positive
  · rw [provider]
    intro other member
    have bounded := kept.bounded
    simp only [List.mem_append, List.mem_cons] at member bounded
    obtain member | rfl | member := member
    · exact bounded other (.inl member)
    · exact Nat.pos_of_ne_zero kept.positive
    · exact bounded other (.inr (.inr member))
  · exact fewer ▸ ((((lent_middle out).map _).nodup_iff.mp kept.leases).of_cons)
  · have outstanding := (lent_middle out).subperm_left.mp kept.outstanding
    rw [Scene.outstanding, List.map_map] at outstanding
    simp only [List.filter_cons, given, Bool.not_false, if_true, List.map_cons] at held
    rw [fewer, Scene.outstanding, List.map_map]
    exact (List.subperm_cons _).mp (held.subperm_right.mp outstanding)
  · intro other member
    exact kept.unleased other (List.mem_of_mem_eraseIdx member)

theorem refused (kept : Kept scene berths) (index : Nat) :
    Kept { scene with held := scene.held.eraseIdx index } berths where
  slots := kept.slots
  positive := kept.positive
  bounded := kept.bounded
  leases := kept.leases
  outstanding :=
    (((List.eraseIdx_sublist _ _).filter _).map _).map _ |>.subperm.trans kept.outstanding
  unleased := fun possession member => kept.unleased possession (List.mem_of_mem_eraseIdx member)

theorem added (kept : Kept scene berths) (name : String) (descriptor : Descriptor) (handle : η) :
    Kept { scene with pool := scene.pool.onProvider (·.add name descriptor handle) }
      (berths ++ [⟨name, descriptor, handle, 0⟩]) where
  slots := by simp [onProvider, Slots.add, kept.slots, slot]
  positive := kept.positive
  bounded := by
    intro berth member
    obtain member | member := List.mem_append.mp member
    · exact kept.bounded berth member
    · obtain rfl := List.mem_singleton.mp member
      exact Nat.pos_of_ne_zero kept.positive
  leases := by simpa [lent] using kept.leases
  outstanding := by simpa [lent, Scene.outstanding] using kept.outstanding
  unleased := kept.unleased

theorem forged (kept : Kept scene berths) (name : String) (descriptor : Descriptor) (handle : η) :
    Kept { scene with
      held := { resource := { name, descriptor, handle }, forged := true } :: scene.held }
      berths where
  slots := kept.slots
  positive := kept.positive
  bounded := kept.bounded
  leases := kept.leases
  outstanding := kept.outstanding
  unleased := List.forall_mem_cons.mpr ⟨fun _ => ⟨rfl, rfl⟩, kept.unleased⟩

theorem step (kept : Kept scene berths) {action : Action η} {scene' : Scene η}
    (h : scene.Step action scene') :
    ∃ berths', berths'.map original = berths.map original ++ action.slot?.toList ∧
      Kept scene' berths' := by
  cases h with
  | added name descriptor handle =>
    exact ⟨berths ++ [⟨name, descriptor, handle, 0⟩], by simp [Action.slot?, original],
      kept.added name descriptor handle⟩
  | forged name descriptor handle =>
    exact ⟨berths, by simp [Action.slot?], kept.forged name descriptor handle⟩
  | cancelled => exact ⟨berths, by simp [Action.slot?], { kept with }⟩
  | idle bare => exact ⟨berths, by simp [Action.slot?_eq_none bare], kept⟩
  | putBackRefused => exact ⟨berths, by simp [Action.slot?], kept.refused _⟩
  | releaseRefused => exact ⟨berths, by simp [Action.slot?], kept.refused _⟩
  | taken h =>
    obtain ⟨berths', originals, kept⟩ := kept.givesOut h
    exact ⟨berths', by simpa [Action.slot?] using originals, kept _ rfl⟩
  | allocated h =>
    obtain ⟨berths', originals, kept⟩ := kept.givesOut h
    exact ⟨berths', by simpa [Action.slot?] using originals, kept _ rfl⟩
  | putBack at_index leased h =>
    obtain ⟨berths', originals, kept⟩ := kept.takesBack at_index leased h
    exact ⟨berths', by simpa [Action.slot?] using originals, kept _ rfl⟩
  | released at_index _ leased h =>
    obtain ⟨berths', originals, kept⟩ := kept.takesBack at_index leased h
    exact ⟨berths', by simpa [Action.slot?] using originals, kept _ rfl⟩

end Kept

end FareTerminal.Pool
