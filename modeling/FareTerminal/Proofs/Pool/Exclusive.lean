import Mathlib.Data.List.Induction
import FareTerminal.Proofs.Pool.Berth

/-! No security module is in two hands, in whatever order callers get, give back and make up what
they like, from the pool or from the slots around it. -/

namespace FareTerminal.Pool

open scoped List
open Berth

variable {η : Type}

/-- Whether a slot is as it was made, free, or is held under some lease. -/
def Slot.IsOf (slot original : Slot η) : Prop :=
  slot = original ∨ slot.lease ≠ 0 ∧ slot = { original with handle := none, lease := slot.lease }

theorem Berth.isOf_original (berth : Berth η) : berth.slot.IsOf berth.original := by
  by_cases free : berth.lease = 0
  · exact .inl (by simp [slot, original, free])
  · exact .inr ⟨free, by simp [slot, original, free]⟩

theorem Scene.run_concat (config : Config) (actions : List (Action η)) (action : Action η) :
    Scene.run config (actions ++ [action]) = (Scene.run config actions).act action := by
  simp [Scene.run]

theorem exists_berths_run (config : Config) (actions : List (Action η)) :
    ∃ berths, berths.map original = actions.filterMap Action.slot? ∧
      Kept (Scene.run config actions) berths := by
  induction actions using List.reverseRecOn with
  | nil =>
    exact ⟨[], rfl, rfl, Nat.one_ne_zero, by simp, List.nodup_nil, .refl _, by simp [Scene.run]⟩
  | append_singleton actions action ih =>
    obtain ⟨berths, originals, kept⟩ := ih
    obtain ⟨berths', more, kept'⟩ := kept.step (Scene.step_act _ action)
    refine ⟨berths', ?_, Scene.run_concat config actions action ▸ kept'⟩
    rw [more, originals, List.filterMap_append]
    cases slot : action.slot? <;> simp [slot]

theorem handles_run_subperm (config : Config) (actions : List (Action η)) :
    (Scene.run config actions).handles <+~ actions.filterMap Action.handle? := by
  induction actions using List.reverseRecOn with
  | nil => exact .refl _
  | append_singleton actions action ih =>
    rw [Scene.run_concat, List.filterMap_append]
    refine (Scene.step_act _ action).handles_subperm.trans ?_
    refine ((List.subperm_append_left _).mpr ih).trans (List.perm_append_comm.subperm.trans ?_)
    cases handle : action.handle? <;> simp [handle, List.Subperm.refl]

theorem GivesOut.any_offers {wanted : Descriptor → Bool} {lease : Nat}
    {slots slots' : List (Slot η)} {resource : Resource η}
    (h : GivesOut wanted lease slots slots' resource) :
    slots.any (Slot.offers wanted) = true := by
  obtain ⟨_, _, free, fits⟩ := h
  simp [Slot.offers, Slot.isFree, free, fits]

namespace Kept

variable {scene : Scene η} {berths : List (Berth η)}

theorem berth_mem_lent (kept : Kept scene berths) {resource : Resource η}
    (outstanding : resource ∈ scene.outstanding) : resource.berth ∈ lent berths :=
  kept.outstanding.subset (List.mem_map_of_mem outstanding)

theorem slotLease_ne_zero (kept : Kept scene berths) {resource : Resource η}
    (outstanding : resource ∈ scene.outstanding) : resource.slotLease ≠ 0 :=
  (mem_lent.mp (kept.berth_mem_lent outstanding)).2

theorem nodup_slotLease (kept : Kept scene berths) :
    (scene.outstanding.map (·.slotLease)).Nodup := by
  obtain ⟨more, perm, sublist⟩ := kept.outstanding
  have leases := (sublist.map (·.lease)).nodup kept.leases
  have nodup := (perm.map (·.lease)).nodup_iff.mp leases
  rwa [List.map_map] at nodup

/-- One slot waits for what is out, and no other. -/
theorem countP_awaits (kept : Kept scene berths) {resource : Resource η}
    (outstanding : resource ∈ scene.outstanding) :
    scene.pool.provider.slots.countP (·.awaits resource) = 1 := by
  have leased := kept.slotLease_ne_zero outstanding
  have out := kept.berth_mem_lent outstanding
  have same : (berths.map slot).countP (·.awaits resource) =
      (lent berths).countP (·.lease == resource.slotLease) := by
    rw [List.countP_map, lent, List.countP_filter]
    refine List.countP_congr fun berth member => ?_
    simp only [Function.comp, decide_eq_true_eq, Bool.and_eq_true, beq_iff_eq, bne_iff_ne,
      awaits_slot_iff leased]
    constructor
    · rintro ⟨_, lease⟩
      exact ⟨lease, lease ▸ leased⟩
    · rintro ⟨lease, out⟩
      exact ⟨congrArg name (kept.eq_berth outstanding (mem_lent.mpr ⟨member, out⟩) lease), lease⟩
  have once := List.count_eq_one_of_mem kept.leases (List.mem_map_of_mem (f := (·.lease)) out)
  rw [List.count_eq_countP, List.countP_map] at once
  rw [kept.slots, same]
  exact once

/-- The slots take back just what they have given out. -/
theorem isOk_putBack (kept : Kept scene berths) {possession : Possession η}
    (member : possession ∈ scene.held) :
    (scene.pool.provider.putBack possession.resource).isOk = !possession.forged := by
  obtain ⟨refused, none⟩ | ⟨slots, accepted, leased, _⟩ :=
    Slots.putBack_cases possession.resource scene.pool.provider
  · cases forged : possession.forged with
    | true => rw [refused]; rfl
    | false =>
      have outstanding : possession.resource ∈ scene.outstanding :=
        List.mem_map_of_mem (List.mem_filter.mpr ⟨member, by simp [forged]⟩)
      obtain ⟨slot, member, awaits⟩ := List.countP_pos_iff.mp
        (Nat.lt_of_lt_of_eq Nat.one_pos (kept.countP_awaits outstanding).symm)
      exact absurd (of_decide_eq_true awaits)
        (none (kept.slotLease_ne_zero outstanding) slot member)
  · rw [accepted, kept.forged_eq_false member leased]
    rfl

/-- The slots do not refuse what the pool has a note of. -/
theorem isOk_release (kept : Kept scene berths) {possession : Possession η}
    (member : possession ∈ scene.held) :
    (scene.pool.release possession.resource).isOk = scene.pool.holds possession.resource := by
  unfold release
  cases holds : scene.pool.holds possession.resource with
  | false => rfl
  | true =>
    have given : possession.forged = false := by
      by_contra forged
      have unmarked := (kept.unleased possession member (by simpa using forged)).2
      simp [Pool.holds, unmarked] at holds
    have accepted := kept.isOk_putBack member
    rw [given] at accepted
    simp only [if_true, Provider.putBack]
    cases outcome : scene.pool.provider.putBack possession.resource with
    | error error => rw [outcome] at accepted; cases accepted
    | ok provider => rfl

end Kept

namespace Scene

/-- An attempt gets the first wanted security module that is free, if there is one, and nothing
otherwise. -/
def Grants (wanted : Descriptor → Bool) (scene scene' : Scene η) : Prop :=
  if scene.pool.provider.slots.any (Slot.offers wanted) then
    ∃ resource slots,
      GivesOut wanted scene.pool.provider.nextLease scene.pool.provider.slots slots resource ∧
        scene'.pool.provider = { slots, nextLease := scene.pool.provider.nextLease + 1 } ∧
        scene'.held = { resource } :: scene.held
  else scene' = scene

theorem grants_act_take (scene : Scene η) (wanted : Descriptor → Bool) :
    scene.Grants wanted (scene.act (.take wanted)) := by
  unfold Grants
  obtain ⟨nothing, none⟩ | ⟨resource, slots, taken, _, givesOut⟩ :=
    Slots.take?_cases wanted scene.pool.provider
  · rw [if_neg (by simpa using none)]
    simp only [act, nothing]
  · rw [if_pos givesOut.any_offers]
    exact ⟨resource, slots, givesOut, by simp only [act, taken], by simp only [act, taken]⟩

theorem grants_act_attempt (scene : Scene η) (wanted : Descriptor → Bool) :
    scene.Grants wanted (scene.act (.attempt wanted)) := by
  unfold Grants
  obtain ⟨nothing, none⟩ | ⟨resource, slots, taken, _, givesOut⟩ :=
    Slots.take?_cases wanted scene.pool.provider
  · rw [if_neg (by simpa using none)]
    simp only [act, attemptWhere?, nothing, Option.map_none]
  · rw [if_pos givesOut.any_offers]
    refine ⟨{ resource with poolLease := scene.pool.lastLease + 1 }, slots, givesOut.mark _, ?_, ?_⟩
      <;> simp only [act, attemptWhere?, taken, Option.map_some]

/-- What is not accepted is gone from the caller's hands, and nothing else happens. -/
theorem giveBack_of_isOk_eq_false {accept : Resource η → Except PoolError (Pool (Slots η))}
    {scene : Scene η} {index : Nat} {possession : Possession η}
    (at_index : scene.held[index]? = some possession)
    (refused : (accept possession.resource).isOk = false) :
    scene.giveBack accept index = { scene with held := scene.held.eraseIdx index } := by
  simp only [giveBack, at_index]
  cases outcome : accept possession.resource with
  | error error => rfl
  | ok pool =>
    rw [outcome] at refused
    cases refused

end Scene

/-- What no order of actions can break. -/
structure Exclusive (actions : List (Action η)) (scene : Scene η) : Prop where
  /-- Every slot is as it was made, or held. -/
  slots : List.Forall₂ Slot.IsOf scene.pool.provider.slots (actions.filterMap Action.slot?)
  /-- What is out bears leases that nobody else has. -/
  leased : ∀ resource ∈ scene.outstanding, resource.slotLease ≠ 0
  leases : (scene.outstanding.map (·.slotLease)).Nodup
  /-- It belongs to one slot, and no two belong to the same. -/
  one_slot : ∀ resource ∈ scene.outstanding,
    scene.pool.provider.slots.countP (·.awaits resource) = 1
  one_holder : ∀ slot ∈ scene.pool.provider.slots, scene.outstanding.countP (slot.awaits ·) ≤ 1
  /-- A handle is in as many places as it was brought in, at most. -/
  handles : scene.handles <+~ actions.filterMap Action.handle?

/-- Whatever callers do, in whatever order: no two of them ever have the same security module, an
attempt gets the first free one that is wanted, and what was made up is refused and changes nothing.
The pool refuses whatever it has no note of. -/
theorem run_exclusive (config : Config) (actions : List (Action η)) :
    let scene := Scene.run config actions
    Exclusive actions scene ∧
      (∀ wanted, scene.Grants wanted (scene.act (.take wanted)) ∧
        scene.Grants wanted (scene.act (.attempt wanted))) ∧
      (∀ demand, scene.pool.attempt demand =
        match attemptWhere? demand.accepts scene.pool with
        | some (resource, pool) => (some resource, pool)
        | none => (none, scene.pool)) ∧
      ∀ index possession, scene.held[index]? = some possession →
        (scene.pool.provider.putBack possession.resource).isOk = !possession.forged ∧
        (scene.pool.release possession.resource).isOk = scene.pool.holds possession.resource ∧
        ((scene.pool.provider.putBack possession.resource).isOk = false →
          scene.act (.putBack index) = { scene with held := scene.held.eraseIdx index }) ∧
        ((scene.pool.release possession.resource).isOk = false →
          scene.act (.release index) = { scene with held := scene.held.eraseIdx index }) := by
  intro scene
  obtain ⟨berths, originals, kept⟩ := exists_berths_run config actions
  refine ⟨⟨?_, ?_, ?_, ?_, ?_, ?_⟩, ?_, ?_, ?_⟩
  · rw [kept.slots, ← originals, List.forall₂_map_left_iff, List.forall₂_map_right_iff]
    exact List.forall₂_same.mpr fun berth _ => berth.isOf_original
  · exact fun resource => kept.slotLease_ne_zero
  · exact kept.nodup_slotLease
  · exact fun resource => kept.countP_awaits
  · intro slot _
    have shown : scene.outstanding.countP (slot.awaits ·) ≤
        (scene.outstanding.map (·.slotLease)).count slot.lease := by
      rw [List.count_eq_countP, List.countP_map]
      refine List.countP_mono_left fun resource _ awaits => ?_
      simpa using (of_decide_eq_true awaits).2.2.symm
    exact Nat.le_trans shown (List.nodup_iff_count_le_one.mp kept.nodup_slotLease slot.lease)
  · exact handles_run_subperm config actions
  · exact fun wanted => ⟨scene.grants_act_take wanted, scene.grants_act_attempt wanted⟩
  · exact fun demand => attempt_eq_attemptWhere? demand scene.pool
  · intro index possession at_index
    have member := List.mem_of_getElem? at_index
    refine ⟨kept.isOk_putBack member, kept.isOk_release member, fun refused => ?_,
      fun refused => ?_⟩ <;> rw [Scene.act] <;> refine Scene.giveBack_of_isOk_eq_false at_index ?_
    · cases outcome : scene.pool.provider.putBack possession.resource with
      | error error => rfl
      | ok provider => rw [outcome] at refused; cases refused
    · exact refused

end FareTerminal.Pool
