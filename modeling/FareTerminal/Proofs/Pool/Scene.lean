import Mathlib.Data.List.Perm.Subperm
import FareTerminal.Pool.Scene
import FareTerminal.Proofs.Pool.Slots

/-! What an action can do to a scene. No handle comes from nowhere, and the counters of a pool go up
by one at most. -/

namespace FareTerminal.Pool

open scoped List

variable {η : Type}

theorem perm_cons_eraseIdx {α : Type} {items : List α} {index : Nat} {item : α}
    (at_index : items[index]? = some item) : items ~ item :: items.eraseIdx index := by
  obtain ⟨inside, rfl⟩ := List.getElem?_eq_some_iff.mp at_index
  exact (List.getElem_cons_eraseIdx_perm inside).symm

namespace Scene

/-- What an action can do to a scene. Callers get and give back one security module at a time, and
what is refused is gone from their hands all the same. -/
inductive Step (scene : Scene η) : Action η → Scene η → Prop
  | added (name : String) (descriptor : Descriptor) (handle : η) :
    Step scene (.add name descriptor handle)
      { scene with pool := scene.pool.onProvider (·.add name descriptor handle) }
  | forged (name : String) (descriptor : Descriptor) (handle : η) :
    Step scene (.forge name descriptor handle)
      { scene with
        held := { resource := { name, descriptor, handle }, forged := true } :: scene.held }
  | cancelled : Step scene .cancel { scene with pool := scene.pool.cancel }
  | idle {action : Action η} (bare : action.handle? = none) : Step scene action scene
  | taken {wanted : Descriptor → Bool} {slots : List (Slot η)} {resource : Resource η}
    (givesOut : GivesOut wanted scene.pool.provider.nextLease scene.pool.provider.slots slots
      resource) :
    Step scene (.take wanted)
      { pool := { scene.pool with
          provider := { slots, nextLease := scene.pool.provider.nextLease + 1 } }
        held := { resource } :: scene.held }
  | allocated {wanted : Descriptor → Bool} {slots : List (Slot η)} {resource : Resource η}
    (givesOut : GivesOut wanted scene.pool.provider.nextLease scene.pool.provider.slots slots
      resource)
    (marked : resource.poolLease = scene.pool.lastLease + 1) :
    Step scene (.attempt wanted)
      { pool := { scene.pool with
          provider := { slots, nextLease := scene.pool.provider.nextLease + 1 }
          ledger := scene.pool.ledger.note resource.name (scene.pool.lastLease + 1)
          lastLease := scene.pool.lastLease + 1 }
        held := { resource } :: scene.held }
  | putBack {index : Nat} {possession : Possession η} {slots : List (Slot η)}
    (at_index : scene.held[index]? = some possession) (leased : possession.resource.slotLease ≠ 0)
    (takesBack : TakesBack possession.resource scene.pool.provider.slots slots) :
    Step scene (.putBack index)
      { pool := { scene.pool with provider := { scene.pool.provider with slots } }
        held := scene.held.eraseIdx index }
  | released {index : Nat} {possession : Possession η} {slots : List (Slot η)}
    (at_index : scene.held[index]? = some possession)
    (holds : scene.pool.holds possession.resource = true)
    (leased : possession.resource.slotLease ≠ 0)
    (takesBack : TakesBack possession.resource scene.pool.provider.slots slots) :
    Step scene (.release index)
      { pool := { scene.pool with
          provider := { scene.pool.provider with slots }
          ledger := scene.pool.ledger.strike possession.resource.name }
        held := scene.held.eraseIdx index }
  | putBackRefused {index : Nat} {possession : Possession η}
    (at_index : scene.held[index]? = some possession)
    (refused : (scene.pool.provider.putBack possession.resource).isOk = false) :
    Step scene (.putBack index) { scene with held := scene.held.eraseIdx index }
  | releaseRefused {index : Nat} {possession : Possession η}
    (at_index : scene.held[index]? = some possession)
    (refused : (scene.pool.release possession.resource).isOk = false) :
    Step scene (.release index) { scene with held := scene.held.eraseIdx index }

theorem release_cases (resource : Resource η) (pool : Pool (Slots η)) :
    (∃ error, pool.release resource = .error error) ∨
    ∃ slots, pool.holds resource = true ∧ resource.slotLease ≠ 0 ∧
      TakesBack resource pool.provider.slots slots ∧
      pool.release resource = .ok { pool with
        provider := { pool.provider with slots }, ledger := pool.ledger.strike resource.name } := by
  unfold release
  cases holds : pool.holds resource with
  | false => exact .inl ⟨_, rfl⟩
  | true =>
    obtain ⟨refused, _⟩ | ⟨slots, accepted, leased, takesBack⟩ :=
      Slots.putBack_cases resource pool.provider
    · exact .inl ⟨_, by simp only [if_true, Provider.putBack, refused]; rfl⟩
    · exact .inr ⟨slots, rfl, leased, takesBack,
        by simp only [if_true, Provider.putBack, accepted]; rfl⟩

theorem step_act (scene : Scene η) (action : Action η) : Step scene action (scene.act action) := by
  cases action with
  | add name descriptor handle => exact .added name descriptor handle
  | forge name descriptor handle => exact .forged name descriptor handle
  | cancel => exact .cancelled
  | take wanted =>
    obtain ⟨nothing, _⟩ | ⟨resource, slots, taken, _, givesOut⟩ :=
      Slots.take?_cases wanted scene.pool.provider
    · simpa only [act, nothing] using Step.idle rfl
    · simpa only [act, taken] using Step.taken givesOut
  | attempt wanted =>
    obtain ⟨nothing, _⟩ | ⟨resource, slots, taken, _, givesOut⟩ :=
      Slots.take?_cases wanted scene.pool.provider
    · simpa only [act, attemptWhere?, nothing, Option.map_none] using Step.idle rfl
    · simpa only [act, attemptWhere?, taken, Option.map_some] using
        Step.allocated (givesOut.mark _) rfl
  | putBack index =>
    simp only [act, giveBack]
    cases at_index : scene.held[index]? with
    | none => exact .idle rfl
    | some possession =>
      obtain ⟨refused, _⟩ | ⟨slots, accepted, leased, takesBack⟩ :=
        Slots.putBack_cases possession.resource scene.pool.provider
      · simp only [refused]
        exact .putBackRefused at_index (by rw [refused]; rfl)
      · simp only [accepted]
        exact .putBack at_index leased takesBack
  | release index =>
    simp only [act, giveBack]
    cases at_index : scene.held[index]? with
    | none => exact .idle rfl
    | some possession =>
      obtain ⟨error, refused⟩ | ⟨slots, holds, leased, takesBack, accepted⟩ :=
        release_cases possession.resource scene.pool
      · simp only [refused]
        exact .releaseRefused at_index (by rw [refused]; rfl)
      · simp only [accepted]
        exact .released at_index holds leased takesBack

theorem handles_eraseIdx_subperm (scene : Scene η) (index : Nat) :
    handles { scene with held := scene.held.eraseIdx index } <+~ scene.handles :=
  (((List.eraseIdx_sublist scene.held index).map (·.resource.handle)).append_left _).subperm

/-- What an action did not bring in is nowhere that it was not before, and nowhere twice. -/
theorem Step.handles_subperm {scene scene' : Scene η} {action : Action η}
    (step : Step scene action scene') :
    scene'.handles <+~ action.handle?.toList ++ scene.handles := by
  cases step with
  | added name descriptor handle =>
    have middle : _ ~ handle :: (scene.pool.provider.slots.filterMap (·.handle) ++
      scene.held.map (·.resource.handle)) := List.perm_middle
    simpa [handles, onProvider, Slots.add, Action.handle?] using middle.subperm
  | forged name descriptor handle => exact List.perm_middle.subperm
  | cancelled => exact .refl _
  | idle => exact (List.sublist_append_right _ _).subperm
  | taken givesOut =>
    exact (List.perm_middle.trans (givesOut.handles_perm.symm.append_right _)).subperm
  | allocated givesOut =>
    exact (List.perm_middle.trans (givesOut.handles_perm.symm.append_right _)).subperm
  | putBack at_index _ takesBack =>
    have held := (perm_cons_eraseIdx at_index).map (·.resource.handle)
    exact ((takesBack.handles_perm.append_right _).trans
      (List.perm_middle.symm.trans (held.symm.append_left _))).subperm
  | released at_index _ _ takesBack =>
    have held := (perm_cons_eraseIdx at_index).map (·.resource.handle)
    exact ((takesBack.handles_perm.append_right _).trans
      (List.perm_middle.symm.trans (held.symm.append_left _))).subperm
  | putBackRefused => exact scene.handles_eraseIdx_subperm _
  | releaseRefused => exact scene.handles_eraseIdx_subperm _

end Scene

/-- How far the counters of a pool and its slots can have come in so many steps. -/
structure CountsTo (pool : Pool (Slots η)) (steps : Nat) : Prop where
  slotLease : pool.provider.nextLease ≤ steps + 1
  poolLease : pool.lastLease ≤ steps
  cancellations : pool.cancellations ≤ steps

theorem CountsTo.mono {pool : Pool (Slots η)} {steps more : Nat} (h : pool.CountsTo steps)
    (le : steps ≤ more) : pool.CountsTo more :=
  ⟨Nat.le_trans h.slotLease (Nat.add_le_add_right le 1), Nat.le_trans h.poolLease le,
    Nat.le_trans h.cancellations le⟩

/-- An action moves each counter by one at most. -/
theorem CountsTo.step {scene scene' : Scene η} {action : Action η} {steps : Nat}
    (h : scene.pool.CountsTo steps) (step : scene.Step action scene') :
    scene'.pool.CountsTo (steps + 1) := by
  have later := h.mono (Nat.le_succ steps)
  cases step with
  | added | forged | idle | putBack | released | putBackRefused | releaseRefused =>
    exact ⟨later.slotLease, later.poolLease, later.cancellations⟩
  | cancelled => exact ⟨later.slotLease, later.poolLease, Nat.succ_le_succ h.cancellations⟩
  | taken => exact ⟨Nat.succ_le_succ h.slotLease, later.poolLease, later.cancellations⟩
  | allocated =>
    exact ⟨Nat.succ_le_succ h.slotLease, Nat.succ_le_succ h.poolLease, later.cancellations⟩

theorem CountsTo.foldl_act {scene : Scene η} {steps : Nat} (h : scene.pool.CountsTo steps)
    (actions : List (Action η)) :
    (actions.foldl Scene.act scene).pool.CountsTo (steps + actions.length) := by
  induction actions generalizing scene steps with
  | nil => exact h
  | cons action rest ih =>
    have later := ih (h.step (scene.step_act action))
    rwa [Nat.add_assoc, Nat.add_comm 1] at later

theorem countsTo_run (config : Config) (actions : List (Action η)) :
    (Scene.run config actions).pool.CountsTo actions.length := by
  have start : (Scene.run config ([] : List (Action η))).pool.CountsTo 0 :=
    ⟨Nat.le_refl 1, Nat.le_refl 0, Nat.le_refl 0⟩
  have counts := start.foldl_act actions
  rwa [Nat.zero_add] at counts

/-- After fewer than 2^64 - 1 steps the counters have room in 64 bits. -/
theorem CountsTo.lt_size {pool : Pool (Slots η)} {steps : Nat} (h : pool.CountsTo steps)
    (few : steps + 1 < UInt64.size) :
    pool.provider.nextLease < UInt64.size ∧ pool.lastLease < UInt64.size ∧
      pool.cancellations < UInt64.size := by
  have fewer := Nat.lt_of_succ_lt few
  exact ⟨Nat.lt_of_le_of_lt h.slotLease few, Nat.lt_of_le_of_lt h.poolLease fewer,
    Nat.lt_of_le_of_lt h.cancellations fewer⟩

end FareTerminal.Pool
