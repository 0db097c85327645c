import FareTerminal.Proofs.Pool.Exclusive

/-! What becomes of the security modules that callers get and give back through the pool alone. The
pool notes them by name, so two of one name crowd each other out of its notes, and one of them never
comes back; where all names differ, none is lost. -/

namespace FareTerminal.Pool

open scoped List
open Berth

variable {η : Type}

namespace Ledger

theorem lease?_eq_some_iff {ledger : Ledger} (names : (ledger.map (·.1)).Nodup) {name : String}
    {lease : Nat} : ledger.lease? name = some lease ↔ (name, lease) ∈ ledger := by
  rw [lease?, List.lookup_eq_some_iff]
  constructor
  · rintro ⟨before, after, rfl, _⟩
    simp
  · intro member
    obtain ⟨before, after, rfl⟩ := List.append_of_mem member
    refine ⟨before, after, rfl, fun entry earlier => ?_⟩
    rw [List.map_append, List.nodup_append] at names
    have distinct := names.2.2 entry.1 (List.mem_map_of_mem earlier) name (by simp)
    simpa using distinct.symm

theorem mem_strike {ledger : Ledger} {name : String} {entry : String × Nat} :
    entry ∈ ledger.strike name ↔ entry ∈ ledger ∧ entry.1 ≠ name := by
  simp [strike]

theorem nodup_strike {ledger : Ledger} (names : (ledger.map (·.1)).Nodup) (name : String) :
    ((ledger.strike name).map (·.1)).Nodup :=
  (List.filter_sublist.map _).nodup names

theorem nodup_note {ledger : Ledger} (names : (ledger.map (·.1)).Nodup) (name : String)
    (lease : Nat) : ((ledger.note name lease).map (·.1)).Nodup := by
  refine List.nodup_cons.mpr ⟨fun member => ?_, nodup_strike names name⟩
  obtain ⟨entry, member, same⟩ := List.mem_map.mp member
  exact (mem_strike.mp member).2 same

end Ledger

/-- What the pool notes of a security module. -/
def Resource.entry (resource : Resource η) : String × Nat := (resource.name, resource.poolLease)

/-- What is known of a scene where callers keep to the pool: it gave them all that they have, each
under a lease of its own, and notes nothing that nobody has. -/
structure Noted (scene : Scene η) : Prop where
  genuine : ∀ possession ∈ scene.held, possession.forged = false
  marked : ∀ possession ∈ scene.held, possession.resource.poolLease ≠ 0
  bounded : ∀ possession ∈ scene.held, possession.resource.poolLease ≤ scene.pool.lastLease
  leases : (scene.held.map (·.resource.poolLease)).Nodup
  names : (scene.pool.ledger.map (·.1)).Nodup
  known : scene.pool.ledger ⊆ scene.held.map (·.resource.entry)

namespace Noted

variable {scene : Scene η} {berths : List (Berth η)}

theorem holds_iff (noted : Noted scene) {possession : Possession η}
    (member : possession ∈ scene.held) :
    scene.pool.holds possession.resource = true ↔
      possession.resource.entry ∈ scene.pool.ledger := by
  simp [Pool.holds, noted.marked possession member, Resource.entry,
    Ledger.lease?_eq_some_iff noted.names]

/-- Each note is of one thing that somebody has. -/
theorem allocatedCount_eq (noted : Noted scene) :
    scene.pool.allocatedCount = scene.held.countP (scene.pool.holds ·.resource) := by
  have perm : (scene.held.filter (scene.pool.holds ·.resource)).map (·.resource.entry) ~
      scene.pool.ledger := by
    -- Neither list repeats an entry: one has different leases, the other different names.
    refine (List.perm_ext_iff_of_nodup ?_ noted.names.of_map).mpr fun entry => ?_
    · refine List.Nodup.of_map (·.2) ?_
      rw [List.map_map]
      exact (List.filter_sublist.map _).nodup noted.leases
    · constructor
      · intro member
        obtain ⟨possession, held, rfl⟩ := List.mem_map.mp member
        obtain ⟨held, holds⟩ := List.mem_filter.mp held
        exact (noted.holds_iff held).mp holds
      · intro member
        obtain ⟨possession, held, rfl⟩ := List.mem_map.mp (noted.known member)
        exact List.mem_map_of_mem (List.mem_filter.mpr ⟨held, (noted.holds_iff held).mpr member⟩)
  rw [allocatedCount, ← perm.length_eq, List.length_map, List.countP_eq_length_filter]

theorem outstanding_eq (noted : Noted scene) :
    scene.outstanding = scene.held.map (·.resource) := by
  rw [Scene.outstanding, List.filter_eq_self.mpr]
  intro possession member
  simp [noted.genuine possession member]

/-- What is not noted can be gone without a trace in the notes. -/
theorem eraseIdx (noted : Noted scene) {index : Nat} {possession : Possession η}
    (at_index : scene.held[index]? = some possession) {pool : Pool (Slots η)}
    (lastLease : pool.lastLease = scene.pool.lastLease)
    (names : (pool.ledger.map (·.1)).Nodup) (fewer : pool.ledger ⊆ scene.pool.ledger)
    (unnoted : possession.resource.entry ∉ pool.ledger) :
    Noted { pool, held := scene.held.eraseIdx index } where
  genuine := fun other member => noted.genuine other (List.mem_of_mem_eraseIdx member)
  marked := fun other member => noted.marked other (List.mem_of_mem_eraseIdx member)
  bounded := fun other member => lastLease ▸ noted.bounded other (List.mem_of_mem_eraseIdx member)
  leases := ((List.eraseIdx_sublist _ _).map _).nodup noted.leases
  names := names
  known := by
    intro entry member
    have known := ((perm_cons_eraseIdx at_index).map (·.resource.entry)).subset
      (noted.known (fewer member))
    obtain rfl | known := List.mem_cons.mp known
    · exact absurd member unnoted
    · exact known

theorem step (noted : Noted scene) (kept : Kept scene berths) {action : Action η}
    {scene' : Scene η} (pooled : action.isPooled) (h : scene.Step action scene') :
    Noted scene' := by
  cases h with
  | forged => cases pooled
  | taken => cases pooled
  | putBack => cases pooled
  | putBackRefused => cases pooled
  | added => exact { noted with }
  | cancelled => exact { noted with }
  | idle => exact noted
  | releaseRefused at_index refused =>
    rename_i index possession
    have member := List.mem_of_getElem? at_index
    refine noted.eraseIdx at_index rfl noted.names (List.Subset.refl _) fun known => ?_
    rw [kept.isOk_release member, (noted.holds_iff member).mpr known] at refused
    cases refused
  | released at_index =>
    refine noted.eraseIdx at_index rfl (Ledger.nodup_strike noted.names _) ?_ ?_
    · exact fun entry member => (Ledger.mem_strike.mp member).1
    · exact fun member => (Ledger.mem_strike.mp member).2 rfl
  | allocated givesOut marked =>
    rename_i wanted slots resource
    have fresh : ∀ possession ∈ scene.held,
        possession.resource.poolLease < scene.pool.lastLease + 1 :=
      fun possession member => Nat.lt_succ_of_le (noted.bounded possession member)
    constructor
    · exact List.forall_mem_cons.mpr ⟨rfl, noted.genuine⟩
    · exact List.forall_mem_cons.mpr ⟨by simp [marked], noted.marked⟩
    · exact List.forall_mem_cons.mpr
        ⟨Nat.le_of_eq marked, fun possession member => Nat.le_of_lt (fresh possession member)⟩
    · refine List.nodup_cons.mpr ⟨fun known => ?_, noted.leases⟩
      obtain ⟨possession, member, same⟩ := List.mem_map.mp known
      exact absurd (same.trans marked) (Nat.ne_of_lt (fresh possession member))
    · exact Ledger.nodup_note noted.names _ _
    · intro entry member
      obtain rfl | member := List.mem_cons.mp member
      · exact List.mem_cons.mpr (.inl (by simp [Resource.entry, marked]))
      · exact List.mem_cons_of_mem _ (noted.known (Ledger.mem_strike.mp member).1)

end Noted

theorem exists_noted_run (config : Config) {actions : List (Action η)}
    (pooled : ∀ action ∈ actions, action.isPooled) : Noted (Scene.run config actions) := by
  induction actions using List.reverseRecOn with
  | nil =>
    exact ⟨by simp [Scene.run], by simp [Scene.run], by simp [Scene.run], List.nodup_nil,
      List.nodup_nil, List.nil_subset _⟩
  | append_singleton actions action ih =>
    have noted := ih fun action member => pooled action (List.mem_append_left _ member)
    obtain ⟨berths, _, kept⟩ := exists_berths_run config actions
    rw [Scene.run_concat]
    exact noted.step kept (pooled action (by simp)) (Scene.step_act _ action)

/-- The pool notes all that callers have, and all else is in its slot. -/
structure Complete (scene : Scene η) : Prop where
  noted : ∀ possession ∈ scene.held, scene.pool.holds possession.resource = true
  count : scene.held.length + scene.pool.provider.available = scene.pool.provider.slots.length

theorem GivesOut.available {wanted : Descriptor → Bool} {lease : Nat} {slots slots' : List (Slot η)}
    {resource : Resource η} (h : GivesOut wanted lease slots slots' resource) :
    slots.countP Slot.isFree = slots'.countP Slot.isFree + 1 ∧ slots'.length = slots.length := by
  obtain ⟨_, _, free, _⟩ := h
  simp [Slot.isFree, free, Nat.add_assoc]

theorem TakesBack.available {slots slots' : List (Slot η)} {resource : Resource η}
    (h : TakesBack resource slots slots') :
    slots'.countP Slot.isFree = slots.countP Slot.isFree + 1 ∧ slots'.length = slots.length := by
  obtain ⟨_, _, _, held, _⟩ := h
  simp [List.countP_cons, Slot.isFree, Option.isNone_iff_eq_none.mp held, Nat.add_assoc]

theorem holds_congr {pool pool' : Pool (Slots η)} {resource : Resource η}
    (same : pool'.ledger.lease? resource.name = pool.ledger.lease? resource.name) :
    pool'.holds resource = pool.holds resource := by
  rw [Pool.holds, Pool.holds, same]

theorem Ledger.lease?_strike_of_ne {ledger : Ledger} {name other : String}
    (different : other ≠ name) :
    lease? (ledger.strike name) other = ledger.lease? other := by
  induction ledger with
  | nil => rfl
  | cons entry rest ih =>
    unfold strike lease? at ih ⊢
    by_cases same : entry.1 = name
    · rw [List.filter_cons_of_neg (by simpa using same), ih, List.lookup_cons, same,
        beq_false_of_ne different]
    · rw [List.filter_cons_of_pos (by simpa using same), List.lookup_cons, List.lookup_cons, ih]

theorem Ledger.lease?_note_of_ne {ledger : Ledger} {name other : String} {lease : Nat}
    (different : other ≠ name) : lease? (ledger.note name lease) other = ledger.lease? other := by
  rw [note, lease?, List.lookup_cons, beq_false_of_ne different]
  exact lease?_strike_of_ne different

namespace Kept

variable {scene : Scene η} {berths : List (Berth η)}

theorem nodup_names_outstanding (kept : Kept scene berths) (distinct : (berths.map name).Nodup) :
    (scene.outstanding.map (·.name)).Nodup := by
  obtain ⟨more, perm, sublist⟩ := kept.outstanding
  have names := (sublist.trans List.filter_sublist |>.map name).nodup distinct
  have nodup := (perm.map name).nodup_iff.mp names
  rwa [List.map_map] at nodup

/-- What is given out is not named like anything that is out already. -/
theorem name_ne_of_givesOut (kept : Kept scene berths) (distinct : (berths.map name).Nodup)
    {wanted : Descriptor → Bool} {slots : List (Slot η)} {resource other : Resource η}
    (h : GivesOut wanted scene.pool.provider.nextLease scene.pool.provider.slots slots resource)
    (out : other ∈ scene.outstanding) : other.name ≠ resource.name := by
  rw [kept.slots] at h
  obtain ⟨before, berth, after, rfl, free, origin, _⟩ := h.exists_berth kept.positive
  have elsewhere := kept.berth_mem_lent out
  rw [lent_middle_free free] at elsewhere
  have name : resource.name = berth.name := congrArg name origin
  have unique := (List.perm_middle.map Berth.name).nodup_iff.mp distinct
  intro same
  refine (List.nodup_cons.mp unique).1 (List.mem_map.mpr ⟨_, (mem_lent.mp elsewhere).1, ?_⟩)
  exact same.trans name

end Kept

namespace Complete

variable {scene : Scene η} {berths : List (Berth η)}

theorem step (complete : Complete scene) (noted : Noted scene) (kept : Kept scene berths)
    (distinct : (berths.map name).Nodup) {action : Action η} {scene' : Scene η}
    (pooled : action.isPooled) (h : scene.Step action scene') : Complete scene' := by
  have out {possession : Possession η} (member : possession ∈ scene.held) :
      possession.resource ∈ scene.outstanding :=
    noted.outstanding_eq ▸ List.mem_map_of_mem member
  have count := complete.count
  cases h with
  | forged => cases pooled
  | taken => cases pooled
  | putBack => cases pooled
  | putBackRefused => cases pooled
  | added name descriptor handle =>
    refine ⟨complete.noted, ?_⟩
    rw [onProvider, Slots.available_add, Slots.add, List.length_append, ← Nat.add_assoc, count]
    rfl
  | cancelled => exact ⟨complete.noted, count⟩
  | idle => exact complete
  | releaseRefused at_index refused =>
    have member := List.mem_of_getElem? at_index
    rw [kept.isOk_release member, complete.noted _ member] at refused
    cases refused
  | released at_index _ _ takesBack =>
    have perm := perm_cons_eraseIdx at_index
    have distinct := kept.nodup_names_outstanding distinct
    rw [noted.outstanding_eq, List.map_map] at distinct
    -- Striking out one name leaves the notes of the others, and nothing else that is out bears it.
    have others := List.nodup_cons.mp ((perm.map _).nodup_iff.mp distinct)
    constructor
    · intro possession member
      have different : possession.resource.name ≠ _ := fun same =>
        others.1 (List.mem_map.mpr ⟨possession, member, same⟩)
      refine (holds_congr ?_).trans (complete.noted _ (List.mem_of_mem_eraseIdx member))
      exact Ledger.lease?_strike_of_ne different
    · have := takesBack.available
      have := perm.length_eq
      simp only [Slots.available, List.length_cons] at *
      omega
  | allocated givesOut marked =>
    constructor
    · refine List.forall_mem_cons.mpr ⟨?_, fun possession member => ?_⟩
      · simp [Pool.holds, marked]
      · have different := kept.name_ne_of_givesOut distinct givesOut (out member)
        refine (holds_congr ?_).trans (complete.noted _ member)
        exact Ledger.lease?_note_of_ne different
    · have := givesOut.available
      simp only [Slots.available, List.length_cons] at *
      omega

end Complete

theorem complete_run (config : Config) {actions : List (Action η)}
    (pooled : ∀ action ∈ actions, action.isPooled)
    (distinct : ((actions.filterMap Action.slot?).map (·.name)).Nodup) :
    Complete (Scene.run config actions) := by
  induction actions using List.reverseRecOn with
  | nil => exact ⟨by simp [Scene.run], rfl⟩
  | append_singleton actions action ih =>
    have pooled_before := fun action member => pooled action (List.mem_append_left _ member)
    rw [List.filterMap_append, List.map_append] at distinct
    have distinct_before := (List.nodup_append.mp distinct).1
    have noted := exists_noted_run config pooled_before
    obtain ⟨berths, originals, kept⟩ := exists_berths_run config actions
    rw [← originals, List.map_map] at distinct_before
    rw [Scene.run_concat]
    refine (ih pooled_before ?_).step noted kept distinct_before (pooled action (by simp))
      (Scene.step_act _ action)
    rwa [← originals, List.map_map]

/-- What is noted is taken back into its slot; what is not is refused. -/
theorem release_of_holds (resource : Resource η) (pool : Pool (Slots η))
    (accepted : (pool.release resource).isOk = pool.holds resource) :
    if pool.holds resource then
      ∃ slots, TakesBack resource pool.provider.slots slots ∧
        pool.release resource = .ok { pool with
          provider := { pool.provider with slots }, ledger := pool.ledger.strike resource.name }
    else pool.release resource = .error (.notAllocated resource.name) := by
  cases holds : pool.holds resource with
  | false => simp [release, holds]
  | true =>
    obtain ⟨error, refused⟩ | ⟨slots, _, _, takesBack, done⟩ := Scene.release_cases resource pool
    · rw [refused, holds] at accepted
      cases accepted
    · exact ⟨slots, takesBack, done⟩

/-- Of a pool whose callers keep to it: it counts what it has a note of, which is given back into
its slot in whatever order. Where all names differ that is all that callers have, and with what is
free it makes up all slots. -/
theorem run_conserves (config : Config) (actions : List (Action η))
    (pooled : ∀ action ∈ actions, action.isPooled) :
    let scene := Scene.run config actions
    scene.pool.allocatedCount = scene.held.countP (scene.pool.holds ·.resource) ∧
      scene.held.length + scene.pool.provider.available ≤ scene.pool.provider.slots.length ∧
      (∀ possession ∈ scene.held,
        if scene.pool.holds possession.resource then
          ∃ slots, TakesBack possession.resource scene.pool.provider.slots slots ∧
            scene.pool.release possession.resource = .ok { scene.pool with
              provider := { scene.pool.provider with slots }
              ledger := scene.pool.ledger.strike possession.resource.name }
        else
          scene.pool.release possession.resource =
            .error (.notAllocated possession.resource.name)) ∧
      (((actions.filterMap Action.slot?).map (·.name)).Nodup →
        scene.pool.allocatedCount = scene.held.length ∧
        scene.pool.allocatedCount + scene.pool.provider.available =
          scene.pool.provider.slots.length ∧
        ∀ possession ∈ scene.held, scene.pool.holds possession.resource = true) := by
  intro scene
  have noted := exists_noted_run config pooled
  obtain ⟨berths, _, kept⟩ := exists_berths_run config actions
  refine ⟨noted.allocatedCount_eq, ?_, fun possession member => ?_, fun distinct => ?_⟩
  · have held := kept.outstanding.length_le
    rw [noted.outstanding_eq, List.length_map, List.length_map] at held
    have all := length_lent_add_countP berths
    rw [← kept.slots] at all
    rw [kept.slots, List.length_map, ← all]
    exact Nat.add_le_add_right held _
  · exact release_of_holds _ _ (kept.isOk_release member)
  · have complete := complete_run config pooled distinct
    have all : scene.pool.allocatedCount = scene.held.length :=
      noted.allocatedCount_eq.trans (List.countP_eq_length.mpr complete.noted)
    exact ⟨all, all ▸ complete.count, complete.noted⟩

/-- Both of two security modules with the given names are got from the pool. -/
def takeTwo (first second : String) : List (Action Nat) :=
  let descriptor : Descriptor := { group := "transit", generation := .c1, serial := [1, 2, 3, 4] }
  let wanted : Descriptor → Bool := fun sam => sam.group == "transit"
  [.add first descriptor 1, .add second descriptor 2, .attempt wanted, .attempt wanted]

theorem run_conserves_takeTwo :
    let actions := takeTwo "SAM-1" "SAM-2"
    let scene := Scene.run {} actions
    (∀ action ∈ actions, action.isPooled) ∧
      ((actions.filterMap Action.slot?).map (·.name)).Nodup ∧
      scene.pool.allocatedCount = scene.held.length ∧ scene.held.length = 2 ∧
      scene.pool.allocatedCount + scene.pool.provider.available = 2 := by
  have pooled : ∀ action ∈ takeTwo "SAM-1" "SAM-2", action.isPooled := by
    simp [takeTwo, Action.isPooled]
  have distinct : (((takeTwo "SAM-1" "SAM-2").filterMap Action.slot?).map (·.name)).Nodup := by
    decide
  obtain ⟨_, _, _, complete⟩ := run_conserves {} _ pooled
  obtain ⟨all, count, _⟩ := complete distinct
  exact ⟨pooled, distinct, all, rfl, count⟩

/-- Of two security modules of one name the pool counts the later one alone; the other is out as
well, and is refused when it comes back. -/
theorem run_conserves_sameName :
    let actions := takeTwo "SAM" "SAM"
    let scene := Scene.run {} actions
    (∀ action ∈ actions, action.isPooled) ∧
      scene.pool.allocatedCount = 1 ∧ scene.held.length = 2 ∧
      scene.pool.allocatedCount + scene.pool.provider.available ≠
        scene.pool.provider.slots.length ∧
      ∃ possession, scene.held[1]? = some possession ∧
        scene.pool.release possession.resource = .error (.notAllocated "SAM") ∧
        (scene.act (.release 1)).pool = scene.pool := by
  refine ⟨by simp [takeTwo, Action.isPooled], rfl, rfl, by decide, _, rfl, rfl, rfl⟩

end FareTerminal.Pool
