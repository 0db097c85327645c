import FareTerminal.Proofs.Pool.Accounts

/-! What becomes of a security module that is released to another pool than the one it is from. A pool
goes by the name and by two numbers, which every pool counts for itself, and so do its slots. What is
from elsewhere is refused, unless the pool has one of that name out under the same numbers. -/

namespace FareTerminal.Pool

variable {ι η : Type}

/-- Whether a security module passes for one that the pool has out: the name is noted under its number,
and a slot of that name waits for its lease. -/
def Expects (pool : Pool (Slots η)) (resource : Resource η) : Prop :=
  pool.holds resource = true ∧ resource.slotLease ≠ 0 ∧
    ∃ slot ∈ pool.provider.slots, slot.awaits resource

theorem holds_eq_true_iff {pool : Pool (Slots η)} {resource : Resource η} :
    pool.holds resource = true ↔
      resource.poolLease ≠ 0 ∧ pool.ledger.lease? resource.name = some resource.poolLease := by
  simp [Pool.holds]

/-- Once a name is struck out, nothing of that name is taken back. -/
theorem release_of_struck {pool : Pool (Slots η)} {resource : Resource η} {name : String}
    (struck : pool.ledger.lease? name = none) (same : resource.name = name) :
    pool.release resource = .error (.notAllocated resource.name) := by
  subst same
  have unknown : pool.holds resource = false := by simp [Pool.holds, struck]
  rw [release, if_neg (by simp [unknown])]

/-- What a pool expects goes into the slot that waits for it, and all else is refused. -/
theorem release_foreign_cases (pool : Pool (Slots η)) (resource : Resource η) :
    (¬pool.Expects resource ∧ pool.release resource = .error (.notAllocated resource.name)) ∨
    pool.Expects resource ∧ ∃ after, pool.release resource = .ok after ∧
      TakesBack resource pool.provider.slots after.provider.slots ∧
      after.ledger = pool.ledger.strike resource.name := by
  cases holds : pool.holds resource with
  | false =>
    refine .inl ⟨fun expected => ?_, by rw [release, if_neg (by simp [holds])]⟩
    rw [expected.1] at holds
    cases holds
  | true =>
    obtain ⟨refused, none⟩ | ⟨slots, accepted, leased, takesBack⟩ :=
      Slots.putBack_cases resource pool.provider
    · have unexpected : ¬pool.Expects resource := by
        rintro ⟨_, leased, slot, member, awaits⟩
        exact none leased slot member awaits
      refine .inl ⟨unexpected, ?_⟩
      simp only [release, holds, if_true, Provider.putBack, refused]
      rfl
    · have passed : pool.release resource = .ok { pool with
          provider := { pool.provider with slots }
          ledger := pool.ledger.strike resource.name } := by
        simp only [release, holds, if_true, Provider.putBack, accepted]
        rfl
      exact .inr ⟨⟨holds, leased, takesBack.exists_awaits⟩, _, passed, takesBack, rfl⟩

theorem Ledger.mem_of_lease? {ledger : Ledger} {name : String} {lease : Nat}
    (h : ledger.lease? name = some lease) : (name, lease) ∈ ledger := by
  obtain ⟨before, after, rfl, _⟩ := List.lookup_eq_some_iff.mp h
  simp

namespace Accounts

variable {scene : Scene η} {given : List (Resource η)}

theorem exists_noted (accounts : Accounts scene given) {name : String} {lease : Nat}
    (noted : scene.pool.ledger.lease? name = some lease) :
    ∃ own ∈ given, own.name = name ∧ own.poolLease = lease := by
  obtain ⟨own, member, same⟩ :=
    List.mem_map.mp (accounts.noted _ (Ledger.mem_of_lease? noted))
  exact ⟨own, member, congrArg Prod.fst same, congrArg Prod.snd same⟩

/-- What is expected bears the name and the numbers of what was given out here. -/
theorem exists_given (accounts : Accounts scene given) {resource : Resource η}
    (expected : scene.pool.Expects resource) :
    (∃ own ∈ given, own.name = resource.name ∧ own.poolLease = resource.poolLease) ∧
      ∃ own ∈ given, own.name = resource.name ∧ own.slotLease = resource.slotLease := by
  obtain ⟨holds, leased, slot, member, name, _, lease⟩ := expected
  refine ⟨accounts.exists_noted (holds_eq_true_iff.mp holds).2, ?_⟩
  obtain ⟨own, known, same, shown⟩ := accounts.out slot member (lease ▸ leased)
  exact ⟨own, known, same.trans name, shown.trans lease⟩

/-- What is from slots of other names is not expected. -/
theorem not_expects_of_names (accounts : Accounts scene given) {source : Scene η}
    {got : List (Resource η)} (origin : Accounts source got) {possession : Possession η}
    (member : possession ∈ source.held)
    (apart : ∀ slot ∈ source.pool.provider.slots, ∀ other ∈ scene.pool.provider.slots,
      slot.name ≠ other.name) : ¬scene.pool.Expects possession.resource := by
  intro expected
  obtain ⟨⟨own, known, same, _⟩, _⟩ := accounts.exists_given expected
  obtain got | unmarked := origin.held possession member
  · obtain ⟨slot, there, name⟩ := List.mem_map.mp (origin.named _ got)
    obtain ⟨other, here, name'⟩ := List.mem_map.mp (accounts.named _ known)
    exact apart slot there other here (name.trans (same.symm.trans name'.symm))
  · exact (holds_eq_true_iff.mp expected.1).1 unmarked

/-- Where callers keep to the pools, the note decides alone: a slot waits for all that is noted, and
the two numbers are the same everywhere. -/
theorem expects_iff (accounts : Accounts scene given) (inStep : InStep scene given)
    {source : Scene η} {got : List (Resource η)} (origin : Accounts source got)
    (originInStep : InStep source got) {possession : Possession η}
    (member : possession ∈ source.held) :
    let resource := possession.resource
    scene.pool.Expects resource ↔
      scene.pool.ledger.lease? resource.name = some resource.poolLease := by
  intro resource
  constructor
  · exact fun expected => (holds_eq_true_iff.mp expected.1).2
  · intro noted
    obtain ⟨own, known, _, number⟩ := accounts.exists_noted noted
    have marked : resource.poolLease ≠ 0 := number ▸ (inStep.even own known).2
    have got := (origin.held possession member).resolve_right marked
    have even : resource.slotLease = resource.poolLease := (originInStep.even _ got).1
    obtain ⟨slot, out, name, empty, lease⟩ := inStep.out _ _ noted
    refine ⟨holds_eq_true_iff.mpr ⟨marked, noted⟩, even ▸ marked, slot, out, name, ?_, ?_⟩
    · rw [empty]
      rfl
    · rw [lease, even]

theorem exists_double (accounts : Accounts scene given) (inStep : InStep scene given)
    {source : Scene η} {got : List (Resource η)} (origin : Accounts source got)
    (originInStep : InStep source got) {possession : Possession η}
    (member : possession ∈ source.held) (expected : scene.pool.Expects possession.resource) :
    ∃ own ∈ given, own.name = possession.resource.name ∧
      own.poolLease = possession.resource.poolLease ∧
      own.slotLease = possession.resource.slotLease := by
  obtain ⟨marked, noted⟩ := holds_eq_true_iff.mp expected.1
  obtain ⟨own, known, name, number⟩ := accounts.exists_noted noted
  have got := (origin.held possession member).resolve_right marked
  refine ⟨own, known, name, number, ?_⟩
  rw [(inStep.even own known).1, number, (originInStep.even _ got).1]

end Accounts

open Neighbours in
/-- Of pools whose callers mix up what they have got: one that is from elsewhere is refused, and nothing
changes at the pool, unless it is expected there. Then the pool has itself given out one of that name
under that number, and one of that name under that lease; the foreign handle goes into the slot that
waits for it, and whoever has one of that name from the pool cannot give it back any more. Where callers
keep to the pools, what has been given out is one and the same, and the note of it decides alone. Where
no slots of the two pools share a name, nothing is ever accepted. -/
theorem run_foreign [DecidableEq ι] (config : ι → Config) (moves : List (Move ι η))
    (source target : ι) :
    let pools := (start config).run moves
    let given := (start config).given target moves
    let pool := (pools.scene target).pool
    ∀ possession ∈ (pools.scene source).held,
      let resource := possession.resource
      (¬pool.Expects resource →
        pool.release resource = .error (.notAllocated resource.name) ∧
          (pools.scene target).receive resource = pools.scene target) ∧
      (pool.Expects resource →
        (∃ own ∈ given, own.name = resource.name ∧ own.poolLease = resource.poolLease) ∧
          (∃ own ∈ given, own.name = resource.name ∧ own.slotLease = resource.slotLease) ∧
          ∃ after, pool.release resource = .ok after ∧
            TakesBack resource pool.provider.slots after.provider.slots ∧
            ∀ own : Resource η, own.name = resource.name →
              after.release own = .error (.notAllocated own.name)) ∧
      ((∀ move ∈ moves, move.isPooled) →
        (pool.Expects resource ↔
          pool.ledger.lease? resource.name = some resource.poolLease) ∧
        (pool.Expects resource → ∃ own ∈ given, own.name = resource.name ∧
          own.poolLease = resource.poolLease ∧ own.slotLease = resource.slotLease)) ∧
      ((∀ slot ∈ (pools.scene source).pool.provider.slots, ∀ other ∈ pool.provider.slots,
          slot.name ≠ other.name) → ¬pool.Expects resource) := by
  intro pools given pool possession member resource
  have accounts := accounts_run config moves target
  have origin := accounts_run config moves source
  have cases := release_foreign_cases pool resource
  refine ⟨fun unexpected => ?_, fun expected => ?_, fun pooled => ?_, fun apart => ?_⟩
  · obtain ⟨_, refused⟩ | ⟨expected, _⟩ := cases
    · exact ⟨refused, by simp only [Scene.receive, refused, pool]⟩
    · exact absurd expected unexpected
  · obtain ⟨unexpected, _⟩ | ⟨_, after, accepted, takesBack, struck⟩ := cases
    · exact absurd expected unexpected
    · obtain ⟨numbered, leased⟩ := accounts.exists_given expected
      refine ⟨numbered, leased, after, accepted, takesBack, fun own same => ?_⟩
      exact release_of_struck (struck ▸ Ledger.lease?_strike_self _ _) same
  · have inStep := inStep_run config pooled target
    have originInStep := inStep_run config pooled source
    exact ⟨accounts.expects_iff inStep origin originInStep member,
      accounts.exists_double inStep origin originInStep member⟩
  · exact accounts.not_expects_of_names origin member apart

/-- One security module of a name is got from each of two pools. -/
def takeFromBoth (name other : String) : List (Move Bool Nat) :=
  let descriptor : Descriptor := { group := "transit", generation := .c1, serial := [1, 2, 3, 4] }
  let wanted : Descriptor → Bool := fun sam => sam.group == "transit"
  [.act false (.add name descriptor 1), .act true (.add other descriptor 2),
    .act false (.attempt wanted), .act true (.attempt wanted)]

/-- Where the names differ, the second pool refuses what is from the first. -/
theorem run_foreign_otherName :
    let pools := (Neighbours.start fun _ => {}).run (takeFromBoth "SAM-1" "SAM-2")
    ∃ possession ∈ (pools.scene false).held,
      ¬(pools.scene true).pool.Expects possession.resource ∧
        (pools.scene true).pool.release possession.resource = .error (.notAllocated "SAM-1") ∧
        (pools.scene true).receive possession.resource = pools.scene true := by
  intro pools
  have member : (⟨⟨"SAM-1", ⟨"transit", .c1, [1, 2, 3, 4]⟩, 1, 1, 1⟩, false⟩ : Possession Nat) ∈
      (pools.scene false).held := by decide
  obtain ⟨refused, _, _, apart⟩ :=
    run_foreign (fun _ => {}) (takeFromBoth "SAM-1" "SAM-2") false true _ member
  have unexpected := apart (by decide)
  exact ⟨_, member, unexpected, refused unexpected⟩

/-- Where the names are the same, it takes the first pool's for its own. The handle of the first goes
into the slot that was made for the second, and the one who has the second cannot give it back. -/
theorem run_foreign_sameName :
    let pools := (Neighbours.start fun _ => {}).run (takeFromBoth "SAM" "SAM")
    let after := pools.move (.handOver false true 0)
    (∃ possession, (pools.scene false).held[0]? = some possession ∧
        possession.resource.handle = 1 ∧
        ((pools.scene true).pool.release possession.resource).isOk = true) ∧
      (pools.scene true).pool.provider.available = 0 ∧
      (after.scene true).pool.provider.slots.map (·.handle) = [some 1] ∧
      ∃ own, (after.scene true).held[0]? = some own ∧ own.resource.handle = 2 ∧
        (after.scene true).pool.release own.resource = .error (.notAllocated "SAM") :=
  ⟨⟨_, rfl, rfl, rfl⟩, rfl, rfl, _, rfl, rfl, rfl⟩

end FareTerminal.Pool
