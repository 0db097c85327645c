import FareTerminal.Pool.Neighbours
import FareTerminal.Proofs.Pool.Conservation

/-! What the notes of a pool, its slots and its callers know of: nothing that has not been given out
there, whatever callers do and whatever they bring along from other pools. -/

namespace FareTerminal.Pool

variable {ι η : Type}

theorem GivesOut.map_name {wanted : Descriptor → Bool} {lease : Nat} {slots slots' : List (Slot η)}
    {resource : Resource η} (h : GivesOut wanted lease slots slots' resource) :
    slots'.map (·.name) = slots.map (·.name) := by
  obtain ⟨_, _, _, _⟩ := h
  simp

theorem GivesOut.name_mem {wanted : Descriptor → Bool} {lease : Nat} {slots slots' : List (Slot η)}
    {resource : Resource η} (h : GivesOut wanted lease slots slots' resource) :
    resource.name ∈ slots.map (·.name) := by
  obtain ⟨_, _, _, _⟩ := h
  simp

theorem GivesOut.slotLease_eq {wanted : Descriptor → Bool} {lease : Nat}
    {slots slots' : List (Slot η)} {resource : Resource η}
    (h : GivesOut wanted lease slots slots' resource) : resource.slotLease = lease := by
  obtain ⟨_, _, _, _⟩ := h
  rfl

/-- Of the slots only the one that gives out has changed: it is out under the lease. -/
theorem GivesOut.eq_or_mem {wanted : Descriptor → Bool} {lease : Nat} {slots slots' : List (Slot η)}
    {resource : Resource η} (h : GivesOut wanted lease slots slots' resource) {slot : Slot η}
    (member : slot ∈ slots') : slot.name = resource.name ∧ slot.lease = lease ∨ slot ∈ slots := by
  obtain ⟨before, _, _, _⟩ := h
  simp only [List.mem_append, List.mem_cons] at member ⊢
  obtain member | rfl | member := member
  · exact .inr (.inl member)
  · exact .inl ⟨rfl, rfl⟩
  · exact .inr (.inr (.inr member))

theorem GivesOut.exists_out {wanted : Descriptor → Bool} {lease : Nat} {slots slots' : List (Slot η)}
    {resource : Resource η} (h : GivesOut wanted lease slots slots' resource) :
    ∃ slot ∈ slots', slot.name = resource.name ∧ slot.handle = none ∧ slot.lease = lease := by
  obtain ⟨before, _, _, _⟩ := h
  exact ⟨_, List.mem_append_right _ List.mem_cons_self, rfl, rfl, rfl⟩

theorem GivesOut.mem_of_out {wanted : Descriptor → Bool} {lease : Nat} {slots slots' : List (Slot η)}
    {resource : Resource η} (h : GivesOut wanted lease slots slots' resource) {slot : Slot η}
    (member : slot ∈ slots) (out : slot.handle = none) : slot ∈ slots' := by
  obtain ⟨before, _, free, _⟩ := h
  simp only [List.mem_append, List.mem_cons] at member ⊢
  obtain member | rfl | member := member
  · exact .inl member
  · rw [free] at out
    cases out
  · exact .inr (.inr member)

theorem TakesBack.map_name {resource : Resource η} {slots slots' : List (Slot η)}
    (h : TakesBack resource slots slots') : slots'.map (·.name) = slots.map (·.name) := by
  obtain ⟨_, _, _⟩ := h
  simp

/-- Of the slots only the one that takes back has changed: it is out no more. -/
theorem TakesBack.mem_or_free {resource : Resource η} {slots slots' : List (Slot η)}
    (h : TakesBack resource slots slots') {slot : Slot η} (member : slot ∈ slots') :
    slot ∈ slots ∨ slot.lease = 0 := by
  obtain ⟨before, _, _⟩ := h
  simp only [List.mem_append, List.mem_cons] at member ⊢
  obtain member | rfl | member := member
  · exact .inl (.inl member)
  · exact .inr rfl
  · exact .inl (.inr (.inr member))

theorem TakesBack.exists_awaits {resource : Resource η} {slots slots' : List (Slot η)}
    (h : TakesBack resource slots slots') : ∃ slot ∈ slots, slot.awaits resource := by
  obtain ⟨before, _, awaits⟩ := h
  exact ⟨_, List.mem_append_right _ List.mem_cons_self, awaits⟩

theorem TakesBack.mem_of_name_ne {resource : Resource η} {slots slots' : List (Slot η)}
    (h : TakesBack resource slots slots') {slot : Slot η} (member : slot ∈ slots)
    (other : slot.name ≠ resource.name) : slot ∈ slots' := by
  obtain ⟨before, _, awaits⟩ := h
  simp only [List.mem_append, List.mem_cons] at member ⊢
  obtain member | rfl | member := member
  · exact .inl member
  · exact absurd awaits.1 other
  · exact .inr (.inr member)

theorem Ledger.lease?_strike_self (ledger : Ledger) (name : String) :
    lease? (ledger.strike name) name = none := by
  refine List.lookup_eq_none_iff.mpr fun entry member => ?_
  simpa using (mem_strike.mp member).2.symm

theorem Ledger.strike_subset (ledger : Ledger) (name : String) : ledger.strike name ⊆ ledger :=
  List.filter_sublist.subset

/-- What a scene shows has been given out there: what the pool has noted, what the slots wait for, and
what is in the callers' hands, unless it bears no number of the pool. -/
structure Accounts (scene : Scene η) (given : List (Resource η)) : Prop where
  noted : ∀ entry ∈ scene.pool.ledger, entry ∈ given.map Resource.entry
  out : ∀ slot ∈ scene.pool.provider.slots, slot.lease ≠ 0 →
    ∃ own ∈ given, own.name = slot.name ∧ own.slotLease = slot.lease
  named : ∀ own ∈ given, own.name ∈ scene.pool.provider.slots.map (·.name)
  held : ∀ possession ∈ scene.held,
    possession.resource ∈ given ∨ possession.resource.poolLease = 0

namespace Accounts

variable {scene scene' : Scene η} {given : List (Resource η)}

/-- Nothing new is out, noted or in the callers' hands. -/
theorem fewer (accounts : Accounts scene given)
    (noted : scene'.pool.ledger ⊆ scene.pool.ledger)
    (out : ∀ slot ∈ scene'.pool.provider.slots,
      slot ∈ scene.pool.provider.slots ∨ slot.lease = 0)
    (named : scene.pool.provider.slots.map (·.name) ⊆ scene'.pool.provider.slots.map (·.name))
    (held : ∀ possession ∈ scene'.held,
      possession ∈ scene.held ∨ possession.resource.poolLease = 0) : Accounts scene' given where
  noted entry member := accounts.noted entry (noted member)
  out slot member leased :=
    accounts.out slot ((out slot member).resolve_right leased) leased
  named own member := named (accounts.named own member)
  held possession member := by
    obtain member | unmarked := held possession member
    · exact accounts.held possession member
    · exact .inr unmarked

theorem givesOut (accounts : Accounts scene given) {wanted : Descriptor → Bool} {lease : Nat}
    {slots : List (Slot η)} {resource : Resource η}
    (h : GivesOut wanted lease scene.pool.provider.slots slots resource) {pool : Pool (Slots η)}
    (provided : pool.provider.slots = slots)
    (noted : ∀ entry ∈ pool.ledger, entry ∈ scene.pool.ledger ∨ entry = resource.entry) :
    Accounts { pool, held := { resource } :: scene.held } (given ++ [resource]) where
  noted entry member := by
    rw [List.map_append, List.mem_append]
    obtain member | rfl := noted entry member
    · exact .inl (accounts.noted entry member)
    · exact .inr (List.mem_singleton_self _)
  out slot member leased := by
    rw [provided] at member
    obtain ⟨name, shown⟩ | member := h.eq_or_mem member
    · exact ⟨resource, by simp, name.symm, h.slotLease_eq.trans shown.symm⟩
    · obtain ⟨own, known, same⟩ := accounts.out slot member leased
      exact ⟨own, List.mem_append_left _ known, same⟩
  named own member := by
    rw [provided, h.map_name]
    obtain member | member := List.mem_append.mp member
    · exact accounts.named own member
    · rw [List.mem_singleton.mp member]
      exact h.name_mem
  held possession member := by
    obtain rfl | member := List.mem_cons.mp member
    · exact .inl (by simp)
    · exact (accounts.held possession member).imp_left (List.mem_append_left _)

theorem part (accounts : Accounts scene given) (index : Nat) : Accounts (scene.part index) given :=
  accounts.fewer (List.Subset.refl _) (fun _ => .inl) (List.Subset.refl _)
    fun _ member => .inl (List.mem_of_mem_eraseIdx member)

theorem takesBack (accounts : Accounts scene given) {resource : Resource η} {slots : List (Slot η)}
    (h : TakesBack resource scene.pool.provider.slots slots)
    (provided : scene'.pool.provider.slots = slots)
    (noted : scene'.pool.ledger ⊆ scene.pool.ledger) (held : scene'.held ⊆ scene.held) :
    Accounts scene' given := by
  refine accounts.fewer noted (fun slot member => ?_) ?_ fun _ member => .inl (held member)
  · exact h.mem_or_free (provided ▸ member)
  · rw [provided, h.map_name]
    exact List.Subset.refl _

theorem receive (accounts : Accounts scene given) (resource : Resource η) :
    Accounts (scene.receive resource) given := by
  unfold Scene.receive
  obtain ⟨error, refused⟩ | ⟨slots, _, _, takesBack, accepted⟩ :=
    Scene.release_cases resource scene.pool
  · rw [refused]
    exact accounts
  · rw [accepted]
    exact accounts.takesBack takesBack rfl (Ledger.strike_subset _ _) (List.Subset.refl _)

theorem act (accounts : Accounts scene given) (action : Action η) :
    Accounts (scene.act action) (given ++ (scene.gives? action).toList) := by
  have step := scene.step_act action
  cases action with
  | add name descriptor handle =>
    rw [Scene.gives?, Option.toList_none, List.append_nil]
    refine accounts.fewer (List.Subset.refl _) (fun slot member => ?_) ?_ fun _ => .inl
    · obtain member | member := List.mem_append.mp member
      · exact .inl member
      · exact .inr (by rw [List.mem_singleton.mp member])
    · simp [Scene.act, onProvider, Slots.add]
  | forge name descriptor handle =>
    rw [Scene.gives?, Option.toList_none, List.append_nil]
    refine accounts.fewer (List.Subset.refl _) (fun _ => .inl) (List.Subset.refl _) ?_
    exact fun possession member => (List.mem_cons.mp member).symm.imp_right (by rintro rfl; rfl)
  | cancel =>
    rw [Scene.gives?, Option.toList_none, List.append_nil]
    exact { accounts with }
  | take wanted =>
    obtain ⟨nothing, _⟩ | ⟨resource, slots, taken, _, givesOut⟩ :=
      Slots.take?_cases wanted scene.pool.provider
    · simpa [Scene.act, Scene.gives?, nothing] using accounts
    · simp only [Scene.act, Scene.gives?, taken, Option.map_some, Option.toList_some]
      exact accounts.givesOut givesOut rfl fun _ => .inl
  | attempt wanted =>
    obtain ⟨nothing, _⟩ | ⟨resource, slots, taken, _, givesOut⟩ :=
      Slots.take?_cases wanted scene.pool.provider
    · simpa [Scene.act, Scene.gives?, attemptWhere?, nothing] using accounts
    · simp only [Scene.act, Scene.gives?, attemptWhere?, taken, Option.map_some, Option.toList_some]
      refine accounts.givesOut (givesOut.mark _) rfl fun entry member => ?_
      obtain rfl | member := List.mem_cons.mp member
      · exact .inr rfl
      · exact .inl (List.mem_filter.mp member).1
  | putBack index =>
    rw [Scene.gives?, Option.toList_none, List.append_nil]
    generalize scene.act (.putBack index) = after at step
    cases step with
    | idle => exact accounts
    | putBackRefused => exact accounts.part index
    | putBack at_index leased takesBack =>
      exact accounts.takesBack takesBack rfl (List.Subset.refl _) List.eraseIdx_subset
  | release index =>
    rw [Scene.gives?, Option.toList_none, List.append_nil]
    generalize scene.act (.release index) = after at step
    cases step with
    | idle => exact accounts
    | releaseRefused => exact accounts.part index
    | released at_index holds leased takesBack =>
      exact accounts.takesBack takesBack rfl (Ledger.strike_subset _ _) List.eraseIdx_subset

end Accounts

/-- The two numbers of what is given out run in step, and all that the pool has a note of is out of a
slot. -/
structure InStep (scene : Scene η) (given : List (Resource η)) : Prop where
  next : scene.pool.provider.nextLease = scene.pool.lastLease + 1
  even : ∀ own ∈ given, own.slotLease = own.poolLease ∧ own.poolLease ≠ 0
  out : ∀ name lease, scene.pool.ledger.lease? name = some lease →
    ∃ slot ∈ scene.pool.provider.slots,
      slot.name = name ∧ slot.handle = none ∧ slot.lease = lease

namespace InStep

variable {scene : Scene η} {given : List (Resource η)}

/-- What is taken back is struck out of the notes, and the slots of all other names stay as they are. -/
theorem takesBack (inStep : InStep scene given) {resource : Resource η} {slots : List (Slot η)}
    (h : TakesBack resource scene.pool.provider.slots slots) (held : List (Possession η)) :
    InStep
      { pool := { scene.pool with
          provider := { scene.pool.provider with slots }
          ledger := scene.pool.ledger.strike resource.name }
        held } given where
  next := inStep.next
  even := inStep.even
  out name lease noted := by
    by_cases same : name = resource.name
    · subst same
      simp only [Ledger.lease?_strike_self] at noted
      cases noted
    · simp only [Ledger.lease?_strike_of_ne same] at noted
      obtain ⟨slot, member, rfl, rest⟩ := inStep.out name lease noted
      exact ⟨slot, h.mem_of_name_ne member same, rfl, rest⟩

theorem receive (inStep : InStep scene given) (resource : Resource η) :
    InStep (scene.receive resource) given := by
  unfold Scene.receive
  obtain ⟨error, refused⟩ | ⟨slots, _, _, takesBack, accepted⟩ :=
    Scene.release_cases resource scene.pool
  · rw [refused]
    exact inStep
  · rw [accepted]
    exact inStep.takesBack takesBack scene.held

theorem allocated (inStep : InStep scene given) {wanted : Descriptor → Bool}
    {slots : List (Slot η)} {resource : Resource η}
    (h : GivesOut wanted scene.pool.provider.nextLease scene.pool.provider.slots slots resource)
    (marked : resource.poolLease = scene.pool.lastLease + 1) :
    InStep
      { pool := { scene.pool with
          provider := { slots, nextLease := scene.pool.provider.nextLease + 1 }
          ledger := scene.pool.ledger.note resource.name (scene.pool.lastLease + 1)
          lastLease := scene.pool.lastLease + 1 }
        held := { resource } :: scene.held } (given ++ [resource]) where
  next := congrArg (· + 1) inStep.next
  even own member := by
    obtain member | member := List.mem_append.mp member
    · exact inStep.even own member
    · rw [List.mem_singleton.mp member, h.slotLease_eq, marked]
      exact ⟨inStep.next, Nat.succ_ne_zero _⟩
  out name lease noted := by
    by_cases same : name = resource.name
    · subst same
      simp only [Ledger.lease?_note_self, Option.some.injEq] at noted
      obtain ⟨slot, member, name, out, shown⟩ := h.exists_out
      exact ⟨slot, member, name, out, shown.trans (inStep.next.trans noted)⟩
    · simp only [Ledger.lease?_note_of_ne same] at noted
      obtain ⟨slot, member, name, out, shown⟩ := inStep.out name lease noted
      exact ⟨slot, h.mem_of_out member out, name, out, shown⟩

theorem act (inStep : InStep scene given) {action : Action η} (pooled : action.isPooled) :
    InStep (scene.act action) (given ++ (scene.gives? action).toList) := by
  have step := scene.step_act action
  cases action with
  | forge => cases pooled
  | take => cases pooled
  | putBack => cases pooled
  | add name descriptor handle =>
    rw [Scene.gives?, Option.toList_none, List.append_nil]
    refine ⟨inStep.next, inStep.even, fun name lease noted => ?_⟩
    obtain ⟨slot, member, rest⟩ := inStep.out name lease noted
    exact ⟨slot, List.mem_append_left _ member, rest⟩
  | cancel =>
    rw [Scene.gives?, Option.toList_none, List.append_nil]
    exact { inStep with }
  | attempt wanted =>
    obtain ⟨nothing, _⟩ | ⟨resource, slots, taken, _, givesOut⟩ :=
      Slots.take?_cases wanted scene.pool.provider
    · simpa [Scene.act, Scene.gives?, attemptWhere?, nothing] using inStep
    · simp only [Scene.act, Scene.gives?, attemptWhere?, taken, Option.map_some, Option.toList_some]
      exact inStep.allocated (givesOut.mark _) rfl
  | release index =>
    rw [Scene.gives?, Option.toList_none, List.append_nil]
    generalize scene.act (.release index) = after at step
    cases step with
    | idle => exact inStep
    | releaseRefused => exact { inStep with }
    | released at_index holds leased takesBack => exact inStep.takesBack takesBack _

end InStep

/-- What becomes of a pool's scene while callers are busy with other pools. -/
inductive Visited (scene : Scene η) : Scene η → Prop
  | undisturbed : Visited scene scene
  | parted {scene' : Scene η} (index : Nat) (visited : Visited scene scene') :
    Visited scene (scene'.part index)
  | received {scene' : Scene η} (resource : Resource η) (visited : Visited scene scene') :
    Visited scene (scene'.receive resource)

theorem Visited.kept {scene scene' : Scene η} {p : Scene η → Prop} (h : Visited scene scene')
    (start : p scene) (parted : ∀ scene index, p scene → p (scene.part index))
    (received : ∀ scene resource, p scene → p (scene.receive resource)) : p scene' := by
  induction h with
  | undisturbed => exact start
  | parted index _ ih => exact parted _ index ih
  | received resource _ ih => exact received _ resource ih

/-- What comes from elsewhere is given back at most, and nothing is counted. -/
theorem CountsTo.receive {scene : Scene η} {steps : Nat} (h : scene.pool.CountsTo steps)
    (resource : Resource η) : (scene.receive resource).pool.CountsTo steps := by
  unfold Scene.receive
  obtain ⟨error, refused⟩ | ⟨slots, -, -, -, accepted⟩ := Scene.release_cases resource scene.pool
  · rw [refused]
    exact h
  · rw [accepted]
    exact ⟨h.slotLease, h.poolLease, h.cancellations⟩

namespace Neighbours

variable [DecidableEq ι]

/-- What a move does at a pool: it is an action there, or one of other pools at most has a part in it. -/
theorem scene_move (pools : Neighbours ι η) (move : Move ι η) (here : ι) :
    (∃ action, move = .act here action ∧
      (pools.move move).scene here = (pools.scene here).act action ∧
      pools.gives? here move = (pools.scene here).gives? action) ∨
    pools.gives? here move = none ∧ Visited (pools.scene here) ((pools.move move).scene here) := by
  cases move with
  | act pool action =>
    by_cases same : pool = here
    · subst same
      refine .inl ⟨action, rfl, ?_, if_pos rfl⟩
      rw [Neighbours.move, scene_change_self]
    · refine .inr ⟨if_neg same, ?_⟩
      rw [Neighbours.move, scene_change_of_ne (Ne.symm same)]
      exact .undisturbed
  | handOver source target index =>
    refine .inr ⟨rfl, ?_⟩
    rw [Neighbours.move]
    split
    · exact .undisturbed
    · rename_i possession _
      have parted : Visited (pools.scene here)
          ((pools.change source (·.part index)).scene here) := by
        by_cases same : here = source
        · subst same
          rw [scene_change_self]
          exact .parted index .undisturbed
        · rw [scene_change_of_ne same]
          exact .undisturbed
      by_cases same : here = target
      · subst same
        rw [scene_change_self]
        exact .received possession.resource parted
      · rw [scene_change_of_ne same]
        exact parted

/-- What every action keeps at a pool, and every part that the pool has in what happens between
others, any moves keep. -/
theorem holds_run {p : Scene η → List (Resource η) → Prop} {q : Action η → Prop} {here : ι}
    {pools : Neighbours ι η} (first : p (pools.scene here) [])
    (acted : ∀ scene given action, q action → p scene given →
      p (scene.act action) (given ++ (scene.gives? action).toList))
    (parted : ∀ scene given index, p scene given → p (scene.part index) given)
    (received : ∀ scene given resource, p scene given → p (scene.receive resource) given)
    (moves : List (Move ι η)) (all : ∀ action, .act here action ∈ moves → q action) :
    p ((pools.run moves).scene here) (pools.given here moves) := by
  induction moves using List.reverseRecOn with
  | nil => exact first
  | append_singleton moves move ih =>
    have before := ih fun action member => all action (List.mem_append_left _ member)
    rw [run_concat, given_concat]
    obtain ⟨action, rfl, done, got⟩ | ⟨nothing, visited⟩ := scene_move (pools.run moves) move here
    · rw [done, got]
      exact acted _ _ action (all action (by simp)) before
    · rw [nothing, Option.toList_none, List.append_nil]
      exact visited.kept before (parted · _) (received · _)

theorem accounts_run (config : ι → Config) (moves : List (Move ι η)) (here : ι) :
    Accounts (((start config).run moves).scene here) ((start config).given here moves) :=
  holds_run (q := fun _ => True)
    ⟨by simp [start, Scene.run], by simp [start, Scene.run], by simp, by simp [start, Scene.run]⟩
    (fun _ _ action _ accounts => accounts.act action) (fun _ _ index accounts => accounts.part index)
    (fun _ _ resource accounts => accounts.receive resource) moves fun _ _ => trivial

theorem inStep_run (config : ι → Config) {moves : List (Move ι η)}
    (pooled : ∀ move ∈ moves, move.isPooled) (here : ι) :
    InStep (((start config).run moves).scene here) ((start config).given here moves) :=
  holds_run (q := fun action => action.isPooled)
    ⟨rfl, by simp, by simp [start, Scene.run, Ledger.lease?]⟩
    (fun _ _ _ pooled inStep => inStep.act pooled) (fun _ _ _ inStep => { inStep with })
    (fun _ _ resource inStep => inStep.receive resource) moves fun _ member => pooled _ member

theorem countsTo_run (config : ι → Config) (moves : List (Move ι η)) (here : ι) :
    (((start config).run moves).scene here).pool.CountsTo moves.length := by
  induction moves using List.reverseRecOn with
  | nil => exact Pool.countsTo_run (config here) []
  | append_singleton moves move ih =>
    rw [run_concat, List.length_append, List.length_singleton]
    obtain ⟨action, -, done, -⟩ | ⟨-, visited⟩ := scene_move ((start config).run moves) move here
    · rw [done]
      exact ih.step (Scene.step_act _ action)
    · have kept := visited.kept (p := fun scene => scene.pool.CountsTo moves.length) ih
        (fun _ _ counts => counts) fun _ resource counts => counts.receive resource
      exact kept.mono (Nat.le_succ _)

end Neighbours

end FareTerminal.Pool
