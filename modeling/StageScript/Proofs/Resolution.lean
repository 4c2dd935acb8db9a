import StageScript.Override

/-!
Where overrides lead. The first override with an end at a pointer decides, and it goes on deciding
whatever is registered later. So a replacement is left again only where an older override begins,
and what registering an override answers is settled by the overrides before it.
-/

namespace StageScript

/-- A list made of the elements of two others, each in its own order. -/
inductive Interleaved {α : Type} : List α → List α → List α → Prop where
  | nil : Interleaved [] [] []
  | left {first second both : List α} (element : α) (rest : Interleaved first second both) :
    Interleaved (element :: first) second (element :: both)
  | right {first second both : List α} (element : α) (rest : Interleaved first second both) :
    Interleaved first (element :: second) (element :: both)

theorem Interleaved.find?_eq {α : Type} {first second both : List α} {wanted : α → Bool}
    (mixed : Interleaved first second both) (absent : ∀ element ∈ second, ¬ wanted element) :
    both.find? wanted = first.find? wanted := by
  induction mixed with
  | nil => rfl
  | left element _ ih => simp only [List.find?_cons, ih absent]
  | right element _ ih =>
    rw [List.find?_cons_of_neg (absent element List.mem_cons_self)]
    exact ih fun other member => absent other (List.mem_cons_of_mem _ member)

theorem Override.covers_iff {override : Override} {pointer : Pointer} :
    override.covers pointer ↔ override.original = pointer ∨ override.replacement = pointer := by
  simp [covers]

theorem Override.covers_replacement (override : Override) :
    override.covers override.replacement :=
  covers_iff.mpr (.inr rfl)

namespace Registry

variable {registry : Registry} {pointer : Pointer} {override winner : Override}

def winner? (registry : Registry) (pointer : Pointer) : Option Override :=
  registry.overrides.find? (·.covers pointer)

theorem resolve_of_winner (wins : registry.winner? pointer = some winner) :
    registry.resolve pointer = ⟨winner.replacement, some winner.owner⟩ := by
  unfold winner? at wins
  unfold resolve
  rw [wins]

theorem resolve_of_free (free : registry.winner? pointer = none) :
    registry.resolve pointer = ⟨pointer, none⟩ := by
  unfold winner? at free
  unfold resolve
  rw [free]

theorem mem_of_winner (wins : registry.winner? pointer = some winner) :
    winner ∈ registry.overrides :=
  List.mem_of_find?_eq_some wins

theorem covers_of_winner (wins : registry.winner? pointer = some winner) :
    winner.covers pointer := by
  unfold winner? at wins
  simpa using List.find?_some wins

theorem resolve_cases (registry : Registry) (pointer : Pointer) :
    (registry.resolve pointer).pointer = pointer ∨
      ∃ override ∈ registry.overrides, override.covers pointer ∧
        (registry.resolve pointer).pointer = override.replacement := by
  cases wins : registry.winner? pointer with
  | none =>
    rw [resolve_of_free wins]
    exact .inl rfl
  | some winner =>
    rw [resolve_of_winner wins]
    exact .inr ⟨winner, mem_of_winner wins, covers_of_winner wins, rfl⟩

theorem winner?_append (older younger : List Override) (pointer : Pointer) :
    winner? ⟨older ++ younger⟩ pointer =
      (winner? ⟨older⟩ pointer).or (winner? ⟨younger⟩ pointer) :=
  List.find?_append

theorem winner?_cons_of_covers {younger : List Override} (covers : override.covers pointer) :
    winner? ⟨override :: younger⟩ pointer = some override :=
  List.find?_cons_of_pos covers

theorem winner?_eq_some_iff : registry.winner? pointer = some winner ↔
    ∃ older younger, registry.overrides = older ++ winner :: younger ∧
      winner? ⟨older⟩ pointer = none ∧ winner.covers pointer := by
  simp only [winner?, List.find?_eq_some_iff_append, List.find?_eq_none]
  constructor
  · rintro ⟨covers, older, younger, order, free⟩
    exact ⟨older, younger, order, by simpa using free, covers⟩
  · rintro ⟨older, younger, order, free, covers⟩
    exact ⟨covers, older, younger, order, by simpa using free⟩

theorem winner?_replacement {older younger : List Override}
    (order : registry.overrides = older ++ winner :: younger) :
    registry.winner? winner.replacement =
      (winner? ⟨older⟩ winner.replacement).or (some winner) := by
  obtain ⟨overrides⟩ := registry
  subst order
  rw [winner?_append, winner?_cons_of_covers winner.covers_replacement]

/-- The override that a pointer leads through ends where an older override begins, which leads
elsewhere. -/
def Chained (registry : Registry) (pointer : Pointer) : Prop :=
  ∃ older link younger, registry.overrides = older ++ link :: younger ∧
    winner? ⟨older⟩ pointer = none ∧ link.covers pointer ∧
    ∃ next, winner? ⟨older⟩ link.replacement = some next ∧ next.original = link.replacement ∧
      next.replacement ≠ link.replacement

theorem resolve_resolve_iff (registry : Registry) (pointer : Pointer) :
    (registry.resolve (registry.resolve pointer).pointer).pointer =
      (registry.resolve pointer).pointer ↔ ¬ registry.Chained pointer := by
  constructor
  · rintro same ⟨older, link, younger, order, free, covers, next, wins, _, elsewhere⟩
    have first := winner?_eq_some_iff.mpr ⟨older, younger, order, free, covers⟩
    have second := winner?_replacement order
    rw [wins] at second
    rw [resolve_of_winner first, resolve_of_winner second] at same
    exact elsewhere same
  · intro unchained
    cases leads : registry.winner? pointer with
    | none => rw [resolve_of_free leads, resolve_of_free leads]
    | some link =>
      obtain ⟨older, younger, order, free, covers⟩ := winner?_eq_some_iff.mp leads
      have second := winner?_replacement order
      rw [resolve_of_winner leads]
      cases wins : winner? ⟨older⟩ link.replacement with
      | none =>
        rw [wins] at second
        rw [resolve_of_winner second]
      | some next =>
        rw [wins] at second
        rw [resolve_of_winner second]
        refine Decidable.of_not_not fun elsewhere => unchained ?_
        -- an end of the older override that is not its replacement is its original
        have begins := (Override.covers_iff.mp (covers_of_winner wins)).resolve_right elsewhere
        exact ⟨older, link, younger, order, free, covers, next, wins, begins, elsewhere⟩

/-- A registry in whose history no override was registered that ended where one of those there
began. -/
inductive Straight : Registry → Prop where
  | empty : Straight .empty
  | register {registry : Registry} {override : Override} (straight : Straight registry)
    (fresh : ∀ earlier ∈ registry.overrides, earlier.original ≠ override.replacement) :
    Straight (registry.register override).2
  | unregister {registry : Registry} (straight : Straight registry) (owner : OwnerId) :
    Straight (registry.unregister owner).2

theorem Straight.pairwise (straight : registry.Straight) :
    registry.overrides.Pairwise fun older younger => older.original ≠ younger.replacement := by
  induction straight with
  | empty => exact .nil
  | register _ fresh ih =>
    refine List.pairwise_append.mpr ⟨ih, List.pairwise_singleton _ _, ?_⟩
    intro earlier member later last
    rw [List.mem_singleton.mp last]
    exact fresh earlier member
  | unregister _ _ ih => exact ih.filter _

theorem Straight.not_chained (straight : registry.Straight) : ¬ registry.Chained pointer := by
  rintro ⟨older, link, younger, order, _, _, next, wins, begins, _⟩
  have pairs := straight.pairwise
  rw [order] at pairs
  exact (List.pairwise_append.mp pairs).2.2 next (mem_of_winner wins) link List.mem_cons_self begins

/-- An override of the same original that another owner has registered before. -/
def rival? (registry : Registry) (override : Override) : Option Override :=
  registry.overrides.find? fun earlier =>
    earlier.original == override.original && earlier.owner != override.owner

theorem rival?_eq_none : registry.rival? override = none ↔
    ∀ earlier ∈ registry.overrides, earlier.original = override.original →
      earlier.owner = override.owner := by
  simp [rival?]

theorem rival?_of_winner (wins : registry.winner? override.original = some winner)
    (claims : winner.original = override.original) (foreign : winner.owner ≠ override.owner) :
    registry.rival? override = some winner := by
  obtain ⟨older, younger, order, free, _⟩ := winner?_eq_some_iff.mp wins
  refine List.find?_eq_some_iff_append.mpr ⟨by simp [claims, foreign], older, younger, order, ?_⟩
  intro earlier member
  have uncovered := List.find?_eq_none.mp free earlier member
  have elsewhere : earlier.original ≠ override.original :=
    fun same => uncovered (Override.covers_iff.mpr (.inl same))
  simp [elsewhere]

theorem rival?_of_free (free : registry.winner? override.original = none) :
    registry.rival? override = none := by
  refine rival?_eq_none.mpr fun earlier member same => absurd ?_ (List.find?_eq_none.mp free _ member)
  exact Override.covers_iff.mpr (.inl same)

theorem winner?_register (registry : Registry) (override : Override) :
    (registry.register override).2.winner? override.original =
      (registry.winner? override.original).or (some override) := by
  have covers : override.covers override.original := Override.covers_iff.mpr (.inl rfl)
  rw [← winner?_cons_of_covers covers, ← winner?_append]
  rfl

theorem winner?_register_of_free (free : registry.winner? override.original = none) :
    (registry.register override).2.winner? override.original = some override := by
  rw [winner?_register, free]
  rfl

theorem winner?_register_of_winner (wins : registry.winner? override.original = some winner) :
    (registry.register override).2.winner? override.original = some winner := by
  rw [winner?_register, wins]
  rfl

theorem register_eq_active :
    (registry.register override).1 = .active ↔ registry.rival? override = none := by
  unfold register rival?
  simp only
  split
  next rival found => simp [found]
  next found => simp [found]

theorem register_eq_shadowed {owner : OwnerId} :
    (registry.register override).1 = .shadowed owner ↔
      ∃ rival, registry.rival? override = some rival ∧ rival.owner = owner := by
  unfold register rival?
  simp only
  split
  next rival found => simp [found]
  next found => simp [found]

/-- Registering answers that an override is in force exactly when no other owner claimed its original
before. Where the original is not led to as the replacement of another, its oldest override goes on
deciding; that is then one of the registering owner's, and unless it was before, the answer says
exactly whether the new override decides now, or names the owner whose override does. -/
theorem registration_tells_winner (registry : Registry) (override : Override) :
    let outcome := (registry.register override).1
    let after := (registry.register override).2
    (outcome = .active ↔ ∀ earlier ∈ registry.overrides, earlier.original = override.original →
      earlier.owner = override.owner) ∧
    ((∀ winner, registry.winner? override.original = some winner →
        winner.original = override.original) →
      (outcome = .active → ∃ first ∈ after.overrides, first.original = override.original ∧
        first.owner = override.owner ∧
        after.resolve override.original = ⟨first.replacement, some first.owner⟩) ∧
      ((registry.resolve override.original).owner ≠ some override.owner →
        (outcome = .active ↔
          after.resolve override.original = ⟨override.replacement, some override.owner⟩) ∧
        ∀ owner, outcome = .shadowed owner ↔
          owner ≠ override.owner ∧ (after.resolve override.original).owner = some owner)) := by
  intro outcome after
  have active : outcome = .active ↔ registry.rival? override = none := register_eq_active
  refine ⟨active.trans rival?_eq_none, fun claimed => ?_⟩
  cases wins : registry.winner? override.original with
  | none =>
    have decides := winner?_register_of_free wins
    have leads : after.resolve override.original = ⟨override.replacement, some override.owner⟩ :=
      resolve_of_winner decides
    have inForce : outcome = .active := active.mpr (rival?_of_free wins)
    refine ⟨fun _ => ⟨override, mem_of_winner decides, rfl, rfl, leads⟩, fun _ => ?_⟩
    rw [leads, inForce]
    simp [eq_comm]
  | some winner =>
    have decides := winner?_register_of_winner wins
    have leads : after.resolve override.original = ⟨winner.replacement, some winner.owner⟩ :=
      resolve_of_winner decides
    have claims := claimed winner wins
    refine ⟨fun inForce => ?_, fun foreign => ?_⟩
    · have own := rival?_eq_none.mp (active.mp inForce) winner (mem_of_winner wins) claims
      exact ⟨winner, mem_of_winner decides, claims, own, leads⟩
    · rw [resolve_of_winner wins] at foreign
      have other : winner.owner ≠ override.owner := fun same => foreign (congrArg some same)
      have shadowed : outcome = .shadowed winner.owner :=
        register_eq_shadowed.mpr ⟨winner, rival?_of_winner wins claims other, rfl⟩
      rw [leads, shadowed]
      refine ⟨by simp [other], fun owner => ?_⟩
      simp only [Registration.shadowed.injEq, Option.some.injEq, iff_and_self]
      rintro rfl
      exact other

theorem registration_tells_winner_shadowed :
    let registry := (Registry.empty.register ⟨⟨0, 8⟩, ⟨1, 0⟩, 1⟩).2
    let override : Override := ⟨⟨0, 8⟩, ⟨2, 0⟩, 2⟩
    (registry.register override).1 = .shadowed 1 ∧
      ((registry.register override).2.resolve ⟨0, 8⟩).owner = some 1 := by
  intro registry override
  have claimed : ∀ winner, registry.winner? override.original = some winner →
      winner.original = override.original := by
    intro winner wins
    have decides : registry.winner? override.original = some ⟨⟨0, 8⟩, ⟨1, 0⟩, 1⟩ := by decide
    rw [decides, Option.some.injEq] at wins
    rw [← wins]
  have told := ((registration_tells_winner registry override).2 claimed).2 (by decide)
  have shadowed : (registry.register override).1 = .shadowed 1 := by decide
  exact ⟨shadowed, ((told.2 1).mp shadowed).2⟩

/-- An owner's second override of an original is answered as in force while the first one decides. -/
theorem registration_repeated :
    let registry := (Registry.empty.register ⟨⟨0, 8⟩, ⟨1, 0⟩, 1⟩).2
    let override : Override := ⟨⟨0, 8⟩, ⟨2, 0⟩, 1⟩
    (registry.register override).1 = .active ∧
      (registry.register override).2.resolve ⟨0, 8⟩ ≠ ⟨⟨2, 0⟩, some 1⟩ := by
  decide

end Registry

end StageScript
