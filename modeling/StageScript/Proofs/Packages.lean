import Mathlib.Data.List.DropRight
import StageScript.Proofs.Resolution

/-!
Packages that come and go. Once a package is removed, the registry is what it would be if the package
had never registered anything, however its overrides stood among those of others. Packages that have
nothing to do with each other can be activated in any order.
-/

namespace StageScript

theorem Interleaved.swap {α : Type} {first second both : List α}
    (mixed : Interleaved first second both) : Interleaved second first both := by
  induction mixed with
  | nil => exact .nil
  | left element _ ih => exact .right element ih
  | right element _ ih => exact .left element ih

theorem Interleaved.find?_eq_find? {α : Type} {first second both other : List α} {wanted : α → Bool}
    (mixed : Interleaved first second both) (again : Interleaved first second other)
    (oneSided : ∀ one ∈ first, ∀ two ∈ second, wanted one → ¬ wanted two) :
    both.find? wanted = other.find? wanted := by
  by_cases absent : ∀ one ∈ first, ¬ wanted one
  · rw [mixed.swap.find?_eq absent, again.swap.find?_eq absent]
  · simp only [not_forall, not_not] at absent
    obtain ⟨one, member, found⟩ := absent
    have none : ∀ two ∈ second, ¬ wanted two := fun two other => oneSided one member two other found
    rw [mixed.find?_eq none, again.find?_eq none]

namespace Override

def ends (override : Override) : List Pointer := [override.original, override.replacement]

theorem covers_iff_mem_ends {override : Override} {pointer : Pointer} :
    override.covers pointer ↔ pointer ∈ override.ends := by
  simp [covers_iff, ends, @eq_comm _ pointer]

/-- Two overrides that have no pointer in common and do not lead into the same buffer. -/
def Apart (override other : Override) : Prop :=
  (∀ pointer ∈ override.ends, pointer ∉ other.ends) ∧
    override.replacement.buffer ≠ other.replacement.buffer

instance (override other : Override) : Decidable (override.Apart other) :=
  inferInstanceAs (Decidable (_ ∧ _))

theorem Apart.not_covers {override other : Override} {pointer : Pointer}
    (apart : override.Apart other) (covers : override.covers pointer) : ¬ other.covers pointer := by
  rw [covers_iff_mem_ends] at covers ⊢
  exact apart.1 pointer covers

theorem Apart.not_streamsIn {override other : Override} {buffer : BufferId}
    (apart : override.Apart other) (streams : override.streamsIn buffer) :
    ¬ other.streamsIn buffer := by
  intro others
  simp only [streamsIn, Bool.and_eq_true, beq_iff_eq] at streams others
  exact apart.2 (streams.1.trans others.1.symm)

end Override

namespace Registry

inductive Request where
  | register (override : Override)
  | unregister (owner : OwnerId)
  deriving DecidableEq

def Request.registersFor (owner : OwnerId) : Request → Bool
  | .register override => override.owner == owner
  | .unregister _ => false

def perform (registry : Registry) : Request → Registry
  | .register override => (registry.register override).2
  | .unregister owner => (registry.unregister owner).2

def ofHistory (history : List Request) : Registry := history.foldl perform empty

def without (registry : Registry) (owner : OwnerId) : Registry := (registry.unregister owner).2

def holdings (registry : Registry) (owner : OwnerId) : Nat :=
  registry.overrides.countP (·.owner == owner)

variable {registry : Registry} {request : Request} {owner : OwnerId}

theorem unregister_fst (registry : Registry) (owner : OwnerId) :
    (registry.unregister owner).1 = registry.holdings owner := by
  have all : registry.overrides.length =
      registry.holdings owner + (registry.overrides.filter (·.owner != owner)).length := by
    rw [holdings, List.countP_eq_length_filter]
    exact List.length_eq_length_filter_add fun override : Override => override.owner == owner
  exact Nat.sub_eq_of_eq_add all

theorem without_perform_of_own (own : request.registersFor owner) :
    (registry.perform request).without owner = registry.without owner := by
  cases request with
  | unregister => cases own
  | register override =>
    have dropped : (override.owner != owner) = false := by simpa [Request.registersFor] using own
    simp [perform, register, without, unregister, dropped]

theorem without_perform_of_foreign (foreign : ¬ request.registersFor owner) :
    (registry.perform request).without owner = (registry.without owner).perform request := by
  cases request with
  | register override =>
    have kept : (override.owner != owner) = true := by simpa [Request.registersFor] using foreign
    simp [perform, register, without, unregister, kept]
  | unregister other =>
    simp only [perform, without, unregister, List.filter_filter, Bool.and_comm]

theorem without_foldl (registry : Registry) (history : List Request) (owner : OwnerId) :
    (history.foldl perform registry).without owner =
      (history.filter (!·.registersFor owner)).foldl perform (registry.without owner) := by
  induction history generalizing registry with
  | nil => rfl
  | cons request rest ih =>
    rw [List.foldl_cons, ih]
    by_cases own : request.registersFor owner
    · rw [without_perform_of_own own, List.filter_cons_of_neg (by simpa using own)]
    · rw [without_perform_of_foreign own, List.filter_cons_of_pos (by simpa using own),
        List.foldl_cons]

theorem holdings_perform_of_unregister :
    (registry.perform (.unregister owner)).holdings owner = 0 := by
  simp [perform, unregister, holdings, List.countP_eq_zero]

theorem holdings_perform_of_ne (other : request ≠ .unregister owner) :
    (registry.perform request).holdings owner =
      registry.holdings owner + [request].countP (·.registersFor owner) := by
  cases request with
  | register override => simp [perform, register, holdings, Request.registersFor]
  | unregister removed =>
    have kept : removed ≠ owner := fun same => other (congrArg _ same)
    have foreign (override : Override) :
        (override.owner == owner && override.owner != removed) = (override.owner == owner) := by
      by_cases own : override.owner = owner <;> simp [own, kept.symm]
    simp [perform, unregister, holdings, Request.registersFor, List.countP_filter, foreign]

theorem holdings_ofHistory (history : List Request) (owner : OwnerId) :
    (ofHistory history).holdings owner =
      (history.rtakeWhile (· ≠ .unregister owner)).countP (·.registersFor owner) := by
  induction history using List.reverseRecOn with
  | nil => rfl
  | append_singleton history request ih =>
    have last : ofHistory (history ++ [request]) = (ofHistory history).perform request :=
      List.foldl_concat ..
    rw [last]
    by_cases removal : request = .unregister owner
    · rw [removal, holdings_perform_of_unregister, List.rtakeWhile_concat_neg _ _ _ (by simp)]
      rfl
    · rw [holdings_perform_of_ne removal, ih, List.rtakeWhile_concat_pos _ _ _ (by simpa),
        List.countP_append]

/-- When an owner is removed, whatever owners have registered and removed before, every pointer leads
where it would lead, and every buffer is written by whom it would be, if the removed owner had never
registered anything. The answer is how often it has done so since it was last removed. -/
theorem removal_leavesNoTrace (history : List Request) (owner : OwnerId) :
    let removed := (ofHistory history).unregister owner
    let spared := ofHistory (history.filter (!·.registersFor owner))
    (∀ pointer, removed.2.resolve pointer = spared.resolve pointer) ∧
    (∀ buffer, removed.2.streamOwner buffer = spared.streamOwner buffer) ∧
    removed.1 = (history.rtakeWhile (· ≠ .unregister owner)).countP (·.registersFor owner) := by
  have same : (ofHistory history).without owner =
      ofHistory (history.filter (!·.registersFor owner)) := without_foldl empty history owner
  refine ⟨fun pointer => ?_, fun buffer => ?_, ?_⟩
  · exact congrArg (·.resolve pointer) same
  · exact congrArg (·.streamOwner buffer) same
  · exact (unregister_fst _ owner).trans (holdings_ofHistory history owner)

-- an override comes back when the one before it is removed, which has been registered twice
example :
    let registry := ofHistory
      [.register ⟨⟨0, 0⟩, ⟨1, 0⟩, 1⟩, .unregister 1, .register ⟨⟨0, 0⟩, ⟨2, 0⟩, 1⟩,
        .register ⟨⟨0, 0⟩, ⟨3, 0⟩, 2⟩, .register ⟨⟨0, 8⟩, ⟨2, 8⟩, 1⟩]
    (registry.resolve ⟨0, 0⟩).owner = some 1 ∧ (registry.unregister 1).1 = 2 ∧
      ((registry.unregister 1).2.resolve ⟨0, 0⟩) = ⟨⟨3, 0⟩, some 2⟩ := by
  decide

def registerAll (registry : Registry) (overrides : List Override) : Registry :=
  overrides.foldl (fun earlier override => (earlier.register override).2) registry

theorem overrides_registerAll (registry : Registry) (overrides : List Override) :
    (registry.registerAll overrides).overrides = registry.overrides ++ overrides := by
  unfold registerAll
  induction overrides generalizing registry with
  | nil => exact (List.append_nil _).symm
  | cons override rest ih =>
    rw [List.foldl_cons, ih]
    exact List.append_assoc registry.overrides [override] rest

/-- Two packages whose overrides have no pointer in common and do not lead into the same buffers can be
activated in any order, and one in the midst of the other: wherever a pointer leads and whoever has
written a buffer, it is the same as long as each package keeps to its own order. -/
theorem activation_inAnyOrder {first second both other : List Override} (registry : Registry)
    (apart : ∀ override ∈ first, ∀ foreign ∈ second, override.Apart foreign)
    (mixed : Interleaved first second both) (again : Interleaved first second other) :
    (∀ pointer, (registry.registerAll both).resolve pointer =
      (registry.registerAll other).resolve pointer) ∧
    ∀ buffer, (registry.registerAll both).streamOwner buffer =
      (registry.registerAll other).streamOwner buffer := by
  refine ⟨fun pointer => ?_, fun buffer => ?_⟩
  · have found : both.find? (·.covers pointer) = other.find? (·.covers pointer) :=
      mixed.find?_eq_find? again fun override member foreign among =>
        (apart override member foreign among).not_covers
    simp only [resolve, overrides_registerAll, List.find?_append, found]
  · have found : both.find? (·.streamsIn buffer) = other.find? (·.streamsIn buffer) :=
      mixed.find?_eq_find? again fun override member foreign among =>
        (apart override member foreign among).not_streamsIn
    simp only [streamOwner, overrides_registerAll, List.find?_append, found]

/-- Over an override that is there already, one package overrides two commands and follows up on one of
its own replacements, and another package comes before it, or in between. -/
theorem activation_inAnyOrder_interrupted :
    let registry := ofHistory [.register ⟨⟨0, 8⟩, ⟨1, 0⟩, 1⟩]
    let first : List Override := [⟨⟨0, 8⟩, ⟨2, 0⟩, 2⟩, ⟨⟨2, 0⟩, ⟨3, 0⟩, 2⟩, ⟨⟨0, 16⟩, ⟨3, 4⟩, 2⟩]
    let second : List Override := [⟨⟨0, 24⟩, ⟨4, 0⟩, 3⟩]
    let between := first.take 1 ++ second ++ first.drop 1
    (∀ override ∈ first, ∀ foreign ∈ second, override.Apart foreign) ∧
    Interleaved first second (second ++ first) ∧ Interleaved first second between ∧
    (registry.registerAll (second ++ first)).resolve ⟨2, 0⟩ =
      (registry.registerAll between).resolve ⟨2, 0⟩ ∧
    (registry.registerAll (second ++ first)).streamOwner 4 =
      (registry.registerAll between).streamOwner 4 := by
  intro registry first second between
  have apart : ∀ override ∈ first, ∀ foreign ∈ second, override.Apart foreign := by decide
  have before : Interleaved first second (second ++ first) :=
    .right _ (.left _ (.left _ (.left _ .nil)))
  have amid : Interleaved first second between := .left _ (.right _ (.left _ (.left _ .nil)))
  obtain ⟨leads, writes⟩ := activation_inAnyOrder registry apart before amid
  exact ⟨apart, before, amid, leads ⟨2, 0⟩, writes 4⟩

end Registry

end StageScript
