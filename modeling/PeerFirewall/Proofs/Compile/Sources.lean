import PeerFirewall.Compile.Strategy

/-!
# How parties are matched, and the order and the names of sets

A party is matched just where it sets one field, to an enabled group or to the name of a namespace
(`Resolvers.strategy_eq_ok_iff`). `SetSource.before` is a strict total order, so arranging sources
keeps each one once and in order (`mem_arrange`, `arrange_sorted`), and no two sources give their
sets the same name (`setName_injective`): a namespace never has the name of one of the fixed sets,
because only the names of the sets of namespaces begin with an n.
-/
namespace PeerFirewall

/-- A party that is matched is an enabled group, in the way of that group, or a namespace that has a
name, by its set. -/
theorem Resolvers.strategy_eq_ok_iff {resolvers : Resolvers} {party : Party}
    {strategy : Strategy} :
    resolvers.strategy party = .ok strategy ↔
      (∃ group ∈ resolvers.enabled, party = .ofGroup group ∧ strategy = .ofGroup group) ∨
      (∃ name ≠ "", party = .ofNamespace name ∧ strategy = .set (.ofNamespace name)) := by
  constructor
  · intro matched
    obtain ⟨group, name⟩ := party
    cases group with
    | some group =>
      cases name with
      | some name => cases matched
      | none =>
        by_cases enabled : group ∈ resolvers.enabled
        · simp only [Resolvers.strategy, isEnabled, enabled, decide_true, if_true,
            Except.ok.injEq] at matched
          exact .inl ⟨group, enabled, rfl, matched.symm⟩
        · simp [Resolvers.strategy, isEnabled, enabled] at matched
    | none =>
      cases name with
      | none => cases matched
      | some name =>
        by_cases named : name = ""
        · simp [Resolvers.strategy, named] at matched
        · simp only [Resolvers.strategy, ne_eq, named, not_false_eq_true, if_true,
            Except.ok.injEq] at matched
          exact .inr ⟨name, named, rfl, matched.symm⟩
  · rintro (⟨group, enabled, rfl, rfl⟩ | ⟨name, named, rfl, rfl⟩)
    · simp [Resolvers.strategy, Party.ofGroup, isEnabled, enabled]
    · simp [Resolvers.strategy, Party.ofNamespace, named]

namespace SetSource

/-- No source stands before itself. -/
theorem before_irrefl (source : SetSource) : source.before source = false := by
  cases source <;> simp [before]

/-- A source stands before what stands behind one that it stands before. -/
theorem before_trans {a b c : SetSource} (first : a.before b) (second : b.before c) :
    a.before c := by
  cases b with
  | ofNamespace name =>
    cases c with
    | ofNamespace last =>
      cases a with
      | ofNamespace first' =>
        simp only [before, decide_eq_true_eq] at *
        exact String.lt_trans first second
      | _ => simp [before, rank]
    | _ => simp [before, rank] at second
  | _ => cases a <;> cases c <;> simp_all [before, rank]

/-- Of two different sources one stands before the other. -/
theorem before_total {a b : SetSource} (different : a ≠ b) (notBefore : a.before b = false) :
    b.before a := by
  cases a with
  | ofNamespace name =>
    cases b with
    | ofNamespace other =>
      simp only [before, decide_eq_false_iff_not, String.not_lt, decide_eq_true_eq] at *
      exact Std.lt_of_le_of_ne notBefore fun same => different (congrArg ofNamespace same.symm)
    | _ => simp [before, rank]
  | _ => cases b <;> simp_all [before, rank]

/-- Insertion adds its source and nothing else. -/
@[simp] theorem mem_insert {source other : SetSource} {sources : List SetSource} :
    source ∈ insert other sources ↔ source = other ∨ source ∈ sources := by
  induction sources with
  | nil => simp [insert]
  | cons head rest ih =>
    unfold insert
    split
    · rename_i same
      simp [same]
    · split
      · simp
      · simp only [List.mem_cons, ih]
        exact or_left_comm

/-- Insertion keeps the order. -/
theorem insert_sorted {source : SetSource} {sources : List SetSource}
    (sorted : sources.Pairwise fun a b => a.before b) :
    (insert source sources).Pairwise fun a b => a.before b := by
  induction sources with
  | nil => simp [insert]
  | cons head rest ih =>
    have ⟨above, tail⟩ := List.pairwise_cons.1 sorted
    unfold insert
    split
    · exact sorted
    · rename_i different
      split
      · rename_i lower
        refine List.pairwise_cons.2 ⟨fun other member => ?_, sorted⟩
        rcases List.mem_cons.1 member with rfl | member
        · exact lower
        · exact before_trans lower (above other member)
      · rename_i notLower
        refine List.pairwise_cons.2 ⟨fun other member => ?_, ih tail⟩
        rcases mem_insert.1 member with rfl | member
        · exact before_total different (Bool.eq_false_iff.2 notLower)
        · exact above other member

/-- Arranging keeps every source and adds none. -/
@[simp] theorem mem_arrange {source : SetSource} {sources : List SetSource} :
    source ∈ arrange sources ↔ source ∈ sources := by
  induction sources with
  | nil => simp [arrange]
  | cons head rest ih =>
    rw [List.mem_cons, ← ih]
    exact mem_insert

/-- Arranged sources are in order. -/
theorem arrange_sorted (sources : List SetSource) :
    (arrange sources).Pairwise fun a b => a.before b := by
  induction sources with
  | nil => exact .nil
  | cons head rest ih => exact insert_sorted ih

/-- Arranging keeps each source once. -/
theorem arrange_nodup (sources : List SetSource) : (arrange sources).Nodup :=
  (arrange_sorted sources).imp fun {a b} before same => by
    rw [same, before_irrefl] at before
    contradiction

/-- Sets of different sources have different names. -/
theorem setName_injective : Function.Injective setName := by
  intro a b same
  have letter : a.setName.toList.head? = b.setName.toList.head? := by rw [same]
  cases a <;> cases b <;> simp [setName] at letter same ⊢
  exact same

end SetSource

end PeerFirewall
