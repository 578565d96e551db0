import PeerFirewall.Proofs.Admission.Agreement

/-!
# The first fault of rules

What a valid party is and what is wrong with one that is not is said without the checks
(`Resolvers.Valid`, `Resolvers.Faulty`). Every party is valid or has one fault
(`Resolvers.partyFault_eq_some_iff`), and rules are refused just with the fault that comes first:
rule by rule, and the source of a rule before its destination (`Resolvers.validate_reports`).
-/
namespace PeerFirewall

namespace Resolvers

variable {resolvers : Resolvers}

/-! ### Parties -/

/-- A valid party sets one field: a group that is enabled, or a namespace whose name is a label of
the DNS. -/
inductive Valid (resolvers : Resolvers) : Party → Prop
  | group {group : Group} (enabled : group ∈ resolvers.enabled) : Valid resolvers ⟨some group, none⟩
  | «namespace» {name : String} (label : DnsLabel name) : Valid resolvers ⟨none, some name⟩

/-- What is wrong with a party that is not valid. -/
inductive Faulty (resolvers : Resolvers) : Party → PartyFault → Prop
  | both (group : Group) (name : String) : Faulty resolvers ⟨some group, some name⟩ .ambiguous
  | neither : Faulty resolvers ⟨none, none⟩ .ambiguous
  | disabled {group : Group} (disabled : group ∉ resolvers.enabled) :
      Faulty resolvers ⟨some group, none⟩ (.disabledGroup group)
  | misnamed {name : String} (noLabel : ¬ DnsLabel name) :
      Faulty resolvers ⟨none, some name⟩ (.invalidNamespace name)

/-- The check of a party finds what is wrong with it. -/
theorem partyFault_eq_some_iff {party : Party} {fault : PartyFault} :
    resolvers.partyFault party = some fault ↔ resolvers.Faulty party fault := by
  constructor
  · intro found
    obtain ⟨_ | group, _ | name⟩ := party
    · cases found
      exact .neither
    · simp only [partyFault, isDnsLabel_iff, Option.ite_none_left_eq_some, Option.some.injEq]
        at found
      obtain ⟨noLabel, rfl⟩ := found
      exact .misnamed noLabel
    · simp only [partyFault, isEnabled, decide_eq_true_eq, Option.ite_none_left_eq_some,
        Option.some.injEq] at found
      obtain ⟨disabled, rfl⟩ := found
      exact .disabled disabled
    · cases found
      exact .both group name
  · intro faulty
    cases faulty with
    | both => rfl
    | neither => rfl
    | disabled disabled => simp [partyFault, isEnabled, disabled]
    | misnamed noLabel => simp [partyFault, isDnsLabel_iff, noLabel]

/-- The check of a party finds nothing just where the party is valid. -/
theorem partyFault_eq_none_iff_valid {party : Party} :
    resolvers.partyFault party = none ↔ resolvers.Valid party := by
  constructor
  · intro sound
    obtain ⟨_ | group, _ | name⟩ := party
    · cases sound
    · simp only [partyFault, isDnsLabel_iff, ite_eq_left_iff, reduceCtorEq, imp_false,
        not_not] at sound
      exact .namespace sound
    · simp only [partyFault, isEnabled, decide_eq_true_eq, ite_eq_left_iff, reduceCtorEq, imp_false,
        not_not] at sound
      exact .group sound
    · cases sound
  · intro valid
    cases valid with
    | group enabled => simp [partyFault, isEnabled, enabled]
    | «namespace» label => simp [partyFault, isDnsLabel_iff, label]

/-! ### Rules -/

/-- Whether a fault is that of a side of a rule, and of the first side that has one. -/
inductive FaultyRule (resolvers : Resolvers) (rule : Rule) : Side → PartyFault → Prop
  | source {party : Party} {fault : PartyFault} (stands : rule.source = some party)
      (faulty : resolvers.Faulty party fault) : FaultyRule resolvers rule .source fault
  | destination {party : Party} {fault : PartyFault}
      (before : ∀ source ∈ rule.source, resolvers.Valid source)
      (stands : rule.destination = some party) (faulty : resolvers.Faulty party fault) :
      FaultyRule resolvers rule .destination fault

/-- Whether a fault is that of a rule, and of the first one of some rules that has one. -/
inductive FirstFault (resolvers : Resolvers) : List Rule → RuleFault → Prop
  | mk (before : List Rule) (rule : Rule) (after : List Rule) {side : Side} {fault : PartyFault}
      (valid : ∀ earlier ∈ before, ∀ party ∈ earlier.parties, resolvers.Valid party)
      (faulty : resolvers.FaultyRule rule side fault) :
      FirstFault resolvers (before ++ rule :: after) ⟨before.length, side, fault⟩

/-- The check of a side of a rule finds nothing just where its party, if it has one, is valid. -/
theorem validateSide_eq_ok_iff {place : Nat} {side : Side} {party : Option Party} :
    resolvers.validateSide place side party = .ok () ↔
      ∀ present ∈ party, resolvers.Valid present := by
  simp only [validateSide_ok_iff, ← partyFault_eq_none_iff, partyFault_eq_none_iff_valid]

/-- The check of a side of a rule finds what is wrong with its party. -/
theorem validateSide_eq_error_iff {place : Nat} {side : Side} {party : Option Party}
    {found : RuleFault} :
    resolvers.validateSide place side party = .error found ↔
      ∃ present fault, party = some present ∧ resolvers.Faulty present fault ∧
        found = ⟨place, side, fault⟩ := by
  cases party with
  | none => simp [validateSide]
  | some party =>
    simp only [validateSide, Option.some.injEq, ← partyFault_eq_some_iff]
    cases isFound : resolvers.partyFault party <;> simp [isFound, eq_comm]

/-- Two checks, the second one where the first one finds nothing, find what one of them finds. -/
theorem check_eq_error_iff {first : Except RuleFault Unit} {next : Unit → Except RuleFault Unit}
    {found : RuleFault} :
    first >>= next = .error found ↔
      first = .error found ∨ first = .ok () ∧ next () = .error found := by
  cases first <;> simp [bind, Except.bind]

/-- The check of rules finds what is wrong with the first rule, or nothing there and what is wrong
with the others. -/
theorem validateFrom_cons_eq_error_iff {start : Nat} {rule : Rule} {rest : List Rule}
    {found : RuleFault} :
    resolvers.validateFrom start (rule :: rest) = .error found ↔
      (∃ side fault, resolvers.FaultyRule rule side fault ∧ found = ⟨start, side, fault⟩) ∨
        (∀ party ∈ rule.parties, resolvers.Valid party) ∧
          resolvers.validateFrom (start + 1) rest = .error found := by
  simp only [validateFrom, check_eq_error_iff, validateSide_eq_error_iff, validateSide_eq_ok_iff,
    Rule.parties, List.mem_append, Option.mem_toList, or_imp, forall_and]
  constructor
  · rintro (⟨party, fault, stands, faulty, rfl⟩ |
      ⟨before, ⟨party, fault, stands, faulty, rfl⟩ | ⟨behind, later⟩⟩)
    · exact .inl ⟨.source, fault, .source stands faulty, rfl⟩
    · exact .inl ⟨.destination, fault, .destination before stands faulty, rfl⟩
    · exact .inr ⟨⟨before, behind⟩, later⟩
  · rintro (⟨_, _, faultyRule, rfl⟩ | ⟨⟨before, behind⟩, later⟩)
    · cases faultyRule with
      | source stands faulty => exact .inl ⟨_, _, stands, faulty, rfl⟩
      | destination before stands faulty => exact .inr ⟨before, .inl ⟨_, _, stands, faulty, rfl⟩⟩
    · exact .inr ⟨before, .inr ⟨behind, later⟩⟩

/-- The check of rules finds the first fault, wherever they are counted from. -/
theorem validateFrom_eq_error_iff {start : Nat} {rules : List Rule} {found : RuleFault} :
    resolvers.validateFrom start rules = .error found ↔
      ∃ first, resolvers.FirstFault rules first ∧
        found = { first with rule := start + first.rule } := by
  induction rules generalizing start with
  | nil =>
    simp only [validateFrom, reduceCtorEq, false_iff, not_exists, not_and]
    intro first isFirst
    generalize isNil : ([] : List Rule) = rules at isFirst
    cases isFirst
    simp at isNil
  | cons rule rest ih =>
    rw [validateFrom_cons_eq_error_iff, ih]
    constructor
    · rintro (⟨side, fault, faulty, rfl⟩ |
        ⟨valid, _, ⟨before, later, after, validToo, faulty⟩, rfl⟩)
      · exact ⟨_, .mk [] rule rest (List.forall_mem_nil _) faulty, rfl⟩
      · refine ⟨_, .mk (rule :: before) later after
          (List.forall_mem_cons.2 ⟨valid, validToo⟩) faulty, ?_⟩
        rw [List.length_cons, Nat.add_comm before.length 1, Nat.add_assoc]
    · rintro ⟨first, isFirst, rfl⟩
      generalize isCons : rule :: rest = rules at isFirst
      obtain ⟨_ | ⟨head, before⟩, later, after, valid, faulty⟩ := isFirst
      · cases isCons
        exact .inl ⟨_, _, faulty, rfl⟩
      · cases isCons
        obtain ⟨validHere, validToo⟩ := List.forall_mem_cons.1 valid
        refine .inr ⟨validHere, _, .mk before later after validToo faulty, ?_⟩
        rw [List.length_cons, Nat.add_comm before.length 1, Nat.add_assoc]

/-- Rules are let through just where every party that is set is valid, and refused just with the
fault of the first party that is not: that of the first rule that has such a party, and of its
source before its destination. What a label of the DNS is that a valid party names is also said by
the pattern of labels with a bound for the bytes, so it has nothing but small letters, digits and
hyphens. -/
theorem validate_reports (resolvers : Resolvers) :
    (∀ rules, resolvers.validate rules = .ok () ↔
      ∀ rule ∈ rules, ∀ party ∈ rule.parties, resolvers.Valid party) ∧
    (∀ rules found, resolvers.validate rules = .error found ↔ resolvers.FirstFault rules found) ∧
    (∀ name, DnsLabel name ↔ name.utf8ByteSize ≤ 63 ∧ name.toList ∈ labelPattern.matches') ∧
    ∀ name, DnsLabel name →
      ∀ c ∈ name.toList, c.toNat < 128 ∧ c.isUpper = false ∧ c ≠ '\n' := by
  refine ⟨fun rules => ?_, fun rules found => ?_, dnsLabel_iff_pattern, fun _ => DnsLabel.plain⟩
  · simp only [validate_ok_iff, ← partyFault_eq_none_iff, partyFault_eq_none_iff_valid]
  · rw [validate, validateFrom_eq_error_iff]
    constructor
    · rintro ⟨first, isFirst, rfl⟩
      rwa [Nat.zero_add]
    · exact fun isFirst => ⟨found, isFirst, by rw [Nat.zero_add]⟩

/-- Behind a sound rule stand two faulty ones. The first of these names a namespace that would be
a label but for the end of the line. -/
theorem validate_reports_second :
    let resolvers : Resolvers := ⟨[.offloaded], []⟩
    let rules : List Rule := [
      ⟨.allow, some (.ofGroup .offloaded), some (.ofNamespace "shop-1")⟩,
      ⟨.deny, none, some (.ofNamespace "shop\n")⟩,
      ⟨.deny, some (.ofGroup .leaf), some ⟨none, none⟩⟩]
    resolvers.FirstFault rules ⟨1, .destination, .invalidNamespace "shop\n"⟩ ∧
      ¬ ∀ rule ∈ rules, ∀ party ∈ rule.parties, resolvers.Valid party := by
  intro resolvers rules
  obtain ⟨accepts, reports, -⟩ := validate_reports resolvers
  have refused : resolvers.validate rules =
      .error ⟨1, .destination, .invalidNamespace "shop\n"⟩ := by
    decide +kernel
  refine ⟨(reports rules _).1 refused, fun valid => ?_⟩
  rw [(accepts rules).2 valid] at refused
  cases refused

end Resolvers

end PeerFirewall
