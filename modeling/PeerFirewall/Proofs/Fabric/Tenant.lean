import PeerFirewall.Fabric.Tenant

/-!
# Tenant namespaces name their clusters

The tenant namespaces are those of the clusters (`Tenants.clusterId_eq_ok`), and each is that of one
cluster (`Tenants.namespaceOf_injective`). So the two ways between identifiers and tenant namespaces
undo each other, whatever the stem is, and every other namespace is refused
(`Tenants.clusterId_corresponds`).
-/
namespace PeerFirewall.Tenants

/-- What follows a front is what is left of the text behind it. -/
theorem dropFront_eq_some {front text rest : List Char} :
    dropFront front text = some rest ↔ text = front ++ rest := by
  induction front generalizing text with
  | nil => simp [dropFront]
  | cons f front ih =>
    cases text with
    | nil => simp [dropFront]
    | cons c text =>
      by_cases same : f = c
      · simp [dropFront, same, ih]
      · simp [dropFront, same, Ne.symm same]

/-- Each tenant namespace is that of one cluster. -/
theorem namespaceOf_injective {tenants : Tenants} {one other : String}
    (same : tenants.namespaceOf one = tenants.namespaceOf other) : one = other := by
  rw [← String.toList_inj] at same ⊢
  simpa [namespaceOf] using same

/-- A namespace names a cluster just where it is the tenant namespace of that cluster. -/
theorem clusterId_eq_ok {tenants : Tenants} {name clusterId : String} :
    tenants.clusterId name = .ok clusterId ↔
      clusterId ≠ "" ∧ name = tenants.namespaceOf clusterId := by
  have isTenant : name = tenants.namespaceOf clusterId ↔
      dropFront (tenants.stem.toList ++ ['-']) name.toList = some clusterId.toList := by
    rw [dropFront_eq_some, ← String.toList_inj]
    simp [namespaceOf]
  have isEmpty : clusterId = "" ↔ clusterId.toList = [] := by rw [← String.toList_inj]; simp
  rw [isTenant, Tenants.clusterId, ne_eq, isEmpty]
  cases dropFront (tenants.stem.toList ++ ['-']) name.toList with
  | none => simp
  | some left =>
    cases left with
    | nil =>
      simp only [reduceCtorEq, Option.some.injEq, false_iff, not_and]
      exact fun nonempty empty => nonempty empty.symm
    | cons c rest =>
      simp only [Except.ok.injEq, Option.some.injEq]
      constructor
      · rintro rfl
        simp
      · rintro ⟨_, same⟩
        rw [same, String.ofList_toList]

/-- A namespace names no cluster just where it is not the stem, a hyphen and at least one more
character. -/
theorem clusterId_eq_error {tenants : Tenants} {name : String} {error : ClusterIdError} :
    tenants.clusterId name = .error error ↔
      (¬ ∃ c rest, name.toList = tenants.stem.toList ++ '-' :: c :: rest) ∧
        error = ⟨name, tenants.stem ++ "-"⟩ := by
  have behindStem : (∃ c rest, name.toList = tenants.stem.toList ++ '-' :: c :: rest) ↔
      ∃ c rest, dropFront (tenants.stem.toList ++ ['-']) name.toList = some (c :: rest) := by
    simp only [dropFront_eq_some, List.append_assoc, List.singleton_append]
  rw [behindStem, clusterId]
  cases dropFront (tenants.stem.toList ++ ['-']) name.toList with
  | none => simp [eq_comm]
  | some left => cases left <;> simp [eq_comm]

/-- How the identifiers of clusters and the tenant namespaces under a stem belong together. -/
structure Corresponds (tenants : Tenants) : Prop where
  /-- The tenant namespace of a cluster names the cluster, unless its identifier is empty. -/
  readBack : ∀ clusterId, tenants.clusterId (tenants.namespaceOf clusterId) = .ok clusterId ↔
    clusterId ≠ ""
  /-- A namespace names a cluster just where it is the tenant namespace of that cluster. -/
  names : ∀ name clusterId, tenants.clusterId name = .ok clusterId ↔
    clusterId ≠ "" ∧ tenants.namespaceOf clusterId = name
  /-- What is not the stem, a hyphen and at least one more character is refused. -/
  refuses : ∀ name error, tenants.clusterId name = .error error ↔
    (¬ ∃ c rest, name.toList = tenants.stem.toList ++ '-' :: c :: rest) ∧
      error = ⟨name, tenants.stem ++ "-"⟩
  /-- Two namespaces name the same cluster just where they are the same. -/
  distinct : ∀ {name other clusterId otherId : String}, tenants.clusterId name = .ok clusterId →
    tenants.clusterId other = .ok otherId → (clusterId = otherId ↔ name = other)

/-- Identifiers and tenant namespaces correspond one to one, under every stem and also where an
identifier begins with a hyphen or with the stem. -/
theorem clusterId_corresponds (tenants : Tenants) : tenants.Corresponds where
  readBack clusterId := by rw [clusterId_eq_ok, and_iff_left rfl]
  names name clusterId := by rw [clusterId_eq_ok, eq_comm (a := name)]
  refuses _ _ := clusterId_eq_error
  distinct {name other clusterId otherId} named namedToo := by
    obtain ⟨-, rfl⟩ := clusterId_eq_ok.1 named
    obtain ⟨-, rfl⟩ := clusterId_eq_ok.1 namedToo
    constructor
    · rintro rfl
      rfl
    · exact namespaceOf_injective

/-- Identifiers that begin with a hyphen or with the stem are told apart. -/
theorem clusterId_corresponds_nested :
    let tenants : Tenants := ⟨"peer-a"⟩
    tenants.clusterId "peer-a--peer-a-b" = .ok "-peer-a-b" ∧
      tenants.clusterId "peer-a-peer-a-b" = .ok "peer-a-b" ∧
      ("-peer-a-b" = "peer-a-b" ↔ "peer-a--peer-a-b" = "peer-a-peer-a-b") := by
  intro tenants
  have hyphen : tenants.clusterId "peer-a--peer-a-b" = .ok "-peer-a-b" :=
    clusterId_eq_ok.2 ⟨by decide, rfl⟩
  have stem : tenants.clusterId "peer-a-peer-a-b" = .ok "peer-a-b" :=
    clusterId_eq_ok.2 ⟨by decide, rfl⟩
  exact ⟨hyphen, stem, (clusterId_corresponds tenants).distinct hyphen stem⟩

end PeerFirewall.Tenants
