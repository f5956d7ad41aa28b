import Mathlib.Data.List.Pairwise
import Regrant.Principal.Merge
import Regrant.Proofs.Principal.Index

/-!
# What merged principals list

A merged principal lists what the principals of its group list, each name once (`hasName_unite`,
`nodup_unite`).  There is one group for each target, and one for those that are skipped
(`resolve_eq`).  So an identity is listed twice exactly if two principals that list it differ in
their targets (`nodup_identities_resolve`).
-/

namespace Regrant

instance : Std.LawfulEqOrd TargetIdentity where
  eq_of_compare := by
    rintro ⟨type, email⟩ ⟨type', email'⟩ h
    obtain ⟨htype, hemail⟩ := Ordering.then_eq_eq.1 h
    have hname : type.name = type'.name := Std.LawfulEqOrd.eq_of_compare htype
    obtain rfl : type = type' := by
      apply Option.some.inj
      rw [← PrincipalType.ofName?_name, ← PrincipalType.ofName?_name type', hname]
    obtain rfl : email = email' := Std.LawfulEqOrd.eq_of_compare hemail
    rfl

namespace PrincipalMerge

open PrincipalIndex

/-! ### The sources of a group -/

theorem hasName_gather {s : Sources} {es : List (String × List String)} {key name : String} :
    HasName (gather s es) key name ↔
      HasName s key name ∨ ∃ names, (key, names) ∈ es ∧ name ∈ names := by
  induction es generalizing s with
  | nil => simp [gather]
  | cons e es ih =>
    obtain ⟨key', names'⟩ := e
    have hstep : HasName (s.alter key' fun old => old.getD [] ++ names') key name ↔
        HasName s key name ∨ (key = key' ∧ name ∈ names') := by
      simp only [HasName, SortedMap.get?_alter]
      by_cases h : key = key'
      · subst h
        cases s.get? key <;> simp
      · simp [h]
    rw [gather, ih, hstep, or_assoc]
    refine or_congr_right ?_
    constructor
    · rintro (⟨rfl, hname⟩ | ⟨names, he, hname⟩)
      · exact ⟨names', List.mem_cons_self, hname⟩
      · exact ⟨names, List.mem_cons_of_mem _ he, hname⟩
    · rintro ⟨names, he, hname⟩
      rcases List.mem_cons.1 he with he | he
      · cases he
        exact Or.inl ⟨rfl, hname⟩
      · exact Or.inr ⟨names, he, hname⟩

/-- A group lists what one of its members lists. -/
theorem hasName_unite {l : List Principal} {key name : String} :
    HasName (unite l) key name ↔ ∃ p ∈ l, HasName p.sources key name := by
  have hsorted : HasName (unite l) key name ↔
      HasName (gather ∅ (l.flatMap fun p => p.sources.entries)) key name := by
    rw [unite, HasName, HasName, SortedMap.get?_map]
    cases (gather ∅ (l.flatMap fun p => p.sources.entries)).get? key <;>
      simp [mem_sortedDistinct]
  have hempty : ¬ HasName ∅ key name := by simp [HasName]
  rw [hsorted, hasName_gather, or_iff_right hempty]
  simp only [List.mem_flatMap, HasName, SortedMap.get?_eq_some_iff]
  constructor
  · rintro ⟨names, ⟨p, hp, he⟩, hname⟩
    exact ⟨p, hp, names, he, hname⟩
  · rintro ⟨p, hp, names, he, hname⟩
    exact ⟨names, ⟨p, hp, he⟩, hname⟩

/-- A group lists no name twice under one key. -/
theorem nodup_unite (l : List Principal) : ∀ e ∈ (unite l).entries, e.2.Nodup := by
  intro e he
  obtain ⟨e, -, rfl⟩ := List.mem_map.1 he
  exact (ascending_sortedDistinct _).nodup

/-! ### The groups -/

/-- The principals with one target; those without any are skipped. -/
def group (l : List Principal) (target : Option TargetIdentity) : List Principal :=
  l.filter fun p => target? p = target

theorem filter_pairs (l : List Principal) (t : TargetIdentity) :
    ((l.filterMap fun p => (target? p).map (·, p)).filter fun e => e.1 = t).map (·.2) =
      group l (some t) := by
  rw [group]
  induction l with
  | nil => rfl
  | cons p l ih =>
    cases h : target? p with
    | none => simpa [h] using ih
    | some t' => by_cases ht : t' = t <;> simpa [h, ht] using ih

/-- **Merging makes one principal of each group.** -/
theorem resolve_eq (l : List Principal) :
    resolve l = (sortedDistinct (l.filterMap target?)).map (fun t => mapped t (group l (some t))) ++
      skipped (group l none) := by
  have htargets :
      (l.filterMap fun p => (target? p).map (·, p)).map (·.1) = l.filterMap target? := by
    rw [List.map_filterMap]
    refine List.filterMap_congr fun p _ => ?_
    cases target? p <;> rfl
  have hskipped : (l.filter fun p => (target? p).isNone) = group l none := by
    rw [group]
    refine List.filter_congr fun p _ => ?_
    cases target? p <;> rfl
  rw [resolve, entries_groupBy, List.map_map, htargets, hskipped]
  refine congrArg (· ++ _) (List.map_congr_left fun t _ => ?_)
  exact congrArg (mapped t) (filter_pairs l t)

/-- The principal goes to its target if it has one, and is skipped otherwise. -/
structure Settled (p : Principal) : Prop where
  skip : p.skip = (target? p).isNone
  identity? : p.identity? = (target? p).map fun t => t.type.name ++ ":" ++ t.email

theorem settled_of_mem_resolve {l : List Principal} {p : Principal} (h : p ∈ resolve l) :
    Settled p ∧ p.sources = unite (group l (target? p)) := by
  rw [resolve_eq] at h
  rcases List.mem_append.1 h with h | h
  · obtain ⟨t, -, rfl⟩ := List.mem_map.1 h
    exact ⟨⟨rfl, rfl⟩, rfl⟩
  · rw [skipped] at h
    split at h
    · cases h
    · obtain rfl := List.mem_singleton.1 h
      exact ⟨⟨rfl, rfl⟩, rfl⟩

/-- The targets of principals, and at last that there is none. -/
def targets (l : List Principal) : List (Option TargetIdentity) :=
  (sortedDistinct (l.filterMap target?)).map some ++ [none]

theorem mem_targets {l : List Principal} {p : Principal} (hp : p ∈ l) : target? p ∈ targets l := by
  rw [targets]
  cases h : target? p with
  | none => simp
  | some t => simpa [mem_sortedDistinct] using ⟨p, hp, h⟩

theorem nodup_targets (l : List Principal) : (targets l).Nodup := by
  rw [targets, List.nodup_append]
  refine ⟨(ascending_sortedDistinct _).nodup.map fun _ _ => Option.some.inj, by simp, ?_⟩
  simp

theorem identities_skipped (system : String) (l : List Principal) :
    ((skipped l).flatMap fun p => identities system p.sources) = identities system (unite l) := by
  rw [skipped]
  by_cases h : (unite l).isEmpty = true
  · have hnil : (unite l).entries = [] := List.isEmpty_iff.1 h
    rw [if_pos h, identities, listings, hnil]
    rfl
  · rw [if_neg h, List.flatMap_singleton]

/-- What merged principals list is what the groups list. -/
theorem identities_resolve (system : String) (l : List Principal) :
    ((resolve l).flatMap fun p => identities system p.sources) =
      (targets l).flatMap fun target => identities system (unite (group l target)) := by
  rw [resolve_eq, targets, List.flatMap_append, List.flatMap_append, identities_skipped,
    List.flatMap_map, List.flatMap_map, List.flatMap_singleton]
  rfl

theorem mem_identities_group {system : String} {l : List Principal} {target : Option TargetIdentity}
    {i : IdentityKey} : i ∈ identities system (unite (group l target)) ↔
      ∃ p ∈ l, target? p = target ∧ i ∈ identities system p.sources := by
  simp only [mem_identities, hasName_unite, group, List.mem_filter, decide_eq_true_iff]
  constructor
  · rintro ⟨key, hk, p, ⟨hp, ht⟩, hname⟩
    exact ⟨p, hp, ht, key, hk, hname⟩
  · rintro ⟨p, hp, ht, key, hk, hname⟩
    exact ⟨key, hk, p, ⟨hp, ht⟩, hname⟩

/-- Merging neither adds identities nor drops any. -/
theorem mem_identities_resolve {system : String} {l : List Principal} {i : IdentityKey} :
    (∃ p ∈ resolve l, i ∈ identities system p.sources) ↔
      ∃ p ∈ l, i ∈ identities system p.sources := by
  rw [← List.mem_flatMap, identities_resolve, List.mem_flatMap]
  simp only [mem_identities_group]
  constructor
  · rintro ⟨_, -, p, hp, -, hi⟩
    exact ⟨p, hp, hi⟩
  · rintro ⟨p, hp, hi⟩
    exact ⟨target? p, mem_targets hp, p, hp, rfl, hi⟩

/-- **An index of merged principals holds the target of each principal**, if principals that list
one identity agree on it. -/
theorem exists_get?_of_build_resolve {system : String} {check : String → Except Failure Unit}
    {l : List Principal} {index : PrincipalIndex}
    (h : (build system check (Source.ofList (resolve l))).outcome = .ok index)
    {p : Principal} {i : IdentityKey}
    (hagree : ∀ q ∈ l, i ∈ identities system q.sources → target? q = target? p)
    (hp : p ∈ l) (hi : i ∈ identities system p.sources) :
    ∃ p', index.get? i = some p' ∧ Settled p' ∧ target? p' = target? p := by
  obtain ⟨p', hp', hi'⟩ := mem_identities_resolve.2 ⟨p, hp, hi⟩
  obtain ⟨hsettled, hsources⟩ := settled_of_mem_resolve hp'
  refine ⟨p', (get?_of_build h).2 ⟨hp', hi'⟩, hsettled, ?_⟩
  rw [hsources] at hi'
  obtain ⟨q, hq, htarget, hiq⟩ := mem_identities_group.1 hi'
  rw [← htarget, hagree q hq hiq]

/-- **No identity is listed twice after merging** exactly if principals that list it before agree on
their target. -/
theorem nodup_identities_resolve (system : String) (l : List Principal) :
    ((resolve l).flatMap fun p => identities system p.sources).Nodup ↔
      ∀ p ∈ l, ∀ q ∈ l, ∀ i ∈ identities system p.sources, i ∈ identities system q.sources →
        target? p = target? q := by
  rw [identities_resolve, List.nodup_flatMap]
  constructor
  · rintro ⟨-, hdisjoint⟩ p hp q hq i hip hiq
    have hsymm : Std.Symm (Function.onFun List.Disjoint fun target =>
        identities system (unite (group l target))) := ⟨fun _ _ h _ hi hi' => h hi' hi⟩
    by_contra hne
    exact hdisjoint.forall (mem_targets hp) (mem_targets hq) hne
      (mem_identities_group.2 ⟨p, hp, rfl, hip⟩) (mem_identities_group.2 ⟨q, hq, rfl, hiq⟩)
  · intro hagree
    refine ⟨fun target _ => nodup_identities (nodup_unite _), ?_⟩
    refine (nodup_targets l).imp fun {target target'} hne => List.disjoint_left.2 fun i hi hi' => ?_
    obtain ⟨p, hp, rfl, hip⟩ := mem_identities_group.1 hi
    obtain ⟨q, hq, rfl, hiq⟩ := mem_identities_group.1 hi'
    exact hne (hagree p hp q hq i hip hiq)

end PrincipalMerge

end Regrant
