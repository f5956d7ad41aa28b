import Regrant.Proofs.Principal.Merge

/-!
# What merging unites

The sources of a merged principal are the union of those of its group (`UnionOf`): the same keys,
and under each the same names, in order and without repeats.  There is one group for each target,
and one for the principals that go to none (`resolve_unites`).

So what is merged depends only on which targets there are and on what stands under the keys of each
group (`Alike`).  Merging keeps this, and the order of the principals does not matter for it
(`resolve_incremental`).
-/

namespace Regrant

open PrincipalIndex

/-- A principal that is not skipped and has a type and an address goes to this target. -/
structure Principal.GoesTo (p : Principal) (t : TargetIdentity) : Prop where
  skip : p.skip = false
  type : p.type = some t.type
  email : p.email = some t.email

/-- The sources of some principals together. -/
structure UnionOf (members : Principal → Prop) (s : Sources) : Prop where
  keys : ∀ key, key ∈ s.keys ↔ ∃ p, members p ∧ key ∈ p.sources.keys
  ascending : ∀ key names, s.get? key = some names → Ascending names
  names : ∀ key name, HasName s key name ↔ ∃ p, members p ∧ HasName p.sources key name

/-- There is only one union. -/
theorem UnionOf.unique {members : Principal → Prop} {s s' : Sources} (h : UnionOf members s)
    (h' : UnionOf members s') : s = s' := by
  have hdefined : ∀ key,
      (∃ names, s.get? key = some names) ↔ ∃ names, s'.get? key = some names := by
    intro key
    rw [← SortedMap.mem_keys_iff, ← SortedMap.mem_keys_iff, h.keys, h'.keys]
  refine SortedMap.ext_get? fun key => ?_
  cases hs : s.get? key with
  | none =>
    cases hs' : s'.get? key with
    | none => rfl
    | some names =>
      obtain ⟨names', hnames⟩ := (hdefined key).2 ⟨names, hs'⟩
      rw [hs] at hnames
      cases hnames
  | some names =>
    obtain ⟨names', hs'⟩ := (hdefined key).1 ⟨names, hs⟩
    have hmem : ∀ name, name ∈ names ↔ name ∈ names' := by
      intro name
      have hname := (h.names key name).trans (h'.names key name).symm
      simpa only [HasName, hs, hs', Option.some.injEq, exists_eq_left'] using hname
    rw [hs', (h.ascending key names hs).ext (h'.ascending key names' hs') hmem]

namespace PrincipalMerge

variable {l l' : List Principal} {p q : Principal} {t : TargetIdentity}

theorem target?_eq_some_iff : target? p = some t ↔ p.GoesTo t := by
  obtain ⟨skip, email, type, sources⟩ := p
  obtain ⟨type', email'⟩ := t
  rw [target?]
  constructor
  · intro h
    cases skip with
    | true => cases h
    | false =>
      cases type <;> cases email <;> cases h
      exact ⟨rfl, rfl, rfl⟩
  · rintro ⟨hskip, htype, hemail⟩
    cases hskip
    cases htype
    cases hemail
    rfl

theorem target?_eq_none_iff : target? p = none ↔ ∀ t, ¬ p.GoesTo t := by
  simp only [← target?_eq_some_iff]
  exact Option.eq_none_iff_forall_not_mem

/-! ### The union of a group -/

theorem mem_keys_gather {s : Sources} {es : List (String × List String)} {key : String} :
    key ∈ (gather s es).keys ↔ key ∈ s.keys ∨ key ∈ es.map (·.1) := by
  induction es generalizing s with
  | nil => simp [gather]
  | cons e es ih =>
    obtain ⟨key', names⟩ := e
    have hstep : key ∈ (s.alter key' fun old => old.getD [] ++ names).keys ↔
        key ∈ s.keys ∨ key = key' := by
      rw [SortedMap.mem_keys_iff, SortedMap.mem_keys_iff]
      simp only [SortedMap.get?_alter]
      by_cases h : key = key' <;> simp [h]
    rw [gather, ih, hstep, or_assoc, List.map_cons, List.mem_cons]

theorem mem_keys_unite {key : String} :
    key ∈ (unite l).keys ↔ ∃ p ∈ l, key ∈ p.sources.keys := by
  have hkeys : (unite l).keys = (gather ∅ (l.flatMap fun p => p.sources.entries)).keys := by
    rw [unite, SortedMap.keys, SortedMap.map, List.map_map]
    rfl
  have hempty : key ∉ (∅ : Sources).keys := List.not_mem_nil
  rw [hkeys, mem_keys_gather, or_iff_right hempty, List.map_flatMap, List.mem_flatMap]
  rfl

/-- The sources of a group are united. -/
theorem unionOf_unite (l : List Principal) : UnionOf (· ∈ l) (unite l) where
  keys _ := mem_keys_unite
  ascending key names h := by
    rw [unite, SortedMap.get?_map] at h
    obtain ⟨names', -, rfl⟩ := Option.map_eq_some_iff.1 h
    exact ascending_sortedDistinct names'
  names _ _ := hasName_unite

theorem isEmpty_unite_eq_false_iff :
    (unite l).isEmpty = false ↔ ∃ p ∈ l, ∃ key, key ∈ p.sources.keys := by
  have hkeys : (unite l).isEmpty = false ↔ ∃ key, key ∈ (unite l).keys := by
    rw [SortedMap.isEmpty, ← List.isEmpty_map (f := Prod.fst),
      List.isEmpty_eq_false_iff_exists_mem]
    rfl
  simp only [hkeys, mem_keys_unite]
  constructor
  · rintro ⟨key, p, hp, hkey⟩
    exact ⟨p, hp, key, hkey⟩
  · rintro ⟨p, hp, key, hkey⟩
    exact ⟨key, p, hp, hkey⟩

/-! ### The groups -/

theorem mem_group_some : p ∈ group l (some t) ↔ p ∈ l ∧ p.GoesTo t := by
  rw [group, List.mem_filter, decide_eq_true_iff, target?_eq_some_iff]

theorem mem_group_none : p ∈ group l none ↔ p ∈ l ∧ ∀ t, ¬ p.GoesTo t := by
  rw [group, List.mem_filter, decide_eq_true_iff, target?_eq_none_iff]

theorem mem_targets_iff : t ∈ sortedDistinct (l.filterMap target?) ↔ ∃ p ∈ l, p.GoesTo t := by
  simp only [mem_sortedDistinct, List.mem_filterMap, target?_eq_some_iff]

/-- There is a skipped principal exactly if one that goes nowhere has a key. -/
theorem skipped_eq (l : List Principal) :
    ((∃ p ∈ l, ∃ key, key ∈ p.sources.keys) ∧ skipped l = [⟨true, none, none, unite l⟩]) ∨
      (¬ (∃ p ∈ l, ∃ key, key ∈ p.sources.keys) ∧ skipped l = []) := by
  rw [← isEmpty_unite_eq_false_iff, skipped]
  cases (unite l).isEmpty with
  | false => exact Or.inl ⟨rfl, rfl⟩
  | true => exact Or.inr ⟨Bool.noConfusion, rfl⟩

theorem mapped_mem_resolve (h : ∃ p ∈ l, p.GoesTo t) : mapped t (group l (some t)) ∈ resolve l := by
  rw [resolve_eq]
  exact List.mem_append_left _ (List.mem_map_of_mem (mem_targets_iff.2 h))

theorem exists_goesTo_of_mem_resolve (hq : q ∈ resolve l) (h : q.GoesTo t) :
    ∃ p ∈ l, p.GoesTo t := by
  rw [resolve_eq] at hq
  rcases List.mem_append.1 hq with hq | hq
  · obtain ⟨t', ht', rfl⟩ := List.mem_map.1 hq
    have hsame : target? (mapped t' (group l (some t'))) = some t' := rfl
    rw [target?_eq_some_iff.2 h] at hsame
    obtain rfl := Option.some.inj hsame
    exact mem_targets_iff.1 ht'
  · rcases skipped_eq (group l none) with ⟨-, heq⟩ | ⟨-, heq⟩
    · rw [heq] at hq
      obtain rfl := List.mem_singleton.1 hq
      cases h.skip
    · rw [heq] at hq
      cases hq

section

variable {target : Option TargetIdentity} {key name : String}

theorem sources_of_mem_group_resolve (h : q ∈ group (resolve l) target) :
    q.sources = unite (group l target) := by
  obtain ⟨hq, htarget⟩ := List.mem_filter.1 h
  rw [← of_decide_eq_true htarget]
  exact (settled_of_mem_resolve hq).2

/-- A group with a key is not lost. -/
theorem exists_mem_group_resolve (hp : p ∈ group l target) (hkey : key ∈ p.sources.keys) :
    ∃ q, q ∈ group (resolve l) target := by
  cases target with
  | some t =>
    have hex : ∃ p ∈ l, p.GoesTo t := ⟨p, mem_group_some.1 hp⟩
    exact ⟨_, mem_group_some.2 ⟨mapped_mem_resolve hex, rfl, rfl, rfl⟩⟩
  | none =>
    have hex : ∃ p ∈ group l none, ∃ key, key ∈ p.sources.keys := ⟨p, hp, key, hkey⟩
    rcases skipped_eq (group l none) with ⟨-, heq⟩ | ⟨hnot, -⟩
    · refine ⟨⟨true, none, none, unite (group l none)⟩, List.mem_filter.2 ⟨?_, rfl⟩⟩
      rw [resolve_eq, heq]
      exact List.mem_append_right _ (List.mem_singleton_self _)
    · exact absurd hex hnot

theorem exists_mem_group_resolve_iff : (∃ q ∈ group (resolve l) target, key ∈ q.sources.keys) ↔
    ∃ p ∈ group l target, key ∈ p.sources.keys := by
  rw [← mem_keys_unite (l := group l target)]
  constructor
  · rintro ⟨q, hq, hkey⟩
    rwa [sources_of_mem_group_resolve hq] at hkey
  · intro hkey
    obtain ⟨p, hp, hpkey⟩ := mem_keys_unite.1 hkey
    obtain ⟨q, hq⟩ := exists_mem_group_resolve hp hpkey
    exact ⟨q, hq, by rwa [sources_of_mem_group_resolve hq]⟩

theorem exists_hasName_group_resolve_iff :
    (∃ q ∈ group (resolve l) target, HasName q.sources key name) ↔
      ∃ p ∈ group l target, HasName p.sources key name := by
  rw [← hasName_unite (l := group l target)]
  constructor
  · rintro ⟨q, hq, hname⟩
    rwa [sources_of_mem_group_resolve hq] at hname
  · intro hname
    obtain ⟨p, hp, names, hget, -⟩ := hasName_unite.1 hname
    obtain ⟨q, hq⟩ := exists_mem_group_resolve hp (SortedMap.mem_keys_iff.2 ⟨names, hget⟩)
    exact ⟨q, hq, by rwa [sources_of_mem_group_resolve hq]⟩

end

/-- Every principal is in the group of its target. -/
theorem exists_iff_exists_group {P : Principal → Prop} :
    (∃ p ∈ l, P p) ↔ ∃ target, ∃ p ∈ group l target, P p := by
  constructor
  · rintro ⟨p, hp, h⟩
    exact ⟨target? p, p, List.mem_filter.2 ⟨hp, decide_eq_true rfl⟩, h⟩
  · rintro ⟨target, p, hp, h⟩
    exact ⟨p, List.mem_of_mem_filter hp, h⟩

/-- Targets come by the name of their type and then by address. -/
theorem compare_eq_lt_iff {t t' : TargetIdentity} : compare t t' = .lt ↔
    t.type.name < t'.type.name ∨ t.type.name = t'.type.name ∧ t.email < t'.email := by
  have htext : ∀ a b : String, compare a b = .lt ↔ a < b := fun _ _ => compareOfLessAndEq_eq_lt
  show (compare t.type.name t'.type.name).then (compare t.email t'.email) = .lt ↔ _
  rw [Ordering.then_eq_lt, htext, htext, Std.LawfulEqCmp.compare_eq_iff_eq]

/-- **Merging unites the principals of each target, and those that go to none.**  First, by the
name of the type and then by address, there is one principal for each target, with the sources of
all that go to it.  If one of the others has a key at all, there is one skipped principal at last,
with the sources of all others.  No name is lost and none is added. -/
theorem resolve_unites (l : List Principal) :
    ∃ (ts : List TargetIdentity) (entries rest : List Principal), resolve l = entries ++ rest ∧
      ts.Pairwise (fun t t' =>
        t.type.name < t'.type.name ∨ t.type.name = t'.type.name ∧ t.email < t'.email) ∧
      (∀ t, t ∈ ts ↔ ∃ p ∈ l, p.GoesTo t) ∧
      List.Forall₂ (fun t q => q.GoesTo t ∧ UnionOf (fun p => p ∈ l ∧ p.GoesTo t) q.sources)
        ts entries ∧
      (((∃ p ∈ l, (∀ t, ¬ p.GoesTo t) ∧ ∃ key, key ∈ p.sources.keys) ∧
          ∃ q, rest = [q] ∧ q.skip = true ∧ q.type = none ∧ q.email = none ∧
            UnionOf (fun p => p ∈ l ∧ ∀ t, ¬ p.GoesTo t) q.sources) ∨
        (¬ (∃ p ∈ l, (∀ t, ¬ p.GoesTo t) ∧ ∃ key, key ∈ p.sources.keys) ∧ rest = [])) ∧
      ∀ key name, (∃ q ∈ resolve l, HasName q.sources key name) ↔
        ∃ p ∈ l, HasName p.sources key name := by
  have hsome : ∀ t, UnionOf (fun p => p ∈ l ∧ p.GoesTo t) (unite (group l (some t))) := by
    intro t
    simp only [← mem_group_some]
    exact unionOf_unite _
  have hnone : UnionOf (fun p => p ∈ l ∧ ∀ t, ¬ p.GoesTo t) (unite (group l none)) := by
    simp only [← mem_group_none]
    exact unionOf_unite _
  have hkeys : (∃ p ∈ group l none, ∃ key, key ∈ p.sources.keys) ↔
      ∃ p ∈ l, (∀ t, ¬ p.GoesTo t) ∧ ∃ key, key ∈ p.sources.keys := by
    simp only [mem_group_none, and_assoc]
  refine ⟨_, _, _, resolve_eq l, ?_, fun t => mem_targets_iff, ?_, ?_, ?_⟩
  · exact (ascending_sortedDistinct _).imp compare_eq_lt_iff.1
  · rw [List.forall₂_map_right_iff, List.forall₂_same]
    exact fun t _ => ⟨⟨rfl, rfl, rfl⟩, hsome t⟩
  · rw [← hkeys]
    exact (skipped_eq (group l none)).imp_left fun ⟨hex, heq⟩ =>
      ⟨hex, _, heq, rfl, rfl, rfl, hnone⟩
  · intro key name
    rw [exists_iff_exists_group, exists_iff_exists_group]
    exact exists_congr fun target => exists_hasName_group_resolve_iff

/-! ### What merging depends on -/

/-- Two lists of principals have the same targets, and their groups have the same keys and names. -/
structure Alike (l l' : List Principal) : Prop where
  targets : ∀ t, (∃ p ∈ l, p.GoesTo t) ↔ ∃ p ∈ l', p.GoesTo t
  keys : ∀ target key, (∃ p ∈ group l target, key ∈ p.sources.keys) ↔
    ∃ p ∈ group l' target, key ∈ p.sources.keys
  names : ∀ target key name, (∃ p ∈ group l target, HasName p.sources key name) ↔
    ∃ p ∈ group l' target, HasName p.sources key name

theorem unite_congr
    (hkeys : ∀ key, (∃ p ∈ l, key ∈ p.sources.keys) ↔ ∃ p ∈ l', key ∈ p.sources.keys)
    (hnames : ∀ key name, (∃ p ∈ l, HasName p.sources key name) ↔
      ∃ p ∈ l', HasName p.sources key name) : unite l = unite l' := by
  have h := unionOf_unite l
  have h' : UnionOf (· ∈ l') (unite l) :=
    ⟨fun key => (h.keys key).trans (hkeys key), h.ascending,
      fun key name => (h.names key name).trans (hnames key name)⟩
  exact h'.unique (unionOf_unite l')

theorem resolve_congr (h : Alike l l') : resolve l = resolve l' := by
  have hunite : ∀ target, unite (group l target) = unite (group l' target) := fun target =>
    unite_congr (h.keys target) (h.names target)
  have htargets : sortedDistinct (l.filterMap target?) = sortedDistinct (l'.filterMap target?) := by
    refine (ascending_sortedDistinct _).ext (ascending_sortedDistinct _) fun t => ?_
    rw [mem_targets_iff, mem_targets_iff, h.targets]
  rw [resolve_eq, resolve_eq, htargets]
  simp only [mapped, skipped, hunite]

/-- Merging keeps targets, keys and names. -/
theorem alike_resolve (l : List Principal) : Alike (resolve l) l where
  targets t := by
    constructor
    · rintro ⟨q, hq, h⟩
      exact exists_goesTo_of_mem_resolve hq h
    · intro h
      exact ⟨_, mapped_mem_resolve h, rfl, rfl, rfl⟩
  keys _ _ := exists_mem_group_resolve_iff
  names _ _ _ := exists_hasName_group_resolve_iff

theorem exists_mem_append {α : Type} {a b : List α} {P : α → Prop} :
    (∃ x ∈ a ++ b, P x) ↔ (∃ x ∈ a, P x) ∨ ∃ x ∈ b, P x := by
  simp only [List.mem_append, or_and_right, exists_or]

theorem Alike.append {a a' b b' : List Principal} (ha : Alike a a') (hb : Alike b b') :
    Alike (a ++ b) (a' ++ b') where
  targets t := by
    rw [exists_mem_append, exists_mem_append, ha.targets, hb.targets]
  keys target key := by
    rw [group, group, List.filter_append, List.filter_append, exists_mem_append, exists_mem_append]
    exact or_congr (ha.keys target key) (hb.keys target key)
  names target key name := by
    rw [group, group, List.filter_append, List.filter_append, exists_mem_append, exists_mem_append]
    exact or_congr (ha.names target key name) (hb.names target key name)

theorem alike_of_perm (h : l.Perm l') : Alike l l' where
  targets _ := by simp only [h.mem_iff]
  keys target _ := by simp only [group, (h.filter _).mem_iff]
  names target _ _ := by simp only [group, (h.filter _).mem_iff]

/-- **Merging in stages is merging at once, in whatever order.** -/
theorem resolve_incremental (a b : List Principal) :
    resolve (resolve a ++ resolve b) = resolve (a ++ b) ∧
      ∀ l, (a ++ b).Perm l → resolve l = resolve (a ++ b) :=
  ⟨resolve_congr ((alike_resolve a).append (alike_resolve b)),
    fun _ h => (resolve_congr (alike_of_perm h)).symm⟩

/-- A user as two mappers know her, the second with a key that has no names, and one who is
skipped. -/
def annTwice : List Principal :=
  [.mapped .user "ann@example.org" "ranger/user" "ann", .skipped "hdfs/user" "root",
    ⟨false, some "ann@example.org", some .user,
      .ofList [("hdfs/group", []), ("hdfs/user", ["anna", "ann", "ann"])]⟩]

theorem resolve_incremental_annTwice : annTwice.Perm annTwice.reverse ∧
    resolve annTwice.reverse = resolve annTwice ∧
    (resolve annTwice).map (fun p => (p.identity?, p.sources.entries)) =
      [(some "user:ann@example.org", [("hdfs/group", []), ("hdfs/user", ["ann", "anna"]),
        ("ranger/user", ["ann"])]), (none, [("hdfs/user", ["root"])])] := by
  have hperm : annTwice.Perm annTwice.reverse := (List.reverse_perm annTwice).symm
  exact ⟨hperm, (resolve_incremental (annTwice.take 1) (annTwice.drop 1)).2 _ hperm, by decide⟩

end PrincipalMerge

end Regrant
