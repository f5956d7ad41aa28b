import Mathlib.Data.List.Nodup
import Regrant.Principal.Index
import Regrant.Proofs.Run
import Regrant.Proofs.SortedMap

/-!
# Which principals can be indexed

Building an index goes through what principals list under the keys of its system (`listings`) and
inserts one identity after the other (`outcome_build`).  If the system knows all their kinds, this
succeeds exactly if no identity is listed twice (`exists_insertAll_iff`), and a failure names an
identity that is (`insertAll_eq_error`).  The index then holds what the principals list
(`get?_of_build`).
-/

namespace Regrant

/-! ### Keys -/

instance : Std.LawfulEqOrd IdentityKey where
  eq_of_compare := by
    rintro ⟨kind, name⟩ ⟨kind', name'⟩ h
    obtain ⟨hkind, hname⟩ := Ordering.then_eq_eq.1 h
    obtain rfl : kind = kind' := Std.LawfulEqOrd.eq_of_compare hkind
    obtain rfl : name = name' := Std.LawfulEqOrd.eq_of_compare hname
    rfl

namespace SourceKey

/-- A key is its system and its kind. -/
theorem eq_of_ofText? {key : String} {k : SourceKey} (h : ofText? key = some k) :
    key = k.system ++ "/" ++ k.kind := by
  rw [ofText?] at h
  split at h
  · rename_i kind hkind
    split at h
    · cases h
    · cases h
      apply String.toList_inj.1
      have hsplit := List.takeWhile_append_dropWhile (p := (· ≠ '/')) (l := key.toList)
      rw [hkind] at hsplit
      simpa using hsplit.symm
  · cases h

theorem ofText?_inj {key key' : String} {k : SourceKey} (h : ofText? key = some k)
    (h' : ofText? key' = some k) : key = key' := by
  rw [eq_of_ofText? h, eq_of_ofText? h']

end SourceKey

namespace PrincipalIndex

/-! ### What sources list -/

/-- An identity with the key under which it is listed. -/
structure Listing where
  key : String
  identity : IdentityKey

/-- What is listed under one key, if the key is one of the system. -/
def listingsUnder (system : String) (e : String × List String) : List Listing :=
  match SourceKey.ofText? e.1 with
  | none => []
  | some k => if k.system = system then e.2.map fun name => ⟨e.1, k.kind, name⟩ else []

/-- What is listed under the keys of a system, in order. -/
def listings (system : String) (s : Sources) : List Listing :=
  s.entries.flatMap (listingsUnder system)

/-- Insert identities with the principals that they resolve to, one after the other. -/
def insertAll (check : String → Except Failure Unit) :
    PrincipalIndex → List (Listing × Principal) → Except Failure PrincipalIndex
  | index, [] => .ok index
  | index, (x, p) :: rest => match check x.identity.kind with
    | .error e => .error e
    | .ok () =>
      if index.contains x.identity then
        .error (.duplicatePrincipal (x.key ++ "/" ++ x.identity.name))
      else insertAll check (index.insert x.identity p) rest

/-! ### Building inserts what is listed -/

variable {check : String → Except Failure Unit}

theorem insertAll_append (index : PrincipalIndex) (l l' : List (Listing × Principal)) :
    insertAll check index (l ++ l') = match insertAll check index l with
      | .ok index => insertAll check index l'
      | .error e => .error e := by
  induction l generalizing index with
  | nil => rfl
  | cons x l ih =>
    obtain ⟨x, p⟩ := x
    rw [List.cons_append, insertAll, insertAll]
    cases check x.identity.kind with
    | error e => rfl
    | ok _ =>
      by_cases h : index.contains x.identity = true
      · simp only [if_pos h]
      · simp only [if_neg h, ih]

theorem addNames_eq (p : Principal) (key kind : String) (index : PrincipalIndex)
    (names : List String) :
    addNames check p key kind index names =
      insertAll check index (names.map fun name => (⟨key, kind, name⟩, p)) := by
  induction names generalizing index with
  | nil => rfl
  | cons name names ih =>
    rw [addNames, List.map_cons, insertAll]
    cases check kind with
    | error e => rfl
    | ok _ => simp only [ih]

theorem outcome_addSources (system : String) (p : Principal) (index : PrincipalIndex)
    (es : List (String × List String)) :
    (addSources system check p index es).outcome =
      insertAll check index ((es.flatMap (listingsUnder system)).map (·, p)) := by
  induction es generalizing index with
  | nil => rfl
  | cons e es ih =>
    obtain ⟨key, names⟩ := e
    rw [List.flatMap_cons, List.map_append, insertAll_append, addSources, listingsUnder]
    cases SourceKey.ofText? key with
    | none => exact ih index
    | some k =>
      by_cases h : k.system = system
      · have hmap : (names.map fun name => (⟨key, k.kind, name⟩ : Listing)).map (·, p) =
            names.map fun name => (⟨key, k.kind, name⟩, p) := List.map_map
        simp only [if_pos h, Run.outcome_bind, Run.outcome_ofExcept, addNames_eq, hmap]
        cases insertAll check index (names.map fun name => (⟨key, k.kind, name⟩, p)) with
        | error e => rfl
        | ok index => exact ih index
      · simp only [if_neg h]
        exact ih index

/-- What principals list under the keys of a system, each with its principal. -/
def listed (system : String) (ps : List Principal) : List (Listing × Principal) :=
  ps.flatMap fun p => (listings system p.sources).map (·, p)

theorem outcome_addAll (system : String) (index : PrincipalIndex) (ps : List Principal) :
    (addAll system check index (ps.map .ok)).outcome =
      insertAll check index (listed system ps) := by
  induction ps generalizing index with
  | nil => rfl
  | cons p ps ih =>
    rw [List.map_cons, listed, List.flatMap_cons, insertAll_append, addAll, Run.outcome_bind,
      outcome_addSources, listings]
    cases insertAll check index ((p.sources.entries.flatMap (listingsUnder system)).map (·, p)) with
    | error e => rfl
    | ok index => exact ih index

/-- **Building an index** inserts what the principals list, in order. -/
theorem outcome_build (system : String) (ps : List Principal) :
    (build system check (Source.ofList ps)).outcome =
      insertAll check ∅ (listed system ps) := by
  rw [build, Run.outcome_bind]
  exact outcome_addAll system ∅ ps

/-! ### When this succeeds -/

theorem forall_get?_insert_iff {index : PrincipalIndex} {x : Listing} {p : Principal}
    {l : List (Listing × Principal)} :
    (∀ y ∈ l, (index.insert x.identity p).get? y.1.identity = none) ↔
      x.identity ∉ l.map (·.1.identity) ∧ ∀ y ∈ l, index.get? y.1.identity = none := by
  have hget : ∀ k, (index.insert x.identity p).get? k = none ↔
      k ≠ x.identity ∧ index.get? k = none := by
    intro k
    rw [SortedMap.insert, SortedMap.get?_alter]
    by_cases h : k = x.identity <;> simp [h]
  simp only [hget, List.mem_map, not_exists, not_and]
  exact forall₂_and

/-- What was inserted is found, besides what was there. -/
theorem get?_insertAll {index index' : PrincipalIndex} {l : List (Listing × Principal)}
    (h : insertAll check index l = .ok index') {i : IdentityKey} {p : Principal} :
    index'.get? i = some p ↔ index.get? i = some p ∨ ∃ x, (x, p) ∈ l ∧ x.identity = i := by
  induction l generalizing index with
  | nil =>
    cases h
    simp
  | cons x l ih =>
    obtain ⟨x, q⟩ := x
    rw [insertAll] at h
    split at h
    · cases h
    · split at h
      · cases h
      · rename_i hnew
        have hnone : index.get? x.identity = none := by simpa [SortedMap.contains] using hnew
        have hstep : (index.insert x.identity q).get? i = some p ↔
            index.get? i = some p ∨ (q = p ∧ x.identity = i) := by
          rw [SortedMap.insert, SortedMap.get?_alter]
          by_cases hi : i = x.identity
          · subst hi
            simp [hnone]
          · simp [hi, Ne.symm hi]
        rw [ih h, hstep, or_assoc]
        refine or_congr_right ?_
        constructor
        · rintro (⟨rfl, hi⟩ | ⟨y, hy, hi⟩)
          · exact ⟨x, List.mem_cons_self, hi⟩
          · exact ⟨y, List.mem_cons_of_mem _ hy, hi⟩
        · rintro ⟨y, hy, hi⟩
          rcases List.mem_cons.1 hy with hy | hy
          · cases hy
            exact Or.inl ⟨rfl, hi⟩
          · exact Or.inr ⟨y, hy, hi⟩

/-- **Identities of known kinds are inserted exactly if none of them comes twice.** -/
theorem exists_insertAll_iff {index : PrincipalIndex} {l : List (Listing × Principal)}
    (hkinds : ∀ x ∈ l, check x.1.identity.kind = .ok ()) :
    (∃ index', insertAll check index l = .ok index') ↔
      (l.map (·.1.identity)).Nodup ∧ ∀ x ∈ l, index.get? x.1.identity = none := by
  induction l generalizing index with
  | nil => simp [insertAll]
  | cons x l ih =>
    obtain ⟨x, p⟩ := x
    obtain ⟨hkind, hkinds⟩ := List.forall_mem_cons.1 hkinds
    simp only [insertAll, hkind]
    rw [List.map_cons, List.nodup_cons, List.forall_mem_cons]
    cases hget : index.get? x.identity with
    | some q => simp [SortedMap.contains, hget]
    | none =>
      rw [if_neg (by simp [SortedMap.contains, hget]), ih hkinds, forall_get?_insert_iff]
      constructor
      · rintro ⟨hnodup, hnot, hnone⟩
        exact ⟨⟨hnot, hnodup⟩, rfl, hnone⟩
      · rintro ⟨⟨hnot, hnodup⟩, -, hnone⟩
        exact ⟨hnodup, hnot, hnone⟩

theorem check_of_insertAll {index index' : PrincipalIndex} {l : List (Listing × Principal)}
    (h : insertAll check index l = .ok index') : ∀ x ∈ l, check x.1.identity.kind = .ok () := by
  induction l generalizing index with
  | nil => exact List.forall_mem_nil _
  | cons x l ih =>
    obtain ⟨x, p⟩ := x
    rw [insertAll] at h
    split at h
    · cases h
    · rename_i hkind
      split at h
      · cases h
      · exact List.forall_mem_cons.2 ⟨hkind, ih h⟩

/-- The order in which identities are inserted does not matter. -/
theorem insertAll_perm {index index' : PrincipalIndex} {l l' : List (Listing × Principal)}
    (hl : l.Perm l') (h : insertAll check index l = .ok index') :
    insertAll check index l' = .ok index' := by
  have hkinds := check_of_insertAll h
  have hkinds' : ∀ x ∈ l', check x.1.identity.kind = .ok () :=
    fun x hx => hkinds x (hl.mem_iff.2 hx)
  obtain ⟨hnodup, hnew⟩ := (exists_insertAll_iff hkinds).1 ⟨index', h⟩
  obtain ⟨index'', h'⟩ := (exists_insertAll_iff hkinds').2
    ⟨(hl.map _).nodup_iff.1 hnodup, fun x hx => hnew x (hl.mem_iff.2 hx)⟩
  have hsame : index' = index'' := by
    refine SortedMap.ext_get? fun i => Option.ext fun p => ?_
    rw [get?_insertAll h, get?_insertAll h']
    simp only [hl.mem_iff]
  rw [h', hsame]

theorem build_perm {system : String} {ps ps' : List Principal} {index : PrincipalIndex}
    (hps : ps.Perm ps') (h : (build system check (Source.ofList ps)).outcome = .ok index) :
    (build system check (Source.ofList ps')).outcome = .ok index := by
  rw [outcome_build] at h ⊢
  exact insertAll_perm (hps.flatMap_right _) h

/-- If identities of known kinds cannot be inserted, the failure names one that is there already. -/
theorem insertAll_eq_error {index : PrincipalIndex} {l : List (Listing × Principal)} {e : Failure}
    (hkinds : ∀ x ∈ l, check x.1.identity.kind = .ok ()) (h : insertAll check index l = .error e) :
    ∃ x ∈ l, e = .duplicatePrincipal (x.1.key ++ "/" ++ x.1.identity.name) := by
  induction l generalizing index with
  | nil => cases h
  | cons x l ih =>
    obtain ⟨x, p⟩ := x
    obtain ⟨hkind, hkinds⟩ := List.forall_mem_cons.1 hkinds
    simp only [insertAll, hkind] at h
    split at h
    · cases h
      exact ⟨(x, p), List.mem_cons_self, rfl⟩
    · obtain ⟨y, hy, he⟩ := ih hkinds h
      exact ⟨y, List.mem_cons_of_mem _ hy, he⟩

/-! ### Which identities are listed -/

/-- A name is among those under a key. -/
def HasName (s : Sources) (key name : String) : Prop :=
  ∃ names, s.get? key = some names ∧ name ∈ names

/-- The identities of a system that sources list. -/
def identities (system : String) (s : Sources) : List IdentityKey :=
  (listings system s).map (·.identity)

theorem map_identity_listed (system : String) (ps : List Principal) :
    (listed system ps).map (·.1.identity) = ps.flatMap fun p => identities system p.sources := by
  rw [listed, List.map_flatMap]
  refine List.flatMap_congr fun p _ => ?_
  rw [List.map_map, identities]
  rfl

theorem mem_listingsUnder {system : String} {e : String × List String} {x : Listing} :
    x ∈ listingsUnder system e ↔ x.key = e.1 ∧
      SourceKey.ofText? x.key = some ⟨system, x.identity.kind⟩ ∧ x.identity.name ∈ e.2 := by
  obtain ⟨key, names⟩ := e
  obtain ⟨key', kind, name⟩ := x
  rw [listingsUnder]
  cases hk : SourceKey.ofText? key with
  | none =>
    simp only [List.not_mem_nil, false_iff]
    rintro ⟨rfl, hk', -⟩
    rw [hk] at hk'
    cases hk'
  | some k =>
    obtain ⟨system', kind'⟩ := k
    by_cases h : system' = system
    · subst h
      simp only [if_true, List.mem_map, Listing.mk.injEq, IdentityKey.mk.injEq]
      constructor
      · rintro ⟨name, hname, rfl, rfl, rfl⟩
        exact ⟨rfl, hk, hname⟩
      · rintro ⟨rfl, hk', hname⟩
        rw [hk] at hk'
        cases hk'
        exact ⟨name, hname, rfl, rfl, rfl⟩
    · simp only [if_neg h, List.not_mem_nil, false_iff]
      rintro ⟨rfl, hk', -⟩
      rw [hk] at hk'
      cases hk'
      exact h rfl

theorem mem_listings {system : String} {s : Sources} {x : Listing} :
    x ∈ listings system s ↔ SourceKey.ofText? x.key = some ⟨system, x.identity.kind⟩ ∧
      HasName s x.key x.identity.name := by
  simp only [listings, List.mem_flatMap, mem_listingsUnder, HasName, SortedMap.get?_eq_some_iff]
  constructor
  · rintro ⟨⟨key, names⟩, he, rfl, hk, hname⟩
    exact ⟨hk, names, he, hname⟩
  · rintro ⟨hk, names, he, hname⟩
    exact ⟨(x.key, names), he, rfl, hk, hname⟩

theorem mem_identities {system : String} {s : Sources} {i : IdentityKey} :
    i ∈ identities system s ↔
      ∃ key, SourceKey.ofText? key = some ⟨system, i.kind⟩ ∧ HasName s key i.name := by
  simp only [identities, List.mem_map, mem_listings]
  constructor
  · rintro ⟨x, h, rfl⟩
    exact ⟨x.key, h⟩
  · rintro ⟨key, h⟩
    exact ⟨⟨key, i⟩, h, rfl⟩

/-- **An index holds what the principals list.** -/
theorem get?_of_build {system : String} {ps : List Principal} {index : PrincipalIndex}
    (h : (build system check (Source.ofList ps)).outcome = .ok index) {i : IdentityKey}
    {p : Principal} : index.get? i = some p ↔ p ∈ ps ∧ i ∈ identities system p.sources := by
  rw [outcome_build] at h
  rw [get?_insertAll h, SortedMap.get?_empty, listed]
  simp only [reduceCtorEq, false_or, List.mem_flatMap, List.mem_map, identities, Prod.mk.injEq]
  constructor
  · rintro ⟨_, ⟨q, hq, x, hx, rfl, rfl⟩, hi⟩
    exact ⟨hq, x, hx, hi⟩
  · rintro ⟨hp, x, hx, hi⟩
    exact ⟨x, ⟨p, hp, x, hx, rfl, rfl⟩, hi⟩

/-- Sources that list no name twice under one key list no identity twice. -/
theorem nodup_identities {system : String} {s : Sources} (h : ∀ e ∈ s.entries, e.2.Nodup) :
    (identities system s).Nodup := by
  rw [identities, listings, List.map_flatMap, List.nodup_flatMap]
  constructor
  · intro e he
    rw [listingsUnder]
    split
    · exact List.nodup_nil
    · split
      · rw [List.map_map]
        refine (h e he).map fun a b hab => ?_
        cases hab
        rfl
      · exact List.nodup_nil
  · -- Different keys of one system are of different kinds.
    refine s.sorted.imp fun {e e'} hlt => List.disjoint_left.2 fun i hi hi' => ?_
    obtain ⟨x, hx, rfl⟩ := List.mem_map.1 hi
    obtain ⟨x', hx', hsame⟩ := List.mem_map.1 hi'
    obtain ⟨hkey, hk, -⟩ := mem_listingsUnder.1 hx
    obtain ⟨hkey', hk', -⟩ := mem_listingsUnder.1 hx'
    rw [hsame] at hk'
    refine Ascending.ne_of_lt hlt ?_
    rw [← hkey, ← hkey', SourceKey.ofText?_inj hk hk']

end PrincipalIndex

end Regrant
