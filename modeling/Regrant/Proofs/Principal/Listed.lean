import Mathlib.Data.Set.Card
import Regrant.Binding.Ranger
import Regrant.Proofs.Principal.Index

/-!
# What an index holds

A key of sources splits at its first slash into a system and a kind (`SourceKey.Splits`), so all
names of one kind stand under one key (`filter_identities`).  What can go wrong when an index is
built, and what it holds then, depends on these names only: keys of other systems and keys that do
not split are passed over (`insertAll_eq_error_iff`), and the latter are reported
(`reports_build`).  `build_holds_listed` puts this together.
-/

namespace Regrant

/-! ### Keys that split -/

namespace SourceKey

/-- The first slash of a key separates a system and a kind, neither of which is empty. -/
structure Splits (key system kind : String) : Prop where
  joined : key = system ++ "/" ++ kind
  first : '/' ∉ system.toList
  system_ne : system ≠ ""
  kind_ne : kind ≠ ""

variable {key system kind : String}

/-- A key is read exactly if it splits. -/
theorem ofText?_eq_some_iff : ofText? key = some ⟨system, kind⟩ ↔ Splits key system kind := by
  constructor
  · intro h
    have hjoined : key = system ++ "/" ++ kind := eq_of_ofText? h
    rw [ofText?] at h
    split at h
    · split at h
      · cases h
      · rename_i hne
        cases h
        rw [Bool.or_eq_true, not_or, List.isEmpty_iff, List.isEmpty_iff] at hne
        refine ⟨hjoined, fun hmem => ?_, fun he => hne.1 ?_, fun he => hne.2 ?_⟩
        · rw [String.toList_ofList] at hmem
          simpa using List.all_eq_true.1 List.all_takeWhile _ hmem
        · simpa using congrArg String.toList he
        · simpa using congrArg String.toList he
    · cases h
  · rintro ⟨rfl, hfirst, hsystem, hkind⟩
    have hpass : ∀ c ∈ system.toList, decide (c ≠ '/') = true := by
      intro c hc
      exact decide_eq_true fun h => hfirst (h ▸ hc)
    have htoList : (system ++ "/" ++ kind).toList = system.toList ++ '/' :: kind.toList := by simp
    rw [ofText?, htoList, List.takeWhile_append_of_pos hpass, List.dropWhile_append_of_pos hpass,
      List.takeWhile_cons_of_neg (by simp), List.dropWhile_cons_of_neg (by simp), List.append_nil]
    simp [hsystem, hkind]

/-- No system and kind can be read off the key. -/
def Malformed (key : String) : Prop := ∀ system kind, ¬ Splits key system kind

theorem ofText?_eq_none_iff : ofText? key = none ↔ Malformed key := by
  simp only [Malformed, ← ofText?_eq_some_iff]
  cases ofText? key with
  | none => simp
  | some k => exact iff_of_false nofun fun h => h k.system k.kind rfl

instance : DecidablePred Malformed := fun _ => decidable_of_iff _ ofText?_eq_none_iff

end SourceKey

open SourceKey PrincipalIndex

/-- A principal lists an identity of a system: its name is among those under the key of its kind. -/
def Principal.Lists (p : Principal) (system : String) (i : IdentityKey) : Prop :=
  ∃ key, Splits key system i.kind ∧ HasName p.sources key i.name

namespace PrincipalIndex

variable {system : String} {check : String → Except Failure Unit} {ps ps' : List Principal}
  {index index' : PrincipalIndex}

/-- The names that principals list under a key, one after the other. -/
def namesUnder (key : String) (ps : List Principal) : List String :=
  ps.flatMap fun p => (p.sources.get? key).getD []

theorem mem_identities_iff_lists {p : Principal} {i : IdentityKey} :
    i ∈ identities system p.sources ↔ p.Lists system i := by
  simp only [mem_identities, Principal.Lists, ofText?_eq_some_iff]

/-! ### The names of a kind -/

theorem flatMap_filter {α β : Type} {p : α → Bool} {f : α → List β}
    (h : ∀ a, p a = false → f a = []) (l : List α) : (l.filter p).flatMap f = l.flatMap f := by
  induction l with
  | nil => rfl
  | cons a l ih =>
    cases ha : p a with
    | true =>
      rw [List.filter_cons_of_pos ha, List.flatMap_cons, List.flatMap_cons, ih]
    | false =>
      rw [List.filter_cons_of_neg (Bool.eq_false_iff.1 ha), List.flatMap_cons, h a ha, ih,
        List.nil_append]

section

variable {key kind : String}

/-- What is listed under a key is of its kind, and nothing else is of this kind. -/
theorem filter_listingsUnder (h : Splits key system kind) (e : String × List String) :
    ((listingsUnder system e).map (·.identity)).filter (·.kind = kind) =
      if e.1 = key then e.2.map (IdentityKey.mk kind) else [] := by
  obtain ⟨key', names⟩ := e
  by_cases hkey : key' = key
  · subst hkey
    have hmap : (listingsUnder system (key', names)).map (·.identity) =
        names.map (IdentityKey.mk kind) := by
      simp [listingsUnder, ofText?_eq_some_iff.2 h]
    rw [hmap, if_pos rfl, List.filter_eq_self]
    intro i hi
    obtain ⟨name, -, rfl⟩ := List.mem_map.1 hi
    exact decide_eq_true rfl
  · rw [if_neg hkey, List.filter_eq_nil_iff]
    intro i hi hkind
    obtain ⟨x, hx, rfl⟩ := List.mem_map.1 hi
    obtain ⟨hxkey, hk, -⟩ := mem_listingsUnder.1 hx
    rw [of_decide_eq_true hkind] at hk
    exact hkey (hxkey.symm.trans (ofText?_inj hk (ofText?_eq_some_iff.2 h)))

/-- All names of one kind stand under one key. -/
theorem filter_identities (h : Splits key system kind) (s : Sources) :
    (identities system s).filter (·.kind = kind) =
      ((s.get? key).getD []).map (IdentityKey.mk kind) := by
  rw [identities, listings, List.map_flatMap, List.filter_flatMap]
  simp only [filter_listingsUnder h]
  have hother : ∀ e : String × List String, decide (e.1 = key) = false →
      (if e.1 = key then e.2.map (IdentityKey.mk kind) else []) = [] :=
    fun e he => if_neg (of_decide_eq_false he)
  rw [← flatMap_filter hother, SortedMap.filter_key_eq s.ascending_keys.nodup]
  show (((s.get? key).map (key, ·)).toList.flatMap fun e => _) = _
  cases s.get? key <;> simp

theorem filter_identities_flatMap (h : Splits key system kind) (ps : List Principal) :
    (ps.flatMap fun p => identities system p.sources).filter (·.kind = kind) =
      (namesUnder key ps).map (IdentityKey.mk kind) := by
  rw [List.filter_flatMap, namesUnder, List.map_flatMap]
  exact List.flatMap_congr fun p _ => filter_identities h p.sources

end

/-- No identity is listed twice if no name stands twice under its key. -/
theorem nodup_identities_iff :
    (ps.flatMap fun p => identities system p.sources).Nodup ↔
      ∀ key kind, Splits key system kind → (namesUnder key ps).Nodup := by
  have hinj : ∀ kind, Function.Injective (IdentityKey.mk kind) := fun _ _ _ h =>
    (IdentityKey.mk.inj h).2
  constructor
  · intro hnodup key kind hkey
    rw [← List.nodup_map_iff (hinj kind), ← filter_identities_flatMap hkey]
    exact hnodup.filter _
  · intro hnodup
    rw [List.nodup_iff_count_le_one]
    intro i
    by_cases hi : i ∈ ps.flatMap fun p => identities system p.sources
    · obtain ⟨p, -, hip⟩ := List.mem_flatMap.1 hi
      obtain ⟨key, hkey, -⟩ := mem_identities_iff_lists.1 hip
      have hfilter := (List.nodup_map_iff (hinj i.kind)).2 (hnodup key i.kind hkey)
      rw [← filter_identities_flatMap hkey] at hfilter
      rw [← List.count_filter (p := (·.kind = i.kind)) (decide_eq_true rfl)]
      exact List.nodup_iff_count_le_one.1 hfilter i
    · rw [List.count_eq_zero_of_not_mem hi]
      exact Nat.zero_le 1

/-- The kinds of what is listed are those under whose keys there are names. -/
theorem forall_check_iff :
    (∀ x ∈ listed system ps, check x.1.identity.kind = .ok ()) ↔
      ∀ key kind, Splits key system kind → namesUnder key ps ≠ [] → check kind = .ok () := by
  have hlisted : (∀ x ∈ listed system ps, check x.1.identity.kind = .ok ()) ↔
      ∀ i ∈ ps.flatMap fun p => identities system p.sources, check i.kind = .ok () := by
    rw [← map_identity_listed, List.forall_mem_map]
  rw [hlisted]
  constructor
  · intro hcheck key kind hkey hne
    obtain ⟨name, hname⟩ := List.exists_mem_of_ne_nil _ hne
    have hmem := List.mem_map_of_mem (f := IdentityKey.mk kind) hname
    rw [← filter_identities_flatMap hkey] at hmem
    exact hcheck ⟨kind, name⟩ (List.mem_of_mem_filter hmem)
  · intro hcheck i hi
    obtain ⟨p, -, hip⟩ := List.mem_flatMap.1 hi
    obtain ⟨key, hkey, -⟩ := mem_identities_iff_lists.1 hip
    refine hcheck key i.kind hkey fun hnil => ?_
    have hmem : i ∈ (ps.flatMap fun p => identities system p.sources).filter (·.kind = i.kind) :=
      List.mem_filter.2 ⟨hi, decide_eq_true rfl⟩
    rw [filter_identities_flatMap hkey, hnil] at hmem
    cases hmem

theorem exists_build_iff :
    (∃ index, (build system check (Source.ofList ps)).outcome = .ok index) ↔
      ∀ key kind, Splits key system kind →
        (namesUnder key ps ≠ [] → check kind = .ok ()) ∧ (namesUnder key ps).Nodup := by
  have hbuild : (∃ index, (build system check (Source.ofList ps)).outcome = .ok index) ↔
      (∀ x ∈ listed system ps, check x.1.identity.kind = .ok ()) ∧
        (ps.flatMap fun p => identities system p.sources).Nodup := by
    rw [outcome_build, ← map_identity_listed]
    constructor
    · rintro ⟨index, h⟩
      have hkinds := check_of_insertAll h
      exact ⟨hkinds, ((exists_insertAll_iff hkinds).1 ⟨index, h⟩).1⟩
    · rintro ⟨hkinds, hnodup⟩
      exact (exists_insertAll_iff hkinds).2 ⟨hnodup, fun _ _ => SortedMap.get?_empty _⟩
  rw [hbuild, forall_check_iff, nodup_identities_iff]
  simp only [imp_and, forall_and]

/-! ### What is found -/

/-- The principal that is found is the only one that lists the identity. -/
theorem get?_of_build_iff
    (h : (build system check (Source.ofList ps)).outcome = .ok index) {i : IdentityKey}
    {p : Principal} : index.get? i = some p ↔
      ∃ before after, ps = before ++ p :: after ∧ p.Lists system i ∧
        ∀ q ∈ before ++ after, ¬ q.Lists system i := by
  rw [get?_of_build h, mem_identities_iff_lists]
  constructor
  · rintro ⟨hp, hi⟩
    obtain ⟨before, after, rfl⟩ := List.append_of_mem hp
    have hnodup := nodup_identities_iff.2 fun key kind hkey =>
      (exists_build_iff.1 ⟨index, h⟩ key kind hkey).2
    obtain ⟨-, hdisjoint⟩ := List.nodup_flatMap.1 hnodup
    obtain ⟨-, hafter, hbefore⟩ := List.pairwise_append.1 hdisjoint
    refine ⟨before, after, rfl, hi, fun q hq hiq => ?_⟩
    rw [← mem_identities_iff_lists] at hi hiq
    rcases List.mem_append.1 hq with hq | hq
    · exact hbefore q hq p List.mem_cons_self hiq hi
    · exact (List.pairwise_cons.1 hafter).1 q hq hi hiq
  · rintro ⟨before, after, rfl, hi, -⟩
    exact ⟨List.mem_append_right _ List.mem_cons_self, hi⟩

theorem size_of_build (h : (build system check (Source.ofList ps)).outcome = .ok index) :
    index.size = {i | ∃ p ∈ ps, p.Lists system i}.ncard := by
  have hkeys : {i | ∃ p ∈ ps, p.Lists system i} = (index.keys.toFinset : Set IdentityKey) := by
    ext i
    simp only [Set.mem_ofPred_eq, List.coe_toFinset, SortedMap.mem_keys_iff, get?_of_build h,
      mem_identities_iff_lists]
  rw [hkeys, Set.ncard_coe_finset, List.toFinset_card_of_nodup index.ascending_keys.nodup,
    SortedMap.keys, List.length_map, SortedMap.size]

/-! ### What does not matter -/

/-- Two lists of principals that list the same under the keys of a system, one by one. -/
def SameListed (system : String) (ps ps' : List Principal) : Prop :=
  List.Forall₂ (fun p p' => ∀ key kind, Splits key system kind →
    p.sources.get? key = p'.sources.get? key) ps ps'

theorem listings_congr {s s' : Sources}
    (h : ∀ key kind, Splits key system kind → s.get? key = s'.get? key) :
    listings system s = listings system s' := by
  -- The entries whose keys are of the system, to the others of which nothing is due.
  let own : String × List String → Bool := fun e => (ofText? e.1).any (·.system = system)
  have hown : ∀ {e}, own e = true ↔ ∃ kind, Splits e.1 system kind := by
    intro e
    simp only [own, Option.any_eq_true, decide_eq_true_iff, ← ofText?_eq_some_iff]
    constructor
    · rintro ⟨k, hk, rfl⟩
      exact ⟨k.kind, hk⟩
    · rintro ⟨kind, hk⟩
      exact ⟨_, hk, rfl⟩
  have hother : ∀ e, own e = false → listingsUnder system e = [] := by
    intro e he
    refine List.eq_nil_iff_forall_not_mem.2 fun x hx => ?_
    obtain ⟨hkey, hk, -⟩ := mem_listingsUnder.1 hx
    rw [hkey] at hk
    exact Bool.eq_false_iff.1 he (hown.2 ⟨_, ofText?_eq_some_iff.1 hk⟩)
  rw [listings, listings, ← flatMap_filter hother s.entries, ← flatMap_filter hother s'.entries]
  congr 1
  have hascending : ∀ s : Sources, Ascending ((s.entries.filter own).map (·.1)) := fun s =>
    s.ascending_keys.sublist (List.filter_sublist.map _)
  refine (hascending s).eq_of_mem_iff (hascending s') fun e => ?_
  rw [List.mem_filter, List.mem_filter]
  refine and_congr_left fun he => ?_
  obtain ⟨kind, hkey⟩ := hown.1 he
  rw [← SortedMap.get?_eq_some_iff, ← SortedMap.get?_eq_some_iff, h e.1 kind hkey]

theorem map_fst_listed (h : SameListed system ps ps') :
    (listed system ps).map (·.1) = (listed system ps').map (·.1) := by
  have hmap : ∀ ps : List Principal,
      (listed system ps).map (·.1) = ps.flatMap fun p => listings system p.sources := by
    intro ps
    rw [listed, List.map_flatMap]
    refine List.flatMap_congr fun p _ => ?_
    rw [List.map_map]
    exact List.map_id _
  rw [hmap, hmap]
  induction h with
  | nil => rfl
  | cons hp _ ih => rw [List.flatMap_cons, List.flatMap_cons, ih, listings_congr hp]

/-- Which failure there is depends on what is inserted only, not on the principals. -/
theorem insertAll_eq_error_iff {l l' : List (Listing × Principal)}
    (hl : l.map (·.1) = l'.map (·.1)) (hindex : ∀ i, index.contains i = index'.contains i)
    {e : Failure} :
    insertAll check index l = .error e ↔ insertAll check index' l' = .error e := by
  induction l generalizing l' index index' with
  | nil =>
    obtain rfl := List.map_eq_nil_iff.1 hl.symm
    exact iff_of_false nofun nofun
  | cons x l ih =>
    obtain ⟨x, p⟩ := x
    obtain ⟨⟨y, q⟩, l', rfl, hxy, hrest⟩ := List.map_eq_cons_iff.1 hl.symm
    obtain rfl : y = x := hxy
    rw [insertAll, insertAll]
    cases check y.identity.kind with
    | error e' => rfl
    | ok _ =>
      have hstep : ∀ i, (index.insert y.identity p).contains i =
          (index'.insert y.identity q).contains i := by
        intro i
        rw [SortedMap.contains, SortedMap.contains, SortedMap.insert, SortedMap.insert,
          SortedMap.get?_alter, SortedMap.get?_alter]
        split
        · rfl
        · exact hindex i
      simp only [hindex y.identity]
      split
      · rfl
      · exact ih hrest.symm hstep

/-- Which failure there is depends on what stands under the keys of the system. -/
theorem build_eq_error_iff (h : SameListed system ps ps') {e : Failure} :
    (build system check (Source.ofList ps')).outcome = .error e ↔
      (build system check (Source.ofList ps)).outcome = .error e := by
  rw [outcome_build, outcome_build]
  exact insertAll_eq_error_iff (map_fst_listed h).symm fun _ => rfl

/-! ### What is reported -/

/-- The keys of principals that do not split, one principal after the other. -/
def malformedKeys (ps : List Principal) : List String :=
  ps.flatMap fun p => p.sources.keys.filter (Malformed ·)

theorem reports_addSources (p : Principal) (index : PrincipalIndex)
    (es : List (String × List String)) :
    (addSources system check p index es).Reports
      (((es.map (·.1)).filter (Malformed ·)).map .malformedSourceKey) := by
  induction es generalizing index with
  | nil => exact ⟨List.prefix_refl [], fun _ _ => rfl⟩
  | cons e es ih =>
    obtain ⟨key, names⟩ := e
    rw [addSources, List.map_cons]
    cases hk : ofText? key with
    | none =>
      rw [List.filter_cons, if_pos (decide_eq_true (ofText?_eq_none_iff.1 hk)), List.map_cons]
      have hreport : (Run.report (.malformedSourceKey key)).Reports [.malformedSourceKey key] :=
        ⟨List.prefix_refl _, fun _ _ => rfl⟩
      exact hreport.bind fun _ _ => ih index
    | some k =>
      have hwell : ¬ Malformed key := by
        rw [← ofText?_eq_none_iff, hk]
        exact Option.some_ne_none k
      rw [List.filter_cons, if_neg (by simpa using hwell)]
      simp only
      split
      · exact (Run.reports_ofExcept _).bind fun index' _ => ih index'
      · exact ih index

theorem reports_addAll (index : PrincipalIndex) (ps : List Principal) :
    (addAll system check index (ps.map .ok)).Reports
      ((malformedKeys ps).map .malformedSourceKey) := by
  induction ps generalizing index with
  | nil => exact ⟨List.prefix_refl [], fun _ _ => rfl⟩
  | cons p ps ih =>
    rw [List.map_cons, addAll, malformedKeys, List.flatMap_cons, List.map_append]
    exact (reports_addSources p index _).bind fun index' _ => ih index'

/-- Building an index reports the keys that do not split, and nothing else. -/
theorem reports_build (system : String) (check : String → Except Failure Unit)
    (ps : List Principal) :
    (build system check (Source.ofList ps)).Reports
      ((malformedKeys ps).map .malformedSourceKey) :=
  (Run.reports_ofExcept _).bind fun records hrecords => by
    cases hrecords
    exact reports_addAll ∅ ps

/-- **An index holds what is listed under the keys of its system.**  It can be built exactly if the
kinds under whose keys there are names are known and no name stands twice under its key.  It then
finds the one principal that lists an identity, it has as many entries as identities are listed, and
the keys that do not split have been reported, one after the other.  Other keys matter for nothing:
a failure is the same for all principals that list the same under the keys of the system. -/
theorem build_holds_listed (system : String) (check : String → Except Failure Unit)
    (ps : List Principal) :
    ((∃ index, (build system check (Source.ofList ps)).outcome = .ok index) ↔
      ∀ key kind, Splits key system kind →
        (namesUnder key ps ≠ [] → check kind = .ok ()) ∧ (namesUnder key ps).Nodup) ∧
    (∀ index, (build system check (Source.ofList ps)).outcome = .ok index →
      (∀ i p, index.get? i = some p ↔
        ∃ before after, ps = before ++ p :: after ∧ p.Lists system i ∧
          ∀ q ∈ before ++ after, ¬ q.Lists system i) ∧
      index.size = {i | ∃ p ∈ ps, p.Lists system i}.ncard ∧
      (build system check (Source.ofList ps)).notices =
        (malformedKeys ps).map .malformedSourceKey) ∧
    (build system check (Source.ofList ps)).notices <+:
      (malformedKeys ps).map .malformedSourceKey ∧
    ∀ ps', SameListed system ps ps' → ∀ e,
      (build system check (Source.ofList ps')).outcome = .error e ↔
        (build system check (Source.ofList ps)).outcome = .error e := by
  have hreports := reports_build system check ps
  refine ⟨exists_build_iff, fun index hindex => ?_, hreports.first,
    fun ps' hsame e => build_eq_error_iff hsame⟩
  exact ⟨fun i p => get?_of_build_iff hindex, size_of_build hindex, hreports.all index hindex⟩

/-- A user of Ranger with two names, and what concerns nobody in Ranger. -/
def annPrincipal : Principal :=
  ⟨false, some "ann@example.org", some .user,
    .ofList [("hdfs/user", ["root"]), ("oops", ["ann"]), ("ranger/user", ["ann", "anna"])]⟩

/-- The same user without the rest. -/
def annOfRanger : Principal :=
  ⟨false, some "ann@example.org", some .user, .ofList [("ranger/user", ["ann", "anna"])]⟩

theorem sameListed_ann :
    SameListed "ranger" [annOfRanger, annOfRanger] [annPrincipal, annPrincipal] := by
  have hget : ∀ key kind, Splits key "ranger" kind →
      annOfRanger.sources.get? key = annPrincipal.sources.get? key := by
    intro key kind h
    have hne : ∀ other, ofText? other ≠ some ⟨"ranger", kind⟩ → key ≠ other :=
      fun other hother he => hother (he ▸ ofText?_eq_some_iff.2 h)
    have hoops : key ≠ "oops" := hne _ (by
      rw [show ofText? "oops" = none by decide]
      nofun)
    have hhdfs : key ≠ "hdfs/user" := hne _ (by
      rw [show ofText? "hdfs/user" = some ⟨"hdfs", "user"⟩ by decide]
      simp)
    simp [annOfRanger, annPrincipal, SortedMap.get?_ofList, SortedMap.lookup_cons, hoops, hhdfs]
  exact .cons hget (.cons hget .nil)

theorem build_holds_listed_ann :
    (∃ index, (RangerMapper.index (Source.ofList [annPrincipal])).outcome = .ok index ∧
      index.get? ⟨"user", "anna"⟩ = some annPrincipal ∧
      index.size = {i | ∃ p ∈ [annPrincipal], p.Lists "ranger" i}.ncard ∧
      (RangerMapper.index (Source.ofList [annPrincipal])).notices =
        [.malformedSourceKey "oops"]) ∧
    SameListed "ranger" [annOfRanger, annOfRanger] [annPrincipal, annPrincipal] ∧
    (RangerMapper.index (Source.ofList [annPrincipal, annPrincipal])).outcome =
      .error (.duplicatePrincipal "ranger/user/ann") := by
  obtain ⟨-, hholds, -, -⟩ := build_holds_listed "ranger"
    (fun kind => (RangerKind.ofKey kind).map (fun _ => ())) [annPrincipal]
  obtain ⟨-, -, -, hsame⟩ := build_holds_listed "ranger"
    (fun kind => (RangerKind.ofKey kind).map (fun _ => ())) [annOfRanger, annOfRanger]
  obtain ⟨index, hindex⟩ :
      ∃ index, (RangerMapper.index (Source.ofList [annPrincipal])).outcome = .ok index :=
    ⟨_, by rfl⟩
  obtain ⟨hget, hsize, hnotices⟩ := hholds index hindex
  refine ⟨⟨index, hindex, (hget _ _).2 ⟨[], [], rfl, ?_, by simp⟩, hsize, ?_⟩, sameListed_ann,
    (hsame _ sameListed_ann _).2 (by rfl)⟩
  · refine ⟨"ranger/user", ofText?_eq_some_iff.1 (by decide), ["ann", "anna"], by rfl, by simp⟩
  · exact hnotices.trans (by rfl)

end PrincipalIndex

end Regrant
