import Regrant.Proofs.Failures

/-!
# Identities that resolve to no principal

A mapper of Ranger policies fails if an identity that a policy names on a table resolves to no
principal, and this failure is fatal.  It looks at the identities one after the other, though, and
the first failure ends it.  So the run fails fatally exactly if the rules fail on none of the
bindings before the first such identity (`run_of_namesDangling`).  Otherwise it fails as the rules
do, which is not fatal.
-/

namespace Regrant.RangerMapper

variable {m : RangerMapper} {ts : List Table} {x y : Entry} {e : Failure}

/-! ### What ends a run -/

/-- The identity of an entry resolves to no principal. -/
def Dangles (m : RangerMapper) (x : Entry) : Prop :=
  m.principals.get? ⟨x.identity.type.key, x.identity.name⟩ = none

/-- What is said of an entry that dangles. -/
def dangling (m : RangerMapper) (x : Entry) : Failure :=
  .danglingPrincipal m.plugin.label x.policy.name x.identity.type.key x.identity.name

/-- The rules fail on the binding of an entry, or none of them applies to it. -/
def Rejects (m : RangerMapper) (x : Entry) (e : Failure) : Prop :=
  ∃ principal b, m.principals.get? ⟨x.identity.type.key, x.identity.name⟩ = some principal ∧
    m.binding? x principal = some b ∧
    m.judge.action (Candidate.of "ranger" x.site.table principal x.identity.toJson
      x.policy.toJson b) = .error e

theorem decision_eq_error_iff :
    m.decision x = .error e ↔ m.Dangles x ∧ e = m.dangling x ∨ m.Rejects x e := by
  rw [decision, Dangles, Rejects]
  cases m.principals.get? ⟨x.identity.type.key, x.identity.name⟩ with
  | none => simp [dangling, eq_comm]
  | some principal => cases h : m.binding? x principal <;> simp [h, exceptMap_eq_error_iff]

theorem Rejects.cases (h : m.Rejects x e) :
    e.fatal = false ∧ (e.IsEvaluation ∨ e = .noRuleMatch m.judge.system) := by
  obtain ⟨principal, b, -, -, h⟩ := h
  exact ⟨(Judge.ofData_of_action h).fatal_eq_false, Judge.error_of_action h⟩

/-! ### Tables without failures -/

/-- The tables can be read, and those on the target have a path in the file system. -/
def Readable (m : RangerMapper) (ts : List Table) : Prop :=
  m.tables = .ofList ts ∧
    ∀ t ∈ ts, ∀ path, m.target.path? t = some path → ∃ fsPath, t.fsPath = .ok fsPath

/-- A policy that covers one of the tables on the target has an item that names an identity that
resolves to no principal. -/
def NamesDangling (m : RangerMapper) (ts : List Table) : Prop :=
  ∃ t ∈ ts, ∃ path fsPath, m.target.path? t = some path ∧ t.fsPath = .ok fsPath ∧
    ∃ p ∈ m.policies, p.coverage.covers t fsPath ∧
      ∃ item ∈ p.policy.items, ∃ i ∈ item.identities,
        m.principals.get? ⟨i.type.key, i.name⟩ = none

theorem Readable.exists_entries (h : m.Readable ts) :
    ∃ xs : List Entry, m.entries = xs.map .ok := by
  rcases ok_or_first_error m.entries with hok | ⟨xs, e, rest, herror⟩
  · exact hok
  · have he : .error e ∈ m.entries := herror ▸ List.mem_append_right _ List.mem_cons_self
    rw [entries, h.1, Source.ofList] at he
    obtain ⟨_, hrecord, he⟩ := List.mem_flatMap.1 he
    obtain ⟨t, ht, rfl⟩ := List.mem_map.1 hrecord
    rw [entriesOf] at he
    split at he
    · cases he
    · rename_i path hpath
      obtain ⟨fsPath, hfsPath⟩ := h.2 t ht path hpath
      rw [hfsPath] at he
      obtain ⟨x, -, hx⟩ := List.mem_map.1 he
      cases hx

/-- What a policy names on a table is an entry. -/
theorem mem_entriesIn {s : Site} {p : Policy} {item : PolicyItem} {i : RangerIdentity}
    (hitem : item ∈ p.items) (hi : i ∈ item.identities) : ⟨s, p, item, i⟩ ∈ entriesIn s p := by
  refine List.mem_flatMap.2 ⟨item, hitem, ?_⟩
  have hmap := List.mem_map_of_mem (f := fun i => (⟨s, p, item, i⟩ : Entry)) hi
  rw [PolicyItem.identities, List.map_append, List.map_append, List.map_map, List.map_map,
    List.map_map] at hmap
  exact hmap

theorem NamesDangling.exists_entry (h : m.NamesDangling ts) (hreadable : m.Readable ts) :
    ∃ x, .ok x ∈ m.entries ∧ m.Dangles x := by
  obtain ⟨t, ht, path, fsPath, hpath, hfsPath, p, hp, hcovers, item, hitem, i, hi, hnone⟩ := h
  refine ⟨⟨⟨t, fsPath, path⟩, p.policy, item, i⟩, ?_, hnone⟩
  rw [entries, hreadable.1, Source.ofList]
  refine List.mem_flatMap.2 ⟨.ok t, List.mem_map_of_mem ht, ?_⟩
  rw [entriesOf, hpath, hfsPath]
  refine List.mem_map_of_mem (List.mem_flatMap.2 ⟨p, ?_, mem_entriesIn hitem hi⟩)
  exact List.mem_filter.2 ⟨hp, hcovers⟩

/-! ### The run -/

/-- A run ends at the first entry that dangles or that the rules reject. -/
theorem outcome_run_of_first {before after : List Entry}
    (hentries : m.entries = (before ++ x :: after).map .ok)
    (hresolve : ∀ y ∈ before, ¬ m.Dangles y) (happly : ∀ y ∈ before, ∀ e, ¬ m.Rejects y e)
    (hx : m.decision x = .error e) : m.run.outcome = .error e := by
  rw [outcome_run, hentries, List.map_map]
  refine gathered_map_eq_error (f := m.decision) (fun y hy e he => ?_) hx
  rcases decision_eq_error_iff.1 he with ⟨hdangles, -⟩ | hrejects
  · exact hresolve y hy hdangles
  · exact happly y hy e hrejects

/-- **A run fails if an identity resolves to no principal.**  It fails fatally, at the first such
identity, if the rules fail on no binding before it.  Otherwise the first binding on which they do
ends the run before: with an evaluation that fails, or because no rule applies.  That is not
fatal. -/
theorem run_of_namesDangling (hreadable : m.Readable ts) (h : m.NamesDangling ts) :
    ∃ before x after, m.entries = (before ++ x :: after).map .ok ∧
      (∀ y ∈ before, ¬ m.Dangles y) ∧ m.Dangles x ∧
      ((∀ y ∈ before, ∀ e, ¬ m.Rejects y e) ∧ m.run.outcome = .error (m.dangling x) ∧
          (m.dangling x).fatal = true ∨
        ∃ earlier y between e, before = earlier ++ y :: between ∧
          (∀ z ∈ earlier, ∀ e, ¬ m.Rejects z e) ∧ m.Rejects y e ∧
          m.run.outcome = .error e ∧ e.fatal = false ∧
          (e.IsEvaluation ∨ e = .noRuleMatch m.judge.system)) := by
  obtain ⟨xs, hentries⟩ := hreadable.exists_entries
  obtain ⟨x, hx, hdangles⟩ := h.exists_entry hreadable
  rw [hentries, List.mem_map_of_injective fun _ _ => Except.ok.inj] at hx
  obtain ⟨before, x, after, rfl, hbefore, hdangles⟩ := exists_first ⟨x, hx, hdangles⟩
  refine ⟨before, x, after, hentries, hbefore, hdangles, ?_⟩
  by_cases hrejects : ∃ y ∈ before, ∃ e, m.Rejects y e
  · obtain ⟨earlier, y, between, rfl, hearlier, e, hy⟩ := exists_first hrejects
    have happly : ∀ z ∈ earlier, ∀ e, ¬ m.Rejects z e := fun z hz e h => hearlier z hz ⟨e, h⟩
    have hsplit : m.entries = (earlier ++ y :: (between ++ x :: after)).map .ok := by
      rw [hentries, List.append_assoc, List.cons_append]
    refine Or.inr ⟨earlier, y, between, e, rfl, happly, hy, ?_, hy.cases⟩
    exact outcome_run_of_first hsplit (fun z hz => hbefore z (List.mem_append_left _ hz)) happly
      (decision_eq_error_iff.2 (Or.inr hy))
  · have happly : ∀ y ∈ before, ∀ e, ¬ m.Rejects y e := fun y hy e h => hrejects ⟨y, hy, e, h⟩
    exact Or.inl ⟨happly, outcome_run_of_first hentries hbefore happly
      (decision_eq_error_iff.2 (Or.inl ⟨hdangles, rfl⟩)), rfl⟩

/-- A policy for bob, to whom no rule applies, and for eve, who is not indexed. -/
def shadowedMapper : RangerMapper := { strayMapper with
  judge := ⟨"ranger", ⟨[⟨⟨"source_principal.name == 'nobody'",
    .binary .eq (.path "source_principal" ["name"]) (.literal (.text "nobody"))⟩,
    ⟨"false", .literal (.bool false)⟩, .skip⟩]⟩⟩
  principals := .ofList [(⟨"user", "bob"⟩, .mapped .user "bob@example.org" "ranger/user" "bob")]
  policies := [⟨0, { (default : Policy) with
    name := "readers", items := [⟨[⟨"select", true⟩], ["bob", "eve"], [], [], [], false⟩] },
    .names ["s"] ["*"]⟩] }

/-- The table of `strayMapper`. -/
def strayTables : List Table := [⟨"t", "s", "/t", none, some "p.s.t"⟩]

theorem readable_strayTables (hm : m.tables = .ofList strayTables) : m.Readable strayTables := by
  refine ⟨hm, fun t ht path _ => ?_⟩
  obtain rfl := List.mem_singleton.1 ht
  exact ⟨"/t", rfl⟩

theorem namesDangling_strayMapper : strayMapper.NamesDangling strayTables :=
  ⟨_, List.mem_singleton_self _, "p.s.t", "/t", rfl, rfl, _, List.mem_singleton_self _, rfl, _,
    List.mem_singleton_self _, ⟨.user, "bob"⟩, List.mem_singleton_self _, rfl⟩

theorem namesDangling_shadowedMapper : shadowedMapper.NamesDangling strayTables :=
  ⟨_, List.mem_singleton_self _, "p.s.t", "/t", rfl, rfl, _, List.mem_singleton_self _, rfl, _,
    List.mem_singleton_self _, ⟨.user, "eve"⟩, List.mem_cons_of_mem _ (List.mem_singleton_self _),
    rfl⟩

theorem outcome_shadowedMapper :
    shadowedMapper.run.outcome = .error (.noRuleMatch "ranger") := by rfl

/-- The run never comes to eve. -/
theorem not_dangling_shadowedMapper : ¬ ∀ (m : RangerMapper) (ts : List Table), m.Readable ts →
    m.NamesDangling ts → ∃ plugin policy kind name,
      m.run.outcome = .error (.danglingPrincipal plugin policy kind name) := by
  intro h
  obtain ⟨plugin, policy, kind, name, hrun⟩ :=
    h shadowedMapper strayTables (readable_strayTables rfl) namesDangling_shadowedMapper
  cases outcome_shadowedMapper.symm.trans hrun

/-- The run that comes to no rule fails fatally, the other one does not. -/
theorem run_of_namesDangling_stray :
    strayMapper.Readable strayTables ∧ strayMapper.NamesDangling strayTables ∧
    (∃ x, strayMapper.run.outcome = .error (strayMapper.dangling x)) ∧
    shadowedMapper.Readable strayTables ∧ shadowedMapper.NamesDangling strayTables ∧
    ∃ x, shadowedMapper.Rejects x (.noRuleMatch "ranger") := by
  have hstray := readable_strayTables (m := strayMapper) rfl
  have hshadowed := readable_strayTables (m := shadowedMapper) rfl
  refine ⟨hstray, namesDangling_strayMapper, ?_, hshadowed, namesDangling_shadowedMapper, ?_⟩
  · obtain ⟨-, x, -, -, -, -, ⟨-, h, -⟩ | ⟨-, y, -, e, -, -, ⟨principal, -, hsome, -⟩, -⟩⟩ :=
      run_of_namesDangling hstray namesDangling_strayMapper
    · exact ⟨x, h⟩
    · cases hsome
  · obtain ⟨-, x, -, -, -, -, ⟨-, h, -⟩ | ⟨-, y, -, e, -, -, hy, h, -⟩⟩ :=
      run_of_namesDangling hshadowed namesDangling_shadowedMapper
    · cases outcome_shadowedMapper.symm.trans h
    · cases outcome_shadowedMapper.symm.trans h
      exact ⟨y, hy⟩

end Regrant.RangerMapper
