import Regrant.Proofs.Mapping.Built
import Regrant.Proofs.Path.Recursion

/-!
# What a Ranger policy covers

A policy of Hive covers a table by its names, and a policy of HDFS by its path (`Grants`).  A mapper
finds what its policies cover once, before it runs, and then looks it up by the number of a policy.
A policy that covers nothing, or that is for something else, keeps its number like any other, so what
a policy covers is a matter of the policy alone, wherever it stands (`coverages_exact`).
-/

namespace Regrant

/-! ### Policies that grant on a table -/

/-- The name is listed, or all names are. -/
def Lists (values : List String) (name : String) : Prop := "*" ∈ values ∨ name ∈ values

/-- A policy of Hive for accesses grants on the database of a table, and on the table itself unless
it says nothing of tables. -/
structure Policy.GrantsByName (p : Policy) (t : Table) : Prop where
  serviceType : p.serviceType = some "hive"
  type : p.type = some 0
  database : ∃ r, p.resource? "database" = some r ∧ Lists r.values t.schema
  table : ∀ r, p.resource? "table" = some r → Lists r.values t.name

/-- A policy of HDFS lists a pattern that matches a path, or that a path lies below where the
patterns are recursive. -/
def Policy.GrantsByPath (p : Policy) (path : String) : Prop :=
  ∃ r, p.resource? "path" = some r ∧ ∃ pattern ∈ r.values,
    ∃ q ∈ (if r.recursive then PathPattern.expansions pattern.toList else [pattern.toList]),
      PathPattern.Globs q path.toList

theorem Coverage.listed_iff {values : List String} {name : String} :
    listed values name = true ↔ Lists values name := by
  simp only [listed, Lists, List.any_eq_true, Bool.or_eq_true, decide_eq_true_eq]
  constructor
  · rintro ⟨v, hv, rfl | rfl⟩
    · exact Or.inl hv
    · exact Or.inr hv
  · rintro (h | h)
    · exact ⟨_, h, Or.inl rfl⟩
    · exact ⟨_, h, Or.inr rfl⟩

namespace RangerPlugin

variable {g : RangerPlugin} {p : Policy} {ps : List Policy} {cs : List Coverage} {t : Table}
  {fsPath : String}

/-- The policy grants on a table whose files lie under a path. -/
def Grants (g : RangerPlugin) (p : Policy) (t : Table) (fsPath : String) : Prop :=
  match g with
  | hive => p.GrantsByName t
  | hdfs => p.GrantsByPath fsPath

/-- Where nothing is said of tables, all of them are listed. -/
theorem lists_tableNames_iff {name : String} : Lists (tableNames p) name ↔
    ∀ r, p.resource? "table" = some r → Lists r.values name := by
  rw [tableNames]
  cases p.resource? "table" with
  | none => simp [Lists]
  | some tables => simp

theorem covers_extent_hive :
    (hive.extent p).covers t fsPath = true ↔ p.GrantsByName t := by
  rw [extent]
  split
  · rename_i htype
    cases hdatabase : p.resource? "database" with
    | none =>
      refine iff_of_false Bool.false_ne_true fun h => ?_
      obtain ⟨r, hr, -⟩ := h.database
      cases hdatabase.symm.trans hr
    | some databases =>
      simp only [Coverage.covers, Bool.and_eq_true, Coverage.listed_iff, lists_tableNames_iff]
      constructor
      · rintro ⟨hschema, hname⟩
        exact ⟨htype.1, htype.2, ⟨databases, hdatabase, hschema⟩, hname⟩
      · rintro ⟨-, -, ⟨r, hr, hschema⟩, hname⟩
        cases hdatabase.symm.trans hr
        exact ⟨hschema, hname⟩
  · rename_i htype
    exact iff_of_false Bool.false_ne_true fun h => htype ⟨h.serviceType, h.type⟩

theorem matchesPath_ofText_iff {pattern path : String} {recursive : Bool} :
    (PathPattern.ofText pattern recursive).matchesPath path = true ↔
      ∃ q ∈ (if recursive then PathPattern.expansions pattern.toList else [pattern.toList]),
        PathPattern.Globs q path.toList := by
  cases recursive with
  | true => exact PathPattern.matchesPath_iff_expansions
  | false => simp [PathPattern.matchesPath_iff]

theorem covers_extent_hdfs :
    (hdfs.extent p).covers t fsPath = true ↔ p.GrantsByPath fsPath := by
  rw [extent, Policy.GrantsByPath]
  cases p.resource? "path" with
  | none => simp [Coverage.covers]
  | some r => simp [Coverage.covers, matchesPath_ofText_iff]

theorem covers_extent_iff : (g.extent p).covers t fsPath = true ↔ g.Grants p t fsPath := by
  cases g with
  | hive => exact covers_extent_hive
  | hdfs => exact covers_extent_hdfs

/-! ### Policies by their numbers -/

/-- What is found at a number covers a table. -/
def coversAt (cs : List Coverage) (i : Nat) (t : Table) (fsPath : String) : Bool :=
  cs[i]?.any (·.covers t fsPath)

theorem coversAt_map_iff {i : Nat} : coversAt (ps.map g.extent) i t fsPath = true ↔
    ∃ p, ps[i]? = some p ∧ g.Grants p t fsPath := by
  rw [coversAt, List.getElem?_map]
  cases ps[i]? with
  | none => simp
  | some p => simp [covers_extent_iff]

/-- A policy and what it covers stand at the same place. -/
theorem getElem?_number (ps : List Policy) (i : Nat) :
    (RangerMapper.number ps (ps.map g.extent))[i]? = ps[i]?.map fun p => ⟨i, p, g.extent p⟩ := by
  rw [RangerMapper.number, List.getElem?_map, List.getElem?_zipIdx, ← List.map_prod_left_eq_zip,
    List.getElem?_map]
  cases ps[i]? <;> simp

/-- **What a policy covers depends on the policy alone.**  What is found at a number covers exactly
the tables that the policy with this number grants on, whatever the other policies are: so it is the
same wherever a policy stands in whichever list.  The policies that a mapper goes through are all of
them, each with what is found at its number. -/
theorem coverages_exact (h : (g.coverages ps).outcome = .ok cs) :
    (∀ i t fsPath, coversAt cs i t fsPath = true ↔
      ∃ p, ps[i]? = some p ∧ g.Grants p t fsPath) ∧
    (∀ ps' cs', (g.coverages ps').outcome = .ok cs' → ∀ i j, ps[i]? = ps'[j]? →
      ∀ t fsPath, coversAt cs i t fsPath = coversAt cs' j t fsPath) ∧
    (RangerMapper.number ps cs).map (·.policy) = ps ∧
    ∀ n ∈ RangerMapper.number ps cs, ps[n.index]? = some n.policy ∧
      ∀ t fsPath, n.coverage.covers t fsPath = coversAt cs n.index t fsPath := by
  obtain rfl := Except.ok.inj ((outcome_coverages g ps).symm.trans h)
  refine ⟨fun i t fsPath => coversAt_map_iff, fun ps' cs' h' i j hij t fsPath => ?_, ?_,
    fun n hn => ?_⟩
  · obtain rfl := Except.ok.inj ((outcome_coverages g ps').symm.trans h')
    rw [Bool.eq_iff_iff, coversAt_map_iff, coversAt_map_iff, hij]
  · refine List.ext_getElem? fun i => ?_
    rw [List.getElem?_map, getElem?_number, Option.map_map]
    exact congrFun Option.map_id _
  · obtain ⟨i, hi⟩ := List.mem_iff_getElem?.1 hn
    rw [getElem?_number] at hi
    obtain ⟨p, hp, rfl⟩ := Option.map_eq_some_iff.1 hi
    refine ⟨hp, fun t fsPath => ?_⟩
    rw [coversAt, List.getElem?_map, hp]
    rfl

/-- A policy of Hive for accesses to the tables of one database. -/
def readersPolicy : Policy := { (default : Policy) with
  name := "readers"
  serviceType := some "hive"
  type := some 0
  resources := some (.ofList [("database", ⟨["s"], false, false⟩)]) }

/-- The policy stands behind one that masks and one that names no database. -/
def mixedPolicies : List Policy :=
  [{ readersPolicy with type := some 1 }, { readersPolicy with resources := none }, readersPolicy]

theorem coverages_exact_readersPolicy :
    ∃ cs cs', (hive.coverages mixedPolicies).outcome = .ok cs ∧
      (hive.coverages [readersPolicy]).outcome = .ok cs' ∧
      mixedPolicies[2]? = [readersPolicy][0]? ∧
      coversAt cs 2 ⟨"t", "s", "/t", none, none⟩ "/t" = true ∧
      coversAt cs' 0 ⟨"t", "s", "/t", none, none⟩ "/t" = true ∧
      coversAt cs 0 ⟨"t", "s", "/t", none, none⟩ "/t" = false := by
  have h := outcome_coverages hive mixedPolicies
  have h' := outcome_coverages hive [readersPolicy]
  obtain ⟨hcovers, hsame, -⟩ := coverages_exact h
  have hgrants : readersPolicy.GrantsByName ⟨"t", "s", "/t", none, none⟩ :=
    ⟨rfl, rfl, ⟨_, rfl, Or.inr (List.mem_singleton_self _)⟩, fun r hr => by cases hr⟩
  have hmasks : ¬ coversAt (mixedPolicies.map hive.extent) 0 ⟨"t", "s", "/t", none, none⟩ "/t" =
      true := by
    rw [hcovers]
    rintro ⟨p, hp, hgrants⟩
    cases hp
    cases hgrants.type
  have hfound := (hcovers 2 ⟨"t", "s", "/t", none, none⟩ "/t").2 ⟨readersPolicy, rfl, hgrants⟩
  refine ⟨_, _, h, h', rfl, hfound, ?_, Bool.eq_false_iff.2 hmasks⟩
  exact (hsame _ _ h' 2 0 rfl _ _).symm.trans hfound

end RangerPlugin

end Regrant
