import Regrant.Proofs.Build
import Regrant.Proofs.Mapping.Built
import Regrant.Proofs.Mapping.Proposed

/-!
# Builds for one target

The mappers of a target propose bindings on resources of its type, and the merge never compares
bindings on different resources.  Folders of the one target come before tables of the other in all
that is planned, collected and sorted.  So a build for both targets is a build for the one and a
build for the other, one after the other (`compute_of_targets`).
-/

namespace Regrant

/-! ### Merging what lies apart -/

namespace Merge

theorem unite_append {κ : Type} [Ord κ] [Std.TransOrd κ] [Std.LawfulEqOrd κ] [DecidableEq κ]
    {key : IamBinding → κ} {l l' : List IamBinding}
    (h : ∀ a ∈ l, ∀ b ∈ l', compare (key a) (key b) = .lt) :
    unite key (l ++ l') = unite key l ++ unite key l' := by
  rw [unite, values_groupBy_append h, List.filterMap_append]
  rfl

variable {cs ds : List IamBinding}

/-- **Candidates on resources of different types are merged apart.** -/
theorem resolve_append_of_lt (book : RoleBook)
    (h : ∀ c ∈ cs, ∀ d ∈ ds, compare c.type d.type = .lt) :
    (resolve book (cs ++ ds)).2 = (resolve book cs).2 ++ (resolve book ds).2 := by
  have hresource : ∀ c ∈ cs, ∀ d ∈ ds, compare c.resource d.resource = .lt := by
    intro c hc d hd
    show (compare c.type d.type).then (compare c.path d.path) = .lt
    rw [h c hc d hd]
    rfl
  have hdecided : decided book (cs ++ ds) = decided book cs ++ decided book ds := by
    rw [decided, values_groupBy_append hresource, List.flatMap_append]
    rfl
  rw [resolve_eq, resolve_eq, resolve_eq, hdecided]
  refine unite_append fun b hb b' hb' => ?_
  obtain ⟨c, hc, -, hbc, -⟩ := origin_of_mem_decided hb
  obtain ⟨d, hd, -, hbd, -⟩ := origin_of_mem_decided hb'
  have htype : compare b.type b'.type = .lt := by
    rw [show b.type = c.type from congrArg ResourceKey.type hbc,
      show b'.type = d.type from congrArg ResourceKey.type hbd]
    exact h c hc d hd
  show (compare b.type b'.type).then _ = .lt
  rw [htype]
  rfl

end Merge

/-! ### Rulesets for one target -/

namespace PermissionsRuleset

/-- Only the rules for a target, and what is to become of roles. -/
def only (r : PermissionsRuleset) : Target → PermissionsRuleset
  | .gcs => { r with bq := none }
  | .bq => { r with gcs := none }

@[simp] theorem roles_only (r : PermissionsRuleset) (target : Target) :
    (r.only target).roles = r.roles := by
  cases target <;> rfl

theorem list_only (r : PermissionsRuleset) (target : Target) (x : Slot) :
    (r.only target).list x = if x.target = target then r.list x else none := by
  obtain ⟨target', origin⟩ := x
  cases target <;> cases target' <;> rfl

end PermissionsRuleset

namespace Build

variable {t t' : FileTree} {s s' : Settings} {ruleset : PermissionsRuleset} {target : Target}

/-- The places of the mappers for a target. -/
def slotsOf (target : Target) : List Slot := slots.filter (·.target = target)

theorem slots_eq : slots = slotsOf .gcs ++ slotsOf .bq := rfl

/-- With the rules for a target only the mappers for this target are planned. -/
theorem SameInputs.gathered_only (h : SameInputs t t' s s') (ruleset : PermissionsRuleset)
    (target : Target) : gathered (slots.map (planned t' s' (ruleset.only target))) =
      gathered ((slotsOf target).map (planned t s ruleset)) := by
  rw [slotsOf, ← gathered_map_ite]
  congr 1
  refine List.map_congr_left fun x _ => ?_
  by_cases hx : x.target = target
  · rw [if_pos hx]
    exact h.planned_congr (by rw [PermissionsRuleset.list_only, if_pos hx])
  · rw [if_neg hx]
    exact planned_of_list_eq_none (by rw [PermissionsRuleset.list_only, if_neg hx])

/-- What is constructed at a place is a mapper of one system for its target. -/
theorem exists_systemMapper_of_construction {x : Slot} {rules : List Rule} {r : Run BindingMapper}
    (hr : construction t s x rules = some r) {m : BindingMapper} (hm : r.outcome = .ok m) :
    ∃ m' : SystemMapper, m'.toMapper = m ∧ m'.target = x.target := by
  have hranger : ∀ plugin, (rangerMapper t s x.target plugin rules).outcome = .ok m →
      ∃ m' : SystemMapper, m'.toMapper = m ∧ m'.target = x.target := by
    intro plugin h
    obtain ⟨m', hbuild, hm⟩ := Run.bind_eq_ok_iff.1 h
    cases hm
    obtain ⟨_, _, _, _, -, -, -, -, rfl⟩ := RangerMapper.build_eq_ok_iff.1 hbuild
    exact ⟨.ranger _, rfl, rfl⟩
  rw [construction] at hr
  split at hr
  · cases hr
    exact hranger .hive hm
  · cases hr
    exact hranger .hdfs hm
  · obtain ⟨dump, -, rfl⟩ := Option.map_eq_some_iff.1 hr
    obtain ⟨m', hbuild, hm⟩ := Run.bind_eq_ok_iff.1 hm
    cases hm
    obtain ⟨_, _, -, -, rfl⟩ := HdfsMapper.build_eq_ok_iff.1 hbuild
    exact ⟨.hdfs _, rfl, rfl⟩

theorem exists_systemMapper_of_planned {x : Slot} {m : BindingMapper}
    (h : planned t s ruleset x = .ok (some m)) :
    ∃ m' : SystemMapper, m'.toMapper = m ∧ m'.target = x.target := by
  rw [planned] at h
  cases hx : mapperAt t s ruleset x with
  | none =>
    rw [hx] at h
    cases h
  | some r =>
    obtain ⟨rules, -, hr⟩ := Option.bind_eq_some_iff.1 hx
    rw [hx, confinedMapper, confined_eq_ok_some_iff] at h
    exact exists_systemMapper_of_construction hr h

/-- What the mappers of a target map is on resources of its type. -/
theorem type_of_collected {ms : List BindingMapper} {cs : List IamBinding}
    (hms : gathered ((slotsOf target).map (planned t s ruleset)) = .ok ms)
    (hcs : (Merge.collect ms).outcome = .ok cs) :
    ∀ c ∈ cs, c.type = target.resourceType := by
  intro c hc
  obtain ⟨m, hm, hmaps⟩ := (Merge.mem_collect_iff hcs).1 hc
  obtain ⟨x, hx, hplanned⟩ := exists_of_mem_gathered hms hm
  obtain ⟨m', rfl, htarget⟩ := exists_systemMapper_of_planned hplanned
  rw [(SystemMapper.isProposed_of_maps hmaps).type, htarget,
    of_decide_eq_true (List.mem_filter.1 hx).2]

/-- **Targets are independent.**  If a build succeeds with the rules for folders only, and a build
succeeds with the rules for tables only, then a build with all rules on the same inputs succeeds, and
has the bindings of the one and then those of the other. -/
theorem compute_of_targets {t t₁ t₂ : FileTree} {s s₁ s₂ : Settings} {ruleset : PermissionsRuleset}
    (h₁ : SameInputs t t₁ s s₁) (h₂ : SameInputs t t₂ s s₂)
    (hruleset : Input.permissionsRuleset t s.inputs.permissionsRuleset = .ok ruleset)
    (hruleset₁ : Input.permissionsRuleset t₁ s₁.inputs.permissionsRuleset =
      .ok (ruleset.only .gcs))
    (hruleset₂ : Input.permissionsRuleset t₂ s₂.inputs.permissionsRuleset =
      .ok (ruleset.only .bq))
    {bs₁ bs₂ : List IamBinding} (hbs₁ : (compute t₁ s₁).outcome = .ok bs₁)
    (hbs₂ : (compute t₂ s₂).outcome = .ok bs₂) :
    (compute t s).outcome = .ok (bs₁ ++ bs₂) := by
  obtain ⟨ms₁, hms₁, hrun₁⟩ := (compute_eq_ok_iff hruleset₁).1 hbs₁
  obtain ⟨ms₂, hms₂, hrun₂⟩ := (compute_eq_ok_iff hruleset₂).1 hbs₂
  rw [h₁.gathered_only] at hms₁
  rw [h₂.gathered_only] at hms₂
  rw [PermissionsRuleset.roles_only] at hrun₁ hrun₂
  obtain ⟨hne, cs₁, hcs₁, rfl⟩ := Merge.run_eq_ok_iff.1 hrun₁
  obtain ⟨-, cs₂, hcs₂, rfl⟩ := Merge.run_eq_ok_iff.1 hrun₂
  have hms : gathered (slots.map (planned t s ruleset)) = .ok (ms₁ ++ ms₂) := by
    rw [slots_eq, List.map_append, gathered_append, hms₁, hms₂]
    rfl
  refine (compute_eq_ok_iff hruleset).2 ⟨_, hms, Merge.run_eq_ok_iff.2 ⟨by simp [hne], cs₁ ++ cs₂,
    Merge.outcome_collect_append hcs₁ hcs₂, ?_⟩⟩
  refine Merge.resolve_append_of_lt _ fun c hc d hd => ?_
  rw [type_of_collected hms₁ hcs₁ c hc, type_of_collected hms₂ hcs₂ d hd]
  rfl

/-- One row for one table, which was migrated to both targets. -/
def splitTree : FileTree where
  entries := .ofList [
    (["both.yaml"], .file
      "bq:\n  hdfs_rules:\n  - when: true\ngcs:\n  hdfs_rules:\n  - when: true\n".toUTF8),
    (["bq.yaml"], .file "bq:\n  hdfs_rules:\n  - when: true\n".toUTF8),
    (["gcs.yaml"], .file "gcs:\n  hdfs_rules:\n  - when: true\n".toUTF8),
    (["hdfs.csv"], .file "Path,Owner,Group,Permission\n/t,bob,staff,r--------\n".toUTF8),
    (["principals.yaml"], .file ("principals:\n- action: map\n  type: user\n" ++
      "  email_address: bob@example.org\n  sources:\n    hdfs/user: bob\n").toUTF8),
    (["tables"], .directory),
    (["tables", "t.yaml"], .file ("target_name: p.s.t\nsource_locations:\n- /t\n" ++
      "target_locations:\n- gs://b/t\n").toUTF8)]
  working := []

/-- The rule that maps everything, for the rows of the dump. -/
def rowRules : TargetRuleset := ⟨some [⟨"true", "false", false, none⟩], none, none⟩

def isRowRules : TargetRuleset → Bool
  | ⟨some [⟨condition, log, false, none⟩], none, none⟩ => condition = "true" && log = "false"
  | _ => false

theorem eq_rowRules {r : TargetRuleset} (h : isRowRules r = true) : r = rowRules := by
  unfold isRowRules at h
  split at h
  · simp only [Bool.and_eq_true, decide_eq_true_eq] at h
    obtain ⟨rfl, rfl⟩ := h
    rfl
  · cases h

/-- The targets for which a ruleset has these rules, if it has no others and leaves roles alone. -/
def rowTargets? (r : PermissionsRuleset) : Option (List Target) :=
  if r.roles.isEmpty && r.gcs.all isRowRules && r.bq.all isRowRules then
    some ((r.gcs.map fun _ => .gcs).toList ++ (r.bq.map fun _ => .bq).toList)
  else none

theorem eq_of_rowTargets? {r : PermissionsRuleset} {targets : List Target}
    (h : rowTargets? r = some targets) :
    r = ⟨if .gcs ∈ targets then some rowRules else none,
      if .bq ∈ targets then some rowRules else none, ∅⟩ := by
  obtain ⟨gcs, bq, roles⟩ := r
  simp only [rowTargets?] at h
  split at h
  · rename_i hrules
    simp only [Bool.and_eq_true] at hrules
    obtain ⟨⟨hroles, hgcs⟩, hbq⟩ := hrules
    have hroles : roles = ∅ := SortedMap.ext (List.isEmpty_iff.1 hroles)
    have hgcs : ∀ x ∈ gcs, x = rowRules := fun x hx =>
      eq_rowRules (by rw [Option.mem_def.1 hx] at hgcs; exact hgcs)
    have hbq : ∀ x ∈ bq, x = rowRules := fun x hx =>
      eq_rowRules (by rw [Option.mem_def.1 hx] at hbq; exact hbq)
    cases h
    cases gcs <;> cases bq <;> simp_all
  · cases h

open Unicode in
theorem splitTree_holds :
    (Input.permissionsRuleset splitTree "both.yaml").toOption.bind rowTargets? =
      some [.gcs, .bq] ∧
    (Input.permissionsRuleset splitTree "gcs.yaml").toOption.bind rowTargets? = some [.gcs] ∧
    (Input.permissionsRuleset splitTree "bq.yaml").toOption.bind rowTargets? = some [.bq] ∧
    (compute splitTree (halfSettings "gcs.yaml")).outcome.toOption.map (·.map (·.resource)) =
      some [⟨.gcsManagedFolder, "gs://b/t"⟩] ∧
    (compute splitTree (halfSettings "bq.yaml")).outcome.toOption.map (·.map (·.resource)) =
      some [⟨.bqTable, "p.s.t"⟩] := by
  -- Splitting a text at a text does not compute, so all that does it is opened and rewritten.
  delta compute plan planTarget planHdfs hdfsMapper rangerMapper Input.permissionsRuleset
    Input.tables Input.principals Input.rangerServices Input.rangerPolicies Input.jsonLines
    Input.lineRecord Input.hdfsPermissions Input.document FileTree.text? FileTree.isFile
    FileTree.bytes? FileTree.find? FileTree.locate? FileTree.names? Csv.rows Csv.texts? Text.trim
    Text.trimStart Text.trimEnd Text.isBlank Property.holds Property.whiteSpace spaceSeparator
    CodePoints.ofText CodePointRange.ofWord
  simp only [FileTree.pathNames_eq, splitOn_slash, splitOn_dash]
  decide +kernel

theorem compute_of_targets_splitTree :
    ∃ folders tables, (compute splitTree (halfSettings "gcs.yaml")).outcome = .ok folders ∧
      (compute splitTree (halfSettings "bq.yaml")).outcome = .ok tables ∧
      folders.map (·.resource) = [⟨.gcsManagedFolder, "gs://b/t"⟩] ∧
      tables.map (·.resource) = [⟨.bqTable, "p.s.t"⟩] ∧
      (compute splitTree (halfSettings "both.yaml")).outcome = .ok (folders ++ tables) := by
  obtain ⟨hboth, hgcs, hbq, hfolders, htables⟩ := splitTree_holds
  obtain ⟨ruleset, hruleset, hboth⟩ := Option.bind_eq_some_iff.1 hboth
  obtain ⟨ruleset₁, hruleset₁, hgcs⟩ := Option.bind_eq_some_iff.1 hgcs
  obtain ⟨ruleset₂, hruleset₂, hbq⟩ := Option.bind_eq_some_iff.1 hbq
  obtain rfl := eq_of_rowTargets? hboth
  obtain rfl := eq_of_rowTargets? hgcs
  obtain rfl := eq_of_rowTargets? hbq
  obtain ⟨folders, hcompute₁, hfolders⟩ := Option.map_eq_some_iff.1 hfolders
  obtain ⟨tables, hcompute₂, htables⟩ := Option.map_eq_some_iff.1 htables
  have hruleset : Input.permissionsRuleset splitTree "both.yaml" =
      .ok ⟨some rowRules, some rowRules, ∅⟩ := eq_ok_of_toOption hruleset
  have hruleset₁ : Input.permissionsRuleset splitTree "gcs.yaml" =
      .ok (PermissionsRuleset.only ⟨some rowRules, some rowRules, ∅⟩ .gcs) :=
    eq_ok_of_toOption hruleset₁
  have hruleset₂ : Input.permissionsRuleset splitTree "bq.yaml" =
      .ok (PermissionsRuleset.only ⟨some rowRules, some rowRules, ∅⟩ .bq) :=
    eq_ok_of_toOption hruleset₂
  have hcompute₁ := eq_ok_of_toOption hcompute₁
  have hcompute₂ := eq_ok_of_toOption hcompute₂
  have hsame : ∀ file, SameInputs splitTree splitTree (halfSettings "both.yaml")
      (halfSettings file) := fun _ => ⟨rfl, rfl, rfl, rfl, rfl, rfl⟩
  exact ⟨folders, tables, hcompute₁, hcompute₂, hfolders, htables,
    compute_of_targets (hsame "gcs.yaml") (hsame "bq.yaml") hruleset hruleset₁ hruleset₂ hcompute₁
      hcompute₂⟩

end Build

end Regrant
