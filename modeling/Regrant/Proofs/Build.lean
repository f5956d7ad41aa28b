import Regrant.Command.Build
import Regrant.Proofs.Merge.Collected
import Regrant.Proofs.Text

/-!
# Mappers that fail

A build plans up to six mappers, one for each list of rules (`slots`), and collects what they map.
A failure of a mapper, while it is constructed or while it runs, is confined to the mapper unless it
is fatal (`outcome_plan`, `outcome_collect`).  So a build is the same without such a mapper, and
what succeeds is merged (`compute_isolates`).
-/

namespace Regrant

/-! ### Lists of rules -/

/-- What a mapper reads: policies for Hive, policies for HDFS, or the HDFS dump. -/
inductive Origin where
  | hive
  | policies
  | dump
deriving DecidableEq

/-- The place of a mapper: its target and what it reads. -/
structure Slot where
  target : Target
  origin : Origin
deriving DecidableEq

namespace TargetRuleset

/-- The rules of a mapper. -/
def list (r : TargetRuleset) : Origin → RuleList
  | .hive => r.rangerHive
  | .policies => r.rangerHdfs
  | .dump => r.hdfs

/-- Without the rules of a mapper. -/
def without (r : TargetRuleset) : Origin → TargetRuleset
  | .hive => { r with rangerHive := none }
  | .policies => { r with rangerHdfs := none }
  | .dump => { r with hdfs := none }

theorem list_without (r : TargetRuleset) (o o' : Origin) :
    (r.without o).list o' = if o' = o then none else r.list o' := by
  cases o <;> cases o' <;> rfl

end TargetRuleset

namespace PermissionsRuleset

/-- The rules for a target. -/
def ofTarget (r : PermissionsRuleset) : Target → Option TargetRuleset
  | .gcs => r.gcs
  | .bq => r.bq

/-- The rules of a mapper. -/
def list (r : PermissionsRuleset) (x : Slot) : RuleList :=
  (r.ofTarget x.target).bind (·.list x.origin)

/-- Without the rules of a mapper. -/
def without (r : PermissionsRuleset) (x : Slot) : PermissionsRuleset :=
  match x.target with
  | .gcs => { r with gcs := r.gcs.map (·.without x.origin) }
  | .bq => { r with bq := r.bq.map (·.without x.origin) }

theorem roles_without (r : PermissionsRuleset) (x : Slot) : (r.without x).roles = r.roles := by
  rw [without]
  split <;> rfl

theorem ofTarget_without (r : PermissionsRuleset) (x : Slot) (target : Target) :
    (r.without x).ofTarget target = if target = x.target then
      (r.ofTarget target).map (·.without x.origin) else r.ofTarget target := by
  obtain ⟨target', origin⟩ := x
  cases target' <;> cases target <;> rfl

/-- Only the rules of one mapper are taken away. -/
theorem list_without (r : PermissionsRuleset) (x y : Slot) :
    (r.without x).list y = if y = x then none else r.list y := by
  obtain ⟨target, origin⟩ := x
  obtain ⟨target', origin'⟩ := y
  rw [list, list, ofTarget_without]
  by_cases htarget : target' = target
  · subst htarget
    rw [if_pos rfl]
    cases r.ofTarget target' with
    | none => simp
    | some rules => simp [TargetRuleset.list_without]
  · rw [if_neg htarget, if_neg (by simp [htarget])]

end PermissionsRuleset

namespace Build

/-! ### What is planned -/

/-- The places of mappers in the order in which they are planned. -/
def slots : List Slot :=
  [⟨.gcs, .hive⟩, ⟨.gcs, .policies⟩, ⟨.gcs, .dump⟩, ⟨.bq, .hive⟩, ⟨.bq, .policies⟩, ⟨.bq, .dump⟩]

theorem mem_slots (x : Slot) : x ∈ slots := by
  obtain ⟨target, origin⟩ := x
  cases target <;> cases origin <;> decide

/-- How the mapper of some rules is constructed.  There is none for a dump that is no file. -/
def construction (t : FileTree) (s : Settings) (x : Slot) (rules : List Rule) :
    Option (Run BindingMapper) :=
  match x.origin with
  | .hive => some (rangerMapper t s x.target .hive rules)
  | .policies => some (rangerMapper t s x.target .hdfs rules)
  | .dump => (s.inputs.hdfsDump.filter t.isFile).map fun dump =>
      hdfsMapper t s x.target dump rules

/-- The mapper of a ruleset at a place, as it is constructed. -/
def mapperAt (t : FileTree) (s : Settings) (ruleset : PermissionsRuleset) (x : Slot) :
    Option (Run BindingMapper) :=
  (ruleset.list x).bind (construction t s x)

/-- A mapper that is to be constructed, if there is one; a failure is confined to it. -/
def confinedMapper : Option (Run BindingMapper) → Except Failure (Option BindingMapper)
  | none => .ok none
  | some r => confined r.outcome

/-- The mapper at a place, if it is constructed; a failure is confined to it. -/
def planned (t : FileTree) (s : Settings) (ruleset : PermissionsRuleset) (x : Slot) :
    Except Failure (Option BindingMapper) :=
  confinedMapper (mapperAt t s ruleset x)

variable {t t' : FileTree} {s s' : Settings} {ruleset : PermissionsRuleset} {x y : Slot}

theorem outcome_keep (r : Run BindingMapper) :
    (keep r).outcome = gathered [confined r.outcome] := by
  rw [keep, Run.outcome_bind]
  simp only [Run.attempt]
  cases r.outcome with
  | ok m => rfl
  | error e =>
    by_cases he : e.fatal = true
    · simp [confined, he, gathered]
    · simp [confined, he]

/-- Some rules plan a mapper as they construct it, and no rules plan none. -/
theorem outcome_planList (construct : List Rule → Option (Run BindingMapper))
    {plan : List Rule → Run (List BindingMapper)}
    (h : ∀ l, (plan l).outcome = gathered [confinedMapper (construct l)]) (rules : RuleList) :
    (planList rules plan).outcome = gathered [confinedMapper (rules.bind construct)] := by
  cases rules with
  | none => rfl
  | some l => exact h l

theorem outcome_planHdfs (t : FileTree) (s : Settings) (target : Target) (rules : List Rule) :
    (planHdfs t s target rules).outcome =
      gathered [confinedMapper (construction t s ⟨target, .dump⟩ rules)] := by
  simp only [planHdfs, construction]
  cases s.inputs.hdfsDump.filter t.isFile with
  | none => rfl
  | some dump => exact outcome_keep _

theorem outcome_planTarget (t : FileTree) (s : Settings) (ruleset : PermissionsRuleset)
    (target : Target) :
    (planTarget t s target (ruleset.ofTarget target)).outcome =
      gathered [planned t s ruleset ⟨target, .hive⟩, planned t s ruleset ⟨target, .policies⟩,
        planned t s ruleset ⟨target, .dump⟩] := by
  simp only [planned, mapperAt, PermissionsRuleset.list]
  cases ruleset.ofTarget target with
  | none => rfl
  | some rules =>
    have hhive : (planList rules.rangerHive fun l =>
        keep (rangerMapper t s target .hive l)).outcome = _ :=
      outcome_planList (construction t s ⟨target, .hive⟩) (fun _ => outcome_keep _) _
    have hpolicies : (planList rules.rangerHdfs fun l =>
        keep (rangerMapper t s target .hdfs l)).outcome = _ :=
      outcome_planList (construction t s ⟨target, .policies⟩) (fun _ => outcome_keep _) _
    have hdump := outcome_planList (construction t s ⟨target, .dump⟩)
      (outcome_planHdfs t s target) rules.hdfs
    simp only [planTarget, Run.outcome_bind, hhive, hpolicies, hdump, Option.bind_some,
      TargetRuleset.list]
    clear hhive hpolicies hdump
    generalize confinedMapper (rules.rangerHive.bind _) = hive
    generalize confinedMapper (rules.rangerHdfs.bind _) = policies
    generalize confinedMapper (rules.hdfs.bind _) = dump
    rw [show [hive, policies, dump] = [hive] ++ [policies] ++ [dump] from rfl, gathered_append,
      gathered_append]
    cases gathered [hive] <;> cases gathered [policies] <;> cases gathered [dump] <;> rfl

/-- **A plan confines the failures of mappers.** -/
theorem outcome_plan (t : FileTree) (s : Settings) (ruleset : PermissionsRuleset) :
    (plan t s ruleset).outcome = gathered (slots.map (planned t s ruleset)) :=
  outcome_append (outcome_planTarget t s ruleset .gcs) (outcome_planTarget t s ruleset .bq)

/-! ### Two builds -/

/-- All that mappers read is the same: the inputs besides the ruleset, and the roles. -/
structure SameInputs (t t' : FileTree) (s s' : Settings) : Prop where
  tables : Input.tables t s.inputs.tables = Input.tables t' s'.inputs.tables
  principals : Input.principals t s.inputs.principals = Input.principals t' s'.inputs.principals
  services : Input.rangerServices t s.inputs.rangerDump =
    Input.rangerServices t' s'.inputs.rangerDump
  policies : Input.rangerPolicies t s.inputs.rangerDump =
    Input.rangerPolicies t' s'.inputs.rangerDump
  dump : (s.inputs.hdfsDump.filter t.isFile).map (Input.hdfsPermissions t) =
    (s'.inputs.hdfsDump.filter t'.isFile).map (Input.hdfsPermissions t')
  roles : s.roles = s'.roles

/-- The mapper of a dump, of which it has only the rows. -/
def mapperOfRows (target : Target) (roles : TargetRoles) (rules : List Rule) (tables : Source Table)
    (principals : Source Principal) (rows : Source HdfsPermission) : Run BindingMapper := do
  let m ← HdfsMapper.build target roles rules tables rows principals
  return ⟨m.name, m.run⟩

theorem SameInputs.construction_eq (h : SameInputs t t' s s') (x : Slot) (rules : List Rule) :
    construction t s x rules = construction t' s' x rules := by
  have hranger : ∀ plugin, rangerMapper t s x.target plugin rules =
      rangerMapper t' s' x.target plugin rules := by
    intro plugin
    rw [rangerMapper, rangerMapper, h.tables, h.principals, h.services, h.policies, h.roles]
  rw [construction, construction]
  cases x.origin with
  | hive => exact congrArg some (hranger .hive)
  | policies => exact congrArg some (hranger .hdfs)
  | dump =>
    have hrows : ∀ (t : FileTree) (s : Settings), (s.inputs.hdfsDump.filter t.isFile).map
        (fun dump => hdfsMapper t s x.target dump rules) =
        ((s.inputs.hdfsDump.filter t.isFile).map (Input.hdfsPermissions t)).map
          (mapperOfRows x.target (s.roles x.target) rules (Input.tables t s.inputs.tables)
            (Input.principals t s.inputs.principals)) := by
      intro t s
      rw [Option.map_map]
      rfl
    exact (hrows t s).trans (by rw [h.dump, h.tables, h.principals, h.roles, ← hrows])

/-- The mapper fails, while it is constructed or while it runs. -/
def FailsWith (r : Run BindingMapper) (e : Failure) : Prop :=
  r.outcome = .error e ∨ ∃ m, r.outcome = .ok m ∧ m.run.outcome = .error e

theorem planned_of_list_eq_none (hlist : ruleset.list x = none) :
    planned t s ruleset x = .ok none := by
  rw [planned, mapperAt, hlist]
  rfl

/-- What is planned at a place depends on the rules for it and on what mappers read. -/
theorem SameInputs.planned_congr (h : SameInputs t t' s s') {ruleset' : PermissionsRuleset}
    (hlist : ruleset'.list x = ruleset.list x) :
    planned t' s' ruleset' x = planned t s ruleset x := by
  rw [planned, planned, mapperAt, mapperAt, hlist]
  congr 2
  funext l
  exact (h.construction_eq x l).symm

/-- Without its rules there is no mapper, and the others stay. -/
theorem SameInputs.planned_without (h : SameInputs t t' s s') (ruleset : PermissionsRuleset)
    (x y : Slot) : planned t' s' (ruleset.without x) y =
      if y = x then .ok none else planned t s ruleset y := by
  by_cases hy : y = x
  · rw [if_pos hy]
    exact planned_of_list_eq_none (by rw [PermissionsRuleset.list_without, if_pos hy])
  · rw [if_neg hy]
    exact h.planned_congr (by rw [PermissionsRuleset.list_without, if_neg hy])

theorem outcome_compute
    (hruleset : Input.permissionsRuleset t s.inputs.permissionsRuleset = .ok ruleset) :
    (compute t s).outcome = match gathered (slots.map (planned t s ruleset)) with
      | .ok ms => (Merge.run ms ruleset.roles).outcome
      | .error e => .error e := by
  rw [compute, hruleset, Run.outcome_bind, Run.outcome_ofExcept]
  simp only [Run.outcome_bind, outcome_plan]
  cases gathered (slots.map (planned t s ruleset)) <;> rfl

/-- A build that succeeds merges what is planned. -/
theorem compute_eq_ok_iff
    (hruleset : Input.permissionsRuleset t s.inputs.permissionsRuleset = .ok ruleset)
    {bs : List IamBinding} : (compute t s).outcome = .ok bs ↔
      ∃ ms, gathered (slots.map (planned t s ruleset)) = .ok ms ∧
        (Merge.run ms ruleset.roles).outcome = .ok bs := by
  rw [outcome_compute hruleset]
  cases gathered (slots.map (planned t s ruleset)) <;> simp

/-- One place, and those before and after it. -/
theorem exists_slots_eq (x : Slot) :
    ∃ before after, slots = before ++ x :: after ∧ x ∉ before ∧ x ∉ after := by
  obtain ⟨before, after, hslots⟩ := List.append_of_mem (mem_slots x)
  have hnodup : (before ++ x :: after).Nodup := by
    rw [← hslots]
    decide
  obtain ⟨-, hcons, hapart⟩ := List.nodup_append.1 hnodup
  exact ⟨before, after, hslots, fun hx => hapart x hx x List.mem_cons_self rfl,
    (List.nodup_cons.1 hcons).1⟩

/-- A build is the same without a mapper that fails, if there is another. -/
theorem SameInputs.outcome_compute_without (h : SameInputs t t' s s')
    (hruleset : Input.permissionsRuleset t s.inputs.permissionsRuleset = .ok ruleset)
    (hwithout : Input.permissionsRuleset t' s'.inputs.permissionsRuleset =
      .ok (ruleset.without x))
    {r : Run BindingMapper} (hx : mapperAt t s ruleset x = some r) {e : Failure}
    (hfails : FailsWith r e) (he : e.fatal = false) (hne : y ≠ x) {r' : Run BindingMapper}
    (hy : mapperAt t s ruleset y = some r') {m' : BindingMapper} (hm' : r'.outcome = .ok m') :
    (compute t s).outcome = (compute t' s').outcome := by
  obtain ⟨before, after, hslots, hbefore, hafter⟩ := exists_slots_eq x
  have hsame : ∀ {l : List Slot}, x ∉ l →
      l.map (planned t' s' (ruleset.without x)) = l.map (planned t s ruleset) := by
    intro l hl
    refine List.map_congr_left fun z hz => ?_
    have hzx : z ≠ x := by
      rintro rfl
      exact hl hz
    rw [h.planned_without, if_neg hzx]
  have hself : planned t' s' (ruleset.without x) x = .ok none := by
    rw [h.planned_without, if_pos rfl]
  have hmap : slots.map (planned t s ruleset) = before.map (planned t s ruleset) ++
      planned t s ruleset x :: after.map (planned t s ruleset) := by
    rw [hslots, List.map_append, List.map_cons]
  have hmap' : slots.map (planned t' s' (ruleset.without x)) =
      before.map (planned t s ruleset) ++ .ok none :: after.map (planned t s ruleset) := by
    rw [hslots, List.map_append, List.map_cons, hself, hsame hbefore, hsame hafter]
  rw [outcome_compute hruleset, outcome_compute hwithout, ruleset.roles_without, hmap, hmap']
  have hplanned : planned t s ruleset x = confined r.outcome := by rw [planned, hx, confinedMapper]
  rcases hfails with hfails | ⟨m, hm, hfails⟩
  · rw [hplanned, hfails, confined_error he]
  · rw [hplanned, hm, confined, gathered_append, gathered_append, gathered_some, gathered_none]
    cases hgathered : gathered (before.map (planned t s ruleset)) with
    | error e' => rfl
    | ok ms =>
      cases hgathered' : gathered (after.map (planned t s ruleset)) with
      | error e' => rfl
      | ok ms' =>
        -- The other mapper is among those that are left.
        have hother : .ok (some m') = planned t s ruleset y := by
          rw [planned, hy, confinedMapper, hm', confined]
        have hmem : m' ∈ ms ++ ms' := by
          have hyslots := mem_slots y
          rw [hslots, List.mem_append, List.mem_cons] at hyslots
          rcases hyslots with hy | rfl | hy
          · exact List.mem_append_left _
              (mem_of_gathered hgathered (hother ▸ List.mem_map_of_mem hy))
          · exact absurd rfl hne
          · exact List.mem_append_right _
              (mem_of_gathered hgathered' (hother ▸ List.mem_map_of_mem hy))
        exact Merge.outcome_run_append_cons hfails he (List.ne_nil_of_mem hmem) ruleset.roles

/-! ### What a build yields -/

/-- The mapper at a place, if it is constructed. -/
def constructed? (t : FileTree) (s : Settings) (ruleset : PermissionsRuleset) (x : Slot) :
    Option BindingMapper :=
  (mapperAt t s ruleset x).bind (·.outcome.toOption)

/-- What a mapper maps, if it succeeds. -/
def mappedOf (m : BindingMapper) : List IamBinding :=
  (Merge.mapped m).toOption.getD []

/-- No mapper fails fatally, while it is constructed or while it runs. -/
def NoneFatal (t : FileTree) (s : Settings) (ruleset : PermissionsRuleset) : Prop :=
  ∀ x r, mapperAt t s ruleset x = some r → ∀ e, FailsWith r e → e.fatal = false

theorem NoneFatal.planned_eq (h : NoneFatal t s ruleset) (x : Slot) :
    planned t s ruleset x = .ok (constructed? t s ruleset x) := by
  rw [planned, constructed?]
  cases hx : mapperAt t s ruleset x with
  | none => rfl
  | some r =>
    rw [confinedMapper, Option.bind_some]
    cases hr : r.outcome with
    | ok m => rfl
    | error e => exact confined_error (h x r hx e (Or.inl hr))

theorem NoneFatal.confined_eq (h : NoneFatal t s ruleset) {m : BindingMapper}
    (hm : constructed? t s ruleset x = some m) :
    confined (Merge.mapped m) = .ok (Merge.mapped m).toOption := by
  obtain ⟨r, hr, hm⟩ := Option.bind_eq_some_iff.1 hm
  have hm := eq_ok_of_toOption hm
  rw [Merge.mapped]
  cases hrun : m.run.outcome with
  | ok verdicts => rfl
  | error e => exact confined_error (h x r hr e (Or.inr ⟨m, hm, hrun⟩))

/-- If no mapper fails fatally, what is constructed is planned. -/
theorem NoneFatal.gathered_planned (h : NoneFatal t s ruleset) :
    gathered (slots.map (planned t s ruleset)) =
      .ok (slots.filterMap (constructed? t s ruleset)) := by
  have hmap : slots.map (planned t s ruleset) =
      (slots.map (constructed? t s ruleset)).map .ok := by
    rw [List.map_map]
    exact List.map_congr_left fun x _ => h.planned_eq x
  rw [hmap, gathered_map_ok, List.filterMap_map]
  rfl

/-- If no mapper fails fatally, what succeeds is collected. -/
theorem NoneFatal.outcome_collect (h : NoneFatal t s ruleset) :
    (Merge.collect (slots.filterMap (constructed? t s ruleset))).outcome =
      .ok ((slots.filterMap (constructed? t s ruleset)).flatMap mappedOf) := by
  refine Merge.outcome_collect_of_confined fun m hm => ?_
  obtain ⟨x, -, hx⟩ := List.mem_filterMap.1 hm
  exact h.confined_eq hx

/-- **Failures that are not fatal are isolated.**  A build is the same, with the same bindings or
the same failure, without the rules of a mapper that fails so, while it is constructed or while it
runs, if another mapper is constructed.  If no mapper fails fatally and one is constructed, a build
succeeds with what the mappers that succeed map, merged in the order of the plan. -/
theorem compute_isolates :
    (∀ (t t' : FileTree) (s s' : Settings) (ruleset : PermissionsRuleset) (x y : Slot)
      (r r' : Run BindingMapper) (e : Failure) (m' : BindingMapper), SameInputs t t' s s' →
      Input.permissionsRuleset t s.inputs.permissionsRuleset = .ok ruleset →
      Input.permissionsRuleset t' s'.inputs.permissionsRuleset = .ok (ruleset.without x) →
      mapperAt t s ruleset x = some r → FailsWith r e → e.fatal = false →
      y ≠ x → mapperAt t s ruleset y = some r' → r'.outcome = .ok m' →
      (compute t s).outcome = (compute t' s').outcome) ∧
    ∀ (t : FileTree) (s : Settings) (ruleset : PermissionsRuleset) (x : Slot) (m : BindingMapper),
      Input.permissionsRuleset t s.inputs.permissionsRuleset = .ok ruleset →
      NoneFatal t s ruleset → constructed? t s ruleset x = some m →
      (compute t s).outcome = .ok (Merge.resolve (.ofMappings ruleset.roles)
        ((slots.filterMap (constructed? t s ruleset)).flatMap mappedOf)).2 := by
  constructor
  · intro t t' s s' ruleset x y r r' e m' h hruleset hwithout hx hfails he hne hy hm'
    exact h.outcome_compute_without hruleset hwithout hx hfails he hne hy hm'
  · intro t s ruleset x m hruleset hnone hm
    have hmem : m ∈ slots.filterMap (constructed? t s ruleset) :=
      List.mem_filterMap.2 ⟨x, mem_slots x, hm⟩
    rw [outcome_compute hruleset, hnone.gathered_planned]
    simp only [Merge.outcome_run, if_neg (List.ne_nil_of_mem hmem), hnone.outcome_collect]
    rfl

/-- One row for one table, and no dump of Ranger; a ruleset for both, and one for the rows only. -/
def halfTree : FileTree where
  entries := .ofList [
    (["both.yaml"], .file "bq:\n  hdfs_rules:\n  - when: true\n  ranger_hive_rules: []\n".toUTF8),
    (["hdfs.csv"], .file "Path,Owner,Group,Permission\n/t,bob,staff,r--------\n".toUTF8),
    (["principals.yaml"], .file ("principals:\n- action: map\n  type: user\n" ++
      "  email_address: bob@example.org\n  sources:\n    hdfs/user: bob\n").toUTF8),
    (["rows.yaml"], .file "bq:\n  hdfs_rules:\n  - when: true\n".toUTF8),
    (["tables"], .directory),
    (["tables", "t.yaml"], .file "target_name: p.s.t\nsource_locations:\n- /t\n".toUTF8)]
  working := []

def halfSettings (ruleset : String) : Settings :=
  { Settings.defaults with
    inputs := { Settings.defaults.inputs with
      hdfsDump := some "hdfs.csv", permissionsRuleset := ruleset } }

/-- The rule that maps everything, for the rows, and perhaps no rules for policies of Hive. -/
def halfRuleset (hive : Bool) : PermissionsRuleset :=
  ⟨none, some ⟨some [⟨"true", "false", false, none⟩], if hive then some [] else none, none⟩, ∅⟩

def isHalfRuleset (hive : Bool) : PermissionsRuleset → Bool
  | ⟨none, some ⟨some [⟨condition, log, false, none⟩], list, none⟩, ⟨[], _⟩⟩ =>
    condition = "true" && log = "false" && match list with
      | some [] => hive
      | none => !hive
      | _ => false
  | _ => false

theorem eq_halfRuleset {hive : Bool} {r : PermissionsRuleset} (h : isHalfRuleset hive r = true) :
    r = halfRuleset hive := by
  unfold isHalfRuleset at h
  split at h
  · simp only [Bool.and_eq_true, decide_eq_true_eq] at h
    obtain ⟨⟨rfl, rfl⟩, h⟩ := h
    split at h
    · rw [h]
      rfl
    · cases hive with
      | false => rfl
      | true => cases h
    · cases h
  · cases h

/-- A failure that is not fatal. -/
def failsConfined {α : Type} : Except Failure α → Bool
  | .ok _ => false
  | .error e => !e.fatal

open Unicode in
theorem halfTree_holds :
    (Input.permissionsRuleset halfTree "both.yaml").toOption.map (isHalfRuleset true) = some true ∧
    (Input.permissionsRuleset halfTree "rows.yaml").toOption.map (isHalfRuleset false) = some true ∧
    halfTree.isFile "hdfs.csv" = true ∧
    failsConfined (rangerMapper halfTree (halfSettings "both.yaml") .bq .hive []).outcome = true ∧
    (hdfsMapper halfTree (halfSettings "both.yaml") .bq "hdfs.csv"
      [⟨"true", "false", false, none⟩]).outcome.toOption.map (·.run.outcome.isOk) = some true := by
  -- Splitting a text at a text does not compute, so all that does it is opened and rewritten.
  delta hdfsMapper rangerMapper Input.permissionsRuleset Input.tables Input.principals
    Input.rangerServices Input.rangerPolicies Input.jsonLines Input.lineRecord Input.hdfsPermissions
    Input.document FileTree.text? FileTree.isFile FileTree.bytes? FileTree.find? FileTree.locate?
    FileTree.names? Csv.rows Csv.texts? Text.trim Text.trimStart Text.trimEnd Text.isBlank
    Property.holds Property.whiteSpace spaceSeparator CodePoints.ofText CodePointRange.ofWord
  simp only [FileTree.pathNames_eq, splitOn_slash, splitOn_dash]
  decide +kernel

theorem compute_isolates_halfTree :
    ∃ l, (compute halfTree (halfSettings "both.yaml")).outcome = .ok l ∧
      (compute halfTree (halfSettings "rows.yaml")).outcome = .ok l := by
  obtain ⟨hboth, hrows, hfile, hfails, hok⟩ := halfTree_holds
  obtain ⟨ruleset, hboth, hruleset⟩ := Option.map_eq_some_iff.1 hboth
  obtain rfl := eq_halfRuleset hruleset
  obtain ⟨without, hrows, hwithout⟩ := Option.map_eq_some_iff.1 hrows
  obtain rfl := eq_halfRuleset hwithout
  obtain ⟨m, hm, hrun⟩ := Option.map_eq_some_iff.1 hok
  obtain ⟨vs, hrun⟩ := exists_ok_of_isOk hrun
  obtain ⟨e, he, hfatal⟩ : ∃ e, (rangerMapper halfTree (halfSettings "both.yaml") .bq .hive
      []).outcome = .error e ∧ e.fatal = false := by
    cases h : (rangerMapper halfTree (halfSettings "both.yaml") .bq .hive []).outcome with
    | ok m => rw [h] at hfails; cases hfails
    | error e =>
      rw [h] at hfails
      exact ⟨e, rfl, by simpa [failsConfined] using hfails⟩
  have hdump : mapperAt halfTree (halfSettings "both.yaml") (halfRuleset true) ⟨.bq, .dump⟩ =
      some (hdfsMapper halfTree (halfSettings "both.yaml") .bq "hdfs.csv"
        [⟨"true", "false", false, none⟩]) := by
    show ((some "hdfs.csv").filter halfTree.isFile).map _ = _
    rw [Option.filter_some, if_pos hfile]
    rfl
  obtain ⟨hsame, hyields⟩ := compute_isolates
  have hequal := hsame halfTree halfTree (halfSettings "both.yaml") (halfSettings "rows.yaml")
    (halfRuleset true) ⟨.bq, .hive⟩ ⟨.bq, .dump⟩ _ _ e m ⟨rfl, rfl, rfl, rfl, rfl, rfl⟩
    (eq_ok_of_toOption hboth) (eq_ok_of_toOption hrows) rfl (Or.inl he) hfatal (by decide) hdump
    (eq_ok_of_toOption hm)
  have hnone : NoneFatal halfTree (halfSettings "both.yaml") (halfRuleset true) := by
    rintro ⟨target, origin⟩ r hr e' hfailure
    cases target with
    | gcs => cases hr
    | bq =>
      cases origin with
      | policies => cases hr
      | hive =>
        cases hr
        rcases hfailure with h | ⟨m', h, -⟩
        · cases he.symm.trans h
          exact hfatal
        · cases he.symm.trans h
      | dump =>
        cases hdump.symm.trans hr
        rcases hfailure with h | ⟨m', h, h'⟩
        · cases (eq_ok_of_toOption hm).symm.trans h
        · cases (eq_ok_of_toOption hm).symm.trans h
          cases hrun.symm.trans h'
  have hconstructed : constructed? halfTree (halfSettings "both.yaml") (halfRuleset true)
      ⟨.bq, .dump⟩ = some m := by rw [constructed?, hdump, Option.bind_some, hm]
  have hl := hyields halfTree (halfSettings "both.yaml") (halfRuleset true) ⟨.bq, .dump⟩ m
    (eq_ok_of_toOption hboth) hnone hconstructed
  exact ⟨_, hl, hequal ▸ hl⟩

end Build

end Regrant
