import Regrant.Model.Binding
import Regrant.Model.Hdfs
import Regrant.Model.Ranger
import Regrant.Model.Ruleset
import Regrant.Proofs.Model.Reread

/-!
# The models are read again

Whatever a policy, a rule, a principal, a binding, a row of HDFS, a service or an identity of Ranger
was read from, it is read again from what is written for it.

The proofs follow the fields: `Rereads.record` asks for what each field was read as, and a lemma on
the way in which the field is read says that it is read so again.
-/

namespace Regrant

open Document (Slot)

/-! ### Fields of one kind -/

namespace Document.Slot

theorem rereads_text : Slot.Rereads (Slot.required Document.asText?) (fun s => some (.text s)) :=
  Regrant.rereads_text.required

theorem rereads_optionalText :
    Slot.Rereads (Slot.optional Document.asText?) (fun s => some (.ofOption .text s)) :=
  Regrant.rereads_text.optional fun _ => Json.noConfusion

theorem rereads_optionalInt64 :
    Slot.Rereads (Slot.optional Document.asInt64?) (fun n => some (.ofOption .int n)) :=
  (rereads_int _).optional fun _ => Json.noConfusion

theorem rereads_optionalInt32 :
    Slot.Rereads (Slot.optional Document.asInt32?) (fun n => some (.ofOption .int n)) :=
  (rereads_int _).optional fun _ => Json.noConfusion

theorem rereads_flag (default : Bool) :
    Slot.Rereads (Slot.withDefault default Document.asBool?) (fun b => some (.bool b)) :=
  rereads_bool.withDefault rfl

theorem rereads_texts :
    Slot.Rereads (Slot.listOrNull Document.asText?) (fun l => some (.texts l)) :=
  Regrant.rereads_text.listOrNull

theorem rereads_jsons :
    Slot.Rereads (Slot.listOrNull Document.toJson?) (fun l => some (.list l)) := by
  intro s l hs hl
  have h := rereads_json.listOrNull s l hs hl
  simpa using h

theorem rereads_omittedText :
    Slot.Rereads (Slot.optional Document.asText?) (fun s => s.map .text) :=
  Regrant.rereads_text.omitted fun _ _ _ _ => Json.noConfusion

/-- A JSON value is not null after it was read if it was not null before. -/
theorem rereads_omittedJson : Slot.Rereads (Slot.optional Document.toJson?) (fun j => j) := by
  have hnull : ∀ j x : Json, j ≠ .null → j.document.toJson? = some x → id x ≠ .null := by
    intro j x hj hx
    rw [Json.toJson?_document] at hx
    obtain rfl := Option.some.inj hx
    cases j with
    | null => exact absurd rfl hj
    | bool b => exact Json.noConfusion
    | number n => exact Json.noConfusion
    | text s => exact Json.noConfusion
    | list items => exact Json.noConfusion
    | object fields => exact Json.noConfusion
  intro s x hs hx
  simpa using rereads_json.omitted hnull s x hs hx

end Document.Slot

/-! ### Ranger -/

theorem RangerService.rereads : Rereads ofDocument? toJson := by
  refine .record [["id"], ["name"], ["type"], ["displayName"], ["description"], ["isEnabled"]]
    (fun s => [some (.ofOption .int s.id), some (.text s.name), some (.text s.type),
      some (.ofOption .text s.displayName), some (.ofOption .text s.description),
      some (.bool s.enabled)])
    (fun _ => rfl) (fun _ => rfl) (by decide) (fun _ => rfl) ?_
  intro ss s hss h
  split at h
  · simp only [List.forall_mem_cons] at hss
    obtain ⟨hid, hname, htype, hdisplay, hdescription, henabled, -⟩ := hss
    obtain ⟨id, hid, h⟩ := Slot.rereads_optionalInt64.of_bind hid h
    obtain ⟨name, hname, h⟩ := Slot.rereads_text.of_bind hname h
    obtain ⟨type, htype, h⟩ := Slot.rereads_text.of_bind htype h
    obtain ⟨display, hdisplay, h⟩ := Slot.rereads_optionalText.of_bind hdisplay h
    obtain ⟨description, hdescription, h⟩ := Slot.rereads_optionalText.of_bind hdescription h
    obtain ⟨enabled, henabled, hs⟩ := (Slot.rereads_flag true).of_bind henabled h
    cases hs
    simp only [List.map_cons, List.map_nil, hid, hname, htype, hdisplay, hdescription, henabled]
    rfl
  · cases h

theorem PolicyResource.rereads : Rereads ofDocument? toJson := by
  refine .record [["values"], ["isExcludes"], ["isRecursive"]]
    (fun r => [some (.texts r.values), some (.bool r.excludes), some (.bool r.recursive)])
    (fun _ => rfl) (fun _ => rfl) (by decide) (fun _ => rfl) ?_
  intro ss r hss h
  split at h
  · simp only [List.forall_mem_cons] at hss
    obtain ⟨hvalues, hexcludes, hrecursive, -⟩ := hss
    obtain ⟨values, hvalues, h⟩ := Slot.rereads_texts.of_bind hvalues h
    obtain ⟨excludes, hexcludes, h⟩ := (Slot.rereads_flag false).of_bind hexcludes h
    obtain ⟨recursive, hrecursive, hr⟩ := (Slot.rereads_flag false).of_bind hrecursive h
    cases hr
    simp only [List.map_cons, List.map_nil, hvalues, hexcludes, hrecursive]
    rfl
  · cases h

theorem PolicyAccess.rereads : Rereads ofDocument? toJson := by
  refine .record [["type"], ["isAllowed"]]
    (fun a => [some (.text a.type), some (.bool a.allowed)])
    (fun _ => rfl) (fun _ => rfl) (by decide) (fun _ => rfl) ?_
  intro ss a hss h
  split at h
  · simp only [List.forall_mem_cons] at hss
    obtain ⟨htype, hallowed, -⟩ := hss
    obtain ⟨type, htype, h⟩ := Slot.rereads_text.of_bind htype h
    obtain ⟨allowed, hallowed, ha⟩ := (Slot.rereads_flag true).of_bind hallowed h
    cases ha
    simp only [List.map_cons, List.map_nil, htype, hallowed]
    rfl
  · cases h

theorem PolicyItem.rereads : Rereads ofDocument? toJson := by
  refine .record
    [["accesses"], ["users"], ["groups"], ["roles"], ["conditions"], ["delegateAdmin"]]
    (fun i => [some (.list (i.accesses.map PolicyAccess.toJson)), some (.texts i.users),
      some (.texts i.groups), some (.texts i.roles), some (.list i.conditions),
      some (.bool i.delegateAdmin)])
    (fun _ => rfl) (fun _ => rfl) (by decide) (fun _ => rfl) ?_
  intro ss i hss h
  split at h
  · simp only [List.forall_mem_cons] at hss
    obtain ⟨haccesses, husers, hgroups, hroles, hconditions, hadmin, -⟩ := hss
    obtain ⟨accesses, haccesses, h⟩ := PolicyAccess.rereads.listOrNull.of_bind haccesses h
    obtain ⟨users, husers, h⟩ := Slot.rereads_texts.of_bind husers h
    obtain ⟨groups, hgroups, h⟩ := Slot.rereads_texts.of_bind hgroups h
    obtain ⟨roles, hroles, h⟩ := Slot.rereads_texts.of_bind hroles h
    obtain ⟨conditions, hconditions, h⟩ := Slot.rereads_jsons.of_bind hconditions h
    obtain ⟨admin, hadmin, hi⟩ := (Slot.rereads_flag false).of_bind hadmin h
    cases hi
    simp only [List.map_cons, List.map_nil, haccesses, husers, hgroups, hroles, hconditions,
      hadmin]
    rfl
  · cases h

theorem Policy.rereads : Rereads ofDocument? toJson := by
  refine .record fieldNames
    (fun p => [some (.ofOption .int p.id), some (.text p.name), some (.text p.service),
      some (.ofOption .text p.serviceType), some (.ofOption .int p.type),
      some (.ofOption .int p.priority), some (.bool p.enabled), some (.ofOption .text p.description),
      some (.ofOption (fun r => .record (r.map PolicyResource.toJson)) p.resources),
      some (.list (p.items.map PolicyItem.toJson)), some (.list (p.denyItems.map PolicyItem.toJson)),
      some (.list (p.allowExceptions.map PolicyItem.toJson)),
      some (.list (p.denyExceptions.map PolicyItem.toJson)), some (.list p.dataMaskItems),
      some (.list p.rowFilterItems)])
    (fun _ => rfl) (fun _ => rfl) (by decide) (fun _ => rfl) ?_
  intro ss p hss h
  split at h
  · simp only [List.forall_mem_cons] at hss
    obtain ⟨hid, hname, hservice, hserviceType, htype, hpriority, henabled, hdescription, hresources,
      hitems, hdeny, hallow, hdenyExceptions, hmask, hfilter, -⟩ := hss
    obtain ⟨id, hid, h⟩ := Slot.rereads_optionalInt64.of_bind hid h
    obtain ⟨name, hname, h⟩ := Slot.rereads_text.of_bind hname h
    obtain ⟨service, hservice, h⟩ := Slot.rereads_text.of_bind hservice h
    obtain ⟨serviceType, hserviceType, h⟩ := Slot.rereads_optionalText.of_bind hserviceType h
    obtain ⟨type, htype, h⟩ := Slot.rereads_optionalInt32.of_bind htype h
    obtain ⟨priority, hpriority, h⟩ := Slot.rereads_optionalInt32.of_bind hpriority h
    obtain ⟨enabled, henabled, h⟩ := (Slot.rereads_flag true).of_bind henabled h
    obtain ⟨description, hdescription, h⟩ := Slot.rereads_optionalText.of_bind hdescription h
    obtain ⟨resources, hresources, h⟩ :=
      (PolicyResource.rereads.map.optional fun _ => Json.noConfusion).of_bind hresources h
    obtain ⟨items, hitems, h⟩ := PolicyItem.rereads.listOrNull.of_bind hitems h
    obtain ⟨deny, hdeny, h⟩ := PolicyItem.rereads.listOrNull.of_bind hdeny h
    obtain ⟨allow, hallow, h⟩ := PolicyItem.rereads.listOrNull.of_bind hallow h
    obtain ⟨denyExceptions, hdenyExceptions, h⟩ :=
      PolicyItem.rereads.listOrNull.of_bind hdenyExceptions h
    obtain ⟨mask, hmask, h⟩ := Slot.rereads_jsons.of_bind hmask h
    obtain ⟨filter, hfilter, hp⟩ := Slot.rereads_jsons.of_bind hfilter h
    cases hp
    simp only [List.map_cons, List.map_nil, hid, hname, hservice, hserviceType, htype, hpriority,
      henabled, hdescription, hresources, hitems, hdeny, hallow, hdenyExceptions, hmask, hfilter]
    rfl
  · cases h

theorem RangerUser.rereads : Rereads ofDocument? toJson := by
  refine .record [["id"], ["name"], ["firstName"], ["lastName"], ["emailAddress"], ["description"],
      ["groupNameList"], ["userRoleList"], ["status"], ["isVisible"], ["syncSource"]]
    (fun u => [some (.ofOption .int u.id), some (.text u.name), some (.ofOption .text u.firstName),
      some (.ofOption .text u.lastName), some (.ofOption .text u.email),
      some (.ofOption .text u.description), some (.texts u.groupNames), some (.texts u.roles),
      some (.ofOption .int u.status), some (.ofOption .int u.visible),
      some (.ofOption .text u.syncSource)])
    (fun _ => rfl) (fun _ => rfl) (by decide) (fun _ => rfl) ?_
  intro ss u hss h
  split at h
  · simp only [List.forall_mem_cons] at hss
    obtain ⟨hid, hname, hfirst, hlast, hemail, hdescription, hgroups, hroles, hstatus, hvisible,
      hsync, -⟩ := hss
    obtain ⟨id, hid, h⟩ := Slot.rereads_optionalInt64.of_bind hid h
    obtain ⟨name, hname, h⟩ := Slot.rereads_text.of_bind hname h
    obtain ⟨first, hfirst, h⟩ := Slot.rereads_optionalText.of_bind hfirst h
    obtain ⟨last, hlast, h⟩ := Slot.rereads_optionalText.of_bind hlast h
    obtain ⟨email, hemail, h⟩ := Slot.rereads_optionalText.of_bind hemail h
    obtain ⟨description, hdescription, h⟩ := Slot.rereads_optionalText.of_bind hdescription h
    obtain ⟨groups, hgroups, h⟩ := Slot.rereads_texts.of_bind hgroups h
    obtain ⟨roles, hroles, h⟩ := Slot.rereads_texts.of_bind hroles h
    obtain ⟨status, hstatus, h⟩ := Slot.rereads_optionalInt32.of_bind hstatus h
    obtain ⟨visible, hvisible, h⟩ := Slot.rereads_optionalInt32.of_bind hvisible h
    obtain ⟨sync, hsync, hu⟩ := Slot.rereads_optionalText.of_bind hsync h
    cases hu
    simp only [List.map_cons, List.map_nil, hid, hname, hfirst, hlast, hemail, hdescription,
      hgroups, hroles, hstatus, hvisible, hsync]
    rfl
  · cases h

theorem RangerGroup.rereads : Rereads ofDocument? toJson := by
  refine .record [["id"], ["name"], ["description"], ["groupType"], ["groupSource"], ["isVisible"],
      ["syncSource"]]
    (fun g => [some (.ofOption .int g.id), some (.text g.name), some (.ofOption .text g.description),
      some (.ofOption .int g.type), some (.ofOption .int g.source), some (.ofOption .int g.visible),
      some (.ofOption .text g.syncSource)])
    (fun _ => rfl) (fun _ => rfl) (by decide) (fun _ => rfl) ?_
  intro ss g hss h
  split at h
  · simp only [List.forall_mem_cons] at hss
    obtain ⟨hid, hname, hdescription, htype, hsource, hvisible, hsync, -⟩ := hss
    obtain ⟨id, hid, h⟩ := Slot.rereads_optionalInt64.of_bind hid h
    obtain ⟨name, hname, h⟩ := Slot.rereads_text.of_bind hname h
    obtain ⟨description, hdescription, h⟩ := Slot.rereads_optionalText.of_bind hdescription h
    obtain ⟨type, htype, h⟩ := Slot.rereads_optionalInt32.of_bind htype h
    obtain ⟨source, hsource, h⟩ := Slot.rereads_optionalInt32.of_bind hsource h
    obtain ⟨visible, hvisible, h⟩ := Slot.rereads_optionalInt32.of_bind hvisible h
    obtain ⟨sync, hsync, hg⟩ := Slot.rereads_optionalText.of_bind hsync h
    cases hg
    simp only [List.map_cons, List.map_nil, hid, hname, hdescription, htype, hsource, hvisible,
      hsync]
    rfl
  · cases h

theorem RoleMember.rereads : Rereads ofDocument? toJson := by
  refine .record [["name"], ["isAdmin"]] (fun m => [some (.text m.name), some (.bool m.admin)])
    (fun _ => rfl) (fun _ => rfl) (by decide) (fun _ => rfl) ?_
  intro ss m hss h
  split at h
  · simp only [List.forall_mem_cons] at hss
    obtain ⟨hname, hadmin, -⟩ := hss
    obtain ⟨name, hname, h⟩ := Slot.rereads_text.of_bind hname h
    obtain ⟨admin, hadmin, hm⟩ := (Slot.rereads_flag false).of_bind hadmin h
    cases hm
    simp only [List.map_cons, List.map_nil, hname, hadmin]
    rfl
  · cases h

theorem RangerRole.rereads : Rereads ofDocument? toJson := by
  refine .record [["id"], ["name"], ["description"], ["isEnabled"], ["users"], ["groups"], ["roles"]]
    (fun r => [some (.ofOption .int r.id), some (.text r.name), some (.ofOption .text r.description),
      some (.bool r.enabled), some (.list (r.users.map RoleMember.toJson)),
      some (.list (r.groups.map RoleMember.toJson)), some (.list (r.roles.map RoleMember.toJson))])
    (fun _ => rfl) (fun _ => rfl) (by decide) (fun _ => rfl) ?_
  intro ss r hss h
  split at h
  · simp only [List.forall_mem_cons] at hss
    obtain ⟨hid, hname, hdescription, henabled, husers, hgroups, hroles, -⟩ := hss
    obtain ⟨id, hid, h⟩ := Slot.rereads_optionalInt64.of_bind hid h
    obtain ⟨name, hname, h⟩ := Slot.rereads_text.of_bind hname h
    obtain ⟨description, hdescription, h⟩ := Slot.rereads_optionalText.of_bind hdescription h
    obtain ⟨enabled, henabled, h⟩ := (Slot.rereads_flag true).of_bind henabled h
    obtain ⟨users, husers, h⟩ := RoleMember.rereads.listOrNull.of_bind husers h
    obtain ⟨groups, hgroups, h⟩ := RoleMember.rereads.listOrNull.of_bind hgroups h
    obtain ⟨roles, hroles, hr⟩ := RoleMember.rereads.listOrNull.of_bind hroles h
    cases hr
    simp only [List.map_cons, List.map_nil, hid, hname, hdescription, henabled, husers, hgroups,
      hroles]
    rfl
  · cases h

/-! ### HDFS -/

theorem HdfsPermission.rereads : Rereads ofDocument? toJson := by
  refine .record fieldNames
    (fun p => [some (.text p.path), some (.ofOption .text p.fileType),
      some (.ofOption .int p.fileSize),
      some (.text p.owner), some (.text p.group), some (.text p.mode),
      some (.ofOption .text p.modificationTime), some (.ofOption .int p.fileCount),
      some (.ofOption .int p.dirCount), some (.ofOption .text p.storagePolicy)])
    (fun _ => rfl) (fun _ => rfl) (by decide) (fun _ => rfl) ?_
  intro ss p hss h
  split at h
  · simp only [List.forall_mem_cons] at hss
    obtain ⟨hpath, hfileType, hsize, howner, hgroup, hmode, htime, hfiles, hdirs, hstorage, -⟩ := hss
    obtain ⟨path, hpath, h⟩ := Slot.rereads_text.of_bind hpath h
    obtain ⟨fileType, hfileType, h⟩ := Slot.rereads_optionalText.of_bind hfileType h
    obtain ⟨size, hsize, h⟩ := Slot.rereads_optionalInt64.of_bind hsize h
    obtain ⟨owner, howner, h⟩ := Slot.rereads_text.of_bind howner h
    obtain ⟨group, hgroup, h⟩ := Slot.rereads_text.of_bind hgroup h
    obtain ⟨mode, hmode, h⟩ := Slot.rereads_text.of_bind hmode h
    obtain ⟨time, htime, h⟩ := Slot.rereads_optionalText.of_bind htime h
    obtain ⟨files, hfiles, h⟩ := Slot.rereads_optionalInt64.of_bind hfiles h
    obtain ⟨dirs, hdirs, h⟩ := Slot.rereads_optionalInt64.of_bind hdirs h
    obtain ⟨storage, hstorage, hp⟩ := Slot.rereads_optionalText.of_bind hstorage h
    cases hp
    simp only [List.map_cons, List.map_nil, hpath, hfileType, hsize, howner, hgroup, hmode, htime,
      hfiles, hdirs, hstorage]
    rfl
  · cases h

/-! ### Rules -/

theorem MapField.rereads : Rereads ofDocument? toJson := by
  refine .record [["expression"], ["value"]] (fun f => [f.expression.map .text, f.value])
    (fun _ => rfl) ?_ (by decide) (fun _ => rfl) ?_
  · rintro ⟨expression, value⟩
    cases expression <;> cases value <;> rfl
  intro ss f hss h
  split at h
  · simp only [List.forall_mem_cons] at hss
    obtain ⟨hexpression, hvalue, -⟩ := hss
    obtain ⟨expression, hexpression, h⟩ := Slot.rereads_omittedText.of_bind hexpression h
    obtain ⟨value, hvalue, hf⟩ := Slot.rereads_omittedJson.of_bind hvalue h
    cases hf
    simp only [List.map_cons, List.map_nil, hexpression, hvalue]
    rfl
  · cases h

theorem Rule.rereads : Rereads ofDocument? toJson := by
  refine .record [["when"], ["log"], ["skip"], ["map"]]
    (fun r => [some (.text r.condition), some (.text r.log), some (.bool r.skip),
      some (.ofOption (fun m => .record (m.map MapField.toJson)) r.map)])
    (fun _ => rfl) (fun _ => rfl) (by decide) (fun _ => rfl) ?_
  intro ss r hss h
  split at h
  · simp only [List.forall_mem_cons] at hss
    obtain ⟨hcondition, hlog, hskip, hmap, -⟩ := hss
    obtain ⟨condition, hcondition, h⟩ := (rereads_text.withDefault rfl).of_bind hcondition h
    obtain ⟨log, hlog, h⟩ := (rereads_text.withDefault rfl).of_bind hlog h
    obtain ⟨skip, hskip, h⟩ := (rereads_spelledBool.withDefault rfl).of_bind hskip h
    obtain ⟨map, hmap, hr⟩ :=
      (MapField.rereads.map.optional fun _ => Json.noConfusion).of_bind hmap h
    cases hr
    simp only [List.map_cons, List.map_nil, hcondition, hlog, hskip, hmap]
    rfl
  · cases h

/-! ### Principals -/

/-- Every principal is read from what is written for it. -/
theorem Principal.ofDocument?_toJson (p : Principal) : ofDocument? p.toJson.document = some p := by
  obtain ⟨skip, email, type, sources⟩ := p
  have hemail : Slot.optional Document.asText? (.written (some (.ofOption .text email))) =
      some email := by
    cases email <;> rfl
  have htype : Slot.optional PrincipalType.ofDocument?
      (.written (some (.ofOption (fun t => .text t.name) type))) = some type := by
    cases type with
    | none => rfl
    | some t => cases t <;> rfl
  have hsources : Slot.withDefault ∅ (Document.asMapOf? Document.asOneOrMany?)
      (.written (some (.record (sources.map .texts)))) = some sources :=
    asMapOf?_record fun l _ => asOneOrMany?_texts l
  have hwrite : toJson ⟨skip, email, type, sources⟩ =
      .object (Document.named [["action"], ["email_address"], ["type"], ["sources"]]
        [some (.text (if skip then "skip" else "map")), some (.ofOption .text email),
          some (.ofOption (fun t => .text t.name) type), some (.record (sources.map .texts))]) := rfl
  rw [hwrite, read_named ofDocument? _ _ (fun _ => rfl) (by decide) rfl]
  simp only [List.map_cons, List.map_nil, hemail, htype, hsources]
  cases skip <;> rfl

theorem Principal.rereads : Rereads ofDocument? toJson := fun _ p _ => p.ofDocument?_toJson

/-! ### Bindings -/

/-- All records are JSON values in key order. -/
def Provenance.Canonical (p : Provenance) : Prop := ∀ records ∈ p.values, ∀ j ∈ records, j.Canonical

/-- The priority is a number of 32 bits, and all records are JSON values in key order. -/
structure IamBinding.Valued (b : IamBinding) : Prop where
  priority : FitsInt32 b.priority
  permissions : b.permissions.Canonical
  principals : b.principals.Canonical

/-- Provenance is left out when it is empty, which is what it is read as then. -/
theorem Provenance.read_written {p : Provenance} (h : p.Canonical) :
    Slot.withDefault ∅ ofDocument? (.written (if p.isEmpty then none else some p.toJson)) =
      some p := by
  split
  · rename_i hempty
    have hentries : p.entries = [] := List.isEmpty_iff.1 hempty
    exact congrArg some (SortedMap.ext hentries.symm)
  · refine asMapOf?_record fun records hrecords => ?_
    have hlist : (Json.list (records.map id)).document.asListOf? Document.toJson? =
        some records := by
      refine asListOf?_list fun j hj => ?_
      rw [id, Json.toJson?_document, h records hrecords j hj]
    rwa [List.map_id] at hlist

theorem IamBinding.ofDocument?_toJson {b : IamBinding} (h : b.Valued) :
    ofDocument? b.toJson.document = some b := by
  obtain ⟨hpriority, hpermissions, hprincipals⟩ := h
  have hpriority : Slot.required Document.asInt32? (.written (some (.int b.priority))) =
      some b.priority := by
    show ((some b.priority : Option Int).filter fun n => decide (FitsInt32 n)) = some b.priority
    exact Option.filter_eq_some_iff.2 ⟨rfl, decide_eq_true hpriority⟩
  have hwrite : b.toJson = .object (Document.named [["resource_type"], ["resource_path"],
      ["principal"], ["role"], ["priority"], ["source_permissions"], ["source_principals"]]
    [some (.text b.type.name), some (.text b.path), some (.text b.principal), some (.text b.role),
      some (.int b.priority), if b.permissions.isEmpty then none else some b.permissions.toJson,
      if b.principals.isEmpty then none else some b.principals.toJson]) := by
    simp only [toJson]
    split <;> split <;> rfl
  rw [hwrite, read_named ofDocument? _ _ (fun _ => rfl) (by decide) rfl]
  simp only [List.map_cons, List.map_nil, hpriority, Provenance.read_written hpermissions,
    Provenance.read_written hprincipals]
  obtain ⟨type, path, principal, role, priority, permissions, principals⟩ := b
  cases type <;> rfl

/-- Provenance that was read has its keys in order. -/
theorem Provenance.canonical_of_read {s : Slot} {p : Provenance} (hs : s.OfJson)
    (h : s.withDefault ∅ ofDocument? = some p) : p.Canonical := by
  cases hs with
  | given j =>
    intro records hrecords x hx
    obtain ⟨j', hlist⟩ := exists_read_of_asMapOf? h records hrecords
    obtain ⟨j'', hread⟩ := exists_read_of_asListOf? hlist x hx
    rw [Json.toJson?_document] at hread
    obtain rfl := Option.some.inj hread
    exact j''.canonical_sortKeys
  | missing =>
    obtain rfl := Option.some.inj h
    exact fun _ hrecords => (List.not_mem_nil hrecords).elim
  | cut =>
    obtain rfl := Option.some.inj h
    exact fun _ hrecords => (List.not_mem_nil hrecords).elim

theorem Document.Slot.fitsInt32_of_required {s : Slot} {n : Int}
    (h : Slot.required Document.asInt32? s = some n) : FitsInt32 n := by
  cases s with
  | given d => exact of_decide_eq_true (Option.filter_eq_some_iff.1 h).2
  | missing => cases h
  | cut => cases h

theorem IamBinding.valued_of_read {j : Json} {b : IamBinding} (h : ofDocument? j.document = some b) :
    b.Valued := by
  obtain ⟨ss, hslots, h⟩ := Option.bind_eq_some_iff.1 h
  have hss := Document.ofJson_of_slots hslots
  split at h
  · simp only [List.forall_mem_cons] at hss
    obtain ⟨-, -, -, -, -, hpermissions, hprincipals, -⟩ := hss
    obtain ⟨type, -, h⟩ := Option.bind_eq_some_iff.1 h
    obtain ⟨path, -, h⟩ := Option.bind_eq_some_iff.1 h
    obtain ⟨principal, -, h⟩ := Option.bind_eq_some_iff.1 h
    obtain ⟨role, -, h⟩ := Option.bind_eq_some_iff.1 h
    obtain ⟨priority, h₅, h⟩ := Option.bind_eq_some_iff.1 h
    obtain ⟨permissions, h₆, h⟩ := Option.bind_eq_some_iff.1 h
    obtain ⟨principals, h₇, hb⟩ := Option.bind_eq_some_iff.1 h
    cases hb
    exact ⟨Slot.fitsInt32_of_required h₅, Provenance.canonical_of_read hpermissions h₆,
      Provenance.canonical_of_read hprincipals h₇⟩
  · cases h

theorem IamBinding.rereads : Rereads ofDocument? toJson := fun _ _ h =>
  ofDocument?_toJson (valued_of_read h)

end Regrant
