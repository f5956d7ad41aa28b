import Mathlib.Data.List.Nodup
import Regrant.Principal.Mapper
import Regrant.Proofs.Run
import Regrant.Proofs.SortedMap
import Regrant.Proofs.Source

/-!
# What a mapper of identities yields

A mapper goes on up to the first record that fails (`run_made`).  If it succeeds, all its records
could be read and it made one principal of each (`exists_records_of_run`).  Whatever the rules
decide, such a principal has the identity of its record as its only source (`sources_of_map`), so
records with different names never meet.
-/

namespace Regrant

namespace IdentityMapper

variable {m : IdentityMapper} {r : IdentityRecord} {p q : Principal} {ps : List Principal}

/-- A principal of an identity is skipped or mapped. -/
theorem skipped_or_mapped_of_map (h : (m.map r).outcome = .ok p) :
    p = .skipped m.key r.name ∨ ∃ type email, p = .mapped type email m.key r.name := by
  obtain ⟨d, -, hp⟩ := Run.bind_eq_ok_iff.1 h
  cases haction : d.action with
  | noMatch => rw [haction] at hp; cases hp
  | skip => rw [haction] at hp; cases hp; exact Or.inl rfl
  | map =>
    rw [haction] at hp
    rw [Run.outcome_ofExcept, principal] at hp
    split at hp <;> cases hp
    exact Or.inr ⟨_, _, rfl⟩

/-- **The identity of the record is the only source.** -/
theorem sources_of_map (h : (m.map r).outcome = .ok p) :
    p.sources = Principal.source m.key r.name := by
  obtain rfl | ⟨type, email, rfl⟩ := skipped_or_mapped_of_map h <;> rfl

/-! ### All records -/

/-- What a mapper makes of a record that may be broken. -/
def made (m : IdentityMapper) (record : Except Failure IdentityRecord) : Except Failure Principal :=
  record.bind fun r => (m.map r).outcome

/-- The principals of all records in order, or the failure of the first that fails. -/
theorem outcome_mapAll (records : List (Except Failure IdentityRecord)) :
    (m.mapAll records).outcome = gathered ((records.map m.made).map (·.map some)) := by
  induction records with
  | nil => rfl
  | cons record records ih =>
    cases record with
    | error e => rfl
    | ok r =>
      have hmade : m.made (.ok r) = (m.map r).outcome := rfl
      rw [mapAll, Run.outcome_bind, List.map_cons, List.map_cons, hmade]
      cases (m.map r).outcome with
      | error e => rfl
      | ok p =>
        show (m.mapAll records >>= fun ps => pure (p :: ps)).outcome = _
        rw [Run.outcome_bind, ih]
        show _ = gathered (.ok (some p) :: _)
        rw [gathered_some]
        cases gathered ((records.map m.made).map (·.map some)) <;> rfl

/-- **A mapper goes on up to the first record that fails.** -/
theorem run_made {records : List (Except Failure IdentityRecord)} (h : m.records = .ok records) :
    (∃ ps : List Principal, records.map m.made = ps.map .ok ∧ m.run.outcome = .ok ps) ∨
      ∃ (ps : List Principal) (e : Failure) (rest : List (Except Failure Principal)),
        records.map m.made = ps.map .ok ++ .error e :: rest ∧ m.run.outcome = .error e := by
  have hrun : m.run.outcome = gathered ((records.map m.made).map (·.map some)) := by
    rw [run, h, Run.outcome_bind]
    exact outcome_mapAll records
  have hsome : ∀ ps : List Principal,
      (ps.map .ok).map (Except.map some) = (ps.map some).map (.ok : _ → Except Failure _) := by
    intro ps
    rw [List.map_map, List.map_map]
    rfl
  rcases ok_or_first_error (records.map m.made) with ⟨ps, hps⟩ | ⟨ps, e, rest, hps⟩
  · refine Or.inl ⟨ps, hps, ?_⟩
    rw [hrun, hps, hsome, gathered_map_ok]
    simp
  · refine Or.inr ⟨ps, e, rest, hps, ?_⟩
    rw [hrun, hps, List.map_append, hsome, List.map_cons]
    exact gathered_map_ok_append_error _ _ _

/-- **One principal for each record, in order.** -/
theorem exists_records_of_run (h : m.run.outcome = .ok ps) :
    ∃ rs, m.records = Source.ofList rs ∧ rs.map (fun r => (m.map r).outcome) = ps.map .ok := by
  obtain ⟨records, hrecords, -⟩ := Run.bind_eq_ok_iff.1 h
  replace hrecords : m.records = .ok records := hrecords
  obtain ⟨ps', hps, hok⟩ | ⟨_, _, _, -, herror⟩ := run_made hrecords
  · rw [h] at hok
    cases hok
    rcases ok_or_first_error records with ⟨rs, rfl⟩ | ⟨rs, e, rest, rfl⟩
    · refine ⟨rs, hrecords, ?_⟩
      rw [← hps, List.map_map]
      rfl
    · have hmem : (.error e : Except Failure Principal) ∈ ps.map .ok := by
        rw [← hps]
        exact List.mem_map_of_mem (List.mem_append_right _ List.mem_cons_self)
      simp at hmem
  · rw [h] at herror
    cases herror

/-! ### One principal -/

/-- A principal that the mapper makes of one of its records. -/
def Yields (m : IdentityMapper) (p : Principal) : Prop :=
  ∃ rs, m.records = Source.ofList rs ∧ ∃ r ∈ rs, (m.map r).outcome = .ok p

theorem yields_of_run (h : m.run.outcome = .ok ps) (hp : p ∈ ps) : m.Yields p := by
  obtain ⟨rs, hrecords, hrs⟩ := exists_records_of_run h
  have hmem : (.ok p : Except Failure Principal) ∈ rs.map fun r => (m.map r).outcome := by
    rw [hrs]
    exact List.mem_map_of_mem hp
  obtain ⟨r, hr, hmap⟩ := List.mem_map.1 hmem
  exact ⟨rs, hrecords, r, hr, hmap⟩

theorem Yields.exists_source (h : m.Yields p) :
    ∃ name, p.sources = Principal.source m.key name := by
  obtain ⟨-, -, r, -, hmap⟩ := h
  exact ⟨r.name, sources_of_map hmap⟩

end IdentityMapper

/-- No two records have one name. -/
def DistinctNames (records : Source IdentityRecord) : Prop :=
  ∀ rs, records = Source.ofList rs → (rs.map (·.name)).Nodup

namespace Principal

theorem get?_source (key name key' : String) : (source key name).get? key' =
    if key' = key then some [name] else none := by
  rw [source, SortedMap.insert, SortedMap.get?_alter]
  rfl

theorem source_inj {key key' name name' : String} (h : source key name = source key' name') :
    key = key' ∧ name = name' := by
  have hget := get?_source key name key
  rw [h, get?_source, if_pos rfl] at hget
  split at hget
  · cases hget
    exact ⟨‹_›, rfl⟩
  · cases hget

end Principal

namespace IdentityMapper

variable {m : IdentityMapper} {p q : Principal}

/-- Among records with distinct names, only one yields a principal with some source. -/
theorem Yields.eq_of_sources (hd : DistinctNames m.records) (hp : m.Yields p) (hq : m.Yields q)
    (h : p.sources = q.sources) : p = q := by
  obtain ⟨rs, hrecords, r, hr, hmap⟩ := hp
  obtain ⟨rs', hrecords', r', hr', hmap'⟩ := hq
  obtain rfl : rs = rs' := Source.ofList_inj (hrecords.symm.trans hrecords')
  rw [sources_of_map hmap, sources_of_map hmap'] at h
  obtain rfl : r = r' :=
    List.inj_on_of_nodup_map (hd rs hrecords) hr hr' (Principal.source_inj h).2
  rw [hmap] at hmap'
  cases hmap'
  rfl

end IdentityMapper

end Regrant
