import Regrant.Document
import Regrant.Proofs.SortedMap

/-!
# JSON values as documents

A JSON value reads as itself, its objects in key order (`toJson?_document`), so reading it once more
changes nothing (`canonical_sortKeys`).

A record is written with some of its declared fields, each under its first name.  Reading it gives
back what each field holds (`Document.slots_named`).
-/

namespace Regrant

/-- A list is read exactly if each of its items is. -/
theorem mapM_eq_some_iff {α β : Type} {f : α → Option β} {l : List α} {r : List β} :
    l.mapM f = some r ↔ l.map f = r.map some := by
  induction l generalizing r with
  | nil =>
    rw [List.mapM_nil]
    cases r with
    | nil => simp
    | cons b r => simp
  | cons a l ih =>
    rw [List.mapM_cons]
    simp only [Option.bind_eq_bind, Option.bind_eq_some_iff, Option.pure_def, Option.some.injEq, ih]
    constructor
    · rintro ⟨b, hb, r, hr, rfl⟩
      rw [List.map_cons, List.map_cons, hb, hr]
    · intro h
      cases r with
      | nil => cases h
      | cons b r =>
        obtain ⟨hb, hr⟩ := List.cons.inj h
        exact ⟨b, hb, r, hr, rfl⟩

theorem map_eq_map_of_zip {α β γ : Type} {f : α → γ} {g : β → γ} {l : List α} {l' : List β}
    (hlength : l.length = l'.length) (h : ∀ p ∈ l.zip l', f p.1 = g p.2) : l.map f = l'.map g :=
  calc l.map f = ((l.zip l').map Prod.fst).map f := by
        rw [List.map_fst_zip (Nat.le_of_eq hlength)]
    _ = ((l.zip l').map Prod.snd).map g := by
        rw [List.map_map, List.map_map]
        exact List.map_congr_left h
    _ = l'.map g := by rw [List.map_snd_zip (Nat.le_of_eq hlength.symm)]

namespace Json

/-- What holds of a JSON value if it holds of its parts holds of all. -/
@[elab_as_elim]
theorem inductionOn {motive : Json → Prop} (null : motive .null) (bool : ∀ b, motive (.bool b))
    (number : ∀ n, motive (.number n)) (text : ∀ s, motive (.text s))
    (list : ∀ items, (∀ j ∈ items, motive j) → motive (.list items))
    (object : ∀ fields, (∀ f ∈ fields, motive f.2) → motive (.object fields)) (j : Json) :
    motive j :=
  @Json.rec motive (fun items => ∀ j ∈ items, motive j) (fun fields => ∀ f ∈ fields, motive f.2)
    (fun f => motive f.2) null bool number text list object (List.forall_mem_nil _)
    (fun _ _ h hs => List.forall_mem_cons.2 ⟨h, hs⟩) (List.forall_mem_nil _)
    (fun _ _ h hs => List.forall_mem_cons.2 ⟨h, hs⟩) (fun _ _ h => h) j

/-! ### Objects in key order -/

theorem sortKeysList_eq (items : List Json) : sortKeysList items = items.map sortKeys := by
  induction items with
  | nil => rfl
  | cons j items ih => rw [sortKeysList, ih, List.map_cons]

theorem sortKeysFields_eq (fields : List (String × Json)) :
    sortKeysFields fields = fields.map fun f => (f.1, f.2.sortKeys) := by
  induction fields with
  | nil => rfl
  | cons f fields ih =>
    obtain ⟨key, j⟩ := f
    rw [sortKeysFields, ih, List.map_cons]

/-- Every object in the value is in key order. -/
def Canonical (j : Json) : Prop := j.sortKeys = j

theorem canonical_record {fields : Fields} (h : ∀ j ∈ fields.values, Canonical j) :
    Canonical (.record fields) := by
  have hfields : sortKeysFields fields.entries = fields.entries := by
    rw [sortKeysFields_eq]
    refine (List.map_congr_left fun f hf => ?_).trans (List.map_id _)
    exact Prod.ext rfl (h f.2 (List.mem_map_of_mem hf))
  rw [Canonical, record, sortKeys, hfields, ofFields, SortedMap.ofList_entries, record]

/-- Keys that are in order stay where they are. -/
theorem canonical_sortKeys (j : Json) : Canonical j.sortKeys := by
  induction j using inductionOn with
  | null => rfl
  | bool b => rfl
  | number n => rfl
  | text s => rfl
  | list items ih =>
    rw [sortKeys, Canonical, sortKeys, sortKeysList_eq, sortKeysList_eq, List.map_map]
    exact congrArg Json.list (List.map_congr_left ih)
  | object fields ih =>
    rw [sortKeys, ofFields]
    refine canonical_record ?_
    intro j hj
    obtain ⟨f, hf, rfl⟩ := List.mem_map.1 hj
    have hmem := SortedMap.mem_of_mem_ofList hf
    rw [sortKeysFields_eq] at hmem
    obtain ⟨g, hg, rfl⟩ := List.mem_map.1 hmem
    exact ih g hg

/-! ### Reading values -/

theorem documentList_eq (items : List Json) : documentList items = items.map document := by
  induction items with
  | nil => rfl
  | cons j items ih => rw [documentList, ih, List.map_cons]

theorem documentFields_eq (fields : List (String × Json)) :
    documentFields fields = fields.map fun f => (.text f.1, f.2.document) := by
  induction fields with
  | nil => rfl
  | cons f fields ih =>
    obtain ⟨key, value⟩ := f
    rw [documentFields, ih, List.map_cons]

theorem toJsonList?_eq (items : List Document) :
    Document.toJsonList? items = items.mapM Document.toJson? := by
  induction items with
  | nil => rfl
  | cons d items ih => rw [Document.toJsonList?, ih, List.mapM_cons]

theorem toJsonFields?_eq (fields : List (Document × Document)) :
    Document.toJsonFields? fields =
      fields.mapM fun f => do return (← f.1.keyText?, ← f.2.toJson?) := by
  induction fields with
  | nil => rfl
  | cons f fields ih =>
    obtain ⟨key, d⟩ := f
    rw [Document.toJsonFields?, ih, List.mapM_cons]
    cases key.keyText? <;> cases d.toJson? <;> rfl

/-- **A JSON value is read with its objects in key order.** -/
theorem toJson?_document (j : Json) : j.document.toJson? = some j.sortKeys := by
  induction j using inductionOn with
  | null => rfl
  | bool b => rfl
  | number n => rfl
  | text s => rfl
  | list items ih =>
    have hitems : (items.map document).mapM Document.toJson? = some (items.map sortKeys) := by
      rw [mapM_eq_some_iff, List.map_map, List.map_map]
      exact List.map_congr_left ih
    rw [document, documentList_eq, Document.toJson?, toJsonList?_eq, hitems, sortKeys,
      sortKeysList_eq, Option.map_some]
  | object fields ih =>
    have hfields : (fields.map fun f => (Document.text f.1, f.2.document)).mapM
          (fun f => do return (← f.1.keyText?, ← f.2.toJson?)) =
        some (fields.map fun f => (f.1, f.2.sortKeys)) := by
      rw [mapM_eq_some_iff, List.map_map, List.map_map]
      refine List.map_congr_left fun f hf => ?_
      show (f.2.document.toJson?.bind fun j => some (f.1, j)) = _
      rw [ih f hf]
      rfl
    rw [document, documentFields_eq, Document.toJson?, toJsonFields?_eq, hfields, sortKeys,
      sortKeysFields_eq, Option.map_some]

theorem isNull_document (j : Json) : j.document.isNull = true ↔ j = .null := by
  cases j <;> simp [document, Document.isNull]

/-- Only text reads as text. -/
theorem eq_text_of_asText? {value : Json} {s : String} (h : value.document.asText? = some s) :
    value = .text s := by
  cases value <;> cases h
  rfl

end Json

namespace Document

theorem asFields?_object (fields : List (String × Json)) :
    (Json.object fields).document.asFields? = some (fields.map fun f => (f.1, f.2.document)) := by
  rw [Json.document, asFields?, Json.documentFields_eq, mapM_eq_some_iff, List.map_map,
    List.map_map]
  rfl

/-! ### Records -/

namespace Slot

/-- What a JSON value can hold for a field. -/
inductive OfJson : Slot → Prop
  | given (j : Json) : OfJson (.given j.document)
  | missing : OfJson .missing
  | cut : OfJson .cut

/-- What is read where a field was written, or left out. -/
def written : Option Json → Slot
  | some j => .given j.document
  | none => .missing

end Slot

theorem ofJson_of_slots {names : List (List String)} {j : Json} {ss : List Slot}
    (h : j.document.slots names = some ss) : ∀ s ∈ ss, s.OfJson := by
  cases j with
  | list items =>
    rw [Json.document, Json.documentList_eq, slots] at h
    split at h
    · obtain rfl := Option.some.inj h
      intro s hs
      rcases List.mem_append.1 hs with hs | hs
      · obtain ⟨d, hd, rfl⟩ := List.mem_map.1 hs
        obtain ⟨j, -, rfl⟩ := List.mem_map.1 hd
        exact .given j
      · obtain rfl := List.eq_of_mem_replicate hs
        exact .cut
    · cases h
  | object fields =>
    obtain ⟨fs, hfs, hslots⟩ := Option.bind_eq_some_iff.1 h
    rw [asFields?_object] at hfs
    obtain rfl := Option.some.inj hfs
    intro s hs
    have hmem : some s ∈ ss.map some := List.mem_map_of_mem hs
    rw [← mapM_eq_some_iff.1 hslots] at hmem
    obtain ⟨accepted, -, hs⟩ := List.mem_map.1 hmem
    split at hs
    · obtain rfl := Option.some.inj hs
      exact .missing
    · rename_i f hfilter
      have hf : f ∈ fields.map fun f => (f.1, f.2.document) :=
        List.mem_of_mem_filter (hfilter ▸ List.mem_singleton_self f)
      obtain ⟨g, -, rfl⟩ := List.mem_map.1 hf
      obtain rfl := Option.some.inj hs
      exact .given g.2
    · cases hs
  | null => cases h
  | bool b => cases h
  | number n => cases h
  | text s => cases h

/-- Every field has a name, and no two fields share one. -/
def Apart (names : List (List String)) : Prop :=
  (∀ accepted ∈ names, accepted ≠ []) ∧ names.Pairwise fun a b => ∀ key ∈ a, key ∉ b

instance (names : List (List String)) : Decidable (Apart names) :=
  inferInstanceAs (Decidable (_ ∧ _))

/-- Fields under their first names, without those that are left out. -/
def named (names : List (List String)) (values : List (Option Json)) : List (String × Json) :=
  (names.zip values).filterMap fun f => f.2.map (f.1.headD "", ·)

variable {names : List (List String)} {values : List (Option Json)}

theorem exists_of_mem_named {f : String × Json} (hne : ∀ accepted ∈ names, accepted ≠ [])
    (h : f ∈ named names values) : ∃ accepted ∈ names, f.1 ∈ accepted := by
  obtain ⟨⟨accepted, value⟩, hmem, hf⟩ := List.mem_filterMap.1 h
  obtain ⟨j, -, rfl⟩ := Option.map_eq_some_iff.1 hf
  have haccepted := (List.of_mem_zip hmem).1
  obtain ⟨key, keys, rfl⟩ := List.exists_cons_of_ne_nil (hne accepted haccepted)
  exact ⟨_, haccepted, List.mem_cons_self⟩

/-- Each field is found under its names, and nothing else is. -/
theorem filter_named (h : Apart names) {accepted : List String} {value : Option Json}
    (hmem : (accepted, value) ∈ names.zip values) :
    (named names values).filter (fun f => f.1 ∈ accepted) =
      (value.map (accepted.headD "", ·)).toList := by
  induction names generalizing values with
  | nil => cases hmem
  | cons first names ih =>
    obtain ⟨hfirst, hapart⟩ := List.pairwise_cons.1 h.2
    obtain ⟨hfirstne, hne⟩ := List.forall_mem_cons.1 h.1
    cases values with
    | nil => cases hmem
    | cons v values =>
      have hcons : named (first :: names) (v :: values) =
          (v.map (first.headD "", ·)).toList ++ named names values := by
        cases v <;> rfl
      have hhead : first.headD "" ∈ first := by
        obtain ⟨key, keys, rfl⟩ := List.exists_cons_of_ne_nil hfirstne
        exact List.mem_cons_self
      rw [hcons, List.filter_append]
      rw [List.zip_cons_cons] at hmem
      rcases List.mem_cons.1 hmem with heq | hmem
      · obtain ⟨rfl, rfl⟩ := Prod.mk.inj heq
        have hrest : (named names values).filter (fun f => f.1 ∈ accepted) = [] := by
          rw [List.filter_eq_nil_iff]
          intro f hf hin
          obtain ⟨other, hother, hkey⟩ := exists_of_mem_named hne hf
          exact hfirst other hother f.1 (of_decide_eq_true hin) hkey
        rw [hrest, List.append_nil, List.filter_eq_self]
        intro f hf
        obtain ⟨j, -, rfl⟩ := Option.map_eq_some_iff.1 (Option.mem_toList.1 hf)
        exact decide_eq_true hhead
      · have hskip : (v.map (first.headD "", ·)).toList.filter (fun f => f.1 ∈ accepted) = [] := by
          rw [List.filter_eq_nil_iff]
          intro f hf hin
          obtain ⟨j, -, rfl⟩ := Option.map_eq_some_iff.1 (Option.mem_toList.1 hf)
          exact hfirst accepted (List.of_mem_zip hmem).1 _ hhead (of_decide_eq_true hin)
        rw [hskip, List.nil_append]
        exact ih ⟨hne, hapart⟩ hmem

/-- **What is written for the fields of a record is read back.** -/
theorem slots_named (h : Apart names) (hlength : values.length = names.length) :
    (Json.object (named names values)).document.slots names = some (values.map Slot.written) := by
  show ((Json.object (named names values)).document.asFields?.bind fun fields => _) = _
  rw [asFields?_object, Option.bind_some, mapM_eq_some_iff]
  rw [List.map_map]
  refine map_eq_map_of_zip hlength.symm ?_
  rintro ⟨accepted, value⟩ hmem
  have hfilter := filter_named h hmem
  simp only [List.filter_map]
  cases value with
  | none => simp [Function.comp_def, hfilter, Slot.written]
  | some j => simp [Function.comp_def, hfilter, Slot.written]

end Document

end Regrant
