import Regrant.Model.Principal
import Regrant.Proofs.Document

/-!
# Reading what was read

A model is read from documents that differ in much: a field can have other names, be missing or
null, and a list can be written as its only item.  It is written in one way.  `Rereads` says that
what a document was read as is read again from what is written for it.

Each way of reading a value, a field or a record has a lemma that says so if its parts do.
`Rereads.record` puts the fields of a record together.
-/

namespace Regrant

open Document (Slot)

variable {α β : Type}

/-- What any JSON value is read as is read again from what is written for it. -/
def Rereads (read : Document → Option α) (write : α → Json) : Prop :=
  ∀ (j : Json) (x : α), read j.document = some x → read (write x).document = some x

/-- Reading and writing once more. -/
def recode (read : Document → Option α) (write : α → Json) (j : Json) : Option Json :=
  (read j.document).map write

/-- Writing what was read changes nothing from the second time on. -/
theorem Rereads.recode_recode {read : Document → Option α} {write : α → Json}
    (h : Rereads read write) (j : Json) : (recode read write j).bind (recode read write) =
      recode read write j := by
  rw [recode]
  cases hread : read j.document with
  | none => rfl
  | some x =>
    rw [Option.map_some, Option.bind_some, recode, h j x hread, Option.map_some]

/-! ### Values -/

theorem rereads_text : Rereads Document.asText? .text := by
  intro j s h
  rw [Json.eq_text_of_asText? h] at h
  exact h

theorem rereads_bool : Rereads Document.asBool? .bool := fun _ _ _ => rfl

theorem rereads_spelledBool : Rereads Document.asSpelledBool? .bool := fun _ _ _ => rfl

theorem asInt?_int (n : Int) : (Json.int n).document.asInt? = some n := rfl

/-- A whole number of some width is written as it is. -/
theorem rereads_int (p : Int → Bool) : Rereads (fun d => d.asInt?.filter p) .int := by
  intro j n h
  obtain ⟨-, hp⟩ := Option.filter_eq_some_iff.1 h
  exact Option.filter_eq_some_iff.2 ⟨asInt?_int n, hp⟩

/-- JSON values are written with their keys in order, which is how they were read. -/
theorem rereads_json : Rereads Document.toJson? id := by
  intro j x h
  rw [Json.toJson?_document] at h
  obtain rfl := Option.some.inj h
  rw [id, Json.toJson?_document, Json.canonical_sortKeys]

/-- Also a text alone is written as a list. -/
theorem asOneOrMany?_texts (l : List String) : (Json.texts l).document.asOneOrMany? = some l := by
  show (Json.documentList (l.map .text)).mapM Document.asExactText? = some l
  rw [Json.documentList_eq, mapM_eq_some_iff, List.map_map, List.map_map]
  rfl

/-! ### Lists and maps -/

/-- The items of a list were read from JSON values. -/
theorem exists_read_of_asListOf? {read : Document → Option α} {j : Json} {l : List α}
    (h : j.document.asListOf? read = some l) : ∀ x ∈ l, ∃ j : Json, read j.document = some x := by
  cases j with
  | list items =>
    have hread : (Json.documentList items).mapM read = some l := h
    rw [Json.documentList_eq, mapM_eq_some_iff, List.map_map] at hread
    intro x hx
    have hmem : some x ∈ l.map some := List.mem_map_of_mem hx
    rw [← hread] at hmem
    obtain ⟨j, -, hj⟩ := List.mem_map.1 hmem
    exact ⟨j, hj⟩
  | null => cases h
  | bool b => cases h
  | number n => cases h
  | text s => cases h
  | object fields => cases h

theorem asListOf?_list {read : Document → Option α} {write : α → Json} {l : List α}
    (h : ∀ x ∈ l, read (write x).document = some x) :
    (Json.list (l.map write)).document.asListOf? read = some l := by
  show (Json.documentList (l.map write)).mapM read = some l
  rw [Json.documentList_eq, mapM_eq_some_iff, List.map_map, List.map_map]
  exact List.map_congr_left h

theorem Rereads.list {read : Document → Option α} {write : α → Json} (h : Rereads read write) :
    Rereads (Document.asListOf? read) (fun l => .list (l.map write)) := by
  intro j l hl
  refine asListOf?_list ?_
  intro x hx
  obtain ⟨j', hj'⟩ := exists_read_of_asListOf? hl x hx
  exact h j' x hj'

/-- The values of a map were read from JSON values. -/
theorem exists_read_of_asMapOf? {read : Document → Option α} {j : Json} {m : SortedMap String α}
    (h : j.document.asMapOf? read = some m) :
    ∀ x ∈ m.values, ∃ j : Json, read j.document = some x := by
  obtain ⟨fs, hfs, h⟩ := Option.bind_eq_some_iff.1 h
  obtain ⟨entries, hentries, hm⟩ := Option.bind_eq_some_iff.1 h
  obtain rfl := Option.some.inj hm
  cases j with
  | object fields =>
    rw [Document.asFields?_object] at hfs
    obtain rfl := Option.some.inj hfs
    rw [mapM_eq_some_iff, List.map_map] at hentries
    intro x hx
    obtain ⟨e, he, rfl⟩ := List.mem_map.1 hx
    have hmem : some e ∈ entries.map some :=
      List.mem_map_of_mem (SortedMap.mem_of_mem_ofList he)
    rw [← hentries] at hmem
    obtain ⟨f, -, hf⟩ := List.mem_map.1 hmem
    obtain ⟨y, hy, rfl⟩ := Option.map_eq_some_iff.1 hf
    exact ⟨f.2, hy⟩
  | null => cases hfs
  | bool b => cases hfs
  | number n => cases hfs
  | text s => cases hfs
  | list items => cases hfs

theorem asMapOf?_record {read : Document → Option α} {write : α → Json} {m : SortedMap String α}
    (h : ∀ x ∈ m.values, read (write x).document = some x) :
    (Json.record (m.map write)).document.asMapOf? read = some m := by
  have hentries : ((m.map write).entries.map fun f => (f.1, f.2.document)).mapM
      (fun f => (read f.2).map (f.1, ·)) = some m.entries := by
    show (((m.entries.map fun e => (e.1, write e.2)).map fun f => (f.1, f.2.document)).mapM
      fun f => (read f.2).map (f.1, ·)) = some m.entries
    rw [mapM_eq_some_iff, List.map_map, List.map_map]
    refine List.map_congr_left fun e he => ?_
    show (read (write e.2).document).map (e.1, ·) = some e
    rw [h e.2 (List.mem_map_of_mem he)]
    rfl
  show ((Json.record (m.map write)).document.asFields?.bind fun fields => _) = some m
  rw [Json.record, Document.asFields?_object, Option.bind_some, hentries]
  exact congrArg some m.ofList_entries

theorem Rereads.map {read : Document → Option α} {write : α → Json} (h : Rereads read write) :
    Rereads (Document.asMapOf? read) (fun m => .record (m.map write)) := by
  intro j m hm
  refine asMapOf?_record ?_
  intro x hx
  obtain ⟨j', hj'⟩ := exists_read_of_asMapOf? hm x hx
  exact h j' x hj'

/-! ### Fields -/

/-- What is read where a JSON value holds a field is read again from what is written for it. -/
def Document.Slot.Rereads (read : Slot → Option β) (write : β → Option Json) : Prop :=
  ∀ (s : Slot) (x : β), s.OfJson → read s = some x → read (.written (write x)) = some x

/-- What a record made of a field is made of it again. -/
theorem Document.Slot.Rereads.of_bind {read : Slot → Option β} {write : β → Option Json}
    (h : Slot.Rereads read write) {s : Slot} {f : β → Option α} {x : α} (hs : s.OfJson)
    (hx : (read s).bind f = some x) :
    ∃ y, read (.written (write y)) = some y ∧ f y = some x := by
  obtain ⟨y, hy, hx⟩ := Option.bind_eq_some_iff.1 hx
  exact ⟨y, h s y hs hy, hx⟩

section

variable {read : Document → Option α} {write : α → Json}

theorem Rereads.required (h : Rereads read write) :
    Slot.Rereads (Slot.required read) (fun x => some (write x)) := by
  intro s x hs hx
  cases hs with
  | given j => exact h j x hx
  | missing => cases hx
  | cut => cases hx

/-- A missing field is written, so its default has to be read again as well. -/
theorem Rereads.withDefault (h : Rereads read write) {default : α}
    (hdefault : read (write default).document = some default) :
    Slot.Rereads (Slot.withDefault default read) (fun x => some (write x)) := by
  intro s x hs hx
  cases hs with
  | given j => exact h j x hx
  | missing =>
    obtain rfl := Option.some.inj hx
    exact hdefault
  | cut =>
    obtain rfl := Option.some.inj hx
    exact hdefault

/-- A value that is not null is read as one that is not null. -/
theorem asOption?_document {j : Json} (h : j ≠ .null) :
    j.document.asOption? read = (read j.document).map some :=
  if_neg (mt (Json.isNull_document j).1 h)

/-- An optional value was missing or null, or it was read from something else. -/
theorem Document.Slot.optional_cases {s : Slot} {x : Option α} (hs : s.OfJson)
    (h : s.optional read = some x) :
    x = none ∨ ∃ (j : Json) (a : α), j ≠ .null ∧ read j.document = some a ∧ x = some a := by
  cases hs with
  | given j =>
    by_cases hnull : j = .null
    · subst hnull
      exact Or.inl (Option.some.inj h).symm
    · have hread : (read j.document).map some = some x := asOption?_document hnull ▸ h
      obtain ⟨a, ha, rfl⟩ := Option.map_eq_some_iff.1 hread
      exact Or.inr ⟨j, a, hnull, ha, rfl⟩
  | missing => exact Or.inl (Option.some.inj h).symm
  | cut => exact Or.inl (Option.some.inj h).symm

/-- A value that may be missing is written as null then. -/
theorem Rereads.optional (h : Rereads read write) (hnull : ∀ x, write x ≠ .null) :
    Slot.Rereads (Slot.optional read) (fun x => some (.ofOption write x)) := by
  intro s x hs hx
  rcases Slot.optional_cases hs hx with rfl | ⟨j, a, -, ha, rfl⟩
  · rfl
  · show (write a).document.asOption? read = some (some a)
    rw [asOption?_document (hnull a), h j a ha, Option.map_some]

/-- A value that may be missing is left out then. -/
theorem Rereads.omitted (h : Rereads read write)
    (hnull : ∀ j x, j ≠ .null → read (Json.document j) = some x → write x ≠ .null) :
    Slot.Rereads (Slot.optional read) (fun x => x.map write) := by
  intro s x hs hx
  rcases Slot.optional_cases hs hx with rfl | ⟨j, a, hj, ha, rfl⟩
  · rfl
  · show (write a).document.asOption? read = some (some a)
    rw [asOption?_document (hnull j a hj ha), h j a ha, Option.map_some]

/-- A list that may be missing or null is written as a list. -/
theorem Rereads.listOrNull (h : Rereads read write) :
    Slot.Rereads (Slot.listOrNull read) (fun l => some (.list (l.map write))) := by
  intro s l hs hl
  obtain ⟨x, hx, rfl⟩ := Option.map_eq_some_iff.1 hl
  show ((Json.list _).document.asOption? (Document.asListOf? read)).map (·.getD []) = _
  rw [asOption?_document (by simp)]
  rcases Slot.optional_cases hs hx with rfl | ⟨j, a, -, ha, rfl⟩
  · rfl
  · rw [Option.getD_some, h.list j a ha]
    rfl

end

/-! ### Records -/

/-- A record is read field by field from what is written for its fields. -/
theorem read_named (read : Document → Option α) {fields : List Slot → Option α}
    (names : List (List String)) (values : List (Option Json))
    (hread : ∀ d, read d = (d.slots names).bind fields) (hnames : Document.Apart names)
    (hlength : values.length = names.length) :
    read (Json.object (Document.named names values)).document =
      fields (values.map Slot.written) := by
  rw [hread, Document.slots_named hnames hlength, Option.bind_some]

/-- **A record is read again if its fields are.** -/
theorem Rereads.record {read : Document → Option α} {write : α → Json}
    {fields : List Slot → Option α} (names : List (List String))
    (values : α → List (Option Json)) (hread : ∀ d, read d = (d.slots names).bind fields)
    (hwrite : ∀ x, write x = .object (Document.named names (values x)))
    (hnames : Document.Apart names) (hlength : ∀ x, (values x).length = names.length)
    (h : ∀ ss x, (∀ s ∈ ss, s.OfJson) → fields ss = some x →
      fields ((values x).map Slot.written) = some x) : Rereads read write := by
  intro j x hx
  rw [hread] at hx
  obtain ⟨ss, hss, hx⟩ := Option.bind_eq_some_iff.1 hx
  rw [hwrite, read_named read names _ hread hnames (hlength x)]
  exact h ss x (Document.ofJson_of_slots hss) hx

end Regrant
