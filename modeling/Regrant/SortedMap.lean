/-!
# Maps in key order

A `SortedMap` is a list of entries whose keys ascend strictly.  The order is part of the
type, so two maps with the same entries are equal and everything that is printed from a
map comes out in key order.

`alter` is the one way to write into a map; `get?_alter_self` and `get?_alter_ne` say what
it does to the view `get?`.
-/

namespace Regrant

/-- Entries in strictly ascending key order. -/
structure SortedMap (κ : Type) (α : Type) [Ord κ] where
  entries : List (κ × α)
  sorted : entries.Pairwise (fun a b => compare a.1 b.1 = .lt)

namespace SortedMap

variable {κ α β : Type} [Ord κ]

theorem ext {m n : SortedMap κ α} (h : m.entries = n.entries) : m = n := by
  cases m; cases n; cases h; rfl

def empty : SortedMap κ α := ⟨[], .nil⟩

instance : EmptyCollection (SortedMap κ α) := ⟨empty⟩

instance : Inhabited (SortedMap κ α) := ⟨empty⟩

instance [BEq κ] [BEq α] : BEq (SortedMap κ α) := ⟨fun m n => m.entries == n.entries⟩

def isEmpty (m : SortedMap κ α) : Bool := m.entries.isEmpty

def size (m : SortedMap κ α) : Nat := m.entries.length

def keys (m : SortedMap κ α) : List κ := m.entries.map (·.1)

def values (m : SortedMap κ α) : List α := m.entries.map (·.2)

/-- The value that the first entry with key `k` holds. -/
def lookup (k : κ) : List (κ × α) → Option α
  | [] => none
  | (k', a) :: rest => if compare k k' = .eq then some a else lookup k rest

def get? (m : SortedMap κ α) (k : κ) : Option α := lookup k m.entries

def contains (m : SortedMap κ α) (k : κ) : Bool := (m.get? k).isSome

/-- Write `f` of the old value at `k`, keeping the keys in order. -/
def alterEntries (k : κ) (f : Option α → α) : List (κ × α) → List (κ × α)
  | [] => [(k, f none)]
  | (k', a) :: rest =>
    match compare k k' with
    | .lt => (k, f none) :: (k', a) :: rest
    | .eq => (k', f (some a)) :: rest
    | .gt => (k', a) :: alterEntries k f rest

theorem mem_alterEntries {k : κ} {f : Option α → α} {l : List (κ × α)} {e : κ × α}
    (h : e ∈ alterEntries k f l) : e.1 = k ∨ ∃ e' ∈ l, e'.1 = e.1 := by
  induction l with
  | nil => simp [alterEntries] at h; exact Or.inl (by rw [h])
  | cons hd tl ih =>
    obtain ⟨k', a⟩ := hd
    rw [alterEntries] at h
    split at h
    · rcases List.mem_cons.1 h with h | h
      · exact Or.inl (by rw [h])
      · exact Or.inr ⟨e, h, rfl⟩
    · rcases List.mem_cons.1 h with h | h
      · exact Or.inr ⟨(k', a), List.mem_cons_self, by rw [h]⟩
      · exact Or.inr ⟨e, List.mem_cons_of_mem _ h, rfl⟩
    · rcases List.mem_cons.1 h with h | h
      · exact Or.inr ⟨(k', a), List.mem_cons_self, by rw [h]⟩
      · rcases ih h with h | ⟨e', h, he⟩
        · exact Or.inl h
        · exact Or.inr ⟨e', List.mem_cons_of_mem _ h, he⟩

theorem sorted_alterEntries [Std.TransOrd κ] (k : κ) (f : Option α → α) {l : List (κ × α)}
    (h : l.Pairwise (fun a b => compare a.1 b.1 = .lt)) :
    (alterEntries k f l).Pairwise (fun a b => compare a.1 b.1 = .lt) := by
  induction l with
  | nil => simp [alterEntries]
  | cons hd tl ih =>
    obtain ⟨k', a⟩ := hd
    obtain ⟨hk, htl⟩ := List.pairwise_cons.1 h
    rw [alterEntries]
    split
    · rename_i hlt
      refine List.pairwise_cons.2 ⟨fun e he => ?_, h⟩
      rcases List.mem_cons.1 he with he | he
      · rw [he]; exact hlt
      · exact Std.TransCmp.lt_trans hlt (hk e he)
    · exact List.pairwise_cons.2 ⟨hk, htl⟩
    · rename_i hgt
      refine List.pairwise_cons.2 ⟨fun e he => ?_, ih htl⟩
      rcases mem_alterEntries he with he | ⟨e', hm, he⟩
      · rw [he]; exact Std.OrientedCmp.lt_of_gt hgt
      · rw [← he]; exact hk e' hm

/-- Write `f` of the value at `k`, or of `none` if there is none. -/
def alter [Std.TransOrd κ] (m : SortedMap κ α) (k : κ) (f : Option α → α) : SortedMap κ α :=
  ⟨alterEntries k f m.entries, sorted_alterEntries k f m.sorted⟩

def insert [Std.TransOrd κ] (m : SortedMap κ α) (k : κ) (a : α) : SortedMap κ α :=
  m.alter k (fun _ => a)

/-- The map that a list of entries describes; of two entries with one key the later counts. -/
def ofList [Std.TransOrd κ] (l : List (κ × α)) : SortedMap κ α :=
  l.foldl (fun m e => m.insert e.1 e.2) ∅

def map (f : α → β) (m : SortedMap κ α) : SortedMap κ β :=
  ⟨m.entries.map (fun e => (e.1, f e.2)), by
    have h := m.sorted
    rw [List.pairwise_map]
    exact h⟩

theorem lookup_alterEntries_self [Std.ReflOrd κ] (k : κ) (f : Option α → α) (l : List (κ × α))
    (h : l.Pairwise (fun a b => compare a.1 b.1 = .lt)) [Std.TransOrd κ] :
    lookup k (alterEntries k f l) = some (f (lookup k l)) := by
  induction l with
  | nil => simp [alterEntries, lookup, Std.ReflCmp.compare_self]
  | cons hd tl ih =>
    obtain ⟨k', a⟩ := hd
    obtain ⟨hk, htl⟩ := List.pairwise_cons.1 h
    rw [alterEntries]
    split
    · rename_i hlt
      have hnone : lookup k tl = none := by
        clear ih htl
        induction tl with
        | nil => rfl
        | cons hd' tl' ih' =>
          have h1 : compare k hd'.1 = .lt :=
            Std.TransCmp.lt_trans hlt (hk hd' List.mem_cons_self)
          rw [lookup, if_neg (by rw [h1]; decide)]
          exact ih' (h.sublist (by simp)) (fun e he => hk e (List.mem_cons_of_mem _ he))
      simp [lookup, hlt, hnone, Std.ReflCmp.compare_self]
    · rename_i heq
      simp [lookup, heq]
    · rename_i hgt
      simp [lookup, hgt, ih htl]

theorem lookup_alterEntries_ne [Std.TransOrd κ] {k k' : κ} (hne : compare k' k ≠ .eq)
    (f : Option α → α) (l : List (κ × α)) :
    lookup k' (alterEntries k f l) = lookup k' l := by
  induction l with
  | nil => simp [alterEntries, lookup, hne]
  | cons hd tl ih =>
    obtain ⟨k₀, a⟩ := hd
    rw [alterEntries]
    split
    · simp [lookup, hne]
    · rename_i heq
      have : compare k' k₀ ≠ .eq := fun hc =>
        hne (Std.TransCmp.eq_trans hc (Std.OrientedCmp.eq_symm heq))
      simp [lookup, this]
    · simp [lookup, ih]

theorem get?_alter_self [Std.TransOrd κ] (m : SortedMap κ α) (k : κ) (f : Option α → α) :
    (m.alter k f).get? k = some (f (m.get? k)) :=
  lookup_alterEntries_self k f m.entries m.sorted

theorem get?_alter_ne [Std.TransOrd κ] (m : SortedMap κ α) {k k' : κ}
    (h : compare k' k ≠ .eq) (f : Option α → α) : (m.alter k f).get? k' = m.get? k' :=
  lookup_alterEntries_ne h f m.entries

theorem get?_insert_self [Std.TransOrd κ] (m : SortedMap κ α) (k : κ) (a : α) :
    (m.insert k a).get? k = some a := get?_alter_self m k _

end SortedMap

/-- The members of a list by key, keys ascending, each group in list order. -/
def groupBy {κ α : Type} [Ord κ] [Std.TransOrd κ] (key : α → κ) (l : List α) :
    SortedMap κ (List α) :=
  l.foldl (fun m a => m.alter (key a) (fun g => g.getD [] ++ [a])) ∅

/-- The distinct members of a list, ascending. -/
def sortedDistinct {κ : Type} [Ord κ] [Std.TransOrd κ] (l : List κ) : List κ :=
  (l.foldl (fun m k => m.insert k ()) (∅ : SortedMap κ Unit)).keys

end Regrant
