import Mathlib.Data.List.TakeWhile
import Regrant.Model.Table
import Regrant.Proofs.Location.Spelling

/-!
# The path of a table

A table lies at the path that its location spells, whichever way it is spelled
(`Table.fsPath_of_spells`), so that it meets the permissions of that path.

The parser changes a spelling before it is decoded: it drops segments of dots and encodes further
characters.  The first does not happen to a path without such segments, since a segment that the
parser takes for dots spells just dots (`Spells.eq_of_spellsDots`).  The second makes another
spelling of the same path.
-/

namespace Regrant

namespace Location

open Plain

variable {bare escaped : Char → Prop} {cs es : List Char}

/-! ### Segments of dots -/

/-- Only capital letters change. -/
theorem eq_or_of_toLower_eq {c d : Char} (h : c.toLower = d) :
    c = d ∨ (0x41 ≤ c.toNat ∧ c.toNat ≤ 0x5a ∧ c.toNat + 0x20 = d.toNat) := by
  by_cases hc : 0x41 ≤ c.toNat ∧ c.toNat ≤ 0x5a
  · have hupper : ∀ n ≤ 0x5a, 0x41 ≤ n → (Char.ofNat n).toLower.toNat = n + 0x20 := by decide
    have hlower := hupper c.toNat hc.2 hc.1
    rw [Char.ofNat_toNat, h] at hlower
    exact .inr ⟨hc.1, hc.2, hlower.symm⟩
  · have hsame : c.toLower = c := by
      refine dif_neg fun hval => hc ?_
      exact ⟨UInt32.le_iff_toNat_le.1 hval.1, UInt32.le_iff_toNat_le.1 hval.2⟩
    exact .inl (hsame.symm.trans h)

/-- What does not come out as a small letter has not changed. -/
theorem eq_of_toLower_eq {c d : Char} (hd : d.toNat < 0x61) (h : c.toLower = d) : c = d :=
  (eq_or_of_toLower_eq h).resolve_right (by omega)

theorem hexValue?_of_toLower_eq {c : Char} (h : c.toLower = 'e') : hexValue? c = some 14 := by
  obtain rfl | ⟨-, -, hc⟩ := eq_or_of_toLower_eq h
  · rfl
  · obtain rfl : c = 'E' := Char.toNat_inj.1 (Nat.add_right_cancel hc)
    rfl

/-- Dots, each written out or by its byte. -/
abbrev SpellsDots : List Char → List Char → Prop := Spells (· = '.') (· = '.')

section

variable {dots rest : List Char}
  (hrest : ∀ es : List Char, es.map Char.toLower = rest → SpellsDots dots es)

include hrest

theorem spellsDots_bare (h : cs.map Char.toLower = '.' :: rest) : SpellsDots ('.' :: dots) cs := by
  obtain ⟨c, es, rfl, hc, hes⟩ := List.map_eq_cons_iff.1 h
  obtain rfl := eq_of_toLower_eq (by decide) hc
  exact .bare rfl (hrest es hes)

theorem spellsDots_escaped (h : cs.map Char.toLower = '%' :: '2' :: 'e' :: rest) :
    SpellsDots ('.' :: dots) cs := by
  obtain ⟨c, cs₁, rfl, hc, hcs₁⟩ := List.map_eq_cons_iff.1 h
  obtain ⟨a, cs₂, rfl, ha, hcs₂⟩ := List.map_eq_cons_iff.1 hcs₁
  obtain ⟨b, es, rfl, hb, hes⟩ := List.map_eq_cons_iff.1 hcs₂
  obtain rfl := eq_of_toLower_eq (by decide) hc
  obtain rfl := eq_of_toLower_eq (by decide) ha
  have ho : Octets (String.utf8EncodeChar '.') ['%', '2', b] :=
    .cons (x := 2) (y := 14) (by decide) (hexValue?_of_toLower_eq hb) .nil
  have hspells : SpellsDots ('.' :: dots) (['%', '2', b] ++ es) := .escaped rfl ho (hrest es hes)
  exact hspells

end

theorem spellsDots_nil (es : List Char) (h : es.map Char.toLower = []) : SpellsDots [] es := by
  rw [List.map_eq_nil_iff.1 h]
  exact .nil

theorem spellsDots_of_isSingleDot (h : isSingleDot cs = true) : SpellsDots ['.'] cs := by
  simp only [isSingleDot, Bool.or_eq_true, decide_eq_true_eq] at h
  obtain h | h := h
  · exact spellsDots_bare spellsDots_nil (String.ofList_inj.1 h)
  · exact spellsDots_escaped spellsDots_nil (String.ofList_inj.1 h)

theorem spellsDots_of_isDoubleDot (h : isDoubleDot cs = true) : SpellsDots ['.', '.'] cs := by
  have hbare : ∀ es : List Char, es.map Char.toLower = ['.'] → SpellsDots ['.'] es :=
    fun _ => spellsDots_bare spellsDots_nil
  have hescaped : ∀ es : List Char, es.map Char.toLower = ['%', '2', 'e'] → SpellsDots ['.'] es :=
    fun _ => spellsDots_escaped spellsDots_nil
  simp only [isDoubleDot, Bool.or_eq_true, decide_eq_true_eq] at h
  obtain ((h | h) | h) | h := h
  · exact spellsDots_bare hbare (String.ofList_inj.1 h)
  · exact spellsDots_escaped hbare (String.ofList_inj.1 h)
  · exact spellsDots_bare hescaped (String.ofList_inj.1 h)
  · exact spellsDots_escaped hescaped (String.ofList_inj.1 h)

/-- **What spells dots spells nothing else.** -/
theorem Spells.eq_of_spellsDots {dots : List Char} (h : Spells bare escaped cs es)
    (hbare : ∀ c, bare c → c ≠ '%') (hdots : SpellsDots dots es) : cs = dots := by
  apply bytes_injective
  rw [← h.percentDecode_eq hbare, hdots.percentDecode_eq (by rintro c rfl; decide)]

/-- Without a segment `.` or `..`. -/
def NoDots (cs : List Char) : Prop := ∀ s ∈ splitAt '/' cs, s ≠ ['.'] ∧ s ≠ ['.', '.']

instance : DecidablePred NoDots := fun _ => List.decidableBAll _ _

theorem Spells.noDots (h : Spells bare escaped cs es) (hbare : ∀ c, bare c → c ≠ '%')
    (hescaped : ∀ c, escaped c → c ≠ '/') (hdots : NoDots cs) :
    ∀ s ∈ splitAt '/' es, isSingleDot s = false ∧ isDoubleDot s = false := by
  intro s hs
  obtain ⟨part, hpart, hspells⟩ := exists_of_forall₂_right (h.segments hescaped) hs
  have hpart := hdots part hpart
  constructor
  · refine Bool.eq_false_iff.2 fun hsingle => hpart.1 ?_
    exact hspells.eq_of_spellsDots hbare (spellsDots_of_isSingleDot hsingle)
  · refine Bool.eq_false_iff.2 fun hdouble => hpart.2 ?_
    exact hspells.eq_of_spellsDots hbare (spellsDots_of_isDoubleDot hdouble)

theorem joinSegments_splitAt (cs : List Char) : joinSegments (splitAt '/' cs) = '/' :: cs := by
  induction cs with
  | nil => rfl
  | cons c cs ih =>
    by_cases hc : c = '/'
    · rw [hc, splitAt_cons_self, joinSegments, List.flatMap_cons]
      exact congrArg ('/' :: ·) ih
    · obtain ⟨s, rest, hs⟩ := List.exists_cons_of_ne_nil (splitAt_ne_nil '/' cs)
      rw [hs] at ih
      rw [splitAt_cons hc, hs]
      simpa [joinSegments] using ih

theorem resolveDots_of_forall {segments : List (List Char)}
    (h : ∀ s ∈ segments, isSingleDot s = false ∧ isDoubleDot s = false)
    (before : List (List Char)) :
    resolveDots .other before segments = segments.reverse ++ before := by
  induction segments generalizing before with
  | nil => rfl
  | cons s rest ih =>
    obtain ⟨hs, hrest⟩ := List.forall_mem_cons.1 h
    cases rest with
    | nil => simp [resolveDots, hs.1, hs.2, asDrive]
    | cons s' rest =>
      rw [resolveDots, if_neg (by simp [hs.2]), if_neg (by simp [hs.1]), ih hrest]
      · simp [asDrive]
      · exact List.cons_ne_nil _ _

/-! ### Locations -/

theorem strip_of_forall (hfirst : ∀ c, cs.head? = some c → 0x20 < c.toNat)
    (hlast : ∀ c, cs.getLast? = some c → 0x20 < c.toNat)
    (hmem : ∀ c ∈ cs, c ≠ '\t' ∧ c ≠ '\n' ∧ c ≠ '\r') : strip cs = cs := by
  have hkept : ∀ ds : List Char, (∀ c, ds.head? = some c → 0x20 < c.toNat) →
      ds.dropWhile (fun c => decide (c.toNat ≤ 0x20)) = ds := by
    intro ds h
    cases ds with
    | nil => rfl
    | cons d ds => exact List.dropWhile_cons_of_neg (by simpa using h d rfl)
  rw [strip]
  simp only [hkept cs hfirst]
  rw [hkept cs.reverse (by simpa using hlast), List.reverse_reverse]
  exact List.filter_eq_self.2 fun c hc => decide_eq_true (hmem c hc)

/-- The characters that a path of a location is not cut at and that are not dropped from it. -/
def IsPathChar (c : Char) : Prop := c ≠ '?' ∧ c ≠ '#' ∧ c ≠ '\t' ∧ c ≠ '\n' ∧ c ≠ '\r'

theorem SpellsOctets.not_encoded {c : Char} (h : SpellsOctets c) :
    isEncodedInSegment c = false := by
  have hc := h.bounds
  simp only [isEncodedInSegment, isEncoded, Bool.or_eq_false_iff, decide_eq_false_iff_not,
    List.contains_eq_mem, List.mem_cons, List.not_mem_nil, or_false]
  omega

theorem SpellsOctets.isPathChar {c : Char} (h : SpellsOctets c) : IsPathChar c := by
  refine ⟨?_, ?_, ?_, ?_, ?_⟩ <;> rintro rfl <;> exact absurd h (by decide)

/-- A path on a name node. -/
def onNode (path : String) : String := "hdfs://nn" ++ path

theorem path?_onNode (hmem : ∀ c ∈ es, IsPathChar c) (hlast : ∀ c ∈ es.getLast?, 0x20 < c.toNat) :
    path? (onNode (String.ofList ('/' :: es))) = some (pathAfterAuthority .other ('/' :: es)) := by
  have hchars : (onNode (String.ofList ('/' :: es))).toList = "hdfs://nn/".toList ++ es := by
    simp [onNode]
  have hstrip : strip ("hdfs://nn/".toList ++ es) = "hdfs://nn/".toList ++ es := by
    apply strip_of_forall
    · intro c hc
      obtain rfl : 'h' = c := Option.some_inj.1 hc
      decide
    · intro c hc
      rw [List.getLast?_append] at hc
      obtain hc | ⟨-, hc⟩ := Option.or_eq_some_iff.1 hc
      · exact hlast c hc
      · obtain rfl : '/' = c := Option.some_inj.1 hc
        decide
    · exact List.forall_mem_append.2 ⟨by simp, fun c hc => (hmem c hc).2.2⟩
  have hscheme : splitScheme ("hdfs://nn/".toList ++ es) = some ("hdfs", "//nn/".toList ++ es) := by
    simp [splitScheme]
  rw [path?, hchars, hstrip, hscheme]
  rfl

theorem pathAfterAuthority_other (hmem : ∀ c ∈ es, IsPathChar c)
    (hdots : ∀ s ∈ splitAt '/' (percentEncode isEncodedInSegment es),
      isSingleDot s = false ∧ isDoubleDot s = false) :
    pathAfterAuthority .other ('/' :: es) = '/' :: percentEncode isEncodedInSegment es := by
  have hquery : beforeQuery ('/' :: es) = '/' :: es :=
    List.takeWhile_eq_self_iff.2 <| List.forall_mem_cons.2
      ⟨rfl, fun c hc => decide_eq_true ⟨(hmem c hc).1, (hmem c hc).2.1⟩⟩
  have hslash : percentEncode isEncodedInSegment ('/' :: es) =
      '/' :: percentEncode isEncodedInSegment es := percentEncode_cons_of_neg rfl es
  have hmap : ('/' :: es).map
      (fun c => if SchemeKind.other.special && decide (c = '\\') then '/' else c) = '/' :: es :=
    List.map_id _
  rw [pathAfterAuthority, hquery, resolvePath, hquery, hmap, hslash]
  simp only [resolveDots_of_forall hdots, List.append_nil, List.reverse_reverse,
    joinSegments_splitAt]
  rfl

/-! ### The two usual spellings -/

/-- The characters that an encoder leaves as they are. -/
def unreserved (c : Char) : Bool := c.isAlphanum || ['/', '-', '.', '_', '~'].contains c

theorem lt_of_unreserved {c : Char} (h : unreserved c = true) : 0x20 < c.toNat := by
  by_contra hc
  have hblank : ∀ n ≤ 0x20, unreserved (Char.ofNat n) = false := by decide
  have hnot := hblank c.toNat (by omega)
  rw [Char.ofNat_toNat, h] at hnot
  cases hnot

theorem isPathChar_of_unreserved {c : Char} (h : unreserved c = true) : IsPathChar c ∧ c ≠ '%' := by
  refine ⟨⟨?_, ?_, ?_, ?_, ?_⟩, ?_⟩ <;> rintro rfl <;> exact absurd h (by decide)

/-- `es` is `cs` with every byte of every other character encoded. -/
def EncodedAs (cs es : List Char) : Prop :=
  Spells (unreserved · = true) (unreserved · = false) cs es

theorem encodedAs_percentEncode (cs : List Char) :
    EncodedAs cs (percentEncode (fun c => !unreserved c) cs) :=
  (Spells.percentEncode_self cs).mono (fun _ h => by simpa using h) fun _ h => by simpa using h

/-- An encoded path begins with its slash and ends with no blank. -/
theorem EncodedAs.exists_cons {cs es : List Char} (h : EncodedAs ('/' :: cs) es) :
    ∃ es', es = '/' :: es' ∧ EncodedAs cs es' ∧ ∀ c ∈ es', 0x20 < c.toNat := by
  cases h with
  | escaped hc => exact absurd hc (by decide)
  | bare hc h =>
    refine ⟨_, rfl, h, h.forall_mem (fun _ => lt_of_unreserved) fun c hc => ?_⟩
    have hbounds := hc.bounds
    omega

end Location

namespace Table

open Location

/-- **A table lies at its path, whichever way the path is spelled.** -/
theorem fsPath_of_spells (t : Table) {cs es : List Char}
    (h : Spells (fun c => IsPathChar c ∧ c ≠ '%') (· ≠ '/') cs es) (hdots : NoDots cs)
    (hlast : ∀ c ∈ es.getLast?, 0x20 < c.toNat) :
    { t with location := onNode (String.ofList ('/' :: es)) }.fsPath =
      .ok (String.ofList ('/' :: cs)) := by
  have hmem : ∀ c ∈ es, IsPathChar c :=
    h.forall_mem (fun _ hc => hc.1) fun _ => SpellsOctets.isPathChar
  -- What the parser makes of the spelling is another spelling of the path.
  have hparsed : Spells (· ≠ '%') (· ≠ '/') cs (percentEncode isEncodedInSegment es) := by
    refine h.percentEncode_right (fun _ hc _ => hc.2) ?_ (fun _ hc => hc)
      fun _ => SpellsOctets.not_encoded
    rintro c - hc rfl
    exact absurd hc (by decide)
  rw [fsPath, path?_onNode hmem hlast, pathAfterAuthority_other hmem
    (hparsed.noDots (fun _ hc => hc) (fun _ hc => hc) hdots)]
  simp only [percentDecode_cons (by decide : '/' ≠ '%'), hparsed.percentDecode_eq fun _ hc => hc,
    ← bytes_cons, decodeText?_bytes]

/-- **A table lies at its path, whether the path is encoded or written as it is.** -/
theorem fsPath_of_spelling (t : Table) (path : String) (hslash : path.toList.head? = some '/')
    (hdots : NoDots path.toList) :
    (∀ spelling : String, EncodedAs path.toList spelling.toList →
      { t with location := onNode spelling }.fsPath = .ok path) ∧
    EncodedAs path.toList (percentEncode (fun c => !unreserved c) path.toList) ∧
    ((∀ c ∈ path.toList, c ∉ ['%', '?', '#', '\t', '\n', '\r']) →
      (∀ c ∈ path.toList.getLast?, 0x20 < c.toNat) →
        { t with location := onNode path }.fsPath = .ok path) := by
  obtain ⟨cs, hcs⟩ := List.head?_eq_some_iff.1 hslash
  have hpath : String.ofList ('/' :: cs) = path := by rw [← hcs, String.ofList_toList]
  have hdots : NoDots cs := by
    intro s hs
    apply hdots s
    rw [hcs, splitAt_cons_self]
    exact List.mem_cons_of_mem _ hs
  rw [hcs]
  refine ⟨?_, encodedAs_percentEncode _, ?_⟩
  · intro spelling h
    obtain ⟨es, hes, hencoded, hlt⟩ := h.exists_cons
    have hspelling : String.ofList ('/' :: es) = spelling := by rw [← hes, String.ofList_toList]
    rw [← hspelling, ← hpath]
    refine fsPath_of_spells t (hencoded.mono (fun _ => isPathChar_of_unreserved) ?_) hdots
      fun c hc => hlt c (List.mem_of_getLast? hc)
    rintro c hc rfl
    exact absurd hc (by decide)
  · intro hplain hlast
    rw [← hpath]
    refine fsPath_of_spells t (.self fun c hc => ?_) hdots fun c hc => hlast c ?_
    · have hc := hplain c (List.mem_cons_of_mem _ hc)
      simp only [List.mem_cons, List.not_mem_nil, or_false, not_or] at hc
      exact ⟨hc.2, hc.1⟩
    · rw [List.getLast?_cons, Option.mem_def.1 hc]
      rfl

/-- Empty segments, a blank and a character beyond ASCII. -/
theorem fsPath_of_spelling_blank :
    Table.fsPath ⟨"t", "s", onNode "/data//caf%C3%A9/my%20table/", none, none⟩ =
      .ok "/data//café/my table/" ∧
    Table.fsPath ⟨"t", "s", onNode "/data//café/my table/", none, none⟩ =
      .ok "/data//café/my table/" := by
  have h := fsPath_of_spelling ⟨"t", "s", "", none, none⟩ "/data//café/my table/" (by decide)
    (by decide)
  have hencoded : percentEncode (fun c => !unreserved c) "/data//café/my table/".toList =
      "/data//caf%C3%A9/my%20table/".toList := by decide
  have hspelling := h.2.1
  rw [hencoded] at hspelling
  exact ⟨h.1 _ hspelling, h.2.2 (by simp) (by simp)⟩

end Table

end Regrant
