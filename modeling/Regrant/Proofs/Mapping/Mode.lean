import Regrant.Binding.Hdfs
import Regrant.Proofs.Bytes

/-!
# What the bytes of a mode allow

The mapper takes the three bits of a class off the characters of a mode, counting their bytes.
`allowed?` reads the same off the bytes of the mode: the bits are the three bytes from an offset on,
if characters begin at both ends, and a bit is set by the byte of its letter.  The two agree on
every text (`access?_bits?`), because the bytes of a letter occur in no other character.
-/

namespace Regrant

/-! ### Slices -/

namespace HdfsPermission

theorem slice?_zero_append (mid after : List Char) :
    slice? 0 (bytes mid).length (mid ++ after) = some mid := by
  induction mid with
  | nil => cases after <;> simp [slice?, bytes]
  | cons c mid ih =>
    have hpos := c.utf8Size_pos
    have hlen : (bytes (c :: mid)).length = c.utf8Size + (bytes mid).length := by simp
    rw [List.cons_append, slice?, hlen, if_neg (Nat.lt_irrefl 0), if_neg (by omega),
      if_pos (by omega), Nat.add_sub_cancel_left, ih]
    rfl

/-- A slice between characters is cut out. -/
theorem slice?_append (before mid after : List Char) :
    slice? (bytes before).length (bytes mid).length (before ++ mid ++ after) = some mid := by
  induction before with
  | nil => exact slice?_zero_append mid after
  | cons c before ih =>
    have hpos := c.utf8Size_pos
    have hlen : (bytes (c :: before)).length = c.utf8Size + (bytes before).length := by simp
    rw [List.cons_append, List.cons_append, slice?, hlen, if_pos (by omega), if_pos (by omega),
      Nat.add_sub_cancel_left, ih]

/-- What is cut out lies between characters. -/
theorem exists_of_slice? {start count : Nat} {cs mid : List Char}
    (h : slice? start count cs = some mid) :
    ∃ before after, cs = before ++ mid ++ after ∧ (bytes before).length = start ∧
      (bytes mid).length = count := by
  fun_induction slice? start count cs generalizing mid with
  | case1 start count hz =>
    cases h
    exact ⟨[], [], by simp, by simp [bytes, hz.1], by simp [bytes, hz.2]⟩
  | case2 => cases h
  | case3 start count c rest hstart hle ih =>
    obtain ⟨before, after, rfl, hbefore, hmid⟩ := ih h
    exact ⟨c :: before, after, by simp, by simp [hbefore]; omega, hmid⟩
  | case4 => cases h
  | case5 start c rest hstart =>
    cases h
    exact ⟨[], c :: rest, by simp, by simp [bytes]; omega, by simp [bytes]⟩
  | case6 start count c rest hstart hcount hle ih =>
    obtain ⟨mid, hmid, rfl⟩ := Option.map_eq_some_iff.1 h
    obtain ⟨before, after, rfl, hbefore, hsize⟩ := ih hmid
    obtain rfl : before = [] := by
      cases before with
      | nil => rfl
      | cons d before =>
        have hpos := d.utf8Size_pos
        simp at hbefore
        omega
    exact ⟨[], after, by simp, by simp [bytes]; omega, by simp [hsize]; omega⟩
  | case7 => cases h

/-- Three bytes have bits exactly if characters begin at both ends. -/
theorem exists_bits?_iff (p : HdfsPermission) (c : HdfsClass) :
    (∃ bits, p.bits? c = some bits) ↔
      (⟨c.offset⟩ : String.Pos.Raw).IsValid p.mode ∧
        (⟨c.offset + 3⟩ : String.Pos.Raw).IsValid p.mode := by
  simp only [String.Pos.Raw.isValid_iff_exists_append, String.Pos.Raw.ext_iff,
    String.byteIdx_rawEndPos]
  constructor
  · rintro ⟨bits, h⟩
    obtain ⟨mid, hmid, rfl⟩ := Option.map_eq_some_iff.1 h
    obtain ⟨before, after, hmode, hstart, hcount⟩ := exists_of_slice? hmid
    refine ⟨⟨String.ofList before, String.ofList (mid ++ after), ?_, ?_⟩,
      ⟨String.ofList (before ++ mid), String.ofList after, ?_, ?_⟩⟩
    · rw [← String.ofList_append, ← List.append_assoc, ← hmode, String.ofList_toList]
    · rw [utf8ByteSize_ofList, hstart]
    · rw [← String.ofList_append, ← hmode, String.ofList_toList]
    · rw [utf8ByteSize_ofList, bytes_append, List.length_append, hstart, hcount]
  · rintro ⟨⟨before, rest, hmode, hstart⟩, ⟨upTo, after, hmode', hend⟩⟩
    rw [← length_bytes_toList] at hstart hend
    have happend : before.toList ++ rest.toList = upTo.toList ++ after.toList := by
      rw [← String.toList_append, ← String.toList_append, ← hmode, ← hmode']
    -- The text before the slice is the shorter one, so the slice is what the longer one adds.
    obtain ⟨mid, hmid, -⟩ : ∃ mid, upTo.toList = before.toList ++ mid ∧
        rest.toList = mid ++ after.toList := by
      rcases List.append_eq_append_iff.1 happend with ⟨mid, hmid, hrest⟩ | ⟨mid, hmid, -⟩
      · exact ⟨mid, hmid, hrest⟩
      · rw [hmid, bytes_append, List.length_append] at hstart
        omega
    have hcount : (bytes mid).length = 3 := by
      rw [hmid, bytes_append, List.length_append] at hend
      omega
    refine ⟨String.ofList mid, ?_⟩
    have hslice := slice?_append before.toList mid after.toList
    rw [← hstart, hcount, ← hmid, ← String.toList_append, ← hmode'] at hslice
    rw [bits?, hslice]
    rfl

end HdfsPermission

namespace HdfsMapper

/-- What the three bytes at an offset of a mode allow: to write if the middle byte is a `w`, else to
read if the first one is an `r`.  Characters have to begin before and after them. -/
def allowed? (mode : String) (offset : Nat) : Option Access :=
  if (⟨offset⟩ : String.Pos.Raw).IsValid mode ∧ (⟨offset + 3⟩ : String.Pos.Raw).IsValid mode then
    if mode.toByteArray.data[offset + 1]? = some 'w'.toUInt8 then some .write
    else if mode.toByteArray.data[offset]? = some 'r'.toUInt8 then some .read
    else none
  else none

/-- The letters of three bytes, as characters and as bytes. -/
theorem access?_ofList {bits : List Char} (h : (bytes bits).length = 3) :
    access? (String.ofList bits) =
      if (bytes bits)[1]? = some 'w'.toUInt8 then some .write
      else if (bytes bits)[0]? = some 'r'.toUInt8 then some .read
      else none := by
  rw [access?, String.toList_ofList]
  match bits, h with
  | [c], h =>
    have hc : c ≠ 'r' := by
      rintro rfl
      exact absurd h (by decide)
    simp only [bytes_one_eq_iff (a := 'w') (by decide), bytes_zero_eq_iff (a := 'r') (by decide)]
    simp [hc]
  | r :: w :: rest, _ =>
    simp only [bytes_one_eq_iff (a := 'w') (by decide), bytes_zero_eq_iff (a := 'r') (by decide)]
    simp [and_comm]

/-- **The bits of a class allow what their bytes say.** -/
theorem access?_bits? (p : HdfsPermission) (c : HdfsClass) :
    (p.bits? c).bind access? = allowed? p.mode c.offset := by
  have hvalid := p.exists_bits?_iff c
  rw [allowed?]
  cases hbits : p.bits? c with
  | none =>
    have hno : ¬ ∃ bits, p.bits? c = some bits := by simp [hbits]
    rw [if_neg fun h => hno (hvalid.2 h)]
    rfl
  | some bits =>
    obtain ⟨mid, hmid, rfl⟩ := Option.map_eq_some_iff.1 hbits
    obtain ⟨before, after, hmode, hstart, hcount⟩ := HdfsPermission.exists_of_slice? hmid
    have hbyte : ∀ i, i < 3 → p.mode.toByteArray.data[c.offset + i]? = (bytes mid)[i]? := by
      intro i hi
      rw [← Array.getElem?_toList, toList_data_toByteArray, hmode, bytes_append, bytes_append,
        ← hstart, List.getElem?_append_left (by rw [List.length_append]; omega),
        List.getElem?_append_right (Nat.le_add_right _ _), Nat.add_sub_cancel_left]
    rw [if_pos (hvalid.1 ⟨_, hbits⟩), Option.bind_some, access?_ofList hcount,
      ← hbyte 1 (by decide), ← hbyte 0 (by decide)]
    rfl

end HdfsMapper

end Regrant
