import Mathlib.Data.List.Basic

/-!
# The bytes of a text

A text is the list of the bytes that UTF-8 spells its characters with.
-/

namespace Regrant

/-- The bytes of some characters. -/
def bytes (cs : List Char) : List UInt8 := cs.flatMap String.utf8EncodeChar

@[simp] theorem bytes_cons (c : Char) (cs : List Char) :
    bytes (c :: cs) = String.utf8EncodeChar c ++ bytes cs := List.flatMap_cons

theorem bytes_append (cs cs' : List Char) : bytes (cs ++ cs') = bytes cs ++ bytes cs' :=
  List.flatMap_append

theorem toList_data_toByteArray (s : String) : s.toByteArray.data.toList = bytes s.toList := by
  rw [← String.utf8Encode_toList, List.utf8Encode, List.toList_data_toByteArray, bytes]

theorem length_bytes_toList (s : String) : (bytes s.toList).length = s.utf8ByteSize := by
  rw [← toList_data_toByteArray, Array.length_toList]
  rfl

theorem utf8ByteSize_ofList (cs : List Char) :
    (String.ofList cs).utf8ByteSize = (bytes cs).length := by
  rw [← length_bytes_toList, String.toList_ofList]

/-- **The byte of an ASCII character occurs in no other character.** -/
theorem mem_utf8EncodeChar_iff {a c : Char} (ha : a.val.toNat < 128) :
    a.toUInt8 ∈ String.utf8EncodeChar c ↔ c = a := by
  have hbyte : ∀ n : Nat, a.toUInt8 = UInt8.ofNat n ↔ a.val.toNat = n % 256 := by
    intro n
    rw [show a.toUInt8 = UInt8.ofNat a.val.toNat from rfl, ← UInt8.toNat_inj, UInt8.toNat_ofNat',
      UInt8.toNat_ofNat']
    omega
  constructor
  · -- All bytes of a longer character are 128 or above.
    fun_cases String.utf8EncodeChar c with
    | case1 v hv =>
      rw [List.mem_singleton, hbyte]
      intro h
      exact Char.ext (UInt32.toNat_inj.1 (by omega))
    | case2 | case3 | case4 =>
      simp only [List.mem_cons, List.not_mem_nil, or_false, hbyte]
      omega
  · rintro rfl
    rw [String.utf8EncodeChar]
    simp only [if_pos (Nat.le_of_lt_succ ha)]
    exact List.mem_singleton_self _

/-- The first byte is that of an ASCII character exactly if the first character is it. -/
theorem bytes_zero_eq_iff {a : Char} (ha : a.val.toNat < 128) (cs : List Char) :
    (bytes cs)[0]? = some a.toUInt8 ↔ cs.head? = some a := by
  cases cs with
  | nil => simp [bytes]
  | cons c cs =>
    have hpos : 0 < (String.utf8EncodeChar c).length := by
      rw [String.length_utf8EncodeChar]
      exact c.utf8Size_pos
    rw [bytes_cons, List.getElem?_append_left hpos, List.head?_cons, Option.some_inj]
    constructor
    · intro h
      exact (mem_utf8EncodeChar_iff ha).1 (List.mem_of_getElem? h)
    · rintro rfl
      rw [String.utf8EncodeChar]
      simp only [if_pos (Nat.le_of_lt_succ ha)]
      rfl

/-- The second byte is that of an ASCII character exactly if it follows a character of one byte. -/
theorem bytes_one_eq_iff {a : Char} (ha : a.val.toNat < 128) (c : Char) (cs : List Char) :
    (bytes (c :: cs))[1]? = some a.toUInt8 ↔ c.utf8Size = 1 ∧ cs.head? = some a := by
  have hlen : (String.utf8EncodeChar c).length = c.utf8Size := String.length_utf8EncodeChar c
  rw [bytes_cons]
  by_cases hc : c.utf8Size = 1
  · rw [List.getElem?_append_right (by omega), hlen, hc, bytes_zero_eq_iff ha]
    simp
  · have hpos := c.utf8Size_pos
    rw [List.getElem?_append_left (by omega)]
    constructor
    · intro h
      obtain rfl := (mem_utf8EncodeChar_iff ha).1 (List.mem_of_getElem? h)
      exact absurd (Char.utf8Size_eq_one_iff.2 (UInt32.le_iff_toNat_le.2 (Nat.le_of_lt_succ ha))) hc
    · rintro ⟨h, -⟩
      exact absurd h hc

end Regrant
