import Regrant.Location.Host
import Regrant.Proofs.Bytes
import Regrant.Proofs.Related

/-!
# Spellings of a text

A text can be spelled in many ways in a URL.  `Spells bare escaped cs es` says that `es` spells the
characters `cs`, where those in `bare` may stand for themselves and those in `escaped` may be
spelled by their bytes.  Decoding a spelling gives the bytes of the text, whichever way it was
spelled (`Spells.percentDecode_eq`), and encoding a spelling further makes another spelling of the
same text (`Spells.percentEncode_right`).
-/

namespace Regrant.Location

open Plain

/-! ### Parts -/

theorem splitAt_ne_nil (c : Char) (cs : List Char) : splitAt c cs ≠ [] := by
  cases cs with
  | nil => exact List.cons_ne_nil _ _
  | cons d ds =>
    rw [splitAt]
    split
    · exact List.cons_ne_nil _ _
    · split <;> exact List.cons_ne_nil _ _

theorem splitAt_cons_self (c : Char) (cs : List Char) : splitAt c (c :: cs) = [] :: splitAt c cs :=
  if_pos rfl

theorem splitAt_cons {c d : Char} (h : d ≠ c) (ds : List Char) :
    splitAt c (d :: ds) = (splitAt c ds).modifyHead (d :: ·) := by
  rw [splitAt, if_neg h]
  cases hsplit : splitAt c ds with
  | nil => exact absurd hsplit (splitAt_ne_nil c ds)
  | cons part parts => rfl

/-- What holds no `c` belongs to the first part. -/
theorem splitAt_append {c : Char} {cs : List Char} (h : c ∉ cs) (ds : List Char) :
    splitAt c (cs ++ ds) = (splitAt c ds).modifyHead (cs ++ ·) := by
  induction cs with
  | nil => exact (congrFun List.modifyHead_id _).symm
  | cons d cs ih =>
    have hd := not_or.1 (mt List.mem_cons.2 h)
    rw [List.cons_append, splitAt_cons (Ne.symm hd.1), ih hd.2, List.modifyHead_modifyHead]
    rfl

/-! ### Bytes that stand for characters -/

theorem decodeText?_bytes (cs : List Char) : decodeText? (bytes cs) = some (String.ofList cs) := by
  have h : (⟨(bytes cs).toArray⟩ : ByteArray) = (String.ofList cs).toByteArray := by
    apply ByteArray.ext
    apply Array.toList_inj.1
    rw [toList_data_toByteArray, String.toList_ofList]
  rw [decodeText?, h, String.fromUTF8?, dif_pos (String.ofList cs).isValidUTF8]
  rfl

theorem bytes_injective : Function.Injective bytes := by
  intro cs ds h
  have hdecode := decodeText?_bytes cs
  rw [h, decodeText?_bytes, Option.some_inj, String.ofList_inj] at hdecode
  exact hdecode.symm

theorem percentDecode_cons {c : Char} (hc : c ≠ '%') (cs : List Char) :
    percentDecode (c :: cs) = String.utf8EncodeChar c ++ percentDecode cs := by
  rw [percentDecode]
  rintro a b rest rfl
  exact absurd rfl hc

section

variable {encoded : Char → Bool}

theorem percentEncode_append (cs ds : List Char) :
    percentEncode encoded (cs ++ ds) = percentEncode encoded cs ++ percentEncode encoded ds :=
  List.flatMap_append

theorem percentEncode_cons_of_pos {c : Char} (h : encoded c = true) (cs : List Char) :
    percentEncode encoded (c :: cs) =
      (String.utf8EncodeChar c).flatMap percentByte ++ percentEncode encoded cs := by
  rw [percentEncode, List.flatMap_cons, if_pos h, percentEncode]

theorem percentEncode_cons_of_neg {c : Char} (h : encoded c = false) (cs : List Char) :
    percentEncode encoded (c :: cs) = c :: percentEncode encoded cs := by
  rw [percentEncode, List.flatMap_cons, if_neg (by simp [h]), percentEncode, List.singleton_append]

theorem percentEncode_of_forall {cs : List Char} (h : ∀ c ∈ cs, encoded c = false) :
    percentEncode encoded cs = cs := by
  induction cs with
  | nil => rfl
  | cons c cs ih =>
    have hc := List.forall_mem_cons.1 h
    rw [percentEncode_cons_of_neg hc.1, ih hc.2]

end

/-- Each byte spelled by `%` and two digits, of either case. -/
inductive Octets : List UInt8 → List Char → Prop
  | nil : Octets [] []
  | cons {a b : Char} {x y : Nat} {bs : List UInt8} {os : List Char}
      (ha : hexValue? a = some x) (hb : hexValue? b = some y) (h : Octets bs os) :
      Octets (UInt8.ofNat (16 * x + y) :: bs) ('%' :: a :: b :: os)

/-- A character that bytes are spelled with. -/
def SpellsOctets (c : Char) : Prop := c = '%' ∨ (hexValue? c).isSome

instance : DecidablePred SpellsOctets := fun _ => inferInstanceAs (Decidable (_ ∨ _))

/-- It is `%`, a digit or one of the letters from `A` to `F`. -/
theorem SpellsOctets.bounds {c : Char} (h : SpellsOctets c) :
    c.toNat = 0x25 ∨ (0x30 ≤ c.toNat ∧ c.toNat ≤ 0x39) ∨ (0x41 ≤ c.toNat ∧ c.toNat ≤ 0x46) ∨
      (0x61 ≤ c.toNat ∧ c.toNat ≤ 0x66) := by
  obtain rfl | h := h
  · exact .inl rfl
  · simp only [hexValue?, Char.isDigit, Char.le_def, UInt32.le_iff_toNat_le, Bool.and_eq_true,
      decide_eq_true_eq] at h
    split_ifs at h with hdigit hlower hupper
    · exact .inr (.inl hdigit)
    · exact .inr (.inr (.inr hlower))
    · exact .inr (.inr (.inl hupper))
    · cases h

/-- How `cs` may be spelled: characters in `bare` stand for themselves, and those in `escaped` are
spelled by their bytes. -/
inductive Spells (bare escaped : Char → Prop) : List Char → List Char → Prop
  | nil : Spells bare escaped [] []
  | bare {c : Char} {cs es : List Char} (hc : bare c) (h : Spells bare escaped cs es) :
      Spells bare escaped (c :: cs) (c :: es)
  | escaped {c : Char} {cs os es : List Char} (hc : escaped c)
      (ho : Octets (String.utf8EncodeChar c) os) (h : Spells bare escaped cs es) :
      Spells bare escaped (c :: cs) (os ++ es)

variable {bare escaped bare' escaped' : Char → Prop} {cs es os : List Char} {bs : List UInt8}

theorem hexValue?_digitChar : ∀ n < 16, hexValue? (Nat.digitChar n).toUpper = some n := by decide

theorem octets_flatMap (bs : List UInt8) : Octets bs (bs.flatMap percentByte) := by
  induction bs with
  | nil => exact .nil
  | cons b bs ih =>
    have hb : b.toNat < 256 := b.toNat_lt
    have hbyte : b = UInt8.ofNat (16 * (b.toNat / 16) + b.toNat % 16) := by
      rw [Nat.div_add_mod, UInt8.ofNat_toNat]
    have h := Octets.cons (hexValue?_digitChar (b.toNat / 16) (by omega))
      (hexValue?_digitChar (b.toNat % 16) (by omega)) ih
    rwa [← hbyte] at h

namespace Octets

theorem forall_mem (h : Octets bs os) : ∀ c ∈ os, SpellsOctets c := by
  induction h with
  | nil => exact List.forall_mem_nil _
  | cons ha hb h ih =>
    simp only [List.forall_mem_cons]
    exact ⟨.inl rfl, .inr (Option.isSome_of_eq_some ha), .inr (Option.isSome_of_eq_some hb), ih⟩

theorem percentDecode_append (h : Octets bs os) (es : List Char) :
    percentDecode (os ++ es) = bs ++ percentDecode es := by
  induction h with
  | nil => rfl
  | cons ha hb h ih => simp only [List.cons_append, percentDecode, ha, hb, ih]

end Octets

namespace Spells

/-- **A spelling decodes to the bytes of what it spells.** -/
theorem percentDecode_eq (h : Spells bare escaped cs es) (hbare : ∀ c, bare c → c ≠ '%') :
    percentDecode es = bytes cs := by
  induction h with
  | nil => rfl
  | bare hc h ih => rw [percentDecode_cons (hbare _ hc), ih, bytes_cons]
  | escaped hc ho h ih => rw [ho.percentDecode_append, ih, bytes_cons]

theorem forall_mem (h : Spells bare escaped cs es) {P : Char → Prop} (hbare : ∀ c, bare c → P c)
    (hoctets : ∀ c, SpellsOctets c → P c) : ∀ c ∈ es, P c := by
  induction h with
  | nil => exact List.forall_mem_nil _
  | bare hc h ih => exact List.forall_mem_cons.2 ⟨hbare _ hc, ih⟩
  | escaped hc ho h ih =>
    exact List.forall_mem_append.2 ⟨fun c hmem => hoctets c (ho.forall_mem c hmem), ih⟩

theorem mono (h : Spells bare escaped cs es) (hbare : ∀ c, bare c → bare' c)
    (hescaped : ∀ c, escaped c → escaped' c) : Spells bare' escaped' cs es := by
  induction h with
  | nil => exact .nil
  | bare hc h ih => exact .bare (hbare _ hc) ih
  | escaped hc ho h ih => exact .escaped (hescaped _ hc) ho ih

theorem self (hbare : ∀ c ∈ cs, bare c) : Spells bare escaped cs cs := by
  induction cs with
  | nil => exact .nil
  | cons c cs ih =>
    have h := List.forall_mem_cons.1 hbare
    exact .bare h.1 (ih h.2)

theorem percentEncode_self {encoded : Char → Bool} (cs : List Char) :
    Spells (encoded · = false) (encoded · = true) cs (percentEncode encoded cs) := by
  induction cs with
  | nil => exact .nil
  | cons c cs ih =>
    cases he : encoded c with
    | true =>
      rw [percentEncode_cons_of_pos he]
      exact .escaped he (octets_flatMap _) ih
    | false =>
      rw [percentEncode_cons_of_neg he]
      exact .bare he ih

/-- Encoding a spelling makes another spelling, unless it encodes what spells bytes. -/
theorem percentEncode_right {encoded : Char → Bool} (h : Spells bare escaped cs es)
    (hkeep : ∀ c, bare c → encoded c = false → bare' c)
    (hencode : ∀ c, bare c → encoded c = true → escaped' c)
    (hescaped : ∀ c, escaped c → escaped' c)
    (hoctets : ∀ c, SpellsOctets c → encoded c = false) :
    Spells bare' escaped' cs (percentEncode encoded es) := by
  induction h with
  | nil => exact .nil
  | @bare c cs es hc h ih =>
    cases he : encoded c with
    | true =>
      rw [percentEncode_cons_of_pos he]
      exact .escaped (hencode c hc he) (octets_flatMap _) ih
    | false =>
      rw [percentEncode_cons_of_neg he]
      exact .bare (hkeep c hc he) ih
  | @escaped c cs os es hc ho h ih =>
    -- What spells the bytes of a character is not encoded again.
    rw [percentEncode_append, percentEncode_of_forall fun d hd => hoctets d (ho.forall_mem d hd)]
    exact .escaped (hescaped c hc) ho ih

/-- Slashes stand for themselves, so the segments of a spelling spell the segments. -/
theorem segments (h : Spells bare escaped cs es) (hescaped : ∀ c, escaped c → c ≠ '/') :
    List.Forall₂ (Spells bare escaped) (splitAt '/' cs) (splitAt '/' es) := by
  induction h with
  | nil => exact .cons .nil .nil
  | @bare c cs es hc h ih =>
    by_cases hslash : c = '/'
    · rw [hslash, splitAt_cons_self, splitAt_cons_self]
      exact .cons .nil ih
    · rw [splitAt_cons hslash, splitAt_cons hslash]
      exact forall₂_modifyHead ih fun _ _ => .bare hc
  | @escaped c cs os es hc ho h ih =>
    have hos : '/' ∉ os := fun hmem => absurd (ho.forall_mem _ hmem) (by decide)
    rw [splitAt_cons (hescaped c hc), splitAt_append hos]
    exact forall₂_modifyHead ih fun _ _ => .escaped hc ho

end Spells

end Regrant.Location
