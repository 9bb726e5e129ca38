import LiveCheck.Text.Bytes
import Mathlib.Data.List.Basic

/-!
The bytes of a text.

A text is read back from its bytes, and from no others (`textOf?_eq_some_iff`). A byte below 128
is the whole of its character, so that the ASCII characters of a text can be found among its bytes
(`eq_of_mem_utf8EncodeChar`, `head?_utf8Encode`).
-/

namespace LiveCheck

variable {cs : List Char} {c d : Char} {bytes : List UInt8} {text : String}

theorem bytesOf_eq (text : String) : bytesOf text = text.toList.flatMap String.utf8EncodeChar := by
  rw [bytesOf, String.toUTF8_eq_toByteArray, ← String.utf8Encode_toList, List.utf8Encode,
    List.data_toByteArray]

/-- A text is what its bytes read as, and no other bytes read as it. -/
theorem textOf?_eq_some_iff : textOf? bytes = some text ↔ bytes = bytesOf text := by
  unfold textOf? String.fromUTF8?
  constructor
  · intro read
    split at read
    · cases read
      rfl
    · cases read
  · rintro rfl
    have same : (⟨(bytesOf text).toArray⟩ : ByteArray) = text.toByteArray := rfl
    rw [dif_pos (same ▸ text.isValidUTF8)]
    rfl

theorem utf8EncodeChar_of_ascii (ascii : c.toNat < 128) :
    String.utf8EncodeChar c = [UInt8.ofNat c.toNat] := by
  have small : c.val.toNat ≤ 127 := Nat.le_of_lt_succ ascii
  rw [String.utf8EncodeChar, if_pos small]
  rfl

/-- A byte below 128 is the whole of its character. -/
theorem toNat_of_mem_utf8EncodeChar {byte : UInt8} (mem : byte ∈ String.utf8EncodeChar c)
    (ascii : byte.toNat < 128) : byte.toNat = c.toNat := by
  revert mem
  fun_cases String.utf8EncodeChar c with
  | case1 v small =>
      intro mem
      rw [List.mem_singleton.1 mem, UInt8.toNat_ofNat', Nat.mod_eq_of_lt (by omega)]
      rfl
  | case2 v | case3 v | case4 v =>
      -- All bytes of a longer character are 128 or more.
      intro mem
      simp only [List.mem_cons, List.not_mem_nil, or_false] at mem
      rcases mem with rfl | rfl | rfl | rfl <;>
        · rw [UInt8.toNat_ofNat'] at ascii
          omega

/-- The byte of an ASCII character is in no other character. -/
theorem eq_of_mem_utf8EncodeChar (ascii : d.toNat < 128)
    (mem : UInt8.ofNat d.toNat ∈ String.utf8EncodeChar c) : c = d := by
  have size : (UInt8.ofNat d.toNat).toNat = d.toNat := by
    rw [UInt8.toNat_ofNat', Nat.mod_eq_of_lt (by omega)]
  have same := toNat_of_mem_utf8EncodeChar mem (by omega)
  exact Char.toNat_inj.1 (by omega)

/-- A text begins with an ASCII character exactly if its bytes begin with that of the
character. -/
theorem head?_utf8Encode (ascii : d.toNat < 128) :
    (cs.flatMap String.utf8EncodeChar).head? = some (UInt8.ofNat d.toNat) ↔ cs.head? = some d := by
  cases cs with
  | nil => exact ⟨nofun, nofun⟩
  | cons c rest =>
      rw [List.flatMap_cons, List.head?_append_of_ne_nil _ String.utf8EncodeChar_ne_nil]
      constructor
      · intro begins
        exact congrArg some (eq_of_mem_utf8EncodeChar ascii (List.mem_of_head? begins))
      · intro begins
        rw [Option.some.inj begins, utf8EncodeChar_of_ascii ascii]
        rfl

end LiveCheck
