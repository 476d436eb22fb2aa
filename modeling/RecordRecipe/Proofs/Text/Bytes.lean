import Mathlib.Data.String.Basic
import Mathlib.Tactic.SplitIfs

/-!
# The order of texts and of their bytes

Texts are compared character by character. `le_iff_bytes_le` says that this is the order of their
encodings in UTF-8, byte by byte: the bytes of a character come before those of a later one,
whatever follows them.
-/

namespace RecordRecipe.Text

/-- The bytes of a text. -/
def bytes (text : String) : List UInt8 := text.toUTF8.data.toList

theorem bytes_eq_flatMap (text : String) :
    bytes text = text.toList.flatMap String.utf8EncodeChar := by
  rw [bytes, String.toUTF8_eq_toByteArray, ← String.ofList_toList (s := text),
    String.toByteArray_ofList]
  simp [List.utf8Encode]

theorem ofNat_lt_ofNat {m n : Nat} (hm : m < 256) (hn : n < 256) :
    UInt8.ofNat m < UInt8.ofNat n ↔ m < n := by
  rw [UInt8.lt_iff_toNat_lt, UInt8.toNat_ofNat', UInt8.toNat_ofNat', Nat.mod_eq_of_lt hm,
    Nat.mod_eq_of_lt hn]

theorem ofNat_eq_ofNat {m n : Nat} (hm : m < 256) (hn : n < 256) :
    UInt8.ofNat m = UInt8.ofNat n ↔ m = n := by
  rw [← UInt8.toNat_inj, UInt8.toNat_ofNat', UInt8.toNat_ofNat', Nat.mod_eq_of_lt hm,
    Nat.mod_eq_of_lt hn]

/-- The bytes of a character come before those of a later one, whatever follows them. -/
theorem encode_append_lt {c d : Char} (h : c < d) (rest others : List UInt8) :
    String.utf8EncodeChar c ++ rest < String.utf8EncodeChar d ++ others := by
  have hless : c.val.toNat < d.val.toNat := h
  have hbound : d.val.toNat < 0x110000 := d.valid.elim (fun h => by omega) And.right
  unfold String.utf8EncodeChar
  generalize c.val.toNat = v at hless
  generalize d.val.toNat = w at hless hbound
  -- Where the lengths are the same, the digits to the base 64 decide, the leading one first.
  have hdigits (n : Nat) : n / 4096 = n / 64 / 64 ∧ n / 262144 = n / 64 / 64 / 64 := by omega
  simp only [hdigits]
  split_ifs <;>
  · simp (disch := omega) only [List.cons_append, List.nil_append, List.cons_lt_cons_iff,
      ofNat_lt_ofNat, ofNat_eq_ofNat]
    omega

/-- Characters in order have bytes in order. -/
theorem flatMap_encode_lt {first second : List Char} (h : first < second) :
    first.flatMap String.utf8EncodeChar < second.flatMap String.utf8EncodeChar := by
  induction h with
  | @nil c rest =>
      obtain ⟨byte, more, hbytes⟩ :=
        List.exists_cons_of_ne_nil (String.utf8EncodeChar_ne_nil (c := c))
      rw [List.flatMap_cons, hbytes]
      exact List.nil_lt_cons _ _
  | rel hless =>
      rw [List.flatMap_cons, List.flatMap_cons]
      exact encode_append_lt hless _ _
  | cons _ ih =>
      rw [List.flatMap_cons, List.flatMap_cons]
      exact List.append_left_lt ih

/-- Texts are in the order of their bytes. -/
theorem le_iff_bytes_le {text other : String} : text ≤ other ↔ bytes text ≤ bytes other := by
  have hkeeps {first second : String} (h : first < second) : bytes first < bytes second := by
    rw [bytes_eq_flatMap, bytes_eq_flatMap]
    exact flatMap_encode_lt (String.lt_iff.mp h)
  obtain hless | rfl | hmore := lt_trichotomy text other
  · exact iff_of_true hless.le (List.lt_asymm (hkeeps hless))
  · exact iff_of_true le_rfl (List.lt_irrefl _)
  · exact iff_of_false hmore.not_ge (not_not_intro (hkeeps hmore))

end RecordRecipe.Text
