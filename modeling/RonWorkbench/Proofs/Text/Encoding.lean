import Mathlib.Data.List.Basic
import RonWorkbench.Text.Utf8

/-!
# Encoding and decoding

Bytes are decoded strictly as the one text that has them as its encoding, if there is one
(`Text.decode?_eq_some_iff`). The encoding of a text is those of its characters one behind the
other, and it shows the newlines of the text, each as a byte of its own (`Text.count_encode`).
-/

namespace RonWorkbench.Text

/-- Collecting the bytes of an array from a place on. -/
theorem toList_loop (bytes : ByteArray) (i : Nat) (seen : List UInt8) :
    ByteArray.toList.loop bytes i seen = seen.reverse ++ bytes.data.toList.drop i := by
  induction i, seen using ByteArray.toList.loop.induct bytes with
  | case1 i seen hlt ih =>
    have hdrop : bytes.data.toList.drop i = bytes.get! i :: bytes.data.toList.drop (i + 1) := by
      rw [List.drop_eq_getElem_cons (by simpa using hlt)]
      simp [ByteArray.get!, getElem!_pos, hlt]
    rw [ByteArray.toList.loop, if_pos hlt, ih, hdrop]
    simp
  | case2 i seen hge =>
    have hend : bytes.data.toList.length ≤ i := by
      simpa using hge
    rw [ByteArray.toList.loop, if_neg hge, List.drop_eq_nil_of_le hend, List.append_nil]

/-- The bytes of an array are listed in their order. -/
theorem toList_eq (bytes : ByteArray) : bytes.toList = bytes.data.toList := by
  rw [ByteArray.toList, toList_loop]
  simp

/-- A string is read from the bytes of its encoding and from no others. -/
theorem fromUTF8?_eq_some_iff {bytes : ByteArray} {s : String} :
    String.fromUTF8? bytes = some s ↔ s.toUTF8 = bytes := by
  unfold String.fromUTF8?
  split
  · rw [Option.some.injEq, ← String.toByteArray_inj, eq_comm]
    exact Iff.rfl
  · next hvalid =>
    refine iff_of_false (by simp) ?_
    rintro rfl
    exact hvalid s.isValidUTF8

/-- **The text that bytes are decoded as is the one whose encoding they are.** -/
theorem decode?_eq_some_iff {bytes : List UInt8} {text : List Char} :
    decode? bytes = some text ↔ encode text = bytes := by
  rw [decode?, Option.map_eq_some_iff]
  constructor
  · rintro ⟨s, hs, rfl⟩
    rw [encode, String.ofList_toList, fromUTF8?_eq_some_iff.1 hs, toList_eq]
  · rintro rfl
    refine ⟨String.ofList text, fromUTF8?_eq_some_iff.2 ?_, String.toList_ofList⟩
    rw [encode, toList_eq, Array.toArray_toList]

@[simp]
theorem decode?_encode (text : List Char) : decode? (encode text) = some text :=
  decode?_eq_some_iff.2 rfl

theorem encode_inj {a b : List Char} : encode a = encode b ↔ a = b := by
  refine ⟨fun h ↦ ?_, congrArg encode⟩
  rw [← Option.some.injEq, ← decode?_encode a, h, decode?_encode]

/-! ### Character by character -/

/-- The bytes of a text are those of its characters, one behind the other. -/
theorem encode_eq_flatMap (text : List Char) :
    encode text = text.flatMap String.utf8EncodeChar := by
  rw [encode, toList_eq, String.toUTF8_eq_toByteArray, String.toByteArray_ofList, List.utf8Encode,
    List.data_toByteArray]

theorem encode_nil : encode [] = [] :=
  encode_eq_flatMap []

theorem encode_cons (c : Char) (text : List Char) :
    encode (c :: text) = String.utf8EncodeChar c ++ encode text := by
  rw [encode_eq_flatMap, encode_eq_flatMap, List.flatMap_cons]

theorem encode_append (a b : List Char) : encode (a ++ b) = encode a ++ encode b := by
  rw [encode_eq_flatMap, encode_eq_flatMap, encode_eq_flatMap, List.flatMap_append]

/-- A text has as many bytes as it is counted to have. -/
theorem length_encode (text : List Char) : (encode text).length = byteLength text := by
  induction text with
  | nil => rw [encode_nil, List.length_nil, byteLength_nil]
  | cons c text ih =>
    rw [encode_cons, List.length_append, String.length_utf8EncodeChar, ih, byteLength_cons]

/-- A newline is a byte of its own, which no other character has in its encoding. -/
theorem count_utf8EncodeChar (c : Char) :
    (String.utf8EncodeChar c).count 10 = if c = '\n' then 1 else 0 := by
  split
  · next hc =>
    subst hc
    decide
  · next hc =>
    have hcode : c.val.toNat ≠ 10 := fun h ↦ hc (Char.ext (UInt32.toNat_inj.1 h))
    rw [List.count_eq_zero]
    intro hmem
    -- by the number of bytes; all but the byte of an ASCII character are 128 or more
    unfold String.utf8EncodeChar at hmem
    dsimp only at hmem
    split_ifs at hmem <;>
      simp only [List.mem_cons, List.not_mem_nil, or_false, ← UInt8.toNat_inj, UInt8.toNat_ofNat',
        UInt8.reduceToNat] at hmem <;>
      omega

/-- **The newlines of a text can be counted in its bytes.** -/
theorem count_encode (text : List Char) : (encode text).count 10 = text.count '\n' := by
  induction text with
  | nil => rw [encode_nil, List.count_nil, List.count_nil]
  | cons c text ih =>
    rw [encode_cons, List.count_append, ih, count_utf8EncodeChar, List.count_cons, Nat.add_comm]
    simp only [beq_iff_eq]

end RonWorkbench.Text
