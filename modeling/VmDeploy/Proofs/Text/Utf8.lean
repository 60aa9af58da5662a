import VmDeploy.Text.Utf8

/-!
# Texts as bytes

A text is encoded character by character, and nothing of it is lost. Texts are compared byte by
byte as their encodings are.
-/

set_option autoImplicit false

namespace VmDeploy.Text

/-- Listing bytes from a place on puts them behind those that were listed before. -/
theorem toList_loop_eq (bytes : ByteArray) (i : Nat) (listed : List UInt8) :
    ByteArray.toList.loop bytes i listed = listed.reverse ++ bytes.data.toList.drop i := by
  induction i, listed using ByteArray.toList.loop.induct bytes with
  | case1 i listed inside ih =>
    have inside' : i < bytes.data.toList.length := by simpa using inside
    have first : bytes.get! i = bytes.data.toList[i] := getElem!_pos bytes.data i inside
    rw [ByteArray.toList.loop, if_pos inside, ih, List.drop_eq_getElem_cons inside', first]
    simp
  | case2 i listed behind =>
    have none : bytes.data.toList.drop i = [] :=
      List.drop_of_length_le (by simpa using behind)
    rw [ByteArray.toList.loop, if_neg behind, none, List.append_nil]

theorem toList_eq_data_toList (bytes : ByteArray) : bytes.toList = bytes.data.toList :=
  toList_loop_eq bytes 0 []

/-- A text is encoded character by character. -/
theorem Utf8.encode_ofList (cs : List Char) :
    encode (String.ofList cs) = cs.flatMap String.utf8EncodeChar := by
  rw [encode, toList_eq_data_toList]
  simp [List.utf8Encode]

theorem Utf8.encode_injective {s t : String} (same : encode s = encode t) : s = t := by
  rw [encode, encode, toList_eq_data_toList, toList_eq_data_toList] at same
  exact String.toByteArray_inj.mp (ByteArray.ext (Array.toList_inj.mp same))

/-- A text is read back from its bytes. -/
theorem Utf8.decode?_encode (s : String) : decode? (encode s) = some s := by
  rw [encode, toList_eq_data_toList]
  unfold decode? String.fromUTF8?
  exact dif_pos s.isValidUTF8

/-- The texts are in order, byte by byte. -/
def BytesLE (s t : String) : Prop := Utf8.encode s ≤ Utf8.encode t

end VmDeploy.Text
