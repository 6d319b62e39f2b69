import GpuFleet.Digest.Fnv
import Std.Data.String.ToInt

/-!
The digest of a text, made from the bytes of its characters one after another, and its decimal text.
-/
namespace GpuFleet.Digest

private theorem toList_loop_eq (bs : ByteArray) (i : Nat) (r : List UInt8) :
    ByteArray.toList.loop bs i r = r.reverse ++ bs.data.toList.drop i := by
  fun_induction ByteArray.toList.loop bs i r with
  | case1 i r h ih =>
    have hlt : i < bs.data.toList.length := h
    have hget : bs.get! i = bs.data.toList[i] := by
      simp [ByteArray.get!, getElem!_pos bs.data i h]
    rw [ih, List.reverse_cons, List.append_assoc, List.singleton_append, hget,
      List.getElem_cons_drop hlt]
  | case2 i r h =>
    have hle : bs.data.toList.length ≤ i := Nat.not_lt.mp h
    rw [List.drop_eq_nil_of_le hle, List.append_nil]

theorem ofText_ofList (cs : List Char) :
    ofText (String.ofList cs) = fnv (cs.flatMap String.utf8EncodeChar) := by
  have hbytes : (String.ofList cs).toUTF8.toList = cs.flatMap String.utf8EncodeChar := by
    rw [ByteArray.toList, toList_loop_eq]
    simp [String.toUTF8, List.utf8Encode]
  rw [ofText, hbytes]

/-- Equal decimal texts are those of one digest. -/
theorem decimal_inj {m n : UInt32} (h : decimal m = decimal n) : m = n :=
  UInt32.toNat_inj.mp (Nat.repr_injective h)

end GpuFleet.Digest
