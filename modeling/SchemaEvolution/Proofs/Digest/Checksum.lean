import SchemaEvolution.Digest.Checksum
import SchemaEvolution.Proofs.Json.RoundTrip

/-! # Which texts share a checksum

A checksum spells out a digest, and a text is determined by its bytes.  So texts whose bytes do not
collide share a checksum only if they are equal (`Checksum.ofText_inj`).
-/

namespace SchemaEvolution

namespace Sha256

theorem hexChar_inj {m n : Nat} (hm : m < 16) (hn : n < 16)
    (same : Json.hexChar m = Json.hexChar n) : m = n := by
  have read := congrArg Json.hexDigit? same
  rw [Json.hexDigit?_hexChar hm, Json.hexDigit?_hexChar hn] at read
  exact Option.some.inj read

/-- A number is determined by as many hexadecimal digits as it has. -/
theorem eq_of_hexDigits {k m n : Nat} (hm : m < 16 ^ k) (hn : n < 16 ^ k)
    (same : ∀ i < k, m / 16 ^ i % 16 = n / 16 ^ i % 16) : m = n := by
  induction k generalizing m n with
  | zero => rw [Nat.lt_one_iff.mp hm, Nat.lt_one_iff.mp hn]
  | succ k ih =>
      have last : m % 16 = n % 16 := by simpa using same 0 (Nat.succ_pos k)
      have others : m / 16 = n / 16 := by
        rw [Nat.pow_succ'] at hm hn
        apply ih (Nat.div_lt_of_lt_mul hm) (Nat.div_lt_of_lt_mul hn)
        intro i small
        rw [Nat.div_div_eq_div_mul, Nat.div_div_eq_div_mul, ← Nat.pow_succ']
        exact same (i + 1) (Nat.succ_lt_succ small)
      rw [← Nat.div_add_mod m 16, ← Nat.div_add_mod n 16, others, last]

/-- A word is determined by its eight digits. -/
theorem hexWord_inj {v w : UInt32} (same : hexWord v = hexWord w) : v = w := by
  have digit (w : UInt32) (i : Nat) : (w.toNat >>> (4 * i)) % 16 = w.toNat / 16 ^ i % 16 := by
    rw [Nat.shiftRight_eq_div_pow, Nat.pow_mul]
  apply UInt32.toNat.inj
  apply @eq_of_hexDigits 8 _ _ v.toNat_lt w.toNat_lt
  intro i small
  have read := List.map_inj_left.mp same (7 - i) (List.mem_range.mpr (by omega))
  rw [show 7 - (7 - i) = i by omega, digit v, digit w] at read
  exact hexChar_inj (Nat.mod_lt _ (by decide)) (Nat.mod_lt _ (by decide)) read

theorem flatMap_hexWord_inj {vs ws : List UInt32} (lengths : vs.length = ws.length)
    (same : vs.flatMap hexWord = ws.flatMap hexWord) : vs = ws := by
  induction vs generalizing ws with
  | nil => exact (List.length_eq_zero_iff.mp lengths.symm).symm
  | cons v vs ih =>
      cases ws with
      | nil => cases lengths
      | cons w ws =>
          rw [List.flatMap_cons, List.flatMap_cons] at same
          obtain ⟨first, others⟩ := List.append_inj same (by simp [hexWord])
          rw [hexWord_inj first, ih (Nat.succ.inj lengths) others]

/-- A digest is determined by its digits. -/
theorem State.hex_inj {s t : State} (same : s.hex = t.hex) : s = t := by
  have words := flatMap_hexWord_inj (by rfl) same
  cases s
  cases t
  simpa using words

end Sha256

namespace Checksum

theorem toList_loop (bytes : ByteArray) (i : Nat) (done : List UInt8) :
    ByteArray.toList.loop bytes i done = done.reverse ++ bytes.data.toList.drop i := by
  induction left : bytes.size - i generalizing i done with
  | zero =>
      rw [ByteArray.toList.loop, if_neg (by omega), List.drop_eq_nil_of_le, List.append_nil]
      simp only [Array.length_toList, ByteArray.size_data]
      omega
  | succ n ih =>
      have inside : i < bytes.data.toList.length := by
        simp only [Array.length_toList, ByteArray.size_data]
        omega
      have here : bytes.get! i = bytes.data.toList[i] := by
        change bytes.data[i]! = _
        rw [getElem!_pos bytes.data i (by simpa using inside), Array.getElem_toList]
      rw [ByteArray.toList.loop, if_pos (by omega), ih (i + 1) _ (by omega),
        List.drop_eq_getElem_cons inside, here, List.reverse_cons, List.append_assoc,
        List.singleton_append]

theorem toList_eq (bytes : ByteArray) : bytes.toList = bytes.data.toList := by
  rw [ByteArray.toList, toList_loop]
  rfl

/-- Whether two texts have different bytes and yet one digest. -/
def Collide (a b : String) : Prop :=
  a.toUTF8.toList ≠ b.toUTF8.toList ∧
    Sha256.digest a.toUTF8.toList = Sha256.digest b.toUTF8.toList

/-- Texts that do not collide are told apart by their checksums. -/
theorem ofText_inj {a b : String} (apart : ¬ Collide a b) : ofText a = ofText b ↔ a = b := by
  constructor
  · intro same
    have digests : Sha256.digest a.toUTF8.toList = Sha256.digest b.toUTF8.toList :=
      Sha256.State.hex_inj (String.ofList_injective (congrArg hex same))
    have bytes : a.toUTF8.toList = b.toUTF8.toList := by
      by_contra differ
      exact apart ⟨differ, digests⟩
    rw [toList_eq, toList_eq, Array.toList_inj] at bytes
    exact String.toByteArray_inj.mp (ByteArray.ext bytes)
  · rintro rfl
    rfl

end Checksum

end SchemaEvolution
