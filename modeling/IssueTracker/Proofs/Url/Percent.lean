import IssueTracker.Proofs.Text.Utf8
/-!
# Percent-encoding, there and back

An encoded byte is read as that byte, and whatever is encoded holds no character that has to be.
-/

namespace IssueTracker.Url

theorem upperHex_mod (n : Nat) : upperHex (n % 16) = upperHex n := by
  rw [upperHex, upperHex, Nat.mod_mod]

/-- What is true of `%` and the digits is true of an encoded byte. -/
theorem forall_percentByte {P : Char → Prop} (hpercent : P '%') (hdigit : ∀ n < 16, P (upperHex n)) (b : UInt8) :
    ∀ c ∈ percentByte b, P c := by
  have hall : ∀ n, P (upperHex n) := fun n => upperHex_mod n ▸ hdigit (n % 16) (by omega)
  simp [percentByte, hpercent, hall]

/-! ## Decoding -/

theorem decodeBytes_cons {b : UInt8} (hb : b ≠ 37) (bytes : List UInt8) :
    decodeBytes (b :: bytes) = b :: decodeBytes bytes := by
  match bytes with
  | [] => rfl
  | [_] => rfl
  | _ :: _ :: _ => rw [decodeBytes, if_neg hb]

theorem decodeBytes_triple {x y : UInt8} {h l : Nat} (hx : hexValue? x = some h) (hy : hexValue? y = some l)
    (bytes : List UInt8) : decodeBytes (37 :: x :: y :: bytes) = UInt8.ofNat (h * 16 + l) :: decodeBytes bytes := by
  rw [decodeBytes, if_pos rfl, hx, hy]

theorem utf8_upperHex {n : Nat} (hn : n < 16) :
    ∃ x, String.utf8EncodeChar (upperHex n) = [x] ∧ hexValue? x = some n := by
  have hdigit : ∀ n < 16, String.utf8EncodeChar (upperHex n) = [UInt8.ofNat (upperHex n).toNat] ∧
      hexValue? (UInt8.ofNat (upperHex n).toNat) = some n := by decide
  exact ⟨_, hdigit n hn⟩

/-- A percent-encoded byte is read as that byte. -/
theorem decodeBytes_percentByte (b : UInt8) (bytes : List UInt8) :
    decodeBytes (utf8 (percentByte b) ++ bytes) = b :: decodeBytes bytes := by
  have hb : b.toNat < 256 := b.toNat_lt
  obtain ⟨x, hx, hhigh⟩ := utf8_upperHex (show b.toNat / 16 < 16 by omega)
  obtain ⟨y, hy, hlow⟩ := utf8_upperHex (show b.toNat % 16 < 16 by omega)
  have hbytes : utf8 (percentByte b) = [37, x, y] := by
    rw [upperHex_mod] at hy
    simp only [percentByte, utf8, List.flatMap_cons, List.flatMap_nil, hx, hy]
    rfl
  have hvalue : b.toNat / 16 * 16 + b.toNat % 16 = b.toNat := by omega
  rw [hbytes, List.cons_append, List.cons_append, List.cons_append, List.nil_append, decodeBytes_triple hhigh hlow,
    hvalue, UInt8.ofNat_toNat]

/-! ## Encoding -/

section Encoding

variable {set : Char → Bool}

/-- Encoding leaves no character of a set that holds neither `%` nor a digit. -/
theorem notIn_encodeChar (hpercent : set '%' = false) (hdigit : ∀ n < 16, set (upperHex n) = false) {c d : Char}
    (hd : d ∈ encodeChar set c) : set d = false := by
  rw [encodeChar] at hd
  split at hd
  · obtain ⟨b, -, hb⟩ := List.mem_flatMap.1 hd
    exact forall_percentByte (P := (set · = false)) hpercent hdigit b d hb
  · rename_i hc
    rw [List.mem_singleton.1 hd]
    exact (Bool.not_eq_true _).mp hc

/-- A character that is neither `%` nor a digit comes from itself. -/
theorem notMem_encode {c : Char} (hpercent : c ≠ '%') (hdigit : ∀ n < 16, upperHex n ≠ c) {cs : List Char}
    (hc : c ∉ cs) : c ∉ encode set cs := by
  intro h
  obtain ⟨d, hd, hcd⟩ := List.mem_flatMap.1 h
  rw [encodeChar] at hcd
  split at hcd
  · obtain ⟨b, -, hb⟩ := List.mem_flatMap.1 hcd
    exact forall_percentByte (P := (· ≠ c)) hpercent.symm hdigit b c hb rfl
  · rw [List.mem_singleton.1 hcd] at hc
    exact hc hd

end Encoding

end IssueTracker.Url
