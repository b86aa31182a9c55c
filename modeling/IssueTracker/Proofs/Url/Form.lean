import IssueTracker.Proofs.Url.Percent
import IssueTracker.Url.Form
/-!
# Form encoding read back

A query that parameters were written into gives the same parameters in the same order, whatever their
names and values hold: `decodePairs_encodePairs`.
-/

namespace IssueTracker.Url

namespace Form

/-! ## Names and values -/

theorem bytesOf_append (cs ds : List Char) :
    bytesOf (cs ++ ds) = decodeBytes (utf8 (cs.map fun c => if c = '+' then ' ' else c) ++
      utf8 (ds.map fun c => if c = '+' then ' ' else c)) := by
  rw [bytesOf, List.map_append, utf8_append]

theorem isPlain_ofNat : ∀ n < 256, isPlain (UInt8.ofNat n) = true →
    String.utf8EncodeChar (Char.ofNat n) = [UInt8.ofNat n] ∧ n ≠ 37 ∧ Char.ofNat n ≠ '+' := by
  decide +kernel

/-- A written byte is read as that byte. -/
theorem bytesOf_encodeByte (b : UInt8) (cs : List Char) : bytesOf (encodeByte b ++ cs) = b :: bytesOf cs := by
  rw [bytesOf_append, encodeByte]
  split
  · rename_i hplain
    have hb := isPlain_ofNat b.toNat b.toNat_lt (by rwa [UInt8.ofNat_toNat])
    rw [UInt8.ofNat_toNat] at hb
    obtain ⟨hbyte, hpercent, hplus⟩ := hb
    rw [List.map_singleton, if_neg hplus, utf8, List.flatMap_singleton, hbyte]
    exact decodeBytes_cons (fun h => hpercent (by rw [h]; rfl)) _
  · split
    · rename_i hspace
      rw [hspace]
      exact decodeBytes_cons (by decide) _
    · have hkept : ∀ c ∈ percentByte b, (if c = '+' then ' ' else c) = c := by
        intro c hc
        exact if_neg (forall_percentByte (P := (· ≠ '+')) (by decide) (by decide) b c hc)
      rw [List.map_congr_left hkept, List.map_id'' fun _ => rfl, decodeBytes_percentByte]
      rfl

theorem bytesOf_flatMap_encodeByte (bytes : List UInt8) : bytesOf (bytes.flatMap encodeByte) = bytes := by
  induction bytes with
  | nil => rfl
  | cons b bytes ih => rw [List.flatMap_cons, bytesOf_encodeByte, ih]

theorem decodeText_encodeText (s : String) : decodeText (encodeText s) = s := by
  rw [decodeText, encodeText, bytesOf_flatMap_encodeByte, ofUtf8?_utf8, Option.getD_some, String.ofList_toList]

/-! ## Parameters -/

theorem notMem_encodeByte (b : UInt8) : '=' ∉ encodeByte b ∧ '&' ∉ encodeByte b := by
  have hbyte : ∀ n < 256, '=' ∉ encodeByte (UInt8.ofNat n) ∧ '&' ∉ encodeByte (UInt8.ofNat n) := by decide +kernel
  have hb := hbyte b.toNat b.toNat_lt
  rwa [UInt8.ofNat_toNat] at hb

/-- A name or value holds no separator once it is written. -/
theorem notMem_encodeText (s : String) : '=' ∉ encodeText s ∧ '&' ∉ encodeText s := by
  constructor
  · intro h
    obtain ⟨b, -, hb⟩ := List.mem_flatMap.1 h
    exact (notMem_encodeByte b).1 hb
  · intro h
    obtain ⟨b, -, hb⟩ := List.mem_flatMap.1 h
    exact (notMem_encodeByte b).2 hb

theorem decodePair_encodePair (pair : String × String) : decodePair (encodePair pair) = pair := by
  have hname : ∀ c ∈ encodeText pair.1, decide (c ≠ '=') = true :=
    fun c hc => decide_eq_true fun h => (notMem_encodeText pair.1).1 (h ▸ hc)
  rw [decodePair, encodePair, List.takeWhile_append_of_pos hname, List.dropWhile_append_of_pos hname]
  simp [decodeText_encodeText]

theorem notMem_encodePair (pair : String × String) : '&' ∉ encodePair pair := by
  simp [encodePair, (notMem_encodeText pair.1).2, (notMem_encodeText pair.2).2]

theorem encodePair_ne_nil (pair : String × String) : encodePair pair ≠ [] := by
  simp [encodePair]

/-- The parameters of a query are those it was written from. -/
theorem decodePairs_encodePairs (pairs : List (String × String)) : decodePairs (encodePairs pairs) = pairs := by
  cases pairs with
  | nil => rfl
  | cons pair pairs =>
    have hpieces : Text.splitOn '&' (encodePairs (pair :: pairs)) = (pair :: pairs).map encodePair := by
      refine Text.splitOn_joinWith (List.cons_ne_nil _ _) ?_
      intro piece hpiece
      obtain ⟨pair, -, rfl⟩ := List.mem_map.1 hpiece
      exact notMem_encodePair pair
    have hfull : ∀ piece ∈ (pair :: pairs).map encodePair, decide (piece ≠ []) = true := by
      intro piece hpiece
      obtain ⟨pair, -, rfl⟩ := List.mem_map.1 hpiece
      exact decide_eq_true (encodePair_ne_nil pair)
    rw [decodePairs, hpieces, List.filter_eq_self.2 hfull, List.map_map]
    exact List.map_id'' decodePair_encodePair _

end Form

end IssueTracker.Url
