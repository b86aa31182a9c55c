import IssueTracker.Url.Percent
/-!
# Texts as bytes

The bytes of a text tell the text, and the byte `0xff` is never among them.
-/

namespace IssueTracker.Url

theorem utf8_append (cs ds : List Char) : utf8 (cs ++ ds) = utf8 cs ++ utf8 ds := List.flatMap_append

/-- The bytes of a text spell that text. -/
theorem ofUtf8?_utf8 (cs : List Char) : ofUtf8? (utf8 cs) = some cs := by
  have hbytes : (⟨(utf8 cs).toArray⟩ : ByteArray) = cs.utf8Encode := ByteArray.ext List.data_toByteArray.symm
  have hvalid : cs.utf8Encode.IsValidUTF8 := ByteArray.isValidUTF8_utf8Encode
  have htext : String.fromUTF8 cs.utf8Encode hvalid = String.ofList cs := rfl
  rw [ofUtf8?, hbytes, String.fromUTF8?, dif_pos hvalid, htext, Option.map_some, String.toList_ofList]

theorem utf8_injective {cs ds : List Char} (h : utf8 cs = utf8 ds) : cs = ds :=
  Option.some.inj (by rw [← ofUtf8?_utf8 cs, h, ofUtf8?_utf8])

/-- A byte of a character has a zero among its five highest bits. -/
theorem lt_of_mem_utf8EncodeChar {c : Char} {b : UInt8} (h : b ∈ String.utf8EncodeChar c) :
    ∃ n < 0xff, b = UInt8.ofNat n := by
  unfold String.utf8EncodeChar at h
  simp only at h
  split at h
  · obtain rfl := List.mem_singleton.1 h
    exact ⟨_, by omega, rfl⟩
  · split at h
    · simp only [List.mem_cons, List.not_mem_nil, or_false] at h
      rcases h with rfl | rfl <;> exact ⟨_, by omega, rfl⟩
    · split at h
      · simp only [List.mem_cons, List.not_mem_nil, or_false] at h
        rcases h with rfl | rfl | rfl <;> exact ⟨_, by omega, rfl⟩
      · simp only [List.mem_cons, List.not_mem_nil, or_false] at h
        rcases h with rfl | rfl | rfl | rfl <;> exact ⟨_, by omega, rfl⟩

theorem end_notMem_utf8 (cs : List Char) : 0xff ∉ utf8 cs := by
  intro h
  obtain ⟨c, -, hc⟩ := List.mem_flatMap.1 h
  obtain ⟨n, hn, heq⟩ := lt_of_mem_utf8EncodeChar hc
  have hnat := congrArg UInt8.toNat heq
  rw [UInt8.toNat_ofNat_of_lt' (show n < UInt8.size by simp [UInt8.size]; omega)] at hnat
  have hend : (0xff : UInt8).toNat = 0xff := rfl
  omega

end IssueTracker.Url
