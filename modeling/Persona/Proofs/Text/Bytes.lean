import Persona.Json.Bytes
import Persona.Proofs.Json.Roundtrip
import Persona.Proofs.Text.Ascii

/-!
# ASCII texts in bytes

An ASCII text has one byte for each character. No zeros are among them, so they are taken for UTF-8
and give the text back. What is written as JSON is ASCII, and is read back from its bytes.

Main statements: `Text.bytes?_of_isAscii`, `Text.ofJsonBytes_of_isAscii`,
`Json.decodeBytes_encode`.
-/

namespace Persona

namespace Text

/-- A text of ASCII characters other than the zero. -/
def IsAscii (s : String) : Prop := ∀ c ∈ s.toList, 0 < c.toNat ∧ c.toNat < 128

/-- The one byte of each character of an ASCII text. -/
def asciiBytes (s : String) : List UInt8 := s.toList.map fun c => UInt8.ofNat c.toNat

theorem bytes?_of_isAscii {s : String} (h : IsAscii s) : bytes? s = some (asciiBytes s) := by
  have hhalves : halves? s = none := firstHalves?_of_ascii _ fun c hc => (h c hc).2
  have hpoints : (points s).map Char.ofNat = s.toList := by
    rw [points, pointsOf_of_ascii fun c hc => (h c hc).2, List.map_map]
    exact List.map_id'' Char.ofNat_toNat _
  have hchar : ∀ c ∈ s.toList, String.utf8EncodeChar c = [UInt8.ofNat c.toNat] := by
    intro c hc
    exact if_pos (Nat.le_of_lt_succ (h c hc).2)
  rw [bytes?, hhalves, hpoints, String.toUTF8, String.toByteArray_ofList, List.utf8Encode,
    List.data_toByteArray, List.flatMap_congr hchar]
  exact congrArg some (List.flatMap_pure_eq_map _ _)

theorem pieces_of_ascii {bs : List UInt8} (h : ∀ b ∈ bs, b < 0x80) :
    pieces bs = bs.map fun b => ⟨[b], .ok b.toNat⟩ := by
  induction bs with
  | nil => rw [pieces, List.map_nil]
  | cons b bs ih =>
      rw [List.forall_mem_cons] at h
      have hfollowers : followersOf b 0 bs = [] := by cases bs <;> rfl
      have hpiece : pieceAt b bs = ⟨[b], .ok b.toNat⟩ := by
        rw [pieceAt, followers?, if_pos h.1]
        simp only [hfollowers]
        rfl
      rw [pieces, hpiece, List.map_cons]
      exact congrArg _ (ih h.2)

theorem numbersFrom_ascii (encoding : Encoding) (position : Nat) (bs : List UInt8) :
    numbersFrom encoding position (bs.map fun b => ⟨[b], .ok b.toNat⟩) =
      .ok (bs.map UInt8.toNat) := by
  induction bs generalizing position with
  | nil => rfl
  | cons b bs ih =>
      rw [List.map_cons, numbersFrom, ih]
      rfl

/-- Bytes without zeros are taken for UTF-8. -/
theorem encoding_of_ne_zero {bs : List UInt8} (h : ∀ b ∈ bs, b ≠ 0) :
    Encoding.ofJsonBytes bs = .utf8 := by
  unfold Encoding.ofJsonBytes
  split
  next => exact absurd rfl (h 0 (by simp))
  next => exact absurd rfl (h 0 (by simp))
  next a b c d rest =>
      have ha : (a == 0) = false := beq_eq_false_iff_ne.mpr (h a (by simp))
      have hb : (b == 0) = false := beq_eq_false_iff_ne.mpr (h b (by simp))
      rw [ha, hb]
      rfl
  · rfl

/-- A mark of the byte order is not in ASCII. -/
theorem ofJsonBytes_of_ascii {bs : List UInt8} (h : ∀ b ∈ bs, b < 0x80) :
    ofJsonBytes bs = (Encoding.ofJsonBytes bs).decode bs := by
  unfold ofJsonBytes
  split
  · exact absurd (h 0xef List.mem_cons_self) (by decide)
  · rfl

theorem ofJsonBytes_of_isAscii {s : String} (h : IsAscii s) :
    ofJsonBytes (asciiBytes s) = .ok s := by
  have hnumber : ∀ c ∈ s.toList, (UInt8.ofNat c.toNat).toNat = c.toNat := fun c hc =>
    UInt8.toNat_ofNat_of_lt (Nat.lt_trans (h c hc).2 (by decide))
  have hplain : ∀ b ∈ asciiBytes s, b < 0x80 ∧ b ≠ 0 := by
    intro b hb
    obtain ⟨c, hc, rfl⟩ := List.mem_map.mp hb
    refine ⟨UInt8.lt_iff_toNat_lt.mpr ?_, fun hzero => ?_⟩
    · rw [hnumber c hc]
      exact (h c hc).2
    · have hpositive := (h c hc).1
      rw [← hnumber c hc, hzero] at hpositive
      exact absurd hpositive (by decide)
  have hmark : mark ∉ s.toList := fun hmem => absurd (h mark hmem).2 (by decide)
  have hnumbers : (asciiBytes s).map UInt8.toNat = s.toList.map Char.toNat := by
    rw [asciiBytes, List.map_map]
    exact List.map_congr_left hnumber
  rw [ofJsonBytes_of_ascii fun b hb => (hplain b hb).1,
    encoding_of_ne_zero fun b hb => (hplain b hb).2, Encoding.decode,
    pieces_of_ascii fun b hb => (hplain b hb).1, numbersFrom_ascii, hnumbers]
  have hpoints : ofPoints (s.toList.map Char.toNat) = s := by
    rw [ofPoints, flatMap_hold_toNat hmark, String.ofList_toList]
  exact congrArg Except.ok hpoints

end Text

namespace Json

theorem isAscii_encode (v : Json) : Text.IsAscii v.encode := by
  intro c hc
  have hc := isPrintable_of_mem_encode v c hc
  simp only [isPrintable, Bool.and_eq_true, decide_eq_true_eq] at hc
  omega

/-- What is written on one line is read back from its bytes. -/
theorem decodeBytes_encode {v : Json} (hplain : v.Plain) (hwithin : v.Within depthLimit) :
    decodeBytes (Text.asciiBytes v.encode) = .ok v := by
  have hread : readWhole v.encode.toList = .ok v := by
    have htext := readText_chars .line hplain hwithin
    rw [readText] at htext
    rw [encode, String.toList_ofList]
    split at htext
    · cases htext
    · exact htext
  rw [decodeBytes, Text.ofJsonBytes_of_isAscii (isAscii_encode v)]
  change (readWhole v.encode.toList).mapError _ = .ok v
  rw [hread]
  rfl

end Json

end Persona
