import Harvest.Text.Utf8

/-!
# Texts that are encoded and decoded again

The bytes of a text decode to the text. Each character is decoded on its own, by the length of its
sequence.
-/

namespace Harvest.Text

/-! ## Bytes by their numbers -/

theorem toNat_byte {n : Nat} (hn : n < 256) :
    (UInt8.ofNat n).toNat = n := UInt8.toNat_ofNat_of_lt' hn

/-- The length of a sequence depends on the range of its lead byte. -/
theorem sequenceLength_eq (lead : UInt8) :
    sequenceLength lead =
      if lead.toNat < 0x80 then 1 else if lead.toNat < 0xC2 then 0 else if lead.toNat < 0xE0 then 2
      else if lead.toNat < 0xF0 then 3 else if lead.toNat < 0xF5 then 4 else 0 := rfl

theorem isContinuation_iff {b : UInt8} :
    isContinuation b = true ↔ 0x80 ≤ b.toNat ∧ b.toNat ≤ 0xBF := by
  simp [isContinuation, UInt8.le_iff_toNat_le]

theorem fitsLead_iff {lead second : UInt8} :
    fitsLead lead second = true ↔ isContinuation second = true ∧
      (lead.toNat = 0xE0 → 0xA0 ≤ second.toNat) ∧ (lead.toNat = 0xED → second.toNat < 0xA0) ∧
      (lead.toNat = 0xF0 → 0x90 ≤ second.toNat) ∧ (lead.toNat = 0xF4 → second.toNat < 0x90) := by
  unfold fitsLead
  simp only [Bool.and_eq_true, beq_iff_eq, ← UInt8.toNat_inj]
  split
  · simp_all [UInt8.le_iff_toNat_le]
  · split
    · simp_all [UInt8.lt_iff_toNat_lt]
    · split
      · simp_all [UInt8.le_iff_toNat_le]
      · split <;> simp_all [UInt8.lt_iff_toNat_lt]

/-! ## Sequences -/

theorem decodeUtf8From_one (position : Nat) {lead : UInt8} (rest : List UInt8)
    (hlead : lead.toNat < 0x80) :
    decodeUtf8From position (lead :: rest) =
      (decodeUtf8From (position + 1) rest).map (Char.ofNat lead.toNat :: ·) := by
  have hlength : sequenceLength lead = 1 := by rw [sequenceLength_eq, if_pos hlead]
  rw [decodeUtf8From.eq_def]
  dsimp only
  rw [hlength]
  rfl

theorem decodeUtf8From_two (position : Nat) {lead b : UInt8} (rest : List UInt8)
    (hlead : 0xC2 ≤ lead.toNat ∧ lead.toNat < 0xE0) (hb : fitsLead lead b = true) :
    decodeUtf8From position (lead :: b :: rest) =
      (decodeUtf8From (position + 2) rest).map
        (Char.ofNat (lead.toNat % 32 * 64 + payload b) :: ·) := by
  have hlength : sequenceLength lead = 2 := by
    rw [sequenceLength_eq, if_neg (by omega), if_neg (by omega), if_pos hlead.2]
  rw [decodeUtf8From.eq_def]
  dsimp only
  rw [hlength]
  exact if_pos hb

theorem decodeUtf8From_three (position : Nat) {lead b c : UInt8} (rest : List UInt8)
    (hlead : 0xE0 ≤ lead.toNat ∧ lead.toNat < 0xF0) (hb : fitsLead lead b = true)
    (hc : isContinuation c = true) :
    decodeUtf8From position (lead :: b :: c :: rest) =
      (decodeUtf8From (position + 3) rest).map
        (Char.ofNat ((lead.toNat % 16 * 64 + payload b) * 64 + payload c) :: ·) := by
  have hlength : sequenceLength lead = 3 := by
    rw [sequenceLength_eq, if_neg (by omega), if_neg (by omega), if_neg (by omega), if_pos hlead.2]
  rw [decodeUtf8From.eq_def]
  dsimp only
  rw [hlength]
  change (if !fitsLead lead b then _ else if !isContinuation c then _ else _) = _
  rw [hb, hc]
  rfl

theorem decodeUtf8From_four (position : Nat) {lead b c d : UInt8} (rest : List UInt8)
    (hlead : 0xF0 ≤ lead.toNat ∧ lead.toNat < 0xF5) (hb : fitsLead lead b = true)
    (hc : isContinuation c = true) (hd : isContinuation d = true) :
    decodeUtf8From position (lead :: b :: c :: d :: rest) =
      (decodeUtf8From (position + 4) rest).map
        (Char.ofNat (((lead.toNat % 8 * 64 + payload b) * 64 + payload c) * 64 + payload d) ::
        ·) := by
  have hlength : sequenceLength lead = 4 := by
    rw [sequenceLength_eq, if_neg (by omega), if_neg (by omega), if_neg (by omega),
      if_neg (by omega), if_pos hlead.2]
  rw [decodeUtf8From.eq_def]
  dsimp only
  rw [hlength]
  change (if !fitsLead lead b then _ else if !isContinuation c then _ else
    if !isContinuation d then _ else _) = _
  rw [hb, hc, hd]
  rfl

/-! ## Characters -/

theorem decodeUtf8From_encodeChar (position : Nat) (c : Char) (rest : List UInt8) :
    decodeUtf8From position (String.utf8EncodeChar c ++ rest) =
      (decodeUtf8From (position + (String.utf8EncodeChar c).length) rest).map (c :: ·) := by
  have hvalid : c.toNat < 0xD800 ∨ (0xDFFF < c.toNat ∧ c.toNat < 0x110000) := c.valid
  have hchar : Char.ofNat c.toNat = c := Char.ofNat_toNat c
  unfold String.utf8EncodeChar
  rw [show c.val.toNat = c.toNat from rfl]
  generalize c.toNat = v at hvalid hchar
  -- The six lower bits of a number in each byte after the first.
  have hbyte (n : Nat) : (UInt8.ofNat (n % 64 + 128)).toNat = n % 64 + 128 := toNat_byte (by omega)
  have hcontinues (n : Nat) : isContinuation (UInt8.ofNat (n % 64 + 128)) = true := by
    rw [isContinuation_iff, hbyte]
    omega
  have hpayload (n : Nat) : payload (UInt8.ofNat (n % 64 + 128)) = n % 64 := by
    unfold payload
    rw [hbyte]
    omega
  dsimp only
  split
  · have hlead := toNat_byte (n := v) (by omega)
    rw [List.singleton_append, decodeUtf8From_one _ _ (by omega), hlead, hchar]
    rfl
  · split
    · have hlead := toNat_byte (n := v / 64 % 32 + 192) (by omega)
      have hfits : fitsLead (UInt8.ofNat (v / 64 % 32 + 192)) (UInt8.ofNat (v % 64 + 128)) =
          true := by
        rw [fitsLead_iff, hlead, hbyte]
        exact ⟨hcontinues v, by omega, by omega, by omega, by omega⟩
      rw [List.cons_append, List.singleton_append, decodeUtf8From_two _ _ (by omega) hfits, hlead,
        hpayload, show (v / 64 % 32 + 192) % 32 * 64 + v % 64 = v by omega, hchar]
      rfl
    · split
      · have hlead := toNat_byte (n := v / 4096 % 16 + 224) (by omega)
        have hfits : fitsLead (UInt8.ofNat (v / 4096 % 16 + 224))
            (UInt8.ofNat (v / 64 % 64 + 128)) = true := by
          rw [fitsLead_iff, hlead, hbyte]
          exact ⟨hcontinues _, by omega, by omega, by omega, by omega⟩
        rw [List.cons_append, List.cons_append, List.singleton_append,
          decodeUtf8From_three _ _ (by omega) hfits (hcontinues v), hlead, hpayload, hpayload,
          show ((v / 4096 % 16 + 224) % 16 * 64 + v / 64 % 64) * 64 + v % 64 = v by omega, hchar]
        rfl
      · have hlead := toNat_byte (n := v / 262144 % 8 + 240) (by omega)
        have hfits : fitsLead (UInt8.ofNat (v / 262144 % 8 + 240))
            (UInt8.ofNat (v / 4096 % 64 + 128)) = true := by
          rw [fitsLead_iff, hlead, hbyte]
          exact ⟨hcontinues _, by omega, by omega, by omega, by omega⟩
        rw [List.cons_append, List.cons_append, List.cons_append, List.singleton_append,
          decodeUtf8From_four _ _ (by omega) hfits (hcontinues _) (hcontinues v), hlead, hpayload,
          hpayload, hpayload,
          show (((v / 262144 % 8 + 240) % 8 * 64 + v / 4096 % 64) * 64 + v / 64 % 64) * 64 + v %
            64 = v
            by omega, hchar]
        rfl

/-- A text is decoded as it was encoded. -/
theorem decodeUtf8_encodeUtf8 (s : List Char) : decodeUtf8 (encodeUtf8 s) = .ok s := by
  have hfrom (position : Nat) : decodeUtf8From position (encodeUtf8 s) = .ok s := by
    induction s generalizing position with
    | nil => rfl
    | cons c cs ih =>
      unfold encodeUtf8 at ih ⊢
      rw [List.flatMap_cons, decodeUtf8From_encodeChar, ih]
      rfl
  exact hfrom 0

end Harvest.Text
