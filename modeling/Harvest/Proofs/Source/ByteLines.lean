import Harvest.Proofs.Text.Utf8
import Harvest.Source.Extract

/-!
# Sources given as bytes

The bytes of a text may be cut into lines before they are decoded: only a line feed is written with
the byte of a line feed, so no cut goes through a character. A source is therefore read alike as a
text and as bytes, whether these are decoded at once or line by line.
-/

namespace Harvest.Text

theorem ne_ten_of_mem_encodeChar {c : Char} (hc : c ≠ '\n') {b : UInt8}
    (hb : b ∈ String.utf8EncodeChar c) :
    b ≠ 10 := by
  have hne : c.toNat ≠ 10 := fun h => hc (Char.toNat_inj.mp h)
  unfold String.utf8EncodeChar at hb
  rw [show c.val.toNat = c.toNat from rfl] at hb
  rintro rfl
  have hbyte {n : Nat} (hn : n < 256) : (10 : UInt8) = UInt8.ofNat n ↔ n = 10 := by
    rw [← UInt8.toNat_inj, toNat_byte hn, eq_comm]
    rfl
  dsimp only at hb
  repeat' split at hb
  -- Every byte of a longer sequence is at least 128.
  all_goals
    simp (disch := omega) only [List.mem_cons, List.not_mem_nil, or_false, hbyte] at hb
    omega

theorem encodeUtf8_append (s t : List Char) : encodeUtf8 (s ++ t) = encodeUtf8 s ++ encodeUtf8 t :=
  List.flatMap_append

theorem encodeUtf8_eq_nil_iff {s : List Char} : encodeUtf8 s = [] ↔ s = [] := by
  constructor
  · intro h
    -- What is decoded from nothing is nothing.
    have hdecoded := decodeUtf8_encodeUtf8 s
    rw [h] at hdecoded
    exact (Except.ok.inj hdecoded).symm
  · rintro rfl
    rfl

end Harvest.Text

namespace Harvest.Source

open Text

theorem byteLinesFrom_append {more : List UInt8} (h : ∀ b ∈ more, b ≠ 10) (line rest : List UInt8) :
    byteLinesFrom line (more ++ rest) = byteLinesFrom (more.reverse ++ line) rest := by
  induction more generalizing line with
  | nil => rfl
  | cons b more ih =>
    obtain ⟨hb, hmore⟩ := List.forall_mem_cons.mp h
    rw [List.cons_append, byteLinesFrom, if_neg hb, ih hmore, List.reverse_cons, List.append_assoc]
    rfl

/-- The current line is held as bytes on one side and as characters on the other, both from
the end. -/
theorem byteLinesFrom_encodeUtf8 (line s : List Char) :
    byteLinesFrom (encodeUtf8 line.reverse).reverse (encodeUtf8 s) =
      (feedLinesFrom line s).map (Except.ok : List Char → Line) := by
  -- The bytes of a line feed occur in the encoding of no other character.
  induction s generalizing line with
  | nil =>
    change (if _ then _ else _) = (feedLinesFrom line []).map _
    rw [feedLinesFrom]
    by_cases hline : line = []
    · subst hline
      rfl
    · have hbytes : (encodeUtf8 line.reverse).reverse ≠ [] := by
        rw [Ne, List.reverse_eq_nil_iff, encodeUtf8_eq_nil_iff, List.reverse_eq_nil_iff]
        exact hline
      rw [if_neg (by simpa using hbytes), if_neg (by simpa using hline), List.reverse_reverse,
        decodeUtf8_encodeUtf8]
      rfl
  | cons c cs ih =>
    have hcons : encodeUtf8 (c :: cs) = String.utf8EncodeChar c ++
      encodeUtf8 cs := List.flatMap_cons
    have hline : encodeUtf8 (c :: line).reverse = encodeUtf8 line.reverse ++
        String.utf8EncodeChar c := by
      rw [List.reverse_cons, encodeUtf8_append]
      exact congrArg _ (List.append_nil _)
    rw [hcons, feedLinesFrom]
    by_cases hc : c = '\n'
    · subst hc
      have hfeed : String.utf8EncodeChar '\n' = [10] := by decide
      rw [hfeed] at hline ⊢
      have hfull : (10 :: (encodeUtf8 line.reverse).reverse).reverse =
          encodeUtf8 ('\n' :: line).reverse := by
        rw [hline, List.reverse_cons, List.reverse_reverse]
      rw [if_pos rfl, List.singleton_append, byteLinesFrom, if_pos rfl, hfull,
        decodeUtf8_encodeUtf8,
        List.map_cons]
      exact congrArg _ (ih [])
    · rw [if_neg hc, byteLinesFrom_append fun b => ne_ten_of_mem_encodeChar hc,
        ← ih (c :: line), hline,
        List.reverse_append]

/-- The lines of encoded text are those of the text. -/
theorem byteLines_encodeUtf8 (s : List Char) : byteLines (encodeUtf8 s) = textLines s :=
  byteLinesFrom_encodeUtf8 [] s

/-- A source gives the same as a text that is cut into lines, as bytes that are cut into lines and
then decoded, as a whole text, and as bytes that are decoded at once. -/
theorem extract_encodeUtf8 (options : Options) (file : String) (firstLine : Int) (s : List Char) :
    let ofLines := extract options file firstLine (textLines s)
    extractByteLines options file firstLine (encodeUtf8 s) = ofLines ∧
      extractText options file firstLine s = ofLines ∧
      extractBytes options file firstLine (encodeUtf8 s) = ofLines := by
  refine ⟨?_, rfl, ?_⟩
  · unfold extractByteLines
    rw [byteLines_encodeUtf8]
  · unfold extractBytes
    rw [decodeUtf8_encodeUtf8]
    rfl

end Harvest.Source
