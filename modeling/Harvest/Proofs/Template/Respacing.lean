import Harvest.Proofs.Template.OwnText
import Mathlib.Logic.Relation

/-!
# Blanks between words

What a passage gathers may be broken into pieces anywhere, also between blanks. Main statement: its
text is made of the words of all pieces together, so blanks between them may be written in any other
way. The text, the message and whether there is something to translate stay the same.
-/

namespace Harvest.Template

open Text

/-! ## Blanks written in another way -/

/-- A run of blanks is replaced by another. -/
inductive Respaced : List Char → List Char → Prop
  | run (before blanks blanks' after : List Char) (hne : blanks ≠ [])
      (hblanks : allBlank blanks = true)
      (hne' : blanks' ≠ []) (hblanks' : allBlank blanks' = true) :
      Respaced (before ++ (blanks ++ after)) (before ++ (blanks' ++ after))

theorem words_allBlank_append {blanks : List Char} (h : allBlank blanks = true) (s : List Char) :
    words (blanks ++ s) = words s := by
  induction blanks with
  | nil => rfl
  | cons c blanks ih =>
    obtain ⟨hc, hblanks⟩ := Bool.and_eq_true_iff.mp h
    exact (words_append_blank hc [] (blanks ++ s)).trans (ih hblanks)

theorem words_append_run {blanks : List Char} (hne : blanks ≠ []) (h : allBlank blanks = true)
    (s t : List Char) :
    words (s ++ (blanks ++ t)) = words s ++ words t := by
  cases blanks with
  | nil => exact absurd rfl hne
  | cons c blanks =>
    obtain ⟨hc, hblanks⟩ := Bool.and_eq_true_iff.mp h
    rw [List.cons_append, words_append_blank hc, words_allBlank_append hblanks]

theorem Respaced.words_eq {s t : List Char} (h : Respaced s t) : words t = words s := by
  cases h with
  | run before blanks blanks' after hne hblanks hne' hblanks' =>
    rw [words_append_run hne hblanks, words_append_run hne' hblanks']

/-- Blanks written in another way leave the words as they are. -/
theorem words_eq_of_respaced {s t : List Char} (h : Relation.ReflTransGen Respaced s t) :
    words t = words s := by
  induction h with
  | refl => rfl
  | tail _ hlast ih => exact hlast.words_eq.trans ih

/-! ## What is added to a passage -/

/-- What is added to a passage: a text, or an element with its name. -/
inductive Addition where
  | text (s : List Char)
  | element (name : Option String)

def Addition.piece : Addition → List Char
  | .text s => s
  | .element name => placeholder name

namespace Passage

def add (p : Passage) : Addition → Passage
  | .text s => p.addText s
  | .element name => p.addElement name

def addAll (p : Passage) (additions : List Addition) : Passage := additions.foldl add p

def gathered (p : Passage) (additions : List Addition) : List Char :=
  p.pieces.flatten ++ additions.flatMap Addition.piece

/-- Additions put their pieces at the end of a passage, and change nothing else. -/
theorem addAll_eq (p : Passage) (additions : List Addition) :
    p.addAll additions = { p with pieces := p.pieces ++ additions.map Addition.piece } := by
  induction additions generalizing p with
  | nil => rw [List.map_nil, List.append_nil]; rfl
  | cons a additions ih =>
    have hadd : p.add a = { p with pieces := p.pieces ++ [a.piece] } := by cases a <;> rfl
    rw [addAll, List.foldl_cons, hadd]
    refine (ih _).trans ?_
    rw [List.append_assoc]
    rfl

theorem words_addAll (p : Passage) (additions : List Addition) :
    (p.addAll additions).words = join [' '] (Text.words (p.gathered additions)) := by
  rw [addAll_eq, Passage.words, collapse_trim, List.flatten_append, ← List.flatMap_def]
  rfl

/-- The message of a passage depends on the words of its pieces only. -/
theorem message_of_words_eq {p q : Passage} (hsame : q = { p with pieces := q.pieces })
    (h : q.words = p.words)
    (sentence : Option String) : q.message sentence = p.message sentence := by
  have htext : q.fullText = p.fullText := congrArg String.ofList h
  rw [hsame] at htext ⊢
  unfold message commentLines idAndText
  rw [htext]

/-- The text of a passage is made of the words of all its pieces, and there is nothing to translate
if blanks and interpolations are all that it has. Blanks that are written in another way, in the
same pieces or in others, change neither of these nor the message. -/
theorem addAll_respaced (p : Passage) (additions : List Addition) :
    (p.addAll additions).fullText = String.ofList (join [' '] (Text.words (p.gathered additions))) ∧
      (p.addAll additions).isIgnored = allBlank (withoutRuns (p.gathered additions)) ∧
      ∀ (q : Passage) (others : List Addition), q = { p with pieces := q.pieces } →
        Relation.ReflTransGen Respaced (p.gathered additions) (q.gathered others) →
          (q.addAll others).fullText = (p.addAll additions).fullText ∧
          (∀ sentence, (q.addAll others).message sentence = (p.addAll additions).message sentence) ∧
          (q.addAll others).isIgnored = (p.addAll additions).isIgnored := by
  refine ⟨congrArg String.ofList (p.words_addAll additions), ?_, ?_⟩
  · rw [isIgnored, words_addAll, isDynamic_join_words, isDynamic_eq_allBlank]
  · intro q others hsame hrespaced
    -- All that is told of a passage comes from its words and from what its element says.
    have hwords : (q.addAll others).words = (p.addAll additions).words := by
      rw [words_addAll, words_addAll, words_eq_of_respaced hrespaced]
    have hadded : q.addAll others =
        { p.addAll additions with pieces := (q.addAll others).pieces } := by
      rw [addAll_eq, addAll_eq, hsame]
    exact ⟨congrArg String.ofList hwords, message_of_words_eq hadded hwords,
      congrArg (isDynamic false) hwords⟩

def brokenText : List Addition :=
  [.text ['a', ' ', '\n'], .text ['\t', 'b', ' '], .element (some "n")]

def wholeText : List Addition := [.text ['a', ' ', 'b', '\n'], .element (some "n")]

theorem addAll_respaced_brokenText :
    Relation.ReflTransGen Respaced (gathered { location := ⟨"f", 1⟩ } brokenText)
      (gathered { location := ⟨"f", 1⟩ } wholeText) ∧
      (addAll { location := ⟨"f", 1⟩ } wholeText).fullText = "a b $\x7bn\x7d" ∧
      (addAll { location := ⟨"f", 1⟩ } wholeText).isIgnored =
          (addAll { location := ⟨"f", 1⟩ } brokenText).isIgnored := by
  have hbreak : Respaced (gathered { location := ⟨"f", 1⟩ } brokenText) ['a', ' ', 'b', ' ', '$',
      '\x7b', 'n', '\x7d'] :=
    .run ['a'] [' ', '\n', '\t'] [' '] ['b', ' ', '$', '\x7b', 'n', '\x7d'] (by decide)
      rfl (by decide) rfl
  have hend : Respaced ['a', ' ', 'b', ' ', '$', '\x7b', 'n', '\x7d']
      (gathered { location := ⟨"f", 1⟩ } wholeText) :=
    .run ['a', ' ', 'b'] [' '] ['\n'] ['$', '\x7b', 'n', '\x7d'] (by decide) rfl (by decide) rfl
  have hrespaced := Relation.ReflTransGen.head hbreak (.single hend)
  obtain ⟨htext, -, hothers⟩ := addAll_respaced { location := ⟨"f", 1⟩ } brokenText
  obtain ⟨hsame, -, hignored⟩ := hothers { location := ⟨"f", 1⟩ } wholeText rfl hrespaced
  exact ⟨hrespaced, hsame.trans (htext.trans rfl), hignored⟩

end Passage

end Harvest.Template
