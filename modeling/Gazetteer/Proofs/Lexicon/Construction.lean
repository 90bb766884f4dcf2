import Gazetteer.Proofs.Lexicon.Wording
import Mathlib.Data.List.Nodup

/-!
# What a lexicon is made of

A lexicon is made by sorting, and of equal words it drops only those that stand side by side. That
is enough, because scan order ties equal words only (`eq_of_scansBefore`): the words of a lexicon
are in strict order (`pairwise_words_ofWords`). A list in strict order is determined by its members
(`eq_of_pairwise_precedes`), so that **two lists make one lexicon exactly if they have the same
normal words** (`ofWords_eq_iff`). All that a lexicon promises about its words follows
(`ofWords_canonical`).
-/

namespace Gazetteer.Lexicon

open Std Text

/-! ## Strict scan order -/

/-- **One word is looked for before another**: it is longer, by the bytes of its UTF-8 form, or it
is as long and comes earlier in the order of texts. -/
def Precedes (a b : String) : Prop :=
  b.utf8ByteSize < a.utf8ByteSize ∨ a.utf8ByteSize = b.utf8ByteSize ∧ compareText a b = .lt

instance (a b : String) : Decidable (Precedes a b) :=
  inferInstanceAs (Decidable (_ ∨ _))

/-- **Only equal words tie in scan order**: words of one length are ordered by their characters, and
that order is one of texts as they are. -/
theorem eq_of_scansBefore {a b : String} (hab : scansBefore a b = true)
    (hba : scansBefore b a = true) : a = b := by
  have hsize : a.utf8ByteSize = b.utf8ByteSize :=
    Nat.le_antisymm (size_le_of_scansBefore hba) (size_le_of_scansBefore hab)
  rw [scansBefore, if_pos hsize] at hab
  rw [scansBefore, if_pos hsize.symm] at hba
  exact eq_of_compareText (OrientedCmp.isLE_antisymm hab hba)

/-- A word is looked for before those that it stands before in scan order, itself apart. -/
theorem precedes_iff {a b : String} : Precedes a b ↔ scansBefore a b = true ∧ a ≠ b := by
  constructor
  · rintro (hsize | ⟨hsize, htext⟩)
    · rw [scansBefore, if_neg (Nat.ne_of_gt hsize)]
      refine ⟨decide_eq_true hsize, ?_⟩
      rintro rfl
      exact Nat.lt_irrefl _ hsize
    · rw [scansBefore, if_pos hsize, htext]
      refine ⟨rfl, ?_⟩
      rintro rfl
      have hself : compareText a a = .eq := ReflCmp.compare_self
      rw [hself] at htext
      cases htext
  · rintro ⟨hscans, hne⟩
    rw [scansBefore] at hscans
    split at hscans
    next hsize =>
      refine Or.inr ⟨hsize, ?_⟩
      cases htext : compareText a b with
      | lt => rfl
      | eq => exact absurd (eq_of_compareText htext) hne
      | gt =>
        rw [htext] at hscans
        cases hscans
    · exact Or.inl (of_decide_eq_true hscans)

/-- **Dropping repetitions makes scan order strict.** A word that is not the next one is none of
those behind it, for it would stand on both sides of the next one. -/
theorem pairwise_dropRepeats {words : List String}
    (h : words.Pairwise fun a b => scansBefore a b = true) :
    (dropRepeats words).Pairwise Precedes := by
  fun_induction dropRepeats words with
  | case1 first rest ih => exact ih (List.pairwise_cons.mp h).2
  | case2 first second rest hne ih =>
    obtain ⟨hfirst, hrest⟩ := List.pairwise_cons.mp h
    refine List.pairwise_cons.mpr ⟨fun later hlater => ?_, ih hrest⟩
    have hmem := (mem_dropRepeats (second :: rest)).mp hlater
    refine precedes_iff.mpr ⟨hfirst later hmem, ?_⟩
    rintro rfl
    rcases List.mem_cons.mp hmem with hsecond | hbehind
    · exact hne hsecond
    · exact hne
        (eq_of_scansBefore (hfirst second List.mem_cons_self)
          ((List.pairwise_cons.mp hrest).1 first hbehind))
  | case3 words hshort =>
    cases words with
    | nil => exact List.Pairwise.nil
    | cons word rest =>
      cases rest with
      | nil => exact List.pairwise_singleton _ word
      | cons next rest => exact absurd rfl (hshort word next rest)

theorem pairwise_words_ofWords (words : List String) : (ofWords words).words.Pairwise Precedes :=
  pairwise_dropRepeats (List.pairwise_mergeSort scansBefore_trans scansBefore_total _)

/-- No word is looked for before itself, so a list in strict order repeats none. -/
theorem nodup_of_pairwise_precedes {words : List String} (h : words.Pairwise Precedes) :
    words.Nodup :=
  h.imp fun hab => (precedes_iff.mp hab).2

/-- **A list in strict scan order is determined by its members.** What goes into a lexicon can then
be said of its words as a set. -/
theorem eq_of_pairwise_precedes {first second : List String} (hfirst : first.Pairwise Precedes)
    (hsecond : second.Pairwise Precedes) (hmem : ∀ word, word ∈ first ↔ word ∈ second) :
    first = second := by
  have hperm : first.Perm second :=
    (List.perm_ext_iff_of_nodup (nodup_of_pairwise_precedes hfirst)
      (nodup_of_pairwise_precedes hsecond)).mpr hmem
  refine hperm.eq_of_pairwise (fun a b _ _ hab hba => ?_) hfirst hsecond
  exact eq_of_scansBefore (precedes_iff.mp hab).1 (precedes_iff.mp hba).1

/-! ## Lists that make one lexicon -/

/-- **Two lists make one lexicon exactly if they have the same normal words.** So a lexicon shows
nothing else of the list that it was made from. -/
theorem ofWords_eq_iff {words others : List String} :
    ofWords words = ofWords others ↔ SameWords words others := by
  have hwords : ofWords words = ofWords others ↔ (ofWords words).words = (ofWords others).words :=
    ⟨congrArg Lexicon.words, congrArg Lexicon.mk⟩
  rw [hwords]
  constructor
  · intro h word hne
    have hmem : word ∈ (ofWords words).words ↔ word ∈ (ofWords others).words := by rw [h]
    simpa only [mem_words_ofWords, ne_eq, hne, not_false_eq_true, true_and] using hmem
  · intro h
    refine eq_of_pairwise_precedes (pairwise_words_ofWords words) (pairwise_words_ofWords others)
      fun word => ?_
    rw [mem_words_ofWords, mem_words_ofWords]
    exact and_congr_right fun hne => h word hne

/-- Lists of the same words as they are written have the same normal words. The converse fails, as
one word may be written in many ways. -/
theorem sameWords_of_mem_iff {words others : List String}
    (h : ∀ given, given ∈ words ↔ given ∈ others) :
    SameWords words others := by
  intro word _
  simp only [h]

theorem IsNormal.normalWord_eq {word : String} (h : IsNormal word) : normalWord word = word := by
  rw [normalWord, trim_eq_self h.trimmed, lowercase_eq_self h.settled]

/-- The words of a lexicon and the list that it was made from have the same normal words, so that a
lexicon can be made again from its own words. -/
theorem sameWords_words_ofWords (words : List String) : SameWords (ofWords words).words words := by
  intro word hne
  constructor
  · rintro ⟨given, hgiven, rfl⟩
    rw [(isNormal_of_mem_ofWords hgiven).normalWord_eq]
    exact (mem_words_ofWords.mp hgiven).2
  · intro hgiven
    have hmem : word ∈ (ofWords words).words := mem_words_ofWords.mpr ⟨hne, hgiven⟩
    exact ⟨word, hmem, (isNormal_of_mem_ofWords hmem).normalWord_eq⟩

theorem contains_eq_true_iff {lexicon : Lexicon} {word : String} :
    lexicon.contains word = true ↔ word ∈ lexicon.words :=
  List.contains_iff_mem

/-- **A lexicon is the canonical form of a list of words.** Its words are in strict scan order, and
so no two are equal; none is empty, has blanks around it or is changed by lowercasing. It contains
exactly the lowercase forms, without blanks around them and not empty, of the words of the list.
Lists of the same words make the same lexicon, in whatever order and however often they have them,
and so do the words of the lexicon itself.

Two of these follow from strict order: nothing is repeated, and a list is determined by what is in
it, so that lists of the same words need to be compared by their members only. -/
theorem ofWords_canonical (words : List String) :
    (ofWords words).words.Pairwise Precedes ∧
    (ofWords words).words.Nodup ∧
    (∀ word ∈ (ofWords words).words, word ≠ "" ∧ trim word = word ∧ lowercase word = word) ∧
    (∀ word, (ofWords words).contains word = true ↔
      word ≠ "" ∧ ∃ given ∈ words, lowercase (trim given) = word) ∧
    (∀ others : List String,
      (∀ given, given ∈ others ↔ given ∈ words) → ofWords others = ofWords words) ∧
    ofWords (ofWords words).words = ofWords words := by
  have hsorted := pairwise_words_ofWords words
  refine ⟨hsorted, nodup_of_pairwise_precedes hsorted, ?normal, ?members, ?reordered, ?again⟩
  case normal =>
    intro word hword
    have hnormal := isNormal_of_mem_ofWords hword
    exact ⟨(mem_words_ofWords.mp hword).1, trim_eq_self hnormal.trimmed,
      lowercase_eq_self hnormal.settled⟩
  case members =>
    intro word
    rw [contains_eq_true_iff]
    exact mem_words_ofWords
  case reordered =>
    intro others h
    exact ofWords_eq_iff.mpr (sameWords_of_mem_iff h)
  case again => exact ofWords_eq_iff.mpr (sameWords_words_ofWords words)

/-- Words in capitals, with blanks around them, said twice or blank: the lexicon has each once, the
longer ones first, and does not show how they were listed. -/
theorem ofWords_canonical_listedTwice :
    (ofWords ["way", " Road ", "lane", "", "ROAD"]).words = ["lane", "road", "way"] ∧
      (∀ given : String, given ∈ ["", "lane", "ROAD", " Road ", "way", "lane"] ↔
        given ∈ ["way", " Road ", "lane", "", "ROAD"]) ∧
      ofWords ["", "lane", "ROAD", " Road ", "way", "lane"] =
        ofWords ["way", " Road ", "lane", "", "ROAD"] := by
  obtain ⟨hsorted, -, -, -, hreordered, -⟩ :=
    ofWords_canonical ["way", " Road ", "lane", "", "ROAD"]
  have hnormal : ["way", " Road ", "lane", "", "ROAD"].map normalWord =
      ["way", "road", "lane", "", "road"] := by
    decide
  have hsame : ∀ given : String, given ∈ ["", "lane", "ROAD", " Road ", "way", "lane"] ↔
      given ∈ ["way", " Road ", "lane", "", "ROAD"] := by
    intro given
    simp only [List.mem_cons, List.not_mem_nil, or_false]
    tauto
  refine ⟨eq_of_pairwise_precedes hsorted (by decide) fun word => ?_, hsame, hreordered _ hsame⟩
  rw [mem_words_ofWords, ← List.mem_map, hnormal]
  simp only [List.mem_cons, List.not_mem_nil, or_false]
  by_cases hne : word = ""
  · simp [hne]
  · tauto

end Gazetteer.Lexicon
