import Gazetteer.Proofs.Lexicon.Find
import Gazetteer.Proofs.Text.AsciiCase

/-!
# What is found depends on the words alone

A lexicon is made from a list of words as somebody wrote them, and it looks for them in an order and
up to a point that depend on the words. None of that shows: **the word found is the one that wins
among all words of the list that occur in the text** (`find?_decides_winner`), by length and then by
place. So two lists with the same normal words find the same, and lists do have the same normal
words if one is the other reordered, with words repeated, in other ASCII case or with blanks around
them (`Reworded.sameWords`).
-/

namespace Gazetteer.Lexicon

open Text

/-! ## The exhaustive rule -/

/-- **A word of a list occurs in a text**: it is the normal form of some word as it was given, it is
not empty, and it is part of the text. -/
structure Occurs (words : List String) (text word : String) : Prop where
  given : ∃ given ∈ words, normalWord given = word
  ne_empty : word ≠ ""
  part : word.toList <:+: text.toList

/-- A word first stands in a text before another word first does. Both do stand in it. -/
def StartsBefore (text word other : String) : Prop :=
  ∃ before after before' after', FirstAt word.toList text.toList before after ∧
    FirstAt other.toList text.toList before' after' ∧ before.length < before'.length

/-- **The winner among the words of a list that occur in a text**: every other one is shorter, by
the bytes of its UTF-8 form, or it is as long and first stands later. -/
structure Wins (words : List String) (text word : String) : Prop where
  occurs : Occurs words text word
  beats : ∀ other, Occurs words text other → other ≠ word →
    other.utf8ByteSize < word.utf8ByteSize ∨
      other.utf8ByteSize = word.utf8ByteSize ∧ StartsBefore text word other

variable {words others : List String} {text word other : String}

/-- A word of the list occurs in a text exactly if the lexicon of the list has it and finds it at
some place. -/
theorem occurs_iff :
    Occurs words text word ↔
      word ∈ (ofWords words).words ∧ ∃ place, occurrence? word.toList text.toList = some place := by
  rw [mem_words_ofWords, exists_occurrence?_iff]
  constructor
  · intro h
    exact ⟨⟨h.ne_empty, h.given⟩, h.part⟩
  · rintro ⟨⟨hne, hgiven⟩, hpart⟩
    exact ⟨hgiven, hne, hpart⟩

/-- Which of two words starts first is told by the places where they first occur. -/
theorem startsBefore_iff {place elsewhere : Nat}
    (hword : occurrence? word.toList text.toList = some place)
    (hother : occurrence? other.toList text.toList = some elsewhere) :
    StartsBefore text word other ↔ place < elsewhere := by
  obtain ⟨before, after, rfl, hfirst⟩ := exists_firstAt hword
  obtain ⟨before', after', rfl, hfirst'⟩ := exists_firstAt hother
  constructor
  · rintro ⟨_, _, _, _, hw, ho, hlt⟩
    rwa [(hfirst.unique hw).1, (hfirst'.unique ho).1]
  · intro hlt
    exact ⟨before, after, before', after', hfirst, hfirst', hlt⟩

/-- **The best word of the lexicon is the winner of the list.** The scan lets a word of the same
length stay that does not start earlier; that it then starts later is what the rule says. -/
theorem wins_iff_exists_best :
    Wins words text word ↔ ∃ place, Best text.toList (ofWords words).words word place := by
  constructor
  · intro h
    obtain ⟨hmem, place, hplace⟩ := occurs_iff.mp h.occurs
    refine ⟨place, hmem, hplace, fun other hother elsewhere helsewhere => ?_⟩
    by_cases hsame : other = word
    · subst hsame
      rw [hplace] at helsewhere
      exact Or.inr ⟨rfl, Nat.le_of_eq (Option.some.inj helsewhere)⟩
    · refine (h.beats other (occurs_iff.mpr ⟨hother, elsewhere, helsewhere⟩) hsame).imp_right ?_
      rintro ⟨hsize, hstarts⟩
      exact ⟨hsize, Nat.le_of_lt ((startsBefore_iff hplace helsewhere).mp hstarts)⟩
  · rintro ⟨place, hbest⟩
    refine ⟨occurs_iff.mpr ⟨hbest.mem, place, hbest.occurs⟩, fun other hother hne => ?_⟩
    obtain ⟨hmem, elsewhere, helsewhere⟩ := occurs_iff.mp hother
    refine (hbest.beats other hmem elsewhere helsewhere).imp_right ?_
    rintro ⟨hsize, hle⟩
    refine ⟨hsize, (startsBefore_iff hbest.occurs helsewhere).mpr (Nat.lt_of_le_of_ne hle ?_)⟩
    rintro rfl
    exact hne (eq_of_occurrence?_eq helsewhere hbest.occurs hsize)

/-! ## Lists that say the same words -/

/-- **Two lists have the same normal words**, empty ones apart. -/
def SameWords (words others : List String) : Prop :=
  ∀ word, word ≠ "" →
    ((∃ given ∈ words, normalWord given = word) ↔ ∃ given ∈ others, normalWord given = word)

theorem SameWords.occurs_iff (h : SameWords words others) :
    Occurs words text word ↔ Occurs others text word :=
  ⟨fun ho => ⟨(h word ho.ne_empty).mp ho.given, ho.ne_empty, ho.part⟩,
    fun ho => ⟨(h word ho.ne_empty).mpr ho.given, ho.ne_empty, ho.part⟩⟩

/-- Words win for lists of the same normal words alike, as the same words occur for both. -/
theorem SameWords.wins_iff (h : SameWords words others) :
    Wins words text word ↔ Wins others text word :=
  ⟨fun hw => ⟨h.occurs_iff.mp hw.occurs, fun other ho => hw.beats other (h.occurs_iff.mpr ho)⟩,
    fun hw => ⟨h.occurs_iff.mpr hw.occurs, fun other ho => hw.beats other (h.occurs_iff.mp ho)⟩⟩

/-- **A list of words put in other words**: reordered, with a word said again, with a word in other
ASCII case, or with blanks around a word; and any number of these, forth and back. -/
inductive Reworded : List String → List String → Prop where
  | reordered {words others : List String} (h : words.Perm others) : Reworded words others
  | repeated {word : String} {words : List String} (h : word ∈ words) :
    Reworded words (word :: words)
  | recased {word other : String} (words : List String) (h : word.toLower = other.toLower) :
      Reworded (word :: words) (other :: words)
  | padded {front back : String} (word : String) (words : List String)
      (hfront : Blanks front.toList) (hback : Blanks back.toList) :
      Reworded (word :: words) ((front ++ word ++ back) :: words)
  | symm {words others : List String} (h : Reworded words others) : Reworded others words
  | trans {first second third : List String} (h : Reworded first second)
      (h' : Reworded second third) : Reworded first third

/-- Lowercasing the ASCII letters of a word first does not change its normal form, whichever way the
word was written. -/
theorem normalWord_toLower (word : String) : normalWord word.toLower = normalWord word := by
  rw [normalWord, trim_toLower, lowercase_toLower, normalWord]

/-- Blanks around a word are not in its normal form. -/
theorem normalWord_padded {front back : String} (word : String) (hfront : Blanks front.toList)
    (hback : Blanks back.toList) : normalWord (front ++ word ++ back) = normalWord word := by
  have htrim : trim (front ++ word ++ back) = trim word := by
    rw [trim, String.toList_append, String.toList_append, trimChars_padded hfront hback, trim]
  rw [normalWord, htrim, normalWord]

/-- Another first word of the same normal form changes nothing. -/
theorem sameWords_cons (words : List String) (h : normalWord word = normalWord other) :
    SameWords (word :: words) (other :: words) := by
  intro normal _
  simp only [List.mem_cons, exists_eq_or_imp, h]

/-- **Rewording keeps the normal words.** The induction is on the way in which a list was reworded,
with a case for each change that may be made to it. -/
theorem Reworded.sameWords (h : Reworded words others) : SameWords words others := by
  induction h with
  | reordered hperm =>
    intro normal _
    simp only [hperm.mem_iff]
  | @repeated word words hword =>
    intro normal _
    simp only [List.mem_cons, exists_eq_or_imp]
    exact ⟨Or.inr, fun hgiven => hgiven.elim (fun hnormal => ⟨word, hword, hnormal⟩) id⟩
  | @recased word other words hcase =>
    exact sameWords_cons words (by rw [← normalWord_toLower word, hcase, normalWord_toLower])
  | padded word words hfront hback =>
    exact sameWords_cons words (normalWord_padded word hfront hback).symm
  | symm _ ih => exact fun normal hne => (ih normal hne).symm
  | trans _ _ ih ih' => exact fun normal hne => (ih normal hne).trans (ih' normal hne)

/-! ## The word found -/

/-- **The word found is the winner**, among all words that the lexicon was made from. -/
theorem find?_ofWords_eq_some_iff :
    (ofWords words).find? text = some word ↔ Wins words text word := by
  rw [find?_eq_some_iff (longestFirst_ofWords words), wins_iff_exists_best]

/-- **Lists of the same normal words find the same** in every text. -/
theorem SameWords.find?_eq (h : SameWords words others) (text : String) :
    (ofWords words).find? text = (ofWords others).find? text := by
  apply Option.ext
  intro word
  rw [find?_ofWords_eq_some_iff, find?_ofWords_eq_some_iff, h.wins_iff]

/-- **A lexicon finds the winner among the words that it was made from.** It finds nothing exactly
if none of them occurs in the text, and a word exactly if that wins. What it finds depends on the
normal words of the list only, and so not on how the list is worded.

Nothing here mentions the scan, its order, or where it stops: the rule compares every word of the
list that occurs with every other (`Wins`). There is at most one winner, since a word found is
determined by the text and the list. -/
theorem find?_decides_winner (words : List String) (text : String) :
    ((ofWords words).find? text = none ↔
      ∀ given ∈ words, normalWord given ≠ "" → ¬ (normalWord given).toList <:+: text.toList) ∧
    (∀ word, (ofWords words).find? text = some word ↔ Wins words text word) ∧
    (∀ others, SameWords words others → (ofWords others).find? text = (ofWords words).find? text) ∧
    ∀ others, Reworded words others → (ofWords others).find? text = (ofWords words).find? text := by
  refine ⟨?_, fun word => find?_ofWords_eq_some_iff, fun others h => (h.find?_eq text).symm,
    fun others h => (h.sameWords.find?_eq text).symm⟩
  rw [find?_eq_none_iff (longestFirst_ofWords words)]
  constructor
  · intro h given hgiven hne
    exact h _ (mem_words_ofWords.mpr ⟨hne, given, hgiven, rfl⟩)
  · intro h word hword
    obtain ⟨hne, given, hgiven, rfl⟩ := mem_words_ofWords.mp hword
    exact h given hgiven hne

/-- Two words of one length and a shorter one inside the first: the earlier of the two is found,
also when the list is turned around, one word is written in capitals with blanks around it, and
another is said twice. Of a text that has only the shorter one begun, nothing is found. -/
theorem find?_decides_winner_road :
    (ofWords ["Lane", "road", "ad"]).find? "22 broadlane" = some "road" ∧
      Wins ["Lane", "road", "ad"] "22 broadlane" "road" ∧
      Reworded ["Lane", "road", "ad"] ["ad", "\t" ++ "ROAD" ++ "  ", "Lane", "ad"] ∧
      (ofWords ["ad", "\t" ++ "ROAD" ++ "  ", "Lane", "ad"]).find? "22 broadlane" = some "road" ∧
      (ofWords ["Lane", "road", "ad"]).find? "22 broa" = none := by
  have hnormal : ∀ given ∈ ["Lane", "road", "ad"],
      normalWord given = "lane" ∨ normalWord given = "road" ∨ normalWord given = "ad" := by
    decide
  have hwins : Wins ["Lane", "road", "ad"] "22 broadlane" "road" := by
    refine ⟨⟨⟨"road", by simp, by decide⟩, by decide, "22 b".toList, "lane".toList, by decide⟩, ?_⟩
    intro other hother hne
    obtain ⟨given, hgiven, rfl⟩ := hother.given
    rcases hnormal given hgiven with hlane | hroad | had
    · rw [hlane]
      refine Or.inr ⟨by decide, ?_⟩
      have hroad : occurrence? "road".toList "22 broadlane".toList = some 4 := by decide
      have hlane' : occurrence? "lane".toList "22 broadlane".toList = some 8 := by decide
      exact (startsBefore_iff hroad hlane').mpr (by decide)
    · exact absurd hroad hne
    · rw [had]
      exact Or.inl (by decide)
  have hreworded :
      Reworded ["Lane", "road", "ad"] ["ad", "\t" ++ "ROAD" ++ "  ", "Lane", "ad"] := by
    have hfirst : Reworded ["Lane", "road", "ad"] ["road", "Lane", "ad"] :=
      .reordered (List.Perm.swap ..)
    have hcase : Reworded ["road", "Lane", "ad"] ["ROAD", "Lane", "ad"] := by
      refine .recased _ (String.toList_inj.mp ?_)
      rw [toList_toLower, toList_toLower]
      decide
    have hblanks : Reworded ["ROAD", "Lane", "ad"] ["\t" ++ "ROAD" ++ "  ", "Lane", "ad"] :=
      .padded "ROAD" _ (by decide) (by decide)
    have hagain : Reworded ["\t" ++ "ROAD" ++ "  ", "Lane", "ad"]
        ["ad", "\t" ++ "ROAD" ++ "  ", "Lane", "ad"] := .repeated (by simp)
    exact ((hfirst.trans hcase).trans hblanks).trans hagain
  obtain ⟨-, hwinner, -, hsame⟩ := find?_decides_winner ["Lane", "road", "ad"] "22 broadlane"
  have hfound := (hwinner "road").mpr hwins
  refine ⟨hfound, hwins, hreworded, (hsame _ hreworded).trans hfound, ?_⟩
  refine (find?_decides_winner ["Lane", "road", "ad"] "22 broa").1.mpr ?_
  intro given hgiven _
  rw [← occurrence?_eq_none_iff]
  rcases hnormal given hgiven with h | h | h
  all_goals
    rw [h]
    decide

end Gazetteer.Lexicon
