import Gazetteer.Lexicon
import Gazetteer.Proofs.Text.Occurrence
import Gazetteer.Proofs.Text.Order
import Gazetteer.Proofs.Text.Trim
import Gazetteer.Text.Digit

/-!
# What a lexicon finds

The scan of a lexicon stops at the first word that is shorter than the best so far. It may, because
the words are in scan order, longest first (`longestFirst_ofWords`); and so **the word found is the
longest that occurs in the text, and of the longest the first to occur** (`find?_eq_some_iff`). Two
words of one length do not begin at one place, so there is one such word.

The invariant of the scan is `Best`: the best so far is the best of the words that have been looked
for.
-/

namespace Gazetteer.Lexicon

open Text

/-! ## Scan order -/

/-- Of two words one is scanned before the other, or they are equal: words of one length are ordered
by their characters. -/
theorem scansBefore_total (a b : String) : (scansBefore a b || scansBefore b a) = true := by
  rw [Bool.or_eq_true, scansBefore, scansBefore]
  by_cases hsize : a.utf8ByteSize = b.utf8ByteSize
  · have hswap : compareText b a = (compareText a b).swap := Std.OrientedCmp.eq_swap
    rw [if_pos hsize, if_pos hsize.symm, hswap]
    cases compareText a b with
    | gt => exact Or.inr rfl
    | _ => exact Or.inl rfl
  · rw [if_neg hsize, if_neg (Ne.symm hsize), decide_eq_true_eq, decide_eq_true_eq]
    omega

theorem size_le_of_scansBefore {a b : String} (h : scansBefore a b = true) :
    b.utf8ByteSize ≤ a.utf8ByteSize := by
  rw [scansBefore] at h
  split at h
  next hsize => exact Nat.le_of_eq hsize.symm
  · exact Nat.le_of_lt (of_decide_eq_true h)

/-- Scan order is transitive, so that sorting by it puts every word before all that follow it and
not only before the next. -/
theorem scansBefore_trans (a b c : String) (hab : scansBefore a b = true)
    (hbc : scansBefore b c = true) :
    scansBefore a c = true := by
  have hba := size_le_of_scansBefore hab
  have hcb := size_le_of_scansBefore hbc
  rw [scansBefore]
  split
  next hsize =>
    -- All three are of one length, and the texts decide.
    rw [scansBefore, if_pos (by omega)] at hab hbc
    exact Std.TransCmp.isLE_trans hab hbc
  · exact decide_eq_true (by omega)

/-! ## The words of a lexicon -/

/-- Dropping repetitions in a row loses no word, and leaves the others in their order. -/
theorem mem_dropRepeats {word : String} (words : List String) :
    word ∈ dropRepeats words ↔ word ∈ words := by
  fun_induction dropRepeats words with
  | case1 first rest ih =>
    rw [ih]
    simp only [List.mem_cons, or_self_left]
  | case2 first second rest hne ih => rw [List.mem_cons, ih, ← List.mem_cons]
  | case3 words => exact Iff.rfl

theorem dropRepeats_sublist (words : List String) : (dropRepeats words).Sublist words := by
  fun_induction dropRepeats words with
  | case1 first rest ih => exact ih.cons first
  | case2 first second rest hne ih => exact ih.cons_cons first
  | case3 words => exact List.Sublist.refl words

/-- The words of a lexicon are the normal forms of the words that it was made from, but for the
empty one. -/
theorem mem_words_ofWords {word : String} {words : List String} :
    word ∈ (ofWords words).words ↔ word ≠ "" ∧ ∃ given ∈ words, normalWord given = word := by
  rw [ofWords, mem_dropRepeats, List.mem_mergeSort, List.mem_filter, List.mem_map,
    decide_eq_true_eq, and_comm]

/-- Words from the longest to the shortest, by the bytes of their UTF-8 forms. The scan relies on
this when it stops early. -/
def LongestFirst (words : List String) : Prop :=
  words.Pairwise fun a b => b.utf8ByteSize ≤ a.utf8ByteSize

/-- **The words of a lexicon are listed from the longest to the shortest**, as scan order compares
lengths first. -/
theorem longestFirst_ofWords (words : List String) : LongestFirst (ofWords words).words :=
  ((List.pairwise_mergeSort scansBefore_trans scansBefore_total _).sublist
    (dropRepeats_sublist _)).imp size_le_of_scansBefore

/-- **A word in normal form**: not empty, without blanks around it, and in lowercase. -/
structure IsNormal (word : String) : Prop where
  ne_nil : word.toList ≠ []
  trimmed : Trimmed word.toList
  settled : ∀ c ∈ word.toList, Settled c

/-- The words of a lexicon are in normal form, however they were written in the list that it was
made from. -/
theorem isNormal_of_mem_ofWords {word : String} {words : List String}
    (h : word ∈ (ofWords words).words) : IsNormal word := by
  obtain ⟨hne, given, -, rfl⟩ := mem_words_ofWords.mp h
  obtain ⟨htrimmed, hsettled⟩ := settled_lowercase_trim given
  exact ⟨fun hnil => hne (String.toList_inj.mp hnil), htrimmed, hsettled⟩

/-! ## The scan -/

/-- **The best of some words in a text**: the longest that occurs, and of the longest the first to.
The words may be only some of those of a lexicon, namely those that have been looked for. -/
structure Best (text : List Char) (words : List String) (word : String) (place : Nat) : Prop where
  mem : word ∈ words
  occurs : occurrence? word.toList text = some place
  beats : ∀ other ∈ words, ∀ elsewhere, occurrence? other.toList text = some elsewhere →
    other.utf8ByteSize < word.utf8ByteSize ∨
      other.utf8ByteSize = word.utf8ByteSize ∧ place ≤ elsewhere

namespace Best

variable {text : List Char} {words more : List String} {word : String} {place : Nat}

/-- The best of some words is the best of more, if none of the others beats it. -/
theorem append (h : Best text words word place)
    (hmore : ∀ other ∈ more, ∀ elsewhere, occurrence? other.toList text = some elsewhere →
      other.utf8ByteSize < word.utf8ByteSize ∨
        other.utf8ByteSize = word.utf8ByteSize ∧ place ≤ elsewhere) :
    Best text (words ++ more) word place where
  mem := List.mem_append_left _ h.mem
  occurs := h.occurs
  beats other hother := (List.mem_append.mp hother).elim (h.beats other) (hmore other)

/-- One word more, which does not beat the best: it is shorter, or as long and starts no earlier, or
it does not occur at all. -/
theorem concat (h : Best text words word place) {next : String}
    (hnext : ∀ elsewhere, occurrence? next.toList text = some elsewhere →
      next.utf8ByteSize < word.utf8ByteSize ∨
        next.utf8ByteSize = word.utf8ByteSize ∧ place ≤ elsewhere) :
    Best text (words ++ [next]) word place := by
  refine h.append fun other hother elsewhere helsewhere => ?_
  obtain rfl := List.mem_singleton.mp hother
  exact hnext elsewhere helsewhere

/-- A word of the same length that occurs earlier takes over. It beats the words that the best so
far beats, as it is as long and starts before them. -/
theorem take_over (h : Best text words word place) {next : String} {earlier : Nat}
    (hsize : next.utf8ByteSize = word.utf8ByteSize)
    (hnext : occurrence? next.toList text = some earlier)
    (hearlier : earlier < place) : Best text (words ++ [next]) next earlier where
  mem := List.mem_append_right _ List.mem_cons_self
  occurs := hnext
  beats other hother elsewhere helsewhere := by
    rcases List.mem_append.mp hother with hold | hlast
    · have hbeats := h.beats other hold elsewhere helsewhere
      omega
    · obtain rfl := List.mem_singleton.mp hlast
      rw [hnext] at helsewhere
      exact Or.inr ⟨rfl, Nat.le_of_eq (Option.some.inj helsewhere)⟩

/-- **There is one best word**, since two words of one length do not begin at one place. -/
theorem unique (h : Best text words word place) {other : String} {elsewhere : Nat}
    (hother : Best text words other elsewhere) : word = other := by
  have hbeats := h.beats other hother.mem elsewhere hother.occurs
  have hbeaten := hother.beats word h.mem place h.occurs
  -- Neither is longer and neither is earlier.
  have hplace : elsewhere = place := by omega
  exact eq_of_occurrence?_eq h.occurs (hplace ▸ hother.occurs) (by omega)

end Best

variable {text : List Char}

/-- **From a best word on**, the scan finds the best of all words. The induction is on the words
that are left. At a shorter one the scan stops, and all words after it are shorter too. -/
theorem scan_of_best {done left : List String} {best : String} {place : Nat}
    (hsorted : LongestFirst (done ++ left)) (hbest : Best text done best place) :
    ∃ found there, scan text (some (best, place)) left = some (found, there) ∧
      Best text (done ++ left) found there := by
  induction left generalizing done best place with
  | nil =>
    rw [List.append_nil]
    exact ⟨best, place, rfl, hbest⟩
  | cons word rest ih =>
    have hword : word.utf8ByteSize ≤ best.utf8ByteSize :=
      (List.pairwise_append.mp hsorted).2.2 best hbest.mem word List.mem_cons_self
    have hnext : done ++ word :: rest = (done ++ [word]) ++ rest := by
      rw [List.append_assoc, List.singleton_append]
    rw [scan]
    split
    next hshorter =>
      -- The words that are left are no longer than this one, so none of them needs a look.
      refine ⟨best, place, rfl, hbest.append fun other hother _ _ => Or.inl ?_⟩
      have hle : other.utf8ByteSize ≤ word.utf8ByteSize := by
        rcases List.mem_cons.mp hother with rfl | hrest
        · exact Nat.le_refl _
        · exact (List.pairwise_cons.mp (List.pairwise_append.mp hsorted).2.1).1 other hrest
      exact Nat.lt_of_le_of_lt hle hshorter
    next hlong =>
      have hsize : word.utf8ByteSize = best.utf8ByteSize := by omega
      rw [hnext] at hsorted ⊢
      split
      next earlier hoccurs =>
        split
        next hearlier => exact ih hsorted (hbest.take_over hsize hoccurs hearlier)
        next hlater =>
          refine ih hsorted (hbest.concat fun elsewhere helsewhere => ?_)
          rw [hoccurs] at helsewhere
          obtain rfl := Option.some.inj helsewhere
          exact Or.inr ⟨hsize, Nat.le_of_not_lt hlater⟩
      next hnowhere =>
        refine ih hsorted (hbest.concat fun elsewhere helsewhere => ?_)
        rw [hnowhere] at helsewhere
        cases helsewhere

/-- **From the beginning**, the scan finds the best of all words, or none where none occurs. The
first word that occurs is the best so far, because no word before it does. -/
theorem scan_none {words : List String} (hsorted : LongestFirst words) :
    (scan text none words = none ∧ ∀ word ∈ words, occurrence? word.toList text = none) ∨
      ∃ found there, scan text none words = some (found, there) ∧ Best text words found there := by
  induction words with
  | nil => exact Or.inl ⟨rfl, List.forall_mem_nil _⟩
  | cons word rest ih =>
    rw [scan]
    cases hoccurs : occurrence? word.toList text with
    | none =>
      rw [Option.map_none]
      rcases ih (List.pairwise_cons.mp hsorted).2 with ⟨hnone, hrest⟩ | ⟨found, there, hscan, hbest⟩
      · exact Or.inl ⟨hnone, List.forall_mem_cons.mpr ⟨hoccurs, hrest⟩⟩
      · refine Or.inr ⟨found, there, hscan, List.mem_cons_of_mem _ hbest.mem, hbest.occurs, ?_⟩
        intro other hother elsewhere helsewhere
        rcases List.mem_cons.mp hother with rfl | hrest
        · rw [hoccurs] at helsewhere
          cases helsewhere
        · exact hbest.beats other hrest elsewhere helsewhere
    | some place =>
      -- From the first word that occurs on there is a best one so far.
      have hfirst : Best text [word] word place := by
        refine ⟨List.mem_cons_self, hoccurs, fun other hother elsewhere helsewhere => ?_⟩
        obtain rfl := List.mem_singleton.mp hother
        rw [hoccurs] at helsewhere
        exact Or.inr ⟨rfl, Nat.le_of_eq (Option.some.inj helsewhere)⟩
      exact Or.inr (scan_of_best hsorted hfirst)

/-- **A lexicon finds the best of its words in a text.** By uniqueness this determines the word, so
that nothing needs to be known of the scan beyond this lemma. -/
theorem find?_eq_some_iff {lexicon : Lexicon} (hsorted : LongestFirst lexicon.words)
    {text word : String} :
    lexicon.find? text = some word ↔ ∃ place, Best text.toList lexicon.words word place := by
  rw [find?]
  constructor
  · intro h
    obtain ⟨⟨found, there⟩, hscan, rfl⟩ := Option.map_eq_some_iff.mp h
    rcases scan_none hsorted with ⟨hnone, -⟩ | ⟨found', there', hscan', hbest⟩
    · rw [hnone] at hscan
      cases hscan
    · rw [hscan] at hscan'
      obtain ⟨rfl, rfl⟩ := Prod.mk.inj (Option.some.inj hscan')
      exact ⟨there, hbest⟩
  · rintro ⟨place, hplace⟩
    rcases scan_none hsorted with ⟨-, hnowhere⟩ | ⟨found, there, hscan, hbest⟩
    · have hoccurs := hplace.occurs
      rw [hnowhere word hplace.mem] at hoccurs
      cases hoccurs
    · rw [hscan, Option.map_some, hbest.unique hplace]

/-- **A lexicon finds nothing exactly if none of its words is part of the text.** The scan does not
stop before a word is found. -/
theorem find?_eq_none_iff {lexicon : Lexicon} (hsorted : LongestFirst lexicon.words)
    {text : String} :
    lexicon.find? text = none ↔ ∀ word ∈ lexicon.words, ¬ word.toList <:+: text.toList := by
  simp only [← occurrence?_eq_none_iff]
  rw [find?, Option.map_eq_none_iff]
  rcases scan_none hsorted with ⟨hnone, hnowhere⟩ | ⟨found, there, hscan, hbest⟩
  · exact iff_of_true hnone hnowhere
  · refine iff_of_false (by rw [hscan]; exact Option.some_ne_none _) fun hnowhere => ?_
    have hoccurs := hbest.occurs
    rw [hnowhere found hbest.mem] at hoccurs
    cases hoccurs

/-! ## The street types in common use -/

/-- The characters that street types in common use are spelled with: the hyphen and the small ASCII
letters. They are told by their codes, which the kernel compares far faster than characters. -/
def spells (c : Char) : Bool :=
  Nat.beq c.toNat 45 || Nat.ble 97 c.toNat && Nat.ble c.toNat 122

/-- The whole table is spelled that way, which is checked once and by codes. -/
theorem spelled_streetTypes : (streetTypes.all fun word => word.toList.all spells) = true := by
  decide

/-- What the normal form of a word and the reading of a typed address ask of a character, checked
once for each code up to the last small letter. -/
theorem plain_spelling :
    ((List.range 123).all fun code =>
      let c := Char.ofNat code
      !spells c ||
        decide (lowerChar c = [c] ∧ c ≠ capitalSigma) && !isBlank c && !isDecimalDigit c &&
          c != '/') = true := by
  decide

/-- A character of a street type in common use stays as it is in lowercase, and it is neither a
blank nor one of the characters that set off the numbers of an address. -/
theorem plain_of_mem_streetTypes {word : String} (h : word ∈ streetTypes) {c : Char}
    (hc : c ∈ word.toList) :
    Settled c ∧ isBlank c = false ∧ isDecimalDigit c = false ∧ c ≠ '/' := by
  have hspelled := List.all_eq_true.mp (List.all_eq_true.mp spelled_streetTypes word h) c hc
  have hcode : c.toNat < 123 := by
    simp only [spells, Bool.or_eq_true, Bool.and_eq_true, Nat.beq_eq, Nat.ble_eq] at hspelled
    omega
  have hplain := List.all_eq_true.mp plain_spelling c.toNat (List.mem_range.mpr hcode)
  simp only [Char.ofNat_toNat, hspelled, Bool.not_true, Bool.false_or, Bool.and_eq_true,
    decide_eq_true_eq, Bool.not_eq_true', bne_iff_ne] at hplain
  obtain ⟨⟨⟨hsettled, hblank⟩, hdigit⟩, hslash⟩ := hplain
  exact ⟨hsettled, hblank, hdigit, hslash⟩

/-- The street types in common use are in normal form as they are listed, so that the words of their
lexicon are the listed ones. -/
theorem mem_streetTypes_of_standard {word : String} (h : word ∈ standard.words) :
    word ∈ streetTypes := by
  obtain ⟨-, given, hmem, rfl⟩ := mem_words_ofWords.mp h
  rw [List.append_nil] at hmem
  have htrim : trim given = given :=
    trim_eq_self (trimmed_of_forall fun c hc => (plain_of_mem_streetTypes hmem hc).2.1)
  have hlower : lowercase given = given :=
    lowercase_eq_self fun c hc => (plain_of_mem_streetTypes hmem hc).1
  rw [normalWord, htrim, hlower]
  exact hmem

/-- **The street types in common use have no blanks, digits and slashes.** This is the condition on
words under which a query is divided as it is written. -/
theorem plain_standard :
    ∀ word ∈ standard.words, ∀ c ∈ word.toList,
      isBlank c = false ∧ isDecimalDigit c = false ∧ c ≠ '/' :=
  fun _ hword _ hc => (plain_of_mem_streetTypes (mem_streetTypes_of_standard hword) hc).2

end Gazetteer.Lexicon
