import Gazetteer.Proofs.Query.Slots

/-!
# What becomes of the characters of a query

The slots should share out the query: without blanks, and without the slash after the leading
digits, it should be the texts of the slots one after another. **They do so exactly if the word that
the lexicon found is part of the rest** (`conserves_iff_infix_rest`). A word of a lexicon may have
digits, and then it may reach from the head into the rest; it is a type or a name all the same, and
its digits are in two slots (`not_conserves_ordinal`).

The proof is by the ways in which the rest fills its slots: in each, the solid characters of the
rest are those of name, type and suburb, but for the two ways of a stray word, where its characters
are in excess.
-/

namespace Gazetteer

open Text

/-- The characters of a text but for its blanks. -/
def solid (cs : List Char) : List Char :=
  cs.filter fun c => !isBlank c

theorem solid_append (as bs : List Char) : solid (as ++ bs) = solid as ++ solid bs :=
  List.filter_append as bs

/-- A text without solid characters is blank. -/
theorem solid_eq_nil_iff {cs : List Char} : solid cs = [] ↔ Blanks cs := by
  rw [solid, List.filter_eq_nil_iff]
  simp only [Bool.not_eq_true', Bool.not_eq_false, Blanks]

theorem solid_trimChars (cs : List Char) : solid (trimChars cs) = solid cs := by
  obtain ⟨front, back, hcs, hfront, -, hback⟩ := trimChars_spec cs
  conv => rhs; rw [hcs]
  rw [solid_append, solid_append, solid_eq_nil_iff.mpr hfront, solid_eq_nil_iff.mpr hback,
    List.nil_append, List.append_nil]

namespace Slots

/-- **The slots share out a divided query**: without blanks, and without the slash after its leading
digits, it is the texts of the slots one after another. -/
def Conserves (s : Slots) (d : Division) : Prop :=
  solid (d.lead ++ (d.trail ++ (d.gap ++ d.rest))) = solid (s.texts.flatMap String.toList)

/-- **The solid characters of a rest are those of its slots, unless the word is a stray one.** A
stray word has solid characters of its own, and they are in a slot beside all of the rest. -/
theorem Tail.solid_eq_iff {rest name streetType suburb : List Char} {found : Option String}
    (h : Tail rest found name streetType suburb)
    (hsolid : ∀ word, found = some word → solid word.toList ≠ []) :
    solid rest = solid (name ++ (streetType ++ suburb)) ↔
      ∀ word, found = some word → word.toList <:+: rest := by
  cases h with
  | whole =>
    refine iff_of_true ?_ nofun
    rw [List.append_nil, List.append_nil, solid_trimChars]
  | @leading word before after hword hblank =>
    refine iff_of_true ?_ fun _ hfound => Option.some.inj hfound ▸ hword.word_infix_text
    rw [hword.text_eq, List.nil_append]
    simp only [solid_append, solid_trimChars, solid_eq_nil_iff.mpr hblank, List.nil_append]
  | @typed word before after hword _ =>
    refine iff_of_true ?_ fun _ hfound => Option.some.inj hfound ▸ hword.word_infix_text
    rw [hword.text_eq]
    simp only [solid_append, solid_trimChars, List.append_assoc]
  | @strayName word hword hblank =>
    -- A word that is no part of the rest fills a slot beside all of it, which makes too many
    -- characters.
    refine iff_of_false (fun heq => hsolid word rfl ?_) fun hwithin => hword (hwithin word rfl)
    rw [solid_eq_nil_iff.mpr hblank, List.append_nil, List.append_nil] at heq
    exact heq.symm
  | @strayType word hword _ =>
    refine iff_of_false (fun heq => hsolid word rfl ?_) fun hwithin => hword (hwithin word rfl)
    rw [List.append_nil, solid_append, solid_trimChars] at heq
    exact List.self_eq_append_right.mp heq

/-- The solid characters of a head are its digits. The slash and the gap are in no slot. -/
theorem solid_numbers (lexicon : Lexicon) {raw : String} {d : Division}
    (hd : d.Divides (reading raw).toList) :
    solid (d.lead ++ (d.trail ++ d.gap)) =
      solid ((ofText lexicon raw).flat.toList ++ (ofText lexicon raw).number.toList) := by
  have hnumbers := numbers_ofText lexicon hd
  simp only [solid_append, solid_eq_nil_iff.mpr hd.blanks_gap, List.append_nil]
  split at hnumbers
  next hseparator =>
    rw [hnumbers.1, hnumbers.2, hd.trail_eq_nil hseparator]
    exact List.append_nil _
  next => rw [hnumbers.1, hnumbers.2]

/-- The numbers take all that is solid before the rest, so it is for the other slots to take the
rest. -/
theorem conserves_iff_solid_rest (lexicon : Lexicon) {raw : String} {d : Division}
    (hd : d.Divides (reading raw).toList) :
    (ofText lexicon raw).Conserves d ↔
      solid d.rest = solid ((ofText lexicon raw).name.toList ++
        ((ofText lexicon raw).streetType.toList ++ (ofText lexicon raw).suburb.toList)) := by
  have hnumbers := solid_numbers lexicon hd
  generalize ofText lexicon raw = s at hnumbers ⊢
  have hquery : solid (d.lead ++ (d.trail ++ (d.gap ++ d.rest))) =
      solid (s.flat.toList ++ s.number.toList) ++ solid d.rest := by
    rw [← hnumbers, ← solid_append]
    simp only [List.append_assoc]
  have hslots : solid (s.texts.flatMap String.toList) =
      solid (s.flat.toList ++ s.number.toList) ++
        solid (s.name.toList ++ (s.streetType.toList ++ s.suburb.toList)) := by
    rw [← solid_append]
    simp only [texts, List.flatMap_cons, List.flatMap_nil, List.append_nil, List.append_assoc]
  rw [Conserves, hquery, hslots, List.append_cancel_left_eq]

/-- **The slots share out a query exactly if the word found in it is part of the rest.** Then a
street type stands in the rest, with the street name before it and the suburb after it.

The word is looked for in the whole query and cut out of the rest. Where it is found across the
numbers it is not in the rest, and it fills its slot all the same: the name keeps all of the rest,
and characters of the query stand in two slots. -/
theorem conserves_iff_infix_rest (words : List String) (raw : String) :
    ((ofText (Lexicon.ofWords words) raw).Conserves (.of (reading raw).toList) ↔
        ∀ word, (Lexicon.ofWords words).find? (reading raw) = some word →
          word.toList <:+: (Division.of (reading raw).toList).rest) ∧
      ((ofText (Lexicon.ofWords words) raw).Conserves (.of (reading raw).toList) →
        (ofText (Lexicon.ofWords words) raw).streetType ≠ "" →
        ∃ before after,
          (Division.of (reading raw).toList).rest =
            before ++ (ofText (Lexicon.ofWords words) raw).streetType.toList ++ after ∧
          (ofText (Lexicon.ofWords words) raw).name.toList = trimChars before ∧
          (ofText (Lexicon.ofWords words) raw).suburb.toList = trimChars after) := by
  have hd := Division.divides_of (reading raw).toList
  generalize Division.of (reading raw).toList = d at hd ⊢
  have htail := tail_ofText words hd
  have hsolid : ∀ word, (Lexicon.ofWords words).find? (reading raw) = some word →
      solid word.toList ≠ [] := by
    intro word hfound hnil
    obtain ⟨-, hnormal, -⟩ := find?_spec hfound
    exact hnormal.ne_nil (hnormal.trimmed.eq_nil_of_blanks (solid_eq_nil_iff.mp hnil))
  have hiff := (conserves_iff_solid_rest _ hd).trans (htail.solid_eq_iff hsolid)
  refine ⟨hiff, fun hconserves hne => ?_⟩
  cases hfound : (Lexicon.ofWords words).find? (reading raw) with
  | none =>
    rw [hfound] at htail
    exact absurd (String.toList_inj.mp htail.of_none.2.1) hne
  | some word =>
    rw [hfound] at htail
    obtain ⟨before, after, hfirst, hsuburb, hslots⟩ :=
      htail.of_infix (hiff.mp hconserves word hfound)
    split at hslots
    · exact absurd (String.toList_inj.mp hslots.2) hne
    · refine ⟨before, after, ?_, hslots.1, hsuburb⟩
      rw [hslots.2]
      exact hfirst.text_eq

/-- A word with digits reaches from the head of a query into the rest, and its digits are in two
slots. -/
theorem not_conserves_ordinal :
    ofText (Lexicon.ofWords ["1st"]) "1st" = { number := "1", name := "st", streetType := "1st" } ∧
      ¬ (ofText (Lexicon.ofWords ["1st"]) "1st").Conserves (.of (reading "1st").toList) := by
  have hwords : Lexicon.ofWords ["1st"] = ⟨["1st"]⟩ := by
    rw [Lexicon.ofWords, show (["1st"].map Lexicon.normalWord).filter (· ≠ "") = ["1st"] by decide,
      List.mergeSort_singleton]
    rfl
  have hslots : ofText (Lexicon.ofWords ["1st"]) "1st" =
      { number := "1", name := "st", streetType := "1st" } := by
    rw [hwords]
    decide
  refine ⟨hslots, ?_⟩
  rw [hslots, Conserves]
  decide

end Slots

end Gazetteer
