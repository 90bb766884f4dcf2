import Gazetteer.Proofs.Lexicon.Find
import Gazetteer.Proofs.Query.Division

/-!
# What fills the slots

The numbers come from the division of a query, the other slots from its rest, cut at the word that
the lexicon finds. The lexicon looks for words in all of the query. **If its words have no digit and
no slash, the word found is nevertheless part of the rest** (`ofText_follows_grammar`): it begins
with no blank either, and all that precedes the rest is digits, a slash and a blank.
-/

namespace Gazetteer

open Text

namespace Slots

/-- A query as it is read: in lowercase and without blanks around it. -/
def reading (raw : String) : String :=
  lowercase (trim raw)

/-- The texts of all slots, in order. -/
def texts (s : Slots) : List String :=
  [s.flat, s.number, s.name, s.streetType, s.suburb]

/-- **The ways in which the rest of a query fills the slots**, with a word found or none. Without a
word the rest is the name. A word that is part of the rest is the type where something is before it,
and otherwise the name. A word that is no part of the rest is taken for one that follows it. -/
inductive Tail (rest : List Char) : Option String → List Char → List Char → List Char → Prop
  | whole : Tail rest none (trimChars rest) [] []
  | leading {word : String} {before after : List Char}
      (hword : FirstAt word.toList rest before after) (hblank : Blanks before) :
      Tail rest (some word) word.toList [] (trimChars after)
  | typed {word : String} {before after : List Char} (hword : FirstAt word.toList rest before after)
      (hblank : ¬ Blanks before) :
      Tail rest (some word) (trimChars before) word.toList (trimChars after)
  | strayName {word : String} (hword : ¬ word.toList <:+: rest) (hblank : Blanks rest) :
      Tail rest (some word) word.toList [] []
  | strayType {word : String} (hword : ¬ word.toList <:+: rest) (hblank : ¬ Blanks rest) :
      Tail rest (some word) (trimChars rest) word.toList []

/-- Slots are told apart by the characters of their texts. -/
theorem eq_of_toList {s t : Slots} (hflat : s.flat.toList = t.flat.toList)
    (hnumber : s.number.toList = t.number.toList) (hname : s.name.toList = t.name.toList)
    (htype : s.streetType.toList = t.streetType.toList)
    (hsuburb : s.suburb.toList = t.suburb.toList) : s = t := by
  cases s
  cases t
  rw [String.toList_inj] at hflat hnumber hname htype hsuburb
  simp only at hflat hnumber hname htype hsuburb
  rw [hflat, hnumber, hname, htype, hsuburb]

/-! ## Slot by slot -/

section

variable (lexicon : Lexicon) (raw : String)

/-- The numbers are those of the head that is split off, trimmed. -/
theorem head_ofText :
    (ofText lexicon raw).flat.toList = trimChars (splitHead (reading raw).toList).flat ∧
      (ofText lexicon raw).number.toList = trimChars (splitHead (reading raw).toList).number := by
  rw [ofText]
  exact ⟨String.toList_ofList, String.toList_ofList⟩

/-- The other slots are the parts into which the rest is split, trimmed. -/
theorem rest_ofText {name streetType suburb : List Char}
    (h : splitTail (lexicon.find? (reading raw)) (splitHead (reading raw).toList).rest =
      (name, streetType, suburb)) :
    (ofText lexicon raw).name.toList = trimChars name ∧
      (ofText lexicon raw).streetType.toList = trimChars streetType ∧
      (ofText lexicon raw).suburb.toList = trimChars suburb := by
  rw [reading] at h
  rw [ofText]
  simp only [h, String.toList_ofList, and_self]

end

theorem trimChars_of_longestRun {run after : List Char} (h : LongestRun isDecimalDigit run after) :
    trimChars run = run :=
  (trimmed_of_forall fun c hc => isBlank_of_isDecimalDigit (h.accepted c hc)).trimChars_eq

/-- The numbers are the digits before a slash and after it, or the leading digits where there is no
slash. -/
theorem numbers_ofText (lexicon : Lexicon) {raw : String} {d : Division}
    (hd : d.Divides (reading raw).toList) :
    if d.separator = [] then
      (ofText lexicon raw).flat.toList = [] ∧ (ofText lexicon raw).number.toList = d.lead
    else
      (ofText lexicon raw).flat.toList = d.lead ∧ (ofText lexicon raw).number.toList = d.trail := by
  obtain ⟨hflat, hnumber⟩ := head_ofText lexicon raw
  rw [splitHead_eq, ← Division.divides_iff.mp hd] at hflat hnumber
  by_cases hseparator : d.separator = []
  · rw [if_pos hseparator] at hflat hnumber ⊢
    exact ⟨hflat, hnumber.trans (trimChars_of_longestRun hd.lead)⟩
  · rw [if_neg hseparator] at hflat hnumber ⊢
    exact ⟨hflat.trans (trimChars_of_longestRun hd.lead),
      hnumber.trans (trimChars_of_longestRun hd.trail)⟩

/-- Two queries with the same numbers have the same flat and street number, however their lexicon
reads what follows. -/
theorem numbers_again (lexicon : Lexicon) {raw line : String} {d e : Division}
    (hd : d.Divides (reading raw).toList) (he : e.Divides (reading line).toList)
    (hlead : e.lead = d.lead)
    (hseparator : e.separator = d.separator) (htrail : e.trail = d.trail) :
    (ofText lexicon line).flat.toList = (ofText lexicon raw).flat.toList ∧
      (ofText lexicon line).number.toList = (ofText lexicon raw).number.toList := by
  have hnumbers := numbers_ofText lexicon hd
  have hagain := numbers_ofText lexicon he
  rw [hlead, hseparator, htrail] at hagain
  split at hnumbers
  next hnone =>
    rw [if_pos hnone] at hagain
    exact ⟨hagain.1.trans hnumbers.1.symm, hagain.2.trans hnumbers.2.symm⟩
  next hslash =>
    rw [if_neg hslash] at hagain
    exact ⟨hagain.1.trans hnumbers.1.symm, hagain.2.trans hnumbers.2.symm⟩

/-- A rest is split at a word by what is before it: if that is blank the word is the name. Where the
word is missing, all of the rest counts as before it. -/
theorem splitTail_some (word : String) (rest before after : List Char)
    (h : (splitAtWord word.toList rest).getD (rest, []) = (before, after)) :
    splitTail (some word) rest =
      if Blanks before then (word.toList, [], after) else (before, word.toList, after) := by
  have hall : before.all isBlank = true ↔ Blanks before := List.all_eq_true
  rw [splitTail, h]
  by_cases hblank : Blanks before
  · rw [if_pos hblank]
    exact if_pos (hall.mpr hblank)
  · rw [if_neg hblank]
    exact if_neg (mt hall.mp hblank)

/-- A word that is found is a word of the lexicon, in normal form, and part of the query. -/
theorem find?_spec {words : List String} {text word : String}
    (h : (Lexicon.ofWords words).find? text = some word) :
    word ∈ (Lexicon.ofWords words).words ∧ Lexicon.IsNormal word ∧
    word.toList <:+: text.toList := by
  obtain ⟨place, hbest⟩ := (Lexicon.find?_eq_some_iff (Lexicon.longestFirst_ofWords words)).mp h
  exact ⟨hbest.mem, Lexicon.isNormal_of_mem_ofWords hbest.mem,
    exists_occurrence?_iff.mp ⟨place, hbest.occurs⟩⟩

/-- **The rest of a query fills the slots** in one of these ways. This is the one place where the
splitting is gone through; what follows goes by its ways. -/
theorem tail_ofText (words : List String) {raw : String} {d : Division}
    (hd : d.Divides (reading raw).toList) :
    Tail d.rest ((Lexicon.ofWords words).find? (reading raw))
      (ofText (Lexicon.ofWords words) raw).name.toList
      (ofText (Lexicon.ofWords words) raw).streetType.toList
      (ofText (Lexicon.ofWords words) raw).suburb.toList := by
  have hrest : (splitHead (reading raw).toList).rest = d.rest := by
    rw [rest_splitHead, ← Division.divides_iff.mp hd]
  have hfill := @rest_ofText (Lexicon.ofWords words) raw
  rw [hrest] at hfill
  cases hfound : (Lexicon.ofWords words).find? (reading raw) with
  | none =>
    rw [hfound] at hfill
    obtain ⟨hname, htype, hsuburb⟩ := hfill rfl
    rw [hname, htype, hsuburb]
    exact .whole
  | some word =>
    have hword : trimChars word.toList = word.toList := (find?_spec hfound).2.1.trimmed.trimChars_eq
    rw [hfound] at hfill
    -- The word is part of the query. Whether it is part of the rest is for the second search to
    -- say.
    cases hsplit : splitAtWord word.toList d.rest with
    | some parts =>
      obtain ⟨before, after⟩ := parts
      have hfirst := splitAtWord_eq_some_iff.mp hsplit
      have htail := splitTail_some word d.rest before after (by rw [hsplit]; rfl)
      split at htail
      next hblank =>
        obtain ⟨hname, htype, hsuburb⟩ := hfill htail
        rw [hname, htype, hsuburb, hword]
        exact .leading hfirst hblank
      next hblank =>
        obtain ⟨hname, htype, hsuburb⟩ := hfill htail
        rw [hname, htype, hsuburb, hword]
        exact .typed hfirst hblank
    | none =>
      have hstray := splitAtWord_eq_none_iff.mp hsplit
      have htail := splitTail_some word d.rest d.rest [] (by rw [hsplit]; rfl)
      split at htail
      next hblank =>
        obtain ⟨hname, htype, hsuburb⟩ := hfill htail
        rw [hname, htype, hsuburb, hword]
        exact .strayName hstray hblank
      next hblank =>
        obtain ⟨hname, htype, hsuburb⟩ := hfill htail
        rw [hname, htype, hsuburb, hword]
        exact .strayType hstray hblank

/-- **The slots as a division and the word found fill them.** Without a slash the leading digits are
the street number; with it they are the flat, and the digits after it the street number. Without a
word the rest is the name; with it the rest is cut at the first occurrence, and the word is the
type, or the name if nothing is before it. -/
structure Filled (s : Slots) (d : Division) (found : Option String) : Prop where
  numbers : if d.separator = [] then s.flat.toList = [] ∧ s.number.toList = d.lead
    else s.flat.toList = d.lead ∧ s.number.toList = d.trail
  unfound : found = none → s.name.toList = trimChars d.rest ∧ s.streetType = "" ∧ s.suburb = ""
  found : ∀ word, found = some word → ∃ before after,
    splitAtWord word.toList d.rest = some (before, after) ∧
      FirstAt word.toList d.rest before after ∧
      s.suburb.toList = trimChars after ∧
      if Blanks before then s.name = word ∧ s.streetType = ""
      else s.name.toList = trimChars before ∧ s.streetType = word

/-- Without a word the rest is the name. -/
theorem Tail.of_none {rest name streetType suburb : List Char}
    (h : Tail rest none name streetType suburb) :
    name = trimChars rest ∧ streetType = [] ∧ suburb = [] := by
  cases h
  exact ⟨rfl, rfl, rfl⟩

/-- A word that is part of the rest cuts it, and is then either the name or the type, by whether
there is anything before it. -/
theorem Tail.of_infix {rest name streetType suburb : List Char} {word : String}
    (h : Tail rest (some word) name streetType suburb) (hword : word.toList <:+: rest) :
    ∃ before after, FirstAt word.toList rest before after ∧ suburb = trimChars after ∧
      if Blanks before then name = word.toList ∧ streetType = []
      else name = trimChars before ∧ streetType = word.toList := by
  cases h with
  | @leading _ before after hfirst hblank =>
    exact ⟨before, after, hfirst, rfl, by rw [if_pos hblank]; exact ⟨rfl, rfl⟩⟩
  | @typed _ before after hfirst hblank =>
    exact ⟨before, after, hfirst, rfl, by rw [if_neg hblank]; exact ⟨rfl, rfl⟩⟩
  | strayName hstray _ => exact absurd hword hstray
  | strayType hstray _ => exact absurd hword hstray

/-- Every slot but for the numbers is a trimmed part of the rest, or the word found. What holds of
both holds of all slots. -/
theorem Tail.cases_texts {rest : List Char} {found : Option String}
    {name streetType suburb : List Char} (h : Tail rest found name streetType suburb) :
    ∀ text ∈ [name, streetType, suburb], (Trimmed text ∧ text <:+: rest) ∨
      ∃ word, found = some word ∧ text = word.toList := by
  have hpart : ∀ {part : List Char}, part <:+: rest →
      Trimmed (trimChars part) ∧ trimChars part <:+: rest :=
    fun hpart => ⟨trimmed_trimChars _, (trimChars_infix_self _).trans hpart⟩
  have hnil : Trimmed ([] : List Char) ∧ [] <:+: rest := ⟨trimmed_nil, List.nil_infix⟩
  intro text htext
  rw [List.mem_cons, List.mem_cons, List.mem_singleton] at htext
  cases h with
  | whole =>
    rcases htext with rfl | rfl | rfl
    · exact Or.inl (hpart (List.infix_refl _))
    · exact Or.inl hnil
    · exact Or.inl hnil
  | @leading word _ _ hword _ =>
    rcases htext with rfl | rfl | rfl
    · exact Or.inr ⟨word, rfl, rfl⟩
    · exact Or.inl hnil
    · exact Or.inl (hpart hword.after_infix_text)
  | @typed word _ _ hword _ =>
    rcases htext with rfl | rfl | rfl
    · exact Or.inl (hpart hword.before_infix_text)
    · exact Or.inr ⟨word, rfl, rfl⟩
    · exact Or.inl (hpart hword.after_infix_text)
  | @strayName word _ _ =>
    rcases htext with rfl | rfl | rfl
    · exact Or.inr ⟨word, rfl, rfl⟩
    · exact Or.inl hnil
    · exact Or.inl hnil
  | @strayType word _ _ =>
    rcases htext with rfl | rfl | rfl
    · exact Or.inl (hpart (List.infix_refl _))
    · exact Or.inr ⟨word, rfl, rfl⟩
    · exact Or.inl hnil

/-- The numbers are runs of digits of the query. -/
theorem digits_ofText (lexicon : Lexicon) {raw : String} {d : Division}
    (hd : d.Divides (reading raw).toList) :
    ∀ text ∈ [(ofText lexicon raw).flat, (ofText lexicon raw).number],
      (∀ c ∈ text.toList, isDecimalDigit c = true) ∧ text.toList ⊆ (reading raw).toList := by
  have hlead : d.lead ⊆ (reading raw).toList := by
    intro c hc
    rw [hd.query_eq]
    exact List.mem_append_left _ hc
  have htrail : d.trail ⊆ (reading raw).toList := by
    intro c hc
    rw [hd.query_eq]
    exact List.mem_append_right _ (List.mem_append_right _ (List.mem_append_left _ hc))
  have hnumbers := numbers_ofText lexicon hd
  intro text htext
  rw [List.mem_cons, List.mem_singleton] at htext
  split at hnumbers
  · rcases htext with rfl | rfl
    · rw [hnumbers.1]
      exact ⟨List.forall_mem_nil _, List.nil_subset _⟩
    · rw [hnumbers.2]
      exact ⟨hd.lead.accepted, hlead⟩
  · rcases htext with rfl | rfl
    · rw [hnumbers.1]
      exact ⟨hd.lead.accepted, hlead⟩
    · rw [hnumbers.2]
      exact ⟨hd.trail.accepted, htrail⟩

/-- **The texts in the slots are trimmed**, and they stay as they are in lowercase. They are parts
of a query that is so, or a word in normal form. -/
theorem settled_texts (words : List String) (raw : String) :
    ∀ text ∈ (ofText (Lexicon.ofWords words) raw).texts,
      Trimmed text.toList ∧ ∀ c ∈ text.toList, Settled c := by
  have hd := Division.divides_of (reading raw).toList
  obtain ⟨-, hsettled⟩ := settled_lowercase_trim raw
  have hdigits : ∀ {cs : List Char},
      (∀ c ∈ cs, isDecimalDigit c = true) ∧ cs ⊆ (reading raw).toList →
        Trimmed cs ∧ ∀ c ∈ cs, Settled c :=
    fun h => ⟨trimmed_of_forall fun c hc => isBlank_of_isDecimalDigit (h.1 c hc),
      fun c hc => hsettled c (h.2 hc)⟩
  intro text htext
  have hnumber := digits_ofText (Lexicon.ofWords words) hd text
  have htail := (tail_ofText words hd).cases_texts text.toList
  simp only [texts, List.mem_cons, List.not_mem_nil, or_false,
    String.toList_inj] at htext hnumber htail
  rcases htext with hflat | hnum | htext
  · exact hdigits (hnumber (Or.inl hflat))
  · exact hdigits (hnumber (Or.inr hnum))
  · rcases htail htext with ⟨htrimmed, hwithin⟩ | ⟨word, hfound, heq⟩
    · exact ⟨htrimmed, fun c hc => hsettled c ((hwithin.trans hd.rest_infix_query).subset hc)⟩
    · obtain ⟨-, hnormal, -⟩ := find?_spec hfound
      rw [heq]
      exact ⟨hnormal.trimmed, hnormal.settled⟩

/-! ## The word in the rest -/

/-- A word without digits and slashes does not begin in the head of a query, for it does not begin
with a blank either. -/
theorem not_mem_head {query : List Char} {d : Division} (hd : d.Divides query) {word : String}
    (hnormal : Lexicon.IsNormal word)
    (hplain : ∀ c ∈ word.toList, isDecimalDigit c = false ∧ c ≠ '/') :
    ∀ c ∈ word.toList.head?, c ∉ d.head := by
  intro c hc hhead
  obtain ⟨hdigit, hslash⟩ := hplain c (List.mem_of_mem_head? hc)
  rcases hd.mem_head hhead with h | h | h
  · rw [hdigit] at h
    cases h
  · exact hslash h
  · rw [hnormal.trimmed.first c hc] at h
    cases h

/-- **A word without digits and slashes that is part of a query is part of the rest.** It does not
begin in the head, so the head ends before it. -/
theorem infix_rest {query : List Char} {d : Division} (hd : d.Divides query) {word : String}
    (hnormal : Lexicon.IsNormal word)
    (hplain : ∀ c ∈ word.toList, isDecimalDigit c = false ∧ c ≠ '/')
    (h : word.toList <:+: query) : word.toList <:+: d.rest := by
  obtain ⟨earlier, later, heq⟩ := h
  rw [hd.head_append_rest] at heq
  obtain ⟨between, -, hrest⟩ :=
    exists_append_of_first hnormal.ne_nil (not_mem_head hd hnormal hplain) heq.symm
  exact ⟨between, later, hrest.symm⟩

/-- **The slots follow the grammar of queries.** A query, read in lowercase and without blanks
around it, divides in one way, which is how its pattern matches it, and the slots are filled from
the division. If the words of the lexicon have no digit and no slash, then the word found in the
query is part of the rest.

Without that condition a word may be found that reaches into the numbers, and then the rest is not
cut at it. All four slots that are not numbers follow from what is found in the rest; and whatever
the words are, the texts in the slots are trimmed and in lowercase. -/
theorem ofText_follows_grammar {words : List String}
    (hplain : ∀ word ∈ (Lexicon.ofWords words).words, ∀ c ∈ word.toList,
      isDecimalDigit c = false ∧ c ≠ '/') (raw : String) :
    ∃ d : Division, (∀ e : Division, e.Divides (reading raw).toList ↔ e = d) ∧
      (ways headPattern (reading raw).toList).head? = some d.parts ∧
      (ofText (Lexicon.ofWords words) raw).Filled d ((Lexicon.ofWords words).find? (reading raw)) ∧
      ∀ text ∈ (ofText (Lexicon.ofWords words) raw).texts,
        lowercase text = text ∧ trim text = text := by
  have hd := Division.divides_of (reading raw).toList
  refine ⟨.of (reading raw).toList, fun e => Division.divides_iff, head?_ways_headPattern _, ?_,
    fun text htext => ?_⟩
  · generalize Division.of (reading raw).toList = d at hd
    have htail := tail_ofText words hd
    refine ⟨numbers_ofText _ hd, fun hnone => ?_, fun word hword => ?_⟩
    · rw [hnone] at htail
      obtain ⟨hname, htype, hsuburb⟩ := htail.of_none
      exact ⟨hname, String.toList_inj.mp htype, String.toList_inj.mp hsuburb⟩
    · obtain ⟨hmem, hnormal, hwithin⟩ := find?_spec hword
      rw [hword] at htail
      obtain ⟨before, after, hfirst, hsuburb, hslots⟩ :=
        htail.of_infix (infix_rest hd hnormal (hplain word hmem) hwithin)
      refine ⟨before, after, splitAtWord_eq_some_iff.mpr hfirst, hfirst, hsuburb, ?_⟩
      split at hslots
      next hblank =>
        rw [if_pos hblank]
        exact ⟨String.toList_inj.mp hslots.1, String.toList_inj.mp hslots.2⟩
      next hblank =>
        rw [if_neg hblank]
        exact ⟨hslots.1, String.toList_inj.mp hslots.2⟩
  · obtain ⟨htrimmed, hsettled⟩ := settled_texts words raw text htext
    exact ⟨lowercase_eq_self hsettled, trim_eq_self htrimmed⟩

/-- A flat in a street that is spelled out, among the street types in common use. -/
theorem ofText_follows_grammar_flat :
    (ofText .standard " 45/15 Breaker STREET  Main Beach").Filled
      { lead := ['4', '5'], separator := ['/'], trail := ['1', '5'], gap := [' '],
        rest := "breaker street  main beach".toList } (some "street") := by
  have hreading : reading " 45/15 Breaker STREET  Main Beach" =
      "45/15 breaker street  main beach" := by
    decide
  -- only the words that are no shorter have to be looked for in the text
  set_option maxRecDepth 4000 in
  have hbeats : (Lexicon.streetTypes.all fun other =>
      Nat.blt other.utf8ByteSize "street".utf8ByteSize || other == "street" ||
        (occurrence? other.toList "45/15 breaker street  main beach".toList).isNone) = true := by
    decide
  have hmem : "street" ∈ Lexicon.standard.words :=
    Lexicon.mem_words_ofWords.mpr ⟨by decide, "street", by decide, by decide⟩
  have hplace :
      occurrence? "street".toList "45/15 breaker street  main beach".toList = some 14 := by
    decide
  have hfound : Lexicon.standard.find? "45/15 breaker street  main beach" = some "street" := by
    refine (Lexicon.find?_eq_some_iff (Lexicon.longestFirst_ofWords _)).mpr
      ⟨14, hmem, hplace, fun other hother elsewhere helsewhere => ?_⟩
    have hother' := List.all_eq_true.mp hbeats other (Lexicon.mem_streetTypes_of_standard hother)
    simp only [helsewhere, Option.isNone_some, Bool.or_false, Bool.or_eq_true, Nat.blt_eq,
      beq_iff_eq] at hother'
    obtain hshorter | rfl := hother'
    · exact Or.inl hshorter
    · exact Or.inr ⟨rfl, Nat.le_of_eq (Option.some.inj (hplace.symm.trans helsewhere))⟩
  obtain ⟨d, hd, -, hfilled, -⟩ := @ofText_follows_grammar (Lexicon.streetTypes ++ [])
    (fun word hword c hc => (Lexicon.plain_standard word hword c hc).2)
    " 45/15 Breaker STREET  Main Beach"
  rw [hreading] at hd hfilled
  have hparts := (hd _).mp (Division.divides_of _)
  rw [show (Lexicon.ofWords (Lexicon.streetTypes ++ [])).find? "45/15 breaker street  main beach" =
      some "street" from hfound, ← hparts] at hfilled
  exact hfilled

end Slots

end Gazetteer
