import Gazetteer.Address
import Gazetteer.Proofs.Query.Slots
import Gazetteer.Proofs.Text.Spacing

/-!
# The slots of a line of slots

The slots of a query make an address, and an address has a line. **That line has the same slots**
(`ofText_oneLine`), if the words of the lexicon have no blanks, digits and slashes and the query
does not begin with a slash: a slash without digits before it is the one character that is not on
the line.

The line is the numbers and the texts behind them with one space between those that are not empty
(`toList_line`). It divides behind the numbers again (`divides_line`). The same word is found in it
(`find?_line`), since a word on the line is part of one of the texts, and so of the query; and what
is before the word on the line has no word as long, since it has none in the query. What is left is
that a rest cut at its word, and written on a line, is cut there into the same parts (`Tail.again`).
-/

namespace Gazetteer

open Text

namespace Division

/-- The division of a line with the numbers of a query and another rest. -/
def onLine (d : Division) (rest : List Char) : Division :=
  { d with gap := if d.numbers = [] ∨ rest = [] then [] else [' '], rest := rest }

variable {d : Division} {query rest : List Char}

/-- Numbers have no blanks, and so none at their ends. -/
theorem Divides.trimmed_numbers (hd : d.Divides query) : Trimmed d.numbers := by
  refine trimmed_of_forall fun c hc => ?_
  rcases hd.mem_numbers hc with hdigit | rfl
  · exact isBlank_of_isDecimalDigit hdigit
  · decide

/-- Where a query does not begin with a blank and has no numbers, the rest is all of it. -/
theorem Divides.rest_eq (hd : d.Divides query) (hblank : ∀ c ∈ query.head?, isBlank c = false)
    (hnumbers : d.numbers = []) : d.rest = query := by
  have hquery := hd.numbers_append
  rw [hnumbers, List.nil_append] at hquery
  cases hgap : d.gap with
  | nil => rw [hquery, hgap, List.nil_append]
  | cons c gap =>
    have hnot := hblank c (by rw [hquery, hgap]; rfl)
    rw [hd.blanks_gap c (hgap ▸ List.mem_cons_self)] at hnot
    cases hnot

/-- What follows the numbers on a line begins with neither a digit nor a slash. Without numbers this
is what the rest of the query begins with, and there the query begins so itself. -/
theorem Divides.starts_onLine (hd : d.Divides query)
    (hstart : d.numbers = [] → rest.head? = query.head?) :
    ∀ c ∈ ((d.onLine rest).gap ++ rest).head?, isDecimalDigit c = false ∧ (c == '/') = false := by
  intro c hc
  rw [onLine] at hc
  split at hc
  next hnone =>
    by_cases hrest : rest = []
    · rw [hrest] at hc
      cases hc
    · -- Nothing is before the rest, so it begins as the query does, where no digit and no slash was
      -- taken.
      have hnumbers := hnone.resolve_right hrest
      obtain ⟨hlead, hmore⟩ := List.append_eq_nil_iff.mp hnumbers
      obtain ⟨hseparator, htrail⟩ := List.append_eq_nil_iff.mp hmore
      have hdigit := hd.lead.ends
      have hslash := hd.separator
      rw [List.nil_append, hstart hnumbers, hd.query_eq, hlead] at hc
      rw [hseparator] at hslash hdigit hc
      exact ⟨hdigit c hc, hslash.ends c hc⟩
  next =>
    obtain rfl := Option.some.inj hc
    decide

/-- **A line with the numbers of a query divides behind them.** Behind numbers there is a space, at
which every run of the pattern ends; without numbers, what follows begins as the query itself
did. -/
theorem Divides.onLine (hd : d.Divides query) (hstart : d.numbers = [] → rest.head? = query.head?)
    (hblank : ∀ c ∈ rest.head?, isBlank c = false) :
    (d.onLine rest).Divides (d.numbers ++ ((d.onLine rest).gap ++ rest)) where
  query_eq := by
    rw [numbers]
    simp only [List.append_assoc]
    rfl
  lead := by
    -- The leading run ends at the slash, or without one at what follows the numbers.
    refine ⟨hd.lead.accepted, ?_⟩
    show ∀ c ∈ (d.separator ++ (d.trail ++ ((d.onLine rest).gap ++ rest))).head?,
      isDecimalDigit c = false
    rcases hd.separator_cases with hnone | hslash
    · rw [hnone, hd.trail_eq_nil hnone]
      exact fun c hc => (hd.starts_onLine hstart c hc).1
    · rw [hslash]
      intro c hc
      obtain rfl := Option.some.inj hc
      decide
  separator := by
    show OneIfNext (· == '/') d.separator (d.trail ++ ((d.onLine rest).gap ++ rest))
    rcases hd.separator_cases with hnone | hslash
    · rw [hnone, hd.trail_eq_nil hnone]
      exact .none fun c hc => (hd.starts_onLine hstart c hc).2
    · rw [hslash]
      exact .one _ rfl
  trail := ⟨hd.trail.accepted, fun c hc => (hd.starts_onLine hstart c hc).1⟩
  gap := by
    show OneIfNext isBlank (if d.numbers = [] ∨ rest = [] then [] else [' ']) rest
    split
    · exact .none hblank
    · exact .one _ isBlank_space

theorem spaced_numbers (d : Division) (parts : List (List Char)) :
    spaced (d.numbers :: parts) = d.numbers ++ ((d.onLine (spaced parts)).gap ++ spaced parts) := by
  rw [onLine]
  by_cases hnumbers : d.numbers = []
  · rw [hnumbers, spaced_nil_cons, if_pos (Or.inl rfl)]
    rfl
  · rw [spaced_cons hnumbers]
    by_cases hrest : spaced parts = []
    · rw [hrest, if_pos (Or.inr rfl)]
      rfl
    · rw [closing_of_ne_nil hrest, if_neg (not_or.mpr ⟨hnumbers, hrest⟩)]
      rfl

end Division

namespace Slots

/-- The address with the texts of the slots, and nothing else. -/
def toAddress (s : Slots) : Address :=
  { id := ""
    flatNumber := s.flat
    numberFirst := s.number
    streetName := s.name
    streetType := s.streetType
    locality := s.suburb }

/-- The texts behind the numbers, in order. -/
def behind (s : Slots) : List (List Char) :=
  [s.name.toList, s.streetType.toList, s.suburb.toList]

theorem mem_behind {s : Slots} {part : List Char} (h : part ∈ s.behind) :
    ∃ text ∈ s.texts, text.toList = part := by
  simp only [behind, List.mem_cons, List.not_mem_nil, or_false] at h
  simp only [texts, List.mem_cons, List.not_mem_nil, or_false]
  rcases h with rfl | rfl | rfl
  · exact ⟨s.name, by simp, rfl⟩
  · exact ⟨s.streetType, by simp, rfl⟩
  · exact ⟨s.suburb, by simp, rfl⟩

/-! ## The line -/

/-- Joining the texts that are not empty is writing them on a line. -/
theorem toList_unwords_filled (ws : List String) :
    (unwords (ws.filter (· ≠ ""))).toList = spaced (ws.map String.toList) := by
  rw [unwords, String.toList_ofList, spaced, List.filter_map]
  refine congrArg (fun kept => joinWords (kept.map String.toList)) (List.filter_congr fun w _ => ?_)
  rw [Function.comp_apply, Bool.eq_iff_iff, decide_eq_true_eq, Bool.not_eq_true',
    List.isEmpty_eq_false_iff, Ne, Ne, String.toList_eq_nil_iff]

/-- **The line of slots** is the texts that are not empty, with one space between them. An address
with nothing but these texts adds no other part to its line. -/
theorem toList_oneLine {s : Slots} (hnumber : Trimmed s.toAddress.numberPart.toList)
    (htexts : ∀ text ∈ s.texts, Trimmed text.toList) :
    s.toAddress.oneLine.toList = spaced (s.toAddress.numberPart.toList :: s.behind) := by
  have hname : trim s.name = s.name := trim_eq_self (htexts _ (by simp [texts]))
  have htype : trim s.streetType = s.streetType := trim_eq_self (htexts _ (by simp [texts]))
  have hsuburb : trim s.suburb = s.suburb := trim_eq_self (htexts _ (by simp [texts]))
  have hparts : s.toAddress.lineParts =
      [s.toAddress.numberPart, s.name, s.streetType, s.suburb, "", ""] := by
    rw [Address.lineParts]
    simp only [List.map_cons, List.map_nil, trim_eq_self hnumber]
    simp only [toAddress, hname, htype, hsuburb]
    rfl
  -- State and postcode are empty, and empty parts leave no trace on a line.
  have hblank : ∀ parts, spaced (parts ++ [[], []]) = spaced parts := by
    intro parts
    rw [spaced, List.filter_append, spaced]
    exact congrArg joinWords (List.append_nil _)
  rw [Address.oneLine, toList_unwords_filled, hparts]
  exact hblank [_, _, _, _]

/-- Digits follow a slash at the beginning of a query only if it is typed there, which the theorem
on lines excludes. -/
theorem lead_ne_nil {raw : String} (hraw : (trim raw).toList.head? ≠ some '/') {d : Division}
    (hd : d.Divides (reading raw).toList) (hseparator : d.separator ≠ []) : d.lead ≠ [] := by
  intro hlead
  have hslash := hd.separator_cases.resolve_left hseparator
  have hquery := hd.query_eq
  rw [hlead, hslash, reading, toList_lowercase_trim] at hquery
  refine hraw ?_
  rw [trim, String.toList_ofList]
  exact head?_of_head?_lowerFrom (by rw [hquery]; rfl)

/-- **The number part of the line** is the digits of the query with the slash between them. -/
theorem toList_numberPart (lexicon : Lexicon) {raw : String}
    (hraw : (trim raw).toList.head? ≠ some '/')
    {d : Division} (hd : d.Divides (reading raw).toList) :
    (ofText lexicon raw).toAddress.numberPart.toList = d.numbers := by
  have hline : ∀ s : Slots,
      s.toAddress.numberPart = (if s.flat = "" then "" else s.flat ++ "/") ++ s.number :=
    fun s => String.append_empty
  have hnumbers := numbers_ofText lexicon hd
  rw [hline, Division.numbers]
  split at hnumbers
  next hseparator =>
    have hflat : (ofText lexicon raw).flat = "" := String.toList_inj.mp hnumbers.1
    rw [if_pos hflat, String.empty_append, hnumbers.2, hseparator,
      hd.trail_eq_nil hseparator]
    exact (List.append_nil _).symm
  next hseparator =>
    have hflat : (ofText lexicon raw).flat ≠ "" := by
      intro hempty
      rw [hempty] at hnumbers
      exact lead_ne_nil hraw hd hseparator hnumbers.1.symm
    rw [if_neg hflat, String.toList_append, String.toList_append, hnumbers.1, hnumbers.2,
      hd.separator_cases.resolve_left hseparator, List.append_assoc]
    rfl

/-! ## The word on the line -/

section

variable {words : List String} {d : Division} {query line : String} {word : String}
  {before after : List Char}
  (hplain : ∀ word ∈ (Lexicon.ofWords words).words, ∀ c ∈ word.toList,
    isBlank c = false ∧ isDecimalDigit c = false ∧ c ≠ '/')

include hplain

theorem infix_rest_of_find? (hd : d.Divides query.toList)
    (hfound : (Lexicon.ofWords words).find? query = some word) :
    word.toList <:+: d.rest := by
  obtain ⟨hmem, hnormal, hwithin⟩ := find?_spec hfound
  exact infix_rest hd hnormal (fun c hc => (hplain word hmem c hc).2) hwithin

/-- A word on a line is part of one of the parts, and not of the numbers: it has neither digits nor
a slash. -/
theorem infix_of_infix_line (hd : d.Divides query.toList)
    (hmem : word ∈ (Lexicon.ofWords words).words)
    {parts : List (List Char)} (h : word.toList <:+: spaced (d.numbers :: parts)) :
    ∃ part ∈ parts, word.toList <:+: part := by
  have hnormal := Lexicon.isNormal_of_mem_ofWords hmem
  obtain ⟨part, hpart, hwithin⟩ :=
    infix_of_infix_spaced hnormal.ne_nil (fun c hc => (hplain word hmem c hc).1) h
  rcases List.mem_cons.mp hpart with rfl | hlater
  · exfalso
    have hfirst := not_mem_head hd hnormal fun c hc => (hplain word hmem c hc).2
    obtain ⟨c, cs, hcons⟩ := List.exists_cons_of_ne_nil hnormal.ne_nil
    rw [hcons] at hfirst hwithin
    exact hfirst c rfl (List.mem_append_left _ (hwithin.subset List.mem_cons_self))
  · exact ⟨part, hlater, hwithin⟩

/-- Where no word is found in a query, none is found on a line of its parts. A word on the line
would be part of one of the parts, and so of the query. -/
theorem find?_line_none (hd : d.Divides query.toList)
    (hnone : (Lexicon.ofWords words).find? query = none) {parts : List (List Char)}
    (hparts : ∀ part ∈ parts, part <:+: query.toList)
    (hline : line.toList = spaced (d.numbers :: parts)) :
    (Lexicon.ofWords words).find? line = none := by
  have hsorted := Lexicon.longestFirst_ofWords words
  rw [Lexicon.find?_eq_none_iff hsorted] at hnone ⊢
  intro word hmem hwithin
  rw [hline] at hwithin
  obtain ⟨part, hpart, hword⟩ := infix_of_infix_line hplain hd hmem hwithin
  exact hnone word hmem (hword.trans (hparts part hpart))

/-- No word as long as the one found is part of what is before it: it would start earlier in the
query and be found instead. -/
theorem not_infix_before (hd : d.Divides query.toList) {place : Nat}
    (hbest : Lexicon.Best query.toList (Lexicon.ofWords words).words word place)
    (hfirst : FirstAt word.toList d.rest before after) {other : String}
    (hother : other ∈ (Lexicon.ofWords words).words)
    (hsize : other.utf8ByteSize = word.utf8ByteSize) : ¬ other.toList <:+: before := by
  rintro ⟨earlier, later, hbefore⟩
  have hnormal := Lexicon.isNormal_of_mem_ofWords hbest.mem
  have hplace : place = (d.head ++ before).length := by
    have hquery := hfirst.append hnormal.ne_nil
      (not_mem_head hd hnormal fun c hc => (hplain word hbest.mem c hc).2)
    rw [← hd.head_append_rest] at hquery
    exact Option.some.inj (hbest.occurs.symm.trans hquery.occurrence?_eq)
  have hquery : query.toList = (d.head ++ earlier) ++ other.toList ++
      (later ++ word.toList ++ after) := by
    rw [hd.head_append_rest, hfirst.text_eq, ← hbefore]
    simp only [List.append_assoc]
  obtain ⟨elsewhere, hoccurs⟩ := exists_occurrence?_iff.mpr ⟨_, _, hquery.symm⟩
  obtain ⟨front, back, hfront, hat⟩ := exists_firstAt hoccurs
  -- It would occur in the query before the word that is found, and be no shorter.
  have hearly := hat.first _ _ hquery
  have hbeats := hbest.beats other hother elsewhere hoccurs
  have hlength := List.length_pos_iff.mpr (Lexicon.isNormal_of_mem_ofWords hother).ne_nil
  rw [← hbefore] at hplace
  simp only [List.length_append] at hplace hearly
  omega

/-- Nor is it part of what is before the word on the line. -/
theorem not_infix_line_before (hd : d.Divides query.toList) {place : Nat}
    (hbest : Lexicon.Best query.toList (Lexicon.ofWords words).words word place)
    (hfirst : FirstAt word.toList d.rest before after) {other : String}
    (hother : other ∈ (Lexicon.ofWords words).words)
    (hsize : other.utf8ByteSize = word.utf8ByteSize) :
    ¬ other.toList <:+: spaced [d.numbers, trimChars before] := by
  intro hwithin
  obtain ⟨part, hpart, hbefore⟩ := infix_of_infix_line hplain hd hother hwithin
  rw [List.mem_singleton.mp hpart] at hbefore
  exact not_infix_before hplain hd hbest hfirst hother hsize
    (hbefore.trans (trimChars_infix_self before))

/-- **The word found in a query is found on a line** of the numbers, the word and what is around the
word. No longer word is on the line, as none is in the query, and none as long starts earlier. -/
theorem find?_line_some (hd : d.Divides query.toList)
    (hfound : (Lexicon.ofWords words).find? query = some word)
    (hfirst : FirstAt word.toList d.rest before after)
    (hline : line.toList = spaced [d.numbers, trimChars before, word.toList, trimChars after]) :
    (Lexicon.ofWords words).find? line = some word := by
  have hsorted := Lexicon.longestFirst_ofWords words
  obtain ⟨place, hbest⟩ := (Lexicon.find?_eq_some_iff hsorted).mp hfound
  have hne := (Lexicon.isNormal_of_mem_ofWords hbest.mem).ne_nil
  have hblank : ∀ other ∈ (Lexicon.ofWords words).words, ∀ c ∈ other.toList, isBlank c = false :=
    fun other hother c hc => (hplain other hother c hc).1
  have hcut : line.toList =
      opening (spaced [d.numbers, trimChars before]) ++ word.toList ++ closing (trimChars after) :=
    hline.trans (spaced_append_pair hne [d.numbers, trimChars before] (trimChars after))
  have hplace := firstAt_opening (hblank word hbest.mem)
    (not_infix_line_before hplain hd hbest hfirst hbest.mem rfl) (closing (trimChars after))
  rw [← hcut] at hplace
  refine (Lexicon.find?_eq_some_iff hsorted).mpr ⟨_, hbest.mem, hplace.occurrence?_eq, ?_⟩
  -- A word on the line is one in the query, and so it is no longer; and if it is as long, it stands
  -- no earlier.
  intro other hother elsewhere helsewhere
  obtain ⟨earlier, later, rfl, hat⟩ := exists_firstAt helsewhere
  obtain ⟨part, hpart, hother'⟩ :=
    infix_of_infix_line hplain hd hother (hline ▸ hat.word_infix_text)
  obtain ⟨there, hthere⟩ := exists_occurrence?_iff.mpr
    (hother'.trans ((hfirst.infix_text_of_mem hpart).trans hd.rest_infix_query))
  rcases hbest.beats other hother there hthere with hshorter | ⟨hsize, -⟩
  · exact Or.inl hshorter
  · have hout := not_infix_line_before hplain hd hbest hfirst hother hsize
    have heq := hat.text_eq
    rw [hcut, List.append_assoc] at heq
    exact Or.inr ⟨hsize, length_opening_le (hblank other hother) hout heq⟩

end

/-! ## The slots of the line -/

/-- What the rest leaves on a line: all of it, or the parts around the word and the word. -/
theorem Tail.spaced_eq {rest name streetType suburb : List Char} {word : String}
    {before after : List Char} (h : Tail rest (some word) name streetType suburb)
    (hfirst : FirstAt word.toList rest before after) :
    spaced [name, streetType, suburb] = spaced [trimChars before, word.toList,
      trimChars after] := by
  obtain ⟨before', after', hfirst', rfl, hslots⟩ := h.of_infix hfirst.word_infix_text
  obtain ⟨rfl, rfl⟩ := hfirst.unique hfirst'
  split at hslots
  next hblank =>
    rw [hslots.1, hslots.2, trimChars_eq_nil_iff.mpr hblank, spaced_nil_cons]
    exact spaced_cons_congr (spaced_nil_cons _) _
  next => rw [hslots.1, hslots.2]

/-- Without a word the rest is on the line as one part. -/
theorem Tail.spaced_eq_of_none {rest name streetType suburb : List Char}
    (h : Tail rest none name streetType suburb) :
    spaced [name, streetType, suburb] = trimChars rest := by
  obtain ⟨rfl, rfl, rfl⟩ := h.of_none
  exact (spaced_cons_congr rfl _).trans (spaced_singleton _)

/-- A rest that does not begin with a blank begins as it does on a line. -/
theorem Tail.head?_spaced {rest name streetType suburb : List Char} {found : Option String}
    (h : Tail rest found name streetType suburb)
    (hfound : ∀ word, found = some word → word.toList ≠ [] ∧ word.toList <:+: rest)
    (hblank : ∀ c ∈ rest.head?, isBlank c = false) :
    (spaced [name, streetType, suburb]).head? = rest.head? := by
  cases found with
  | none => rw [h.spaced_eq_of_none, head?_trimChars hblank]
  | some word =>
    obtain ⟨hne, hwithin⟩ := hfound word rfl
    obtain ⟨before, after, hfirst, -, -⟩ := h.of_infix hwithin
    rw [h.spaced_eq hfirst, hfirst.text_eq]
    rw [hfirst.text_eq, List.append_assoc] at hblank
    by_cases hbefore : before = []
    · rw [hbefore, trimChars_eq_nil_iff.mpr blanks_nil, spaced_nil_cons, spaced_cons hne,
        List.nil_append, head?_append_of_ne_nil hne, head?_append_of_ne_nil hne]
    · rw [head?_append_of_ne_nil hbefore] at hblank
      have hhead := head?_trimChars hblank
      have hname : trimChars before ≠ [] := by
        intro hnil
        rw [hnil] at hhead
        exact hbefore (List.head?_eq_none_iff.mp hhead.symm)
      rw [spaced_cons hname, head?_append_of_ne_nil hname, List.append_assoc,
        head?_append_of_ne_nil hbefore, hhead]

/-- **What a rest leaves on a line fills the slots again.** The line is cut at its word behind the
part that was before the word, and trimming takes the space off. -/
theorem Tail.again {rest name streetType suburb name' streetType' suburb' : List Char}
    {found : Option String} (h : Tail rest found name streetType suburb)
    (hagain : Tail (spaced [name, streetType, suburb]) found name' streetType' suburb')
    (hfound : ∀ word, found = some word →
      word.toList ≠ [] ∧ (∀ c ∈ word.toList, isBlank c = false) ∧ word.toList <:+: rest) :
    name' = name ∧ streetType' = streetType ∧ suburb' = suburb := by
  cases found with
  | none =>
    rw [h.spaced_eq_of_none] at hagain
    obtain ⟨rfl, rfl, rfl⟩ := h.of_none
    obtain ⟨hname, htype, hsuburb⟩ := hagain.of_none
    exact ⟨hname.trans (trimmed_trimChars rest).trimChars_eq, htype, hsuburb⟩
  | some word =>
    obtain ⟨hne, hblank, hwithin⟩ := hfound word rfl
    obtain ⟨before, after, hfirst, hsuburb, hslots⟩ := h.of_infix hwithin
    -- The word stands on the line where it stood in the rest.
    have hout : ¬ word.toList <:+: trimChars before :=
      fun hbefore => hfirst.not_infix_before hne (hbefore.trans (trimChars_infix_self before))
    have hplace := firstAt_opening hblank hout (closing (trimChars after))
    have hline := spaced_append_pair hne [trimChars before] (trimChars after)
    rw [spaced_singleton] at hline
    rw [h.spaced_eq hfirst, ← List.singleton_append, hline] at hagain
    obtain ⟨before', after', hfirst', hsuburb', hslots'⟩ := hagain.of_infix hplace.word_infix_text
    obtain ⟨rfl, rfl⟩ := hplace.unique hfirst'
    have hopening := (trimmed_trimChars before).trimChars_opening
    have hsame : Blanks (opening (trimChars before)) ↔ Blanks before := by
      rw [← trimChars_eq_nil_iff, hopening, trimChars_eq_nil_iff]
    simp only [hsame, hopening] at hslots'
    rw [hsuburb', hsuburb, (trimmed_trimChars after).trimChars_closing]
    split at hslots
    next hempty =>
      rw [if_pos hempty] at hslots'
      exact ⟨hslots'.1.trans hslots.1.symm, hslots'.2.trans hslots.2.symm, rfl⟩
    next hempty =>
      rw [if_neg hempty] at hslots'
      exact ⟨hslots'.1.trans hslots.1.symm, hslots'.2.trans hslots.2.symm, rfl⟩

section

variable {words : List String} {raw : String} {d : Division}

/-- **The line of a query**: its numbers, and the texts behind them. -/
theorem toList_line (hraw : (trim raw).toList.head? ≠ some '/')
    (hd : d.Divides (reading raw).toList) :
    (ofText (Lexicon.ofWords words) raw).toAddress.oneLine.toList =
      spaced (d.numbers :: (ofText (Lexicon.ofWords words) raw).behind) := by
  have hnumber := toList_numberPart (Lexicon.ofWords words) hraw hd
  have hline := toList_oneLine (hnumber ▸ hd.trimmed_numbers)
    fun text htext => (settled_texts words raw text htext).1
  rw [hline, hnumber]

/-- The line of a query is read as it is, for it is in lowercase and trimmed. -/
theorem reading_line (hraw : (trim raw).toList.head? ≠ some '/') :
    reading (ofText (Lexicon.ofWords words) raw).toAddress.oneLine =
      (ofText (Lexicon.ofWords words) raw).toAddress.oneLine := by
  obtain ⟨d, hd⟩ := Division.exists_divides (reading raw).toList
  have hline := @toList_line words raw d hraw hd
  have htexts := settled_texts words raw
  have htrimmed : Trimmed (ofText (Lexicon.ofWords words) raw).toAddress.oneLine.toList := by
    rw [hline]
    refine trimmed_spaced (List.forall_mem_cons.mpr ⟨hd.trimmed_numbers, fun part hpart => ?_⟩)
    obtain ⟨text, htext, rfl⟩ := mem_behind hpart
    exact (htexts text htext).1
  have hsettled : ∀ c ∈ (ofText (Lexicon.ofWords words) raw).toAddress.oneLine.toList,
      Settled c := by
    intro c hc
    rw [hline] at hc
    rcases mem_spaced hc with rfl | ⟨part, hpart, hmem⟩
    · exact ⟨by decide, by decide⟩
    · rcases List.mem_cons.mp hpart with rfl | hbehind
      · have hquery : c ∈ (reading raw).toList := by
          rw [hd.numbers_append]
          exact List.mem_append_left _ hmem
        exact (settled_lowercase_trim raw).2 c hquery
      · obtain ⟨text, htext, rfl⟩ := mem_behind hbehind
        exact (htexts text htext).2 c hmem
  rw [reading, trim_eq_self htrimmed, lowercase_eq_self hsettled]

variable (hplain : ∀ word ∈ (Lexicon.ofWords words).words, ∀ c ∈ word.toList,
    isBlank c = false ∧ isDecimalDigit c = false ∧ c ≠ '/')

include hplain

/-- The line of a query divides behind the numbers of the query, whatever its parts behind them
are. -/
theorem divides_line (hraw : (trim raw).toList.head? ≠ some '/')
    (hd : d.Divides (reading raw).toList) :
    (d.onLine (spaced (ofText (Lexicon.ofWords words) raw).behind)).Divides
      (ofText (Lexicon.ofWords words) raw).toAddress.oneLine.toList := by
  rw [toList_line hraw hd, Division.spaced_numbers]
  refine hd.onLine (fun hnumbers => ?_) (trimmed_spaced fun part hpart => ?_).first
  · have hblank := (settled_lowercase_trim raw).1.first
    have hrest := hd.rest_eq hblank hnumbers
    rw [← hrest]
    refine (tail_ofText words hd).head?_spaced (fun word hfound => ?_) (hrest ▸ hblank)
    exact ⟨(find?_spec hfound).2.1.ne_nil, infix_rest_of_find? hplain hd hfound⟩
  · obtain ⟨text, htext, rfl⟩ := mem_behind hpart
    exact (settled_texts words raw text htext).1

/-- **The word found in a query is the word found on its line.** It is the best of the words on
either, by its length and by where it starts. -/
theorem find?_line (hraw : (trim raw).toList.head? ≠ some '/') :
    (Lexicon.ofWords words).find? (ofText (Lexicon.ofWords words) raw).toAddress.oneLine =
      (Lexicon.ofWords words).find? (reading raw) := by
  obtain ⟨d, hd⟩ := Division.exists_divides (reading raw).toList
  have hline := @toList_line words raw d hraw hd
  have htail := tail_ofText words hd
  cases hfound : (Lexicon.ofWords words).find? (reading raw) with
  | none =>
    rw [hfound] at htail
    have hspaced : spaced (ofText (Lexicon.ofWords words) raw).behind =
        spaced [trimChars d.rest] :=
      htail.spaced_eq_of_none.trans (spaced_singleton _).symm
    refine find?_line_none hplain hd hfound ?_ (hline.trans (spaced_cons_congr hspaced _))
    rw [List.forall_mem_singleton]
    exact (trimChars_infix_self _).trans hd.rest_infix_query
  | some word =>
    rw [hfound] at htail
    obtain ⟨before, after, hfirst, -, -⟩ := htail.of_infix (infix_rest_of_find? hplain hd hfound)
    exact find?_line_some hplain hd hfound hfirst
      (hline.trans (spaced_cons_congr (htail.spaced_eq hfirst) _))

end

/-- **The slots of a query are the slots of their line**, so that an address may be shown for a
query and be searched for again. A slash at the beginning is the one character that is lost on the
way.

Three things have to come out the same on the line: how it divides, which word is found, and how the
rest is cut at that word. The second is where the conditions on the lexicon are needed. The line may
put spaces where the query had none, and a word with blanks could be found across them; a word with
digits or slashes could be found across the numbers. -/
theorem ofText_oneLine {words : List String}
    (hplain : ∀ word ∈ (Lexicon.ofWords words).words, ∀ c ∈ word.toList,
      isBlank c = false ∧ isDecimalDigit c = false ∧ c ≠ '/')
    {raw : String} (hraw : (trim raw).toList.head? ≠ some '/') :
    ofText (Lexicon.ofWords words) (ofText (Lexicon.ofWords words) raw).toAddress.oneLine =
      ofText (Lexicon.ofWords words) raw := by
  obtain ⟨d, hd⟩ := Division.exists_divides (reading raw).toList
  have hline := divides_line hplain hraw hd
  rw [← reading_line hraw] at hline
  have hagain := tail_ofText words hline
  rw [reading_line hraw, find?_line hplain hraw] at hagain
  obtain ⟨hname, htype, hsuburb⟩ := (tail_ofText words hd).again hagain fun word hfound =>
    ⟨(find?_spec hfound).2.1.ne_nil, fun c hc => (hplain word (find?_spec hfound).1 c hc).1,
      infix_rest_of_find? hplain hd hfound⟩
  obtain ⟨hflat, hnumber⟩ := numbers_again (Lexicon.ofWords words) hd hline rfl rfl rfl
  exact eq_of_toList hflat hnumber hname htype hsuburb

/-- The line of a flat, in lowercase and with one space between its parts. -/
theorem ofText_oneLine_flat :
    (ofText .standard (ofText .standard " 45/15Breaker STREET  Main Beach").toAddress.oneLine) =
      ofText .standard " 45/15Breaker STREET  Main Beach" :=
  @ofText_oneLine (Lexicon.streetTypes ++ []) Lexicon.plain_standard
    " 45/15Breaker STREET  Main Beach" (by decide)

end Slots

end Gazetteer
