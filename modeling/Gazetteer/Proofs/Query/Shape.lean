import Gazetteer.Proofs.Index.Matching
import Gazetteer.Proofs.Query.Slots
import Gazetteer.Query.Strategy
import Mathlib.Data.List.Infix

/-!
# The shape of what is read

Not every filling of the five slots is read from a query. Where there is a street type or a suburb
there is a name (`Tail.named`), since a word with nothing before it is itself the name. So of the
thirty-two rows of the strategy table a query gets to twenty, among them none for a type or a suburb
alone, and to the composite strategy only with a name that is a word of the lexicon
(`wellShaped_interpret`). Clauses ask for what is filled and for nothing else
(`Strategy.map_value_clauses`), and so a plan asks for every address exactly if nothing is read at
all.
-/

namespace Gazetteer

open Text

/-! ## Slots -/

namespace Slots

section

variable {rest name streetType suburb : List Char} {found : Option String}

/-- **Where there is a type or a suburb there is a name.** Each of the five ways in which a rest is
read has one before it. -/
theorem Tail.named (h : Tail rest found name streetType suburb)
    (hfound : ∀ word, found = some word → word.toList ≠ [])
    (hmore : streetType ≠ [] ∨ suburb ≠ []) : name ≠ [] := by
  cases h with
  | whole => exact absurd rfl (hmore.elim id id)
  | leading _ _ => exact hfound _ rfl
  | typed _ hblank => exact mt trimChars_eq_nil_iff.mp hblank
  | strayName _ _ => exact hfound _ rfl
  | strayType _ hblank => exact mt trimChars_eq_nil_iff.mp hblank

/-- **A name with a suburb and no type is the word found.** A rest without a word has no suburb, and
a word with something before it is the type. -/
theorem Tail.name_eq_word (h : Tail rest found name streetType suburb)
    (hfound : ∀ word, found = some word → word.toList ≠ []) (htype : streetType = [])
    (hsuburb : suburb ≠ []) :
    ∃ word, found = some word ∧ name = word.toList := by
  cases h with
  | whole => exact absurd rfl hsuburb
  | leading _ _ => exact ⟨_, rfl, rfl⟩
  | typed _ _ => exact absurd htype (hfound _ rfl)
  | strayName _ _ => exact absurd rfl hsuburb
  | strayType _ _ => exact absurd rfl hsuburb

/-- Nothing is read from a rest exactly if it is blank and no word is found. -/
theorem Tail.name_eq_nil_iff (h : Tail rest found name streetType suburb)
    (hfound : ∀ word, found = some word → word.toList ≠ []) :
    name = [] ↔ found = none ∧ Blanks rest := by
  cases h with
  | whole => rw [trimChars_eq_nil_iff, and_iff_right rfl]
  | leading _ _ => exact iff_of_false (hfound _ rfl) nofun
  | typed _ hblank => exact iff_of_false (mt trimChars_eq_nil_iff.mp hblank) nofun
  | strayName _ _ => exact iff_of_false (hfound _ rfl) nofun
  | strayType _ hblank => exact iff_of_false (mt trimChars_eq_nil_iff.mp hblank) nofun

end

/-- A query that is its numbers, without any digits, is empty or a slash. -/
theorem reading_of_texts_empty {words : List String} {raw : String}
    (h : ∀ text ∈ (ofText (Lexicon.ofWords words) raw).texts, text = "") :
    (reading raw).toList = [] ∨ (reading raw).toList = ['/'] := by
  obtain ⟨d, hd⟩ := Division.exists_divides (reading raw).toList
  simp only [texts, List.forall_mem_cons] at h
  obtain ⟨hflat, hnumber, hname, -⟩ := h
  have hfound : ∀ word, (Lexicon.ofWords words).find? (reading raw) = some word →
      word.toList ≠ [] :=
    fun word hword => (find?_spec hword).2.1.ne_nil
  have hblank : Blanks (d.gap ++ d.rest) := by
    have htail := (tail_ofText words hd).name_eq_nil_iff hfound
    rw [hname] at htail
    exact List.forall_mem_append.mpr ⟨hd.blanks_gap, (htail.mp rfl).2⟩
  have hquery := hd.numbers_append
  have htrimmed := (settled_lowercase_trim raw).1
  rw [show lowercase (trim raw) = reading raw from rfl, hquery] at htrimmed
  rw [htrimmed.eq_nil_of_append hblank, List.append_nil, Division.numbers] at hquery
  have hdigits := numbers_ofText (Lexicon.ofWords words) hd
  rw [hflat, hnumber] at hdigits
  rcases hd.separator_cases with hnone | hslash
  · rw [if_pos hnone] at hdigits
    rw [← hdigits.2, hnone, hd.trail_eq_nil hnone] at hquery
    exact Or.inl hquery
  · rw [if_neg (by rw [hslash]; exact List.cons_ne_nil _ _)] at hdigits
    rw [← hdigits.1, ← hdigits.2, hslash] at hquery
    exact Or.inr hquery

theorem find?_slash {words : List String} (hslash : "/" ∉ (Lexicon.ofWords words).words)
    {query : String} (h : query.toList = [] ∨ query.toList = ['/']) :
    (Lexicon.ofWords words).find? query = none := by
  rw [Lexicon.find?_eq_none_iff (Lexicon.longestFirst_ofWords words)]
  intro word hword hwithin
  have hne := (Lexicon.isNormal_of_mem_ofWords hword).ne_nil
  rcases h with hnil | hone
  · rw [hnil] at hwithin
    exact hne (List.infix_nil.mp hwithin)
  · rw [hone, List.infix_singleton_iff, or_iff_right hne] at hwithin
    rw [show word = "/" from String.toList_inj.mp hwithin] at hword
    exact hslash hword

/-- **Nothing is read from a query exactly if it is blank or a slash**, where the slash is no
word. -/
theorem texts_empty_iff {words : List String} (hslash : "/" ∉ (Lexicon.ofWords words).words)
    (raw : String) :
    (∀ text ∈ (ofText (Lexicon.ofWords words) raw).texts, text = "") ↔
      (reading raw).toList = [] ∨ (reading raw).toList = ['/'] := by
  refine ⟨reading_of_texts_empty, fun hreading => ?_⟩
  obtain ⟨d, hd⟩ := Division.exists_divides (reading raw).toList
  have htail := tail_ofText words hd
  rw [find?_slash hslash hreading] at htail
  obtain ⟨hname, htype, hsuburb⟩ := htail.of_none
  have hnumbers := numbers_ofText (Lexicon.ofWords words) hd
  -- A slash is divided as nothing at all is, but for the separator, and that is in no slot.
  have hparts : d.lead = [] ∧ d.trail = [] ∧ d.rest = [] := by
    rw [Division.divides_iff.mp hd]
    rcases hreading with hnil | hone
    · rw [hnil]
      decide
    · rw [hone]
      decide
  rw [hparts.1, hparts.2.1, ite_self] at hnumbers
  rw [hparts.2.2] at hname
  intro text htext
  apply String.toList_inj.mp
  simp only [texts, List.mem_cons, List.not_mem_nil, or_false] at htext
  rcases htext with rfl | rfl | rfl | rfl | rfl
  · exact hnumbers.1
  · exact hnumbers.2
  · exact hname
  · exact htype
  · exact hsuburb

/-- What is read is empty exactly if nothing but blanks was typed. -/
theorem toList_reading_eq_nil_iff (raw : String) : (reading raw).toList = [] ↔ trim raw = "" := by
  rw [reading, lowercase, String.toList_ofList, ← String.toList_inj]
  constructor
  · intro h
    by_cases hne : (trim raw).toList = []
    · exact hne
    · exact absurd h (lowerFrom_ne_nil hne false)
  · intro h
    rw [h]
    rfl

theorem toList_reading_eq_slash_iff (raw : String) :
    (reading raw).toList = ['/'] ↔ trim raw = "/" := by
  rw [reading, lowercase, String.toList_ofList, lowerFrom_eq_slash_iff, ← String.toList_inj]
  exact Iff.rfl

end Slots

/-! ## Strategies -/

namespace Strategy

/-- The strategies for slots with a name beside any type and suburb. -/
theorem select_of_named {p : Presence} (h : p.streetType = true ∨ p.suburb = true → p.name = true) :
    select p ≠ .streetType ∧ select p ≠ .suburb ∧
      (select p = .composite ↔ p.name = true ∧ p.suburb = true ∧ p.streetType = false) := by
  obtain ⟨flat, number, name, streetType, suburb⟩ := p
  revert h
  revert flat number name streetType suburb
  decide

/-- **Clauses ask for what is filled**, once each and in the order of the slots, whichever strategy
is chosen. -/
theorem map_value_clauses (s : Slots) :
    ((select s.presence).clauses s).map Clause.value = s.texts.filter (· != "") := by
  rcases hpresence : s.presence with ⟨flat, number, name, streetType, suburb⟩
  obtain ⟨hflat, hnumber, hname, htype, hsuburb⟩ := Presence.mk.inj hpresence
  simp only [Slots.texts, List.filter_cons, hflat, hnumber, hname, htype, hsuburb]
  cases flat <;> cases number <;> cases name <;> cases streetType <;> cases suburb <;>
    simp [select, clauses, filledClauses, hpresence, flatClause, numberClause,
      strongNumberClause, nameClause, nearNameClause, typeClause, suburbClause, Clause.leading,
      Clause.near, Clause.boosted]

end Strategy

/-- **With a name beside any type and suburb** there is no strategy for a type or a suburb alone,
and the composite one is for a name and a suburb without a type. -/
theorem Slots.strategy_of_named {s : Slots} (h : s.streetType ≠ "" ∨ s.suburb ≠ "" → s.name ≠ "") :
    s.planned.strategy ≠ .streetType ∧ s.planned.strategy ≠ .suburb ∧
      (s.planned.strategy = .composite ↔ s.name ≠ "" ∧ s.suburb ≠ "" ∧ s.streetType = "") := by
  have hselect := @Strategy.select_of_named s.presence
  simp only [presence, bne_iff_ne, bne_eq_false_iff_eq] at hselect
  exact hselect h

/-- The values that a plan asks for are the texts of the slots that are filled. -/
theorem Slots.map_value_planned (s : Slots) :
    s.planned.plan.clauses.map Clause.value = s.texts.filter (· != "") := by
  rw [planned, Strategy.plan, clauses_ofClauses, Strategy.map_value_clauses]

/-- The values of a plan are texts of the slots, and none is empty. -/
theorem Slots.value_of_mem_planned {s : Slots} {clause : Clause}
    (h : clause ∈ s.planned.plan.clauses) :
    clause.value ∈ s.texts ∧ clause.value ≠ "" := by
  have hvalue := List.mem_map_of_mem (f := Clause.value) h
  rw [map_value_planned, List.mem_filter] at hvalue
  exact ⟨hvalue.1, bne_iff_ne.mp hvalue.2⟩

/-- A plan asks for every address exactly if no slot is filled. -/
theorem Slots.planned_eq_everything_iff (s : Slots) :
    s.planned.plan = .everything ↔ ∀ text ∈ s.texts, text = "" := by
  rw [planned, Strategy.plan, ofClauses_eq_everything_iff,
    ← List.map_eq_nil_iff (f := Clause.value), Strategy.map_value_clauses, List.filter_eq_nil_iff]
  simp only [bne_iff_ne, ne_eq, not_not]

/-! ## Queries -/

/-- **The shape of what is read from a query.** -/
structure WellShaped (lexicon : Lexicon) (i : Interpretation) : Prop where
  /-- A street type or a suburb comes with a name. -/
  named : i.slots.streetType ≠ "" ∨ i.slots.suburb ≠ "" → i.slots.name ≠ ""
  strategy_ne_streetType : i.planned.strategy ≠ .streetType
  strategy_ne_suburb : i.planned.strategy ≠ .suburb
  composite_iff : i.planned.strategy = .composite ↔
    i.slots.name ≠ "" ∧ i.slots.suburb ≠ "" ∧ i.slots.streetType = ""
  /-- A street type that is alone before the suburb is taken for the name. -/
  composite_name : i.planned.strategy = .composite → i.slots.name ∈ lexicon.words
  digits : ∀ text ∈ [i.slots.flat, i.slots.number], ∀ c ∈ text.toList, isDecimalDigit c = true
  value_ne_empty : ∀ clause ∈ i.planned.plan.clauses, clause.value ≠ ""
  /-- The slash is the one character of a query that is in no slot. -/
  everything_iff : "/" ∉ lexicon.words →
    (i.planned.plan = .everything ↔ trim i.raw = "" ∨ trim i.raw = "/")

/-- **Only well-shaped slots reach the planner**, whatever words a lexicon is made of and whatever
is typed.

The shape is read off the ways in which a rest fills the slots (`Tail`), of which each has a name
beside any type and suburb. So two of the strategies are never chosen, although the planner has
them. -/
theorem wellShaped_interpret (words : List String) (raw : String) :
    WellShaped (.ofWords words) (interpret (.ofWords words) raw) := by
  obtain ⟨d, hd⟩ := Division.exists_divides (Slots.reading raw).toList
  have htail := Slots.tail_ofText words hd
  have hfound : ∀ word, (Lexicon.ofWords words).find? (Slots.reading raw) = some word →
      word.toList ≠ [] :=
    fun word hword => (Slots.find?_spec hword).2.1.ne_nil
  have hnamed := htail.named hfound
  have hword := htail.name_eq_word hfound
  have hdigits := Slots.digits_ofText (.ofWords words) hd
  simp only [ne_eq, String.toList_eq_nil_iff] at hnamed hword
  obtain ⟨hstreetType, hsuburb, hcomposite⟩ := Slots.strategy_of_named hnamed
  exact {
    named := hnamed
    strategy_ne_streetType := hstreetType
    strategy_ne_suburb := hsuburb
    composite_iff := hcomposite
    composite_name := by
      intro h
      obtain ⟨-, hfilled, hnone⟩ := hcomposite.mp h
      obtain ⟨word, hmem, hname⟩ := hword hnone hfilled
      rw [show (interpret (.ofWords words) raw).slots.name = word from String.toList_inj.mp hname]
      exact (Slots.find?_spec hmem).1
    digits := fun text htext => (hdigits text htext).1
    value_ne_empty := fun clause hclause => (Slots.value_of_mem_planned hclause).2
    everything_iff := by
      intro hslash
      rw [interpret, Slots.planned_eq_everything_iff, Slots.texts_empty_iff hslash,
        Slots.toList_reading_eq_nil_iff, Slots.toList_reading_eq_slash_iff] }

/-- A street type with nothing before it is the name, and what follows is the suburb. -/
example : (interpret ⟨["street"]⟩ "street main beach").planned.strategy = .composite := by
  decide

end Gazetteer
