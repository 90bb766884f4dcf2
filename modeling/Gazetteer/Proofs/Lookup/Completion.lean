import Gazetteer.Proofs.Index.Completion
import Gazetteer.Proofs.Index.InsertionOrder
import Gazetteer.Proofs.Index.Pattern
import Gazetteer.Proofs.Lookup.OverIndex

/-!
# What a text is completed to

A completion goes from the addresses to documents, from the documents that the pattern of the text
selects to a window of hits, and from these to a result in the order of the lines. Said of the
addresses themselves, **the result is the beginning of a stable sort of the first addresses whose
line begins with the text** (`suggest_first_completions`), and the service passes it on as it is,
though it makes the text normal once more.
-/

namespace Gazetteer

open Index Text

/-! ## Addresses as completions -/

/-- The completion of an address: its own line, and its id unless that is empty. -/
def Address.completion (a : Address) : Hit where
  id := if a.id = "" then none else some a.id
  address := a.oneLine
  record := none
  score := 1
  origin := .suggest

/-- The order of addresses by line in lowercase, then by id. -/
def Address.compareLines (a b : Address) : Ordering :=
  (compareText (lowercase a.oneLine) (lowercase b.oneLine)).then (compareText a.id b.id)

/-- The addresses whose line begins with a text, both in normal form, in the order of the list. -/
def completedBy (addresses : List Address) (text : String) : List Address :=
  addresses.filter fun a => (normalLine text).toList.isPrefixOf (normalLine a.oneLine).toList

instance : Std.TransCmp Address.compareLines :=
  have : Std.TransCmp fun a b : Address =>
      compareText (lowercase a.oneLine) (lowercase b.oneLine) :=
    transCmp_on compareText fun a : Address => lowercase a.oneLine
  have : Std.TransCmp fun a b : Address => compareText a.id b.id :=
    transCmp_on compareText Address.id
  inferInstanceAs (Std.TransCmp (compareLex _ _))

theorem Text.compareText_empty {text : String} (h : text ≠ "") : compareText "" text = .lt := by
  obtain ⟨c, cs, hcs⟩ := List.exists_cons_of_ne_nil (mt String.toList_eq_nil_iff.mp h)
  rw [compareText, hcs]
  rfl

namespace AddressIndex

/-- The completion of a document is that of its address: the id and the line that it is made from
are stored as they are. -/
theorem completionHit_ofAddress (a : Address) :
    completionHit (Document.ofAddress a) = a.completion := by
  rw [completionHit, Document.text_ofAddress, Document.text_ofAddress]
  by_cases hid : a.id = ""
  · simp [Hit.suggestion, Address.completion, Document.textAt, Option.filter, hid]
  · simp [Hit.suggestion, Address.completion, Document.textAt, Option.filter, hid]

/-- An id that is missing stands where an empty one would, before all others. So hits can be
compared by the ids of their addresses. -/
theorem compareIds_completion (a b : Address) :
    compareIds a.completion.id b.completion.id = compareText a.id b.id := by
  simp only [Address.completion]
  by_cases ha : a.id = "" <;> by_cases hb : b.id = ""
  · rw [if_pos ha, if_pos hb, ha, hb]
    rfl
  · rw [if_pos ha, if_neg hb, ha, compareText_empty hb]
    rfl
  · rw [if_neg ha, if_pos hb, hb, @Std.OrientedCmp.eq_swap _ compareText, compareText_empty ha]
    rfl
  · rw [if_neg ha, if_neg hb]
    rfl

/-- Completions are ordered as their addresses are. -/
theorem compareCompletions_completion (a b : Address) :
    compareCompletions a.completion b.completion = a.compareLines b := by
  rw [compareCompletions, compareIds_completion]
  rfl

/-- The documents that the query for a text asks for are those of the addresses that begin with
it. -/
theorem asked_holding (addresses : List Address) (sortWindow : Nat) (text : String) :
    (holding addresses sortWindow).asked (.forStart (normalLine text)) =
      (completedBy addresses text).map Document.ofAddress := by
  refine List.filter_map.trans (congrArg _ (List.filter_congr fun a _ => ?_))
  rw [Bool.eq_iff_iff, List.isPrefixOf_iff_prefix]
  exact CompletionQuery.accepts_ofAddress_iff

/-- No more is cut off for the size of the index: a list of its documents is no longer than that. -/
theorem take_window (index : AddressIndex) (query : CompletionQuery) (limit : Nat) :
    (index.asked query).take (index.window limit) =
      (index.asked query).take (max limit index.sortWindow) := by
  have hlength : (index.asked query).length ≤ index.size := List.length_filter_le _ _
  rw [List.take_eq_take_iff, window]
  omega

/-- Sorting completions is sorting addresses, ties included, because both orders tie the same. -/
theorem mergeSort_map_completion (addresses : List Address) :
    (addresses.map Address.completion).mergeSort (fun a b => (compareCompletions a b).isLE) =
      (addresses.mergeSort fun a b => (a.compareLines b).isLE).map Address.completion := by
  refine (List.map_mergeSort ?_).symm
  intro a _ b _
  rw [compareCompletions_completion]

/-- **The completions of a text, by addresses.** Selection, both cuts and the sort are passed
through the map from addresses to documents and on to hits. -/
theorem completions_holding (addresses : List Address) (sortWindow limit : Nat) (text : String) :
    (holding addresses sortWindow).completions text limit =
      ((((completedBy addresses text).take (max limit sortWindow)).mergeSort
        fun a b => (a.compareLines b).isLE).take limit).map Address.completion := by
  have hhit : completionHit ∘ Document.ofAddress = Address.completion :=
    funext completionHit_ofAddress
  rw [completions, take_window, asked_holding, ← List.map_take, List.map_map, hhit,
    mergeSort_map_completion, ← List.map_take]
  rfl

/-- A text and its normal form are completed alike. A service makes what it is given normal, and the
index does so again. -/
theorem suggest_normalLine (index : AddressIndex) (text : String) (limit : Nat) :
    index.suggest (normalLine text) limit = index.suggest text limit := by
  rw [suggest, suggest, normalLine_normalLine]

/-- **A text is completed to the first addresses whose line begins with it**, in the order of their
lines. The addresses whose normal line begins with the normal text, whatever characters that has,
are cut to the window as they stand in the index and then sorted, and as many as were asked for come
back. The pattern of the text can be read and selects just these addresses, and the service returns
what the index does.

The bound on the length keeps the pattern of the text among those that are not refused. The cut
comes before the sort: where more addresses begin with the text than the window holds, those added
later are not looked at, and the result is the first of the window only. -/
theorem suggest_first_completions (addresses : List Address) (sortWindow limit : Nat)
    (text : String) (hshort : (normalLine text).utf8ByteSize ≤ 600) :
    (∃ query, CompletionQuery.of? (normalLine text) = some query ∧
      (holding addresses sortWindow).documents.filter query.accepts =
        (completedBy addresses text).map Document.ofAddress) ∧
    ∃ sorted, StableSort (fun a b => (a.compareLines b).isLE)
        ((completedBy addresses text).take (max limit sortWindow)) sorted ∧
      (holding addresses sortWindow).suggest text limit =
        .ok ((sorted.take limit).map Address.completion) ∧
      ∀ lexicon settings,
        (((holding addresses sortWindow).service lexicon settings).suggest text
          (some limit)).result =
          .ok ((sorted.take limit).map Address.completion) := by
  have hanswer : (holding addresses sortWindow).suggest text limit =
      .ok ((holding addresses sortWindow).completions text limit) :=
    suggest_of_short (Nat.lt_of_le_of_lt hshort (by decide))
  rw [completions_holding] at hanswer
  refine ⟨⟨_, CompletionQuery.of?_eq_some _, asked_holding addresses sortWindow text⟩, _,
    ?_, hanswer, ?_⟩
  · exact stableSort_mergeSort (fun _ _ _ => Std.TransCmp.isLE_trans) isLE_total _
  · intro lexicon settings
    rw [LookupService.result_suggest_eq_ok_iff, suggest_normalLine,
      LookupService.suggestSizeOr_some]
    exact hanswer

/-- Streets of two letters with a sign between them, one without an id, and a street whose letters a
plus sign would repeat. -/
def lettered : List Address :=
  [{ id := "A", numberFirst := "1", streetName := "A+B ST" },
    { id := "", numberFirst := "1", streetName := "A+A ST" },
    { id := "C", numberFirst := "1", streetName := "AAB ST" }]

/-- The plus sign stands for itself, and the later of two addresses comes first and without an
id. -/
theorem suggest_first_completions_lettered :
    (normalLine " 1  A+").utf8ByteSize ≤ 600 ∧
      completedBy lettered " 1  A+" = lettered.take 2 ∧
      (holding lettered 2).suggest " 1  A+" 1 = .ok [⟨none, "1 A+A ST", none, 1, .suggest⟩] ∧
      (((holding lettered 2).service .standard .standard).suggest " 1  A+" (some 1)).result =
        .ok [⟨none, "1 A+A ST", none, 1, .suggest⟩] := by
  have hshort : (normalLine " 1  A+").utf8ByteSize ≤ 600 := by decide
  have hcompleted : completedBy lettered " 1  A+" = lettered.take 2 := rfl
  obtain ⟨-, sorted, hsorted, hindex, hservice⟩ :=
    suggest_first_completions lettered 2 1 " 1  A+" hshort
  have hswap : ∀ a b : Address, (a.compareLines b).isLE = false →
      [a, b].mergeSort (fun a b => (a.compareLines b).isLE) = [b, a] := by
    intro a b h
    simp [List.mergeSort, h]
  have hafter : (lettered[0].compareLines lettered[1]).isLE = false := by decide
  have hpair : sorted = [lettered[1], lettered[0]] := by
    rw [(stableSort_iff (fun _ _ _ => Std.TransCmp.isLE_trans) isLE_total).mp hsorted, hcompleted]
    exact hswap _ _ hafter
  have hfirst : (sorted.take 1).map Address.completion =
      [⟨none, "1 A+A ST", none, 1, .suggest⟩] := by
    rw [hpair]
    rfl
  rw [hfirst] at hindex
  exact ⟨hshort, hcompleted, hindex, hfirst ▸ hservice .standard .standard⟩

end AddressIndex

end Gazetteer
