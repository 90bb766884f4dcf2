import Gazetteer.Proofs.Index.Document
import Gazetteer.Proofs.Index.Pattern

/-!
# Completions of a text

What a completion answers is one list (`completions`) or a refusal, and the length of the text says
which (`suggest_eq`): its pattern can always be read, and the collector is asked only where there is
room. The hits are the completions of documents of the index, and a result long enough for the whole
index has **every** address whose line begins with the text (`mem_completions_of_prefix`): the
window is then the whole index, and neither cut takes anything away.
-/

namespace Gazetteer.AddressIndex

open Index (CompletionQuery Document)

/-- The completions of a text, where it is not refused. -/
def completions (index : AddressIndex) (text : String) (limit : Nat) : List Hit :=
  ((((index.asked (.forStart (normalLine text))).take (index.window limit)).map
    completionHit).mergeSort
    fun a b => (compareCompletions a b).isLE).take limit

variable {index : AddressIndex} {text : String} {limit : Nat}

/-- The query for a text is refused for the length of the text, and for nothing else: its pattern
can always be read. -/
theorem completionQuery_eq (start : String) :
    completionQuery start =
      if longestCompletion ≤ start.utf8ByteSize then .error .completionTooLong
        else .ok (.forStart start) := by
  rw [completionQuery, CompletionQuery.of?_eq_some]

/-- **What a completion answers**: the completions of its text, or that this is too long. It is too
long only where something could be returned, since the text is not looked at where nothing can. -/
theorem suggest_eq (index : AddressIndex) (text : String) (limit : Nat) :
    index.suggest text limit =
      if limit = 0 ∨ index.window limit = 0 ∨
          (normalLine text).utf8ByteSize < longestCompletion then
        .ok (index.completions text limit)
      else .error .completionTooLong := by
  rw [suggest]
  split
  next hzero => rw [if_pos (Or.inl hzero), completions, hzero, List.take_zero]
  next hlimit =>
    split
    next hroom =>
      have hwindow := room?_eq_none_iff.mp hroom
      rw [if_pos (Or.inr (Or.inl hwindow)), completions, hwindow, List.take_zero, List.map_nil,
        List.mergeSort_nil, List.take_nil]
    next hroom =>
      obtain ⟨rfl, hwindow⟩ := room?_eq_some hroom
      rw [completionQuery_eq]
      by_cases hlong : longestCompletion ≤ (normalLine text).utf8ByteSize
      · rw [if_pos hlong, if_neg (by simp [hlimit, hwindow, hlong])]
        rfl
      · rw [if_neg hlong, if_pos (Or.inr (Or.inr (Nat.not_le.mp hlong)))]
        change (collect (index.window limit) (index.asked (.forStart (normalLine text))) >>= _) = _
        rw [collect_of_room? hroom]
        rfl

/-- **A completion that is not refused has one answer.** Whoever is given one may reason about
`completions`, and need not ask again why it was not refused. -/
theorem eq_completions_of_suggest_eq_ok {hits : List Hit}
    (h : index.suggest text limit = .ok hits) :
    hits = index.completions text limit := by
  rw [suggest_eq] at h
  split at h
  · exact (Except.ok.inj h).symm
  · cases h

/-- **Only a long text is refused**, and only where something could be returned. Whatever else is in
a text, its pattern can be read. -/
theorem suggest_eq_ok_iff :
    index.suggest text limit = .ok (index.completions text limit) ↔
      limit = 0 ∨ index.window limit = 0 ∨ (normalLine text).utf8ByteSize < longestCompletion := by
  rw [suggest_eq]
  split
  next h => exact iff_of_true rfl h
  next h => exact iff_of_false (fun hanswer => by cases hanswer) h

/-- A short text is not refused. This is the condition under which results are told from completions
below. -/
theorem suggest_of_short (h : (normalLine text).utf8ByteSize < longestCompletion) :
    index.suggest text limit = .ok (index.completions text limit) :=
  suggest_eq_ok_iff.mpr (Or.inr (Or.inr h))

/-- Completions complete documents of the index whose line begins with the text. Nothing is said
here of which are left out. -/
theorem mem_completions {hit : Hit} (h : hit ∈ index.completions text limit) :
    ∃ d ∈ index.documents, (normalLine text).toList <+: d.completion.toList ∧
      completionHit d = hit := by
  have hsorted := List.mem_mergeSort.mp (List.mem_of_mem_take h)
  obtain ⟨d, hd, rfl⟩ := List.mem_map.mp hsorted
  obtain ⟨hmem, haccepts⟩ := List.mem_filter.mp (List.mem_of_mem_take hd)
  exact ⟨d, hmem, CompletionQuery.prefix_of_accepts haccepts, rfl⟩

/-- The window of a result that may hold the whole index is the whole index, so that nothing is cut
off before sorting. -/
theorem window_eq_size (h : index.size ≤ limit) : index.window limit = index.size :=
  Nat.min_eq_right (Nat.le_trans h (Nat.le_max_left _ _))

/-- **A result long enough for the whole index misses no completion.** It has no more matches than
documents, so neither the window nor the limit cuts any of them off. -/
theorem mem_completions_of_prefix {a : Address} (ha : Document.ofAddress a ∈ index.documents)
    (hstart : (normalLine text).toList <+: (normalLine a.oneLine).toList)
    (hlimit : index.size ≤ limit) :
    completionHit (.ofAddress a) ∈ index.completions text limit := by
  have hasked : Document.ofAddress a ∈ index.asked (.forStart (normalLine text)) :=
    List.mem_filter.mpr ⟨ha, CompletionQuery.accepts_ofAddress_iff.mpr hstart⟩
  have hlength : (index.asked (.forStart (normalLine text))).length ≤ index.size :=
    List.length_filter_le _ _
  rw [completions, window_eq_size hlimit, List.take_of_length_le hlength, List.take_of_length_le]
  · exact List.mem_mergeSort.mpr (List.mem_map_of_mem hasked)
  · rw [List.length_mergeSort, List.length_map]
    exact Nat.le_trans hlength hlimit

end Gazetteer.AddressIndex
