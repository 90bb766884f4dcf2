import Gazetteer.Proofs.Lookup.MergedOrder

/-!
# Shorter results are beginnings of longer ones

A lookup for fewer hits asks each path for fewer, and still **nothing is lost by it**: where the
window stays the same, both paths of an index return beginnings of the same two lists, and the row
of the two beginnings begins the row of the two lists (`take_row_take`). The completions that a
short list of structured hits leaves to be shown are enough, because it hides no more of them than
it is long.
-/

namespace Gazetteer

open Index

/-! ## Rows of beginnings -/

namespace Hit

/-- Hits, and what other hits add to them. -/
def row (structured suggested : List Hit) : List Hit :=
  structured ++ suggested.filter fun hit => hit.identity ∉ identities structured

/-- **A list hides no more hits than it is long**, if each of the others has an identity of its
own. -/
theorem length_le_length_filter_add {suggested : List Hit} (h : (identities suggested).Nodup)
    (structured : List Hit) :
    suggested.length ≤
      (suggested.filter fun hit => hit.identity ∉ identities structured).length +
        structured.length := by
  have hhidden : (suggested.filter fun hit => hit.identity ∈ identities structured).length ≤
      structured.length := by
    have hsubset : identities (suggested.filter fun hit => hit.identity ∈ identities structured) ⊆
        identities structured := by
      intro i hi
      obtain ⟨hit, hhit, rfl⟩ := List.mem_map.mp hi
      simpa using (List.mem_filter.mp hhit).2
    have hnodup : (identities (suggested.filter fun hit =>
        hit.identity ∈ identities structured)).Nodup :=
      h.sublist (List.filter_sublist.map identity)
    have hlength := hnodup.length_le_of_subset hsubset
    rwa [identities, identities, List.length_map, List.length_map] at hlength
  have hsplit : suggested.length =
      (suggested.filter fun hit => hit.identity ∈ identities structured).length +
        (suggested.filter fun hit => hit.identity ∉ identities structured).length := by
    rw [← List.countP_eq_length_filter, ← List.countP_eq_length_filter]
    simpa using List.length_eq_countP_add_countP
      fun hit : Hit => decide (hit.identity ∈ identities structured)
  omega

/-- **A row of beginnings begins the row.** What is missing at the end of the completions would
stand behind at least as many hits as were asked for. -/
theorem take_row_take {suggested : List Hit} (h : (identities suggested).Nodup)
    (structured : List Hit) (k : Nat) :
    (row (structured.take k) (suggested.take k)).take k = (row structured suggested).take k := by
  by_cases hlong : k ≤ structured.length
  · have hbeginning : k ≤ (structured.take k).length := by
      rw [List.length_take]
      omega
    rw [row, row, List.take_append_of_le_length hbeginning, List.take_append_of_le_length hlong,
      List.take_take, Nat.min_self]
  · rw [List.take_of_length_le (by omega : structured.length ≤ k), row, row, List.take_append,
      List.take_append]
    congr 1
    rw [← List.take_append_drop k suggested, List.filter_append, List.take_append_drop]
    by_cases hmore : k ≤ suggested.length
    · have hshown :=
        length_le_length_filter_add (h.sublist ((List.take_sublist k suggested).map identity))
        structured
      rw [List.length_take, Nat.min_eq_left hmore] at hshown
      rw [List.take_append_of_le_length (by omega)]
    · rw [List.drop_of_length_le (by omega), List.filter_nil, List.append_nil]

end Hit

/-! ## Beginnings of both paths -/

namespace AddressIndex

variable {index : AddressIndex} {k K : Nat}

/-- A limit for which the window has its standard size. -/
def Windowed (index : AddressIndex) (limit : Nat) : Prop :=
  limit ≤ index.sortWindow ∨ index.size ≤ index.sortWindow

/-- A smaller limit leaves the window at its standard size too. -/
theorem Windowed.le (h : index.Windowed K) (hk : k ≤ K) : index.Windowed k :=
  h.imp_left (Nat.le_trans hk)

/-- The window is then the same for every limit, as the limit would only count if it were
greater. -/
theorem Windowed.candidates_eq {limit : Nat} (h : index.Windowed limit) (plan : Plan) :
    index.candidates plan limit =
      ((index.findings plan).mergeSort Finding.scoresBefore).take index.sortWindow := by
  have hfindings : (index.findings plan).length ≤ index.size := length_findings_le
  rw [candidates, List.take_eq_take_iff, List.length_mergeSort]
  rcases h with h | h <;> omega

theorem Windowed.window_eq {limit : Nat} (h : index.Windowed limit) :
    index.window limit = min index.sortWindow index.size := by
  rw [window]
  rcases h with h | h <;> omega

/-- **Fewer structured hits are the first of more.** They are cut from one ranked list, if the
window is the same. -/
theorem structuredHits_take (h : index.Windowed K) (hk : k ≤ K) (lexicon : Lexicon)
    (query : String) :
    index.structuredHits lexicon query k = (index.structuredHits lexicon query K).take k := by
  simp only [structuredHits, search_eq, ranked, h.candidates_eq, (h.le hk).candidates_eq,
    List.map_take, List.take_take, Nat.min_eq_left hk]

/-- **Fewer completions are the first of more**, for the same reason. -/
theorem completions_take (h : index.Windowed K) (hk : k ≤ K) (text : String) :
    index.completions text k = (index.completions text K).take k := by
  rw [completions, completions, h.window_eq, (h.le hk).window_eq, List.take_take,
    Nat.min_eq_left hk]

/-- A text that is completed is so for any smaller limit. A limit for which it is refused leaves
room for something, and so does every greater one. -/
theorem suggest_take {text : String} {hits : List Hit} (h : index.suggest text K = .ok hits)
    (hwindow : index.Windowed K) (hk : k ≤ K) : index.suggest text k = .ok (hits.take k) := by
  obtain rfl := eq_completions_of_suggest_eq_ok h
  rw [← completions_take hwindow hk]
  refine suggest_eq_ok_iff.mpr ?_
  rcases suggest_eq_ok_iff.mp h with hzero | hempty | hshort
  · exact Or.inl (Nat.le_zero.mp (hzero ▸ hk))
  · exact Or.inr (Or.inl (by rwa [(hwindow.le hk).window_eq, ← hwindow.window_eq]))
  · exact Or.inr (Or.inr hshort)

/-! ## Distinct identities -/

/-- **Hits of different documents have different identities**, on either path. -/
structure Distinct (index : AddressIndex) : Prop where
  records : (index.documents.map fun d => d.address.identity).Nodup
  completions : (index.documents.map fun d => (completionHit d).identity).Nodup

/-- An index of addresses is distinct if the addresses have identities of their own, since both hits
of a document have the identity of its address. -/
theorem distinct_holding {addresses : List Address} (h : (addresses.map Address.identity).Nodup)
    (sortWindow : Nat) : (holding addresses sortWindow).Distinct where
  records := by
    have hidentity : (fun d : Document => d.address.identity) ∘ Document.ofAddress =
        Address.identity := by
      funext a
      exact congrArg Address.identity (Document.address_ofAddress a)
    simpa only [holding, withSortWindow, ofAddresses, List.map_map, hidentity] using h
  completions := by
    have hidentity : (fun d => (completionHit d).identity) ∘ Document.ofAddress =
        Address.identity := by
      funext a
      exact identity_completionHit a
    simpa only [holding, withSortWindow, ofAddresses, List.map_map, hidentity] using h

namespace Distinct

/-- No two findings have one identity, as they are findings of different documents. -/
theorem pairwise_findings (h : index.Distinct) (plan : Plan) :
    (index.findings plan).Pairwise fun a b => a.address.identity ≠ b.address.identity := by
  have hplaced : ∀ f ∈ index.findings plan,
      (index.documents.map fun d => d.address.identity)[f.place]? = some f.address.identity := by
    intro f hf
    obtain ⟨d, hd, -, -, haddress⟩ := mem_findings.mp hf
    rw [List.getElem?_map, hd, Option.map_some, haddress]
  refine pairwise_place_findings.imp_of_mem fun {a b} ha hb hplace hidentity => ?_
  have hsame : (index.documents.map fun d => d.address.identity)[a.place]? =
      (index.documents.map fun d => d.address.identity)[b.place]? := by
    rw [hplaced a ha, hplaced b hb, hidentity]
  have hbound := (List.getElem?_eq_some_iff.mp (hplaced a ha)).1
  exact Nat.ne_of_lt hplace ((List.getElem?_inj hbound h.records).mp hsame)

/-- Structured hits have identities of their own, whatever the query, since each comes from a
finding. -/
theorem nodup_structuredHits (h : index.Distinct) (lexicon : Lexicon) (query : String)
    (limit : Nat) :
    (Hit.identities (index.structuredHits lexicon query limit)).Nodup := by
  simp only [structuredHits, search_eq, Hit.identities, List.map_map]
  generalize (interpret lexicon query).planned.sort = sort
  generalize (interpret lexicon query).planned.plan = plan
  have hidentity : Hit.identity ∘ Finding.hit = fun f => f.address.identity := by
    funext f
    exact Hit.identity_structured f.address f.score
  have hfound : ((index.findings plan).map (Hit.identity ∘ Finding.hit)).Nodup := by
    rw [hidentity]
    exact List.pairwise_map.mpr (h.pairwise_findings plan)
  have hcandidates : ((index.candidates plan limit).map (Hit.identity ∘ Finding.hit)).Nodup :=
    (((List.mergeSort_perm _ _).map _).nodup_iff.mpr hfound).sublist ((List.take_sublist _ _).map _)
  exact (((List.mergeSort_perm _ _).map _).nodup_iff.mpr hcandidates).sublist
    ((List.take_sublist _ _).map _)

theorem nodup_completions (h : index.Distinct) (text : String) (limit : Nat) :
    (Hit.identities (index.completions text limit)).Nodup := by
  have hkept : (Hit.identities (((index.asked (.forStart (normalLine text))).take
      (index.window limit)).map completionHit)).Nodup := by
    rw [Hit.identities, List.map_map]
    exact h.completions.sublist (((List.take_sublist _ _).trans List.filter_sublist).map _)
  exact (((List.mergeSort_perm _ _).map _).nodup_iff.mpr hkept).sublist
    ((List.take_sublist _ _).map _)

/-- **What both paths find is a row**: nothing on either path repeats itself, and the completions
have only to be compared with the structured hits. -/
theorem inARow_eq_row (h : index.Distinct) (lexicon : Lexicon) (query : String) (limit : Nat) :
    index.inARow lexicon query limit =
      Hit.row (index.structuredHits lexicon query limit)
        (index.completions (normalLine query) limit) := by
  rw [inARow, Hit.unseen_of_nodup [] (h.nodup_structuredHits lexicon query limit),
    Hit.unseen_of_nodup _ (h.nodup_completions _ limit), Hit.row]
  simp

/-- **Fewer hits of both paths are the first of more.** The structured hits come first and lose the
same ones; what is left of the size goes to completions that the structured hits have not shown. -/
theorem merge_take (h : index.Distinct) (hwindow : index.Windowed K) (hk : k ≤ K)
    (lexicon : Lexicon) (query : String) :
    (Hit.merge (index.structuredHits lexicon query k)
      (index.completions (normalLine query) k)).take k =
      (Hit.merge (index.structuredHits lexicon query K)
        (index.completions (normalLine query) K)).take k := by
  rw [merge_eq_inARow, merge_eq_inARow, h.inARow_eq_row, h.inARow_eq_row,
    structuredHits_take hwindow hk, completions_take hwindow hk,
    Hit.take_row_take (h.nodup_completions _ K)]

end Distinct

end AddressIndex

/-- **Truncating each path loses nothing.** Over an index whose documents have hits with identities
of their own, a lookup for fewer hits returns the first hits of a lookup for more, on either path
and on both, provided that the window is the same for both.

It is if it has its standard size for both limits, or holds the whole index. The merged lookup is
the hard one, since each path is cut before the merge: a hit that is cut off stands behind as many
others of its path, and the merge lets none of these go as long as identities are not repeated
within a path. That the lookup for fewer succeeds at all is proved, and not assumed. -/
theorem lookups_take {index : AddressIndex} (hdistinct : index.Distinct) {k K : Nat} (hk : k ≤ K)
    (hwindow : K ≤ index.sortWindow ∨ index.size ≤ index.sortWindow) (lexicon : Lexicon)
    (settings : Settings) (query : String) (hits : List Hit) :
    (((index.service lexicon settings).search query (some K)).result = .ok hits →
      ((index.service lexicon settings).search query (some k)).result = .ok (hits.take k)) ∧
    (((index.service lexicon settings).addresses query (some K)).result = .ok hits →
      ((index.service lexicon settings).addresses query (some k)).result = .ok (hits.take k)) ∧
    (((index.service lexicon settings).suggest query (some K)).result = .ok hits →
      ((index.service lexicon settings).suggest query (some k)).result = .ok (hits.take k)) := by
  simp only [LookupService.result_search_eq_ok_iff, LookupService.result_addresses,
    LookupService.result_suggest_eq_ok_iff, LookupService.sizeOr_some,
    LookupService.suggestSizeOr_some, Except.ok.injEq]
  refine ⟨?_, ?_, fun hsuggested => AddressIndex.suggest_take hsuggested hwindow hk⟩
  · rintro ⟨suggested, hsuggested, rfl⟩
    have hfewer := AddressIndex.suggest_take hsuggested hwindow hk
    obtain rfl := AddressIndex.eq_completions_of_suggest_eq_ok hsuggested
    refine ⟨_, hfewer, ?_⟩
    rw [← AddressIndex.completions_take hwindow hk, hdistinct.merge_take hwindow hk, List.take_take,
      Nat.min_eq_left hk]
  · rintro rfl
    exact AddressIndex.structuredHits_take hwindow hk lexicon query

/-- One hit instead of two, of three addresses in a window of two. -/
theorem lookups_take_neighbours :
    (AddressIndex.holding neighbours 2).Distinct ∧
      ∃ hits,
        (((AddressIndex.holding neighbours 2).service .standard .standard).search "15 brea"
          (some 2)).result =
          .ok hits ∧
        (((AddressIndex.holding neighbours 2).service .standard .standard).search "15 brea"
          (some 1)).result =
          .ok (hits.take 1) := by
  have hidentities : (neighbours.map Address.identity).Nodup := by decide
  have hdistinct := AddressIndex.distinct_holding hidentities 2
  have hshort : (normalLine (normalLine "15 brea")).utf8ByteSize <
      AddressIndex.longestCompletion := by
    decide
  have hsuggested : (AddressIndex.holding neighbours 2).suggest (normalLine "15 brea") 2 = .ok _ :=
    AddressIndex.suggest_of_short hshort
  have hsearch :=
    (LookupService.result_search_eq_ok_iff (AddressIndex.holding neighbours 2) .standard
    .standard "15 brea" (some 2) _).mpr ⟨_, hsuggested, rfl⟩
  exact ⟨hdistinct, _, hsearch,
    (lookups_take hdistinct (by decide) (Or.inl (Nat.le_refl 2)) .standard
    .standard "15 brea" _).1 hsearch⟩

end Gazetteer
