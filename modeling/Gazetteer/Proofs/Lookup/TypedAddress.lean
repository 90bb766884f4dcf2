import Gazetteer.Proofs.Hit.Merge
import Gazetteer.Proofs.Index.Completion
import Gazetteer.Proofs.Index.Search
import Gazetteer.Proofs.Lookup.OverIndex

/-!
# The address that is being typed

Whatever the structured path makes of a query, a merged search that may return every address of the
index **returns the one whose line is being typed**. The completion path finds it, since taking the
normal form again changes nothing and typing on only adds characters at the end. And the merged list
has room for it (`length_merge_le`): every hit of either path has the identity of some address.
-/

namespace Gazetteer

open Index (Document)

variable (addresses : List Address) (sortWindow : Nat)

/-- Every structured hit has the identity of an address of the list. With the same for completions,
a merged list cannot be longer than the list of addresses. -/
theorem identities_structuredHits_subset (lexicon : Lexicon) (query : String) (limit : Nat) :
    Hit.identities
        ((AddressIndex.holding addresses sortWindow).structuredHits lexicon query limit) ⊆
      addresses.map Address.identity := by
  intro i hi
  obtain ⟨hit, hhit, rfl⟩ := List.mem_map.mp hi
  obtain ⟨f, hf, rfl⟩ := AddressIndex.mem_search hhit
  obtain ⟨d, hd, -, -, haddress⟩ := AddressIndex.mem_findings.mp hf
  obtain ⟨a, ha, rfl⟩ := List.mem_map.mp (List.mem_of_getElem? hd)
  rw [Document.address_ofAddress] at haddress
  rw [Finding.hit, Hit.identity_structured, ← haddress]
  exact List.mem_map_of_mem ha

theorem identities_completions_subset (text : String) (limit : Nat) :
    Hit.identities ((AddressIndex.holding addresses sortWindow).completions text limit) ⊆
      addresses.map Address.identity := by
  intro i hi
  obtain ⟨hit, hhit, rfl⟩ := List.mem_map.mp hi
  obtain ⟨d, hd, -, rfl⟩ := AddressIndex.mem_completions hhit
  obtain ⟨a, ha, rfl⟩ := List.mem_map.mp hd
  rw [AddressIndex.identity_completionHit]
  exact List.mem_map_of_mem ha

/-- **A merged list of hits of an index is no longer than the index.** Merging leaves one hit for
each identity, and there are no more identities than addresses. -/
theorem length_merge_le {structured suggested : List Hit}
    (hstructured : Hit.identities structured ⊆ addresses.map Address.identity)
    (hsuggested : Hit.identities suggested ⊆ addresses.map Address.identity) :
    (Hit.merge structured suggested).length ≤ addresses.length := by
  have hsubset : Hit.identities (Hit.merge structured suggested) ⊆ addresses.map Address.identity :=
    fun i hi => (Hit.mem_identities_merge.mp hi).elim (fun h => hstructured h) fun h => hsuggested h
  have hlength := (Hit.nodup_identities_merge structured suggested).length_le_of_subset hsubset
  rwa [Hit.identities, List.length_map, List.length_map] at hlength

/-- **A search for what has been typed of an address returns the address**, if it may return as many
hits as there are addresses. The query may be typed differently as long as its normal form is the
same.

It is the completion that finds the address, whatever the query parses to. What has been typed
begins the line of the address also in normal form, which asks for a line without capital sigma; the
completion is accepted if it is short; and a list of all identities is not cut where it may be as
long as there are addresses. The hit may be the structured one of the address, if that path has
found it too. -/
theorem search_finds_typed {addresses : List Address} {a : Address} (ha : a ∈ addresses)
    (hsigma : Text.capitalSigma ∉ a.oneLine.toList) {typed query : String}
    (htyped : typed.toList <+: a.oneLine.toList) (hquery : normalLine query = normalLine typed)
    (hshort : (normalLine query).utf8ByteSize ≤ 600) (sortWindow : Nat) (lexicon : Lexicon)
    (settings : Settings) (size : Option Nat)
    (hsize : addresses.length ≤
      ((AddressIndex.holding addresses sortWindow).service lexicon settings).sizeOr size) :
    ∃ hits,
      (((AddressIndex.holding addresses sortWindow).service lexicon settings).search query
        size).result = .ok hits ∧
      ∀ score, ∃ hit ∈ hits, hit.identity = (Hit.structured a score).identity := by
  have hnormal : normalLine (normalLine query) = normalLine typed := by
    rw [normalLine_normalLine, hquery]
  have hstart : (normalLine (normalLine query)).toList <+: (normalLine a.oneLine).toList := by
    rw [hnormal]
    exact normalLine_prefix htyped hsigma
  have hanswer : (AddressIndex.holding addresses sortWindow).suggest (normalLine query)
      (((AddressIndex.holding addresses sortWindow).service lexicon settings).sizeOr size) =
        .ok ((AddressIndex.holding addresses sortWindow).completions (normalLine query)
          (((AddressIndex.holding addresses sortWindow).service lexicon settings).sizeOr
            size)) := by
    refine AddressIndex.suggest_of_short ?_
    rw [normalLine_normalLine]
    exact Nat.lt_of_le_of_lt hshort (by decide)
  -- The completion has the address, and the merged list is no longer than the list of addresses.
  refine ⟨_, (LookupService.result_search_eq_ok_iff _ lexicon settings query size _).mpr
    ⟨_, hanswer, rfl⟩, fun score => ?_⟩
  rw [List.take_of_length_le (Nat.le_trans (length_merge_le addresses
    (identities_structuredHits_subset addresses sortWindow _ _ _)
    (identities_completions_subset addresses sortWindow _ _)) hsize), Hit.identity_structured]
  refine List.mem_map.mp (Hit.mem_identities_merge.mpr (Or.inr ?_))
  rw [← AddressIndex.identity_completionHit a]
  refine List.mem_map_of_mem
    (AddressIndex.mem_completions_of_prefix (List.mem_map_of_mem ha) hstart ?_)
  exact Nat.le_trans (Nat.le_of_eq (List.length_map _)) hsize

/-- The line of a flat, cut inside the street name and typed in lowercase with more blanks. -/
theorem search_finds_typed_flat :
    ∃ hits,
      (((AddressIndex.holding neighbours 0).service .standard .standard).search " 45/15  brea"
        (some 3)).result = .ok hits ∧
      ∀ score, ∃ hit ∈ hits, hit.identity = (Hit.structured
        { id := "B", flatNumber := "45", numberFirst := "15",
          streetName := "BREAKER" } score).identity := by
  have htyped : "45/15 BREA".toList <+: (Address.oneLine
      { id := "B", flatNumber := "45", numberFirst := "15", streetName := "BREAKER" }).toList := by
    decide
  have hquery : normalLine " 45/15  brea" = "45/15 brea" := by decide
  have hnormal : normalLine "45/15 BREA" = "45/15 brea" := by decide
  exact search_finds_typed (List.mem_cons_of_mem _ List.mem_cons_self) (by decide) htyped
    (hquery.trans hnormal.symm) (by decide) 0 .standard .standard (some 3) (Nat.le_refl 3)

end Gazetteer
