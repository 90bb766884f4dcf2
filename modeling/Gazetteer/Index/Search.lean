import Gazetteer.Failure
import Gazetteer.Hit
import Gazetteer.Index.Pattern
import Gazetteer.Index.Ranking
import Gazetteer.Index.Relevance

/-!
# The address index

Documents in the order in which they were added. A search scores the documents that match its plan,
keeps a window of the best ones, ranks these and returns as many as were asked for. A completion
keeps a window of the first documents that the pattern of a text asks for and returns them in the
order of their lines. The window is at least as long as the result.

Candidates are kept by a collector, and a collector needs room: it cannot be asked to keep none. So
both kinds of search look first whether there is room at all. A search that does so is never refused
(`exists_trySearch_eq_ok`), which is what makes `search` a function of its own; a completion may be,
because of the text.
-/

namespace Gazetteer

open Index (CompletionQuery Document Matcher rank)

/-- An address index. -/
structure AddressIndex where
  documents : List Document
  sortWindow : Nat

namespace AddressIndex

/-- The window of an index that says nothing of it. -/
def standardWindow : Nat := 1000

/-- **The index of a list of addresses.** -/
def ofAddresses (addresses : List Address) : AddressIndex :=
  ⟨addresses.map Document.ofAddress, standardWindow⟩

/-- The index with another window. -/
def withSortWindow (index : AddressIndex) (sortWindow : Nat) : AddressIndex :=
  { index with sortWindow }

/-- The number of addresses. -/
def size (index : AddressIndex) : Nat :=
  index.documents.length

/-- How many candidates are kept for a result of a given length. -/
def window (index : AddressIndex) (limit : Nat) : Nat :=
  min (max limit index.sortWindow) index.size

/-- The room for candidates, if there is any: an empty index has none. -/
def room? (index : AddressIndex) (limit : Nat) : Option Nat :=
  if index.window limit = 0 then none else some (index.window limit)

theorem room?_eq_none_iff {index : AddressIndex} {limit : Nat} :
    index.room? limit = none ↔ index.window limit = 0 := by
  rw [room?]
  split
  next hwindow => exact iff_of_true rfl hwindow
  next hwindow => exact iff_of_false (Option.some_ne_none _) hwindow

theorem room?_eq_some {index : AddressIndex} {limit room : Nat}
    (h : index.room? limit = some room) :
    room = index.window limit ∧ room ≠ 0 := by
  rw [room?] at h
  split at h
  · cases h
  next hwindow =>
    cases h
    exact ⟨rfl, hwindow⟩

/-- **Collecting** the first of what is found, as far as there is room. Collecting without room is
refused. -/
def collect {α : Type} (room : Nat) (found : List α) : Except EngineFailure (List α) :=
  if room = 0 then .error .noRoom else .ok (found.take room)

/-- **Where there is room, collecting is not refused.** -/
theorem collect_of_room? {α : Type} {index : AddressIndex} {limit room : Nat}
    (h : index.room? limit = some room) (found : List α) :
    collect room found = .ok (found.take (index.window limit)) := by
  obtain ⟨rfl, hroom⟩ := room?_eq_some h
  rw [collect, if_neg hroom]

/-- A document with its score. -/
abbrev Scored := Score × Document

/-- The documents that match, with their scores, in the order of the index. -/
def scored (index : AddressIndex) (plan : Plan) : List Scored :=
  let matcher := Matcher.of index.documents plan
  index.documents.filterMap fun d => (matcher.score? d).map (·, d)

/-- Whether a document may stand before a later one by score. -/
def scoresBefore (a b : Scored) : Bool :=
  !Score.exceeds b.1 a.1

/-- The scored documents by score, earlier ones first among equals. -/
def byScore (scored : List Scored) : List Scored :=
  scored.mergeSort scoresBefore

/-- **Structured search as it is asked of an index**, which might refuse it. -/
def trySearch (index : AddressIndex) (plan : Plan) (sort : SortSpec) (limit : Nat) :
    Except EngineFailure (List Hit) :=
  if limit = 0 then .ok []
  else match index.room? limit with
    | none => .ok []
    | some room => do
      let best ← collect room (byScore (index.scored plan))
      let candidates := best.map fun (score, d) => (score, d.address)
      return ((rank sort candidates).take limit).map fun (score, address) =>
        .structured address score

/-- **No search is refused**, whatever is asked of whatever index: candidates are collected only
where there is room for one. -/
theorem exists_trySearch_eq_ok (index : AddressIndex) (plan : Plan) (sort : SortSpec)
    (limit : Nat) : ∃ hits, index.trySearch plan sort limit = .ok hits := by
  rw [trySearch]
  split
  · exact ⟨_, rfl⟩
  · split
    · exact ⟨_, rfl⟩
    next hroom =>
      rw [collect_of_room? hroom]
      exact ⟨_, rfl⟩

/-- **Structured search**: the hits that are found, since no search is refused. -/
def search (index : AddressIndex) (plan : Plan) (sort : SortSpec) (limit : Nat) : List Hit :=
  match hanswer : index.trySearch plan sort limit with
  | .ok hits => hits
  | .error _ => False.elim <| by
    obtain ⟨_, hok⟩ := index.exists_trySearch_eq_ok plan sort limit
    rw [hanswer] at hok
    cases hok

/-- Where a search is answered, these are its hits. -/
theorem search_of_trySearch_eq_ok {index : AddressIndex} {plan : Plan} {sort : SortSpec}
    {limit : Nat} {hits : List Hit} (h : index.trySearch plan sort limit = .ok hits) :
    index.search plan sort limit = hits := by
  unfold search
  split
  next hanswer =>
    rw [hanswer] at h
    exact Except.ok.inj h
  next hanswer =>
    rw [hanswer] at h
    cases h

/-- **A search answers with the hits that it finds.** -/
theorem trySearch_eq_ok (index : AddressIndex) (plan : Plan) (sort : SortSpec) (limit : Nat) :
    index.trySearch plan sort limit = .ok (index.search plan sort limit) := by
  obtain ⟨hits, hanswer⟩ := index.exists_trySearch_eq_ok plan sort limit
  rw [hanswer, search_of_trySearch_eq_ok hanswer]

/-- The order of optional ids: a missing one comes first. -/
def compareIds : Option String → Option String → Ordering
  | none, none => .eq
  | none, some _ => .lt
  | some _, none => .gt
  | some a, some b => Text.compareText a b

/-- The order of completions: by line in lowercase, then by id. -/
def compareCompletions (a b : Hit) : Ordering :=
  (Text.compareText (Text.lowercase a.address) (Text.lowercase b.address)).then
    (compareIds a.id b.id)

/-- The documents that a completion query asks for. -/
def asked (index : AddressIndex) (query : CompletionQuery) : List Document :=
  index.documents.filter query.accepts

/-- The completion of a document. -/
def completionHit (d : Document) : Hit :=
  .suggestion (some (d.text .id)) (d.text .line) 1

/-- The first length, in bytes, of a text that is too long to be completed. -/
def longestCompletion : Nat := 1000

/-- The query for the lines that begin with a normal text. Its pattern is refused where it would be
too long. -/
def completionQuery (start : String) : Except EngineFailure CompletionQuery :=
  if longestCompletion ≤ start.utf8ByteSize then .error .completionTooLong
  else match CompletionQuery.of? start with
    | some query => .ok query
    | none => .error .unreadablePattern

/-- **Completion.** -/
def suggest (index : AddressIndex) (text : String) (limit : Nat) :
    Except EngineFailure (List Hit) :=
  if limit = 0 then .ok []
  else match index.room? limit with
    | none => .ok []
    | some room => do
      let query ← completionQuery (normalLine text)
      let first ← collect room (index.asked query)
      let hits := first.map completionHit
      return (hits.mergeSort fun a b => (compareCompletions a b).isLE).take limit

end AddressIndex

end Gazetteer
