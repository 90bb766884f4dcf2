import Gazetteer.Form
import Gazetteer.Settings

/-!
# JSON forms of settings and reports

Each setting may be left out and has its standard value then. A report has all its fields.
-/

namespace Gazetteer

instance : JsonForm Settings where
  toJson s := .object
    [("index_dir", toJson s.indexFolder), ("writer_heap_bytes", toJson s.writerMemory),
     ("default_size", toJson s.defaultSize), ("default_suggest_size", toJson s.defaultSuggestSize),
     ("sort_window", toJson s.sortWindow), ("timeout_ms", toJson s.timeoutMillis),
     ("max_retries", toJson s.maxRetries), ("retry_base_delay_ms", toJson s.retryBaseMillis),
     ("extra_street_types", toJson s.extraStreetTypes)]
  ofJson? j := do
    match ← j.fields? ["index_dir", "writer_heap_bytes", "default_size", "default_suggest_size",
        "sort_window", "timeout_ms", "max_retries", "retry_base_delay_ms",
        "extra_street_types"] with
    | (_, [indexFolder, writerMemory, defaultSize, defaultSuggestSize, sortWindow, timeoutMillis,
        maxRetries, retryBaseMillis, extraStreetTypes]) =>
      let standard := Settings.standard
      some
        { indexFolder := ← Json.orElse standard.indexFolder indexFolder
          writerMemory := ← Json.orElse standard.writerMemory writerMemory
          defaultSize := ← Json.orElse standard.defaultSize defaultSize
          defaultSuggestSize := ← Json.orElse standard.defaultSuggestSize defaultSuggestSize
          sortWindow := ← Json.orElse standard.sortWindow sortWindow
          timeoutMillis := ← Json.orElse standard.timeoutMillis timeoutMillis
          maxRetries := ← Json.orElse standard.maxRetries maxRetries
          retryBaseMillis := ← Json.orElse standard.retryBaseMillis retryBaseMillis
          extraStreetTypes := ← Json.orElse standard.extraStreetTypes extraStreetTypes }
    | _ => none

instance : JsonForm BuildReport where
  toJson r := .object
    [("total_documents", toJson r.documents), ("skipped_rows", toJson r.skippedRows),
     ("index_size_bytes", toJson r.bytes), ("build_time_secs", toJson r.seconds)]
  ofJson? j := do
    match ← j.fields? ["total_documents", "skipped_rows", "index_size_bytes",
      "build_time_secs"] with
    | (_, [documents, skippedRows, bytes, seconds]) =>
      some ⟨← Json.required documents, ← Json.required skippedRows, ← Json.required bytes,
        ← Json.required seconds⟩
    | _ => none

end Gazetteer
