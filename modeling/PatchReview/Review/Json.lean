import PatchReview.Json.Writer
import PatchReview.Review.Basic
import PatchReview.Validation.Whole

-- Records as JSON: every record is written with all its fields, and read back with defaults for the
-- fields that may be absent.
namespace PatchReview

open Validation

def optionalText (t : Option Text) : Json := t.elim .null .string

def optionalInt (n : Option Int) : Json := n.elim .null .int

def ChangedFile.toJson (f : ChangedFile) : Json :=
  .object [("filename", .string f.filename), ("status", .string f.status.name),
    ("patch", .string f.patch), ("additions", .int f.additions), ("deletions", .int f.deletions),
    ("previous_filename", optionalText f.previousFilename)]

def ChangedFile.decoder : Decoder ChangedFile :=
  record "ChangedFile" fun path entries whole =>
    ChangedFile.mk
      <$> fieldOr none "filename" text path entries whole
      <*> fieldOr (some .modified) "status" (named ChangeStatus) path entries whole
      <*> fieldOr (some []) "patch" text path entries whole
      <*> fieldOr (some 0) "additions" Validation.whole path entries whole
      <*> fieldOr (some 0) "deletions" Validation.whole path entries whole
      <*> fieldOr (some none) "previous_filename" (nullable text) path entries whole

def Finding.toJson (f : Finding) : Json :=
  .object [("category", .string f.category.name), ("severity", .string f.severity.name),
    ("line", optionalInt f.line), ("description", .string f.description),
    ("rule", optionalText f.rule)]

def Finding.decoder : Decoder Finding :=
  record "Finding" fun path entries whole =>
    Finding.mk
      <$> fieldOr none "category" (named Category) path entries whole
      <*> fieldOr (some .low) "severity" (named Severity) path entries whole
      <*> fieldOr (some none) "line" (nullable Validation.whole) path entries whole
      <*> fieldOr none "description" text path entries whole
      <*> fieldOr (some none) "rule" (nullable text) path entries whole

def FileReview.toJson (r : FileReview) : Json :=
  .object [("filename", .string r.filename), ("rating", .string r.rating.name),
    ("summary", .string r.summary), ("issues", .array (r.issues.map Finding.toJson)),
    ("suggestions", .array (r.suggestions.map Finding.toJson)), ("source", .string r.source.name)]

def FileReview.decoder : Decoder FileReview :=
  record "FileReview" fun path entries whole =>
    FileReview.mk
      <$> fieldOr none "filename" text path entries whole
      <*> fieldOr none "rating" (named Rating) path entries whole
      <*> fieldOr none "summary" text path entries whole
      <*> fieldOr (some []) "issues" (list Finding.decoder) path entries whole
      <*> fieldOr (some []) "suggestions" (list Finding.decoder) path entries whole
      <*> fieldOr (some .static) "source" (named Origin) path entries whole

def FileChanges.toJson (c : FileChanges) : Json :=
  .object [("status", optionalText c.status), ("additions", .int c.additions),
    ("deletions", .int c.deletions)]

def FileChanges.decoder : Decoder FileChanges :=
  record "FileChanges" fun path entries whole =>
    FileChanges.mk
      <$> fieldOr (some none) "status" (nullable text) path entries whole
      <*> fieldOr (some 0) "additions" Validation.whole path entries whole
      <*> fieldOr (some 0) "deletions" Validation.whole path entries whole

def ReviewedFile.toJson (f : ReviewedFile) : Json :=
  .object [("filename", .string f.filename), ("changes", f.changes.elim .null FileChanges.toJson),
    ("analysis", f.analysis.toJson)]

def ReviewedFile.decoder : Decoder ReviewedFile :=
  record "ReviewedFile" fun path entries whole =>
    ReviewedFile.mk
      <$> fieldOr none "filename" text path entries whole
      <*> fieldOr (some none) "changes" (nullable FileChanges.decoder) path entries whole
      <*> fieldOr none "analysis" FileReview.decoder path entries whole

def ReviewStats.toJson (s : ReviewStats) : Json :=
  .object [("total_files", .int s.files), ("total_issues", .int s.issues),
    ("total_suggestions", .int s.suggestions), ("total_security_issues", .int s.security)]

def ReviewStats.decoder : Decoder ReviewStats :=
  record "ReviewStats" fun path entries whole =>
    ReviewStats.mk
      <$> fieldOr (some 0) "total_files" Validation.whole path entries whole
      <*> fieldOr (some 0) "total_issues" Validation.whole path entries whole
      <*> fieldOr (some 0) "total_suggestions" Validation.whole path entries whole
      <*> fieldOr (some 0) "total_security_issues" Validation.whole path entries whole

def ReviewSet.toJson (r : ReviewSet) : Json :=
  .object [("summary", .string r.summary), ("stats", r.stats.toJson),
    ("files", .array (r.files.map ReviewedFile.toJson)), ("scope", .string r.scope.name)]

def ReviewSet.decoder : Decoder ReviewSet :=
  record "ReviewSet" fun path entries whole =>
    ReviewSet.mk
      <$> fieldOr (some []) "summary" text path entries whole
      <*> fieldOr (some {}) "stats" ReviewStats.decoder path entries whole
      <*> fieldOr (some []) "files" (list ReviewedFile.decoder) path entries whole
      <*> fieldOr (some .pullRequest) "scope" (named Scope) path entries whole

def ChangedFile.ofJson (input : Json) : Except Report ChangedFile :=
  (ChangedFile.decoder [] input).toExcept "ChangedFile"

def Finding.ofJson (input : Json) : Except Report Finding :=
  (Finding.decoder [] input).toExcept "Finding"

def FileReview.ofJson (input : Json) : Except Report FileReview :=
  (FileReview.decoder [] input).toExcept "FileReview"

def FileChanges.ofJson (input : Json) : Except Report FileChanges :=
  (FileChanges.decoder [] input).toExcept "FileChanges"

def ReviewedFile.ofJson (input : Json) : Except Report ReviewedFile :=
  (ReviewedFile.decoder [] input).toExcept "ReviewedFile"

def ReviewStats.ofJson (input : Json) : Except Report ReviewStats :=
  (ReviewStats.decoder [] input).toExcept "ReviewStats"

def ReviewSet.ofJson (input : Json) : Except Report ReviewSet :=
  (ReviewSet.decoder [] input).toExcept "ReviewSet"

end PatchReview
