import PatchReview.Text.Lines
import PatchReview.Text.Quoted
import PatchReview.Text.Utf8
import PatchReview.Pattern.Capture
import PatchReview.Pattern.Span
import PatchReview.Json.Diagnostic
import PatchReview.Json.Reader
import PatchReview.Json.Writer
import PatchReview.Text.Template
import PatchReview.Rule.Table
import PatchReview.Review.Json
import PatchReview.Diff.Changes
import PatchReview.Diff.Layout
import PatchReview.Scan
import PatchReview.Prose
import PatchReview.FileTree
import PatchReview.World
import PatchReview.Analyzer
import PatchReview.Git
import PatchReview.Host
import PatchReview.Report.Narrative
import PatchReview.Report.Render
import PatchReview.Event
import PatchReview.FileScan
import PatchReview.PullReview
import PatchReview.CommandLine.Execute
import PatchReview.Session
import PatchReview.Main
import PatchReview.Proofs.Review.RoundTrip
import PatchReview.Proofs.Prose.LineByLine
import PatchReview.Proofs.Diff.ChangedFiles
import PatchReview.Proofs.Rule.Firing
import PatchReview.Proofs.LanguageModel.Asking
import PatchReview.Proofs.Scan.Findings
import PatchReview.Proofs.Reviewing.EachFile
import PatchReview.Proofs.Verdict.Event
import PatchReview.Proofs.Reviewing.Degradation
import PatchReview.Proofs.Host.Opening
import PatchReview.Proofs.Host.Fetching
import PatchReview.Proofs.Host.Posting
import PatchReview.Proofs.PullReview.Safety
import PatchReview.Proofs.Scan.Issues
import PatchReview.Proofs.Credential.Keeping
import PatchReview.Proofs.Credential.Sessions
import PatchReview.Proofs.FileScan.Untracked
import PatchReview.Proofs.Scan.Soundness
import PatchReview.Proofs.Prose.Soundness
import PatchReview.Proofs.Reviewing.Soundness
import PatchReview.Proofs.PullReview.PostFailure
import PatchReview.Proofs.Path.Reading
import PatchReview.Proofs.FileTree.Below
import PatchReview.Proofs.Run.Looking
import PatchReview.Proofs.FileScan.Collecting
import PatchReview.Proofs.CommandLine.ScanExit
import PatchReview.Proofs.PullReview.Course
import PatchReview.Proofs.PullReview.DryRun
import PatchReview.Proofs.Git.Leaving
import PatchReview.Proofs.Git.Plan
import PatchReview.Proofs.Git.Sources
import PatchReview.Proofs.Reviewing.WorkingTree
import PatchReview.Proofs.Event.Shape
import PatchReview.Proofs.PullReview.Success
import PatchReview.Proofs.CommandLine.PullExit
import PatchReview.Proofs.CommandLine.ActionReport
import PatchReview.Proofs.Scan.Composition
import PatchReview.Proofs.Pattern.Placeless
import PatchReview.Proofs.Rule.Surroundings
import PatchReview.Proofs.Rule.Token
import PatchReview.Proofs.Rule.Awaited
import PatchReview.Proofs.Git.Counts
import PatchReview.Proofs.Diff.Renamed
import PatchReview.Proofs.Prose.Descriptions
import PatchReview.Proofs.Verdict.Ranked
import PatchReview.Proofs.Pattern.Replacing
import PatchReview.Proofs.Report.Markup
import PatchReview.Proofs.Report.Coloring
import PatchReview.Proofs.Report.Narrative
import PatchReview.Proofs.Report.Unmarked
import PatchReview.Proofs.Repository.Named
import PatchReview.Proofs.Host.Requests
import PatchReview.Proofs.FileScan.Listing
import PatchReview.Proofs.CommandLine.Writing
import PatchReview.Proofs.Prose.Summary
import PatchReview.Proofs.Report.Sections
import PatchReview.Proofs.Template.Expanding
