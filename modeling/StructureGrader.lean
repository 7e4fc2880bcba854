import StructureGrader.Main
import StructureGrader.Proofs.Matching.Choice
import StructureGrader.Service.Traffic
import StructureGrader.Similarity.Tokens
import StructureGrader.Proofs.Matching.Pass
import StructureGrader.Proofs.Matching.Conservation
import StructureGrader.Proofs.Matching.Monotonicity
import StructureGrader.Proofs.Matching.Maximality
import StructureGrader.Proofs.Comparison.Stopping
import StructureGrader.Proofs.Comparison.Outcomes
import StructureGrader.Proofs.Matching.Renaming
import StructureGrader.Proofs.Comparison.History
import StructureGrader.Proofs.Number.Counting
import StructureGrader.Proofs.Comparison.Complete
import StructureGrader.Proofs.Matching.Kinds
import StructureGrader.Proofs.Number.Checked
import StructureGrader.Proofs.Comparison.Overall
import StructureGrader.Proofs.Text.Occurrence
import StructureGrader.Proofs.Text.Words
import StructureGrader.Proofs.Difference.Line
import StructureGrader.Proofs.Difference.Rendered
import StructureGrader.Proofs.Difference.Explained
import StructureGrader.Proofs.Files.Listing
import StructureGrader.Proofs.Files.Additions
import StructureGrader.Proofs.Syntax.Scanning
import StructureGrader.Proofs.Syntax.Longest
import StructureGrader.Proofs.Syntax.Reading
import StructureGrader.Proofs.Syntax.Lexing
import StructureGrader.Proofs.Extraction.Sites
import StructureGrader.Proofs.Extraction.Declarations
import StructureGrader.Proofs.Syntax.Shape
import StructureGrader.Proofs.Syntax.Relaying
import StructureGrader.Proofs.Extraction.Views
import StructureGrader.Proofs.Syntax.Layout
import StructureGrader.Proofs.Extraction.Layout
import StructureGrader.Proofs.Syntax.Remarks
import StructureGrader.Proofs.Extraction.Remarks
import StructureGrader.Proofs.Settings.Accepted
import StructureGrader.Proofs.Service.Slots
import StructureGrader.Proofs.Files.Scratch
import StructureGrader.Proofs.Service.ReportId
import StructureGrader.Proofs.Service.Reports
import StructureGrader.Proofs.Archive.Unpacked
import StructureGrader.Proofs.CommandLine.Cleanup
import StructureGrader.Proofs.Service.Cleanup
import StructureGrader.Proofs.Cleanup
import StructureGrader.Proofs.Matching.Assignment
import StructureGrader.Proofs.Report.Metrics
import StructureGrader.Proofs.Report.Page
import StructureGrader.Proofs.Text.Endings
import StructureGrader.Proofs.Submission
import StructureGrader.Proofs.CommandLine.Written
import StructureGrader.Proofs.Service.Answered
import StructureGrader.Proofs.Agreement
import StructureGrader.Proofs.Matching.Ranks
import StructureGrader.Proofs.Similarity.EditDistance
import StructureGrader.Proofs.Similarity.TextSimilarity
import StructureGrader.Proofs.Similarity.Features
import StructureGrader.Proofs.Similarity.Score
import StructureGrader.Proofs.Extraction.Clauses
import StructureGrader.Proofs.Feedback
import StructureGrader.Proofs.Text.SmallLetters
import StructureGrader.Proofs.Text.Runs
import StructureGrader.Proofs.Text.Counting
import StructureGrader.Proofs.Similarity.Reformatting
import StructureGrader.Proofs.Files.Places
import StructureGrader.Proofs.Archive.Escaping
import StructureGrader.Proofs.Files.Sources
import StructureGrader.Proofs.Text.Packing
import StructureGrader.Proofs.Text.MaximalRuns
import StructureGrader.Proofs.Similarity.Tokens
import StructureGrader.Proofs.Text.Utf8
import StructureGrader.Proofs.Files.Reading
