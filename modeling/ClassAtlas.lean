import ClassAtlas.Main
import ClassAtlas.Proofs.Build.Once
import ClassAtlas.Proofs.Session.Answers
import ClassAtlas.Proofs.Stylesheet.Spans
import ClassAtlas.Text.Canonical
import ClassAtlas.Uri.Name.Directions
import ClassAtlas.Uri.Name.FurtherSubstitutes
import ClassAtlas.Uri.Name.Joints
import ClassAtlas.Uri.Name.Marks
import ClassAtlas.Uri.Name.Substitutes
import ClassAtlas.Proofs.Build.Alongside
import ClassAtlas.Proofs.Build.Waiting
import ClassAtlas.Proofs.Session.Isolation
import ClassAtlas.Proofs.Stylesheet.Lines
import ClassAtlas.Proofs.Stylesheet.Unclosed
import ClassAtlas.Proofs.Index.Ranges
import ClassAtlas.Proofs.Session.FirstBuild
import ClassAtlas.Proofs.Uri.Local
import ClassAtlas.Proofs.Session.Kept
import ClassAtlas.Proofs.Session.Choice
import ClassAtlas.Proofs.Session.Root
import ClassAtlas.Proofs.Session.Failures
import ClassAtlas.Proofs.Session.Layers
import ClassAtlas.Proofs.Session.StartUp
import ClassAtlas.Proofs.Index.Appended
import ClassAtlas.Proofs.Stylesheet.Wrapped
import ClassAtlas.Proofs.Session.Documents
import ClassAtlas.Proofs.Session.Absent
import ClassAtlas.Proofs.Stylesheet.Parts
import ClassAtlas.Proofs.Text.Words
import ClassAtlas.Proofs.Index.Comments
import ClassAtlas.Proofs.Index.Keys
import ClassAtlas.Proofs.Index.Reported
import ClassAtlas.Proofs.Index.Order
import ClassAtlas.Proofs.Definition
import ClassAtlas.Proofs.Text.EditorLines
import ClassAtlas.Proofs.Stylesheet.EditorSpans
import ClassAtlas.Proofs.Text.Returns
import ClassAtlas.Proofs.Word.Lines
import ClassAtlas.Proofs.Word.Range
import ClassAtlas.Proofs.Word.Stable
import ClassAtlas.Proofs.ClassList
import ClassAtlas.Proofs.Fallback
import ClassAtlas.Proofs.Locate
import ClassAtlas.Proofs.Settings
import ClassAtlas.Proofs.Session.Places
import ClassAtlas.Proofs.Index.Marked
import ClassAtlas.Proofs.Word.Indices
import ClassAtlas.Proofs.Stylesheet.Progress
