import CommentSeparator.FileTree
import CommentSeparator.Main
import CommentSeparator.Proofs.Program.EntryPoints
import CommentSeparator.Proofs.Program.ExitStatus
import CommentSeparator.Proofs.Program.LabelBranch
import CommentSeparator.Proofs.Program.Logging
import CommentSeparator.Proofs.Program.StylesOutput
import CommentSeparator.Proofs.Program.Warnings
import CommentSeparator.Proofs.Request.Spelling
import CommentSeparator.Proofs.Separator.Counted
import CommentSeparator.Proofs.Separator.Distinct
import CommentSeparator.Proofs.Session.FullSink
import CommentSeparator.Proofs.Session.LineEnds
import CommentSeparator.Proofs.Session.Resumed
import CommentSeparator.Proofs.Session.Transcript
import CommentSeparator.Proofs.Style.Accepted
import CommentSeparator.Proofs.Style.Chosen
import CommentSeparator.Proofs.Style.FirstMisfit
import CommentSeparator.Proofs.Style.Nearest
