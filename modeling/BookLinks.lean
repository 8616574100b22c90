import BookLinks.Proofs.Run.Accounting
import BookLinks.Cli.Help
import BookLinks.Cli.Parse
import BookLinks.Cli.Run
import BookLinks.Main
import BookLinks.Proofs.Book.Lines
import BookLinks.Proofs.Link.Reserialise
import BookLinks.Proofs.Markdown.Brackets
import BookLinks.Proofs.Markdown.Fences
import BookLinks.Proofs.Markdown.Masking
import BookLinks.Proofs.Markdown.Overlap
import BookLinks.Proofs.Markdown.References
import BookLinks.Proofs.Web.Expiry
import BookLinks.Proofs.Web.FetchOnce
import BookLinks.Proofs.Web.Persistence
import BookLinks.Proofs.Web.Retries
import BookLinks.Proofs.Web.Loading
import BookLinks.Proofs.Book.Targets
import BookLinks.Proofs.Fs.Relative
import BookLinks.Proofs.Web.Interpolation
import BookLinks.Proofs.Markdown.Emphasis
import BookLinks.Proofs.Report.Ordering
import BookLinks.Proofs.Config.Validation
