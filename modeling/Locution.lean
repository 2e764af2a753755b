import Locution.Main
import Locution.Proofs.Batch.Written
import Locution.Proofs.Chat.Completion
import Locution.Proofs.Chat.Prompt
import Locution.Proofs.Command.Exit
import Locution.Proofs.Command.Leave
import Locution.Proofs.Corpus.Plain
import Locution.Proofs.Corpus.Verbatim
import Locution.Proofs.Corpus.Written
import Locution.Proofs.Report.Highlight
import Locution.Proofs.Report.Progress
import Locution.Proofs.Report.Scan
import Locution.Proofs.Semantic.Arbiter
import Locution.Proofs.Semantic.Confirmation
import Locution.Proofs.Semantic.Message
import Locution.Proofs.Semantic.Verdict
import Locution.Proofs.Session
import Locution.Proofs.Template.Closing
import Locution.Proofs.Template.ClosingElision
import Locution.Proofs.Template.Elision
import Locution.Proofs.Template.LetterCase
import Locution.Proofs.Template.Markers
import Locution.Proofs.Template.Person
import Locution.Proofs.Template.Printed
import Locution.Proofs.Template.Separator
import Locution.Proofs.Template.Surroundings
import Locution.Proofs.Text.Quoted
import Locution.Proofs.Text.Range
