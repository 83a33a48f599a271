import Logbook.Main
import Logbook.Proofs.Cli.Reading
import Logbook.Proofs.Cli.Replay
import Logbook.Proofs.Normalizer.AccessLine
import Logbook.Proofs.Normalizer.AccessOrder
import Logbook.Proofs.Normalizer.Clock
import Logbook.Proofs.Normalizer.Extension
import Logbook.Proofs.Normalizer.Folded
import Logbook.Proofs.Normalizer.Framing
import Logbook.Proofs.Normalizer.Log4jLine
import Logbook.Proofs.Normalizer.RecordText
import Logbook.Proofs.Normalizer.Renormalize
import Logbook.Proofs.Normalizer.RuleOrder
import Logbook.Proofs.Normalizer.Session
import Logbook.Proofs.Normalizer.SyslogLine
import Logbook.Proofs.Normalizer.ValueText
import Logbook.Proofs.Query.Acceptance
import Logbook.Proofs.Query.Diagnostic
import Logbook.Proofs.Query.Glob
import Logbook.Proofs.Query.Keyword
import Logbook.Proofs.Query.Literal
import Logbook.Proofs.Query.Outcome
import Logbook.Proofs.Query.PageSize
import Logbook.Proofs.Query.Pipeline
import Logbook.Proofs.Query.Sequence
import Logbook.Proofs.Query.Translation
import Logbook.Proofs.Query.Unnamed
import Logbook.Proofs.Query.Wire
import Logbook.Proofs.Rule.AccessTime
import Logbook.Proofs.Rule.Numbers
import Logbook.Proofs.Rule.Template
import Logbook.Rule.Listing
