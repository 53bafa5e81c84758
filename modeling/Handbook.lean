import Handbook.Main
import Handbook.Proofs.Path.NormalForm
import Handbook.Proofs.Check.History
import Handbook.Proofs.Check.Verdict
import Handbook.Proofs.Disk.Landing
import Handbook.Proofs.Check.DeadLinks
import Handbook.Proofs.Sample.Fences
import Handbook.Proofs.Document.LinkGrammar
import Handbook.Proofs.Check.FailFast
import Handbook.Proofs.Sample.Manuscript
import Handbook.Proofs.Sample.Layout
import Handbook.Proofs.Path.Joining
import Handbook.Proofs.Disk.Folders
import Handbook.Proofs.Check.Spellings
import Handbook.Proofs.Check.Keys
import Handbook.Proofs.Check.Orders
import Handbook.Proofs.Document.Anchors
import Handbook.Proofs.Document.OwnLink
import Handbook.Proofs.Disk.Writing
import Handbook.Proofs.Sample.AllOrNothing
import Handbook.Proofs.Path.Rewriting
import Handbook.Proofs.Check.Identity
import Handbook.Proofs.Document.LineEnds
import Handbook.Proofs.Check.Accounts
import Handbook.Proofs.Check.Printed
import Handbook.Proofs.Document.Sections
import Handbook.Proofs.Settings.Listed
import Handbook.Proofs.Path.Congruence
import Handbook.Proofs.Settings.Markers
import Handbook.Proofs.Document.AnchorForm
