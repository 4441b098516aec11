import Branchwise.Main
import Branchwise.Tools
import Branchwise.Proofs.Occurrences
import Branchwise.Proofs.StubModules
import Branchwise.Proofs.FileOrder
import Branchwise.Proofs.StubNaming
import Branchwise.Proofs.DirectoryRuns
import Branchwise.Proofs.EscapedText
import Branchwise.Proofs.FaultIsolation
import Branchwise.Proofs.PrintedText
import Branchwise.Proofs.StubLines
import Branchwise.Proofs.Pruning
import Branchwise.Proofs.KeptGuards
import Branchwise.Proofs.FrontEnds
import Branchwise.Proofs.ShownNames
import Branchwise.Proofs.Traces
import Branchwise.Proofs.Independence
import Branchwise.Proofs.Reports
import Branchwise.Proofs.NameLookup
import Branchwise.Proofs.Exclusion
import Branchwise.Proofs.ListedText
import Branchwise.Proofs.AppendOnly
import Branchwise.Proofs.ModuleNames
import Branchwise.Proofs.Imports
import Branchwise.Proofs.ModuleLayout
