import Switchboard.Main
import Switchboard.Proofs.ConfigText
import Switchboard.Proofs.BuiltinTools
import Switchboard.Proofs.Defects
import Switchboard.Proofs.Disabling
import Switchboard.Proofs.Shutdown
import Switchboard.Proofs.CriticalService
import Switchboard.Proofs.Paging
import Switchboard.Proofs.Interleaving
import Switchboard.Proofs.Independence
import Switchboard.Proofs.StatusReport
import Switchboard.Proofs.Base64
import Switchboard.Proofs.Cursor
import Switchboard.Proofs.Answers
import Switchboard.Proofs.Toggles
import Switchboard.Proofs.Dispatch
import Switchboard.Proofs.Accounting
import Switchboard.Proofs.Once
import Switchboard.Proofs.Closing
import Switchboard.Proofs.Selection
import Switchboard.Proofs.Confinement
import Switchboard.Proofs.EndpointPaging
import Switchboard.Proofs.Segments
import Switchboard.Proofs.Schema
import Switchboard.Proofs.QueryPairs
import Switchboard.Proofs.Connection
import Switchboard.Proofs.Calls
import Switchboard.Proofs.Override
import Switchboard.Proofs.Timeouts
import Switchboard.Proofs.Flags
import Switchboard.Proofs.HeaderFields
import Switchboard.Proofs.Offsets
