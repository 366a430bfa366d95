import Extender.Lib.Indexed
import Extender.Lib.Transition
import Extender.Lib.Lease
import Extender.Protocol.UrbGrammar
import Extender.Server.ExportLease
import Extender.Server.Session
import Extender.Server.Completion
import Extender.Server.Revocation
import Extender.Server.Ledger
import Extender.Server.Isolation
import Extender.Server.Stranded
import Extender.Protocol.UrbDecode
import Extender.Api.Framing
import Extender.Client.Forward
import Extender.Daemon.ClientIo
import Extender.Protocol.Agreement
import Extender.Client.Attach
import Extender.Client.Vhci
import Extender.Daemon.Bind
import Extender.Client.Pairing
import Extender.Driver.VirtualDevices
import Extender.Client.PendingOutput
import Extender.Client.StorageRequests
import Extender.App.DaemonClient
import Extender.Daemon.PidFile
import Extender.Daemon.Config
import Extender.Client.Engine
import Extender.Daemon.AttachApi
import Extender.Lib.Dialogue
import Extender.Client.ReplyPairing
import Extender.Lib.Separated
import Extender.Server.BusId
import Extender.Server.Acquisition
import Extender.Server.Reply
import Extender.Client.BlockTransfers
import Extender.Client.IsoPackets
import Extender.Client.NcmBlocks
import Extender.Lib.Loop
import Extender.Lib.Wildcard
import Extender.Lib.Fifo
import Extender.Lib.Components
import Extender.Server.Glob
import Extender.Driver.PendingRing
import Extender.Driver.HidRequests
import Extender.Driver.StorageRing
import Extender.Driver.Slots
import Extender.Client.Platforms
import Extender.Daemon.PortParams
import Extender.Server.Accounting
import Extender.System.ImportExchange
import Extender.System.RemoteSession
import Extender.System.Disk
import Extender.System.HidBridge
import Extender.Lib.SlotTable
