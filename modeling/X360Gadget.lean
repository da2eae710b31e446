import X360Gadget.Std.Machine
import X360Gadget.Std.Monitor
import X360Gadget.Std.Holdings
import X360Gadget.Std.Mailbox
import X360Gadget.Std.Takings
import X360Gadget.Std.Ledger
import X360Gadget.Std.Retry
import X360Gadget.Std.Stopping
import X360Gadget.Std.Utf16
import X360Gadget.Std.Records
import X360Gadget.Std.Outcome
import X360Gadget.Std.Method
import X360Gadget.Std.Bits
import X360Gadget.Std.Decimal
import X360Gadget.Controller
import X360Gadget.Protocol.Output
import X360Gadget.Protocol.Input
import X360Gadget.Protocol.Codec
import X360Gadget.Protocol.Grammar
import X360Gadget.Kernel.RawGadget
import X360Gadget.Kernel.Driver
import X360Gadget.Kernel.Table
import X360Gadget.Kernel.Transfer
import X360Gadget.Kernel.Opening
import X360Gadget.Descriptors.Config
import X360Gadget.Descriptors.Bytes
import X360Gadget.Descriptors.Strings
import X360Gadget.Descriptors.Blob
import X360Gadget.Transport.World
import X360Gadget.Transport.Control
import X360Gadget.Transport.ControlBounds
import X360Gadget.Transport.ControlDiscipline
import X360Gadget.Transport.DataStage
import X360Gadget.Transport.Advertised
import X360Gadget.Transport.Configured
import X360Gadget.Transport.Ep0
import X360Gadget.Transport.Output
import X360Gadget.Transport.OutputPipeline
import X360Gadget.Transport.Gadget
import X360Gadget.Transport.OutputDelivery
import X360Gadget.Transport.EndpointTable
import X360Gadget.Transport.ConfigurationValue
import X360Gadget.Transport.Ready
import X360Gadget.Transport.Reenumeration
import X360Gadget.Transport.Readers
import X360Gadget.Transport.OutputSlots
import X360Gadget.Transport.InputWrites
import X360Gadget.Transport.WaitReady
import X360Gadget.Transport.Lifetime
import X360Gadget.Transport.Enumeration
import X360Gadget.Transport.Reopening
import X360Gadget.Transport.Closing
import X360Gadget.Transport.DrainLoop
import X360Gadget.Transport.DrainAccounts
import X360Gadget.Transport.DrainLaw
import X360Gadget.Transport.BackgroundLoops
import X360Gadget.Session.Transport
import X360Gadget.Session.Receiver
import X360Gadget.Session.SlotIsolation
import X360Gadget.Session.OutputCells
import X360Gadget.Session.Mock
import X360Gadget.Session.Hardware
import X360Gadget.Session.MockFidelity
import X360Gadget.Session.HardwareRuns
import X360Gadget.Session.InputPath
import X360Gadget.Session.OutputPath
import X360Gadget.Session.OutOfRange
import X360Gadget.Session.DrainCalls
import X360Gadget.Udc
import X360Gadget.Capi.Calls
import X360Gadget.Capi.Send
import X360Gadget.Capi.Open
import X360Gadget.Capi.Process
import X360Gadget.Capi.Narrowing
import X360Gadget.Capi.Polls
import X360Gadget.Legacy.Interfaces
import X360Gadget.Legacy.StringDescriptor
import X360Gadget.Legacy.Survey
import X360Gadget.Legacy.Ep0
import X360Gadget.Legacy.Reset
import X360Gadget.Legacy.Reply
import X360Gadget.Legacy.Confinement
import X360Gadget.Legacy.Port
import X360Gadget.Legacy.Survival
import X360Gadget.Legacy.Sending
import X360Gadget.Binary.Demo
import X360Gadget.Binary.Printed
import X360Gadget.Binary.Startup
