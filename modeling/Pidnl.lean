import Pidnl.Foundation.MeteredAccount
import Pidnl.Foundation.TokenBucket
import Pidnl.Foundation.Execution
import Pidnl.Foundation.Program
import Pidnl.Foundation.Decimal
import Pidnl.Foundation.Numeral
import Pidnl.Foundation.Scanf
import Pidnl.Foundation.Utf8
import Pidnl.Foundation.BoundedSet
import Pidnl.Foundation.Interference
import Pidnl.Foundation.Ownership
import Pidnl.Foundation.Course
import Pidnl.Foundation.Simulation
import Pidnl.Bpf.ApplyRateLimit
import Pidnl.Bpf.Refill
import Pidnl.Bpf.Conformance
import Pidnl.Bpf.LostRefill
import Pidnl.Bpf.ClockRace
import Pidnl.Bpf.Bucket
import Pidnl.Bpf.TwoLimits
import Pidnl.Bpf.Delivery
import Pidnl.Bpf.IdealBucket
import Pidnl.System.Calls
import Pidnl.System.State
import Pidnl.System.Descriptors
import Pidnl.Ratelimit.Functions
import Pidnl.Ratelimit.Startup
import Pidnl.Ratelimit.Removal
import Pidnl.Ratelimit.Settled
import Pidnl.Ratelimit.CgroupEffects
import Pidnl.Ratelimit.LinkEffects
import Pidnl.Ratelimit.Outcome
import Pidnl.Ratelimit.AttachOutcome
import Pidnl.Ratelimit.InstallOutcome
import Pidnl.Ratelimit.RemoveOutcome
import Pidnl.Ratelimit.ReadOutcome
import Pidnl.Ratelimit.Apart
import Pidnl.Ratelimit.Placing
import Pidnl.Ratelimit.Opening
import Pidnl.Ratelimit.TwoClients
import Pidnl.Ratelimit.Traffic
import Pidnl.Ratelimit.Policing
import Pidnl.Ratelimit.Verdicts
import Pidnl.Ratelimit.Bpffs
import Pidnl.Ratelimit.Rooted
import Pidnl.Ratelimit.Spared
import Pidnl.Ratelimit.ParentCgroup
import Pidnl.Ratelimit.Descriptors
import Pidnl.Monitor.Table
import Pidnl.Monitor.EventLoop
import Pidnl.Monitor.PidReuse
import Pidnl.Monitor.Functions
import Pidnl.Monitor.SocketPath
import Pidnl.Monitor.World
import Pidnl.Monitor.Outcome
import Pidnl.Monitor.Reliable
import Pidnl.Monitor.Store
import Pidnl.Monitor.FailedChange
import Pidnl.Monitor.ReportedSuccess
import Pidnl.Monitor.Attendance
import Pidnl.Monitor.PinLifetime
import Pidnl.Monitor.CleanAll
import Pidnl.Monitor.DeathPass
import Pidnl.Monitor.FirstLimit
import Pidnl.Monitor.Reached
import Pidnl.Monitor.Unset
import Pidnl.Monitor.Computer
import Pidnl.Monitor.Ledger
import Pidnl.Monitor.Bookkeeping
import Pidnl.Monitor.KeptLimits
import Pidnl.Monitor.OpenPidfds
import Pidnl.Monitor.Descriptors
import Pidnl.Monitor.Balance
import Pidnl.Monitor.Scene
import Pidnl.Monitor.Aside
import Pidnl.Monitor.Withdrawal
import Pidnl.Monitor.Settling
import Pidnl.Monitor.DyingProcess
import Pidnl.Gui.Channel
import Pidnl.Gui.Helper
import Pidnl.Discovery.Functions
import Pidnl.Discovery.Listable
import Pidnl.Discovery.Listing
import Pidnl.Discovery.Netlink
import Pidnl.Discovery.Receiving
import Pidnl.Discovery.Aggregation
import Pidnl.Gui.Backend
import Pidnl.Gui.Commands
import Pidnl.Gui.InStep
import Pidnl.Gui.Rows
import Pidnl.Gui.ListReply
import Pidnl.Gui.LimitEntries
import Pidnl.Gui.Session
import Pidnl.Gui.LimitGrammar
import Pidnl.Cli.Clean
import Pidnl.Cli.ParseRate
import Pidnl.Cli.Functions
import Pidnl.Cli.CommandLine
import Pidnl.Cli.Handlers
import Pidnl.Cli.OneChange
import Pidnl.Cli.Table
import Pidnl.Usage.System
import Pidnl.Usage.OpenDescriptors
import Pidnl.Usage.Events
import Pidnl.Usage.Lifetimes
import Pidnl.Usage.RoundTrip
import Pidnl.Usage.ExitStatus
