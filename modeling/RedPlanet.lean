import RedPlanet.Verified.Timeline
import RedPlanet.Simulator.DeleteFuture
import RedPlanet.Simulator.ReverseSearch
import RedPlanet.Core.Integer
import RedPlanet.Core.Reserved
import RedPlanet.Core.Supervisor
import RedPlanet.Core.WellFormed
import RedPlanet.Board.ExternalLine
import RedPlanet.Board.Timer
import RedPlanet.Board.UartStore
import RedPlanet.Board.UserCode
import RedPlanet.SpaceTime.Dangling
import RedPlanet.SpaceTime.Leaks
import RedPlanet.SpaceTime.Isolation
import RedPlanet.SpaceTime.Issues
import RedPlanet.SpaceTime.InvalidIds
import RedPlanet.Core.StatusWrites
import RedPlanet.Core.Views
import RedPlanet.Core.Pending
import RedPlanet.Core.Physical
import RedPlanet.Core.PageFaults
import RedPlanet.Core.EntryUpdates
import RedPlanet.Core.PageCrossing
import RedPlanet.Core.Faults
import RedPlanet.Board.Memory
import RedPlanet.Core.Multiply
import RedPlanet.Core.TrapState
import RedPlanet.Core.Causes
import RedPlanet.Core.RawPath
import RedPlanet.Core.Counting
import RedPlanet.Resources.PagedRam
import RedPlanet.Resources.RomImage
import RedPlanet.Board.Accesses
import RedPlanet.SpaceTime.Pool
import RedPlanet.SpaceTime.TableRun
import RedPlanet.SpaceTime.IndexRange
import RedPlanet.SpaceTime.PoolLeaks
import RedPlanet.Board.TimeReads
import RedPlanet.Resources.PlicRegisters
import RedPlanet.Verified.Ledger
import RedPlanet.Resources.UartFifo
import RedPlanet.Resources.UartStatus
import RedPlanet.Resources.UartInterrupt
import RedPlanet.Board.AddressLookup
import RedPlanet.Board.Load
import RedPlanet.Simulator.Bookkeeping
import RedPlanet.Simulator.Upheld
import RedPlanet.Target.OutputLog
import RedPlanet.Target.SimTarget
import RedPlanet.Board.Devices
import RedPlanet.Board.Reset
import RedPlanet.Board.Silence
import RedPlanet.Core.WriteBack
import RedPlanet.Simulator.OnSpaceTime
import RedPlanet.Simulator.Spacing
import RedPlanet.Target.Execution
