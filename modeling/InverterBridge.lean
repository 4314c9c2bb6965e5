import InverterBridge.SerialIo.CrcCount
import InverterBridge.SerialIo.PrefixStability
import InverterBridge.SerialIo.RequestWindows
import InverterBridge.SerialIo.StrictParser
import InverterBridge.Daemon.ColdCycle
import InverterBridge.Daemon.Offline
import InverterBridge.Daemon.Freshness
import InverterBridge.Daemon.Intervals
import InverterBridge.Daemon.GridExport
import InverterBridge.Daemon.GridImport
import InverterBridge.Daemon.WorkerTimeout
import InverterBridge.EnergyIntegrator.Accounting
import InverterBridge.EnergyIntegrator.Persistence
import InverterBridge.Bms.Integration
import InverterBridge.MqttPublisher.Announced
import InverterBridge.MqttPublisher.Availability
import InverterBridge.Bms.ConcurrentRequests
import InverterBridge.Bms.OctopusFrames
import InverterBridge.Bms.AcceptedFrames
import InverterBridge.Bms.BankConsistency
import InverterBridge.Bms.FreshPacks
import InverterBridge.Bms.Heartbeat
import InverterBridge.Bms.GiveUp
import InverterBridge.Bms.Startup
import InverterBridge.Config.Errors
import InverterBridge.Tools.RenameHaEntities
import InverterBridge.Tools.CollisionCopies
import InverterBridge.Tools.AuditF7
import InverterBridge.Tools.LiveDiscoveries
import InverterBridge.Tools.PurgeHaZombies
import InverterBridge.Daemon.LockedCounts
import InverterBridge.Tools.RenameSession
import InverterBridge.Tools.PurgeSession
import InverterBridge.EnergyIntegrator.Restarts
import InverterBridge.Bms.Restarts
import InverterBridge.Tools.RetainedBytes
import InverterBridge.Daemon.Meters
import InverterBridge.Lib.SnapshotSweep
import InverterBridge.Tools.CleanupSession
import InverterBridge.Daemon.OnTheWire
import InverterBridge.Daemon.PublishedReadings
import InverterBridge.Bms.Turns
import InverterBridge.Bms.OnTheAir
