import RestrictedAccess.Main
import RestrictedAccess.Proofs.Command.Grammar
import RestrictedAccess.Proofs.Dispatcher.NoLostUpdate
import RestrictedAccess.Proofs.Element.Generation
import RestrictedAccess.Proofs.Element.Payloads
import RestrictedAccess.Proofs.Element.SlotLayouts
import RestrictedAccess.Proofs.RateLimiter.CallWindows
import RestrictedAccess.Proofs.Registry.ListSearch
import RestrictedAccess.Proofs.Scheduler.ActiveValidity
import RestrictedAccess.Proofs.Scheduler.Announcement
import RestrictedAccess.Proofs.Scheduler.CommandAtomicity
import RestrictedAccess.Proofs.Scheduler.CommandEffect
import RestrictedAccess.Proofs.Scheduler.CommandOrder
import RestrictedAccess.Proofs.Scheduler.CommandRepetition
import RestrictedAccess.Proofs.Scheduler.InternalWindows
import RestrictedAccess.Proofs.Scheduler.PassTotality
import RestrictedAccess.Proofs.Scheduler.PeriodicBurst
import RestrictedAccess.Proofs.Scheduler.PeriodicLifetime
import RestrictedAccess.Proofs.Scheduler.ProtectedScan
import RestrictedAccess.Proofs.Scheduler.RedundantPass
import RestrictedAccess.Proofs.Scheduler.RegistryShape
import RestrictedAccess.Proofs.Scheduler.ScheduleCounters
import RestrictedAccess.Proofs.Scheduler.SliceFreshness
import RestrictedAccess.Proofs.Scheduler.SpreadCoverage
import RestrictedAccess.Proofs.Scheduler.StationList
import RestrictedAccess.Proofs.Scheduler.WindowHistory
import RestrictedAccess.Proofs.Settings.HeldSettings
import RestrictedAccess.Proofs.Simulation.Lockstep
import RestrictedAccess.Proofs.Station.FiniteSet
import RestrictedAccess.Proofs.Station.OnePass
import RestrictedAccess.Proofs.Station.RangeLookup
import RestrictedAccess.Proofs.Window.ChangingLists
import RestrictedAccess.Proofs.Window.LastFields
import RestrictedAccess.Proofs.Window.SpreadLimit
import RestrictedAccess.Proofs.Wire.ByteQueue
