import SevenFuzzer.Common.Types
import SevenFuzzer.Compare.Triage
import SevenFuzzer.Compare.Participation
import SevenFuzzer.Process.Watchdog
import SevenFuzzer.Process.WatchdogLock
import SevenFuzzer.Process.Accounting
import SevenFuzzer.Process.Supervisor
import SevenFuzzer.Process.Discards
import SevenFuzzer.Process.Seeds
import SevenFuzzer.Process.Sweep
import SevenFuzzer.Process.CommandLine
import SevenFuzzer.Process.Attribution
import SevenFuzzer.Process.Ending
import SevenFuzzer.Process.Schedule
import SevenFuzzer.Process.Campaign
import SevenFuzzer.Process.Console
import SevenFuzzer.Process.Serial
import SevenFuzzer.Process.Reported
import SevenFuzzer.Process.DumpAttribution
import SevenFuzzer.Compare.Differential
import SevenFuzzer.Compare.Discrepancy
import SevenFuzzer.Compare.Verdict
import SevenFuzzer.Hardware.HarnessFailure
import SevenFuzzer.Hardware.HistoryIndependence
import SevenFuzzer.Hardware.VictimAge
import SevenFuzzer.Hardware.Confinement
import SevenFuzzer.Hardware.OutcomeAttribution
import SevenFuzzer.Hardware.HandleOwnership
import SevenFuzzer.Hardware.PumpTermination
import SevenFuzzer.Lanes.JitRefinement
import SevenFuzzer.Lanes.Adapters
import SevenFuzzer.Lanes.SameMachine
import SevenFuzzer.Lanes.JitWorker
import SevenFuzzer.Gen.UndefinedFlags
import SevenFuzzer.Gen.BranchContainment
import SevenFuzzer.Gen.HostSupport
import SevenFuzzer.Gen.BiasedDivision
import SevenFuzzer.Gen.Pins
import SevenFuzzer.Gen.Broadcast
import SevenFuzzer.Gen.ScanMask
import SevenFuzzer.Gen.InitialX87
import SevenFuzzer.Gen.ControlWord
import SevenFuzzer.Gen.Plants
import SevenFuzzer.Gen.OperandKinds
import SevenFuzzer.Gen.StringSteps
import SevenFuzzer.Gen.Comparable
import SevenFuzzer.Report.Visibility
import SevenFuzzer.Report.Repro
import SevenFuzzer.Report.FailedLanes
