import WatchDogProcess.Analysis.QuitDecision
import WatchDogProcess.Analysis.HangDetection
import WatchDogProcess.Analysis.RestartSpacing
import WatchDogProcess.Analysis.GivingUp
import WatchDogProcess.Analysis.ScanReports
import WatchDogProcess.Analysis.LostUpdates
import WatchDogProcess.Analysis.KillAgreement
import WatchDogProcess.Analysis.WatchedName
import WatchDogProcess.Analysis.WindowKilling
import WatchDogProcess.Analysis.RestartAttempts
import WatchDogProcess.Analysis.ScreenCover
import WatchDogProcess.Analysis.CosmeticCover
import WatchDogProcess.Analysis.WhiteListMeaning
import WatchDogProcess.Analysis.RestartThresholds
import WatchDogProcess.Analysis.BranchAgreement
import WatchDogProcess.Analysis.LaunchCommand
import WatchDogProcess.Analysis.ResourceLeak
import WatchDogProcess.Analysis.CheckIndependence
import WatchDogProcess.Analysis.FileLocking
import WatchDogProcess.Analysis.RecordLocking
import WatchDogProcess.Analysis.LockAnswers
import WatchDogProcess.Analysis.SingleInstance
import WatchDogProcess.Analysis.MessageDelivery
import WatchDogProcess.Analysis.SupervisedKills
import WatchDogProcess.Analysis.BoundedAbsence
import WatchDogProcess.Analysis.CommandDelivery
import WatchDogProcess.Analysis.ControlStates
import WatchDogProcess.Analysis.ControlStop
import WatchDogProcess.Analysis.ServiceInstances
