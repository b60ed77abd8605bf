import Esptool.EnforcePrecheck
import Esptool.FilterSemantics
import Esptool.FilterPlacement
import Esptool.RuleIndependence
import Esptool.SubruleChains
import Esptool.ExitCodes
import Esptool.CompatPatch
import Esptool.PatchBounds
import Esptool.ParserFaithful
import Esptool.NumericAttributes
import Esptool.PersistRules
import Esptool.Registrations
import Esptool.FilterOwnership
import Esptool.ObjectReferences
import Esptool.WorkerReentry
import Esptool.PipeDelivery
import Esptool.OrphanCleanup
import Esptool.ClientHandles
import Esptool.QueueAgreement
import Esptool.CollectionExercise
import Esptool.NotificationPump
import Esptool.NumericOperators
import Esptool.CollectionEntries
import Esptool.EntryText
import Esptool.OptionSpellings
import Esptool.BooleanOptions
import Esptool.TokenBlob
import Esptool.NotifyDecode
import Esptool.NotifyFormat
import Esptool.NotifySafety
import Esptool.NotifyPid
import Esptool.NotifyPaths
import Esptool.NotifyNames
import Esptool.NotifyBinding
import Esptool.NtPath
import Esptool.HexText
import Esptool.IntegerText
import Esptool.GuidText
import Esptool.Altitudes
import Esptool.PatchCandidates
import Esptool.SplitText
import Esptool.FilterLeaves
import Esptool.EspExports
import Esptool.ExerciseArguments
import Esptool.EspExercise
import Esptool.SweepRuns
import Esptool.IsolatedSweep
import Esptool.CodePage
import Esptool.ClientCommands
import Esptool.HandleBooks
import Esptool.CommandBooks
import Esptool.Dispatch
import Esptool.DispatchRuns
import Esptool.ProcessTree
import Esptool.SweepChild
import Esptool.ServiceEntry
import Esptool.UniqueHandle
import Esptool.DocumentBooks
