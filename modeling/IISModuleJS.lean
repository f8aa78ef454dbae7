import IISModuleJS.ScheduledMachine
import IISModuleJS.SegmentStack
import IISModuleJS.WideString
import IISModuleJS.RelativeFilePath
import IISModuleJS.FileSystemApi
import IISModuleJS.SandboxConfinement
import IISModuleJS.CallbackHandles
import IISModuleJS.CallbackEngine
import IISModuleJS.CallbackWindow
import IISModuleJS.CompletionProtocol
import IISModuleJS.AsyncWorkers
import IISModuleJS.RequestObjects
import IISModuleJS.WorkerGate
import IISModuleJS.GateDeadlock
import IISModuleJS.InterprocessLock
import IISModuleJS.InterprocessExclusion
import IISModuleJS.InterprocessProgress
import IISModuleJS.InterprocessController
import IISModuleJS.HiddenWrites
import IISModuleJS.DataTransactions
import IISModuleJS.PublishedStore
import IISModuleJS.CrashAtomicity
import IISModuleJS.DotSegmentRemoval
import IISModuleJS.FileContents
import IISModuleJS.PromiseOutcomes
import IISModuleJS.ScriptWatcher
import IISModuleJS.WatcherSurvival
import IISModuleJS.DirectoryNotifications
import IISModuleJS.PrototypeObjects
import IISModuleJS.ScriptReload
import IISModuleJS.DatabaseCalls
import IISModuleJS.ManagedHeap
import IISModuleJS.WorkerLifetimes
import IISModuleJS.ByteRanges
import IISModuleJS.FueledLoop
import IISModuleJS.ResponseWrite
import IISModuleJS.ViewArguments
import IISModuleJS.CallbackAgreement
import IISModuleJS.RequestBody
import IISModuleJS.ResponseBody
import IISModuleJS.FileHandles
import IISModuleJS.SlotLeaks
import IISModuleJS.LockConstruction
import IISModuleJS.NotificationHandles
import IISModuleJS.EngineContext
import IISModuleJS.FileSizes
import IISModuleJS.StatusAndHeaders
import IISModuleJS.GzipStreams
import IISModuleJS.PiecewiseSource
import IISModuleJS.ResponseReader
import IISModuleJS.ResponseParser
import IISModuleJS.ResponseRefinement
import IISModuleJS.ResponseFormat
import IISModuleJS.ResponseTruncation
import IISModuleJS.RequestWriter
import IISModuleJS.FetchCalls
import IISModuleJS.FileStore
import IISModuleJS.GateWakeups
import IISModuleJS.NativeObjects
import IISModuleJS.HttpMethods
import IISModuleJS.ResponseCalls
import IISModuleJS.HeaderStore
import IISModuleJS.DatabaseValues
import IISModuleJS.FileDrives
