import UfsTools.UicRequest
import UfsTools.UicOutcome
import UfsTools.EomMain
import UfsTools.ReportRoundTrip
import UfsTools.DescriptorProtocol
import UfsTools.ScriptReport
import UfsTools.DeviceStrings
import UfsTools.EomEncoding
import UfsTools.EomOptions
import UfsTools.Obligations
import UfsTools.EomCleanUp
import UfsTools.Shell
import UfsTools.Lsufs
import UfsTools.ShellBuffer
import UfsTools.LsufsDispatch
import UfsTools.ScriptRegisters
import UfsTools.ScanAgreement
import UfsTools.EyePlot
import UfsTools.EyeVerdict
import UfsTools.LaneVerdict
import UfsTools.RangeOptions
import UfsTools.ResultSize
import UfsTools.CliNumerals
import UfsTools.RegisterValues
import UfsTools.DescriptorFields
import UfsTools.EyeWidth
import UfsTools.StringDescriptors
import UfsTools.ShellWords
import UfsTools.RegisterReadBack
import UfsTools.LaneLimits
import UfsTools.ShellArguments
import UfsTools.DataPattern
import UfsTools.AttributeOverlay
import UfsTools.OptionOrder
import UfsTools.ShellLoop
import UfsTools.ShellSession
import UfsTools.ClosedLoop
import UfsTools.EyeLink
import UfsTools.EomOnLink
import UfsTools.EyeMeasured
import UfsTools.EyeBench
import UfsTools.EyeToVerdict
import UfsTools.EomSession
import UfsTools.LsufsRun
import UfsTools.UfsStore
import UfsTools.LsufsSession
import UfsTools.Binary64
