import Gxfp.Lib.Bytes
import Gxfp.Lib.Chunks
import Gxfp.Lib.Execution
import Gxfp.Lib.Fifo
import Gxfp.Lib.Framing
import Gxfp.Lib.Interaction
import Gxfp.Errno
import Gxfp.Uapi
import Gxfp.Kernel.Proto
import Gxfp.Kernel.Rxq
import Gxfp.Kernel.RxqContract
import Gxfp.Kernel.Device
import Gxfp.Kernel.EspiRx
import Gxfp.Kernel.Assembly
import Gxfp.Kernel.Handshake
import Gxfp.Kernel.EspiTx
import Gxfp.User.Proto
import Gxfp.User.Dev
import Gxfp.Transmit
import Gxfp.User.Host
import Gxfp.User.Cmd
import Gxfp.User.Sends
import Gxfp.User.Fdt
import Gxfp.User.FdtCalls
import Gxfp.User.FdtRetry
import Gxfp.User.Plain
import Gxfp.User.TlsService
import Gxfp.User.TlsSteps
import Gxfp.User.Capture
import Gxfp.User.SensorCfg
import Gxfp.User.Decoder
import Gxfp.User.Session
import Gxfp.User.SessionMoves
import Gxfp.User.Activation
import Gxfp.User.Recovery
import Gxfp.User.SessionModes
import Gxfp.User.Ticks
import Gxfp.User.SessionFdt
import Gxfp.Codec
import Gxfp.User.FdtTables
import Gxfp.User.FdtBudget
import Gxfp.Lib.EventLog
import Gxfp.User.SessionLog
import Gxfp.User.SessionSteps
import Gxfp.User.SessionCalls
import Gxfp.User.SessionErrors
import Gxfp.User.SessionWaits
import Gxfp.User.Ownership
import Gxfp.User.SessionHistory
import Gxfp.User.ServiceEvents
import Gxfp.User.ActivationOrder
import Gxfp.User.Captures
import Gxfp.Lib.Crc
import Gxfp.User.Crc
import Gxfp.Lib.Stores
import Gxfp.User.Samples
import Gxfp.User.DecoderChicago
import Gxfp.User.DecoderMilan
import Gxfp.User.DecoderBounds
import Gxfp.User.DecoderAuto
import Gxfp.User.PlainScan
import Gxfp.User.OtpDelta
import Gxfp.Kernel.Unregister
import Gxfp.Fprint.Binary
import Gxfp.Fprint.Sigfm
import Gxfp.Lib.Serial
import Gxfp.Fprint.Print
import Gxfp.Fprint.Captured
import Gxfp.User.CfgPatch
import Gxfp.Kernel.Cmd
import Gxfp.Exchange
import Gxfp.Engines
import Gxfp.Kernel.Version
import Gxfp.Lib.Block
import Gxfp.Lib.Tlv
import Gxfp.User.Common
import Gxfp.User.PskTool
import Gxfp.User.Provision
import Gxfp.User.BlobLayout
import Gxfp.User.BlobSeal
import Gxfp.Lib.Ring
import Gxfp.Kernel.Trace
import Gxfp.Fprint.TemplateBounds
import Gxfp.User.TlsBio
import Gxfp.User.TlsRecords
import Gxfp.Lib.Pairs
import Gxfp.Fprint.Match
import Gxfp.Fprint.MatchPlacement
import Gxfp.Lib.Circle
import Gxfp.Fprint.MatchAngles
import Gxfp.Fprint.MatchCount
import Gxfp.User.FdtOffset
import Gxfp.User.SessionOffset
import Gxfp.User.OtpDefault
import Gxfp.User.SessionReplies
import Gxfp.Fprint.Device
import Gxfp.Fprint.ImageDevice
import Gxfp.Fprint.Driver
import Gxfp.Fprint.DriverDepth
import Gxfp.Lib.Outcome
import Gxfp.Lib.Serving
import Gxfp.Fprint.Tasks
import Gxfp.Fprint.DriverShape
import Gxfp.Fprint.DriverWakes
import Gxfp.Fprint.DriverInputs
import Gxfp.Fprint.DriverScans
import Gxfp.Fprint.DriverRuns
import Gxfp.Fprint.DriverMatches
import Gxfp.Fprint.DriverStuck
import Gxfp.Lib.Retry
import Gxfp.Startup
import Gxfp.Lib.Packets
import Gxfp.Kernel.RxqReaders
import Gxfp.Receive
