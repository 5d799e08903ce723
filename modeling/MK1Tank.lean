import MK1Tank.Lib.Run
import MK1Tank.Lib.ForEach
import MK1Tank.Lib.Rounding
import MK1Tank.Lib.Binary32
import MK1Tank.Lib.Keystream
import MK1Tank.Lib.Window
import MK1Tank.Lib.OneShot
import MK1Tank.Lib.CString
import MK1Tank.Lib.Buffer
import MK1Tank.Lib.ScanGrammar
import MK1Tank.Lib.ScanFloat
import MK1Tank.Lib.LineFeed
import MK1Tank.Lib.FileProgram
import MK1Tank.Lib.Cursor
import MK1Tank.Lib.Mailbox
import MK1Tank.Lib.Fifo
import MK1Tank.Lib.BitFields
import MK1Tank.Firmware.Ports
import MK1Tank.Firmware.Protocol
import MK1Tank.Firmware.Broadcast
import MK1Tank.Firmware.Config
import MK1Tank.Firmware.ConfigBuffer
import MK1Tank.Firmware.ConfigParse
import MK1Tank.Firmware.Storage
import MK1Tank.Firmware.Thl
import MK1Tank.Firmware.ThlTune
import MK1Tank.Firmware.Touch
import MK1Tank.Firmware.Bluepad32
import MK1Tank.Firmware.ArduinoPlatform
import MK1Tank.Firmware.HidDevice
import MK1Tank.Firmware.HidParser
import MK1Tank.Firmware.XboxOne
import MK1Tank.Firmware.Drive
import MK1Tank.Firmware.Editor
import MK1Tank.Firmware.EditorPages
import MK1Tank.Firmware.Sketch
import MK1Tank.Firmware.Board
import MK1Tank.Firmware.Imu
import MK1Tank.Firmware.Dashboard
import MK1Tank.Proofs.BootResolution
import MK1Tank.Proofs.Broadcast
import MK1Tank.Proofs.HubOff
import MK1Tank.Proofs.Rotation
import MK1Tank.Proofs.HubPhase
import MK1Tank.Proofs.Whitening
import MK1Tank.Proofs.Checksum
import MK1Tank.Proofs.Air
import MK1Tank.Proofs.Turns
import MK1Tank.Proofs.ConnectPhase
import MK1Tank.Proofs.Parked
import MK1Tank.Proofs.ConfigCodec
import MK1Tank.Proofs.ConfigBuffer
import MK1Tank.Proofs.Storage
import MK1Tank.Proofs.SaveContract
import MK1Tank.Proofs.LineGrammar
import MK1Tank.Proofs.LineContract
import MK1Tank.Proofs.LineCut
import MK1Tank.Proofs.Sweep
import MK1Tank.Proofs.LiveTable
import MK1Tank.Proofs.Unassigned
import MK1Tank.Proofs.Pages
import MK1Tank.Proofs.SweepCells
import MK1Tank.Proofs.Earned
import MK1Tank.Proofs.Presses
import MK1Tank.Proofs.PortSum
import MK1Tank.Proofs.Pulse
import MK1Tank.Proofs.AxisModes
import MK1Tank.Proofs.Phases
import MK1Tank.Proofs.Failsafe
import MK1Tank.Proofs.Reconnect
import MK1Tank.Proofs.DriverAwake
import MK1Tank.Proofs.TableInvariant
import MK1Tank.Proofs.EditorInvariant
import MK1Tank.Proofs.EditorTaps
import MK1Tank.Proofs.EditorCap
import MK1Tank.Proofs.EditorCommits
import MK1Tank.Proofs.SettingsExits
import MK1Tank.Proofs.CapturePage
import MK1Tank.Proofs.CapturePrompts
import MK1Tank.Proofs.Looking
import MK1Tank.Proofs.ListEditor
import MK1Tank.Proofs.ControlLaw
import MK1Tank.Proofs.SerialTuning
import MK1Tank.Proofs.HeadingLock
import MK1Tank.Proofs.Idempotent
import MK1Tank.Proofs.LockStatus
import MK1Tank.Proofs.TouchPress
import MK1Tank.Proofs.Alternatives
import MK1Tank.Proofs.Monotone
import MK1Tank.Proofs.Seats
import MK1Tank.Proofs.SeatMoves
import MK1Tank.Proofs.SeatRuns
import MK1Tank.Proofs.Mail
import MK1Tank.Proofs.Requests
import MK1Tank.Proofs.Board
import MK1Tank.Proofs.Imu
import MK1Tank.Proofs.OnAir
import MK1Tank.Proofs.Sleep
import MK1Tank.Proofs.Dashboard
import MK1Tank.Proofs.HidParser
import MK1Tank.Proofs.XboxOne
import MK1Tank.Proofs.PadRuns
