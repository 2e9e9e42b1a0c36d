import SolakonMonitor.ArgumentMeaning
import SolakonMonitor.BigEndian
import SolakonMonitor.ClientConnect
import SolakonMonitor.ConfigLoader
import SolakonMonitor.ConfigMeaning
import SolakonMonitor.ConfigRoundTrip
import SolakonMonitor.DecimalText
import SolakonMonitor.Descriptors
import SolakonMonitor.Device
import SolakonMonitor.Dialogue
import SolakonMonitor.FileStream
import SolakonMonitor.FlowArt
import SolakonMonitor.HttpServer
import SolakonMonitor.IniSemantics
import SolakonMonitor.Ipv4
import SolakonMonitor.JsonEmitters
import SolakonMonitor.JsonText
import SolakonMonitor.MainProgram
import SolakonMonitor.ModbusClient
import SolakonMonitor.ModbusCrc
import SolakonMonitor.ModbusSession
import SolakonMonitor.MonitorOutput
import SolakonMonitor.MonitorRun
import SolakonMonitor.NetworkScanner
import SolakonMonitor.NumberValue
import SolakonMonitor.OneShotOutput
import SolakonMonitor.OptionOrder
import SolakonMonitor.PassLoop
import SolakonMonitor.PollPacing
import SolakonMonitor.PrintedSession
import SolakonMonitor.ProbeSockets
import SolakonMonitor.ReceiveContract
import SolakonMonitor.RefreshRate
import SolakonMonitor.RegisterMap
import SolakonMonitor.RegisterText
import SolakonMonitor.RememberedHost
import SolakonMonitor.ReplyFrames
import SolakonMonitor.RequestSegments
import SolakonMonitor.ResponseDelivery
import SolakonMonitor.Rounding
import SolakonMonitor.SavingFailures
import SolakonMonitor.ScanLabels
import SolakonMonitor.ScanOffer
import SolakonMonitor.ScanReport
import SolakonMonitor.ScanSaving
import SolakonMonitor.ScreenRestored
import SolakonMonitor.ServedReadings
import SolakonMonitor.ServerAnswers
import SolakonMonitor.ServerLifecycle
import SolakonMonitor.ServerThread
import SolakonMonitor.SettingPrecedence
import SolakonMonitor.ShiftRegister
import SolakonMonitor.SinglePrecision
import SolakonMonitor.SnapshotFaults
import SolakonMonitor.SnapshotFields
import SolakonMonitor.SnapshotFloats
import SolakonMonitor.SnapshotServing
import SolakonMonitor.SocketOwnership
import SolakonMonitor.StateMachine
import SolakonMonitor.StreamedReadings
import SolakonMonitor.SubnetScan
import SolakonMonitor.SubnetText
import SolakonMonitor.TerminalCodes
import SolakonMonitor.TerminalScreen
import SolakonMonitor.TerminalUi
import SolakonMonitor.TextLines
import SolakonMonitor.TextOrder
import SolakonMonitor.UptimeText
import SolakonMonitor.WholeProgram
import SolakonMonitor.WireTraffic
