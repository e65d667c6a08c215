import TcpUart.Lib.Machine
import TcpUart.Lib.Framing
import TcpUart.Codec.Device
import TcpUart.Codec.Control
import TcpUart.Daemon.ControlRequests
import TcpUart.Daemon.PtyForwarding
import TcpUart.Daemon.DeviceReceive
import TcpUart.Daemon.ControlAnswers
import TcpUart.Daemon.Entries
import TcpUart.Link.PtyToDevice
import TcpUart.Link.Control
import TcpUart.Lib.Encoder
import TcpUart.Codec.RoundTrip
import TcpUart.Link.FrameCuts
import TcpUart.Daemon.Responses
import TcpUart.Firmware.Settings
import TcpUart.Firmware.Wifi
import TcpUart.Link.ConfigAgreement
import TcpUart.Daemon.CircularWait
import TcpUart.Codec.Canonical
import TcpUart.Daemon.Bindings
import TcpUart.Daemon.TermiosReports
import TcpUart.Firmware.StatusLed
import TcpUart.Firmware.Transmit
import TcpUart.Firmware.WifiRounds
import TcpUart.Daemon.Asking
import TcpUart.Daemon.Demand
import TcpUart.Daemon.MainLoopReturns
import TcpUart.Cli.Ipv4Addr
import TcpUart.Cli.Main
import TcpUart.Daemon.Clients
import TcpUart.Daemon.ControlAccounts
import TcpUart.Link.CliAnswers
import TcpUart.Link.Resets
import TcpUart.Firmware.Rest
import TcpUart.Link.SerialLine
