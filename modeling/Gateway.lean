import Gateway.Battery.KernelEvent
import Gateway.Battery.Monitor
import Gateway.Battery.Policy
import Gateway.Battery.Reading
import Gateway.Broadcast
import Gateway.Command
import Gateway.Command.Arithmetic
import Gateway.Command.Builtin
import Gateway.Command.Escape
import Gateway.Command.Expansion
import Gateway.Command.FileTools
import Gateway.Command.Format
import Gateway.Command.Grammar
import Gateway.Command.Number
import Gateway.Command.Pattern
import Gateway.Command.Process
import Gateway.Command.Raw
import Gateway.Command.Session
import Gateway.Command.Shell
import Gateway.Command.Utilities
import Gateway.Command.Word
import Gateway.CommandLine
import Gateway.Config.Basic
import Gateway.Config.Document
import Gateway.Config.Setting
import Gateway.Config.Store
import Gateway.Config.Watcher
import Gateway.Control.Method
import Gateway.Control.Publication
import Gateway.Daemon
import Gateway.Device.Basic
import Gateway.Device.Control
import Gateway.Device.Lifecycle
import Gateway.Device.Step
import Gateway.Files
import Gateway.Led.Attributes
import Gateway.Led.Channel
import Gateway.Led.Output
import Gateway.Led.Table
import Gateway.Loop.State
import Gateway.Loop.Task
import Gateway.Main
import Gateway.MessageBus.Bus
import Gateway.MessageBus.Variant
import Gateway.Modem.AtCommand
import Gateway.Modem.Band
import Gateway.Modem.Bus
import Gateway.Modem.Calls
import Gateway.Modem.Dialogue
import Gateway.Modem.Endpoint
import Gateway.Modem.Exchange
import Gateway.Modem.Fault
import Gateway.Modem.LockReport
import Gateway.Modem.Procedure
import Gateway.Modem.Script
import Gateway.Modem.Telephony
import Gateway.Network
import Gateway.Notice
import Gateway.Path
import Gateway.Plain
import Gateway.Poller
import Gateway.PowerKey.Device
import Gateway.PowerKey.Gesture
import Gateway.PowerKey.InputEvent
import Gateway.PowerKey.Reader
import Gateway.Proofs.Led.Belief
import Gateway.Proofs.Led.Table
import Gateway.Proofs.Loop.Modes
import Gateway.Proofs.Loop.Run
import Gateway.Proofs.Modem.Binding
import Gateway.Proofs.Modem.Conduct
import Gateway.Proofs.Modem.Conversation
import Gateway.Proofs.Modem.Interleaving
import Gateway.Proofs.Modem.Teardown
import Gateway.Single
import Gateway.Single.Shortest
import Gateway.Status
import Gateway.Tasks
import Gateway.Text.Blank
import Gateway.Text.Decimal
import Gateway.Text.Interval
import Gateway.Text.Json
import Gateway.Text.Numeral
import Gateway.Text.Printable
import Gateway.Text.Quoted
import Gateway.Text.Split
import Gateway.Text.Utf8
import Gateway.Ticker
import Gateway.Wifi
import Gateway.Yaml.Cursor
import Gateway.Yaml.Folding
import Gateway.Yaml.Meaning
import Gateway.Yaml.Node
import Gateway.Yaml.Token
import Gateway.Yaml.Writer
import Gateway.Proofs.Loop.Countdown
import Gateway.Proofs.Loop.Shutdown
import Gateway.Proofs.Device.Run
import Gateway.Proofs.Device.Polling
import Gateway.Proofs.Device.BatteryNews
import Gateway.Proofs.Text.Numeral
import Gateway.Proofs.Text.Split
import Gateway.Proofs.Modem.LockReport
import Gateway.Proofs.Modem.BandMasks
import Gateway.Proofs.Modem.LockCommands
import Gateway.Proofs.Modem.BandLocks
import Gateway.Proofs.Modem.Timeline
import Gateway.Proofs.Modem.Transcript
import Gateway.Proofs.Modem.Serial
import Gateway.Proofs.Modem.Success
import Gateway.Proofs.Modem.Radio
import Gateway.Proofs.Text.Utf8
import Gateway.Proofs.Files
import Gateway.Proofs.Path
import Gateway.Proofs.Config.Saving
import Gateway.Proofs.Config.ChargeUpdate
import Gateway.Proofs.Config.Durability
import Gateway.Proofs.Broadcast
import Gateway.Proofs.Loop.WifiPolicy
import Gateway.Proofs.Config.Hardware
import Gateway.Proofs.Control.Interplay
import Gateway.Proofs.Control.PlainActs
import Gateway.Proofs.Control.Validity
import Gateway.Proofs.Control.Notices
import Gateway.Proofs.Control.Agreement
import Gateway.Proofs.Control.WifiRequests
import Gateway.Proofs.Battery.Reading
import Gateway.Proofs.Loop.Announcements
import Gateway.Proofs.Led.Alike
import Gateway.Proofs.Loop.Producers
import Gateway.Proofs.Loop.LongPress
import Gateway.Proofs.Led.AllOff
import Gateway.Proofs.Loop.Teardown
import Gateway.Proofs.PowerKey.DoubleClick
import Gateway.Proofs.Modem.Recovery
import Gateway.Proofs.Modem.RadioRestored
import Gateway.Proofs.Tasks
import Gateway.Proofs.Led.Clock
import Gateway.Proofs.Led.Rendering
import Gateway.Proofs.Battery.Calls
import Gateway.Proofs.Battery.Subscribers
import Gateway.Proofs.Battery.Switch
import Gateway.Proofs.Config.Classification
import Gateway.Proofs.Modem.BandBits
import Gateway.Proofs.Text.Literal
import Gateway.Proofs.Modem.LockFormat
import Gateway.Proofs.Config.Atomicity
import Gateway.Proofs.Config.Watching
import Gateway.Proofs.PowerKey.Records
import Gateway.Proofs.Text.Blank
import Gateway.Proofs.Text.Lines
import Gateway.Proofs.Battery.StateFile
import Gateway.Proofs.Battery.KernelEvent
