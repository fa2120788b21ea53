import LC3.AddressMap
import LC3.Block
import LC3.Bus
import LC3.ByteSource
import LC3.CommandLine
import LC3.Config
import LC3.Config.Load
import LC3.Config.Override
import LC3.Console
import LC3.Cpu
import LC3.Device
import LC3.Driver
import LC3.Event
import LC3.Execute
import LC3.FileTree
import LC3.Image
import LC3.Input
import LC3.Instruction
import LC3.IoError
import LC3.LogFilter
import LC3.Main
import LC3.Memory
import LC3.Monitor
import LC3.Platform
import LC3.Proofs.Block.Completion
import LC3.Proofs.Block.Effect
import LC3.Proofs.Block.Exchange
import LC3.Proofs.Block.Locality
import LC3.Proofs.Block.Service
import LC3.Proofs.Bus.Access
import LC3.Proofs.Bus.Routing
import LC3.Proofs.Memory.Frame
import LC3.Proofs.Memory.Stores
import LC3.Proofs.Ring.Layout
import LC3.Registers
import LC3.Request
import LC3.Ring
import LC3.Service
import LC3.Text.Blank
import LC3.Text.Hex
import LC3.Text.Printable
import LC3.Text.Quoted
import LC3.Text.Utf8
import LC3.Toml.Document
import LC3.Toml.Scalar
import LC3.Toml.Settings
import LC3.Toml.Table
import LC3.Toml.Text
import LC3.Toml.Value
import LC3.Word
import LC3.Proofs.Driver.Transfer
import LC3.Proofs.Driver.Session
import LC3.Proofs.Driver.Submission
import LC3.Proofs.Cpu.Store
import LC3.Proofs.Driver.Guest
import LC3.Proofs.Monitor.Instruction
import LC3.Proofs.Monitor.Isolation
import LC3.Proofs.Monitor.Bookkeeping
import LC3.Proofs.Monitor.Interleaving
import LC3.Proofs.Bus.Quiet
import LC3.Proofs.Cpu.Decode
import LC3.Proofs.Cpu.Extension
import LC3.Proofs.Cpu.Simulation
import LC3.Proofs.Image.RoundTrip
import LC3.Proofs.Monitor.Stop
import LC3.Proofs.Bus.Delivery
import LC3.Proofs.Image.Loading
import LC3.Proofs.Monitor.Budget
import LC3.Proofs.Cpu.Condition
import LC3.Proofs.Bus.Announcement
import LC3.Proofs.Cpu.Accesses
import LC3.Proofs.Monitor.Keyboard
import LC3.Proofs.Monitor.Input
import LC3.Proofs.Monitor.Echo
import LC3.Proofs.Ring.Allocation
import LC3.Proofs.Driver.Refusal
import LC3.Proofs.Cpu.Failure
import LC3.Proofs.Driver.Apart
import LC3.Proofs.Driver.Leak
import LC3.Proofs.Service.Text
import LC3.Proofs.Ring.Words
import LC3.Proofs.Ring.Pool
import LC3.Proofs.CommandLine.Grammar
import LC3.Proofs.Driver.Header
import LC3.Proofs.Memory.Slices
import LC3.Proofs.Config.Environment
import LC3.Proofs.Config.Layering
import LC3.Proofs.Config.Numeral
