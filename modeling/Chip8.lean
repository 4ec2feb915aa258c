import Chip8.ByteSource
import Chip8.CallStack
import Chip8.CommandLine.Arguments
import Chip8.CommandLine.Session
import Chip8.Decimal.Binary
import Chip8.Decimal.Layout
import Chip8.Decimal.Numeral
import Chip8.Decimal.Shortest
import Chip8.Emulator.Basic
import Chip8.Emulator.Frame
import Chip8.Emulator.Pace
import Chip8.Emulator.Run
import Chip8.Fault
import Chip8.Framebuffer.Basic
import Chip8.Framebuffer.Sprite
import Chip8.Framebuffer.View
import Chip8.Host.Album
import Chip8.Host.Basic
import Chip8.Host.Headless
import Chip8.Host.Recorded
import Chip8.Host.Scripted
import Chip8.Host.Tone
import Chip8.Instruction.Assembly
import Chip8.Instruction.Basic
import Chip8.Instruction.Opcode
import Chip8.Instruction.Record
import Chip8.IoError
import Chip8.Journal
import Chip8.Keypad
import Chip8.Machine.Basic
import Chip8.Machine.Execute
import Chip8.Machine.History
import Chip8.Machine.Step
import Chip8.Main
import Chip8.Memory.Basic
import Chip8.Memory.Font
import Chip8.Memory.Program
import Chip8.Picture.Checksum
import Chip8.Picture.Png
import Chip8.Proofs.ByteSource
import Chip8.Proofs.CallStack
import Chip8.Proofs.Checked.Runs
import Chip8.Proofs.Emulator.Action
import Chip8.Proofs.Emulator.Faulting
import Chip8.Proofs.Emulator.Frame
import Chip8.Proofs.Emulator.Interlude
import Chip8.Proofs.Emulator.Leaving
import Chip8.Proofs.Emulator.Pause
import Chip8.Proofs.Emulator.Picture
import Chip8.Proofs.Emulator.Plain
import Chip8.Proofs.Emulator.Refinement
import Chip8.Proofs.Emulator.Related
import Chip8.Proofs.Emulator.Run
import Chip8.Proofs.Emulator.Tone
import Chip8.Proofs.Emulator.Wrapped
import Chip8.Proofs.Framebuffer.Area
import Chip8.Proofs.Framebuffer.Plane
import Chip8.Proofs.Framebuffer.Sprite
import Chip8.Proofs.Framebuffer.Strokes
import Chip8.Proofs.Framebuffer.Views
import Chip8.Proofs.Instruction.Assembler
import Chip8.Proofs.Instruction.Encoding
import Chip8.Proofs.Instruction.Pattern
import Chip8.Proofs.Keypad
import Chip8.Proofs.Machine.Addresses
import Chip8.Proofs.Machine.Blit
import Chip8.Proofs.Machine.Draws
import Chip8.Proofs.Machine.Faults
import Chip8.Proofs.Machine.Flags
import Chip8.Proofs.Machine.Font
import Chip8.Proofs.Machine.Footprint
import Chip8.Proofs.Machine.Loading
import Chip8.Proofs.Machine.NextPc
import Chip8.Proofs.Machine.RegisterBlock
import Chip8.Proofs.Machine.Returns
import Chip8.Proofs.Machine.Rolls
import Chip8.Proofs.Machine.Step
import Chip8.Proofs.Machine.Timers
import Chip8.Proofs.Machine.Unseen
import Chip8.Proofs.Machine.Waiting
import Chip8.Proofs.Memory.Blocks
import Chip8.Proofs.Memory.Congruence
import Chip8.Proofs.Terminal.Holding
import Chip8.Proofs.Text.Hex
import Chip8.Random.Keystream
import Chip8.Random.Seed
import Chip8.Random.Stream
import Chip8.Settings
import Chip8.Terminal.Console
import Chip8.Terminal.Input
import Chip8.Terminal.Key
import Chip8.Terminal.Keyboard
import Chip8.Terminal.Output
import Chip8.Terminal.Room
import Chip8.Terminal.Screen
import Chip8.Text.Hex
import Chip8.Text.Quoted
import Chip8.Text.Record
import Chip8.Text.Shape
