import Chip8.Display.Headless
import Chip8.Main
import Chip8.Proofs.Arithmetic
import Chip8.Proofs.Assembly
import Chip8.Proofs.CommandLine.Entry
import Chip8.Proofs.CommandLine.Order
import Chip8.Proofs.CommandLine.Reading
import Chip8.Proofs.Keypad.Batches
import Chip8.Proofs.Log.Order
import Chip8.Proofs.Machine.Atomicity
import Chip8.Proofs.Machine.Attempts
import Chip8.Proofs.Machine.Buzzing
import Chip8.Proofs.Machine.Calls
import Chip8.Proofs.Machine.Capacity
import Chip8.Proofs.Machine.ControlFlow
import Chip8.Proofs.Machine.Core
import Chip8.Proofs.Machine.Countdown
import Chip8.Proofs.Machine.DialectIndependence
import Chip8.Proofs.Machine.Effect
import Chip8.Proofs.Machine.Footprint
import Chip8.Proofs.Machine.History
import Chip8.Proofs.Machine.Journal
import Chip8.Proofs.Machine.KeyLatch
import Chip8.Proofs.Machine.KeyWait
import Chip8.Proofs.Machine.MemoryHistory
import Chip8.Proofs.Machine.NextAddress
import Chip8.Proofs.Machine.Pacing
import Chip8.Proofs.Machine.PressRelease
import Chip8.Proofs.Machine.RefreshIndependence
import Chip8.Proofs.Machine.Run
import Chip8.Proofs.Machine.Safety
import Chip8.Proofs.Machine.ScreenHistory
import Chip8.Proofs.Machine.Subroutine
import Chip8.Proofs.Machine.Tick
import Chip8.Proofs.Machine.TimeIndependence
import Chip8.Proofs.Memory.Extension
import Chip8.Proofs.Memory.Span
import Chip8.Proofs.Memory.Transfer
import Chip8.Proofs.Operand
import Chip8.Proofs.PolledDisplay
import Chip8.Proofs.RegisterFile
import Chip8.Proofs.Screen.Bounds
import Chip8.Proofs.ScreenDisplay
import Chip8.Proofs.Session.Halt
import Chip8.Proofs.Session.Loop
import Chip8.Proofs.Sound.Framing
import Chip8.Proofs.Sound.Toggle
import Chip8.Proofs.Tape
import Chip8.Proofs.Text.Numeral
import Chip8.Proofs.Window.Calls
import Chip8.Proofs.Window.Frames
import Chip8.Proofs.Window.Interval
import Chip8.Proofs.Window.Polls
import Chip8.Session.Script
import Chip8.Sound.Script
import Chip8.Text.Quoted
