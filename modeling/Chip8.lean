import Chip8.FileTree
import Chip8.Main
import Chip8.Proofs.Arrivals
import Chip8.Proofs.FaultAtomicity
import Chip8.Proofs.FirstHit
import Chip8.Proofs.HostCalls
import Chip8.Proofs.Slices
import Chip8.Proofs.Accesses
import Chip8.Proofs.History
import Chip8.Proofs.LoggedReads
import Chip8.Proofs.RegisterChange
import Chip8.Proofs.Footprint
import Chip8.Proofs.Subroutines
import Chip8.Proofs.Alike
import Chip8.Proofs.Reset
import Chip8.Proofs.Timers
import Chip8.Proofs.ProgramFiles
import Chip8.Proofs.InstructionText
import Chip8.Proofs.BreakpointList
import Chip8.Proofs.RegisterValue
import Chip8.Proofs.ReadingFaults
import Chip8.Proofs.MemoryCalls
import Chip8.Proofs.HeldKeys
import Chip8.Proofs.BuiltSystems
import Chip8.Proofs.HostKeymaps
import Chip8.Proofs.Arithmetic
import Chip8.Proofs.Glyphs
import Chip8.Proofs.RandomBytes
import Chip8.Proofs.SavedRegisters
import Chip8.Proofs.LinearSweep
import Chip8.Proofs.SpriteOrder
import Chip8.Proofs.Confinement
import Chip8.Proofs.KeyWait
import Chip8.Proofs.ExactClock
import Chip8.Proofs.UnknownKeys
import Chip8.Proofs.WrittenIntegers
import Chip8.Proofs.WordFields
