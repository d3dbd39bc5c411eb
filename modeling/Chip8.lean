import Chip8.Main
import Chip8.Instruction.Declaration
import Chip8.Proofs.Faults
import Chip8.Proofs.Glyphs
import Chip8.Proofs.KeyWait
import Chip8.Proofs.Timers
import Chip8.Proofs.Frames
import Chip8.Proofs.ProgramCounter
import Chip8.Proofs.WaitingInstruction
import Chip8.Proofs.Effects
import Chip8.Proofs.Randomness
import Chip8.Proofs.Comparison
import Chip8.Proofs.KeyUse
import Chip8.Proofs.ConfigUse
import Chip8.Proofs.MemoryUse
import Chip8.Proofs.PassiveParts
import Chip8.Proofs.Assembly
import Chip8.Proofs.Substitution
import Chip8.Proofs.Listings
import Chip8.Proofs.Unambiguity
import Chip8.Proofs.Drawing
import Chip8.Proofs.Erasing
import Chip8.Proofs.Mnemonics
import Chip8.Proofs.KeyHistory
import Chip8.Proofs.Hits
import Chip8.Proofs.DrawingOrder
import Chip8.Proofs.LitCount
import Chip8.Proofs.Torus
import Chip8.Proofs.OpcodeDigits
import Chip8.Proofs.Arithmetic
import Chip8.Proofs.Transfers
import Chip8.Proofs.TableOrder
import Chip8.Proofs.Composition
import Chip8.Proofs.ExecutionLog
import Chip8.Proofs.ListedBytes
import Chip8.Proofs.StatusPanel
