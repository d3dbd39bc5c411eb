import Chip8.Instruction.Encoding

/-!
# The instruction set

The 35 instructions and their encodings. `Op.all` lists them in table order: `CLS` and `RET` stand
before `SYS`, whose encoding accepts their opcodes too.
-/

namespace Chip8

inductive Op where
  | cls | ret | sys | jp | call
  | seByte | sneByte | seReg
  | ldByte | addByte
  | ldReg | or | and | xor | add | sub | shr | subn | shl
  | sneReg
  | ldI | jpV0 | rnd | drw
  | skp | sknp
  | ldRegDelay | ldKey | ldDelay | ldSound
  | addI | ldGlyph | ldDigits
  | store | load
  deriving DecidableEq, Repr

namespace Mark

/-- What stands for an operand inside a mnemonic: its name in braces. -/
def of (f : Operand) : String := "\x7b" ++ f.name ++ "\x7d"

def x : String := of .x
def y : String := of .y
def n : String := of .n
def kk : String := of .kk
def nnn : String := of .nnn

end Mark

namespace Op

def all : List Op :=
  [cls, ret, sys, jp, call, seByte, sneByte, seReg, ldByte, addByte, ldReg, or, and, xor, add, sub,
    shr, subn, shl, sneReg, ldI, jpV0, rnd, drw, skp, sknp, ldRegDelay, ldKey, ldDelay, ldSound,
    addI, ldGlyph, ldDigits, store, load]

open Mark in
def encoding : Op → Encoding
  | cls => ⟨"cls", 0x00E0, 0xFFFF, .bare, "CLS"⟩
  | ret => ⟨"ret", 0x00EE, 0xFFFF, .bare, "RET"⟩
  | sys => ⟨"sys", 0x0000, 0xF000, .nnn, s!"SYS {nnn}"⟩
  | jp => ⟨"jp", 0x1000, 0xF000, .nnn, s!"JP {nnn}"⟩
  | call => ⟨"call", 0x2000, 0xF000, .nnn, s!"CALL {nnn}"⟩
  | seByte => ⟨"se_vx_kk", 0x3000, 0xF000, .xkk, s!"SE V{x}, {kk}"⟩
  | sneByte => ⟨"sne_vx_kk", 0x4000, 0xF000, .xkk, s!"SNE V{x}, {kk}"⟩
  | seReg => ⟨"se_vx_vy", 0x5000, 0xF00F, .xy, s!"SE V{x}, V{y}"⟩
  | ldByte => ⟨"ld_vx_kk", 0x6000, 0xF000, .xkk, s!"LD V{x}, {kk}"⟩
  | addByte => ⟨"add_vx_kk", 0x7000, 0xF000, .xkk, s!"ADD V{x}, {kk}"⟩
  | ldReg => ⟨"ld_vx_vy", 0x8000, 0xF00F, .xy, s!"LD V{x}, V{y}"⟩
  | or => ⟨"or_vx_vy", 0x8001, 0xF00F, .xy, s!"OR V{x}, V{y}"⟩
  | and => ⟨"and_vx_vy", 0x8002, 0xF00F, .xy, s!"AND V{x}, V{y}"⟩
  | xor => ⟨"xor_vx_vy", 0x8003, 0xF00F, .xy, s!"XOR V{x}, V{y}"⟩
  | add => ⟨"add_vx_vy", 0x8004, 0xF00F, .xy, s!"ADD V{x}, V{y}"⟩
  | sub => ⟨"sub_vx_vy", 0x8005, 0xF00F, .xy, s!"SUB V{x}, V{y}"⟩
  | shr => ⟨"shr_vx_vy", 0x8006, 0xF00F, .xy, s!"SHR V{x}, V{y}"⟩
  | subn => ⟨"subn_vx_vy", 0x8007, 0xF00F, .xy, s!"SUBN V{x}, V{y}"⟩
  | shl => ⟨"shl_vx_vy", 0x800E, 0xF00F, .xy, s!"SHL V{x}, V{y}"⟩
  | sneReg => ⟨"sne_vx_vy", 0x9000, 0xF00F, .xy, s!"SNE V{x}, V{y}"⟩
  | ldI => ⟨"ld_i", 0xA000, 0xF000, .nnn, s!"LD I, {nnn}"⟩
  | jpV0 => ⟨"jp_v0", 0xB000, 0xF000, .nnn, s!"JP V0, {nnn}"⟩
  | rnd => ⟨"rnd", 0xC000, 0xF000, .xkk, s!"RND V{x}, {kk}"⟩
  | drw => ⟨"drw", 0xD000, 0xF000, .xyn, s!"DRW V{x}, V{y}, {n}"⟩
  | skp => ⟨"skp", 0xE09E, 0xF0FF, .x, s!"SKP V{x}"⟩
  | sknp => ⟨"sknp", 0xE0A1, 0xF0FF, .x, s!"SKNP V{x}"⟩
  | ldRegDelay => ⟨"ld_vx_dt", 0xF007, 0xF0FF, .x, s!"LD V{x}, DT"⟩
  | ldKey => ⟨"ld_vx_k", 0xF00A, 0xF0FF, .x, s!"LD V{x}, K"⟩
  | ldDelay => ⟨"ld_dt_vx", 0xF015, 0xF0FF, .x, s!"LD DT, V{x}"⟩
  | ldSound => ⟨"ld_st_vx", 0xF018, 0xF0FF, .x, s!"LD ST, V{x}"⟩
  | addI => ⟨"add_i_vx", 0xF01E, 0xF0FF, .x, s!"ADD I, V{x}"⟩
  | ldGlyph => ⟨"ld_f_vx", 0xF029, 0xF0FF, .x, s!"LD F, V{x}"⟩
  | ldDigits => ⟨"ld_b_vx", 0xF033, 0xF0FF, .x, s!"LD B, V{x}"⟩
  | store => ⟨"ld_mem_vx", 0xF055, 0xF0FF, .x, s!"LD [I], V{x}"⟩
  | load => ⟨"ld_vx_mem", 0xF065, 0xF0FF, .x, s!"LD V{x}, [I]"⟩

theorem mem_all (op : Op) : op ∈ all := by
  cases op <;> decide

end Op

end Chip8
