import Quadstack.InstructionSet.Operation
import Quadstack.Text.Numeral

/-!
The table of operation codes. An instruction word carries a twelve-bit code; 161 of the 4096
codes are named here, and the numbers are fixed by the program format. One row per
opcode gives its code, its name, its mnemonic and what it does, and looking a code up is a search
of these rows, which are all there and carry different codes. A code without a row is not an
error when it is executed: it is reserved, like the rows for displays, casts, floats and
constants, and goes to the peripheral.
-/

namespace Quadstack

/-- The named operations, in the order of their codes. -/
inductive Opcode where
  | nop | sleep
  | let8 | let16 | let32 | letA
  | dbgS | dbg8 | dbg16 | dbg32
  | cpy8 | cpy16 | cpy32 | cpyA | mov8 | mov16 | mov32 | movA | swp8 | swp16 | swp32 | swpA
  | peekD8 | peekD16 | peekD32 | sptr | del8 | del16 | del32 | mmcp
  | add8 | add16 | add32 | addF | sub8 | sub16 | sub32 | subF | mul8 | mul16 | mul32 | mulF | div8
  | div16 | div32 | divF | divU8 | divU16 | divU32 | mod8 | mod16 | mod32 | modF | modU8 | modU16
  | modU32
  | sr8 | sr16 | sr32 | sl8 | sl16 | sl32 | ssr8 | ssr16 | ssr32
  | and8 | and16 | and32 | or8 | or16 | or32 | not8 | not16 | not32 | nor8 | nor16 | nor32 | nand8
  | nand16 | nand32 | xor8 | xor16 | xor32 | neg8 | neg16 | neg32
  | cast8To16 | cast8To32 | cast16To8 | cast16To32 | cast32To8 | cast32To16 | cast8UTo16U
  | cast8UTo32U | cast16UTo8U | cast16UTo32U | cast32UTo8U | cast32UTo16U | castFTo32 | cast32ToF
  | jmp | jmpZ | jmpNZ | jmpN | jmpNN
  | br | brZ | brNZ | brN | brNN
  | call | ret
  | endAlways | endZ | endN
  | clr | oled | getPix | fill | font | print | color | point | hLine | vLine | line | rect
  | lRect | elips | lElips | circl | lCircl | sprt | poly | bitm | swBuff | gMode | mirror
  | const8Neg1 | const8Zero | const8One | const8Two | const16Neg1 | const16Zero | const16One
  | const16Two | const32Neg1 | const32Zero | const32One | const32Two | constFNeg1 | constFZero
  | constFOne | constFTwo
  | processorId | wifiId | btn | standby | powerOff | doom | rick
deriving DecidableEq

namespace Opcode

/-- Everything that is fixed for an opcode. -/
structure Row where
  code : UInt16
  name : String
  mnemonic : String
  operation : Operation

/-- The table. -/
def row : Opcode → Row
  | .nop => ⟨0x000, "Nop", "NOP", .nop⟩
  | .sleep => ⟨0x002, "Sleep", "SLEEP", .reserved⟩
  | .let8 => ⟨0x004, "Let8", "LET8", .literal .w8⟩
  | .let16 => ⟨0x005, "Let16", "LET16", .literal .w16⟩
  | .let32 => ⟨0x006, "Let32", "LET32", .literal .w32⟩
  | .letA => ⟨0x007, "LetA", "LETA", .literal .w32⟩
  | .dbgS => ⟨0x008, "DbgS", "DBGS", .debugText⟩
  | .dbg8 => ⟨0x009, "Dbg8", "DBG8", .debugValue .w8⟩
  | .dbg16 => ⟨0x00a, "Dbg16", "DBG16", .debugValue .w16⟩
  | .dbg32 => ⟨0x00b, "Dbg32", "DBG32", .debugValue .w32⟩
  | .cpy8 => ⟨0x00d, "Cpy8", "CPY8", .copy .w8⟩
  | .cpy16 => ⟨0x00e, "Cpy16", "CPY16", .copy .w16⟩
  | .cpy32 => ⟨0x00f, "Cpy32", "CPY32", .copy .w32⟩
  | .cpyA => ⟨0x010, "CpyA", "CPYA", .copy .w32⟩
  | .mov8 => ⟨0x011, "Mov8", "MOV8", .move .w8⟩
  | .mov16 => ⟨0x012, "Mov16", "MOV16", .move .w16⟩
  | .mov32 => ⟨0x013, "Mov32", "MOV32", .move .w32⟩
  | .movA => ⟨0x014, "MovA", "MOVA", .move .w32⟩
  | .swp8 => ⟨0x015, "Swp8", "SWP8", .swap .w8⟩
  | .swp16 => ⟨0x016, "Swp16", "SWP16", .swap .w16⟩
  | .swp32 => ⟨0x017, "Swp32", "SWP32", .swap .w32⟩
  | .swpA => ⟨0x018, "SwpA", "SWPA", .swap .w32⟩
  | .peekD8 => ⟨0x019, "PeekD8", "PEEKD8", .peekDeep .w8⟩
  | .peekD16 => ⟨0x01a, "PeekD16", "PEEKD16", .peekDeep .w16⟩
  | .peekD32 => ⟨0x01b, "PeekD32", "PEEKD32", .peekDeep .w32⟩
  | .sptr => ⟨0x01c, "Sptr", "SPTR", .stackPointer⟩
  | .del8 => ⟨0x01d, "Del8", "DEL8", .delete .w8⟩
  | .del16 => ⟨0x01e, "Del16", "DEL16", .delete .w16⟩
  | .del32 => ⟨0x01f, "Del32", "DEL32", .delete .w32⟩
  | .mmcp => ⟨0x02d, "Mmcp", "MMCP", .reserved⟩
  | .add8 => ⟨0x030, "Add8", "ADD8", .arith .add .w8⟩
  | .add16 => ⟨0x031, "Add16", "ADD16", .arith .add .w16⟩
  | .add32 => ⟨0x032, "Add32", "ADD32", .arith .add .w32⟩
  | .addF => ⟨0x033, "AddF", "ADDF", .reserved⟩
  | .sub8 => ⟨0x034, "Sub8", "SUB8", .arith .sub .w8⟩
  | .sub16 => ⟨0x035, "Sub16", "SUB16", .arith .sub .w16⟩
  | .sub32 => ⟨0x036, "Sub32", "SUB32", .arith .sub .w32⟩
  | .subF => ⟨0x037, "SubF", "SUBF", .reserved⟩
  | .mul8 => ⟨0x038, "Mul8", "MUL8", .arith .mul .w8⟩
  | .mul16 => ⟨0x039, "Mul16", "MUL16", .arith .mul .w16⟩
  | .mul32 => ⟨0x03a, "Mul32", "MUL32", .arith .mul .w32⟩
  | .mulF => ⟨0x03b, "MulF", "MULF", .reserved⟩
  | .div8 => ⟨0x03c, "Div8", "DIV8", .arith .div .w8⟩
  | .div16 => ⟨0x03d, "Div16", "DIV16", .arith .div .w16⟩
  | .div32 => ⟨0x03e, "Div32", "DIV32", .arith .div .w32⟩
  | .divF => ⟨0x03f, "DivF", "DIVF", .reserved⟩
  | .divU8 => ⟨0x040, "DivU8", "DIVU8", .arith .divU .w8⟩
  | .divU16 => ⟨0x041, "DivU16", "DIVU16", .arith .divU .w16⟩
  | .divU32 => ⟨0x042, "DivU32", "DIVU32", .arith .divU .w32⟩
  | .mod8 => ⟨0x043, "Mod8", "MOD8", .arith .mod .w8⟩
  | .mod16 => ⟨0x044, "Mod16", "MOD16", .arith .mod .w16⟩
  | .mod32 => ⟨0x045, "Mod32", "MOD32", .arith .mod .w32⟩
  | .modF => ⟨0x046, "ModF", "MODF", .reserved⟩
  | .modU8 => ⟨0x047, "ModU8", "MODU8", .arith .modU .w8⟩
  | .modU16 => ⟨0x048, "ModU16", "MODU16", .arith .modU .w16⟩
  | .modU32 => ⟨0x049, "ModU32", "MODU32", .arith .modU .w32⟩
  | .sr8 => ⟨0x04a, "Sr8", "SR8", .shift .right .w8⟩
  | .sr16 => ⟨0x04b, "Sr16", "SR16", .shift .right .w16⟩
  | .sr32 => ⟨0x04c, "Sr32", "SR32", .shift .right .w32⟩
  | .sl8 => ⟨0x04d, "Sl8", "SL8", .shift .left .w8⟩
  | .sl16 => ⟨0x04e, "Sl16", "SL16", .shift .left .w16⟩
  | .sl32 => ⟨0x04f, "Sl32", "SL32", .shift .left .w32⟩
  | .ssr8 => ⟨0x050, "Ssr8", "SSR8", .shift .rightSigned .w8⟩
  | .ssr16 => ⟨0x051, "Ssr16", "SSR16", .shift .rightSigned .w16⟩
  | .ssr32 => ⟨0x052, "Ssr32", "SSR32", .shift .rightSigned .w32⟩
  | .and8 => ⟨0x053, "And8", "AND8", .logic .and .w8⟩
  | .and16 => ⟨0x054, "And16", "AND16", .logic .and .w16⟩
  | .and32 => ⟨0x055, "And32", "AND32", .logic .and .w32⟩
  | .or8 => ⟨0x056, "Or8", "OR8", .logic .or .w8⟩
  | .or16 => ⟨0x057, "Or16", "OR16", .logic .or .w16⟩
  | .or32 => ⟨0x058, "Or32", "OR32", .logic .or .w32⟩
  | .not8 => ⟨0x059, "Not8", "NOT8", .unary .not .w8⟩
  | .not16 => ⟨0x05a, "Not16", "NOT16", .unary .not .w16⟩
  | .not32 => ⟨0x05b, "Not32", "NOT32", .unary .not .w32⟩
  | .nor8 => ⟨0x05c, "Nor8", "NOR8", .logic .nor .w8⟩
  | .nor16 => ⟨0x05d, "Nor16", "NOR16", .logic .nor .w16⟩
  | .nor32 => ⟨0x05e, "Nor32", "NOR32", .logic .nor .w32⟩
  | .nand8 => ⟨0x05f, "Nand8", "NAND8", .logic .nand .w8⟩
  | .nand16 => ⟨0x060, "Nand16", "NAND16", .logic .nand .w16⟩
  | .nand32 => ⟨0x061, "Nand32", "NAND32", .logic .nand .w32⟩
  | .xor8 => ⟨0x062, "Xor8", "XOR8", .logic .xor .w8⟩
  | .xor16 => ⟨0x063, "Xor16", "XOR16", .logic .xor .w16⟩
  | .xor32 => ⟨0x064, "Xor32", "XOR32", .logic .xor .w32⟩
  | .neg8 => ⟨0x065, "Neg8", "NEG8", .unary .neg .w8⟩
  | .neg16 => ⟨0x066, "Neg16", "NEG16", .unary .neg .w16⟩
  | .neg32 => ⟨0x067, "Neg32", "NEG32", .unary .neg .w32⟩
  | .cast8To16 => ⟨0x0fd, "C8T16", "C8T16", .reserved⟩
  | .cast8To32 => ⟨0x0fe, "C8T32", "C8T32", .reserved⟩
  | .cast16To8 => ⟨0x0ff, "C16T8", "C16T8", .reserved⟩
  | .cast16To32 => ⟨0x100, "C16T32", "C16T32", .reserved⟩
  | .cast32To8 => ⟨0x101, "C32T8", "C32T8", .reserved⟩
  | .cast32To16 => ⟨0x102, "C32T16", "C32T16", .reserved⟩
  | .cast8UTo16U => ⟨0x103, "C8UT16U", "C8UT16U", .reserved⟩
  | .cast8UTo32U => ⟨0x104, "C8UT32U", "C8UT32U", .reserved⟩
  | .cast16UTo8U => ⟨0x105, "C16UT8U", "C16UT8U", .reserved⟩
  | .cast16UTo32U => ⟨0x106, "C16UT32U", "C16UT32U", .reserved⟩
  | .cast32UTo8U => ⟨0x107, "C32UT8U", "C32UT8U", .reserved⟩
  | .cast32UTo16U => ⟨0x108, "C32UT16U", "C32UT16U", .reserved⟩
  | .castFTo32 => ⟨0x109, "CFT32", "CFT32", .reserved⟩
  | .cast32ToF => ⟨0x10a, "C32TF", "C32TF", .reserved⟩
  | .jmp => ⟨0x110, "Jmp", "JMP", .jump .always⟩
  | .jmpZ => ⟨0x111, "JmpZ", "JMPZ", .jump .zero⟩
  | .jmpNZ => ⟨0x112, "JmpNZ", "JMPNZ", .jump .notZero⟩
  | .jmpN => ⟨0x113, "JmpN", "JMPN", .jump .negative⟩
  | .jmpNN => ⟨0x114, "JmpNN", "JMPNN", .jump .notNegative⟩
  | .br => ⟨0x118, "Br", "BR", .branch .always⟩
  | .brZ => ⟨0x119, "BrZ", "BRZ", .branch .zero⟩
  | .brNZ => ⟨0x11a, "BrNZ", "BRNZ", .branch .notZero⟩
  | .brN => ⟨0x11b, "BrN", "BRN", .branch .negative⟩
  | .brNN => ⟨0x11c, "BrNN", "BRNN", .branch .notNegative⟩
  | .call => ⟨0x120, "Call", "CALL", .call⟩
  | .ret => ⟨0x121, "Ret", "RET", .ret⟩
  | .endAlways => ⟨0x128, "End", "END", .halt .always⟩
  | .endZ => ⟨0x129, "EndZ", "ENDZ", .halt .zero⟩
  | .endN => ⟨0x12a, "EndN", "ENDN", .halt .negative⟩
  | .clr => ⟨0x139, "Clr", "CLR", .reserved⟩
  | .oled => ⟨0x13a, "Oled", "OLED", .reserved⟩
  | .getPix => ⟨0x13b, "GetPix", "GETPIX", .reserved⟩
  | .fill => ⟨0x13c, "Fill", "FILL", .reserved⟩
  | .font => ⟨0x13e, "Font", "FONT", .reserved⟩
  | .print => ⟨0x13f, "Print", "PRINT", .reserved⟩
  | .color => ⟨0x140, "Color", "COLOR", .reserved⟩
  | .point => ⟨0x141, "Point", "POINT", .reserved⟩
  | .hLine => ⟨0x142, "HLine", "HLINE", .reserved⟩
  | .vLine => ⟨0x143, "VLine", "VLINE", .reserved⟩
  | .line => ⟨0x144, "Line", "LINE", .reserved⟩
  | .rect => ⟨0x145, "Rect", "RECT", .reserved⟩
  | .lRect => ⟨0x146, "LRect", "LRECT", .reserved⟩
  | .elips => ⟨0x147, "Elips", "ELIPS", .reserved⟩
  | .lElips => ⟨0x148, "LElips", "LELIPS", .reserved⟩
  | .circl => ⟨0x149, "Circl", "CIRCL", .reserved⟩
  | .lCircl => ⟨0x14a, "LCircl", "LCIRCL", .reserved⟩
  | .sprt => ⟨0x14b, "Sprt", "SPRT", .reserved⟩
  | .poly => ⟨0x14c, "Poly", "POLY", .reserved⟩
  | .bitm => ⟨0x14d, "Bitm", "BITM", .reserved⟩
  | .swBuff => ⟨0x14e, "SwBuff", "SWBUFF", .reserved⟩
  | .gMode => ⟨0x14f, "GMode", "GMODE", .reserved⟩
  | .mirror => ⟨0x150, "Mirror", "MIRROR", .reserved⟩
  | .const8Neg1 => ⟨0x159, "Const8Neg1", "CONST8_M1", .reserved⟩
  | .const8Zero => ⟨0x15a, "Const8Zero", "CONST8_0", .reserved⟩
  | .const8One => ⟨0x15b, "Const8One", "CONST8_1", .reserved⟩
  | .const8Two => ⟨0x15c, "Const8Two", "CONST8_2", .reserved⟩
  | .const16Neg1 => ⟨0x15d, "Const16Neg1", "CONST16_M1", .reserved⟩
  | .const16Zero => ⟨0x15e, "Const16Zero", "CONST16_0", .reserved⟩
  | .const16One => ⟨0x15f, "Const16One", "CONST16_1", .reserved⟩
  | .const16Two => ⟨0x160, "Const16Two", "CONST16_2", .reserved⟩
  | .const32Neg1 => ⟨0x161, "Const32Neg1", "CONST32_M1", .reserved⟩
  | .const32Zero => ⟨0x162, "Const32Zero", "CONST32_0", .reserved⟩
  | .const32One => ⟨0x163, "Const32One", "CONST32_1", .reserved⟩
  | .const32Two => ⟨0x164, "Const32Two", "CONST32_2", .reserved⟩
  | .constFNeg1 => ⟨0x165, "ConstFNeg1", "CONSTF_M1", .reserved⟩
  | .constFZero => ⟨0x166, "ConstFZero", "CONSTF_0", .reserved⟩
  | .constFOne => ⟨0x167, "ConstFOne", "CONSTF_1", .reserved⟩
  | .constFTwo => ⟨0x168, "ConstFTwo", "CONSTF_2", .reserved⟩
  | .processorId => ⟨0x1a1, "ProcessorId", "PROCESSOR_ID", .reserved⟩
  | .wifiId => ⟨0x1a2, "WifiId", "WIFI_ID", .reserved⟩
  | .btn => ⟨0x1a6, "Btn", "BTN", .reserved⟩
  | .standby => ⟨0x1aa, "Standby", "STANDBY", .reserved⟩
  | .powerOff => ⟨0x1ab, "PowerOff", "POWEROFF", .reserved⟩
  | .doom => ⟨0x29a, "Doom", "DOOM", .reserved⟩
  | .rick => ⟨0x539, "Rick", "RICK", .reserved⟩

/-- Every opcode once, in the order of the codes. -/
def all : List Opcode := [
  .nop, .sleep, .let8, .let16, .let32, .letA, .dbgS, .dbg8, .dbg16, .dbg32, .cpy8, .cpy16, .cpy32,
  .cpyA, .mov8, .mov16, .mov32, .movA, .swp8, .swp16, .swp32, .swpA, .peekD8, .peekD16, .peekD32,
  .sptr, .del8, .del16, .del32, .mmcp, .add8, .add16, .add32, .addF, .sub8, .sub16, .sub32, .subF,
  .mul8, .mul16, .mul32, .mulF, .div8, .div16, .div32, .divF, .divU8, .divU16, .divU32, .mod8,
  .mod16, .mod32, .modF, .modU8, .modU16, .modU32, .sr8, .sr16, .sr32, .sl8, .sl16, .sl32, .ssr8,
  .ssr16, .ssr32, .and8, .and16, .and32, .or8, .or16, .or32, .not8, .not16, .not32, .nor8, .nor16,
  .nor32, .nand8, .nand16, .nand32, .xor8, .xor16, .xor32, .neg8, .neg16, .neg32, .cast8To16,
  .cast8To32, .cast16To8, .cast16To32, .cast32To8, .cast32To16, .cast8UTo16U, .cast8UTo32U,
  .cast16UTo8U, .cast16UTo32U, .cast32UTo8U, .cast32UTo16U, .castFTo32, .cast32ToF, .jmp, .jmpZ,
  .jmpNZ, .jmpN, .jmpNN, .br, .brZ, .brNZ, .brN, .brNN, .call, .ret, .endAlways, .endZ, .endN,
  .clr, .oled, .getPix, .fill, .font, .print, .color, .point, .hLine, .vLine, .line, .rect,
  .lRect, .elips, .lElips, .circl, .lCircl, .sprt, .poly, .bitm, .swBuff, .gMode, .mirror,
  .const8Neg1, .const8Zero, .const8One, .const8Two, .const16Neg1, .const16Zero, .const16One,
  .const16Two, .const32Neg1, .const32Zero, .const32One, .const32Two, .constFNeg1, .constFZero,
  .constFOne, .constFTwo, .processorId, .wifiId, .btn, .standby, .powerOff, .doom, .rick]

def code (opcode : Opcode) : UInt16 := opcode.row.code

def name (opcode : Opcode) : String := opcode.row.name

def mnemonic (opcode : Opcode) : String := opcode.row.mnemonic

def operation (opcode : Opcode) : Operation := opcode.row.operation

/-- The opcode with the given code, if the table has one. -/
def ofCode? (code : UInt16) : Option Opcode :=
  all.find? (·.code == code)

/-- The opcode with the given mnemonic, if the table has one. -/
def ofMnemonic? (mnemonic : String) : Option Opcode :=
  all.find? (·.mnemonic == mnemonic)

theorem mem_all (opcode : Opcode) : opcode ∈ all := by
  cases opcode <;> decide +kernel

/-- A code leads back to its own row, so no two rows share one. -/
theorem ofCode?_code (opcode : Opcode) : ofCode? opcode.code = some opcode := by
  have everyRow : ∀ entry ∈ all, ofCode? entry.code = some entry := by decide +kernel
  exact everyRow opcode (mem_all opcode)

end Opcode

/-! ### Resolving a code -/

/-- Why a code names no opcode. -/
inductive CodeError where
  /-- A twelve-bit code without a row in the table. -/
  | unknown (code : UInt16)
  /-- A number too large to be a code. -/
  | outOfRange (code : UInt16)
deriving DecidableEq

def CodeError.message : CodeError → String
  | .unknown code => "unknown opcode: " ++ Numeral.code code
  | .outOfRange code => "opcode " ++ Numeral.marked 4 code.toNat ++ " does not fit in 12 bits"

/-- The opcode of a code, or why there is none. -/
def Opcode.resolve (code : UInt16) : Except CodeError Opcode :=
  if code ≥ 0x1000 then .error (.outOfRange code)
  else
    match ofCode? code with
    | some opcode => .ok opcode
    | none => .error (.unknown code)

/-- What an instruction with this code does. Codes without a row are reserved. -/
def Operation.ofCode (code : UInt16) : Operation :=
  match Opcode.ofCode? code with
  | some opcode => opcode.operation
  | none => .reserved

end Quadstack
