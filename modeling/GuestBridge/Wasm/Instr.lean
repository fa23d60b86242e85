import GuestBridge.Wasm.Binary
import GuestBridge.Wasm.Type

/-!
# Instructions

The instructions that the machine knows and how they are read. They are a part of those there are,
and code with any other is not read. Blocks contain their instructions, so a branch names a block by
the number of blocks between, and the reader (`readUntil`) takes instructions up to the byte that
ends the block.
-/

namespace GuestBridge

namespace Wasm

/-- What a block takes from the operands and leaves there. -/
inductive BlockType where
  | result (type : Option ValType)
  | declared (type : Nat)
  deriving DecidableEq, Repr

/-- What a block takes and leaves, as a function type. -/
def BlockType.type? (types : List FuncType) : BlockType → Option FuncType
  | result type => some ⟨[], type.toList⟩
  | declared index => types[index]?

/-- The operations on two words. -/
inductive BinaryOp where
  | addI32
  | subI32
  | mulI32
  | divI32
  | mulI64
  | mulF32
  | addF64
  deriving DecidableEq, Repr

/-- An instruction. Functions, globals and locals are named by their numbers. -/
inductive Instr where
  | unreachable
  | nop
  | block (type : BlockType) (body : List Instr)
  | loop (type : BlockType) (body : List Instr)
  | branch (type : BlockType) (yes no : List Instr)
  | br (depth : Nat)
  | brIf (depth : Nat)
  | call (function : Nat)
  | drop
  | localGet (index : Nat)
  | localSet (index : Nat)
  | globalGet (index : Nat)
  | globalSet (index : Nat)
  | load (type : WireType) (offset : Nat)
  | loadByte (offset : Nat)
  | store (type : WireType) (offset : Nat)
  | storeByte (offset : Nat)
  | memorySize
  | memoryGrow
  | const (value : Operand)
  | isZero
  | binary (op : BinaryOp)
  deriving Repr

/-! ## Types -/

/-- The type a byte stands for. -/
def refType? : UInt8 → Option RefType
  | 0x70 => some .function
  | 0x6F => some .external
  | _ => none

/-- The type a byte stands for. -/
def valType? : UInt8 → Option ValType
  | 0x7F => some (.word .i32)
  | 0x7E => some (.word .i64)
  | 0x7D => some (.word .f32)
  | 0x7C => some (.word .f64)
  | b => (refType? b).map .ref

def readRefType : Reader RefType := do
  let b ← readByte
  match refType? b with
  | some type => return type
  | none => failure

def readValType : Reader ValType := do
  let b ← readByte
  match valType? b with
  | some type => return type
  | none => failure

/-- The type of a block: none, one result, or a declared type. -/
def readBlockType : Reader BlockType := fun
  | 0x40 :: rest => some (.result none, rest)
  | bs =>
      match readValType bs with
      | some (type, rest) => some (.result (some type), rest)
      | none =>
          match readSigned 33 bs with
          | some (.ofNat index, rest) => some (.declared index, rest)
          | _ => none

/-! ## Instructions -/

/-- The byte that ends a block. -/
def endCode : UInt8 := 0x0B

/-- The byte that ends the first half of a branch. -/
def elseCode : UInt8 := 0x05

/-- The offset of a memory access, which comes after its alignment. The alignment is a power of two,
and its exponent is at most that of the size of the access. -/
def readOffset (exponent : Nat) : Reader Nat := do
  let alignment ← readU32
  if exponent < alignment then failure
  readU32

/-- The floating-point number in as many bytes as the format has. -/
def readBinary (f : Format) : Reader (Binary f) := do
  let bytes ← readBytes (f.width / 8)
  return ⟨BitVec.ofNat f.width (Bytes.ofLittleEndian bytes)⟩

def readMark (b : UInt8) : Reader Unit :=
  expectBytes [b]

/-- What follows the byte of an instruction that contains no others. -/
def readPlain : UInt8 → Reader Instr
  | 0x00 => return .unreachable
  | 0x01 => return .nop
  | 0x0C => .br <$> readU32
  | 0x0D => .brIf <$> readU32
  | 0x10 => .call <$> readU32
  | 0x1A => return .drop
  | 0x20 => .localGet <$> readU32
  | 0x21 => .localSet <$> readU32
  | 0x23 => .globalGet <$> readU32
  | 0x24 => .globalSet <$> readU32
  | 0x28 => .load .i32 <$> readOffset 2
  | 0x29 => .load .i64 <$> readOffset 3
  | 0x2A => .load .f32 <$> readOffset 2
  | 0x2B => .load .f64 <$> readOffset 3
  | 0x2D => .loadByte <$> readOffset 0
  | 0x36 => .store .i32 <$> readOffset 2
  | 0x37 => .store .i64 <$> readOffset 3
  | 0x38 => .store .f32 <$> readOffset 2
  | 0x39 => .store .f64 <$> readOffset 3
  | 0x3A => .storeByte <$> readOffset 0
  | 0x3F => do readMark 0; return .memorySize
  | 0x40 => do readMark 0; return .memoryGrow
  | 0x41 => do return .const (.word (.i32 (Int32.ofInt (← readSigned 32))))
  | 0x42 => do return .const (.word (.i64 (Int64.ofInt (← readSigned 64))))
  | 0x43 => do return .const (.word (.f32 (← readBinary Format.single)))
  | 0x44 => do return .const (.word (.f64 (← readBinary Format.double)))
  | 0x45 => return .isZero
  | 0x6A => return .binary .addI32
  | 0x6B => return .binary .subI32
  | 0x6C => return .binary .mulI32
  | 0x6D => return .binary .divI32
  | 0x7E => return .binary .mulI64
  | 0x94 => return .binary .mulF32
  | 0xA0 => return .binary .addF64
  | 0xD0 => do return .const (.null (← readRefType))
  | _ => failure

/-- Instructions that go up to the end of a block. `sequence` reads instructions and the byte that
ends them. -/
def readBody (sequence : Reader (List Instr × UInt8)) : Reader (List Instr) := do
  let (body, ending) ← sequence
  if ending = endCode then return body else failure

/-- What follows the byte of an instruction. `sequence` reads the instructions it contains. -/
def readInstr (sequence : Reader (List Instr × UInt8)) : UInt8 → Reader Instr
  | 0x02 => do return .block (← readBlockType) (← readBody sequence)
  | 0x03 => do return .loop (← readBlockType) (← readBody sequence)
  | 0x04 => do
      let type ← readBlockType
      let (yes, ending) ← sequence
      if ending = endCode then return .branch type yes []
      else return .branch type yes (← readBody sequence)
  | code => readPlain code

/-- Instructions up to the byte that ends them, and that byte. Every instruction takes a byte, so as
much `fuel` as there are bytes is enough. -/
def readUntil : Nat → Reader (List Instr × UInt8)
  | 0 => failure
  | fuel + 1 => do
      let code ← readByte
      if code = endCode ∨ code = elseCode then return ([], code)
      let instr ← readInstr (readUntil fuel) code
      let (rest, ending) ← readUntil fuel
      return (instr :: rest, ending)

/-- Instructions up to the end of their block. -/
def readExpression : Reader (List Instr) := do
  let bytes ← get
  readBody (readUntil bytes.length)

end Wasm

end GuestBridge
