import GuestBridge.SortedMap
import GuestBridge.Wasm.Extern
import GuestBridge.Wasm.Instr

/-!
# Modules

A `Module` as its binary form declares it. `Module.read` takes it from the sections of a binary,
each read whole, and answers only a module that is in order: sections come in the order of their
numbers, what is named by a number is there, and no two exports have one name. Exports are kept in
the order of their names. Functions are numbered from the imported ones on, and so is everything
else that can be imported.
-/

namespace GuestBridge

namespace Wasm

/-- What is exported, and its number among its like. -/
structure Target where
  item : Item
  index : Nat
  deriving DecidableEq, Repr

/-- The size of a memory at first, and the size it may grow to, in pages. -/
structure Limits where
  least : Nat
  most : Option Nat
  deriving DecidableEq, Repr

/-- The most pages a memory may have. -/
def maxPages : Nat := 65536

/-- A function of the module: its type, its local variables beyond its parameters, and its body. -/
structure GuestFunction where
  type : FuncType
  locals : List ValType
  body : List Instr
  deriving Repr

/-- A global: the value it has at first, and whether it can be assigned to. -/
structure Global where
  value : Operand
  assignable : Bool
  deriving DecidableEq, Repr

def Global.type (g : Global) : GlobalType :=
  ⟨g.value.type, g.assignable⟩

/-- Bytes to be in memory from the start. -/
structure DataSegment where
  offset : Nat
  bytes : Bytes
  deriving DecidableEq, Repr

/-- A module. -/
structure Module where
  types : List FuncType
  imports : List Import
  functions : List GuestFunction
  memory : Option Limits
  globals : List Global
  exports : SortedMap String Target
  start : Option Nat
  data : List DataSegment

namespace Module

/-- The types of the functions, by their numbers. -/
def functionTypes (m : Module) : List FuncType :=
  m.imports.filterMap (fun i => i.type.function?) ++ m.functions.map GuestFunction.type

/-- The types of the globals, by their numbers. -/
def globalTypes (m : Module) : List GlobalType :=
  m.imports.filterMap (fun i => i.type.global?) ++ m.globals.map Global.type

/-- How many things of a sort are imported. -/
def importCount (m : Module) (item : Item) : Nat :=
  (m.imports.filter fun i => i.type.item = item).length

/-- How many things of a sort there are. -/
def count (m : Module) : Item → Nat
  | .function => m.functionTypes.length
  | .table => m.importCount .table
  | .memory => m.importCount .memory + m.memory.toList.length
  | .global => m.globalTypes.length

/-- The type of what is exported. -/
def exportType? (m : Module) (t : Target) : Option ExternType :=
  match t.item with
  | .function => m.functionTypes[t.index]?.map .function
  | .table => some .table
  | .memory => some .memory
  | .global => m.globalTypes[t.index]?.map .global

/-- The exports with their types, in the order of their names. -/
def exportTypes (m : Module) : List (String × ExternType) :=
  m.exports.entries.filterMap fun (name, t) => (m.exportType? t).map (name, ·)

/-- Every number is that of something. -/
def isOrderly (m : Module) : Bool :=
  m.exports.entries.all (fun (_, t) => t.index < m.count t.item)
    && m.start.all (fun index => m.functionTypes[index]? = some ⟨[], []⟩)
    && (m.data.isEmpty || 0 < m.count .memory)

end Module

/-! ## The sections of a binary -/

/-- The sections, up to the end of the bytes. -/
def readSections (bs : Bytes) : Option (List Section) :=
  if bs.isEmpty then some []
  else
    match _h : readSection bs with
    | none => none
    | some (s, rest) => (readSections rest).map (s :: ·)
termination_by bs.length
decreasing_by exact length_readSection_lt (by assumption)

/-- The numbers of the sections a module can have, custom ones apart, in their order. -/
def sectionIds : List UInt8 := [1, 2, 3, 5, 6, 7, 8, 10, 11]

/-- What a reader reads from the whole section of a number, or `missing` if there is no such
section. -/
def readPart {α : Type} (sections : List Section) (id : UInt8) (missing : α) (r : Reader α) :
    Option α :=
  match sections.find? fun s => s.id = id with
  | none => some missing
  | some s => readAll r s.content

/-! ## What stands in them -/

/-- The answer, if there is one. -/
def fromOption {α : Type} : Option α → Reader α
  | some a => return a
  | none => failure

def readFuncType : Reader FuncType := do
  expectBytes [0x60]
  return ⟨← readVector readValType, ← readVector readValType⟩

/-- Limits, of which the upper one may be missing. Neither may be above `bound`. -/
def readLimits (bound : Nat) : Reader Limits := do
  let flag ← readByte
  let least ← readU32
  let most ← match flag with
    | 0 => pure none
    | 1 => some <$> readU32
    | _ => failure
  if least ≤ most.getD bound ∧ most.getD bound ≤ bound then return ⟨least, most⟩ else failure

def readMemoryType : Reader Limits :=
  readLimits maxPages

def readTypeUse (types : List FuncType) : Reader FuncType := do
  let index ← readU32
  fromOption types[index]?

def readGlobalType : Reader GlobalType := do
  let type ← readValType
  let flag ← readByte
  match flag with
  | 0 => return ⟨type, false⟩
  | 1 => return ⟨type, true⟩
  | _ => failure

def readImportType (types : List FuncType) : Reader ExternType := do
  let kind ← readByte
  match kind with
  | 0 => .function <$> readTypeUse types
  | 1 => do
      let _ ← readRefType
      let _ ← readLimits (UInt32.size - 1)
      return .table
  | 2 => do
      let _ ← readMemoryType
      return .memory
  | 3 => .global <$> readGlobalType
  | _ => failure

def readImport (types : List FuncType) : Reader Import := do
  let name : ImportName := ⟨← readName, ← readName⟩
  return ⟨name, ← readImportType types⟩

/-- What is exported, by its byte. -/
def item? : UInt8 → Option Item
  | 0 => some .function
  | 1 => some .table
  | 2 => some .memory
  | 3 => some .global
  | _ => none

def readExport : Reader (String × Target) := do
  let name ← readName
  let item ← fromOption (item? (← readByte))
  return (name, ⟨item, ← readU32⟩)

/-- An expression that is one constant. -/
def readConstant : Reader Operand := do
  match ← readExpression with
  | [.const value] => return value
  | _ => failure

def readGlobal : Reader Global := do
  let type ← readGlobalType
  let value ← readConstant
  if value.type = type.type then return ⟨value, type.assignable⟩ else failure

/-- The most local variables a function may have. -/
def maxLocals : Nat := 50000

/-- The local variables and the body of a function. -/
def readCode : Reader (List ValType × List Instr) := do
  let groups ← readVector do
    let count ← readU32
    return (count, ← readValType)
  if maxLocals < groups.foldl (fun total (count, _) => total + count) 0 then failure
  return (groups.flatMap fun (count, type) => List.replicate count type, ← readExpression)

/-- The local variables and the body of a function, after their size. -/
def readSizedCode : Reader (List ValType × List Instr) := do
  let size ← readU32
  fromOption (readAll readCode (← readBytes size))

def readData : Reader DataSegment := do
  expectBytes [0]
  match ← readConstant with
  | .word (.i32 offset) =>
      let size ← readU32
      return ⟨offset.toUInt32.toNat, ← readBytes size⟩
  | _ => failure

/-- A list of at most one item. -/
def atMostOne? {α : Type} : List α → Option (Option α)
  | [] => some none
  | [a] => some (some a)
  | _ => none

/-- The module that sections declare. -/
def Module.ofSections (sections : List Section) : Option Module := do
  let vector {α : Type} (id : UInt8) (item : Reader α) := readPart sections id [] (readVector item)
  let types ← vector 1 readFuncType
  let imports ← vector 2 (readImport types)
  let declared ← vector 3 (readTypeUse types)
  let memory ← atMostOne? (← vector 5 readMemoryType)
  let globals ← vector 6 readGlobal
  let exports ← vector 7 readExport
  let start ← readPart sections 8 none (some <$> readU32)
  let codes ← vector 10 readSizedCode
  let data ← vector 11 readData
  if declared.length ≠ codes.length ∨ ¬ (exports.map Prod.fst).Nodup then none
  return {
    types := types
    imports := imports
    functions := (declared.zip codes).map fun (type, locals, body) => ⟨type, locals, body⟩
    memory := memory
    globals := globals
    exports := .ofList exports
    start := start
    data := data }

/-- The module of a binary, if it is in order. -/
def Module.read (binary : Bytes) : Option Module := do
  let (_, contents) ← expectBytes moduleHeader binary
  let (custom, sections) := (← readSections contents).partition fun s => s.id = customId
  let ids := sections.map Section.id
  if custom.all (fun s => (readCustom s.content).isSome)
      && ids.Pairwise (· < ·) && ids.all (sectionIds.contains ·) then
    (Module.ofSections sections).filter Module.isOrderly
  else none

end Wasm

end GuestBridge
