import GuestBridge.Wasm.Engine
import GuestBridge.Wasm.Module
import GuestBridge.Wasm.Operation

/-!
# The machine

How guests run. A `CallStack` is made of the calls under way in a guest (`Frame`), each with the
instructions it has yet to do, its operands and the blocks around it, all with the top in front. A
`Store` is what outlives calls. `step` does one instruction or leaves one block. A `Thread` is a
call from outside, and `Thread.advance` goes on with it step by step.
-/

namespace GuestBridge

namespace Wasm

/-! ## What is fixed and what changes -/

/-- A function that can be called. -/
inductive Callee where
  | host (i : LinkedImport)
  | guest (f : GuestFunction)

def Callee.type : Callee → FuncType
  | host i => bindingType i.binding
  | guest f => f.type

/-- A module with its functions, by their numbers. -/
structure Instance where
  module : Module
  functions : List Callee

namespace Instance

/-- The exported function of a name. -/
def function? (inst : Instance) (name : String) : Option Callee :=
  match inst.module.exports.get? name with
  | some ⟨.function, index⟩ => inst.functions[index]?
  | _ => none

/-- The name is that of an exported memory. -/
def exportsMemory (inst : Instance) (name : String) : Bool :=
  match inst.module.exports.get? name with
  | some ⟨.memory, _⟩ => true
  | _ => false

/-- The most pages the memory may have. -/
def pageLimit (inst : Instance) : Nat :=
  (inst.module.memory.bind Limits.most).getD maxPages

end Instance

/-- What outlives a call: memory, the values of globals, and the fuel left, if it is limited. -/
structure Store where
  memory : Memory
  globals : List Operand
  fuel : Option Nat

/-- The store with one unit of fuel less, if there is one. -/
def Store.spend? (s : Store) : Option Store :=
  match s.fuel with
  | none => some s
  | some 0 => none
  | some (n + 1) => some { s with fuel := some n }

/-- A block that instructions are in: how many operands a branch to it takes along and what it goes
on with, what comes after the block, and the operands under those of the block. -/
structure Label where
  arity : Nat
  target : List Instr
  next : List Instr
  below : List Operand

/-- A call under way. -/
structure Frame where
  code : List Instr
  operands : List Operand
  labels : List Label
  locals : List Operand
  /-- How many operands are its results. -/
  arity : Nat

/-- Calls under way: the innermost one, those that wait for it, and how many there are at all. -/
structure CallStack where
  frame : Frame
  callers : List Frame
  depth : Nat

/-! ## Blocks and branches -/

namespace Frame

/-- Enters a block that takes as many operands as `params`. -/
def enter (params arity : Nat) (target body : List Instr) (f : Frame) : Frame :=
  { f with
    code := body
    operands := f.operands.take params
    labels := ⟨arity, target, f.code, f.operands.drop params⟩ :: f.labels }

/-- Branches to the block with as many blocks between as `depth`. A branch past all blocks leaves
the call. -/
def jump (depth : Nat) (f : Frame) : Frame :=
  match f.labels[depth]? with
  | some l =>
      { f with
        code := l.target
        operands := f.operands.take l.arity ++ l.below
        labels := f.labels.drop (depth + 1) }
  | none => { f with code := [], labels := [] }

end Frame

/-! ## Instructions -/

/-- The address an access goes to. -/
def effectiveAddress (base : Int32) (offset : Nat) : Nat :=
  base.toUInt32.toNat + offset

/-- The bytes of an access. -/
def fetch (s : Store) (base : Int32) (offset size : Nat) : Except Trap Bytes :=
  match s.memory.read? (effectiveAddress base offset) size with
  | some bytes => .ok bytes
  | none => .error .outOfBounds

/-- The store after an access that writes. -/
def put (s : Store) (base : Int32) (offset : Nat) (bytes : Bytes) : Except Trap Store :=
  match s.memory.write? (effectiveAddress base offset) bytes with
  | some memory => .ok { s with memory := memory }
  | none => .error .outOfBounds

/-- Adds pages to memory: the number there was before, or minus one if there is no room. -/
def growMemory (limit : Nat) (s : Store) (added : Nat) : Int32 × Store :=
  let pages := s.memory.pages
  if limit < pages + added then (-1, s)
  else (Int32.ofNat pages, { s with memory := s.memory.grow added })

/-- Does an instruction other than a call. The code of the frame is what comes after it. -/
def execute (inst : Instance) (instr : Instr) (f : Frame) (s : Store) :
    Except Trap (Frame × Store) :=
  match instr, f.operands with
  | .unreachable, _ => .error .unreachable
  | .nop, _ => .ok (f, s)
  | .block type body, _ =>
      match type.type? inst.module.types with
      | some t => .ok (f.enter t.params.length t.results.length f.code body, s)
      | none => .error .illTyped
  | .loop type body, _ =>
      match type.type? inst.module.types with
      | some t => .ok (f.enter t.params.length t.params.length (.loop type body :: f.code) body, s)
      | none => .error .illTyped
  | .branch type yes no, .word (.i32 c) :: ops =>
      match type.type? inst.module.types with
      | some t =>
          let f := { f with operands := ops }
          .ok (f.enter t.params.length t.results.length f.code (if c = 0 then no else yes), s)
      | none => .error .illTyped
  | .br depth, _ => .ok (f.jump depth, s)
  | .brIf depth, .word (.i32 c) :: ops =>
      let f := { f with operands := ops }
      .ok (if c = 0 then f else f.jump depth, s)
  | .drop, _ :: ops => .ok ({ f with operands := ops }, s)
  | .localGet index, ops =>
      match f.locals[index]? with
      | some v => .ok ({ f with operands := v :: ops }, s)
      | none => .error .illTyped
  | .localSet index, v :: ops =>
      .ok ({ f with operands := ops, locals := f.locals.set index v }, s)
  | .globalGet index, ops =>
      match s.globals[index]? with
      | some v => .ok ({ f with operands := v :: ops }, s)
      | none => .error .illTyped
  | .globalSet index, v :: ops =>
      .ok ({ f with operands := ops }, { s with globals := s.globals.set index v })
  | .load type offset, .word (.i32 base) :: ops => do
      let bytes ← fetch s base offset (wordSize type)
      return ({ f with operands := .word (wordOfBytes bytes type) :: ops }, s)
  | .loadByte offset, .word (.i32 base) :: ops => do
      let bytes ← fetch s base offset 1
      return ({ f with operands := .word (wordOfBytes bytes .i32) :: ops }, s)
  | .store _ offset, .word w :: .word (.i32 base) :: ops => do
      let s ← put s base offset (wordBytes w)
      return ({ f with operands := ops }, s)
  | .storeByte offset, .word (.i32 v) :: .word (.i32 base) :: ops => do
      let s ← put s base offset [v.toUInt32.toUInt8]
      return ({ f with operands := ops }, s)
  | .memorySize, ops =>
      .ok ({ f with operands := .word (.i32 (Int32.ofNat s.memory.pages)) :: ops }, s)
  | .memoryGrow, .word (.i32 added) :: ops =>
      let (before, s) := growMemory inst.pageLimit s added.toUInt32.toNat
      .ok ({ f with operands := .word (.i32 before) :: ops }, s)
  | .const v, ops => .ok ({ f with operands := v :: ops }, s)
  | .isZero, .word (.i32 v) :: ops => .ok ({ f with operands := .ofBool (v = 0) :: ops }, s)
  | .binary op, .word b :: .word a :: ops => do
      let w ← op.apply a b
      return ({ f with operands := .word w :: ops }, s)
  | _, _ => .error .illTyped

/-! ## Calls in a guest -/

/-- The most calls there may be at a time. -/
def maxDepth : Nat := 1024

/-- What comes of a step. -/
inductive StepResult where
  | running (k : CallStack)
  | finished (results : List Operand)
  /-- The guest calls the host and waits for words. -/
  | calling (i : LinkedImport) (args : List Operand) (k : CallStack)

namespace GuestFunction

/-- The start of a call. -/
def frame (f : GuestFunction) (args : List Operand) : Frame where
  code := f.body
  operands := []
  labels := []
  locals := args ++ f.locals.map Operand.initial
  arity := f.type.results.length

end GuestFunction

namespace CallStack

/-- A call of a guest function from outside, with as many calls under way as `depth`. -/
def start (f : GuestFunction) (args : List Operand) (depth : Nat) : CallStack :=
  ⟨f.frame args, [], depth + 1⟩

/-- The stack with operands put on top, the last of them at the top. -/
def push (k : CallStack) (operands : List Operand) : CallStack :=
  { k with frame := { k.frame with operands := operands.reverse ++ k.frame.operands } }

/-- Calls a function with the operands on top. -/
def call (k : CallStack) (c : Callee) : Except Trap StepResult :=
  let arity := c.type.params.length
  let args := (k.frame.operands.take arity).reverse
  let caller := { k.frame with operands := k.frame.operands.drop arity }
  if args.map Operand.type ≠ c.type.params then .error .illTyped
  else
    match c with
    | .host i => .ok (.calling i args { k with frame := caller })
    | .guest f =>
        if maxDepth ≤ k.depth then .error .stackExhausted
        else .ok (.running ⟨f.frame args, caller :: k.callers, k.depth + 1⟩)

/-- Leaves a block, or the call if there is no block left. -/
def leave (k : CallStack) : StepResult :=
  let f := k.frame
  match f.labels, k.callers with
  | l :: labels, _ =>
      .running { k with
        frame := { f with code := l.next, operands := f.operands ++ l.below, labels := labels } }
  | [], caller :: callers =>
      let results := f.operands.take f.arity
      .running ⟨{ caller with operands := results ++ caller.operands }, callers, k.depth - 1⟩
  | [], [] => .finished (f.operands.take f.arity).reverse

end CallStack

/-- Does one step of a call. -/
def step (inst : Instance) (k : CallStack) (s : Store) : Except Trap (StepResult × Store) :=
  match k.frame.code with
  | [] => .ok (k.leave, s)
  | .call index :: rest =>
      match inst.functions[index]? with
      | some c => do
          let result ← { k with frame := { k.frame with code := rest } : CallStack }.call c
          return (result, s)
      | none => .error .illTyped
  | instr :: rest => do
      let (frame, s) ← execute inst instr { k.frame with code := rest } s
      return (.running { k with frame := frame }, s)

/-! ## Calls from outside -/

/-- The operands are those of the function, and it has as many results as wanted. -/
def FuncType.admits (t : FuncType) (args : List Operand) (results : Nat) : Except Trap Unit :=
  if args.length ≠ t.params.length then .error .argumentCount
  else if args.map Operand.type ≠ t.params then .error .argumentType
  else if t.results.length ≠ results then .error .resultCount
  else .ok ()

/-- A call from outside: of a guest, or of a host function that is about to be called or waited for,
or one that is over. -/
inductive Thread where
  | guest (k : CallStack)
  | host (i : LinkedImport) (args : List Word)
  | waiting
  | ended (result : Except String (List (Option Word)))

namespace Thread

/-- How many calls are under way. -/
def depth : Thread → Nat
  | guest k => k.depth
  | _ => 0

/-- A call of a function, if it takes the words and has as many results as wanted. -/
def enter (within : Option Thread) (c : Callee) (words : List Word) (results : Nat) : Thread :=
  let args := words.map Operand.word
  match c.type.admits args results with
  | .error e => ended (.error e.message)
  | .ok () =>
      match c with
      | .guest f => guest (.start f args ((within.map depth).getD 0))
      | .host i => host i words

/-- Goes on with a call. Each step of a guest takes a unit of fuel. -/
def advance (inst : Instance) (t : Thread) (s : Store) : Progress Thread × Store :=
  match t with
  | host i args => (.calling i false (args.map some) waiting, s)
  | waiting => (.running waiting, s)
  | ended (.ok results) => (.finished results, s)
  | ended (.error message) => (.failed message, s)
  | guest k =>
      match s.spend? with
      | none => (.failed Trap.outOfFuel.message, s)
      | some s =>
          match step inst k s with
          | .error e => (.failed e.message, s)
          | .ok (.running k, s) => (.running (guest k), s)
          | .ok (.finished results, s) => (.finished (results.map Operand.word?), s)
          | .ok (.calling i args k, s) =>
              (.calling i true (args.map Operand.word?) (guest k), s)

/-- Goes on with what a host function answered. Its failure is that of the call. -/
def resume (t : Thread) (answer : Except String (List Word)) : Thread :=
  match t, answer with
  | _, .error message => ended (.error message)
  | guest k, .ok words => guest (k.push (words.map .word))
  | _, .ok words => ended (.ok (words.map some))

end Thread

end Wasm

end GuestBridge
