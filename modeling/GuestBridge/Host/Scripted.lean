import GuestBridge.Host.Function

/-!
# Scripted host functions

Host function bodies given as data: constants, arguments, failures and a few simple computations.
-/

namespace GuestBridge

/-- What a scripted host function does. -/
inductive HostScript where
  | const (value : Value)
  | argument (index : Nat)
  | fail (message : String)
  | fatal (message : String)
  | upper
  | describe
  | sum
  deriving Repr

def HostContext.argsText (ctx : HostContext) : String :=
  ", ".intercalate (ctx.args.map Value.text)

def HostContext.text (ctx : HostContext) : String :=
  let name := ctx.function
  let args := ctx.argsText
  s!"host {name}({args})"

namespace HostScript

/-- The letter as an ASCII capital. -/
def capital (c : Char) : Char :=
  if 'a' ≤ c ∧ c ≤ 'z' then Char.ofNat (c.toNat - 32) else c

/-- The sum of 32-bit integers, modulo their range. -/
def sumFrom (total : Int32) : List Value → Except HostCallError Value
  | [] => .ok (.i32 total)
  | v :: rest =>
      match v.payload .i32 with
      | .ok n => sumFrom (total + n) rest
      | .error e => .error (.failed e.message)

/-- Runs the script of a body, which is the same at every call. -/
def run (script : HostScript) (_ : HostHistory) (ctx : HostContext) : Except HostCallError Value :=
  match script with
  | const value => .ok value
  | argument index =>
      match ctx.args[index]? with
      | some v => .ok v
      | none => .error (.failed "missing argument")
  | fail message => .error (.failed message)
  | fatal message => .error (.fatal message)
  | upper =>
      match ctx.args with
      | [] => .error (.failed "missing argument")
      | v :: _ =>
          match v.payload .string with
          | .ok text => .ok (.string (String.ofList (text.toList.map capital)))
          | .error e => .error (.failed e.message)
  | describe =>
      let name := ctx.function
      let count := ctx.args.length
      let mark := if ctx.args.isEmpty then " empty" else ""
      let args := ctx.argsText
      .ok (.string s!"{name}/{count}{mark}: {args}")
  | sum => sumFrom 0 ctx.args

end HostScript

end GuestBridge
