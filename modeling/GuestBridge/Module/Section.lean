import GuestBridge.Document.Metadata
import GuestBridge.Wasm.Binary

/-!
# The metadata section

Metadata is found by walking the sections of a binary, without loading it. The walk ends at the
first thing that is not in order (`isOrderly`), and the custom sections before it count
(`customSections`). The first section of the wanted name is read, and then there may be no other of
that name.
-/

namespace GuestBridge

open Wasm

/-- One number alone. -/
def Wasm.readOneNumber : Reader Unit := do
  let _ ← readU32
  unless (← get).isEmpty do failure

/-- A count of function bodies, each with its size, and nothing else. -/
def Wasm.readBodies : Reader Unit := do
  let _ ← readVector do
    let size ← readU32
    readBytes size
  unless (← get).isEmpty do failure

/-- Whether the walk goes on after a section: a custom section has its name, a counted one its
count, a section of one number just that, and the code section its bodies. Other contents are not
looked at. -/
def Wasm.Section.isOrderly (s : Section) : Bool :=
  if s.id = customId then (readCustom s.content).isSome
  else if s.id = 8 ∨ s.id = 12 then (readOneNumber s.content).isSome
  else if s.id = 10 then (readBodies s.content).isSome
  else if s.id ≤ 13 then (readU32 s.content).isSome
  else true

/-- The sections up to the first thing that is not in order. -/
def Wasm.orderlySections (bs : Bytes) : List Section :=
  match _h : readSection bs with
  | none => []
  | some (s, rest) => if s.isOrderly then s :: orderlySections rest else []
termination_by bs.length
decreasing_by exact length_readSection_lt (by assumption)

/-- The names and payloads of the custom sections the walk meets. -/
def customSections (binary : Bytes) : List (String × Bytes) :=
  match expectBytes moduleHeader binary with
  | none => []
  | some (_, rest) => (orderlySections rest).filterMap fun s =>
      if s.id = customId then (readCustom s.content).map Prod.fst else none

namespace Metadata

/-- The metadata in the payloads of the sections with the wanted name: at most one, and the first is
read before a second is looked for. -/
def ofPayloads (name : String) : List Bytes → Except MetadataError (Option Metadata)
  | [] => .ok none
  | payload :: others =>
      match Metadata.read name payload with
      | .error e => .error e
      | .ok m => if others.isEmpty then .ok (some m) else .error (.repeated name)

/-- The metadata a binary carries in its section of the given name. -/
def find (name : String) (binary : Bytes) : Except MetadataError (Option Metadata) :=
  ofPayloads name ((customSections binary).filterMap fun (n, payload) =>
    if n = name then some payload else none)

end Metadata

end GuestBridge
