import GuestBridge.Host.Function
import GuestBridge.Sandbox.Error
import GuestBridge.SortedMap

/-!
# Host bindings

`HostBindings` answers the imports of a module. A plain binding answers its name in the module that
plain bindings live in, and a qualified one answers one module and name and goes before (`resolve`).
-/

namespace GuestBridge

/-- Imports are ordered by module, then by name. -/
instance : LT ImportName where
  lt a b := a.module < b.module ∨ a.module = b.module ∧ a.name < b.name

instance : DecidableLT ImportName := fun a b =>
  inferInstanceAs (Decidable (a.module < b.module ∨ a.module = b.module ∧ a.name < b.name))

theorem ImportName.lt_iff {a b : ImportName} :
    a < b ↔ a.module < b.module ∨ a.module = b.module ∧ a.name < b.name := Iff.rfl

instance : StrictOrder ImportName where
  irrefl a h := by
    rcases h with h | ⟨_, h⟩ <;> exact StrictOrder.irrefl _ h
  trans {a b c} h₁ h₂ := by
    rw [ImportName.lt_iff] at *
    rcases h₁ with h₁ | ⟨e₁, h₁⟩ <;> rcases h₂ with h₂ | ⟨e₂, h₂⟩
    · exact .inl (StrictOrder.trans h₁ h₂)
    · exact .inl (e₂ ▸ h₁)
    · exact .inl (e₁ ▸ h₂)
    · exact .inr ⟨e₁.trans e₂, StrictOrder.trans h₁ h₂⟩
  eq_of_not_lt {a b} h₁ h₂ := by
    rw [ImportName.lt_iff, not_or] at *
    have hm : a.module = b.module := StrictOrder.eq_of_not_lt h₁.1 h₂.1
    have hn : a.name = b.name :=
      StrictOrder.eq_of_not_lt (fun h => h₁.2 ⟨hm, h⟩) fun h => h₂.2 ⟨hm.symm, h⟩
    cases a
    cases b
    cases hm
    cases hn
    rfl

/-- Host functions by the imports they answer. -/
structure HostBindings where
  plain : SortedMap String HostFunction
  qualified : SortedMap ImportName HostFunction

namespace HostBindings

def empty : HostBindings := ⟨.empty, .empty⟩

instance : Inhabited HostBindings := ⟨empty⟩

/-- The plain binding of a name. -/
def get? (b : HostBindings) (name : String) : Option HostFunction :=
  b.plain.get? name

/-- The qualified binding of an import. -/
def getIn? (b : HostBindings) (name : ImportName) : Option HostFunction :=
  b.qualified.get? name

/-- Binds a name. The answer has the binding that was there before. -/
def insert (b : HostBindings) (name : String) (f : HostFunction) :
    Option HostFunction × HostBindings :=
  (b.get? name, { b with plain := b.plain.insert name f })

/-- Binds a name in one module. The answer has the binding that was there before. -/
def insertIn (b : HostBindings) (name : ImportName) (f : HostFunction) :
    Option HostFunction × HostBindings :=
  (b.getIn? name, { b with qualified := b.qualified.insert name f })

/-- The function that answers an import where plain bindings live in `hostModule`. -/
def resolve (b : HostBindings) (name : ImportName) (hostModule : String) : Option HostFunction :=
  match b.getIn? name with
  | some f => some f
  | none => if name.module = hostModule then b.get? name.name else none

def names (b : HostBindings) : List String :=
  b.plain.keys

def qualifiedNames (b : HostBindings) : List ImportName :=
  b.qualified.keys

def size (b : HostBindings) : Nat :=
  b.plain.size + b.qualified.size

def isEmpty (b : HostBindings) : Bool :=
  b.plain.isEmpty && b.qualified.isEmpty

end HostBindings

end GuestBridge
