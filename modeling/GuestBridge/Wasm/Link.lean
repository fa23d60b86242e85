import GuestBridge.Host.Bindings
import GuestBridge.Wasm.Extern

/-!
# Linking

Every import of a module has to be a function that has a binding of the same type. `link` goes
through the imports in order and answers with the first one of which this is not so. An import that
comes again under the same names is not compared with its binding a second time: its names are
linked by then, and it is up to the engine to find out that it is of another type.
-/

namespace GuestBridge

namespace Wasm

/-- A host function, under the names it is imported by. -/
structure LinkedImport where
  name : ImportName
  binding : HostFunction

/-- The type of a host function, as a guest sees it. -/
def bindingType (f : HostFunction) : FuncType :=
  .ofSignature f.signature

/-- What is linked under the names of an import. -/
def linkedTo (linked : List LinkedImport) (name : ImportName) : Option LinkedImport :=
  linked.find? fun l => l.name = name

/-- Links imports in order, those of the names in `linked` having been linked before. -/
def linkAfter (host : HostBindings) (hostModule : String) (linked : List ImportName) :
    List Import → Except SandboxError (List LinkedImport)
  | [] => .ok []
  | i :: rest =>
      match i.type.function?, host.resolve i.name hostModule with
      | some type, some f =>
          if i.name ∈ linked then linkAfter host hostModule linked rest
          else if type ≠ bindingType f then
            .error (.importSignature i.name type.text (bindingType f).text)
          else (linkAfter host hostModule (i.name :: linked) rest).map (⟨i.name, f⟩ :: ·)
      | _, _ => .error (.unresolvedImport i.name)

/-- Links imports, plain bindings answering those from `hostModule`. -/
def link (host : HostBindings) (hostModule : String) (imports : List Import) :
    Except SandboxError (List LinkedImport) :=
  linkAfter host hostModule [] imports

end Wasm

end GuestBridge
