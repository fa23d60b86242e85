import GuestBridge.Module.Section
import GuestBridge.Runtime.Basic

/-!
# Bringing up a module

`Runtime.instantiate` reads the metadata of a module, checks its structs, loads it, settles the
signature of every export and runs the initializer; only then do its structs join the registry. When
any of this fails, the registry is as it was and the sandbox, if there was one, is released.
-/

namespace GuestBridge

variable {σ : Type}

/-- The signature of an export: the declared one, which has to have its words, or else that of its
words. -/
def exportSignature (metadata : Metadata) (lookup : DeclaredSignature.Lookup) (e : ExportInfo) :
    Except InstantiationError Signature :=
  match metadata.function? e.name with
  | none => .ok (.ofWire e.params e.results)
  | some declared =>
      match declared.resolve lookup with
      | .error cause => .error (.signature e.name (.unresolved cause))
      | .ok s =>
          if s.wireParams = e.params ∧ s.wireResults = e.results then .ok s
          else .error (.signature e.name
            (.mismatch declared s.wireParams s.wireResults e.params e.results))

/-- The signatures of the exports but for the initializer. Of two exports with one name the later
counts. -/
def exportSignatures (metadata : Metadata) (lookup : DeclaredSignature.Lookup)
    (initializer : Option String) (found : SortedMap String Signature) :
    List ExportInfo → Except InstantiationError (SortedMap String Signature)
  | [] => .ok found
  | e :: rest =>
      if initializer = some e.name then
        exportSignatures metadata lookup initializer found rest
      else
        match exportSignature metadata lookup e with
        | .error cause => .error cause
        | .ok s => exportSignatures metadata lookup initializer (found.insert e.name s) rest

/-- Runs the initializer, if one is configured. -/
def runEntry (b : Backend σ) (initializer : Option String) :
    Fallible (Traced σ) InstantiationError Unit :=
  match initializer with
  | none => return ()
  | some entry => do
      let _ ← ExceptT.adapt (fun e => InstantiationError.initializer entry e.message)
        (b.traceInitializer entry)
      return ()

/-- Adds the structs of the module to the registry, if there are any. -/
def commitStaged (r : Registry) (staged : Staged) : Except InstantiationError Registry :=
  if staged.decls.isEmpty then .ok r
  else
    match r.commit staged with
    | .ok (_, r) => .ok r
    | .error e => .error (.registry e)

/-- Settles the exports of a loaded module, runs its initializer and adds its structs to the
registry. -/
def prepare (b : Backend σ) (config : Config) (r : Registry) (metadata : Metadata)
    (staged : Staged) (found : List ExportInfo) :
    Fallible (Traced σ) InstantiationError (Program × Registry) := do
  let exports ← ExceptT.mk (pure
    (exportSignatures metadata (staged.lookup r) config.initializer .empty found))
  runEntry b config.initializer
  let r ← ExceptT.mk (pure (commitStaged r staged))
  return (⟨exports, metadata⟩, r)

/-- What bringing up a module comes to: the program, its sandbox and the registry after it, or why
not; and what was asked of the sandbox. -/
structure BringUp (σ : Type) where
  result : Except InstantiationError (Program × σ × Registry)
  trace : Trace

/-- Brings up a module whose metadata is read and whose structs are staged. -/
def loadStaged (b : Backend σ) (config : Config) (r : Registry) (bytecode : Bytes)
    (host : HostBindings) (metadata : Metadata) (staged : Staged) : BringUp σ :=
  match b.load bytecode host config with
  | (.error e, events) => ⟨.error (.ofLoad e), [⟨.load (.error e), events⟩]⟩
  | (.ok sandbox, events) =>
      let found := b.exports sandbox
      let start : Traced σ := ⟨sandbox, [⟨.load (.ok ()), events⟩, ⟨.exports found, []⟩]⟩
      match (prepare b config r metadata staged found).from start with
      | (.ok (program, r), t) => ⟨.ok (program, t.sandbox, r), t.trace⟩
      | (.error e, t) => ⟨.error e, t.trace ++ [⟨.release, []⟩]⟩

/-- Brings up a module. -/
def bringUp (b : Backend σ) (config : Config) (r : Registry) (bytecode : Bytes)
    (host : HostBindings) : BringUp σ :=
  match Metadata.find config.metadataSection bytecode with
  | .error e => ⟨.error (.metadata e), []⟩
  | .ok found =>
      let metadata := found.getD .empty
      match r.stage metadata.structs with
      | .error e => ⟨.error (.registry e), []⟩
      | .ok staged => loadStaged b config r bytecode host metadata staged

namespace Runtime

/-- Brings up a module in a runtime that has none yet, and answers with the registry after it. -/
def instantiate (b : Backend σ) (r : Registry) (rt : Runtime σ) (bytecode : Bytes)
    (host : HostBindings) : Outcome σ Unit × Registry :=
  match rt.phase with
  | .uninstantiated =>
      let digest := digestText bytecode
      let up := bringUp b rt.config r bytecode host
      match up.result with
      | .ok (program, sandbox, r) =>
          (⟨.ok (), { rt with phase := .ready digest program sandbox }, up.trace⟩, r)
      | .error e =>
          (⟨.error (.instantiation e),
            { rt with phase := .unloaded digest (.instantiation e) }, up.trace⟩, r)
  | _ => (rt.refuse (.invalidState .instantiate rt.state), r)

/-- Compiles a source and brings up the module in a new runtime. A diagnostic leaves the runtime
without a module. -/
def compileAndInstantiate (b : Backend σ) (r : Registry) (compiler : Compiler)
    (sourceName source : String) (host : HostBindings) (config : Config) :
    Outcome σ Unit × Registry :=
  match compiler sourceName source with
  | .error d => ((new config).refuse (.compile d), r)
  | .ok compiled => instantiate b r (new config) compiled.bytecode host

end Runtime

end GuestBridge
