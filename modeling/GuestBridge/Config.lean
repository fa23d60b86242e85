/-!
# Configuration

The names by which a module is driven: what it exports, where its imports come from, and the fuel
each call is granted.
-/

namespace GuestBridge

/-- How modules are brought up and called. -/
structure Config where
  /-- The export run once when a module is brought up, if it has it. -/
  initializer : Option String
  /-- The module whose imports plain bindings answer. -/
  hostModule : String
  memoryExport : String
  allocExport : String
  metadataSection : String
  /-- The fuel of each call; unlimited if none. -/
  fuelPerCall : Option UInt64
  deriving DecidableEq, Repr

namespace Config

/-- The configuration of a program that names nothing else. -/
def standard : Config where
  initializer := some "_initialize"
  hostModule := "env"
  memoryExport := "memory"
  allocExport := "alloc"
  metadataSection := "graphl"
  fuelPerCall := none

instance : Inhabited Config := ⟨standard⟩

/-- The configuration with another initializer, or with none. -/
def withInitializer (c : Config) (entry : Option String) : Config :=
  { c with initializer := entry }

def withHostModule (c : Config) (name : String) : Config :=
  { c with hostModule := name }

def withMemoryExport (c : Config) (name : String) : Config :=
  { c with memoryExport := name }

def withAllocExport (c : Config) (name : String) : Config :=
  { c with allocExport := name }

def withMetadataSection (c : Config) (name : String) : Config :=
  { c with metadataSection := name }

/-- The configuration with the given fuel for each call. -/
def withFuel (c : Config) (fuel : UInt64) : Config :=
  { c with fuelPerCall := some fuel }

end Config

end GuestBridge
