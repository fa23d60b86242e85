import GuestBridge.Call.Word

/-!
# Signatures

A `Signature` gives the kinds of the parameters and results of a function. Its words are
`wireParams` and `wireResults`; a function of which only the words are known gets the signature
`ofWire`.
-/

namespace GuestBridge

/-- The kinds a function takes and returns. -/
structure Signature where
  params : List Kind
  results : List Kind
  deriving DecidableEq, Repr

namespace Signature

/-- The signature of a function that declares nothing but its words. -/
def ofWire (params results : List WireType) : Signature :=
  ⟨params.map WireType.defaultKind, results.map WireType.defaultKind⟩

def wireParams (s : Signature) : List WireType :=
  wireTypes s.params

def wireResults (s : Signature) : List WireType :=
  wireTypes s.results

theorem wireTypes_map_defaultKind (ts : List WireType) :
    wireTypes (ts.map WireType.defaultKind) = ts := by
  induction ts with
  | nil => rfl
  | cons t ts ih =>
      unfold wireTypes at ih ⊢
      cases t <;> simp [WireType.defaultKind, Kind.wireTypes, ih]

/-- An undeclared function keeps its words. -/
@[simp]
theorem wireParams_ofWire (params results : List WireType) :
    (ofWire params results).wireParams = params :=
  wireTypes_map_defaultKind params

@[simp]
theorem wireResults_ofWire (params results : List WireType) :
    (ofWire params results).wireResults = results :=
  wireTypes_map_defaultKind results

end Signature

end GuestBridge
