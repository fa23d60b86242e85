import GuestBridge.Document.Metadata
import GuestBridge.Proofs.Json.Decoding
import GuestBridge.Proofs.SortedMap

/-!
# Reading metadata back

Metadata of a supported version is read back from the document it is written as, and metadata of a
later version is refused with that version (`Metadata.read_write`).  Each of the documents it is
made of holds what was written, within its number of levels.
-/

namespace GuestBridge

open Json

theorem FieldDecl.holds_toJson (f : FieldDecl) : Holds Decode.fieldDecl 1 f.toJson f := by
  have hname := holds_text f.name
  have htype := holds_text f.type
  have hoffset := holds_uint32 f.offset
  refine holds_record rfl (by decide) ?_ fun depth _ => ?_
  · simp [hname.sound, htype.sound, hoffset.sound]
  · simp [Record.required, Record.get?, hname.decoded, htype.decoded, hoffset.decoded]

theorem StructDecl.holds_toJson (d : StructDecl) : Holds Decode.structDecl 3 d.toJson d := by
  have hname := holds_text d.name
  have hsize := holds_uint32 d.size
  have hfields := holds_list fun f (_ : f ∈ d.fields) => f.holds_toJson
  refine holds_record rfl (by decide) ?_ fun depth hdepth => ?_
  · simp +contextual [hname.sound, hsize.sound, hfields.sound]
  · simp [Record.required, Record.defaulted, Record.get?, hname.decoded, hsize.decoded,
      hfields.decoded, hdepth]

theorem DeclaredSignature.holds_toJson (s : DeclaredSignature) :
    Holds Decode.declaredSignature 2 s.toJson s := by
  have hparams := holds_list fun name (_ : name ∈ s.params) => holds_text name
  have hresults := holds_list fun name (_ : name ∈ s.results) => holds_text name
  refine holds_record rfl (by decide) ?_ fun depth hdepth => ?_
  · simp +contextual [hparams.sound, hresults.sound]
  · simp [Record.defaulted, Record.get?, hparams.decoded, hresults.decoded, hdepth]

namespace Metadata

theorem holds_toJson (m : Metadata) : Holds Decode.metadata 5 m.toJson m := by
  have hversion := holds_uint32 m.version
  have hstructs := holds_list fun d (_ : d ∈ m.structs) => d.holds_toJson
  have hfunctions : Holds (Json.Decode.members Decode.declaredSignature) 4
      (.ofMembers (m.functions.entries.map fun f => (f.1, f.2.toJson))) m.functions.entries :=
    (holds_members fun f (_ : f ∈ m.functions.entries) => f.2.holds_toJson).mono (by decide)
  have hjson : m.toJson = .ofMembers [("version", .number (.ofNat m.version.toNat)),
      ("structs", .array (m.structs.map StructDecl.toJson)),
      ("functions", .ofMembers (m.functions.entries.map fun f => (f.1, f.2.toJson)))] := rfl
  rw [hjson]
  refine holds_record rfl (by decide) ?_ fun depth hdepth => ?_
  · simp +contextual [hversion.sound, hstructs.sound, hfunctions.sound]
  · simp [Record.defaulted, Record.get?, hversion.decoded, hstructs.decoded, hfunctions.decoded,
      hdepth, SortedMap.ofList_entries]

/-- Metadata is read back from its document, whatever it says: its structs and functions with any
names, sizes and offsets.  If its version is later than the supported one, it is refused, and the
refusal tells the version. -/
theorem read_write (name : String) (m : Metadata) :
    read name (Text.encode m.toJson.write) =
      if m.version ≤ 1 then .ok m else .error (.unsupportedVersion m.version 1) := by
  rw [read, m.holds_toJson.decode?_write (by decide)]
  have hversion : supportedVersion < m.version ↔ ¬ m.version ≤ 1 := UInt32.not_le.symm
  by_cases h : m.version ≤ 1
  · rw [if_pos h]
    exact if_neg fun hlater => hversion.1 hlater h
  · rw [if_neg h]
    exact if_pos (hversion.2 h)

end Metadata

end GuestBridge
