import GuestBridge.Document.Config
import GuestBridge.Proofs.Json.Decoding
import Mathlib.Data.List.Nodup

/-!
# Partial configuration documents

A document that lists some fields of a configuration overrides just these and leaves the others
standard (`Config.read_listing`).  It does not matter in which order the fields are listed, how
their texts are spelled, or what other members stand between them.
-/

namespace GuestBridge

open Json

namespace Config

/-- The fields of a configuration. -/
inductive Field where
  | initializer
  | hostModule
  | memoryExport
  | allocExport
  | metadataSection
  | fuelPerCall
  deriving DecidableEq, Repr

namespace Field

def all : List Field :=
  [initializer, hostModule, memoryExport, allocExport, metadataSection, fuelPerCall]

/-- The name a field has in documents. -/
def name : Field → String
  | initializer => "initializer"
  | hostModule => "host_module"
  | memoryExport => "memory_export"
  | allocExport => "alloc_export"
  | metadataSection => "metadata_section"
  | fuelPerCall => "fuel_per_call"

theorem mem_all (f : Field) : f ∈ all := by
  cases f <;> decide

theorem name_injective : Function.Injective name := by
  intro f g h
  cases f <;> cases g <;> simp_all [name]

end Field

/-- What the document of a configuration has in a field. -/
def fieldJson (c : Config) : Field → Json
  | .initializer => optionToJson .text c.initializer
  | .hostModule => .text c.hostModule
  | .memoryExport => .text c.memoryExport
  | .allocExport => .text c.allocExport
  | .metadataSection => .text c.metadataSection
  | .fuelPerCall => optionToJson (fun f => .number (.ofNat f.toNat)) c.fuelPerCall

/-- The member of a document that lists a field. -/
def member (c : Config) (f : Field) : String × Json :=
  (f.name, c.fieldJson f)

theorem toJson_eq_ofMembers (c : Config) : c.toJson = .ofMembers (Field.all.map c.member) := rfl

/-- The configuration that has the listed fields of `c`, and all others standard. -/
def listing (c : Config) (listed : List Field) : Config where
  initializer := if .initializer ∈ listed then c.initializer else standard.initializer
  hostModule := if .hostModule ∈ listed then c.hostModule else standard.hostModule
  memoryExport := if .memoryExport ∈ listed then c.memoryExport else standard.memoryExport
  allocExport := if .allocExport ∈ listed then c.allocExport else standard.allocExport
  metadataSection :=
    if .metadataSection ∈ listed then c.metadataSection else standard.metadataSection
  fuelPerCall := if .fuelPerCall ∈ listed then c.fuelPerCall else standard.fuelPerCall

theorem listing_all (c : Config) : c.listing Field.all = c := rfl

theorem holds_optionToJson {α : Type} {d : Decoder α} {toJson : α → Json} {a : Option α}
    (h : ∀ x, Holds d 0 (toJson x) x) (hnull : ∀ x, toJson x ≠ .null) :
    Holds (Json.Decode.nullable d) 0 (optionToJson toJson a) a := by
  cases a with
  | none => exact ⟨fun depth _ => by simp [optionToJson, isSound], fun _ _ => rfl⟩
  | some x =>
      refine ⟨(h x).sound, fun depth hdepth => ?_⟩
      rw [optionToJson, Json.Decode.nullable, (h x).decoded depth hdepth, Option.map_some]
      exact hnull x

/-! ## The members that count -/

section Listed

variable {c : Config} {listed : List Field} {extras members : List (String × Json)}

/-- The members that are fields are the listed ones, in some order. -/
theorem fields_perm (hextras : ∀ e ∈ extras, ∀ f : Field, e.1 ≠ f.name)
    (hmembers : members.Perm (listed.map c.member ++ extras)) :
    (members.filter fun m => m.1 ∈ Field.all.map Field.name).Perm (listed.map c.member) := by
  have hlisted : ((listed.map c.member).filter fun m => m.1 ∈ Field.all.map Field.name) =
      listed.map c.member := by
    refine List.filter_eq_self.2 fun m hm => ?_
    obtain ⟨f, -, rfl⟩ := List.mem_map.1 hm
    exact decide_eq_true (List.mem_map_of_mem f.mem_all)
  have hothers : (extras.filter fun m => m.1 ∈ Field.all.map Field.name) = [] := by
    refine List.filter_eq_nil_iff.2 fun e he hname => ?_
    obtain ⟨f, -, hf⟩ := List.mem_map.1 (of_decide_eq_true hname)
    exact hextras e he f hf.symm
  have hperm := hmembers.filter fun m => decide (m.1 ∈ Field.all.map Field.name)
  rwa [List.filter_append, hlisted, hothers, List.append_nil] at hperm

theorem nodup_map_member (hlisted : listed.Nodup) :
    ((listed.map c.member).map Prod.fst).Nodup := by
  rw [List.map_map]
  exact List.Nodup.map Field.name_injective hlisted

/-- The tree of a field is the listed one, if it is listed at all. -/
theorem get?_of_perm {found : List (String × Json)} (hlisted : listed.Nodup)
    (hfound : found.Perm (listed.map c.member)) (depth : Nat) (f : Field) :
    Record.get? ⟨depth, false, found⟩ f.name =
      if f ∈ listed then some (c.fieldJson f) else none := by
  split_ifs with hf
  · refine Record.get?_of_mem ((hfound.map Prod.fst).nodup_iff.2 (nodup_map_member hlisted)) ?_
    exact hfound.mem_iff.2 (List.mem_map_of_mem hf)
  · refine Record.get?_eq_none fun m hm hname => hf ?_
    obtain ⟨g, hg, rfl⟩ := List.mem_map.1 (hfound.mem_iff.1 hm)
    rwa [← Field.name_injective hname]

theorem defaulted_of_get?_ite {α : Type} {r : Record} {name : String} {d : Decoder α}
    (default : α) {a : α} {j : Json} {p : Prop} [Decidable p]
    (hget : r.get? name = if p then some j else none) (h : Holds d 0 j a) :
    r.defaulted name default d = some (if p then a else default) := by
  by_cases hp : p
  · rw [if_pos hp] at hget ⊢
    exact Record.defaulted_of_get? hget (h.decoded r.depth (Nat.zero_le _))
  · rw [if_neg hp] at hget ⊢
    exact Record.defaulted_of_missing hget

/-- What is listed overrides what is standard, and nothing else does. -/
theorem decode_ofMembers (hlisted : listed.Nodup)
    (hextras : ∀ e ∈ extras, ∀ f : Field, e.1 ≠ f.name)
    (hmembers : members.Perm (listed.map c.member ++ extras)) (depth : Nat) :
    Decode.config (depth + 1) (.ofMembers members) = some (c.listing listed) := by
  -- members of other names are gone before a field is looked up, so the order of what is left does
  -- not matter
  have hperm := fields_perm hextras hmembers
  have hrecord : record (Field.all.map Field.name) (depth + 1) (.ofMembers members) = _ :=
    record_ofMembers ((hperm.map Prod.fst).nodup_iff.2 (nodup_map_member hlisted)) depth
  generalize members.filter _ = found at hperm hrecord
  have hget := get?_of_perm hlisted hperm depth
  have hinitializer := defaulted_of_get?_ite standard.initializer
    (hget .initializer) (holds_optionToJson holds_text fun _ => nofun)
  have hhost := defaulted_of_get?_ite standard.hostModule (hget .hostModule)
    (holds_text c.hostModule)
  have hmemory := defaulted_of_get?_ite standard.memoryExport (hget .memoryExport)
    (holds_text c.memoryExport)
  have halloc := defaulted_of_get?_ite standard.allocExport (hget .allocExport)
    (holds_text c.allocExport)
  have hsection := defaulted_of_get?_ite standard.metadataSection
    (hget .metadataSection) (holds_text c.metadataSection)
  have hfuel := defaulted_of_get?_ite standard.fuelPerCall (hget .fuelPerCall)
    (holds_optionToJson holds_uint64 fun _ => nofun)
  change record (Field.all.map Field.name) (depth + 1) (.ofMembers members) >>= _ = _
  rw [hrecord]
  simp only [Field.name] at hinitializer hhost hmemory halloc hsection hfuel
  simp only [Option.bind_eq_bind, Option.bind_some, hinitializer, hhost, hmemory, halloc, hsection,
    hfuel]
  rfl

end Listed

theorem isSound_toJson (c : Config) (depth : Nat) : c.toJson.isSound (depth + 1) = true := by
  rw [toJson_eq_ofMembers]
  refine areSoundMembers_eq_true_iff.2 fun m hm => ?_
  obtain ⟨f, -, rfl⟩ := List.mem_map.1 hm
  have hoption := fun a => (holds_optionToJson (a := a) holds_text fun _ => nofun).sound depth
  have hfuel := fun a => (holds_optionToJson (a := a) holds_uint64 fun _ => nofun).sound depth
  cases f with
  | initializer => exact hoption c.initializer (Nat.zero_le _)
  | fuelPerCall => exact hfuel c.fuelPerCall (Nat.zero_le _)
  | hostModule => exact (holds_text c.hostModule).sound depth (Nat.zero_le _)
  | memoryExport => exact (holds_text c.memoryExport).sound depth (Nat.zero_le _)
  | allocExport => exact (holds_text c.allocExport).sound depth (Nat.zero_le _)
  | metadataSection => exact (holds_text c.metadataSection).sound depth (Nat.zero_le _)

/-- Any text of an object that lists some fields of a configuration, each once and in any order, and
that has any other members of other names, is read as the configuration with just these fields and
all others standard.  The document that is written lists all fields, and is read as the
configuration. -/
theorem read_listing (c : Config) :
    (∀ (listed : List Field) (extras members : List (String × Json)) (doc : Bytes), listed.Nodup →
      (∀ e ∈ extras, ∀ f : Field, e.1 ≠ f.name) →
      members.Perm (listed.map c.member ++ extras) →
      SpellsDocument (.ofMembers members) doc →
        decode? Decode.config doc = some (c.listing listed)) ∧
    decode? Decode.config (Text.encode c.toJson.write) = some c := by
  refine ⟨fun listed extras members doc hlisted hextras hmembers hdoc => ?_, ?_⟩
  · rw [decode?, read?_of_spells hdoc, Option.bind_some]
    exact decode_ofMembers hlisted hextras hmembers _
  · rw [decode?, read?_write (c.isSound_toJson 0), Option.bind_some, toJson_eq_ofMembers]
    have hperm : (Field.all.map c.member).Perm (Field.all.map c.member ++ []) := by
      rw [List.append_nil]
    have hdecode := decode_ofMembers (by decide) (fun _ he => absurd he List.not_mem_nil) hperm
    exact (hdecode _).trans (congrArg some c.listing_all)

/-- The standard configuration without an initializer, and with fuel. -/
def fueled : Config :=
  ⟨none, "env", "memory", "alloc", "graphl", some 7⟩

/-- A member that is no field of a configuration. -/
def noteMember : String × Json :=
  ("note", .array [.number ⟨true, 12, [], none⟩, .text "\x5c\n"])

/-- A null initializer means none, and one that is left out means the standard one. -/
theorem read_listing_fueled :
    (decode? Decode.config
        (Text.encode " \x7b\"note\":[-12,\"\\\\\\n\"],\"initializer\":null\x7d\n") =
      some ⟨none, "env", "memory", "alloc", "graphl", none⟩) ∧
    decode? Decode.config
        (Text.encode " \x7b\"note\":[-12,\"\\\\\\n\"],\"fuel_per_call\":7\x7d\n") =
      some ⟨some "_initialize", "env", "memory", "alloc", "graphl", some 7⟩ := by
  have hspace : Blank [0x20] := by simp [Blank, isBlank]
  have hnewline : Blank [0x0A] := by simp [Blank, isBlank]
  have hdocument : ∀ members : List (String × Json), (Json.ofMembers members).isSound 2 = true →
      SpellsDocument (.ofMembers members)
        ([0x20] ++ ((Json.ofMembers members).chars.flatMap String.utf8EncodeChar ++ [0x0A])) :=
    fun members h => .padded hspace (spells_chars h) hnewline
  have hnote : ∀ e ∈ [noteMember], ∀ f : Field, e.1 ≠ f.name := by
    intro e he f
    obtain rfl := List.mem_singleton.1 he
    cases f <;> decide
  refine ⟨fueled.read_listing.1 [.initializer] [noteMember]
    [noteMember, fueled.member .initializer] _ (by decide) hnote (.swap ..) ?_,
    fueled.read_listing.1 [.fuelPerCall] [noteMember]
    [noteMember, fueled.member .fuelPerCall] _ (by decide) hnote (.swap ..) ?_⟩
  · exact hdocument [noteMember, fueled.member .initializer] (by decide)
  · exact hdocument [noteMember, fueled.member .fuelPerCall] (by decide)

end Config

end GuestBridge
