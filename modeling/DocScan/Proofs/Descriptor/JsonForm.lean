import DocScan.Descriptor.Session
import DocScan.Proofs.Descriptor.Building
import DocScan.Proofs.Json.Documents

/-!
# The JSON form of descriptors

A descriptor is written as an object of its three fields, and from this text it is built again,
whatever characters its name has. The text is therefore that of no other descriptor.
-/

namespace DocScan.Descriptor

open Json (Spells SpellsMember Spaced)

theorem spaced_compactStyle : Spaced Json.compactStyle := ⟨⟨[], rfl, rfl⟩, ⟨[], rfl, rfl⟩⟩

def members (descriptor : Descriptor) : Json.Members :=
  [(nameField, .text descriptor.name), (arrayField, .bool descriptor.isArray),
   (enumField, .bool descriptor.isEnum)]

theorem declares_members (descriptor : Descriptor) : Declares descriptor.members descriptor :=
  ⟨rfl, .inl rfl, .inl rfl⟩

theorem spells_members (descriptor : Descriptor) :
    List.Forall₂ (SpellsMember jsonLimits 1 Json.compactStyle)
      (Json.writeMembers Json.compactStyle 1 descriptor.members) descriptor.members := by
  have name : Spells jsonLimits 1 (Json.writeText false descriptor.name) (.text descriptor.name) :=
    (Json.encloses_writeText rfl false descriptor.name).spells
  have flag (on : Bool) :
      Spells jsonLimits 1 ((Json.Value.bool on).writeAt Json.compactStyle 1) (.bool on) :=
    (Json.encloses_bool rfl on).spells
  exact .cons ⟨_, rfl, name⟩ (.cons ⟨_, rfl, flag _⟩ (.cons ⟨_, rfl, flag _⟩ .nil))

theorem read_jsonText (descriptor : Descriptor) :
    Json.read descriptor.jsonText jsonLimits = .ok (.object descriptor.members) := by
  have distinct : (descriptor.members.map Prod.fst).Nodup := by
    have fields : declared.Nodup := by decide
    exact fields
  exact Json.read_of_encloses
    (Json.encloses_object spaced_compactStyle rfl distinct descriptor.spells_members)

theorem ofJsonText_jsonText (descriptor : Descriptor) :
    ofJsonText descriptor.jsonText = .ok descriptor := by
  rw [ofJsonText, read_jsonText]
  exact check_eq_ok_iff.mpr descriptor.declares_members

theorem jsonText_injective : Function.Injective jsonText := by
  intro descriptor other same
  have read := ofJsonText_jsonText descriptor
  rw [same, ofJsonText_jsonText other] at read
  exact (Except.ok.inj read).symm

/-! ## In a session -/

theorem verdict_toUnchecked (descriptor : Descriptor) :
    descriptor.toUnchecked.verdict =
      .ok { descriptor := descriptor.toUnchecked, kind := descriptor.classify
            primitive := descriptor.primitive? } := by
  rw [Unchecked.verdict, Unchecked.classify_toUnchecked, Unchecked.primitive?_toUnchecked]
  rfl

theorem build_eq (session : Session) (descriptor : Descriptor) :
    session.build (.ok descriptor) =
      ({ kept := session.kept ++ [descriptor.toUnchecked] },
        .verdict { descriptor := descriptor.toUnchecked, kind := descriptor.classify
                   primitive := descriptor.primitive? }) := by
  rw [Session.build, Session.keep, verdict_toUnchecked]
  rfl

theorem step_json_build (session : Session) (descriptor : Descriptor) :
    let built := (session.build (.ok descriptor)).1
    built.step (.json session.kept.length) = (built, .text descriptor.jsonText) := by
  intro built
  have last : built.kept[session.kept.length]? = some descriptor.toUnchecked :=
    List.getElem?_concat_length
  simp only [Session.step, Session.about, last, Option.map_some, Option.getD_some]
  rfl

theorem step_parse_jsonText (session : Session) (descriptor : Descriptor) :
    session.step (.parse descriptor.jsonText) = session.build (.ok descriptor) := by
  rw [Session.step, ofJsonText_jsonText]
  rfl

/-- What a descriptor is written as is parsed as the same descriptor. Once a session has built one
and writes it, parsing the text keeps it once more and gives the same verdict on it. Different
descriptors are written differently. -/
theorem jsonText_faithful :
    (∀ descriptor : Descriptor, ofJsonText descriptor.jsonText = .ok descriptor ∧
      ∀ session : Session,
        let built := session.build (.ok descriptor)
        ∃ text, built.1.step (.json session.kept.length) = (built.1, .text text) ∧
          built.1.step (.parse text) =
            ({ kept := built.1.kept ++ [descriptor.toUnchecked] }, built.2) ∧
          built.2 = .verdict { descriptor := descriptor.toUnchecked, kind := descriptor.classify
                               primitive := descriptor.primitive? }) ∧
    Function.Injective jsonText := by
  refine ⟨fun descriptor => ⟨ofJsonText_jsonText descriptor, fun session => ?_⟩,
    jsonText_injective⟩
  intro built
  have answered : built.2 = .verdict { descriptor := descriptor.toUnchecked
                                       kind := descriptor.classify
                                       primitive := descriptor.primitive? } :=
    congrArg Prod.snd (build_eq session descriptor)
  refine ⟨descriptor.jsonText, step_json_build session descriptor, ?_, answered⟩
  rw [step_parse_jsonText, build_eq, answered]

end DocScan.Descriptor
