import SkillDispatch.Definition.Json
import SkillDispatch.Proofs.RecordDecoding
import SkillDispatch.Rendered

set_option autoImplicit false

namespace SkillDispatch

open Json (Decoder Document Items Members RecordDecoder)

/-! ### Lists and strings -/

namespace Json

variable {α : Type}

theorem Items.height_le_of_mem {items : List Json} {item : Json} (member : item ∈ items) :
    (Document.ofJson item).height ≤ (Items.ofJson items).height := by
  induction items with
  | nil => cases member
  | cons head rest ih =>
    rw [Items.ofJson, Items.height]
    rcases List.mem_cons.1 member with rfl | later
    · exact Nat.le_max_left _ _
    · exact Nat.le_trans (ih later) (Nat.le_max_right _ _)

theorem Members.height_le_of_lookup {entries : List (String × Json)} {name : String} {value : Json}
    (present : entries.lookup name = some value) :
    (Document.ofJson value).height ≤ (Members.ofJson entries).height := by
  induction entries with
  | nil => cases present
  | cons head rest ih =>
    obtain ⟨other, first⟩ := head
    rw [Text.lookup_entry] at present
    rw [Members.ofJson, Members.height]
    split at present
    · cases present
      exact Nat.le_max_left _ _
    · exact Nat.le_trans (ih present) (Nat.le_max_right _ _)

/-- The value of a field lies less deep than its object. -/
theorem height_lt_of_field? {json value : Json} {name : String}
    (present : json.field? name = some value) :
    (Document.ofJson value).height < (Document.ofJson json).height := by
  cases json with
  | object entries =>
    rw [Document.ofJson, Document.height]
    exact Nat.lt_succ_of_le (Members.height_le_of_lookup present)
  | _ => cases present

theorem height_lt_of_mem {items : List Json} {item : Json} (member : item ∈ items) :
    (Document.ofJson item).height < (Document.ofJson (.array items)).height := by
  rw [Document.ofJson, Document.height]
  exact Nat.lt_succ_of_le (Items.height_le_of_mem member)

/-- If every item is decoded to what it was written for, so is the array. -/
theorem Decoder.list_ofJson {decoder : Decoder α} {write : α → Json} {values : List α}
    (each : ∀ value ∈ values, decoder.ofJson (write value) = .ok value) :
    (Decoder.list decoder).ofJson (.array (values.map write)) = .ok values := by
  show Decoder.items decoder .value (Items.ofJson (values.map write)) = _
  induction values with
  | nil => rfl
  | cons value rest ih =>
    obtain ⟨first, later⟩ := List.forall_mem_cons.1 each
    have decoded : decoder .value (Document.ofJson (write value)) = .ok value := first
    rw [List.map_cons, Items.ofJson, Decoder.items, decoded]
    dsimp only [bind, Except.bind]
    rw [ih later]
    rfl

theorem Decoder.string_ofJson (text : String) : Decoder.string.ofJson (.string text) = .ok text :=
  rfl

theorem Decoder.strings_ofJson (texts : List String) :
    (Decoder.list Decoder.string).ofJson (.ofStrings texts) = .ok texts :=
  Decoder.list_ofJson fun text _ => Decoder.string_ofJson text

end Json

namespace Element

theorem toJsonEach_eq_map (elements : List Element) : toJsonEach elements = elements.map toJson := by
  induction elements with
  | nil => rfl
  | cons element rest ih => rw [toJsonEach, ih, List.map_cons]

def fields (element : Element) : List (String × Json) :=
  [("kind", .string element.kind)] ++
  Json.fieldUnless element.words.isEmpty "words" (.ofStrings element.words) ++
  Json.fieldIfSome "name" element.name ++
  Json.fieldUnless element.elements.isEmpty "elements" (.array (element.elements.map toJson))

theorem toJson_eq_ofFields (element : Element) : element.toJson = .ofFields element.fields := by
  rcases element with ⟨kind, words, name, elements⟩
  rw [toJson, toJsonEach_eq_map]
  rfl

/-- What is written of an element: a name that is there even if it is empty, and words and a body
only if there are any. -/
structure WrittenAs (element : Element) (json : Json) : Prop where
  kind : json.field? "kind" = some (.string element.kind)
  words : json.field? "words" =
    if element.words = [] then none else some (.ofStrings element.words)
  name : json.field? "name" = element.name.map .string
  elements : json.field? "elements" =
    if element.elements = [] then none else some (.array (element.elements.map toJson))

theorem toJson_writtenAs (element : Element) : element.WrittenAs element.toJson := by
  rw [toJson_eq_ofFields]
  constructor
  · simp [fields, List.lookup_append]
  · simp [fields, List.lookup_append, Text.lookup_entry]
  · simp [fields, List.lookup_append, Text.lookup_entry]
  · simp [fields, List.lookup_append, Text.lookup_entry]

/-- The names that are written are those of the fields, in their order, less what is left out. -/
theorem names_fields (element : Element) :
    (element.fields.map Prod.fst).Sublist ["kind", "words", "name", "elements"] := by
  unfold fields
  rw [List.map_append, List.map_append, List.map_append]
  exact (((List.Sublist.refl ["kind"]).append (Json.names_fieldUnless ..)).append
    (Json.names_fieldIfSome ..)).append (Json.names_fieldUnless ..)

/-- Decoding goes as many levels down as bodies lie in each other. -/
theorem decoderIn_toJson (element : Element) {levels : Nat}
    (deep : (Document.ofJson element.toJson).height < levels) :
    (decoderIn levels).ofJson element.toJson = .ok element := by
  cases levels with
  | zero => omega
  | succ levels =>
    have written := element.toJson_writtenAs
    have body : ∀ inner ∈ element.elements,
        (decoderIn levels).ofJson inner.toJson = .ok inner := by
      intro inner member
      have isField := written.elements
      rw [if_neg (List.ne_nil_of_mem member)] at isField
      have inObject := Json.height_lt_of_field? isField
      have inArray := Json.height_lt_of_mem (List.mem_map_of_mem (f := toJson) member)
      have smaller : sizeOf inner < sizeOf element := by
        have inBody := List.sizeOf_lt_of_mem member
        cases element
        simp at inBody ⊢
        omega
      exact decoderIn_toJson inner (by omega)
    rw [toJson_eq_ofFields] at written ⊢
    rw [decoderIn]
    apply RecordDecoder.toDecoder_ofFields _ element.names_fields.subset
    have kind : (RecordDecoder.required "kind" Decoder.string).Makes
        (Json.bindFields [] element.fields) element.kind := .required written.kind rfl
    have words := RecordDecoder.Makes.optional_list written.words (Json.Decoder.strings_ofJson _)
    have name := RecordDecoder.Makes.optional_string written.name
    have elements := RecordDecoder.Makes.optional_list written.elements (Json.Decoder.list_ofJson body)
    have whole : Element.mk element.kind element.words element.name element.elements = element := by
      cases element
      rfl
    have made := (((kind.map Element.mk).seq words).seq name).seq elements
    rwa [whole] at made
termination_by sizeOf element

theorem decoder_toJson (element : Element) : decoder.ofJson element.toJson = .ok element :=
  element.decoderIn_toJson (Nat.lt_succ_self _)

end Element

theorem PatternDefinition.decoder_toJson (definition : PatternDefinition) :
    decoder.ofJson definition.toJson = .ok definition := by
  rw [toJson, Element.toJsonEach_eq_map]
  apply RecordDecoder.toDecoder_ofFields _ (List.Subset.refl _)
  apply RecordDecoder.Makes.map
  exact .required rfl (Json.Decoder.list_ofJson fun element _ => element.decoder_toJson)

theorem SectionDefinition.decoder_toJson (definition : SectionDefinition) :
    decoder.ofJson definition.toJson = .ok definition := by
  apply RecordDecoder.toDecoder_ofFields _ (List.Subset.refl _)
  have patterns := Json.Decoder.list_ofJson fun pattern (_ : pattern ∈ definition.patterns) =>
    pattern.decoder_toJson
  exact (RecordDecoder.Makes.map _ (.required rfl (Json.Decoder.string_ofJson _))).seq
    (.required rfl patterns)

theorem RenderedItem.decoder_toJson (item : RenderedItem) :
    decoder.ofJson item.toJson = .ok item := by
  apply RecordDecoder.toDecoder_ofFields _ (List.Subset.refl _)
  exact (RecordDecoder.Makes.map _ (.required rfl (Json.Decoder.string_ofJson _))).seq
    (.required rfl (Json.Decoder.string_ofJson _))

namespace Rendered

def fields (result : Rendered) : List (String × Json) :=
  [("title", .string result.title), ("body", .string result.body)] ++
  Json.fieldIfSome "speech" result.speech ++
  Json.fieldUnless result.items.isEmpty "items" (.array (result.items.map RenderedItem.toJson))

theorem toJson_eq_ofFields (result : Rendered) : result.toJson = .ofFields result.fields := rfl

/-- What is written of a result: speech that is there even if it is empty, and items only if there
are any. -/
structure WrittenAs (result : Rendered) (json : Json) : Prop where
  title : json.field? "title" = some (.string result.title)
  body : json.field? "body" = some (.string result.body)
  speech : json.field? "speech" = result.speech.map .string
  items : json.field? "items" =
    if result.items = [] then none else some (.array (result.items.map RenderedItem.toJson))

theorem toJson_writtenAs (result : Rendered) : result.WrittenAs result.toJson := by
  rw [toJson_eq_ofFields]
  constructor
  · simp [fields, List.lookup_append, Text.lookup_entry]
  · simp [fields, List.lookup_append]
  · simp [fields, List.lookup_append, Text.lookup_entry]
  · simp [fields, List.lookup_append, Text.lookup_entry]

theorem names_fields (result : Rendered) :
    (result.fields.map Prod.fst).Sublist ["title", "body", "speech", "items"] := by
  unfold fields
  rw [List.map_append, List.map_append]
  exact ((List.Sublist.refl ["title", "body"]).append (Json.names_fieldIfSome ..)).append
    (Json.names_fieldUnless ..)

theorem decoder_toJson (result : Rendered) : decoder.ofJson result.toJson = .ok result := by
  have written := result.toJson_writtenAs
  rw [toJson_eq_ofFields] at written ⊢
  apply RecordDecoder.toDecoder_ofFields _ result.names_fields.subset
  have title : (RecordDecoder.required "title" Decoder.string).Makes
      (Json.bindFields [] result.fields) result.title := .required written.title rfl
  have body : (RecordDecoder.required "body" Decoder.string).Makes
      (Json.bindFields [] result.fields) result.body := .required written.body rfl
  have speech := RecordDecoder.Makes.optional_string written.speech
  have items := RecordDecoder.Makes.optional_list written.items
    (Json.Decoder.list_ofJson fun item _ => item.decoder_toJson)
  exact (((title.map Rendered.mk).seq body).seq speech).seq items

end Rendered

/-- Definitions and results are decoded to what they were written from, and what is left out of them
is what has its default. -/
theorem json_roundTrip (definitions : List SectionDefinition) (result : Rendered) :
    (Decoder.list SectionDefinition.decoder).ofJson (SectionDefinition.listToJson definitions) =
        .ok definitions ∧
      Rendered.decoder.ofJson result.toJson = .ok result ∧
      (∀ element : Element, element.WrittenAs element.toJson) ∧ result.WrittenAs result.toJson :=
  ⟨Json.Decoder.list_ofJson fun definition _ => definition.decoder_toJson,
    result.decoder_toJson, Element.toJson_writtenAs, result.toJson_writtenAs⟩

end SkillDispatch
