import SkillDispatch.Json.Decoder

set_option autoImplicit false

namespace SkillDispatch.Json

open Text

variable {α β : Type}

/-! ### Objects -/

def field? (name : String) : Json → Option Json
  | .object fields => fields.lookup name
  | _ => none

def bindFields (bound fields : List (String × Json)) : List (String × Json) :=
  fields.foldl (fun bound (name, value) => bindName name value bound) bound

theorem ofFields_eq (fields : List (String × Json)) :
    ofFields fields = .object (bindFields [] fields) := rfl

theorem bindFields_ascending {bound : List (String × Json)} (fields : List (String × Json))
    (ascending : bound.Pairwise (·.1 < ·.1)) :
    (bindFields bound fields).Pairwise (·.1 < ·.1) := by
  induction fields generalizing bound with
  | nil => exact ascending
  | cons field rest ih => exact ih (bindName_ascending _ _ _ ascending)

theorem mem_bindFields {bound fields : List (String × Json)} {field : String × Json}
    (member : field ∈ bindFields bound fields) : field ∈ bound ∨ field ∈ fields := by
  induction fields generalizing bound with
  | nil => exact Or.inl member
  | cons head rest ih =>
    rcases ih member with inBound | inRest
    · rcases mem_bindName inBound with isHead | earlier
      · exact Or.inr (isHead ▸ List.mem_cons_self)
      · exact Or.inl earlier
    · exact Or.inr (List.mem_cons_of_mem _ inRest)

/-- Of several fields with one name the last one counts. -/
theorem lookup_bindFields (bound fields : List (String × Json)) (wanted : String) :
    (bindFields bound fields).lookup wanted =
      (fields.reverse.lookup wanted).or (bound.lookup wanted) := by
  induction fields generalizing bound with
  | nil => rfl
  | cons head rest ih =>
    obtain ⟨name, value⟩ := head
    have step : bindFields bound ((name, value) :: rest) =
        bindFields (bindName name value bound) rest := rfl
    rw [step, ih, lookup_bindName, List.reverse_cons, List.lookup_append, Option.or_assoc,
      lookup_entry]
    split <;> rfl

@[simp] theorem field?_ofFields (name : String) (fields : List (String × Json)) :
    (ofFields fields).field? name = fields.reverse.lookup name := by
  rw [ofFields_eq, field?, lookup_bindFields, List.lookup_nil, Option.or_none]

theorem names_fieldUnless (absent : Bool) (name : String) (value : Json) :
    ((fieldUnless absent name value).map Prod.fst).Sublist [name] := by
  unfold fieldUnless
  cases absent with
  | true => exact List.nil_sublist _
  | false => exact List.Sublist.refl _

theorem names_fieldIfSome (name : String) (value : Option String) :
    ((fieldIfSome name value).map Prod.fst).Sublist [name] := by
  unfold fieldIfSome
  cases value with
  | none => exact List.nil_sublist _
  | some text => exact List.Sublist.refl _

@[simp] theorem reverse_fieldUnless (absent : Bool) (name : String) (value : Json) :
    (fieldUnless absent name value).reverse = fieldUnless absent name value := by
  unfold fieldUnless
  cases absent <;> rfl

@[simp] theorem reverse_fieldIfSome (name : String) (value : Option String) :
    (fieldIfSome name value).reverse = fieldIfSome name value := by
  unfold fieldIfSome
  cases value <;> rfl

@[simp] theorem lookup_fieldUnless (absent : Bool) (name : String) (value : Json) (wanted : String) :
    (fieldUnless absent name value).lookup wanted =
      if absent then none else if wanted = name then some value else none := by
  unfold fieldUnless
  cases absent with
  | true => rfl
  | false => simp [lookup_entry]

@[simp] theorem lookup_fieldIfSome (name : String) (value : Option String) (wanted : String) :
    (fieldIfSome name value).lookup wanted =
      if wanted = name then value.map .string else none := by
  unfold fieldIfSome
  cases value with
  | none => simp
  | some text => simp [lookup_entry]

/-! ### Fields -/

/-- The members of an object of JSON values are all found, if all of them are asked for. -/
theorem Fields.ofMembers_ofJson {names earlier : List String} {entries : List (String × Json)}
    (ascending : entries.Pairwise (·.1 < ·.1)) (known : ∀ entry ∈ entries, entry.1 ∈ names)
    (fresh : ∀ entry ∈ entries, entry.1 ∉ earlier) :
    Fields.ofMembers names earlier (Members.ofJson entries) =
      ⟨entries.map fun entry => (entry.1, Document.ofJson entry.2), none⟩ := by
  induction entries generalizing earlier with
  | nil => rfl
  | cons head rest ih =>
    obtain ⟨name, value⟩ := head
    obtain ⟨below, ascendingRest⟩ := List.pairwise_cons.1 ascending
    obtain ⟨headKnown, restKnown⟩ := List.forall_mem_cons.1 known
    obtain ⟨headFresh, restFresh⟩ := List.forall_mem_cons.1 fresh
    have stillFresh : ∀ entry ∈ rest, entry.1 ∉ name :: earlier := by
      intro entry member inEarlier
      rcases List.mem_cons.1 inEarlier with same | before
      · exact String.lt_irrefl name (same ▸ below entry member)
      · exact restFresh entry member before
    rw [Members.ofJson, Fields.ofMembers, if_pos headKnown, if_neg headFresh,
      ih ascendingRest restKnown stillFresh]
    rfl

theorem Fields.find_map (name : String) (place : Nat) (entries : List (String × Json)) :
    (Fields.find name place (entries.map fun entry => (entry.1, Document.ofJson entry.2))).2 =
      (entries.lookup name).map Document.ofJson := by
  induction entries generalizing place with
  | nil => rfl
  | cons head rest ih =>
    obtain ⟨other, value⟩ := head
    rw [List.map_cons, Fields.find, lookup_entry]
    split
    · rfl
    · exact ih (place + 1)

/-! ### What a decoder makes of an object -/

namespace RecordDecoder

/-- Of the fields of a JSON object the decoder makes the value. -/
def Makes (decoder : RecordDecoder α) (entries : List (String × Json)) (value : α) : Prop :=
  ∀ missing, decoder.decode .value missing
    ⟨entries.map fun entry => (entry.1, Document.ofJson entry.2), none⟩ = .ok value

namespace Makes

variable {entries : List (String × Json)} {name : String} {value : α}

theorem field_present {decoder : Decoder α} {json : Json} (default : Option α)
    (present : entries.lookup name = some json) (decodes : decoder.ofJson json = .ok value) :
    (field name default decoder).Makes entries value := by
  intro missing
  have found := Fields.find_map name 0 entries
  rw [present] at found
  rw [field]
  dsimp only
  split
  · rename_i place document isFound
    rw [isFound] at found
    cases found
    have decoded : decoder .value (Document.ofJson json) = .ok value := decodes
    rw [decoded]
    rfl
  · rename_i isFound
    rw [isFound] at found
    cases found

theorem required {decoder : Decoder α} {json : Json} (present : entries.lookup name = some json)
    (decodes : decoder.ofJson json = .ok value) :
    (RecordDecoder.required name decoder).Makes entries value :=
  field_present none present decodes

theorem field_absent (decoder : Decoder α) (absent : entries.lookup name = none) :
    (field name (some value) decoder).Makes entries value := by
  intro missing
  have found := Fields.find_map name 0 entries
  rw [absent] at found
  rw [field]
  dsimp only
  split
  · rename_i isFound
    rw [isFound] at found
    cases found
  · rfl

theorem optional_list {decoder : Decoder α} {values : List α} {json : Json}
    (isField : entries.lookup name = if values = [] then none else some json)
    (decodes : (Decoder.list decoder).ofJson json = .ok values) :
    (optional name [] (Decoder.list decoder)).Makes entries values := by
  by_cases empty : values = []
  · rw [if_pos empty] at isField
    rw [empty]
    exact field_absent _ isField
  · rw [if_neg empty] at isField
    exact field_present _ isField decodes

theorem optional_string {text : Option String} (isField : entries.lookup name = text.map .string) :
    (optional name none (Decoder.nullable Decoder.string)).Makes entries text := by
  cases text with
  | none => exact field_absent _ isField
  | some text => exact field_present _ isField rfl

theorem pure : (Pure.pure value : RecordDecoder α).Makes entries value :=
  fun _ => rfl

theorem seq {first : RecordDecoder (α → β)} {second : RecordDecoder α} {function : α → β}
    (firstMakes : first.Makes entries function) (secondMakes : second.Makes entries value) :
    (first <*> second).Makes entries (function value) := by
  intro missing
  show both (first.decode .value missing _) (second.decode .value missing _) = _
  rw [firstMakes missing, secondMakes missing]
  rfl

theorem map {decoder : RecordDecoder α} (function : α → β) (makes : decoder.Makes entries value) :
    (function <$> decoder).Makes entries (function value) :=
  seq pure makes

end Makes

/-- An object of the fields that a decoder asks for is decoded by what is made of its fields. -/
theorem toDecoder_ofFields {decoder : RecordDecoder α} {value : α} (record : String)
    {fields : List (String × Json)} (known : fields.map Prod.fst ⊆ decoder.names)
    (makes : decoder.Makes (bindFields [] fields) value) :
    (decoder.toDecoder record).ofJson (ofFields fields) = .ok value := by
  have found : Fields.ofMembers decoder.names [] (Members.ofJson (bindFields [] fields)) =
      ⟨(bindFields [] fields).map fun entry => (entry.1, Document.ofJson entry.2), none⟩ := by
    apply Fields.ofMembers_ofJson (bindFields_ascending fields .nil)
    · intro entry member
      have written := (mem_bindFields member).resolve_left List.not_mem_nil
      exact known (List.mem_map_of_mem written)
    · nofun
  rw [ofFields_eq, Decoder.ofJson, Document.ofJson, toDecoder, found, run, makes]
  rfl

end RecordDecoder

/-! ### What holds of all that a decoder makes -/

def Decoder.Ensures (decoder : Decoder α) (post : α → Prop) : Prop :=
  ∀ source document value, decoder source document = .ok value → post value

namespace RecordDecoder

/-- Whatever the decoder makes of some fields satisfies the condition. -/
def Ensures (decoder : RecordDecoder α) (post : α → Prop) : Prop :=
  ∀ source missing fields value, decoder.decode source missing fields = .ok value → post value

namespace Ensures

variable {post : α → Prop} {name : String}

theorem field {decoder : Decoder α} {default : Option α} (decoded : decoder.Ensures post)
    (byDefault : ∀ value, default = some value → post value) :
    (RecordDecoder.field name default decoder).Ensures post := by
  intro source missing fields value isValue
  unfold RecordDecoder.field at isValue
  dsimp only at isValue
  split at isValue
  · rename_i place document _
    cases isDecoded : decoder source document with
    | error fault =>
      rw [isDecoded] at isValue
      cases isValue
    | ok made =>
      rw [isDecoded] at isValue
      cases isValue
      exact decoded source document value isDecoded
  · split at isValue
    · cases isValue
    · cases isValue
      exact byDefault _ rfl
    · cases isValue

theorem pure {value : α} (holds : post value) : (Pure.pure value : RecordDecoder α).Ensures post := by
  intro source missing fields made isMade
  cases isMade
  exact holds

theorem seq {first : RecordDecoder (α → β)} {second : RecordDecoder α} {before : (α → β) → Prop}
    {after : β → Prop} (firstEnsures : first.Ensures before) (secondEnsures : second.Ensures post)
    (together : ∀ function value, before function → post value → after (function value)) :
    (first <*> second).Ensures after := by
  intro source missing fields value isValue
  have isBoth : both (first.decode source missing fields) (second.decode source missing fields) =
      .ok value := isValue
  unfold both at isBoth
  split at isBoth
  · rename_i function argument isFunction isArgument
    cases isBoth
    exact together function argument (firstEnsures _ _ _ _ isFunction)
      (secondEnsures _ _ _ _ isArgument)
  · cases isBoth
  · cases isBoth
  · cases isBoth

theorem map {decoder : RecordDecoder α} {function : α → β} {after : β → Prop}
    (ensures : decoder.Ensures post) (applied : ∀ value, post value → after (function value)) :
    (function <$> decoder).Ensures after := by
  refine seq (pure (rfl : function = function)) ensures ?_
  intro same value isFunction holds
  exact isFunction ▸ applied value holds

theorem trivial (decoder : RecordDecoder α) : decoder.Ensures fun _ => True :=
  fun _ _ _ _ _ => True.intro

theorem run {decoder : RecordDecoder α} (ensures : decoder.Ensures post) {source : Source}
    {missing : String → Fault} {fields : Fields} {value : α}
    (isValue : decoder.run source missing fields = .ok value) : post value := by
  unfold RecordDecoder.run at isValue
  split at isValue
  · cases isValue
  · cases isValue
  · rename_i made isMade _
    cases isValue
    exact ensures source missing fields value isMade

theorem toDecoder {decoder : RecordDecoder α} (ensures : decoder.Ensures post) (record : String) :
    (decoder.toDecoder record).Ensures post := by
  intro source document value isValue
  unfold RecordDecoder.toDecoder at isValue
  split at isValue
  · dsimp only at isValue
    split at isValue
    · cases isValue
    · exact ensures.run isValue
  · dsimp only at isValue
    split at isValue
    · cases isValue
    · exact ensures.run isValue
  · cases isValue

end Ensures

end RecordDecoder

theorem Decoder.Ensures.ofText {decoder : Decoder α} {post : α → Prop}
    (ensures : decoder.Ensures post) {text : String} {value : α}
    (isValue : decoder.ofText text = .ok value) : post value := by
  unfold Decoder.ofText at isValue
  generalize Reader.standard.read text = found at isValue
  obtain ⟨document, more⟩ := found
  dsimp only [bind, Except.bind] at isValue
  cases isDecoded : decoder .text document with
  | error fault =>
    rw [isDecoded] at isValue
    cases isValue
  | ok made =>
    rw [isDecoded] at isValue
    cases more with
    | true => cases isValue
    | false =>
      cases isValue
      exact ensures .text document value isDecoded

end SkillDispatch.Json
