import SlashDice.Reply.Message

/-!
# Messages read back from JSON

The JSON of a message names its visibility and has a list of its one attachment, whose
entries have names of their own.  A message is read back from its JSON as it was, so
different messages have different JSON.
-/

namespace SlashDice

open Json Json.Members

def Field.ofValue? (value : Value) : Option Field := do
  let members ← Members.ofValue? ["title", "value", "short"] value
  return {
    title := ← required "title" Value.asText? members
    value := ← required "value" Value.asText? members
    short := ← required "short" Value.asBool? members }

/-- Reads an attachment, in which a title and a footer may be missing. -/
def Attachment.ofValue? (value : Value) : Option Attachment := do
  let members ← Members.ofValue?
    ["title", "color", "text", "fallback", "fields", "footer", "mrkdwn_in"] value
  return {
    title := ← optional "title" Value.asText? members
    tone := ← required "color" (fun value => value.asText?.bind Tone.ofHex?) members
    text := ← required "text" Value.asText? members
    fallback := ← required "fallback" Value.asText? members
    fields := ← required "fields" (Value.asListOf? Field.ofValue?) members
    footer := ← optional "footer" Value.asText? members
    markupIn := ← required "mrkdwn_in"
      (Value.asListOf? fun value => value.asText?.bind MarkupPart.ofWord?) members }

/-- Reads a message with exactly one attachment. -/
def Message.ofValue? (value : Value) : Option Message := do
  let members ← Members.ofValue? ["response_type", "attachments"] value
  let visibility ← required "response_type" Visibility.ofValue? members
  match ← required "attachments" (Value.asListOf? Attachment.ofValue?) members with
  | [attachment] => return { visibility, attachment }
  | _ => none

@[simp]
theorem Json.Value.asListOf?_map {α : Type} {decode : Value → Option α} {encode : α → Value}
    (inverse : ∀ item, decode (encode item) = some item) (items : List α) :
    (Value.list (items.map encode)).asListOf? decode = some items := by
  rw [Value.asListOf?]
  induction items with
  | nil => rfl
  | cons item rest induction =>
      rw [List.map_cons, List.mapM_cons, inverse, induction]
      rfl

@[simp]
theorem Field.ofValue?_toJson (field : Field) : ofValue? field.toJson = some field :=
  rfl

@[simp]
theorem Attachment.ofValue?_toJson (attachment : Attachment) :
    ofValue? attachment.toJson = some attachment := by
  obtain ⟨title, tone, text, fallback, fields, footer, markupIn⟩ := attachment
  -- Which entries there are depends on the title and the footer alone.
  cases title <;> cases footer <;>
    simp [ofValue?, toJson, optionalEntry, Members.ofValue?, repeats, List.lookup_cons, nullable,
      Value.asText?, Value.asListOf?_map Field.ofValue?_toJson]

@[simp]
theorem Message.ofValue?_toJson (message : Message) : ofValue? message.toJson = some message := by
  have shown : Visibility.ofValue? (.text message.visibility.word) = some message.visibility :=
    Visibility.ofWord?_word _
  have attached : (Value.list [message.attachment.toJson]).asListOf? Attachment.ofValue? =
      some [message.attachment] :=
    Value.asListOf?_map Attachment.ofValue?_toJson [message.attachment]
  simp [ofValue?, toJson, Members.ofValue?, repeats, List.lookup_cons, shown, attached]

/-- Different messages have different JSON. -/
theorem Message.toJson_injective : Function.Injective Message.toJson := by
  intro one other same
  rw [← Option.some_inj, ← ofValue?_toJson one, same, ofValue?_toJson]

end SlashDice
