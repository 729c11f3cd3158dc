import SlashDice.Json.Members

/-!
# Chat messages

A reply is one attachment with a coloured bar and labelled fields.  It is shown
to the whole channel or to the sender of the command only.
-/

namespace SlashDice

open Json

/-- Who sees a reply. -/
inductive Visibility
  | channel
  | sender
  deriving DecidableEq, Repr

def Visibility.word : Visibility → String
  | .channel => "in_channel"
  | .sender => "ephemeral"

def Visibility.ofWord? : String → Option Visibility
  | "in_channel" => some .channel
  | "ephemeral" => some .sender
  | _ => none

@[simp]
theorem Visibility.ofWord?_word (visibility : Visibility) :
    ofWord? visibility.word = some visibility := by
  cases visibility <;> rfl

def Visibility.ofValue? (value : Value) : Option Visibility :=
  value.asChoice?.bind Visibility.ofWord?

/-- What the colour of a reply tells. -/
inductive Tone
  | success
  | error
  | info
  deriving DecidableEq, Repr

def Tone.hex : Tone → String
  | .success => "#00ff00"
  | .error => "#ff0000"
  | .info => "#439fe0"

def Tone.ofHex? : String → Option Tone
  | "#00ff00" => some .success
  | "#ff0000" => some .error
  | "#439fe0" => some .info
  | _ => none

@[simp]
theorem Tone.ofHex?_hex (tone : Tone) : ofHex? tone.hex = some tone := by
  cases tone <;> rfl

/-- A labelled value; a short one may stand beside another. -/
structure Field where
  title : String
  value : String
  short : Bool
  deriving DecidableEq, Repr

/-- The parts of an attachment in which markup is interpreted. -/
inductive MarkupPart
  | text
  | fields
  deriving DecidableEq, Repr

def MarkupPart.word : MarkupPart → String
  | .text => "text"
  | .fields => "fields"

def MarkupPart.ofWord? : String → Option MarkupPart
  | "text" => some .text
  | "fields" => some .fields
  | _ => none

@[simp]
theorem MarkupPart.ofWord?_word (part : MarkupPart) : ofWord? part.word = some part := by
  cases part <;> rfl

/-- The coloured block that makes up a reply. -/
structure Attachment where
  title : Option String
  tone : Tone
  text : String
  fallback : String
  fields : List Field
  footer : Option String
  markupIn : List MarkupPart
  deriving DecidableEq, Repr

structure Message where
  visibility : Visibility
  attachment : Attachment
  deriving DecidableEq, Repr

def Field.toJson (field : Field) : Value :=
  .record [("title", .text field.title), ("value", .text field.value),
    ("short", .bool field.short)]

/-- An entry for a text, or none where there is no text. -/
def optionalEntry (name : String) : Option String → List (String × Value)
  | none => []
  | some value => [(name, .text value)]

/-- An attachment as JSON; a title or a footer that it does not have is left
out. -/
def Attachment.toJson (attachment : Attachment) : Value :=
  .record
    (optionalEntry "title" attachment.title ++
      [("color", .text attachment.tone.hex), ("text", .text attachment.text),
        ("fallback", .text attachment.fallback),
        ("fields", .list (attachment.fields.map Field.toJson))] ++
      optionalEntry "footer" attachment.footer ++
      [("mrkdwn_in", .list (attachment.markupIn.map fun part => .text part.word))])

namespace Message

/-- A message as JSON, with its attachment as the only one of a list. -/
def toJson (message : Message) : Value :=
  .record [("response_type", .text message.visibility.word),
    ("attachments", .list [message.attachment.toJson])]

def fieldTitles (message : Message) : List String :=
  message.attachment.fields.map Field.title

end Message
end SlashDice
