import SlashDice.Json.Value

/-!
# Reading structures from JSON

A structure is written as an object, or as the list of its fields in order.  In
an object, unknown names are skipped and a known name may occur only once.  In a
list, the fields at the end may be left out as far as they have a default, and
nothing may follow the last field.
-/

namespace SlashDice
namespace Json

/-- What is given for a field: a value, no entry of an object, or no further
item of a list. -/
inductive Slot
  | given (value : Value)
  | absent
  | pastEnd

/-- The members of a structure, by name or in the order of the fields. -/
inductive Members
  | named (entries : List (String × Value))
  | ordered (fields : List String) (items : List Value)

namespace Members

def repeats (entries : List (String × Value)) (field : String) : Bool :=
  1 < (entries.filter fun entry => entry.1 == field).length

def ofValue? (fields : List String) : Value → Option Members
  | .record entries => if fields.any (repeats entries) then none else some (named entries)
  | .list items => if items.length ≤ fields.length then some (ordered fields items) else none
  | _ => none

def slot (field : String) : Members → Slot
  | named entries =>
    match entries.lookup field with
    | some value => .given value
    | none => .absent
  | ordered fields items =>
    match items[fields.idxOf field]? with
    | some value => .given value
    | none => .pastEnd

variable {α : Type}

def required (field : String) (decode : Value → Option α) (members : Members) : Option α :=
  match members.slot field with
  | .given value => decode value
  | _ => none

@[simp]
theorem required_named (field : String) (decode : Value → Option α)
    (entries : List (String × Value)) :
    required field decode (named entries) = (entries.lookup field).bind decode := by
  rw [required, slot]
  cases entries.lookup field <;> rfl

/-- A field that stands for a default when it is not given. -/
def withDefault (field : String) (default : α) (decode : Value → Option α)
    (members : Members) : Option α :=
  match members.slot field with
  | .given value => decode value
  | _ => some default

@[simp]
theorem withDefault_named (field : String) (default : α) (decode : Value → Option α)
    (entries : List (String × Value)) :
    withDefault field default decode (named entries) =
      (entries.lookup field).elim (some default) decode := by
  rw [withDefault, slot]
  cases entries.lookup field <;> rfl

def nullable (decode : Value → Option α) : Value → Option (Option α)
  | .null => some none
  | value => (decode value).map some

/-- A field that may be null, and may be left out of an object. -/
def optional (field : String) (decode : Value → Option α) (members : Members) :
    Option (Option α) :=
  match members.slot field with
  | .given value => nullable decode value
  | .absent => some none
  | .pastEnd => none

@[simp]
theorem optional_named (field : String) (decode : Value → Option α)
    (entries : List (String × Value)) :
    optional field decode (named entries) =
      (entries.lookup field).elim (some none) (nullable decode) := by
  rw [optional, slot]
  cases entries.lookup field <;> rfl

end Members

namespace Value

def asBool? : Value → Option Bool
  | bool value => some value
  | _ => none

def asText? : Value → Option String
  | text value => some value
  | _ => none

/-- An integer from the least value up to, but not including, the bound. -/
def asIntBetween? (least bound : Int) : Value → Option Int
  | int value => if least ≤ value ∧ value < bound then some value else none
  | _ => none

def asUInt16? (value : Value) : Option UInt16 :=
  (value.asIntBetween? 0 UInt16.size).map fun number => UInt16.ofNat number.toNat

def asUInt32? (value : Value) : Option UInt32 :=
  (value.asIntBetween? 0 UInt32.size).map fun number => UInt32.ofNat number.toNat

def asUInt64? (value : Value) : Option UInt64 :=
  (value.asIntBetween? 0 UInt64.size).map fun number => UInt64.ofNat number.toNat

def asInt32? (value : Value) : Option Int32 :=
  (value.asIntBetween? (-0x80000000) 0x80000000).map Int32.ofInt

def asListOf? {α : Type} (decode : Value → Option α) : Value → Option (List α)
  | list items => items.mapM decode
  | _ => none

/-- The name of a choice: a text, or an object with that one name and null. -/
def asChoice? : Value → Option String
  | text name => some name
  | record [(name, null)] => some name
  | _ => none

end Value
end Json
end SlashDice
