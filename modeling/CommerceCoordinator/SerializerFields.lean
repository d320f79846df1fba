import CommerceCoordinator.LegacyOrders

open LegacyOrders (FieldValue)

-- CharField, as the serializers of the apps use it.
namespace SerializerFields

-- str.isspace of one character
def isspace (c : Char) : Bool :=
  let n := c.toNat
  (9 ≤ n ∧ n ≤ 13) ∨ (28 ≤ n ∧ n ≤ 32) ∨ n = 133 ∨ n = 160 ∨ n = 5760 ∨ (8192 ≤ n ∧ n ≤ 8202) ∨
    n = 8232 ∨ n = 8233 ∨ n = 8239 ∨ n = 8287 ∨ n = 12288

def strip (text : String) : String := String.ofList ((text.toList.dropWhile isspace).reverse.dropWhile isspace).reverse

def noNull (text : String) : Bool := text.toList.all (·.toNat ≠ 0)

section Fields
-- How a number is printed.
variable (printed : Rat → String)

def textField (text : String) : Option String :=
  if ¬ text.toList.all isspace ∧ noNull text then some (strip text) else none

def charField : FieldValue → Option String
  | .text value => textField value
  | .number value => some (printed value)
  | _ => none

-- allow_null and allow_blank
def blankCharField : FieldValue → Option (Option String)
  | .null => some none
  | .text value => if noNull value then some (some (strip value)) else none
  | .number value => some (some (printed value))
  | _ => none

def required (value : Option FieldValue) : Option String := value.bind (charField printed)

-- Neither required nor kept from being null: nothing where it is absent.
def nullableCharField : Option FieldValue → Option (Option (Option String))
  | none => some none
  | some .null => some (some none)
  | some value => (charField printed value).map fun text => some (some text)

end Fields

theorem text_field_trimmed {text value : String} (accepted : textField text = some value) : value = strip text := by
  unfold textField at accepted
  split at accepted
  · exact (Option.some.inj accepted).symm
  · cases accepted

end SerializerFields
