import CommerceCoordinator.LegacyOrders

open Commercetools
open LegacyOrders (FieldValue Attribute LocalizedString iterate lineItemAttribute getAttributeValue)

-- What catalog_info and the utils of the app read of a line item's product.
namespace CatalogInfo

structure ProductType where
  key : Option String
  name : String
  deriving DecidableEq

-- `productType` is the type where its reference is expanded; `images` are urls.
structure Product where
  productKey : Option String
  name : LocalizedString
  productType : Option ProductType
  sku : Option String
  attributes : Option (List Attribute)
  images : List String
  deriving DecidableEq

section Readers

def courseModeCredit : String := "credit"

def skuValue (sku : Option String) : FieldValue := (sku.map .text).getD .null

def getCourseModeFromCtOrder (attributes : Option (List Attribute)) : Except Exn FieldValue := do
  let courseMode ← lineItemAttribute attributes "mode"
  return if courseMode.truthy then courseMode else .text "verified"

def getEdxProductCourseRunKey (sku : Option String) (attributes : Option (List Attribute)) (courseMode : FieldValue) :
    Except Exn FieldValue :=
  if courseMode = .text courseModeCredit then lineItemAttribute attributes "external-ids-variant" else .ok (skuValue sku)

def getLobFromVariantAttr (attributes : Option (List Attribute)) : Except Exn FieldValue := getAttributeValue attributes "lob"

def expandedType (product : Product) : Except Exn ProductType :=
  match product.productType with
  | some productType => .ok productType
  | none => .error .attributeError

end Readers

theorem text_attribute_read {attributes : Option (List Attribute)} {name text : String}
    (given : getAttributeValue attributes name = .ok (.text text)) : lineItemAttribute attributes name = .ok (.text text) := by
  unfold getAttributeValue at given
  unfold lineItemAttribute
  cases listed : iterate attributes with
  | error e =>
    rw [listed] at given
    cases given
  | ok attributes =>
    rw [listed] at given
    simp only [bind,Except.bind,pure,Except.pure,Except.ok.injEq] at given ⊢
    cases first : attributes.find? (·.name = name) with
    | none =>
      rw [first] at given
      cases given
    | some attr =>
      obtain ⟨own,value⟩ := attr
      rw [first] at given
      cases given
      rfl

end CatalogInfo
