import CommerceCoordinator.CallTree
import CommerceCoordinator.OrderReturn
import CommerceCoordinator.Paging

open Commercetools CallTree Paging

-- extract_commercetools_discount_data_to_csv: all discount codes, a page at a time,
-- while others create, change and delete codes.
namespace DiscountExport

variable {Id : Type}

-- `custom` are the fields of the custom type, if there is one.
structure CartDiscount where
  name : Dict String
  key : Option String
  custom : Option (Dict String)
  deriving DecidableEq

-- A cart discount that Commercetools did not expand has no `obj`.
structure DiscountCode (Id : Type) where
  id : Id
  name : Option (Dict String)
  code : String
  validFrom : Option String
  validUntil : Option String
  maxApplications : Option Nat
  maxApplicationsPerCustomer : Option Nat
  cartDiscounts : List (Option CartDiscount)
  deriving DecidableEq

structure CsvRow where
  name : String
  code : String
  validFrom : Option String
  validUntil : Option String
  maxApplications : Option Nat
  maxApplicationsPerCustomer : Option Nat
  cartDiscountName : String
  cartDiscountKey : String
  discountType : Option String
  category : Option String
  channel : Option String
  deriving DecidableEq

def pageSize : Nat := 500

inductive Request (Id : Type) where
  | accessToken
  | discountCodes (limit : Nat) (sort expand : String) (idAbove : Option Id)

abbrev Response : Request Id → Type
  | .accessToken => Bool
  | .discountCodes _ _ _ _ => Option (List (DiscountCode Id))

-- The loop of fetch_discounts has no bound of its own.
inductive Interruption where
  | unfinished
  | raised (error : Exn)

abbrev Call (Id : Type) := Prog (Request Id) Response Interruption

def fetchDiscounts : Nat → Option Id → List (DiscountCode Id) → Call Id (Option (List (DiscountCode Id)))
  | 0,_,_ => .raise .unfinished
  | fuel+1,lastId,results => .call (.discountCodes pageSize "id asc" "cartDiscounts[*]" lastId) fun
    | none => .pure none
    | some batchResults =>
      if batchResults.length = pageSize then
        fetchDiscounts fuel (cursor DiscountCode.id lastId batchResults) (results++batchResults)
      else .pure (some (results++batchResults))

def required (key : String) : Option α → Except Exn α
  | some value => .ok value
  | none => .error (.keyError key)

def enUs (name : Dict String) : String := (name.get "en-US").getD ""

def csvRow (discount : DiscountCode Id) : Except Exn CsvRow := do
  let cartDiscount ← match discount.cartDiscounts with
    | [] => .error .indexError
    | first::_ => required "obj" first
  let name ← required "name" discount.name
  let cartDiscountKey ← required "key" cartDiscount.key
  let fields ← required "custom" cartDiscount.custom
  return ⟨enUs name,discount.code,discount.validFrom,discount.validUntil,discount.maxApplications,
    discount.maxApplicationsPerCustomer,enUs cartDiscount.name,cartDiscountKey,fields.get "discountType",
    fields.get "category",fields.get "channel"⟩

def writeAttributesToCsv : Option (List (DiscountCode Id)) → Except Exn (Option (List CsvRow))
  | none => .ok none
  | some [] => .ok none
  | some (discount::rest) => ((discount::rest).mapM csvRow).map some

def raising : Except Exn α → Call Id α
  | .ok a => .pure a
  | .error e => .raise (.raised e)

def handle (fuel : Nat) : Call Id (Option (List CsvRow)) :=
  .call .accessToken fun
    | false => .pure none
    | true => (fetchDiscounts fuel none []).bind fun discounts => raising (writeAttributesToCsv discounts)

section Shop
variable [LinearOrder Id]

-- The discount codes, in the order of their ids, and what they have been before.
structure Shop (Id : Type) [LinearOrder Id] where
  current : Table (@DiscountCode.id Id)
  earlier : List (Table (@DiscountCode.id Id))

def Shop.tables (s : Shop Id) : List (List (DiscountCode Id)) := (s.current::s.earlier).map (·.rows)

def serve (answers : Bool) : (r : Request Id) → Shop Id → Response r × Shop Id
  | .accessToken,s => (answers,s)
  | .discountCodes limit _ _ idAbove,s =>
    (if answers then some (pageAbove DiscountCode.id idAbove limit s.current.rows) else none,s)

-- Between two calls the codes may become any others.
def commercetools : System (Request Id) Response Interruption (Shop Id) Bool (Table (@DiscountCode.id Id)) where
  serve := serve
  environment := fun change s => some ⟨change,s.current::s.earlier⟩
  restarts := fun _ => false

def Later (s s' : Shop Id) : Prop := ∀ rows ∈ s.tables, rows ∈ s'.tables

def Fetched : Except Interruption (Option (List (DiscountCode Id))) → Shop Id → Prop
  | .ok (some codes),s => Covers DiscountCode.id s.tables codes
  | _,_ => True

theorem Later.refl (s : Shop Id) : Later s s := fun _ known => known
theorem Later.trans {a b c : Shop Id} (ab : Later a b) (bc : Later b c) : Later a c := fun rows known => bc rows (ab rows known)

end Shop
end DiscountExport
