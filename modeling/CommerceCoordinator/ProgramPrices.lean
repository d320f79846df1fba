import CommerceCoordinator.CallTree
import CommerceCoordinator.Memcache
import CommerceCoordinator.ReadThrough
import CommerceCoordinator.StandalonePrices

open CallTree TimedCache
open StandalonePrices (Price ProgramVariant whereClause getProgramEntitlementsToBePurchased totalCentAmount centsToDollars
  calculateDiscountedPrice)
open ProgramOffers (CartDiscount getProgramOffer)

-- ProgramPriceView over CTCustomAPIClient: requests that fail and are repeated, and
-- the variants of a program in a cache that all requests share.
namespace ProgramPrices

-- 4 hours, in seconds
def GET_PROGRAM_CACHE_TTL_SECS : Nat := 60*60*4

-- The sku is that of value.obj.masterData.current.masterVariant, if it is there.
structure Attribute where
  name : Option String
  entitlementSku : Option String

structure Variant where
  key : Option String
  attributes : List Attribute

structure Program where
  variants : List Variant

structure EntitlementProduct where
  entitlementSku : Option String
  variantKey : Option String
  deriving DecidableEq

inductive Query where
  | productProjections (where_ expand : String)
  | cartDiscounts (where_ sort : String) (offset limit : Nat)
  | standalonePrices (where_ : String)

abbrev Results : Query → Type
  | .productProjections _ _ => List Program
  | .cartDiscounts _ _ _ _ => List CartDiscount
  | .standalonePrices _ => List Price

inductive Request where
  | getCachedResponse (key : String)
  | setAllTiers (key : String) (value : List EntitlementProduct) (timeout : Nat)
  | getAccessToken
  | query (q : Query)

-- None of a query is a RequestException.
abbrev Response : Request → Type
  | .getCachedResponse _ => Option (List EntitlementProduct)
  | .setAllTiers _ _ _ => Unit
  | .getAccessToken => Bool
  | .query q => Option (Results q)

inductive Raised where
  | requestException
  | unexpected
  deriving DecidableEq

abbrev Call (α : Type) := Prog Request Response Raised α

section Client

def attempt (q : Query) : Nat → Call (Option (Results q))
  | 0 => .perform (Request.query q)
  | retries+1 => (Prog.perform (Request.query q)).bind fun
    | some results => .pure (some results)
    | none => attempt q retries

def makeRequest (q : Query) : Call (Option (Results q)) := attempt q 3

-- CTCustomAPIClient()
def newClient : Call Unit := (Prog.perform Request.getAccessToken).bind fun granted =>
  if granted then .pure () else .raise .requestException

def bundleOffers : Query :=
  .cartDiscounts "requiresDiscountCode=false and target(type=\"lineItems\") and isActive=true" "sortOrder desc" 0 100

def getCtBundleOffersWithoutCode : Call (List CartDiscount) := do
  let bundleOfferWithoutCodes ← makeRequest bundleOffers
  return bundleOfferWithoutCodes.getD []

def programQuery (productKey : String) : Query :=
  .productProjections ("key=\""++productKey++"\"") "variants[*].attributes[*].value"

def programKey (fasthash : String → String) (productKey : String) : String :=
  Memcache.safeKey fasthash productKey "commercetools_get_program_variants" "1"

def variantEntitlements (variant : Variant) : List EntitlementProduct :=
  (variant.attributes.filter (·.name = some "ref-edx-course-entitlement")).map fun entitlement =>
    ⟨entitlement.entitlementSku,variant.key⟩

def entitlementProducts : List Program → List EntitlementProduct
  | [] => []
  | program :: _ => program.variants.flatMap variantEntitlements

def getProgramVariants (fasthash : String → String) (productKey : String) : Call (List EntitlementProduct) :=
  if productKey = "" then .raise .unexpected
  else do
    let cacheEntry ← .perform (Request.getCachedResponse (programKey fasthash productKey))
    match cacheEntry with
    | some value => return value
    | none =>
      match ← makeRequest (programQuery productKey) with
      | none => return []
      | some results => do
        let _ ← .perform (Request.setAllTiers (programKey fasthash productKey) (entitlementProducts results)
          GET_PROGRAM_CACHE_TTL_SECS)
        return entitlementProducts results

def getStandalonePricesForSkus (skus : List String) : Call (List Price) := do
  let response ← makeRequest (.standalonePrices (whereClause skus))
  return response.getD []

end Client

section View

-- A variant without a key is no text to match; a missing sku is written as None.
def programVariants (products : List EntitlementProduct) : Option (List ProgramVariant) :=
  products.mapM fun product => product.variantKey.map fun key => ⟨product.entitlementSku.getD "None",key⟩

def purchasable (products : List EntitlementProduct) (userPurchasableCourseKeys : List String) : Call (List String) :=
  match programVariants products with
  | none => .raise .unexpected
  | some variants => .pure (getProgramEntitlementsToBePurchased variants userPurchasableCourseKeys)

def reported (forUserMsg : String) (programOffer : Option ProgramOffers.ProgramOffer) : List Price → StandalonePrices.Response
  | [] => .serverError ("No standalone prices found "++forUserMsg)
  | first :: others =>
    let total := totalCentAmount (first :: others)
    .price (centsToDollars total) (centsToDollars (calculateDiscountedPrice programOffer total)) first.value.currencyCode

def priceOffered (forUserMsg bundleKey : String) (userPurchasableCourseKeys : List String)
    (ctProgramVariants : List EntitlementProduct) (ctBundleOffers : List CartDiscount) : Call StandalonePrices.Response :=
  if ctBundleOffers.length = 0 then .pure (.serverError ("Failed to retrieve bundle offers "++forUserMsg++"."))
  else
    match getProgramOffer ctBundleOffers bundleKey with
    | .error _ => .raise .unexpected
    | .ok programOffer => do
      let skus ← purchasable ctProgramVariants userPurchasableCourseKeys
      let prices ← getStandalonePricesForSkus skus
      return reported forUserMsg programOffer prices

def priceProgram (fasthash : String → String) (forUserMsg bundleKey : String) (userPurchasableCourseKeys : List String) :
    Call StandalonePrices.Response := do
  newClient
  let ctProgramVariants ← getProgramVariants fasthash bundleKey
  if ctProgramVariants.length = 0 then return .notFound ("No program variants found "++forUserMsg)
  else
    let ctBundleOffers ← getCtBundleOffersWithoutCode
    priceOffered forUserMsg bundleKey userPurchasableCourseKeys ctProgramVariants ctBundleOffers

def get (fasthash : String → String) (forUserMsg bundleKey : String) (userPurchasableCourseKeys : List String) :
    Call StandalonePrices.Response :=
  if userPurchasableCourseKeys = [] then .pure (.badRequest ("No course keys provided "++forUserMsg))
  else (priceProgram fasthash forUserMsg bundleKey userPurchasableCourseKeys).handle fun
    | .requestException => .pure (.serverError "Error occurred while fetching data")
    | .unexpected => .pure (.serverError "Unexpected error occurred")

end View

-- What Commercetools answers at a time; it refuses what it answers with `none`.
abbrev Catalog := (q : Query) → Option (Results q)

section System
variable (timeline : Nat → Catalog)

-- `failures` counts the calls that have ended in a RequestException.
structure Shared where
  cache : Cache String (List EntitlementProduct) Nat
  failures : Nat

def serve (answers : Bool) (r : Request) (s : Shared) : Response r × Shared :=
  match r with
  | .getCachedResponse key => (s.cache.get key,s)
  | .setAllTiers key value timeout => ((),{s with cache := s.cache.set key value (s.cache.now+timeout)})
  | .getAccessToken => (answers,if answers then s else {s with failures := s.failures+1})
  | .query q =>
    match if answers then timeline s.cache.now q else none with
    | some results => (some results,s)
    | none => (none,{s with failures := s.failures+1})

inductive Change where
  | later (now : Nat)
  | evicted (key : String)

def change : Change → Shared → Option Shared
  | .later now,s => (s.cache.advance now).map fun cache => {s with cache}
  | .evicted key,s => some {s with cache := s.cache.delete key}

def client : System Request Response Raised Shared Bool Change where
  serve := serve timeline
  environment := change
  restarts := fun _ => false

end System

structure BundleKey where
  text : String
  nonempty : text ≠ ""
  fits : (Memcache.combined text "commercetools_get_program_variants" "1").length ≤ Memcache.MEMCACHE_KEY_LEN_MAX

def variantsAt (catalog : Catalog) (bundleKey : String) : List EntitlementProduct :=
  ((catalog (programQuery bundleKey)).map entitlementProducts).getD []

def offersAt (catalog : Catalog) : List CartDiscount := (catalog bundleOffers).getD []

def priced (prices : String → Option (List Price)) (forUserMsg bundleKey : String) (userPurchasableCourseKeys : List String)
    (products : List EntitlementProduct) (offers : List CartDiscount) : StandalonePrices.Response :=
  match programVariants products with
  | some variants => StandalonePrices.get prices forUserMsg bundleKey userPurchasableCourseKeys variants offers
  | none =>
    if userPurchasableCourseKeys = [] then .badRequest ("No course keys provided "++forUserMsg)
    else if offers.length = 0 then .serverError ("Failed to retrieve bundle offers "++forUserMsg++".")
    else .serverError "Unexpected error occurred"

section Runs
variable (fasthash : String → String) (timeline : Nat → Catalog)

def Listed (since : Nat) (key : String) (value : List EntitlementProduct) : Prop :=
  ∃ (bundleKey : BundleKey) (results : List Program), key = programKey fasthash bundleKey.text ∧
    timeline since (programQuery bundleKey.text) = some results ∧ value = entitlementProducts results

def Fresh (s : Shared) : Prop := ReadThrough.Fresh (Listed fasthash timeline) GET_PROGRAM_CACHE_TTL_SECS s.cache

structure Along (s t : Shared) : Prop where
  later : s.cache.now ≤ t.cache.now
  failures : s.failures ≤ t.failures
  fresh : Fresh fasthash timeline s → Fresh fasthash timeline t

variable {fasthash timeline} {s t u : Shared}

theorem Along.refl (s : Shared) : Along fasthash timeline s s := ⟨le_refl _,le_refl _,id⟩

theorem Along.trans (first : Along fasthash timeline s t) (later : Along fasthash timeline t u) : Along fasthash timeline s u :=
  ⟨first.later.trans later.later,first.failures.trans later.failures,later.fresh ∘ first.fresh⟩

abbrev Keeps (fasthash : String → String) (timeline : Nat → Catalog) {α : Type} (post : Except Raised α → Shared → Prop)
    (p : Call α) (s : Shared) : Prop :=
  Ensures (client timeline) (fun _ _ => True) (Along fasthash timeline) (Along fasthash timeline) post p s

-- An answer that Commercetools gave on the way, or as many failures as there were attempts.
def Asked (timeline : Nat → Catalog) (q : Query) (since failures : Nat) : Except Raised (Option (Results q)) → Shared → Prop
  | .ok (some results),t => ∃ answered, since ≤ answered ∧ answered ≤ t.cache.now ∧ timeline answered q = some results
  | .ok none,t => failures ≤ t.failures
  | .error _,_ => False

end Runs

-- What the pure price comes to, by where the view stops.
section Priced
variable {prices : String → Option (List Price)} {forUserMsg bundleKey : String} {keys : List String}
  {products : List EntitlementProduct} {offers : List CartDiscount}

variable (asked : keys ≠ []) (some_variant : products.length ≠ 0)
include asked some_variant

variable (some_offer : offers.length ≠ 0)
include some_offer

end Priced

section Requests
variable {fasthash : String → String} {timeline : Nat → Catalog} {s t : Shared} {forUserMsg : String} {bundleKey : BundleKey}
  {keys : List String} {begun failures : Nat}

-- When Commercetools answered for the variants, when they were stored and read, and
-- when it answered for the offers and the prices.
structure Readings where
  since : Nat
  stored : Nat
  read : Nat
  offered : Nat
  asked : Nat

structure Readings.Ordered (r : Readings) (begun now : Nat) : Prop where
  answered : r.since ≤ r.stored
  before : r.stored ≤ r.read
  begun : begun ≤ r.read
  kept : r.read < r.stored+GET_PROGRAM_CACHE_TTL_SECS
  offered : r.read ≤ r.offered
  asked : r.offered ≤ r.asked
  past : r.asked ≤ now

def Readings.price (r : Readings) (timeline : Nat → Catalog) (forUserMsg bundleKey : String) (keys : List String) :
    StandalonePrices.Response :=
  priced (fun clause => timeline r.asked (.standalonePrices clause)) forUserMsg bundleKey keys
    (variantsAt (timeline r.since) bundleKey) (offersAt (timeline r.offered))

inductive Unavailable (forUserMsg : String) (failed : Nat) : StandalonePrices.Response → Prop where
  | token : 1 ≤ failed → Unavailable forUserMsg failed (.serverError "Error occurred while fetching data")
  | variants : 4 ≤ failed → Unavailable forUserMsg failed (.notFound ("No program variants found "++forUserMsg))
  | offers : 4 ≤ failed → Unavailable forUserMsg failed (.serverError ("Failed to retrieve bundle offers "++forUserMsg++"."))
  | prices : 4 ≤ failed → Unavailable forUserMsg failed (.serverError ("No standalone prices found "++forUserMsg))

def Told (timeline : Nat → Catalog) (forUserMsg bundleKey : String) (keys : List String) (begun failures : Nat)
    (response : StandalonePrices.Response) (t : Shared) : Prop :=
  (∃ r : Readings, r.Ordered begun t.cache.now ∧ response = r.price timeline forUserMsg bundleKey keys) ∨
    Unavailable forUserMsg (t.failures-failures) response

def told : Except Raised StandalonePrices.Response → StandalonePrices.Response
  | .ok response => response
  | .error .requestException => .serverError "Error occurred while fetching data"
  | .error .unexpected => .serverError "Unexpected error occurred"

def Tells (timeline : Nat → Catalog) (forUserMsg bundleKey : String) (keys : List String) (begun failures : Nat)
    (out : Except Raised StandalonePrices.Response) (t : Shared) : Prop :=
  Told timeline forUserMsg bundleKey keys begun failures (told out) t

theorem Readings.Ordered.later {r : Readings} (ordered : r.Ordered begun s.cache.now) (moved : Along fasthash timeline s t) :
    r.Ordered begun t.cache.now :=
  ⟨ordered.answered,ordered.before,ordered.begun,ordered.kept,ordered.offered,ordered.asked,ordered.past.trans moved.later⟩

section Variants
variable {r : Readings} {products : List EntitlementProduct}
  (asked : keys ≠ []) (held : products = variantsAt (timeline r.since) bundleKey.text) (some_variant : products.length ≠ 0)
include asked held some_variant

end Variants

theorem Keeps.along {α : Type} {post : Except Raised α → Shared → Prop} {p : Call α}
    (keeps : Keeps fasthash timeline post p s) :
    Keeps fasthash timeline (fun out t => post out t ∧ Along fasthash timeline s t) p s := by
  have trans : ∀ a b c, Along fasthash timeline a b → Along fasthash timeline b c → Along fasthash timeline a c :=
    fun _ _ _ => Along.trans
  exact keeps.moved trans (.refl s)

structure PriceRequest where
  forUserMsg : String
  bundleKey : BundleKey
  userPurchasableCourseKeys : List String

def PriceRequest.view (fasthash : String → String) (request : PriceRequest) : Call StandalonePrices.Response :=
  get fasthash request.forUserMsg request.bundleKey.text request.userPurchasableCourseKeys

abbrev Requests (ι : Type) := Config Request Response Raised StandalonePrices.Response Shared ι

variable {ι : Type} [DecidableEq ι]

end Requests
section Examples

def programOf (sku : String) : Program := ⟨[⟨some "edX+DemoX",[⟨some "ref-edx-course-entitlement",some sku⟩]⟩]⟩

def changed (now : Nat) : Catalog
  | .productProjections _ _ => some [programOf (if now < 10 then "first" else "second")]
  | .cartDiscounts _ _ _ _ => some [⟨some "offer",none,none⟩]
  | .standalonePrices where_ => some [⟨where_,⟨100,"USD",some 2⟩⟩]

def demo : BundleKey := ⟨"demo",by decide,by decide +kernel⟩

def twoRequests (_ : Bool) : PriceRequest := ⟨"for program: demo",demo,["edX+DemoX"]⟩

-- The first request stores the variants, and one of its calls fails and is repeated;
-- the second begins half a minute later.
def oneAfterTheOther : List (Event Bool Bool Change) :=
  [.act true true,.act true true,.act true false,.act true true,.act true true,.act true true,.act true true,.world (.later 30),
    .act false true,.act false true,.act false true,.act false true]

def quoted : Call StandalonePrices.Response → Bool
  | .pure (.price _ _ _) => true
  | _ => false

end Examples
end ProgramPrices
