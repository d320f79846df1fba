import CommerceCoordinator.StoreQueries

open Commercetools CallTree StoreQueries

-- The two ways from a course run key to a variant.
namespace CourseRunLookup

variable {N : Type} {key : String} {results : List (Projection N)}

def Variant.unmarked (variant : Variant N) : Variant N := {variant with isMatchingVariant := none}

def Projection.unmarked (product : Projection N) : Projection N :=
  {product with masterVariant := Variant.unmarked product.masterVariant,variants := product.variants.map Variant.unmarked}

def Marked (key : String) (results : List (Projection N)) : Prop :=
  ∀ product ∈ results, ∀ variant ∈ product.allVariants, variant.isMatchingVariant = some (decide (variant.sku = some key))

structure Searched (shop : Shop N) (key : String) (results : List (Projection N)) : Prop where
  found : shop.search true (skuFilter key) = results
  marked : Marked key results
  same : (shop.search false (skuFilter key)).map Projection.unmarked = results.map Projection.unmarked

-- A variant is found by both or by none, and then it is one variant, of the product
-- that is returned with it.
def Agree (found : Option (Variant N)) (pair : Option (Projection N) × Option (Variant N)) : Prop :=
  (pair.2.isSome ↔ found.isSome) ∧ ∀ variant ∈ pair.2,
    (∃ other ∈ found, Variant.unmarked other = Variant.unmarked variant) ∧ ∃ product ∈ pair.1, variant ∈ product.allVariants

def hasKey (key : String) (variant : Variant N) : Bool := variant.sku = some key

def firstVariant (key : String) (results : List (Projection N)) : Option (Variant N) :=
  (results.flatMap Projection.allVariants).find? (hasKey key)

def firstFurther (key : String) (results : List (Projection N)) : Option (Variant N) :=
  (results.flatMap (·.variants)).find? (hasKey key)

def firstProduct (key : String) (results : List (Projection N)) : Option (Projection N) :=
  results.find? fun product => product.allVariants.any (hasKey key)

-- That product has the key on a further variant; or on its master, and the first
-- further variant with the key is in every field the same.
def BehindMaster (key : String) (results : List (Projection N)) : Prop :=
  ∀ product ∈ firstProduct key results, product.masterVariant.sku = some key →
    firstFurther key results = some product.masterVariant

section Lists

theorem first_variant_cons (product : Projection N) (rest : List (Projection N)) :
    firstVariant key (product::rest) =
      if hasKey key product.masterVariant then some product.masterVariant
      else (product.variants.find? (hasKey key)).or (firstVariant key rest) := by
  unfold firstVariant Projection.allVariants
  rw [List.flatMap_cons,List.cons_append,List.find?_cons,List.find?_append]
  cases hasKey key product.masterVariant <;> rfl

theorem first_further_cons (product : Projection N) (rest : List (Projection N)) :
    firstFurther key (product::rest) = (product.variants.find? (hasKey key)).or (firstFurther key rest) := by
  unfold firstFurther
  rw [List.flatMap_cons,List.find?_append]

theorem first_product_cons (product : Projection N) (rest : List (Projection N)) :
    firstProduct key (product::rest) =
      if hasKey key product.masterVariant || product.variants.any (hasKey key) then some product
      else firstProduct key rest := by
  unfold firstProduct Projection.allVariants
  rw [List.find?_cons,List.any_cons]
  cases hasKey key product.masterVariant || product.variants.any (hasKey key) <;> rfl

theorem first_same_iff : firstFurther key results = firstVariant key results ↔ BehindMaster key results := by
  induction results with
  | nil => simp [firstFurther,firstVariant,BehindMaster,firstProduct]
  | cons product rest ih =>
    unfold BehindMaster at ih ⊢
    rw [first_variant_cons,first_product_cons]
    by_cases master : hasKey key product.masterVariant = true
    · have named : product.masterVariant.sku = some key := by simpa [hasKey] using master
      simp [master,named]
    · have other : product.masterVariant.sku ≠ some key := by simpa [hasKey] using master
      rw [first_further_cons]
      cases further : product.variants.find? (hasKey key) with
      | some variant =>
        have present : product.variants.any (hasKey key) = true :=
          List.any_eq_true.mpr ⟨variant,List.mem_of_find?_eq_some further,List.find?_some further⟩
        simp [master,present,other]
      | none =>
        have absent : product.variants.any (hasKey key) = false := by
          rw [List.any_eq_false]
          exact List.find?_eq_none.mp further
        simpa [master,absent] using ih

theorem first_variant_unmarked (results : List (Projection N)) :
    firstVariant key (results.map Projection.unmarked) = (firstVariant key results).map Variant.unmarked := by
  have variants : (results.map Projection.unmarked).flatMap Projection.allVariants =
      (results.flatMap Projection.allVariants).map Variant.unmarked := by
    rw [List.flatMap_map,List.map_flatMap]
    rfl
  unfold firstVariant
  rw [variants,List.find?_map]
  rfl

theorem marked_same {variant other : Variant N} (marked : variant.isMatchingVariant = some (decide (variant.sku = some key)))
    (marked' : other.isMatchingVariant = some (decide (other.sku = some key)))
    (same : Variant.unmarked variant = Variant.unmarked other) : variant = other := by
  have skus : variant.sku = other.sku := congrArg (·.sku) same
  have marks : variant.isMatchingVariant = other.isMatchingVariant := by rw [marked,marked',skus]
  cases variant
  cases other
  cases marks
  simpa [Variant.unmarked] using same

theorem first_matching_variant (marked : Marked key results) :
    (firstMatching key results).2 = firstFurther key results := by
  induction results with
  | nil => rfl
  | cons product rest ih =>
    have first := fun variant (member : variant ∈ product.variants) =>
      marked product List.mem_cons_self variant (List.mem_cons_of_mem _ member)
    have agreed : product.variants.find? (fun variant => variant.isMatchingVariant = some true ∧ variant.sku = some key) =
        product.variants.find? (hasKey key) := by
      rw [← List.head?_filter,← List.head?_filter]
      refine congrArg List.head? (List.filter_congr fun variant member => ?_)
      simp [hasKey,first variant member]
    rw [first_further_cons,firstMatching,agreed]
    cases product.variants.find? (hasKey key) with
    | some variant => rfl
    | none => exact ih fun other member => marked other (List.mem_cons_of_mem _ member)

theorem first_matching_product {variant : Variant N} (found : (firstMatching key results).2 = some variant) :
    ∃ product ∈ results, (firstMatching key results).1 = some product ∧ variant ∈ product.variants := by
  induction results with
  | nil => cases found
  | cons product rest ih =>
    unfold firstMatching at found ⊢
    split at found
    · rename_i other matching
      cases found
      exact ⟨product,List.mem_cons_self,rfl,List.mem_of_find?_eq_some matching⟩
    · obtain ⟨owner,member,returned,inside⟩ := ih found
      exact ⟨owner,List.mem_cons_of_mem _ member,returned,inside⟩

end Lists

section Agreement
variable {found : Option (Variant N)}

theorem found_marked {searched : Projection N → List (Variant N)} {variant : Variant N} (marked : Marked key results)
    (within : ∀ product, searched product ⊆ product.allVariants)
    (first : (results.flatMap searched).find? (hasKey key) = some variant) :
    variant.isMatchingVariant = some (decide (variant.sku = some key)) := by
  obtain ⟨product,member,inside⟩ := List.mem_flatMap.mp (List.mem_of_find?_eq_some first)
  exact marked product member variant (within product inside)

theorem agree_iff (marked : Marked key results)
    (bare : found.map Variant.unmarked = (firstVariant key results).map Variant.unmarked) :
    Agree found (firstMatching key results) ↔ firstFurther key results = firstVariant key results := by
  have second := first_matching_variant marked
  constructor
  · intro agree
    obtain ⟨both,same⟩ := agree
    rw [second] at both same
    cases further : firstFurther key results with
    | none =>
      rw [further] at both
      have missing : found = none := by simpa using both
      rw [missing,Option.map_none] at bare
      exact (Option.map_eq_none_iff.mp bare.symm).symm
    | some variant =>
      obtain ⟨⟨other,rfl,equal⟩,_⟩ := same variant further
      obtain ⟨first,present,bared⟩ := Option.map_eq_some_iff.mp bare.symm
      have furtherMarked := found_marked marked (fun product => List.subset_cons_self _ product.variants) further
      have firstMarked := found_marked marked (fun _ => List.Subset.refl _) present
      rw [present,marked_same furtherMarked firstMarked (equal.symm.trans bared.symm)]
  · intro same
    rw [← same] at bare
    unfold Agree
    rw [second]
    cases further : firstFurther key results with
    | none =>
      rw [further] at bare
      have missing := Option.map_eq_none_iff.mp bare
      simp [missing]
    | some variant =>
      rw [further] at bare
      obtain ⟨other,rfl,bared⟩ := Option.map_eq_some_iff.mp bare
      obtain ⟨product,_,returned,inside⟩ := first_matching_product (second.trans further)
      refine ⟨by simp,fun variant' same => ?_⟩
      cases same
      exact ⟨⟨other,rfl,bared⟩,product,returned,List.mem_cons_of_mem _ inside⟩

end Agreement

section Searches
variable {shop : Shop N}

theorem variant_found (shop : Shop N) (key : String) (k : Nat) :
    ((getProductVariantByCourseRun key).exec (serve shop) k).1 =
      .ok (firstVariant key (shop.search false (skuFilter key))) := by
  change (Prog.exec (serve shop) (if (shop.search false (skuFilter key)).length < 1 then Prog.pure none else
    Prog.pure (((shop.search false (skuFilter key)).flatMap Projection.allVariants).filter (·.sku = some key)).head?) k).1 = _
  generalize shop.search false (skuFilter key) = results
  unfold firstVariant
  rw [← List.head?_filter]
  cases results with
  | nil => rfl
  | cons product rest =>
    rw [if_neg (by simp)]
    rfl

theorem pair_found (shop : Shop N) (enableRetries : Bool) (key : String) (k : Nat) :
    ((getProductAndVariantByCourseRunKey enableRetries key).exec (serve shop) k).1 =
      .ok (firstMatching key (shop.search true (skuFilter key))) := by
  unfold getProductAndVariantByCourseRunKey
  rw [exec_retried]
  · rfl
  · intro code never
    cases never

def LookupsAgree (shop : Shop N) (enableRetries : Bool) (key : String) (k : Nat) : Prop :=
  ∃ found pair, ((getProductVariantByCourseRun key).exec (serve shop) k).1 = .ok found ∧
    ((getProductAndVariantByCourseRunKey enableRetries key).exec (serve shop) k).1 = .ok pair ∧ Agree found pair

theorem lookups_agree_iff (enableRetries : Bool) (searched : Searched shop key results) (k : Nat) :
    LookupsAgree shop enableRetries key k ↔ BehindMaster key results := by
  have bare : (firstVariant key (shop.search false (skuFilter key))).map Variant.unmarked =
      (firstVariant key results).map Variant.unmarked := by
    rw [← first_variant_unmarked,← first_variant_unmarked,searched.same]
  rw [← first_same_iff,← agree_iff searched.marked bare]
  unfold LookupsAgree
  rw [variant_found,pair_found,searched.found]
  constructor
  · rintro ⟨_,_,first,second,agree⟩
    cases first
    cases second
    exact agree
  · intro agree
    exact ⟨_,_,rfl,rfl,agree⟩

end Searches

section Course

def courseKey : String := "course-v1:edX+DemoX+1T2025"

def variantOf (id : Nat) (sku : Option String) (marked : Bool) : Variant Int := ⟨⟨sku,none,none⟩,id,some marked⟩

def courseShop (master further : Option String) : Shop Int where
  orders := []
  discountCodes := []
  customers := []
  search := fun _ _ => [⟨⟨"product",some "edX+DemoX"⟩,variantOf 1 master (decide (master = some courseKey)),
    [variantOf 2 further (decide (further = some courseKey))]⟩]
  clock := fun _ => 0

theorem course_searched (master further : Option String) :
    Searched (courseShop master further) courseKey ((courseShop master further).search true (skuFilter courseKey)) := by
  refine ⟨rfl,?_,rfl⟩
  intro product inResults variant inProduct
  obtain rfl := List.mem_singleton.mp inResults
  obtain rfl | inFurther := List.mem_cons.mp inProduct
  · rfl
  · obtain rfl := List.mem_singleton.mp inFurther
    rfl

theorem further_variant_agrees : LookupsAgree (courseShop none (some courseKey)) true courseKey 0 := by
  refine (lookups_agree_iff true (course_searched none (some courseKey)) 0).mpr fun product first master => ?_
  cases first
  cases master

theorem master_variant_missed : ¬LookupsAgree (courseShop (some courseKey) none) true courseKey 0 := by
  rintro ⟨_,_,first,second,both,_⟩
  cases first
  cases second
  exact absurd (both.mpr rfl) (by decide)

end Course

end CourseRunLookup
