import CommerceCoordinator.PredicateTexts
import Mathlib.Data.List.Induction
import Mathlib.Data.List.Nodup

-- The context of a predicate, made from a product and a variant: what `is defined` finds
-- out about it, and where its names lead.
namespace CartPredicateParser
open Lark
open Commercetools (Exn)

structure ProductProjection where
  id : String
  key : Option String
  deriving DecidableEq

structure Attribute (N : Type) where
  name : String
  value : Object N

structure ProductVariant (N : Type) where
  sku : Option String
  key : Option String
  attributes : Option (List (Attribute N))

section
variable {N : Type}

def optionalText : Option String → Object N
  | none => .null
  | some text => .text text

-- The value of an enum attribute is a dict with a key and a label.
def attributeValue : Object N → Object N
  | .dict entries => (entries.lookup "key").getD (.dict entries)
  | value => value

-- `entries[key] = value`
def setItem (key : String) (value : Object N) : List (String × Object N) → List (String × Object N)
  | [] => [(key,value)]
  | entry :: rest => if entry.1 = key then (key,value) :: rest else entry :: setItem key value rest

def attributesDict (attributes : List (Attribute N)) : List (String × Object N) :=
  attributes.foldl (fun entries item => setItem item.name (attributeValue item.value) entries) []

def createContextFromCtProductAndVariant [One N] (product : ProductProjection) (productVariant : ProductVariant N) : Object N :=
  .dict [("quantity",.number 1),
    ("custom",.dict [("bundleId",.null)]),
    ("product",.dict [("id",.text product.id),("key",optionalText product.key)]),
    ("variant",.dict [("sku",optionalText productVariant.key),("key",optionalText productVariant.sku)]),
    ("attributes",.dict (attributesDict (productVariant.attributes.getD [])))]

theorem lookup_setItem (key name : String) (value : Object N) (entries : List (String × Object N)) :
    (setItem key value entries).lookup name = if name = key then some value else entries.lookup name := by
  induction entries with
  | nil =>
    by_cases same : name = key
    · simp [setItem,same]
    · simp [setItem,List.lookup_cons,same,beq_false_of_ne same]
  | cons entry rest ih =>
    obtain ⟨first,stored⟩ := entry
    by_cases replaced : first = key
    · by_cases same : name = key
      · simp [setItem,replaced,same]
      · simp [setItem,List.lookup_cons,replaced,same,beq_false_of_ne same]
    · by_cases here : name = first
      · simp [setItem,replaced,here]
      · simp [setItem,List.lookup_cons,replaced,beq_false_of_ne here,ih]

theorem lookup_attributes (attributes : List (Attribute N)) (name : String) :
    (attributesDict attributes).lookup name =
      (attributes.reverse.find? (·.name = name)).map fun item => attributeValue item.value := by
  induction attributes using List.reverseRecOn with
  | nil => rfl
  | append_singleton earlier last ih =>
    rw [attributesDict,List.foldl_append,List.foldl_cons,List.foldl_nil,lookup_setItem]
    change (if name = last.name then _ else (attributesDict earlier).lookup name) = _
    rw [ih,List.reverse_append,List.reverse_singleton,List.singleton_append,List.find?_cons]
    by_cases same : name = last.name
    · simp [same]
    · simp [same,Ne.symm same]

def DistinctNames (attributes : List (Attribute N)) : Prop := (attributes.map (·.name)).Nodup

def HasAttribute (attributes : List (Attribute N)) (name : String) (value : Object N) : Prop :=
  ∃ item ∈ attributes, item.name = name ∧ attributeValue item.value = value

theorem lookup_distinct (attributes : List (Attribute N)) (distinct : DistinctNames attributes) (name : String)
    (value : Object N) : (attributesDict attributes).lookup name = some value ↔ HasAttribute attributes name value := by
  rw [lookup_attributes,Option.map_eq_some_iff]
  constructor
  · rintro ⟨item,found,rfl⟩
    exact ⟨item,List.mem_reverse.mp (List.mem_of_find?_eq_some found),by simpa using List.find?_some found,rfl⟩
  · rintro ⟨item,member,named,rfl⟩
    obtain ⟨other,found⟩ : ∃ other, attributes.reverse.find? (·.name = name) = some other :=
      Option.isSome_iff_exists.mp (List.find?_isSome.mpr ⟨item,List.mem_reverse.mpr member,by simpa using named⟩)
    have listed := List.mem_reverse.mp (List.mem_of_find?_eq_some found)
    have same : other.name = item.name := by simpa [named] using List.find?_some found
    exact ⟨other,found,by rw [List.inj_on_of_nodup_map distinct listed member same]⟩

inductive Leads : Object N → List String → Object N → Prop where
  | here (object : Object N) : Leads object [] object
  | step {entries : List (String × Object N)} {key : String} {keys : List String} {value object : Object N}
      (found : entries.lookup key = some value) (rest : Leads value keys object) : Leads (.dict entries) (key :: keys) object

def steps (path : String) : List String := (path.toList.splitOn '.').map String.ofList

theorem leads_step {entries : List (String × Object N)} {key : String} {keys : List String} {object : Object N} :
    Leads (.dict entries) (key :: keys) object ↔ ∃ value, entries.lookup key = some value ∧ Leads value keys object := by
  constructor
  · rintro ⟨⟩
    exact ⟨_,‹_›,‹_›⟩
  · rintro ⟨value,found,rest⟩
    exact .step found rest

theorem getitem_leads (keys : List String) (object value : Object N) :
    keys.foldlM getitem object = .ok value ↔ Leads object keys value := by
  induction keys generalizing object with
  | nil =>
    constructor
    · rintro ⟨⟩
      exact .here _
    · rintro ⟨⟩
      rfl
  | cons key keys ih =>
    rw [List.foldlM_cons]
    cases object with
    | dict entries =>
      rw [leads_step,getitem]
      cases entries.lookup key with
      | none => simp [bind,Except.bind]
      | some next =>
        simp only [Option.some.injEq,exists_eq_left']
        exact ih next
    | _ =>
      constructor
      · rintro ⟨⟩
      · rintro ⟨⟩

theorem leads_unique {context : Object N} {keys : List String} {value other : Object N} (found : Leads context keys value)
    (again : Leads context keys other) : value = other := by
  have first := (getitem_leads keys context value).mpr found
  rw [(getitem_leads keys context other).mpr again] at first
  exact (Except.ok.inj first).symm

theorem getPath_leads (context : Object N) (path : String) (value : Object N) :
    getPath context path = .ok value ↔ Leads context (steps path) value := getitem_leads (steps path) context value

theorem steps_single (name : String) (whole : '.' ∉ name.toList) : steps name = [name] := by
  rw [steps,List.splitOn_eq_singleton whole,List.map_singleton,String.ofList_toList]

theorem steps_dotted (first second : String) (whole : '.' ∉ first.toList) :
    steps (".".intercalate [first,second]) = first :: steps second := by
  have text : (".".intercalate [first,second]).toList = first.toList ++ '.' :: second.toList := by
    rw [intercalate_toList]
    simp
  rw [steps,text,List.splitOn_append_cons_self,List.splitOn_eq_singleton whole]
  simp [steps]

-- What the parts of a name with dots lead to, one after the other, is what the attribute
-- with the whole name is: a coincidence of the attributes' values.
def PartsCoincide (attributes : List (Attribute N)) (name : String) : Prop :=
  ∀ value, Leads (.dict (attributesDict attributes)) (steps name) value ↔ HasAttribute attributes name value

theorem optionalText_inj (a b : Option String) : (optionalText a : Object N) = optionalText b ↔ a = b := by
  cases a <;> cases b <;> simp [optionalText]

theorem undotted_coincides (attributes : List (Attribute N)) (distinct : DistinctNames attributes) (name : String)
    (whole : '.' ∉ name.toList) : PartsCoincide attributes name := by
  intro value
  rw [steps_single name whole,leads_step,← lookup_distinct attributes distinct]
  constructor
  · rintro ⟨other,looked,⟨⟩⟩
    exact looked
  · intro looked
    exact ⟨value,looked,.here value⟩

variable [Zero N] [One N] [BEq N] [LT N] [LE N] [DecidableLT N] [DecidableLE N] {float : String → N}

theorem evaluates_existence (f : FieldText float) (negate : Bool) (context : Object N) (result : Except Exn (Object N)) :
    Evaluates float (existenceText f.text negate) context result ↔
      (getValue context f.field).map (fun value => .bool (match value with | .null => negate | _ => !negate)) = result := by
  rw [reads_evaluates (reads_existence f negate),evaluate]
  cases getValue context f.field with
  | error raised => rfl
  | ok value => cases value <;> rfl

def ExistenceChecked (f : FieldText float) (path : String) (context : Object N) : Prop :=
  ∃ result : Bool,
    Evaluates float (existenceText f.text false) context (.ok (.bool result)) ∧
    Evaluates float (existenceText f.text true) context (.ok (.bool !result)) ∧
    (result = true ↔ ∃ value, Leads context (steps path) value ∧ value ≠ .null)

theorem existence_checked_iff (f : FieldText float) (path : String) (named : f.field = .path path)
    (product : ProductProjection) (productVariant : ProductVariant N) :
    ExistenceChecked f path (createContextFromCtProductAndVariant product productVariant) ↔
      ∃ value, Leads (createContextFromCtProductAndVariant product productVariant) (steps path) value := by
  simp only [ExistenceChecked,evaluates_existence,named]
  constructor
  · rintro ⟨result,checked,_⟩
    cases found : getValue (createContextFromCtProductAndVariant product productVariant) (.path path) with
    | error raised => rw [found] at checked; cases checked
    | ok value => exact ⟨value,(getPath_leads _ _ _).mp found⟩
  · rintro ⟨value,leads⟩
    have found : getValue (createContextFromCtProductAndVariant product productVariant) (.path path) = .ok value :=
      (getPath_leads _ _ _).mpr leads
    have only (other : Object N) : Leads (createContextFromCtProductAndVariant product productVariant) (steps path) other ↔
        value = other := ⟨leads_unique leads,fun same => same ▸ leads⟩
    rw [found]
    simp only [only]
    cases value <;> simp [Except.map]

def belowField (float : String → N) (first : String) (part : Part) (named : CNAME first.toList = true)
    (wellformed : part.Wellformed) : FieldText float :=
  dottedField float first [part] named (by simpa using wellformed)

theorem below_leads (first : String) (part : Part) (named : CNAME first.toList = true) (wellformed : part.Wellformed)
    {entries : List (String × Object N)} {inner : Object N} (found : entries.lookup first = some inner) (value : Object N) :
    evaluateField (.dict entries) (belowField float first part named wellformed).field = .ok value ↔
      Leads inner (steps part.text) value := by
  have whole : '.' ∉ first.toList := fun member => by cases cname_char _ named '.' member
  show getPath _ (".".intercalate [first,part.text]) = _ ↔ _
  rw [getPath_leads,steps_dotted first part.text whole,leads_step,found]
  simp

theorem name_reads (first name : String) (named : CNAME first.toList = true) (wellformed : (Part.name name).Wellformed)
    {entries inner : List (String × Object N)} (found : entries.lookup first = some (.dict inner)) (value : Object N) :
    evaluateField (.dict entries) (belowField float first (.name name) named wellformed).field = .ok value ↔
      inner.lookup name = some value := by
  have whole : '.' ∉ name.toList := fun member => by cases cname_char _ wellformed '.' member
  rw [below_leads first (.name name) named wellformed found]
  show Leads _ (steps name) value ↔ _
  rw [steps_single name whole,leads_step]
  constructor
  · rintro ⟨other,looked,⟨⟩⟩
    exact looked
  · intro looked
    exact ⟨value,looked,.here value⟩

def productField (float : String → N) (name : String) (wellformed : (Part.name name).Wellformed) : FieldText float :=
  belowField float "product" (.name name) (by decide) wellformed

def variantField (float : String → N) (name : String) (wellformed : (Part.name name).Wellformed) : FieldText float :=
  belowField float "variant" (.name name) (by decide) wellformed

theorem attributesNamed : CNAME "attributes".toList = true := by decide

def attributeField (float : String → N) (part : Part) (wellformed : part.Wellformed) : FieldText float :=
  belowField float "attributes" part attributesNamed wellformed

theorem idNamed : (Part.name "id").Wellformed := by change CNAME _ = true; decide
theorem keyNamed : (Part.name "key").Wellformed := by change CNAME _ = true; decide
theorem skuNamed : (Part.name "sku").Wellformed := by change CNAME _ = true; decide

structure NamesReach (float : String → N) (product : ProductProjection) (productVariant : ProductVariant N) (part : Part)
    (wellformed : part.Wellformed) (context : Object N) : Prop where
  productId : evaluateField context (productField float "id" idNamed).field = .ok (.text product.id)
  productKey : evaluateField context (productField float "key" keyNamed).field = .ok (optionalText product.key)
  variantSku : evaluateField context (variantField float "sku" skuNamed).field = .ok (optionalText productVariant.sku)
  variantKey : evaluateField context (variantField float "key" keyNamed).field = .ok (optionalText productVariant.key)
  attributes : ∀ value, evaluateField context (attributeField float part wellformed).field = .ok value ↔
    HasAttribute (productVariant.attributes.getD []) part.text value

theorem names_reach_iff (float : String → N) (product : ProductProjection) (productVariant : ProductVariant N) (part : Part)
    (wellformed : part.Wellformed) (distinct : DistinctNames (productVariant.attributes.getD [])) :
    NamesReach float product productVariant part wellformed
        (createContextFromCtProductAndVariant product productVariant) ↔
      productVariant.sku = productVariant.key ∧
        ('.' ∈ part.text.toList → PartsCoincide (productVariant.attributes.getD []) part.text) := by
  have variantRead (name : String) (named : (Part.name name).Wellformed) (value : Object N) :
      evaluateField (createContextFromCtProductAndVariant product productVariant) (variantField float name named).field =
        .ok value ↔ ([("sku",optionalText productVariant.key),("key",optionalText productVariant.sku)] :
          List (String × Object N)).lookup name = some value := name_reads "variant" name (by decide) named rfl value
  have attributeRead (value : Object N) :
      evaluateField (createContextFromCtProductAndVariant product productVariant) (attributeField float part wellformed).field =
        .ok value ↔ Leads (.dict (attributesDict (productVariant.attributes.getD []))) (steps part.text) value :=
    below_leads "attributes" part (by decide) wellformed rfl value
  constructor
  · intro reach
    refine ⟨?_,fun _ value => (attributeRead value).symm.trans (reach.attributes value)⟩
    have sku := (variantRead "sku" skuNamed _).mp reach.variantSku
    exact ((optionalText_inj _ _).mp (Option.some.inj sku)).symm
  · rintro ⟨same,dotted⟩
    refine ⟨?_,?_,?_,?_,fun value => (attributeRead value).trans ?_⟩
    · exact (name_reads "product" "id" (by decide) idNamed rfl _).mpr rfl
    · exact (name_reads "product" "key" (by decide) keyNamed rfl _).mpr rfl
    · exact (variantRead "sku" skuNamed _).mpr (by rw [same]; rfl)
    · exact (variantRead "key" keyNamed _).mpr (by rw [← same]; rfl)
    · by_cases whole : '.' ∈ part.text.toList
      · exact dotted whole value
      · exact undotted_coincides _ distinct part.text whole value

end

def demoProduct : ProductProjection := ⟨"1a2b",some "MichiganX+Demo"⟩

def demoVariant (key : String) (attributes : List (Attribute Int)) : ProductVariant Int :=
  ⟨some "course-v1:MichiganX+Demo+2025",some key,some attributes⟩

def modeAttribute : Attribute Int := ⟨"mode",.dict [("key",.text "verified"),("label",.text "Verified")]⟩

theorem modeNamed : (Part.name "mode").Wellformed := by change CNAME _ = true; decide

def modePath : FieldText readOne := attributeField readOne (.name "mode") modeNamed

theorem modePath_named : modePath.field = .path "attributes.mode" := congrArg Field.path (by decide +kernel)

theorem mode_steps : steps "attributes.mode" = ["attributes","mode"] := by decide +kernel

theorem mode_existence_checked : modePath.field = .path "attributes.mode" ∧ ExistenceChecked modePath "attributes.mode"
    (createContextFromCtProductAndVariant demoProduct (demoVariant "verified" [modeAttribute])) :=
  ⟨modePath_named,(existence_checked_iff modePath "attributes.mode" modePath_named demoProduct _).mpr
    ⟨.text "verified",by rw [mode_steps]; exact .step rfl (.step rfl (.here _))⟩⟩

theorem missing_mode_raises : modePath.field = .path "attributes.mode" ∧ ¬ ExistenceChecked modePath "attributes.mode"
    (createContextFromCtProductAndVariant demoProduct (demoVariant "verified" [])) := by
  refine ⟨modePath_named,?_⟩
  rintro ⟨result,checked,_⟩
  rw [evaluates_existence,modePath_named,getValue,getPath,← steps,mode_steps] at checked
  cases checked

theorem equal_keys_reach : DistinctNames [modeAttribute] ∧
    NamesReach readOne demoProduct (demoVariant "course-v1:MichiganX+Demo+2025" [modeAttribute]) (.name "mode") modeNamed
      (createContextFromCtProductAndVariant demoProduct (demoVariant "course-v1:MichiganX+Demo+2025" [modeAttribute])) :=
  ⟨List.nodup_singleton _,(names_reach_iff readOne demoProduct (demoVariant "course-v1:MichiganX+Demo+2025" [modeAttribute])
    (.name "mode") modeNamed (List.nodup_singleton _)).mpr ⟨rfl,fun dotted => absurd dotted (by decide)⟩⟩

def courseKey : Attribute Int := ⟨"course.key",.text "MichiganX+Demo"⟩

theorem courseKeyWritten : (Part.backticked "course.key").Wellformed := by
  have inner : ("course.key".toList.all fun char => char != '\x60' && !isSpace char) = true := by decide
  refine ⟨by decide,fun char member => ?_⟩
  simpa using List.all_eq_true.mp inner char member

theorem sku_is_key : DistinctNames [modeAttribute] ∧ DistinctNames [courseKey] ∧
    ¬ NamesReach readOne demoProduct (demoVariant "verified" [modeAttribute]) (.name "mode") modeNamed
      (createContextFromCtProductAndVariant demoProduct (demoVariant "verified" [modeAttribute])) ∧
    ¬ NamesReach readOne demoProduct (demoVariant "course-v1:MichiganX+Demo+2025" [courseKey]) (.backticked "course.key")
      courseKeyWritten
      (createContextFromCtProductAndVariant demoProduct (demoVariant "course-v1:MichiganX+Demo+2025" [courseKey])) := by
  refine ⟨List.nodup_singleton _,List.nodup_singleton _,fun reach => ?_,fun reach => ?_⟩
  · have sku := (name_reads "variant" "sku" (by decide) skuNamed rfl _).mp reach.variantSku
    have same := (optionalText_inj _ _).mp (Option.some.inj sku)
    revert same
    decide
  · have dotted : steps "course.key" = ["course","key"] := by decide +kernel
    have reached := (reach.attributes (.text "MichiganX+Demo")).mpr ⟨courseKey,by simp [demoVariant],rfl,rfl⟩
    have found := (below_leads "attributes" _ (by decide) courseKeyWritten rfl _).mp reached
    rw [Part.text,dotted,leads_step] at found
    obtain ⟨value,looked,_⟩ := found
    cases looked

end CartPredicateParser
