import CommerceCoordinator.CallTree
import CommerceCoordinator.Platform
import Mathlib.Data.List.Pairwise
import Mathlib.Tactic.Common

open Commercetools CallTree

-- get_new_order_number: a counter in a versioned custom object, restarted with
-- every calendar year.
namespace OrderNumber

structure Year where
  number : Nat
  fourDigits : 1000 ≤ number ∧ number ≤ 9999
  deriving DecidableEq

structure CustomObject where
  version : Nat
  value : Nat
  lastModifiedAt : Year
  deriving DecidableEq

instance : Versioned.HasVersion CustomObject := ⟨CustomObject.version⟩

-- The clock is read twice, for the reset and for the prefix.
inductive Reading where
  | reset
  | orderPrefix (written : CustomObject)

-- `caller` tells the writes of the calls apart; Commercetools does not see it.
inductive Request (ι : Type) where
  | getByContainerAndKey
  | now (reading : Reading)
  | createOrUpdate (caller : ι) (version value : Nat)

abbrev Response {ι : Type} : Request ι → Type
  | .getByContainerAndKey => Except ErrorCode CustomObject
  | .now _ => Year
  | .createOrUpdate _ _ _ => Except ErrorCode CustomObject

abbrev Call (ι α : Type) := Prog (Request ι) Response Exn α

section Calls
variable {ι : Type}

def getOrderNumberCustomObject : Call ι CustomObject :=
  .expect .commercetoolsError (.perform Request.getByContainerAndKey)

def now (reading : Reading) : Call ι Year := .perform (Request.now reading)

def updateOrderNumberCustomObject (caller : ι) (orderNumberCustomObject : CustomObject) : Call ι CustomObject := do
  let currentYear ← now .reset
  let previousOrderYear := orderNumberCustomObject.lastModifiedAt
  let newOrderNumber :=
    if currentYear.number > previousOrderYear.number then 1 else orderNumberCustomObject.value+1
  .expect .commercetoolsError
    (.perform (Request.createOrUpdate caller orderNumberCustomObject.version newOrderNumber))

def zfill (width : Nat) (s : String) : String := String.ofList (List.replicate (width-s.length) '0') ++ s

def formatOrderNumber (year value : Nat) : String := "2U-" ++ toString year ++ zfill 6 (toString value)

def newOrderNumber (caller : ι) : Call ι String := do
  let orderNumber ← getOrderNumberCustomObject
  let orderNumber ← updateOrderNumberCustomObject caller orderNumber
  let year ← now (.orderPrefix orderNumber)
  return formatOrderNumber year.number orderNumber.value

def isCommercetoolsError : Exn → Bool
  | .commercetoolsError _ => true
  | _ => false

-- conditional_retry: stop_after_attempt(3), the last error re-raised
def getNewOrderNumber (enableRetries : Bool) (caller : ι) : Call ι String :=
  if enableRetries then (newOrderNumber caller).retry isCommercetoolsError 2 else newOrderNumber caller

end Calls

structure Write (ι : Type) where
  caller : ι
  year : Nat
  value : Nat

structure Store (ι : Type) where
  object : CustomObject
  clock : Year
  writes : List (Write ι)

section Service
variable {ι : Type}

def serve (answers : Bool) : (r : Request ι) → Store ι → Response r × Store ι
  | .getByContainerAndKey,s => (if answers then .ok s.object else .error .unavailable,s)
  | .now _,s => (s.clock,s)
  | .createOrUpdate caller version value,s =>
    if answers then
      match Versioned.compareAndSet version s.object fun object => some ⟨object.version+1,value,s.clock⟩ with
      | some object => (.ok object,{s with object, writes := s.writes++[⟨caller,s.clock.number,value⟩]})
      | none => (.error .concurrentModification,s)
    else (.error .unavailable,s)

theorem create_or_update_cases (answers : Bool) (caller : ι) (version value : Nat) (s : Store ι) :
    (∃ code, serve answers (.createOrUpdate caller version value) s = (.error code,s)) ∨
    s.object.version = version ∧ serve answers (.createOrUpdate caller version value) s =
      (.ok ⟨s.object.version+1,value,s.clock⟩,{s with
        object := ⟨s.object.version+1,value,s.clock⟩
        writes := s.writes++[⟨caller,s.clock.number,value⟩]}) := by
  cases answers with
  | false => exact .inl ⟨_,rfl⟩
  | true =>
    by_cases current : s.object.version = version
    · refine .inr ⟨current,?_⟩
      simp [serve,Versioned.compareAndSet,Versioned.HasVersion.version,current]
    · refine .inl ⟨.concurrentModification,?_⟩
      simp [serve,Versioned.compareAndSet,Versioned.HasVersion.version,current]

def advanceClock (year : Year) (s : Store ι) : Option (Store ι) :=
  if s.clock.number ≤ year.number then some {s with clock := year} else none

def commercetools : System (Request ι) Response Exn (Store ι) Bool Year where
  serve := serve
  environment := advanceClock
  restarts := fun _ => false

-- No New Year falls between a call's write and its prefix.
def sameYear (s : Store ι) : Request ι → Bool
  | .now (.orderPrefix written) => s.clock = written.lastModifiedAt
  | _ => true

end Service

section Format

theorem to_string_list (n : Nat) : (toString n).toList = Nat.toDigits 10 n := Nat.toList_repr

theorem zfill_list (value : Nat) :
    (zfill 6 (toString value)).toList =
      List.replicate (6-(Nat.toDigits 10 value).length) '0' ++ Nat.toDigits 10 value := by
  rw [zfill,String.toList_append,String.toList_ofList,to_string_list,← to_string_list,String.length_toList]

theorem zfill_injective {a b : Nat} (same : zfill 6 (toString a) = zfill 6 (toString b)) : a = b := by
  have lists := congrArg String.toList same
  rw [zfill_list,zfill_list] at lists
  have read := congrArg (Nat.ofDigitChars 10 · 0) lists
  simpa only [Nat.ofDigitChars_append,Nat.ofDigitChars_replicate_zero,Nat.mul_zero,
    Nat.ofDigitChars_ten_toDigits] using read

theorem four_digits (year : Year) : (Nat.toDigits 10 year.number).length = 4 := by
  have upper : (Nat.toDigits 10 year.number).length ≤ 4 :=
    (Nat.length_toDigits_le_iff (by decide) (by decide)).mpr (by have := year.fourDigits; omega)
  have lower : ¬ (Nat.toDigits 10 year.number).length ≤ 3 := fun short => by
    have := (Nat.length_toDigits_le_iff (by decide) (by decide)).mp short
    have := year.fourDigits
    omega
  omega

theorem format_injective {y y' : Year} (same : formatOrderNumber y.number a = formatOrderNumber y'.number b) :
    y.number = y'.number ∧ a = b := by
  have lists := congrArg String.toList same
  simp only [formatOrderNumber,String.toList_append,List.append_assoc,List.append_cancel_left_eq,
    to_string_list] at lists
  obtain ⟨years,values⟩ := List.append_inj lists ((four_digits y).trans (four_digits y').symm)
  refine ⟨?_,zfill_injective (String.toList_inj.mp values)⟩
  have read := congrArg (Nat.ofDigitChars 10 · 0) years
  simpa only [Nat.ofDigitChars_ten_toDigits] using read

end Format

section Contract
variable {ι : Type}

-- The writes so far have pairwise different years or values, and the object is
-- at least as late as each of them.
structure Numbered (s : Store ι) : Prop where
  clock : s.object.lastModifiedAt.number ≤ s.clock.number
  latest : ∀ w ∈ s.writes, w.year ≤ s.object.lastModifiedAt.number ∧
    (w.year = s.object.lastModifiedAt.number → w.value ≤ s.object.value)
  distinct : s.writes.Pairwise fun a b => (a.year,a.value) ≠ (b.year,b.value)

structure Proceeds (s s' : Store ι) : Prop where
  object : Versioned.Evolves s.object s'.object
  clock : s.clock.number ≤ s'.clock.number
  kept : ∃ later, s'.writes = s.writes++later
  numbered : Numbered s → Numbered s'

theorem Proceeds.refl (s : Store ι) : Proceeds s s := ⟨.refl _,Nat.le_refl _,⟨[],by simp⟩,fun numbered => numbered⟩

theorem Proceeds.trans {a b c : Store ι} (ab : Proceeds a b) (bc : Proceeds b c) : Proceeds a c := by
  obtain ⟨x,hx⟩ := ab.kept
  obtain ⟨y,hy⟩ := bc.kept
  exact ⟨ab.object.trans bc.object,Nat.le_trans ab.clock bc.clock,⟨x++y,by rw [hy,hx,List.append_assoc]⟩,
    fun numbered => bc.numbered (ab.numbered numbered)⟩

theorem clock_proceeds {s : Store ι} (moved : advanceClock year s = some s') : Proceeds s s' := by
  unfold advanceClock at moved
  split at moved
  · rename_i forward
    cases Option.some.inj moved
    exact ⟨.refl _,forward,⟨[],by simp⟩,fun ⟨clock,latest,distinct⟩ => ⟨Nat.le_trans clock forward,latest,distinct⟩⟩
  · cases moved

theorem write_proceeds {s : Store ι} {reset : Year} (read : reset.number ≤ s.clock.number) :
    Proceeds s {s with
      object := ⟨s.object.version+1,if reset.number > s.object.lastModifiedAt.number then 1 else s.object.value+1,s.clock⟩
      writes := s.writes++[⟨caller,s.clock.number,
        if reset.number > s.object.lastModifiedAt.number then 1 else s.object.value+1⟩]} := by
  refine ⟨.inr (Nat.lt_succ_self _),Nat.le_refl _,⟨_,rfl⟩,?_⟩
  intro both
  obtain ⟨clock,latest,distinct⟩ := both
  refine ⟨Nat.le_refl _,?_,?_⟩
  · intro w member
    rcases List.mem_append.mp member with earlier | added
    · obtain ⟨before,bound⟩ := latest w earlier
      refine ⟨Nat.le_trans before clock,?_⟩
      intro same
      have current : w.year = s.object.lastModifiedAt.number := by dsimp only at same; omega
      have := bound current
      dsimp only at same ⊢
      split <;> omega
    · cases List.mem_singleton.mp added
      exact ⟨Nat.le_refl _,fun _ => Nat.le_refl _⟩
  · refine List.pairwise_append.mpr ⟨distinct,List.pairwise_singleton _ _,?_⟩
    intro w earlier new added
    cases List.mem_singleton.mp added
    obtain ⟨before,bound⟩ := latest w earlier
    intro same
    obtain ⟨year,value⟩ := Prod.mk.inj same
    dsimp only at year value
    have current : w.year = s.object.lastModifiedAt.number := by omega
    have := bound current
    split at value <;> omega

def Wrote (caller : ι) (written : CustomObject) (s : Store ι) : Prop :=
  ∃ w ∈ s.writes, w.caller = caller ∧ w.year = written.lastModifiedAt.number ∧ w.value = written.value

theorem Wrote.later {s s' : Store ι} (wrote : Wrote caller written s) (moved : Proceeds s s') :
    Wrote caller written s' := by
  obtain ⟨w,member,same⟩ := wrote
  obtain ⟨later,appended⟩ := moved.kept
  exact ⟨w,by rw [appended]; exact List.mem_append_left _ member,same⟩

def Numbers (caller : ι) : Except Exn String → Store ι → Prop
  | .ok n,s => ∃ written, Wrote caller written s ∧ n = formatOrderNumber written.lastModifiedAt.number written.value
  | .error _,_ => True

abbrev Keeps (post : Except Exn α → Store ι → Prop) (p : Call ι α) (s : Store ι) : Prop :=
  Ensures commercetools (fun s r => sameYear s r = true) Proceeds Proceeds post p s

def Copied : Except Exn CustomObject → Store ι → Prop
  | .ok copy,s => Versioned.Evolves copy s.object
  | .error _,_ => True

theorem get_object_keeps {s : Store ι} : Keeps Copied getOrderNumberCustomObject s := by
  intro t _ _ answers
  refine ⟨.refl _,?_⟩
  cases answers with
  | false => exact fun _ _ => trivial
  | true => exact fun u later => later.object

def Written (caller : ι) : Except Exn CustomObject → Store ι → Prop
  | .ok written,s => Wrote caller written s
  | .error _,_ => True

theorem create_or_update_keeps {s : Store ι} {reset : Year} (caller : ι)
    (copied : Versioned.Evolves copy s.object) (read : reset.number ≤ s.clock.number) :
    Keeps (Written caller) (.expect .commercetoolsError (.perform (Request.createOrUpdate caller copy.version
      (if reset.number > copy.lastModifiedAt.number then 1 else copy.value+1)))) s := by
  intro t since _ answers
  have evolved := copied.trans since.object
  have stepped := create_or_update_cases answers caller copy.version
    (if reset.number > copy.lastModifiedAt.number then 1 else copy.value+1) t
  change _ ∧ Ensures _ _ _ _ _ _ _
  simp only [commercetools] at *
  rcases stepped with ⟨code,refused⟩ | ⟨current,written⟩
  · rw [refused]
    exact ⟨.refl _,fun _ _ => trivial⟩
  · have same := evolved.current current
    subst same
    rw [written]
    refine ⟨write_proceeds (Nat.le_trans read since.clock),?_⟩
    intro v later
    exact Wrote.later ⟨_,List.mem_append_right _ (List.mem_singleton.mpr rfl),rfl,rfl,rfl⟩ later

theorem update_keeps {s : Store ι} (caller : ι) (copied : Versioned.Evolves copy s.object) :
    Keeps (Written caller) (updateOrderNumberCustomObject caller copy) s := by
  intro t before _ _
  refine ⟨.refl _,?_⟩
  exact create_or_update_keeps caller (copied.trans before.object) (Nat.le_refl _)

theorem new_order_number_keeps {s : Store ι} (caller : ι) : Keeps (Numbers caller) (newOrderNumber caller) s := by
  apply Ensures.bind Copied get_object_keeps (fun _ _ _ => trivial)
  intro copy t copied
  apply Ensures.bind _ (update_keeps caller (copied t (.refl _))) (fun _ _ _ => trivial)
  intro written u wrote v later formatted _
  refine ⟨.refl _,?_⟩
  intro w latest
  refine ⟨written,(wrote v later).later latest,?_⟩
  have same : v.clock = written.lastModifiedAt := of_decide_eq_true formatted
  change formatOrderNumber v.clock.number written.value = _
  rw [same]

theorem get_new_order_number_keeps {s : Store ι} (enableRetries : Bool) (caller : ι) :
    Keeps (Numbers caller) (getNewOrderNumber enableRetries caller) s := by
  unfold getNewOrderNumber
  split
  · refine Ensures.retry (fun _ => True) isCommercetoolsError 2 ?_ (fun _ _ _ => trivial) fun _ _ => trivial
    exact fun _ _ => new_order_number_keeps caller
  · exact new_order_number_keeps caller

theorem Numbered.apart {s : Store ι} (numbered : Numbered s) (first : w ∈ s.writes) (second : w' ∈ s.writes)
    (callers : w.caller ≠ w'.caller) : (w.year,w.value) ≠ (w'.year,w'.value) := by
  have symmetric : Std.Symm fun a b : Write ι => (a.year,a.value) ≠ (b.year,b.value) := ⟨fun _ _ => Ne.symm⟩
  exact numbered.distinct.forall first second fun same => callers (congrArg Write.caller same)

end Contract

section Runs
variable {ι : Type}

abbrev Cluster (ι : Type) := Config (Request ι) Response Exn String (Store ι) ι

def calls (enableRetries : ι → Bool) (i : ι) : Call ι String := getNewOrderNumber (enableRetries i) i

def fresh (enableRetries : ι → Bool) (object : CustomObject) (clock : Year) : Cluster ι :=
  ⟨⟨object,clock,[]⟩,calls enableRetries⟩

def returned (c : Cluster ι) (i : ι) : Option String :=
  match c.threads i with
  | .pure n => some n
  | _ => none

theorem returned_some {c : Cluster ι} (some_returned : returned c i = some n) : c.threads i = .pure n := by
  unfold returned at some_returned
  split at some_returned
  · rename_i at_end
    rw [at_end,Option.some.inj some_returned]
  · cases some_returned

theorem world_proceeds (year : Year) (s s' : Store ι) (moved : commercetools.environment year s = some s') :
    Proceeds s s' := clock_proceeds moved

variable {enableRetries : ι → Bool} {object : CustomObject} {clock : Year}

theorem calls_keep (i : ι) : Keeps (Numbers i) (calls enableRetries i) ⟨object,clock,[]⟩ :=
  get_new_order_number_keeps (enableRetries i) i

variable [DecidableEq ι]

abbrev Runs (enableRetries : ι → Bool) : Cluster ι → List (Event ι Bool Year) → Cluster ι → Prop :=
  RunsWhen (commercetools.step (calls enableRetries)) (Permitted fun _ s r => sameYear s r = true)

theorem calls_along (path : Runs enableRetries (fresh enableRetries object clock) events c) :
    (∀ i, Keeps (Numbers i) (c.threads i) c.shared) ∧ Proceeds (⟨object,clock,[]⟩ : Store ι) c.shared :=
  uniform_interference Proceeds.refl (fun _ _ _ => Proceeds.trans) world_proceeds (fun _ _ _ never _ => by cases never)
    calls_keep path

theorem numbers_written (path : Runs enableRetries (fresh enableRetries object clock) events c) (i : ι)
    (returned : c.threads i = .pure n) : Numbers i (.ok n) c.shared := by
  have own := (calls_along path).1 i
  rw [returned] at own
  exact own c.shared (.refl _)

theorem store_numbered (past : object.lastModifiedAt.number ≤ clock.number)
    (path : Runs enableRetries (fresh enableRetries object clock) events c) : Numbered c.shared := by
  have begun : Numbered (⟨object,clock,[]⟩ : Store ι) := ⟨past,by simp,.nil⟩
  exact (calls_along path).2.numbered begun

theorem order_numbers_unique (enableRetries : ι → Bool) (object : CustomObject) (clock : Year)
    (past : object.lastModifiedAt.number ≤ clock.number)
    (path : Runs enableRetries (fresh enableRetries object clock) events c)
    (i j : ι) (different : i ≠ j) (first : c.threads i = .pure n) (second : c.threads j = .pure m) : n ≠ m := by
  obtain ⟨a,⟨w,member,caller,year,value⟩,rfl⟩ := numbers_written path i first
  obtain ⟨b,⟨w',member',caller',year',value'⟩,rfl⟩ := numbers_written path j second
  have apart := (store_numbered past path).apart member member' (by rw [caller,caller']; exact different)
  intro same
  obtain ⟨years,values⟩ := format_injective same
  apply apart
  rw [year,year',value,value',years,values]

-- Two callers copy the same object; the second write is refused, and its retry
-- comes after the New Year.
def y2025 : Year := ⟨2025,by decide⟩
def y2026 : Year := ⟨2026,by decide⟩

def contended : List (Event (Fin 2) Bool Year) :=
  [.act 0 true,.act 1 true,.act 0 true,.act 1 true,.act 0 true,.act 1 true,.act 0 true,.world y2026] ++
    List.replicate 4 (.act 1 true)

theorem contended_callers_apart :
    ∃ c, run (commercetools.step (calls fun _ => true)) (fresh (fun _ => true) ⟨7,41,y2025⟩ y2025) contended = some c ∧
      returned c 0 = some "2U-2025000042" ∧ returned c 1 = some "2U-2026000001" ∧
      "2U-2025000042" ≠ "2U-2026000001" := by
  have ran : ((guardedRun (commercetools.step (calls fun _ => true)) (permitted fun _ => sameYear)
    (fresh (fun _ => true) ⟨7,41,y2025⟩ y2025) contended).map fun c => (returned c 0,returned c 1)) =
      some (some "2U-2025000042",some "2U-2026000001") := by
    decide +kernel
  obtain ⟨c,reached,both⟩ := Option.map_eq_some_iff.mp ran
  have first : returned c 0 = some "2U-2025000042" := congrArg Prod.fst both
  have second : returned c 1 = some "2U-2026000001" := congrArg Prod.snd both
  have path : Runs (fun _ => true) (fresh (fun _ => true) ⟨7,41,y2025⟩ y2025) contended c :=
    RunsWhen.nil.guarded (fun c event => permitted_sound c event) reached
  exact ⟨c,path.sound,first,second,order_numbers_unique (fun _ => true) ⟨7,41,y2025⟩ y2025 (by decide) path 0 1
    (by decide) (returned_some first) (returned_some second)⟩

-- Two orders around the New Year: the first is numbered in 2025 and takes its
-- prefix in 2026, whose own third order then gets the same number.
def placed (i : Fin 4) : List (Event (Fin 4) Bool Year) := List.replicate 4 (.act i true)

def aroundNewYear : List (Event (Fin 4) Bool Year) :=
  List.replicate 3 (.act 0 true) ++ [.world y2026,.act 0 true] ++ placed 1 ++ placed 2 ++ placed 3

theorem order_number_repeated :
    ∃ c, run (commercetools.step (calls fun _ => true)) (fresh (fun _ => true) ⟨7,2,y2025⟩ y2025) aroundNewYear = some c ∧
      returned c 0 = some "2U-2026000003" ∧ returned c 3 = some "2U-2026000003" := by
  have ran : (run (commercetools.step (calls fun _ => true)) (fresh (fun _ => true) ⟨7,2,y2025⟩ y2025)
    aroundNewYear).map (fun c => (returned c 0,returned c 3)) = some (some "2U-2026000003",some "2U-2026000003") := by
    decide +kernel
  obtain ⟨c,reached,both⟩ := Option.map_eq_some_iff.mp ran
  exact ⟨c,reached,congrArg Prod.fst both,congrArg Prod.snd both⟩

end Runs

end OrderNumber
