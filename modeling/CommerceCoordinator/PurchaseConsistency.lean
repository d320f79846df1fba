import CommerceCoordinator.MobileCreateOrder

open Commercetools CallTree MobileStore MobileCreateOrder

-- What Commercetools holds of one store transaction while at most one cart carries
-- its payment, and the changes that keep it so.
namespace SinglePurchase

section Store
variable {ι : Type} {t : String} {s s' : Store ι}

def Attached (t : String) (s : Store ι) (payments : List String) : Prop :=
  ∃ payment ∈ s.payments, t ∈ payment.interactionIds ∧ payment.id ∈ payments

instance : Decidable (Attached t s payments) := inferInstanceAs (Decidable (∃ _ ∈ _, _))

-- What holds of the store between any two calls: the transaction has one payment,
-- on one cart, and its orders were made from ordered carts that still exist.
structure Consistent (t : String) (s : Store ι) : Prop where
  paymentKeys : ∀ p ∈ s.payments, ∀ q ∈ s.payments, p.key = q.key → p.key ≠ none → p = q
  keyed : ∀ p ∈ s.payments, t ∈ p.interactionIds → p.key = some (normalizedPaymentKey t)
  usedPayments : ∀ p ∈ s.payments, p.id ∈ s.usedIds
  usedCarts : ∀ c ∈ s.carts, c.id ∈ s.usedIds ∧ c.payments ⊆ s.usedIds
  usedOrders : ∀ o ∈ s.orders, o.payments ⊆ s.usedIds
  cartIds : ∀ c ∈ s.carts, ∀ d ∈ s.carts, c.id = d.id → c = d
  attached : ∀ c ∈ s.carts, ∀ d ∈ s.carts, Attached t s c.payments → Attached t s d.payments → c = d
  ordered : ∀ o ∈ s.orders, Attached t s o.payments →
    ∃ c ∈ s.carts, c.cartState = .ordered ∧ Attached t s c.payments
  orders : s.orders.Pairwise fun o o' => ¬ (Attached t s o.payments ∧ Attached t s o'.payments)

theorem Consistent.payment (sound : Consistent t s) (first : p ∈ s.payments) (second : q ∈ s.payments)
    (paid : t ∈ p.interactionIds) (paid' : t ∈ q.interactionIds) : p = q := by
  have key := sound.keyed p first paid
  apply sound.paymentKeys p first q second (key.trans (sound.keyed q second paid').symm)
  simp [key]

theorem find_cart {id : String} {carts : List Cart} (found : carts.find? (·.id = id) = some cart) : cart ∈ carts ∧ cart.id = id :=
  ⟨List.mem_of_find?_eq_some found,by simpa using List.find?_some found⟩

theorem mem_replace {carts : List Cart} : c ∈ replaceCart cart carts ↔ c ∈ carts ∧ c.id ≠ cart.id ∨ c = cart := by
  simp [replaceCart]

structure Frame (s s' : Store ι) : Prop where
  used : s.usedIds ⊆ s'.usedIds
  payments : s.payments ⊆ s'.payments
  carts : ∀ c' ∈ s'.carts, c'.id ∉ s.usedIds ∨ ∃ c ∈ s.carts, c.id = c'.id ∧ Versioned.Evolves c c'

structure Reworks (s s' : Store ι) : Prop where
  payments : s'.payments = s.payments
  used : s.usedIds ⊆ s'.usedIds
  carts : ∀ c' ∈ s'.carts, (c'.id ∉ s.usedIds ∧ c'.id ∈ s'.usedIds ∧ c'.payments = []) ∨
    ∃ c ∈ s.carts, c.id = c'.id ∧ c.payments = c'.payments ∧ Versioned.Evolves c c'
  cartIds : ∀ c ∈ s'.carts, ∀ d ∈ s'.carts, c.id = d.id → c = d
  ordered : ∀ c ∈ s.carts, c.cartState = .ordered → c ∈ s'.carts

theorem Reworks.frame (reworks : Reworks s s') : Frame s s' := by
  refine ⟨reworks.used,by rw [reworks.payments]; exact fun _ member => member,?_⟩
  intro c' member
  rcases reworks.carts c' member with ⟨fresh,_⟩ | ⟨c,earlier,same,_,evolved⟩
  · exact .inl fresh
  · exact .inr ⟨c,earlier,same,evolved⟩

theorem Reworks.same_attached {listed : List String} (reworks : Reworks s s') :
    Attached t s' listed ↔ Attached t s listed := by
  unfold Attached
  rw [reworks.payments]

theorem Reworks.attached_before (reworks : Reworks s s') (member : c' ∈ s'.carts) (paid : Attached t s' c'.payments) :
    ∃ c ∈ s.carts, c.id = c'.id ∧ Attached t s c.payments := by
  rcases reworks.carts c' member with ⟨_,_,empty⟩ | ⟨c,earlier,same,payments,_⟩
  · obtain ⟨_,_,_,listed⟩ := paid
    rw [empty] at listed
    cases listed
  · exact ⟨c,earlier,same,by rw [payments]; exact reworks.same_attached.mp paid⟩

theorem Reworks.consistent (reworks : Reworks s s') (sound : Consistent t s)
    (usedOrders : ∀ o ∈ s'.orders, o.payments ⊆ s'.usedIds)
    (ordered : ∀ o ∈ s'.orders, Attached t s o.payments → ∃ c ∈ s'.carts, c.cartState = .ordered ∧ Attached t s c.payments)
    (orders : s'.orders.Pairwise fun o o' => ¬ (Attached t s o.payments ∧ Attached t s o'.payments)) :
    Consistent t s' := by
  refine ⟨?_,?_,?_,?_,usedOrders,reworks.cartIds,?_,?_,?_⟩
  · rw [reworks.payments]; exact sound.paymentKeys
  · rw [reworks.payments]; exact sound.keyed
  · rw [reworks.payments]; exact fun p member => reworks.used (sound.usedPayments p member)
  · intro c' member
    rcases reworks.carts c' member with ⟨_,used,empty⟩ | ⟨c,earlier,same,payments,_⟩
    · exact ⟨used,by simp [empty]⟩
    · rw [← same,← payments]
      exact ⟨reworks.used (sound.usedCarts c earlier).1,fun _ listed => reworks.used ((sound.usedCarts c earlier).2 listed)⟩
  · intro c' first d' second paid paid'
    obtain ⟨c,earlier,same,before⟩ := reworks.attached_before first paid
    obtain ⟨d,earlier',same',before'⟩ := reworks.attached_before second paid'
    have equal := sound.attached c earlier d earlier' before before'
    exact reworks.cartIds c' first d' second (by rw [← same,equal,same'])
  · intro o member paid
    obtain ⟨c,present,state,attached⟩ := ordered o member (reworks.same_attached.mp paid)
    exact ⟨c,present,state,reworks.same_attached.mpr attached⟩
  · exact orders.imp fun apart both => apart ⟨reworks.same_attached.mp both.1,reworks.same_attached.mp both.2⟩

theorem Reworks.consistent_orders (reworks : Reworks s s') (sound : Consistent t s) (change : MobileStore.Order → MobileStore.Order)
    (kept : ∀ o, (change o).payments = o.payments) (orders : s'.orders = s.orders.map change) : Consistent t s' := by
  refine reworks.consistent sound ?_ ?_ ?_
  · rw [orders]
    intro o' member
    obtain ⟨o,earlier,rfl⟩ := List.mem_map.mp member
    rw [kept]
    exact fun _ listed => reworks.used (sound.usedOrders o earlier listed)
  · rw [orders]
    intro o' member paid
    obtain ⟨o,earlier,rfl⟩ := List.mem_map.mp member
    rw [kept] at paid
    obtain ⟨c,present,state,attached⟩ := sound.ordered o earlier paid
    exact ⟨c,reworks.ordered c present state,state,attached⟩
  · rw [orders,List.pairwise_map]
    simp only [kept]
    exact sound.orders

theorem quiet_reworks (sound : Consistent t s) (carts : s'.carts = s.carts) (payments : s'.payments = s.payments)
    (used : s.usedIds ⊆ s'.usedIds) : Reworks s s' := by
  refine ⟨payments,used,?_,?_,?_⟩
  · rw [carts]; exact fun c member => .inr ⟨c,member,rfl,rfl,.refl c⟩
  · rw [carts]; exact sound.cartIds
  · rw [carts]; exact fun _ member _ => member

theorem create_cart_reworks (sound : Consistent t s) (fresh : cart.id ∉ s.usedIds) (empty : cart.payments = []) :
    Reworks s {s with carts := s.carts++[cart], usedIds := cart.id::s.usedIds} := by
  refine ⟨rfl,fun _ used => List.mem_cons_of_mem _ used,?_,?_,fun c member _ => List.mem_append_left _ member⟩
  · intro c member
    rcases List.mem_append.mp member with earlier | added
    · exact .inr ⟨c,earlier,rfl,rfl,.refl c⟩
    · cases List.mem_singleton.mp added
      exact .inl ⟨fresh,List.mem_cons_self,empty⟩
  · have apart : ∀ c ∈ s.carts, c.id ≠ cart.id := fun c member same => fresh (same ▸ (sound.usedCarts c member).1)
    intro c first d second same
    rcases List.mem_append.mp first with earlier | added <;> rcases List.mem_append.mp second with earlier' | added'
    · exact sound.cartIds c earlier d earlier' same
    · cases List.mem_singleton.mp added'
      exact absurd same (apart c earlier)
    · cases List.mem_singleton.mp added
      exact absurd same.symm (apart d earlier')
    · rw [List.mem_singleton.mp added,List.mem_singleton.mp added']

theorem delete_cart_reworks (sound : Consistent t s) (present : cart ∈ s.carts) (active : cart.cartState = .active) :
    Reworks s {s with carts := s.carts.filter (·.id ≠ cart.id)} := by
  refine ⟨rfl,fun _ used => used,?_,?_,?_⟩
  · exact fun c member => .inr ⟨c,(List.mem_filter.mp member).1,rfl,rfl,.refl c⟩
  · exact fun c first d second => sound.cartIds c (List.mem_filter.mp first).1 d (List.mem_filter.mp second).1
  · intro c member ordered
    refine List.mem_filter.mpr ⟨member,?_⟩
    refine decide_eq_true fun same => ?_
    rw [sound.cartIds c member cart present same,active] at ordered
    cases ordered

theorem replaced_ids {carts : List Cart} (ids : ∀ c ∈ carts, ∀ d ∈ carts, c.id = d.id → c = d) :
    ∀ c ∈ replaceCart cart carts, ∀ d ∈ replaceCart cart carts, c.id = d.id → c = d := by
  intro c first d second same
  rcases mem_replace.mp first with ⟨earlier,other⟩ | rfl <;> rcases mem_replace.mp second with ⟨earlier',other'⟩ | rfl
  · exact ids c earlier d earlier' same
  · exact absurd same other
  · exact absurd same.symm other'
  · rfl

theorem order_cart_reworks (sound : Consistent t s) (present : cart ∈ s.carts) (active : cart.cartState = .active)
    (orders : List MobileStore.Order) (id : String) :
    Reworks s {s with
      carts := replaceCart {cart with cartState := .ordered, version := cart.version+1} s.carts
      orders := orders
      usedIds := id::s.usedIds} := by
  refine ⟨rfl,fun _ used => List.mem_cons_of_mem _ used,?_,replaced_ids sound.cartIds,?_⟩
  · intro c member
    rcases mem_replace.mp member with ⟨earlier,_⟩ | rfl
    · exact .inr ⟨c,earlier,rfl,rfl,.refl c⟩
    · exact .inr ⟨cart,present,rfl,rfl,.inr (Nat.lt_succ_self _)⟩
  · intro c member ordered
    refine mem_replace.mpr (.inl ⟨member,fun same => ?_⟩)
    rw [sound.cartIds c member cart present same,active] at ordered
    cases ordered

theorem order_cart_consistent (sound : Consistent t s) (present : cart ∈ s.carts) (active : cart.cartState = .active)
    (id : String) (orderNumber : Option String) :
    Consistent t {s with
      carts := replaceCart {cart with cartState := .ordered, version := cart.version+1} s.carts
      orders := s.orders++[orderOf id orderNumber cart]
      usedIds := id::s.usedIds} := by
  have reworks := order_cart_reworks sound present active (s.orders++[orderOf id orderNumber cart]) id
  refine reworks.consistent sound ?_ ?_ ?_
  · intro o member
    rcases List.mem_append.mp member with earlier | added
    · exact fun _ listed => reworks.used (sound.usedOrders o earlier listed)
    · cases List.mem_singleton.mp added
      exact fun _ listed => reworks.used ((sound.usedCarts cart present).2 listed)
  · intro o member paid
    rcases List.mem_append.mp member with earlier | added
    · obtain ⟨c,listed,state,attached⟩ := sound.ordered o earlier paid
      exact ⟨c,reworks.ordered c listed state,state,attached⟩
    · cases List.mem_singleton.mp added
      exact ⟨_,mem_replace.mpr (.inr rfl),rfl,paid⟩
  · refine List.pairwise_append.mpr ⟨sound.orders,List.pairwise_singleton _ _,?_⟩
    intro o earlier o' added both
    obtain ⟨paid,paid'⟩ := both
    cases List.mem_singleton.mp added
    obtain ⟨c,listed,state,attached⟩ := sound.ordered o earlier paid
    rw [sound.attached c listed cart present attached paid',active] at state
    cases state

section NewPayment
variable {payment : MobileStore.Payment}

theorem new_payment_attached (fresh : payment.id ∉ s.usedIds) {listed : List String}
    (used : listed ⊆ s.usedIds)
    (paid : Attached t {s with payments := s.payments++[payment], usedIds := payment.id::s.usedIds} listed) :
    Attached t s listed := by
  obtain ⟨p,member,interaction,among⟩ := paid
  rcases List.mem_append.mp member with earlier | added
  · exact ⟨p,earlier,interaction,among⟩
  · cases List.mem_singleton.mp added
    exact absurd (used among) fresh

theorem create_payment_consistent (sound : Consistent t s) (fresh : payment.id ∉ s.usedIds)
    (key : payment.key = some (normalizedPaymentKey t)) (unkeyed : ∀ p ∈ s.payments, p.key ≠ payment.key) :
    Consistent t {s with payments := s.payments++[payment], usedIds := payment.id::s.usedIds} := by
  have before : ∀ {listed : List String}, listed ⊆ s.usedIds → Attached t _ listed → Attached t s listed :=
    new_payment_attached fresh
  refine ⟨?_,?_,?_,?_,?_,sound.cartIds,?_,?_,?_⟩
  · intro p first q second same keyed
    rcases List.mem_append.mp first with earlier | added <;> rcases List.mem_append.mp second with earlier' | added'
    · exact sound.paymentKeys p earlier q earlier' same keyed
    · cases List.mem_singleton.mp added'
      exact absurd same (unkeyed p earlier)
    · cases List.mem_singleton.mp added
      exact absurd same.symm (unkeyed q earlier')
    · rw [List.mem_singleton.mp added,List.mem_singleton.mp added']
  · intro p member paid
    rcases List.mem_append.mp member with earlier | added
    · exact sound.keyed p earlier paid
    · cases List.mem_singleton.mp added
      exact key
  · intro p member
    rcases List.mem_append.mp member with earlier | added
    · exact List.mem_cons_of_mem _ (sound.usedPayments p earlier)
    · cases List.mem_singleton.mp added
      exact List.mem_cons_self
  · intro c member
    obtain ⟨used,payments⟩ := sound.usedCarts c member
    exact ⟨List.mem_cons_of_mem _ used,fun _ listed => List.mem_cons_of_mem _ (payments listed)⟩
  · exact fun o member _ listed => List.mem_cons_of_mem _ (sound.usedOrders o member listed)
  · intro c first d second paid paid'
    exact sound.attached c first d second (before (sound.usedCarts c first).2 paid) (before (sound.usedCarts d second).2 paid')
  · intro o member paid
    obtain ⟨c,listed,state,p,earlier,interaction,among⟩ := sound.ordered o member (before (sound.usedOrders o member) paid)
    exact ⟨c,listed,state,p,List.mem_append_left _ earlier,interaction,among⟩
  · refine sound.orders.imp_of_mem fun {o o'} first second apart both => apart ?_
    exact ⟨before (sound.usedOrders o first) both.1,before (sound.usedOrders o' second) both.2⟩

theorem new_payment_frame (payment : MobileStore.Payment) :
    Frame s {s with payments := s.payments++[payment], usedIds := payment.id::s.usedIds} :=
  ⟨fun _ used => List.mem_cons_of_mem _ used,fun _ => List.mem_append_left _,fun c member => .inr ⟨c,member,rfl,.refl c⟩⟩

theorem unkeyed_unpaid (sound : Consistent t s) (unkeyed : ∀ p ∈ s.payments, p.key ≠ some (normalizedPaymentKey t))
    (member : p ∈ s.payments) : t ∉ p.interactionIds :=
  fun interaction => unkeyed p member (sound.keyed p member interaction)

theorem new_payment_unattached (sound : Consistent t s) (fresh : payment.id ∉ s.usedIds)
    (unpaid : ∀ p ∈ s.payments, t ∉ p.interactionIds) (member : c ∈ s.carts) :
    ¬ Attached t {s with payments := s.payments++[payment], usedIds := payment.id::s.usedIds} c.payments := by
  intro attached
  obtain ⟨p,present,interaction,_⟩ := new_payment_attached fresh (sound.usedCarts c member).2 attached
  exact unpaid p present interaction

end NewPayment

theorem attach_consistent (sound : Consistent t s) (unattached : ∀ c ∈ s.carts, ¬ Attached t s c.payments)
    (present : cart ∈ s.carts) (id : updated.id = cart.id) (used : updated.payments ⊆ s.usedIds) :
    Consistent t {s with carts := replaceCart updated s.carts} := by
  have one : ∀ c ∈ replaceCart updated s.carts, Attached t s c.payments → c = updated := by
    intro c member paid
    rcases mem_replace.mp member with ⟨earlier,_⟩ | same
    · exact absurd paid (unattached c earlier)
    · exact same
  refine ⟨sound.paymentKeys,sound.keyed,sound.usedPayments,?_,sound.usedOrders,replaced_ids sound.cartIds,?_,?_,
    sound.orders⟩
  · intro c member
    rcases mem_replace.mp member with ⟨earlier,_⟩ | rfl
    · exact sound.usedCarts c earlier
    · exact ⟨id ▸ (sound.usedCarts cart present).1,used⟩
  · intro c first d second paid paid'
    exact (one c first paid).trans (one d second paid').symm
  · intro o member paid
    obtain ⟨c,listed,_,attached⟩ := sound.ordered o member paid
    exact absurd attached (unattached c listed)

-- A copy of a cart that the requests may have outdated, but not while its version
-- is current.
structure Copied (s : Store ι) (cart : Cart) : Prop where
  active : cart.cartState = .active
  used : cart.id ∈ s.usedIds
  evolved : ∀ c ∈ s.carts, c.id = cart.id → Versioned.Evolves cart c

theorem Copied.later (copied : Copied s cart) (frame : Frame s s') : Copied s' cart := by
  refine ⟨copied.active,frame.used copied.used,?_⟩
  intro c' member same
  rcases frame.carts c' member with fresh | ⟨c,earlier,id,evolved⟩
  · exact absurd (same ▸ copied.used) fresh
  · exact (copied.evolved c earlier (id.trans same)).trans evolved

theorem Copied.current (copied : Copied s cart) (present : c ∈ s.carts) (id : c.id = cart.id)
    (version : c.version = cart.version) : c.cartState = .active := by
  rw [(copied.evolved c present id).current version]
  exact copied.active

theorem Consistent.copied (sound : Consistent t s) (present : cart ∈ s.carts) (active : cart.cartState = .active) :
    Copied s cart := by
  refine ⟨active,(sound.usedCarts cart present).1,?_⟩
  intro c member same
  rw [sound.cartIds c member cart present same]
  exact .refl cart

def Unattached (t : String) (s : Store ι) : Prop := ∀ c ∈ s.carts, ¬ Attached t s c.payments

theorem Reworks.unattached (reworks : Reworks s s') (unattached : Unattached t s) : Unattached t s' := by
  intro c' member paid
  obtain ⟨c,earlier,_,before⟩ := reworks.attached_before member paid
  exact unattached c earlier before

theorem actions_payments (actions : List CartUpdateAction) (cart : Cart) :
    (actions.foldl applyCartAction cart).id = cart.id ∧ (actions.foldl applyCartAction cart).cartState = cart.cartState ∧
      ∀ listed ∈ (actions.foldl applyCartAction cart).payments,
        listed ∈ cart.payments ∨ .addPayment listed ∈ actions := by
  induction actions generalizing cart with
  | nil => exact ⟨rfl,rfl,fun _ member => .inl member⟩
  | cons action rest ih =>
    obtain ⟨id,state,payments⟩ := ih (applyCartAction cart action)
    rw [List.foldl_cons]
    refine ⟨id.trans ?_,state.trans ?_,?_⟩
    · cases action <;> rfl
    · cases action <;> rfl
    · intro listed member
      rcases payments listed member with earlier | later
      · cases action with
        | addPayment paymentId =>
          rcases List.mem_append.mp earlier with before | added
          · exact .inl before
          · rw [List.mem_singleton.mp added]
            exact .inr List.mem_cons_self
        | _ => exact .inl earlier
      · exact .inr (List.mem_cons_of_mem _ later)

theorem replace_frame (present : stored ∈ s.carts) (id : updated.id = stored.id) (newer : stored.version < updated.version) :
    Frame s {s with carts := replaceCart updated s.carts} := by
  refine ⟨fun _ used => used,fun _ member => member,?_⟩
  intro c member
  rcases mem_replace.mp member with ⟨earlier,_⟩ | rfl
  · exact .inr ⟨c,earlier,rfl,.refl c⟩
  · exact .inr ⟨stored,present,id.symm,.inr newer⟩

theorem update_cart_accepted (sound : Consistent t s) (accepted : updateCart s version actions stored = some updated)
    (present : stored ∈ s.carts) : updated.id = stored.id ∧ stored.version < updated.version ∧
      updated.cartState = .active ∧ updated.payments ⊆ s.usedIds := by
  obtain ⟨_,changed⟩ := Versioned.compareAndSet_some.mp accepted
  obtain ⟨⟨active,known⟩,applied⟩ := Option.ite_none_right_eq_some.mp changed
  cases applied
  obtain ⟨same,state,payments⟩ := actions_payments actions stored
  refine ⟨same,Nat.lt_succ_self _,state.trans active,?_⟩
  intro listed member
  rcases payments listed member with before | added
  · exact (sound.usedCarts stored present).2 before
  · obtain ⟨p,there,named⟩ := List.any_eq_true.mp (List.all_eq_true.mp known _ added)
    exact of_decide_eq_true named ▸ sound.usedPayments p there

end Store

end SinglePurchase
