import Chip8.ByteSource

/-!
# What a source brings first

However a source splits its bytes, and wherever it is interrupted, it brings them in one
order (`ByteSource.first`).  Taking from it gives as many of them as are wanted, and the
failure behind the last one if that is met before.  The bytes that are not wanted stay
where they are, and those that were taken are counted: `begins_take`, `Leaves.first_add`.
-/

namespace Chip8

/-- The bytes of a delivery. -/
def Delivery.brought : Delivery → List UInt8
  | .bytes first rest => first :: rest
  | .interrupted => []

theorem Delivery.flatMap_brought_ofList (bytes : List UInt8) :
    (Delivery.ofList bytes).flatMap Delivery.brought = bytes := by
  cases bytes with
  | nil => rfl
  | cons first rest => simp [Delivery.ofList, Delivery.brought]

/-- The next bytes behind the last delivery, no more than `count`. -/
def Ending.brought (ending : Ending) (count : Nat) : List UInt8 :=
  match ending with
  | .finished | .failing _ => []
  | .endless byte => List.replicate count byte

@[simp] theorem Ending.brought_zero (ending : Ending) : ending.brought 0 = [] := by
  cases ending <;> rfl

theorem Ending.brought_add (ending : Ending) (count more : Nat) :
    ending.brought (count + more) = ending.brought count ++ ending.brought more := by
  cases ending with
  | finished | failing _ => rfl
  | endless byte => exact List.replicate_append_replicate.symm

theorem Ending.length_brought_le (ending : Ending) (count : Nat) :
    (ending.brought count).length ≤ count := by
  cases ending <;> simp [brought]

namespace ByteSource

variable {source rest : ByteSource} {ending : Ending} {delivery : Delivery} {later : List Delivery}
  {portion : Portion} {limit count taken : Nat} {byte : UInt8} {error : IoError}

/-- The bytes of all deliveries. -/
def delivered (source : ByteSource) : List UInt8 := source.deliveries.flatMap Delivery.brought

/-- The first `count` bytes, or all of them if there are no more. -/
def first (source : ByteSource) (count : Nat) : List UInt8 :=
  source.delivered.take count ++ source.ending.brought (count - source.delivered.length)

/-- The failure that comes before there are `count` bytes. -/
def failsBefore? (source : ByteSource) (count : Nat) : Option IoError :=
  match source.ending with
  | .failing error => if source.delivered.length < count then some error else none
  | .finished | .endless _ => none

theorem length_first_le (source : ByteSource) (count : Nat) :
    (source.first count).length ≤ count := by
  have behind := source.ending.length_brought_le (count - source.delivered.length)
  simp only [first, List.length_append, List.length_take]
  omega

theorem length_first_of_delivered (enough : count ≤ source.delivered.length) :
    (source.first count).length = count := by
  simp [first, enough]

theorem length_first_of_endless (endless : source.ending = .endless byte) (count : Nat) :
    (source.first count).length = count := by
  simp only [first, endless, Ending.brought, List.length_append, List.length_take,
    List.length_replicate]
  omega

theorem failsBefore?_eq_some_iff :
    source.failsBefore? count = some error ↔
      source.ending = .failing error ∧ source.delivered.length < count := by
  rcases source with ⟨deliveries, _ | failure | byte⟩ <;> simp [failsBefore?, and_comm]

/-! ## Delivery by delivery -/

theorem delivered_cons : delivered ⟨delivery :: later, ending, taken⟩ =
    delivery.brought ++ delivered ⟨later, ending, taken⟩ :=
  List.flatMap_cons

theorem first_cons_of_le (fits : delivery.brought.length ≤ limit) :
    first ⟨delivery :: later, ending, taken⟩ limit =
      delivery.brought ++ first ⟨later, ending, taken⟩ (limit - delivery.brought.length) := by
  simp only [first, delivered_cons, List.take_append, List.take_of_length_le fits,
    List.length_append, Nat.sub_add_eq, List.append_assoc]

theorem first_cons_of_lt (exceeds : limit < delivery.brought.length) :
    first ⟨delivery :: later, ending, taken⟩ limit = delivery.brought.take limit := by
  have within : limit -
      (delivery.brought.length + (delivered ⟨later, ending, taken⟩).length) = 0 := by
    omega
  rw [first, delivered_cons, List.take_append_of_le_length (Nat.le_of_lt exceeds),
    List.length_append, within, Ending.brought_zero, List.append_nil]

theorem failsBefore?_cons_of_le (fits : delivery.brought.length ≤ limit) :
    failsBefore? ⟨delivery :: later, ending, taken⟩ limit =
      failsBefore? ⟨later, ending, taken⟩ (limit - delivery.brought.length) := by
  have same : delivery.brought.length + (delivered ⟨later, ending, taken⟩).length < limit ↔
      (delivered ⟨later, ending, taken⟩).length < limit - delivery.brought.length := by
    omega
  cases ending with
  | finished | endless _ => rfl
  | failing error => simp only [failsBefore?, delivered_cons, List.length_append, same]

theorem failsBefore?_eq_none_of_le (enough : limit ≤ source.delivered.length) :
    source.failsBefore? limit = none := by
  cases fails : source.failsBefore? limit with
  | none => rfl
  | some error => exact absurd (failsBefore?_eq_some_iff.1 fails).2 (Nat.not_lt.2 enough)

/-! ## Taking -/

/-- What a source leaves when its first `count` bytes are taken, or all of them if there are no
more: the bytes behind them, and the count of those that were taken. -/
structure Leaves (source : ByteSource) (count : Nat) (rest : ByteSource) : Prop where
  delivered : rest.delivered = source.delivered.drop count
  ending : rest.ending = source.ending
  taken : rest.taken = source.taken + (source.first count).length

/-- The portion is what comes first from the source, and leaves the rest. -/
structure Begins (source : ByteSource) (limit : Nat) (portion : Portion) : Prop where
  bytes : portion.bytes = source.first limit
  failure : portion.failure? = source.failsBefore? limit
  rest : source.Leaves limit portion.rest

theorem begins_take_ending (ending : Ending) (taken : Nat) (wanted : 0 < limit) :
    Begins ⟨[], ending, taken⟩ limit (ending.take taken limit) where
  bytes := by cases ending <;> simp [Ending.take, first, delivered, Ending.brought]
  failure := by
    cases ending with
    | finished | endless _ => rfl
    | failing error => exact (if_neg (Nat.ne_of_gt wanted)).trans (if_pos wanted).symm
  rest :=
    { delivered := by cases ending <;> simp [Ending.take, delivered]
      ending := by cases ending <;> rfl
      taken := by cases ending <;> simp [Ending.take, first, delivered, Ending.brought] }

theorem begins_takeFrom (ending : Ending) (taken : Nat) (deliveries : List Delivery)
    (limit : Nat) :
    Begins ⟨deliveries, ending, taken⟩ limit (takeFrom ending taken deliveries limit) := by
  fun_induction takeFrom ending taken deliveries limit with
  | case1 taken deliveries =>
      have nothing : failsBefore? ⟨deliveries, ending, taken⟩ 0 = none :=
        failsBefore?_eq_none_of_le (Nat.zero_le _)
      exact ⟨by simp [first], nothing.symm, rfl, rfl, by simp [first]⟩
  | case2 taken limit some => exact begins_take_ending ending taken (Nat.pos_of_ne_zero some)
  | case3 taken later limit _ ih =>
      exact ⟨ih.bytes, ih.failure, ih.rest.delivered, ih.rest.ending, ih.rest.taken⟩
  | case4 taken first rest later limit fits ih =>
      have fits : (Delivery.bytes first rest).brought.length ≤ limit + 1 :=
        Nat.succ_le_succ fits
      have wanted : limit + 1 - (Delivery.bytes first rest).brought.length =
          limit - rest.length :=
        Nat.succ_sub_succ _ _
      have begun : ByteSource.first ⟨.bytes first rest :: later, ending, taken⟩ (limit + 1) =
          first :: rest ++ ByteSource.first ⟨later, ending, taken⟩ (limit - rest.length) := by
        rw [first_cons_of_le fits, wanted]
        rfl
      refine ⟨?_, ?_, ?_, ih.rest.ending, ?_⟩
      · rw [begun]
        exact congrArg (first :: rest ++ ·) ih.bytes
      · rw [failsBefore?_cons_of_le fits, wanted]
        exact ih.failure
      · rw [delivered_cons, List.drop_append, List.drop_of_length_le fits, wanted]
        exact ih.rest.delivered
      · rw [begun, List.length_append]
        exact ih.rest.taken.trans (Nat.add_assoc _ _ _)
  | case5 taken first rest later limit exceeds =>
      -- The delivery is split, so neither the later ones nor the ending are met.
      have exceeds : limit + 1 < (Delivery.bytes first rest).brought.length :=
        Nat.succ_lt_succ (Nat.lt_of_not_le exceeds)
      have enough : limit + 1 ≤
          (delivered ⟨Delivery.bytes first rest :: later, ending, taken⟩).length := by
        rw [delivered_cons, List.length_append]
        omega
      refine ⟨?_, (failsBefore?_eq_none_of_le enough).symm, ?_, rfl, ?_⟩
      · rw [first_cons_of_lt exceeds]
        rfl
      · rw [delivered_cons, List.drop_append_of_le_length (Nat.le_of_lt exceeds)]
        simp only [delivered, List.flatMap_append, Delivery.flatMap_brought_ofList]
        rfl
      · rw [length_first_of_delivered enough]

/-- Taking gives what comes first from a source, and leaves the rest in place. -/
theorem begins_take (source : ByteSource) (limit : Nat) :
    source.Begins limit (source.take limit) :=
  begins_takeFrom source.ending source.taken source.deliveries limit

/-- What comes first from the rest comes next from the source. -/
theorem Leaves.first_add (leaves : source.Leaves limit rest) (more : Nat) :
    source.first (limit + more) = source.first limit ++ rest.first more := by
  rw [first, first, first, leaves.delivered, leaves.ending, List.length_drop, List.take_add]
  obtain enough | short := Nat.le_total limit source.delivered.length
  · have split : limit + more - source.delivered.length =
        more - (source.delivered.length - limit) := by
      omega
    rw [Nat.sub_eq_zero_of_le enough, Ending.brought_zero, List.append_nil, split,
      List.append_assoc]
  · have split : limit + more - source.delivered.length =
        limit - source.delivered.length + (more - (source.delivered.length - limit)) := by
      omega
    rw [split, Ending.brought_add, List.drop_of_length_le short, List.take_nil,
      List.append_nil, List.nil_append, List.append_assoc]

/-- No more is taken than is wanted. -/
theorem Leaves.taken_le (leaves : source.Leaves limit rest) :
    rest.taken ≤ source.taken + limit := by
  rw [leaves.taken]
  exact Nat.add_le_add_left (source.length_first_le limit) _

theorem outcome_take_of_failing (fails : source.failsBefore? limit = some error) :
    (source.take limit).outcome = .error error := by
  rw [Portion.outcome, (source.begins_take limit).failure, fails]

theorem outcome_take_of_not_failing (goesOn : source.failsBefore? limit = none) :
    (source.take limit).outcome = .ok (source.first limit) := by
  rw [Portion.outcome, (source.begins_take limit).failure, goesOn,
    (source.begins_take limit).bytes]

end ByteSource

end Chip8
