import ErrorDerive.Value

/-!
# The order of sets

A set has its items in the order in which they were added. They come out in another one, which need
not be the same in every process.
-/

namespace ErrorDerive

/-- How the items of a set come out, from the order in which they were added. -/
structure SetOrder where
  arrange : List Value → List Value
  perm : ∀ items, (arrange items).Perm items

theorem SetOrder.perm_arrange (order other : SetOrder) (items : List Value) :
    (order.arrange items).Perm (other.arrange items) :=
  (order.perm items).trans (other.perm items).symm

/-- The items come out as they were added. -/
def SetOrder.asAdded : SetOrder where
  arrange := id
  perm := List.Perm.refl

instance : Inhabited SetOrder := ⟨.asAdded⟩

end ErrorDerive
