import C4Model.Element.Kind

/-! Identities of elements. An identity is issued once, when its element is made. Elements that agree in
kind, number and name are still told apart by what issued them, and a copy of an element keeps the
identity of the element copied. -/

namespace C4Model

/-- The token is what tells identities apart. The number is for readers and begins anew whenever
numbering is reset; the name is the one the element had when it was made. -/
structure Identity where
  token : Nat
  kind : ElementKind
  serial : Int
  name : String
  deriving DecidableEq

/-- The identity as messages name it. -/
def Identity.label (identity : Identity) : String :=
  identity.kind.label ++ "#" ++ toString identity.serial

/-- Issues identities with increasing numbers. `issuedEver` counts all identities issued, and no reset
sets it back; it is the token of the next one. -/
structure Allocator where
  start : Int := 1
  next : Int := 1
  issuedEver : Nat := 0

namespace Allocator

/-- An allocator that numbers from `start` and issues no token that `before` has issued. -/
def startingAt (start : Int) (before : Allocator) : Allocator :=
  ⟨start, start, before.issuedEver⟩

/-- The number of identities issued since the start or the last reset. -/
def issued (allocator : Allocator) : Int :=
  allocator.next - allocator.start

def mint (allocator : Allocator) (kind : ElementKind) (name : String) : Identity × Allocator :=
  (⟨allocator.issuedEver, kind, allocator.next, name⟩,
    { allocator with next := allocator.next + 1, issuedEver := allocator.issuedEver + 1 })

/-- Numbers anew, from a new start or from the one before. -/
def reset (allocator : Allocator) (start : Option Int) : Allocator :=
  let start := start.getD allocator.start
  { allocator with start, next := start }

end Allocator

end C4Model
