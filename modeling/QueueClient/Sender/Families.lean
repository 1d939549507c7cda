/-
# Families of senders

All copies of a sender share one pool of connections and form a family.  Shutting any of them
down shuts the family down, for good.
-/

namespace QueueClient

/-- The families of a run, numbered from 0; a family is `true` once it is shut down. -/
structure Families where
  /-- Whether each is shut down. -/
  shut : List Bool
deriving DecidableEq, Inhabited

namespace Families

/-- No families. -/
def empty : Families := ⟨[]⟩

/-- A new family. -/
def add (f : Families) : Nat × Families := (f.shut.length, ⟨f.shut ++ [false]⟩)

/-- Shuts a family down. -/
def shutDown (f : Families) (family : Nat) : Families := ⟨f.shut.set family true⟩

/-- Whether a family is shut down. -/
def isShut (f : Families) (family : Nat) : Bool := f.shut.getD family false

theorem isShut_shutDown_of_ne {f : Families} {a b : Nat} (h : a ≠ b) :
    (f.shutDown a).isShut b = f.isShut b := by
  simp [isShut, shutDown, List.getD_eq_getElem?_getD, List.getElem?_set_ne h]

theorem isShut_shutDown_self {f : Families} {a : Nat} (h : a < f.shut.length) :
    (f.shutDown a).isShut a = true := by
  simp [isShut, shutDown, List.getD_eq_getElem?_getD, h]

end Families

end QueueClient
