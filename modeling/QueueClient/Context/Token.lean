/-
# Cancellation tokens

Tokens form a forest.  A token is named by its path: the birth numbers of the token itself, of
the one it was derived from, and so on up to a root.  Cancelling marks one token, and a token
counts as cancelled when it or one that it descends from is marked; so a cancellation reaches
everything below its token and nothing else.
-/

namespace QueueClient

/-- A cancellation token. -/
structure Token where
  /-- Birth numbers, from the token itself to its root. -/
  path : List Nat
deriving DecidableEq, Inhabited

/-- Whether `t` is `a` or descends from it. -/
def Token.isWithin (t a : Token) : Bool := a.path.isSuffixOf t.path

/-- The tokens of a run. -/
structure TokenForest where
  /-- How many tokens have been made. -/
  born : Nat
  /-- The tokens that `cancel` was called on, latest first. -/
  marked : List Token
deriving DecidableEq, Inhabited

namespace TokenForest

/-- No tokens. -/
def empty : TokenForest := ⟨0, []⟩

/-- A new root. -/
def plant (f : TokenForest) : Token × TokenForest := (⟨[f.born]⟩, { f with born := f.born + 1 })

/-- A new token below another. -/
def branch (f : TokenForest) (t : Token) : Token × TokenForest :=
  (⟨f.born :: t.path⟩, { f with born := f.born + 1 })

/-- Cancels a token. -/
def cancel (f : TokenForest) (t : Token) : TokenForest := { f with marked := t :: f.marked }

/-- Whether a token is cancelled. -/
def isCancelled (f : TokenForest) (t : Token) : Bool := f.marked.any fun a => t.isWithin a

theorem isCancelled_iff {f : TokenForest} {t : Token} :
    f.isCancelled t ↔ ∃ a ∈ f.marked, a.path <:+ t.path := by
  simp [isCancelled, Token.isWithin]

theorem isCancelled_cancel {f : TokenForest} {a t : Token} :
    (f.cancel a).isCancelled t = (t.isWithin a || f.isCancelled t) := by
  simp [isCancelled, cancel]

end TokenForest

end QueueClient
