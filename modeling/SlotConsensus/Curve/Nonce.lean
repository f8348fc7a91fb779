import SlotConsensus.Digest.Hmac

/-! The secret multipliers of signatures, drawn from a seed by a keyed digest so that signing the
same message twice gives the same signature.  Candidates are tried in order until one is
accepted. -/

namespace SlotConsensus.Curve

/-- A source of candidates of 32 bytes each. -/
structure NonceSource where
  key : List UInt8
  value : List UInt8

namespace NonceSource

/-- Takes `mark` and the seed into the key, and then moves on to the next value. -/
def stir (g : NonceSource) (mark : UInt8) (seed : List UInt8) : NonceSource :=
  let key := Hmac.digest g.key (g.value ++ mark :: seed)
  ⟨key, Hmac.digest key g.value⟩

def ofSeed (seed : List UInt8) : NonceSource :=
  (stir ⟨List.replicate 32 0, List.replicate 32 1⟩ 0 seed).stir 1 seed

/-- The source at its next candidate, which is its value. -/
def advance (g : NonceSource) : NonceSource := ⟨g.key, Hmac.digest g.key g.value⟩

/-- What `accept` makes of the first of at most `attempts` candidates that it accepts. -/
def first? {α : Type} (accept : List UInt8 → Option α) : Nat → NonceSource → Option α
  | 0, _ => none
  | attempts + 1, g =>
    let g := g.advance
    match accept g.value with
    | some a => some a
    | none => first? accept attempts (g.stir 0 [])

end NonceSource

end SlotConsensus.Curve
