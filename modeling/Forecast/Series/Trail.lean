import Forecast.Series.Cursor

/-!
# Trails of cursors

A trail records a walk from a place to the end of its sequence: every item, how many items were
said to be left along the way, and whether the end is final.
-/

namespace Forecast

/-- A walk to the end of a sequence. -/
structure Trail (ι : Type) where
  /-- The items in order. -/
  items : List ι
  /-- Number of items said to be left, at first and behind each item. -/
  lengths : List Nat
  /-- Number of items behind the first one, walked once more from there. -/
  forked : Option Nat
  /-- Whether nothing follows the end, asked twice. -/
  isFinal : Bool

/-- Change the items of a trail. -/
def Trail.map {ι κ : Type} (change : ι → κ) (trail : Trail ι) : Trail κ :=
  { trail with items := trail.items.map change }

namespace Cursor

variable {σ ι : Type} [Cursor σ ι]

/-- Whether two further attempts find nothing. -/
def isAtEnd (place : σ) : Bool :=
  let (first, behind) := next place
  first.isNone && (next behind).1.isNone

/-- The walk from a place to the end. -/
def trail (place : σ) : Trail ι :=
  let steps : List (ι × σ) := takeSteps (remaining place) place
  let behind := steps.map Prod.snd
  { items := steps.map Prod.fst
    lengths := (place :: behind).map remaining
    forked := behind.head?.map fun place => (items place).length
    isFinal := isAtEnd (behind.getLast?.getD place) }

end Cursor

end Forecast
