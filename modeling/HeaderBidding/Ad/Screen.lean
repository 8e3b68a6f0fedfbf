import HeaderBidding.Ad.Unit
import HeaderBidding.Text.Blank

/-!
# Screens and the keys of ad units

The device's screen decides the size of interstitials: they fill the screen in its current
orientation. `Screen.keyOf?` gives the slot key of an ad unit: a banner keeps its size, an
interstitial takes the screen's, a native ad is `2x2`. A unit whose placement is blank (only
white space) or whose size is not positive has no key.

`Screen.chunks` turns a list of ad units into the keys to request, in order, without repeats,
in chunks of at most `chunkSize`.
-/

namespace HeaderBidding

/-- A device screen: its size upright and on its side, and which way it is held. -/
structure Screen where
  portrait : Size
  landscape : Size
  isLandscape : Bool
  deriving DecidableEq, Repr, Inhabited

namespace Screen

/-- A screen held upright, of the given width and height. -/
def upright (width height : Int) : Screen :=
  ⟨⟨width, height⟩, ⟨height, width⟩, false⟩

/-- The screen assumed when none is known: `360x640`, upright. -/
def standard : Screen :=
  upright 360 640

/-- The size of the screen as it is held. -/
def current (s : Screen) : Size :=
  if s.isLandscape then s.landscape else s.portrait

/-- The size of native ads. -/
def nativeSize : Size :=
  ⟨2, 2⟩

/-- The most keys one bid request carries. -/
def chunkSize : Nat :=
  8

/-- The slot key of an ad unit, if it is valid: a non-blank placement and a positive size. -/
def keyOf? (s : Screen) (unit : AdUnit) : Option SlotKey :=
  let key : SlotKey :=
    match unit with
    | .banner p size => ⟨p, size, .banner⟩
    | .interstitial p => ⟨p, s.current, .interstitial⟩
    | .native p => ⟨p, nativeSize, .native⟩
  if (Text.trimBlank key.placement).isEmpty || !key.size.isPositive then none else some key

end Screen

/-- The list without repeats, each element kept where it first occurs. -/
def firstOccurrences {α : Type} [DecidableEq α] (l : List α) : List α :=
  l.foldl (fun kept a => if kept.contains a then kept else kept ++ [a]) []

/-- The list cut into consecutive chunks of `n` (the last may be shorter); `n` must be
positive. -/
def chunksOf {α : Type} (n : Nat) (l : List α) : List (List α) :=
  if h : 0 < n ∧ l ≠ [] then
    have : (l.drop n).length < l.length := by
      simp only [List.length_drop]
      have : 0 < l.length := List.length_pos_iff.mpr h.2
      omega
    l.take n :: chunksOf n (l.drop n)
  else []
termination_by l.length

/-- The keys to request for a list of ad units: valid ones, without repeats, in chunks. -/
def Screen.chunks (s : Screen) (units : List AdUnit) : List (List SlotKey) :=
  chunksOf chunkSize (firstOccurrences (units.filterMap s.keyOf?))

end HeaderBidding
