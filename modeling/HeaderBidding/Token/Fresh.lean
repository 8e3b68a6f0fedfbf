import HeaderBidding.Token.Uuid

/-!
# Fresh identifiers

Request and impression identifiers and bid tokens must be new each time one is made; nothing
else about them matters. `Fresh` is a supply of them: the `n`-th identifier is the random-form
(version 4) identifier whose last 48 bits are `n`, so two identifiers taken from one supply
differ.
-/

namespace HeaderBidding.Token

/-- The version-4 identifier with serial number `n` (below `2 ^ 48`) in its last 48 bits. -/
def Uuid.ofSerial (n : Nat) : Uuid :=
  ⟨0x4000 * Nat.pow 2 64 + 0x8000 * Nat.pow 2 48 + n % Nat.pow 2 48⟩

/-- A supply of fresh identifiers: the serial number of the next one. -/
structure Fresh where
  next : Nat
  deriving DecidableEq, Repr, Inhabited

namespace Fresh

/-- A supply that has given nothing yet. -/
def start : Fresh :=
  ⟨1⟩

/-- Takes an identifier from the supply. -/
def take (f : Fresh) : Uuid × Fresh :=
  (Uuid.ofSerial f.next, ⟨f.next + 1⟩)

end Fresh

end HeaderBidding.Token
