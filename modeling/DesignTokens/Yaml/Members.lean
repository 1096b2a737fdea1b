import DesignTokens.Yaml.Value

/-!
# The order of the members of a set

A set of whole numbers has no order of its own, but it is shown in one: that of the places which its
members take in a table.  The number of places is a power of two that leaves some of them free.  A
member takes the place that its remainder by that number names; where that is taken, the places next
to it are tried, and then places further on.  So small numbers are shown in rising order, and larger
ones in the order of their last bits.
-/

namespace DesignTokens

namespace Yaml

namespace Members

/-- The prime by which large numbers are reduced before they are placed. -/
def modulus : Nat :=
  Nat.pow 2 61 - 1

/-- The word of sixty-four bits that stands for a number; minus one shares that of minus two. -/
def word (n : Int) : Nat :=
  let r := n.natAbs % modulus
  if n < 0 then (Nat.pow 2 64 - if r = 1 then 2 else r) % Nat.pow 2 64 else r

/-- The number of places for some members. -/
def placeCount (members : Nat) : Nat :=
  if members < 5 then 8 else Nat.pow 2 (Nat.log2 (2 * members) + 1)

/-- How many places behind the first one are tried, if there are as many. -/
def reach : Nat :=
  9

/-- The place for a member: the first free one at `place` or close behind it, or else further on, as
the `rest` of its word says; `fuel` bounds the number of tries. -/
def freePlace (taken : List Nat) (places : Nat) : (fuel : Nat) → (place rest : Nat) → Nat
  | 0, place, _ => place
  | fuel + 1, place, rest =>
      let tries := if place + reach < places then reach + 1 else 1
      match (List.range' place tries).find? fun p => !taken.contains p with
      | some p => p
      | none =>
          freePlace taken places fuel ((place * 5 + 1 + rest / 32) % places) (rest / 32)

/-- The places for words, in their order.  The word of a member is used up after thirteen tries, and
then every place is tried. -/
def placesFrom (places : Nat) : (taken : List Nat) → List Nat → List Nat
  | taken, [] => taken.reverse
  | taken, w :: ws =>
      placesFrom places (freePlace taken places (places + 13) (w % places) w :: taken) ws

/-- The members of a set in the order in which they are shown.  Where one of them is no whole
number, that is the order in which they were given. -/
def arrange (members : List Value) : List Value :=
  match members.mapM Value.integral? with
  | none => members
  | some ns =>
      let places := placesFrom (placeCount ns.length) [] (ns.map word)
      ((places.zip members).mergeSort fun a b => a.1 ≤ b.1).map Prod.snd

end Members

end Yaml

end DesignTokens
