import Sift.Text.Decimal

/-!
# Addresses to listen on

An address is a host and, after the last colon, a number that tells the services of the host apart.

Main statement: `Address.number_lt`, the number has sixteen bits.
-/

namespace Sift

inductive AddressFault where
  /-- There is no colon. -/
  | noNumber
  /-- What follows the last colon is no number of sixteen bits. -/
  | badNumber
  deriving DecidableEq, Repr

def AddressFault.message : AddressFault → String
  | .noNumber => "invalid socket address"
  | .badNumber => "invalid port value"

structure Address where
  host : String
  number : Nat
  number_lt : number < UInt16.size

/-- The address that a text writes. The host is not looked up. -/
def Address.ofText (s : String) : Except AddressFault Address :=
  let digits := s.toList.reverse.takeWhile (· != ':')
  match s.toList.reverse.drop digits.length with
  | [] => .error .noNumber
  | _ :: host =>
    match h : Text.readCount (UInt16.size - 1) (String.ofList digits.reverse) with
    | .ok n =>
      .ok ⟨String.ofList host.reverse, n, Nat.lt_of_le_pred (by decide) (Text.le_of_readCount h)⟩
    | .error _ => .error .badNumber

end Sift
