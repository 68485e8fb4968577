/-!
This module contains the reading of bytes that are written in base 64.
-/

namespace RankFusion.Base64

def digitValue? (c : Char) : Option Nat :=
  if 'A' ≤ c ∧ c ≤ 'Z' then some (c.toNat - 'A'.toNat)
  else if 'a' ≤ c ∧ c ≤ 'z' then some (c.toNat - 'a'.toNat + 26)
  else if '0' ≤ c ∧ c ≤ '9' then some (c.toNat - '0'.toNat + 52)
  else if c = '+' then some 62
  else if c = '/' then some 63
  else none

/--
The bytes of the rest of a text. So far `count` digits of a group of four and `pads` marks of
padding have been read, and the digits leave `left` over. Characters that are no digits count for
nothing.
-/
def decodeFrom (count pads left : Nat) : List Char → Option (List UInt8)
  | [] => if count = 0 then some [] else none
  | c :: cs =>
    if c = '=' then
      if count < 2 then decodeFrom count pads left cs
      else if 4 ≤ count + pads + 1 then some []
      else decodeFrom count (pads + 1) left cs
    else
      match digitValue? c with
      | none => decodeFrom count pads left cs
      | some v =>
        match count with
        | 0 => decodeFrom 1 0 v cs
        | 1 => (decodeFrom 2 0 (v % 16) cs).map ((left * 4 + v / 16).toUInt8 :: ·)
        | 2 => (decodeFrom 3 0 (v % 4) cs).map ((left * 16 + v / 4).toUInt8 :: ·)
        | _ => (decodeFrom 0 0 0 cs).map ((left * 64 + v).toUInt8 :: ·)

def decode? (cs : List Char) : Option (List UInt8) :=
  if cs.all fun c => c.toNat < 128 then decodeFrom 0 0 0 cs else none

end RankFusion.Base64
