import RankFusion.Text.Printable
import RankFusion.Text.Surrogate

/-!
This module contains the quoted form of texts and byte strings.
-/

namespace RankFusion

def hexDigits (width n : Nat) : List Char :=
  let ds := Nat.toDigits 16 n
  List.replicate (width - ds.length) '0' ++ ds

def hexEscape (c : Char) : List Char :=
  let n := (surrogate? c).getD c.toNat
  if n < 0x100 then '\\' :: 'x' :: hexDigits 2 n
  else if n < 0x10000 then '\\' :: 'u' :: hexDigits 4 n
  else '\\' :: 'U' :: hexDigits 8 n

def quotedChar (quote c : Char) : List Char :=
  if c = quote ∨ c = '\\' then ['\\', c]
  else if c = '\n' then ['\\', 'n']
  else if c = '\r' then ['\\', 'r']
  else if c = '\t' then ['\\', 't']
  else if isPrintable c then [c]
  else hexEscape c

/--
The quotation mark of a text: the single one, unless only single ones occur inside.
-/
def quoteMark (cs : List Char) : Char := if '\x27' ∈ cs ∧ '\x22' ∉ cs then '\x22' else '\x27'

def quoted (s : String) : String :=
  let quote := quoteMark s.toList
  String.ofList (quote :: (s.toList.flatMap (quotedChar quote) ++ [quote]))

def quotedByte (quote : Char) (b : UInt8) : List Char :=
  let c := Char.ofNat b.toNat
  if c = quote ∨ c = '\\' then ['\\', c]
  else if c = '\n' then ['\\', 'n']
  else if c = '\r' then ['\\', 'r']
  else if c = '\t' then ['\\', 't']
  else if 0x20 ≤ b.toNat ∧ b.toNat < 0x7f then [c]
  else hexEscape c

def quotedBytes (bytes : List UInt8) : String :=
  let quote := quoteMark (bytes.map fun b => Char.ofNat b.toNat)
  String.ofList ('b' :: quote :: (bytes.flatMap (quotedByte quote) ++ [quote]))

end RankFusion
