/-!
Internet addresses of version 4 in their strict dotted form: four decimal parts from 0 to 255
without leading zeros, separated by dots, and nothing around them.
-/

set_option autoImplicit false

namespace ModbusTcp

/-- An address of four bytes. -/
structure Ipv4 where
  a : UInt8
  b : UInt8
  c : UInt8
  d : UInt8
  deriving DecidableEq, Repr

namespace Ipv4

/-- The address that stands for every local one. -/
def any : Ipv4 := ⟨0, 0, 0, 0⟩

/-- The parts of a text between its dots. -/
def splitDots : List Char → List (List Char)
  | [] => [[]]
  | c :: cs =>
    if c = '.' then [] :: splitDots cs
    else
      match splitDots cs with
      | part :: parts => (c :: part) :: parts
      | [] => [[c]]

/-- The byte that a part spells: one to three digits, without a leading zero. -/
def part? (digits : List Char) : Option UInt8 :=
  let value := digits.foldl (fun n c => 10 * n + (c.toNat - '0'.toNat)) 0
  let wellFormed := digits.all Char.isDigit && digits.length ≤ 3
    && (digits = ['0'] || digits.head?.any (· ≠ '0'))
  if wellFormed && value ≤ 255 then some (UInt8.ofNat value) else none

/-- The address that a text spells. -/
def parse? (text : List Char) : Option Ipv4 :=
  match (splitDots text).mapM part? with
  | some [a, b, c, d] => some ⟨a, b, c, d⟩
  | _ => none

/-- The address to bind for a text: nothing and four zeros stand for any. A text is read up to its
first NUL. -/
def ofBindText? (text : String) : Option Ipv4 :=
  if text = "" ∨ text = "0.0.0.0" then some any
  else parse? (text.toList.takeWhile (· ≠ '\x00'))

end Ipv4

end ModbusTcp
