import RowQuery.Text.Hex

/-!
Globally unique identifiers of 128 bits. They are written as five groups of
lower-case digits and read in that form, without hyphens, in braces or behind
a resource-name heading.
-/

namespace RowQuery

structure Guid where
  bits : BitVec 128
deriving DecidableEq, Repr

namespace Guid

def hexDigits (g : Guid) : List Char :=
  Text.padLeft 32 (Nat.toDigits 16 g.bits.toNat)

/-- Puts hyphens between groups of eight, four, four, four and twelve digits. -/
def grouped (ds : List Char) : List Char :=
  ds.take 8 ++ '-' :: (ds.drop 8).take 4 ++ '-' :: (ds.drop 12).take 4 ++
    '-' :: (ds.drop 16).take 4 ++ '-' :: ds.drop 20

def text (g : Guid) : String :=
  String.ofList (grouped g.hexDigits)

def readDigits? (ds : List Char) : Option Guid :=
  if ds.length = 32 then
    (ds.mapM Text.hexDigit?).map fun values =>
      ⟨BitVec.ofNat 128 (values.foldl (fun n d => n * 16 + d) 0)⟩
  else none

def readGrouped? (cs : List Char) : Option Guid :=
  let digits := cs.filter (· != '-')
  if grouped digits = cs then readDigits? digits else none

/-- The headings of resource names, either in lower or in upper case. -/
def headings : List (List Char) := ["urn:uuid:".toList, "URN:UUID:".toList]

def read? (s : String) : Option Guid :=
  let cs := s.toList
  if cs.length = 32 then readDigits? cs
  else if cs.length = 36 then readGrouped? cs
  else if cs.length = 38 && cs.head? == some '\x7b' && cs.getLast? == some '\x7d' then
    readGrouped? ((cs.drop 1).take 36)
  else if cs.length = 45 && headings.contains (cs.take 9) then readGrouped? (cs.drop 9)
  else none

end Guid

end RowQuery
