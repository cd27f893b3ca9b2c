import FileServer.Text.Numeral

/-!
Whole numbers of 64 bits, with and without a sign.
-/

namespace FileServer.Wide

/-- The least number with a sign. -/
def least : Int := -0x8000000000000000

/-- The greatest number with a sign. -/
def greatest : Int := 0x7FFFFFFFFFFFFFFF

/-- The greatest number without a sign. -/
def greatestNatural : Nat := 0xFFFFFFFFFFFFFFFF

/-- Whether a number with a sign has at most 64 bits. -/
def holds (n : Int) : Bool := least ≤ n && n ≤ greatest

/-- Reads an optional sign and digits to the end. -/
def read? (s : String) : Option Int := Text.readInt? least greatest s

/-- Reads an optional plus sign and digits to the end. -/
def readNatural? (s : String) : Option Nat := Text.readNat? greatestNatural s

end FileServer.Wide
