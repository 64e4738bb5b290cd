/-!
Denominations: the names of the coins that accounts hold. Any text can name a coin in the ledger;
the registry and the parameters admit only valid names.
-/

namespace EvmBank

/-- The name of a coin. -/
abbrev Denom := String

namespace Denom

/-- Letters, digits, and the marks `/`, `:`, `.`, `_` and `-`. -/
def isNameChar (c : Char) : Bool :=
  c.isAlphanum || c = '/' || c = ':' || c = '.' || c = '_' || c = '-'

/-- A valid name takes 3 to 128 bytes in UTF-8, begins with an ASCII letter and goes on with name
characters. -/
def isValid (denom : Denom) : Bool :=
  3 ≤ denom.utf8ByteSize && denom.utf8ByteSize ≤ 128 &&
    match denom.toList with
    | [] => false
    | c :: rest => c.isAlpha && rest.all isNameChar

end Denom

end EvmBank
