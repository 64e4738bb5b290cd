import EvmBank.Json.Token
import EvmBank.Json.Value

/-!
Reading JSON texts: a machine takes in one token after the other, and keeps the arrays and objects
that are not complete yet on a stack. Nothing but blanks may stand behind the value.
-/

namespace EvmBank.Json

/-- An array or an object that is not complete: what it holds so far, the last part first, and in
an object the name of the value that is being read. -/
inductive Frame where
  | array (items : List Json)
  | object (members : List (Option String × Json)) (name : Option String)

/-- What the machine expects next. -/
inductive State where
  | value (stack : List Frame)
  /-- The first item of an array, or its end. -/
  | firstItem (stack : List Frame)
  /-- The first key of an object, or its end. -/
  | firstKey (stack : List Frame)
  | key (members : List (Option String × Json)) (stack : List Frame)
  /-- The colon behind a key. -/
  | colon (members : List (Option String × Json)) (name : Option String) (stack : List Frame)
  /-- What goes on behind a value, or the end of the text. -/
  | after (value : Json) (stack : List Frame)

namespace State

/-- Takes in a token where a value is expected. -/
def begin (stack : List Frame) : Token → Option State
  | .null => some (.after .null stack)
  | .bool b => some (.after (.bool b) stack)
  | .number lexeme => some (.after (.number lexeme) stack)
  | .text content => some (.after (.text content) stack)
  | .openBracket => some (.firstItem stack)
  | .openBrace => some (.firstKey stack)
  | _ => none

/-- Takes in a token behind a value. -/
def follow (v : Json) : List Frame → Token → Option State
  | .array items :: stack, .comma => some (.value (.array (v :: items) :: stack))
  | .array items :: stack, .closeBracket => some (.after (.array (v :: items).reverse) stack)
  | .object members name :: stack, .comma => some (.key ((name, v) :: members) stack)
  | .object members name :: stack, .closeBrace =>
    some (.after (.object ((name, v) :: members).reverse) stack)
  | _, _ => none

def step : State → Token → Option State
  | .value stack, t => begin stack t
  | .firstItem stack, .closeBracket => some (.after (.array []) stack)
  | .firstItem stack, t => begin (.array [] :: stack) t
  | .firstKey stack, .closeBrace => some (.after (.object []) stack)
  | .firstKey stack, .text name => some (.colon [] name stack)
  | .firstKey _, _ => none
  | .key members stack, .text name => some (.colon members name stack)
  | .key _ _, _ => none
  | .colon members name stack, .colon => some (.value (.object members name :: stack))
  | .colon _ _ _, _ => none
  | .after v stack, t => follow v stack t

end State

def ofTokens? (ts : List Token) : Option Json :=
  match ts.foldlM State.step (.value []) with
  | some (.after v []) => some v
  | _ => none

def parse? (s : String) : Option Json := (tokens? s.toList).bind ofTokens?

end EvmBank.Json
