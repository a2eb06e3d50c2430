import ParseForest.Json.Token
import ParseForest.Json.Value

namespace ParseForest.Json

-- An array or object that is still open, its finished parts latest first. The name of a member is absent when it is not
-- a text.
inductive Frame where
  | array (items : List Value)
  | object (members : List (Option String × Value)) (name : Option String)

inductive Reader where
  | wantsValue (stack : List Frame)
  | wantsItem (stack : List Frame)
  | wantsMember (stack : List Frame)
  | wantsName (members : List (Option String × Value)) (stack : List Frame)
  | wantsColon (members : List (Option String × Value)) (name : Option String)
      (stack : List Frame)
  | done (value : Value) (stack : List Frame)

namespace Reader

def close (members : List (Option String × Value)) : Value :=
  match members.reverse.mapM fun (name,value) => name.map (·,value) with
  | some named => .object named
  | none => .unreadable

def begin (stack : List Frame) : Token → Option Reader
  | .null => some (.done .null stack)
  | .bool value => some (.done (.bool value) stack)
  | .natural value => some (.done (.natural value) stack)
  | .number literal => some (.done (.number literal) stack)
  | .string (some text) => some (.done (.string text) stack)
  | .string none => some (.done .unreadable stack)
  | .openArray => some (.wantsItem stack)
  | .openObject => some (.wantsMember stack)
  | _ => none

def step (reader : Reader) (token : Token) : Option Reader :=
  match reader with
  | .wantsValue stack => begin stack token
  | .wantsItem stack =>
    match token with
    | .closeArray => some (.done (.array []) stack)
    | token => begin (.array [] :: stack) token
  | .wantsMember stack =>
    match token with
    | .closeObject => some (.done (.object []) stack)
    | .string name => some (.wantsColon [] name stack)
    | _ => none
  | .wantsName members stack =>
    match token with
    | .string name => some (.wantsColon members name stack)
    | _ => none
  | .wantsColon members name stack =>
    match token with
    | .colon => some (.wantsValue (.object members name :: stack))
    | _ => none
  | .done value (.array items :: stack) =>
    match token with
    | .comma => some (.wantsValue (.array (value :: items) :: stack))
    | .closeArray => some (.done (.array (value :: items).reverse) stack)
    | _ => none
  | .done value (.object members name :: stack) =>
    match token with
    | .comma => some (.wantsName ((name,value) :: members) stack)
    | .closeObject => some (.done (close ((name,value) :: members)) stack)
    | _ => none
  | .done _ [] => none

def run (reader : Reader) : List Token → Option Reader
  | [] => some reader
  | token :: rest =>
    match reader.step token with
    | some next => next.run rest
    | none => none

end Reader

def Value.ofTokens? (tokens : List Token) : Option Value :=
  match (Reader.wantsValue []).run tokens with
  | some (.done value []) => some value
  | _ => none

def Value.parse? (text : String) : Option Value :=
  (Token.scan text.toList).bind Value.ofTokens?

end ParseForest.Json
