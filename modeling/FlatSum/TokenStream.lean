import FlatSum.Token

namespace FlatSum

/-! A place in a list of tokens, with the number of operands taken so far. The operand count runs on
its own: only a number taken where one is expected raises it. -/

structure TokenStream where
  position : Nat
  operands : Nat
  rest : List Token
deriving DecidableEq, Repr

/-- Why a list of tokens has no sum. A slot is the number of operands taken before the fault. -/
inductive SumError where
  | unexpectedEnd
  | invalidToken (token : Token) (slot : Nat)
  | overflow (slot : Nat)
deriving DecidableEq, Repr

namespace SumError

def message : SumError → String
  | unexpectedEnd => "unexpected end of input"
  | invalidToken token slot =>
      "invalid token '" ++ token.text ++ "' at operand " ++ Decimal.ofNat slot
  | overflow slot => "arithmetic overflow at operand " ++ Decimal.ofNat slot

def form : SumError → String
  | unexpectedEnd => "UnexpectedEndOfInput"
  | invalidToken token slot =>
      "InvalidToken(" ++ token.form ++ ", " ++ Decimal.ofNat slot ++ ")"
  | overflow slot => "Overflow(" ++ Decimal.ofNat slot ++ ")"

/-- The same cause behind that many more operands. -/
def shift (offset : Nat) : SumError → SumError
  | unexpectedEnd => unexpectedEnd
  | invalidToken token slot => invalidToken token (slot + offset)
  | overflow slot => overflow (slot + offset)

end SumError

namespace TokenStream

def ofList (tokens : List Token) : TokenStream := ⟨0, 0, tokens⟩

def next (stream : TokenStream) : Option Token × TokenStream :=
  match stream.rest with
  | [] => (none, stream)
  | token :: rest => (some token, { stream with position := stream.position + 1, rest })

/-- Takes the next token, which has to be a number. A token that is none is taken all the same. -/
def expectNumber (stream : TokenStream) : Except SumError Amount × TokenStream :=
  match stream.next with
  | (none, stop) => (.error .unexpectedEnd, stop)
  | (some (.number value), rest) => (.ok value, { rest with operands := rest.operands + 1 })
  | (some (.operator operator), rest) =>
      (.error (.invalidToken (.operator operator) rest.operands), rest)

end TokenStream

end FlatSum
