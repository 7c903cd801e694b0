import SqlEngine.Action

/-!
# Streams of tokens

A parser reads a vector of tokens from the first on. The last one is an end of input, which is added
where the tokens do not end with one; a parser that has come to it stays there.
-/

namespace SqlEngine

/-- The tokens that are still to be read before the last one, and where that one stands. -/
structure TokenStream where
  pending : List Token
  finish : Nat
  deriving DecidableEq, Repr

namespace TokenStream

/-- Where no end of input comes last, it stands one past the last token. -/
def ofTokens (tokens : List Token) : TokenStream :=
  match tokens.getLast? with
  | none      => ⟨[], 0⟩
  | some last =>
    if last.lexeme = .endOfInput then ⟨tokens.dropLast, last.position⟩
    else ⟨tokens, last.position + 1⟩

/-- The next token, which is the last one where no other is left. -/
def current (stream : TokenStream) : Token :=
  stream.pending.head?.getD ⟨.endOfInput, stream.finish⟩

def advance (stream : TokenStream) : TokenStream :=
  { stream with pending := stream.pending.tail }

/-- Whether an end of input comes next, be it the last token or one before it. -/
def atEnd (stream : TokenStream) : Bool := stream.current.lexeme = .endOfInput

@[simp] theorem current_cons (t : Token) (ts : List Token) (finish : Nat) :
    current ⟨t :: ts, finish⟩ = t := rfl

@[simp] theorem current_nil (finish : Nat) : current ⟨[], finish⟩ = ⟨.endOfInput, finish⟩ := rfl

@[simp] theorem advance_cons (t : Token) (ts : List Token) (finish : Nat) :
    advance ⟨t :: ts, finish⟩ = ⟨ts, finish⟩ := rfl

end TokenStream

end SqlEngine
