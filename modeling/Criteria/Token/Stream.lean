import Criteria.Token.Run

/-! # Reading tokens one at a time

A stream reads a text token by token and can take one token back. Looking ahead is reading and
taking back; a lexical error met while looking ahead has been read all the same. Once the text is
exhausted, every further token is the end of the text.
-/

namespace Criteria

/-- A text being read, a token that was taken back, and whether iteration is over. -/
structure TokenStream where
  input : Input
  pending : Option Token
  finished : Bool
deriving DecidableEq

namespace TokenStream

/-- A text of which no token has been read. -/
def ofString (source : String) : TokenStream :=
  ⟨.ofString source, none, false⟩

/-- Read the next token. -/
def next (stream : TokenStream) : Except LexicalError Token × TokenStream :=
  match stream.pending with
  | some token => (.ok token, { stream with pending := none })
  | none => (stream.input.scan.1, { stream with input := stream.input.scan.2 })

/-- Take a token back; it is the next one to be read. -/
def unread (stream : TokenStream) (token : Token) : TokenStream :=
  { stream with pending := some token }

/-- Read the next token and take it back. -/
def peek (stream : TokenStream) : Except LexicalError Token × TokenStream :=
  match stream.next with
  | (.ok token, after) => (.ok token, after.unread token)
  | (.error error, after) => (.error error, after)

/-- Read the next token unless the sequence is over: after the end of the text, an invalid token or
an error nothing more is read. -/
def advance (stream : TokenStream) : Option (Except LexicalError Token) × TokenStream :=
  if stream.finished then
    (none, stream)
  else
    match stream.next with
    | (.error error, after) => (some (.error error), { after with finished := true })
    | (.ok token, after) =>
      match token.kind with
      | .eof => (none, { after with finished := true })
      | .invalid => (some (.ok token), { after with finished := true })
      | _ => (some (.ok token), after)

/-- The tokens that are still to be read. -/
def run (stream : TokenStream) : TokenRun :=
  match stream.pending with
  | some token => .cons token stream.input.run
  | none => stream.input.run

@[simp] theorem next_unread (stream : TokenStream) (token : Token) :
    (stream.unread token).next = (.ok token, { stream with pending := none }) := rfl

end TokenStream

end Criteria
