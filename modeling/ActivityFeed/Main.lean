import ActivityFeed.Command.Outcome

/-!
# The program

Reads its arguments and, from the environment, the address of the server and the token. It opens no
connections itself: the body of the server's answer is read from standard input, so that the program
stands behind whatever carries it. Following a feed starts from an empty snapshot.
-/

namespace ActivityFeed.Command

/-- Reads octets to their end. -/
partial def readAll (stream : IO.FS.Stream) (before : ByteArray) : IO ByteArray := do
  let chunk ← stream.read 65536
  if chunk.isEmpty then return before else readAll stream (before ++ chunk)

/-- A successful response with a body. -/
def responseOf (body : List UInt8) : Http.Reply :=
  .response (.new 200 [body] .complete)

/-- The server whose answer to a job is a body. -/
def serverFor (job : Job) (body : List UInt8) : Server :=
  match job with
  | .tail => ⟨responseOf (Text.Utf8.ofString "[]"), responseOf body⟩
  | _ => ⟨responseOf body, responseOf body⟩

/-- The server for arguments; only those that ask for a job need one. -/
def serverOf (wish : Wish) : IO Server := do
  match wish with
  | .run invocation =>
    match invocation.config.check with
    | .ok () =>
      let body ← readAll (← IO.getStdin) .empty
      return serverFor invocation.job body.toList
    | .error _ => return ⟨.unreachable, .unreachable⟩
  | _ => return ⟨.unreachable, .unreachable⟩

end ActivityFeed.Command

open ActivityFeed.Command

/-- Runs the program. -/
def main (arguments : List String) : IO UInt32 := do
  let baseUrl ← IO.getEnv "LIVEFEED_BASE_URL"
  let token ← IO.getEnv "LIVEFEED_TOKEN"
  let wish := Wish.ofArguments arguments baseUrl token
  let outcome := wish.outcome (← serverOf wish)
  IO.print outcome.output
  match outcome.failure with
  | some cause => IO.eprintln (Outcome.errorLine cause)
  | none =>
    if wish = .misuse then
      IO.eprint ((HelpRequest.mk (.place .before) false baseUrl).text ++ "\n")
  return UInt32.ofNat outcome.exit
