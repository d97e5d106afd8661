/-
  Custody.Main
  ────────────────────────────────
  **THE PROGRAM.**

  Arguments and variables come from the process, lines go to its channels.
  To serve means to read requests from the input, one JSON object on a line
  with `method`, `path`, `headers`, `body` and the second `now` of its arrival,
  and to write a line with `status` and `body` for each; the journal goes to
  the other channel.  The process reaches no block explorer by itself, so no
  proof is found to hold here.
-/
import Custody.Api.Exchange
import Custody.Block.Explorer
import Custody.CommandLine
import Custody.Json.Printer
import Custody.Store.Relational

open Custody

namespace Custody.Main

/-- The variables of the process. -/
def environment : IO Variables := do
  let values ← Config.settings.mapM fun name => return (name, ← IO.getEnv name)
  return fun name => (values.lookup name).join

/-- The circumstances of a request that arrives at a second. -/
def circumstances (config : Config) (now : UInt64) : Circumstances where
  now
  prove tx proof :=
    let send : Transport Id := fun _ => .error "no connection"
    let explorer := Explorer.ofAddress config.explorerAddress
    InclusionProof.validate (explorer.source send) config.confirmations tx proof

/-- A request and the second of its arrival. -/
def readLine? (line : String) : Option (UInt64 × Http.Request) := do
  let j ← Json.parse? .whole line
  let now : UInt64 ← (j.member? "now").bind fromJson?
  let method ← (j.member? "method").bind Json.text?
  let path ← (j.member? "path").bind Json.text?
  let headers ← match j.member? "headers" with
    | some (.object members) => members.mapM fun m => m.2.text?.map (m.1, ·)
    | some _ => none
    | none => some []
  let body := ((j.member? "body").bind Json.text?).getD ""
  return (now, ← Http.Request.ofParts? method path headers body)

/-- Answers requests until the input ends. -/
partial def serve (config : Config) (service : Service) (store : Relational) (count : Nat) :
    IO Unit := do
  let line ← (← IO.getStdin).getLine
  if line.isEmpty then return
  match readLine? line with
  | none =>
    IO.println (Json.object [("status", .ofNat 400), ("body", .null)]).print
    serve config service store count
  | some (now, request) =>
    let exchange := Api.respond service store (circumstances config now) (toString count) request
    let least := (Journal.Level.ofText config.logLevel).rank
    for entry in exchange.journal do
      if least ≤ entry.level.rank then IO.eprintln entry.content.print
    IO.println (Json.object [
      ("status", .ofNat exchange.response.status),
      ("body", exchange.response.body.getD .null)]).print
    serve config exchange.service exchange.store (count + 1)

/-- Writes a report down. -/
def tell (report : CommandLine.Report) : IO UInt32 := do
  report.output.forM IO.println
  report.errors.forM IO.eprintln
  return report.exit

end Custody.Main

/-- Does what the arguments and the variables say. -/
def main (arguments : List String) : IO UInt32 := do
  let task := CommandLine.Task.ofArguments (← Main.environment) arguments
  match task with
  | .ok (.serve config) =>
    match Service.load config.params Relational.empty with
    | .error fault => Main.tell (.failed [] (.load fault))
    | .ok service =>
      let code ← Main.tell (CommandLine.report (fun _ => none) task)
      Main.serve config service Relational.empty 1
      return code
  | _ => Main.tell (CommandLine.report (fun _ => none) task)
