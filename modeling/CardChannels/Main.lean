import CardChannels.CommandLine.Replay

/-!
# The command line

`decode HEX` shows a command, and `replay FILE` replays a script; `--settle-ms` sets for how long
a replay waits for messages.
-/
namespace CardChannels.CommandLine

/-- The variables that the configuration is read from. -/
def configVariables : List String :=
  ["STK_BIP_MAX_BUFFER_SIZE", "STK_BIP_CONNECT_TIMEOUT_MS", "STK_BIP_APN_RETRY_INTERVAL_MS",
   "STK_BIP_APN_RETRY_LIMIT", "STK_BIP_APN_TYPE", "STK_BIP_REQUIRE_EVENT_LIST"]

def environment : IO (List (String × String)) :=
  configVariables.filterMapM fun name => do
    return (← IO.getEnv name).map fun value => (name, value)

def finish (run : Run) : IO UInt32 := do
  IO.print run.output
  IO.eprint run.errorText
  return run.exitCode

def replayFile (file : String) (quiet : Nat) : IO UInt32 := do
  match ← (IO.FS.readFile file).toBaseIO with
  | .ok script => finish (replay script (← environment) quiet)
  | .error fault => finish ⟨"", some ("cannot read " ++ file, some (toString fault))⟩

def usage : IO UInt32 := do
  IO.eprintln "usage: decode HEX | replay [--settle-ms MILLISECONDS] FILE"
  return 2

/-- Does what the arguments ask for. -/
def dispatch (args : List String) : IO UInt32 :=
  match args.filter (· ≠ "--") with
  | ["decode", hex] => finish (decode hex)
  | ["replay", file] => replayFile file 500
  | ["replay", "--settle-ms", quiet, file] | ["replay", file, "--settle-ms", quiet] =>
    match quiet.toNat? with
    | some n => replayFile file n
    | none => usage
  | _ => usage

end CardChannels.CommandLine

def main (args : List String) : IO UInt32 := CardChannels.CommandLine.dispatch args
