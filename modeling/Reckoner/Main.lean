import Reckoner.CommandLine.Program

/-!
The program: words of a command line go in, and what a `Result` says is printed, logged
and written. A session reads one line at a time.

* §1 `environment` — the settings outside of the program.
* §2 `emit` — printing, logging and writing.
* §3 `talk` — a session.
* §4 `main`.
-/

namespace Reckoner.CommandLine

/-! ## §1 The environment -/

/-- The settings that the environment gives. -/
def environment : IO (List (String × String)) := do
  let found ← Settings.names.mapM fun name => do
    let key := Settings.environmentName name
    return (← IO.getEnv key).map fun text => (key, text)
  return found.filterMap id

/-! ## §2 Output -/

/-- Writes log lines to the console and, if there is one, to the log file. -/
def emitRecords (p : Program) (logFile : Option String) (records : List Logging.Record) :
    IO Unit := do
  for r in records do
    for line in p.loggers.written .console r do
      IO.eprintln line
    if let some path := logFile then
      let handle ← IO.FS.Handle.mk path .append
      for line in p.loggers.written .file r do
        handle.putStrLn line

/-- Prints, logs and writes what a result says. -/
def emit (p : Program) (logFile directory : Option String) (r : Result) : IO UInt32 := do
  for text in r.output do
    IO.print text
  emitRecords p logFile r.records
  if let some message := r.usageError then
    IO.eprintln ("typemaths: error: " ++ message)
  if let some path := directory then
    unless r.files.isEmpty do
      IO.FS.createDirAll path
      for (file, text) in r.files do
        IO.FS.writeFile ((Path.ofText path).below file).text text
  return UInt32.ofNat r.exit

/-! ## §3 Sessions -/

/-- A session from a table on, until it ends. -/
partial def talk (p : Program) (o : Options) (table : Table) : IO UInt32 := do
  IO.print ">>> "
  (← IO.getStdout).flush
  let line ← (← IO.getStdin).getLine
  if line.isEmpty then
    IO.println ""
    return 0
  let t := turn p.settings table line p.stack
  IO.print (t.reply.text o.format)
  emitRecords p o.logFileName? (turnRecords p.settings table line p.stack)
  if t.continues then talk p o t.table else return 0

end Reckoner.CommandLine

/-! ## §4 The program -/

open Reckoner CommandLine in
/-- Runs a command line; its exit code is that of the result. -/
def main (arguments : List String) : IO UInt32 := do
  match Settings.load (← environment) with
  | .error e =>
      IO.eprintln e.message
      return 1
  | .ok settings =>
      let p : Program := { settings }
      match p.start (fun _ => .ok ()) arguments with
      | .error r => emit p none none r
      | .ok (p, o) =>
          if let some path := o.logFileName? then
            discard (IO.FS.Handle.mk path .append)
          match p.task? (fun _ => .ok ()) o with
          | some r => emit p o.logFileName? o.documentation r
          | none => talk p o .empty
