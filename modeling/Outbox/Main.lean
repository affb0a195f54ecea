import Outbox.Demo
/-!
# `Outbox.Main` — the command line

Reads the settings from the environment, runs the demonstration and writes what it says.
-/

/-- Runs the demonstration. -/
def main : IO UInt32 := do
  let mut settings := []
  for key in Outbox.Config.keys do
    settings := (key, ← IO.getEnv key) :: settings
  let found := settings
  let report := Outbox.Demo.run fun key => (found.lookup key).join
  (← IO.getStdout).putStr report.stdout
  (← IO.getStderr).putStr report.stderr
  return report.exit.toUInt32
