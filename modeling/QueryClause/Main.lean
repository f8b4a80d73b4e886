import QueryClause.CommandLine.Run

/-!
# The program
-/

namespace QueryClause

/-- The files of the machine. -/
def machineFiles : FileAccess IO where
  readText? path := do
    try return some (← IO.FS.readFile path)
    catch _ => return none
  isFile path := do
    try
      let _ ← IO.FS.readBinFile path
      return true
    catch _ => return false

/-- A random identifier of version 4. -/
def randomGuid : IO Guid := do
  let bits ← IO.rand 0 (twoTo 128 - 1)
  let n : BitVec 128 := BitVec.ofNat 128 bits
  -- the version and the variant have bits of their own
  let cleared := n &&& ~~~(0xF000C000000000000000#128)
  return ⟨cleared ||| 0x40008000000000000000#128⟩

end QueryClause

open QueryClause in
/-- Run the command line. -/
def main (args : List String) : IO UInt32 := do
  let vars ← ["SQLEXPR_CONFIG", "XDG_CONFIG_HOME", "HOME"].mapM fun name =>
    return (name, ← IO.getEnv name)
  let outcome ←
    runProgram machineFiles (fun name => (vars.lookup name).join) (.none .nil) args randomGuid
  IO.print outcome.stdout
  IO.eprint outcome.stderr
  return UInt32.ofNat outcome.exitCode
