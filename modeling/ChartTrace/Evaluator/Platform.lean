namespace ChartTrace

/-!
# Platforms of the evaluator

The evaluator is built for some operating systems and processors.

* `Platform.detect?`: the platform of the names that a host goes by.
* `Platform.executableName`: the file name of the evaluator for a platform.
-/

/-- The operating systems there is an evaluator for. -/
inductive OperatingSystem where
  | linux
  | darwin
  | windows
deriving DecidableEq, Repr

/-- The processors there is an evaluator for. -/
inductive Architecture where
  | amd64
  | arm64
deriving DecidableEq, Repr

/-- A platform there is an evaluator for. -/
structure Platform where
  os : OperatingSystem
  arch : Architecture
deriving DecidableEq, Repr

/-- The operating system of a host name. -/
def OperatingSystem.ofHost? : String → Option OperatingSystem
  | "linux" => some .linux
  | "macos" => some .darwin
  | "windows" => some .windows
  | _ => none

/-- The processor of a host name. -/
def Architecture.ofHost? : String → Option Architecture
  | "x86_64" => some .amd64
  | "aarch64" => some .arm64
  | _ => none

/-- The name of an operating system in file names. -/
def OperatingSystem.name : OperatingSystem → String
  | .linux => "linux"
  | .darwin => "darwin"
  | .windows => "windows"

/-- The name of a processor in file names. -/
def Architecture.name : Architecture → String
  | .amd64 => "amd64"
  | .arm64 => "arm64"

namespace Platform

/-- The platform of a host, if there is an evaluator for it. -/
def detect? (os arch : String) : Option Platform := do
  return ⟨← OperatingSystem.ofHost? os, ← Architecture.ofHost? arch⟩

/-- The name of a platform. -/
def name (p : Platform) : String := p.os.name ++ "-" ++ p.arch.name

/-- The file name of the evaluator with a given base name. -/
def executableName (p : Platform) (base : String) : String :=
  base ++ "-" ++ p.name ++ if p.os = .windows then ".exe" else ""

/-- The platform that this program is built for. -/
def host : Platform := ⟨.linux, .amd64⟩

end Platform

end ChartTrace
