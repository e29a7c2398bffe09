import ShortLinks.Logging.Output
import ShortLinks.Service
import ShortLinks.Settings.Sample
import ShortLinks.Settings.VariablesFile

/-!
One launch of the program: from its arguments, its environment and the disk to what it prints, its
exit code, and the service that it leaves running. The word `generate-config` prints a sample of
the settings file and does nothing else; any other launch loads the settings, starts the log, and
then the service. The first of these that fails ends the launch.
-/

namespace ShortLinks

/-- How a launch turned out. -/
structure Launch where
  exitCode : Nat
  /-- What was printed, apart from log lines. -/
  output : String := ""
  /-- What was printed about failures. -/
  complaint : String := ""
  disk : Disk
  /-- The service, if it is running. -/
  service : Option (Service (Backend × Disk)) := none

namespace Launch

/-- The argument that asks for a sample of the settings file. -/
def sampleArgument : String := "generate-config"

/-- A launch that a fault ended, with its two-line report. -/
def reported (fault : Fault) (disk : Disk) : Launch :=
  { exitCode := 1, complaint := fault.report ++ "\n", disk }

/-- A launch that a fault of the log ended, with its one-line form. -/
def stopped (fault : Fault) (disk : Disk) : Launch :=
  { exitCode := 1, complaint := s!"Error: {fault.simple}\n", disk }

/-- A launch of the service with the settings of a disk and an environment. -/
def serve (around : Surroundings) (environment : Variables) (date : String) (disk : Disk) :
    Launch :=
  match Settings.load Settings.defaultPath environment disk with
  | .error failure => reported failure.fault disk
  | .ok settings =>
      match Logging.start false settings.logging date disk with
      | (.error fault, disk) => stopped fault disk
      | (.ok _, disk) =>
          match Service.ofSettings around settings disk with
          | .error fault => reported fault disk
          | .ok service => { exitCode := 0, disk := service.keeper.2, service := some service }

/-- The launch with some arguments in an environment, to which the file of variables is added
first. -/
def run (around : Surroundings) (arguments : List String) (environment : Variables)
    (date : String) (disk : Disk) : Launch :=
  if arguments.head? = some sampleArgument then
    { exitCode := 0, output := Settings.sample ++ "\n", disk }
  else serve around (VariablesFile.addTo environment disk) date disk

end Launch

end ShortLinks
