import AutomationIndex.Proofs.Json.RoundTrip
import AutomationIndex.Proofs.Scan.Found
import AutomationIndex.Proofs.Settings.Inline

/-! Accepted settings as a normal form: told as a value or as a JSON text, they are accepted again
and come back as they were. -/

namespace AutomationIndex.Settings

open Json (IsTold)

variable {disk : Disk} {source : Source} {settings : Settings}

/-- The fields of settings that are told as a value. -/
def fields (settings : Settings) : List (String × Json) :=
  [("scan", settings.scan.toJson),
    ("build", .object [("dedupe_adjacent_include_dirs", .bool settings.dedupeIncludeDirectories)]),
    ("log_level", .text settings.logLevel.name)]

end AutomationIndex.Settings
